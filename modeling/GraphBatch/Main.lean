import GraphBatch.CommandLine
import GraphBatch.Runner.Mock

namespace GraphBatch.Rehearsal

/-- A line is a name, and that of a directory ends with a slash. -/
def entry (line : Bytes) : Entry :=
  if line.getLast? = some Path.slash then ⟨line.dropLast, .directory⟩ else ⟨line, .other⟩

def listing (text : Bytes) : Listing :=
  .ok (((text.splitOn 0x0A).filter (· ≠ [])).map (fun line => .ok (entry line)))

/-- Every call is answered as if the tool had succeeded, and nothing is started. -/
def respond (args : List Bytes) (env : CommandLine.Environment) (input : Bytes) :
    CommandLine.Response :=
  (CommandLine.respond args env (fun _ => listing input) Behaviour.succeed.runner []).1

partial def readAll (input : IO.FS.Stream) (sofar : ByteArray) : IO ByteArray := do
  let chunk ← input.read 4096
  if chunk.isEmpty then return sofar else readAll input (sofar ++ chunk)

end GraphBatch.Rehearsal

def main (args : List String) : IO UInt32 := do
  let look (name : String) : IO (Option GraphBatch.Bytes) := do
    return (← IO.getEnv name).map GraphBatch.Utf8.encode
  let env : GraphBatch.CommandLine.Environment := {
    directory := ← look "DOT_RENDER_DIR"
    tool := ← look "DOT_RENDER_TOOL"
    format := ← look "DOT_RENDER_FORMAT"
    log := ← look "RUST_LOG" }
  let args := args.map GraphBatch.Utf8.encode
  let input ← match GraphBatch.CommandLine.parse args env with
    | .error _ => pure .empty
    | .ok _ => GraphBatch.Rehearsal.readAll (← IO.getStdin) .empty
  let response := GraphBatch.Rehearsal.respond args env input.toList
  IO.eprint response.stderr
  IO.print response.stdout
  return response.exitCode.toUInt32
