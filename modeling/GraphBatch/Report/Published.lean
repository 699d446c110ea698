import GraphBatch.Json.Reader
import GraphBatch.Report

namespace GraphBatch

namespace Published

structure Conversion where
  input : String
  output : String
  outcome : Outcome
  deriving DecidableEq

structure Report where
  directory : String
  conversions : List Conversion
  skipped : Nat
  deriving DecidableEq

end Published

def Conversion.publish (c : Conversion) : Published.Conversion :=
  ⟨Utf8.lossy c.input, Utf8.lossy c.output, c.outcome⟩

def Report.publish (r : Report) : Published.Report :=
  ⟨Utf8.lossy r.directory, r.conversions.map Conversion.publish, r.skipped⟩

namespace Outcome

def exitCodeJson : Option Int → Json
  | none => .null
  | some code => .number code

def exitCodeOfJson? : Json → Option (Option Int)
  | .null => some none
  | .number code => some (some code)
  | _ => none

/-- The status comes first and says which fields follow. -/
def toJson : Outcome → Json
  | .succeeded => .object [("status", .string "succeeded")]
  | .failed exitCode stderr =>
    .object [("status", .string "failed"), ("exit_code", exitCodeJson exitCode),
      ("stderr", .string stderr)]
  | .spawnFailed message =>
    .object [("status", .string "spawn_failed"), ("message", .string message)]

def ofJson? (j : Json) : Option Outcome := do
  let status ← (← j.field? "status").string?
  if status = "succeeded" then some .succeeded
  else if status = "failed" then do
    let exitCode ← exitCodeOfJson? (← j.field? "exit_code")
    let stderr ← (← j.field? "stderr").string?
    some (.failed exitCode stderr)
  else if status = "spawn_failed" then do
    let message ← (← j.field? "message").string?
    some (.spawnFailed message)
  else none

end Outcome

namespace Published

def Conversion.toJson (c : Conversion) : Json :=
  .object [("input", .string c.input), ("output", .string c.output),
    ("outcome", c.outcome.toJson)]

def Conversion.ofJson? (j : Json) : Option Conversion := do
  let input ← (← j.field? "input").string?
  let output ← (← j.field? "output").string?
  let outcome ← Outcome.ofJson? (← j.field? "outcome")
  some ⟨input, output, outcome⟩

def conversionsOfJson? : List Json → Option (List Conversion)
  | [] => some []
  | j :: rest => do
    let conversion ← Conversion.ofJson? j
    let more ← conversionsOfJson? rest
    some (conversion :: more)

def Report.toJson (r : Report) : Json :=
  .object [("directory", .string r.directory),
    ("conversions", .array (r.conversions.map Conversion.toJson)),
    ("skipped", .number r.skipped)]

def Report.ofJson? (j : Json) : Option Report := do
  let directory ← (← j.field? "directory").string?
  let conversions ← conversionsOfJson? (← (← j.field? "conversions").items?)
  let skipped ← (← j.field? "skipped").nat?
  some ⟨directory, conversions, skipped⟩

end Published

def Report.compact (r : Report) : String :=
  r.publish.toJson.compact

def Report.pretty (r : Report) : String :=
  r.publish.toJson.pretty

end GraphBatch
