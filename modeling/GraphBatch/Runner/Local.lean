import GraphBatch.FileTree
import GraphBatch.Runner

namespace GraphBatch

structure Machine where
  tree : FileTree := .new
  installed : List (Bytes × Program) := []

namespace Performance

def bracketed (arg : Bytes) : Bytes :=
  Utf8.encode "[" ++ arg ++ Utf8.encode "]\n"

def output (p : Performance) (args : List Bytes) : Output where
  exitCode := match p.ending with
    | .exit code => some (code % 256)
    | .signal => none
  stdout := Utf8.lossy ((if p.printArgs then args.flatMap bracketed else []) ++ p.stdout)
  stderr := Utf8.lossy p.stderr

end Performance

/-- The first case whose ending fits the last argument. -/
def Program.performance (program : Program) (args : List Bytes) : Performance :=
  match program.cases.find? (fun (ending, _) => ending.isSuffixOf (args.getLast?.getD [])) with
  | some (_, performance) => performance
  | none => program.otherwise

namespace Machine

/-- On the search path the dots name directories, which cannot be started. -/
def lookUp (m : Machine) (name : Bytes) : Except SystemError Program :=
  if name = [] then .error .notFound
  else if name = Path.here ∨ name = Path.parent then .error .accessDenied
  else if name.length > FileTree.maxName then .error .nameTooLong
  else match m.installed.lookup name with
    | some program => .ok program
    | none => .error .notFound

def program (m : Machine) (name : Bytes) : Except SystemError Program :=
  if !name.contains Path.slash then m.lookUp name
  else match m.tree.locate name with
    | .error e => .error e
    | .ok place =>
      match m.tree.node? place with
      | some (.program program) => .ok program
      | some _ => .error .accessDenied
      | none => .error .notFound

/-- No program can be handed a NUL byte. -/
def start (m : Machine) (call : Call) : Except Fault Program :=
  let name := Utf8.encode call.program
  if name.contains 0 || call.args.any (fun arg => arg.contains 0) then
    .error (.described "nul byte found in provided data")
  else (m.program name).mapError .system

/-- The state is the argument lists of the programs that were started. -/
def runner (m : Machine) : Runner (List (List Bytes)) :=
  fun started call =>
    match m.start call with
    | .error fault => (.error ⟨call.program, fault⟩, started)
    | .ok program =>
      (.ok ((program.performance call.args).output call.args), started ++ [call.args])

end Machine

end GraphBatch
