import GraphBatch.Fault
import GraphBatch.Path

namespace GraphBatch

structure Call where
  program : String
  args : List Bytes
  deriving DecidableEq

structure Output where
  /-- `none` if a signal ended the process. -/
  exitCode : Option Int
  stdout : String
  stderr : String
  deriving DecidableEq

def Output.success (o : Output) : Bool :=
  o.exitCode == some 0

structure SpawnError where
  program : String
  fault : Fault
  deriving DecidableEq

def SpawnError.message (e : SpawnError) : String :=
  "failed to spawn '" ++ e.program ++ "': " ++ e.fault.message

/-- A process that starts and fails is an output, not an error. -/
abbrev Answer := Except SpawnError Output

abbrev Runner (σ : Type) := σ → Call → Answer × σ

namespace Runner

/-- A runner whose answer is settled by the call alone; its state is the calls it was given. -/
def recording (answer : Call → Answer) : Runner (List Call) :=
  fun calls call => (answer call, calls ++ [call])

/-- The same runner, with every call and its answer kept. -/
def traced {σ : Type} (run : Runner σ) : Runner (σ × List (Call × Answer)) :=
  fun (s, trace) call =>
    let (answer, s) := run s call
    (answer, s, trace ++ [(call, answer)])

end Runner

/-- The rendering program and the output format asked of it. -/
structure Tool where
  program : String := "dot"
  format : String := "svgz"
  deriving DecidableEq

def Tool.args (tool : Tool) (input output : Path) : List Bytes :=
  [Utf8.encode ("-T" ++ tool.format), Utf8.encode "-o", output, input]

def Tool.call (tool : Tool) (input output : Path) : Call :=
  ⟨tool.program, tool.args input output⟩

end GraphBatch
