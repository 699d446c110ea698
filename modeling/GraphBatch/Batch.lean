import GraphBatch.Listing
import GraphBatch.Naming
import GraphBatch.Report

namespace GraphBatch

structure Config where
  directory : Path := Path.here
  inputSuffix : String := ".dot"
  outputSuffix : String := ".svg"
  policy : Policy := .trailing
  tool : Tool := {}
  /-- Off by default: a directory named like a candidate is handed to the tool as any file is. -/
  skipDirectories : Bool := false

namespace Config

/-- Directories are compared as paths, all else as it is written. -/
def same (a b : Config) : Bool :=
  Path.same a.directory b.directory && a.inputSuffix == b.inputSuffix &&
    a.outputSuffix == b.outputSuffix && a.policy == b.policy && a.tool == b.tool &&
    a.skipDirectories == b.skipDirectories

def outputName (config : Config) (name : Bytes) : Option Bytes :=
  GraphBatch.outputName config.policy (Utf8.encode config.inputSuffix)
    (Utf8.encode config.outputSuffix) name

/-- The type of an entry is only looked at when it can change the result. -/
def leavesOut (config : Config) (entry : Entry) : Bool :=
  config.skipDirectories && entry.isDirectory

end Config

structure ListError where
  directory : Path
  fault : Fault
  deriving DecidableEq

def ListError.message (e : ListError) : String :=
  "cannot list directory '" ++ Utf8.lossy e.directory ++ "': " ++ e.fault.message

inductive Step
  | leftOut (directory : Bytes)
  | notCandidate (name : Bytes)
  | converted (name output : Bytes) (call : Call) (conversion : Conversion)

def Step.conversion? : Step → Option Conversion
  | .converted _ _ _ conversion => some conversion
  | _ => none

namespace Batch

variable {σ : Type}

def visit (config : Config) (run : Runner σ) (s : σ) (entry : Entry) : Step × σ :=
  if config.leavesOut entry then (.leftOut entry.name, s)
  else match config.outputName entry.name with
    | none => (.notCandidate entry.name, s)
    | some output =>
      let input := Path.join config.directory entry.name
      let target := Path.join config.directory output
      let call := config.tool.call input target
      let (answer, s) := run s call
      (.converted entry.name output call ⟨input, target, .ofAnswer answer⟩, s)

def visitAll (config : Config) (run : Runner σ) (s : σ) : List Entry → List Step × σ
  | [] => ([], s)
  | entry :: rest =>
    let (step, s) := visit config run s entry
    let (steps, s) := visitAll config run s rest
    (step :: steps, s)

theorem length_visitAll (config : Config) (run : Runner σ) (s : σ) (entries : List Entry) :
    (visitAll config run s entries).1.length = entries.length := by
  induction entries generalizing s with
  | nil => rfl
  | cons entry rest ih => simp only [visitAll, List.length_cons, ih]

/-- Only a directory that cannot be listed is an error, and then the runner is never called. -/
def steps (config : Config) (run : Runner σ) (s : σ) (listing : Listing) :
    Except ListError (List Step) × σ :=
  match listing.entries with
  | .error fault => (.error ⟨config.directory, fault⟩, s)
  | .ok entries =>
    let (steps, s) := visitAll config run s entries
    (.ok steps, s)

def report (config : Config) (steps : List Step) : Report where
  directory := config.directory
  conversions := steps.filterMap Step.conversion?
  skipped := steps.countP (fun step => step.conversion?.isNone)

def run (config : Config) (runner : Runner σ) (s : σ) (listing : Listing) :
    Except ListError Report × σ :=
  let (result, s) := steps config runner s listing
  (result.map (report config), s)

/-- The calls a listing asks for, whatever is answered to them. -/
def plan (config : Config) (entries : List Entry) : List Call :=
  entries.filterMap fun entry =>
    if config.leavesOut entry then none
    else (config.outputName entry.name).map fun output =>
      config.tool.call (Path.join config.directory entry.name)
        (Path.join config.directory output)

end Batch

end GraphBatch
