import GraphBatch.CommandLine.Arguments
import GraphBatch.CommandLine.Help
import GraphBatch.Log
import GraphBatch.Report.Published

namespace GraphBatch.CommandLine

/-- A pass as it ended, with the lines it logged. -/
structure Pass where
  log : List String
  result : Except ListError Report

inductive Response
  | refused (error : UsageError)
  | told (text : String)
  | passed (options : Options) (pass : Pass)

namespace Pass

/-- A cause can be of several lines; they stay below one another. -/
def cause (n : Nat) (text : String) : String :=
  "    " ++ toString n ++ ": " ++ Text.hang 7 text

def listError (e : ListError) : List String :=
  ["Error: batch render aborted", "", "Caused by:", cause 0 e.message, cause 1 e.fault.message]

def errorLines (options : Options) (pass : Pass) : List String :=
  pass.log ++ match pass.result with
    | .error e => listError e
    | .ok report => if options.printErrors then report.failureLines else []

def output (options : Options) (pass : Pass) : String :=
  match pass.result with
  | .error _ => ""
  | .ok report => if options.json then report.pretty ++ "\n" else ""

end Pass

def unlines (lines : List String) : String :=
  String.join (lines.map (· ++ "\n"))

namespace Response

/-- 1 stands for a directory that could not be listed, 2 for arguments at fault. -/
def exitCode : Response → Nat
  | .refused _ => 2
  | .told _ => 0
  | .passed _ pass => match pass.result with
    | .error _ => 1
    | .ok _ => 0

def stdout : Response → String
  | .refused _ => ""
  | .told text => text
  | .passed options pass => pass.output options

def stderr : Response → String
  | .refused e => e.message ++ "\n"
  | .told _ => ""
  | .passed options pass => unlines (pass.errorLines options)

end Response

variable {σ : Type}

def pass (options : Options) (env : Environment) (list : Path → Listing) (run : Runner σ)
    (s : σ) : Pass × σ :=
  let config := options.config
  let (steps, s) := Batch.steps config run s (list config.directory)
  let filter := Log.Filter.ofVariable env.log options.verbose
  (⟨Log.lines filter config steps, steps.map (Batch.report config)⟩, s)

def inform (env : Environment) (inquiry : Inquiry) (inFull : Bool) : String :=
  match inquiry with
  | .help => help env inFull
  | .version => version

def respond (args : List Bytes) (env : Environment) (list : Path → Listing) (run : Runner σ)
    (s : σ) : Response × σ :=
  match parse args env with
  | .error (.usage e) => (.refused e, s)
  | .error (.asked inquiry inFull) => (.told (inform env inquiry inFull), s)
  | .ok options =>
    let (pass, s) := pass options env list run s
    (.passed options pass, s)

end GraphBatch.CommandLine
