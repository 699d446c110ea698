import GraphBatch.Batch
import GraphBatch.Log.Filter
import GraphBatch.Text.Quoted
import GraphBatch.Text.Terminal

namespace GraphBatch

namespace Log

inductive Source
  | program
  | batch
  | runner
  deriving DecidableEq

def Source.target : Source → String
  | .program => "dot_render"
  | .batch => "renderer::batch"
  | .runner => "runner::system"

structure Event where
  level : Level
  source : Source
  message : String

/-- A message cannot steer the terminal that shows it. -/
def Event.text (e : Event) : String :=
  e.source.target ++ ": " ++ Terminal.disarm e.message

def Event.line? (filter : Filter) (e : Event) : Option String :=
  if filter.shows e.source.target e.level then some (e.level.name ++ " " ++ e.text) else none

def pass (directory : Path) : Span where
  target := Source.batch.target
  level := .info
  name := "run"
  field := "directory"
  value := Utf8.lossy directory

def Event.lineWithin? (filter : Filter) (span : Span) (e : Event) : Option String :=
  if filter.showsWithin span e.source.target e.level then
    some (e.level.name ++ " " ++ (if filter.names span then span.shown else "") ++ e.text)
  else none

end Log

open Log

def Outcome.shown : Outcome → String
  | .succeeded => "Succeeded"
  | .failed (some code) stderr =>
    "Failed \x7b exit_code: Some(" ++ toString code ++ "), stderr: " ++ Text.quote stderr ++ " \x7d"
  | .failed none stderr =>
    "Failed \x7b exit_code: None, stderr: " ++ Text.quote stderr ++ " \x7d"
  | .spawnFailed message => "SpawnFailed \x7b message: " ++ Text.quote message ++ " \x7d"

def Call.shown (call : Call) : String :=
  call.program ++ " [" ++ ", ".intercalate (call.args.map Text.quoteBytes) ++ "]"

def Step.events : Step → List Event
  | .leftOut directory => [⟨.debug, .batch, "skipping directory " ++ Text.quoteBytes directory⟩]
  | .notCandidate _ => []
  | .converted name output call conversion =>
    [⟨.debug, .runner, "spawning " ++ call.shown⟩,
      ⟨.debug, .batch, Text.quoteBytes name ++ " -> " ++ Text.quoteBytes output ++ ": " ++
        conversion.outcome.shown⟩]

def Report.event (r : Report) : Event :=
  ⟨.info, .batch, "rendered " ++ toString r.succeeded ++ " of " ++ toString r.invoked ++
    " candidates (" ++ toString r.skipped ++ " entries skipped)"⟩

namespace Log

def scanning (directory : Path) : Event :=
  ⟨.info, .program, "scanning " ++ Utf8.lossy directory⟩

/-- The lines of a pass; one over a directory that cannot be listed only says that it began. -/
def lines (filter : Filter) (config : Config) (steps : Except ListError (List Step)) :
    List String :=
  let before := [scanning config.directory].filterMap (Event.line? filter)
  match steps with
  | .error _ => before
  | .ok steps =>
    let events := steps.flatMap Step.events ++ [(Batch.report config steps).event]
    before ++ events.filterMap (Event.lineWithin? filter (pass config.directory))

end Log

end GraphBatch
