import GraphBatch.Runner
import GraphBatch.Text.Trim

namespace GraphBatch

inductive Outcome
  | succeeded
  /-- The tool ran and exited with another code than 0, or was ended by a signal. -/
  | failed (exitCode : Option Int) (stderr : String)
  | spawnFailed (message : String)
  deriving DecidableEq

namespace Outcome

def ofAnswer : Answer → Outcome
  | .error e => .spawnFailed e.message
  | .ok output =>
    if output.success then .succeeded else .failed output.exitCode output.stderr

def isSuccess : Outcome → Bool
  | .succeeded => true
  | .failed _ _ => false
  | .spawnFailed _ => false

end Outcome

structure Conversion where
  input : Path
  output : Path
  outcome : Outcome
  deriving DecidableEq

/-- What is printed for a conversion that did not succeed. The tool's own text may hold line
breaks; only its ends are trimmed. -/
def Conversion.failureLine? (c : Conversion) : Option String :=
  let input := Utf8.lossy c.input
  match c.outcome with
  | .succeeded => none
  | .failed (some code) stderr =>
    some (input ++ ": exit status " ++ toString code ++ ": " ++ Text.trim stderr)
  | .failed none stderr => some (input ++ ": terminated by signal: " ++ Text.trim stderr)
  | .spawnFailed message => some (input ++ ": " ++ message)

structure Report where
  directory : Path
  /-- One for each candidate, in the order of the listing. -/
  conversions : List Conversion
  /-- Entries that were not candidates. -/
  skipped : Nat
  deriving DecidableEq

namespace Report

def invoked (r : Report) : Nat :=
  r.conversions.length

def succeeded (r : Report) : Nat :=
  r.conversions.countP (fun c => c.outcome.isSuccess)

theorem succeeded_le_invoked (r : Report) : r.succeeded ≤ r.invoked :=
  List.countP_le_length

def failed (r : Report) : Nat :=
  r.invoked - r.succeeded

def failureLines (r : Report) : List String :=
  r.conversions.filterMap Conversion.failureLine?

end Report

end GraphBatch
