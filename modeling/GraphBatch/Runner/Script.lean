import GraphBatch.Runner

namespace GraphBatch

inductive Reply
  | refuse (fault : Fault)
  | finish (output : Output)

structure Rule where
  /-- Fits a last argument whose text ends so; every text ends with the empty one. -/
  inputEnding : String
  reply : Reply

def Rule.fits (rule : Rule) (call : Call) : Bool :=
  let last := (call.args.getLast?.map Utf8.lossy).getD ""
  rule.inputEnding.toList.isSuffixOf last.toList

abbrev Script := List Rule

namespace Script

/-- A call that no rule fits ends by a signal and prints nothing. -/
def answer (script : Script) (call : Call) : Answer :=
  match script.find? (fun rule => rule.fits call) with
  | none => .ok ⟨none, "", ""⟩
  | some ⟨_, .refuse fault⟩ => .error ⟨call.program, fault⟩
  | some ⟨_, .finish output⟩ => .ok output

def runner (script : Script) : Runner (List Call) :=
  .recording script.answer

end Script

end GraphBatch
