import GraphBatch.Runner
import GraphBatch.Search

namespace GraphBatch

inductive Behaviour
  | succeed
  | exitWith (code : Int)
  | spawnError
  /-- Exits with 1 if some argument, shown as text, contains the needle. -/
  | failWhenArgContains (needle : String)
  deriving DecidableEq

namespace Behaviour

def exiting (code : Int) : Output where
  exitCode := some code
  stdout := ""
  stderr := if code = 0 then "" else "mock exit " ++ toString code

def mentions (needle : String) (arg : Bytes) : Bool :=
  occurs needle.toList (Utf8.lossy arg).toList

def answer (behaviour : Behaviour) (call : Call) : Answer :=
  match behaviour with
  | .succeed => .ok (exiting 0)
  | .exitWith code => .ok (exiting code)
  | .spawnError => .error ⟨call.program, .described "mock: program not found"⟩
  | .failWhenArgContains needle =>
    .ok (exiting (if call.args.any (mentions needle) then 1 else 0))

def runner (behaviour : Behaviour) : Runner (List Call) :=
  .recording behaviour.answer

end Behaviour

/-- A handle. It has a behaviour of its own and refers to the record it writes to, which other
handles may refer to as well. -/
structure Mock where
  behaviour : Behaviour
  record : Nat
  deriving DecidableEq

/-- Handles, numbered in the order they were made, and records of calls. -/
structure Mocks where
  records : List (List Call)
  handles : List Mock
  refers : ∀ mock ∈ handles, mock.record < records.length

namespace Mocks

/-- A first handle, with an empty record beside those that are not of this family. -/
def new (behaviour : Behaviour) (others : List (List Call) := []) : Mocks where
  records := others ++ [[]]
  handles := [⟨behaviour, others.length⟩]
  refers := by simp

/-- What is recorded where the handle writes. A handle that was never made has no record. -/
def calls? (m : Mocks) (handle : Nat) : Option (List Call) :=
  m.handles[handle]?.bind fun mock => m.records[mock.record]?

def callCount? (m : Mocks) (handle : Nat) : Option Nat :=
  (m.calls? handle).map List.length

def write (m : Mocks) (record : Nat) (call : Call) : Mocks :=
  { m with
    records := m.records.modify record (· ++ [call])
    refers := by simpa using m.refers }

/-- A call is recorded before it is answered, so one that cannot start is recorded too. A handle
that was never made gives no answer. -/
def run (m : Mocks) (handle : Nat) (call : Call) : Option Answer × Mocks :=
  match m.handles[handle]? with
  | none => (none, m)
  | some mock => (some (mock.behaviour.answer call), m.write mock.record call)

/-- A new handle, the last one, that behaves as the given one does now and writes where it does. -/
def clone (m : Mocks) (handle : Nat) : Mocks :=
  { m with
    handles := m.handles ++ m.handles[handle]?.toList
    refers := by
      intro mock hm
      rcases List.mem_append.mp hm with hm | hm
      · exact m.refers mock hm
      · exact m.refers mock (List.mem_of_getElem? (Option.mem_toList.mp hm)) }

def setBehaviour (m : Mocks) (handle : Nat) (behaviour : Behaviour) : Mocks :=
  { m with
    handles := m.handles.modify handle ({ · with behaviour })
    refers := by
      intro mock hm
      obtain ⟨i, hi⟩ := List.mem_iff_getElem?.mp hm
      rw [List.getElem?_modify, Option.map_eq_map, Option.map_eq_some_iff] at hi
      obtain ⟨old, ho, rfl⟩ := hi
      have bound := m.refers old (List.mem_of_getElem? ho)
      split
      · exact bound
      · exact bound }

end Mocks

end GraphBatch
