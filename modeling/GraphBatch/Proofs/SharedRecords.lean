import GraphBatch.Runner.Mock

namespace GraphBatch

namespace Mocks

/-- What can be done with a handle. -/
inductive Action
  | run (handle : Nat) (call : Call)
  | clone (handle : Nat)
  | setBehaviour (handle : Nat) (behaviour : Behaviour)
  | look (handle : Nat)
  deriving DecidableEq

namespace Action

def handle : Action → Nat
  | run handle _ => handle
  | clone handle => handle
  | setBehaviour handle _ => handle
  | look handle => handle

def call? : Action → Option Call
  | run _ call => some call
  | _ => none

/-- How many handles are made by it. -/
def makes : Action → Nat
  | clone _ => 1
  | _ => 0

/-- The behaviours of the handles there are, after one more action. Only telling a handle changes
one, and a clone has the one of the handle it was made from. -/
def behaviours (told : List Behaviour) : Action → List Behaviour
  | run _ _ => told
  | clone handle => told ++ told[handle]?.toList
  | setBehaviour handle behaviour => told.set handle behaviour
  | look _ => told

end Action

/-- Looking at a record changes nothing. -/
def act (m : Mocks) : Action → Mocks
  | .run handle call => (m.run handle call).2
  | .clone handle => m.clone handle
  | .setBehaviour handle behaviour => m.setBehaviour handle behaviour
  | .look _ => m

def after (m : Mocks) (actions : List Action) : Mocks :=
  actions.foldl act m

def behavioursAfter (first : Behaviour) (actions : List Action) : List Behaviour :=
  actions.foldl Action.behaviours [first]

/-- Every action is done with a handle that is already made, of which there are so many at first. -/
def Possible : Nat → List Action → Prop
  | _, [] => True
  | made, action :: rest => action.handle < made ∧ Possible (made + action.makes) rest

/-- The handles of one family: each has its own behaviour, and all refer to the record that stands
behind those of others. -/
def family (others : List (List Call)) (log : List Call) (told : List Behaviour) : Mocks where
  records := others ++ [log]
  handles := told.map fun behaviour => ⟨behaviour, others.length⟩
  refers := by
    intro mock hm
    obtain ⟨behaviour, _, rfl⟩ := List.mem_map.mp hm
    simp

variable {others : List (List Call)} {log : List Call} {told : List Behaviour} {handle : Nat}

@[simp]
theorem length_handles_family : (family others log told).handles.length = told.length :=
  List.length_map _

theorem calls?_family (h : handle < told.length) :
    (family others log told).calls? handle = some log := by
  simp [calls?, family, h]

theorem run_family (h : handle < told.length) (call : Call) :
    (family others log told).run handle call =
      (some (told[handle].answer call), family others (log ++ [call]) told) := by
  simp [run, write, family, h, List.modify_eq_take_drop]

theorem clone_family (handle : Nat) :
    (family others log told).clone handle = family others log (told ++ told[handle]?.toList) := by
  cases h : told[handle]? <;> simp [clone, family, h]

theorem setBehaviour_family (handle : Nat) (behaviour : Behaviour) :
    (family others log told).setBehaviour handle behaviour =
      family others log (told.set handle behaviour) := by
  simp only [setBehaviour, family, mk.injEq, true_and]
  apply List.ext_getElem?
  intro i
  simp only [List.getElem?_modify, List.getElem?_map, List.getElem?_set]
  by_cases hi : handle = i
  · subst i
    by_cases made : handle < told.length <;> simp [made]
  · simp [hi]

/-- Of what is done with a handle, only a run is recorded, and only where all of them write. -/
theorem act_family {action : Action} (made : action.handle < told.length) :
    (family others log told).act action =
      family others (log ++ action.call?.toList) (action.behaviours told) := by
  cases action with
  | run handle call =>
    have h : handle < told.length := made
    rw [act, run_family h]
    rfl
  | clone handle =>
    rw [act, clone_family]
    simp [Action.call?, Action.behaviours]
  | setBehaviour handle behaviour =>
    rw [act, setBehaviour_family]
    simp [Action.call?, Action.behaviours]
  | look handle => simp [act, Action.call?, Action.behaviours]

theorem Action.length_behaviours {action : Action} (made : action.handle < told.length) :
    (action.behaviours told).length = told.length + action.makes := by
  cases action with
  | clone handle =>
    have h : handle < told.length := made
    simp [behaviours, makes, h]
  | _ => simp [behaviours, makes]

theorem after_family {actions : List Action} (possible : Possible told.length actions) :
    (family others log told).after actions =
      family others (log ++ actions.filterMap Action.call?)
        (actions.foldl Action.behaviours told) := by
  induction actions generalizing log told with
  | nil => simp [after]
  | cons action rest ih =>
    obtain ⟨made, possible⟩ := possible
    -- The rest is done with the family as this action leaves it, so with one more handle or none.
    rw [← Action.length_behaviours made] at possible
    rw [after, List.foldl_cons, act_family made]
    refine (ih possible).trans ?_
    cases h : action.call? <;> simp [h]

/-- A family as it stands is told by the calls made and by what its handles were told. -/
theorem after_new (first : Behaviour) (others : List (List Call)) {actions : List Action}
    (possible : Possible 1 actions) :
    (new first others).after actions =
      family others (actions.filterMap Action.call?) (behavioursAfter first actions) := by
  have start : Possible [first].length actions := possible
  exact after_family start

theorem Possible.before {made : Nat} {before later : List Action}
    (possible : Possible made (before ++ later)) : Possible made before := by
  induction before generalizing made with
  | nil => trivial
  | cons action rest ih => exact ⟨possible.1, ih possible.2⟩

/-- Handles cloned from one share its record for good. At every point each of them shows all calls
made so far through any of them, in order, whatever was answered; what one shows is the beginning of
what any of them shows later; and each answers a call by the behaviour it has, which nothing changes
but to be told another. Records of others stay as they are. -/
theorem handles_share_calls (first : Behaviour) (others : List (List Call))
    {before later : List Action} (possible : Possible 1 (before ++ later)) :
    ∃ m m', (new first others).after before = m ∧ (new first others).after (before ++ later) = m' ∧
      (∀ handle < m.handles.length,
        m.calls? handle = some (before.filterMap Action.call?) ∧
        m.callCount? handle = some (before.filterMap Action.call?).length ∧
        ∃ behaviour, (behavioursAfter first before)[handle]? = some behaviour ∧
          ∀ call, (m.run handle call).1 = some (behaviour.answer call)) ∧
      (∀ handle < m.handles.length, ∀ handle' < m'.handles.length, ∃ earlier last,
        m.calls? handle = some earlier ∧ m'.calls? handle' = some last ∧ earlier <+: last) ∧
      ∀ i < others.length, m.records[i]? = others[i]? := by
  refine ⟨_, _, after_new first others possible.before, after_new first others possible,
    ?_, ?_, ?_⟩
  · intro handle made
    rw [length_handles_family] at made
    refine ⟨calls?_family made, ?_, _, List.getElem?_eq_getElem made, ?_⟩
    · rw [callCount?, calls?_family made, Option.map_some]
    · intro call
      rw [run_family made]
  · intro handle made handle' made'
    rw [length_handles_family] at made made'
    refine ⟨_, _, calls?_family made, calls?_family made', ?_⟩
    rw [List.filterMap_append]
    exact List.prefix_append _ _
  · intro i hi
    exact List.getElem?_append_left hi

def refusedCall : Call := ⟨"dot", [Utf8.encode "a.dot"]⟩

def answeredCall : Call := ⟨"neato", [Utf8.encode "b.dot"]⟩

/-- The first handle cannot start anything; its clone is told to succeed, and is cloned then. -/
def cloneAndTell : List Action :=
  [.run 0 refusedCall, .clone 0, .setBehaviour 1 .succeed, .run 1 answeredCall, .look 0, .clone 1]

/-- The refused call stands in the record of all three handles, and the third succeeds. -/
theorem handles_share_calls_after_refusal :
    Possible 1 (cloneAndTell ++ [.run 2 answeredCall]) ∧
    ∃ m m', (new .spawnError [[answeredCall]]).after cloneAndTell = m ∧
      (new .spawnError [[answeredCall]]).after (cloneAndTell ++ [.run 2 answeredCall]) = m' ∧
      m.handles.length = 3 ∧
      (∀ handle < 3, m.calls? handle = some [refusedCall, answeredCall]) ∧
      (m.run 0 answeredCall).1 = some (Behaviour.spawnError.answer answeredCall) ∧
      (m.run 2 answeredCall).1 = some (Behaviour.succeed.answer answeredCall) ∧
      ∃ earlier last, m.calls? 0 = some earlier ∧ m'.calls? 2 = some last ∧ earlier <+: last := by
  have possible : Possible 1 (cloneAndTell ++ [.run 2 answeredCall]) := by
    simp [cloneAndTell, Possible, Action.handle, Action.makes]
  obtain ⟨m, m', rfl, rfl, shared, extended, _⟩ :=
    handles_share_calls .spawnError [[answeredCall]] possible
  refine ⟨possible, _, _, rfl, rfl, rfl, ?_, ?_, ?_, ?_⟩
  · intro handle made
    exact (shared handle made).1
  · obtain ⟨_, _, behaviour, told, answers⟩ := shared 0 (by decide)
    obtain rfl : Behaviour.spawnError = behaviour := Option.some.inj told
    exact answers answeredCall
  · obtain ⟨_, _, behaviour, told, answers⟩ := shared 2 (by decide)
    obtain rfl : Behaviour.succeed = behaviour := Option.some.inj told
    exact answers answeredCall
  · exact extended 0 (by decide) 2 (by decide)

end Mocks

end GraphBatch
