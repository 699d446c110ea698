import GraphBatch.Proofs.Cuts

namespace GraphBatch.Careful

variable {α : Type}

/-- What is asked although it has no answer. -/
inductive Misstep
  /-- A longer length taken from a shorter one. -/
  | belowZero
  /-- A cut behind the end. -/
  | behindEnd
  /-- Stretches of no width. -/
  | noWidth
  deriving DecidableEq

def minus (m n : Nat) : Except Misstep Nat :=
  if n ≤ m then .ok (m - n) else .error .belowZero

def upTo (list : List α) (i : Nat) : Except Misstep (List α) :=
  if i ≤ list.length then .ok (list.take i) else .error .behindEnd

def startingAt (list : List α) (i : Nat) : Except Misstep (List α) :=
  if i ≤ list.length then .ok (list.drop i) else .error .behindEnd

/-- All stretches of one width, from left to right; none if the list is shorter. -/
def stretches (width : Nat) (list : List α) : Except Misstep (List (List α)) :=
  if width = 0 then .error .noWidth
  else .ok ((List.range (list.length + 1 - width)).map fun i => (list.drop i).take width)

/-- A needle occurs where one of the stretches as wide as it is the needle. -/
theorem occursAt_iff_stretch {needle hay : List α} {i : Nat} :
    OccursAt needle hay i ↔
      i < hay.length + 1 - needle.length ∧ (hay.drop i).take needle.length = needle := by
  rw [OccursAt, List.prefix_iff_eq_take, eq_comm (a := needle)]
  refine and_congr_left fun _ => ?_
  omega

theorem upTo_cut (before needle after : List α) :
    upTo (before ++ needle ++ after) before.length = .ok before := by
  rw [upTo, if_pos (by simp), take_cut]

theorem startingAt_cut (before needle after : List α) :
    startingAt (before ++ needle ++ after) (before.length + needle.length) = .ok after := by
  rw [startingAt, if_pos (by simp), drop_cut]

variable [DecidableEq α] {suffix replacement name before after out : List α} {policy : Policy}

def search (needle hay : List α) : Except Misstep (Option Nat) := do
  let found ← stretches needle.length hay
  return found.findIdx? (· == needle)

/-- The first of the stretches that is the needle stands where the needle is found. -/
theorem search_eq {needle : List α} (nonempty : needle ≠ []) (hay : List α) :
    search needle hay = .ok (find needle hay) := by
  have wide : needle.length ≠ 0 := mt List.length_eq_zero_iff.mp nonempty
  rw [search, stretches, if_neg wide]
  refine congrArg Except.ok ?_
  cases h : find needle hay with
  | none =>
    rw [List.findIdx?_eq_none_iff]
    intro stretch hm
    obtain ⟨i, hi, rfl⟩ := List.mem_map.mp hm
    rw [beq_eq_false_iff_ne]
    intro same
    exact find_eq_none h i (occursAt_iff_stretch.mpr ⟨List.mem_range.mp hi, same⟩)
  | some i =>
    obtain ⟨fits, same⟩ := occursAt_iff_stretch.mp (find_occurs h)
    rw [List.findIdx?_eq_some_iff_getElem]
    refine ⟨by simpa using fits, by simpa using same, ?_⟩
    intro j earlier met
    have here : OccursAt needle hay j :=
      occursAt_iff_stretch.mpr ⟨Nat.lt_trans earlier fits, by simpa using met⟩
    exact absurd (find_le h here) (Nat.not_le.mpr earlier)

theorem search_nil (hay : List α) : search [] hay = .error .noWidth :=
  rfl

/-- What is written, what is left to search, and whether anything was replaced. -/
structure Scan (α : Type) where
  out : List α
  rest : List α
  replaced : Bool
  deriving DecidableEq

namespace Scan

/-- One round, or `none` if the scan is over. The next occurrence is looked for even if it is not
to be replaced. -/
def round (policy : Policy) (suffix replacement : List α) (scan : Scan α) :
    Except Misstep (Option (Scan α)) := do
  match ← search suffix scan.rest with
  | none => return none
  | some i =>
    if scan.replaced ∧ policy = .first then return none
    else
      let before ← upTo scan.rest i
      let after ← startingAt scan.rest (i + suffix.length)
      return some ⟨scan.out ++ before ++ replacement, after, true⟩

theorem round_over (nonempty : suffix ≠ []) {scan : Scan α}
    (absent : ∀ i, ¬ OccursAt suffix scan.rest i) :
    scan.round policy suffix replacement = .ok none := by
  rw [round, search_eq nonempty, find_of_none absent]
  rfl

theorem round_done (nonempty : suffix ≠ []) {scan : Scan α} (replaced : scan.replaced = true) :
    scan.round .first suffix replacement = .ok none := by
  rw [round, search_eq nonempty]
  cases find suffix scan.rest with
  | none => rfl
  | some i =>
    simp only [bind, Except.bind, replaced, and_self, if_true]
    rfl

theorem round_cut (nonempty : suffix ≠ []) (leftmost : Leftmost suffix before after)
    {replaced : Bool} (due : ¬ (replaced = true ∧ policy = .first)) :
    (Scan.mk out (before ++ suffix ++ after) replaced).round policy suffix replacement =
      .ok (some ⟨out ++ before ++ replacement, after, true⟩) := by
  rw [round, search_eq nonempty, find_cut leftmost]
  simp only [bind, Except.bind, if_neg due, upTo_cut, startingAt_cut]
  rfl

/-- No round missteps: the scan is over, or an occurrence is cut off what is left. -/
theorem round_cases (nonempty : suffix ≠ []) (scan : Scan α) :
    scan.round policy suffix replacement = .ok none ∨
    ∃ before after, scan.rest = before ++ suffix ++ after ∧
      scan.round policy suffix replacement =
        .ok (some ⟨scan.out ++ before ++ replacement, after, true⟩) := by
  obtain ⟨written, rest, replaced⟩ := scan
  cases found : find suffix rest with
  | none => exact .inl (round_over nonempty (find_eq_none found))
  | some i =>
    obtain ⟨before, after, rfl, _, leftmost⟩ := cut_of_find found
    by_cases done : replaced = true ∧ policy = .first
    · obtain ⟨rfl, rfl⟩ := done
      exact .inl (round_done nonempty rfl)
    · exact .inr ⟨before, after, rfl, round_cut nonempty leftmost done⟩

/-- A round that goes on leaves less to search. -/
theorem round_shorter {scan next : Scan α}
    (h : scan.round policy suffix replacement = .ok (some next)) :
    next.rest.length < scan.rest.length := by
  -- With an empty suffix the search is refused, so the round does not go on.
  have nonempty : suffix ≠ [] := by
    rintro rfl
    rw [round, search_nil] at h
    cases h
  have long : 0 < suffix.length := List.length_pos_iff.mpr nonempty
  rcases round_cases nonempty scan with ended | ⟨before, after, rest, went⟩
  · rw [ended] at h
    cases h
  · rw [went] at h
    cases h
    simp only [rest, List.length_append]
    omega

/-- Rounds until the scan is over. What is left then is written as it is. -/
def run (policy : Policy) (suffix replacement : List α) (scan : Scan α) :
    Except Misstep (List α) :=
  match _round : scan.round policy suffix replacement with
  | .error misstep => .error misstep
  | .ok none => .ok (scan.out ++ scan.rest)
  | .ok (some next) => next.run policy suffix replacement
termination_by scan.rest.length
decreasing_by exact round_shorter _round

theorem run_over {scan : Scan α} (h : scan.round policy suffix replacement = .ok none) :
    scan.run policy suffix replacement = .ok (scan.out ++ scan.rest) := by
  rw [run]
  split <;> simp_all

theorem run_next {scan next : Scan α} (h : scan.round policy suffix replacement = .ok (some next)) :
    scan.run policy suffix replacement = next.run policy suffix replacement := by
  rw [run]
  split <;> simp_all

theorem run_all (nonempty : suffix ≠ []) (h : ReplacedAll suffix replacement name out)
    (written : List α) (replaced : Bool) :
    (Scan.mk written name replaced).run .all suffix replacement = .ok (written ++ out) := by
  -- Each cut of the name is one round, so what was written before has to be any list.
  induction h generalizing written replaced with
  | rest none => exact run_over (round_over nonempty none)
  | cut leftmost _ ih =>
    rw [run_next (round_cut nonempty leftmost (by simp)), ih, List.append_assoc, List.append_assoc,
      List.append_assoc]

/-- The second round finds out that the first was the last. -/
theorem run_first (nonempty : suffix ≠ []) (leftmost : Leftmost suffix before after) :
    (Scan.mk [] (before ++ suffix ++ after) false).run .first suffix replacement =
      .ok (before ++ replacement ++ after) := by
  rw [run_next (round_cut nonempty leftmost (by simp)), run_over (round_done nonempty rfl)]
  rfl

end Scan

/-- The output name, with every step looked at. -/
def rename (policy : Policy) (suffix replacement name : List α) :
    Except Misstep (Option (List α)) := do
  if suffix.isEmpty || !suffix.isSuffixOf name then return none
  match policy with
  | .trailing =>
    let front ← upTo name (← minus name.length suffix.length)
    return some (front ++ replacement)
  | .first | .all => return some (← (Scan.mk [] name false).run policy suffix replacement)

theorem rename_of_not_candidate (h : isCandidate suffix name = false) :
    rename policy suffix replacement name = .ok none := by
  have refused : (suffix.isEmpty || !suffix.isSuffixOf name) = true := by
    rw [isCandidate] at h
    cases hs : suffix.isEmpty <;> simp_all
  unfold rename
  rw [if_pos refused]
  rfl

theorem rename_of_renamed (nonempty : suffix ≠ []) (ends : suffix <:+ name)
    (h : Renamed suffix replacement policy name out) :
    rename policy suffix replacement name = .ok (some out) := by
  have taken : ¬ (suffix.isEmpty || !suffix.isSuffixOf name) = true := by
    simp [nonempty, List.isSuffixOf_iff_suffix.mpr ends]
  unfold rename
  rw [if_neg taken]
  cases h with
  | trailing before =>
    have length : minus (before ++ suffix).length suffix.length = .ok before.length := by
      rw [minus, if_pos ends.length_le, List.length_append, Nat.add_sub_cancel]
    have front : upTo (before ++ suffix) before.length = .ok before := by
      have cut := upTo_cut before suffix []
      rwa [List.append_nil] at cut
    simp only [length, front, bind, Except.bind]
    rfl
  | first leftmost =>
    simp only [Scan.run_first nonempty leftmost]
    rfl
  | all replaced =>
    simp only [Scan.run_all nonempty replaced]
    rfl

theorem rename_eq (policy : Policy) (suffix replacement name : List α) :
    rename policy suffix replacement name = .ok (outputName policy suffix replacement name) := by
  cases h : outputName policy suffix replacement name with
  | none => exact rename_of_not_candidate (outputName_eq_none_iff.mp h)
  | some out =>
    obtain ⟨candidate, renamed⟩ := outputName_eq_some_iff.mp h
    obtain ⟨nonempty, ends⟩ := isCandidate_iff.mp candidate
    exact rename_of_renamed nonempty ends renamed

theorem find_eq_some_iff {needle hay : List α} {i : Nat} :
    find needle hay = some i ↔ IsLeast {j | OccursAt needle hay j} i := by
  constructor
  · exact isLeast_of_find
  · intro least
    cases h : find needle hay with
    | none => exact absurd least.1 (find_eq_none h i)
    | some j => rw [(isLeast_of_find h).unique least]

/-- Renaming never missteps: whatever the name, the suffixes and the policy are, every difference is
of lengths in order, every cut is inside the name and nothing empty is looked for, and the output
name is what it is without looking. The search, which could not be asked for nothing, finds the
least index at which a needle occurs, and none exactly if it does not occur, as in a hay that is too
short for it. Every round of a scan, wherever the scan stands, ends it or leaves less to search. -/
theorem renaming_never_missteps (policy : Policy) (suffix replacement name : List α) :
    rename policy suffix replacement name = .ok (outputName policy suffix replacement name) ∧
    (∀ hay : List α, search [] hay = .error .noWidth) ∧
    (∀ needle hay : List α, needle ≠ [] →
      search needle hay = .ok (find needle hay) ∧
      (∀ i, find needle hay = some i ↔ IsLeast {j | OccursAt needle hay j} i) ∧
      (find needle hay = none ↔ ∀ i, ¬ OccursAt needle hay i) ∧
      (hay.length < needle.length → find needle hay = none)) ∧
    (suffix ≠ [] → ∀ scan : Scan α, scan.round policy suffix replacement = .ok none ∨
      ∃ next, scan.round policy suffix replacement = .ok (some next) ∧
        next.rest.length < scan.rest.length) := by
  refine ⟨rename_eq policy suffix replacement name, search_nil, ?_, ?_⟩
  · intro needle hay nonempty
    have missed : find needle hay = none ↔ ∀ i, ¬ OccursAt needle hay i :=
      ⟨find_eq_none, find_of_none⟩
    refine ⟨search_eq nonempty hay, fun i => find_eq_some_iff, missed, ?_⟩
    intro short
    apply missed.mpr
    intro i occurs
    have fits := occurs.1
    omega
  · intro nonempty scan
    rcases Scan.round_cases nonempty scan with ended | ⟨before, after, _, went⟩
    · exact .inl ended
    · exact .inr ⟨_, went, Scan.round_shorter went⟩

/-- A suffix that overlaps itself, none at all, and one that is longer than the name. -/
theorem renaming_never_missteps_of_overlaps :
    rename .all (Utf8.encode "aa") (Utf8.encode "c") overlapping =
      .ok (some (Utf8.encode "bcca")) ∧
    rename .all [] (Utf8.encode "c") overlapping = .ok none ∧
    rename .trailing overlapping [] (Utf8.encode "aa") = .ok none ∧
    (overlapping ≠ [] ∧ (Utf8.encode "aa").length < overlapping.length ∧
      search overlapping (Utf8.encode "aa") = .ok none) ∧
    (Utf8.encode "aa" ≠ [] ∧ ∃ next,
      (Scan.mk [] overlapping false).round .all (Utf8.encode "aa") (Utf8.encode "c") =
        .ok (some next) ∧ next.rest.length < overlapping.length) := by
  have given : overlapping ≠ [] := by decide
  have short : (Utf8.encode "aa").length < overlapping.length := by decide
  have nonempty : Utf8.encode "aa" ≠ [] := by decide
  obtain ⟨renamed, _, searches, rounds⟩ :=
    renaming_never_missteps .all (Utf8.encode "aa") (Utf8.encode "c") overlapping
  obtain ⟨found, _, _, missed⟩ := searches overlapping (Utf8.encode "aa") given
  refine ⟨?_, ?_, ?_, ⟨given, short, ?_⟩, nonempty, ?_⟩
  · rw [renamed]
    decide +kernel
  · exact (renaming_never_missteps .all [] (Utf8.encode "c") overlapping).1.trans (by decide)
  · exact (renaming_never_missteps .trailing overlapping [] (Utf8.encode "aa")).1.trans (by decide)
  · rw [found, missed short]
  · rcases rounds nonempty (Scan.mk [] overlapping false) with ended | went
    · exact absurd ended (by decide)
    · exact went

end GraphBatch.Careful
