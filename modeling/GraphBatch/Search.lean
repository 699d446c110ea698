namespace GraphBatch

variable {α : Type}

/-- Occurrences may overlap: `aa` occurs in `aaa` at 0 and at 1. -/
def OccursAt (needle hay : List α) (i : Nat) : Prop :=
  i + needle.length ≤ hay.length ∧ needle <+: hay.drop i

theorem occursAt_zero {needle hay : List α} : OccursAt needle hay 0 ↔ needle <+: hay := by
  refine ⟨fun h => by simpa using h.2, fun h => ⟨?_, by simpa using h⟩⟩
  have := h.length_le
  omega

theorem occursAt_succ {needle rest : List α} {a : α} {i : Nat} :
    OccursAt needle (a :: rest) (i + 1) ↔ OccursAt needle rest i := by
  simp only [OccursAt, List.length_cons, List.drop_succ_cons]
  exact ⟨fun h => ⟨by omega, h.2⟩, fun h => ⟨by omega, h.2⟩⟩

variable [DecidableEq α]

/-- The least index at which `needle` occurs. -/
def find (needle : List α) : List α → Option Nat
  | [] => if needle.isEmpty then some 0 else none
  | a :: rest =>
    if needle.isPrefixOf (a :: rest) then some 0 else (find needle rest).map (· + 1)

def occurs (needle hay : List α) : Bool :=
  (find needle hay).isSome

theorem find_fits {needle hay : List α} {i : Nat} (h : find needle hay = some i) :
    i + needle.length ≤ hay.length := by
  induction hay generalizing i with
  | nil =>
    cases needle with
    | nil => simp [find] at h; simp [← h]
    | cons => simp [find] at h
  | cons a rest ih =>
    unfold find at h
    split at h
    · next hp =>
      have := (List.isPrefixOf_iff_prefix.mp hp).length_le
      have := Option.some.inj h
      omega
    · obtain ⟨j, hj, rfl⟩ := Option.map_eq_some_iff.mp h
      have := ih hj
      simp only [List.length_cons]
      omega

theorem find_occurs {needle hay : List α} {i : Nat} (h : find needle hay = some i) :
    OccursAt needle hay i := by
  refine ⟨find_fits h, ?_⟩
  induction hay generalizing i with
  | nil =>
    cases needle with
    | nil => simp [find] at h; simp [← h]
    | cons => simp [find] at h
  | cons a rest ih =>
    unfold find at h
    split at h
    · next hp => simpa [← Option.some.inj h] using List.isPrefixOf_iff_prefix.mp hp
    · obtain ⟨j, hj, rfl⟩ := Option.map_eq_some_iff.mp h
      simpa using ih hj

theorem find_le {needle hay : List α} {i j : Nat} (h : find needle hay = some i)
    (hj : OccursAt needle hay j) : i ≤ j := by
  induction hay generalizing i j with
  | nil =>
    cases needle with
    | nil => simp [find] at h; omega
    | cons => simp [find] at h
  | cons a rest ih =>
    unfold find at h
    split at h
    · have := Option.some.inj h
      omega
    · next hp =>
      obtain ⟨k, hk, rfl⟩ := Option.map_eq_some_iff.mp h
      cases j with
      | zero => exact absurd (List.isPrefixOf_iff_prefix.mpr (occursAt_zero.mp hj)) hp
      | succ j =>
        have := ih hk (occursAt_succ.mp hj)
        omega

theorem find_eq_none {needle hay : List α} (h : find needle hay = none) (i : Nat) :
    ¬ OccursAt needle hay i := by
  induction hay generalizing i with
  | nil =>
    cases needle with
    | nil => simp [find] at h
    | cons => intro hi; have := hi.1; simp at this
  | cons a rest ih =>
    unfold find at h
    split at h
    · simp at h
    · next hp =>
      cases i with
      | zero => exact fun hi => hp (List.isPrefixOf_iff_prefix.mpr (occursAt_zero.mp hi))
      | succ i => exact fun hi => ih (Option.map_eq_none_iff.mp h) i (occursAt_succ.mp hi)

end GraphBatch
