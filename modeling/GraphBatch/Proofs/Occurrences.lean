import GraphBatch.Proofs.Overlaps

namespace GraphBatch

variable {α : Type} {text other suffix front after : List α}

/-- The other begins nowhere inside the text, not even where too little is left to hold it. -/
def Clear (text other : List α) : Prop :=
  ∀ i < text.length, ¬ text.drop i <+: other ∧ ¬ other <+: text.drop i

instance [DecidableEq α] (text other : List α) : Decidable (Clear text other) :=
  inferInstanceAs (Decidable (∀ i < text.length, ¬ text.drop i <+: other ∧ ¬ other <+: text.drop i))

theorem Clear.drop (h : Clear text other) (n : Nat) : Clear (text.drop n) other := by
  intro i hi
  rw [List.length_drop] at hi
  rw [List.drop_drop]
  exact h (n + i) (by omega)

theorem Clear.tail (h : Clear text other) : Clear text.tail other := by
  rw [← List.drop_one]
  exact h.drop 1

theorem Unbordered.clear_tail (u : Unbordered text) : Clear text.tail text := by
  intro i hi
  rw [List.length_tail] at hi
  rw [List.drop_tail]
  refine ⟨u (i + 1) (by omega) (by omega), ?_⟩
  intro h
  have length := h.length_le
  rw [List.length_drop] at length
  omega

/-- Where a text is clear of the suffix, the suffix does not begin, whatever follows the text. -/
theorem Clear.not_begins (clear : Clear text suffix) (nonempty : text ≠ []) :
    ¬ suffix <+: text ++ after := by
  intro h
  have here := clear 0 (List.length_pos_iff.mpr nonempty)
  rcases List.prefix_or_prefix_of_prefix h (List.prefix_append text after) with h' | h'
  · exact here.2 h'
  · exact here.1 h'

/-- A suffix that begins in front of a text does not reach into it, unless the text begins inside
the suffix. -/
theorem Clear.begins_front (clear : Clear suffix.tail text) (nonempty : front ≠ [])
    (h : suffix <+: front ++ (text ++ after)) : suffix <+: front := by
  rcases List.prefix_or_prefix_of_prefix h (List.prefix_append front _) with h' | ⟨rest, rfl⟩
  · exact h'
  -- `rest` is what the suffix holds behind the front.
  cases rest with
  | nil => simp
  | cons a rest =>
    have met : a :: rest <+: text ++ after := (List.prefix_append_right_inj front).mp h
    have begun : 0 < front.length := List.length_pos_iff.mpr nonempty
    have inside := clear (front.length - 1) (by simp; omega)
    rw [List.drop_tail, Nat.sub_add_cancel begun, List.drop_left] at inside
    rcases List.prefix_or_prefix_of_prefix met (List.prefix_append text after) with h' | h'
    · exact absurd h' inside.1
    · exact absurd h' inside.2

theorem OccursAt.append {hay : List α} {i : Nat} (h : OccursAt suffix hay i) (more : List α) :
    OccursAt suffix (hay ++ more) i := by
  obtain ⟨before, after, rfl, rfl⟩ := occursAt_iff.mp h
  exact occursAt_iff.mpr ⟨before, after ++ more, by simp, rfl⟩

theorem occursAt_append_iff {hay : List α} {j : Nat} :
    OccursAt suffix (front ++ hay) (front.length + j) ↔ OccursAt suffix hay j := by
  simp only [OccursAt, List.length_append, List.drop_length_add_append]
  exact ⟨fun h => ⟨by omega, h.2⟩, fun h => ⟨by omega, h.2⟩⟩

theorem Leftmost.not_occurs (nonempty : suffix ≠ []) (h : Leftmost suffix front after) :
    ∀ i, ¬ OccursAt suffix front i := by
  intro i hi
  have later := h i ((hi.append suffix).append after)
  have fits := hi.1
  have := List.length_pos_iff.mpr nonempty
  omega

/-- An occurrence that begins in front of such a text lies in front of it. -/
theorem Clear.occursAt_front (clear : Clear suffix.tail text) {i : Nat} (hi : i < front.length)
    (h : OccursAt suffix (front ++ text ++ after) i) : OccursAt suffix front i := by
  have begins := h.2
  rw [List.append_assoc, List.drop_append_of_le_length (Nat.le_of_lt hi)] at begins
  have lies := clear.begins_front (by simpa using hi) begins
  have length := lies.length_le
  rw [List.length_drop] at length
  exact ⟨by omega, lies⟩

section Counting

variable [DecidableEq α]

instance (needle hay : List α) (i : Nat) : Decidable (OccursAt needle hay i) :=
  inferInstanceAs (Decidable (i + needle.length ≤ hay.length ∧ needle <+: hay.drop i))

/-- At how many indices the needle occurs. -/
def occurrences (needle hay : List α) : Nat :=
  (List.range (hay.length + 1)).countP fun i => decide (OccursAt needle hay i)

theorem occurrences_cons (suffix : List α) (a : α) (rest : List α) :
    occurrences suffix (a :: rest) =
      occurrences suffix rest + if suffix <+: a :: rest then 1 else 0 := by
  rw [occurrences, occurrences, List.length_cons, List.range_succ_eq_map, List.countP_cons,
    List.countP_map]
  simp only [Function.comp_def, Nat.succ_eq_add_one, occursAt_succ, occursAt_zero,
    decide_eq_true_eq]

theorem occurrences_nil (nonempty : suffix ≠ []) : occurrences suffix [] = 0 := by
  simp [occurrences, OccursAt, nonempty]

theorem occurrences_eq_zero_iff {hay : List α} :
    occurrences suffix hay = 0 ↔ ∀ i, ¬ OccursAt suffix hay i := by
  rw [occurrences, List.countP_eq_zero]
  simp only [List.mem_range, decide_eq_true_eq]
  constructor
  · intro h i hi
    exact h i (by have := hi.1; omega) hi
  · intro h i _
    exact h i

/-- A text that keeps clear of the suffix holds none of its occurrences. -/
theorem Clear.occurrences_behind (clear : Clear text suffix) (after : List α) :
    occurrences suffix (text ++ after) = occurrences suffix after := by
  induction text with
  | nil => rw [List.nil_append]
  | cons a text ih =>
    have none : ¬ suffix <+: a :: (text ++ after) := clear.not_begins (by simp)
    rw [List.cons_append, occurrences_cons, if_neg none, Nat.add_zero]
    exact ih clear.tail

/-- Occurrences in front of such a text are counted apart from the rest. -/
theorem Clear.occurrences_front (clear : Clear suffix.tail text) (nonempty : suffix ≠ [])
    (front after : List α) :
    occurrences suffix (front ++ (text ++ after)) =
      occurrences suffix front + occurrences suffix (text ++ after) := by
  induction front with
  | nil => rw [List.nil_append, occurrences_nil nonempty, Nat.zero_add]
  | cons a front ih =>
    have same : suffix <+: a :: (front ++ (text ++ after)) ↔ suffix <+: a :: front := by
      constructor
      · exact clear.begins_front (List.cons_ne_nil a front)
      · intro h
        exact h.trans (List.prefix_append (a :: front) _)
    rw [List.cons_append, occurrences_cons, occurrences_cons, ih]
    simp only [same]
    omega

/-- A suffix that does not overlap itself is counted once where it stands. -/
theorem Unbordered.occurrences_cut (u : Unbordered suffix) (nonempty : suffix ≠ [])
    (front after : List α) :
    occurrences suffix (front ++ suffix ++ after) =
      occurrences suffix front + 1 + occurrences suffix after := by
  have here : occurrences suffix (suffix ++ after) = occurrences suffix after + 1 := by
    cases suffix with
    | nil => exact absurd rfl nonempty
    | cons a suffix =>
      have begins : a :: suffix <+: a :: (suffix ++ after) := List.prefix_append (a :: suffix) after
      rw [List.cons_append, occurrences_cons, if_pos begins]
      exact congrArg (· + 1) (u.clear_tail.occurrences_behind after)
  rw [List.append_assoc, u.clear_tail.occurrences_front nonempty, here]
  omega

end Counting

end GraphBatch
