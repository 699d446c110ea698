import GraphBatch.Proofs.Renaming

namespace GraphBatch

variable {α : Type}

/-- No proper end of the text is a beginning of it. -/
def Unbordered (text : List α) : Prop :=
  ∀ i < text.length, 0 < i → ¬ text.drop i <+: text

instance [DecidableEq α] (text : List α) : Decidable (Unbordered text) :=
  inferInstanceAs (Decidable (∀ i < text.length, 0 < i → ¬ text.drop i <+: text))

/-- After an occurrence of the suffix, the name is over or ends with another that stands clear of
it. -/
theorem Unbordered.ends_after {suffix before after : List α} (u : Unbordered suffix)
    (ends : suffix <:+ before ++ suffix ++ after) : after = [] ∨ suffix <:+ after := by
  have hafter : after <:+ before ++ suffix ++ after := List.suffix_append _ _
  rcases List.suffix_or_suffix_of_suffix ends hafter with h | ⟨front, hfront⟩
  · exact .inr h
  -- The last occurrence reaches into the one before it, and `front` is what they share.
  · have hends : front <:+ before ++ suffix := by
      obtain ⟨x, hx⟩ := ends
      refine ⟨x, ?_⟩
      rw [← hfront, ← List.append_assoc, List.append_cancel_right_eq] at hx
      rw [hx, hfront]
    have hlength : front.length + after.length = suffix.length := by
      rw [← List.length_append, hfront]
    have hshared : front <:+ suffix :=
      List.suffix_of_suffix_length_le hends (List.suffix_append _ _) (by omega)
    have hbegins : suffix.drop after.length <+: suffix := by
      have hdrop := List.suffix_iff_eq_drop.mp hshared
      rw [show suffix.length - front.length = after.length by omega] at hdrop
      rw [← hdrop]
      exact ⟨after, hfront⟩
    cases front with
    | nil =>
      rw [List.nil_append] at hfront
      exact .inr (hfront ▸ List.suffix_rfl)
    | cons a front =>
      left
      cases after with
      | nil => rfl
      | cons b after =>
        simp only [List.length_cons] at hlength
        exact absurd hbegins (u _ (by simp only [List.length_cons]; omega) (by simp))

theorem ReplacedAll.eq_nil {suffix replacement name out : List α} (nonempty : suffix ≠ [])
    (h : ReplacedAll suffix replacement name out) (hname : name = []) : out = [] := by
  cases h with
  | rest _ => exact hname
  | cut _ _ => simp [nonempty] at hname

/-- Replacing all occurrences replaces the one at the end. -/
theorem ReplacedAll.ends {suffix replacement name out : List α} (u : Unbordered suffix)
    (nonempty : suffix ≠ []) (h : ReplacedAll suffix replacement name out)
    (ends : suffix <:+ name) : replacement <:+ out := by
  induction h with
  | rest none =>
    obtain ⟨before, rfl⟩ := ends
    exact absurd (occursAt_end before suffix) (none before.length)
  | cut _ tail ih =>
    rcases u.ends_after ends with rfl | hafter
    · rw [tail.eq_nil nonempty rfl, List.append_nil]
      exact List.suffix_append _ _
    · exact (ih hafter).trans (List.suffix_append _ _)

variable [DecidableEq α]

/-- An ending as long as the suffix that is not the suffix leaves no room for it. -/
theorem not_isCandidate_of_ends {suffix ending name : List α}
    (length : suffix.length = ending.length) (differs : suffix ≠ ending) (h : ending <:+ name) :
    isCandidate suffix name = false := by
  rw [Bool.eq_false_iff]
  intro hc
  have hs := (isCandidate_iff.mp hc).2
  exact differs ((List.suffix_of_suffix_length_le hs h (by omega)).eq_of_length length)

/-- An output name ends with the replacement, unless only the first occurrence is replaced. -/
theorem outputName_ends {policy : Policy} {suffix replacement name out : List α}
    (later : policy ≠ .first) (u : Unbordered suffix)
    (h : outputName policy suffix replacement name = some out) : replacement <:+ out := by
  obtain ⟨hc, hr⟩ := outputName_eq_some_iff.mp h
  obtain ⟨nonempty, ends⟩ := isCandidate_iff.mp hc
  cases hr with
  | trailing before => exact List.suffix_append _ _
  | first leftmost => exact absurd rfl later
  | all replaced => exact replaced.ends u nonempty ends

-- `aa` overlaps itself: in `aaa` the scan takes the first two, and the name keeps its end.
example : outputName .all ['a', 'a'] ['b'] ['a', 'a', 'a'] = some ['b', 'a'] := by
  decide +kernel

end GraphBatch
