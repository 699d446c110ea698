import GraphBatch.Naming

namespace GraphBatch

variable {α β : Type}

theorem occursAt_iff {needle hay : List α} {i : Nat} :
    OccursAt needle hay i ↔
      ∃ before after, hay = before ++ needle ++ after ∧ before.length = i := by
  constructor
  · rintro ⟨hi, after, ha⟩
    refine ⟨hay.take i, after, ?_, by simp; omega⟩
    rw [List.append_assoc, ha, List.take_append_drop]
  · rintro ⟨before, after, rfl, rfl⟩
    refine ⟨by simp, ?_⟩
    simp [List.append_assoc]

/-- A name that ends with the suffix holds it there. -/
theorem occursAt_end (before suffix : List α) :
    OccursAt suffix (before ++ suffix) before.length :=
  occursAt_iff.mpr ⟨before, [], (List.append_nil _).symm, rfl⟩

theorem take_cut (before needle after : List α) :
    (before ++ needle ++ after).take before.length = before := by
  rw [List.append_assoc, List.take_left]

theorem drop_cut (before needle after : List α) :
    (before ++ needle ++ after).drop (before.length + needle.length) = after := by
  rw [← List.length_append, List.drop_left]

theorem replaceTrailing_append (suffix replacement before : List α) :
    replaceTrailing suffix replacement (before ++ suffix) = before ++ replacement := by
  simp [replaceTrailing]

/-- Between these two the suffix stands where it first occurs. -/
def Leftmost (suffix before after : List α) : Prop :=
  ∀ i, OccursAt suffix (before ++ suffix ++ after) i → before.length ≤ i

/-- Each replaced occurrence is the leftmost one of what the one before it left over. -/
inductive ReplacedAll (suffix replacement : List α) : List α → List α → Prop
  | rest {name : List α} (none : ∀ i, ¬ OccursAt suffix name i) :
      ReplacedAll suffix replacement name name
  | cut {before after out : List α} (leftmost : Leftmost suffix before after)
      (tail : ReplacedAll suffix replacement after out) :
      ReplacedAll suffix replacement (before ++ suffix ++ after) (before ++ replacement ++ out)

/-- The name and the output name of a candidate. -/
inductive Renamed (suffix replacement : List α) : Policy → List α → List α → Prop
  | trailing (before : List α) :
      Renamed suffix replacement .trailing (before ++ suffix) (before ++ replacement)
  | first {before after : List α} (leftmost : Leftmost suffix before after) :
      Renamed suffix replacement .first (before ++ suffix ++ after) (before ++ replacement ++ after)
  | all {name out : List α} (replaced : ReplacedAll suffix replacement name out) :
      Renamed suffix replacement .all name out

theorem ReplacedAll.head? {suffix replacement name out : List α}
    (h : ReplacedAll suffix replacement name out) (same : replacement.head? = suffix.head?) :
    out.head? = name.head? := by
  induction h with
  | rest none => rfl
  | cut leftmost _ ih => simp only [List.head?_append, same, ih]

/-- A name keeps its first element if the suffixes share theirs. -/
theorem Renamed.head? {suffix replacement name out : List α} {policy : Policy}
    (h : Renamed suffix replacement policy name out) (same : replacement.head? = suffix.head?) :
    out.head? = name.head? := by
  cases h with
  | trailing before => simp only [List.head?_append, same]
  | first leftmost => simp only [List.head?_append, same]
  | all replaced => exact replaced.head? same

/-- Names grow only if the replacement is longer than the suffix, and shrink only if it is
shorter. -/
theorem ReplacedAll.length_mono {suffix replacement name out : List α}
    (h : ReplacedAll suffix replacement name out) :
    (replacement.length ≤ suffix.length → out.length ≤ name.length) ∧
      (suffix.length ≤ replacement.length → name.length ≤ out.length) := by
  induction h with
  | rest none => exact ⟨fun _ => Nat.le_refl _, fun _ => Nat.le_refl _⟩
  | cut leftmost _ ih =>
    simp only [List.length_append]
    constructor
    · intro shorter
      have := ih.1 shorter
      omega
    · intro longer
      have := ih.2 longer
      omega

section Rule

variable [DecidableEq α]

theorem find_cut {suffix before after : List α} (h : Leftmost suffix before after) :
    find suffix (before ++ suffix ++ after) = some before.length := by
  have here : OccursAt suffix (before ++ suffix ++ after) before.length :=
    occursAt_iff.mpr ⟨before, after, rfl, rfl⟩
  cases hf : find suffix (before ++ suffix ++ after) with
  | none => exact absurd here (find_eq_none hf _)
  | some i =>
    have hle := find_le hf here
    have hge := h i (find_occurs hf)
    exact congrArg some (by omega)

theorem find_of_none {suffix name : List α} (h : ∀ i, ¬ OccursAt suffix name i) :
    find suffix name = none := by
  cases hf : find suffix name with
  | none => rfl
  | some i => exact absurd (find_occurs hf) (h i)

/-- What is found cuts the name, and nothing earlier would. -/
theorem cut_of_find {suffix name : List α} {i : Nat} (h : find suffix name = some i) :
    ∃ before after, name = before ++ suffix ++ after ∧ before.length = i ∧
      Leftmost suffix before after := by
  obtain ⟨before, after, rfl, rfl⟩ := occursAt_iff.mp (find_occurs h)
  exact ⟨before, after, rfl, rfl, fun j hj => find_le h hj⟩

theorem exists_leftmost {suffix name : List α} (ends : suffix <:+ name) :
    ∃ before after, name = before ++ suffix ++ after ∧ Leftmost suffix before after := by
  obtain ⟨front, rfl⟩ := ends
  cases h : find suffix (front ++ suffix) with
  | none => exact absurd (occursAt_end front suffix) (find_eq_none h _)
  | some i =>
    obtain ⟨before, after, he, _, leftmost⟩ := cut_of_find h
    exact ⟨before, after, he, leftmost⟩

theorem replaceFirst_cut {suffix before after : List α} (h : Leftmost suffix before after)
    (replacement : List α) :
    replaceFirst suffix replacement (before ++ suffix ++ after) =
      before ++ replacement ++ after := by
  simp only [replaceFirst, find_cut h, take_cut, drop_cut]

theorem replaceAll_cut {suffix before after : List α} (h : Leftmost suffix before after)
    (nonempty : suffix ≠ []) (replacement : List α) :
    replaceAll suffix nonempty replacement (before ++ suffix ++ after) =
      before ++ replacement ++ replaceAll suffix nonempty replacement after := by
  rw [replaceAll]
  split
  · rename_i hn
    rw [find_cut h] at hn
    cases hn
  · rename_i i hi
    rw [find_cut h] at hi
    cases hi
    rw [take_cut, drop_cut]

theorem replaceAll_rest {suffix name : List α} (h : ∀ i, ¬ OccursAt suffix name i)
    (nonempty : suffix ≠ []) (replacement : List α) :
    replaceAll suffix nonempty replacement name = name := by
  rw [replaceAll]
  split
  · rfl
  · rename_i i hi
    rw [find_of_none h] at hi
    cases hi

theorem ReplacedAll.eq {suffix replacement name out : List α}
    (h : ReplacedAll suffix replacement name out) (nonempty : suffix ≠ []) :
    replaceAll suffix nonempty replacement name = out := by
  induction h with
  | rest none => exact replaceAll_rest none nonempty replacement
  | cut leftmost _ ih => rw [replaceAll_cut leftmost, ih]

theorem replacedAll_replaceAll (suffix replacement name : List α) (nonempty : suffix ≠ []) :
    ReplacedAll suffix replacement name (replaceAll suffix nonempty replacement name) := by
  fun_induction replaceAll suffix nonempty replacement name with
  | case1 name hn => exact .rest (find_eq_none hn)
  | case2 name i hi ih =>
    obtain ⟨before, after, rfl, rfl, leftmost⟩ := cut_of_find hi
    rw [drop_cut] at ih
    rw [take_cut, drop_cut]
    exact .cut leftmost ih

theorem Renamed.eq {suffix replacement name out : List α} {policy : Policy}
    (h : Renamed suffix replacement policy name out) (nonempty : suffix ≠ []) :
    policy.replace suffix nonempty replacement name = out := by
  cases h with
  | trailing before => exact replaceTrailing_append suffix replacement before
  | first leftmost => exact replaceFirst_cut leftmost replacement
  | all replaced => exact replaced.eq nonempty

theorem renamed_replace (policy : Policy) {suffix replacement name : List α}
    (nonempty : suffix ≠ []) (ends : suffix <:+ name) :
    Renamed suffix replacement policy name (policy.replace suffix nonempty replacement name) := by
  cases policy with
  | trailing =>
    obtain ⟨before, rfl⟩ := ends
    rw [Policy.replace, replaceTrailing_append]
    exact .trailing before
  | first =>
    obtain ⟨before, after, rfl, leftmost⟩ := exists_leftmost ends
    rw [Policy.replace, replaceFirst_cut leftmost]
    exact .first leftmost
  | all => exact .all (replacedAll_replaceAll suffix replacement _ nonempty)

/-- Renaming gives the one output name the policy's rule allows, to candidates and to no other
name. -/
theorem outputName_eq_some_iff {policy : Policy} {suffix replacement name out : List α} :
    outputName policy suffix replacement name = some out ↔
      isCandidate suffix name = true ∧ Renamed suffix replacement policy name out := by
  unfold outputName
  split
  · rename_i hc
    obtain ⟨nonempty, ends⟩ := isCandidate_iff.mp hc
    simp only [Option.some.injEq, hc, true_and]
    constructor
    · rintro rfl
      exact renamed_replace policy nonempty ends
    · intro h
      exact h.eq nonempty
  · rename_i hc
    simp [hc]

theorem exists_outputName (policy : Policy) {suffix name : List α} (replacement : List α)
    (nonempty : suffix ≠ []) (ends : suffix <:+ name) :
    ∃ out, outputName policy suffix replacement name = some out :=
  ⟨_, dif_pos (isCandidate_iff.mpr ⟨nonempty, ends⟩)⟩

end Rule

/-- A map that keeps a text apart from what stands around it. -/
def Splices (f : List α → List β) (text : List α) : Prop :=
  ∀ before after, f (before ++ text ++ after) = f before ++ f text ++ f after

/-- A map that keeps every occurrence of a text and makes no new one. -/
structure Carries (f : List α → List β) (needle : List α) : Prop where
  empty : ∀ {name}, f name = [] ↔ name = []
  grows : ∀ before more, (f before).length ≤ (f (before ++ more)).length
  splices : Splices f needle
  found : ∀ {name x y}, f name = x ++ f needle ++ y →
    ∃ before after, name = before ++ needle ++ after ∧ f before = x ∧ f after = y

namespace Carries

variable {f : List α → List β} {suffix replacement : List α}

theorem append (c : Carries f suffix) {text : List α} (s : Splices f text) (before : List α) :
    f (before ++ text) = f before ++ f text := by
  have h := s before []
  rwa [List.append_nil, c.empty.mpr rfl, List.append_nil] at h

theorem not_occurs (c : Carries f suffix) {name : List α} (h : ∀ i, ¬ OccursAt suffix name i) :
    ∀ i, ¬ OccursAt (f suffix) (f name) i := by
  intro i hi
  obtain ⟨x, y, hxy, _⟩ := occursAt_iff.mp hi
  obtain ⟨before, after, rfl, _⟩ := c.found hxy
  exact h before.length (occursAt_iff.mpr ⟨before, after, rfl, rfl⟩)

theorem leftmost (c : Carries f suffix) {before after : List α}
    (h : Leftmost suffix before after) : Leftmost (f suffix) (f before) (f after) := by
  intro i hi
  obtain ⟨x, y, hxy, rfl⟩ := occursAt_iff.mp hi
  rw [← c.splices] at hxy
  obtain ⟨before', after', he, rfl, _⟩ := c.found hxy
  -- What the map shows comes from the suffix itself, which stands nowhere left of `before`.
  have hle := h before'.length (occursAt_iff.mpr ⟨before', after', he, rfl⟩)
  have hb : before <+: before ++ suffix ++ after := ⟨suffix ++ after, by simp⟩
  have hb' : before' <+: before ++ suffix ++ after := ⟨suffix ++ after', by simp [he]⟩
  obtain ⟨more, rfl⟩ := List.prefix_of_prefix_length_le hb hb' hle
  exact c.grows before more

theorem replacedAll (c : Carries f suffix) (hr : Splices f replacement) {name out : List α}
    (h : ReplacedAll suffix replacement name out) :
    ReplacedAll (f suffix) (f replacement) (f name) (f out) := by
  induction h with
  | rest none => exact .rest (c.not_occurs none)
  | cut leftmost _ ih =>
    rw [c.splices, hr]
    exact .cut (c.leftmost leftmost) ih

theorem renamed (c : Carries f suffix) (hr : Splices f replacement) {policy : Policy}
    {name out : List α} (h : Renamed suffix replacement policy name out) :
    Renamed (f suffix) (f replacement) policy (f name) (f out) := by
  cases h with
  | trailing before =>
    rw [c.append c.splices, c.append hr]
    exact .trailing (f before)
  | first leftmost =>
    rw [c.splices, hr]
    exact .first (c.leftmost leftmost)
  | all replaced => exact .all (c.replacedAll hr replaced)

variable [DecidableEq α] [DecidableEq β]

theorem isCandidate (c : Carries f suffix) (name : List α) :
    GraphBatch.isCandidate (f suffix) (f name) = GraphBatch.isCandidate suffix name := by
  rw [Bool.eq_iff_iff, isCandidate_iff, isCandidate_iff]
  refine and_congr (not_congr c.empty) ⟨?_, ?_⟩
  · rintro ⟨x, hx⟩
    obtain ⟨before, after, rfl, _, ha⟩ := c.found (y := []) (by simpa using hx.symm)
    rw [c.empty.mp ha, List.append_nil]
    exact List.suffix_append before suffix
  · rintro ⟨before, rfl⟩
    rw [c.append c.splices]
    exact List.suffix_append (f before) (f suffix)

/-- Renaming first and mapping then is the same as mapping first and renaming then. -/
theorem outputName (c : Carries f suffix) (hr : Splices f replacement) (policy : Policy)
    (name : List α) :
    GraphBatch.outputName policy (f suffix) (f replacement) (f name) =
      (GraphBatch.outputName policy suffix replacement name).map f := by
  cases h : GraphBatch.outputName policy suffix replacement name with
  | none =>
    rw [Option.map_none, outputName_eq_none_iff, c.isCandidate]
    exact outputName_eq_none_iff.mp h
  | some out =>
    obtain ⟨hc, hn⟩ := outputName_eq_some_iff.mp h
    rw [Option.map_some]
    exact outputName_eq_some_iff.mpr ⟨(c.isCandidate name).trans hc, c.renamed hr hn⟩

end Carries

end GraphBatch
