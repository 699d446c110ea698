import GraphBatch.Proofs.Occurrences

namespace GraphBatch

variable {α : Type} {suffix replacement name front : List α}

/-- Suffixes of which one can be put in for the other without making or breaking an occurrence
elsewhere. -/
structure Separate (suffix replacement : List α) : Prop where
  nonempty : suffix ≠ []
  unbordered : Unbordered suffix
  ahead : Clear suffix replacement
  inside : Clear replacement suffix

/-- Behind a front in which the suffix never begins, all occurrences are replaced as if the front
were not there. -/
theorem ReplacedAll.behind {out : List α}
    (later : ∀ rest i, OccursAt suffix (front ++ rest) i → front.length ≤ i)
    (h : ReplacedAll suffix replacement name out) :
    ReplacedAll suffix replacement (front ++ name) (front ++ out) := by
  cases h with
  | rest none =>
    apply ReplacedAll.rest
    intro i hi
    obtain ⟨j, rfl⟩ := Nat.exists_eq_add_of_le (later _ _ hi)
    exact none j (occursAt_append_iff.mp hi)
  | @cut before after out leftmost tail =>
    have leftmost' : Leftmost suffix (front ++ before) after := by
      intro i hi
      rw [List.append_assoc, List.append_assoc] at hi
      obtain ⟨j, rfl⟩ := Nat.exists_eq_add_of_le (later _ _ hi)
      rw [← List.append_assoc before] at hi
      have := leftmost j (occursAt_append_iff.mp hi)
      rw [List.length_append]
      omega
    have cut := ReplacedAll.cut leftmost' tail
    simpa only [List.append_assoc] using cut

namespace Separate

variable (sep : Separate suffix replacement)
include sep

/-- Behind a replacement that follows no occurrence, the suffix begins behind both. -/
theorem begins_behind (free : ∀ i, ¬ OccursAt suffix front i) (rest : List α) (i : Nat)
    (h : OccursAt suffix (front ++ replacement ++ rest) i) :
    (front ++ replacement).length ≤ i := by
  apply Nat.le_of_not_lt
  intro hi
  rw [List.length_append] at hi
  rcases Nat.lt_or_ge i front.length with early | late
  · exact free i (sep.ahead.tail.occursAt_front early h)
  · obtain ⟨j, rfl⟩ := Nat.exists_eq_add_of_le late
    rw [List.append_assoc, occursAt_append_iff] at h
    have begins := h.2
    rw [List.drop_append_of_le_length (by omega)] at begins
    exact (sep.inside.drop j).not_begins (by simp; omega) begins

variable [DecidableEq α]

theorem occurrences_spliced (front after : List α) :
    occurrences suffix (front ++ replacement ++ after) =
      occurrences suffix front + occurrences suffix after := by
  rw [List.append_assoc, sep.ahead.tail.occurrences_front sep.nonempty,
    sep.inside.occurrences_behind]

/-- Replacing the first occurrence takes one occurrence away. What is left of a name ends with the
suffix as long as any is left, and comes to the same when all are replaced. -/
theorem step (ends : suffix <:+ name) :
    ∃ stage, outputName .first suffix replacement name = some stage ∧
      occurrences suffix name = occurrences suffix stage + 1 ∧
      (0 < occurrences suffix stage → suffix <:+ stage) ∧
      replaceAll suffix sep.nonempty replacement stage =
        replaceAll suffix sep.nonempty replacement name := by
  have candidate : isCandidate suffix name = true := isCandidate_iff.mpr ⟨sep.nonempty, ends⟩
  obtain ⟨before, after, rfl, leftmost⟩ := exists_leftmost ends
  have free := leftmost.not_occurs sep.nonempty
  have counted := sep.unbordered.occurrences_cut sep.nonempty before after
  have spliced := sep.occurrences_spliced before after
  have absent := occurrences_eq_zero_iff.mpr free
  refine ⟨before ++ replacement ++ after,
    outputName_eq_some_iff.mpr ⟨candidate, .first leftmost⟩, by omega, ?_, ?_⟩
  · intro more
    rcases sep.unbordered.ends_after ends with rfl | ends'
    · rw [spliced, occurrences_nil sep.nonempty] at more
      omega
    · exact ends'.trans (List.suffix_append _ _)
  · have tail := replacedAll_replaceAll suffix replacement after sep.nonempty
    rw [(tail.behind (sep.begins_behind free)).eq, replaceAll_cut leftmost]

end Separate

/-- Renaming so many times over, each time what the last time gave. -/
def renamedTimes [DecidableEq α] (policy : Policy) (suffix replacement : List α) :
    Nat → List α → Option (List α)
  | 0, name => some name
  | n + 1, name =>
    (renamedTimes policy suffix replacement n name).bind (outputName policy suffix replacement)

/-- As long as the suffix occurs, one more can be replaced. -/
theorem Separate.stages [DecidableEq α] (sep : Separate suffix replacement) (ends : suffix <:+ name)
    {n : Nat} (hn : n ≤ occurrences suffix name) :
    ∃ stage, renamedTimes .first suffix replacement n name = some stage ∧
      occurrences suffix stage + n = occurrences suffix name ∧
      (0 < occurrences suffix stage → suffix <:+ stage) ∧
      replaceAll suffix sep.nonempty replacement stage =
        replaceAll suffix sep.nonempty replacement name := by
  induction n with
  | zero => exact ⟨name, rfl, rfl, fun _ => ends, rfl⟩
  | succ n ih =>
    obtain ⟨stage, reached, counted, ends', all⟩ := ih (by omega)
    -- An occurrence is left, so the stage still ends with one and is a candidate.
    obtain ⟨next, renamed, fewer, ends'', all'⟩ := sep.step (ends' (by omega))
    refine ⟨next, ?_, by omega, ends'', all'.trans all⟩
    rw [renamedTimes, reached, Option.bind_some, renamed]

theorem renamedTimes_eq_none [DecidableEq α] {policy : Policy} {last : List α} {k n : Nat}
    (reached : renamedTimes policy suffix replacement k name = some last)
    (settled : outputName policy suffix replacement last = none) (hn : k < n) :
    renamedTimes policy suffix replacement n name = none := by
  induction n with
  | zero => omega
  | succ n ih =>
    rcases Nat.eq_or_lt_of_le (Nat.le_of_lt_succ hn) with rfl | more
    · rw [renamedTimes, reached, Option.bind_some, settled]
    · rw [renamedTimes, ih more, Option.bind_none]

theorem separate_dot_svg : Separate (Utf8.encode ".dot") (Utf8.encode ".svg") := by
  constructor <;> decide

/-- Replacing the first `.dot` again and again renames a name that ends with it exactly as often as
`.dot` occurs in it. Each time there is one less; until the last time the name ends with `.dot`, and
the last time gives what replacing all of them gives, in which none is left. -/
theorem first_repeated_reaches_all (name : Bytes) (ends : Utf8.encode ".dot" <:+ name) :
    ∃ k last, k = occurrences (Utf8.encode ".dot") name ∧ 1 ≤ k ∧
      (∀ n ≤ k, ∃ stage,
        renamedTimes .first (Utf8.encode ".dot") (Utf8.encode ".svg") n name = some stage ∧
        occurrences (Utf8.encode ".dot") stage = k - n ∧
        (n < k → Utf8.encode ".dot" <:+ stage)) ∧
      renamedTimes .first (Utf8.encode ".dot") (Utf8.encode ".svg") k name = some last ∧
      (∀ i, ¬ OccursAt (Utf8.encode ".dot") last i) ∧
      outputName .all (Utf8.encode ".dot") (Utf8.encode ".svg") name = some last ∧
      outputName .first (Utf8.encode ".dot") (Utf8.encode ".svg") last = none ∧
      ∀ n, k < n →
        renamedTimes .first (Utf8.encode ".dot") (Utf8.encode ".svg") n name = none := by
  have sep := separate_dot_svg
  obtain ⟨last, reached, counted, _, all⟩ := sep.stages ends (Nat.le_refl _)
  have free : ∀ i, ¬ OccursAt (Utf8.encode ".dot") last i := occurrences_eq_zero_iff.mp (by omega)
  have settled : outputName .first (Utf8.encode ".dot") (Utf8.encode ".svg") last = none := by
    rw [outputName_eq_none_iff, Bool.eq_false_iff]
    intro candidate
    obtain ⟨before, rfl⟩ := (isCandidate_iff.mp candidate).2
    exact free _ (occursAt_end before _)
  refine ⟨_, last, rfl, ?_, ?_, reached, free, ?_, settled, ?_⟩
  · obtain ⟨_, _, fewer, _⟩ := sep.step ends
    omega
  · intro n hn
    obtain ⟨stage, reached', counted', ends', _⟩ := sep.stages ends hn
    exact ⟨stage, reached', by omega, fun more => ends' (by omega)⟩
  · rw [replaceAll_rest free] at all
    rw [outputName, dif_pos (isCandidate_iff.mpr ⟨sep.nonempty, ends⟩), Policy.replace, all]
  · intro n hn
    exact renamedTimes_eq_none reached settled hn

/-- The second `.dot` follows the first at once, and the third is cut off from it. -/
def threefold : Bytes := Utf8.encode "a.dot.dotted.dot"

theorem first_repeated_reaches_all_of_threefold :
    Utf8.encode ".dot" <:+ threefold ∧
    ∃ last, renamedTimes .first (Utf8.encode ".dot") (Utf8.encode ".svg") 3 threefold = some last ∧
      outputName .all (Utf8.encode ".dot") (Utf8.encode ".svg") threefold = some last ∧
      renamedTimes .first (Utf8.encode ".dot") (Utf8.encode ".svg") 4 threefold = none := by
  have ends : Utf8.encode ".dot" <:+ threefold := by decide
  refine ⟨ends, ?_⟩
  obtain ⟨k, last, counted, _, _, reached, _, all, _, beyond⟩ :=
    first_repeated_reaches_all threefold ends
  have three : k = 3 := by
    rw [counted]
    decide
  rw [three] at reached beyond
  exact ⟨last, reached, all, beyond 4 (by decide)⟩

-- `aa` occurs twice in `aaa`, but replacing the first leaves a name that cannot be renamed again.
example :
    occurrences ['a', 'a'] ['a', 'a', 'a'] = 2 ∧
    renamedTimes .first ['a', 'a'] ['b'] 1 ['a', 'a', 'a'] = some ['b', 'a'] ∧
    renamedTimes .first ['a', 'a'] ['b'] 2 ['a', 'a', 'a'] = none := by
  decide

end GraphBatch
