import GraphBatch.Proofs.Cuts
import GraphBatch.Text.Utf8.RoundTrip
import Mathlib.Data.List.Basic

namespace GraphBatch

variable {α : Type} {suffix replacement before front : List α}

/-- An occurrence at the end, with none before it, is all that any policy replaces. -/
theorem Leftmost.renamed_at_end (nonempty : suffix ≠ []) (h : Leftmost suffix before [])
    (policy : Policy) (replacement : List α) :
    Renamed suffix replacement policy (before ++ suffix) (before ++ replacement) := by
  have empty : ∀ i, ¬ OccursAt suffix [] i := by
    intro i hi
    have fits := hi.1
    have := List.length_pos_iff.mpr nonempty
    rw [List.length_nil] at fits
    omega
  cases policy with
  | trailing => exact .trailing before
  | first =>
    have first : Renamed suffix replacement .first (before ++ suffix ++ [])
        (before ++ replacement ++ []) := .first h
    rwa [List.append_nil, List.append_nil] at first
  | all =>
    have all : ReplacedAll suffix replacement (before ++ suffix ++ [])
        (before ++ replacement ++ []) := .cut h (.rest empty)
    rw [List.append_nil, List.append_nil] at all
    exact .all all

variable [DecidableEq α]

/-- With a replacement that does not end as the name does, replacing the first occurrence can only
do what replacing the trailing one does if they are one. -/
theorem leftmost_of_trailing_eq_first (nonempty : suffix ≠ []) (given : replacement ≠ [])
    (differs : replacement.getLast? ≠ (front ++ suffix).getLast?)
    (agree : outputName .trailing suffix replacement (front ++ suffix) =
      outputName .first suffix replacement (front ++ suffix)) : Leftmost suffix front [] := by
  have ends : suffix <:+ front ++ suffix := List.suffix_append front suffix
  have candidate : isCandidate suffix (front ++ suffix) = true :=
    isCandidate_iff.mpr ⟨nonempty, ends⟩
  obtain ⟨before, after, cut, leftmost⟩ := exists_leftmost ends
  have first : Renamed suffix replacement .first (front ++ suffix)
      (before ++ replacement ++ after) := cut ▸ .first leftmost
  rw [outputName_eq_some_iff.mpr ⟨candidate, .trailing front⟩,
    outputName_eq_some_iff.mpr ⟨candidate, first⟩, Option.some.injEq] at agree
  cases after with
  | nil =>
    rw [List.append_nil] at cut
    rwa [List.append_cancel_right cut]
  | cons a after =>
    -- What follows the first occurrence ends the name, and ends the output name still.
    have last := congrArg List.getLast? agree
    rw [List.getLast?_append_of_ne_nil _ given, List.getLast?_append_cons] at last
    rw [cut, List.getLast?_append_cons] at differs
    exact absurd last differs

/-- Some text ends otherwise than the name does. -/
theorem exists_text_ending_otherwise (name : Bytes) :
    ∃ text : String, Utf8.encode text ≠ [] ∧ (Utf8.encode text).getLast? ≠ name.getLast? := by
  by_cases h : name.getLast? = (Utf8.encode "0").getLast?
  · refine ⟨"1", by decide, ?_⟩
    rw [h]
    decide
  · exact ⟨"0", by decide, fun he => h he.symm⟩

/-- For a name that ends with a suffix, all policies agree on every replacement exactly if the
suffix occurs first where it ends the name. -/
theorem policies_agree_iff (suffix : String) (nonempty : suffix ≠ "") (name : Bytes)
    (ends : Utf8.encode suffix <:+ name) :
    (∀ (replacement : String) (policy policy' : Policy),
      outputName policy (Utf8.encode suffix) (Utf8.encode replacement) name =
        outputName policy' (Utf8.encode suffix) (Utf8.encode replacement) name) ↔
      IsLeast {i | OccursAt (Utf8.encode suffix) name i}
        (name.length - (Utf8.encode suffix).length) := by
  have given : Utf8.encode suffix ≠ [] := fun h => nonempty (Utf8.encode_inj.mp h)
  have candidate : isCandidate (Utf8.encode suffix) name = true := isCandidate_iff.mpr ⟨given, ends⟩
  obtain ⟨front, rfl⟩ := ends
  have atEnd : IsLeast {i | OccursAt (Utf8.encode suffix) (front ++ Utf8.encode suffix) i}
      front.length ↔ Leftmost (Utf8.encode suffix) front [] := by
    rw [← isLeast_occursAt_iff, List.append_nil]
  rw [List.length_append, Nat.add_sub_cancel, atEnd]
  constructor
  · intro agree
    obtain ⟨text, some, differs⟩ := exists_text_ending_otherwise (front ++ Utf8.encode suffix)
    exact leftmost_of_trailing_eq_first given some differs (agree text .trailing .first)
  · intro leftmost replacement policy policy'
    have renamed : ∀ policy, outputName policy (Utf8.encode suffix) (Utf8.encode replacement)
        (front ++ Utf8.encode suffix) = some (front ++ Utf8.encode replacement) := by
      intro policy
      exact outputName_eq_some_iff.mpr ⟨candidate, leftmost.renamed_at_end given policy _⟩
    rw [renamed, renamed]

/-- `.dot` stands only at the end of the one name; in the other `aa` overlaps the end, which some
replacements hide. -/
theorem policies_agree_iff_of_overlap :
    (".dot" ≠ "" ∧ Utf8.encode ".dot" <:+ Utf8.encode "main.dot" ∧
      ∀ (replacement : String) (policy policy' : Policy),
        outputName policy (Utf8.encode ".dot") (Utf8.encode replacement) (Utf8.encode "main.dot") =
          outputName policy' (Utf8.encode ".dot") (Utf8.encode replacement)
            (Utf8.encode "main.dot")) ∧
    ("aa" ≠ "" ∧ Utf8.encode "aa" <:+ Utf8.encode "aaa" ∧
      ¬ ∀ (replacement : String) (policy policy' : Policy),
        outputName policy (Utf8.encode "aa") (Utf8.encode replacement) (Utf8.encode "aaa") =
          outputName policy' (Utf8.encode "aa") (Utf8.encode replacement) (Utf8.encode "aaa")) := by
  have dot : ".dot" ≠ "" := by decide
  have ends : Utf8.encode ".dot" <:+ Utf8.encode "main.dot" := by decide
  have aa : "aa" ≠ "" := by decide
  have ends' : Utf8.encode "aa" <:+ Utf8.encode "aaa" := by decide
  refine ⟨⟨dot, ends, ?_⟩, aa, ends', ?_⟩
  · apply (policies_agree_iff ".dot" dot _ ends).mpr
    exact isLeast_of_find (by decide)
  · intro agree
    have least := (policies_agree_iff "aa" aa _ ends').mp agree
    have earlier : OccursAt (Utf8.encode "aa") (Utf8.encode "aaa") 0 := find_occurs (by decide)
    exact absurd (least.2 earlier) (by decide)

-- One replacement on which the policies agree all the same.
example : ∀ policy ∈ Policy.every,
    outputName policy ['a', 'a'] ['a'] ['a', 'a', 'a'] = some ['a', 'a'] := by
  decide +kernel

end GraphBatch
