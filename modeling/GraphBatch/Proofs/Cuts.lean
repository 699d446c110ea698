import GraphBatch.Proofs.Renaming
import Mathlib.Order.Bounds.Basic

namespace GraphBatch

variable {α : Type} {suffix replacement name : List α}

/-- Pieces as a scan from the left cuts them off. What is left at each cut is the piece, the suffix
and all that is cut off later. -/
inductive Scanned (suffix : List α) : List (List α) → Prop
  | last {piece : List α} (none : ∀ i, ¬ OccursAt suffix piece i) : Scanned suffix [piece]
  | cut {piece : List α} {left : List (List α)}
      (least : IsLeast {i | OccursAt suffix (suffix.intercalate (piece :: left)) i} piece.length)
      (rest : Scanned suffix left) : Scanned suffix (piece :: left)

/-- A name and its pieces, of which a name that is cut at all has two or more. -/
structure CutInto (suffix name : List α) (pieces : List (List α)) : Prop where
  joined : name = suffix.intercalate pieces
  several : 2 ≤ pieces.length
  scanned : Scanned suffix pieces

theorem isLeast_occursAt_iff {before after : List α} :
    IsLeast {i | OccursAt suffix (before ++ suffix ++ after) i} before.length ↔
      Leftmost suffix before after := by
  constructor
  · intro least i hi
    exact least.2 hi
  · intro leftmost
    exact ⟨occursAt_iff.mpr ⟨before, after, rfl, rfl⟩, leftmost⟩

namespace Scanned

variable {pieces left : List (List α)}

/-- Whatever they are joined with. -/
theorem intercalate_cons (h : Scanned suffix left) (joint piece : List α) :
    joint.intercalate (piece :: left) = piece ++ joint ++ joint.intercalate left := by
  apply List.intercalate_cons_of_ne_nil
  cases h with
  | last _ => exact List.cons_ne_nil _ _
  | cut _ _ => exact List.cons_ne_nil _ _

/-- Joining the pieces with the replacement replaces all occurrences. -/
theorem replacedAll (h : Scanned suffix pieces) :
    ReplacedAll suffix replacement (suffix.intercalate pieces)
      (replacement.intercalate pieces) := by
  induction h with
  | last none =>
    rw [List.intercalate_singleton, List.intercalate_singleton]
    exact .rest none
  | cut least rest ih =>
    rw [rest.intercalate_cons] at least
    rw [rest.intercalate_cons, rest.intercalate_cons]
    exact .cut (isLeast_occursAt_iff.mp least) ih

/-- A name has no other pieces than those it is cut into. -/
theorem unique {others : List (List α)} (h : Scanned suffix pieces) (ho : Scanned suffix others)
    (same : suffix.intercalate pieces = suffix.intercalate others) : pieces = others := by
  induction h generalizing others with
  | @last piece none =>
    rw [List.intercalate_singleton] at same
    cases ho with
    | last _ => rw [same, List.intercalate_singleton]
    | cut least _ => exact absurd least.1 (same ▸ none _)
  | @cut piece left least rest ih =>
    cases ho with
    | @last other none =>
      rw [List.intercalate_singleton] at same
      exact absurd least.1 (same ▸ none _)
    | @cut other more least' rest' =>
      have length : piece.length = other.length := least.unique (same ▸ least')
      rw [rest.intercalate_cons, rest'.intercalate_cons, List.append_assoc,
        List.append_assoc] at same
      obtain ⟨rfl, sameRest⟩ := List.append_inj same length
      rw [ih rest' (List.append_cancel_left sameRest)]

end Scanned

theorem ReplacedAll.exists_scanned {out : List α} (h : ReplacedAll suffix replacement name out) :
    ∃ pieces, Scanned suffix pieces ∧ name = suffix.intercalate pieces ∧
      out = replacement.intercalate pieces := by
  induction h with
  | rest none => exact ⟨_, .last none, by simp, by simp⟩
  | @cut before after out leftmost _ ih =>
    obtain ⟨pieces, scanned, rfl, rfl⟩ := ih
    refine ⟨before :: pieces, .cut ?_ scanned, ?_, ?_⟩
    · rw [scanned.intercalate_cons]
      exact isLeast_occursAt_iff.mpr leftmost
    · rw [scanned.intercalate_cons]
    · rw [scanned.intercalate_cons]

/-- A name that ends with the suffix is cut at least once. -/
theorem Scanned.several {pieces : List (List α)} (h : Scanned suffix pieces)
    (ends : suffix <:+ suffix.intercalate pieces) : 2 ≤ pieces.length := by
  cases h with
  | @last piece none =>
    rw [List.intercalate_singleton] at ends
    obtain ⟨before, rfl⟩ := ends
    exact absurd (occursAt_end before suffix) (none before.length)
  | @cut piece left least rest =>
    cases rest with
    | last _ => simp
    | cut _ _ => simp

variable [DecidableEq α]

theorem exists_cutInto (nonempty : suffix ≠ []) (ends : suffix <:+ name) :
    ∃ pieces, CutInto suffix name pieces := by
  obtain ⟨pieces, scanned, rfl, _⟩ :=
    (replacedAll_replaceAll suffix suffix name nonempty).exists_scanned
  exact ⟨pieces, rfl, scanned.several ends, scanned⟩

/-- What the policies make of a name, by cutting it. The name has no output name exactly if the
suffix is empty or does not end it; otherwise the ending is replaced, or the occurrence at the least
index, or the joints between the pieces of the one way the name can be cut into. -/
theorem outputName_by_cuts (suffix replacement name : List α) :
    (∀ policy, outputName policy suffix replacement name = none ↔
      suffix = [] ∨ ¬ suffix <:+ name) ∧
    (suffix ≠ [] → suffix <:+ name →
      (∃ before, name = before ++ suffix ∧
        outputName .trailing suffix replacement name = some (before ++ replacement)) ∧
      (∃ before after, name = before ++ suffix ++ after ∧
        IsLeast {i | OccursAt suffix name i} before.length ∧
        outputName .first suffix replacement name = some (before ++ replacement ++ after)) ∧
      (∃! pieces, CutInto suffix name pieces) ∧
      ∀ pieces, CutInto suffix name pieces →
        outputName .all suffix replacement name = some (replacement.intercalate pieces)) := by
  constructor
  · intro policy
    rw [outputName_eq_none_iff, Bool.eq_false_iff, ne_eq, isCandidate_iff, not_and_or, not_not]
  · intro nonempty ends
    have candidate : isCandidate suffix name = true := isCandidate_iff.mpr ⟨nonempty, ends⟩
    refine ⟨?_, ?_, ?_, ?_⟩
    · obtain ⟨before, rfl⟩ := ends
      exact ⟨before, rfl, outputName_eq_some_iff.mpr ⟨candidate, .trailing before⟩⟩
    · obtain ⟨before, after, rfl, leftmost⟩ := exists_leftmost ends
      exact ⟨before, after, rfl, isLeast_occursAt_iff.mpr leftmost,
        outputName_eq_some_iff.mpr ⟨candidate, .first leftmost⟩⟩
    · obtain ⟨pieces, cut⟩ := exists_cutInto nonempty ends
      refine ⟨pieces, cut, ?_⟩
      intro others cut'
      exact cut'.scanned.unique cut.scanned (cut'.joined.symm.trans cut.joined)
    · intro pieces cut
      obtain rfl := cut.joined
      exact outputName_eq_some_iff.mpr ⟨candidate, .all cut.scanned.replacedAll⟩

theorem isLeast_of_find {i : Nat} (h : find suffix name = some i) :
    IsLeast {j | OccursAt suffix name j} i :=
  ⟨find_occurs h, fun _ hj => find_le h hj⟩

def overlapping : Bytes := Utf8.encode "baaaaa"

def overlappingPieces : List Bytes := ["b", "", "a"].map Utf8.encode

/-- `aa` occurs here at four places, of which a scan takes two and steps over the last. -/
theorem outputName_by_cuts_of_overlaps :
    Utf8.encode "aa" ≠ [] ∧ Utf8.encode "aa" <:+ overlapping ∧
    CutInto (Utf8.encode "aa") overlapping overlappingPieces ∧
    (∀ others, CutInto (Utf8.encode "aa") overlapping others → others = overlappingPieces) ∧
    outputName .all (Utf8.encode "aa") (Utf8.encode "c") overlapping =
      some (Utf8.encode "bcca") := by
  have nonempty : Utf8.encode "aa" ≠ [] := by decide
  have ends : Utf8.encode "aa" <:+ overlapping := by decide
  have cut : CutInto (Utf8.encode "aa") overlapping overlappingPieces := by
    refine ⟨by decide, by decide, ?_⟩
    apply Scanned.cut (isLeast_of_find (by decide))
    apply Scanned.cut (isLeast_of_find (by decide))
    exact .last (find_eq_none (by decide))
  obtain ⟨_, _, unique, all⟩ :=
    (outputName_by_cuts (Utf8.encode "aa") (Utf8.encode "c") overlapping).2 nonempty ends
  refine ⟨nonempty, ends, cut, ?_, ?_⟩
  · intro others hothers
    exact unique.unique hothers cut
  · rw [all overlappingPieces cut]
    decide

end GraphBatch
