import GraphBatch.Path
import Mathlib.Data.List.Basic

namespace GraphBatch

namespace Path

/-- The segments that are not passed over wherever they stand. -/
def named (path : Path) : List Bytes :=
  (segments path).filter fun s => s != [] && s != here

theorem same_iff {p q : Path} : same p q = true ↔ components p = components q := by
  rw [same, beq_iff_eq]

/-- A path that begins as another does, and names more behind what it names, has more components
behind its components. -/
theorem components_append {p q : Path} {more : List Bytes} (begins : q.head? = p.head?)
    (first : (segments q).head? = (segments p).head?) (names : named q = named p ++ more) :
    components q = ⟨(components p).absolute, (components p).parts ++ more⟩ := by
  simp only [named] at names
  simp only [components, begins, first, names]
  split
  · rfl
  split
  · rfl
  · rfl

theorem named_append (front name : Bytes) :
    named (front ++ slash :: name) = named front ++ named name := by
  rw [named, segments, List.splitOn_append_cons_self, List.filter_append]
  rfl

/-- Only its first segment is looked at by itself, and what stands behind a slash is none. -/
theorem segments_head? (front name : Bytes) :
    (segments (front ++ slash :: name)).head? = (segments front).head? := by
  rw [segments, segments, List.splitOn_append_cons_self]
  exact List.head?_append_of_ne_nil _ (List.splitOn_ne_nil slash front)

/-- A name that does not stand alone is set off by a slash, which the directory may have brought. -/
theorem join_cases {directory name : Bytes} (given : directory ≠ [])
    (relative : name.head? ≠ some slash) :
    ∃ front, join directory name = front ++ slash :: name ∧
      (directory = front ∨ directory = front ++ [slash]) := by
  rw [join, if_neg relative]
  by_cases closed : directory.getLast? = some slash
  · obtain ⟨front, rfl⟩ := List.getLast?_eq_some_iff.mp closed
    refine ⟨front, ?_, .inr rfl⟩
    rw [if_pos (.inr closed), List.append_assoc, List.singleton_append]
  · refine ⟨directory, ?_, .inl rfl⟩
    rw [if_neg (not_or.mpr ⟨given, closed⟩)]

/-- The components of a path below a directory. -/
theorem components_join {directory name : Bytes} (given : directory ≠ [])
    (relative : name.head? ≠ some slash) :
    components (join directory name) =
      ⟨(components directory).absolute, (components directory).parts ++ named name⟩ := by
  obtain ⟨front, joined, rfl | rfl⟩ := join_cases given relative
  · rw [joined]
    exact components_append (List.head?_append_of_ne_nil _ given) (segments_head? directory name)
      (named_append directory name)
  · -- Behind the final slash of the directory stands an empty segment, which is passed over.
    have closed : named (front ++ [slash]) = named front := by
      rw [named_append]
      exact List.append_nil _
    rw [joined]
    apply components_append
    · cases front <;> rfl
    · rw [segments_head?, segments_head?]
    · rw [named_append, closed]

/-- Only the empty path has no components at all. -/
theorem eq_nil_of_components {path : Path} (h : components path = components []) : path = [] := by
  cases path with
  | nil => rfl
  | cons b rest =>
    exfalso
    have empty : components [] = ⟨false, []⟩ := by decide
    rw [empty] at h
    by_cases absolute : b = slash
    · simp [components, absolute] at h
    · -- The first segment holds the first byte, so it is named or is the dot that counts.
      obtain ⟨s, more, hs⟩ : ∃ s more, segments (b :: rest) = (b :: s) :: more := by
        obtain ⟨s, more, hs⟩ := List.exists_cons_of_ne_nil (List.splitOn_ne_nil slash rest)
        refine ⟨s, more, ?_⟩
        rw [segments, List.splitOn_cons_eq_if_modifyHead, if_neg (by simpa using absolute), hs,
          List.modifyHead_cons]
      by_cases dot : b :: s = here
      · simp [components, absolute, hs, dot] at h
      · simp [components, absolute, hs, dot] at h

/-- Joining does not tell paths apart that are the same, whatever the name is. -/
theorem same_join {p q : Path} (h : same p q = true) (name : Bytes) :
    same (join p name) (join q name) = true := by
  rw [same_iff] at h ⊢
  by_cases relative : name.head? = some slash
  · rw [join, join, if_pos relative, if_pos relative]
  by_cases given : p = []
  · subst given
    rw [eq_nil_of_components h.symm]
  · have given' : q ≠ [] := by
      rintro rfl
      exact given (eq_nil_of_components h)
    rw [components_join given relative, components_join given' relative, h]

end Path

end GraphBatch
