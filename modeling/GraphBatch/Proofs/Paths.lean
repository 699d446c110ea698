import GraphBatch.Path

namespace GraphBatch.Path

/-- What a joined path holds before the name. -/
def base (directory name : Bytes) : Bytes :=
  if name.head? = some slash then [] else join directory []

theorem join_nil (directory : Bytes) : join directory [] =
    if directory = [] ∨ directory.getLast? = some slash then directory
    else directory ++ [slash] := by
  simp [join]

theorem join_eq_base (directory name : Bytes) :
    join directory name = base directory name ++ name := by
  by_cases h : name.head? = some slash
  · rw [join, base, if_pos h, if_pos h, List.nil_append]
  · rw [join, base, if_neg h, if_neg h, join_nil]
    split
    · rfl
    · rw [List.append_assoc, List.singleton_append]

theorem name_suffix_join (directory name : Bytes) : name <:+ join directory name := by
  rw [join_eq_base]
  exact List.suffix_append _ _

theorem base_congr (directory : Bytes) {a b : Bytes} (h : a.head? = b.head?) :
    base directory a = base directory b := by
  rw [base, base, h]

/-- A name that does not stand alone is set off by a slash. -/
theorem base_closed (directory name : Bytes) :
    base directory name = [] ∨ ∃ front, base directory name = front ++ [slash] := by
  unfold base
  split
  · exact .inl rfl
  · rw [join_nil]
    split
    · rename_i h
      rcases h with rfl | h
      · exact .inl rfl
      · exact .inr (List.getLast?_eq_some_iff.mp h)
    · exact .inr ⟨directory, rfl⟩

/-- Names that do not stand alone are told apart by their paths. -/
theorem join_inj {directory a b : Bytes} (ha : a.head? ≠ some slash)
    (hb : b.head? ≠ some slash) (h : join directory a = join directory b) : a = b := by
  rw [join_eq_base, join_eq_base, base, base, if_neg ha, if_neg hb] at h
  exact List.append_cancel_left h

end GraphBatch.Path
