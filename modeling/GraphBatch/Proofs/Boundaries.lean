import GraphBatch.Proofs.Decoding
import GraphBatch.Proofs.Renaming

namespace GraphBatch.Utf8

theorem not_holds_continuation {n : Nat} (h : n < 256) (hn : n < 128 ∨ 192 ≤ n) :
    continuation.holds (UInt8.ofNat n) = false := by
  rw [Bool.eq_false_iff, ne_eq, holds_ofNat _ h]
  simp only [continuation, UInt8.reduceToNat]
  omega

/-- Only the first byte of a character is no continuation. -/
theorem encodeChar_shape (c : Char) : ∃ lead tail, String.utf8EncodeChar c = lead :: tail ∧
    continuation.holds lead = false ∧ ∀ b ∈ tail, continuation.holds b = true := by
  have hv := c.valid
  simp only [UInt32.isValidChar, Nat.isValidChar] at hv
  unfold String.utf8EncodeChar
  generalize c.val.toNat = v at hv
  simp only
  split
  · exact ⟨_, _, rfl, not_holds_continuation (by omega) (by omega), by simp⟩
  split
  · refine ⟨_, _, rfl, not_holds_continuation (by omega) (by omega), ?_⟩
    simp only [List.mem_cons, List.not_mem_nil, or_false]
    rintro b rfl
    exact holds_continuation (by omega)
  split
  · refine ⟨_, _, rfl, not_holds_continuation (by omega) (by omega), ?_⟩
    simp only [List.mem_cons, List.not_mem_nil, or_false]
    rintro b (rfl | rfl) <;> exact holds_continuation (by omega)
  · refine ⟨_, _, rfl, not_holds_continuation (by omega) (by omega), ?_⟩
    simp only [List.mem_cons, List.not_mem_nil, or_false]
    rintro b (rfl | rfl | rfl) <;> exact holds_continuation (by omega)

theorem encodeAll_cons (c : Char) (cs : List Char) :
    encodeAll (c :: cs) = String.utf8EncodeChar c ++ encodeAll cs :=
  rfl

theorem encodeAll_eq_nil {cs : List Char} : encodeAll cs = [] ↔ cs = [] := by
  cases cs with
  | nil => simp [encodeAll]
  | cons c cs =>
    obtain ⟨lead, tail, he, _⟩ := encodeChar_shape c
    simp [encodeAll_cons, he]

theorem encodeAll_fresh {cs : List Char} (h : cs ≠ []) (bytes : Bytes) :
    Fresh (encodeAll cs ++ bytes) := by
  cases cs with
  | nil => exact absurd rfl h
  | cons c cs =>
    obtain ⟨lead, tail, he, hl, _⟩ := encodeChar_shape c
    simpa [Fresh, encodeAll_cons, he] using hl

/-- Written text is cut between characters, unless what is cut off begins with a continuation. -/
theorem encodeAll_cut {p q : Bytes} {t : List Char} (h : p ++ q = encodeAll t) (fresh : Fresh q) :
    ∃ x y, t = x ++ y ∧ encodeAll x = p ∧ encodeAll y = q := by
  induction t generalizing p with
  | nil =>
    obtain ⟨rfl, rfl⟩ := List.append_eq_nil_iff.mp h
    exact ⟨[], [], rfl, rfl, rfl⟩
  | cons c t ih =>
    rw [encodeAll_cons, List.append_eq_append_iff] at h
    rcases h with ⟨a, hc, hq⟩ | ⟨b, rfl, ht⟩
    · -- The cut is at or inside the first character; inside it, `a` is of its later bytes.
      obtain ⟨lead, tail, he, _, htail⟩ := encodeChar_shape c
      cases p with
      | nil => exact ⟨[], c :: t, rfl, rfl, by rw [hq, encodeAll_cons, hc]; rfl⟩
      | cons x p =>
        cases a with
        | nil =>
          refine ⟨[c], t, rfl, ?_, by rw [hq]; rfl⟩
          rw [encodeAll_cons, hc]
          simp [encodeAll]
        | cons y a =>
          rw [he, List.cons_append, List.cons.injEq] at hc
          have hy := htail y (by rw [hc.2]; simp)
          rw [fresh y (by rw [hq]; rfl)] at hy
          cases hy
    · obtain ⟨x, y, rfl, rfl, rfl⟩ := ih ht.symm
      exact ⟨c :: x, y, rfl, rfl, rfl⟩

theorem encodeAll_prefix {s t : List Char} {q : Bytes} (h : encodeAll s ++ q = encodeAll t) :
    ∃ y, t = s ++ y ∧ encodeAll y = q := by
  have hp : s.map Piece.scalar ++ pieces q = t.map Piece.scalar := by
    rw [← pieces_encodeAll_append, h, pieces_encodeAll]
  obtain ⟨s', y, rfl, hs, _⟩ := List.append_eq_map_iff.mp hp
  obtain rfl : s' = s := List.map_injective_iff.mpr (fun _ _ => Piece.scalar.inj) hs
  rw [encodeAll_append, List.append_cancel_left_eq] at h
  exact ⟨y, rfl, h.symm⟩

/-- Written text stands in written text exactly where its characters do. -/
theorem encodeAll_carries {s : List Char} (hs : s ≠ []) : Carries encodeAll s where
  empty := encodeAll_eq_nil
  grows before more := by simp [encodeAll_append]
  splices before after := by simp [encodeAll_append]
  found := by
    intro t p q h
    rw [List.append_assoc] at h
    obtain ⟨x, y, rfl, rfl, hy⟩ := encodeAll_cut h.symm (encodeAll_fresh hs q)
    obtain ⟨z, rfl, rfl⟩ := encodeAll_prefix hy.symm
    exact ⟨x, z, by simp, rfl, rfl⟩

/-- The characters of a byte string's lossy text. -/
def shownText (bytes : Bytes) : List Char :=
  (pieces bytes).map Piece.shown

theorem toList_lossy (bytes : Bytes) : (lossy bytes).toList = shownText bytes :=
  String.toList_ofList

theorem map_shown_scalar (s : List Char) : (s.map Piece.scalar).map Piece.shown = s := by
  rw [List.map_map]
  exact List.map_id s

theorem shownText_encodeAll (s : List Char) : shownText (encodeAll s) = s := by
  rw [shownText, pieces_encodeAll, map_shown_scalar]

theorem shownText_eq_nil {bytes : Bytes} : shownText bytes = [] ↔ bytes = [] :=
  List.map_eq_nil_iff.trans pieces_eq_nil

/-- Text that is put between two byte strings keeps them apart. -/
theorem pieces_splice (p q : Bytes) {s : List Char} (hs : s ≠ []) :
    pieces (p ++ encodeAll s ++ q) = pieces p ++ s.map .scalar ++ pieces q := by
  rw [List.append_assoc, pieces_append p (encodeAll_fresh hs q), pieces_encodeAll_append,
    List.append_assoc]

theorem shownText_splices {s : List Char} (hs : s ≠ []) : Splices shownText (encodeAll s) := by
  intro before after
  rw [shownText_encodeAll, shownText, pieces_splice before after hs, List.map_append,
    List.map_append, map_shown_scalar]
  rfl

/-- What shows as text without the mark for broken bytes was cut from that text. -/
theorem scalar_of_shown {ps : List Piece} {s : List Char} (h : ps.map Piece.shown = s)
    (clean : replacement ∉ s) : ps = s.map .scalar := by
  subst h
  rw [List.map_map]
  refine (List.map_id ps).symm.trans (List.map_congr_left ?_)
  intro w hw
  cases w with
  | scalar c => rfl
  | broken bytes => exact absurd (List.mem_map.mpr ⟨_, hw, rfl⟩) clean

/-- Lossy text shows written text exactly where its bytes stand. -/
theorem shownText_carries {s : List Char} (hs : s ≠ []) (clean : replacement ∉ s) :
    Carries shownText (encodeAll s) where
  empty := shownText_eq_nil
  grows before more := by simpa [shownText] using length_pieces_append before more
  splices := shownText_splices hs
  found := by
    intro name x y h
    rw [shownText_encodeAll, shownText, List.map_eq_append_iff] at h
    obtain ⟨pxs, py, hp, hxs, rfl⟩ := h
    obtain ⟨px, ps, rfl, rfl, hps⟩ := List.map_eq_append_iff.mp hxs
    obtain rfl := scalar_of_shown hps clean
    rw [List.append_assoc] at hp
    obtain ⟨left, rfl, hl⟩ := pieces_split hp
    obtain ⟨rest, rfl, rfl⟩ := pieces_split hl
    have ht : (s.map Piece.scalar).flatMap Piece.bytes = encodeAll s := List.flatMap_map ..
    rw [ht, ← List.append_assoc] at hp ⊢
    refine ⟨px.flatMap Piece.bytes, rest, rfl, ?_, rfl⟩
    -- The text cuts off the bytes before it, so these show what they showed in the whole.
    rw [pieces_splice _ _ hs, ← List.append_assoc, List.append_cancel_right_eq,
      List.append_cancel_right_eq] at hp
    rw [shownText, hp]

end GraphBatch.Utf8
