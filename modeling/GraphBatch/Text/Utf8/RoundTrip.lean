import GraphBatch.Text.Utf8

namespace GraphBatch.Utf8

open Decoder

theorem holds_ofNat (r : ByteRange) {n : Nat} (h : n < 256) :
    r.holds (UInt8.ofNat n) = true ↔ r.lo.toNat ≤ n ∧ n ≤ r.hi.toNat := by
  simp only [ByteRange.holds, UInt8.le_iff_toNat_le, UInt8.toNat_ofNat', Bool.and_eq_true,
    decide_eq_true_eq]
  rw [Nat.mod_eq_of_lt (by omega)]

theorem holds_continuation {n : Nat} (h : n < 64) :
    continuation.holds (UInt8.ofNat (n + 128)) = true :=
  (holds_ofNat _ (by omega)).mpr ⟨by simp [continuation], by simp [continuation]; omega⟩

/-- The rule for a first byte, said of its value. -/
theorem owedAfter_ofNat {n : Nat} (h : n < 256) : owedAfter (UInt8.ofNat n) =
    if n ≤ 0x7F then some []
    else if n < 0xC2 then none
    else if n ≤ 0xDF then some [continuation]
    else if n = 0xE0 then some [⟨0xA0, 0xBF⟩, continuation]
    else if n = 0xED then some [⟨0x80, 0x9F⟩, continuation]
    else if n ≤ 0xEF then some [continuation, continuation]
    else if n = 0xF0 then some [⟨0x90, 0xBF⟩, continuation, continuation]
    else if n ≤ 0xF3 then some [continuation, continuation, continuation]
    else if n = 0xF4 then some [⟨0x80, 0x8F⟩, continuation, continuation]
    else none := by
  simp only [owedAfter, UInt8.le_iff_toNat_le, UInt8.lt_iff_toNat_lt, ← UInt8.toNat_inj,
    UInt8.toNat_ofNat', UInt8.reduceToNat]
  rw [Nat.mod_eq_of_lt (by omega)]

theorem feed_two {a b : Nat} (ha : 2 ≤ a) (ha' : a < 32) (hb : b < 64) (ps : List Piece) :
    [UInt8.ofNat (a + 192), UInt8.ofNat (b + 128)].foldl feed ⟨ps, [], []⟩ =
      ⟨.scalar (Char.ofNat (a * 64 + b)) :: ps, [], []⟩ := by
  have e : owedAfter (UInt8.ofNat (a + 192)) = some [continuation] := by
    rw [owedAfter_ofNat (by omega), if_neg (by omega), if_neg (by omega), if_pos (by omega)]
  simp only [List.foldl_cons, List.foldl_nil, feed, begin, e, holds_continuation hb, if_true,
    List.reverse_cons, List.reverse_nil, List.nil_append, List.cons_append, codePoint,
    UInt8.toNat_ofNat']
  have : (a + 192) % 2 ^ 8 % 32 * 64 + (b + 128) % 2 ^ 8 % 64 = a * 64 + b := by omega
  rw [this]

theorem feed_three {a b c : Nat} (ha : a < 16) (hb : b < 64) (hc : c < 64) (low : a = 0 → 32 ≤ b)
    (surrogate : a = 13 → b < 32) (ps : List Piece) :
    [UInt8.ofNat (a + 224), UInt8.ofNat (b + 128), UInt8.ofNat (c + 128)].foldl feed ⟨ps, [], []⟩ =
      ⟨.scalar (Char.ofNat (a * 4096 + b * 64 + c)) :: ps, [], []⟩ := by
  obtain ⟨r, e, hr⟩ : ∃ r, owedAfter (UInt8.ofNat (a + 224)) = some [r, continuation] ∧
      r.holds (UInt8.ofNat (b + 128)) = true := by
    rw [owedAfter_ofNat (by omega), if_neg (by omega), if_neg (by omega), if_neg (by omega)]
    split
    · exact ⟨_, rfl, (holds_ofNat _ (by omega)).mpr ⟨by simp; omega, by simp; omega⟩⟩
    split
    · exact ⟨_, rfl, (holds_ofNat _ (by omega)).mpr ⟨by simp, by simp; omega⟩⟩
    · rw [if_pos (by omega)]
      exact ⟨_, rfl, holds_continuation hb⟩
  simp only [List.foldl_cons, List.foldl_nil, feed, begin, e, hr, holds_continuation hc, if_true,
    List.reverse_cons, List.reverse_nil, List.nil_append, List.cons_append, codePoint,
    UInt8.toNat_ofNat']
  have : (a + 224) % 2 ^ 8 % 16 * 4096 + (b + 128) % 2 ^ 8 % 64 * 64 + (c + 128) % 2 ^ 8 % 64 =
      a * 4096 + b * 64 + c := by omega
  rw [this]

theorem feed_four {a b c d : Nat} (ha : a < 5) (hb : b < 64) (hc : c < 64) (hd : d < 64)
    (low : a = 0 → 16 ≤ b) (high : a = 4 → b < 16) (ps : List Piece) :
    [UInt8.ofNat (a + 240), UInt8.ofNat (b + 128), UInt8.ofNat (c + 128),
      UInt8.ofNat (d + 128)].foldl feed ⟨ps, [], []⟩ =
      ⟨.scalar (Char.ofNat (a * 262144 + b * 4096 + c * 64 + d)) :: ps, [], []⟩ := by
  obtain ⟨r, e, hr⟩ : ∃ r,
      owedAfter (UInt8.ofNat (a + 240)) = some [r, continuation, continuation] ∧
      r.holds (UInt8.ofNat (b + 128)) = true := by
    rw [owedAfter_ofNat (by omega), if_neg (by omega), if_neg (by omega), if_neg (by omega),
      if_neg (by omega), if_neg (by omega), if_neg (by omega)]
    split
    · exact ⟨_, rfl, (holds_ofNat _ (by omega)).mpr ⟨by simp; omega, by simp; omega⟩⟩
    split
    · exact ⟨_, rfl, holds_continuation hb⟩
    · rw [if_pos (by omega)]
      exact ⟨_, rfl, (holds_ofNat _ (by omega)).mpr ⟨by simp, by simp; omega⟩⟩
  simp only [List.foldl_cons, List.foldl_nil, feed, begin, e, hr, holds_continuation hc,
    holds_continuation hd, if_true, List.reverse_cons, List.reverse_nil, List.nil_append,
    List.cons_append, codePoint, UInt8.toNat_ofNat']
  have : (a + 240) % 2 ^ 8 % 8 * 262144 + (b + 128) % 2 ^ 8 % 64 * 4096 +
      (c + 128) % 2 ^ 8 % 64 * 64 + (d + 128) % 2 ^ 8 % 64 =
      a * 262144 + b * 4096 + c * 64 + d := by omega
  rw [this]

/-- The bytes of a character are one piece, whichever pieces came before. -/
theorem feed_encode (c : Char) (ps : List Piece) :
    (String.utf8EncodeChar c).foldl feed ⟨ps, [], []⟩ = ⟨.scalar c :: ps, [], []⟩ := by
  have hv := c.valid
  simp only [UInt32.isValidChar, Nat.isValidChar] at hv
  have hc : Char.ofNat c.val.toNat = c := Char.ofNat_toNat c
  unfold String.utf8EncodeChar
  generalize c.val.toNat = v at hv hc
  simp only
  split
  · have e : owedAfter (UInt8.ofNat v) = some [] := by
      rw [owedAfter_ofNat (by omega), if_pos (by omega)]
    simp only [List.foldl_cons, List.foldl_nil, feed, begin, e, codePoint, UInt8.toNat_ofNat']
    rw [Nat.mod_eq_of_lt (by omega), hc]
  split
  · rw [feed_two (by omega) (by omega) (by omega)]
    have : v / 64 % 32 * 64 + v % 64 = v := by omega
    rw [this, hc]
  split
  · rw [feed_three (by omega) (by omega) (by omega) (by omega) (by omega)]
    have : v / 4096 % 16 * 4096 + v / 64 % 64 * 64 + v % 64 = v := by omega
    rw [this, hc]
  · rw [feed_four (by omega) (by omega) (by omega) (by omega) (by omega) (by omega)]
    have : v / 262144 % 8 * 262144 + v / 4096 % 64 * 4096 + v / 64 % 64 * 64 + v % 64 = v := by
      omega
    rw [this, hc]

theorem feed_encodeAll (cs : List Char) (ps : List Piece) :
    (cs.flatMap String.utf8EncodeChar).foldl feed ⟨ps, [], []⟩ =
      ⟨(cs.map Piece.scalar).reverse ++ ps, [], []⟩ := by
  induction cs generalizing ps with
  | nil => simp
  | cons c cs ih => simp [List.foldl_append, feed_encode, ih]

theorem pieces_encode (s : String) : pieces (encode s) = s.toList.map .scalar := by
  simp [pieces, encode, start, feed_encodeAll, finish]

theorem lossy_encode (s : String) : lossy (encode s) = s := by
  simp [lossy, pieces_encode, Piece.shown, Function.comp_def]

theorem encode_inj {s t : String} : encode s = encode t ↔ s = t := by
  constructor
  · intro h
    rw [← lossy_encode s, h, lossy_encode]
  · rintro rfl
    rfl

theorem decode?_encode (s : String) : decode? (encode s) = some s := by
  simp [decode?, pieces_encode, lossy_encode, Piece.isScalar]

end GraphBatch.Utf8
