import Mathlib.Data.List.Forall2
import GraphBatch.Text.Utf8.RoundTrip

namespace GraphBatch.Utf8

open Decoder

/-- The bytes of some characters. -/
def encodeAll (cs : List Char) : Bytes :=
  cs.flatMap String.utf8EncodeChar

theorem encodeAll_append (s t : List Char) : encodeAll (s ++ t) = encodeAll s ++ encodeAll t := by
  simp [encodeAll]

theorem encode_append (s t : String) : encode (s ++ t) = encode s ++ encode t := by
  simp [encode]

/-- Bytes that do not begin inside a character. -/
def Fresh (bytes : Bytes) : Prop :=
  ∀ b ∈ bytes.head?, continuation.holds b = false

theorem holds_iff (r : ByteRange) (b : UInt8) :
    r.holds b = true ↔ r.lo.toNat ≤ b.toNat ∧ b.toNat ≤ r.hi.toNat := by
  simp only [ByteRange.holds, UInt8.le_iff_toNat_le, Bool.and_eq_true, decide_eq_true_eq]

/-- The four kinds of sequence. Where the first byte narrows the second, the range that is owed
says so. -/
theorem owedAfter_cases {lead : UInt8} {owed : List ByteRange} (h : owedAfter lead = some owed) :
    (owed = [] ∧ lead.toNat ≤ 0x7F) ∨
    (owed = [continuation] ∧ 0xC2 ≤ lead.toNat ∧ lead.toNat ≤ 0xDF) ∨
    (∃ r, owed = [r, continuation] ∧ 0xE0 ≤ lead.toNat ∧ lead.toNat ≤ 0xEF ∧
      0x80 ≤ r.lo.toNat ∧ r.hi.toNat ≤ 0xBF ∧ (lead.toNat = 0xE0 → 0xA0 ≤ r.lo.toNat) ∧
      (lead.toNat = 0xED → r.hi.toNat ≤ 0x9F)) ∨
    (∃ r, owed = [r, continuation, continuation] ∧ 0xF0 ≤ lead.toNat ∧ lead.toNat ≤ 0xF4 ∧
      0x80 ≤ r.lo.toNat ∧ r.hi.toNat ≤ 0xBF ∧ (lead.toNat = 0xF0 → 0x90 ≤ r.lo.toNat) ∧
      (lead.toNat = 0xF4 → r.hi.toNat ≤ 0x8F)) := by
  have hn := lead.toNat_lt
  rw [← UInt8.ofNat_toNat (x := lead), owedAfter_ofNat (by omega)] at h
  by_cases h7F : lead.toNat ≤ 0x7F
  · rw [if_pos h7F] at h
    cases h
    exact .inl ⟨rfl, h7F⟩
  rw [if_neg h7F] at h
  by_cases hC2 : lead.toNat < 0xC2
  · rw [if_pos hC2] at h
    cases h
  rw [if_neg hC2] at h
  by_cases hDF : lead.toNat ≤ 0xDF
  · rw [if_pos hDF] at h
    cases h
    exact .inr (.inl ⟨rfl, by omega, hDF⟩)
  rw [if_neg hDF] at h
  by_cases hE0 : lead.toNat = 0xE0
  · rw [if_pos hE0] at h
    cases h
    exact .inr (.inr (.inl ⟨_, rfl, by omega, by omega, by simp, by simp, by simp, by omega⟩))
  rw [if_neg hE0] at h
  by_cases hED : lead.toNat = 0xED
  · rw [if_pos hED] at h
    cases h
    exact .inr (.inr (.inl ⟨_, rfl, by omega, by omega, by simp, by simp, by omega, by simp⟩))
  rw [if_neg hED] at h
  by_cases hEF : lead.toNat ≤ 0xEF
  · rw [if_pos hEF] at h
    cases h
    exact .inr (.inr (.inl ⟨_, rfl, by omega, hEF, by simp [continuation], by simp [continuation],
      by omega, by omega⟩))
  rw [if_neg hEF] at h
  by_cases hF0 : lead.toNat = 0xF0
  · rw [if_pos hF0] at h
    cases h
    exact .inr (.inr (.inr ⟨_, rfl, by omega, by omega, by simp, by simp, by simp, by omega⟩))
  rw [if_neg hF0] at h
  by_cases hF3 : lead.toNat ≤ 0xF3
  · rw [if_pos hF3] at h
    cases h
    exact .inr (.inr (.inr ⟨_, rfl, by omega, by omega, by simp [continuation],
      by simp [continuation], by omega, by omega⟩))
  rw [if_neg hF3] at h
  by_cases hF4 : lead.toNat = 0xF4
  · rw [if_pos hF4] at h
    cases h
    exact .inr (.inr (.inr ⟨_, rfl, by omega, by omega, by simp, by simp, by omega, by simp⟩))
  rw [if_neg hF4] at h
  cases h

/-- Every byte a sequence can owe is a continuation byte. -/
theorem owedAfter_continuation {lead : UInt8} {owed : List ByteRange}
    (h : owedAfter lead = some owed) {r : ByteRange} (hr : r ∈ owed) {b : UInt8}
    (hb : r.holds b = true) : continuation.holds b = true := by
  rw [holds_iff] at hb ⊢
  suffices 0x80 ≤ r.lo.toNat ∧ r.hi.toNat ≤ 0xBF by
    simp only [continuation, UInt8.reduceToNat]
    omega
  rcases owedAfter_cases h with ⟨rfl, _⟩ | ⟨rfl, _⟩ | ⟨q, rfl, _, _, hl, hh, _⟩ |
    ⟨q, rfl, _, _, hl, hh, _⟩
  all_goals simp only [List.mem_cons, List.not_mem_nil, or_false] at hr
  · simp [hr, continuation]
  · rcases hr with rfl | rfl
    · exact ⟨hl, hh⟩
    · simp [continuation]
  · rcases hr with rfl | rfl | rfl
    · exact ⟨hl, hh⟩
    · simp [continuation]
    · simp [continuation]

/-- An open sequence has seen its first byte and then bytes that were owed, in order. -/
def Opened (seen : Bytes) (owed : List ByteRange) : Prop :=
  ∃ lead tail met, seen.reverse = lead :: tail ∧ owedAfter lead = some (met ++ owed) ∧
    List.Forall₂ (fun r b => r.holds b = true) met tail

def Decoder.Sound (d : Decoder) : Prop :=
  d.owed = [] ∨ Opened d.seen d.owed

theorem begin_sound (ps : List Piece) (b : UInt8) : (begin ps b).Sound := by
  unfold begin
  split
  · exact .inl rfl
  · exact .inl rfl
  · rename_i r more h
    exact .inr ⟨b, [], [], rfl, h, .nil⟩

/-- One more byte that was owed. -/
theorem Opened.step {seen : Bytes} {r : ByteRange} {more : List ByteRange} {b : UInt8}
    (h : Opened seen (r :: more)) (hb : r.holds b = true) : Opened (b :: seen) more := by
  obtain ⟨lead, tail, met, hs, ho, hm⟩ := h
  refine ⟨lead, tail ++ [b], met ++ [r], by simp [hs], by simpa using ho, ?_⟩
  exact List.rel_append hm (.cons hb .nil)

theorem feed_sound {d : Decoder} (h : d.Sound) (b : UInt8) : (feed d b).Sound := by
  unfold feed
  split
  · exact begin_sound _ b
  · rename_i r more ho
    split
    · rename_i hb
      split
      · exact .inl rfl
      · rw [Sound, ho] at h
        exact .inr ((h.resolve_left (by simp)).step hb)
    · exact begin_sound _ b

theorem foldl_sound {d : Decoder} (h : d.Sound) (bytes : Bytes) : (bytes.foldl feed d).Sound := by
  induction bytes generalizing d with
  | nil => exact h
  | cons b bytes ih => exact ih (feed_sound h b)

/-- The decoder with more pieces finished before its own. -/
def Decoder.after (d : Decoder) (ps : List Piece) : Decoder :=
  { d with pieces := d.pieces ++ ps }

theorem begin_after (qs ps : List Piece) (b : UInt8) :
    begin (qs ++ ps) b = (begin qs b).after ps := by
  unfold begin
  split <;> rfl

/-- What is finished plays no part in what comes next. -/
theorem feed_after (d : Decoder) (ps : List Piece) (b : UInt8) :
    feed (d.after ps) b = (feed d b).after ps := by
  obtain ⟨qs, seen, owed⟩ := d
  cases owed with
  | nil => exact begin_after qs ps b
  | cons r more =>
    simp only [feed, after]
    split
    · cases more <;> rfl
    · exact begin_after (.broken seen.reverse :: qs) ps b

theorem foldl_after (d : Decoder) (ps : List Piece) (bytes : Bytes) :
    bytes.foldl feed (d.after ps) = (bytes.foldl feed d).after ps := by
  induction bytes generalizing d with
  | nil => rfl
  | cons b bytes ih => rw [List.foldl_cons, List.foldl_cons, feed_after, ih]

theorem finish_after (d : Decoder) (ps : List Piece) :
    (d.after ps).finish = ps.reverse ++ d.finish := by
  obtain ⟨qs, seen, owed⟩ := d
  cases owed <;> simp [finish, after]

/-- Between two sequences the decoder is as good as new. -/
theorem finish_between (ps : List Piece) (bytes : Bytes) :
    (bytes.foldl feed ⟨ps, [], []⟩).finish = ps.reverse ++ pieces bytes := by
  have h := foldl_after start ps bytes
  rw [pieces, ← finish_after, ← h]
  rfl

/-- A byte that continues nothing ends the open sequence as the end of the input would. -/
theorem Decoder.Sound.feed_fresh {d : Decoder} (h : d.Sound) {b : UInt8}
    (hb : continuation.holds b = false) : feed d b = begin d.finish.reverse b := by
  obtain ⟨ps, seen, owed⟩ := d
  cases owed with
  | nil => simp [feed, finish]
  | cons r more =>
    obtain ⟨lead, tail, met, _, ho, _⟩ := h.resolve_left (by simp)
    have hr : r.holds b = false := by
      cases hc : r.holds b with
      | false => rfl
      | true =>
        rw [owedAfter_continuation ho (by simp) hc] at hb
        cases hb
    simp [feed, finish, hr]

/-- Decoding starts afresh where bytes begin no continuation. -/
theorem pieces_append (a : Bytes) {b : Bytes} (fresh : Fresh b) :
    pieces (a ++ b) = pieces a ++ pieces b := by
  cases b with
  | nil => simp [pieces, start, finish]
  | cons x b =>
    have hs : (a.foldl feed start).Sound := foldl_sound (.inl rfl) a
    have hx := begin_after [] (a.foldl feed start).finish.reverse x
    rw [List.nil_append] at hx
    simp only [pieces, List.foldl_append, List.foldl_cons]
    rw [hs.feed_fresh (fresh x rfl), hx, foldl_after, finish_after, List.reverse_reverse]
    rfl

/-- Text at the front is decoded as it was written, whatever follows. -/
theorem pieces_encodeAll_append (cs : List Char) (bytes : Bytes) :
    pieces (encodeAll cs ++ bytes) = cs.map .scalar ++ pieces bytes := by
  rw [pieces, List.foldl_append]
  have h := feed_encodeAll cs []
  rw [List.append_nil] at h
  rw [start, encodeAll, h, finish_between, List.reverse_reverse]

theorem pieces_encodeAll (cs : List Char) : pieces (encodeAll cs) = cs.map .scalar := by
  have h := pieces_encode (String.ofList cs)
  rwa [encode, String.toList_ofList] at h

theorem val_ofNat {v : Nat} (h : v.isValidChar) : (Char.ofNat v).val.toNat = v := by
  rw [Char.ofNat, dif_pos h]
  rfl

/-- How a character is written, said of its value. -/
theorem encodeChar_ofNat {v : Nat} (h : v.isValidChar) : String.utf8EncodeChar (Char.ofNat v) =
    if v ≤ 0x7F then [UInt8.ofNat v]
    else if v ≤ 0x7FF then [UInt8.ofNat (v / 64 % 32 + 192), UInt8.ofNat (v % 64 + 128)]
    else if v ≤ 0xFFFF then
      [UInt8.ofNat (v / 4096 % 16 + 224), UInt8.ofNat (v / 64 % 64 + 128),
        UInt8.ofNat (v % 64 + 128)]
    else
      [UInt8.ofNat (v / 262144 % 8 + 240), UInt8.ofNat (v / 4096 % 64 + 128),
        UInt8.ofNat (v / 64 % 64 + 128), UInt8.ofNat (v % 64 + 128)] := by
  simp only [String.utf8EncodeChar, val_ofNat h]

theorem ofNat_eq {n : Nat} {b : UInt8} (h : n = b.toNat) : UInt8.ofNat n = b := by
  rw [h, UInt8.ofNat_toNat]

theorem encodeChar_one {a : UInt8} (ha : a.toNat ≤ 0x7F) :
    String.utf8EncodeChar (Char.ofNat (codePoint [a])) = [a] := by
  rw [codePoint, encodeChar_ofNat (by simp only [Nat.isValidChar]; omega), if_pos ha,
    UInt8.ofNat_toNat]

theorem encodeChar_two {a b : UInt8} (ha : 0xC2 ≤ a.toNat) (ha' : a.toNat ≤ 0xDF)
    (hb : 0x80 ≤ b.toNat) (hb' : b.toNat ≤ 0xBF) :
    String.utf8EncodeChar (Char.ofNat (codePoint [a, b])) = [a, b] := by
  rw [codePoint, encodeChar_ofNat (by simp only [Nat.isValidChar]; omega), if_neg (by omega),
    if_pos (by omega), ofNat_eq (b := a) (by omega), ofNat_eq (b := b) (by omega)]

theorem encodeChar_three {a b c : UInt8} (ha : 0xE0 ≤ a.toNat) (ha' : a.toNat ≤ 0xEF)
    (hb : 0x80 ≤ b.toNat) (hb' : b.toNat ≤ 0xBF) (hc : 0x80 ≤ c.toNat) (hc' : c.toNat ≤ 0xBF)
    (low : a.toNat = 0xE0 → 0xA0 ≤ b.toNat) (surrogate : a.toNat = 0xED → b.toNat ≤ 0x9F) :
    String.utf8EncodeChar (Char.ofNat (codePoint [a, b, c])) = [a, b, c] := by
  rw [codePoint, encodeChar_ofNat (by simp only [Nat.isValidChar]; omega), if_neg (by omega),
    if_neg (by omega), if_pos (by omega), ofNat_eq (b := a) (by omega),
    ofNat_eq (b := b) (by omega), ofNat_eq (b := c) (by omega)]

theorem encodeChar_four {a b c d : UInt8} (ha : 0xF0 ≤ a.toNat) (ha' : a.toNat ≤ 0xF4)
    (hb : 0x80 ≤ b.toNat) (hb' : b.toNat ≤ 0xBF) (hc : 0x80 ≤ c.toNat) (hc' : c.toNat ≤ 0xBF)
    (hd : 0x80 ≤ d.toNat) (hd' : d.toNat ≤ 0xBF) (low : a.toNat = 0xF0 → 0x90 ≤ b.toNat)
    (high : a.toNat = 0xF4 → b.toNat ≤ 0x8F) :
    String.utf8EncodeChar (Char.ofNat (codePoint [a, b, c, d])) = [a, b, c, d] := by
  rw [codePoint, encodeChar_ofNat (by simp only [Nat.isValidChar]; omega), if_neg (by omega),
    if_neg (by omega), if_neg (by omega), ofNat_eq (b := a) (by omega),
    ofNat_eq (b := b) (by omega), ofNat_eq (b := c) (by omega), ofNat_eq (b := d) (by omega)]

/-- A complete sequence is how its character is written. -/
theorem Opened.encode_codePoint {seen : Bytes} (h : Opened seen []) :
    String.utf8EncodeChar (Char.ofNat (codePoint seen.reverse)) = seen.reverse := by
  obtain ⟨lead, tail, met, hs, ho, hm⟩ := h
  rw [List.append_nil] at ho
  rw [hs]
  have inside : ∀ {b : UInt8}, continuation.holds b = true → 0x80 ≤ b.toNat ∧ b.toNat ≤ 0xBF :=
    fun hb => (holds_iff _ _).mp hb
  rcases owedAfter_cases ho with ⟨rfl, hl⟩ | ⟨rfl, hl, hl'⟩ | ⟨r, rfl, hl, hl', hr, hr', h0, hd⟩ |
    ⟨r, rfl, hl, hl', hr, hr', h0, h4⟩
  · cases hm
    exact encodeChar_one hl
  · obtain _ | ⟨hb, ⟨⟩⟩ := hm
    exact encodeChar_two hl hl' (inside hb).1 (inside hb).2
  · obtain _ | ⟨hb, _ | ⟨hc, ⟨⟩⟩⟩ := hm
    rw [holds_iff] at hb
    exact encodeChar_three hl hl' (by omega) (by omega) (inside hc).1 (inside hc).2
      (fun he => by have := h0 he; omega) (fun he => by have := hd he; omega)
  · obtain _ | ⟨hb, _ | ⟨hc, _ | ⟨hd, ⟨⟩⟩⟩⟩ := hm
    rw [holds_iff] at hb
    exact encodeChar_four hl hl' (by omega) (by omega) (inside hc).1 (inside hc).2
      (inside hd).1 (inside hd).2 (fun he => by have := h0 he; omega)
      (fun he => by have := h4 he; omega)

/-- The bytes a piece was cut from. -/
def Piece.bytes : Piece → Bytes
  | .scalar c => String.utf8EncodeChar c
  | .broken bytes => bytes

/-- An open sequence ends in one piece, and what that piece does not hold is decoded by itself. -/
theorem Opened.finish {seen : Bytes} {owed : List ByteRange} (h : Opened seen owed)
    (ho : owed ≠ []) (bytes : Bytes) :
    ∃ w left, seen.reverse ++ bytes = w.bytes ++ left ∧
      (bytes.foldl feed ⟨[], seen, owed⟩).finish = w :: pieces left := by
  induction bytes generalizing seen owed with
  | nil =>
    cases owed with
    | nil => exact absurd rfl ho
    | cons r more => exact ⟨.broken seen.reverse, [], rfl, rfl⟩
  | cons b bytes ih =>
    cases owed with
    | nil => exact absurd rfl ho
    | cons r more =>
      cases hb : r.holds b with
      | false =>
        refine ⟨.broken seen.reverse, b :: bytes, rfl, ?_⟩
        simp only [List.foldl_cons, feed, hb, Bool.false_eq_true, if_false]
        exact finish_between [.broken seen.reverse] (b :: bytes)
      | true =>
        have hn := h.step hb
        cases more with
        | nil =>
          refine ⟨.scalar (Char.ofNat (codePoint (b :: seen).reverse)), bytes, ?_, ?_⟩
          · rw [Piece.bytes, hn.encode_codePoint]
            simp
          · simp only [List.foldl_cons, feed, hb, if_true]
            exact finish_between [.scalar _] bytes
        | cons next later =>
          obtain ⟨w, left, hl, hf⟩ := ih hn (by simp)
          refine ⟨w, left, by simpa using hl, ?_⟩
          simpa only [List.foldl_cons, feed, hb, if_true] using hf

/-- The first piece holds the first bytes, and the rest is decoded by itself. -/
theorem pieces_uncons {bytes : Bytes} {w : Piece} {ws : List Piece} (h : pieces bytes = w :: ws) :
    ∃ left, bytes = w.bytes ++ left ∧ pieces left = ws := by
  cases bytes with
  | nil => cases h
  | cons b bytes =>
    have hd : (bytes.foldl feed (begin [] b)).finish = w :: ws := h
    unfold begin at hd
    split at hd
    · rw [finish_between] at hd
      cases hd
      exact ⟨bytes, rfl, rfl⟩
    · rename_i ho
      rw [finish_between] at hd
      cases hd
      have hb : Opened [b] [] := ⟨b, [], [], rfl, ho, .nil⟩
      exact ⟨bytes, congrArg (· ++ bytes) hb.encode_codePoint.symm, rfl⟩
    · rename_i r more ho
      have hb : Opened [b] (r :: more) := ⟨b, [], [], rfl, ho, .nil⟩
      obtain ⟨w', left, hl, hf⟩ := hb.finish (by simp) bytes
      rw [hf] at hd
      cases hd
      exact ⟨left, hl, rfl⟩

/-- Where the pieces of a byte string are cut in two, the bytes can be cut in two. -/
theorem pieces_split {bytes : Bytes} {first rest : List Piece} (h : pieces bytes = first ++ rest) :
    ∃ left, bytes = first.flatMap Piece.bytes ++ left ∧ pieces left = rest := by
  induction first generalizing bytes with
  | nil => exact ⟨bytes, rfl, h⟩
  | cons w ws ih =>
    obtain ⟨left, rfl, hl⟩ := pieces_uncons h
    obtain ⟨left, rfl, hr⟩ := ih hl
    exact ⟨left, by simp, hr⟩

theorem length_finish_feed (d : Decoder) (b : UInt8) :
    d.finish.length ≤ (feed d b).finish.length := by
  have begun : ∀ ps, ps.length ≤ (begin ps b).finish.length := by
    intro ps
    unfold begin
    split <;> simp [Decoder.finish]
  obtain ⟨ps, seen, owed⟩ := d
  cases owed with
  | nil => simpa [Decoder.finish, feed] using begun ps
  | cons r more =>
    cases hb : r.holds b with
    | false => simpa [Decoder.finish, feed, hb] using begun (.broken seen.reverse :: ps)
    | true => cases more <;> simp [Decoder.finish, feed, hb]

/-- More bytes never make fewer pieces. -/
theorem length_pieces_append (a b : Bytes) : (pieces a).length ≤ (pieces (a ++ b)).length := by
  rw [pieces, pieces, List.foldl_append]
  generalize a.foldl feed start = d
  induction b generalizing d with
  | nil => exact Nat.le_refl _
  | cons x b ih => exact Nat.le_trans (length_finish_feed d x) (ih (feed d x))

theorem pieces_eq_nil {bytes : Bytes} : pieces bytes = [] ↔ bytes = [] := by
  refine ⟨fun h => ?_, fun h => by rw [h]; rfl⟩
  cases bytes with
  | nil => rfl
  | cons b bytes =>
    have one : 0 < (pieces [b]).length := by
      change 0 < (begin [] b).finish.length
      unfold begin
      split <;> simp [Decoder.finish]
    have more := length_pieces_append [b] bytes
    rw [List.singleton_append, h] at more
    exact absurd one (Nat.not_lt.mpr more)

theorem scalars_of_all {ps : List Piece} (h : ps.all Piece.isScalar = true) :
    ps = (ps.map Piece.shown).map .scalar := by
  induction ps with
  | nil => rfl
  | cons p ps ih =>
    rw [List.all_cons, Bool.and_eq_true] at h
    cases p with
    | scalar c => rw [List.map_cons, List.map_cons, ← ih h.2, Piece.shown]
    | broken bytes => cases h.1

/-- Bytes that are all text are the bytes of that text. -/
theorem pieces_eq_scalars {bytes : Bytes} {cs : List Char} (h : pieces bytes = cs.map .scalar) :
    bytes = encodeAll cs := by
  obtain ⟨left, rfl, hl⟩ := pieces_split (h.trans (List.append_nil _).symm)
  rw [pieces_eq_nil.mp hl, List.append_nil, List.flatMap_map]
  rfl

theorem decode?_eq_some_iff {bytes : Bytes} {text : String} :
    decode? bytes = some text ↔ bytes = encode text := by
  constructor
  · intro h
    unfold decode? at h
    split at h
    · rename_i hall
      obtain rfl := Option.some.inj h
      have hbytes := pieces_eq_scalars (scalars_of_all hall)
      rwa [lossy, encode, String.toList_ofList]
    · cases h
  · rintro rfl
    exact decode?_encode text

end GraphBatch.Utf8
