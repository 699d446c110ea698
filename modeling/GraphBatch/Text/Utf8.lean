namespace GraphBatch

/-- Names, paths and arguments are byte strings; nothing promises that they are text. -/
abbrev Bytes := List UInt8

namespace Utf8

def encode (s : String) : Bytes :=
  s.toList.flatMap String.utf8EncodeChar

/-- Both ends belong to the range. -/
structure ByteRange where
  lo : UInt8
  hi : UInt8

def ByteRange.holds (r : ByteRange) (b : UInt8) : Bool :=
  r.lo ≤ b && b ≤ r.hi

def continuation : ByteRange := ⟨0x80, 0xBF⟩

/-- What a sequence owes after its first byte, or `none` if the byte starts no sequence. The
second byte is narrowed after E0, ED, F0 and F4: these leads would otherwise admit a value with a
shorter form, a surrogate, or a value past the last code point. -/
def owedAfter (lead : UInt8) : Option (List ByteRange) :=
  if lead ≤ 0x7F then some []
  else if lead < 0xC2 then none
  else if lead ≤ 0xDF then some [continuation]
  else if lead = 0xE0 then some [⟨0xA0, 0xBF⟩, continuation]
  else if lead = 0xED then some [⟨0x80, 0x9F⟩, continuation]
  else if lead ≤ 0xEF then some [continuation, continuation]
  else if lead = 0xF0 then some [⟨0x90, 0xBF⟩, continuation, continuation]
  else if lead ≤ 0xF3 then some [continuation, continuation, continuation]
  else if lead = 0xF4 then some [⟨0x80, 0x8F⟩, continuation, continuation]
  else none

/-- The code point of a complete sequence. -/
def codePoint : Bytes → Nat
  | [a] => a.toNat
  | [a, b] => a.toNat % 32 * 64 + b.toNat % 64
  | [a, b, c] => a.toNat % 16 * 4096 + b.toNat % 64 * 64 + c.toNat % 64
  | [a, b, c, d] =>
    a.toNat % 8 * 262144 + b.toNat % 64 * 4096 + c.toNat % 64 * 64 + d.toNat % 64
  | _ => 0

inductive Piece
  | scalar (c : Char)
  | broken (bytes : Bytes)
  deriving DecidableEq

/-- The pieces finished so far and the bytes of the open sequence, both newest first. -/
structure Decoder where
  pieces : List Piece
  seen : Bytes
  owed : List ByteRange

namespace Decoder

def start : Decoder := ⟨[], [], []⟩

def begin (pieces : List Piece) (b : UInt8) : Decoder :=
  match owedAfter b with
  | none => ⟨.broken [b] :: pieces, [], []⟩
  | some [] => ⟨.scalar (Char.ofNat (codePoint [b])) :: pieces, [], []⟩
  | some (r :: more) => ⟨pieces, [b], r :: more⟩

def feed (d : Decoder) (b : UInt8) : Decoder :=
  match d.owed with
  | [] => begin d.pieces b
  | r :: more =>
    if r.holds b then
      match more with
      | [] => ⟨.scalar (Char.ofNat (codePoint (b :: d.seen).reverse)) :: d.pieces, [], []⟩
      | next :: later => ⟨d.pieces, b :: d.seen, next :: later⟩
    else begin (.broken d.seen.reverse :: d.pieces) b

/-- A sequence that is open at the end of the input is broken. -/
def finish (d : Decoder) : List Piece :=
  match d.owed with
  | [] => d.pieces.reverse
  | _ :: _ => (.broken d.seen.reverse :: d.pieces).reverse

end Decoder

def pieces (bytes : Bytes) : List Piece :=
  (bytes.foldl Decoder.feed Decoder.start).finish

/-- Stands for one broken piece in lossy text. -/
def replacement : Char := Char.ofNat 0xFFFD

def Piece.shown : Piece → Char
  | .scalar c => c
  | .broken _ => replacement

def Piece.isScalar : Piece → Bool
  | .scalar _ => true
  | .broken _ => false

/-- The text of a byte string, whatever it holds. -/
def lossy (bytes : Bytes) : String :=
  String.ofList ((pieces bytes).map Piece.shown)

/-- The text of a byte string, if all of it is text. -/
def decode? (bytes : Bytes) : Option String :=
  if (pieces bytes).all Piece.isScalar then some (lossy bytes) else none

end Utf8

end GraphBatch
