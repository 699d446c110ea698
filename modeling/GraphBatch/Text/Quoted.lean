import GraphBatch.Text.Unprintable
import GraphBatch.Text.Utf8

namespace GraphBatch.Text

/-- The letter that a backslash makes stand for a character. -/
def letter? (c : Char) : Option Char :=
  match c with
  | '"' | '\\' => some c
  | '\n' => some 'n'
  | '\r' => some 'r'
  | '\t' => some 't'
  | '\x00' => some '0'
  | _ => none

def escape (c : Char) : List Char :=
  match letter? c with
  | some letter => ['\\', letter]
  | none =>
    if isPrintable c then [c] else ['\\', 'u', '\x7b'] ++ Nat.toDigits 16 c.toNat ++ ['\x7d']

def upperHexDigit (n : Nat) : Char :=
  (Nat.digitChar (n % 16)).toUpper

/-- A byte that is part of no text, as two digits. -/
def escapeByte (b : UInt8) : List Char :=
  ['\\', 'x', upperHexDigit (b.toNat / 16), upperHexDigit b.toNat]

def escapePiece : Utf8.Piece → List Char
  | .scalar c => escape c
  | .broken bytes => bytes.flatMap escapeByte

def quote (s : String) : String :=
  String.ofList ('"' :: s.toList.flatMap escape ++ ['"'])

def quoteBytes (bytes : Bytes) : String :=
  String.ofList ('"' :: (Utf8.pieces bytes).flatMap escapePiece ++ ['"'])

end GraphBatch.Text
