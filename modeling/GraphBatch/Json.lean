namespace GraphBatch

/-- Numbers are whole, and fields keep their order. -/
inductive Json
  | null
  | bool (value : Bool)
  | number (value : Int)
  | string (value : String)
  | array (items : List Json)
  | object (fields : List (String × Json))

namespace Json

def hexDigit (n : Nat) : Char :=
  Nat.digitChar (n % 16)

/-- The characters that have an escape of one letter, each after its letter. -/
def named : List (Char × Char) :=
  [('"', '"'), ('\\', '\\'), ('b', '\x08'), ('f', '\x0c'), ('n', '\n'), ('r', '\r'), ('t', '\t')]

/-- Quote, backslash and the characters below U+0020 are written as escapes, the rest as it is. -/
def escape (c : Char) : List Char :=
  match named.find? (fun entry => entry.2 == c) with
  | some (letter, _) => ['\\', letter]
  | none =>
    if c.toNat < 0x20 then ['\\', 'u', '0', '0', hexDigit (c.toNat / 16), hexDigit c.toNat]
    else [c]

def quote (s : String) : List Char :=
  '"' :: s.toList.flatMap escape ++ ['"']

def decimal : Int → List Char
  | .ofNat n => Nat.toDigits 10 n
  | .negSucc n => '-' :: Nat.toDigits 10 (n + 1)

structure Layout where
  colon : List Char
  /-- What stands before an item or a closing bracket at this depth. -/
  line : Nat → List Char

namespace Layout

def compact : Layout := ⟨[':'], fun _ => []⟩

/-- Two blanks for each level. -/
def indented : Layout := ⟨[':', ' '], fun depth => '\n' :: List.replicate (2 * depth) ' '⟩

end Layout

mutual

def render (l : Layout) (depth : Nat) : Json → List Char
  | .null => ['n', 'u', 'l', 'l']
  | .bool true => ['t', 'r', 'u', 'e']
  | .bool false => ['f', 'a', 'l', 's', 'e']
  | .number n => decimal n
  | .string s => quote s
  | .array [] => ['[', ']']
  | .array (item :: rest) =>
    '[' :: l.line (depth + 1) ++ render l (depth + 1) item ++ renderItems l (depth + 1) rest ++
      l.line depth ++ [']']
  | .object [] => ['\x7b', '\x7d']
  | .object ((key, value) :: rest) =>
    '\x7b' :: l.line (depth + 1) ++ quote key ++ l.colon ++ render l (depth + 1) value ++
      renderFields l (depth + 1) rest ++ l.line depth ++ ['\x7d']

/-- The items after the first. -/
def renderItems (l : Layout) (depth : Nat) : List Json → List Char
  | [] => []
  | item :: rest => ',' :: l.line depth ++ render l depth item ++ renderItems l depth rest

/-- The fields after the first. -/
def renderFields (l : Layout) (depth : Nat) : List (String × Json) → List Char
  | [] => []
  | (key, value) :: rest =>
    ',' :: l.line depth ++ quote key ++ l.colon ++ render l depth value ++
      renderFields l depth rest

end

def compact (j : Json) : String :=
  String.ofList (j.render .compact 0)

def pretty (j : Json) : String :=
  String.ofList (j.render .indented 0)

end Json

end GraphBatch
