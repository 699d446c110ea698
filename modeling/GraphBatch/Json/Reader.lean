import GraphBatch.Json
import GraphBatch.Text.Hex

namespace GraphBatch.Json

def isBlank (c : Char) : Bool :=
  c == ' ' || c == '\n' || c == '\r' || c == '\t'

def skipBlanks (cs : List Char) : List Char :=
  cs.dropWhile isBlank

/-- The character of a four-digit escape; half of a surrogate pair is none. -/
def ofHex? (a b c d : Char) : Option Char := do
  let a ← Text.hexValue? a
  let b ← Text.hexValue? b
  let c ← Text.hexValue? c
  let d ← Text.hexValue? d
  let n := ((a * 16 + b) * 16 + c) * 16 + d
  if n.isValidChar then some (Char.ofNat n) else none

/-- A slash may be escaped, though it need not be. -/
def ofEscape? (letter : Char) : Option Char :=
  if letter = '/' then some '/' else named.lookup letter

/-- The characters of a string up to its closing quote, which is consumed. -/
def readText : List Char → Option (List Char × List Char)
  | [] => none
  | '"' :: rest => some ([], rest)
  | '\\' :: 'u' :: a :: b :: c :: d :: rest => do
    let x ← ofHex? a b c d
    let (text, rest) ← readText rest
    some (x :: text, rest)
  | '\\' :: c :: rest => do
    let x ← ofEscape? c
    let (text, rest) ← readText rest
    some (x :: text, rest)
  | c :: rest =>
    if c = '\\' ∨ c.toNat < 0x20 then none
    else do
      let (text, rest) ← readText rest
      some (c :: text, rest)

def readString (cs : List Char) : Option (String × List Char) :=
  match cs with
  | '"' :: rest => (readText rest).map (fun (text, rest) => (String.ofList text, rest))
  | _ => none

/-- A numeral has no needless leading zero. -/
def readNat (cs : List Char) : Option (Nat × List Char) :=
  let digits := cs.takeWhile Char.isDigit
  if digits = [] ∨ (digits.head? = some '0' ∧ digits.length ≠ 1) then none
  else
    some (digits.foldl (fun n c => n * 10 + (c.toNat - '0'.toNat)) 0, cs.dropWhile Char.isDigit)

def readNumber (cs : List Char) : Option (Int × List Char) :=
  match cs with
  | '-' :: rest => (readNat rest).map (fun (n, rest) => (-(n : Int), rest))
  | _ => (readNat cs).map (fun (n, rest) => ((n : Int), rest))

def expect (c : Char) (cs : List Char) : Option (List Char) :=
  match skipBlanks cs with
  | d :: rest => if d = c then some rest else none
  | [] => none

mutual

def readValue (fuel : Nat) (cs : List Char) : Option (Json × List Char) :=
  match fuel with
  | 0 => none
  | fuel + 1 =>
    match skipBlanks cs with
    | 'n' :: 'u' :: 'l' :: 'l' :: rest => some (.null, rest)
    | 't' :: 'r' :: 'u' :: 'e' :: rest => some (.bool true, rest)
    | 'f' :: 'a' :: 'l' :: 's' :: 'e' :: rest => some (.bool false, rest)
    | '"' :: rest => (readString ('"' :: rest)).map (fun (s, rest) => (.string s, rest))
    | '[' :: rest =>
      match expect ']' rest with
      | some rest => some (.array [], rest)
      | none => do
        let (item, rest) ← readValue fuel rest
        let (items, rest) ← readItems fuel rest
        some (.array (item :: items), rest)
    | '\x7b' :: rest =>
      match expect '\x7d' rest with
      | some rest => some (.object [], rest)
      | none => do
        let (field, rest) ← readField fuel rest
        let (fields, rest) ← readFields fuel rest
        some (.object (field :: fields), rest)
    | rest => (readNumber rest).map (fun (n, rest) => (.number n, rest))

/-- The items after the first, up to the closing bracket. -/
def readItems (fuel : Nat) (cs : List Char) : Option (List Json × List Char) :=
  match fuel with
  | 0 => none
  | fuel + 1 =>
    match expect ']' cs with
    | some rest => some ([], rest)
    | none => do
      let rest ← expect ',' cs
      let (item, rest) ← readValue fuel rest
      let (items, rest) ← readItems fuel rest
      some (item :: items, rest)

/-- The fields after the first, up to the closing brace. -/
def readFields (fuel : Nat) (cs : List Char) : Option (List (String × Json) × List Char) :=
  match fuel with
  | 0 => none
  | fuel + 1 =>
    match expect '\x7d' cs with
    | some rest => some ([], rest)
    | none => do
      let rest ← expect ',' cs
      let (field, rest) ← readField fuel rest
      let (fields, rest) ← readFields fuel rest
      some (field :: fields, rest)

def readField (fuel : Nat) (cs : List Char) : Option ((String × Json) × List Char) :=
  match fuel with
  | 0 => none
  | fuel + 1 => do
    let (key, rest) ← readString (skipBlanks cs)
    let rest ← expect ':' rest
    let (value, rest) ← readValue fuel rest
    some ((key, value), rest)

end

/-- The value a text holds, if it holds one and nothing after it. -/
def parse? (text : String) : Option Json := do
  let (j, rest) ← readValue (2 * text.length + 1) text.toList
  if skipBlanks rest = [] then some j else none

def field? (name : String) : Json → Option Json
  | .object fields => fields.lookup name
  | _ => none

def string? : Json → Option String
  | .string s => some s
  | _ => none

def nat? : Json → Option Nat
  | .number (.ofNat n) => some n
  | _ => none

def items? : Json → Option (List Json)
  | .array items => some items
  | _ => none

end GraphBatch.Json
