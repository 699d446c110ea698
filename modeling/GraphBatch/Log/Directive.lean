import GraphBatch.Log.Level
import GraphBatch.Pattern.Reader

namespace GraphBatch.Log

inductive Expected
  | anything
  /-- What is written is a pattern. -/
  | text (written : List Char) (pattern : Pattern)
  /-- A number or a truth value, which no text is. -/
  | scalar
  deriving DecidableEq

structure FieldTest where
  name : List Char
  expected : Expected
  deriving DecidableEq

namespace FieldTest

def dropSign (cs : List Char) : List Char :=
  if cs.head? = some '+' ∨ cs.head? = some '-' then cs.drop 1 else cs

def isExponent : List Char → Bool
  | [] => true
  | e :: cs =>
    let digits := dropSign cs
    (e == 'e' || e == 'E') && !digits.isEmpty && digits.all Char.isDigit

/-- A decimal numeral, with a point or an exponent or neither, or the name of a value that has no
numeral. -/
def isNumber (cs : List Char) : Bool :=
  let cs := dropSign cs
  let rest := cs.dropWhile Char.isDigit
  let decimals := if rest.head? = some '.' then (rest.drop 1).takeWhile Char.isDigit else []
  let after := if rest.head? = some '.' then (rest.drop 1).dropWhile Char.isDigit else rest
  ["inf", "infinity", "nan"].contains (String.ofList (cs.map Char.toLower)) ||
    (cs.head?.any Char.isDigit || !decimals.isEmpty) && isExponent after

def expectedOf? (value : List Char) : Option Expected :=
  if value = "true".toList ∨ value = "false".toList ∨ isNumber value then some .scalar
  else (Pattern.parse? value).map (Expected.text value)

/-- A name alone, or a name and a value. What a second equals sign begins does not count. -/
def ofChars? (cs : List Char) : Option FieldTest :=
  if cs = [] then none
  else
    let name := cs.takeWhile (· != '=')
    match cs.dropWhile (· != '=') with
    | [] => some ⟨name, .anything⟩
    | _ :: value => (expectedOf? (value.takeWhile (· != '='))).map (FieldTest.mk name)

end FieldTest

structure Directive where
  /-- The empty target begins every other. -/
  target : List Char
  span : Option (List Char) := none
  field : Option FieldTest := none
  threshold : Threshold
  deriving DecidableEq

namespace Directive

/-- What a directive speaks of, whatever it says. -/
def sameSubject (a b : Directive) : Bool :=
  a.target == b.target && a.span == b.span && a.field == b.field

/-- It names a span, or a field that one may have. -/
def concernsSpans (d : Directive) : Bool :=
  d.span.isSome || d.field.isSome

/-- It names no span, and asks of a field only that there is one. -/
def concernsLines (d : Directive) : Bool :=
  d.span.isNone && d.field.all (fun f => f.expected == .anything)

def mayBegin (c : Char) : Bool :=
  c == '-' || c == ':' || c == '_' || Text.isAlphanumeric c

/-- A text byte for byte: a character stands where it begins. -/
def spread (cs : List Char) : List (Option Char) :=
  cs.flatMap (fun c => some c :: List.replicate (c.utf8Size - 1) none)

/-- An item being read: the bytes of it without the blanks around it, and beside each the byte in
the same place of the item as it stands. The first is looked at, the second is kept; so blanks at
the end are kept with what comes last, and blanks at the front shift everything. -/
abbrev Reading := List (Option Char × Option Char)

def kept (r : Reading) : List Char :=
  r.filterMap Prod.snd

/-- Goes on up to one of two characters. -/
def upTo (a b : Char) (r : Reading) : Reading × Reading :=
  r.span (fun (c, _) => c != some a && c != some b)

/-- Without a level everything is shown. -/
def levelOf? (text : List Char) : Option Threshold :=
  if text = [] then some .everything else Threshold.ofChars? text

def afterSpan? (r : Reading) (tail : List Char) : Option Threshold :=
  match r with
  | [] => some .everything
  | (some '=', _) :: level => levelOf? (kept level ++ tail)
  | _ => none

/-- After the bracket that opens a span. A span with a field may lack a name. -/
def inSpan? (target : List Char) (r : Reading) (tail : List Char) : Option Directive :=
  let (name, rest) := upTo ']' '\x7b' r
  match rest with
  | [] => none
  | (some ']', _) :: after =>
    (afterSpan? after tail).map (Directive.mk target (some (kept name)) none)
  | _ :: rest =>
    let span := if name.isEmpty then none else some (kept name)
    let (field, rest) := upTo '\x7d' '\x7d' rest
    match FieldTest.ofChars? (kept field), rest with
    | some field, _ :: (some ']', _) :: after =>
      (afterSpan? after tail).map (Directive.mk target span (some field))
    | _, _ => none

/-- A word that is a level is one for every target. -/
def ofWord (word : List Char) : Directive :=
  match Threshold.ofChars? word with
  | some threshold => { target := [], threshold }
  | none => { target := word, threshold := .everything }

def ofChars? (item : List Char) : Option Directive :=
  let looked := Text.trimChars item
  let tail := ((spread item).drop (spread looked).length).filterMap id
  if !looked.head?.any (fun c => c == '[' || mayBegin c) then none
  else
    let (target, rest) := upTo '=' '[' ((spread looked).zip (spread item))
    match rest with
    | [] => some (ofWord item)
    | (some '=', _) :: level =>
      (levelOf? (kept level ++ tail)).map (fun threshold => { target := kept target, threshold })
    | _ :: rest => inSpan? (kept target) rest tail

end Directive

end GraphBatch.Log
