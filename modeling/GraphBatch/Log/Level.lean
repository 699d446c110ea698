namespace GraphBatch.Log

inductive Level
  | error
  | warn
  | info
  | debug
  | trace
  deriving DecidableEq

namespace Level

def every : List Level := [.error, .warn, .info, .debug, .trace]

/-- Higher means more detail. -/
def detail : Level → Nat
  | .error => 1
  | .warn => 2
  | .info => 3
  | .debug => 4
  | .trace => 5

def name : Level → String
  | .error => "ERROR"
  | .warn => "WARN"
  | .info => "INFO"
  | .debug => "DEBUG"
  | .trace => "TRACE"

end Level

/-- The greatest detail that is shown; 0 shows nothing. -/
abbrev Threshold := Nat

namespace Threshold

def everything : Threshold := Level.trace.detail

def ofDigits? (cs : List Char) : Option Threshold :=
  let digits := if cs.head? = some '+' then cs.drop 1 else cs
  if digits ≠ [] ∧ digits.all Char.isDigit then
    let n := digits.foldl (fun n c => n * 10 + (c.toNat - '0'.toNat)) 0
    if n ≤ everything then some n else none
  else none

/-- A level by name in any case, `off`, or its detail as a numeral. -/
def ofChars? (cs : List Char) : Option Threshold :=
  let word := String.ofList (cs.map Char.toUpper)
  if word = "OFF" then some 0
  else match Level.every.find? (fun l => l.name == word) with
    | some l => some l.detail
    | none => ofDigits? cs

end Threshold

end GraphBatch.Log
