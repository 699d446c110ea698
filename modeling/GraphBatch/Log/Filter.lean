import GraphBatch.Log.Directive
import GraphBatch.Pattern.Program
import GraphBatch.Text.Utf8

namespace GraphBatch.Log

/-- A stretch of work, during which lines are logged. -/
structure Span where
  target : String
  level : Level
  name : String
  field : String
  value : String

def Span.shown (s : Span) : String :=
  s.name ++ "\x7b" ++ s.field ++ "=" ++ s.value ++ "\x7d: "

def messageField : List Char := "message".toList

namespace Directive

/-- Longer targets first, and of these the ones that name a field. -/
def rank (d : Directive) : List Nat :=
  d.target.length :: match d.field with
    | none => []
    | some field => 1 :: field.name.map Char.toNat

def moreSpecific (best : Option Directive) (d : Directive) : Option Directive :=
  if best.all (fun b => !d.rank.lex b.rank Nat.blt) then some d else best

def hasTarget (d : Directive) (target : String) : Bool :=
  d.target.isPrefixOf target.toList

/-- A field counts for lines only. -/
def allowsSpan (d : Directive) (s : Span) : Bool :=
  d.concernsLines && d.hasTarget s.target

def allowsLine (d : Directive) (target : String) : Bool :=
  d.concernsLines && d.hasTarget target && d.field.all (fun f => f.name == messageField)

/-- The directive follows the span, whatever its field holds. -/
def follows (d : Directive) (s : Span) : Bool :=
  d.concernsSpans && d.hasTarget s.target && d.span.all (· == s.name.toList) &&
    d.field.all (fun f => f.name == s.field.toList)

def accepts (d : Directive) (s : Span) : Bool :=
  d.follows s && match d.field with
    | none => true
    | some ⟨_, .anything⟩ => true
    | some ⟨_, .text _ pattern⟩ => pattern.fits s.value
    | some ⟨_, .scalar⟩ => false

end Directive

abbrev Filter := List Directive

namespace Filter

def upTo (level : Level) : Filter := [{ target := [], threshold := level.detail }]

/-- Of two directives on one subject the later counts. -/
def add (filter : Filter) (d : Directive) : Filter :=
  filter.filter (fun old => !old.sameSubject d) ++ [d]

/-- Directives stand between commas. Where there is none, errors are shown. -/
def parse? (text : String) : Option Filter :=
  match (text.toList.splitOn ',').filter (· ≠ []) with
  | [] => some (upTo .error)
  | items => items.foldlM (fun filter item => (Directive.ofChars? item).map filter.add) []

def decidedBy (filter : Filter) (concerned : Directive → Bool) (level : Level) : Bool :=
  ((filter.filter concerned).foldl Directive.moreSpecific none).any
    (fun d => level.detail ≤ d.threshold)

/-- Whether a line is shown wherever it is logged. -/
def shows (filter : Filter) (target : String) (level : Level) : Bool :=
  filter.decidedBy (fun d => d.allowsLine target) level

/-- How much detail is shown inside a span in any case. -/
def within (filter : Filter) (s : Span) : Threshold :=
  ((filter.filter (fun d => d.accepts s)).map Directive.threshold).foldl max 0

def showsWithin (filter : Filter) (s : Span) (target : String) (level : Level) : Bool :=
  filter.shows target level || level.detail ≤ filter.within s

/-- Whether the lines inside a span name it. -/
def names (filter : Filter) (s : Span) : Bool :=
  filter.any (fun d => d.follows s) || filter.decidedBy (fun d => d.allowsSpan s) s.level

/-- The variable decides when it holds a filter. Without it only warnings are shown, or with
`verbose` every call. -/
def ofVariable (value : Option Bytes) (verbose : Bool) : Filter :=
  match (value.bind Utf8.decode?).bind parse? with
  | some filter => filter
  | none => upTo (if verbose then .debug else .warn)

end Filter

end GraphBatch.Log
