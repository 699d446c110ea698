import GraphBatch.Pattern.CharSet

namespace GraphBatch

/-- What must hold at a place between two characters. -/
inductive Look
  | textStart
  | textEnd
  /-- With `cr` a carriage return ends a line too, and does so together with a line feed. -/
  | lineStart (cr : Bool)
  | lineEnd (cr : Bool)
  | boundary
  | noBoundary
  | wordStart
  | wordEnd
  deriving DecidableEq

structure Place where
  before : Option Char
  after : Option Char

namespace Look

def isWord (c : Option Char) : Bool :=
  c.any CharSet.word.has

def holds (p : Place) : Look → Bool
  | .textStart => p.before.isNone
  | .textEnd => p.after.isNone
  | .lineStart false => p.before.all (· == '\n')
  | .lineEnd false => p.after.all (· == '\n')
  | .lineStart true =>
    p.before.all (fun c => c == '\n' || (c == '\r' && p.after != some '\n'))
  | .lineEnd true =>
    p.after.all (fun c => c == '\r' || (c == '\n' && p.before != some '\r'))
  | .boundary => isWord p.before != isWord p.after
  | .noBoundary => isWord p.before == isWord p.after
  | .wordStart => !isWord p.before && isWord p.after
  | .wordEnd => isWord p.before && !isWord p.after

/-- It holds whatever comes next. -/
def holdsAfter (before : Option Char) : Look → Bool
  | .textStart => before.isNone
  | .lineStart _ => before.all (· == '\n')
  | _ => false

end Look

inductive Pattern
  | text (chars : List Char)
  | one (set : CharSet)
  | look (look : Look)
  /-- By their numbers no two groups are alike. -/
  | group (number : Nat) (item : Pattern)
  | seq (first second : Pattern)
  | either (preferred other : Pattern)
  | optional (greedy : Bool) (item : Pattern)
  | many (greedy : Bool) (item : Pattern)
  | oneOrMore (greedy : Bool) (item : Pattern)
  deriving DecidableEq

namespace Pattern

def empty : Pattern := .text []

def ofSet (s : CharSet) : Pattern :=
  match s.single? with
  | some c => .text [c]
  | none => .one s

/-- No match of it is empty. -/
def takesSome : Pattern → Bool
  | .text chars => !chars.isEmpty
  | .one _ => true
  | .look _ | .optional _ _ | .many _ _ => false
  | .seq a b => a.takesSome || b.takesSome
  | .either a b => a.takesSome && b.takesSome
  | .group _ a | .oneOrMore _ a => a.takesSome

/-- Every match of it is empty. -/
def takesNothing : Pattern → Bool
  | .text chars => chars.isEmpty
  | .one _ => false
  | .look _ => true
  | .seq a b | .either a b => a.takesNothing && b.takesNothing
  | .group _ a | .optional _ a | .many _ a | .oneOrMore _ a => a.takesNothing

/-- What takes nothing is not repeated. -/
def anyTimes (greedy : Bool) (p : Pattern) : Pattern :=
  if p.takesNothing then .optional greedy p else .many greedy p

def someTimes (greedy : Bool) (p : Pattern) : Pattern :=
  if p.takesNothing then p else .oneOrMore greedy p

def parts : Pattern → List Pattern
  | .seq a b => a.parts ++ b.parts
  | .text [] => []
  | p => [p]

/-- Texts that follow one another are one text. -/
def joinTexts : List Pattern → List Pattern
  | [] => []
  | p :: rest =>
    match p, joinTexts rest with
    | .text a, .text b :: rest => .text (a ++ b) :: rest
    | p, rest => p :: rest

def line : List Pattern → Pattern
  | [] => .empty
  | [p] => p
  | p :: rest => .seq p (line rest)

def inOrder (items : List Pattern) : Pattern :=
  line (joinTexts (items.flatMap parts))

def alternatives : Pattern → List Pattern
  | .either a b => a.alternatives ++ b.alternatives
  | p => [p]

/-- Single characters are one set together, and sets are. -/
def asSet? (items : List Pattern) : Option CharSet :=
  let char? : Pattern → Option CharSet
    | .text [c] => some (.single c)
    | _ => none
  let set? : Pattern → Option CharSet
    | .one s => some s
    | _ => none
  ((items.mapM char?).or (items.mapM set?)).map (fun sets => sets.foldl .union .empty)

def branches : List Pattern → Pattern
  | [] => .one .empty
  | [p] => p
  | p :: rest => .either p (branches rest)

def choice (items : List Pattern) : Pattern :=
  match asSet? items with
  | some s => .ofSet s
  | none => branches items

def commonStart : List Pattern → List Pattern → List Pattern
  | a :: as, b :: bs => if a = b then a :: commonStart as bs else []
  | _, _ => []

/-- The parts that all of several lines of parts begin with. A line of a single part shares
nothing. -/
def sharedStart (lines : List (List Pattern)) : List Pattern :=
  match lines with
  | [] | [_] => []
  | first :: others =>
    if lines.all (fun l => 2 ≤ l.length) then others.foldl commonStart first else []

/-- The first of the alternatives is preferred. What all of them begin with is matched before they
part, so the preference of a repetition in it comes before theirs. -/
def anyOf (items : List Pattern) : Pattern :=
  let items := items.flatMap alternatives
  let lines := items.map parts
  match sharedStart lines with
  | [] => choice items
  | shared =>
    let rests := lines.map (fun l => inOrder (l.drop shared.length))
    inOrder (shared ++ [choice (rests.flatMap alternatives)])

end Pattern

end GraphBatch
