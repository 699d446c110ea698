import GraphBatch.Pattern
import GraphBatch.Text.Alphanumeric
import GraphBatch.Text.Hex
import GraphBatch.Text.Trim

namespace GraphBatch.Pattern

structure Options where
  anyCase : Bool := false
  multiLine : Bool := false
  dotAll : Bool := false
  lazy : Bool := false
  /-- There is no table of all letters, so with it `\w`, `\d`, `\s` and `\b` are refused. -/
  allScripts : Bool := true
  cr : Bool := false
  spaced : Bool := false

/-- With how many levels inside it a thing was written. -/
structure Nested (α : Type) where
  value : α
  depth : Nat

namespace Nested

def leaf {α : Type} (value : α) : Nested α := ⟨value, 0⟩

def deepest {α : Type} (items : List (Nested α)) : Nat :=
  (items.map Nested.depth).foldl max 0

/-- Two things and more are a level of their own. -/
def together {α : Type} (value : α) (items : List (Nested α)) : Nested α :=
  ⟨value, if items.length < 2 then deepest items else deepest items + 1⟩

end Nested

def maxDepth : Nat := 250

namespace Options

/-- Letters can be turned on and, after a dash, off. -/
def set? (o : Options) (c : Char) (on : Bool) : Option Options :=
  match c with
  | 'i' => some { o with anyCase := on }
  | 'm' => some { o with multiLine := on }
  | 's' => some { o with dotAll := on }
  | 'U' => some { o with lazy := on }
  | 'u' => some { o with allScripts := on }
  | 'R' => some { o with cr := on }
  | 'x' => some { o with spaced := on }
  | _ => none

/-- Each letter, and the dash, may stand once, and the dash not last. The letters seen come newest
first. -/
def change? (o : Options) (seen : List Char) : List Char → Option Options
  | [] => if seen.head? = some '-' then none else some o
  | c :: rest =>
    if seen.contains c then none
    else if c = '-' then o.change? (c :: seen) rest
    else match o.set? c (!seen.contains '-') with
      | some o => o.change? (c :: seen) rest
      | none => none

def skipSpace (inComment : Bool) : List Char → List Char
  | [] => []
  | c :: rest =>
    if inComment then skipSpace (c != '\n') rest
    else if Text.isBlank c then skipSpace false rest
    else if c = '#' then skipSpace true rest
    else c :: rest

/-- Blanks and comments count for nothing if so wished. -/
def skip (o : Options) (cs : List Char) : List Char :=
  if o.spaced then skipSpace false cs else cs

/-- The next character that counts. A comment is not passed over whole: its first character that
is no blank is taken. -/
def peek? (o : Options) (cs : List Char) : Option Char :=
  if o.spaced then
    let rest := cs.dropWhile Text.isBlank
    let rest := if rest.head? = some '#' then (rest.drop 1).dropWhile Text.isBlank else rest
    rest.head?.or cs.head?
  else cs.head?

end Options

inductive Atom
  /-- `byte` is for one that was written as the number of a byte. -/
  | char (c : Char) (byte : Bool)
  | ofClass (set : CharSet) (negated : Bool)
  | place (look : Look)

/-- A number of so many digits. -/
def hexNumber? (o : Options) (number : Nat) : Nat → List Char → Option (Nat × List Char)
  | 0, cs => some (number, cs)
  | n + 1, c :: rest =>
    match Text.hexValue? c with
    | some digit => hexNumber? o (number * 16 + digit) n (o.skip rest)
    | none => none
  | _ + 1, [] => none

def hexChar? (o : Options) (digits : Nat) (cs : List Char) : Option (Atom × List Char) :=
  match hexNumber? o 0 digits (o.skip cs) with
  | some (n, rest) =>
    if n.isValidChar then some (.char (Char.ofNat n) (digits == 2), rest) else none
  | none => none

namespace Atom

/-- An escape that is one letter; of a sign it is the sign itself. -/
def ofLetter? (c : Char) : Option Atom :=
  match c with
  | 'd' => some (.ofClass .digit false)
  | 'D' => some (.ofClass .digit true)
  | 's' => some (.ofClass .space false)
  | 'S' => some (.ofClass .space true)
  | 'w' => some (.ofClass .word false)
  | 'W' => some (.ofClass .word true)
  | 'a' => some (.char '\x07' false)
  | 'f' => some (.char '\x0c' false)
  | 't' => some (.char '\t' false)
  | 'n' => some (.char '\n' false)
  | 'r' => some (.char '\r' false)
  | 'v' => some (.char '\x0b' false)
  | 'A' => some (.place .textStart)
  | 'z' => some (.place .textEnd)
  | 'b' => some (.place .boundary)
  | 'B' => some (.place .noBoundary)
  | '<' => some (.place .wordStart)
  | '>' => some (.place .wordEnd)
  | _ => if c.toNat < 0x80 && !c.isAlphanum then some (.char c false) else none

/-- After a backslash. -/
def escaped? (o : Options) : List Char → Option (Atom × List Char)
  | [] => none
  | 'x' :: rest => hexChar? o 2 rest
  | 'u' :: rest => hexChar? o 4 rest
  | 'U' :: rest => hexChar? o 8 rest
  | c :: rest => (ofLetter? c).map (fun atom => (atom, rest))

/-- A member of a set, or an end of a range. -/
def member? (o : Options) : List Char → Option (Atom × List Char)
  | [] => none
  | '\\' :: rest => escaped? o rest
  | c :: rest => some (.char c false, rest)

def pattern? (o : Options) : Atom → Option Pattern
  | .char c byte =>
    if o.anyCase then
      if o.allScripts || (byte && 0x80 ≤ c.toNat) then none
      else some (.ofSet (.anyCase (.single c)))
    else if !o.allScripts && byte && 0x80 ≤ c.toNat then none
    else some (.text [c])
  | .ofClass set negated => if o.allScripts || negated then none else some (.ofSet set)
  | .place l =>
    match l with
    | .textStart | .textEnd => some (.look l)
    | _ => if o.allScripts then none else some (.look l)

def end? (o : Options) : Atom → Option Char
  | .char c _ => if o.allScripts || c.toNat < 0x80 then some c else none
  | _ => none

def set? (o : Options) (a : Atom) : Option CharSet :=
  match a with
  | .ofClass set negated => if o.allScripts || negated then none else some set
  | _ => (a.end? o).map .single

end Atom

/-- A set that is complete but for the options and what stands at its front. -/
def finishSet? (o : Options) (negated : Bool) (set : CharSet) : Option CharSet :=
  if (o.anyCase && o.allScripts) || (negated && !o.allScripts) then none
  else
    let set := if o.anyCase then .anyCase set else set
    some (if negated then .compl set else set)

/-- Operations on sets go from left to right. -/
inductive Operation
  | inter
  | diff
  | symmDiff

def Operation.apply : Operation → CharSet → CharSet → CharSet
  | .inter => .inter
  | .diff => .diff
  | .symmDiff => .symmDiff

structure OpenSet where
  negated : Bool
  /-- So far there were only dashes, which are members at the front. -/
  atFront : Bool := true
  /-- Newest first. -/
  members : List (Nested CharSet) := []
  /-- An operation that lacks its right side. -/
  waiting : Option (Operation × Nested CharSet) := none

namespace OpenSet

def add (s : OpenSet) (member : Nested CharSet) : OpenSet :=
  { s with members := member :: s.members }

def union (s : OpenSet) : Nested CharSet :=
  .together (s.members.foldl (fun later m => .union m.value later) .empty) s.members

def result (o : Options) (s : OpenSet) : Nested CharSet :=
  match s.waiting with
  | none => s.union
  | some (operation, left) =>
    let fold (set : CharSet) := if o.anyCase then .anyCase set else set
    ⟨operation.apply (fold left.value) (fold s.union.value), max left.depth s.union.depth + 1⟩

def operate (o : Options) (s : OpenSet) (operation : Operation) : OpenSet :=
  { s with members := [], waiting := some (operation, s.result o) }

def close? (o : Options) (s : OpenSet) : Option (Nested CharSet) :=
  let result := s.result o
  (finishSet? o s.negated result.value).map (fun set => ⟨set, result.depth + 1⟩)

def start (o : Options) (cs : List Char) : OpenSet × List Char :=
  match o.skip cs with
  | '^' :: rest => ({ negated := true }, rest)
  | rest => ({ negated := false }, rest)

end OpenSet

/-- A named class after its opening bracket, whether it is negated, and what follows. -/
def namedClass? (cs : List Char) : Option (CharSet × Bool × List Char) :=
  match cs with
  | ':' :: rest =>
    let negated := rest.head? = some '^'
    let rest := if negated then rest.drop 1 else rest
    match rest.dropWhile (· != ':') with
    | ':' :: ']' :: after =>
      (CharSet.named? (String.ofList (rest.takeWhile (· != ':')))).map
        (fun set => (set, negated, after))
    | _ => none
  | _ => none

/-- A member, or a range of members: a dash before the end of the set, or before another dash, is
no range. -/
def members? (o : Options) (cs : List Char) : Option (CharSet × List Char) := do
  let (first, rest) ← Atom.member? o cs
  let rest := o.skip rest
  match rest with
  | '-' :: after =>
    if o.peek? after = some ']' ∨ o.peek? after = some '-' then return (← first.set? o, rest)
    else
      let (last, rest) ← Atom.member? o (o.skip after)
      let lo ← first.end? o
      let hi ← last.end? o
      if lo ≤ hi then return (.range lo hi, rest) else none
  | _ => return (← first.set? o, rest)

/-- Repeats a step until there is a result, at most `fuel` times. -/
def repeatStep? {σ ρ : Type} (step : σ → List Char → Option ((σ ⊕ ρ) × List Char)) :
    (fuel : Nat) → σ → List Char → Option (ρ × List Char)
  | 0, _, _ => none
  | fuel + 1, s, cs =>
    match step s cs with
    | none => none
    | some (.inr result, rest) => some (result, rest)
    | some (.inl next, rest) => repeatStep? step fuel next rest

/-- Every step that is not the last takes at least a character. -/
def readBy? {σ ρ : Type} (step : σ → List Char → Option ((σ ⊕ ρ) × List Char)) (s : σ)
    (cs : List Char) : Option (ρ × List Char) :=
  repeatStep? step (cs.length + 1) s cs

/-- One step inside sets, the innermost first. -/
def setStep (o : Options) (sets : List OpenSet) (cs : List Char) :
    Option ((List OpenSet ⊕ Nested CharSet) × List Char) :=
  match sets, o.skip cs with
  | [], _ | _, [] => none
  | s :: outer, c :: rest =>
    let literal (s : OpenSet) := some (.inl (s.add (.leaf (.single c)) :: outer), rest)
    if s.atFront && c == '-' then literal s
    else if s.atFront && s.members.isEmpty && c == ']' then literal { s with atFront := false }
    else
      let s := { s with atFront := false }
      let operate (operation : Operation) :=
        some (.inl (s.operate o operation :: outer), rest.drop 1)
      if c = '[' then
        match namedClass? rest with
        | some (set, negated, after) =>
          (finishSet? o negated set).map fun set => (.inl (s.add (.leaf set) :: outer), after)
        | none =>
          let (inner, after) := OpenSet.start o rest
          some (.inl (inner :: s :: outer), after)
      else if c = ']' then
        match s.close? o, outer with
        | none, _ => none
        | some set, [] => some (.inr set, rest)
        | some set, around :: outer => some (.inl (around.add set :: outer), rest)
      else if c = '&' ∧ rest.head? = some '&' then operate .inter
      else if c = '-' ∧ rest.head? = some '-' then operate .diff
      else if c = '~' ∧ rest.head? = some '~' then operate .symmDiff
      else (members? o (c :: rest)).map fun (set, after) =>
        (.inl (s.add (.leaf set) :: outer), after)

/-- A set after its opening bracket. -/
def readSet? (o : Options) (cs : List Char) : Option (Nested CharSet × List Char) :=
  let (s, rest) := OpenSet.start o cs
  readBy? (setStep o) [s] rest

structure Group where
  number : Option Nat := none
  /-- The alternatives before the open one, newest first. -/
  before : List (Nested Pattern) := []
  /-- The parts of the open alternative, newest first. -/
  parts : List (Nested Pattern) := []
  /-- Whether the last part can be repeated; options cannot. -/
  repeatable : Bool := false

namespace Group

def add (g : Group) (p : Nested Pattern) : Group :=
  { g with parts := p :: g.parts, repeatable := true }

/-- Options take a place, though they match nothing. -/
def addOptions (g : Group) : Group :=
  { g with parts := .leaf Pattern.empty :: g.parts, repeatable := false }

def alternative (g : Group) : Nested Pattern :=
  .together (inOrder (g.parts.reverse.map Nested.value)) g.parts

def next (g : Group) : Group :=
  { number := g.number, before := g.alternative :: g.before }

/-- What the group is by itself. -/
def whole (g : Group) : Nested Pattern :=
  let alternatives := g.alternative :: g.before
  .together (anyOf (alternatives.reverse.map Nested.value)) alternatives

/-- What the group is inside another. -/
def close (g : Group) : Nested Pattern :=
  let whole := g.whole
  ⟨g.number.elim whole.value (fun n => .group n whole.value), whole.depth + 1⟩

def repeated (sign : Char) (greedy : Bool) (p : Pattern) : Pattern :=
  if sign = '*' then .anyTimes greedy p
  else if sign = '+' then .someTimes greedy p
  else .optional greedy p

/-- The sign of a repetition applies to the part before it. -/
def repeatLast? (g : Group) (sign : Char) (greedy : Bool) : Option Group :=
  match g.parts with
  | [] => none
  | p :: older =>
    if g.repeatable then
      some { g with parts := ⟨repeated sign greedy p.value, p.depth + 1⟩ :: older }
    else none

end Group

structure Reader where
  options : Options := {}
  group : Group := {}
  /-- The groups around, each with the options to return to, innermost first. -/
  outer : List (Group × Options) := []
  /-- A name is given once. -/
  names : List (List Char) := []
  numbered : Nat := 0

namespace Reader

/-- What a step gives: more to read, or the pattern. -/
abbrev Step := Option ((Reader ⊕ Nested Pattern) × List Char)

def goOn (r : Reader) (rest : List Char) : Step :=
  some (.inl r, rest)

def add (r : Reader) (p : Option (Nested Pattern)) (rest : List Char) : Step :=
  p.bind (fun p => { r with group := r.group.add p }.goOn rest)

def openGroup (r : Reader) (options : Options) (rest : List Char) : Step :=
  { r with options, group := {}, outer := (r.group, r.options) :: r.outer }.goOn rest

def openNumbered (r : Reader) (rest : List Char) : Step :=
  let numbered := r.numbered + 1
  let outer := (r.group, r.options) :: r.outer
  { r with group := { number := some numbered }, outer, numbered }.goOn rest

def isName (name : List Char) : Bool :=
  let inside (c : Char) := c == '_' || c == '.' || c == '[' || c == ']' || Text.isAlphanumeric c
  name.head?.any (fun c => c == '_' || Text.isAlphabetic c) && name.all inside

/-- After the sign that opens a name. -/
def openNamed (r : Reader) (cs : List Char) : Step :=
  let name := cs.takeWhile (· != '>')
  match cs.dropWhile (· != '>') with
  | [] => none
  | _ :: rest =>
    if isName name && !r.names.contains name then
      { r with names := name :: r.names }.openNumbered rest
    else none

/-- Options for a group, or for what is left of the group they stand in. -/
def openOptions (r : Reader) (cs : List Char) : Step :=
  let isEnd (c : Char) := c == ':' || c == ')'
  let letters := cs.takeWhile (fun c => !isEnd c)
  match r.options.change? [] letters, cs.dropWhile (fun c => !isEnd c) with
  | some options, ':' :: rest => r.openGroup options rest
  | some options, _ :: rest =>
    if letters.isEmpty then none
    else { r with options, group := r.group.addOptions }.goOn rest
  | _, _ => none

def parenthesis (r : Reader) (cs : List Char) : Step :=
  match cs with
  | '?' :: 'P' :: '<' :: rest => r.openNamed rest
  | '?' :: '<' :: rest => r.openNamed rest
  | '?' :: rest => r.openOptions rest
  | _ => r.openNumbered cs

def dot? (o : Options) : Option Pattern :=
  if !o.allScripts then none
  else if o.dotAll then some (.one (.compl .empty))
  else if o.cr then some (.one (.compl (.ofRanges [('\n', '\n'), ('\r', '\r')])))
  else some (.one (.compl (.single '\n')))

def anchor (o : Options) (line : Bool → Look) (text : Look) : Pattern :=
  .look (if o.multiLine then line o.cr else text)

def repetition (r : Reader) (sign : Char) (rest : List Char) : Step :=
  let marked := rest.head? = some '?'
  let greedy := marked = r.options.lazy
  (r.group.repeatLast? sign greedy).bind fun group =>
    { r with group }.goOn (if marked then rest.drop 1 else rest)

def step (r : Reader) (cs : List Char) : Step :=
  let o := r.options
  let leaf (p : Pattern) : Option (Nested Pattern) := some (.leaf p)
  match o.skip cs with
  | [] => if r.outer.isEmpty then some (.inr r.group.whole, []) else none
  | c :: rest =>
    match c with
    | '(' => r.parenthesis (o.skip rest)
    | ')' =>
      match r.outer with
      | [] => none
      | (around, options) :: outer =>
        { r with options, group := around, outer }.add (some r.group.close) rest
    | '|' => { r with group := r.group.next }.goOn rest
    | '[' => (readSet? o rest).bind fun (set, after) =>
      r.add (some ⟨.ofSet set.value, set.depth⟩) after
    | '*' | '+' | '?' => r.repetition c rest
    | '\x7b' => none
    | '\\' => (Atom.escaped? o rest).bind fun (atom, after) =>
      r.add ((atom.pattern? o).map .leaf) after
    | '.' => r.add ((dot? o).map .leaf) rest
    | '^' => r.add (leaf (anchor o .lineStart .textStart)) rest
    | '$' => r.add (leaf (anchor o .lineEnd .textEnd)) rest
    | _ => r.add ((Atom.pattern? o (.char c false)).map .leaf) rest

end Reader

def parse? (text : List Char) : Option Pattern :=
  match readBy? Reader.step {} text with
  | some (p, _) => if p.depth ≤ maxDepth then some p.value else none
  | none => none

end GraphBatch.Pattern
