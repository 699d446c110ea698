import GraphBatch.Pattern

namespace GraphBatch.Pattern

inductive Instruction
  | take (set : CharSet) (next : Nat)
  | check (look : Look) (next : Nat)
  | fork (preferred other : Nat)
  | accept

abbrev Program := Array Instruction

namespace Instruction

def branch (greedy : Bool) (on off : Nat) : Instruction :=
  if greedy then .fork on off else .fork off on

def isAccept : Instruction → Bool
  | .accept => true
  | _ => false

end Instruction

namespace Program

def append (program : Program) (i : Instruction) : Program × Nat :=
  (program.push i, program.size)

/-- A branch that comes back to itself, with where its body begins. -/
def appendLoop (program : Program) (greedy : Bool) (next : Nat)
    (body : Program → Nat → Program × Nat) : Program × Nat :=
  let (start, entry) := body (program.push .accept) program.size
  (start.setIfInBounds program.size (.branch greedy entry next), entry)

/-- The program that matches a pattern and goes on at `next`, and where it begins. A repetition is
entered at its branch, unless its item can be empty: then it is entered as an optional repetition
of at least one, so that an empty item is followed by what comes next and not by another try. -/
def compile (program : Program) (next : Nat) : Pattern → Program × Nat
  | .text chars =>
    chars.reverse.foldl (fun (program, next) c => program.append (.take (.single c) next))
      (program, next)
  | .one set => program.append (.take set next)
  | .look l => program.append (.check l next)
  | .group _ a => compile program next a
  | .seq a b =>
    let (program, next) := compile program next b
    compile program next a
  | .either a b =>
    let (program, other) := compile program next b
    let (program, preferred) := compile program next a
    program.append (.fork preferred other)
  | .optional greedy a =>
    let (program, entry) := compile program next a
    program.append (.branch greedy entry next)
  | .many greedy a =>
    let (looped, entry) := program.appendLoop greedy next (fun p n => compile p n a)
    if a.takesSome then (looped, program.size)
    else looped.append (.branch greedy entry next)
  | .oneOrMore greedy a => program.appendLoop greedy next (fun p n => compile p n a)

/-- The instructions met at one place, by number. -/
structure Met where
  seen : Array Bool
  /-- Those that take a character, check the place or accept, newest first. -/
  found : List Nat

/-- Follows forks, the preferred way first, and the checks that pass. No instruction is followed
twice, so `fuel` need not exceed twice their number. -/
def follow (program : Program) (passes : Look → Bool) : (fuel : Nat) → List Nat → Met → Met
  | 0, _, met => met
  | _ + 1, [], met => met
  | fuel + 1, n :: stack, met =>
    if met.seen.getD n true then follow program passes fuel stack met
    else
      let met := { met with seen := met.seen.setIfInBounds n true }
      let here := { met with found := n :: met.found }
      match program[n]? with
      | none => follow program passes fuel stack met
      | some (.fork preferred other) =>
        follow program passes fuel (preferred :: other :: stack) met
      | some (.check l next) =>
        follow program passes fuel (if passes l then next :: stack else stack) here
      | some _ => follow program passes fuel stack here

def reach (program : Program) (passes : Look → Bool) (numbers : List Nat) : List Nat :=
  let start : Met := ⟨Array.replicate program.size false, []⟩
  let fuel := 2 * program.size + 2
  (numbers.foldl (fun met n => program.follow passes fuel [n] met) start).found.reverse

/-- The next character opens the check that stands there. -/
def opens (program : Program) (p : Place) (n : Nat) : Bool :=
  match program[n]? with
  | some (.check l _) => l.holds p && !l.holdsAfter p.before
  | _ => false

/-- A place is come to before the next character is known. Then only the checks pass that hold
whatever it is; if it opens others, they are followed afterwards from all that was met. -/
def metAt (program : Program) (p : Place) (numbers : List Nat) : List Instruction :=
  let met := program.reach (Look.holdsAfter p.before) numbers
  let met := if met.any (program.opens p) then program.reach (Look.holds p) met else met
  met.filterMap (program[·]?)

end Program

structure Search where
  threads : List Nat
  /-- Whether a match may still begin. -/
  beginning : Bool

namespace Search

def metAt (program : Program) (entry : Nat) (s : Search) (p : Place) : List Instruction :=
  program.metAt p (s.threads ++ if s.beginning then [entry] else [])

/-- Places are counted in bytes. Inside a character nothing can be taken, but a match that takes
nothing can begin there and end the search for one that begins later. -/
def endsInside (program : Program) (entry : Nat) (c : Char) : Bool :=
  0x80 ≤ c.toNat && (program.metAt ⟨some c, some c⟩ [entry]).any Instruction.isAccept

def after (c : Char) : Instruction → Option Nat
  | .take set next => if set.has c then some next else none
  | _ => none

def step (program : Program) (entry : Nat) (s : Search) (before : Option Char) (c : Char) :
    Search :=
  let met := s.metAt program entry ⟨before, some c⟩
  ⟨(met.takeWhile (fun i => !i.isAccept)).filterMap (after c),
    s.beginning && !met.any Instruction.isAccept && !endsInside program entry c⟩

/-- Whether the preferred match ends where the text does. -/
def reachesEnd (program : Program) (entry : Nat) (s : Search) (before : Option Char) :
    List Char → Bool
  | [] => (s.metAt program entry ⟨before, none⟩).any Instruction.isAccept
  | c :: rest => (s.step program entry before c).reachesEnd program entry (some c) rest

end Search

/-- Whether the preferred match, wherever it begins, goes up to the end of the text. -/
def fits (pattern : Pattern) (text : String) : Bool :=
  let (program, entry) := Program.compile #[.accept] 0 pattern
  Search.reachesEnd program entry ⟨[], true⟩ none text.toList

end GraphBatch.Pattern
