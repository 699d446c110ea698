namespace GraphBatch

/-- Known by the numbers at which, going up through all characters, one enters it or leaves it. -/
structure CharSet where
  /-- Ascending. -/
  cuts : List Nat
  deriving DecidableEq

namespace CharSet

/-- Inside after an odd number of cuts. -/
def has (s : CharSet) (c : Char) : Bool :=
  s.cuts.countP (· ≤ c.toNat) % 2 == 1

def empty : CharSet := ⟨[]⟩

/-- Both ends belong to it. After the last character there is no cut. -/
def range (lo hi : Char) : CharSet :=
  ⟨if hi.toNat < 0x10ffff then [lo.toNat, hi.toNat + 1] else [lo.toNat]⟩

def single (c : Char) : CharSet := range c c

def single? (s : CharSet) : Option Char :=
  (s.cuts.head?.map Char.ofNat).filter (fun c => s = single c)

/-- Two cuts at one place are none. -/
def cut (n : Nat) (cuts : List Nat) : List Nat :=
  if cuts.head? = some n then cuts.drop 1 else n :: cuts

def compl (s : CharSet) : CharSet := ⟨cut 0 s.cuts⟩

/-- Two sets gone through together. -/
structure Sweep where
  inFirst : Bool := false
  inSecond : Bool := false
  /-- Of what is made of the two, newest first. -/
  cuts : List Nat := []

/-- Goes past a cut of the first set or of the second. -/
def Sweep.pass (belongs : Bool → Bool → Bool) (s : Sweep) (n : Nat) (first : Bool) : Sweep :=
  let inFirst := s.inFirst != first
  let inSecond := s.inSecond == first
  let changed := belongs inFirst inSecond != belongs s.inFirst s.inSecond
  ⟨inFirst, inSecond, if changed then cut n s.cuts else s.cuts⟩

/-- What `belongs` of two sets. It must not hold of what is in neither. -/
def combine (belongs : Bool → Bool → Bool) (a b : CharSet) : CharSet :=
  let both := (a.cuts.map (·, true)).merge (b.cuts.map (·, false)) (fun x y => x.1 ≤ y.1)
  ⟨(both.foldl (fun s (n, first) => Sweep.pass belongs s n first) {}).cuts.reverse⟩

def union : CharSet → CharSet → CharSet := combine (fun a b => a || b)

def inter : CharSet → CharSet → CharSet := combine (fun a b => a && b)

def diff : CharSet → CharSet → CharSet := combine (fun a b => a && !b)

def symmDiff : CharSet → CharSet → CharSet := combine (fun a b => a != b)

def ofRanges (ranges : List (Char × Char)) : CharSet :=
  ranges.foldl (fun s (lo, hi) => s.union (range lo hi)) empty

def upper : CharSet := range 'A' 'Z'

def lower : CharSet := range 'a' 'z'

/-- With each ASCII letter also the same letter in the other case. -/
def anyCase (s : CharSet) : CharSet :=
  let raised : CharSet := ⟨(s.inter lower).cuts.map (· - 32)⟩
  let lowered : CharSet := ⟨(s.inter upper).cuts.map (· + 32)⟩
  s.union (raised.union lowered)

def digit : CharSet := range '0' '9'

def space : CharSet := .ofRanges [('\t', '\r'), (' ', ' ')]

def word : CharSet := .ofRanges [('0', '9'), ('A', 'Z'), ('_', '_'), ('a', 'z')]

def named? (name : String) : Option CharSet :=
  match name with
  | "alnum" => some (.ofRanges [('0', '9'), ('A', 'Z'), ('a', 'z')])
  | "alpha" => some (.ofRanges [('A', 'Z'), ('a', 'z')])
  | "ascii" => some (range '\x00' '\x7f')
  | "blank" => some (.ofRanges [('\t', '\t'), (' ', ' ')])
  | "cntrl" => some (.ofRanges [('\x00', '\x1f'), ('\x7f', '\x7f')])
  | "digit" => some digit
  | "graph" => some (range '!' '~')
  | "lower" => some lower
  | "print" => some (range ' ' '~')
  | "punct" => some (.ofRanges [('!', '/'), (':', '@'), ('[', '\x60'), ('\x7b', '~')])
  | "space" => some space
  | "upper" => some upper
  | "word" => some word
  | "xdigit" => some (.ofRanges [('0', '9'), ('A', 'F'), ('a', 'f')])
  | _ => none

end CharSet

end GraphBatch
