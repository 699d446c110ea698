namespace GraphBatch.Terminal

/-- How far a control sequence has come. -/
inductive Sequence
  | escape
  | intermediate
  | control
  /-- A device control string, before its text. -/
  | device
  /-- Text that only the device sees. -/
  | string
  /-- Text for the system that the terminal runs under. -/
  | command
  deriving DecidableEq

inductive State
  | text
  | within (sequence : Sequence)
  /-- A line or column control inside a sequence is obeyed at once, and what follows is shown until
  the next control character. There the sequence goes on. -/
  | suspended (sequence : Sequence)
  deriving DecidableEq

/-- The controls that move to another line or column. -/
def isSpacing (c : Char) : Bool :=
  c == '\t' || c == '\n' || c == '\x0c' || c == '\r'

def isShown (c : Char) : Bool :=
  isSpacing c || (0x20 ≤ c.toNat && c.toNat != 0x7F)

/-- The byte 9C ends a string, also where it is only a part of a character. -/
def endsString (c : Char) : Bool :=
  (String.utf8EncodeChar c).contains 0x9C

namespace Sequence

def mayPause : Sequence → Bool
  | .escape | .intermediate | .control => true
  | .device | .string | .command => false

/-- The character after an escape says what kind of sequence it begins; most are complete with
that one. -/
def begin (c : Char) : State :=
  if c.toNat < 0x30 then .within .intermediate
  else match c with
    | '[' => .within .control
    | ']' => .within .command
    | 'P' => .within .device
    | 'X' | '^' | '_' => .within .string
    | _ => .text

def next (s : Sequence) (c : Char) : State :=
  let n := c.toNat
  match s with
  | .escape => if 0x20 ≤ n && n < 0x7F then begin c else .within s
  | .intermediate => if 0x30 ≤ n && n < 0x7F then .text else .within s
  | .control => if 0x40 ≤ n && n < 0x7F then .text else .within s
  | .device => if 0x40 ≤ n && n < 0x7F then .within .string else .within s
  | .string => if endsString c then .text else .within s
  | .command => if n = 7 then .text else .within s

end Sequence

/-- The state after a character, and whether the character is shown. An escape begins a new
sequence in every state, and the two cancelling controls end one. -/
def State.step (state : State) (c : Char) : State × Bool :=
  if c = '\x1b' then (.within .escape, false)
  else if c = '\x18' ∨ c = '\x1a' then (.text, false)
  else match state with
    | .text => (.text, isShown c)
    | .within s =>
      if s.mayPause && isSpacing c then (.suspended s, true) else (s.next c, false)
    | .suspended s =>
      if 0x80 ≤ c.toNat then (.text, true)
      else if isShown c then (.suspended s, true)
      else (s.next c, false)

/-- The state at the end of a text, and what was shown of it. -/
def State.run (state : State) : List Char → State × List Char
  | [] => (state, [])
  | c :: rest =>
    let (next, shown) := state.step c
    let (last, more) := next.run rest
    (last, if shown then c :: more else more)

/-- Spacing controls are harmless, but for the one that clears the screen. -/
def disarmChar (c : Char) : List Char :=
  if c = '\x1b' then "\\x1b".toList
  else if c = '\x07' then "\\x07".toList
  else if c = '\x08' then "\\x08".toList
  else if c = '\x0c' then "\\x0c".toList
  else if c = '\x7f' then "\\x7f".toList
  else if 0x80 ≤ c.toNat && c.toNat ≤ 0x9F then
    ['\\', 'u', '\x7b'] ++ Nat.toDigits 16 c.toNat ++ ['\x7d']
  else [c]

def disarm (text : String) : String :=
  String.ofList (text.toList.flatMap disarmChar)

end GraphBatch.Terminal
