import GraphBatch.CommandLine.Options

namespace GraphBatch.CommandLine

def dash : UInt8 := 0x2D

def equals : UInt8 := 0x3D

inductive Token
  /-- Two dashes alone: what follows is not looked at for keywords. -/
  | dashes
  | long (name : Bytes) (value : Option Bytes)
  | letters (bytes : Bytes)
  /-- Also a single dash. -/
  | plain
  deriving DecidableEq

namespace Token

def ofLong (bytes : Bytes) : Token :=
  .long (bytes.takeWhile (· != equals)) (match bytes.dropWhile (· != equals) with
    | [] => none
    | _ :: value => some value)

def ofArgument (arg : Bytes) : Token :=
  match arg with
  | a :: b :: rest =>
    if a != dash then .plain
    else if b != dash then .letters (b :: rest)
    else if rest = [] then .dashes
    else ofLong rest
  | _ => .plain

end Token

inductive Stop
  | usage (error : UsageError)
  /-- The help has a longer form, for those who spell the keyword out. -/
  | asked (inquiry : Inquiry) (inFull : Bool)
  deriving DecidableEq

/-- What has been read and not yet looked at. -/
inductive Pending
  | nothing
  | value (setting : Setting) (value : Option Bytes)
  | directory (value : Bytes)
  deriving DecidableEq

def Pending.into (given : Given) : Pending → Except UsageError Given
  | .nothing => .ok given
  | .value setting none => .error (.valueMissing (.setting setting))
  | .value setting (some bytes) => given.set setting bytes
  | .directory bytes =>
    (readDirectory bytes).map (fun path => { given with directory := some path })

structure State where
  given : Given := {}
  pending : Pending := .nothing
  /-- Set once the two dashes were met. -/
  onlyPlain : Bool := false

namespace State

def settle (s : State) : Except Stop State :=
  match s.pending.into s.given with
  | .error e => .error (.usage e)
  | .ok given => .ok { s with given, pending := .nothing }

def refuse (error : UsageError) : Except Stop State :=
  .error (.usage error)

def accept (s : State) (given : Except UsageError Given) : Except Stop State :=
  match given with
  | .error e => refuse e
  | .ok given => .ok { s with given }

/-- A keyword without a value attached. -/
def keyword (s : State) (inFull : Bool) (keyword : Keyword) : Except Stop State := do
  let s ← s.settle
  match keyword with
  | .inquiry inquiry => .error (.asked inquiry inFull)
  | .setting setting => .ok { s with pending := .value setting none }
  | .flag flag => s.accept (s.given.raise flag)

def long (s : State) (name : Bytes) (value : Option Bytes) : Except Stop State :=
  match (Utf8.decode? name).bind Keyword.ofName?, value with
  | none, _ => refuse (.unexpectedArgument ("--" ++ Utf8.lossy name))
  | some keyword, none => s.keyword true keyword
  | some (.setting setting), some value => do
    let s ← s.settle
    s.accept (s.given.set setting value)
  | some keyword, some value => refuse (.unexpectedValue keyword value)

/-- Letters are keywords one by one. The first that is none is reported alone; where the bytes are
no text, all that is left is reported. -/
def letters (s : State) : List Utf8.Piece → Except Stop State
  | [] => .ok s
  | .broken bytes :: rest =>
    refuse (.unexpectedArgument
      ("-" ++ String.ofList ((Utf8.Piece.broken bytes :: rest).map Utf8.Piece.shown)))
  | .scalar c :: rest =>
    match Keyword.ofLetter? c with
    | none => refuse (.unexpectedArgument ("-" ++ String.ofList [c]))
    | some keyword => do
      let s ← s.keyword false keyword
      letters s rest

def hasDirectory (s : State) : Bool :=
  s.given.directory.isSome || match s.pending with
    | .directory _ => true
    | _ => false

def positional (s : State) (arg : Bytes) : Except Stop State :=
  if s.hasDirectory then refuse (.unexpectedArgument (Utf8.lossy arg))
  else do
    let s ← s.settle
    return { s with pending := .directory arg }

def plain (s : State) (arg : Bytes) : Except Stop State :=
  match s.pending with
  | .value setting none => .ok { s with pending := .value setting (some arg) }
  | _ => s.positional arg

def argument (s : State) (arg : Bytes) : Except Stop State :=
  if s.onlyPlain then s.positional arg
  else match Token.ofArgument arg with
    | .dashes => .ok { s with onlyPlain := true }
    | .long name value => s.long name value
    | .letters bytes => s.letters (Utf8.pieces bytes)
    | .plain => s.plain arg

end State

def readArguments (args : List Bytes) : Except Stop Given := do
  let s ← args.foldlM State.argument {}
  return (← s.settle).given

/-- The options of a pass, unless the arguments ask for something else or are at fault. -/
def parse (args : List Bytes) (env : Environment) : Except Stop Options := do
  let given ← readArguments args
  match given.resolve env with
  | .error e => .error (.usage e)
  | .ok options => return options

end GraphBatch.CommandLine
