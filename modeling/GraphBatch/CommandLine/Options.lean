import GraphBatch.Batch
import GraphBatch.CommandLine.Keyword
import GraphBatch.Text.Styled

namespace GraphBatch.CommandLine

inductive Place
  | directory
  | setting (setting : Setting)
  deriving DecidableEq

def Place.shown : Place → String
  | .directory => "[DIR]"
  | .setting s => (Keyword.setting s).shown

inductive UsageError
  | unexpectedArgument (text : String)
  | unexpectedValue (keyword : Keyword) (value : Bytes)
  | valueMissing (place : Place)
  | repeated (keyword : Keyword)
  | unknownPolicy (value : Bytes)
  | notText
  deriving DecidableEq

namespace UsageError

/-- What is at fault is set apart, as is the first word. -/
def pieces : UsageError → Text.Styled
  | .unexpectedArgument text => [.plain "unexpected argument '", .strong text, .plain "' found"]
  | .unexpectedValue keyword value =>
    [.plain "unexpected value '", .strong (Utf8.lossy value), .plain "' for '",
      .strong keyword.shown, .plain "' found; no more were expected"]
  | .valueMissing place =>
    [.plain "a value is required for '", .strong place.shown, .plain "' but none was supplied"]
  | .repeated keyword =>
    [.plain "the argument '", .strong keyword.shown, .plain "' cannot be used multiple times"]
  | .unknownPolicy value =>
    [.plain "invalid value '", .strong (Utf8.lossy value), .plain "' for '",
      .strong (Keyword.setting .replace).shown, .plain "'"]
  | .notText => [.plain "invalid UTF-8 was detected in one or more arguments"]

/-- An argument is shown without the control sequences in it. -/
def message (e : UsageError) : String :=
  Text.Styled.unstyled (.strong "error:" :: .plain " " :: e.pieces)

end UsageError

/-- A directory may be any bytes but none at all. -/
def readDirectory (value : Bytes) : Except UsageError Path :=
  if value = [] then .error (.valueMissing .directory) else .ok value

def readText (value : Bytes) : Except UsageError String :=
  match Utf8.decode? value with
  | some text => .ok text
  | none => .error .notText

def readPolicy (value : Bytes) : Except UsageError Policy :=
  if value = [] then .error (.valueMissing (.setting .replace))
  else match (Utf8.decode? value).bind Policy.ofName? with
    | some policy => .ok policy
    | none => .error (.unknownPolicy value)

structure Given where
  directory : Option Path := none
  tool : Option String := none
  format : Option String := none
  policy : Option Policy := none
  skipDirs : Bool := false
  printErrors : Bool := false
  json : Bool := false
  verbose : Bool := false
  deriving DecidableEq

namespace Given

def has (given : Given) : Keyword → Bool
  | .flag .skipDirs => given.skipDirs
  | .flag .printErrors => given.printErrors
  | .flag .json => given.json
  | .flag .verbose => given.verbose
  | .setting .tool => given.tool.isSome
  | .setting .format => given.format.isSome
  | .setting .replace => given.policy.isSome
  | .inquiry _ => false

def raise (given : Given) (flag : Flag) : Except UsageError Given :=
  if given.has (.flag flag) then .error (.repeated (.flag flag))
  else .ok (match flag with
    | .skipDirs => { given with skipDirs := true }
    | .printErrors => { given with printErrors := true }
    | .json => { given with json := true }
    | .verbose => { given with verbose := true })

/-- A second value is refused before it is looked at. -/
def set (given : Given) (setting : Setting) (value : Bytes) : Except UsageError Given :=
  if given.has (.setting setting) then .error (.repeated (.setting setting))
  else match setting with
    | .tool => (readText value).map (fun text => { given with tool := some text })
    | .format => (readText value).map (fun text => { given with format := some text })
    | .replace => (readPolicy value).map (fun policy => { given with policy := some policy })

end Given

structure Environment where
  directory : Option Bytes := none
  tool : Option Bytes := none
  format : Option Bytes := none
  log : Option Bytes := none

structure Options where
  directory : Path
  tool : Tool
  policy : Policy
  skipDirs : Bool
  printErrors : Bool
  json : Bool
  verbose : Bool
  deriving DecidableEq

/-- A given value, else the variable's if it is set, else the default. -/
def choose {α : Type} (given : Option α) (read : Bytes → Except UsageError α)
    (fromEnv : Option Bytes) (default : α) : Except UsageError α :=
  match given, fromEnv with
  | some value, _ => .ok value
  | none, some bytes => read bytes
  | none, none => .ok default

/-- The variables are looked at in the order directory, tool, format. -/
def Given.resolve (given : Given) (env : Environment) : Except UsageError Options := do
  let directory ← choose given.directory readDirectory env.directory Path.here
  let program ← choose given.tool readText env.tool ({} : Tool).program
  let format ← choose given.format readText env.format ({} : Tool).format
  return {
    directory
    tool := ⟨program, format⟩
    policy := given.policy.getD .trailing
    skipDirs := given.skipDirs
    printErrors := given.printErrors
    json := given.json
    verbose := given.verbose }

/-- The suffixes are not for the command line to choose. -/
def Options.config (o : Options) : Config where
  directory := o.directory
  policy := o.policy
  tool := o.tool
  skipDirectories := o.skipDirs

end GraphBatch.CommandLine
