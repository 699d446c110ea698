namespace GraphBatch.CommandLine

inductive Flag
  | skipDirs
  | printErrors
  | json
  | verbose
  deriving DecidableEq

/-- Settings are followed by a value. -/
inductive Setting
  | tool
  | format
  | replace
  deriving DecidableEq

/-- Inquiries are answered in place of a pass. -/
inductive Inquiry
  | help
  | version
  deriving DecidableEq

inductive Keyword
  | flag (flag : Flag)
  | setting (setting : Setting)
  | inquiry (inquiry : Inquiry)
  deriving DecidableEq

namespace Keyword

def every : List Keyword :=
  [.setting .tool, .setting .format, .setting .replace, .flag .skipDirs, .flag .printErrors,
    .flag .json, .flag .verbose, .inquiry .help, .inquiry .version]

def name : Keyword → String
  | .flag .skipDirs => "skip-dirs"
  | .flag .printErrors => "print-errors"
  | .flag .json => "json"
  | .flag .verbose => "verbose"
  | .setting .tool => "tool"
  | .setting .format => "format"
  | .setting .replace => "replace"
  | .inquiry .help => "help"
  | .inquiry .version => "version"

/-- There are no abbreviations. -/
def ofName? (name : String) : Option Keyword :=
  every.find? (fun k => k.name == name)

def letter? : Keyword → Option Char
  | .flag .verbose => some 'v'
  | .inquiry .help => some 'h'
  | .inquiry .version => some 'V'
  | _ => none

def ofLetter? (c : Char) : Option Keyword :=
  every.find? (fun k => k.letter? == some c)

/-- The stand-in for a setting's value in messages and in the help. -/
def valueName? : Keyword → Option String
  | .setting .tool => some "<TOOL>"
  | .setting .format => some "<FORMAT>"
  | .setting .replace => some "<REPLACE>"
  | _ => none

def shown (k : Keyword) : String :=
  match k.valueName? with
  | none => "--" ++ k.name
  | some value => "--" ++ k.name ++ " " ++ value

end Keyword

end GraphBatch.CommandLine
