import GraphBatch.CommandLine.Options
import GraphBatch.Text.Layout
import GraphBatch.Text.Styled

namespace GraphBatch.CommandLine

open Text

structure HelpEntry where
  left : Styled
  about : String
  /-- Values the argument can take, each with its meaning. -/
  values : List (String × String) := []
  /-- The variable that can give the value, and what it holds now. -/
  source : Option (String × Option Bytes) := none
  fallback : Option String := none

namespace HelpEntry

def variableNote (name : String) (value : Option Bytes) : String :=
  "[env: " ++ name ++ "=" ++ (value.map Utf8.lossy).getD "" ++ "]"

def notes (e : HelpEntry) : List String :=
  (e.source.map (fun (name, value) => variableNote name value)).toList ++
    (e.fallback.map (fun value => "[default: " ++ value ++ "]")).toList

def valueList (e : HelpEntry) : List String :=
  if e.values.isEmpty then []
  else ["[possible values: " ++ ", ".intercalate (e.values.map Prod.fst) ++ "]"]

def short (column : Nat) (e : HelpEntry) : Styled :=
  let text := " ".intercalate (e.about :: e.notes ++ e.valueList)
  e.left ++ [.plain (blanks (column - e.left.width) ++ hang column text)]

def margin : Nat := 10

def valueLine (width : Nat) (value : String × String) : String :=
  let name := value.1 ++ ":"
  "- " ++ name ++ blanks (width - name.length) ++ value.2

/-- The line before the notes is indented as they are; the line before the values is empty. -/
def full (e : HelpEntry) : Styled :=
  let indented (text : String) := blanks margin ++ hang margin text
  let width := (e.values.map (fun (name, _) => name.length + 2)).foldl max 0
  let values := if e.values.isEmpty then []
    else "" :: (("Possible values:" :: e.values.map (valueLine width)).map indented)
  let notes := if e.notes.isEmpty then [] else ("" :: e.notes).map indented
  e.left ++ [.plain ("\n" ++ "\n".intercalate (indented e.about :: values ++ notes))]

end HelpEntry

def directoryEntry (env : Environment) : HelpEntry where
  left := [.plain "  [DIR]"]
  about := "Directory to scan (not recursive)"
  source := some ("DOT_RENDER_DIR", env.directory)
  fallback := some "."

def policyMeaning : Policy → String
  | .trailing => "Replace only the trailing suffix: `a.dot.dot` → `a.dot.svg`"
  | .first => "Replace the first occurrence: `a.dot.dot` → `a.svg.dot`"
  | .all => "Replace every occurrence: `a.dot.dot` → `a.svg.svg`"

def Keyword.left (k : Keyword) : Styled :=
  let long : Styled := .strong ("--" ++ k.name) ::
    (k.valueName?.map (fun value => Piece.plain (" " ++ value))).toList
  match k.letter? with
  | none => .plain "      " :: long
  | some c => .plain "  " :: .strong ("-" ++ String.ofList [c]) :: .plain ", " :: long

def Keyword.about (inFull : Bool) : Keyword → String
  | .setting .tool => "Rendering program to invoke"
  | .setting .format => "Output format passed as `-T<format>`"
  | .setting .replace => "How `.dot` is swapped for `.svg` in names like `a.dot.dot`"
  | .flag .skipDirs => "Do not hand directories named `*.dot` to the tool"
  | .flag .printErrors => "Print one line per failed invocation on stderr"
  | .flag .json => "Print the run report as JSON on stdout"
  | .flag .verbose => "Log every invocation"
  | .inquiry .help =>
    if inFull then "Print help (see a summary with '-h')" else "Print help (see more with '--help')"
  | .inquiry .version => "Print version"

def Keyword.entry (env : Environment) (inFull : Bool) (k : Keyword) : HelpEntry :=
  let entry : HelpEntry := { left := k.left, about := k.about inFull }
  match k with
  | .setting .tool => { entry with
      source := some ("DOT_RENDER_TOOL", env.tool), fallback := some ({} : Tool).program }
  | .setting .format => { entry with
      source := some ("DOT_RENDER_FORMAT", env.format), fallback := some ({} : Tool).format }
  | .setting .replace => { entry with
      values := Policy.every.map (fun p => (p.name, policyMeaning p))
      fallback := some Policy.trailing.name }
  | _ => entry

/-- A section of entries, in columns or one below the other. -/
def helpSection (title : String) (inFull : Bool) (entries : List HelpEntry) : Styled :=
  let column := (entries.map (fun e => e.left.width + 2)).foldl max 0
  .strong (title ++ ":") :: .plain "\n" ::
    if inFull then [Piece.plain "\n\n"].intercalate (entries.map HelpEntry.full)
    else [Piece.plain "\n"].intercalate (entries.map (HelpEntry.short column))

def helpText (env : Environment) (inFull : Bool) : Styled :=
  [Piece.plain "\n\n"].intercalate [
    [.plain "Render every .dot file in a directory to compressed SVG"],
    [.strong "Usage:", .plain " ", .strong "dot-render", .plain " [OPTIONS] [DIR]"],
    helpSection "Arguments" inFull [directoryEntry env],
    helpSection "Options" inFull (Keyword.every.map (Keyword.entry env inFull))] ++ [.plain "\n"]

def help (env : Environment) (inFull : Bool) : String :=
  (helpText env inFull).unstyled

def version : String := "dot-render 0.1.0\n"

end GraphBatch.CommandLine
