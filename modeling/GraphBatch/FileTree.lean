import GraphBatch.Listing
import GraphBatch.Path

namespace GraphBatch

/-- How a scripted program ends. Of an exit code the system keeps the lowest byte. -/
inductive Ending
  | exit (code : Int)
  | signal

/-- What a scripted program prints before it ends. -/
structure Performance where
  /-- Each argument in brackets on a line of its own, before all else. -/
  printArgs : Bool := false
  stdout : Bytes := []
  stderr : Bytes := []
  ending : Ending := .exit 0

/-- A program whose performance is chosen by how its last argument ends. -/
structure Program where
  cases : List (Bytes × Performance)
  otherwise : Performance

inductive Node
  | directory
  | file
  | link (target : Path)
  | program (program : Program)

namespace Node

def isDirectory : Node → Bool
  | .directory => true
  | _ => false

def fileType : Node → FileType
  | .directory => .directory
  | _ => .other

end Node

/-- The names from the root to a place in the tree. -/
abbrev Location := List Bytes

abbrev FileTree := List (Location × Node)

namespace FileTree

/-- The directory where relative paths start. -/
def working : Location := [Utf8.encode "work"]

def new : FileTree := [([], .directory), (working, .directory)]

def node? (tree : FileTree) (place : Location) : Option Node :=
  List.lookup place tree

def isDirectory (tree : FileTree) (place : Location) : Bool :=
  (tree.node? place).any Node.isDirectory

def maxName : Nat := 255

def maxPath : Nat := 4095

/-- Links followed in one path before it is taken for a loop. -/
def maxLinks : Nat := 40

def start (place : Location) (path : Path) : Location :=
  if path.head? = some Path.slash then [] else place

/-- Only a directory can be passed through, also by an empty segment: a final slash asks for a
directory. The parent of the root is the root. -/
def walk (tree : FileTree) (links : Nat) (place : Location) (todo : List Bytes) :
    Except SystemError Location :=
  match todo with
  | [] => .ok place
  | name :: rest =>
    if !tree.isDirectory place then .error .notDirectory
    else if name = [] ∨ name = Path.here then walk tree links place rest
    else if name = Path.parent then walk tree links place.dropLast rest
    else if name.length > maxName then .error .nameTooLong
    else
      match tree.node? (place ++ [name]) with
      | none => .error .notFound
      | some (.link target) =>
        if links = 0 then .error .linkLoop
        else walk tree (links - 1) (start place target) (Path.segments target ++ rest)
      | some _ => walk tree links (place ++ [name]) rest
termination_by (links, todo.length)

def locate (tree : FileTree) (path : Path) : Except SystemError Location :=
  if path = [] then .error .notFound
  else if path.length > maxPath then .error .nameTooLong
  else walk tree maxLinks (start working path) (Path.segments path)

/-- The entries of a directory, by name. -/
def children (tree : FileTree) (place : Location) : List Entry :=
  let entries := tree.filterMap fun (other, node) =>
    match other.getLast? with
    | none => none
    | some name => if other.dropLast = place then some ⟨name, node.fileType⟩ else none
  entries.mergeSort (fun a b => decide (a.name ≤ b.name))

def list (tree : FileTree) (path : Path) : Listing :=
  if path.contains 0 then .error (.described "file name contained an unexpected NUL byte")
  else match tree.locate path with
    | .error e => .error (.system e)
    | .ok place =>
      if tree.isDirectory place then .ok ((tree.children place).map .ok)
      else .error (.system .notDirectory)

def erase (tree : FileTree) (place : Location) : FileTree :=
  tree.filter (fun (other, _) => !place.isPrefixOf other)

def put (tree : FileTree) (place : Location) (node : Node) : FileTree :=
  tree.filter (fun (other, _) => other != place) ++ [(place, node)]

/-- Goes along the names and makes the directories that are missing. -/
def makeWay (tree : FileTree) (place : Location) : List Bytes → FileTree × Location
  | [] => (tree, place)
  | name :: rest =>
    if name = [] ∨ name = Path.here then makeWay tree place rest
    else if name = Path.parent then makeWay tree place.dropLast rest
    else match tree.node? (place ++ [name]) with
      | none => makeWay (tree.put (place ++ [name]) .directory) (place ++ [name]) rest
      | some (.link _) =>
        match tree.walk maxLinks place [name] with
        | .ok target => makeWay tree target rest
        | .error _ => makeWay tree (place ++ [name]) rest
      | some _ => makeWay tree (place ++ [name]) rest

def addDirectory (tree : FileTree) (path : Path) : FileTree :=
  (tree.makeWay (start working path) (Path.segments path)).1

/-- The names of a path that lead somewhere else. -/
def names (path : Path) : List Bytes :=
  (Path.segments path).filter (fun s => s != [] && s != Path.here)

/-- Puts a node where a name leads. A link leads on to its target, which need not be there yet. -/
def putThrough (tree : FileTree) (node : Node) : Nat → Location → Bytes → FileTree
  | 0, _, _ => tree
  | links + 1, place, name =>
    match tree.node? (place ++ [name]) with
    | some (.link target) =>
      let path := names target
      match path.getLast?, tree.walk maxLinks (start place target) path.dropLast with
      | some name, .ok place => putThrough tree node links place name
      | _, _ => tree
    | _ => tree.put (place ++ [name]) node

/-- Makes the directories above a path and does something with its last name. -/
def atEnd (tree : FileTree) (path : Path) (act : FileTree → Location → Bytes → FileTree) :
    FileTree :=
  let names := names path
  let (tree, place) := tree.makeWay (start working path) names.dropLast
  match names.getLast? with
  | none => tree
  | some name => act tree place name

def add (tree : FileTree) (path : Path) (node : Node) : FileTree :=
  tree.atEnd path (fun tree place name => tree.putThrough node (maxLinks + 1) place name)

/-- A link takes the place of nothing. -/
def addLink (tree : FileTree) (path target : Path) : FileTree :=
  tree.atEnd path fun tree place name =>
    if (tree.node? (place ++ [name])).isSome then tree
    else tree.put (place ++ [name]) (.link target)

/-- Removes what a path names and all below it; a link is removed itself. -/
def remove (tree : FileTree) (path : Path) : FileTree :=
  let names := names path
  match names.getLast?, tree.walk maxLinks (start working path) names.dropLast with
  | some name, .ok place => tree.erase (place ++ [name])
  | _, _ => tree

end FileTree

end GraphBatch
