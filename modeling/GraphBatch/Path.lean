import GraphBatch.Text.Utf8

namespace GraphBatch

abbrev Path := Bytes

namespace Path

def slash : UInt8 := 0x2F

/-- The path of a name in a directory. An absolute name stands by itself; an empty name leaves the
directory with a final slash. -/
def join (directory name : Bytes) : Path :=
  if name.head? = some slash then name
  else if directory = [] ∨ directory.getLast? = some slash then directory ++ name
  else directory ++ slash :: name

def segments (path : Path) : List Bytes :=
  path.splitOn slash

def here : Bytes := [0x2E]

def parent : Bytes := [0x2E, 0x2E]

structure Components where
  absolute : Bool
  parts : List Bytes
  deriving DecidableEq

/-- Empty segments are dropped, and so is a dot that does not begin the path. -/
def components (path : Path) : Components :=
  let kept := (segments path).filter (fun s => s != [] && s != here)
  if path.head? = some slash then ⟨true, kept⟩
  else if (segments path).head? = some here then ⟨false, here :: kept⟩
  else ⟨false, kept⟩

/-- Paths with the same components. A parent segment is never resolved. -/
def same (p q : Path) : Bool :=
  components p == components q

end Path

end GraphBatch
