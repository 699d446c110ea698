import GraphBatch.Fault
import GraphBatch.Text.Utf8

namespace GraphBatch

/-- What a look at an entry's type says. A symbolic link is not a directory, wherever it leads. -/
inductive FileType
  | directory
  | other
  | unreadable
  deriving DecidableEq

structure Entry where
  name : Bytes
  type : FileType
  deriving DecidableEq

/-- An entry whose type cannot be read counts as a file. -/
def Entry.isDirectory (e : Entry) : Bool :=
  e.type == .directory

/-- An opened directory is the stream of what reading it gives, up to its end. -/
abbrev Listing := Except Fault (List (Except Fault Entry))

namespace Listing

def collect : List (Except Fault Entry) → Except Fault (List Entry)
  | [] => .ok []
  | .error fault :: _ => .error fault
  | .ok entry :: rest =>
    match collect rest with
    | .error fault => .error fault
    | .ok entries => .ok (entry :: entries)

theorem collect_ok (entries : List Entry) : collect (entries.map .ok) = .ok entries := by
  induction entries with
  | nil => rfl
  | cons entry rest ih => simp only [List.map_cons, collect, ih]

/-- What stands before the first fault, or after it, makes no difference. -/
theorem collect_error (good : List Entry) (fault : Fault) (rest : List (Except Fault Entry)) :
    collect (good.map .ok ++ .error fault :: rest) = .error fault := by
  induction good with
  | nil => rfl
  | cons entry more ih => simp only [List.map_cons, List.cons_append, collect, ih]

/-- All entries, or the first fault met. -/
def entries : Listing → Except Fault (List Entry)
  | .error fault => .error fault
  | .ok stream => collect stream

end Listing

end GraphBatch
