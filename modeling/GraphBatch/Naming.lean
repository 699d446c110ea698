import GraphBatch.Search
import GraphBatch.Text.Utf8

namespace GraphBatch

/-- Which occurrences of the input suffix are replaced. It matters only for a name in which the
suffix also stands earlier, such as `a.dot.dot`. -/
inductive Policy
  | trailing
  | first
  | all
  deriving DecidableEq

namespace Policy

def every : List Policy := [.trailing, .first, .all]

def name : Policy → String
  | .trailing => "trailing"
  | .first => "first"
  | .all => "all"

def index : Policy → Nat
  | .trailing => 0
  | .first => 1
  | .all => 2

def ofName? (text : String) : Option Policy :=
  every.find? (fun p => p.name == text)

/-- Only the case of ASCII letters is ignored. -/
def ofNameAnyCase? (text : String) : Option Policy :=
  every.find? (fun p => p.name == text.map Char.toLower)

end Policy

variable {α : Type} [DecidableEq α]

/-- No name is a candidate for an empty suffix. -/
def isCandidate (suffix name : List α) : Bool :=
  !suffix.isEmpty && suffix.isSuffixOf name

theorem isCandidate_iff {suffix name : List α} :
    isCandidate suffix name = true ↔ suffix ≠ [] ∧ suffix <:+ name := by
  simp [isCandidate, List.isSuffixOf_iff_suffix]

def replaceTrailing (suffix replacement name : List α) : List α :=
  name.take (name.length - suffix.length) ++ replacement

def replaceFirst (suffix replacement name : List α) : List α :=
  match find suffix name with
  | none => name
  | some i => name.take i ++ replacement ++ name.drop (i + suffix.length)

/-- Matches are taken from the left and do not overlap. A match of a non-empty suffix leaves less
to search, so the scan ends. -/
def replaceAll (suffix : List α) (nonempty : suffix ≠ []) (replacement name : List α) : List α :=
  match _found : find suffix name with
  | none => name
  | some i =>
    name.take i ++ replacement ++
      replaceAll suffix nonempty replacement (name.drop (i + suffix.length))
termination_by name.length
decreasing_by
  have := find_fits _found
  have := List.length_pos_iff.mpr nonempty
  simp only [List.length_drop]
  omega

def Policy.replace (policy : Policy) (suffix : List α) (nonempty : suffix ≠ [])
    (replacement name : List α) : List α :=
  match policy with
  | .trailing => replaceTrailing suffix replacement name
  | .first => replaceFirst suffix replacement name
  | .all => replaceAll suffix nonempty replacement name

/-- The output name of an entry, or `none` if it is not a candidate. -/
def outputName (policy : Policy) (suffix replacement name : List α) : Option (List α) :=
  if h : isCandidate suffix name = true then
    some (policy.replace suffix (isCandidate_iff.mp h).1 replacement name)
  else none

theorem outputName_eq_none_iff {policy : Policy} {suffix replacement name : List α} :
    outputName policy suffix replacement name = none ↔ isCandidate suffix name = false := by
  simp [outputName]

namespace Text

def isCandidate (suffix name : String) : Bool :=
  GraphBatch.isCandidate (Utf8.encode suffix) (Utf8.encode name)

/-- Text is renamed through its bytes. -/
def outputName (policy : Policy) (suffix replacement name : String) : Option String :=
  (GraphBatch.outputName policy (Utf8.encode suffix) (Utf8.encode replacement)
    (Utf8.encode name)).bind Utf8.decode?

end Text

end GraphBatch
