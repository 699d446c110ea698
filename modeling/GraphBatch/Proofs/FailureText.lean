import GraphBatch.CommandLine
import GraphBatch.Proofs.Boundaries
import GraphBatch.Proofs.Outcomes
import Mathlib.Algebra.GroupWithZero.Nat

namespace GraphBatch

theorem length_splitOn {α : Type} [DecidableEq α] (separator : α) (list : List α) :
    (list.splitOn separator).length = list.count separator + 1 := by
  induction list with
  | nil => rfl
  | cons a rest ih =>
    rw [List.splitOn_cons_eq_if_modifyHead, List.count_cons]
    split
    · rw [List.length_cons, ih]
    · rw [List.length_modifyHead, ih, Nat.add_zero]

namespace CommandLine

/-- The text of lines, as characters: each is followed by a break. -/
theorem toList_unlines (lines : List String) :
    (unlines lines).toList = lines.flatMap fun line => line.toList ++ ['\n'] := by
  simp [unlines, String.toList_join, List.flatMap_map]

theorem unlines_append (a b : List String) : unlines (a ++ b) = unlines a ++ unlines b := by
  simp [unlines]

/-- Lines without breaks are read back, with nothing behind the last break. -/
theorem splitOn_unlines {lines : List String} (single : ∀ line ∈ lines, '\n' ∉ line.toList) :
    (unlines lines).toList.splitOn '\n' = lines.map String.toList ++ [[]] := by
  rw [toList_unlines]
  induction lines with
  | nil => rfl
  | cons line rest ih =>
    have hline : '\n' ∉ line.toList := single line (by simp)
    have hrest : ∀ other ∈ rest, '\n' ∉ other.toList := by
      intro other hm
      exact single other (by simp [hm])
    simp only [List.flatMap_cons, List.append_assoc, List.singleton_append]
    rw [List.splitOn_append_cons_self_of_not_mem hline, ih hrest]
    rfl

theorem count_unlines (lines : List String) :
    (unlines lines).toList.count '\n' =
      lines.length + (lines.map fun line => line.toList.count '\n').sum := by
  rw [toList_unlines]
  induction lines with
  | nil => rfl
  | cons line rest ih =>
    simp only [List.flatMap_cons, List.count_append, ih, List.count_singleton_self,
      List.length_cons, List.map_cons, List.sum_cons]
    omega

end CommandLine

/-- Bytes without the byte of a break show none. -/
theorem Utf8.break_not_mem_lossy {bytes : Bytes} (h : 0x0A ∉ bytes) :
    '\n' ∉ (lossy bytes).toList := by
  intro hm
  rw [toList_lossy] at hm
  obtain ⟨x, y, hxy⟩ := List.append_of_mem hm
  have carries : Carries shownText (encodeAll ['\n']) := shownText_carries (by simp) (by decide)
  have hshown : shownText bytes = x ++ shownText (encodeAll ['\n']) ++ y := by
    rw [shownText_encodeAll, hxy, List.append_assoc, List.singleton_append]
  obtain ⟨before, after, rfl, _⟩ := carries.found hshown
  have hbyte : encodeAll ['\n'] = [0x0A] := by decide
  apply h
  rw [hbyte]
  simp

/-- A number is written with digits, and a sign before them. -/
theorem break_not_mem_repr (n : Int) : '\n' ∉ n.repr.toList := by
  have digits : ∀ m : Nat, '\n' ∉ Nat.toDigits 10 m := by
    intro m hm
    have := Nat.isDigit_of_mem_toDigits (by decide) (by decide) hm
    simp at this
  rw [Int.repr_eq_if]
  split <;> simp [digits]

namespace Conversion

/-- No break comes from the path or from what the system says of a tool it cannot start. -/
structure Unbroken (c : Conversion) : Prop where
  input : 0x0A ∉ c.input
  message : ∀ message, c.outcome = .spawnFailed message → '\n' ∉ message.toList

/-- How many breaks the tool's own text brings into what is printed. -/
def toolBreaks (c : Conversion) : Nat :=
  match c.outcome with
  | .failed _ stderr => (Text.trim stderr).toList.count '\n'
  | _ => 0

theorem toolBreaks_eq_zero_iff (c : Conversion) :
    c.toolBreaks = 0 ↔
      ∀ code stderr, c.outcome = .failed code stderr → '\n' ∉ (Text.trim stderr).toList := by
  unfold toolBreaks
  split
  · rename_i code stderr h
    simp [h, List.count_eq_zero]
  · rename_i other
    simp only [true_iff]
    intro code stderr h
    exact absurd h (other code stderr)

theorem toolBreaks_of_none {c : Conversion} (h : c.failureLine? = none) : c.toolBreaks = 0 := by
  simp [toolBreaks, c.failureLine?_eq_none_iff.mp h]

/-- What is printed of a failure has the breaks of the tool's text and no other. -/
theorem Unbroken.count_failureLine {c : Conversion} (unbroken : c.Unbroken) {line : String}
    (h : c.failureLine? = some line) : line.toList.count '\n' = c.toolBreaks := by
  have hinput : (Utf8.lossy c.input).toList.count '\n' = 0 :=
    List.count_eq_zero_of_not_mem (Utf8.break_not_mem_lossy unbroken.input)
  unfold failureLine? at h
  split at h
  · cases h
  · rename_i code stderr ho
    obtain rfl := Option.some.inj h
    have hcode : code.repr.toList.count '\n' = 0 :=
      List.count_eq_zero_of_not_mem (break_not_mem_repr code)
    simp [toolBreaks, ho, hinput, hcode]
  · rename_i stderr ho
    obtain rfl := Option.some.inj h
    simp [toolBreaks, ho, hinput]
  · rename_i text ho
    obtain rfl := Option.some.inj h
    have htext : text.toList.count '\n' = 0 :=
      List.count_eq_zero_of_not_mem (unbroken.message text ho)
    simp [toolBreaks, ho, hinput, htext]

end Conversion

/-- No tool's text has a break in it. Those at its ends do not count: they are trimmed. -/
def Report.ToolsUnbroken (r : Report) : Prop :=
  ∀ c ∈ r.conversions, ∀ code stderr, c.outcome = .failed code stderr →
    '\n' ∉ (Text.trim stderr).toList

namespace Report

theorem sum_toolBreaks_eq_zero_iff (r : Report) :
    (r.conversions.map Conversion.toolBreaks).sum = 0 ↔ r.ToolsUnbroken := by
  simp [List.sum_eq_zero_iff_forall_eq_nat, Conversion.toolBreaks_eq_zero_iff, ToolsUnbroken]

variable {r : Report} (unbroken : ∀ c ∈ r.conversions, c.Unbroken)

theorem length_failureLines (r : Report) : r.failureLines.length = r.failed :=
  r.failureLines_begin.length_eq.trans r.length_not_succeeded

include unbroken

theorem sum_breaks : (r.failureLines.map fun line => line.toList.count '\n').sum =
    (r.conversions.map Conversion.toolBreaks).sum := by
  unfold failureLines
  generalize r.conversions = conversions at unbroken ⊢
  induction conversions with
  | nil => rfl
  | cons c rest ih =>
    have hrest := ih fun d hd => unbroken d (List.mem_cons_of_mem c hd)
    cases h : c.failureLine? with
    | none => simp [h, hrest, c.toolBreaks_of_none h]
    | some line => simp [h, hrest, (unbroken c (by simp)).count_failureLine h]

theorem failureLines_single_iff :
    (∀ line ∈ r.failureLines, '\n' ∉ line.toList) ↔ r.ToolsUnbroken := by
  rw [← r.sum_toolBreaks_eq_zero_iff, ← sum_breaks unbroken]
  simp [List.sum_eq_zero_iff_forall_eq_nat, List.count_eq_zero]

end Report

namespace CommandLine

/-- Of a pass that tells its failures, the errors are the log and then the failures. -/
theorem stderr_of_printErrors {options : Options} {pass : Pass} {r : Report}
    (asked : options.printErrors = true) (passed : pass.result = .ok r) :
    (Response.passed options pass).stderr = unlines pass.log ++ unlines r.failureLines := by
  simp [Response.stderr, Pass.errorLines, passed, asked, unlines_append]

/-- Failures are told in one line each, but for the breaks in what the tools say. If neither the
paths nor the messages of the system have any, the text printed of the failures splits into as many
lines as there are failures and breaks within the tools' texts. So there is one line for each
failure exactly if no tool's text has a break in it, and then the lines are read as they were
printed. -/
theorem failures_told_in_lines (r : Report) (unbroken : ∀ c ∈ r.conversions, c.Unbroken) :
    (∀ (options : Options) (pass : Pass), options.printErrors = true → pass.result = .ok r →
      (Response.passed options pass).stderr = unlines pass.log ++ unlines r.failureLines) ∧
    ((unlines r.failureLines).toList.splitOn '\n').length =
      r.failed + (r.conversions.map Conversion.toolBreaks).sum + 1 ∧
    ((∀ line ∈ r.failureLines, '\n' ∉ line.toList) ↔ r.ToolsUnbroken) ∧
    (((unlines r.failureLines).toList.splitOn '\n').length = r.failed + 1 ↔ r.ToolsUnbroken) ∧
    (r.ToolsUnbroken →
      (unlines r.failureLines).toList.splitOn '\n' = r.failureLines.map String.toList ++ [[]]) := by
  have single := Report.failureLines_single_iff unbroken
  have total : ((unlines r.failureLines).toList.splitOn '\n').length =
      r.failed + (r.conversions.map Conversion.toolBreaks).sum + 1 := by
    rw [length_splitOn, count_unlines, r.length_failureLines, Report.sum_breaks unbroken]
  refine ⟨?_, total, single, ?_, ?_⟩
  · intro options pass asked passed
    exact stderr_of_printErrors asked passed
  · rw [total, ← r.sum_toolBreaks_eq_zero_iff]
    omega
  · intro quiet
    exact splitOn_unlines (single.mpr quiet)

/-- What the tool says has a break in it and one at its end. -/
def wordyFailure : Conversion where
  input := Utf8.encode "./a.dot"
  output := Utf8.encode "./a.svg"
  outcome := .failed (some 1) "syntax error\nin line 2\n"

def refusedTool : Conversion where
  input := Utf8.encode "./b.dot"
  output := Utf8.encode "./b.svg"
  outcome := .spawnFailed "failed to spawn 'dot': entity not found"

theorem wordyFailure_unbroken : wordyFailure.Unbroken := by
  refine ⟨by decide, ?_⟩
  intro message h
  cases h

theorem refusedTool_unbroken : refusedTool.Unbroken := by
  refine ⟨by decide, ?_⟩
  intro message h
  obtain rfl := Outcome.spawnFailed.inj h
  decide

def twoFailures : Report := ⟨Path.here, [wordyFailure, refusedTool], 0⟩

/-- The one break is the one line too many. -/
theorem failures_told_in_lines_and_breaks :
    (∀ c ∈ twoFailures.conversions, c.Unbroken) ∧
    ((unlines twoFailures.failureLines).toList.splitOn '\n').length = 2 + 1 + 1 ∧
    ¬ twoFailures.ToolsUnbroken := by
  have unbroken : ∀ c ∈ twoFailures.conversions, c.Unbroken := by
    intro c hc
    simp only [twoFailures, List.mem_cons, List.not_mem_nil, or_false] at hc
    rcases hc with rfl | rfl
    · exact wordyFailure_unbroken
    · exact refusedTool_unbroken
  obtain ⟨_, total, _, perFailure, _⟩ := failures_told_in_lines twoFailures unbroken
  have total : ((unlines twoFailures.failureLines).toList.splitOn '\n').length = 2 + 1 + 1 :=
    total.trans (by decide)
  refine ⟨unbroken, total, ?_⟩
  rw [← perFailure, total]
  decide

def oneFailure : Report := ⟨Path.here, [wordyFailure], 0⟩

/-- A single failure can be told in two lines. -/
theorem failure_told_in_two_lines :
    (∀ c ∈ oneFailure.conversions, c.Unbroken) ∧ oneFailure.failed = 1 ∧
    (∃ line ∈ oneFailure.failureLines, '\n' ∈ line.toList) ∧
    (unlines oneFailure.failureLines).toList.splitOn '\n' =
      ["./a.dot: exit status 1: syntax error", "in line 2", ""].map String.toList := by
  refine ⟨?_, by decide, by decide, by decide⟩
  intro c hc
  obtain rfl := List.mem_singleton.mp hc
  exact wordyFailure_unbroken

end CommandLine

end GraphBatch
