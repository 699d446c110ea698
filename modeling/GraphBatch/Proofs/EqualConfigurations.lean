import GraphBatch.Proofs.Components
import GraphBatch.Proofs.Outcomes

namespace GraphBatch

variable {σ : Type}

/-- From this state on, what is answered depends on how many calls there were and not on what was
called. What is remembered may depend on both. -/
def Runner.ByPosition (run : Runner σ) (s : σ) : Prop :=
  ∃ answers : Nat → Answer, ∀ calls,
    (run.exchange s calls).map Prod.snd = (List.range calls.length).map answers

/-- A runner that records its calls and answers them from a list made in advance. -/
def Runner.inOrder (answers : Nat → Answer) : Runner (List Call) :=
  fun log call => (answers log.length, log ++ [call])

theorem Runner.inOrder_byPosition (answers : Nat → Answer) (log : List Call) :
    (inOrder answers).ByPosition log := by
  refine ⟨fun i => answers (log.length + i), ?_⟩
  intro calls
  induction calls generalizing log with
  | nil => rfl
  | cons call rest ih =>
    rw [exchange, List.map_cons, inOrder, ih, List.length_cons, List.range_succ_eq_map,
      List.map_cons, List.map_map]
    simp only [List.length_append, List.length_singleton, Nat.add_zero, Function.comp_def,
      Nat.succ_eq_add_one, Nat.add_assoc, Nat.add_comm 1]

/-- Calls of one program with the same options, on the same paths. -/
structure Call.Alike (x y : Call) : Prop where
  program : x.program = y.program
  options : x.args.take 2 = y.args.take 2
  paths : List.Forall₂ (fun p q => Path.same p q = true) (x.args.drop 2) (y.args.drop 2)

/-- Conversions of the same paths with the same outcome. -/
structure Conversion.Alike (c d : Conversion) : Prop where
  input : Path.same c.input d.input = true
  output : Path.same c.output d.output = true
  outcome : c.outcome = d.outcome

theorem Tool.call_alike_iff {tool : Tool} {input output input' output' : Path} :
    (tool.call input output).Alike (tool.call input' output') ↔
      Path.same input input' = true ∧ Path.same output output' = true := by
  constructor
  · intro h
    have paths := h.paths
    simp only [Tool.call, Tool.args, List.drop_succ_cons, List.drop_zero, List.forall₂_cons,
      List.forall₂_nil_left_iff, and_true] at paths
    exact paths.symm
  · rintro ⟨input, output⟩
    exact ⟨rfl, rfl, .cons output (.cons input .nil)⟩

namespace Config

variable {a b : Config}

theorem same_iff : a.same b = true ↔
    Path.same a.directory b.directory = true ∧ a.inputSuffix = b.inputSuffix ∧
      a.outputSuffix = b.outputSuffix ∧ a.policy = b.policy ∧ a.tool = b.tool ∧
      a.skipDirectories = b.skipDirectories := by
  simp only [same, Bool.and_eq_true, beq_iff_eq, and_assoc]

variable (equal : a.same b = true)
include equal

/-- Nothing that is asked of an entry is asked of the directory. -/
theorem kept?_of_same (entry : Entry) : a.kept? entry = b.kept? entry := by
  obtain ⟨_, input, output, policy, _, skip⟩ := same_iff.mp equal
  have left : a.leavesOut entry = b.leavesOut entry := by rw [leavesOut, leavesOut, skip]
  have renamed : a.outputName entry.name = b.outputName entry.name := by
    rw [outputName, outputName, policy, input, output]
  rw [kept?, kept?, left, renamed]

theorem callFor_of_same (name output : Bytes) :
    (a.callFor name output).Alike (b.callFor name output) := by
  obtain ⟨directory, _, _, _, tool, _⟩ := same_iff.mp equal
  rw [callFor, callFor, tool]
  exact Tool.call_alike_iff.mpr ⟨Path.same_join directory name, Path.same_join directory output⟩

end Config

/-- Calls that are alike one by one get the same answers one by one. -/
theorem Runner.ByPosition.exchange_alike {run : Runner σ} {s : σ} (byPosition : run.ByPosition s)
    {calls calls' : List Call} (alike : List.Forall₂ Call.Alike calls calls') :
    List.Forall₂ (fun x y => x.1.Alike y.1 ∧ x.2 = y.2) (run.exchange s calls)
      (run.exchange s calls') := by
  obtain ⟨answers, given⟩ := byPosition
  have same : (run.exchange s calls).map Prod.snd = (run.exchange s calls').map Prod.snd := by
    rw [given, given, alike.length_eq]
  rw [← run.exchange_calls s calls, ← run.exchange_calls s calls', List.forall₂_map_left_iff,
    List.forall₂_map_right_iff] at alike
  -- From here on it no longer matters who answered.
  generalize run.exchange s calls = xs at alike same ⊢
  generalize run.exchange s calls' = ys at alike same ⊢
  induction alike with
  | nil => exact .nil
  | cons call _ ih =>
    obtain ⟨answer, rest⟩ := List.cons.inj same
    exact .cons ⟨call, answer⟩ (ih rest)

namespace Batch

variable {a b : Config} {entries : List Entry}

section Same

variable (equal : a.same b = true)
include equal

theorem kept_of_same (entries : List Entry) : kept a entries = kept b entries := by
  simp only [kept, Config.kept?_of_same equal]

theorem plan_alike (entries : List Entry) :
    List.Forall₂ Call.Alike (plan a entries) (plan b entries) := by
  rw [plan_eq_kept, plan_eq_kept, kept_of_same equal, List.forall₂_map_left_iff,
    List.forall₂_map_right_iff, List.forall₂_same]
  intro pair _
  exact Config.callFor_of_same equal pair.1 pair.2

/-- What is written down of two calls is alike if the calls are and their answers are one. -/
theorem records_alike {x y : Call × Answer} {c d : Conversion}
    (hc : Conversion.Records a x c) (hd : Conversion.Records b y d) (calls : x.1.Alike y.1)
    (answers : x.2 = y.2) : c.Alike d := by
  obtain ⟨_, _, _, _, tool, _⟩ := Config.same_iff.mp equal
  rw [hc.paths, hd.paths, tool, Tool.call_alike_iff] at calls
  exact ⟨calls.1, calls.2, by rw [hc.outcome_eq, hd.outcome_eq, answers]⟩

theorem conversions_alike {xs ys : List (Call × Answer)} {cs ds : List Conversion}
    (hx : List.Forall₂ (Conversion.Records a) xs cs)
    (hy : List.Forall₂ (Conversion.Records b) ys ds)
    (alike : List.Forall₂ (fun x y => x.1.Alike y.1 ∧ x.2 = y.2) xs ys) :
    List.Forall₂ Conversion.Alike cs ds := by
  induction alike generalizing cs ds with
  | nil =>
    cases hx
    cases hy
    exact .nil
  | cons h _ ih =>
    cases hx with
    | cons hc hcs =>
      cases hy with
      | cons hd hds => exact .cons (records_alike equal hc hd h.1 h.2) (ih hcs hds)

/-- Equal configurations do equal work. Over one listing, answered by position, they make as many
calls, of the same program and with the same format, skip as many entries, and what they write down
is one by one of the same paths and the same outcome. Their directories are the same as paths; they
need not be written alike, and neither need what the tool is handed. -/
theorem equal_configs_work_alike {listing : Listing} (read : listing.entries = .ok entries)
    {run : Runner σ} {s : σ} (byPosition : run.ByPosition s) :
    ∃ report s' trace report' t' trace',
      Batch.run a run s listing = (.ok report, s') ∧
      Batch.run a run.traced (s, []) listing = (.ok report, s', trace) ∧
      Batch.run b run s listing = (.ok report', t') ∧
      Batch.run b run.traced (s, []) listing = (.ok report', t', trace') ∧
      List.Forall₂ (fun x y => x.1.Alike y.1 ∧ x.2 = y.2) trace trace' ∧
      report.skipped = report'.skipped ∧
      List.Forall₂ Conversion.Alike report.conversions report'.conversions := by
  have alike := byPosition.exchange_alike (plan_alike equal entries)
  refine ⟨_, _, _, _, _, _, run_of_entries read a run s, run_traced read a run s,
    run_of_entries read b run s, run_traced read b run s, alike, ?_, ?_⟩
  · simp only [report_skipped, Config.kept?_of_same equal]
  · exact conversions_alike equal (conversions_record a run s entries)
      (conversions_record b run s entries) alike

end Same

/-- An output suffix that begins with a slash takes the bare name out of the directory, and one with
dots and doubled slashes is put into every other path. -/
def roundabout : Config where
  directory := Utf8.encode "graphs//./../new/"
  outputSuffix := "/.//svg/."

def straight : Config where
  directory := Utf8.encode "graphs/../new"
  outputSuffix := "/.//svg/."

def bareAndNested : List Entry :=
  [".dot", "a.dot", "notes.txt"].map fun name => ⟨Utf8.encode name, .other⟩

/-- Every second call is ended by a signal. -/
def alternating (i : Nat) : Answer :=
  .ok ⟨if i % 2 = 0 then some 0 else none, "", ""⟩

theorem equal_configs_work_alike_roundabout :
    roundabout.same straight = true ∧ roundabout.directory ≠ straight.directory ∧
    Listing.entries (.ok (bareAndNested.map .ok)) = .ok bareAndNested ∧
    (Runner.inOrder alternating).ByPosition [] ∧
    ∃ report s' report' t',
      Batch.run roundabout (.inOrder alternating) [] (.ok (bareAndNested.map .ok)) =
        (.ok report, s') ∧
      Batch.run straight (.inOrder alternating) [] (.ok (bareAndNested.map .ok)) =
        (.ok report', t') ∧
      report.skipped = report'.skipped ∧
      List.Forall₂ Conversion.Alike report.conversions report'.conversions := by
  have equal : roundabout.same straight = true := by decide
  have read : Listing.entries (.ok (bareAndNested.map .ok)) = .ok bareAndNested :=
    Listing.collect_ok bareAndNested
  have byPosition : (Runner.inOrder alternating).ByPosition [] :=
    Runner.inOrder_byPosition alternating []
  refine ⟨equal, by decide, read, byPosition, ?_⟩
  obtain ⟨report, s', _, report', t', _, first, _, second, _, _, skipped, alike⟩ :=
    equal_configs_work_alike equal read byPosition
  exact ⟨report, s', report', t', first, second, skipped, alike⟩

-- The tool is still handed what was written.
example :
    Path.same (Utf8.encode "new/.") (Utf8.encode "new") = true ∧
    Path.join (Utf8.encode "new/.") (Utf8.encode "a.dot") ≠
      Path.join (Utf8.encode "new") (Utf8.encode "a.dot") := by
  decide

end Batch

end GraphBatch
