import GraphBatch.Proofs.Collisions
import GraphBatch.Runner.Mock
import Mathlib.Data.List.Nodup

namespace GraphBatch

variable {σ : Type}

/-- What is answered to a call does not depend on what was called before. -/
def Runner.Settled (run : Runner σ) : Prop :=
  ∀ s t call, (run s call).1 = (run t call).1

theorem Runner.recording_settled (answer : Call → Answer) : (recording answer).Settled := by
  intro s t call
  rfl

theorem Runner.Settled.exchange_eq {run : Runner σ} (settled : run.Settled) (s t : σ)
    (calls : List Call) :
    run.exchange t calls = calls.map fun call => (call, (run s call).1) := by
  induction calls generalizing t with
  | nil => rfl
  | cons call rest ih => rw [exchange, List.map_cons, ih, settled t s call]

/-- What is written down for a kept name, from what is answered to its call. -/
def Config.conversionFor (config : Config) (answer : Call → Answer) (name output : Bytes) :
    Conversion :=
  ⟨Path.join config.directory name, Path.join config.directory output,
    .ofAnswer (answer (config.callFor name output))⟩

/-- The conversions, sorted by the bytes of the input path. -/
def Report.byInput (r : Report) : List Conversion :=
  r.conversions.mergeSort fun c d => decide (c.input ≤ d.input)

/-- Sorting hides the order where no input path is met twice. -/
theorem Report.byInput_eq {r r' : Report} (same : r.conversions.Perm r'.conversions)
    (distinct : (r.conversions.map Conversion.input).Nodup) : r.byInput = r'.byInput := by
  have hperm : r.byInput.Perm r.conversions := List.mergeSort_perm _ _
  have hperm' : r'.byInput.Perm r'.conversions := List.mergeSort_perm _ _
  have sorted : ∀ cs : List Conversion,
      (cs.mergeSort fun c d => decide (c.input ≤ d.input)).Pairwise
        fun c d => decide (c.input ≤ d.input) = true := by
    apply List.pairwise_mergeSort
    · intro a b c hab hbc
      exact decide_eq_true (List.le_trans (of_decide_eq_true hab) (of_decide_eq_true hbc))
    · intro a b
      simpa using List.le_total a.input b.input
  apply List.Perm.eq_of_pairwise _ (sorted _) (sorted _) (hperm.trans (same.trans hperm'.symm))
  intro c d hc hd hcd hdc
  have he : c.input = d.input := List.le_antisymm (of_decide_eq_true hcd) (of_decide_eq_true hdc)
  exact List.inj_on_of_nodup_map distinct (hperm.mem_iff.mp hc)
    (same.mem_iff.mpr (hperm'.mem_iff.mp hd)) he

namespace Batch

variable {config : Config} {entries entries' : List Entry}

theorem conversions_settled {run : Runner σ} (settled : run.Settled) (s t : σ) :
    (report config (visitAll config run t entries).1).conversions =
      (kept config entries).map fun pair =>
        config.conversionFor (fun call => (run s call).1) pair.1 pair.2 := by
  simp only [report]
  induction entries generalizing t with
  | nil => rfl
  | cons entry rest ih =>
    cases h : config.kept? entry with
    | none =>
      obtain ⟨step, hn, hv⟩ := visit_none h
      simp only [visitAll_cons, hv, List.filterMap_cons, hn, ih, kept_cons_none h]
    | some output =>
      simp only [visitAll_cons, visit_some h, List.filterMap_cons, Step.conversion?, ih,
        kept_cons_some h, List.map_cons, Config.conversionFor, settled t s]

/-- A recording runner is left with the plan behind what it had recorded. -/
theorem visitAll_recording (config : Config) (answer : Call → Answer) (log : List Call)
    (entries : List Entry) :
    (visitAll config (Runner.recording answer) log entries).2 = log ++ plan config entries := by
  rw [plan_eq_kept]
  induction entries generalizing log with
  | nil => simp [visitAll, kept]
  | cons entry rest ih =>
    cases h : config.kept? entry with
    | none =>
      obtain ⟨step, _, hv⟩ := visit_none h
      simp only [visitAll_cons, hv, ih, kept_cons_none h]
    | some output =>
      simp only [visitAll_cons, visit_some h, Runner.recording, ih, kept_cons_some h,
        List.map_cons, List.append_assoc, List.singleton_append]

theorem inputs_nodup (distinct : (entries.map Entry.name).Nodup)
    (relative : ∀ entry ∈ entries, entry.name.head? ≠ some Path.slash) (run : Runner σ) (s : σ) :
    ((report config (visitAll config run s entries).1).conversions.map Conversion.input).Nodup := by
  rw [report_inputs]
  apply kept_paths_nodup distinct
  intro p hp q hq he
  obtain ⟨entry, hm, hp, _⟩ := mem_kept hp
  obtain ⟨entry', hm', hq, _⟩ := mem_kept hq
  exact Path.join_inj (hp ▸ relative entry hm) (hq ▸ relative entry' hm') he

section Reordered

variable (reordered : entries.Perm entries')
include reordered

theorem kept_perm (config : Config) : (kept config entries).Perm (kept config entries') :=
  reordered.filterMap _

theorem plan_perm (config : Config) : (plan config entries).Perm (plan config entries') :=
  reordered.filterMap _

theorem conversions_perm (config : Config) {run : Runner σ} (settled : run.Settled) (s t : σ) :
    (report config (visitAll config run s entries).1).conversions.Perm
      (report config (visitAll config run t entries').1).conversions := by
  rw [conversions_settled settled s s, conversions_settled settled s t]
  exact (kept_perm reordered config).map _

theorem skipped_perm (config : Config) (run : Runner σ) (s t : σ) :
    (report config (visitAll config run t entries').1).skipped =
      (report config (visitAll config run s entries).1).skipped := by
  rw [report_skipped, report_skipped]
  exact (reordered.countP_eq _).symm

end Reordered

/-- The order of a listing leaves no trace but order. Over the same entries, however they are
listed, passes whose answers only depend on the call report the same counts, the same conversions
up to their order, and log the same calls up to theirs. Sorted by input path the conversions are
equal, if the names differ and none is an absolute path, which no name in a directory is. -/
theorem reports_agree_up_to_order {listing listing' : Listing}
    (read : listing.entries = .ok entries) (read' : listing'.entries = .ok entries')
    (reordered : entries.Perm entries') (config : Config) {run : Runner σ}
    (settled : run.Settled) (s t : σ) :
    (∃ report s' trace report' t' trace',
      Batch.run config run s listing = (.ok report, s') ∧
      Batch.run config run.traced (s, []) listing = (.ok report, s', trace) ∧
      Batch.run config run t listing' = (.ok report', t') ∧
      Batch.run config run.traced (t, []) listing' = (.ok report', t', trace') ∧
      report'.directory = report.directory ∧ report'.skipped = report.skipped ∧
      report'.invoked = report.invoked ∧ report'.succeeded = report.succeeded ∧
      report'.failed = report.failed ∧
      report.conversions.Perm report'.conversions ∧
      trace.Perm trace' ∧
      ((entries.map Entry.name).Nodup →
        (∀ entry ∈ entries, entry.name.head? ≠ some Path.slash) →
        report.byInput = report'.byInput)) ∧
    ∀ (answer : Call → Answer) (log : List Call),
      (Batch.run config (Runner.recording answer) log listing).2.Perm
        (Batch.run config (Runner.recording answer) log listing').2 := by
  have hconversions := conversions_perm reordered config settled s t
  have hinvoked := hconversions.length_eq.symm
  have hsucceeded := (hconversions.countP_eq fun c => c.outcome.isSuccess).symm
  constructor
  · refine ⟨_, _, _, _, _, _, run_of_entries read config run s, run_traced read config run s,
      run_of_entries read' config run t, run_traced read' config run t, rfl,
      skipped_perm reordered config run s t, hinvoked, hsucceeded, ?_, hconversions, ?_, ?_⟩
    · rw [Report.failed, Report.failed, Report.invoked, Report.invoked, Report.succeeded,
        Report.succeeded, hinvoked, hsucceeded]
    · rw [settled.exchange_eq s s, settled.exchange_eq s t]
      exact (plan_perm reordered config).map _
    · intro distinct relative
      exact Report.byInput_eq hconversions (inputs_nodup distinct relative run s)
  · intro answer log
    rw [run_of_entries read, run_of_entries read', visitAll_recording, visitAll_recording]
    exact (plan_perm reordered config).append_left log

/-- The stand-in fails for the second of these, and the third is skipped. -/
def scattered : List Entry :=
  [⟨Utf8.encode "c.dot", .other⟩, ⟨Utf8.encode "b.dot", .other⟩, ⟨Utf8.encode "d.dot", .directory⟩,
    ⟨Utf8.encode "a.dot", .unreadable⟩]

/-- Listed backwards, with calls recorded before the second pass. -/
theorem reports_agree_up_to_order_backwards :
    Listing.entries (.ok (scattered.map .ok)) = .ok scattered ∧
    Listing.entries (.ok (scattered.reverse.map .ok)) = .ok scattered.reverse ∧
    scattered.Perm scattered.reverse ∧
    (Behaviour.failWhenArgContains "b.d").runner.Settled ∧
    (scattered.map Entry.name).Nodup ∧
    (∀ entry ∈ scattered, entry.name.head? ≠ some Path.slash) ∧
    ∃ report s' report' t',
      Batch.run { skipDirectories := true } (Behaviour.failWhenArgContains "b.d").runner []
        (.ok (scattered.map .ok)) = (.ok report, s') ∧
      Batch.run { skipDirectories := true } (Behaviour.failWhenArgContains "b.d").runner
        [⟨"dot", []⟩] (.ok (scattered.reverse.map .ok)) = (.ok report', t') ∧
      report'.skipped = report.skipped ∧ report'.failed = report.failed ∧
      report.byInput = report'.byInput := by
  have read : Listing.entries (.ok (scattered.map .ok)) = .ok scattered :=
    Listing.collect_ok scattered
  have read' : Listing.entries (.ok (scattered.reverse.map .ok)) = .ok scattered.reverse :=
    Listing.collect_ok scattered.reverse
  have reordered : scattered.Perm scattered.reverse := (List.reverse_perm scattered).symm
  have settled : (Behaviour.failWhenArgContains "b.d").runner.Settled :=
    Runner.recording_settled _
  have distinct : (scattered.map Entry.name).Nodup := by decide
  have relative : ∀ entry ∈ scattered, entry.name.head? ≠ some Path.slash := by decide
  refine ⟨read, read', reordered, settled, distinct, relative, ?_⟩
  obtain ⟨⟨report, s', _, report', t', _, first, _, second, _, _, skipped, _, _, failed, _, _,
    sorted⟩, _⟩ := reports_agree_up_to_order read read' reordered { skipDirectories := true }
    settled [] [⟨"dot", []⟩]
  exact ⟨report, s', report', t', first, second, skipped, failed, sorted distinct relative⟩

-- An absolute name could meet the path of another.
example : Path.join (Utf8.encode "/") (Utf8.encode "a.dot") =
    Path.join (Utf8.encode "/") (Utf8.encode "/a.dot") := by
  decide

end Batch

end GraphBatch
