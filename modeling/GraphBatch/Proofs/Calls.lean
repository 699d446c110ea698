import GraphBatch.Batch
import Mathlib.Data.List.Forall2

namespace GraphBatch

variable {σ : Type}

/-- Calls made one after the other, each with its answer. -/
def Runner.exchange (run : Runner σ) (s : σ) : List Call → List (Call × Answer)
  | [] => []
  | call :: rest => (call, (run s call).1) :: exchange run (run s call).2 rest

theorem Runner.exchange_calls (run : Runner σ) (s : σ) (calls : List Call) :
    (run.exchange s calls).map Prod.fst = calls := by
  induction calls generalizing s with
  | nil => rfl
  | cons call rest ih => rw [exchange, List.map_cons, ih]

/-- The output name of an entry that is handed to the tool. -/
def Config.kept? (config : Config) (entry : Entry) : Option Bytes :=
  if config.leavesOut entry then none else config.outputName entry.name

def Config.callFor (config : Config) (name output : Bytes) : Call :=
  config.tool.call (Path.join config.directory name) (Path.join config.directory output)

theorem Config.outputName_of_kept {config : Config} {entry : Entry} {output : Bytes}
    (h : config.kept? entry = some output) : config.outputName entry.name = some output := by
  unfold kept? at h
  split at h
  · cases h
  · exact h

/-- Kept are the candidates that are not left out. -/
theorem Config.isSome_kept? (config : Config) (entry : Entry) :
    (config.kept? entry).isSome =
      (!config.leavesOut entry && isCandidate (Utf8.encode config.inputSuffix) entry.name) := by
  cases left : config.leavesOut entry with
  | true => simp [kept?, left]
  | false =>
    cases candidate : isCandidate (Utf8.encode config.inputSuffix) entry.name with
    | false => simp [kept?, left, Config.outputName, outputName_eq_none_iff.mpr candidate]
    | true => simp [kept?, left, Config.outputName, GraphBatch.outputName, candidate]

namespace Batch

/-- The names handed to the tool, each with its output name. -/
def kept (config : Config) (entries : List Entry) : List (Bytes × Bytes) :=
  entries.filterMap fun entry => (config.kept? entry).map fun output => (entry.name, output)

theorem kept_cons_none {config : Config} {entry : Entry} {rest : List Entry}
    (h : config.kept? entry = none) : kept config (entry :: rest) = kept config rest := by
  simp [kept, h]

theorem kept_cons_some {config : Config} {entry : Entry} {rest : List Entry} {output : Bytes}
    (h : config.kept? entry = some output) :
    kept config (entry :: rest) = (entry.name, output) :: kept config rest := by
  simp [kept, h]

theorem mem_kept {config : Config} {entries : List Entry} {name output : Bytes}
    (h : (name, output) ∈ kept config entries) :
    ∃ entry ∈ entries, entry.name = name ∧ config.outputName name = some output := by
  obtain ⟨entry, hm, he⟩ := List.mem_filterMap.mp h
  obtain ⟨_, hk, hp⟩ := Option.map_eq_some_iff.mp he
  obtain ⟨rfl, rfl⟩ := Prod.mk.inj hp
  exact ⟨entry, hm, rfl, Config.outputName_of_kept hk⟩

/-- The kept names are names of the listing, in its order. -/
theorem kept_names_sublist (config : Config) (entries : List Entry) :
    ((kept config entries).map Prod.fst).Sublist (entries.map Entry.name) := by
  induction entries with
  | nil => exact .slnil
  | cons entry rest ih =>
    cases h : config.kept? entry with
    | none =>
      rw [kept_cons_none h]
      exact ih.cons entry.name
    | some output =>
      rw [kept_cons_some h]
      exact ih.cons_cons entry.name

theorem plan_eq_kept (config : Config) (entries : List Entry) :
    plan config entries = (kept config entries).map fun pair => config.callFor pair.1 pair.2 := by
  simp only [plan, kept, List.map_filterMap]
  congr 1
  funext entry
  unfold Config.kept?
  split
  · rfl
  · simp only [Option.map_map]
    rfl

/-- An entry that is not kept leaves any runner alone and no conversion behind. -/
theorem visit_none {config : Config} {entry : Entry} (h : config.kept? entry = none) :
    ∃ step : Step, step.conversion? = none ∧
      ∀ {σ : Type} (run : Runner σ) (s : σ), visit config run s entry = (step, s) := by
  unfold Config.kept? at h
  split at h
  · rename_i hl
    exact ⟨.leftOut entry.name, rfl, fun run s => by simp only [visit, if_pos hl]⟩
  · rename_i hl
    exact ⟨.notCandidate entry.name, rfl, fun run s => by simp only [visit, if_neg hl, h]⟩

/-- An entry that is kept is one call, and what is written down is that call's answer. -/
theorem visit_some {config : Config} {entry : Entry} {output : Bytes}
    (h : config.kept? entry = some output) (run : Runner σ) (s : σ) :
    visit config run s entry =
      (.converted entry.name output (config.callFor entry.name output)
        ⟨Path.join config.directory entry.name, Path.join config.directory output,
          .ofAnswer (run s (config.callFor entry.name output)).1⟩,
        (run s (config.callFor entry.name output)).2) := by
  unfold Config.kept? at h
  split at h
  · cases h
  · rename_i hl
    simp only [visit, if_neg hl, h]
    rfl

theorem visitAll_cons (config : Config) (run : Runner σ) (s : σ) (entry : Entry)
    (rest : List Entry) :
    visitAll config run s (entry :: rest) =
      ((visit config run s entry).1 :: (visitAll config run (visit config run s entry).2 rest).1,
        (visitAll config run (visit config run s entry).2 rest).2) :=
  rfl

/-- Tracing a runner changes nothing but the trace, which grows by the plan and its answers. -/
theorem visitAll_traced (config : Config) (run : Runner σ) (s : σ)
    (trace : List (Call × Answer)) (entries : List Entry) :
    visitAll config run.traced (s, trace) entries =
      ((visitAll config run s entries).1, (visitAll config run s entries).2,
        trace ++ run.exchange s (plan config entries)) := by
  rw [plan_eq_kept]
  induction entries generalizing s trace with
  | nil => simp [visitAll, kept, Runner.exchange]
  | cons entry rest ih =>
    cases h : config.kept? entry with
    | none =>
      obtain ⟨step, _, hv⟩ := visit_none h
      simp only [visitAll_cons, hv, ih, kept_cons_none h]
    | some output =>
      -- The one call goes to the end of the trace, so the rest starts from a longer one.
      simp only [visitAll_cons, visit_some h, Runner.traced, ih, kept_cons_some h,
        List.map_cons, Runner.exchange, List.append_assoc, List.singleton_append]

/-- The paths a pass writes down are those of the kept names, whatever the runner answered. -/
theorem conversions_paths (config : Config) (run : Runner σ) (s : σ) (entries : List Entry) :
    ((visitAll config run s entries).1.filterMap Step.conversion?).map
        (fun c => (c.input, c.output)) =
      (kept config entries).map fun pair =>
        (Path.join config.directory pair.1, Path.join config.directory pair.2) := by
  induction entries generalizing s with
  | nil => rfl
  | cons entry rest ih =>
    cases h : config.kept? entry with
    | none =>
      obtain ⟨step, hn, hv⟩ := visit_none h
      simp only [visitAll_cons, hv, List.filterMap_cons, hn, ih, kept_cons_none h]
    | some output =>
      simp only [visitAll_cons, visit_some h, List.filterMap_cons, Step.conversion?,
        List.map_cons, ih, kept_cons_some h]

/-- A report has a conversion for each entry that is kept, in their order. -/
theorem conversions_of_entries (config : Config) (run : Runner σ) (s : σ) (entries : List Entry) :
    List.Forall₂
      (fun c entry => ∃ output, config.outputName entry.name = some output ∧
        c.input = Path.join config.directory entry.name ∧
        c.output = Path.join config.directory output)
      (report config (visitAll config run s entries).1).conversions
      (entries.filter fun entry => (config.kept? entry).isSome) := by
  simp only [report]
  induction entries generalizing s with
  | nil => exact .nil
  | cons entry rest ih =>
    cases h : config.kept? entry with
    | none =>
      obtain ⟨step, hn, hv⟩ := visit_none h
      rw [visitAll_cons, hv, List.filterMap_cons_none hn, List.filter_cons_of_neg (by simp [h])]
      exact ih s
    | some output =>
      rw [List.filter_cons_of_pos (by simp [h])]
      simp only [visitAll_cons, visit_some h, List.filterMap_cons, Step.conversion?]
      -- The rest of the listing is visited from the state the answer left.
      exact .cons ⟨output, config.outputName_of_kept h, rfl, rfl⟩ (ih _)

theorem report_inputs (config : Config) (run : Runner σ) (s : σ) (entries : List Entry) :
    (report config (visitAll config run s entries).1).conversions.map Conversion.input =
      (kept config entries).map fun pair => Path.join config.directory pair.1 := by
  have h := congrArg (List.map Prod.fst) (conversions_paths config run s entries)
  rwa [List.map_map, List.map_map] at h

theorem report_outputs (config : Config) (run : Runner σ) (s : σ) (entries : List Entry) :
    (report config (visitAll config run s entries).1).conversions.map Conversion.output =
      (kept config entries).map fun pair => Path.join config.directory pair.2 := by
  have h := congrArg (List.map Prod.snd) (conversions_paths config run s entries)
  rwa [List.map_map, List.map_map] at h

/-- What is counted is the entries that are not kept. -/
theorem report_skipped (config : Config) (run : Runner σ) (s : σ) (entries : List Entry) :
    (report config (visitAll config run s entries).1).skipped =
      entries.countP fun entry => (config.kept? entry).isNone := by
  simp only [report]
  induction entries generalizing s with
  | nil => rfl
  | cons entry rest ih =>
    cases h : config.kept? entry with
    | none =>
      obtain ⟨step, hn, hv⟩ := visit_none h
      rw [visitAll_cons, hv, List.countP_cons_of_pos (by simp [hn]),
        List.countP_cons_of_pos (by simp [h]), ih]
    | some output =>
      rw [visitAll_cons, visit_some h, List.countP_cons_of_neg (by simp [Step.conversion?]),
        List.countP_cons_of_neg (by simp [h]), ih]

theorem run_of_entries {listing : Listing} {entries : List Entry}
    (read : listing.entries = .ok entries) (config : Config) (run : Runner σ) (s : σ) :
    Batch.run config run s listing =
      (.ok (report config (visitAll config run s entries).1),
        (visitAll config run s entries).2) := by
  simp only [Batch.run, steps, read]
  rfl

theorem run_traced {listing : Listing} {entries : List Entry}
    (read : listing.entries = .ok entries) (config : Config) (run : Runner σ) (s : σ) :
    Batch.run config run.traced (s, []) listing =
      (.ok (report config (visitAll config run s entries).1),
        (visitAll config run s entries).2, run.exchange s (plan config entries)) := by
  rw [run_of_entries read, visitAll_traced, List.nil_append]

/-- Every conversion that is reported stems from an entry with an output name. -/
theorem mem_conversions {config : Config} {run : Runner σ} {s : σ} {entries : List Entry}
    {c : Conversion} (h : c ∈ (report config (visitAll config run s entries).1).conversions) :
    ∃ entry ∈ entries, ∃ output, config.outputName entry.name = some output ∧
      c.input = Path.join config.directory entry.name ∧
      c.output = Path.join config.directory output := by
  have hp := List.mem_map_of_mem (f := fun c => (c.input, c.output)) h
  rw [report, conversions_paths] at hp
  obtain ⟨⟨name, output⟩, hk, he⟩ := List.mem_map.mp hp
  obtain ⟨hi, ho⟩ := Prod.mk.inj he
  obtain ⟨entry, hm, rfl, hn⟩ := mem_kept hk
  exact ⟨entry, hm, output, hn, hi.symm, ho.symm⟩

/-- A pass over a listing that could be read completes, and its calls are the listing filtered,
in order, one call for each entry that is kept. What the runner answers has no part in it. -/
theorem calls_follow_listing {listing : Listing} {entries : List Entry}
    (read : listing.entries = .ok entries) (config : Config) (run : Runner σ) (s : σ) :
    ∃ report s' trace,
      Batch.run config run s listing = (.ok report, s') ∧
      Batch.run config run.traced (s, []) listing = (.ok report, s', trace) ∧
      trace.map Prod.fst = entries.filterMap (fun entry =>
        if config.skipDirectories = true ∧ entry.isDirectory = true then none
        else (GraphBatch.outputName config.policy (Utf8.encode config.inputSuffix)
            (Utf8.encode config.outputSuffix) entry.name).map fun output =>
          { program := config.tool.program
            args := [Utf8.encode ("-T" ++ config.tool.format), Utf8.encode "-o",
              Path.join config.directory output, Path.join config.directory entry.name] }) ∧
      ∀ {τ : Type} (other : Runner τ) (t : τ),
        (Batch.run config other.traced (t, []) listing).2.2.map Prod.fst = trace.map Prod.fst := by
  have traced : ∀ {τ : Type} (other : Runner τ) (t : τ),
      Batch.run config other.traced (t, []) listing =
        (.ok (report config (visitAll config other t entries).1),
          (visitAll config other t entries).2, other.exchange t (plan config entries)) := by
    intro τ other t
    rw [run_of_entries read, visitAll_traced, List.nil_append]
  refine ⟨_, _, _, run_of_entries read config run s, traced run s, ?_, ?_⟩
  · rw [Runner.exchange_calls, plan]
    congr 1
    funext entry
    simp only [Config.leavesOut, Bool.and_eq_true]
    rfl
  · intro τ other t
    rw [traced, Runner.exchange_calls, Runner.exchange_calls]

/-- Of these, a pass that skips directories keeps the first and the last. -/
def mixedEntries : List Entry :=
  [⟨Utf8.encode "a.dot.dot", .other⟩, ⟨Utf8.encode "d.dot", .directory⟩,
    ⟨Utf8.encode "a.dot.bak", .other⟩, ⟨Utf8.encode "b.dot", .unreadable⟩]

/-- The first call is refused, and the second is made all the same. -/
theorem calls_follow_listing_after_refusal :
    Listing.entries (.ok (mixedEntries.map .ok)) = .ok mixedEntries ∧
    ∃ report s' trace,
      Batch.run { policy := .first, skipDirectories := true }
        (Runner.traced fun (called : Bool) call =>
          (if called then .ok ⟨some 1, "", ""⟩ else .error ⟨call.program, .system .notFound⟩, true))
        (false, []) (.ok (mixedEntries.map .ok)) = (.ok report, s', trace) ∧
      trace.map Prod.fst =
        [⟨"dot", ["-Tsvgz", "-o", "./a.svg.dot", "./a.dot.dot"].map Utf8.encode⟩,
          ⟨"dot", ["-Tsvgz", "-o", "./b.svg", "./b.dot"].map Utf8.encode⟩] := by
  have read : Listing.entries (.ok (mixedEntries.map .ok)) = .ok mixedEntries :=
    Listing.collect_ok mixedEntries
  refine ⟨read, ?_⟩
  obtain ⟨report, s', trace, _, traced, calls, _⟩ := calls_follow_listing read _ _ _
  exact ⟨report, s', trace, traced, calls.trans (by decide)⟩

end Batch

end GraphBatch
