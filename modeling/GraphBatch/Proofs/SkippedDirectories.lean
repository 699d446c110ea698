import GraphBatch.Proofs.ListingOrder
import GraphBatch.Proofs.Outcomes

namespace GraphBatch

variable {σ : Type}

namespace Batch

variable {config : Config} {entries others : List Entry}

/-- Of an entry a pass sees its name and whether it is left out. -/
theorem visit_congr {entry other : Entry} (name : entry.name = other.name)
    (left : config.leavesOut entry = config.leavesOut other) (run : Runner σ) (s : σ) :
    visit config run s entry = visit config run s other := by
  rw [visit, visit, name, left]

/-- A pass that leaves nothing out sees nothing of a listing but its names. -/
theorem visitAll_of_names (all : config.skipDirectories = false)
    (names : entries.map Entry.name = others.map Entry.name) (run : Runner σ) (s : σ) :
    visitAll config run s entries = visitAll config run s others := by
  have kept : ∀ entry, config.leavesOut entry = false := by
    intro entry
    rw [Config.leavesOut, all, Bool.false_and]
  induction entries generalizing others s with
  | nil => rw [List.map_eq_nil_iff.mp names.symm]
  | cons entry rest ih =>
    cases others with
    | nil => cases names
    | cons other more =>
      obtain ⟨name, names⟩ := List.cons.inj names
      have same := visit_congr name ((kept entry).trans (kept other).symm) run s
      rw [visitAll_cons, visitAll_cons, same, ih names]

/-- The candidates of a listing, each with what is written down for it where none is left out. -/
def written (config : Config) (answer : Call → Answer) (entries : List Entry) :
    List (Entry × Conversion) :=
  entries.filterMap fun entry => (config.outputName entry.name).map fun output =>
    (entry, config.conversionFor answer entry.name output)

theorem written_entries (config : Config) (answer : Call → Answer) (entries : List Entry) :
    (written config answer entries).map Prod.fst =
      entries.filter fun entry => isCandidate (Utf8.encode config.inputSuffix) entry.name := by
  induction entries with
  | nil => rfl
  | cons entry rest ih =>
    cases h : config.outputName entry.name with
    | none =>
      have hc : isCandidate (Utf8.encode config.inputSuffix) entry.name = false :=
        outputName_eq_none_iff.mp h
      rw [List.filter_cons_of_neg (by simp [hc]), ← ih]
      simp [written, h]
    | some output =>
      have hc : isCandidate (Utf8.encode config.inputSuffix) entry.name = true :=
        (outputName_eq_some_iff.mp h).1
      rw [List.filter_cons_of_pos (by simp [hc]), ← ih]
      simp [written, h]

theorem input_of_written {answer : Call → Answer} {pair : Entry × Conversion}
    (h : pair ∈ written config answer entries) :
    pair.2.input = Path.join config.directory pair.1.name := by
  obtain ⟨entry, _, he⟩ := List.mem_filterMap.mp h
  obtain ⟨output, _, rfl⟩ := Option.map_eq_some_iff.mp he
  rfl

/-- What is written down for some of the entries is what is written down for all, less the
others. -/
theorem written_filter (config : Config) (answer : Call → Answer) (p : Entry → Bool)
    (entries : List Entry) :
    written config answer (entries.filter p) =
      (written config answer entries).filter fun pair => p pair.1 := by
  rw [written, written, List.filterMap_filter, List.filter_filterMap]
  congr 1
  funext entry
  cases config.outputName entry.name with
  | none => simp
  | some output => simp [Option.filter_some]

/-- Leaving directories out is passing over the listing without them. -/
theorem kept_skipping (config : Config) (entries : List Entry) :
    kept { config with skipDirectories := true } entries =
      kept { config with skipDirectories := false }
        (entries.filter fun entry => !entry.isDirectory) := by
  rw [kept, kept, List.filterMap_filter]
  congr 1
  funext entry
  cases h : entry.isDirectory with
  | false => simp [Config.kept?, Config.leavesOut, h, Config.outputName]
  | true => simp [Config.kept?, Config.leavesOut, h]

theorem kept_written (config : Config) (answer : Call → Answer) (entries : List Entry) :
    (kept { config with skipDirectories := false } entries).map
        (fun pair => config.conversionFor answer pair.1 pair.2) =
      (written config answer entries).map Prod.snd := by
  rw [kept, written, List.map_filterMap, List.map_filterMap]
  congr 1
  funext entry
  simp [Config.kept?, Config.leavesOut, Config.outputName, Function.comp_def]

section Settled

variable {run : Runner σ} (settled : run.Settled) (s t : σ)
include settled

theorem conversions_without_skipping :
    (report { config with skipDirectories := false }
        (visitAll { config with skipDirectories := false } run s entries).1).conversions =
      (written config (fun call => (run s call).1) entries).map Prod.snd := by
  rw [conversions_settled settled s s, ← kept_written]
  rfl

theorem conversions_skipping :
    (report { config with skipDirectories := true }
        (visitAll { config with skipDirectories := true } run t entries).1).conversions =
      ((written config (fun call => (run s call).1) entries).filter
        fun pair => !pair.1.isDirectory).map Prod.snd := by
  rw [conversions_settled settled s t, kept_skipping,
    ← written_filter config _ (fun entry => !entry.isDirectory), ← kept_written]
  rfl

/-- Each conversion that is left out is one more entry skipped, as both passes account for every
entry. -/
theorem skipped_skipping :
    (report { config with skipDirectories := true }
        (visitAll { config with skipDirectories := true } run t entries).1).skipped =
      (report { config with skipDirectories := false }
        (visitAll { config with skipDirectories := false } run s entries).1).skipped +
        (written config (fun call => (run s call).1) entries).countP
          fun pair => pair.1.isDirectory := by
  have all := report_accounts { config with skipDirectories := false }
    (visitAll { config with skipDirectories := false } run s entries).1
  have fewer := report_accounts { config with skipDirectories := true }
    (visitAll { config with skipDirectories := true } run t entries).1
  rw [length_visitAll, Report.invoked, conversions_without_skipping settled s,
    List.length_map] at all
  rw [length_visitAll, Report.invoked, conversions_skipping settled s t, List.length_map,
    ← List.countP_eq_length_filter] at fewer
  have split := List.length_eq_countP_add_countP (fun pair => pair.1.isDirectory)
    (l := written config (fun call => (run s call).1) entries)
  simp only [Bool.not_eq_true, Bool.decide_eq_false] at split
  omega

end Settled

/-- Leaving directories out removes the conversions of the candidates whose type says directory, and
no others: they stay in their order, and the skipped count grows by what is removed. A pass that
leaves nothing out reports and calls the same for any types the entries may have. -/
theorem skipping_removes_directories {listing : Listing} (read : listing.entries = .ok entries)
    (config : Config) {run : Runner σ} (settled : run.Settled) (s t : σ) :
    (∃ report s' report' t', ∃ pairs : List (Entry × Conversion),
      Batch.run { config with skipDirectories := false } run s listing = (.ok report, s') ∧
      Batch.run { config with skipDirectories := true } run t listing = (.ok report', t') ∧
      pairs.map Prod.fst = entries.filter (fun entry =>
        isCandidate (Utf8.encode config.inputSuffix) entry.name) ∧
      (∀ pair ∈ pairs, pair.2.input = Path.join config.directory pair.1.name) ∧
      report.conversions = pairs.map Prod.snd ∧
      report'.conversions = (pairs.filter fun pair => !pair.1.isDirectory).map Prod.snd ∧
      report'.skipped = report.skipped + pairs.countP fun pair => pair.1.isDirectory) ∧
    ∀ {τ : Type} (other : Runner τ) (u : τ) {retyped : Listing} {others : List Entry},
      retyped.entries = .ok others → others.map Entry.name = entries.map Entry.name →
      Batch.run { config with skipDirectories := false } other.traced (u, []) retyped =
        Batch.run { config with skipDirectories := false } other.traced (u, []) listing := by
  constructor
  · exact ⟨_, _, _, _, _, run_of_entries read _ run s, run_of_entries read _ run t,
      written_entries config (fun call => (run s call).1) entries,
      fun pair hm => input_of_written hm, conversions_without_skipping settled s,
      conversions_skipping settled s t, skipped_skipping settled s t⟩
  · intro τ other u retyped others reread names
    rw [run_of_entries reread, run_of_entries read, visitAll_of_names rfl names]

/-- Two directories, of which one is a candidate, and two candidates that are not: a link and an
entry whose type cannot be read. -/
def amongDirectories : List Entry :=
  [⟨Utf8.encode "a.dot", .directory⟩, ⟨Utf8.encode "b.dot", .unreadable⟩,
    ⟨Utf8.encode "sub", .directory⟩, ⟨Utf8.encode "c.dot", .other⟩]

def asOthers : List Entry :=
  amongDirectories.map fun entry => { entry with type := .other }

theorem skipping_removes_directories_of_amongDirectories :
    Listing.entries (.ok (amongDirectories.map .ok)) = .ok amongDirectories ∧
    Listing.entries (.ok (asOthers.map .ok)) = .ok asOthers ∧
    asOthers.map Entry.name = amongDirectories.map Entry.name ∧
    (Behaviour.failWhenArgContains "b.d").runner.Settled ∧
    (∃ report s' report' t',
      Batch.run {} (Behaviour.failWhenArgContains "b.d").runner []
        (.ok (amongDirectories.map .ok)) = (.ok report, s') ∧
      Batch.run { skipDirectories := true } (Behaviour.failWhenArgContains "b.d").runner []
        (.ok (amongDirectories.map .ok)) = (.ok report', t') ∧
      report'.conversions.length = 2 ∧ report'.conversions.Sublist report.conversions ∧
      report'.skipped = report.skipped + 1) ∧
    Batch.run {} (Behaviour.failWhenArgContains "b.d").runner.traced ([], [])
        (.ok (asOthers.map .ok)) =
      Batch.run {} (Behaviour.failWhenArgContains "b.d").runner.traced ([], [])
        (.ok (amongDirectories.map .ok)) := by
  have read : Listing.entries (.ok (amongDirectories.map .ok)) = .ok amongDirectories :=
    Listing.collect_ok amongDirectories
  have reread : Listing.entries (.ok (asOthers.map .ok)) = .ok asOthers :=
    Listing.collect_ok asOthers
  have names : asOthers.map Entry.name = amongDirectories.map Entry.name := by decide
  have settled : (Behaviour.failWhenArgContains "b.d").runner.Settled :=
    Runner.recording_settled _
  obtain ⟨⟨report, s', report', t', pairs, all, fewer, candidates, _, conversions, conversions',
    skipped⟩, retyped⟩ := skipping_removes_directories read {} settled [] []
  refine ⟨read, reread, names, settled, ⟨report, s', report', t', all, fewer, ?_, ?_, ?_⟩,
    retyped _ _ reread names⟩
  · have kept := congrArg (List.countP fun entry => !entry.isDirectory) candidates
    rw [List.countP_map] at kept
    rw [conversions', List.length_map, ← List.countP_eq_length_filter]
    exact kept.trans (by decide)
  · rw [conversions, conversions']
    exact List.filter_sublist.map Prod.snd
  · have removed := congrArg (List.countP Entry.isDirectory) candidates
    rw [List.countP_map] at removed
    rw [skipped]
    exact congrArg (report.skipped + ·) (removed.trans (by decide))

end Batch

end GraphBatch
