import GraphBatch.Proofs.Calls
import GraphBatch.Proofs.Overlaps
import GraphBatch.Proofs.Paths

namespace GraphBatch

variable {α β : Type}

/-- The last list is the first with the members of the second put in between, at any places. -/
inductive Inserted : List α → List α → List α → Prop
  | nil : Inserted [] [] []
  | old (a : α) {list more grown : List α} (rest : Inserted list more grown) :
      Inserted (a :: list) more (a :: grown)
  | new (a : α) {list more grown : List α} (rest : Inserted list more grown) :
      Inserted list (a :: more) (a :: grown)

namespace Inserted

variable {list more grown : List α}

theorem filterMap_eq {f : α → Option β} (h : Inserted list more grown)
    (dropped : ∀ a ∈ more, f a = none) : grown.filterMap f = list.filterMap f := by
  induction h with
  | nil => rfl
  | old a _ ih => rw [List.filterMap_cons, List.filterMap_cons, ih dropped]
  | new a _ ih =>
    rw [List.filterMap_cons_none (dropped a List.mem_cons_self)]
    exact ih fun b hb => dropped b (List.mem_cons_of_mem a hb)

theorem countP_eq {p : α → Bool} (h : Inserted list more grown)
    (counted : ∀ a ∈ more, p a = true) : grown.countP p = list.countP p + more.length := by
  induction h with
  | nil => rfl
  | old a _ ih =>
    rw [List.countP_cons, List.countP_cons, ih counted]
    omega
  | new a _ ih =>
    have hrest := ih fun b hb => counted b (List.mem_cons_of_mem a hb)
    rw [List.countP_cons_of_pos (counted a List.mem_cons_self), hrest, List.length_cons]
    omega

end Inserted

namespace Batch

variable {σ : Type} {config : Config} {entries : List Entry}

/-- The names a pass gives its outputs, in the order of the calls. -/
def outputNames (config : Config) (entries : List Entry) : List Bytes :=
  (kept config entries).map Prod.snd

theorem kept?_eq_none {entry : Entry}
    (h : isCandidate (Utf8.encode config.inputSuffix) entry.name = false) :
    config.kept? entry = none := by
  have hn : config.outputName entry.name = none := outputName_eq_none_iff.mpr h
  rw [Config.kept?, hn, ite_self]

section Suffixes

variable (dot : config.inputSuffix = ".dot") (svg : config.outputSuffix = ".svg")
include dot

theorem input_ends {name output : Bytes} (h : config.outputName name = some output) :
    Utf8.encode ".dot" <:+ Path.join config.directory name := by
  have hc := (outputName_eq_some_iff.mp h).1
  rw [dot] at hc
  exact (isCandidate_iff.mp hc).2.trans (Path.name_suffix_join _ _)

include svg

theorem output_ends (later : config.policy ≠ .first) {name output : Bytes}
    (h : config.outputName name = some output) : Utf8.encode ".svg" <:+ output := by
  rw [Config.outputName, dot, svg] at h
  exact outputName_ends later (by decide) h

theorem outputNames_not_candidates (later : config.policy ≠ .first) :
    ∀ name ∈ outputNames config entries,
      isCandidate (Utf8.encode config.inputSuffix) name = false := by
  intro output hm
  obtain ⟨⟨name, _⟩, hk, rfl⟩ := List.mem_map.mp hm
  obtain ⟨_, _, _, ho⟩ := mem_kept hk
  have hends := output_ends dot svg later ho
  rw [dot]
  exact not_isCandidate_of_ends (by decide) (by decide) hends

theorem outputs_apart_from_inputs (later : config.policy ≠ .first) {run : Runner σ} {s : σ}
    {c d : Conversion} (hc : c ∈ (report config (visitAll config run s entries).1).conversions)
    (hd : d ∈ (report config (visitAll config run s entries).1).conversions) :
    c.output ≠ d.input := by
  obtain ⟨_, _, output, ho, _, hout⟩ := mem_conversions hc
  obtain ⟨_, _, _, hi, hin, _⟩ := mem_conversions hd
  intro he
  have hsvg := (output_ends dot svg later ho).trans (Path.name_suffix_join config.directory _)
  have hdot := input_ends dot hi
  rw [← hout, he] at hsvg
  rw [← hin] at hdot
  have hn : isCandidate (Utf8.encode ".dot") d.input = false :=
    not_isCandidate_of_ends (by decide) (by decide) hsvg
  rw [isCandidate_iff.mpr ⟨by decide, hdot⟩] at hn
  cases hn

/-- A pass can be made again: no output name is a candidate and no output path an input path, so
when outputs of the pass are listed beside what was there, the same calls are made, and exactly
the outputs are skipped in addition. Whatever runs the tool the second time has no part in it. -/
theorem rerun_repeats_calls (later : config.policy ≠ .first) {listing : Listing}
    (read : listing.entries = .ok entries) (run : Runner σ) (s : σ) :
    ∃ report s' trace,
      Batch.run config run.traced (s, []) listing = (.ok report, s', trace) ∧
      report.conversions.map Conversion.output =
        (outputNames config entries).map (Path.join config.directory) ∧
      (∀ name ∈ outputNames config entries,
        isCandidate (Utf8.encode config.inputSuffix) name = false) ∧
      (∀ c ∈ report.conversions, ∀ d ∈ report.conversions, c.output ≠ d.input) ∧
      ∀ {τ : Type} (other : Runner τ) (t : τ) {again : Listing} {inserted grown : List Entry},
        again.entries = .ok grown → Inserted entries inserted grown →
        (∀ entry ∈ inserted, entry.name ∈ outputNames config entries) →
        ∃ report' t' trace',
          Batch.run config other.traced (t, []) again = (.ok report', t', trace') ∧
          trace'.map Prod.fst = trace.map Prod.fst ∧
          report'.skipped = report.skipped + inserted.length := by
  have settled : ∀ name ∈ outputNames config entries,
      isCandidate (Utf8.encode config.inputSuffix) name = false :=
    outputNames_not_candidates dot svg later
  refine ⟨_, _, _, run_traced read config run s, ?_, settled, ?_, ?_⟩
  · rw [report_outputs, outputNames, List.map_map]
    rfl
  · intro c hc d hd
    exact outputs_apart_from_inputs dot svg later hc hd
  · intro τ other t again inserted grown reread hinserted outputs
    -- What was put in is not kept, so both listings keep the same names.
    have hnone : ∀ entry ∈ inserted, config.kept? entry = none := fun entry hm =>
      kept?_eq_none (settled _ (outputs entry hm))
    have hkept : kept config grown = kept config entries :=
      hinserted.filterMap_eq fun entry hm => by rw [hnone entry hm, Option.map_none]
    refine ⟨_, _, _, run_traced reread config other t, ?_, ?_⟩
    · rw [Runner.exchange_calls, Runner.exchange_calls, plan_eq_kept, plan_eq_kept, hkept]
    · rw [report_skipped, report_skipped]
      exact hinserted.countP_eq fun entry hm => by rw [hnone entry hm, Option.isNone_none]

end Suffixes

/-- Replaces every occurrence and leaves directories out. -/
def thoroughPass : Config where
  policy := .all
  skipDirectories := true

/-- Only the first of these is kept. -/
def beforePass : List Entry :=
  [⟨Utf8.encode "a.dot.dot", .other⟩, ⟨Utf8.encode "d.dot", .directory⟩,
    ⟨Utf8.encode "notes.txt", .other⟩]

/-- The output is met twice, once as a directory. -/
def leftByPass : List Entry :=
  [⟨Utf8.encode "a.svg.svg", .directory⟩, ⟨Utf8.encode "a.svg.svg", .other⟩]

def afterPass : List Entry :=
  [⟨Utf8.encode "a.svg.svg", .directory⟩, ⟨Utf8.encode "a.dot.dot", .other⟩,
    ⟨Utf8.encode "d.dot", .directory⟩, ⟨Utf8.encode "a.svg.svg", .other⟩,
    ⟨Utf8.encode "notes.txt", .other⟩]

/-- The tool is missing the second time, and is called all the same. -/
theorem rerun_repeats_calls_among_outputs :
    Listing.entries (.ok (beforePass.map .ok)) = .ok beforePass ∧
    Listing.entries (.ok (afterPass.map .ok)) = .ok afterPass ∧
    Inserted beforePass leftByPass afterPass ∧
    (∀ entry ∈ leftByPass, entry.name ∈ outputNames thoroughPass beforePass) ∧
    ∃ report s' trace report' t' trace',
      Batch.run thoroughPass (Runner.traced fun (s : Unit) _ => (.ok ⟨some 0, "", ""⟩, s)) ((), [])
        (.ok (beforePass.map .ok)) = (.ok report, s', trace) ∧
      Batch.run thoroughPass
        (Runner.traced fun (t : Unit) call => (.error ⟨call.program, .system .notFound⟩, t))
        ((), []) (.ok (afterPass.map .ok)) = (.ok report', t', trace') ∧
      trace'.map Prod.fst = trace.map Prod.fst ∧
      report'.skipped = report.skipped + 2 := by
  have read : Listing.entries (.ok (beforePass.map .ok)) = .ok beforePass :=
    Listing.collect_ok beforePass
  have reread : Listing.entries (.ok (afterPass.map .ok)) = .ok afterPass :=
    Listing.collect_ok afterPass
  have inserted : Inserted beforePass leftByPass afterPass :=
    .new _ (.old _ (.old _ (.new _ (.old _ .nil))))
  have dot : thoroughPass.inputSuffix = ".dot" := rfl
  have outputs : ∀ entry ∈ leftByPass, entry.name ∈ outputNames thoroughPass beforePass := by
    decide +kernel
  refine ⟨read, reread, inserted, outputs, ?_⟩
  obtain ⟨report, s', trace, first, _, _, _, again⟩ :=
    rerun_repeats_calls dot rfl (by decide) read
      (fun (s : Unit) _ => (.ok ⟨some 0, "", ""⟩, s)) ()
  obtain ⟨report', t', trace', second, calls, skipped⟩ :=
    again (fun (t : Unit) call => (.error ⟨call.program, .system .notFound⟩, t)) ()
      reread inserted outputs
  exact ⟨report, s', trace, report', t', trace', first, second, calls, skipped⟩

-- Replacing only the first occurrence can leave a candidate.
example :
    outputName .first (Utf8.encode ".dot") (Utf8.encode ".svg") (Utf8.encode "a.dot.dot") =
      some (Utf8.encode "a.svg.dot") ∧
    isCandidate (Utf8.encode ".dot") (Utf8.encode "a.svg.dot") = true := by
  decide

end Batch

end GraphBatch
