import GraphBatch.Proofs.Calls

namespace GraphBatch

/-- A conversion that tells of a call and its answer: the paths are those of the call, and each
outcome stands for the answers it is meant for and no others. -/
structure Conversion.Records (config : Config) (exchange : Call × Answer) (c : Conversion) :
    Prop where
  paths : exchange.1 = config.tool.call c.input c.output
  succeeded : c.outcome = .succeeded ↔ ∃ o, exchange.2 = .ok o ∧ o.exitCode = some 0
  failed : ∀ code stderr, c.outcome = .failed code stderr ↔
    ∃ o, exchange.2 = .ok o ∧ o.exitCode ≠ some 0 ∧ o.exitCode = code ∧ o.stderr = stderr
  spawnFailed : ∀ message, c.outcome = .spawnFailed message ↔
    ∃ e, exchange.2 = .error e ∧ e.message = message

/-- Answers that differ in nothing that is written down: the standard output never is, and the
error text only when the tool failed. -/
inductive Answer.Alike : Answer → Answer → Prop
  | refused (e : SpawnError) : Alike (.error e) (.error e)
  | ended {o o' : Output} (code : o.exitCode = o'.exitCode) (stderr : o.stderr = o'.stderr) :
      Alike (.ok o) (.ok o')
  | succeeded {o o' : Output} (code : o.exitCode = some 0) (code' : o'.exitCode = some 0) :
      Alike (.ok o) (.ok o')

namespace Outcome

theorem ofAnswer_of_zero {o : Output} (h : o.exitCode = some 0) :
    ofAnswer (.ok o) = .succeeded := by
  simp [ofAnswer, Output.success, h]

theorem ofAnswer_of_ne_zero {o : Output} (h : o.exitCode ≠ some 0) :
    ofAnswer (.ok o) = .failed o.exitCode o.stderr := by
  simp [ofAnswer, Output.success, h]

theorem ofAnswer_alike {a b : Answer} (h : Answer.Alike a b) : ofAnswer a = ofAnswer b := by
  cases h with
  | refused e => rfl
  | @ended o o' code stderr =>
    by_cases h : o.exitCode = some 0
    · rw [ofAnswer_of_zero h, ofAnswer_of_zero (code ▸ h)]
    · rw [ofAnswer_of_ne_zero h, ofAnswer_of_ne_zero (code ▸ h), code, stderr]
  | succeeded code code' => rw [ofAnswer_of_zero code, ofAnswer_of_zero code']

theorem isSuccess_iff (o : Outcome) : o.isSuccess = true ↔ o = .succeeded := by
  cases o <;> simp [isSuccess]

end Outcome

namespace Conversion

theorem records_ofAnswer (config : Config) (input output : Path) (answer : Answer) :
    Records config (config.tool.call input output, answer) ⟨input, output, .ofAnswer answer⟩ := by
  cases answer with
  | error e =>
    refine ⟨rfl, ?_, ?_, ?_⟩ <;> simp [Outcome.ofAnswer]
  | ok o =>
    by_cases h : o.exitCode = some 0
    · refine ⟨rfl, ?_, ?_, ?_⟩ <;> simp [Outcome.ofAnswer_of_zero h, h]
    · refine ⟨rfl, ?_, ?_, ?_⟩ <;> simp [Outcome.ofAnswer_of_ne_zero h, h]

theorem Records.outcome_eq {config : Config} {exchange : Call × Answer} {c : Conversion}
    (h : Records config exchange c) : c.outcome = .ofAnswer exchange.2 := by
  cases ho : c.outcome with
  | succeeded =>
    obtain ⟨o, ha, hcode⟩ := h.succeeded.mp ho
    rw [ha, Outcome.ofAnswer_of_zero hcode]
  | failed code stderr =>
    obtain ⟨o, ha, hcode, rfl, rfl⟩ := (h.failed code stderr).mp ho
    rw [ha, Outcome.ofAnswer_of_ne_zero hcode]
  | spawnFailed message =>
    obtain ⟨e, ha, rfl⟩ := (h.spawnFailed message).mp ho
    rw [ha, Outcome.ofAnswer]

/-- The call and what is looked at of the answer settle what is written down. -/
theorem Records.unique {config : Config} {x y : Call × Answer} {c d : Conversion}
    (hc : Records config x c) (hd : Records config y d) (same : x.1 = y.1)
    (alike : Answer.Alike x.2 y.2) : c = d := by
  have hcall : config.tool.call c.input c.output = config.tool.call d.input d.output := by
    rw [← hc.paths, ← hd.paths, same]
  have houtcome : c.outcome = d.outcome := by
    rw [hc.outcome_eq, hd.outcome_eq, Outcome.ofAnswer_alike alike]
  simp only [Tool.call, Tool.args, Call.mk.injEq, List.cons.injEq, true_and, and_true] at hcall
  obtain ⟨input, output, outcome⟩ := c
  obtain ⟨rfl, rfl⟩ := hcall
  obtain rfl := houtcome
  rfl

theorem failureLine?_eq_none_iff (c : Conversion) :
    c.failureLine? = none ↔ c.outcome = .succeeded := by
  unfold failureLine?
  split <;> simp_all

theorem failureLine?_begins {c : Conversion} {line : String} (h : c.failureLine? = some line) :
    ∃ rest, line = Utf8.lossy c.input ++ rest := by
  unfold failureLine? at h
  split at h
  · cases h
  all_goals
    simp only [Option.some.injEq, String.append_assoc] at h
    exact ⟨_, h.symm⟩

end Conversion

namespace Report

theorem succeeded_add_failed (r : Report) : r.succeeded + r.failed = r.invoked := by
  have := r.succeeded_le_invoked
  simp only [failed]
  omega

theorem length_not_succeeded (r : Report) :
    (r.conversions.filter fun c => c.outcome ≠ .succeeded).length = r.failed := by
  have hsplit := List.length_eq_countP_add_countP (fun c : Conversion => c.outcome.isSuccess)
    (l := r.conversions)
  have hother : (r.conversions.filter fun c => c.outcome ≠ .succeeded).length =
      r.conversions.countP fun c => ¬ c.outcome.isSuccess = true := by
    rw [List.countP_eq_length_filter]
    simp only [Outcome.isSuccess_iff, ne_eq]
  simp only [failed, invoked, succeeded]
  omega

/-- One line for each conversion that did not succeed, in their order. -/
theorem failureLines_begin (r : Report) :
    List.Forall₂ (fun line c => ∃ rest, line = Utf8.lossy c.input ++ rest) r.failureLines
      (r.conversions.filter fun c => c.outcome ≠ .succeeded) := by
  simp only [failureLines]
  induction r.conversions with
  | nil => exact .nil
  | cons c rest ih =>
    cases h : c.failureLine? with
    | none =>
      have hs := c.failureLine?_eq_none_iff.mp h
      rw [List.filterMap_cons_none h, List.filter_cons_of_neg (by simp [hs])]
      exact ih
    | some line =>
      have hn : c.outcome ≠ .succeeded := by
        intro hs
        rw [c.failureLine?_eq_none_iff.mpr hs] at h
        cases h
      rw [List.filterMap_cons_some h, List.filter_cons_of_pos (by simp [hn])]
      exact .cons (Conversion.failureLine?_begins h) ih

end Report

namespace Batch

variable {σ : Type}

/-- Every entry of the listing is a conversion or is skipped. -/
theorem report_accounts (config : Config) (steps : List Step) :
    (report config steps).invoked + (report config steps).skipped = steps.length := by
  have hnone : (fun step : Step => step.conversion?.isNone) =
      fun step => decide (¬ step.conversion?.isSome = true) := by
    funext step
    cases step.conversion? <;> rfl
  simp only [Report.invoked, report, List.length_filterMap_eq_countP]
  rw [hnone, ← List.length_eq_countP_add_countP]

/-- A pass writes one conversion for each call, about that call. -/
theorem conversions_record (config : Config) (run : Runner σ) (s : σ) (entries : List Entry) :
    List.Forall₂ (Conversion.Records config) (run.exchange s (plan config entries))
      (report config (visitAll config run s entries).1).conversions := by
  simp only [report, plan_eq_kept]
  induction entries generalizing s with
  | nil => exact .nil
  | cons entry rest ih =>
    cases h : config.kept? entry with
    | none =>
      obtain ⟨step, hn, hv⟩ := visit_none h
      simp only [visitAll_cons, hv, List.filterMap_cons, hn, kept_cons_none h]
      exact ih s
    | some output =>
      simp only [visitAll_cons, visit_some h, List.filterMap_cons, Step.conversion?,
        kept_cons_some h, List.map_cons, Runner.exchange]
      -- The rest of the listing is visited from the state the answer left.
      exact .cons (Conversion.records_ofAnswer config _ _ _) (ih _)

/-- Passes over one listing differ only where answers differ in what is written down. -/
theorem conversions_eq_of_alike {config : Config} {xs ys : List (Call × Answer)}
    {cs ds : List Conversion} (hx : List.Forall₂ (Conversion.Records config) xs cs)
    (hy : List.Forall₂ (Conversion.Records config) ys ds)
    (same : xs.map Prod.fst = ys.map Prod.fst)
    (alike : List.Forall₂ (fun x y => Answer.Alike x.2 y.2) xs ys) : cs = ds := by
  induction alike generalizing cs ds with
  | nil =>
    cases hx
    cases hy
    rfl
  | cons ha _ ih =>
    cases hx with
    | cons hc hcs =>
      cases hy with
      | cons hd hds =>
        obtain ⟨hcall, hcalls⟩ := List.cons.inj same
        rw [hc.unique hd hcall ha, ih hcs hds hcalls]

/-- A report tells of each call once and in order, and sorts the answers as every reader of the
report does: its counts add up, and its failure lines are one for each conversion that did not
succeed. What it does not tell makes no difference to it. -/
theorem report_tells_answers {listing : Listing} {entries : List Entry}
    (read : listing.entries = .ok entries) (config : Config) (run : Runner σ) (s : σ) :
    ∃ report s' trace,
      Batch.run config run s listing = (.ok report, s') ∧
      Batch.run config run.traced (s, []) listing = (.ok report, s', trace) ∧
      List.Forall₂ (Conversion.Records config) trace report.conversions ∧
      report.invoked + report.skipped = entries.length ∧
      report.succeeded ≤ report.invoked ∧
      report.succeeded + report.failed = report.invoked ∧
      report.failureLines.length = report.failed ∧
      List.Forall₂ (fun line c => ∃ rest, line = Utf8.lossy c.input ++ rest) report.failureLines
        (report.conversions.filter fun c => c.outcome ≠ .succeeded) ∧
      ∀ {τ : Type} (other : Runner τ) (t : τ) {report' t' trace'},
        Batch.run config other.traced (t, []) listing = (.ok report', t', trace') →
        List.Forall₂ (fun x y => Answer.Alike x.2 y.2) trace trace' → report' = report := by
  refine ⟨_, _, _, run_of_entries read config run s, run_traced read config run s,
    conversions_record config run s entries, ?_, Report.succeeded_le_invoked _,
    Report.succeeded_add_failed _, ?_, Report.failureLines_begin _, ?_⟩
  · rw [report_accounts, length_visitAll]
  · rw [(Report.failureLines_begin _).length_eq, Report.length_not_succeeded]
  · intro τ other t report' t' trace' traced alike
    rw [run_traced read] at traced
    obtain ⟨hreport, htrace⟩ := Prod.mk.inj traced
    obtain ⟨_, rfl⟩ := Prod.mk.inj htrace
    obtain rfl := Except.ok.inj hreport
    have hconversions := conversions_eq_of_alike (conversions_record config run s entries)
      (conversions_record config other t entries)
      (by rw [Runner.exchange_calls, Runner.exchange_calls]) alike
    have hskipped := (report_skipped config other t entries).trans
      (report_skipped config run s entries).symm
    simp only [report, Report.mk.injEq, true_and] at hconversions hskipped ⊢
    exact ⟨hconversions.symm, hskipped⟩

/-- Answers in turn with a success, an exit code, a signal and refusals. -/
def inTurn (text : String) : Runner Nat := fun turn call =>
  (match turn with
    | 0 => .ok ⟨some 0, text, text⟩
    | 1 => .ok ⟨some 3, text, "syntax error"⟩
    | 2 => .ok ⟨none, text, ""⟩
    | _ => .error ⟨call.program, .system .notFound⟩, turn + 1)

def fourGraphs : List Entry :=
  ["a.dot", "b.dot", "notes.txt", "c.dot", "d.dot"].map fun name => ⟨Utf8.encode name, .other⟩

/-- What the tool prints differs, and the error text only where it succeeds. -/
theorem report_tells_answers_of_every_kind :
    Listing.entries (.ok (fourGraphs.map .ok)) = .ok fourGraphs ∧
    List.Forall₂ (fun x y => Answer.Alike x.2 y.2)
      ((inTurn "one").exchange 0 (plan {} fourGraphs))
      ((inTurn "two").exchange 0 (plan {} fourGraphs)) ∧
    ∃ report s' t' trace trace',
      Batch.run {} (inTurn "one").traced (0, []) (.ok (fourGraphs.map .ok)) =
        (.ok report, s', trace) ∧
      Batch.run {} (inTurn "two").traced (0, []) (.ok (fourGraphs.map .ok)) =
        (.ok report, t', trace') ∧
      List.Forall₂ (Conversion.Records {}) trace report.conversions ∧
      report.invoked + report.skipped = 5 ∧
      report.failureLines.length = report.failed := by
  have read : Listing.entries (.ok (fourGraphs.map .ok)) = .ok fourGraphs :=
    Listing.collect_ok fourGraphs
  have alike : List.Forall₂ (fun x y => Answer.Alike x.2 y.2)
      ((inTurn "one").exchange 0 (plan {} fourGraphs))
      ((inTurn "two").exchange 0 (plan {} fourGraphs)) :=
    .cons (.succeeded rfl rfl) (.cons (.ended rfl rfl) (.cons (.ended rfl rfl)
      (.cons (.refused _) .nil)))
  refine ⟨read, alike, ?_⟩
  obtain ⟨report, s', trace, _, first, records, accounts, _, _, lines, _, same⟩ :=
    report_tells_answers read {} (inTurn "one") 0
  have htrace : trace = (inTurn "one").exchange 0 (plan {} fourGraphs) := by
    rw [run_traced read] at first
    exact (Prod.mk.inj (Prod.mk.inj first).2).2.symm
  have second := run_traced read {} (inTurn "two") 0
  have hreport := same (inTurn "two") 0 second (htrace ▸ alike)
  rw [hreport] at second
  exact ⟨report, s', _, trace, _, first, second, records, accounts, lines⟩

end Batch

end GraphBatch
