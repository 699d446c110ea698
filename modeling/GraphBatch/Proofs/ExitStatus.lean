import GraphBatch.CommandLine
import GraphBatch.Proofs.ListingFaults
import GraphBatch.Proofs.OutputFlags

namespace GraphBatch

variable {σ : Type}

namespace Log

theorem Filter.shows_upTo (bound : Level) (target : String) (level : Level) :
    (Filter.upTo bound).shows target level = decide (level.detail ≤ bound.detail) := by
  simp [Filter.shows, Filter.decidedBy, Filter.upTo, Directive.allowsLine,
    Directive.concernsLines, Directive.hasTarget, Directive.moreSpecific]

/-- A filter by level alone knows no spans. -/
theorem Filter.within_upTo (bound : Level) (span : Span) : (Filter.upTo bound).within span = 0 := by
  simp [Filter.within, Filter.upTo, Directive.accepts, Directive.follows, Directive.concernsSpans]

theorem Event.line?_upTo {bound : Level} {e : Event} (h : bound.detail < e.level.detail) :
    e.line? (Filter.upTo bound) = none := by
  simp [Event.line?, Filter.shows_upTo, h]

theorem Event.lineWithin?_upTo {bound : Level} {e : Event} (h : bound.detail < e.level.detail)
    (span : Span) : e.lineWithin? (Filter.upTo bound) span = none := by
  have hpositive : e.level.detail ≠ 0 := Nat.ne_zero_of_lt h
  simp [Event.lineWithin?, Filter.showsWithin, Filter.shows_upTo, Filter.within_upTo, h, hpositive]

theorem level_of_mem_events {step : Step} {e : Event} (h : e ∈ step.events) : e.level = .debug := by
  cases step with
  | leftOut directory =>
    obtain rfl := List.mem_singleton.mp h
    rfl
  | notCandidate name => cases h
  | converted name output call conversion =>
    simp only [Step.events, List.mem_cons, List.not_mem_nil, or_false] at h
    rcases h with rfl | rfl
    · rfl
    · rfl

/-- Nothing a pass logs is a warning, however the tools end. -/
theorem lines_upTo_warn (config : Config) (steps : Except ListError (List Step)) :
    Log.lines (Filter.upTo .warn) config steps = [] := by
  have hscanning :
      [scanning config.directory].filterMap (Event.line? (Filter.upTo .warn)) = [] := by
    rw [List.filterMap_eq_nil_iff]
    intro e he
    obtain rfl := List.mem_singleton.mp he
    exact Event.line?_upTo (by decide : Level.warn.detail < Level.info.detail)
  cases steps with
  | error e => exact hscanning
  | ok steps =>
    simp only [Log.lines, hscanning, List.nil_append, List.filterMap_eq_nil_iff]
    intro e he
    apply Event.lineWithin?_upTo
    rcases List.mem_append.mp he with hstep | hreport
    · obtain ⟨step, _, he⟩ := List.mem_flatMap.mp hstep
      rw [level_of_mem_events he]
      decide
    · obtain rfl := List.mem_singleton.mp hreport
      exact (by decide : Level.warn.detail < Level.info.detail)

end Log

namespace Batch

/-- The calls of a pass: what the listing asks for, or none if the directory cannot be listed. -/
def calls (config : Config) (listing : Listing) : List Call :=
  match listing.entries with
  | .error _ => []
  | .ok entries => plan config entries

theorem steps_traced (config : Config) (run : Runner σ) (s : σ) (listing : Listing) :
    steps config run.traced (s, []) listing =
      ((steps config run s listing).1, (steps config run s listing).2,
        run.exchange s (calls config listing)) := by
  cases h : listing.entries with
  | error fault => simp only [steps, calls, h, Runner.exchange]
  | ok entries => simp only [steps, calls, h, visitAll_traced, List.nil_append]

end Batch

namespace CommandLine

variable {args : List Bytes} {env : Environment} {options : Options}

theorem respond_of_parse (parsed : parse args env = .ok options) (list : Path → Listing)
    (run : Runner σ) (s : σ) :
    respond args env list run s =
      (.passed options (pass options env list run s).1, (pass options env list run s).2) := by
  simp only [respond, parsed]

theorem respond_traced (parsed : parse args env = .ok options) (list : Path → Listing)
    (run : Runner σ) (s : σ) :
    respond args env list run.traced (s, []) =
      (.passed options (pass options env list run s).1, (pass options env list run s).2,
        run.exchange s (Batch.calls options.config (list options.config.directory))) := by
  simp only [respond_of_parse parsed, pass, Batch.steps_traced]

/-- A pass ends as the work it was asked for, whatever else is asked for. -/
theorem pass_result (options : Options) (env : Environment) (list : Path → Listing)
    (run : Runner σ) (s : σ) :
    ((pass options env list run s).1.result, (pass options env list run s).2) =
      Batch.run options.config run s (list options.config.directory) :=
  rfl

theorem pass_log (silent : options.verbose = false) (unset : env.log = none)
    (list : Path → Listing) (run : Runner σ) (s : σ) :
    (pass options env list run s).1.log = [] := by
  simp only [pass, silent, unset, Log.Filter.ofVariable]
  exact Log.lines_upTo_warn _ _

theorem pass_of_not_listed {list : Path → Listing}
    (unlisted : ¬ (list options.config.directory).Listed) (env : Environment) (run : Runner σ)
    (s : σ) :
    (∃ e, (pass options env list run s).1.result = .error e) ∧
      (pass options env list run s).2 = s ∧
      Batch.calls options.config (list options.config.directory) = [] := by
  rw [Listing.listed_iff] at unlisted
  cases h : (list options.config.directory).entries with
  | ok entries => exact absurd ⟨entries, h⟩ unlisted
  | error fault =>
    have hresult := pass_result options env list run s
    rw [Batch.run_of_error h] at hresult
    obtain ⟨hr, hs⟩ := Prod.mk.inj hresult
    exact ⟨⟨_, hr⟩, hs, by simp only [Batch.calls, h]⟩

theorem pass_of_listed {list : Path → Listing} (listed : (list options.config.directory).Listed)
    (env : Environment) (run : Runner σ) (s : σ) :
    ∃ report, (pass options env list run s).1.result = .ok report ∧
      Batch.run options.config run s (list options.config.directory) =
        (.ok report, (pass options env list run s).2) := by
  obtain ⟨entries, h⟩ := (Listing.listed_iff _).mp listed
  have hresult := pass_result options env list run s
  rw [Batch.run_of_entries h] at hresult
  obtain ⟨hr, hs⟩ := Prod.mk.inj hresult
  exact ⟨_, hr, by rw [Batch.run_of_entries h, hs]⟩

/-- The status is settled by the listing alone. -/
theorem exitCode_of_pass (options : Options) (env : Environment) (list : Path → Listing)
    (run : Runner σ) (s : σ) :
    (Response.passed options (pass options env list run s).1).exitCode =
      match (list options.config.directory).entries with
      | .error _ => 1
      | .ok _ => 0 := by
  cases h : (list options.config.directory).entries with
  | error fault => simp only [Response.exitCode, pass, Batch.steps, h, Except.map]
  | ok entries => simp only [Response.exitCode, pass, Batch.steps, h, Except.map]

theorem exitCode_eq_zero_iff (options : Options) (env : Environment) (list : Path → Listing)
    (run : Runner σ) (s : σ) :
    (Response.passed options (pass options env list run s).1).exitCode = 0 ↔
      (list options.config.directory).Listed := by
  rw [exitCode_of_pass, Listing.listed_iff]
  cases (list options.config.directory).entries with
  | error fault => simp
  | ok entries => simp

/-- A pass ends with status 0 exactly if its directory is listed, whatever the tools answer. If not,
nothing is called or printed to the output; if so, the output is the report if it was asked for, and
there are no errors to read unless they or the log were asked for. Command lines that differ in
output flags only make the same calls, in order, and end with the same status. -/
theorem exit_tells_listing (parsed : parse args env = .ok options) (list : Path → Listing)
    (run : Runner σ) (s : σ) :
    ∃ response s' trace,
      respond args env list run s = (response, s') ∧
      respond args env list run.traced (s, []) = (response, s', trace) ∧
      (response.exitCode = 0 ↔ (list options.config.directory).Listed) ∧
      (¬ (list options.config.directory).Listed → s' = s ∧ trace = [] ∧ response.stdout = "") ∧
      ((list options.config.directory).Listed →
        ∃ report,
          Batch.run options.config run s (list options.config.directory) = (.ok report, s') ∧
          (¬ Flag.json.IsIn args → response.stdout = "") ∧
          (Flag.json.IsIn args → response.stdout = report.pretty ++ "\n") ∧
          (¬ Flag.printErrors.IsIn args → ¬ Flag.verbose.IsIn args → env.log = none →
            response.stderr = "")) ∧
      ∀ (args' : List Bytes) (options' : Options), parse args' env = .ok options' →
        withoutOutputFlags args' = withoutOutputFlags args →
        ∀ {τ : Type} (other : Runner τ) (t : τ), ∃ response' t' trace',
          respond args' env list other.traced (t, []) = (response', t', trace') ∧
          response'.exitCode = response.exitCode ∧ trace'.map Prod.fst = trace.map Prod.fst := by
  obtain ⟨printErrors, json, verbose⟩ := flags_of_parse parsed
  refine ⟨_, _, _, respond_of_parse parsed list run s, respond_traced parsed list run s,
    exitCode_eq_zero_iff options env list run s, ?_, ?_, ?_⟩
  · intro unlisted
    obtain ⟨⟨e, hr⟩, hs, hcalls⟩ := pass_of_not_listed unlisted env run s
    refine ⟨hs, ?_, ?_⟩
    · rw [hcalls, Runner.exchange]
    · simp only [Response.stdout, Pass.output, hr]
  · intro listed
    obtain ⟨report, hr, hrun⟩ := pass_of_listed listed env run s
    refine ⟨report, hrun, ?_, ?_, ?_⟩
    · intro hjson
      simp only [Response.stdout, Pass.output, hr, if_neg (mt json.mp hjson)]
    · intro hjson
      simp only [Response.stdout, Pass.output, hr, if_pos (json.mpr hjson)]
    · intro herrors hverbose unset
      have silent : options.verbose = false := Bool.eq_false_iff.mpr (mt verbose.mp hverbose)
      have hlog := pass_log silent unset list run s
      simp only [Response.stderr, Pass.errorLines, hlog, hr, if_neg (mt printErrors.mp herrors)]
      rfl
  · intro args' options' parsed' same τ other t
    have hconfig := config_eq_of_without parsed parsed' same
    refine ⟨_, _, _, respond_traced parsed' list other t, ?_, ?_⟩
    · rw [exitCode_of_pass, exitCode_of_pass, hconfig]
    · rw [Runner.exchange_calls, Runner.exchange_calls, hconfig]

def jsonLine : List Bytes :=
  ["--json", "--tool", "neato", "graphs"].map Utf8.encode

/-- The same work, with other things to hear of it. -/
def chattyLine : List Bytes :=
  ["--tool", "neato", "-v", "graphs", "--print-errors"].map Utf8.encode

def oneGraph : Path → Listing :=
  fun _ => .ok [.ok ⟨Utf8.encode "a.dot", .other⟩]

def refusing : Runner Unit :=
  fun s call => (.error ⟨call.program, .system .notFound⟩, s)

/-- A tool that cannot be started changes neither status nor silence. -/
theorem exit_tells_listing_of_refusals :
    ∃ report response trace response' trace',
      respond jsonLine {} oneGraph refusing.traced ((), []) = (response, (), trace) ∧
      trace.map Prod.fst =
        [⟨"neato", ["-Tsvgz", "-o", "graphs/a.svg", "graphs/a.dot"].map Utf8.encode⟩] ∧
      response.exitCode = 0 ∧ response.stdout = Report.pretty report ++ "\n" ∧
      response.stderr = "" ∧
      respond chattyLine {} oneGraph refusing.traced ((), []) = (response', (), trace') ∧
      response'.exitCode = 0 ∧ trace'.map Prod.fst = trace.map Prod.fst := by
  have parsed : parse jsonLine {} =
      .ok ⟨Utf8.encode "graphs", ⟨"neato", "svgz"⟩, .trailing, false, false, true, false⟩ := by
    decide
  have parsed' : parse chattyLine {} =
      .ok ⟨Utf8.encode "graphs", ⟨"neato", "svgz"⟩, .trailing, false, true, false, true⟩ := by
    decide
  obtain ⟨response, s', trace, _, traced, status, _, told, others⟩ :=
    exit_tells_listing parsed oneGraph refusing ()
  have listed : (oneGraph (Utf8.encode "graphs")).Listed := ⟨[⟨Utf8.encode "a.dot", .other⟩], rfl⟩
  obtain ⟨report, _, _, json, silent⟩ := told listed
  obtain ⟨response', t', trace', traced', status', calls'⟩ :=
    others chattyLine _ parsed' (by decide) refusing ()
  refine ⟨report, response, trace, response', trace', traced, ?_, status.mpr listed,
    json (by decide), silent (by decide) (by decide) rfl, traced',
    status'.trans (status.mpr listed), calls'⟩
  have htrace : (respond jsonLine {} oneGraph refusing.traced ((), [])).2.2 = trace := by
    rw [traced]
  rw [← htrace]
  decide

end CommandLine

end GraphBatch
