import GraphBatch.Proofs.AcceptedArguments

namespace GraphBatch.CommandLine

/-- A flag is on a command line if one of its words stands before the two dashes. -/
def Flag.IsIn (f : Flag) (args : List Bytes) : Prop :=
  ∃ word ∈ args.takeWhile (· ≠ [dash, dash]), word ∈ f.words

instance (f : Flag) (args : List Bytes) : Decidable (f.IsIn args) :=
  inferInstanceAs (Decidable (∃ word ∈ args.takeWhile (· ≠ [dash, dash]), word ∈ f.words))

/-- The words of the flags that do not touch the configuration. -/
def outputWords : List Bytes :=
  [Flag.printErrors, .json, .verbose].flatMap Flag.words

/-- A command line without these words. Behind the two dashes they have no meaning and stay. -/
def withoutOutputFlags : List Bytes → List Bytes
  | [] => []
  | arg :: rest =>
    if arg = [dash, dash] then arg :: rest
    else if arg ∈ outputWords then withoutOutputFlags rest
    else arg :: withoutOutputFlags rest

theorem mem_outputWords {word : Bytes} :
    word ∈ outputWords ↔ ∃ f : Flag, f ≠ .skipDirs ∧ word ∈ f.words := by
  constructor
  · intro h
    obtain ⟨f, hf, hw⟩ := List.mem_flatMap.mp h
    refine ⟨f, ?_, hw⟩
    rintro rfl
    simp at hf
  · rintro ⟨f, hf, hw⟩
    refine List.mem_flatMap.mpr ⟨f, ?_, hw⟩
    cases f with
    | skipDirs => exact absurd rfl hf
    | _ => simp

theorem Flag.dashes_not_mem_words (f : Flag) : [dash, dash] ∉ f.words := by
  cases f <;> decide

namespace Accepted

variable {s s' : State} {arg : Bytes}

/-- The two dashes are the only argument after which no keyword is looked for. -/
theorem onlyPlain (h : Accepted s arg s') :
    s'.onlyPlain = (s.onlyPlain || decide (arg = [dash, dash])) := by
  cases h with
  | dashes looking => simp
  | flag looking spelled settled raised =>
    have hne : arg ≠ [dash, dash] := fun he => Flag.dashes_not_mem_words _ (he ▸ spelled)
    simp [State.onlyPlain_of_settle settled, hne]
  | setting x looking settled =>
    have hne : (Keyword.setting x).word ≠ [dash, dash] := by cases x <;> decide
    simp [State.onlyPlain_of_settle settled, hne]
  | attached looking settled taken =>
    simp [State.onlyPlain_of_settle settled, Keyword.word]
  | value looking plain waiting =>
    have hne : arg ≠ [dash, dash] := by
      rintro rfl
      cases plain
    simp [hne]
  | directory plain only settled =>
    rcases plain with h | ⟨h, _⟩
    · simp [State.onlyPlain_of_settle settled, h]
    · have hne : arg ≠ [dash, dash] := by
        rintro rfl
        cases h
      simp [State.onlyPlain_of_settle settled, hne]

/-- A flag's word raises the flag, once. -/
theorem of_flag {f : Flag} (h : Accepted s arg s') (looking : s.onlyPlain = false)
    (spelled : arg ∈ f.words) :
    ∃ r, s.settle = .ok r ∧ s' = { r with given := r.given.raised f } := by
  obtain ⟨r, g, hr, hg, rfl⟩ :=
    (State.argument_flag_eq_ok_iff looking spelled).mp (State.argument_of_accepted h)
  obtain ⟨_, rfl⟩ := Given.raise_eq_ok_iff.mp hg
  exact ⟨r, hr, rfl⟩

/-- A flag is raised by its words, where keywords are looked for, and by nothing else. -/
theorem has_flag (h : Accepted s arg s') (f : Flag) :
    s'.given.has (.flag f) = true ↔
      s.given.has (.flag f) = true ∨ s.onlyPlain = false ∧ arg ∈ f.words := by
  by_cases hword : s.onlyPlain = false ∧ arg ∈ f.words
  · obtain ⟨r, _, rfl⟩ := h.of_flag hword.1 hword.2
    simp [hword, Given.has_raised]
  · rw [or_iff_left hword]
    cases h with
    | dashes => rfl
    | value => rfl
    | @flag r g _ _ looking spelled settled raised =>
      have hne : Keyword.flag f ≠ .flag g := by
        intro he
        obtain rfl := Keyword.flag.inj he
        exact hword ⟨looking, spelled⟩
      obtain ⟨_, rfl⟩ := Given.raise_eq_ok_iff.mp raised
      rw [← State.has_flag_of_settle settled]
      simp [Given.has_raised, hne]
    | setting x looking settled => rw [← State.has_flag_of_settle settled]
    | attached looking settled taken =>
      rw [← State.has_flag_of_settle settled, ← Given.has_flag_of_set taken]
    | directory plain only settled => rw [← State.has_flag_of_settle settled]

end Accepted

/-- Whatever is read, the flags raised at its end are those raised before and those on the line. -/
theorem has_flag_of_read {args : List Bytes} {s s' : State}
    (h : args.foldlM State.argument s = .ok s') (f : Flag) :
    s'.given.has (.flag f) = true ↔
      s.given.has (.flag f) = true ∨ s.onlyPlain = false ∧ f.IsIn args := by
  induction args generalizing s with
  | nil =>
    obtain rfl := Except.ok.inj h
    simp [Flag.IsIn]
  | cons arg rest ih =>
    obtain ⟨r, accepted, hrest⟩ := State.read_cons_iff.mp h
    rw [ih hrest, accepted.has_flag, accepted.onlyPlain]
    by_cases hd : arg = [dash, dash]
    · subst hd
      simp [Flag.IsIn, f.dashes_not_mem_words]
    · simp only [Flag.IsIn, ne_eq, hd, not_false_eq_true, decide_true, List.takeWhile_cons_of_pos,
        decide_false, Bool.or_false, List.exists_mem_cons_iff]
      tauto

def Options.quiet (options : Options) : Options :=
  { options with printErrors := false, json := false, verbose := false }

namespace Given

variable {given g : Given}

/-- What was given, without the flags that say what is printed. -/
def quiet (given : Given) : Given :=
  { given with printErrors := false, json := false, verbose := false }

theorem quiet_raised {f : Flag} (h : f ≠ .skipDirs) (given : Given) :
    (given.raised f).quiet = given.quiet := by
  cases f with
  | skipDirs => exact absurd rfl h
  | _ => rfl

theorem quiet_set {x : Setting} {value : Bytes} (h : given.set x value = .ok g) :
    given.quiet.set x value = .ok g.quiet := by
  rcases set_eq_ok_iff.mp h with
    ⟨hfresh, ⟨text, rfl, ht, rfl⟩ | ⟨text, rfl, ht, rfl⟩ | ⟨policy, rfl, hp, rfl⟩⟩
  · exact set_eq_ok_iff.mpr ⟨hfresh, .inl ⟨text, rfl, ht, rfl⟩⟩
  · exact set_eq_ok_iff.mpr ⟨hfresh, .inr (.inl ⟨text, rfl, ht, rfl⟩)⟩
  · exact set_eq_ok_iff.mpr ⟨hfresh, .inr (.inr ⟨policy, rfl, hp, rfl⟩)⟩

theorem directory_of_set {x : Setting} {value : Bytes} (h : given.set x value = .ok g) :
    g.directory = given.directory := by
  obtain ⟨_, ⟨_, _, _, rfl⟩ | ⟨_, _, _, rfl⟩ | ⟨_, _, _, rfl⟩⟩ := set_eq_ok_iff.mp h
  all_goals rfl

theorem quiet_resolve {env : Environment} {options : Options}
    (h : given.resolve env = .ok options) : given.quiet.resolve env = .ok options.quiet := by
  obtain ⟨directory, program, format, hd, hp, hf, rfl⟩ := resolve_eq_ok_iff.mp h
  exact resolve_eq_ok_iff.mpr ⟨directory, program, format, hd, hp, hf, rfl⟩

/-- The flags are options as they were given. -/
theorem flags_of_resolve {env : Environment} {options : Options}
    (h : given.resolve env = .ok options) :
    options.printErrors = given.has (.flag .printErrors) ∧
      options.json = given.has (.flag .json) ∧ options.verbose = given.has (.flag .verbose) := by
  obtain ⟨_, _, _, _, _, _, rfl⟩ := resolve_eq_ok_iff.mp h
  exact ⟨rfl, rfl, rfl⟩

end Given

namespace State

variable {s r : State}

def quiet (s : State) : State :=
  { s with given := s.given.quiet }

theorem quiet_settle (h : s.settle = .ok r) : s.quiet.settle = .ok r.quiet := by
  obtain ⟨g, hg, rfl⟩ := settle_eq_ok_iff.mp h
  refine settle_eq_ok_iff.mpr ⟨g.quiet, Pending.into_eq_ok_iff.mpr ?_, rfl⟩
  rcases Pending.into_eq_ok_iff.mp hg with ⟨hp, rfl⟩ | ⟨x, value, hp, hset⟩ | ⟨path, hp, hne, rfl⟩
  · exact .inl ⟨hp, rfl⟩
  · exact .inr (.inl ⟨x, value, hp, Given.quiet_set hset⟩)
  · exact .inr (.inr ⟨path, hp, hne, rfl⟩)

theorem hasDirectory_of_settle (h : s.settle = .ok r) : r.hasDirectory = s.hasDirectory := by
  obtain ⟨g, hg, rfl⟩ := settle_eq_ok_iff.mp h
  rcases Pending.into_eq_ok_iff.mp hg with ⟨hp, rfl⟩ | ⟨x, value, hp, hset⟩ | ⟨path, hp, _, rfl⟩
  · simp [hasDirectory, hp]
  · simp [hasDirectory, hp, Given.directory_of_set hset]
  · simp [hasDirectory, hp]

end State

/-- The second state is the first without the output flags. Where one of these was just read, the
second may have yet to look at the value before it. -/
def Follows (s quiet : State) : Prop :=
  quiet = s.quiet ∨ s.pending = .nothing ∧ quiet.settle = .ok s.quiet

namespace Follows

variable {s s' quiet r : State} {arg : Bytes}

theorem settle (h : Follows s quiet) (settled : s.settle = .ok r) :
    quiet.settle = .ok r.quiet := by
  rcases h with rfl | ⟨hp, hq⟩
  · exact State.quiet_settle settled
  · rw [State.settle_of_nothing hp] at settled
    rwa [← Except.ok.inj settled]

theorem onlyPlain (h : Follows s quiet) : quiet.onlyPlain = s.onlyPlain := by
  rcases h with rfl | ⟨_, hq⟩
  · rfl
  · exact (State.onlyPlain_of_settle hq).symm

theorem hasDirectory (h : Follows s quiet) : quiet.hasDirectory = s.hasDirectory := by
  rcases h with rfl | ⟨_, hq⟩
  · rfl
  · exact (State.hasDirectory_of_settle hq).symm

theorem pending_ne (h : Follows s quiet) {x : Setting} (hx : s.pending ≠ .value x none) :
    quiet.pending ≠ .value x none := by
  rcases h with rfl | ⟨_, hq⟩
  · exact hx
  · intro hp
    obtain ⟨g, hg, _⟩ := State.settle_eq_ok_iff.mp hq
    rw [hp] at hg
    cases hg

/-- A word that is left out. -/
theorem skip (h : Follows s quiet) (accepted : Accepted s arg s') (looking : s.onlyPlain = false)
    (left : arg ∈ outputWords) : Follows s' quiet := by
  obtain ⟨f, hf, hword⟩ := mem_outputWords.mp left
  obtain ⟨r, hr, rfl⟩ := accepted.of_flag looking hword
  have hpending : r.pending = .nothing := State.pending_of_settle hr
  refine .inr ⟨hpending, ?_⟩
  rw [h.settle hr, State.quiet, State.quiet, Given.quiet_raised hf]

/-- A word that stays is read on both sides alike. -/
theorem step (h : Follows s quiet) (accepted : Accepted s arg s')
    (stays : s.onlyPlain = true ∨ arg ∉ outputWords) :
    ∃ quiet', Accepted quiet arg quiet' ∧ Follows s' quiet' := by
  have looks : s.onlyPlain = false → quiet.onlyPlain = false := fun hl => h.onlyPlain.trans hl
  cases accepted with
  | dashes looking =>
    refine ⟨_, .dashes (looks looking), ?_⟩
    rcases h with rfl | ⟨hp, hq⟩
    · exact .inl rfl
    · -- The look at the value is still to come, behind the dashes now.
      obtain ⟨g, hg, he⟩ := State.settle_eq_ok_iff.mp hq
      exact .inr ⟨hp, State.settle_eq_ok_iff.mpr
        ⟨g, hg, congrArg (fun s : State => { s with onlyPlain := true }) he⟩⟩
  | @flag r f _ g looking spelled settled raised =>
    have hskip : f = .skipDirs := by
      by_contra hf
      rcases stays with hl | hw
      · rw [looking] at hl
        cases hl
      · exact hw (mem_outputWords.mpr ⟨f, hf, spelled⟩)
    subst hskip
    obtain ⟨fresh, rfl⟩ := Given.raise_eq_ok_iff.mp raised
    have hraised : r.quiet.given.raise .skipDirs = .ok (r.given.raised .skipDirs).quiet :=
      Given.raise_eq_ok_iff.mpr ⟨fresh, rfl⟩
    exact ⟨_, .flag (looks looking) spelled (h.settle settled) hraised, .inl rfl⟩
  | setting x looking settled =>
    exact ⟨_, .setting x (looks looking) (h.settle settled), .inl rfl⟩
  | attached looking settled taken =>
    exact ⟨_, .attached (looks looking) (h.settle settled) (Given.quiet_set taken), .inl rfl⟩
  | value looking plain waiting =>
    rcases h with rfl | ⟨hp, _⟩
    · exact ⟨_, .value looking plain waiting, .inl rfl⟩
    · rw [hp] at waiting
      cases waiting
  | directory plain only settled =>
    have hplain : quiet.onlyPlain = true ∨
        Token.ofArgument arg = .plain ∧ ∀ x, quiet.pending ≠ .value x none := by
      rcases plain with hl | ⟨ht, hx⟩
      · exact .inl (h.onlyPlain.trans hl)
      · exact .inr ⟨ht, fun x => h.pending_ne (hx x)⟩
    exact ⟨_, .directory hplain (h.hasDirectory.trans only) (h.settle settled), .inl rfl⟩

/-- Behind the two dashes all words stay. -/
theorem read_behind {args : List Bytes} (h : Follows s quiet) (behind : s.onlyPlain = true)
    (whole : args.foldlM State.argument s = .ok s') :
    ∃ quiet', args.foldlM State.argument quiet = .ok quiet' ∧ Follows s' quiet' := by
  induction args generalizing s quiet with
  | nil =>
    obtain rfl := Except.ok.inj whole
    exact ⟨quiet, rfl, h⟩
  | cons arg rest ih =>
    obtain ⟨r, accepted, hrest⟩ := State.read_cons_iff.mp whole
    obtain ⟨q, hq, hfollows⟩ := h.step accepted (.inl behind)
    have hbehind : r.onlyPlain = true := by simp [accepted.onlyPlain, behind]
    obtain ⟨quiet', hread, hend⟩ := ih hfollows hbehind hrest
    exact ⟨quiet', State.read_cons_iff.mpr ⟨q, hq, hread⟩, hend⟩

/-- Read word by word, a command line and what is left of it stay together. -/
theorem read {args : List Bytes} (h : Follows s quiet) (looking : s.onlyPlain = false)
    (whole : args.foldlM State.argument s = .ok s') :
    ∃ quiet', (withoutOutputFlags args).foldlM State.argument quiet = .ok quiet' ∧
      Follows s' quiet' := by
  induction args generalizing s quiet with
  | nil =>
    obtain rfl := Except.ok.inj whole
    exact ⟨quiet, rfl, h⟩
  | cons arg rest ih =>
    obtain ⟨r, accepted, hrest⟩ := State.read_cons_iff.mp whole
    rw [withoutOutputFlags]
    split
    · rename_i hdashes
      have hword : arg ∉ outputWords := hdashes ▸ by decide
      have hbehind : r.onlyPlain = true := by simp [accepted.onlyPlain, hdashes]
      obtain ⟨q, hq, hfollows⟩ := h.step accepted (.inr hword)
      obtain ⟨quiet', hread, hend⟩ := hfollows.read_behind hbehind hrest
      exact ⟨quiet', State.read_cons_iff.mpr ⟨q, hq, hread⟩, hend⟩
    · rename_i hdashes
      have hlooking : r.onlyPlain = false := by simp [accepted.onlyPlain, looking, hdashes]
      split
      · rename_i hword
        exact ih (h.skip accepted looking hword) hlooking hrest
      · rename_i hword
        obtain ⟨q, hq, hfollows⟩ := h.step accepted (.inr hword)
        obtain ⟨quiet', hread, hend⟩ := ih hfollows hlooking hrest
        exact ⟨quiet', State.read_cons_iff.mpr ⟨q, hq, hread⟩, hend⟩

end Follows

section Parsed

variable {args : List Bytes} {env : Environment} {options : Options}

/-- The output flags among the options are those on the command line. -/
theorem flags_of_parse (h : parse args env = .ok options) :
    (options.printErrors = true ↔ Flag.printErrors.IsIn args) ∧
      (options.json = true ↔ Flag.json.IsIn args) ∧
      (options.verbose = true ↔ Flag.verbose.IsIn args) := by
  obtain ⟨given, hread, hresolve⟩ := parse_eq_ok_iff.mp h
  obtain ⟨s, r, hs, hr, rfl⟩ := readArguments_eq_ok_iff.mp hread
  have raised : ∀ f, r.given.has (.flag f) = true ↔ f.IsIn args := by
    intro f
    rw [State.has_flag_of_settle hr, has_flag_of_read hs, Given.has_empty]
    simp
  obtain ⟨he, hj, hv⟩ := Given.flags_of_resolve hresolve
  exact ⟨he ▸ raised _, hj ▸ raised _, hv ▸ raised _⟩

/-- A command line without its output flags is understood too, and means the same but for them. -/
theorem parse_without (h : parse args env = .ok options) :
    parse (withoutOutputFlags args) env = .ok options.quiet := by
  obtain ⟨given, hread, hresolve⟩ := parse_eq_ok_iff.mp h
  obtain ⟨s, r, hs, hr, rfl⟩ := readArguments_eq_ok_iff.mp hread
  have hstart : Follows {} {} := .inl rfl
  obtain ⟨quiet, hquiet, hfollows⟩ := hstart.read rfl hs
  have hwithout : readArguments (withoutOutputFlags args) = .ok r.given.quiet :=
    readArguments_eq_ok_iff.mpr ⟨quiet, r.quiet, hquiet, hfollows.settle hr, rfl⟩
  exact parse_eq_ok_iff.mpr ⟨_, hwithout, Given.quiet_resolve hresolve⟩

/-- Command lines that differ in output flags only ask for the same work. -/
theorem config_eq_of_without {args' : List Bytes} {options' : Options}
    (h : parse args env = .ok options) (h' : parse args' env = .ok options')
    (same : withoutOutputFlags args' = withoutOutputFlags args) :
    options'.config = options.config := by
  have hwithout := parse_without h'
  rw [same, parse_without h] at hwithout
  have hquiet : options.quiet = options'.quiet := Except.ok.inj hwithout
  exact (congrArg Options.config hquiet).symm

end Parsed

end GraphBatch.CommandLine
