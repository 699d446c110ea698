import GraphBatch.Proofs.AcceptedArguments
import Mathlib.Data.List.Nodup

namespace GraphBatch.CommandLine

/-- Something to ask for. Values are attached to their settings, so that they can be any text. -/
inductive Choice
  | tool (text : String)
  | format (text : String)
  | replace (policy : Policy)
  | flag (f : Flag)
  /-- The flag `verbose` by its letter. -/
  | letter
  deriving DecidableEq

namespace Choice

def keyword : Choice → Keyword
  | .tool _ => .setting .tool
  | .format _ => .setting .format
  | .replace _ => .setting .replace
  | .flag f => .flag f
  | .letter => .flag .verbose

def word : Choice → Bytes
  | .tool text => Utf8.encode ("--tool=" ++ text)
  | .format text => Utf8.encode ("--format=" ++ text)
  | .replace policy => Utf8.encode ("--replace=" ++ policy.name)
  | .flag f => Utf8.encode ("--" ++ (Keyword.flag f).name)
  | .letter => Utf8.encode "-v"

def into (given : Given) : Choice → Given
  | .tool text => { given with tool := some text }
  | .format text => { given with format := some text }
  | .replace policy => { given with policy := some policy }
  | .flag f => given.raised f
  | .letter => given.raised .verbose

end Choice

/-- What is asked for, and the directory behind two dashes. -/
def arguments (choices : List Choice) (directory : Option Bytes) : List Bytes :=
  choices.map Choice.word ++ match directory with
    | none => []
    | some path => [Utf8.encode "--", path]

/-- What the choices add up to. -/
def Given.ofChoices (choices : List Choice) : Given :=
  choices.foldl Choice.into {}

def Given.inDirectory (given : Given) (directory : Option Path) : Given :=
  { given with directory }

/-- The variables that nothing on the command line stands before can be read. -/
structure Environment.Usable (env : Environment) (choices : List Choice)
    (directory : Option Bytes) : Prop where
  directory : directory = none → env.directory ≠ some []
  tool : (∀ text, Choice.tool text ∉ choices) → ∀ bytes, env.tool = some bytes →
    ∃ text, bytes = Utf8.encode text
  format : (∀ text, Choice.format text ∉ choices) → ∀ bytes, env.format = some bytes →
    ∃ text, bytes = Utf8.encode text

/-- Two environments that differ, if at all, in variables the command line stands before. -/
structure Environment.AgreeBehind (choices : List Choice) (directory : Option Bytes)
    (env env' : Environment) : Prop where
  directory : directory = none → env.directory = env'.directory
  tool : (∀ text, Choice.tool text ∉ choices) → env.tool = env'.tool
  format : (∀ text, Choice.format text ∉ choices) → env.format = env'.format

/-- A value that is asked for; else what a variable holds, written as bytes; else the default. -/
def Chosen {α : Type} (asked : α → Prop) (written : α → Bytes) (fromEnv : Option Bytes)
    (default value : α) : Prop :=
  asked value ∨ (∀ v, ¬ asked v) ∧
    (fromEnv = some (written value) ∨ fromEnv = none ∧ value = default)

theorem readText_encode (text : String) : readText (Utf8.encode text) = .ok text := by
  rw [readText, Utf8.decode?_encode]

theorem readPolicy_name (policy : Policy) : readPolicy (Utf8.encode policy.name) = .ok policy := by
  cases policy <;> decide

namespace Choice

theorem has_into (given : Given) (c : Choice) (k : Keyword) :
    (c.into given).has k = (decide (k = c.keyword) || given.has k) := by
  cases c with
  | flag f => exact given.has_raised f k
  | letter => exact given.has_raised .verbose k
  | _ => rcases k with k | k | k <;> cases k <;> rfl

/-- What stands before a value and the value are the setting's word with the value attached. -/
theorem encode_attached {x : Setting} {front : String}
    (h : Utf8.encode front = (Keyword.setting x).word ++ [equals]) (text : String) :
    Utf8.encode (front ++ text) = (Keyword.setting x).word ++ equals :: Utf8.encode text := by
  rw [Utf8.encode_append, h, List.append_assoc, List.singleton_append]

/-- The word of a choice is accepted where its keyword was not met before. -/
theorem accepted {s : State} (c : Choice) (looking : s.onlyPlain = false)
    (settled : s.pending = .nothing) (fresh : s.given.has c.keyword = false) :
    Accepted s c.word { s with given := c.into s.given } := by
  have hs := State.settle_of_nothing settled
  cases c with
  | tool text =>
    rw [word, encode_attached (x := .tool) (by decide)]
    exact .attached looking hs
      (Given.set_eq_ok_iff.mpr ⟨fresh, .inl ⟨text, rfl, readText_encode text, rfl⟩⟩)
  | format text =>
    rw [word, encode_attached (x := .format) (by decide)]
    exact .attached looking hs
      (Given.set_eq_ok_iff.mpr ⟨fresh, .inr (.inl ⟨text, rfl, readText_encode text, rfl⟩)⟩)
  | replace policy =>
    rw [word, encode_attached (x := .replace) (by decide)]
    exact .attached looking hs
      (Given.set_eq_ok_iff.mpr ⟨fresh, .inr (.inr ⟨policy, rfl, readPolicy_name policy, rfl⟩)⟩)
  | flag f =>
    have hword : (Choice.flag f).word ∈ f.words := by cases f <;> decide
    exact .flag looking hword hs (Given.raise_eq_ok_iff.mpr ⟨fresh, rfl⟩)
  | letter =>
    have hword : Choice.letter.word ∈ Flag.verbose.words := by decide
    exact .flag looking hword hs (Given.raise_eq_ok_iff.mpr ⟨fresh, rfl⟩)

/-- Different keywords are written down in different places. -/
theorem into_comm {c d : Choice} (h : c.keyword ≠ d.keyword) (given : Given) :
    d.into (c.into given) = c.into (d.into given) := by
  cases c with
  | tool _ =>
    cases d with
    | tool _ => exact absurd rfl h
    | flag f => cases f <;> rfl
    | _ => rfl
  | format _ =>
    cases d with
    | format _ => exact absurd rfl h
    | flag f => cases f <;> rfl
    | _ => rfl
  | replace _ =>
    cases d with
    | replace _ => exact absurd rfl h
    | flag f => cases f <;> rfl
    | _ => rfl
  | flag f =>
    cases d with
    | flag g => cases f <;> cases g <;> rfl
    | _ => cases f <;> rfl
  | letter =>
    cases d with
    | flag g => cases g <;> rfl
    | _ => rfl

end Choice

/-- Words that are read one after the other, each for what it is. -/
theorem read_choices {choices : List Choice} (once : (choices.map Choice.keyword).Nodup)
    {s : State} (looking : s.onlyPlain = false) (settled : s.pending = .nothing)
    (fresh : ∀ c ∈ choices, s.given.has c.keyword = false) :
    (choices.map Choice.word).foldlM State.argument s =
      .ok { s with given := choices.foldl Choice.into s.given } := by
  induction choices generalizing s with
  | nil => rfl
  | cons c rest ih =>
    rw [List.map_cons, List.nodup_cons] at once
    have hfirst := State.argument_of_accepted
      (c.accepted looking settled (fresh c List.mem_cons_self))
    have hfresh : ∀ d ∈ rest, (c.into s.given).has d.keyword = false := by
      intro d hd
      have hne : d.keyword ≠ c.keyword := fun he => once.1 (he ▸ List.mem_map_of_mem hd)
      rw [Choice.has_into, decide_eq_false hne, Bool.false_or]
      exact fresh d (List.mem_cons_of_mem c hd)
    rw [List.map_cons, List.foldlM_cons, hfirst, List.foldl_cons]
    exact ih once.2 looking settled hfresh

namespace Given

theorem has_ofChoices (choices : List Choice) (k : Keyword) :
    (ofChoices choices).has k = true ↔ ∃ c ∈ choices, c.keyword = k := by
  have hfold : ∀ given : Given, (choices.foldl Choice.into given).has k = true ↔
      (∃ c ∈ choices, c.keyword = k) ∨ given.has k = true := by
    induction choices with
    | nil => simp
    | cons c rest ih =>
      intro given
      rw [List.foldl_cons, ih, Choice.has_into, Bool.or_eq_true, decide_eq_true_eq,
        List.exists_mem_cons_iff, or_left_comm, ← or_assoc, eq_comm]
  rw [ofChoices, hfold, has_empty]
  simp

theorem not_mem_of_not_has {choices : List Choice} {c : Choice}
    (h : (ofChoices choices).has c.keyword = false) : c ∉ choices := by
  intro hc
  rw [(has_ofChoices choices c.keyword).mpr ⟨c, hc, rfl⟩] at h
  cases h

theorem has_flag_iff (choices : List Choice) (f : Flag) :
    (ofChoices choices).has (.flag f) = true ↔
      .flag f ∈ choices ∨ f = .verbose ∧ .letter ∈ choices := by
  rw [has_ofChoices]
  constructor
  · rintro ⟨c, hc, hk⟩
    cases c with
    | flag g =>
      obtain rfl := Keyword.flag.inj hk
      exact .inl hc
    | letter => exact .inr ⟨(Keyword.flag.inj hk).symm, hc⟩
    | _ => cases hk
  · rintro (h | ⟨rfl, h⟩)
    · exact ⟨_, h, rfl⟩
    · exact ⟨_, h, rfl⟩

/-- Every value stems from a choice. -/
structure Backed (choices : List Choice) (given : Given) : Prop where
  directory : given.directory = none
  tool : ∀ text, given.tool = some text → .tool text ∈ choices
  format : ∀ text, given.format = some text → .format text ∈ choices
  policy : ∀ policy, given.policy = some policy → .replace policy ∈ choices

theorem Backed.into {choices : List Choice} {given : Given} (h : Backed choices given)
    {c : Choice} (hc : c ∈ choices) : Backed choices (c.into given) := by
  cases c with
  | tool text =>
    refine ⟨h.directory, ?_, h.format, h.policy⟩
    intro other he
    exact Option.some.inj he ▸ hc
  | format text =>
    refine ⟨h.directory, h.tool, ?_, h.policy⟩
    intro other he
    exact Option.some.inj he ▸ hc
  | replace policy =>
    refine ⟨h.directory, h.tool, h.format, ?_⟩
    intro other he
    exact Option.some.inj he ▸ hc
  | flag f => cases f <;> exact ⟨h.directory, h.tool, h.format, h.policy⟩
  | letter => exact ⟨h.directory, h.tool, h.format, h.policy⟩

theorem ofChoices_backed (choices : List Choice) : Backed choices (ofChoices choices) := by
  have hfold : ∀ (part : List Choice) (given : Given), part ⊆ choices → Backed choices given →
      Backed choices (part.foldl Choice.into given) := by
    intro part
    induction part with
    | nil =>
      intro given _ h
      exact h
    | cons c rest ih =>
      intro given hpart h
      obtain ⟨hc, hrest⟩ := List.cons_subset.mp hpart
      exact ih (c.into given) hrest (h.into hc)
  exact hfold choices {} (List.Subset.refl choices)
    ⟨rfl, nofun, nofun, nofun⟩

theorem ofChoices_perm {choices choices' : List Choice} (h : choices.Perm choices')
    (once : (choices.map Choice.keyword).Nodup) : ofChoices choices = ofChoices choices' := by
  apply h.foldl_eq'
  intro c hc d hd given
  by_cases he : c.keyword = d.keyword
  · rw [List.inj_on_of_nodup_map once hc hd he]
  · exact Choice.into_comm he given

end Given

/-- The arguments are read to what the choices add up to, with the directory. -/
theorem readArguments_choices {choices : List Choice} {directory : Option Bytes}
    (once : (choices.map Choice.keyword).Nodup) (named : directory ≠ some []) :
    readArguments (arguments choices directory) =
      .ok ((Given.ofChoices choices).inDirectory directory) := by
  have hread : (choices.map Choice.word).foldlM State.argument {} =
      .ok { given := Given.ofChoices choices } :=
    read_choices once rfl rfl fun c _ => Given.has_empty c.keyword
  have hnone := (Given.ofChoices_backed choices).directory
  cases directory with
  | none =>
    rw [readArguments, arguments, List.append_nil, hread, ← hnone]
    rfl
  | some path =>
    have hdashes : State.argument { given := Given.ofChoices choices } (Utf8.encode "--") =
        .ok { given := Given.ofChoices choices, onlyPlain := true } :=
      State.argument_of_accepted (.dashes rfl)
    have honly : State.hasDirectory { given := Given.ofChoices choices, onlyPlain := true } =
        false := by
      simp [State.hasDirectory, hnone]
    have hpath : State.argument { given := Given.ofChoices choices, onlyPlain := true } path =
        .ok { given := Given.ofChoices choices, pending := .directory path, onlyPlain := true } :=
      State.argument_of_accepted (.directory (.inl rfl) honly rfl)
    have hvalue : readDirectory path = .ok path := by
      rw [readDirectory, if_neg]
      rintro rfl
      exact named rfl
    rw [readArguments, arguments, List.foldlM_append, hread]
    simp only [bind, Except.bind, List.foldlM_cons, List.foldlM_nil, hdashes, hpath, pure,
      Except.pure, State.settle, Pending.into, hvalue, Except.map, Given.inDirectory]

section Choosing

variable {α : Type} {given : Option α} {read : Bytes → Except UsageError α} {default : α}

theorem choose_eq_ok {written : α → Bytes} {fromEnv : Option Bytes}
    (readable : given = none → ∀ bytes, fromEnv = some bytes →
      ∃ v, read bytes = .ok v ∧ bytes = written v) :
    ∃ value, choose given read fromEnv default = .ok value ∧
      Chosen (fun v => given = some v) written fromEnv default value := by
  cases given with
  | some value => exact ⟨value, rfl, .inl rfl⟩
  | none =>
    cases fromEnv with
    | none => exact ⟨default, rfl, .inr ⟨nofun, .inr ⟨rfl, rfl⟩⟩⟩
    | some bytes =>
      obtain ⟨v, hv, hb⟩ := readable rfl bytes rfl
      exact ⟨v, hv, .inr ⟨nofun, .inl (hb ▸ rfl)⟩⟩

/-- A variable is not looked at behind a given value. -/
theorem choose_congr {fromEnv fromEnv' : Option Bytes} (h : given = none → fromEnv = fromEnv') :
    choose given read fromEnv default = choose given read fromEnv' default := by
  cases given with
  | some value => rfl
  | none => rw [h rfl]

theorem Chosen.asked {asked : α → Prop} {written : α → Bytes} {fromEnv : Option Bytes} {value : α}
    (h : Chosen (fun v => given = some v) written fromEnv default value)
    (hsome : ∀ v, given = some v → asked v) (hnone : given = none → ∀ v, ¬ asked v) :
    Chosen asked written fromEnv default value := by
  rcases h with h | ⟨hno, h⟩
  · exact .inl (hsome value h)
  · exact .inr ⟨hnone (Option.eq_none_iff_forall_ne_some.mpr hno), h⟩

end Choosing

theorem Chosen.getD {α : Type} (given : Option α) (written : α → Bytes) (default : α) :
    Chosen (fun v => given = some v) written none default (given.getD default) := by
  cases given with
  | some value => exact .inl rfl
  | none => exact .inr ⟨nofun, .inr ⟨rfl, rfl⟩⟩

theorem choose_text {given : Option String} {fromEnv : Option Bytes} {default : String}
    (isText : given = none → ∀ bytes, fromEnv = some bytes → ∃ text, bytes = Utf8.encode text) :
    ∃ value, choose given readText fromEnv default = .ok value ∧
      Chosen (fun v => given = some v) Utf8.encode fromEnv default value := by
  apply choose_eq_ok
  intro hnone bytes he
  obtain ⟨text, rfl⟩ := isText hnone bytes he
  exact ⟨text, readText_encode text, rfl⟩

theorem choose_directory {given : Option Path} {fromEnv : Option Bytes} {default : Path}
    (nonempty : given = none → fromEnv ≠ some []) :
    ∃ value, choose given readDirectory fromEnv default = .ok value ∧
      Chosen (fun v => given = some v) id fromEnv default value := by
  apply choose_eq_ok
  intro hnone bytes he
  refine ⟨bytes, ?_, rfl⟩
  rw [readDirectory, if_neg]
  rintro rfl
  exact nonempty hnone he

namespace Given

/-- The options that follow from what was given. -/
structure Resolved (given : Given) (env : Environment) (options : Options) : Prop where
  directory : Chosen (fun path => given.directory = some path) id env.directory
    (Utf8.encode ".") options.directory
  program : Chosen (fun text => given.tool = some text) Utf8.encode env.tool "dot"
    options.tool.program
  format : Chosen (fun text => given.format = some text) Utf8.encode env.format "svgz"
    options.tool.format
  policy : Chosen (fun policy => given.policy = some policy)
    (fun policy => Utf8.encode policy.name) none .trailing options.policy
  skipDirs : options.skipDirs = given.has (.flag .skipDirs)
  printErrors : options.printErrors = given.has (.flag .printErrors)
  json : options.json = given.has (.flag .json)
  verbose : options.verbose = given.has (.flag .verbose)

theorem resolve_congr (given : Given) {env env' : Environment}
    (directory : given.directory = none → env.directory = env'.directory)
    (tool : given.tool = none → env.tool = env'.tool)
    (format : given.format = none → env.format = env'.format) :
    given.resolve env = given.resolve env' := by
  rw [resolve, resolve, choose_congr directory, choose_congr tool, choose_congr format]

/-- Where the variables that count can be read, every option is settled. -/
theorem resolve_eq_ok {given : Given} {env : Environment}
    (directory : given.directory = none → env.directory ≠ some [])
    (tool : given.tool = none → ∀ bytes, env.tool = some bytes → ∃ text, bytes = Utf8.encode text)
    (format : given.format = none → ∀ bytes, env.format = some bytes →
      ∃ text, bytes = Utf8.encode text) :
    ∃ options, given.resolve env = .ok options ∧ Resolved given env options := by
  obtain ⟨path, hpath, cpath⟩ := choose_directory directory
  obtain ⟨program, hprogram, cprogram⟩ := choose_text tool
  obtain ⟨form, hform, cform⟩ := choose_text format
  have hhere : Path.here = Utf8.encode "." := by decide
  exact ⟨_, resolve_eq_ok_iff.mpr ⟨path, program, form, hhere ▸ hpath, hprogram, hform, rfl⟩,
    cpath, cprogram, cform, Chosen.getD _ _ _, rfl, rfl, rfl, rfl⟩

end Given

/-- Whatever is asked for, once each, in any order and with any values, is understood. Each value of
the configuration is the one asked for, else the variable's, else the default; the suffixes are
always the same. Neither the order nor a variable behind something asked for makes a difference. -/
theorem choices_resolve {choices : List Choice} {directory : Option Bytes} {env : Environment}
    (once : (choices.map Choice.keyword).Nodup) (named : directory ≠ some [])
    (usable : env.Usable choices directory) :
    ∃ options, parse (arguments choices directory) env = .ok options ∧
      Chosen (fun path => directory = some path) id env.directory (Utf8.encode ".")
        options.config.directory ∧
      Chosen (fun text => .tool text ∈ choices) Utf8.encode env.tool "dot"
        options.config.tool.program ∧
      Chosen (fun text => .format text ∈ choices) Utf8.encode env.format "svgz"
        options.config.tool.format ∧
      Chosen (fun policy => .replace policy ∈ choices) (fun policy => Utf8.encode policy.name) none
        .trailing options.config.policy ∧
      (options.config.skipDirectories = true ↔ .flag .skipDirs ∈ choices) ∧
      options.config.inputSuffix = ".dot" ∧ options.config.outputSuffix = ".svg" ∧
      (options.printErrors = true ↔ .flag .printErrors ∈ choices) ∧
      (options.json = true ↔ .flag .json ∈ choices) ∧
      (options.verbose = true ↔ .flag .verbose ∈ choices ∨ .letter ∈ choices) ∧
      (∀ choices', choices.Perm choices' →
        parse (arguments choices' directory) env = .ok options) ∧
      ∀ env', env.AgreeBehind choices directory env' →
        parse (arguments choices directory) env' = .ok options := by
  have backed := Given.ofChoices_backed choices
  -- Without a value in what was given, there was no choice of one.
  have notool : (Given.ofChoices choices).tool = none → ∀ text, .tool text ∉ choices :=
    fun h text => Given.not_mem_of_not_has (by simp [Choice.keyword, Given.has, h])
  have noformat : (Given.ofChoices choices).format = none → ∀ text, .format text ∉ choices :=
    fun h text => Given.not_mem_of_not_has (by simp [Choice.keyword, Given.has, h])
  have nopolicy : (Given.ofChoices choices).policy = none → ∀ policy, .replace policy ∉ choices :=
    fun h policy => Given.not_mem_of_not_has (by simp [Choice.keyword, Given.has, h])
  have hread := readArguments_choices once named
  obtain ⟨options, hresolve, resolved⟩ :
      ∃ options, ((Given.ofChoices choices).inDirectory directory).resolve env = .ok options ∧
        Given.Resolved ((Given.ofChoices choices).inDirectory directory) env options :=
    Given.resolve_eq_ok usable.directory (fun h => usable.tool (notool h))
      (fun h => usable.format (noformat h))
  have raised : ∀ f, ((Given.ofChoices choices).inDirectory directory).has (.flag f) = true ↔
      .flag f ∈ choices ∨ f = .verbose ∧ .letter ∈ choices := by
    intro f
    rw [← Given.has_flag_iff]
    cases f <;> rfl
  refine ⟨options, ?_, resolved.directory, resolved.program.asked backed.tool notool,
    resolved.format.asked backed.format noformat, resolved.policy.asked backed.policy nopolicy,
    ?_, rfl, rfl, ?_, ?_, ?_, ?_, ?_⟩
  · exact parse_eq_ok_iff.mpr ⟨_, hread, hresolve⟩
  · rw [Options.config, resolved.skipDirs, raised]
    simp
  · rw [resolved.printErrors, raised]
    simp
  · rw [resolved.json, raised]
    simp
  · rw [resolved.verbose, raised]
    simp
  · intro choices' reordered
    have once' := (reordered.map Choice.keyword).nodup_iff.mp once
    have hread' := readArguments_choices once' named
    rw [← Given.ofChoices_perm reordered once] at hread'
    exact parse_eq_ok_iff.mpr ⟨_, hread', hresolve⟩
  · intro env' agree
    have hsame := ((Given.ofChoices choices).inDirectory directory).resolve_congr agree.directory
      (fun h => agree.tool (notool h)) (fun h => agree.format (noformat h))
    exact parse_eq_ok_iff.mpr ⟨_, hread, hsame.symm.trans hresolve⟩

/-- Values that look like keywords. -/
def lookalikes : List Choice :=
  [.letter, .tool "--json", .flag .skipDirs, .replace .first]

/-- Of these variables only the last counts beside the lookalikes: one names nothing, and one is no
text. -/
def shadowed : Environment where
  directory := some []
  tool := some [0xFF]
  format := some (Utf8.encode "png")

theorem choices_resolve_among_lookalikes :
    (lookalikes.map Choice.keyword).Nodup ∧
    shadowed.Usable lookalikes (some (Utf8.encode "-v")) ∧
    ∃ options,
      parse (["-v", "--tool=--json", "--skip-dirs", "--replace=first", "--", "-v"].map Utf8.encode)
        shadowed = .ok options ∧
      options.config.directory = Utf8.encode "-v" ∧ options.config.tool.program = "--json" ∧
      Utf8.encode options.config.tool.format = Utf8.encode "png" ∧
      options.config.policy = .first ∧ options.config.skipDirectories = true ∧
      options.json = false ∧ options.verbose = true := by
  have once : (lookalikes.map Choice.keyword).Nodup := by decide
  have usable : shadowed.Usable lookalikes (some (Utf8.encode "-v")) := by
    refine ⟨nofun, fun h => absurd (by decide) (h "--json"), ?_⟩
    rintro - bytes h
    exact ⟨"png", (Option.some.inj h).symm⟩
  refine ⟨once, usable, ?_⟩
  obtain ⟨options, parsed, directory, tool, format, policy, skips, _, _, _, json, verbose, _, _⟩ :=
    choices_resolve once (by decide) usable
  refine ⟨options, parsed, ?_, ?_, ?_, ?_, skips.mpr (by decide), ?_, verbose.mpr (by decide)⟩
  · rcases directory with h | ⟨h, _⟩
    · exact (Option.some.inj h).symm
    · exact absurd rfl (h _)
  · rcases tool with h | ⟨h, _⟩
    · simpa [lookalikes] using h
    · exact absurd (by decide) (h "--json")
  · rcases format with h | ⟨_, h | ⟨h, _⟩⟩
    · simp [lookalikes] at h
    · exact (Option.some.inj h).symm
    · cases h
  · rcases policy with h | ⟨h, _⟩
    · simpa [lookalikes] using h
    · exact absurd (by decide) (h .first)
  · exact Bool.eq_false_iff.mpr fun h => absurd (json.mp h) (by decide)

end GraphBatch.CommandLine
