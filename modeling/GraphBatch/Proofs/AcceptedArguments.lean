import GraphBatch.CommandLine.Arguments
import GraphBatch.Proofs.Decoding

namespace GraphBatch.CommandLine

theorem bind_eq_ok {ε α β : Type} {x : Except ε α} {f : α → Except ε β} {b : β} :
    x >>= f = .ok b ↔ ∃ a, x = .ok a ∧ f a = .ok b := by
  cases x <;> simp [bind, Except.bind]

theorem map_eq_ok {ε α β : Type} {x : Except ε α} {f : α → β} {b : β} :
    x.map f = .ok b ↔ ∃ a, x = .ok a ∧ f a = b := by
  cases x <;> simp [Except.map]

namespace Keyword

/-- A keyword spelled out. -/
def word (k : Keyword) : Bytes :=
  dash :: dash :: Utf8.encode k.name

theorem mem_every (k : Keyword) : k ∈ every := by
  cases k with
  | flag f => cases f <;> decide
  | setting x => cases x <;> decide
  | inquiry i => cases i <;> decide

theorem ofName?_eq_some_iff {text : String} {k : Keyword} :
    ofName? text = some k ↔ text = k.name := by
  constructor
  · intro h
    have hname := List.find?_some h
    exact (beq_iff_eq.mp hname).symm
  · rintro rfl
    have hfound : ∀ k ∈ every, ofName? k.name = some k := by decide
    exact hfound k k.mem_every

theorem ofLetter?_eq_some_iff {c : Char} {k : Keyword} :
    ofLetter? c = some k ↔ k.letter? = some c := by
  constructor
  · intro h
    have hletter := List.find?_some h
    exact beq_iff_eq.mp hletter
  · intro h
    have hfound : ∀ k ∈ every, k.letter? ≠ none → k.letter?.bind ofLetter? = some k := by decide
    have hk := hfound k k.mem_every
    rw [h] at hk
    exact hk (Option.some_ne_none c)

/-- The bytes of a keyword's name, and no others, are read as it. -/
theorem named_iff {name : Bytes} {k : Keyword} :
    (Utf8.decode? name).bind ofName? = some k ↔ name = Utf8.encode k.name := by
  rw [Option.bind_eq_some_iff]
  constructor
  · rintro ⟨text, htext, hk⟩
    rw [← ofName?_eq_some_iff.mp hk]
    exact Utf8.decode?_eq_some_iff.mp htext
  · intro h
    exact ⟨k.name, Utf8.decode?_eq_some_iff.mpr h, ofName?_eq_some_iff.mpr rfl⟩

theorem name_plain (k : Keyword) : Utf8.encode k.name ≠ [] ∧ equals ∉ Utf8.encode k.name := by
  have hplain : ∀ k ∈ every, Utf8.encode k.name ≠ [] ∧ equals ∉ Utf8.encode k.name := by decide
  exact hplain k k.mem_every

end Keyword

/-- A flag is spelled out, or is a dash and its letter if it has one. -/
def Flag.words (f : Flag) : List Bytes :=
  (Keyword.flag f).word ::
    ((Keyword.flag f).letter?.map fun c => dash :: String.utf8EncodeChar c).toList

namespace Token

theorem bne_of_not_mem {name : Bytes} (h : equals ∉ name) : ∀ b ∈ name, (b != equals) = true := by
  intro b hb
  rw [bne_iff_ne]
  rintro rfl
  exact h hb

theorem ofLong_plain {name : Bytes} (h : equals ∉ name) : ofLong name = .long name none := by
  have htake : (name ++ []).takeWhile (· != equals) = name ++ [] :=
    List.takeWhile_append_of_pos (bne_of_not_mem h)
  have hdrop : (name ++ []).dropWhile (· != equals) = [] :=
    List.dropWhile_append_of_pos (bne_of_not_mem h)
  rw [List.append_nil] at htake hdrop
  rw [ofLong, htake, hdrop]

theorem ofLong_attached {name : Bytes} (h : equals ∉ name) (value : Bytes) :
    ofLong (name ++ equals :: value) = .long name (some value) := by
  rw [ofLong, List.takeWhile_append_of_pos (bne_of_not_mem h),
    List.dropWhile_append_of_pos (bne_of_not_mem h)]
  simp

/-- The forms of an argument, with the bytes of each. -/
theorem ofArgument_cases (arg : Bytes) :
    (arg = [dash, dash] ∧ ofArgument arg = .dashes) ∨
    (∃ name, arg = dash :: dash :: name ∧ ofArgument arg = .long name none) ∨
    (∃ name value, arg = dash :: dash :: (name ++ equals :: value) ∧
      ofArgument arg = .long name (some value)) ∨
    (∃ bytes, bytes ≠ [] ∧ arg = dash :: bytes ∧ ofArgument arg = .letters bytes) ∨
    ofArgument arg = .plain := by
  match arg with
  | [] => simp [ofArgument]
  | [a] => simp [ofArgument]
  | a :: b :: rest =>
    by_cases ha : a = dash
    · by_cases hb : b = dash
      · by_cases hr : rest = []
        · left
          simp [ofArgument, ha, hb, hr]
        · right
          by_cases he : equals ∈ rest
          · obtain ⟨name, value, rfl, hname⟩ := List.eq_append_cons_of_mem he
            right; left
            exact ⟨name, value, by simp [ha, hb],
              by simp [ofArgument, ha, hb, ofLong_attached hname]⟩
          · left
            exact ⟨rest, by simp [ha, hb], by simp [ofArgument, ha, hb, hr, ofLong_plain he]⟩
      · right; right; right; left
        exact ⟨b :: rest, by simp, by simp [ha], by simp [ofArgument, ha, hb]⟩
    · right; right; right; right
      simp [ofArgument, ha]

theorem ofArgument_word (k : Keyword) : ofArgument k.word = .long (Utf8.encode k.name) none := by
  obtain ⟨hne, heq⟩ := k.name_plain
  simp [Keyword.word, ofArgument, hne, ofLong_plain heq]

theorem ofArgument_attached (k : Keyword) (value : Bytes) :
    ofArgument (k.word ++ equals :: value) = .long (Utf8.encode k.name) (some value) := by
  obtain ⟨_, heq⟩ := k.name_plain
  simp [Keyword.word, ofArgument, ofLong_attached heq]

end Token

/-- What an argument adds to what was read. Before the two dashes keywords are looked for; a value
belongs to the setting that waits for one; and one argument is the directory. Whenever something
new begins, what was pending is looked at first. -/
inductive Accepted : State → Bytes → State → Prop
  | dashes {s : State} (looking : s.onlyPlain = false) :
      Accepted s [dash, dash] { s with onlyPlain := true }
  | flag {s r : State} {f : Flag} {word : Bytes} {given : Given} (looking : s.onlyPlain = false)
      (spelled : word ∈ f.words) (settled : s.settle = .ok r)
      (raised : r.given.raise f = .ok given) : Accepted s word { r with given }
  | setting {s r : State} (x : Setting) (looking : s.onlyPlain = false)
      (settled : s.settle = .ok r) :
      Accepted s (Keyword.setting x).word { r with pending := .value x none }
  | attached {s r : State} {x : Setting} {value : Bytes} {given : Given}
      (looking : s.onlyPlain = false) (settled : s.settle = .ok r)
      (taken : r.given.set x value = .ok given) :
      Accepted s ((Keyword.setting x).word ++ equals :: value) { r with given }
  | value {s : State} {x : Setting} {arg : Bytes} (looking : s.onlyPlain = false)
      (plain : Token.ofArgument arg = .plain) (waiting : s.pending = .value x none) :
      Accepted s arg { s with pending := .value x (some arg) }
  | directory {s r : State} {arg : Bytes}
      (plain : s.onlyPlain = true ∨
        Token.ofArgument arg = .plain ∧ ∀ x, s.pending ≠ .value x none)
      (only : s.hasDirectory = false) (settled : s.settle = .ok r) :
      Accepted s arg { r with pending := .directory arg }

namespace Given

variable {given g : Given}

def raised (given : Given) : Flag → Given
  | .skipDirs => { given with skipDirs := true }
  | .printErrors => { given with printErrors := true }
  | .json => { given with json := true }
  | .verbose => { given with verbose := true }

theorem raise_eq_ok_iff {f : Flag} :
    given.raise f = .ok g ↔ given.has (.flag f) = false ∧ g = given.raised f := by
  unfold raise
  split
  · rename_i h
    simp [h]
  · rename_i h
    simp only [Except.ok.injEq, Bool.eq_false_iff.mpr h, true_and]
    cases f <;> exact eq_comm

theorem has_raised (given : Given) (f : Flag) (k : Keyword) :
    (given.raised f).has k = (decide (k = .flag f) || given.has k) := by
  rcases k with k | k | k <;> cases k <;> cases f <;> rfl

theorem has_empty (k : Keyword) : ({} : Given).has k = false := by
  rcases k with k | k | k <;> cases k <;> rfl

/-- A value is taken once, if it can be read. -/
theorem set_eq_ok_iff {x : Setting} {value : Bytes} :
    given.set x value = .ok g ↔ given.has (.setting x) = false ∧
      ((∃ text, x = .tool ∧ readText value = .ok text ∧ g = { given with tool := some text }) ∨
      (∃ text, x = .format ∧ readText value = .ok text ∧ g = { given with format := some text }) ∨
      ∃ policy, x = .replace ∧ readPolicy value = .ok policy ∧
        g = { given with policy := some policy }) := by
  unfold set
  split
  · rename_i h
    simp [h]
  · rename_i h
    rw [Bool.eq_false_iff.mpr h]
    cases x <;> simp [map_eq_ok, @eq_comm _ g]

theorem has_flag_of_set {x : Setting} {value : Bytes} (h : given.set x value = .ok g) (f : Flag) :
    g.has (.flag f) = given.has (.flag f) := by
  obtain ⟨_, ⟨_, _, _, rfl⟩ | ⟨_, _, _, rfl⟩ | ⟨_, _, _, rfl⟩⟩ := set_eq_ok_iff.mp h
  all_goals cases f <;> rfl

end Given

theorem Pending.into_eq_ok_iff {pending : Pending} {given g : Given} :
    pending.into given = .ok g ↔ pending = .nothing ∧ g = given ∨
      (∃ x value, pending = .value x (some value) ∧ given.set x value = .ok g) ∨
      ∃ path, pending = .directory path ∧ path ≠ [] ∧
        g = { given with directory := some path } := by
  cases pending with
  | nothing => simp [into, eq_comm]
  | value x value => cases value <;> simp [into]
  | directory path =>
    by_cases hp : path = []
    · simp [into, readDirectory, hp, Except.map]
    · simp [into, readDirectory, hp, Except.map, eq_comm]

namespace State

variable {s s' r : State}

theorem accept_eq_ok_iff {given : Except UsageError Given} :
    s.accept given = .ok s' ↔ ∃ g, given = .ok g ∧ s' = { s with given := g } := by
  cases given with
  | error e => simp [accept, refuse]
  | ok g => simp [accept, eq_comm]

theorem settle_eq_ok_iff :
    s.settle = .ok r ↔ ∃ g, s.pending.into s.given = .ok g ∧
      r = { s with given := g, pending := .nothing } := by
  unfold settle
  cases s.pending.into s.given with
  | error e => simp
  | ok g => simp [eq_comm]

theorem settle_of_nothing (h : s.pending = .nothing) : s.settle = .ok s := by
  obtain ⟨given, pending, onlyPlain⟩ := s
  obtain rfl : pending = .nothing := h
  rfl

theorem pending_of_settle (h : s.settle = .ok r) : r.pending = .nothing := by
  obtain ⟨_, _, rfl⟩ := settle_eq_ok_iff.mp h
  rfl

theorem onlyPlain_of_settle (h : s.settle = .ok r) : r.onlyPlain = s.onlyPlain := by
  obtain ⟨_, _, rfl⟩ := settle_eq_ok_iff.mp h
  rfl

theorem keyword_flag_eq_ok_iff {inFull : Bool} {f : Flag} :
    s.keyword inFull (.flag f) = .ok s' ↔
      ∃ r g, s.settle = .ok r ∧ r.given.raise f = .ok g ∧ s' = { r with given := g } := by
  simp only [keyword, bind_eq_ok, accept_eq_ok_iff]
  constructor
  · rintro ⟨r, hr, g, hg, rfl⟩
    exact ⟨r, g, hr, hg, rfl⟩
  · rintro ⟨r, g, hr, hg, rfl⟩
    exact ⟨r, hr, g, hg, rfl⟩

theorem keyword_setting_eq_ok_iff {inFull : Bool} {x : Setting} :
    s.keyword inFull (.setting x) = .ok s' ↔
      ∃ r, s.settle = .ok r ∧ s' = { r with pending := .value x none } := by
  simp only [keyword, bind_eq_ok]
  constructor
  · rintro ⟨r, hr, he⟩
    exact ⟨r, hr, (Except.ok.inj he).symm⟩
  · rintro ⟨r, hr, rfl⟩
    exact ⟨r, hr, rfl⟩

theorem keyword_inquiry_ne_ok {inFull : Bool} {i : Inquiry} :
    s.keyword inFull (.inquiry i) ≠ .ok s' := by
  intro h
  obtain ⟨_, _, he⟩ := bind_eq_ok.mp h
  cases he

theorem positional_eq_ok_iff {arg : Bytes} :
    s.positional arg = .ok s' ↔
      s.hasDirectory = false ∧ ∃ r, s.settle = .ok r ∧
        s' = { r with pending := .directory arg } := by
  cases h : s.hasDirectory with
  | true => simp [positional, refuse, h]
  | false =>
    rw [positional, h, if_neg Bool.false_ne_true, bind_eq_ok, eq_self, true_and]
    constructor
    · rintro ⟨r, hr, he⟩
      exact ⟨r, hr, (Except.ok.inj he).symm⟩
    · rintro ⟨r, hr, rfl⟩
      exact ⟨r, hr, rfl⟩

/-- What was pending is a value or the directory, never a flag. -/
theorem has_flag_of_settle (h : s.settle = .ok r) (f : Flag) :
    r.given.has (.flag f) = s.given.has (.flag f) := by
  obtain ⟨g, hg, rfl⟩ := settle_eq_ok_iff.mp h
  rcases Pending.into_eq_ok_iff.mp hg with ⟨_, rfl⟩ | ⟨x, value, _, hset⟩ | ⟨path, _, _, rfl⟩
  · rfl
  · exact Given.has_flag_of_set hset f
  · cases f <;> rfl

/-- Of the letters that begin a group only one is a flag's; the others ask for something else. -/
theorem letters_cons_eq_ok {p : Utf8.Piece} {ps : List Utf8.Piece}
    (h : s.letters (p :: ps) = .ok s') :
    p = .scalar 'v' ∧ ∃ r, s.keyword false (.flag .verbose) = .ok r ∧ r.letters ps = .ok s' := by
  cases p with
  | broken bytes => cases h
  | scalar c =>
    unfold letters at h
    cases hk : Keyword.ofLetter? c with
    | none =>
      rw [hk] at h
      cases h
    | some k =>
      rw [hk] at h
      obtain ⟨r, hr, hrest⟩ := bind_eq_ok.mp h
      have hletter := Keyword.ofLetter?_eq_some_iff.mp hk
      cases k with
      | flag f =>
        cases f with
        | verbose =>
          obtain rfl := Option.some.inj hletter
          exact ⟨rfl, r, hr, hrest⟩
        | _ => cases hletter
      | setting x => cases hletter
      | inquiry i => exact absurd hr keyword_inquiry_ne_ok

/-- A group of letters is the one letter: it cannot be used twice. -/
theorem letters_eq_ok_iff {bytes : Bytes} (nonempty : bytes ≠ []) :
    s.letters (Utf8.pieces bytes) = .ok s' ↔
      bytes = String.utf8EncodeChar 'v' ∧ s.keyword false (.flag .verbose) = .ok s' := by
  constructor
  · intro h
    cases hp : Utf8.pieces bytes with
    | nil => exact absurd (Utf8.pieces_eq_nil.mp hp) nonempty
    | cons p ps =>
      rw [hp] at h
      obtain ⟨rfl, r, hr, hrest⟩ := letters_cons_eq_ok h
      cases ps with
      | nil =>
        obtain rfl := Except.ok.inj hrest
        have hbytes : bytes = Utf8.encodeAll ['v'] := Utf8.pieces_eq_scalars hp
        exact ⟨hbytes, hr⟩
      | cons q qs =>
        obtain ⟨_, r', hr', _⟩ := letters_cons_eq_ok hrest
        obtain ⟨_, _, _, hraise, rfl⟩ := keyword_flag_eq_ok_iff.mp hr
        obtain ⟨_, rfl⟩ := Given.raise_eq_ok_iff.mp hraise
        obtain ⟨_, _, hsettle, hagain, _⟩ := keyword_flag_eq_ok_iff.mp hr'
        have hfresh := (Given.raise_eq_ok_iff.mp hagain).1
        rw [has_flag_of_settle hsettle, Given.has_raised] at hfresh
        simp at hfresh
  · rintro ⟨rfl, h⟩
    have hp : Utf8.pieces (String.utf8EncodeChar 'v') = [.scalar 'v'] := by decide
    have hv : Keyword.ofLetter? 'v' = some (.flag .verbose) :=
      Keyword.ofLetter?_eq_some_iff.mpr rfl
    rw [hp, letters, hv]
    exact bind_eq_ok.mpr ⟨s', h, rfl⟩

theorem long_eq_ok_iff {name : Bytes} :
    s.long name none = .ok s' ↔
      ∃ k : Keyword, name = Utf8.encode k.name ∧ s.keyword true k = .ok s' := by
  constructor
  · intro h
    cases hk : (Utf8.decode? name).bind Keyword.ofName? with
    | none =>
      simp only [long, hk] at h
      cases h
    | some k =>
      simp only [long, hk] at h
      exact ⟨k, Keyword.named_iff.mp hk, h⟩
  · rintro ⟨k, hname, h⟩
    simp only [long, Keyword.named_iff.mpr hname]
    exact h

theorem long_attached_eq_ok_iff {name value : Bytes} :
    s.long name (some value) = .ok s' ↔
      ∃ x r g, name = Utf8.encode (Keyword.setting x).name ∧ s.settle = .ok r ∧
        r.given.set x value = .ok g ∧ s' = { r with given := g } := by
  constructor
  · intro h
    cases hk : (Utf8.decode? name).bind Keyword.ofName? with
    | none =>
      simp only [long, hk] at h
      cases h
    | some k =>
      simp only [long, hk] at h
      cases k with
      | setting x =>
        obtain ⟨r, hr, haccept⟩ := bind_eq_ok.mp h
        obtain ⟨g, hg, rfl⟩ := accept_eq_ok_iff.mp haccept
        exact ⟨x, r, g, Keyword.named_iff.mp hk, hr, hg, rfl⟩
      | flag f => cases h
      | inquiry i => cases h
  · rintro ⟨x, r, g, hname, hr, hg, rfl⟩
    simp only [long, Keyword.named_iff.mpr hname]
    exact bind_eq_ok.mpr ⟨r, hr, accept_eq_ok_iff.mpr ⟨g, hg, rfl⟩⟩

theorem plain_eq_ok_iff {arg : Bytes} :
    s.plain arg = .ok s' ↔
      (∃ x, s.pending = .value x none ∧ s' = { s with pending := .value x (some arg) }) ∨
      (∀ x, s.pending ≠ .value x none) ∧ s.positional arg = .ok s' := by
  unfold plain
  split
  · rename_i x hp
    simp [hp, eq_comm]
  · rename_i hp
    have hother : ∀ x, s.pending ≠ .value x none := fun x hx => hp x hx
    simp [hother]

theorem accepted_of_argument {arg : Bytes} (h : s.argument arg = .ok s') : Accepted s arg s' := by
  cases hl : s.onlyPlain with
  | true =>
    rw [argument, if_pos hl] at h
    obtain ⟨only, r, hr, rfl⟩ := positional_eq_ok_iff.mp h
    exact .directory (.inl hl) only hr
  | false =>
    rw [argument, if_neg (Bool.eq_false_iff.mp hl)] at h
    rcases Token.ofArgument_cases arg with
      ⟨rfl, ht⟩ | ⟨name, rfl, ht⟩ | ⟨name, value, rfl, ht⟩ | ⟨bytes, hne, rfl, ht⟩ | ht
    all_goals rw [ht] at h
    · obtain rfl := Except.ok.inj h
      exact .dashes hl
    · obtain ⟨k, rfl, hk⟩ := long_eq_ok_iff.mp h
      cases k with
      | flag f =>
        obtain ⟨r, g, hr, hg, rfl⟩ := keyword_flag_eq_ok_iff.mp hk
        exact .flag hl List.mem_cons_self hr hg
      | setting x =>
        obtain ⟨r, hr, rfl⟩ := keyword_setting_eq_ok_iff.mp hk
        exact .setting x hl hr
      | inquiry i => exact absurd hk keyword_inquiry_ne_ok
    · obtain ⟨x, r, g, rfl, hr, hg, rfl⟩ := long_attached_eq_ok_iff.mp h
      exact .attached hl hr hg
    · obtain ⟨rfl, hk⟩ := (letters_eq_ok_iff hne).mp h
      obtain ⟨r, g, hr, hg, rfl⟩ := keyword_flag_eq_ok_iff.mp hk
      exact .flag hl (List.mem_cons_of_mem _ List.mem_cons_self) hr hg
    · rcases plain_eq_ok_iff.mp h with ⟨x, hx, rfl⟩ | ⟨hx, hplain⟩
      · exact .value hl ht hx
      · obtain ⟨only, r, hr, rfl⟩ := positional_eq_ok_iff.mp hplain
        exact .directory (.inr ⟨ht, hx⟩) only hr

/-- A flag's word is read as the flag, however it is spelled. -/
theorem argument_flag_eq_ok_iff {f : Flag} {word : Bytes} (looking : s.onlyPlain = false)
    (spelled : word ∈ f.words) :
    s.argument word = .ok s' ↔
      ∃ r g, s.settle = .ok r ∧ r.given.raise f = .ok g ∧ s' = { r with given := g } := by
  rw [argument, if_neg (Bool.eq_false_iff.mp looking)]
  rcases List.mem_cons.mp spelled with rfl | hletter
  · simp only [Token.ofArgument_word, long, Keyword.named_iff.mpr rfl, keyword_flag_eq_ok_iff]
  · cases f with
    | verbose =>
      obtain rfl := List.mem_singleton.mp hletter
      have ht : Token.ofArgument (dash :: String.utf8EncodeChar 'v') =
          .letters (String.utf8EncodeChar 'v') := by decide
      simp only [ht, letters_eq_ok_iff (by decide : String.utf8EncodeChar 'v' ≠ []), true_and,
        keyword_flag_eq_ok_iff]
    | _ => cases hletter

theorem argument_of_accepted {arg : Bytes} (h : Accepted s arg s') : s.argument arg = .ok s' := by
  cases h with
  | dashes looking =>
    rw [argument, if_neg (Bool.eq_false_iff.mp looking)]
    rfl
  | flag looking spelled settled raised =>
    exact (argument_flag_eq_ok_iff looking spelled).mpr ⟨_, _, settled, raised, rfl⟩
  | setting x looking settled =>
    rw [argument, if_neg (Bool.eq_false_iff.mp looking), Token.ofArgument_word]
    exact long_eq_ok_iff.mpr ⟨_, rfl, keyword_setting_eq_ok_iff.mpr ⟨_, settled, rfl⟩⟩
  | attached looking settled taken =>
    rw [argument, if_neg (Bool.eq_false_iff.mp looking), Token.ofArgument_attached]
    exact long_attached_eq_ok_iff.mpr ⟨_, _, _, rfl, settled, taken, rfl⟩
  | value looking plain waiting =>
    rw [argument, if_neg (Bool.eq_false_iff.mp looking), plain]
    exact plain_eq_ok_iff.mpr (.inl ⟨_, waiting, rfl⟩)
  | @directory r _ plain only settled =>
    have hpos : s.positional arg = .ok { r with pending := .directory arg } :=
      positional_eq_ok_iff.mpr ⟨only, r, settled, rfl⟩
    cases hl : s.onlyPlain with
    | true =>
      rw [argument, if_pos hl]
      exact hpos
    | false =>
      obtain ⟨ht, hx⟩ := plain.resolve_left (Bool.eq_false_iff.mp hl)
      rw [argument, if_neg (Bool.eq_false_iff.mp hl), ht]
      exact plain_eq_ok_iff.mpr (.inr ⟨hx, hpos⟩)

/-- Reading takes the accepted arguments and no others. -/
theorem argument_eq_ok_iff {arg : Bytes} : s.argument arg = .ok s' ↔ Accepted s arg s' :=
  ⟨accepted_of_argument, argument_of_accepted⟩

theorem read_cons_iff {arg : Bytes} {rest : List Bytes} :
    (arg :: rest).foldlM argument s = .ok s' ↔
      ∃ r, Accepted s arg r ∧ rest.foldlM argument r = .ok s' := by
  simp only [List.foldlM_cons, bind_eq_ok, argument_eq_ok_iff]

end State

theorem readArguments_eq_ok_iff {args : List Bytes} {given : Given} :
    readArguments args = .ok given ↔
      ∃ s r, args.foldlM State.argument {} = .ok s ∧ s.settle = .ok r ∧ given = r.given := by
  simp only [readArguments, bind_eq_ok, pure, Except.pure, Except.ok.injEq, exists_and_left,
    @eq_comm _ given]

theorem Given.resolve_eq_ok_iff {given : Given} {env : Environment} {options : Options} :
    given.resolve env = .ok options ↔ ∃ directory program format,
      choose given.directory readDirectory env.directory Path.here = .ok directory ∧
      choose given.tool readText env.tool "dot" = .ok program ∧
      choose given.format readText env.format "svgz" = .ok format ∧
      options = ⟨directory, ⟨program, format⟩, given.policy.getD .trailing, given.skipDirs,
        given.printErrors, given.json, given.verbose⟩ := by
  simp only [resolve, bind_eq_ok, pure, Except.pure, Except.ok.injEq, exists_and_left,
    @eq_comm _ options]

theorem parse_eq_ok_iff {args : List Bytes} {env : Environment} {options : Options} :
    parse args env = .ok options ↔
      ∃ given, readArguments args = .ok given ∧ given.resolve env = .ok options := by
  rw [parse, bind_eq_ok]
  apply exists_congr
  intro given
  apply and_congr_right'
  cases given.resolve env with
  | error e => simp
  | ok resolved => simp [pure, Except.pure]

end GraphBatch.CommandLine
