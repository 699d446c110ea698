import GraphBatch.CommandLine
import GraphBatch.Proofs.PublishedReports

namespace GraphBatch.Json

/-- Where a character of a text stands. The quote that opens a literal is outside, and the one
that closes it inside. -/
inductive Place
  | outside
  | inside
  /-- Inside, after a backslash. -/
  | escaped
  deriving DecidableEq

/-- The place of the character after this one. -/
def Place.next : Place → Char → Place
  | .outside, c => if c = '"' then .inside else .outside
  | .inside, c => if c = '"' then .outside else if c = '\\' then .escaped else .inside
  | .escaped, _ => .inside

def Place.after (place : Place) (cs : List Char) : Place :=
  cs.foldl Place.next place

def placed : Place → List Char → List (Place × Char)
  | _, [] => []
  | place, c :: rest => (place, c) :: placed (place.next c) rest

/-- The text without the spaces and line breaks outside its literals. -/
def squeeze (text : List Char) : List Char :=
  ((placed .outside text).filter fun (place, c) =>
    !(place == .outside && (c == ' ' || c == '\n'))).map Prod.snd

/-- What stands inside literals. -/
def literalChars (text : List Char) : List Char :=
  ((placed .outside text).filter fun (place, _) => place != .outside).map Prod.snd

/-- Neither a quote nor layout. -/
def isSolid (c : Char) : Bool :=
  c != '"' && c != ' ' && c != '\n'

theorem Place.after_append (place : Place) (a b : List Char) :
    place.after (a ++ b) = (place.after a).after b :=
  List.foldl_append

theorem placed_append (place : Place) (a b : List Char) :
    placed place (a ++ b) = placed place a ++ placed (place.after a) b := by
  induction a generalizing place with
  | nil => rfl
  | cons c rest ih =>
    rw [List.cons_append, placed, placed, ih, List.cons_append]
    rfl

theorem map_snd_placed (place : Place) (cs : List Char) : (placed place cs).map Prod.snd = cs := by
  induction cs generalizing place with
  | nil => rfl
  | cons c rest ih => rw [placed, List.map_cons, ih]

/-- A text that closes its literals, holds no line break in them, and squeezes to another. -/
structure Squeezes (text tight : List Char) : Prop where
  closed : Place.outside.after text = .outside
  squeezed : squeeze text = tight
  oneLine : '\n' ∉ literalChars text

namespace Squeezes

variable {a b a' b' cs : List Char}

theorem append (ha : Squeezes a a') (hb : Squeezes b b') : Squeezes (a ++ b) (a' ++ b') := by
  have hplaced : placed .outside (a ++ b) = placed .outside a ++ placed .outside b := by
    rw [placed_append, ha.closed]
  refine ⟨?_, ?_, ?_⟩
  · rw [Place.after_append, ha.closed, hb.closed]
  · rw [squeeze, hplaced, List.filter_append, List.map_append, ← squeeze, ← squeeze, ha.squeezed,
      hb.squeezed]
  · rw [literalChars, hplaced, List.filter_append, List.map_append, List.mem_append]
    rintro (h | h)
    · exact ha.oneLine h
    · exact hb.oneLine h

/-- Without a quote, no literal is opened. -/
theorem placed_plain (h : ∀ c ∈ cs, c ≠ '"') :
    placed .outside cs = cs.map (Prod.mk .outside) ∧ Place.outside.after cs = .outside := by
  induction cs with
  | nil => exact ⟨rfl, rfl⟩
  | cons c rest ih =>
    have hc : Place.outside.next c = .outside := if_neg (h c List.mem_cons_self)
    obtain ⟨hplaced, hafter⟩ := ih fun x hx => h x (List.mem_cons_of_mem c hx)
    constructor
    · rw [placed, hc, hplaced, List.map_cons]
    · rw [Place.after, List.foldl_cons, hc]
      exact hafter

theorem of_plain (h : ∀ c ∈ cs, c ≠ '"') :
    Squeezes cs (cs.filter fun c => !(c == ' ' || c == '\n')) := by
  obtain ⟨hplaced, hafter⟩ := placed_plain h
  refine ⟨hafter, ?_, ?_⟩
  · rw [squeeze, hplaced, List.filter_map, List.map_map]
    simp [Function.comp_def]
  · rw [literalChars, hplaced, List.filter_map]
    simp [Function.comp_def]

theorem of_spaces (h : Spaces cs) : Squeezes cs [] := by
  have hquote : ∀ c ∈ cs, c ≠ '"' := by
    intro c hc
    rcases h c hc with rfl | rfl <;> decide
  have hnone : (cs.filter fun c => !(c == ' ' || c == '\n')) = [] := by
    rw [List.filter_eq_nil_iff]
    intro c hc
    rcases h c hc with rfl | rfl <;> decide
  have hplain := of_plain hquote
  rwa [hnone] at hplain

/-- Brackets, commas, words and numbers hold nothing to take away. -/
theorem of_solid (h : cs.all isSolid = true) : Squeezes cs cs := by
  have hsolid : ∀ c ∈ cs, (c ≠ '"' ∧ c ≠ ' ') ∧ c ≠ '\n' := by
    intro c hc
    simpa only [isSolid, Bool.and_eq_true, bne_iff_ne] using List.all_eq_true.mp h c hc
  have hall : (cs.filter fun c => !(c == ' ' || c == '\n')) = cs := by
    rw [List.filter_eq_self]
    intro c hc
    simp [hsolid c hc]
  have hplain := of_plain fun c hc => (hsolid c hc).1.1
  rwa [hall] at hplain

end Squeezes

section Literals

/-- Text that, inside a literal, stays inside and on one line. -/
def Within (cs : List Char) : Prop :=
  Place.inside.after cs = .inside ∧ ∀ p ∈ placed .inside cs, p.1 ≠ .outside ∧ p.2 ≠ '\n'

theorem Within.append {a b : List Char} (ha : Within a) (hb : Within b) : Within (a ++ b) := by
  constructor
  · rw [Place.after_append, ha.1, hb.1]
  · intro p hp
    rw [placed_append, ha.1] at hp
    rcases List.mem_append.mp hp with hp | hp
    · exact ha.2 p hp
    · exact hb.2 p hp

theorem hexDigit_plain {c : Char} {n : Nat} (h : Text.hexValue? c = some n) :
    c ≠ '"' ∧ c ≠ '\\' ∧ c ≠ '\n' := by
  refine ⟨?_, ?_, ?_⟩ <;> rintro rfl <;> cases h

theorem within_char {c : Char} (quote : c ≠ '"') (backslash : c ≠ '\\') (line : c ≠ '\n') :
    Within [c] := by
  have hnext : Place.inside.next c = .inside := by simp [Place.next, quote, backslash]
  refine ⟨hnext, ?_⟩
  intro p hp
  obtain rfl := List.mem_singleton.mp hp
  exact ⟨Place.noConfusion, line⟩

theorem SpelledChar.within {c : Char} {piece : List Char} (h : SpelledChar c piece) :
    Within piece := by
  cases h with
  | itself quote backslash printed =>
    refine within_char quote backslash ?_
    rintro rfl
    exact absurd printed (by decide)
  | number ha hb hc hd _ =>
    have digit : ∀ {x : Char} {n : Nat}, Text.hexValue? x = some n → Within [x] := by
      intro x n hx
      obtain ⟨quote, backslash, line⟩ := hexDigit_plain hx
      exact within_char quote backslash line
    have start : Within ['\\', 'u'] := ⟨rfl, by decide⟩
    exact start.append ((digit ha).append ((digit hb).append ((digit hc).append (digit hd))))
  | _ => exact ⟨rfl, by decide⟩

theorem SpelledText.within {text body : List Char} (h : SpelledText text body) : Within body := by
  induction h with
  | nil => exact ⟨rfl, by decide⟩
  | cons first _ ih => exact first.within.append ih

/-- A string's literal is one piece: it is closed where it ends, and nothing is taken from it. -/
theorem SpelledString.squeezes {s : String} {cs : List Char} (h : SpelledString s cs) :
    Squeezes cs cs := by
  cases h with
  | @quoted body hbody =>
    obtain ⟨hafter, hplaced⟩ := hbody.within
    have hall : placed .outside ('"' :: (body ++ ['"'])) =
        (.outside, '"') :: (placed .inside body ++ [(.inside, '"')]) := by
      change _ :: placed .inside (body ++ ['"']) = _
      rw [placed_append, hafter]
      rfl
    -- Only the opening quote is outside, and it is no layout.
    have hinside : ∀ p ∈ placed .outside ('"' :: (body ++ ['"'])),
        p = (.outside, '"') ∨ p.1 ≠ .outside ∧ p.2 ≠ '\n' := by
      intro p hp
      rw [hall, List.mem_cons, List.mem_append, List.mem_singleton] at hp
      rcases hp with rfl | hp | rfl
      · exact .inl rfl
      · exact .inr (hplaced p hp)
      · exact .inr ⟨by decide, by decide⟩
    refine ⟨?_, ?_, ?_⟩
    · change Place.inside.after (body ++ ['"']) = .outside
      rw [Place.after_append, hafter]
      rfl
    · rw [squeeze, List.filter_eq_self.mpr, map_snd_placed]
      intro p hp
      rcases hinside p hp with rfl | ⟨hplace, _⟩
      · rfl
      · simp [hplace]
    · intro hline
      obtain ⟨p, hp, hchar⟩ := List.mem_map.mp hline
      obtain ⟨hmem, hplace⟩ := List.mem_filter.mp hp
      rcases hinside p hmem with rfl | ⟨_, hother⟩
      · cases hchar
      · exact hother hchar

-- A quote after a backslash closes nothing, so the space behind it stays.
example : squeeze ['[', ' ', '"', '\\', '"', ' ', '"', ' ', ']'] =
    ['[', '"', '\\', '"', ' ', '"', ']'] := by
  decide

end Literals

section Layouts

theorem Numeral.squeezes {n : Nat} {cs : List Char} (h : Numeral n cs) : Squeezes cs cs := by
  apply Squeezes.of_solid
  rw [List.all_eq_true]
  intro c hc
  have hdigit := h.isDigit c hc
  simp only [isSolid, Bool.and_eq_true, bne_iff_ne]
  refine ⟨⟨?_, ?_⟩, ?_⟩ <;> rintro rfl <;> cases hdigit

theorem SpelledNumber.squeezes {n : Int} {cs : List Char} (h : SpelledNumber n cs) :
    Squeezes cs cs := by
  cases h with
  | natural h => exact h.squeezes
  | negative h =>
    have hminus : Squeezes ['-'] ['-'] := .of_solid rfl
    exact hminus.append h.squeezes

variable {l : Layout}

theorem Layout.Spaced.line_squeezes (spaced : l.Spaced) (depth depth' : Nat) :
    Squeezes (l.line depth) (Layout.compact.line depth') :=
  .of_spaces (spaced.line depth)

theorem Layout.Spaced.colon_squeezes (spaced : l.Spaced) :
    Squeezes l.colon Layout.compact.colon := by
  obtain ⟨gap, hcolon, hgap⟩ := spaced.colon
  have hmark : Squeezes [':'] [':'] := .of_solid rfl
  rw [hcolon]
  exact hmark.append (.of_spaces hgap)

mutual

/-- Squeezing leaves the compact form, whatever the layout and the depth. -/
theorem render_squeezes (spaced : l.Spaced) (depth depth' : Nat) :
    ∀ j : Json, Squeezes (render l depth j) (render .compact depth' j)
  | .null => by
    rw [render, render]
    exact .of_solid rfl
  | .bool true => by
    rw [render, render]
    exact .of_solid rfl
  | .bool false => by
    rw [render, render]
    exact .of_solid rfl
  | .number n => by
    rw [render, render]
    exact (decimal_spelled n).squeezes
  | .string s => by
    rw [render, render]
    exact (quote_spelled s).squeezes
  | .array [] => by
    rw [render, render]
    exact .of_solid rfl
  | .array (item :: rest) => by
    have hopen : Squeezes ['['] ['['] := .of_solid rfl
    have hclose : Squeezes [']'] [']'] := .of_solid rfl
    have hfirst := render_squeezes spaced (depth + 1) (depth' + 1) item
    have hrest := renderItems_squeezes spaced (depth + 1) (depth' + 1) rest
    rw [render, render]
    exact ((((hopen.append (spaced.line_squeezes _ _)).append hfirst).append hrest).append
      (spaced.line_squeezes _ _)).append hclose
  | .object [] => by
    rw [render, render]
    exact .of_solid rfl
  | .object ((key, value) :: rest) => by
    have hopen : Squeezes ['\x7b'] ['\x7b'] := .of_solid rfl
    have hclose : Squeezes ['\x7d'] ['\x7d'] := .of_solid rfl
    have hfirst := render_squeezes spaced (depth + 1) (depth' + 1) value
    have hrest := renderFields_squeezes spaced (depth + 1) (depth' + 1) rest
    rw [render, render]
    exact ((((((hopen.append (spaced.line_squeezes _ _)).append (quote_spelled key).squeezes).append
      spaced.colon_squeezes).append hfirst).append hrest).append
      (spaced.line_squeezes _ _)).append hclose

theorem renderItems_squeezes (spaced : l.Spaced) (depth depth' : Nat) :
    ∀ items : List Json, Squeezes (renderItems l depth items) (renderItems .compact depth' items)
  | [] => by
    rw [renderItems, renderItems]
    exact .of_solid rfl
  | item :: rest => by
    have hcomma : Squeezes [','] [','] := .of_solid rfl
    have hfirst := render_squeezes spaced depth depth' item
    have hrest := renderItems_squeezes spaced depth depth' rest
    rw [renderItems, renderItems]
    exact ((hcomma.append (spaced.line_squeezes _ _)).append hfirst).append hrest

theorem renderFields_squeezes (spaced : l.Spaced) (depth depth' : Nat) :
    ∀ fields : List (String × Json),
      Squeezes (renderFields l depth fields) (renderFields .compact depth' fields)
  | [] => by
    rw [renderFields, renderFields]
    exact .of_solid rfl
  | (key, value) :: rest => by
    have hcomma : Squeezes [','] [','] := .of_solid rfl
    have hfirst := render_squeezes spaced depth depth' value
    have hrest := renderFields_squeezes spaced depth depth' rest
    rw [renderFields, renderFields]
    exact ((((hcomma.append (spaced.line_squeezes _ _)).append (quote_spelled key).squeezes).append
      spaced.colon_squeezes).append hfirst).append hrest

end

theorem text_squeezes (spaced : l.Spaced) (j : Json) :
    Squeezes (String.ofList (render l 0 j)).toList j.compact.toList := by
  rw [compact, String.toList_ofList, String.toList_ofList]
  exact render_squeezes spaced 0 0 j

end Layouts

end GraphBatch.Json

namespace GraphBatch

/-- What a pass prints that is asked for its report. -/
theorem CommandLine.stdout_of_json {options : Options} {pass : Pass} {r : Report}
    (asked : options.json = true) (passed : pass.result = .ok r) :
    (Response.passed options pass).stdout = r.pretty ++ "\n" := by
  simp [Response.stdout, Pass.output, passed, asked]

/-- The indented text of a report is the compact one with spaces and line breaks put in outside
its literals, and no literal of either is broken over lines. Both are read as the same report, as it
is shown; and what a pass prints, with the break at its end, squeezes to the compact text. -/
theorem Report.pretty_squeezes (r : Report) :
    Json.squeeze r.pretty.toList = r.compact.toList ∧
    '\n' ∉ Json.literalChars r.pretty.toList ∧ '\n' ∉ Json.literalChars r.compact.toList ∧
    (∀ text ∈ [r.pretty, r.compact],
      (Json.parse? text).bind Published.Report.ofJson? =
        some { directory := Utf8.lossy r.directory
               conversions := r.conversions.map fun c =>
                 { input := Utf8.lossy c.input
                   output := Utf8.lossy c.output
                   outcome := c.outcome }
               skipped := r.skipped }) ∧
    ∀ (options : CommandLine.Options) (pass : CommandLine.Pass),
      options.json = true → pass.result = .ok r →
        (CommandLine.Response.passed options pass).stdout = r.pretty ++ "\n" ∧
        Json.squeeze (CommandLine.Response.passed options pass).stdout.toList =
          r.compact.toList := by
  have hpretty : Json.Squeezes r.pretty.toList r.compact.toList :=
    Json.text_squeezes Json.Layout.indented_spaced r.publish.toJson
  have hcompact : Json.Squeezes r.compact.toList r.compact.toList :=
    Json.text_squeezes Json.Layout.compact_spaced r.publish.toJson
  refine ⟨hpretty.squeezed, hpretty.oneLine, hcompact.oneLine, ?_, ?_⟩
  · intro text htext
    simp only [List.mem_cons, List.not_mem_nil, or_false] at htext
    rcases htext with rfl | rfl
    · exact read_of_isText r.isText_pretty
    · exact read_of_isText r.isText_compact
  · intro options pass asked passed
    have hbreak : Json.Squeezes "\n".toList [] := .of_spaces (by simp [Json.Spaces])
    have hprinted := (hpretty.append hbreak).squeezed
    rw [List.append_nil] at hprinted
    rw [CommandLine.stdout_of_json asked passed, String.toList_append]
    exact ⟨rfl, hprinted⟩

/-- Quotes, a backslash and a line break in what the tool says, and a byte that is no text. -/
def quotedFailure : Report where
  directory := Path.here
  conversions := [⟨Utf8.encode "./" ++ [0xFF] ++ Utf8.encode ".dot",
    Utf8.encode "./" ++ [0xFF] ++ Utf8.encode ".svg", .failed none "no \"end\" \\\n"⟩]
  skipped := 1

def askedForReport : CommandLine.Options :=
  ⟨Path.here, ⟨"dot", "svgz"⟩, .trailing, false, false, true, false⟩

theorem Report.pretty_squeezes_of_quotedFailure :
    askedForReport.json = true ∧
    (CommandLine.Response.passed askedForReport ⟨[], .ok quotedFailure⟩).stdout =
      quotedFailure.pretty ++ "\n" ∧
    Json.squeeze
        (CommandLine.Response.passed askedForReport ⟨[], .ok quotedFailure⟩).stdout.toList =
      quotedFailure.compact.toList ∧
    (Json.parse? quotedFailure.pretty).bind Published.Report.ofJson? =
      some ⟨".", [⟨"./\uFFFD.dot", "./\uFFFD.svg", .failed none "no \"end\" \\\n"⟩], 1⟩ := by
  obtain ⟨_, _, _, read, printed⟩ := pretty_squeezes quotedFailure
  obtain ⟨whole, squeezed⟩ := printed askedForReport ⟨[], .ok quotedFailure⟩ rfl rfl
  refine ⟨rfl, whole, squeezed, ?_⟩
  rw [read quotedFailure.pretty (by simp)]
  decide

end GraphBatch
