import GraphBatch.Json.Reader

namespace GraphBatch.Json

def Blanks (cs : List Char) : Prop :=
  ∀ c ∈ cs, isBlank c = true

/-- A character inside a string. Anything but a quote, a backslash and the characters below U+0020
may stand for itself, and every character of the first plane may be written by its number. -/
inductive SpelledChar : Char → List Char → Prop
  | itself {c : Char} (quote : c ≠ '"') (backslash : c ≠ '\\') (printed : 0x20 ≤ c.toNat) :
      SpelledChar c [c]
  | quote : SpelledChar '"' ['\\', '"']
  | backslash : SpelledChar '\\' ['\\', '\\']
  | slash : SpelledChar '/' ['\\', '/']
  | backspace : SpelledChar '\x08' ['\\', 'b']
  | formFeed : SpelledChar '\x0c' ['\\', 'f']
  | lineFeed : SpelledChar '\n' ['\\', 'n']
  | carriageReturn : SpelledChar '\r' ['\\', 'r']
  | tab : SpelledChar '\t' ['\\', 't']
  | number {x a b c d : Char} {p q r s : Nat} (ha : Text.hexValue? a = some p)
      (hb : Text.hexValue? b = some q) (hc : Text.hexValue? c = some r)
      (hd : Text.hexValue? d = some s) (value : x.toNat = ((p * 16 + q) * 16 + r) * 16 + s) :
      SpelledChar x ['\\', 'u', a, b, c, d]

inductive SpelledText : List Char → List Char → Prop
  | nil : SpelledText [] []
  | cons {c : Char} {text piece rest : List Char} (first : SpelledChar c piece)
      (more : SpelledText text rest) : SpelledText (c :: text) (piece ++ rest)

inductive SpelledString : String → List Char → Prop
  | quoted {s : String} {body : List Char} (h : SpelledText s.toList body) :
      SpelledString s ('"' :: (body ++ ['"']))

/-- Only the numeral of zero begins with a zero. -/
inductive Numeral : Nat → List Char → Prop
  | digit {d : Nat} (small : d < 10) : Numeral d [d.digitChar]
  | append {n d : Nat} {cs : List Char} (front : Numeral n cs) (positive : 0 < n)
      (small : d < 10) : Numeral (n * 10 + d) (cs ++ [d.digitChar])

inductive SpelledNumber : Int → List Char → Prop
  | natural {n : Nat} {cs : List Char} (h : Numeral n cs) : SpelledNumber n cs
  | negative {n : Nat} {cs : List Char} (h : Numeral n cs) : SpelledNumber (-n) ('-' :: cs)

/-- What a stretch of text can spell. Items and fields are those after the first, up to the
closing bracket. -/
inductive Part
  | value (j : Json)
  | items (rest : List Json)
  | field (key : String) (value : Json)
  | fields (rest : List (String × Json))

inductive Spelled : Part → List Char → Prop
  | null : Spelled (.value .null) ['n', 'u', 'l', 'l']
  | truth : Spelled (.value (.bool true)) ['t', 'r', 'u', 'e']
  | falsehood : Spelled (.value (.bool false)) ['f', 'a', 'l', 's', 'e']
  | number {n : Int} {cs : List Char} (h : SpelledNumber n cs) : Spelled (.value (.number n)) cs
  | string {s : String} {cs : List Char} (h : SpelledString s cs) :
      Spelled (.value (.string s)) cs
  | emptyArray {gap : List Char} (hgap : Blanks gap) :
      Spelled (.value (.array [])) ('[' :: (gap ++ [']']))
  | array {item : Json} {items : List Json} {gap cs more : List Char} (hgap : Blanks gap)
      (first : Spelled (.value item) cs) (rest : Spelled (.items items) more) :
      Spelled (.value (.array (item :: items))) ('[' :: (gap ++ (cs ++ (more ++ [']']))))
  | emptyObject {gap : List Char} (hgap : Blanks gap) :
      Spelled (.value (.object [])) ('\x7b' :: (gap ++ ['\x7d']))
  | object {key : String} {value : Json} {fields : List (String × Json)}
      {gap cs more : List Char} (hgap : Blanks gap) (first : Spelled (.field key value) cs)
      (rest : Spelled (.fields fields) more) :
      Spelled (.value (.object ((key, value) :: fields)))
        ('\x7b' :: (gap ++ (cs ++ (more ++ ['\x7d']))))
  | noItems {gap : List Char} (hgap : Blanks gap) : Spelled (.items []) gap
  | moreItems {item : Json} {items : List Json} {before after cs more : List Char}
      (hbefore : Blanks before) (hafter : Blanks after) (first : Spelled (.value item) cs)
      (rest : Spelled (.items items) more) :
      Spelled (.items (item :: items)) (before ++ ',' :: (after ++ (cs ++ more)))
  | field {key : String} {value : Json} {name before after cs : List Char}
      (hname : SpelledString key name) (hbefore : Blanks before) (hafter : Blanks after)
      (hvalue : Spelled (.value value) cs) :
      Spelled (.field key value) (name ++ (before ++ ':' :: (after ++ cs)))
  | noFields {gap : List Char} (hgap : Blanks gap) : Spelled (.fields []) gap
  | moreFields {key : String} {value : Json} {fields : List (String × Json)}
      {before after cs more : List Char} (hbefore : Blanks before) (hafter : Blanks after)
      (first : Spelled (.field key value) cs) (rest : Spelled (.fields fields) more) :
      Spelled (.fields ((key, value) :: fields)) (before ++ ',' :: (after ++ (cs ++ more)))

/-- A JSON text holds one value, with blanks around it. -/
def IsText (j : Json) (text : String) : Prop :=
  ∃ before cs after, Blanks before ∧ Blanks after ∧ Spelled (.value j) cs ∧
    text.toList = before ++ (cs ++ after)

theorem blanks_nil : Blanks [] := by
  intro c hc
  cases hc

section Strings

theorem hexValue?_hexDigit (n : Nat) : Text.hexValue? (hexDigit n) = some (n % 16) := by
  have all : ∀ d < 16, Text.hexValue? d.digitChar = some d := by decide
  exact all (n % 16) (Nat.mod_lt n (by decide))

theorem escape_spelled (c : Char) : SpelledChar c (escape c) := by
  unfold escape
  split
  · rename_i letter x hfound
    have hx : x = c := by simpa using List.find?_some hfound
    have hmem := List.mem_of_find?_eq_some hfound
    subst hx
    simp only [named, List.mem_cons, Prod.mk.injEq, List.not_mem_nil, or_false] at hmem
    obtain ⟨rfl, rfl⟩ | ⟨rfl, rfl⟩ | ⟨rfl, rfl⟩ | ⟨rfl, rfl⟩ | ⟨rfl, rfl⟩ | ⟨rfl, rfl⟩ |
      ⟨rfl, rfl⟩ := hmem
    · exact .quote
    · exact .backslash
    · exact .backspace
    · exact .formFeed
    · exact .lineFeed
    · exact .carriageReturn
    · exact .tab
  · rename_i hnone
    have hother := List.find?_eq_none.mp hnone
    split
    · have zero : Text.hexValue? '0' = some 0 := by decide
      exact .number zero zero (hexValue?_hexDigit _) (hexValue?_hexDigit _) (by omega)
    · have hquote := hother ('"', '"') (by simp [named])
      have hbackslash := hother ('\\', '\\') (by simp [named])
      simp only [beq_iff_eq] at hquote hbackslash
      exact .itself (Ne.symm hquote) (Ne.symm hbackslash) (by omega)

theorem flatMap_escape_spelled (text : List Char) : SpelledText text (text.flatMap escape) := by
  induction text with
  | nil => exact .nil
  | cons c rest ih =>
    rw [List.flatMap_cons]
    exact .cons (escape_spelled c) ih

theorem quote_spelled (s : String) : SpelledString s (quote s) := by
  have h := SpelledString.quoted (flatMap_escape_spelled s.toList)
  simpa only [quote, List.cons_append] using h

end Strings

section Numbers

theorem Numeral.ne_nil {n : Nat} {cs : List Char} (h : Numeral n cs) : cs ≠ [] := by
  cases h <;> simp

theorem Numeral.isDigit {n : Nat} {cs : List Char} (h : Numeral n cs) :
    ∀ c ∈ cs, c.isDigit = true := by
  have digit : ∀ d < 10, d.digitChar.isDigit = true := by decide
  induction h with
  | digit small =>
    intro c hc
    obtain rfl := List.mem_singleton.mp hc
    exact digit _ small
  | append _ _ small ih =>
    intro c hc
    rcases List.mem_append.mp hc with hc | hc
    · exact ih c hc
    · obtain rfl := List.mem_singleton.mp hc
      exact digit _ small

theorem toDigits_numeral (n : Nat) : Numeral n (Nat.toDigits 10 n) := by
  induction n using Nat.strongRecOn with
  | ind n ih =>
    by_cases small : n < 10
    · rw [Nat.toDigits_of_lt_base small]
      exact .digit small
    · have hfront := ih (n / 10) (by omega)
      have h := Numeral.append hfront (by omega) (Nat.mod_lt n (by decide : 0 < 10))
      rw [Nat.toDigits_of_base_le (by decide) (by omega)]
      rwa [show n / 10 * 10 + n % 10 = n by omega] at h

theorem decimal_spelled (n : Int) : SpelledNumber n (decimal n) := by
  cases n with
  | ofNat n => exact .natural (toDigits_numeral n)
  | negSucc n => exact .negative (toDigits_numeral (n + 1))

end Numbers

section Layouts

def Spaces (cs : List Char) : Prop :=
  ∀ c ∈ cs, c = ' ' ∨ c = '\n'

/-- A layout that adds nothing but spaces and line breaks. -/
structure Layout.Spaced (l : Layout) : Prop where
  line : ∀ depth, Spaces (l.line depth)
  colon : ∃ gap, l.colon = ':' :: gap ∧ Spaces gap

theorem Spaces.blanks {cs : List Char} (h : Spaces cs) : Blanks cs := by
  intro c hc
  rcases h c hc with rfl | rfl <;> rfl

theorem Layout.compact_spaced : Layout.compact.Spaced := by
  refine ⟨fun _ c hc => ?_, [], rfl, fun c hc => ?_⟩ <;> cases hc

theorem Layout.indented_spaced : Layout.indented.Spaced := by
  refine ⟨fun depth c hc => ?_, [' '], rfl, fun c hc => ?_⟩
  · rcases List.mem_cons.mp hc with rfl | hc
    · exact .inr rfl
    · exact .inl (List.eq_of_mem_replicate hc)
  · exact .inl (List.mem_singleton.mp hc)

variable {l : Layout}

theorem field_spelled (spaced : l.Spaced) (key : String) {value : Json} {cs : List Char}
    (h : Spelled (.value value) cs) :
    Spelled (.field key value) (quote key ++ (l.colon ++ cs)) := by
  obtain ⟨gap, hcolon, hgap⟩ := spaced.colon
  rw [hcolon]
  exact .field (quote_spelled key) blanks_nil hgap.blanks h

mutual

theorem render_spelled (spaced : l.Spaced) (depth : Nat) :
    ∀ j : Json, Spelled (.value j) (render l depth j)
  | .null => by
    rw [render]
    exact .null
  | .bool true => by
    rw [render]
    exact .truth
  | .bool false => by
    rw [render]
    exact .falsehood
  | .number n => by
    rw [render]
    exact .number (decimal_spelled n)
  | .string s => by
    rw [render]
    exact .string (quote_spelled s)
  | .array [] => by
    rw [render]
    exact .emptyArray blanks_nil
  | .array (item :: rest) => by
    have hfirst := render_spelled spaced (depth + 1) item
    have hrest := renderItems_spelled spaced (depth + 1) rest (spaced.line depth).blanks
    have h := Spelled.array (spaced.line (depth + 1)).blanks hfirst hrest
    simpa only [render, List.cons_append, List.append_assoc] using h
  | .object [] => by
    rw [render]
    exact .emptyObject blanks_nil
  | .object ((key, value) :: rest) => by
    have hfirst := field_spelled spaced key (render_spelled spaced (depth + 1) value)
    have hrest := renderFields_spelled spaced (depth + 1) rest (spaced.line depth).blanks
    have h := Spelled.object (spaced.line (depth + 1)).blanks hfirst hrest
    simpa only [render, List.cons_append, List.append_assoc] using h

theorem renderItems_spelled (spaced : l.Spaced) (depth : Nat) {gap : List Char} :
    ∀ items : List Json, Blanks gap → Spelled (.items items) (renderItems l depth items ++ gap)
  | [], hgap => by
    rw [renderItems]
    exact .noItems hgap
  | item :: rest, hgap => by
    have hfirst := render_spelled spaced depth item
    have hrest := renderItems_spelled spaced depth rest hgap
    have h := Spelled.moreItems blanks_nil (spaced.line depth).blanks hfirst hrest
    simpa only [renderItems, List.nil_append, List.cons_append, List.append_assoc] using h

theorem renderFields_spelled (spaced : l.Spaced) (depth : Nat) {gap : List Char} :
    ∀ fields : List (String × Json), Blanks gap →
      Spelled (.fields fields) (renderFields l depth fields ++ gap)
  | [], hgap => by
    rw [renderFields]
    exact .noFields hgap
  | (key, value) :: rest, hgap => by
    have hfirst := field_spelled spaced key (render_spelled spaced depth value)
    have hrest := renderFields_spelled spaced depth rest hgap
    have h := Spelled.moreFields blanks_nil (spaced.line depth).blanks hfirst hrest
    simpa only [renderFields, List.nil_append, List.cons_append, List.append_assoc] using h

end

theorem isText_render (spaced : l.Spaced) (j : Json) :
    IsText j (String.ofList (render l 0 j)) := by
  refine ⟨[], render l 0 j, [], blanks_nil, blanks_nil, render_spelled spaced 0 j, ?_⟩
  rw [String.toList_ofList, List.append_nil, List.nil_append]

end Layouts

end GraphBatch.Json
