import GraphBatch.Proofs.JsonGrammar

namespace GraphBatch.Json

def Ends (rest : List Char) : Prop :=
  ∀ c ∈ rest.head?, c.isDigit = false

section Blanks

variable {gap rest : List Char} {c d : Char}

theorem isDigit_of_isBlank (h : isBlank c = true) : c.isDigit = false := by
  simp only [isBlank, Bool.or_eq_true, beq_iff_eq] at h
  rcases h with ((rfl | rfl) | rfl) | rfl <;> rfl

theorem ends_after_blanks (hgap : Blanks gap) (hc : c.isDigit = false) : Ends (gap ++ c :: rest) := by
  intro x hx
  cases gap with
  | nil =>
    obtain rfl := Option.some.inj hx
    exact hc
  | cons b gap =>
    obtain rfl := Option.some.inj hx
    exact isDigit_of_isBlank (hgap _ List.mem_cons_self)

theorem Blanks.ends (hgap : Blanks gap) : Ends gap := by
  intro x hx
  exact isDigit_of_isBlank (hgap x (List.mem_of_mem_head? hx))

theorem skipBlanks_append (hgap : Blanks gap) (rest : List Char) :
    skipBlanks (gap ++ rest) = skipBlanks rest :=
  List.dropWhile_append_of_pos hgap

theorem skipBlanks_all (hgap : Blanks gap) : skipBlanks gap = [] := by
  have h := skipBlanks_append hgap []
  rwa [List.append_nil] at h

theorem skipBlanks_cons (hc : isBlank c = false) (rest : List Char) :
    skipBlanks (c :: rest) = c :: rest := by
  simp [skipBlanks, hc]

theorem expect_found (hgap : Blanks gap) (hc : isBlank c = false) (rest : List Char) :
    expect c (gap ++ c :: rest) = some rest := by
  rw [expect, skipBlanks_append hgap, skipBlanks_cons hc]
  simp

theorem expect_other (hgap : Blanks gap) (hd : isBlank d = false) (hne : d ≠ c)
    (rest : List Char) : expect c (gap ++ d :: rest) = none := by
  rw [expect, skipBlanks_append hgap, skipBlanks_cons hd]
  simp [hne]

end Blanks

section Strings

theorem ofHex?_eq {x a b c d : Char} {p q r s : Nat} (ha : Text.hexValue? a = some p)
    (hb : Text.hexValue? b = some q) (hc : Text.hexValue? c = some r)
    (hd : Text.hexValue? d = some s) (value : x.toNat = ((p * 16 + q) * 16 + r) * 16 + s) :
    ofHex? a b c d = some x := by
  have hvalid : x.toNat.isValidChar := x.valid
  simp only [ofHex?, ha, hb, hc, hd, Option.bind_eq_bind, Option.bind_some, ← value,
    if_pos hvalid, Char.ofNat_toNat]

/-- However a character is spelled, it is read as that character. -/
theorem readText_char {c : Char} {piece : List Char} (h : SpelledChar c piece)
    {text rest rest' : List Char} (hrest : readText rest = some (text, rest')) :
    readText (piece ++ rest) = some (c :: text, rest') := by
  cases h with
  | itself quote backslash printed =>
    have hlow : ¬ c.toNat < 0x20 := by omega
    simp [readText, backslash, hlow, hrest]
  | number ha hb hc hd value =>
    simp [readText, ofHex?_eq ha hb hc hd value, hrest]
  | _ => simp [readText, ofEscape?, named, List.lookup_cons, hrest]

theorem readText_spelled {text body : List Char} (h : SpelledText text body) (rest : List Char) :
    readText (body ++ '"' :: rest) = some (text, rest) := by
  induction h with
  | nil => simp [readText]
  | cons first _ ih =>
    rw [List.append_assoc]
    exact readText_char first ih

theorem readString_spelled {s : String} {cs : List Char} (h : SpelledString s cs)
    (rest : List Char) : readString (cs ++ rest) = some (s, rest) := by
  cases h with
  | quoted body =>
    simp only [List.cons_append, List.append_assoc, List.nil_append, readString,
      readText_spelled body, Option.map_some, String.ofList_toList]

theorem SpelledString.head {s : String} {cs : List Char} (h : SpelledString s cs) :
    ∃ tail, cs = '"' :: tail := by
  cases h with
  | quoted body => exact ⟨_, rfl⟩

end Strings

section Numbers

variable {n : Nat} {cs rest : List Char}

theorem Numeral.value (h : Numeral n cs) :
    cs.foldl (fun n c => n * 10 + (c.toNat - '0'.toNat)) 0 = n := by
  have digit : ∀ d < 10, d.digitChar.toNat - '0'.toNat = d := by decide
  induction h with
  | digit small =>
    rw [List.foldl_cons, List.foldl_nil, digit _ small]
    omega
  | append _ _ small ih =>
    rw [List.foldl_append, ih, List.foldl_cons, List.foldl_nil, digit _ small]

/-- A zero in front is all there is. -/
theorem Numeral.leading_zero (h : Numeral n cs) (zero : cs.head? = some '0') :
    n = 0 ∧ cs.length = 1 := by
  induction h with
  | digit small => simpa using zero
  | append front positive _ ih =>
    obtain ⟨c, tail, rfl⟩ := List.exists_cons_of_ne_nil front.ne_nil
    have hzero := (ih zero).1
    omega

theorem readNat_numeral (h : Numeral n cs) (hends : Ends rest) :
    readNat (cs ++ rest) = some (n, rest) := by
  have htake : rest.takeWhile Char.isDigit = [] := by
    cases rest with
    | nil => rfl
    | cons c rest => exact List.takeWhile_cons_of_neg (by simp [hends c rfl])
  have hdrop : rest.dropWhile Char.isDigit = rest := by
    cases rest with
    | nil => rfl
    | cons c rest => exact List.dropWhile_cons_of_neg (by simp [hends c rfl])
  have hdigits : (cs ++ rest).takeWhile Char.isDigit = cs := by
    rw [List.takeWhile_append_of_pos h.isDigit, htake, List.append_nil]
  have hrest : (cs ++ rest).dropWhile Char.isDigit = rest := by
    rw [List.dropWhile_append_of_pos h.isDigit, hdrop]
  have hgood : ¬ (cs = [] ∨ (cs.head? = some '0' ∧ cs.length ≠ 1)) := by
    rintro (hnil | ⟨zero, hlength⟩)
    · exact h.ne_nil hnil
    · exact hlength (h.leading_zero zero).2
  simp only [readNat, hdigits, hrest, if_neg hgood, h.value]

theorem readNumber_spelled {n : Int} (h : SpelledNumber n cs) (hends : Ends rest) :
    readNumber (cs ++ rest) = some (n, rest) := by
  cases h with
  | negative h =>
    simp only [List.cons_append, readNumber, readNat_numeral h hends, Option.map_some]
  | natural h =>
    have hread := readNat_numeral h hends
    cases cs with
    | nil => exact absurd rfl h.ne_nil
    | cons c cs =>
      have hne : c ≠ '-' := by
        rintro rfl
        exact absurd (h.isDigit _ List.mem_cons_self) (by decide)
      rw [readNumber]
      · rw [hread, Option.map_some]
      · intro tail he
        exact hne (List.cons.inj he).1

theorem not_isBlank_of_number {c : Char} (h : c = '-' ∨ c.isDigit = true) :
    isBlank c = false := by
  rcases h with rfl | h
  · rfl
  · rw [Bool.eq_false_iff]
    intro hblank
    rw [isDigit_of_isBlank hblank] at h
    cases h

/-- A number begins with a digit or a minus, which nothing else does. -/
theorem SpelledNumber.head {n : Int} (h : SpelledNumber n cs) :
    ∃ c tail, cs = c :: tail ∧ (c = '-' ∨ c.isDigit = true) := by
  cases h with
  | negative h => exact ⟨'-', _, rfl, .inl rfl⟩
  | natural h =>
    cases cs with
    | nil => exact absurd rfl h.ne_nil
    | cons c cs => exact ⟨c, cs, rfl, .inr (h.isDigit c List.mem_cons_self)⟩

end Numbers

section Dispatch

variable {gap cs rest : List Char} {fuel : Nat}

theorem readValue_blanks (hgap : Blanks gap) :
    readValue fuel (gap ++ cs) = readValue fuel cs := by
  cases fuel with
  | zero => rw [readValue, readValue]
  | succ fuel => rw [readValue, readValue, skipBlanks_append hgap]

theorem readField_blanks (hgap : Blanks gap) :
    readField fuel (gap ++ cs) = readField fuel cs := by
  cases fuel with
  | zero => rw [readField, readField]
  | succ fuel => rw [readField, readField, skipBlanks_append hgap]

theorem readValue_string {s : String} (h : SpelledString s cs) :
    readValue (fuel + 1) (cs ++ rest) = some (.string s, rest) := by
  have hread := readString_spelled h rest
  cases h with
  | quoted body =>
    rw [List.cons_append] at hread ⊢
    rw [readValue, skipBlanks_cons rfl]
    simp only [hread, Option.map_some]

theorem readValue_number {n : Int} (h : SpelledNumber n cs) (hends : Ends rest) :
    readValue (fuel + 1) (cs ++ rest) = some (.number n, rest) := by
  have hread := readNumber_spelled h hends
  obtain ⟨c, tail, rfl, hc⟩ := h.head
  rw [List.cons_append] at hread ⊢
  rw [readValue, skipBlanks_cons (not_isBlank_of_number hc)]
  -- Every branch but the last wants another first character.
  split
  case h_7 => rw [hread, Option.map_some]
  all_goals
    rename_i heq
    obtain ⟨rfl, -⟩ := List.cons.inj heq
    exact absurd hc (by decide)

theorem readValue_emptyArray {rest' : List Char} (h : expect ']' rest = some rest') :
    readValue (fuel + 1) ('[' :: rest) = some (.array [], rest') := by
  rw [readValue, skipBlanks_cons rfl]
  simp only [h]

theorem readValue_array {item : Json} {items : List Json} {more rest' : List Char}
    (hopen : expect ']' rest = none) (hfirst : readValue fuel rest = some (item, more))
    (hrest : readItems fuel more = some (items, rest')) :
    readValue (fuel + 1) ('[' :: rest) = some (.array (item :: items), rest') := by
  rw [readValue, skipBlanks_cons rfl]
  simp only [hopen, hfirst, hrest, Option.bind_eq_bind, Option.bind_some]

theorem readValue_emptyObject {rest' : List Char} (h : expect '\x7d' rest = some rest') :
    readValue (fuel + 1) ('\x7b' :: rest) = some (.object [], rest') := by
  rw [readValue, skipBlanks_cons rfl]
  simp only [h]

theorem readValue_object {field : String × Json} {fields : List (String × Json)}
    {more rest' : List Char} (hopen : expect '\x7d' rest = none)
    (hfirst : readField fuel rest = some (field, more))
    (hrest : readFields fuel more = some (fields, rest')) :
    readValue (fuel + 1) ('\x7b' :: rest) = some (.object (field :: fields), rest') := by
  rw [readValue, skipBlanks_cons rfl]
  simp only [hopen, hfirst, hrest, Option.bind_eq_bind, Option.bind_some]

end Dispatch

section Parts

variable {cs : List Char}

theorem Spelled.value_head {j : Json} (h : Spelled (.value j) cs) :
    ∃ c tail, cs = c :: tail ∧ isBlank c = false ∧ c ≠ ']' := by
  cases h with
  | number h =>
    obtain ⟨c, tail, rfl, hc⟩ := h.head
    refine ⟨c, tail, rfl, not_isBlank_of_number hc, ?_⟩
    rintro rfl
    exact absurd hc (by decide)
  | string h =>
    obtain ⟨tail, rfl⟩ := h.head
    exact ⟨'"', tail, rfl, by decide, by decide⟩
  | _ => exact ⟨_, _, rfl, by decide, by decide⟩

theorem Spelled.field_head {key : String} {value : Json} (h : Spelled (.field key value) cs) :
    ∃ tail, cs = '"' :: tail := by
  cases h with
  | field hname _ _ _ =>
    obtain ⟨tail, rfl⟩ := hname.head
    exact ⟨_, rfl⟩

theorem Spelled.items_ends {items : List Json} (h : Spelled (.items items) cs)
    (rest : List Char) : Ends (cs ++ ']' :: rest) := by
  cases h with
  | noItems hgap => exact ends_after_blanks hgap (by decide)
  | moreItems hbefore _ _ _ =>
    rw [List.append_assoc]
    exact ends_after_blanks hbefore (by decide)

theorem Spelled.fields_ends {fields : List (String × Json)} (h : Spelled (.fields fields) cs)
    (rest : List Char) : Ends (cs ++ '\x7d' :: rest) := by
  cases h with
  | noFields hgap => exact ends_after_blanks hgap (by decide)
  | moreFields hbefore _ _ _ =>
    rw [List.append_assoc]
    exact ends_after_blanks hbefore (by decide)

/-- Reading a part gives back what it spells and leaves the rest. Two for each character is fuel
enough: one for the bracket or comma that leads deeper, and one for a field on the way. -/
def ReadBack : Part → List Char → Prop
  | .value j, cs => ∀ fuel rest, 2 * cs.length ≤ fuel + 1 → Ends rest →
      readValue (fuel + 1) (cs ++ rest) = some (j, rest)
  | .items items, cs => ∀ fuel rest, 2 * cs.length ≤ fuel →
      readItems (fuel + 1) (cs ++ ']' :: rest) = some (items, rest)
  | .field key value, cs => ∀ fuel rest, 2 * cs.length ≤ fuel + 1 → Ends rest →
      readField (fuel + 1) (cs ++ rest) = some ((key, value), rest)
  | .fields fields, cs => ∀ fuel rest, 2 * cs.length ≤ fuel →
      readFields (fuel + 1) (cs ++ '\x7d' :: rest) = some (fields, rest)

namespace ReadBack

variable {item value : Json} {items : List Json} {key : String} {fields : List (String × Json)}
  {gap before after name more : List Char}

theorem emptyArray (hgap : Blanks gap) : ReadBack (.value (.array [])) ('[' :: (gap ++ [']'])) := by
  intro fuel rest _ _
  rw [List.cons_append, List.append_assoc]
  exact readValue_emptyArray (expect_found hgap rfl rest)

theorem array (hgap : Blanks gap) (first : Spelled (.value item) cs)
    (rest : Spelled (.items items) more) (hfirst : ReadBack (.value item) cs)
    (hrest : ReadBack (.items items) more) :
    ReadBack (.value (.array (item :: items))) ('[' :: (gap ++ (cs ++ (more ++ [']'])))) := by
  intro fuel tail hfuel _
  simp only [List.length_cons, List.length_append] at hfuel
  obtain ⟨fuel, rfl⟩ : ∃ k, fuel = k + 1 := ⟨fuel - 1, by omega⟩
  have hitem := hfirst fuel (more ++ ']' :: tail) (by omega) (rest.items_ends tail)
  have hitems := hrest fuel tail (by omega)
  -- No value begins like the end of an array, so the array is not taken for an empty one.
  obtain ⟨c, cs, rfl, hblank, hne⟩ := first.value_head
  simp only [List.cons_append, List.append_assoc, List.nil_append]
  refine readValue_array (expect_other hgap hblank hne _) ?_ hitems
  rwa [readValue_blanks hgap]

theorem emptyObject (hgap : Blanks gap) :
    ReadBack (.value (.object [])) ('\x7b' :: (gap ++ ['\x7d'])) := by
  intro fuel rest _ _
  rw [List.cons_append, List.append_assoc]
  exact readValue_emptyObject (expect_found hgap rfl rest)

theorem object (hgap : Blanks gap) (first : Spelled (.field key value) cs)
    (rest : Spelled (.fields fields) more) (hfirst : ReadBack (.field key value) cs)
    (hrest : ReadBack (.fields fields) more) :
    ReadBack (.value (.object ((key, value) :: fields)))
      ('\x7b' :: (gap ++ (cs ++ (more ++ ['\x7d'])))) := by
  intro fuel tail hfuel _
  simp only [List.length_cons, List.length_append] at hfuel
  obtain ⟨fuel, rfl⟩ : ∃ k, fuel = k + 1 := ⟨fuel - 1, by omega⟩
  have hfield := hfirst fuel (more ++ '\x7d' :: tail) (by omega) (rest.fields_ends tail)
  have hfields := hrest fuel tail (by omega)
  obtain ⟨cs, rfl⟩ := first.field_head
  simp only [List.cons_append, List.append_assoc, List.nil_append]
  refine readValue_object (expect_other hgap rfl (by decide) _) ?_ hfields
  rwa [readField_blanks hgap]

theorem noItems (hgap : Blanks gap) : ReadBack (.items []) gap := by
  intro fuel rest _
  rw [readItems, expect_found hgap rfl]

theorem moreItems (hbefore : Blanks before) (hafter : Blanks after)
    (rest : Spelled (.items items) more) (hfirst : ReadBack (.value item) cs)
    (hrest : ReadBack (.items items) more) :
    ReadBack (.items (item :: items)) (before ++ ',' :: (after ++ (cs ++ more))) := by
  intro fuel tail hfuel
  simp only [List.length_cons, List.length_append] at hfuel
  obtain ⟨fuel, rfl⟩ : ∃ k, fuel = k + 1 := ⟨fuel - 1, by omega⟩
  have hitem := hfirst fuel (more ++ ']' :: tail) (by omega) (rest.items_ends tail)
  have hitems := hrest fuel tail (by omega)
  have hcomma := expect_found hbefore (c := ',') rfl (after ++ (cs ++ (more ++ ']' :: tail)))
  simp only [List.cons_append, List.append_assoc]
  rw [readItems, expect_other hbefore rfl (by decide)]
  simp only [hcomma, readValue_blanks hafter, hitem, hitems, Option.bind_eq_bind,
    Option.bind_some]

theorem field (hname : SpelledString key name) (hbefore : Blanks before) (hafter : Blanks after)
    (hvalue : ReadBack (.value value) cs) :
    ReadBack (.field key value) (name ++ (before ++ ':' :: (after ++ cs))) := by
  intro fuel tail hfuel hends
  have hkey := readString_spelled hname (before ++ ':' :: (after ++ (cs ++ tail)))
  have hcolon := expect_found hbefore (c := ':') rfl (after ++ (cs ++ tail))
  obtain ⟨rest, rfl⟩ := hname.head
  simp only [List.length_cons, List.length_append] at hfuel
  obtain ⟨fuel, rfl⟩ : ∃ k, fuel = k + 1 := ⟨fuel - 1, by omega⟩
  simp only [List.cons_append, List.append_assoc] at hkey ⊢
  rw [readField, skipBlanks_cons rfl]
  simp only [hkey, hcolon, readValue_blanks hafter, hvalue fuel tail (by omega) hends,
    Option.bind_eq_bind, Option.bind_some]

theorem noFields (hgap : Blanks gap) : ReadBack (.fields []) gap := by
  intro fuel rest _
  rw [readFields, expect_found hgap rfl]

theorem moreFields (hbefore : Blanks before) (hafter : Blanks after)
    (rest : Spelled (.fields fields) more) (hfirst : ReadBack (.field key value) cs)
    (hrest : ReadBack (.fields fields) more) :
    ReadBack (.fields ((key, value) :: fields)) (before ++ ',' :: (after ++ (cs ++ more))) := by
  intro fuel tail hfuel
  simp only [List.length_cons, List.length_append] at hfuel
  obtain ⟨fuel, rfl⟩ : ∃ k, fuel = k + 1 := ⟨fuel - 1, by omega⟩
  have hfield := hfirst fuel (more ++ '\x7d' :: tail) (by omega) (rest.fields_ends tail)
  have hfields := hrest fuel tail (by omega)
  have hcomma := expect_found hbefore (c := ',') rfl (after ++ (cs ++ (more ++ '\x7d' :: tail)))
  simp only [List.cons_append, List.append_assoc]
  rw [readFields, expect_other hbefore rfl (by decide)]
  simp only [hcomma, readField_blanks hafter, hfield, hfields, Option.bind_eq_bind,
    Option.bind_some]

end ReadBack

/-- The reader follows the grammar, rule by rule. -/
theorem Spelled.readBack {part : Part} (h : Spelled part cs) : ReadBack part cs := by
  induction h with
  | null | truth | falsehood =>
    intro fuel rest _ _
    rw [readValue]
    rfl
  | number h => exact fun fuel rest _ hends => readValue_number h hends
  | string h => exact fun fuel rest _ _ => readValue_string h
  | emptyArray hgap => exact .emptyArray hgap
  | array hgap first rest hfirst hrest => exact .array hgap first rest hfirst hrest
  | emptyObject hgap => exact .emptyObject hgap
  | object hgap first rest hfirst hrest => exact .object hgap first rest hfirst hrest
  | noItems hgap => exact .noItems hgap
  | moreItems hbefore hafter _ rest hfirst hrest =>
    exact .moreItems hbefore hafter rest hfirst hrest
  | field hname hbefore hafter _ hvalue => exact .field hname hbefore hafter hvalue
  | noFields hgap => exact .noFields hgap
  | moreFields hbefore hafter _ rest hfirst hrest =>
    exact .moreFields hbefore hafter rest hfirst hrest

/-- Every JSON text is read as the value it spells. -/
theorem parse?_of_isText {j : Json} {text : String} (h : IsText j text) : parse? text = some j := by
  obtain ⟨before, cs, after, hbefore, hafter, hspelled, htext⟩ := h
  have hlength : text.length = before.length + (cs.length + after.length) := by
    rw [← String.length_toList, htext, List.length_append, List.length_append]
  have hread := hspelled.readBack (2 * text.length) after (by omega) hafter.ends
  simp only [parse?, htext, readValue_blanks hbefore, hread, Option.bind_eq_bind, Option.bind_some,
    skipBlanks_all hafter, if_true]

/-- A text spells one value at most. -/
theorem IsText.unique {j k : Json} {text : String} (hj : IsText j text) (hk : IsText k text) :
    j = k :=
  Option.some.inj ((parse?_of_isText hj).symm.trans (parse?_of_isText hk))

end Parts

end GraphBatch.Json
