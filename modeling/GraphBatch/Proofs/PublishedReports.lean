import GraphBatch.Proofs.JsonReading
import GraphBatch.Report.Published

namespace GraphBatch

theorem Outcome.exitCodeOfJson?_exitCodeJson (code : Option Int) :
    exitCodeOfJson? (exitCodeJson code) = some code := by
  cases code <;> rfl

theorem Outcome.ofJson?_toJson (o : Outcome) : ofJson? o.toJson = some o := by
  cases o with
  | succeeded => simp [ofJson?, toJson, Json.field?, Json.string?]
  | failed code stderr =>
    simp [ofJson?, toJson, Json.field?, Json.string?, List.lookup_cons,
      exitCodeOfJson?_exitCodeJson]
  | spawnFailed message =>
    simp [ofJson?, toJson, Json.field?, Json.string?, List.lookup_cons]

namespace Published

theorem Conversion.ofJson?_toJson (c : Conversion) : ofJson? c.toJson = some c := by
  simp [ofJson?, toJson, Json.field?, Json.string?, List.lookup_cons, Outcome.ofJson?_toJson]

theorem conversionsOfJson?_map (cs : List Conversion) :
    conversionsOfJson? (cs.map Conversion.toJson) = some cs := by
  induction cs with
  | nil => rfl
  | cons c rest ih =>
    simp only [List.map_cons, conversionsOfJson?, Conversion.ofJson?_toJson, ih,
      Option.bind_eq_bind, Option.bind_some]

theorem Report.ofJson?_toJson (r : Report) : ofJson? r.toJson = some r := by
  have hskipped : Json.nat? (.number r.skipped) = some r.skipped := rfl
  simp [ofJson?, toJson, Json.field?, Json.string?, Json.items?, List.lookup_cons,
    conversionsOfJson?_map, hskipped]

theorem Report.toJson_inj {r r' : Report} (h : r.toJson = r'.toJson) : r = r' := by
  have hread := congrArg ofJson? h
  rw [ofJson?_toJson, ofJson?_toJson] at hread
  exact Option.some.inj hread

end Published

namespace Report

theorem isText_compact (r : Report) : Json.IsText r.publish.toJson r.compact :=
  Json.isText_render Json.Layout.compact_spaced r.publish.toJson

theorem isText_pretty (r : Report) : Json.IsText r.publish.toJson r.pretty :=
  Json.isText_render Json.Layout.indented_spaced r.publish.toJson

/-- However it is spelled, a report is read as what is shown of it. -/
theorem read_of_isText {r : Report} {text : String} (h : Json.IsText r.publish.toJson text) :
    (Json.parse? text).bind Published.Report.ofJson? =
      some { directory := Utf8.lossy r.directory
             conversions := r.conversions.map fun c =>
               { input := Utf8.lossy c.input
                 output := Utf8.lossy c.output
                 outcome := c.outcome }
             skipped := r.skipped } := by
  rw [Json.parse?_of_isText h, Option.bind_some, Published.Report.ofJson?_toJson]
  rfl

/-- The compact text of a report is JSON, and spells nothing but what is published: the directory,
the conversions in order and the count, with paths as they are shown. So reports with one compact
text are shown alike. -/
theorem compact_tells_published (r : Report) :
    (∀ j, Json.IsText j r.compact ↔ j = r.publish.toJson) ∧
    (Json.parse? r.compact).bind Published.Report.ofJson? =
      some { directory := Utf8.lossy r.directory
             conversions := r.conversions.map fun c =>
               { input := Utf8.lossy c.input
                 output := Utf8.lossy c.output
                 outcome := c.outcome }
             skipped := r.skipped } ∧
    ∀ r' : Report, r'.compact = r.compact ↔ r'.publish = r.publish := by
  refine ⟨?_, read_of_isText r.isText_compact, ?_⟩
  · intro j
    constructor
    · intro hj
      exact hj.unique r.isText_compact
    · rintro rfl
      exact r.isText_compact
  · intro r'
    constructor
    · intro h
      have htext := r'.isText_compact
      rw [h] at htext
      exact Published.Report.toJson_inj (htext.unique r.isText_compact)
    · intro h
      rw [compact, compact, h]

end Report

end GraphBatch
