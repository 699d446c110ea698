import GraphBatch.Proofs.Boundaries
import GraphBatch.Proofs.Calls
import GraphBatch.Proofs.Paths
import GraphBatch.Report.Published

namespace GraphBatch

open Utf8

theorem Utf8.decode?_encodeAll (cs : List Char) :
    decode? (encodeAll cs) = some (String.ofList cs) := by
  have h := decode?_encode (String.ofList cs)
  rwa [encode, String.toList_ofList] at h

theorem outputName_nil {α : Type} [DecidableEq α] (policy : Policy) (replacement name : List α) :
    outputName policy [] replacement name = none := by
  simp [outputName, isCandidate]

/-- The bytes of a text are renamed to the bytes of the text renamed by characters. -/
theorem outputName_encode (policy : Policy) (suffix replacement name : String) :
    outputName policy (encode suffix) (encode replacement) (encode name) =
      (outputName policy suffix.toList replacement.toList name.toList).map encodeAll := by
  cases hs : suffix.toList with
  | nil => simp [encode, hs, outputName_nil]
  | cons c cs =>
    have hc : Carries encodeAll suffix.toList := encodeAll_carries (by simp [hs])
    rw [← hs]
    exact hc.outputName (fun before after => by simp [encodeAll_append]) policy name.toList

namespace Text

/-- Decoding the renamed bytes never fails. -/
theorem outputName_eq (policy : Policy) (suffix replacement name : String) :
    outputName policy suffix replacement name =
      (GraphBatch.outputName policy suffix.toList replacement.toList name.toList).map
        String.ofList := by
  rw [outputName, outputName_encode]
  cases GraphBatch.outputName policy suffix.toList replacement.toList name.toList with
  | none => rfl
  | some out => exact decode?_encodeAll out

theorem isCandidate_eq (suffix name : String) :
    isCandidate suffix name = GraphBatch.isCandidate suffix.toList name.toList := by
  cases hs : suffix.toList with
  | nil => simp [isCandidate, encode, hs, GraphBatch.isCandidate]
  | cons c cs =>
    have hc : Carries encodeAll suffix.toList := encodeAll_carries (by simp [hs])
    rw [← hs]
    exact hc.isCandidate name.toList

/-- Text is renamed by its characters: exactly the candidates have an output name, it is the one
the policy's rule gives for the characters, and its bytes are what the bytes are renamed to. -/
theorem outputName_by_characters (policy : Policy) (suffix replacement name : String) :
    (isCandidate suffix name = true ↔ suffix ≠ "" ∧ suffix.toList <:+ name.toList) ∧
    (outputName policy suffix replacement name = none ↔ isCandidate suffix name = false) ∧
    (∀ out, outputName policy suffix replacement name = some out ↔
      isCandidate suffix name = true ∧
        Renamed suffix.toList replacement.toList policy name.toList out.toList) ∧
    GraphBatch.outputName policy (encode suffix) (encode replacement) (encode name) =
      (outputName policy suffix replacement name).map encode := by
  rw [isCandidate_eq, outputName_eq]
  refine ⟨?_, ?_, ?_, ?_⟩
  · rw [isCandidate_iff, ne_eq, ne_eq, String.toList_eq_nil_iff]
  · rw [Option.map_eq_none_iff, outputName_eq_none_iff]
  · intro out
    rw [← outputName_eq_some_iff, Option.map_eq_some_iff]
    constructor
    · rintro ⟨cs, hcs, rfl⟩
      rwa [String.toList_ofList]
    · intro h
      exact ⟨out.toList, h, String.ofList_toList⟩
  · rw [outputName_encode, Option.map_map]
    congr 1
    funext cs
    rw [Function.comp_apply, encode, String.toList_ofList, encodeAll]

end Text

/-- A renamed name is shown as what it is shown as, renamed. -/
theorem lossy_outputName (policy : Policy) {suffix replacement : String} (name : Bytes)
    (clean : Utf8.replacement ∉ suffix.toList) (nonempty : replacement ≠ "") :
    (outputName policy (encode suffix) (encode replacement) name).map lossy =
      Text.outputName policy suffix replacement (lossy name) := by
  rw [Text.outputName_eq, toList_lossy]
  cases hs : suffix.toList with
  | nil => simp [encode, hs, outputName_nil]
  | cons c cs =>
    have hc : Carries shownText (encodeAll suffix.toList) :=
      shownText_carries (by simp [hs]) clean
    have hr : Splices shownText (encodeAll replacement.toList) :=
      shownText_splices (by rwa [ne_eq, String.toList_eq_nil_iff])
    have h := hc.outputName hr policy name
    rw [shownText_encodeAll, shownText_encodeAll] at h
    rw [← hs, h, Option.map_map]
    rfl

/-- A directory and a name are shown one after the other, with nothing lost between them. -/
theorem lossy_join (directory name : Bytes) :
    lossy (Path.join directory name) = lossy (Path.base directory name) ++ lossy name := by
  rw [Path.join_eq_base, ← String.toList_inj, String.toList_append, toList_lossy, toList_lossy,
    toList_lossy]
  rcases Path.base_closed directory name with h | ⟨front, h⟩
  · rw [h, shownText_eq_nil.mpr rfl, List.nil_append, List.nil_append]
  · have slash : encodeAll ['/'] = [Path.slash] := rfl
    have hs : Splices shownText [Path.slash] := slash ▸ shownText_splices (by simp)
    have hf := hs front []
    rw [List.append_nil, shownText_eq_nil.mpr rfl, List.append_nil] at hf
    rw [h, hs, hf]

/-- The suffixes of the command line begin alike, so a name and its output name stand alone or
follow the directory together. -/
theorem base_outputName {policy : Policy} {name out : Bytes} (directory : Bytes)
    (h : outputName policy (encode ".dot") (encode ".svg") name = some out) :
    Path.base directory out = Path.base directory name :=
  Path.base_congr directory ((outputName_eq_some_iff.mp h).2.head? (by decide))

theorem publish_renamed {config : Config} (dot : config.inputSuffix = ".dot")
    (svg : config.outputSuffix = ".svg") {name out : Bytes} (h : config.outputName name = some out)
    (outcome : Outcome) :
    Text.outputName config.policy ".dot" ".svg" (lossy name) = some (lossy out) ∧
    (Conversion.mk (Path.join config.directory name) (Path.join config.directory out)
        outcome).publish =
      ⟨lossy (Path.base config.directory name) ++ lossy name,
        lossy (Path.base config.directory name) ++ lossy out, outcome⟩ := by
  rw [Config.outputName, dot, svg] at h
  constructor
  · rw [← lossy_outputName config.policy name (by decide) (by decide), h]
    rfl
  · rw [Conversion.publish, lossy_join, lossy_join, base_outputName config.directory h]

theorem Published.Report.field_conversions (r : Published.Report) :
    r.toJson.field? "conversions" =
      some (.array (r.conversions.map Published.Conversion.toJson)) := by
  simp [Published.Report.toJson, Json.field?, List.lookup_cons]

theorem Published.Conversion.field_paths (c : Published.Conversion) :
    c.toJson.field? "input" = some (.string c.input) ∧
      c.toJson.field? "output" = some (.string c.output) := by
  simp [Published.Conversion.toJson, Json.field?, List.lookup_cons]

/-- Lossy text follows renaming, for every name and every suffix that could not be taken for
broken bytes. So a published report has an item for each candidate that is not left out, in their
order, and the output it tells is its input with the name renamed as text. -/
theorem lossy_follows_renaming :
    (∀ (policy : Policy) (suffix replacement : String) (name : Bytes),
      Utf8.replacement ∉ suffix.toList → replacement ≠ "" →
        (outputName policy (encode suffix) (encode replacement) name).map lossy =
          Text.outputName policy suffix replacement (lossy name)) ∧
    ∀ {σ : Type} (config : Config) (run : Runner σ) (s : σ) (listing : Listing)
      (entries : List Entry), config.inputSuffix = ".dot" → config.outputSuffix = ".svg" →
      listing.entries = .ok entries →
        ∃ report s' items, Batch.run config run s listing = (.ok report, s') ∧
          report.publish.toJson.field? "conversions" = some (.array items) ∧
          List.Forall₂
            (fun item entry => ∃ out,
              Text.outputName config.policy ".dot" ".svg" (lossy entry.name) = some out ∧
              item.field? "input" = some (.string
                (lossy (Path.base config.directory entry.name) ++ lossy entry.name)) ∧
              item.field? "output" = some (.string
                (lossy (Path.base config.directory entry.name) ++ out)))
            items (entries.filter fun entry =>
              !config.leavesOut entry && isCandidate (encode ".dot") entry.name) := by
  refine ⟨fun policy suffix replacement name => lossy_outputName policy name, ?_⟩
  intro σ config run s listing entries dot svg read
  refine ⟨_, _, _, Batch.run_of_entries read config run s,
    Published.Report.field_conversions _, ?_⟩
  have paths := Batch.conversions_of_entries config run s entries
  simp only [Config.isSome_kept?, dot] at paths
  rw [Report.publish, List.forall₂_map_left_iff, List.forall₂_map_left_iff]
  refine paths.imp ?_
  rintro ⟨input, output, outcome⟩ entry ⟨out, ho, rfl, rfl⟩
  obtain ⟨hn, hp⟩ := publish_renamed dot svg ho outcome
  rw [hp]
  exact ⟨lossy out, hn, Published.Conversion.field_paths _⟩

/-- A sequence that breaks off before the first match, and a stray byte before the second. -/
def brokenName : Bytes :=
  [0xE2, 0x82] ++ encode ".dot" ++ [0x80] ++ encode ".dot"

/-- Of these only the second is told of. -/
def besideNotes : List Entry :=
  [⟨encode "notes.txt", .other⟩, ⟨brokenName, .other⟩]

theorem lossy_follows_renaming_of_brokenName :
    (Utf8.replacement ∉ ".dot".toList ∧ ".svg" ≠ "" ∧
      Text.outputName .first ".dot" ".svg" (lossy brokenName) = some "\uFFFD.svg\uFFFD.dot") ∧
    Listing.entries (.ok (besideNotes.map .ok)) = .ok besideNotes ∧
    ∃ report s' item,
      Batch.run { policy := .first } (fun (s : Unit) _ => (.ok ⟨none, "", ""⟩, s)) ()
        (.ok (besideNotes.map .ok)) = (.ok report, s') ∧
      report.publish.toJson.field? "conversions" = some (.array [item]) ∧
      item.field? "input" = some (.string "./\uFFFD.dot\uFFFD.dot") ∧
      item.field? "output" = some (.string "./\uFFFD.svg\uFFFD.dot") := by
  have text : Text.outputName .first ".dot" ".svg" (lossy brokenName) =
      some "\uFFFD.svg\uFFFD.dot" := by
    rw [← lossy_follows_renaming.1 .first ".dot" ".svg" brokenName (by decide) (by decide)]
    decide
  have read : Listing.entries (.ok (besideNotes.map .ok)) = .ok besideNotes :=
    Listing.collect_ok besideNotes
  refine ⟨⟨by decide, by decide, text⟩, read, ?_⟩
  obtain ⟨report, s', items, run, listed, shown⟩ := lossy_follows_renaming.2 { policy := .first }
    (fun (s : Unit) _ => (.ok ⟨none, "", ""⟩, s)) () (.ok (besideNotes.map .ok)) _ rfl rfl read
  have kept : (besideNotes.filter fun entry =>
      !Config.leavesOut { policy := .first } entry && isCandidate (encode ".dot") entry.name) =
        [⟨brokenName, .other⟩] := by
    decide
  rw [kept] at shown
  obtain ⟨item, rest, ⟨out, hout, input, output⟩, others, rfl⟩ :=
    List.forall₂_cons_right_iff.mp shown
  obtain rfl := List.forall₂_nil_right_iff.mp others
  obtain rfl := Option.some.inj (text.symm.trans hout)
  refine ⟨report, s', item, run, listed, input.trans ?_, output.trans ?_⟩
  · exact congrArg (fun text => some (Json.string text)) (by decide)
  · exact congrArg (fun text => some (Json.string text)) (by decide)

-- With nothing put between them, what stood around the suffix can join to a character.
example :
    (outputName .first (encode ".dot") (encode "")
      ([0xE2] ++ encode ".dot" ++ [0x82, 0xAC] ++ encode ".dot")).map lossy = some "€.dot" ∧
    Text.outputName .first ".dot" ""
      (lossy ([0xE2] ++ encode ".dot" ++ [0x82, 0xAC] ++ encode ".dot")) =
        some "\uFFFD\uFFFD\uFFFD.dot" := by
  decide

end GraphBatch
