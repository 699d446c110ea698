import GraphBatch.Proofs.Collisions
import GraphBatch.Proofs.LegalNames
import GraphBatch.Proofs.Occurrences

namespace GraphBatch

section Spliced

variable {α : Type} {suffix replacement name out front after : List α}

/-- What is put in behind a text that does not hold it is found there and not earlier. -/
theorem Unbordered.leftmost (u : Unbordered replacement)
    (free : ∀ i, ¬ OccursAt replacement front i) (after : List α) :
    Leftmost replacement front after := by
  intro i hi
  apply Nat.le_of_not_lt
  intro early
  exact free i (u.clear_tail.occursAt_front early hi)

/-- What does not occur in a name occurs neither before nor behind its suffix. -/
theorem not_occurs_parts (free : ∀ i, ¬ OccursAt replacement (front ++ suffix ++ after) i) :
    (∀ i, ¬ OccursAt replacement front i) ∧ ∀ i, ¬ OccursAt replacement after i := by
  constructor
  · intro i hi
    exact free i ((hi.append suffix).append after)
  · intro i hi
    exact free _ (occursAt_append_iff.mpr hi)

theorem Leftmost.unique {front' after' : List α} (h : Leftmost suffix front after)
    (h' : Leftmost suffix front' after')
    (same : front ++ suffix ++ after = front' ++ suffix ++ after') :
    front = front' ∧ after = after' := by
  have le : front.length ≤ front'.length :=
    h _ (occursAt_iff.mpr ⟨front', after', same, rfl⟩)
  have ge : front'.length ≤ front.length :=
    h' _ (occursAt_iff.mpr ⟨front, after, same.symm, rfl⟩)
  rw [List.append_assoc, List.append_assoc] at same
  obtain ⟨hfront, hrest⟩ := List.append_inj same (by omega)
  exact ⟨hfront, List.append_cancel_left hrest⟩

/-- Replacing all occurrences is undone by replacing them back. -/
theorem ReplacedAll.undone (h : ReplacedAll suffix replacement name out)
    (u : Unbordered replacement) (free : ∀ i, ¬ OccursAt replacement name i) :
    ReplacedAll replacement suffix out name := by
  induction h with
  | rest _ => exact .rest free
  | cut _ _ ih =>
    obtain ⟨hfront, hafter⟩ := not_occurs_parts free
    exact .cut (u.leftmost hfront _) (ih hafter)

variable [DecidableEq α]

/-- No two names that do not hold the replacement have one output name. -/
theorem Renamed.name_unique {policy : Policy} {name' : List α}
    (h : Renamed suffix replacement policy name out)
    (h' : Renamed suffix replacement policy name' out) (u : Unbordered replacement)
    (free : ∀ i, ¬ OccursAt replacement name i) (free' : ∀ i, ¬ OccursAt replacement name' i) :
    name = name' := by
  cases h with
  | trailing before =>
    generalize same : before ++ replacement = out at h'
    cases h' with
    | trailing before' => rw [List.append_cancel_right same]
  | @first before after leftmost =>
    generalize same : before ++ replacement ++ after = out at h'
    cases h' with
    | @first before' after' leftmost' =>
      have found := u.leftmost (not_occurs_parts free).1 after
      have found' := u.leftmost (not_occurs_parts free').1 after'
      obtain ⟨rfl, rfl⟩ := found.unique found' same
      rfl
  | all replaced =>
    cases h' with
    | all replaced' =>
      have nonempty : replacement ≠ [] := by
        rintro rfl
        exact free 0 (occursAt_zero.mpr List.nil_prefix)
      rw [← (replaced.undone u free).eq nonempty, ← (replaced'.undone u free').eq nonempty]

end Spliced

namespace Batch

variable {config : Config} {entries : List Entry}

theorem kept_outputs_nodup_of_free (dot : config.inputSuffix = ".dot")
    (svg : config.outputSuffix = ".svg") (distinct : (entries.map Entry.name).Nodup)
    (plain : ∀ entry ∈ entries, Path.slash ∉ entry.name)
    (free : ∀ entry ∈ entries, ∀ i, ¬ OccursAt (Utf8.encode ".svg") entry.name i) :
    ((kept config entries).map fun pair => Path.join config.directory pair.2).Nodup := by
  have told : ∀ {name output}, (name, output) ∈ kept config entries →
      Renamed (Utf8.encode ".dot") (Utf8.encode ".svg") config.policy name output ∧
      (∀ i, ¬ OccursAt (Utf8.encode ".svg") name i) ∧ Path.slash ∉ output := by
    intro name output hk
    obtain ⟨entry, hm, rfl, ho⟩ := mem_kept hk
    rw [Config.outputName, dot, svg] at ho
    have renamed := (outputName_eq_some_iff.mp ho).2
    refine ⟨renamed, free entry hm, ?_⟩
    intro hs
    exact (renamed.mem hs).elim (plain entry hm) (by decide)
  apply kept_paths_nodup distinct
  rintro ⟨name, output⟩ hp ⟨name', output'⟩ hq he
  obtain ⟨renamed, hfree, hplain⟩ := told hp
  obtain ⟨renamed', hfree', hplain'⟩ := told hq
  have same : output = output' := by
    apply Path.join_inj _ _ he
    · intro hs
      exact hplain (List.mem_of_mem_head? hs)
    · intro hs
      exact hplain' (List.mem_of_mem_head? hs)
  rw [← same] at renamed'
  exact renamed.name_unique renamed' (by decide) hfree hfree'

/-- Names that do not hold `.svg` are told from their output names. Replacing all back recovers the
name; replacing the first occurrence keeps names apart; and a pass over distinct names without
slashes, as the names of a directory are, writes no output path twice, whatever its policy. -/
theorem names_told_from_outputs :
    (∀ name : Bytes, Utf8.encode ".dot" <:+ name →
      (∀ i, ¬ OccursAt (Utf8.encode ".svg") name i) →
      ∃ out, outputName .all (Utf8.encode ".dot") (Utf8.encode ".svg") name = some out ∧
        outputName .all (Utf8.encode ".svg") (Utf8.encode ".dot") out = some name) ∧
    (∀ name name' : Bytes, Utf8.encode ".dot" <:+ name → Utf8.encode ".dot" <:+ name' →
      (∀ i, ¬ OccursAt (Utf8.encode ".svg") name i) →
      (∀ i, ¬ OccursAt (Utf8.encode ".svg") name' i) → name ≠ name' →
      ∃ out out', outputName .first (Utf8.encode ".dot") (Utf8.encode ".svg") name = some out ∧
        outputName .first (Utf8.encode ".dot") (Utf8.encode ".svg") name' = some out' ∧
        out ≠ out') ∧
    ∀ {σ : Type} (config : Config) (run : Runner σ) (s : σ) (listing : Listing)
      (entries : List Entry), config.inputSuffix = ".dot" → config.outputSuffix = ".svg" →
      listing.entries = .ok entries → (entries.map Entry.name).Nodup →
      (∀ entry ∈ entries, Path.slash ∉ entry.name) →
      (∀ entry ∈ entries, ∀ i, ¬ OccursAt (Utf8.encode ".svg") entry.name i) →
      ∃ report s', Batch.run config run s listing = (.ok report, s') ∧
        (report.conversions.map Conversion.output).Nodup := by
  have unbordered : Unbordered (Utf8.encode ".svg") := by decide
  have nonempty : Utf8.encode ".dot" ≠ [] := by decide
  refine ⟨?_, ?_, ?_⟩
  · intro name ends free
    obtain ⟨out, ho⟩ := exists_outputName .all (Utf8.encode ".svg") nonempty ends
    refine ⟨out, ho, outputName_eq_some_iff.mpr ⟨?_, ?_⟩⟩
    · exact isCandidate_iff.mpr ⟨by decide, outputName_ends (by decide) (by decide) ho⟩
    · cases (outputName_eq_some_iff.mp ho).2 with
      | all replaced => exact .all (replaced.undone unbordered free)
  · intro name name' ends ends' free free' differ
    obtain ⟨out, ho⟩ := exists_outputName .first (Utf8.encode ".svg") nonempty ends
    obtain ⟨out', ho'⟩ := exists_outputName .first (Utf8.encode ".svg") nonempty ends'
    refine ⟨out, out', ho, ho', ?_⟩
    rintro rfl
    exact differ ((outputName_eq_some_iff.mp ho).2.name_unique (outputName_eq_some_iff.mp ho').2
      unbordered free free')
  · intro σ config run s listing entries dot svg read distinct plain free
    refine ⟨_, _, run_of_entries read config run s, ?_⟩
    rw [report_outputs]
    exact kept_outputs_nodup_of_free dot svg distinct plain free

/-- The last but one nearly holds `.svg`. -/
def withoutSvg : List Entry :=
  ["a.dot.dot", "a.dot.do.dot", ".dot", "a.sv.dot", "notes.txt"].map fun name =>
    ⟨Utf8.encode name, .other⟩

theorem names_told_from_outputs_of_withoutSvg :
    (∀ entry ∈ withoutSvg, ∀ i, ¬ OccursAt (Utf8.encode ".svg") entry.name i) ∧
    (∃ out,
      outputName .all (Utf8.encode ".dot") (Utf8.encode ".svg") (Utf8.encode "a.dot.dot") =
        some out ∧
      outputName .all (Utf8.encode ".svg") (Utf8.encode ".dot") out =
        some (Utf8.encode "a.dot.dot")) ∧
    (∃ out out',
      outputName .first (Utf8.encode ".dot") (Utf8.encode ".svg") (Utf8.encode "a.dot.dot") =
        some out ∧
      outputName .first (Utf8.encode ".dot") (Utf8.encode ".svg") (Utf8.encode "a.dot.do.dot") =
        some out' ∧ out ≠ out') ∧
    Listing.entries (.ok (withoutSvg.map .ok)) = .ok withoutSvg ∧
    (withoutSvg.map Entry.name).Nodup ∧ (∀ entry ∈ withoutSvg, Path.slash ∉ entry.name) ∧
    ∃ report s',
      Batch.run { policy := .all } (fun (s : Unit) _ => (.ok ⟨some 0, "", ""⟩, s)) ()
        (.ok (withoutSvg.map .ok)) = (.ok report, s') ∧
      (report.conversions.map Conversion.output).Nodup := by
  have free : ∀ entry ∈ withoutSvg, ∀ i, ¬ OccursAt (Utf8.encode ".svg") entry.name i := by
    intro entry hm
    apply find_eq_none
    revert entry
    decide
  have read : Listing.entries (.ok (withoutSvg.map .ok)) = .ok withoutSvg :=
    Listing.collect_ok withoutSvg
  have distinct : (withoutSvg.map Entry.name).Nodup := by decide
  have plain : ∀ entry ∈ withoutSvg, Path.slash ∉ entry.name := by decide
  have free₁ := free ⟨Utf8.encode "a.dot.dot", .other⟩ (by decide)
  have free₂ := free ⟨Utf8.encode "a.dot.do.dot", .other⟩ (by decide)
  obtain ⟨recovered, apart, outputs⟩ := names_told_from_outputs
  exact ⟨free, recovered _ (by decide) free₁,
    apart _ _ (by decide) (by decide) free₁ free₂ (by decide), read, distinct, plain,
    outputs _ _ () _ _ rfl rfl read distinct plain free⟩

-- The output suffix in a name makes two names one.
example :
    outputName .all (Utf8.encode ".dot") (Utf8.encode ".svg") (Utf8.encode "a.dot.dot") =
      outputName .all (Utf8.encode ".dot") (Utf8.encode ".svg") (Utf8.encode "a.svg.dot") := by
  decide +kernel

end Batch

end GraphBatch
