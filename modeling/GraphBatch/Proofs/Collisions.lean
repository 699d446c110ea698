import GraphBatch.Proofs.Calls
import GraphBatch.Proofs.Paths
import GraphBatch.Proofs.Renaming

namespace GraphBatch

/-- A name can only stand alone by its ending, if what comes before that holds no slash. -/
theorem Path.base_append {a : Bytes} (ha : slash ∉ a) (directory ending : Bytes) :
    base directory (a ++ ending) = join directory [] ∨
      a = [] ∧ base directory (a ++ ending) = [] := by
  unfold base
  split
  · rename_i h
    cases a with
    | nil => exact .inr ⟨rfl, rfl⟩
    | cons x a =>
      have hx : x = slash := by simpa using h
      exact absurd (hx ▸ List.mem_cons_self) ha
  · exact .inl rfl

/-- Joining tells apart what comes before a common ending. -/
theorem Path.join_append_inj {directory a b ending : Bytes} (ha : slash ∉ a) (hb : slash ∉ b)
    (h : join directory (a ++ ending) = join directory (b ++ ending)) : a = b := by
  rw [join_eq_base, join_eq_base, ← List.append_assoc, ← List.append_assoc,
    List.append_cancel_right_eq] at h
  rcases base_append ha directory ending with hda | ⟨rfl, hda⟩
  · rcases base_append hb directory ending with hdb | ⟨rfl, hdb⟩
    · rw [hda, hdb] at h
      exact List.append_cancel_left h
    · rw [hda, hdb] at h
      exact (List.append_eq_nil_iff.mp h).2
  · rcases base_append hb directory ending with hdb | ⟨rfl, _⟩
    · rw [hda, hdb] at h
      exact (List.append_eq_nil_iff.mp h.symm).2.symm
    · rfl

namespace Batch

variable {σ : Type} {config : Config} {entries : List Entry}

theorem kept_trailing (trailing : config.policy = .trailing) {name output : Bytes}
    (h : (name, output) ∈ kept config entries) :
    ∃ before, name = before ++ Utf8.encode config.inputSuffix ∧
      output = before ++ Utf8.encode config.outputSuffix := by
  obtain ⟨_, _, _, ho⟩ := mem_kept h
  have hr := (outputName_eq_some_iff.mp ho).2
  rw [trailing] at hr
  cases hr with
  | trailing before => exact ⟨before, rfl, rfl⟩

/-- Distinct names have distinct paths, for any path that a name can be told from. -/
theorem kept_paths_nodup (distinct : (entries.map Entry.name).Nodup) {path : Bytes × Bytes → Path}
    (inj : ∀ p ∈ kept config entries, ∀ q ∈ kept config entries, path p = path q → p.1 = q.1) :
    ((kept config entries).map path).Nodup := by
  have names := distinct.sublist (kept_names_sublist config entries)
  refine List.pairwise_map.mpr ((List.pairwise_map.mp names).imp_of_mem ?_)
  intro p q hp hq hne he
  exact hne (inj p hp q hq he)

theorem kept_plain (plain : ∀ entry ∈ entries, Path.slash ∉ entry.name) {pair : Bytes × Bytes}
    (h : pair ∈ kept config entries) : Path.slash ∉ pair.1 := by
  obtain ⟨entry, hm, he, _⟩ := mem_kept h
  exact he ▸ plain entry hm

theorem kept_inputs_nodup (distinct : (entries.map Entry.name).Nodup)
    (plain : ∀ entry ∈ entries, Path.slash ∉ entry.name) :
    ((kept config entries).map fun pair => Path.join config.directory pair.1).Nodup := by
  apply kept_paths_nodup distinct
  intro p hp q hq he
  have h : Path.join config.directory (p.1 ++ []) = Path.join config.directory (q.1 ++ []) := by
    rwa [List.append_nil, List.append_nil]
  exact Path.join_append_inj (kept_plain plain hp) (kept_plain plain hq) h

theorem kept_outputs_nodup (trailing : config.policy = .trailing)
    (distinct : (entries.map Entry.name).Nodup)
    (plain : ∀ entry ∈ entries, Path.slash ∉ entry.name) :
    ((kept config entries).map fun pair => Path.join config.directory pair.2).Nodup := by
  apply kept_paths_nodup distinct
  rintro ⟨name, output⟩ hp ⟨name', output'⟩ hq he
  have hn := kept_plain plain hp
  have hn' := kept_plain plain hq
  obtain ⟨before, rfl, rfl⟩ := kept_trailing trailing hp
  obtain ⟨before', rfl, rfl⟩ := kept_trailing trailing hq
  have hb : before = before' :=
    Path.join_append_inj (fun hm => hn (List.mem_append_left _ hm))
      (fun hm => hn' (List.mem_append_left _ hm)) he
  rw [hb]

/-- Replacing the trailing suffix loses no output: whatever the suffixes are, names that differ and
hold no slash are read from and written to paths that differ. -/
theorem trailing_paths_distinct (trailing : config.policy = .trailing) {listing : Listing}
    (read : listing.entries = .ok entries) (distinct : (entries.map Entry.name).Nodup)
    (plain : ∀ entry ∈ entries, Path.slash ∉ entry.name) (run : Runner σ) (s : σ) :
    ∃ report s', Batch.run config run s listing = (.ok report, s') ∧
      (report.conversions.map Conversion.output).Nodup ∧
      (report.conversions.map Conversion.input).Nodup := by
  refine ⟨_, _, run_of_entries read config run s, ?_, ?_⟩
  · rw [report_outputs]
    exact kept_outputs_nodup trailing distinct plain
  · rw [report_inputs]
    exact kept_inputs_nodup distinct plain

/-- The first of these is all suffix. -/
def bareAndLonger : List Entry :=
  [".dot", "a.dot", "b.txt", "c.dot.dot"].map fun name => ⟨Utf8.encode name, .other⟩

/-- An output suffix that begins with a slash takes the bare name out of the directory. -/
theorem trailing_paths_distinct_when_absolute :
    Listing.entries (.ok (bareAndLonger.map .ok)) = .ok bareAndLonger ∧
    (bareAndLonger.map Entry.name).Nodup ∧ (∀ entry ∈ bareAndLonger, Path.slash ∉ entry.name) ∧
    ∃ report s',
      Batch.run { outputSuffix := "/out" } (fun (s : Unit) _ => (.ok ⟨some 0, "", ""⟩, s)) ()
        (.ok (bareAndLonger.map .ok)) = (.ok report, s') ∧
      (report.conversions.map Conversion.output).Nodup ∧
      (report.conversions.map Conversion.input).Nodup := by
  have read : Listing.entries (.ok (bareAndLonger.map .ok)) = .ok bareAndLonger :=
    Listing.collect_ok bareAndLonger
  have distinct : (bareAndLonger.map Entry.name).Nodup := by decide
  have plain : ∀ entry ∈ bareAndLonger, Path.slash ∉ entry.name := by decide
  exact ⟨read, distinct, plain, trailing_paths_distinct rfl read distinct plain _ ()⟩

end Batch

end GraphBatch
