import GraphBatch.Proofs.Calls
import GraphBatch.Proofs.Paths
import GraphBatch.Proofs.Renaming
import GraphBatch.Text.Utf8.RoundTrip

namespace GraphBatch

section Spliced

variable {α : Type} {suffix replacement name out : List α} {policy : Policy}

theorem ReplacedAll.eq_of_same (h : ReplacedAll suffix suffix name out) : out = name := by
  induction h with
  | rest none => rfl
  | cut leftmost _ ih => rw [ih]

/-- What is put in at the first splice has to be the suffix, if nothing is to change. -/
theorem ReplacedAll.eq_of_fixed (h : ReplacedAll suffix replacement name out)
    (ends : suffix <:+ name) (fixed : out = name) : replacement = suffix := by
  cases h with
  | rest none =>
    obtain ⟨before, rfl⟩ := ends
    exact absurd (occursAt_end before suffix) (none before.length)
  | @cut before after out leftmost tail =>
    rw [List.append_assoc, List.append_assoc] at fixed
    have same : replacement ++ out = suffix ++ after := List.append_cancel_left fixed
    have lengths := congrArg List.length same
    rw [List.length_append, List.length_append] at lengths
    have length : replacement.length = suffix.length := by
      have := tail.length_mono
      omega
    exact (List.append_inj same length).1

/-- An output name is the name itself exactly if the suffix was put in for itself. -/
theorem Renamed.fixed_iff (h : Renamed suffix replacement policy name out)
    (ends : suffix <:+ name) : out = name ↔ replacement = suffix := by
  cases h with
  | trailing before => rw [List.append_cancel_left_eq]
  | first leftmost => rw [List.append_cancel_right_eq, List.append_cancel_left_eq]
  | all replaced =>
    constructor
    · exact replaced.eq_of_fixed ends
    · rintro rfl
      exact replaced.eq_of_same

theorem head?_spliced_ne {a : α} {before rest : List α} (absent : a ∉ before)
    (other : replacement.head? ≠ some a) (otherRest : rest.head? ≠ some a) :
    (before ++ replacement ++ rest).head? ≠ some a := by
  cases before with
  | cons b before =>
    intro h
    exact absent (List.mem_of_mem_head? h)
  | nil =>
    cases replacement with
    | nil => exact otherRest
    | cons b replacement => exact other

theorem ReplacedAll.head?_ne {a : α} (h : ReplacedAll suffix replacement name out)
    (absent : a ∉ name) (other : replacement.head? ≠ some a) : out.head? ≠ some a := by
  induction h with
  | rest none =>
    intro hh
    exact absent (List.mem_of_mem_head? hh)
  | cut leftmost _ ih =>
    simp only [List.mem_append, not_or] at absent
    exact head?_spliced_ne absent.1.1 other (ih absent.2)

/-- An output name begins with nothing that neither the name holds nor the replacement begins
with. -/
theorem Renamed.head?_ne {a : α} (h : Renamed suffix replacement policy name out)
    (absent : a ∉ name) (other : replacement.head? ≠ some a) : out.head? ≠ some a := by
  cases h with
  | trailing before =>
    simp only [List.mem_append, not_or] at absent
    rw [← List.append_nil (before ++ replacement)]
    exact head?_spliced_ne absent.1 other (by simp)
  | first leftmost =>
    simp only [List.mem_append, not_or] at absent
    apply head?_spliced_ne absent.1.1 other
    intro hh
    exact absent.2 (List.mem_of_mem_head? hh)
  | all replaced => exact replaced.head?_ne absent other

end Spliced

/-- A candidate's output name is its own name exactly if the suffixes are equal, under every policy.
So a pass over names without slashes hands the tool one path as input and as output exactly if they
are; an output suffix that begins with a slash is left out here, as it can name any path. -/
theorem own_input_iff_suffixes_equal :
    (∀ (policy : Policy) (suffix replacement : String) (name out : Bytes),
      outputName policy (Utf8.encode suffix) (Utf8.encode replacement) name = some out →
      (out = name ↔ replacement = suffix)) ∧
    ∀ {σ : Type} (config : Config) (run : Runner σ) (s : σ) (listing : Listing)
      (entries : List Entry), listing.entries = .ok entries →
      (∀ entry ∈ entries, Path.slash ∉ entry.name) →
      (Utf8.encode config.outputSuffix).head? ≠ some Path.slash →
      ∃ report s', Batch.run config run s listing = (.ok report, s') ∧
        ∀ c ∈ report.conversions,
          c.output = c.input ↔ config.outputSuffix = config.inputSuffix := by
  have fixed : ∀ (policy : Policy) (suffix replacement : String) (name out : Bytes),
      outputName policy (Utf8.encode suffix) (Utf8.encode replacement) name = some out →
      (out = name ↔ replacement = suffix) := by
    intro policy suffix replacement name out h
    obtain ⟨candidate, renamed⟩ := outputName_eq_some_iff.mp h
    rw [renamed.fixed_iff (isCandidate_iff.mp candidate).2, Utf8.encode_inj]
  refine ⟨fixed, ?_⟩
  intro σ config run s listing entries read plain relative
  refine ⟨_, _, Batch.run_of_entries read config run s, ?_⟩
  intro c hc
  obtain ⟨entry, hm, output, ho, hin, hout⟩ := Batch.mem_conversions hc
  rw [← fixed _ _ _ _ _ ho, hin, hout]
  have inputHead : entry.name.head? ≠ some Path.slash := by
    intro hh
    exact plain entry hm (List.mem_of_mem_head? hh)
  have outputHead : output.head? ≠ some Path.slash :=
    (outputName_eq_some_iff.mp ho).2.head?_ne (plain entry hm) relative
  constructor
  · exact Path.join_inj outputHead inputHead
  · rintro rfl
    rfl

def twoGraphs : List Entry :=
  ["a.dot.dot", "notes.txt", ".dot"].map fun name => ⟨Utf8.encode name, .other⟩

/-- Half a suffix put in for a suffix that overlaps itself; and a pass whose output suffix holds a
slash, but does not begin with it. -/
theorem own_input_iff_suffixes_equal_of_twoGraphs :
    (outputName .all (Utf8.encode "aa") (Utf8.encode "a") (Utf8.encode "aaa") =
        some (Utf8.encode "aa") ∧
      (Utf8.encode "aa" = Utf8.encode "aaa" ↔ "a" = "aa")) ∧
    Listing.entries (.ok (twoGraphs.map .ok)) = .ok twoGraphs ∧
    (∀ entry ∈ twoGraphs, Path.slash ∉ entry.name) ∧
    ∃ report s',
      Batch.run { policy := .first, outputSuffix := ".d/svg" }
        (fun (s : Unit) _ => (.ok ⟨some 0, "", ""⟩, s)) () (.ok (twoGraphs.map .ok)) =
          (.ok report, s') ∧
      ∀ c ∈ report.conversions, c.output ≠ c.input := by
  obtain ⟨names, passes⟩ := own_input_iff_suffixes_equal
  have halved : outputName .all (Utf8.encode "aa") (Utf8.encode "a") (Utf8.encode "aaa") =
      some (Utf8.encode "aa") := by
    decide +kernel
  have read : Listing.entries (.ok (twoGraphs.map .ok)) = .ok twoGraphs :=
    Listing.collect_ok twoGraphs
  have plain : ∀ entry ∈ twoGraphs, Path.slash ∉ entry.name := by decide
  refine ⟨⟨halved, names _ _ _ _ _ halved⟩, read, plain, ?_⟩
  obtain ⟨report, s', completed, paths⟩ :=
    passes { policy := .first, outputSuffix := ".d/svg" }
      (fun (s : Unit) _ => (.ok ⟨some 0, "", ""⟩, s)) () _ _ read plain (by decide)
  refine ⟨report, s', completed, ?_⟩
  intro c hc own
  exact absurd ((paths c hc).mp own) (by decide)

end GraphBatch
