import GraphBatch.Proofs.Calls
import GraphBatch.Proofs.Paths
import GraphBatch.Proofs.Renaming

namespace GraphBatch

section Spliced

variable {α : Type} {suffix replacement name out : List α} {policy : Policy}

theorem ReplacedAll.length_eq (h : ReplacedAll suffix replacement name out)
    (same : replacement.length = suffix.length) : out.length = name.length :=
  Nat.le_antisymm (h.length_mono.1 (Nat.le_of_eq same)) (h.length_mono.2 (Nat.le_of_eq same.symm))

/-- A suffix of the same length leaves names their length. -/
theorem Renamed.length_eq (h : Renamed suffix replacement policy name out)
    (same : replacement.length = suffix.length) : out.length = name.length := by
  cases h with
  | trailing before => simp only [List.length_append, same]
  | first leftmost => simp only [List.length_append, same]
  | all replaced => exact replaced.length_eq same

theorem ReplacedAll.mem {a : α} (h : ReplacedAll suffix replacement name out) (ha : a ∈ out) :
    a ∈ name ∨ a ∈ replacement := by
  induction h with
  | rest none => exact .inl ha
  | cut leftmost _ ih =>
    simp only [List.mem_append] at ha ⊢
    rcases ha with (ha | ha) | ha
    · exact .inl (.inl (.inl ha))
    · exact .inr ha
    · exact (ih ha).imp_left .inr

/-- Nothing stands in an output name but what the name and the output suffix bring. -/
theorem Renamed.mem {a : α} (h : Renamed suffix replacement policy name out) (ha : a ∈ out) :
    a ∈ name ∨ a ∈ replacement := by
  cases h with
  | trailing before =>
    simp only [List.mem_append] at ha ⊢
    exact ha.imp_left .inl
  | first leftmost =>
    simp only [List.mem_append] at ha ⊢
    rcases ha with (ha | ha) | ha
    · exact .inl (.inl (.inl ha))
    · exact .inr ha
    · exact .inl (.inr ha)
  | all replaced => exact replaced.mem ha

end Spliced

/-- What a file in a directory can be named. -/
structure LegalName (name : Bytes) : Prop where
  nonempty : name ≠ []
  short : name.length ≤ 255
  oneSegment : Path.slash ∉ name
  noNul : 0 ∉ name
  notHere : name ≠ Path.here
  notParent : name ≠ Path.parent

/-- The reserved names are of two bytes at most, so a longer name need not be told from them. -/
theorem LegalName.of_long {name : Bytes} (long : 2 < name.length) (short : name.length ≤ 255)
    (oneSegment : Path.slash ∉ name) (noNul : 0 ∉ name) : LegalName name := by
  refine ⟨?_, short, oneSegment, noNul, ?_, ?_⟩
  · rintro rfl
    simp at long
  · rintro rfl
    simp [Path.here] at long
  · rintro rfl
    simp [Path.parent] at long

/-- Renaming keeps a name legal if the suffixes are of one length, longer than a reserved name, and
the output suffix brings in no byte that names may not hold. -/
theorem LegalName.renamed {policy : Policy} {suffix replacement name out : Bytes}
    (legal : LegalName name) (ends : suffix <:+ name) (long : 2 < suffix.length)
    (same : replacement.length = suffix.length) (oneSegment : Path.slash ∉ replacement)
    (noNul : 0 ∉ replacement) (h : Renamed suffix replacement policy name out) :
    LegalName out ∧ out.length = name.length := by
  have length := h.length_eq same
  have suffixFits := ends.length_le
  refine ⟨.of_long (by omega) (length ▸ legal.short) ?_ ?_, length⟩
  · intro hm
    exact (h.mem hm).elim legal.oneSegment oneSegment
  · intro hm
    exact (h.mem hm).elim legal.noNul noNul

theorem LegalName.base {name : Bytes} (legal : LegalName name) (directory : Bytes) :
    Path.base directory name = Path.join directory [] := by
  unfold Path.base
  split
  · rename_i h
    exact absurd (List.mem_of_mem_head? h) legal.oneSegment
  · rfl

/-- The path of a legal name begins as the path of its directory. -/
theorem LegalName.head?_join {name directory : Bytes} (given : directory ≠ [])
    (legal : LegalName name) : (Path.join directory name).head? = directory.head? := by
  rw [Path.join_eq_base, legal.base, Path.join_nil]
  cases directory with
  | nil => exact absurd rfl given
  | cons b directory =>
    split
    · rfl
    · rfl

/-- The suffixes of a pass keep a name legal and as long as it is. -/
theorem LegalName.svg {policy : Policy} {name out : Bytes} (legal : LegalName name)
    (h : outputName policy (Utf8.encode ".dot") (Utf8.encode ".svg") name = some out) :
    LegalName out ∧ out.length = name.length := by
  obtain ⟨candidate, renamed⟩ := outputName_eq_some_iff.mp h
  obtain ⟨_, ends⟩ := isCandidate_iff.mp candidate
  exact legal.renamed ends (by decide) (by decide) (by decide) (by decide) renamed

namespace Batch

variable {σ : Type} {config : Config} {entries : List Entry}

section Suffixes

variable (dot : config.inputSuffix = ".dot") (svg : config.outputSuffix = ".svg")
  (legal : ∀ entry ∈ entries, LegalName entry.name)
include dot svg legal

theorem outputName_legal {entry : Entry} (hm : entry ∈ entries) {output : Bytes}
    (h : config.outputName entry.name = some output) :
    LegalName output ∧ output.length = entry.name.length := by
  rw [Config.outputName, dot, svg] at h
  exact (legal entry hm).svg h

/-- Outputs are legal files beside their inputs. A legal name that ends with `.dot` gets a legal
output name of its length. A pass over legal names reads and writes paths that are the directory,
closed by a slash, and one legal name; so each path it hands to the tool begins as the directory
does, and with a dash only if the directory does. -/
theorem outputs_legal_beside_inputs {listing : Listing} (read : listing.entries = .ok entries)
    (given : config.directory ≠ []) (run : Runner σ) (s : σ) :
    (∀ policy name, LegalName name → Utf8.encode ".dot" <:+ name →
      ∃ out, outputName policy (Utf8.encode ".dot") (Utf8.encode ".svg") name = some out ∧
        LegalName out ∧ out.length = name.length) ∧
    ∃ report s' trace,
      Batch.run config run.traced (s, []) listing = (.ok report, s', trace) ∧
      (∀ c ∈ report.conversions, ∃ name output, LegalName name ∧ LegalName output ∧
        output.length = name.length ∧
        c.input = Path.join config.directory [] ++ name ∧
        c.output = Path.join config.directory [] ++ output) ∧
      ∀ call ∈ trace.map Prod.fst, ∃ input output, call = config.tool.call input output ∧
        input.head? = config.directory.head? ∧ output.head? = config.directory.head? := by
  constructor
  · intro policy name hname ends
    cases h : outputName policy (Utf8.encode ".dot") (Utf8.encode ".svg") name with
    | none =>
      rw [outputName_eq_none_iff, isCandidate_iff.mpr ⟨by decide, ends⟩] at h
      cases h
    | some out => exact ⟨out, rfl, hname.svg h⟩
  · refine ⟨_, _, _, run_traced read config run s, ?_, ?_⟩
    · intro c hc
      obtain ⟨entry, hm, output, ho, hin, hout⟩ := mem_conversions hc
      obtain ⟨houtput, length⟩ := outputName_legal dot svg legal hm ho
      refine ⟨entry.name, output, legal entry hm, houtput, length, ?_, ?_⟩
      · rw [hin, Path.join_eq_base, (legal entry hm).base]
      · rw [hout, Path.join_eq_base, houtput.base]
    · intro call hcall
      rw [Runner.exchange_calls, plan_eq_kept] at hcall
      obtain ⟨⟨name, output⟩, hk, rfl⟩ := List.mem_map.mp hcall
      obtain ⟨entry, hm, rfl, ho⟩ := mem_kept hk
      obtain ⟨houtput, _⟩ := outputName_legal dot svg legal hm ho
      exact ⟨_, _, rfl, (legal entry hm).head?_join given, houtput.head?_join given⟩

end Suffixes

def belowGraphs : Config where
  directory := Utf8.encode "graphs"
  policy := .all

/-- The first looks like an option, and the second is all suffix. -/
def awkwardNames : List Entry :=
  ["-Tpng.dot", ".dot", "a.dot.dot", "notes.txt"].map fun name => ⟨Utf8.encode name, .other⟩

theorem awkwardNames_legal : ∀ entry ∈ awkwardNames, LegalName entry.name := by
  intro entry hm
  apply LegalName.of_long
  all_goals
    revert entry
    decide

/-- Below `graphs` no path is an option, whatever the names are. -/
theorem outputs_legal_beside_awkwardNames :
    Listing.entries (.ok (awkwardNames.map .ok)) = .ok awkwardNames ∧
    (∀ entry ∈ awkwardNames, LegalName entry.name) ∧
    ∃ report s' trace,
      Batch.run belowGraphs (Runner.traced fun (s : Unit) _ => (.ok ⟨some 0, "", ""⟩, s)) ((), [])
        (.ok (awkwardNames.map .ok)) = (.ok report, s', trace) ∧
      (∀ c ∈ report.conversions, ∃ name output, LegalName name ∧ LegalName output ∧
        c.input = Utf8.encode "graphs/" ++ name ∧ c.output = Utf8.encode "graphs/" ++ output) ∧
      ∀ call ∈ trace.map Prod.fst, ∃ input output, call = Tool.call {} input output ∧
        input.head? ≠ (Utf8.encode "-").head? ∧ output.head? ≠ (Utf8.encode "-").head? := by
  have read : Listing.entries (.ok (awkwardNames.map .ok)) = .ok awkwardNames :=
    Listing.collect_ok awkwardNames
  have dot : belowGraphs.inputSuffix = ".dot" := rfl
  refine ⟨read, awkwardNames_legal, ?_⟩
  obtain ⟨_, report, s', trace, traced, paths, calls⟩ :=
    outputs_legal_beside_inputs dot rfl awkwardNames_legal read (by decide)
      (fun (s : Unit) _ => (.ok ⟨some 0, "", ""⟩, s)) ()
  refine ⟨report, s', trace, traced, ?_, ?_⟩
  · intro c hc
    obtain ⟨name, output, hname, houtput, _, hin, hout⟩ := paths c hc
    exact ⟨name, output, hname, houtput, hin.trans (by rfl), hout.trans (by rfl)⟩
  · intro call hcall
    obtain ⟨input, output, he, hin, hout⟩ := calls call hcall
    refine ⟨input, output, he, ?_, ?_⟩
    · rw [hin]
      decide
    · rw [hout]
      decide

end Batch

end GraphBatch
