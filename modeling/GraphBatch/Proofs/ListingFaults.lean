import GraphBatch.Proofs.Calls

namespace GraphBatch

/-- An entry whose type cannot be read, with a file's type in its place. -/
def Entry.asFile (entry : Entry) : Entry :=
  if entry.type = .unreadable then { entry with type := .other } else entry

theorem Entry.asFile_name (entry : Entry) : entry.asFile.name = entry.name := by
  unfold asFile
  split <;> rfl

theorem Entry.asFile_isDirectory (entry : Entry) :
    entry.asFile.isDirectory = entry.isDirectory := by
  unfold asFile
  split
  · rename_i h
    rw [isDirectory, isDirectory, h]
    rfl
  · rfl

namespace Listing

/-- The first fault of a listing: the directory cannot be opened, or some entries are read and then
no more. -/
inductive FailsWith : Listing → Fault → Prop
  | unopened (fault : Fault) : FailsWith (.error fault) fault
  | unread (before : List Entry) (fault : Fault) (after : List (Except Fault Entry)) :
      FailsWith (.ok (before.map .ok ++ .error fault :: after)) fault

theorem stream_cases (stream : List (Except Fault Entry)) :
    (∃ entries : List Entry, stream = entries.map .ok) ∨
      ∃ (before : List Entry) (fault : Fault) (after : List (Except Fault Entry)),
        stream = before.map .ok ++ .error fault :: after := by
  induction stream with
  | nil => exact .inl ⟨[], rfl⟩
  | cons result rest ih =>
    cases result with
    | error fault => exact .inr ⟨[], fault, rest, rfl⟩
    | ok entry =>
      rcases ih with ⟨entries, rfl⟩ | ⟨before, fault, after, rfl⟩
      · exact .inl ⟨entry :: entries, rfl⟩
      · exact .inr ⟨entry :: before, fault, after, rfl⟩

/-- Reading fails with the first fault there is, and with no other. -/
theorem entries_eq_error_iff {listing : Listing} {fault : Fault} :
    listing.entries = .error fault ↔ listing.FailsWith fault := by
  constructor
  · intro h
    cases listing with
    | error opening =>
      obtain rfl := Except.error.inj h
      exact .unopened opening
    | ok stream =>
      rcases stream_cases stream with ⟨good, rfl⟩ | ⟨before, first, after, rfl⟩
      · rw [entries, collect_ok] at h
        cases h
      · rw [entries, collect_error] at h
        obtain rfl := Except.error.inj h
        exact .unread before first after
  · intro h
    cases h with
    | unopened => rfl
    | unread before _ after => exact collect_error before fault after

/-- A directory is listed if it is opened and read to its end. -/
def Listed (listing : Listing) : Prop :=
  ∃ entries : List Entry, listing = .ok (entries.map .ok)

theorem listed_iff (listing : Listing) :
    listing.Listed ↔ ∃ entries, listing.entries = .ok entries := by
  constructor
  · rintro ⟨entries, rfl⟩
    exact ⟨entries, collect_ok entries⟩
  · rintro ⟨entries, h⟩
    cases listing with
    | error fault => cases h
    | ok stream =>
      rcases stream_cases stream with ⟨good, rfl⟩ | ⟨before, first, after, rfl⟩
      · exact ⟨good, rfl⟩
      · rw [Listing.entries, collect_error] at h
        cases h

theorem fails_iff (listing : Listing) :
    (∃ fault, listing.FailsWith fault) ↔
      (∃ fault, listing = .error fault) ∨
        ∃ stream fault, listing = .ok stream ∧ .error fault ∈ stream := by
  constructor
  · rintro ⟨fault, h⟩
    cases h with
    | unopened => exact .inl ⟨fault, rfl⟩
    | unread before _ after =>
      exact .inr ⟨_, fault, rfl, List.mem_append_right _ List.mem_cons_self⟩
  · rintro (⟨fault, rfl⟩ | ⟨stream, fault, rfl, hm⟩)
    · exact ⟨fault, .unopened fault⟩
    · rcases stream_cases stream with ⟨entries, rfl⟩ | ⟨before, first, after, rfl⟩
      · simp at hm
      · exact ⟨first, .unread before first after⟩

/-- The listing with a file's type wherever a type could not be read. -/
def asFiles (listing : Listing) : Listing :=
  listing.map (List.map (Except.map Entry.asFile))

theorem collect_asFile (stream : List (Except Fault Entry)) :
    collect (stream.map (Except.map Entry.asFile)) =
      (collect stream).map (List.map Entry.asFile) := by
  induction stream with
  | nil => rfl
  | cons result rest ih =>
    cases result with
    | error fault => rfl
    | ok entry =>
      simp only [List.map_cons, Except.map, collect] at ih ⊢
      rw [ih]
      cases collect rest <;> rfl

theorem entries_asFiles (listing : Listing) :
    listing.asFiles.entries = listing.entries.map (List.map Entry.asFile) := by
  cases listing with
  | error fault => rfl
  | ok stream => exact collect_asFile stream

end Listing

namespace Batch

variable {σ : Type}

theorem run_of_error {listing : Listing} {fault : Fault} (unread : listing.entries = .error fault)
    (config : Config) (run : Runner σ) (s : σ) :
    Batch.run config run s listing = (.error ⟨config.directory, fault⟩, s) := by
  simp only [Batch.run, steps, unread]
  rfl

/-- A pass fails where its listing does, and for that reason. -/
theorem run_eq_error_iff (config : Config) (run : Runner σ) (s : σ) (listing : Listing)
    (e : ListError) :
    (Batch.run config run s listing).1 = .error e ↔
      e.directory = config.directory ∧ listing.FailsWith e.fault := by
  rw [← Listing.entries_eq_error_iff]
  cases h : listing.entries with
  | error fault =>
    rw [run_of_error h]
    constructor
    · intro he
      obtain rfl := Except.error.inj he
      exact ⟨rfl, rfl⟩
    · rintro ⟨hd, hf⟩
      obtain ⟨directory, _⟩ := e
      obtain rfl : directory = config.directory := hd
      obtain rfl := Except.error.inj hf
      rfl
  | ok entries =>
    rw [run_of_entries h]
    constructor
    · intro he
      cases he
    · rintro ⟨_, hf⟩
      cases hf

/-- Of an entry's type a pass only asks whether it is a directory. -/
theorem visitAll_asFile (config : Config) (run : Runner σ) (s : σ) (entries : List Entry) :
    visitAll config run s (entries.map Entry.asFile) = visitAll config run s entries := by
  induction entries generalizing s with
  | nil => rfl
  | cons entry rest ih =>
    have hleaves : config.leavesOut entry.asFile = config.leavesOut entry := by
      rw [Config.leavesOut, Config.leavesOut, entry.asFile_isDirectory]
    have hvisit : visit config run s entry.asFile = visit config run s entry := by
      rw [visit, visit, hleaves, entry.asFile_name]
    rw [List.map_cons, visitAll_cons, visitAll_cons, hvisit, ih]

theorem run_asFiles (config : Config) (run : Runner σ) (s : σ) (listing : Listing) :
    Batch.run config run s listing.asFiles = Batch.run config run s listing := by
  have hread := listing.entries_asFiles
  cases h : listing.entries with
  | error fault =>
    rw [h] at hread
    rw [run_of_error hread, run_of_error h]
  | ok entries =>
    rw [h] at hread
    rw [run_of_entries hread, run_of_entries h, visitAll_asFile]

/-- A pass fails exactly when the directory cannot be opened or read to its end. It then names the
directory as it was configured and the first fault, and has not called the runner, whatever could
be read before. Types that cannot be read make no pass fail: it goes as over files. -/
theorem run_fails_before_calls (config : Config) (run : Runner σ) (s : σ)
    (trace : List (Call × Answer)) (listing : Listing) :
    ((∃ e, (Batch.run config run s listing).1 = .error e) ↔
      (∃ fault, listing = .error fault) ∨
        ∃ stream fault, listing = .ok stream ∧ .error fault ∈ stream) ∧
    (∀ e, (Batch.run config run s listing).1 = .error e ↔
      e.directory = config.directory ∧ listing.FailsWith e.fault) ∧
    (∀ e, (Batch.run config run s listing).1 = .error e →
      Batch.run config run s listing = (.error e, s) ∧
      Batch.run config run.traced (s, trace) listing = (.error e, s, trace)) ∧
    Batch.run config run s listing.asFiles = Batch.run config run s listing := by
  have failing := run_eq_error_iff config run s listing
  refine ⟨?_, failing, ?_, run_asFiles config run s listing⟩
  · rw [← listing.fails_iff]
    constructor
    · rintro ⟨e, he⟩
      exact ⟨e.fault, ((failing e).mp he).2⟩
    · rintro ⟨fault, hf⟩
      exact ⟨⟨config.directory, fault⟩, (failing _).mpr ⟨rfl, hf⟩⟩
  · intro e he
    obtain ⟨hd, hf⟩ := (failing e).mp he
    have unread := Listing.entries_eq_error_iff.mpr hf
    obtain ⟨directory, fault⟩ := e
    obtain rfl : directory = config.directory := hd
    exact ⟨run_of_error unread config run s, run_of_error unread config run.traced (s, trace)⟩

end Batch

end GraphBatch
