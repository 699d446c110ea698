import GraphBatch.Proofs.Boundaries
import GraphBatch.Runner.Mock

namespace GraphBatch

variable {α β : Type}

/-- The search says yes exactly if the needle stands in the hay as one stretch. -/
theorem occurs_iff_infix [DecidableEq α] {needle hay : List α} :
    occurs needle hay = true ↔ needle <:+: hay := by
  rw [occurs, Option.isSome_iff_exists]
  constructor
  · rintro ⟨i, found⟩
    obtain ⟨before, after, rfl, _⟩ := occursAt_iff.mp (find_occurs found)
    exact ⟨before, after, rfl⟩
  · rintro ⟨before, after, rfl⟩
    cases missed : find needle (before ++ needle ++ after) with
    | some i => exact ⟨i, rfl⟩
    | none =>
      have here : OccursAt needle (before ++ needle ++ after) before.length :=
        occursAt_iff.mpr ⟨before, after, rfl, rfl⟩
      exact absurd here (find_eq_none missed _)

theorem Carries.infix_iff {f : List α → List β} {needle : List α} (c : Carries f needle)
    (hay : List α) : f needle <:+: f hay ↔ needle <:+: hay := by
  constructor
  · rintro ⟨x, y, h⟩
    obtain ⟨before, after, rfl, _⟩ := c.found h.symm
    exact ⟨before, after, rfl⟩
  · rintro ⟨before, after, rfl⟩
    rw [c.splices]
    exact ⟨f before, f after, rfl⟩

/-- A text that cannot be taken for broken bytes is shown exactly where its bytes stand. -/
theorem Utf8.shown_infix_iff {needle : String} (clean : replacement ∉ needle.toList)
    (bytes : Bytes) :
    needle.toList <:+: (lossy bytes).toList ↔ encode needle <:+: bytes := by
  rw [toList_lossy]
  cases h : needle.toList with
  | nil => simp [encode, h, List.nil_infix]
  | cons c cs =>
    have carried : Carries shownText (encodeAll needle.toList) :=
      shownText_carries (by simp [h]) clean
    have moved := carried.infix_iff bytes
    rw [shownText_encodeAll] at moved
    rw [← h]
    exact moved

namespace Behaviour

/-- Looking for the text is looking for its bytes. -/
theorem mentions_eq_occurs {needle : String} (clean : Utf8.replacement ∉ needle.toList)
    (arg : Bytes) : mentions needle arg = occurs (Utf8.encode needle) arg := by
  rw [Bool.eq_iff_iff, mentions, occurs_iff_infix, occurs_iff_infix, Utf8.shown_infix_iff clean]

end Behaviour

/-- A handle that is told to fail on a text exits with 1 exactly if the bytes of the text stand in
some argument, and with 0 otherwise, whatever else the arguments hold. -/
theorem Mocks.fails_where_bytes_stand {needle : String}
    (clean : Utf8.replacement ∉ needle.toList) (m : Mocks) {handle : Nat} {mock : Mock}
    (made : m.handles[handle]? = some mock)
    (told : mock.behaviour = .failWhenArgContains needle) (call : Call) :
    (∃ output, (m.run handle call).1 = some (.ok output) ∧
      (output.exitCode = some 1 ↔ ∃ arg ∈ call.args, Utf8.encode needle <:+: arg) ∧
      (output.exitCode = some 0 ↔ ¬ ∃ arg ∈ call.args, Utf8.encode needle <:+: arg)) ∧
    ∀ arg, Behaviour.mentions needle arg = occurs (Utf8.encode needle) arg := by
  have same := Behaviour.mentions_eq_occurs clean
  refine ⟨?_, same⟩
  have hit : call.args.any (Behaviour.mentions needle) = true ↔
      ∃ arg ∈ call.args, Utf8.encode needle <:+: arg := by
    simp only [List.any_eq_true, same, occurs_iff_infix]
  refine ⟨Behaviour.exiting (if call.args.any (Behaviour.mentions needle) then 1 else 0), ?_, ?_,
    ?_⟩
  · simp only [Mocks.run, made, told, Behaviour.answer]
  · rw [← hit]
    cases call.args.any (Behaviour.mentions needle) <;> simp [Behaviour.exiting]
  · rw [← hit]
    cases call.args.any (Behaviour.mentions needle) <;> simp [Behaviour.exiting]

/-- The euro sign between a sequence that breaks off and a stray byte, and the sign cut short. -/
def aroundEuro : List Bytes :=
  [[0xF0, 0x9F] ++ Utf8.encode "€" ++ [0x80], [0xE2, 0x82]]

theorem Mocks.fails_where_bytes_stand_aroundEuro :
    Utf8.replacement ∉ "€".toList ∧
    (∃ output, ((Mocks.new (.failWhenArgContains "€")).run 0 ⟨"dot", aroundEuro⟩).1 =
      some (.ok output) ∧ output.exitCode = some 1) ∧
    ∃ output, ((Mocks.new (.failWhenArgContains "€")).run 0 ⟨"dot", aroundEuro.tail⟩).1 =
      some (.ok output) ∧ output.exitCode = some 0 := by
  have clean : Utf8.replacement ∉ "€".toList := by decide
  have made : (Mocks.new (.failWhenArgContains "€")).handles[0]? =
      some ⟨.failWhenArgContains "€", 0⟩ := rfl
  refine ⟨clean, ?_, ?_⟩
  · obtain ⟨⟨output, answered, one, _⟩, _⟩ :=
      fails_where_bytes_stand clean _ made rfl ⟨"dot", aroundEuro⟩
    refine ⟨output, answered, one.mpr ⟨_, List.mem_cons_self, ?_⟩⟩
    exact ⟨[0xF0, 0x9F], [0x80], rfl⟩
  · obtain ⟨⟨output, answered, _, zero⟩, _⟩ :=
      fails_where_bytes_stand clean _ made rfl ⟨"dot", aroundEuro.tail⟩
    refine ⟨output, answered, zero.mpr ?_⟩
    rintro ⟨arg, hm, stands⟩
    obtain rfl := List.mem_singleton.mp hm
    exact absurd stands.length_le (by decide)

-- The mark itself is shown for bytes that are not its own.
example : Behaviour.mentions "\uFFFD" [0xFF] = true ∧
    occurs (Utf8.encode "\uFFFD") [0xFF] = false := by
  decide

end GraphBatch
