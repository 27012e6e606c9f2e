import SevenFuzzer.Gen.BuiltX87

/-! # What the generator produces

A test case of `next` is the fallback, or comes from an instruction some family built
and the encoder accepted (`SevenFuzzer.next_produced`). Conversely every instruction a
family can build and the encoder accepts is produced by some draws, with any values
in the registers that are neither pinned nor forced (`SevenFuzzer.sometimes_next`).
-/

namespace SevenFuzzer

open Draw

/-- What a test case takes from the context and the bytes it was finished with. -/
structure Finished (c : Ctx) (bytes : List (BitVec 8)) (tc : TestCase) : Prop where
  bytes : tc.bytes = bytes
  gpr : ∃ drawn, tc.initial.gpr = pinGpr c drawn
  touches : tc.touchesMemory = c.touchesMemory
  mask : tc.flagsMask = c.flagsMask
  seed : ∃ drawn, tc.dataSeed = plantAll c drawn

/-- A test case of an instruction that was built and encoded. -/
structure Accepted (encode : Instruction → Option (List (BitVec 8))) (caps : HostCaps)
    (g : Generated) : Prop where
  built : Built caps g.ctx g.instruction
  encoded : encode g.instruction = some g.testCase.bytes
  nonempty : g.testCase.bytes ≠ []
  finished : Finished g.ctx g.testCase.bytes g.testCase

/-- What `next` makes of a context, field by field. -/
theorem finishCase_finished (c : Ctx) (bytes : List (BitVec 8)) :
    (finishCase c bytes).Always (Finished c bytes) := by
  simp only [finishCase, always_bind, always_pure]
  refine always_of_forall fun drawnGpr => always_of_forall fun drawnXmm => ?_
  refine always_of_forall fun x87 => always_of_forall fun fl => always_of_forall fun drawnSeed => ?_
  exact ⟨rfl, ⟨drawnGpr, rfl⟩, rfl, rfl, ⟨drawnSeed, rfl⟩⟩

section

variable {encode : Instruction → Option (List (BitVec 8))} {caps : HostCaps}

/-- What holds of every instruction of a family with its context, and of every test case
finished from one, holds of what `next` returns, but for the fallback. -/
theorem next_from {family : Ctx → Instruction → Prop}
    {finished : Ctx → List (BitVec 8) → TestCase → Prop}
    (families : ∀ f : Family, always (f.gen caps)
      (fun result c => ∀ instr, result = some instr → family c instr) {})
    (finishing : ∀ c bytes, (finishCase c bytes).Always (finished c bytes)) (discarded : Nat) :
    (next encode caps discarded).Always fun ended => ended.1 = fallback ∨
      ∃ bytes ≠ [], encode ended.1.instruction = some bytes ∧
        family ended.1.ctx ended.1.instruction ∧
        finished ended.1.ctx bytes ended.1.testCase := by
  have attempted : (attempt encode caps).Always fun ended => ∀ g, ended = some g →
      ∃ bytes ≠ [], encode g.instruction = some bytes ∧ family g.ctx g.instruction ∧
        finished g.ctx bytes g.testCase := by
    simp only [attempt, always_bind, always_pick]
    intro f _
    refine (families f).mono fun ended builds => ?_
    obtain ⟨built, c⟩ := ended
    cases built with
    | none =>
        intro g same
        cases same
    | some instr =>
        have right := builds instr rfl
        dsimp only
        split
        · intro g same
          cases same
        · intro g same
          cases same
        · rename_i byte bytes encoded
          simp only [always_bind]
          refine (finishing c (byte :: bytes)).mono fun tc done => ?_
          intro g same
          obtain rfl := Option.some.inj same
          exact ⟨byte :: bytes, List.cons_ne_nil _ _, encoded, right, done⟩
  suffices loop : ∀ attempts discarded, (nextLoop encode caps attempts discarded).Always
      fun ended => ended.1 = fallback ∨ ∃ bytes ≠ [], encode ended.1.instruction = some bytes ∧
        family ended.1.ctx ended.1.instruction ∧ finished ended.1.ctx bytes ended.1.testCase from
    loop 200 discarded
  intro attempts
  induction attempts with
  | zero => exact fun _ => .inl rfl
  | succ attempts ih =>
      intro discarded
      simp only [nextLoop, always_bind]
      refine attempted.mono fun ended accepted => ?_
      cases ended with
      | none => exact ih (discarded + 1)
      | some g => exact .inr (accepted g rfl)

/-- **What `next` returns.** -/
theorem next_produced (discarded : Nat) :
    (next encode caps discarded).Always fun ended =>
      ended.1 = fallback ∨ Accepted encode caps ended.1 := by
  refine (next_from family_built finishCase_finished discarded).mono fun ended produced => ?_
  refine produced.imp_right fun ⟨bytes, nonempty, encoded, built, finished⟩ => ?_
  obtain rfl := finished.bytes
  exact ⟨built, encoded, nonempty, finished⟩

/-- A planted byte is found where it was planted. -/
theorem plant_inside {offset size i : Nat} (fits : offset + size ≤ kDataWindow) (below : i < size)
    (fill : Fin kDataWindow → BitVec 8) (bytes : Nat → BitVec 8)
    {inside : offset + i < kDataWindow} :
    plant fill offset size bytes ⟨offset + i, inside⟩ = bytes i := by
  rw [plant, if_pos fits, if_pos ⟨Nat.le_add_right offset i, Nat.add_lt_add_left below offset⟩,
    Nat.add_sub_cancel_left]

/-- The other bytes stay. -/
theorem plant_outside {offset size : Nat} {i : Fin kDataWindow}
    (outside : ¬ (offset ≤ i ∧ i < offset + size)) (fill : Fin kDataWindow → BitVec 8)
    (bytes : Nat → BitVec 8) : plant fill offset size bytes i = fill i := by
  unfold plant
  split
  · exact if_neg outside
  · rfl

/-- Every word is drawn sometimes. -/
theorem sometimes_randomInterestingU64 (word : BitVec 64) :
    randomInterestingU64.Sometimes fun value => value = word := by
  simp only [randomInterestingU64, sometimes_bind, sometimes_between]
  refine ⟨99, by decide, ?_⟩
  simp only [fullU64, Nat.reduceLT, Nat.zero_add, ↓reduceIte, sometimes_map, sometimes_between]
  refine ⟨word.toNat, by omega, ?_⟩
  rw [BitVec.ofNat_toNat, BitVec.setWidth_eq]

/-- The registers of a test case can be drawn at will. -/
theorem sometimes_finishCase (c : Ctx) (bytes : List (BitVec 8)) (gpr : Fin 16 → BitVec 64) :
    (finishCase c bytes).Sometimes fun tc =>
      tc.bytes = bytes ∧ tc.initial.gpr = pinGpr c gpr ∧ tc.flagsMask = c.flagsMask := by
  simp only [finishCase, sometimes_bind, sometimes_pure]
  refine (sometimes_array gpr fun i => sometimes_randomInterestingU64 (gpr i)).mono ?_
  intro drawn same
  simp only [same, and_self, sometimes_const]

/-- Every instruction a family can build and the encoder accepts is produced. -/
theorem sometimes_next {f : Family} (listed : f ∈ kFamilies) {instr : Instruction} {c : Ctx}
    (builds : sometimes (f.gen caps) (fun result c' => result = some instr ∧ c' = c) {})
    {byte : BitVec 8} {bytes : List (BitVec 8)} (encoded : encode instr = some (byte :: bytes))
    (gpr : Fin 16 → BitVec 64) (discarded : Nat) :
    (next encode caps discarded).Sometimes fun ended =>
      ended.1.instruction = instr ∧ ended.1.ctx = c ∧
        ended.1.testCase.initial.gpr = pinGpr c gpr ∧ ended.1.testCase.flagsMask = c.flagsMask := by
  change (nextLoop encode caps (199 + 1) discarded).Sometimes _
  rw [nextLoop]
  simp only [attempt, sometimes_bind, sometimes_pick]
  refine ⟨f, listed, builds.mono fun ended same => ?_⟩
  obtain ⟨built, c'⟩ := ended
  obtain ⟨rfl, rfl⟩ := same
  simp only [encoded, sometimes_bind]
  refine (sometimes_finishCase c' (byte :: bytes) gpr).mono fun tc finished => ?_
  exact ⟨rfl, rfl, finished.2⟩

end

end SevenFuzzer
