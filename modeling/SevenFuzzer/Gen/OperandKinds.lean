import SevenFuzzer.Gen.FamilyCodes
import SevenFuzzer.Gen.Logged

/-! # Operand kinds

The factory builds every immediate as a plain 32-bit one, and the family stamps it with the kind
its code asks for. An instruction whose kinds differ from those of its code is rejected by the
encoder, and `next` tries again, so that the code is never emitted. `Family.genRows` is the
family function that also returns the row its instruction was built from: the kinds are right
but for three kinds of rows, and a code that a family names is emitted unless it stands in one
of them (`SevenFuzzer.operands_stamped_iff`).
-/

namespace SevenFuzzer

open Draw InstructionFactory

/-- What an instruction is built from, where the rows of a family differ in how they stamp. -/
inductive OperandRow where
  | other
  /-- a row of `kBmi` -/
  | bmi (e : BmiEntry)
  /-- a row of `kVexSimd` -/
  | vex (e : VexEntry)
  /-- a form of `gen_x87_control` -/
  | control (form : Nat)

/-- The operands are given the kinds the code asks for: the immediate of RORX keeps its own, that
of a VEX or EVEX shuffle with two sources is stamped in another place, and FNSTSW AX is built
without its register. -/
def OperandRow.stamped : OperandRow → Bool
  | .other => true
  | .bmi e => e.shape ≠ .kDstRmImm
  | .vex e => e.shape ≠ .kDstSrcRmImm
  | .control form => form ≠ 0

/-- A family, with the row of the instruction. -/
def Family.genRows (caps : HostCaps) : Family → Gen (Option (Instruction × OperandRow))
  | .gen_bmi => do
      let e ← pick kBmi kBmi_nonempty
      Option.map (·, .bmi e) <$> genBmiEntry e
  | .gen_vex_simd => do
      if ¬ caps.avx ∨ ¬ caps.avx2 then
        return none
      else
        setFlagsMask 0
        match ← pickVexEntry caps.evexOk 8 with
        | none => return none
        | some entry => Option.map (·, .vex entry) <$> genVexEntry entry
  | .gen_x87_control => do
      let form ← between 0 6
      Option.map (·, .control form) <$> genX87ControlForm form
  | f => Option.map (·, .other) <$> f.gen caps

/-- Leaving out the row gives the family back. -/
theorem erase_genRows (caps : HostCaps) (f : Family) :
    Option.map Prod.fst <$> f.genRows caps = f.gen caps := by
  cases f with
  | gen_bmi =>
      simp only [Family.genRows, Family.gen, genBmi, map_bind, erase_unlogged]
  | gen_vex_simd =>
      simp only [Family.genRows, Family.gen, genVexSimd]
      split
      · simp only [map_pure, Option.map_none]
      · simp only [map_bind]
        refine bind_congr fun _ => bind_congr fun picked => ?_
        cases picked with
        | none => simp only [map_pure, Option.map_none]
        | some entry => exact erase_unlogged _ _
  | gen_x87_control =>
      simp only [Family.genRows, Family.gen, genX87Control, map_bind, erase_unlogged]
  | _ => exact erase_unlogged _ _

/-- Of the control forms, only the store to AX is stamped with the wrong kind. -/
theorem x87Control_misstamped {form : Nat} {code : Code} (listed : code ∈ x87ControlCodes form) :
    code.misstamped = decide (form = 0) := by
  match form, listed with
  | 0, listed | 1, listed | 2, listed | 3, listed | 4, listed | 5, listed =>
      obtain rfl := List.mem_singleton.mp listed
      rfl
  | _ + 6, listed =>
      rcases List.mem_pair.mp listed with rfl | rfl
      · rfl
      · rfl

/-- The encodings of the other families are stamped correctly. -/
theorem codes_stamped {f : Family}
    (plain : f ≠ .gen_bmi ∧ f ≠ .gen_vex_simd ∧ f ≠ .gen_x87_control) :
    ∀ code ∈ f.codes, code.misstamped = false := by
  cases f <;> first
    | exact absurd rfl plain.1
    | exact absurd rfl plain.2.1
    | exact absurd rfl plain.2.2
    | decide +kernel

section

variable {caps : HostCaps} {c : Ctx}

/-- What a family ends with: nothing, or a built instruction, with a code that is built wrong
exactly if its row is. -/
def HoldsRow (caps : HostCaps) (result : Option (Instruction × OperandRow)) (c : Ctx) : Prop :=
  ∀ instr row, result = some (instr, row) →
    Built caps c instr ∧ (instr.code.misstamped = false ↔ row.stamped = true)

/-- The rule for what is built from one row. -/
theorem always_row {prog : Gen (Option Instruction)} {row : OperandRow}
    (built : always prog (Builds caps) c)
    (codes : ∀ code, Gives prog c code → (code.misstamped = false ↔ row.stamped = true)) :
    always (Option.map (·, row) <$> prog) (HoldsRow caps) c := by
  rw [← bind_pure_comp, always_seq]
  refine (Always.and built (always_of_gives codes)).mono fun ended held instr row' same => ?_
  obtain ⟨found, returned, paired⟩ := Option.map_eq_some_iff.mp same
  obtain ⟨rfl, rfl⟩ := Prod.mk.inj paired
  exact ⟨held.1 found returned, held.2 found returned⟩

/-- Every family's instruction belongs to the row that is logged. -/
theorem genRows_rows (f : Family) : always (f.genRows caps) (HoldsRow caps) {} := by
  have other (plain : f ≠ .gen_bmi ∧ f ≠ .gen_vex_simd ∧ f ≠ .gen_x87_control) :
      always (Option.map (·, OperandRow.other) <$> f.gen caps) (HoldsRow caps) {} := by
    refine always_row (family_built f) fun code gives => iff_of_true ?_ rfl
    exact codes_stamped plain code ((family_gives_iff _ code caps f).mp gives).1
  cases f with
  | gen_bmi =>
      simp only [Family.genRows, always_seq, always_lift, always_pick]
      refine fun e listed => always_row (genBmiEntry_built listed) fun code gives => ?_
      have stamped := kBmi_misstamped listed
      rcases (genBmiEntry_codes _ code e).mp gives with rfl | rfl
      · simp [stamped .W32, OperandRow.stamped]
      · simp [stamped .W64, OperandRow.stamped]
  | gen_vex_simd =>
      simp only [Family.genRows, setFlagsMask, always_seq, always_lift, always_ite, always_modify,
        always_return]
      split
      · rintro _ _ ⟨⟩
      · rename_i enabled
        rw [not_or, not_not, not_not] at enabled
        refine always_pickVexEntry (by rintro _ _ ⟨⟩) (fun e listed usable => ?_) 8
        have host := (supports_row_iff caps listed).mpr ⟨enabled.1, enabled.2, usable⟩
        refine always_row (genVexEntry_built listed host) fun code gives => ?_
        simp [(genVexEntry_codes _ code e).mp gives, kVexSimd_misstamped e listed,
          OperandRow.stamped]
  | gen_x87_control =>
      simp only [Family.genRows, always_seq, always_lift]
      refine always_of_forall fun form =>
        always_row (genX87ControlForm_built form) fun code gives => ?_
      have listed := (genX87ControlForm_codes _ code form).mp gives
      simp [x87Control_misstamped listed, OperandRow.stamped]
  | _ => exact other (by decide)

/-- A built instruction's kinds match exactly if its encoding is not one of the misstamped. -/
theorem Built.kindsMatch_iff {instr : Instruction} (built : Built caps c instr) :
    instr.KindsMatch ↔ instr.code.misstamped = false := by
  constructor
  · intro kinds
    by_contra slip
    exact built.misstamped (Bool.eq_true_of_not_eq_false slip) kinds
  · exact fun stamped => (built.encodable stamped).operands.kinds

/-- What is returned with a row is returned by the family. -/
theorem sometimes_of_row {f : Family} {instr : Instruction} {row : OperandRow}
    (reached : sometimes (f.genRows caps) (fun result _ => result = some (instr, row)) c) :
    sometimes (f.gen caps) (fun result _ => result = some instr) c := by
  rw [← erase_genRows, ← bind_pure_comp, sometimes_seq]
  refine sometimes_mono reached fun result _ same => ?_
  rw [sometimes_return, same, Option.map_some]

variable {encode : Instruction → Option (List (BitVec 8))}

/-- The encoder takes a built instruction exactly if it is not misstamped. -/
theorem encoded_iff (rejects : ∀ instr, ¬ instr.KindsMatch → encode instr = none)
    {instr : Instruction} (built : Built caps c instr)
    (accepts : instr.Encodable → ∃ byte bytes, encode instr = some (byte :: bytes)) :
    (∃ byte bytes, encode instr = some (byte :: bytes)) ↔ instr.code.misstamped = false := by
  constructor
  · rintro ⟨byte, bytes, encoded⟩
    rw [← built.kindsMatch_iff]
    by_contra mismatch
    cases encoded.symm.trans (rejects instr mismatch)
  · exact fun stamped => accepts (built.encodable stamped)

end

/-- **Operand kinds.** Whatever is drawn, an instruction has the kinds of its code, and is encoded,
exactly if the row it is built from is stamped. A code that a family names is emitted by some
draws exactly if it is none of those that are built wrong and the host supports it. -/
theorem operands_stamped_iff (encode : Instruction → Option (List (BitVec 8))) (caps : HostCaps)
    (discarded : Nat) (rejects : ∀ instr, ¬ instr.KindsMatch → encode instr = none)
    (accepts : ∀ (f : Family) instr,
      sometimes (f.gen caps) (fun result _ => result = some instr) {} → instr.Encodable →
        ∃ byte bytes, encode instr = some (byte :: bytes)) (f : Family) :
    Option.map Prod.fst <$> f.genRows caps = f.gen caps ∧
      always (f.genRows caps) (fun result _ => ∀ instr row, result = some (instr, row) →
        (instr.KindsMatch ↔ row.stamped = true) ∧
          ((∃ byte bytes, encode instr = some (byte :: bytes)) ↔ row.stamped = true)) {} ∧
      ∀ code ∈ f.codes,
        ((next encode caps discarded).Sometimes fun ended => ended.1.instruction.code = code) ↔
          code.misstamped = false ∧ caps.Supports code := by
  refine ⟨erase_genRows caps f, ?_, fun code listed => ⟨fun emitted => ?_, ?_⟩⟩
  · refine (Always.and (genRows_rows f) (always_reached _)).mono fun ended held instr row same => ?_
    obtain ⟨built, stamped⟩ := held.1 instr row same
    have reached : sometimes (f.genRows caps) (fun result _ => result = some (instr, row)) {} :=
      held.2.mono fun _ drawn => by rw [drawn, same]
    rw [encoded_iff rejects built (accepts f instr (sometimes_of_row reached)),
      built.kindsMatch_iff]
    exact ⟨stamped, stamped⟩
  · obtain ⟨ended, rfl, fell | accepted⟩ := emitted.meets (next_produced discarded)
    · rw [fell]
      exact ⟨rfl, nofun⟩
    · refine ⟨?_, accepted.built.host⟩
      rw [← accepted.built.kindsMatch_iff]
      by_contra mismatch
      cases accepted.encoded.symm.trans (rejects _ mismatch)
  · rintro ⟨stamped, host⟩
    have gives := (family_gives_iff {} code caps f).mpr ⟨listed, host⟩
    obtain ⟨⟨result, c⟩, ⟨instr, returned, rfl⟩, built, reached⟩ :=
      gives.meets (Always.and (family_built f) (always_reached _))
    dsimp only at returned built reached
    subst returned
    obtain ⟨byte, bytes, encoded⟩ :=
      accepts f instr (reached.mono fun ended drawn => congrArg Prod.fst drawn)
        ((built instr rfl).encodable stamped)
    have every : f ∈ kFamilies := by cases f <;> decide
    have builds : sometimes (f.gen caps) (fun result c' => result = some instr ∧ c' = c) {} :=
      reached.mono fun ended drawn => Prod.mk.inj drawn
    refine (sometimes_next every builds encoded (fun _ => 0) discarded).mono ?_
    rintro ended ⟨rfl, -⟩
    rfl

/-- An encoder that accepts what fits its code. -/
def encodesFit (instr : Instruction) : Option (List (BitVec 8)) :=
  if operandsFit instr.immediate instr.code.operands instr.operands then some [0x90#8] else none

/-- RORX is named and never emitted, ANDN is. -/
theorem operands_stamped_bmi :
    (¬ (next encodesFit {} 0).Sometimes fun ended =>
      ended.1.instruction.code = BmiEntry.code ⟨.RORX, .kDstRmImm, false⟩ .W32) ∧
    (next encodesFit {} 0).Sometimes fun ended =>
      ended.1.instruction.code = BmiEntry.code ⟨.ANDN, .kDstSrcRm, true⟩ .W32 := by
  have emitted := (operands_stamped_iff encodesFit {} 0
    (fun instr mismatch => if_neg fun fits => mismatch (kindsMatch_of_operandsFit fits))
    (fun f instr _ encodable => ⟨0x90#8, [], if_pos encodable.operands⟩) .gen_bmi).2.2
  constructor
  · intro some
    exact absurd ((emitted _ (by decide)).mp some).1 (by decide)
  · exact (emitted _ (by decide)).mpr ⟨rfl, nofun⟩

/-- A host with AVX2. -/
def avx2Host : HostCaps := { avx := true, avx2 := true }

/-- Draws for VSHUFPS of three registers. -/
def shuffleDraws : List Nat := [191, 0, 1, 2, 1, 50, 3]

/-- Its third operand is stamped, and the immediate, which is the fourth, keeps its kind. -/
theorem shuffle_misstamped : ∃ instr c,
    ((genVexSimd avx2Host).run {}).run shuffleDraws = some ((some instr, c), []) ∧
      instr.code = VEX .VSHUFPS XMM_XMM_XMMM128_IMM8 ∧
      instr.operands.map Operand.kind = [.REGISTER, .REGISTER, .IMMEDIATE8, .IMMEDIATE32] ∧
      ¬ instr.KindsMatch := by
  have ends : (((genVexSimd avx2Host).run {}).run shuffleDraws).map (fun ended =>
      (ended.1.1.map fun instr => (instr.code, instr.operands.map Operand.kind,
        kindsMatch instr.code.operands instr.operands), ended.2)) =
      some (some (VEX .VSHUFPS XMM_XMM_XMMM128_IMM8,
        [.REGISTER, .REGISTER, .IMMEDIATE8, .IMMEDIATE32], false), []) := by
    decide +kernel
  obtain ⟨⟨⟨built, c⟩, rest⟩, ran, same⟩ := Option.map_eq_some_iff.mp ends
  obtain ⟨found, rfl⟩ := Prod.mk.inj same
  obtain ⟨instr, rfl, facts⟩ := Option.map_eq_some_iff.mp found
  obtain ⟨code, facts⟩ := Prod.mk.inj facts
  obtain ⟨kinds, mismatch⟩ := Prod.mk.inj facts
  refine ⟨instr, c, ran, code, kinds, fun fits => ?_⟩
  rw [Instruction.KindsMatch, mismatch] at fits
  cases fits

end SevenFuzzer
