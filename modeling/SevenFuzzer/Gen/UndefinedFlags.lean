import SevenFuzzer.Gen.Produced

/-! # Undefined flags

The flags mask of a test case against the flags its instruction leaves undefined in
its initial state. The mask is chosen by the family, so it is right exactly when the
family does not mix opcodes that differ in what they define (`flagsMask_iff`).
-/

namespace SevenFuzzer

open Draw InstructionFactory

variable {encode : Instruction → Option (List (BitVec 8))} {caps : HostCaps}

theorem fallback_defines (gpr : Fin 16 → BitVec 64) :
    fallback.instruction.undefinedFlags gpr = 0#64 ∧ ¬ fallback.instruction.KeepsUndefined gpr := by
  refine ⟨rfl, ?_⟩
  rintro (kept | ⟨shift, -⟩)
  · cases kept
  · cases shift

/-- **Undefined flags are compared exactly for certain instructions.** The mask of a
test case holds no flag its instruction leaves undefined, unless the instruction is
AND, OR, XOR, TEST, LZCNT, TZCNT or BEXTR, or a shift whose count is not zero. -/
theorem flagsMask_iff (encode : Instruction → Option (List (BitVec 8))) (caps : HostCaps)
    (discarded : Nat) :
    (next encode caps discarded).Always fun ended =>
      ended.1.testCase.flagsMask &&&
          ended.1.instruction.undefinedFlags ended.1.testCase.initial.gpr = 0#64 ↔
        ¬ ended.1.instruction.KeepsUndefined ended.1.testCase.initial.gpr := by
  refine (next_produced discarded).mono fun ended produced => ?_
  rcases produced with fell | accepted
  · obtain ⟨defined, keeps⟩ := fallback_defines ended.1.testCase.initial.gpr
    rw [fell] at defined keeps ⊢
    simp only [defined, keeps, BitVec.and_zero, not_false_eq_true]
  · rw [accepted.finished.mask]
    exact accepted.built.flags ended.1.testCase.initial.gpr

/-- `AND EAX, ECX`. -/
def andEaxEcx : Instruction := with2 ((aluCodes .AND).rmR .W32) (regOf .W32 0) (regOf .W32 1)

/-- An encoder that knows this instruction only. -/
def encodesAnd (instr : Instruction) : Option (List (BitVec 8)) :=
  if instr = andEaxEcx then some [0x21#8, 0xC8#8] else none

/-- The draws of the family, the row of AND, 32 bits, two registers, EAX and ECX; and
then whatever follows. -/
def andDraws : List Nat := [0, 4, 2, 0, 0, 1] ++ List.replicate 500 0

/-- AF is compared after AND. -/
theorem and_compares_af :
    ((next encodesAnd {} 0).run andDraws).map (fun ended =>
      (ended.1.1.testCase.bytes, ended.1.1.testCase.flagsMask &&&
        ended.1.1.instruction.undefinedFlags ended.1.1.testCase.initial.gpr)) =
      some ([0x21#8, 0xC8#8], AF) := by
  decide +kernel

end SevenFuzzer
