import SevenFuzzer.Gen.BranchContainment
import SevenFuzzer.Gen.Recorded
import SevenFuzzer.Library.Words

/-! # Scans of zero

BSF and BSR leave their destination undefined when the source is zero, and the generator
excludes it from the comparison then. What it takes for the source is what the processor
will read, from the registers or from the seed (`SevenFuzzer.scan_mask_exact`).
-/

namespace SevenFuzzer

open Draw InstructionFactory

/-- Some bytes of memory as a number, lowest first. -/
def readLittle (memory : BitVec 64 → BitVec 8) (address : BitVec 64) (size : Nat) : Nat :=
  Nat.ofDigits 256 ((List.range size).map fun i => (memory (address + BitVec.ofNat 64 i)).toNat)

/-- The value the processor reads for the second operand. -/
def Instruction.sourceOf (instr : Instruction) (tc : TestCase) : Nat :=
  match instr.operands, instr.memory with
  | [_, { kind := .REGISTER, register := register }], _ => register.value tc.initial.gpr
  | [_, { kind := .MEMORY, .. }], some m =>
      readLittle (initialMemory tc) (m.effectiveAddress tc.initial.gpr) instr.memorySize
  | _, _ => 0

/-- A BSF or BSR to a register, of a source that is zero. -/
structure ScansZero (g : Generated) (i : Fin 16) : Prop where
  mnemonic : g.instruction.code.mnemonic = .rmsrc .BSF ∨ g.instruction.code.mnemonic = .rmsrc .BSR
  dest : ∃ w, g.instruction.operands.head? = some { kind := .REGISTER, register := .gpr w i }
  source : g.instruction.sourceOf g.testCase = 0

/-- A value read from memory is zero exactly if all its bytes are. -/
theorem readLittle_eq_zero_iff (memory : BitVec 64 → BitVec 8) (address : BitVec 64) (size : Nat) :
    readLittle memory address size = 0 ↔ ∀ i < size, memory (address + BitVec.ofNat 64 i) = 0 := by
  have zero (byte : BitVec 8) : byte.toNat = 0 ↔ byte = 0 := by
    rw [← BitVec.toNat_inj]
    rfl
  have digits (bytes : List Nat) : Nat.ofDigits 256 bytes = 0 ↔ ∀ byte ∈ bytes, byte = 0 := by
    induction bytes with
    | nil => simp
    | cons byte bytes ih => simp [Nat.ofDigits_cons, ih]
  simp only [readLittle, digits, List.mem_map, List.mem_range, forall_exists_index, and_imp,
    forall_apply_eq_imp_iff₂, zero]

/-- The value under the mask of the width, which a qword does not need. -/
def masked (w : Width) (value : BitVec 64) : BitVec 64 :=
  if 0 < bytesOf w ∧ bytesOf w < 8 then value &&& ((1#64 <<< (8 * bytesOf w)) - 1#64) else value

/-- A register is zero at a width exactly if its low bits are. -/
theorem masked_eq_zero_iff (w : Width) (value : BitVec 64) :
    masked w value = 0#64 ↔ value.toNat % 2 ^ bitsOf w = 0 := by
  have zero (word : BitVec 64) : word = 0#64 ↔ word.toNat = 0 := by
    rw [← BitVec.toNat_inj]
    rfl
  unfold masked
  cases w with
  | W64 => rw [if_neg (by decide), zero, bitsOf, Nat.mod_eq_of_lt value.isLt]
  | _ =>
      rw [if_pos (by decide), zero, toNat_and_lowMask value (by decide)]
      rfl

/-- A word is zero exactly if all its bytes are. -/
theorem join_eq_zero_iff {count : Nat} (fits : count * 8 ≤ 64) (bytes : Nat → BitVec 8) :
    Words.join 64 count bytes = 0#64 ↔ ∀ i < count, bytes i = 0 := by
  constructor
  · intro zero i below
    apply BitVec.eq_of_getLsbD_eq
    intro bit inside
    have joined := Words.getLsbD_join fits bytes (i * 8 + bit)
    have slot : (i * 8 + bit) / 8 = i := by omega
    have place : (i * 8 + bit) % 8 = bit := by omega
    have within : i * 8 + bit < count * 8 := by omega
    rw [zero, slot, place, decide_eq_true within, Bool.true_and] at joined
    simpa using joined.symm
  · intro zero
    apply BitVec.eq_of_getLsbD_eq
    intro bit _
    rw [Words.getLsbD_join fits]
    rcases Nat.lt_or_ge bit (count * 8) with inside | outside
    · simp [zero (bit / 8) (by omega)]
    · simp [outside.not_gt]

/-- The bytes joined are below the mask. -/
theorem masked_join (w : Width) (bytes : Nat → BitVec 8) :
    masked w (Words.join 64 (bytesOf w) bytes) = 0#64 ↔ ∀ i < bytesOf w, bytes i = 0 := by
  have fits : bytesOf w * 8 ≤ 64 := by cases w <;> decide
  have bits : bitsOf w = bytesOf w * 8 := by cases w <;> rfl
  have small : (Words.join 64 (bytesOf w) bytes).toNat < 2 ^ bitsOf w := by
    apply Nat.lt_pow_two_of_testBit
    intro bit above
    rw [BitVec.testBit_toNat, Words.getLsbD_join fits]
    simp [show ¬ bit < bytesOf w * 8 by omega]
  rw [masked_eq_zero_iff, Nat.mod_eq_of_lt small, ← join_eq_zero_iff fits, ← BitVec.toNat_inj]
  rfl

/-- Where a small displacement is in the seed. -/
theorem offsetOf_small {disp : Nat} (small : disp ≤ 0x7F) :
    offsetOf (BitVec.ofNat 8 disp) = disp := by
  have extended := displacement_memOperand small
  change (BitVec.ofNat 8 disp).signExtend 64 = BitVec.ofInt 64 disp at extended
  rw [offsetOf, extended, BitVec.ofInt_natCast, BitVec.toNat_ofNat]
  omega

/-- The source the generator takes from memory is the bytes of the seed. -/
theorem bsfBsrSource_memory {c : Ctx} {w : Width} {disp : Nat} (small : disp ≤ 0x7F)
    (noRegister : c.bsfBsrSrcReg = none)
    (source : c.bsfBsrSrcMemDisp = some (BitVec.ofNat 8 disp))
    (width : c.bsfBsrWidthBytes = bytesOf w) (gpr : Fin 16 → BitVec 64)
    (seed : Fin kDataWindow → BitVec 8) :
    bsfBsrSource c gpr seed =
      some (masked w (Words.join 64 (bytesOf w) fun i => seedAt seed (disp + i))) := by
  have inside : disp + bytesOf w ≤ kDataWindow := by
    have narrow : bytesOf w ≤ 8 := by cases w <;> decide
    unfold kDataWindow
    omega
  have joined : (List.range (bytesOf w)).foldl (fun value b =>
      value ||| ((seedAt seed (disp + b)).setWidth 64 <<< (8 * b))) 0#64 =
      Words.join 64 (bytesOf w) fun i => seedAt seed (disp + i) := by
    simp only [Words.join, Nat.mul_comm 8]
    rfl
  simp only [bsfBsrSource, noRegister, source, width, offsetOf_small small, if_pos inside, joined,
    Option.map_some]
  rfl

/-- With a recorded scan, only its destination can be left out, and only for a zero source. -/
theorem compareMask_getLsbD {c : Ctx} {gpr : Fin 16 → BitVec 64} {seed : Fin kDataWindow → BitVec 8}
    {d : Fin 16} (dest : c.bsfBsrDest = some d) (i : Fin 16) :
    (compareMask c gpr seed).getLsbD i = false ↔ i = d ∧ bsfBsrSource c gpr seed = some 0#64 := by
  have cleared : ∀ d i : Fin 16,
      (0xFFFF#32 &&& ~~~(1#32 <<< d.val)).getLsbD i.val = false ↔ i = d := by decide
  have full : ∀ i : Fin 16, (0xFFFF#32).getLsbD i.val = true := by decide
  simp only [compareMask, dest]
  split
  · rename_i zero
    simp only [cleared, zero, and_true]
  · rename_i nonzero
    simp only [full, nonzero, and_false, Bool.true_eq_false]

/-- Without one, every register is compared. -/
theorem compareMask_none {c : Ctx} {gpr : Fin 16 → BitVec 64} {seed : Fin kDataWindow → BitVec 8}
    (dest : c.bsfBsrDest = none) (i : Fin 16) : (compareMask c gpr seed).getLsbD i = true := by
  have full : ∀ i : Fin 16, (0xFFFF#32).getLsbD i.val = true := by decide
  simp only [compareMask, dest]
  exact full i

/-- What a test case is finished with that bears on the mask. -/
structure MaskFinished (c : Ctx) (tc : TestCase) : Prop where
  mask : tc.gprCompareMask = compareMask c tc.initial.gpr tc.dataSeed
  gpr : ∃ drawn, tc.initial.gpr = pinGpr c drawn

/-- The finished test case carries the mask of its context. -/
theorem finishCase_mask (c : Ctx) (bytes : List (BitVec 8)) :
    (finishCase c bytes).Always (MaskFinished c) := by
  simp only [finishCase, always_bind, always_pure]
  refine always_of_forall fun drawnGpr => always_of_forall fun drawnXmm => ?_
  refine always_of_forall fun x87 => always_of_forall fun fl => always_of_forall fun drawnSeed => ?_
  exact ⟨rfl, drawnGpr, rfl⟩

/-- Exactly the registers whose scan is of zero are left out of the comparison. -/
def MaskExact (g : Generated) : Prop :=
  ∀ i : Fin 16, g.testCase.gprCompareMask.getLsbD i = false ↔ ScansZero g i

/-- An instruction that is no scan scans no zero. -/
theorem not_scansZero {g : Generated} (mnemonic : g.instruction.code.mnemonic.isScan = false)
    (i : Fin 16) : ¬ ScansZero g i := by
  intro scans
  rcases scans.mnemonic with bsf | bsr
  · rw [bsf] at mnemonic
    cases mnemonic
  · rw [bsr] at mnemonic
    cases mnemonic

/-- A scan into a register, of a source the generator takes for what it is. -/
theorem scansZero_iff {g : Generated} {op : RmSrcOp} {w : Width} {d : Fin 16} {source : Argument}
    (scan : isBsfBsr op = true)
    (built : g.instruction = with2 (rmSrcCode op w) (regOf w d) source) (i : Fin 16) :
    ScansZero g i ↔ i = d ∧ g.instruction.sourceOf g.testCase = 0 := by
  have head : g.instruction.operands.head? =
      some { kind := .REGISTER, register := .gpr w d } := by
    rw [built]
    cases source <;> rfl
  have mnemonic : g.instruction.code.mnemonic = .rmsrc op := by
    rw [built]
    cases source <;> rfl
  constructor
  · rintro ⟨-, ⟨w', dest⟩, zero⟩
    rw [head] at dest
    cases dest
    exact ⟨rfl, zero⟩
  · rintro ⟨rfl, zero⟩
    refine ⟨?_, ⟨w, head⟩, zero⟩
    rw [mnemonic]
    cases op with
    | BSF => exact .inl rfl
    | BSR => exact .inr rfl
    | _ => cases scan

/-- A recorded scan gives the exact mask. -/
theorem maskExact_of_recorded {g : Generated} (recorded : Recorded g.ctx g.instruction)
    (finished : MaskFinished g.ctx g.testCase) : MaskExact g := by
  intro i
  rw [finished.mask]
  cases recorded.scan with
  | other mnemonic dest =>
      rw [compareMask_none dest]
      exact iff_of_false (by decide) (not_scansZero mnemonic i)
  | register op w d s scan built dest source width =>
      rw [compareMask_getLsbD dest, scansZero_iff scan built]
      have taken : bsfBsrSource g.ctx g.testCase.initial.gpr g.testCase.dataSeed =
          some (masked w (g.testCase.initial.gpr s)) := by
        simp only [bsfBsrSource, source, width, Option.map_some]
        rfl
      have read : g.instruction.sourceOf g.testCase =
          (g.testCase.initial.gpr s).toNat % 2 ^ bitsOf w := by
        rw [built]
        rfl
      rw [taken, read, Option.some_inj, masked_eq_zero_iff]
  | memory op w d disp scan small built dest noRegister source width pins =>
      rw [compareMask_getLsbD dest, scansZero_iff scan built,
        bsfBsrSource_memory small noRegister source width, Option.some_inj, masked_join]
      obtain ⟨drawn, gpr⟩ := finished.gpr
      have rdi : g.testCase.initial.gpr 7 = kDataBase := by
        rw [gpr]
        exact pinGpr_rdi pins.1 pins.2 drawn
      have read : g.instruction.sourceOf g.testCase = readLittle (initialMemory g.testCase)
          ((memOperand (BitVec.ofNat 8 disp)).effectiveAddress g.testCase.initial.gpr)
          (bytesOf w) := by
        rw [built]
        rfl
      have narrow : bytesOf w ≤ 8 := by cases w <;> decide
      have bytes (i : Nat) (below : i < bytesOf w) : seedAt g.testCase.dataSeed (disp + i) =
          initialMemory g.testCase (kDataBase + BitVec.ofNat 64 disp + BitVec.ofNat 64 i) := by
        have inside : disp + i < kDataWindow := by
          unfold kDataWindow
          omega
        rw [initialMemory_seed g.testCase inside, seedAt, dif_pos inside]
      rw [read, displaced_memOperand small rdi, readLittle_eq_zero_iff]
      refine and_congr_right fun _ => forall₂_congr fun i below => ?_
      rw [bytes i below]

/-- The fallback compares every register. -/
theorem maskExact_fallback : MaskExact fallback :=
  fun i => iff_of_false
    (by
      have full : ∀ i : Fin 16, (0xFFFF#32).getLsbD i.val = true := by decide
      change ¬ (0xFFFF#32).getLsbD i.val = false
      rw [full i]
      decide)
    (not_scansZero rfl i)

/-- A bit of the mask is cleared exactly if the instruction is a BSF or BSR to that register
whose source is zero. -/
theorem scan_mask_exact (encode : Instruction → Option (List (BitVec 8))) (caps : HostCaps)
    (discarded : Nat) :
    (next encode caps discarded).Always fun ended => MaskExact ended.1 := by
  refine (next_from family_recorded (fun c bytes => finishCase_mask c bytes) discarded).mono ?_
  rintro ended (fell | ⟨bytes, -, -, recorded, finished⟩)
  · rw [fell]
    exact maskExact_fallback
  · exact maskExact_of_recorded recorded finished

end SevenFuzzer
