import SevenFuzzer.Gen.Architecture
import SevenFuzzer.Gen.Generator

/-! # What the families build

What holds of an instruction and the context it was built in, whatever was drawn
(`SevenFuzzer.Built`): it is encodable, or one of the codes whose operands are built
wrong; its addresses and its branch target come from what the context lets `next`
pin and plant; its flags mask keeps an undefined flag for certain instructions only;
and it is a VEX or EVEX one only on a host that can execute it. `Built` is shown
family by family in the modules after this one, by one of the rules below for each
way an instruction can be built.
-/

namespace SevenFuzzer

open Draw InstructionFactory

/-- RORX and VSHUFPS and VSHUFPD keep an immediate of the wrong kind, and FNSTSW is
built without its operand. -/
def Code.misstamped (code : Code) : Bool :=
  match code.mnemonic with
  | .bmi .RORX | .vex .VSHUFPS | .vex .VSHUFPD => true
  | .x87 _ => code.operands = [.fixed (accumulator .W16)]
  | _ => false

/-- The mnemonics whose flags mask keeps a flag they leave undefined. -/
def Mnemonic.keepsUndefined : Mnemonic → Bool
  | .alu .AND | .alu .OR | .alu .XOR | .TEST | .rmsrc .LZCNT | .rmsrc .TZCNT | .bmi .BEXTR => true
  | _ => false

/-- SHL, SAL, SHR and SAR. -/
def Mnemonic.isShift (mnemonic : Mnemonic) : Bool :=
  match mnemonic.flagRule with
  | .shift _ => true
  | _ => false

/-- A shift keeps one when it shifts at all. -/
def Instruction.KeepsUndefined (instr : Instruction) (gpr : Fin 16 → BitVec 64) : Prop :=
  instr.code.mnemonic.keepsUndefined = true ∨
    instr.code.mnemonic.isShift = true ∧ instr.maskedCount gpr ≠ 0

/-- The instructions whose next instruction is not the following one. -/
def Mnemonic.isBranch : Mnemonic → Bool
  | .jcc _ | .JMP | .CALL | .RETNQ | .LOOP | .LOOPE | .LOOPNE | .JRCXZ | .JECXZ => true
  | _ => false

/-- The instructions of `kVexSimd`. -/
def Mnemonic.isVex : Mnemonic → Bool
  | .vex _ => true
  | _ => false

/-- The memory operand of a bit test is as wide as the register of its offset. -/
def Instruction.bitTestFits (instr : Instruction) : Bool :=
  match instr.code.mnemonic, instr.code.operands with
  | .bt _, [_, .reg w] => instr.memorySize = bytesOf w
  | _, _ => true

/-- What a family lets `next` pin of the addresses an instruction accesses. -/
inductive Addressed (c : Ctx) (instr : Instruction) : Prop where
  | nothing (memory : instr.memory = none)
      (pointers : ∀ op ∈ instr.operands, op.kind.pointer = none)
      (stack : ∀ gpr, instr.stackAccesses gpr = [])
  | stack (memory : instr.memory = none) (pointers : ∀ op ∈ instr.operands, op.kind.pointer = none)
      (rsp : c.forceGpr 4 = none)
  /-- a displacement from RDI, which is pinned -/
  | window (disp : Nat) (small : disp ≤ 0x7F)
      (memory : instr.memory = some (memOperand (BitVec.ofNat 8 disp)))
      (size : instr.memorySize ≤ 16) (bits : instr.bitTestFits = true)
      (pointers : ∀ op ∈ instr.operands, op.kind.pointer = none)
      (touches : c.touchesMemory = true) (rdi : c.forceGpr 7 = none) (rsp : c.forceGpr 4 = none)
  | absolute (slot : Nat) (small : slot ≤ 15)
      (memory : instr.memory = some (.withDispl (kDataBase + BitVec.ofNat 64 (slot * 8)) 8))
      (code : instr.code.mnemonic = .MOV) (size : instr.memorySize ≤ 8)
      (pointers : ∀ op ∈ instr.operands, op.kind.pointer = none)
  /-- pointers to the middle of the window, and a count of at most one -/
  | string (w : Width) (op : StringOp) (memory : instr.memory = none)
      (code : instr.code.mnemonic = .string op)
      (size : instr.code.operands.findSome? OpCodeOperandKind.stringSize = some (bytesOf w))
      (rsi : c.forceGpr 6 = some kMidWindow) (rdi : c.forceGpr 7 = some kMidWindow)
      (count : instr.rep ≠ .NONE → ∃ count ≤ 1, c.forceGpr 1 = some (BitVec.ofNat 64 count))

/-- Where a branch goes: to a target in the code page that stands in the instruction,
in a register the family forces, in a slot it plants, or at the top of the stack. -/
inductive Branches (c : Ctx) (instr : Instruction) : Prop where
  | falls (stays : instr.code.mnemonic.isBranch = false)
  | near (short : Bool) (distance : Nat)
      (small : if short then 2 ≤ distance ∧ distance ≤ 120 else distance ≤ kPageSize - 16)
      (operands : instr.operands = [{ kind := .NEAR_BRANCH64 }])
      (code : instr.code.operands = [if short then .rel8 else .rel32])
      (target : instr.nearBranch = kCodeBase + BitVec.ofNat 64 distance)
  | register (index : Fin 16) (distance : Nat) (small : distance ≤ kPageSize - 16)
      (operands : instr.operands = [{ kind := .REGISTER, register := .gpr .W64 index }])
      (target : c.forceGpr index = some (kCodeBase + BitVec.ofNat 64 distance))
  | slot (number : Nat) (inside : number ≤ 15) (distance : Nat) (small : distance ≤ kPageSize - 16)
      (operands : instr.operands = [{ kind := .MEMORY }])
      (memory : instr.memory = some (memOperand (BitVec.ofNat 8 (number * 8))))
      (qword : c.forceDataQword = some ⟨number * 8, kCodeBase + BitVec.ofNat 64 distance⟩)
      (bytes : c.forceDataBytes = none)
  | ret (operands : ∀ op ∈ instr.operands, op.kind = .IMMEDIATE16) (rsp : c.forceGpr 4 = none)

/-- The mask keeps an undefined flag exactly where it is said to. -/
def FlagsTracked (c : Ctx) (instr : Instruction) : Prop :=
  ∀ gpr, c.flagsMask &&& instr.undefinedFlags gpr = 0#64 ↔ ¬ instr.KeepsUndefined gpr

/-- The host can execute the encoding, as far as the families ask it. -/
def HostCaps.Supports (caps : HostCaps) (code : Code) : Prop :=
  code.mnemonic.isVex = true →
    caps.avx = true ∧ caps.avx2 = true ∧ (code.form = .EVEX → caps.evexOk = true)

/-- What every family delivers: an instruction the encoder takes unless its immediate is misstamped,
with its memory addressed, its branch contained, its flags tracked and its encoding supported by the
host. -/
structure Built (caps : HostCaps) (c : Ctx) (instr : Instruction) : Prop where
  encodable : instr.code.misstamped = false → instr.Encodable
  misstamped : instr.code.misstamped = true → ¬ instr.KindsMatch
  addressed : Addressed c instr
  branches : Branches c instr
  flags : FlagsTracked c instr
  host : caps.Supports instr.code

/-- What a family ends with: nothing, or a built instruction. -/
def Builds (caps : HostCaps) (result : Option Instruction) (c : Ctx) : Prop :=
  ∀ instr, result = some instr → Built caps c instr

@[simp] theorem builds_none {caps : HostCaps} {c : Ctx} : Builds caps none c := by
  intro instr same
  cases same

@[simp] theorem builds_some {caps : HostCaps} {c : Ctx} {instr : Instruction} :
    Builds caps (some instr) c ↔ Built caps c instr := by
  constructor
  · exact fun built => built instr rfl
  · intro built _ same
    exact Option.some.inj same ▸ built

/-- A mask that keeps an undefined flag of a mnemonic exactly where that is said,
whatever the count is. -/
def Mnemonic.maskFits (mnemonic : Mnemonic) (mask : BitVec 64) : Bool :=
  match mnemonic.flagRule with
  | .fixed flags => decide (mask &&& flags = 0#64) != mnemonic.keepsUndefined
  | .shift _ => mask &&& AF = AF && !mnemonic.keepsUndefined
  | .rotate => mask &&& OF = 0#64 && !mnemonic.keepsUndefined
  | .doubleShift => mask &&& OF = 0#64 && mask &&& AF = 0#64 && !mnemonic.keepsUndefined

/-- A mask with AF keeps an undefined flag of a shift that shifts. -/
theorem shift_undefined_iff {mask : BitVec 64} (kept : mask &&& AF = AF) (carry : Bool)
    {bits : Nat} (positive : 0 < bits) (count : Nat) :
    mask &&& (FlagRule.shift carry).undefined bits count = 0#64 ↔ count = 0 := by
  simp only [FlagRule.undefined, BitVec.and_or_distrib_left, BitVec.or_eq_zero_iff]
  constructor
  · intro cleared
    by_contra shifts
    have af := cleared.1.1
    rw [if_pos (Nat.pos_of_ne_zero shifts), kept] at af
    cases af
  · intro none
    subst none
    have defined : ¬ (carry = true ∧ bits ≤ 0) := by omega
    simp only [lt_irrefl, Nat.not_lt_zero, defined, ↓reduceIte, BitVec.and_zero, and_self]

/-- Without OF, nothing a rotate leaves undefined is compared. -/
theorem rotate_undefined {mask : BitVec 64} (dropped : mask &&& OF = 0#64) (bits count : Nat) :
    mask &&& FlagRule.rotate.undefined bits count = 0#64 := by
  simp only [FlagRule.undefined]
  split
  · exact dropped
  · exact BitVec.and_zero

/-- Without OF and AF, nothing a double shift leaves undefined is compared. -/
theorem doubleShift_undefined {mask : BitVec 64} (overflow : mask &&& OF = 0#64)
    (adjust : mask &&& AF = 0#64) (bits count : Nat) :
    mask &&& FlagRule.doubleShift.undefined bits count = 0#64 := by
  have rotated := rotate_undefined overflow bits count
  simp only [FlagRule.undefined] at rotated ⊢
  rw [BitVec.and_or_distrib_left, adjust, rotated]
  rfl

/-- A fitting mask keeps the flags tracked, for every count. -/
theorem tracked {c : Ctx} {instr : Instruction}
    (fits : instr.code.mnemonic.maskFits c.flagsMask = true) : FlagsTracked c instr := by
  intro gpr
  have positive : 0 < bitsOf instr.code.width := by
    cases instr.code.width <;> decide
  unfold Mnemonic.maskFits at fits
  unfold Instruction.undefinedFlags Instruction.KeepsUndefined Mnemonic.isShift
  cases rule : instr.code.mnemonic.flagRule with
  | fixed flags =>
      rw [rule] at fits
      simp only [FlagRule.undefined, Bool.false_eq_true, false_and, or_false]
      cases kept : instr.code.mnemonic.keepsUndefined <;> simp_all
  | shift carry =>
      simp only [rule, Bool.and_eq_true, decide_eq_true_eq, Bool.not_eq_true'] at fits
      rw [shift_undefined_iff fits.1 carry positive]
      simp only [fits.2, Bool.false_eq_true, true_and, false_or, not_not]
  | rotate =>
      simp only [rule, Bool.and_eq_true, decide_eq_true_eq, Bool.not_eq_true'] at fits
      simp only [rotate_undefined fits.1, fits.2, Bool.false_eq_true, false_and, or_self,
        not_false_eq_true]
  | doubleShift =>
      simp only [rule, Bool.and_eq_true, decide_eq_true_eq, Bool.not_eq_true'] at fits
      simp only [doubleShift_undefined fits.1.1 fits.1.2, fits.2, Bool.false_eq_true, false_and,
        or_self, not_false_eq_true]

/-- The same, for a mask the family has set. -/
theorem tracked_of_mask {c : Ctx} {instr : Instruction} {mask : BitVec 64}
    (same : c.flagsMask = mask) (fits : instr.code.mnemonic.maskFits mask = true) :
    FlagsTracked c instr :=
  tracked (same ▸ fits)

/-- The same, for the mask a family starts with. -/
theorem tracked_default {c : Ctx} {instr : Instruction} (same : c.flagsMask = kCompareFlagsMask)
    (fits : instr.code.mnemonic.maskFits kCompareFlagsMask = true) : FlagsTracked c instr :=
  tracked_of_mask same fits

/-- An instruction that leaves no flag undefined may have any mask. -/
theorem tracked_of_defined {c : Ctx} {instr : Instruction}
    (rule : instr.code.mnemonic.flagRule = .fixed 0#64)
    (clean : instr.code.mnemonic.keepsUndefined = false) : FlagsTracked c instr := by
  apply tracked
  simp only [Mnemonic.maskFits, rule, clean, BitVec.and_zero, decide_true, bne_iff_ne, ne_eq,
    Bool.true_eq_false, not_false_eq_true]

/-- A rotation by one defines OF. -/
theorem tracked_of_rotate_one {c : Ctx} {instr : Instruction}
    (rule : instr.code.mnemonic.flagRule = .rotate)
    (once : ∀ gpr, instr.maskedCount gpr = 1) (clean : instr.code.mnemonic.keepsUndefined = false) :
    FlagsTracked c instr := by
  intro gpr
  unfold Instruction.undefinedFlags Instruction.KeepsUndefined Mnemonic.isShift
  simp only [rule, once gpr, clean, FlagRule.undefined, lt_irrefl, ↓reduceIte, BitVec.and_zero,
    Bool.false_eq_true, false_and, or_self, not_false_eq_true]

/-- The instruction fits its code, has no branch target and uses no string pointer. -/
def Instruction.fits (instr : Instruction) : Bool :=
  operandsFit instr.immediate instr.code.operands instr.operands &&
    instr.code.operands != [.rel8] && instr.code.operands != [.rel32] &&
    instr.operands.all fun op => op.kind.pointer = none

/-- Besides, it is one every host can execute. -/
def Instruction.ordinary (instr : Instruction) : Bool :=
  instr.fits && !instr.code.misstamped && !instr.code.mnemonic.isVex

/-- Besides, it accesses no data and does not branch. -/
def Instruction.still (instr : Instruction) : Bool :=
  instr.ordinary && instr.memory.isNone && !instr.code.mnemonic.isBranch &&
    instr.code.mnemonic != .PUSH && instr.code.mnemonic != .POP

/-- Besides, it does not branch and its memory operand is small. -/
def Instruction.windowed (instr : Instruction) : Bool :=
  instr.ordinary && !instr.code.mnemonic.isBranch && instr.bitTestFits &&
    decide (instr.memorySize ≤ 16)

section

variable {caps : HostCaps} {c : Ctx} {instr : Instruction}

/-- Every host supports the legacy encodings. -/
theorem supports_of_legacy {code : Code} (legacy : code.mnemonic.isVex = false) :
    caps.Supports code := by
  intro vex
  rw [legacy] at vex
  cases vex

/-- An encoding without a relative target reaches anything. -/
theorem reaches_of_operands {code : Code} {target : BitVec 64} (short : code.operands ≠ [.rel8])
    (near : code.operands ≠ [.rel32]) : code.Reaches target := by
  unfold Code.Reaches
  split
  · rename_i operands
    exact absurd operands short
  · rename_i operands
    exact absurd operands near
  · trivial

/-- No operand is a string pointer. -/
theorem pointers_of_all {ops : List Operand}
    (pointerless : (ops.all fun op => op.kind.pointer = none) = true) :
    ∀ op ∈ ops, op.kind.pointer = none := by
  intro op listed
  exact of_decide_eq_true (List.all_eq_true.mp pointerless op listed)

/-- A fitting instruction has no string pointer. -/
theorem pointers_of_fits (fits : instr.fits = true) :
    ∀ op ∈ instr.operands, op.kind.pointer = none := by
  simp only [Instruction.fits, Bool.and_eq_true] at fits
  exact pointers_of_all fits.2

/-- An instruction that fits is built once it is built right and the host supports it,
and its memory operand, its addresses, its target and its flags are in order. -/
theorem built_of_fits (fits : instr.fits = true) (stamped : instr.code.misstamped = false)
    (host : caps.Supports instr.code) (memory : ∀ m, instr.memory = some m → m.Encodable)
    (addressed : Addressed c instr) (branches : Branches c instr) (flags : FlagsTracked c instr) :
    Built caps c instr := by
  simp only [Instruction.fits, Bool.and_eq_true, bne_iff_ne] at fits
  obtain ⟨⟨⟨fit, short⟩, near⟩, -⟩ := fits
  refine ⟨fun _ => ⟨fit, memory, reaches_of_operands short near⟩, fun slip => ?_, addressed,
    branches, flags, host⟩
  exact absurd (stamped.symm.trans slip) Bool.false_ne_true

/-- An ordinary instruction fits. -/
theorem fits_of_ordinary (ordinary : instr.ordinary = true) : instr.fits = true := by
  simp only [Instruction.ordinary, Bool.and_eq_true] at ordinary
  exact ordinary.1.1

/-- An ordinary instruction has no string pointer. -/
theorem pointers_of_ordinary (ordinary : instr.ordinary = true) :
    ∀ op ∈ instr.operands, op.kind.pointer = none :=
  pointers_of_fits (fits_of_ordinary ordinary)

/-- An ordinary instruction is in order once its memory, its branch and its flags are. -/
theorem built_of_ordinary (ordinary : instr.ordinary = true)
    (memory : ∀ m, instr.memory = some m → m.Encodable) (addressed : Addressed c instr)
    (branches : Branches c instr) (flags : FlagsTracked c instr) : Built caps c instr := by
  have fits := fits_of_ordinary ordinary
  simp only [Instruction.ordinary, Bool.and_eq_true, Bool.not_eq_true'] at ordinary
  exact built_of_fits fits ordinary.1.2 (supports_of_legacy ordinary.2) memory addressed branches
    flags

/-- No memory operand, nothing to encode. -/
theorem encodable_of_memory_none (memory : instr.memory = none) :
    ∀ m, instr.memory = some m → m.Encodable := by
  intro m operand
  rw [memory] at operand
  cases operand

/-- The families' memory operand can be encoded. -/
theorem encodable_of_memOperand {disp : BitVec 8} (memory : instr.memory = some (memOperand disp)) :
    ∀ m, instr.memory = some m → m.Encodable := by
  intro m operand
  obtain rfl := Option.some.inj (memory.symm.trans operand)
  exact .based 7 disp

/-- The rule for registers and immediates. -/
theorem built_registers (still : instr.still = true) (flags : FlagsTracked c instr) :
    Built caps c instr := by
  simp only [Instruction.still, Bool.and_eq_true, Bool.not_eq_true', bne_iff_ne,
    Option.isNone_iff_eq_none] at still
  obtain ⟨⟨⟨⟨ordinary, memory⟩, falls⟩, pushless⟩, popless⟩ := still
  have stackless : ∀ gpr, instr.stackAccesses gpr = [] := by
    intro gpr
    unfold Instruction.stackAccesses
    cases mnemonic : instr.code.mnemonic <;> first
      | rfl
      | exact absurd mnemonic pushless
      | exact absurd mnemonic popless
      | simp only [mnemonic, Mnemonic.isBranch, reduceCtorEq] at falls
  exact built_of_ordinary ordinary (encodable_of_memory_none memory)
    (.nothing memory (pointers_of_ordinary ordinary) stackless) (.falls falls) flags

/-- The rule for PUSH and POP of a register. -/
theorem built_stack (ordinary : instr.ordinary = true) (memory : instr.memory = none)
    (falls : instr.code.mnemonic.isBranch = false) (rsp : c.forceGpr 4 = none)
    (flags : FlagsTracked c instr) : Built caps c instr :=
  built_of_ordinary ordinary (encodable_of_memory_none memory)
    (.stack memory (pointers_of_ordinary ordinary) rsp) (.falls falls) flags

/-- The rule for a memory operand in the window. -/
theorem built_window {disp : Nat} (small : disp ≤ 0x7F) (windowed : instr.windowed = true)
    (memory : instr.memory = some (memOperand (BitVec.ofNat 8 disp)))
    (pins : c.touchesMemory = true ∧ c.forceGpr 7 = none ∧ c.forceGpr 4 = none)
    (flags : FlagsTracked c instr) : Built caps c instr := by
  simp only [Instruction.windowed, Bool.and_eq_true, Bool.not_eq_true', decide_eq_true_eq]
    at windowed
  obtain ⟨⟨⟨ordinary, falls⟩, bits⟩, size⟩ := windowed
  obtain ⟨touches, rdi, rsp⟩ := pins
  exact built_of_ordinary ordinary (encodable_of_memOperand memory)
    (.window disp small memory size bits (pointers_of_ordinary ordinary) touches rdi rsp)
    (.falls falls)
    flags

end

/-- The rule for an instruction that is built wrong. -/
theorem built_misstamped {caps : HostCaps} {c : Ctx} {instr : Instruction}
    (slip : instr.code.misstamped = true)
    (wrong : kindsMatch instr.code.operands instr.operands = false) (addressed : Addressed c instr)
    (falls : instr.code.mnemonic.isBranch = false) (flags : FlagsTracked c instr)
    (host : caps.Supports instr.code) : Built caps c instr := by
  refine ⟨fun right => ?_, fun _ fits => ?_, addressed, .falls falls, flags, host⟩
  · exact absurd (right.symm.trans slip) Bool.false_ne_true
  · exact absurd (wrong.symm.trans fits) Bool.false_ne_true

/-- A register that is forced holds what it is forced to. -/
theorem forced_self (forced : Fin 16 → Option (BitVec 64)) (i : Fin 16) (value : BitVec 64) :
    Function.update forced i (some value) i = some value :=
  Function.update_self ..

/-- Forcing a register leaves the others as they were. -/
theorem forced_of_ne (forced : Fin 16 → Option (BitVec 64)) {i j : Fin 16} (away : j ≠ i)
    (value : BitVec 64) : Function.update forced i (some value) j = forced j :=
  Function.update_of_ne away ..

/-- A register is drawn from all sixteen; the lemmas below read the other draws in the same way. -/
theorem always_pickRegIndex {post : Fin 16 → Prop} :
    pickRegIndex.Always post ↔ ∀ i, post i := Iff.rfl

theorem sometimes_pickRegIndex {post : Fin 16 → Prop} :
    pickRegIndex.Sometimes post ↔ ∃ i, post i := Iff.rfl

theorem always_pickXmmIndex {post : Fin 16 → Prop} :
    pickXmmIndex.Always post ↔ ∀ i, post i := Iff.rfl

theorem always_pickStIndex {post : Fin 8 → Prop} :
    pickStIndex.Always post ↔ ∀ i, post i := Iff.rfl

theorem always_anyWidth {post : Width → Prop} : anyWidth.Always post ↔ ∀ w, post w := by
  simp only [anyWidth, always_pick]
  exact ⟨fun held w => held w (by cases w <;> decide), fun held w _ => held w⟩

theorem always_width163264 {post : Width → Prop} :
    width163264.Always post ↔ ∀ w ≠ .W8, post w := by
  simp only [width163264, always_pick]
  exact ⟨fun held w wide => held w (by cases w <;> first | decide | exact absurd rfl wide),
    fun held w listed => held w (by rintro rfl; revert listed; decide)⟩

theorem always_shortImm {w : Width} {post : Bool → Prop} :
    (shortImm w).Always post ↔ ∀ short, (short = true → w ≠ .W8) → post short := by
  unfold shortImm
  split
  · rename_i narrow
    simp only [always_pure]
    exact ⟨fun held short wide => by
        cases short with
        | false => exact held
        | true => exact absurd narrow (wide rfl),
      fun held => held false fun wrong => absurd wrong Bool.false_ne_true⟩
  · rename_i wide
    rw [always_oneIn Nat.one_lt_two]
    exact ⟨fun held short _ => held short, fun held short => held short fun _ => wide⟩

theorem always_randomDisp8 {post : BitVec 8 → Prop} :
    randomDisp8.Always post ↔ ∀ disp ≤ 0x7F, post (BitVec.ofNat 8 disp) := by
  simp only [randomDisp8, always_map, always_between, Nat.zero_add, Nat.sub_zero]

end SevenFuzzer
