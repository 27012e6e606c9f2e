import SevenFuzzer.Gen.Containment
import SevenFuzzer.Lanes.InitialMemory

/-! # Branch containment

Where a branch of a test case leaves RIP: at its target when it is taken, behind the
instruction when it is not. The target stands in the instruction, in a forced register,
in a planted slot of the data page or at the top of the stack, and in each case it lies
in the code page (`SevenFuzzer.branch_contained`).
-/

namespace SevenFuzzer

open Draw InstructionFactory

/-- The address lies on the code page. -/
def InCodePage (address : BitVec 64) : Prop :=
  kCodeBase.toNat ≤ address.toNat ∧ address.toNat < kCodeBase.toNat + kPageSize

/-- The target of a branch, by its operand; a return has none and reads the stack. -/
def Instruction.target (instr : Instruction) (gpr : Fin 16 → BitVec 64)
    (memory : BitVec 64 → BitVec 8) : BitVec 64 :=
  match instr.operands, instr.memory with
  | [{ kind := .NEAR_BRANCH64, .. }], _ => instr.nearBranch
  | [{ kind := .REGISTER, register := .gpr _ index }], _ => gpr index
  | [{ kind := .MEMORY, .. }], some m => readQword memory (m.effectiveAddress gpr)
  | _, _ => readQword memory (gpr 4)

/-- RIP after a branch of a test case. -/
def Generated.ripAfter (g : Generated) (taken : Bool) : BitVec 64 :=
  if taken then g.instruction.target g.testCase.initial.gpr (initialMemory g.testCase)
  else kCodeBase + BitVec.ofNat 64 g.testCase.bytes.length

/-- The displacement from the end of an instruction of a length to a target. -/
def branchDisplacement (target : BitVec 64) (length : Nat) : Int :=
  (target - (kCodeBase + BitVec.ofNat 64 length)).toInt

/-- The target of a short branch is in the reach of a signed byte. -/
def Instruction.ReachesShort (instr : Instruction) (length : Nat) : Prop :=
  instr.code.operands = [.rel8] →
    -128 ≤ branchDisplacement instr.nearBranch length ∧
      branchDisplacement instr.nearBranch length ≤ 127

/-- An offset below the page size stays on the page. -/
theorem inCodePage_offset {distance : Nat} (small : distance < kPageSize) :
    InCodePage (kCodeBase + BitVec.ofNat 64 distance) := by
  rw [InCodePage, toNat_codeTarget small]
  omega

/-- A near target is on the code page. -/
theorem inCodePage_target {distance : Nat} (small : distance ≤ kPageSize - 16) :
    InCodePage (kCodeBase + BitVec.ofNat 64 distance) := by
  apply inCodePage_offset
  unfold kPageSize at small ⊢
  omega

/-- A short target is within reach of both lengths a short branch can have. -/
theorem reachesShort_of_reaches {instr : Instruction}
    (reaches : instr.code.Reaches instr.nearBranch)
    {length : Nat} (known : length = 2 ∨ length = 3) : instr.ReachesShort length := by
  intro operands
  simp only [Code.Reaches, operands] at reaches
  have base : kCodeBase.toNat = 0x100000000000 := by decide
  rw [base] at reaches
  have distance : (instr.nearBranch - (kCodeBase + BitVec.ofNat 64 length)).toInt =
      instr.nearBranch.toNat - (0x100000000000 + length : Nat) := by
    have moved : (kCodeBase + BitVec.ofNat 64 length).toNat = 0x100000000000 + length := by
      rw [BitVec.toNat_add, BitVec.toNat_ofNat, base]
      omega
    rw [BitVec.toInt_sub, BitVec.toInt_eq_toNat_bmod, BitVec.toInt_eq_toNat_bmod, moved]
    simp only [Int.bmod]
    omega
  rw [branchDisplacement, distance]
  omega

/-- The qword planted for an indirect branch is the one the data page starts with. -/
theorem readQword_planted {c : Ctx} {number : Nat} (inside : number ≤ 15) {value : BitVec 64}
    (qword : c.forceDataQword = some ⟨number * 8, value⟩) (bytes : c.forceDataBytes = none)
    {tc : TestCase} {drawn : Fin kDataWindow → BitVec 8} (seed : tc.dataSeed = plantAll c drawn) :
    readQword (initialMemory tc) (kDataBase + BitVec.ofNat 64 (number * 8)) = value := by
  have fits : number * 8 + 8 ≤ kDataWindow := by
    unfold kDataWindow
    omega
  apply readQword_seed fits
  intro i below
  rw [seed, plantAll, qword, bytes, Option.elim_some, Option.elim_none, plant_inside fits below]

/-- The operand of a branch through memory is in the data window. -/
theorem displaced_memOperand {disp : Nat} (small : disp ≤ 0x7F) {gpr : Fin 16 → BitVec 64}
    (rdi : gpr 7 = kDataBase) :
    (memOperand (BitVec.ofNat 8 disp)).effectiveAddress gpr = kDataBase + BitVec.ofNat 64 disp := by
  have displacement := displacement_memOperand small
  have natural : BitVec.ofInt 64 (disp : Int) = BitVec.ofNat 64 disp := BitVec.ofInt_natCast ..
  rw [natural] at displacement
  change gpr 7 + (memOperand (BitVec.ofNat 8 disp)).displacement = _
  rw [rdi, displacement]

/-- RDI is pinned for an operand in the window. -/
theorem addressed_rdi {c : Ctx} {instr : Instruction} {disp : BitVec 8}
    (addressed : Addressed c instr)
    (memory : instr.memory = some (memOperand disp)) :
    c.touchesMemory = true ∧ c.forceGpr 7 = none := by
  cases addressed with
  | nothing none => exact absurd (none.symm.trans memory) nofun
  | stack none => exact absurd (none.symm.trans memory) nofun
  | window _ _ _ _ _ _ touches rdi => exact ⟨touches, rdi⟩
  | absolute _ _ absolute => exact absurd (Option.some.inj (absolute.symm.trans memory)) nofun
  | string _ _ none => exact absurd (none.symm.trans memory) nofun

/-- A return takes its target from the top of the stack. -/
theorem target_ret {instr : Instruction} (operands : ∀ op ∈ instr.operands, op.kind = .IMMEDIATE16)
    (gpr : Fin 16 → BitVec 64) (memory : BitVec 64 → BitVec 8) :
    instr.target gpr memory = readQword memory (gpr 4) := by
  unfold Instruction.target
  split
  · rename_i listed
    cases operands _ (listed ▸ List.mem_singleton_self _)
  · rename_i listed
    cases operands _ (listed ▸ List.mem_singleton_self _)
  · rename_i listed _
    cases operands _ (listed ▸ List.mem_singleton_self _)
  · rfl

/-- What a family prepares for a branch puts its target into the code page. -/
theorem target_inCodePage {caps : HostCaps} {c : Ctx} {instr : Instruction} {tc : TestCase}
    {bytes : List (BitVec 8)} (built : Built caps c instr) (finished : Finished c bytes tc)
    (branch : instr.code.mnemonic.isBranch = true) :
    InCodePage (instr.target tc.initial.gpr (initialMemory tc)) := by
  obtain ⟨drawn, gpr⟩ := finished.gpr
  obtain ⟨drawnSeed, seed⟩ := finished.seed
  cases built.branches with
  | falls stays => exact absurd (branch.symm.trans stays) (by decide)
  | near short distance small operands code target =>
      have stays : distance < kPageSize := by
        cases short <;> simp only [kPageSize, Bool.false_eq_true, ↓reduceIte] at small ⊢ <;> omega
      simp only [Instruction.target, operands, target]
      exact inCodePage_offset stays
  | register index distance small operands target =>
      simp only [Instruction.target, operands, gpr, pinGpr_forced target]
      exact inCodePage_target small
  | slot number inside distance small operands memory qword bytes =>
      obtain ⟨touches, rdi⟩ := addressed_rdi built.addressed memory
      have pinned : tc.initial.gpr 7 = kDataBase := by
        rw [gpr]
        exact pinGpr_rdi touches rdi drawn
      have address := displaced_memOperand (show number * 8 ≤ 0x7F by omega) pinned
      simp only [Instruction.target, operands, memory, address,
        readQword_planted inside qword bytes seed]
      exact inCodePage_target small
  | ret operands rsp =>
      rw [target_ret operands, gpr, pinGpr_rsp rsp, readQword_stackTop]
      exact inCodePage_offset (show 0 < kPageSize by decide)

/-- A branch is built right, so the encoder can reach its target. -/
theorem reaches_of_branch {caps : HostCaps} {c : Ctx} {instr : Instruction}
    (built : Built caps c instr) (branch : instr.code.mnemonic.isBranch = true) :
    instr.code.Reaches instr.nearBranch := by
  refine (built.encodable ?_).branch
  unfold Code.misstamped
  cases mnemonic : instr.code.mnemonic <;> first
    | rfl
    | simp only [mnemonic, Mnemonic.isBranch, Bool.false_eq_true] at branch

/-- **Branch containment.** A test case that is a branch leaves RIP in the code page,
taken or not, and a short one reaches its target from an instruction of two or three
bytes. -/
theorem branch_contained (encode : Instruction → Option (List (BitVec 8))) (caps : HostCaps)
    (discarded : Nat)
    (architectural : ∀ instr bytes, encode instr = some bytes → bytes.length ≤ 15) :
    (next encode caps discarded).Always fun ended =>
      ended.1.instruction.code.mnemonic.isBranch = true →
        (∀ taken, InCodePage (ended.1.ripAfter taken)) ∧
          ∀ length, length = 2 ∨ length = 3 → ended.1.instruction.ReachesShort length := by
  refine (next_produced discarded).mono fun ended produced branch => ?_
  rcases produced with fell | accepted
  · rw [fell] at branch
    cases branch
  · refine ⟨fun taken => ?_, fun length known => ?_⟩
    · cases taken with
      | true => exact target_inCodePage accepted.built accepted.finished branch
      | false =>
          have short := architectural _ _ accepted.encoded
          apply inCodePage_offset
          unfold kPageSize
          omega
    · exact reachesShort_of_reaches (reaches_of_branch accepted.built branch) known

/-- `JMP` to the eleventh byte of the code page. -/
def jmpShort : Instruction := withBranch JMP_REL8_64 (kCodeBase + BitVec.ofNat 64 10)

/-- An encoder that knows this instruction only. -/
def encodesJmp (instr : Instruction) : Option (List (BitVec 8)) :=
  if instr = jmpShort then some [0xEB#8, 0x08#8] else none

/-- The jumps of a host without vector extensions stay on the page. -/
theorem branch_contained_jmp :
    (next encodesJmp {} 0).Always fun ended =>
      ended.1.instruction.code.mnemonic.isBranch = true →
        (∀ taken, InCodePage (ended.1.ripAfter taken)) ∧
          ∀ length, length = 2 ∨ length = 3 → ended.1.instruction.ReachesShort length := by
  refine branch_contained encodesJmp {} 0 fun instr bytes encoded => ?_
  unfold encodesJmp at encoded
  split at encoded
  · obtain rfl := Option.some.inj encoded
    decide
  · cases encoded

end SevenFuzzer
