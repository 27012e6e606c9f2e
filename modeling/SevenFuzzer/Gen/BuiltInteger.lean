import SevenFuzzer.Gen.Built

/-! # Integer families build

`SevenFuzzer.Built` for each family of general-purpose instructions.
-/

namespace SevenFuzzer

open Draw InstructionFactory

variable {caps : HostCaps}

/-- Every row of the table is the row of an operation. -/
theorem mem_kAluOps {t : AluCodes} (listed : t ∈ kAluOps) : ∃ op, t = aluCodes op := by
  simp only [kAluOps, List.mem_cons, List.not_mem_nil, or_false] at listed
  rcases listed with rfl | rfl | rfl | rfl | rfl | rfl | rfl | rfl <;> exact ⟨_, rfl⟩

/-- The families of this module deliver what `Built` asks for, one lemma each. -/
theorem genAlu_built : always genAlu (Builds caps) {} := by
  simp only [genAlu, touchMemory, always_pickRegIndex, always_seq, always_lift, always_ite,
    always_modify, always_return, always_pick, always_anyWidth, always_shortImm, always_between,
    always_randomDisp8, always_oneIn, Nat.reduceLT, Nat.zero_add, Nat.sub_zero, builds_some]
  intro t listed w form _
  obtain ⟨op, rfl⟩ := mem_kAluOps listed
  split
  · apply always_of_forall
    intro imm
    exact built_registers (by cases w <;> rfl) (tracked (by cases w <;> cases op <;> rfl))
  split
  · intro a b
    exact built_registers (by cases w <;> rfl) (tracked (by cases op <;> rfl))
  split
  · intro a short wide
    apply always_of_forall
    intro imm
    cases short with
    | false =>
        exact built_registers (by cases w <;> rfl) (tracked (by cases w <;> cases op <;> rfl))
    | true =>
        cases w with
        | W8 => exact absurd rfl (wide rfl)
        | _ => exact built_registers rfl (tracked (by cases op <;> rfl))
  intro disp small immediate
  split
  · intro short wide
    apply always_of_forall
    intro imm
    cases short with
    | false =>
        exact built_window small (by cases w <;> rfl) (by cases w <;> rfl) ⟨rfl, rfl, rfl⟩
          (tracked (by cases w <;> cases op <;> rfl))
    | true =>
        cases w with
        | W8 => exact absurd rfl (wide rfl)
        | _ => exact built_window small rfl rfl ⟨rfl, rfl, rfl⟩ (tracked (by cases op <;> rfl))
  · intro r toMemory
    split <;>
      exact built_window small (by cases w <;> rfl) rfl ⟨rfl, rfl, rfl⟩
        (tracked (by cases op <;> rfl))

theorem genTest_built : always genTest (Builds caps) {} := by
  simp only [genTest, touchMemory, always_pickRegIndex, always_seq, always_lift, always_ite,
    always_modify, always_return, always_anyWidth, always_between, always_randomDisp8,
    always_oneIn, Nat.reduceLT, Nat.zero_add, Nat.sub_zero, builds_some]
  intro w form _
  split
  · apply always_of_forall
    intro imm accumulated
    split
    · exact built_registers (by cases w <;> rfl) (tracked (by cases w <;> rfl))
    · intro a
      exact built_registers (by cases w <;> rfl) (tracked (by cases w <;> rfl))
  split
  · intro a b
    exact built_registers (by cases w <;> rfl) (tracked rfl)
  split
  · intro a
    apply always_of_forall
    intro imm
    exact built_registers (by cases w <;> rfl) (tracked (by cases w <;> rfl))
  intro disp small register
  split
  · intro b
    exact built_window small (by cases w <;> rfl) rfl ⟨rfl, rfl, rfl⟩ (tracked rfl)
  · apply always_of_forall
    intro imm
    exact built_window small (by cases w <;> rfl) (by cases w <;> rfl) ⟨rfl, rfl, rfl⟩
      (tracked (by cases w <;> rfl))

theorem genUnary_built : always genUnary (Builds caps) {} := by
  simp only [genUnary, touchMemory, always_pickRegIndex, always_seq, always_lift, always_ite,
    always_modify, always_return, always_pick, always_anyWidth, always_randomDisp8, always_oneIn,
    Nat.reduceLT, builds_some]
  intro op listed w register
  split
  · intro a
    exact built_registers (by cases w <;> rfl) (tracked (by cases op <;> rfl))
  · intro disp small
    exact built_window small (by cases w <;> rfl) rfl ⟨rfl, rfl, rfl⟩
      (tracked (by cases op <;> rfl))

/-- Every row of the table is the row of a shift. -/
theorem mem_kShiftOps {t : ShiftCodes} (listed : t ∈ kShiftOps) : ∃ op, t = shiftCodes op := by
  simp only [kShiftOps, List.mem_cons, List.not_mem_nil, or_false] at listed
  rcases listed with rfl | rfl | rfl | rfl | rfl | rfl | rfl | rfl <;> exact ⟨_, rfl⟩

/-- A count of one is left alone by every mask. -/
theorem maskedCount_of_once {instr : Instruction} {gpr : Fin 16 → BitVec 64}
    (once : instr.countByte gpr = 1#8) : instr.maskedCount gpr = 1 := by
  unfold Instruction.maskedCount
  rw [once]
  split <;> rfl

/-- A shift by the constant one keeps an undefined flag and a rotate keeps none, OF
included. -/
theorem tracked_shift_one {c : Ctx} {instr : Instruction} {op : ShiftOp}
    (mask : c.flagsMask = kCompareFlagsMask) (code : instr.code.mnemonic = .shift op)
    (once : ∀ gpr, instr.countByte gpr = 1#8) : FlagsTracked c instr := by
  cases op with
  | SHL | SHR | SAR | SAL =>
      apply tracked
      rw [code, mask]
      rfl
  | ROL | ROR | RCL | RCR =>
      apply tracked_of_rotate_one _ fun gpr => maskedCount_of_once (once gpr)
      all_goals
        rw [code]
        rfl

theorem genShift_built : always genShift (Builds caps) {} := by
  simp only [genShift, touchMemory, always_pickRegIndex, always_seq, always_lift, always_ite,
    always_modify, always_return, always_pick, always_anyWidth, always_between,
    always_randomDisp8, always_oneIn, Nat.reduceLT, Nat.zero_add, Nat.sub_zero, builds_some]
  intro t listed w form _ useMem
  obtain ⟨op, rfl⟩ := mem_kShiftOps listed
  split
  · rename_i counted
    split
    · intro a
      split
      · exact built_registers (by cases w <;> rfl) (tracked (by cases op <;> rfl))
      · apply always_of_forall
        intro imm masked
        exact built_registers (by cases w <;> rfl) (tracked (by cases op <;> rfl))
    · intro disp small
      split
      · exact built_window small (by cases w <;> rfl) rfl ⟨rfl, rfl, rfl⟩
          (tracked (by cases op <;> rfl))
      · apply always_of_forall
        intro imm
        exact built_window small (by cases w <;> rfl) rfl ⟨rfl, rfl, rfl⟩
          (tracked (by cases op <;> rfl))
  · rename_i constant
    obtain rfl := not_not.mp constant
    split
    · intro a
      exact built_registers (by cases w <;> rfl) (tracked_shift_one rfl rfl fun _ => rfl)
    · intro disp small
      exact built_window small (by cases w <;> rfl) rfl ⟨rfl, rfl, rfl⟩
        (tracked_shift_one rfl rfl fun _ => rfl)

theorem genMov_built : always genMov (Builds caps) {} := by
  simp only [genMov, touchMemory, always_pickRegIndex, always_seq, always_lift, always_ite,
    always_modify, always_return, always_anyWidth, always_between, always_randomDisp8,
    Nat.zero_add, Nat.sub_zero, builds_some]
  intro w form _
  split
  · intro a b
    exact built_registers (by cases w <;> rfl) (tracked rfl)
  split
  · intro a
    split
    · rename_i wide
      subst wide
      apply always_of_forall
      intro imm
      exact built_registers rfl (tracked rfl)
    · apply always_of_forall
      intro imm
      exact built_registers (by cases w <;> rfl) (tracked (by cases w <;> rfl))
  intro disp small memForm _
  split
  · intro r
    exact built_window small (by cases w <;> rfl) rfl ⟨rfl, rfl, rfl⟩ (tracked rfl)
  split
  · intro r
    exact built_window small (by cases w <;> rfl) rfl ⟨rfl, rfl, rfl⟩ (tracked rfl)
  · apply always_of_forall
    intro imm
    exact built_window small (by cases w <;> rfl) (by cases w <;> rfl) ⟨rfl, rfl, rfl⟩
      (tracked (by cases w <;> rfl))

theorem genMovx_built : always genMovx (Builds caps) {} := by
  simp only [genMovx, touchMemory, always_pickRegIndex, always_seq, always_lift, always_ite,
    always_modify, always_return, always_pick, always_randomDisp8, always_oneIn, Nat.reduceLT,
    builds_some]
  rintro zeroExt ⟨dstw, srcw⟩ - d register
  split
  · intro s
    exact built_registers (by cases zeroExt <;> cases dstw <;> cases srcw <;> rfl)
      (tracked (by cases zeroExt <;> rfl))
  · intro disp small
    exact built_window small (by cases zeroExt <;> cases dstw <;> cases srcw <;> rfl) rfl
      ⟨rfl, rfl, rfl⟩ (tracked (by cases zeroExt <;> rfl))

theorem genMovsxd_built : always genMovsxd (Builds caps) {} := by
  simp only [genMovsxd, touchMemory, always_pickRegIndex, always_seq, always_lift, always_ite,
    always_modify, always_return, always_randomDisp8, always_oneIn, Nat.reduceLT, builds_some]
  intro d register
  split
  · intro s
    exact built_registers rfl (tracked rfl)
  · intro disp small
    exact built_window small rfl rfl ⟨rfl, rfl, rfl⟩ (tracked rfl)

theorem genPushpop_built : always genPushpop (Builds caps) {} := by
  simp only [genPushpop, always_pickRegIndex, always_seq, always_lift, always_return,
    always_oneIn, Nat.reduceLT, builds_some]
  intro isPush r
  cases isPush <;> exact built_stack rfl rfl rfl rfl (tracked rfl)

theorem genLea_built : always genLea (Builds caps) {} := by
  simp only [genLea, touchMemory, always_pickRegIndex, always_seq, always_lift, always_modify,
    always_return, always_width163264, always_randomDisp8, builds_some]
  intro d w wide disp small
  exact built_window small (by cases w <;> rfl) rfl ⟨rfl, rfl, rfl⟩ (tracked rfl)

/-- The rule for string instructions. -/
theorem built_string {c : Ctx} {instr : Instruction} {w : Width} {op : StringOp}
    (fit : operandsFit instr.immediate instr.code.operands instr.operands = true)
    (memory : instr.memory = none) (code : instr.code.mnemonic = .string op)
    (size : instr.code.operands.findSome? OpCodeOperandKind.stringSize = some (bytesOf w))
    (rsi : c.forceGpr 6 = some kMidWindow) (rdi : c.forceGpr 7 = some kMidWindow)
    (count : instr.rep ≠ .NONE → ∃ count ≤ 1, c.forceGpr 1 = some (BitVec.ofNat 64 count))
    (flags : FlagsTracked c instr) : Built caps c instr := by
  have reaches : instr.code.Reaches instr.nearBranch := by
    apply reaches_of_operands
    all_goals
      intro operands
      rw [operands] at size
      cases size
  refine ⟨fun _ => ⟨fit, encodable_of_memory_none memory, reaches⟩, fun slip => ?_,
    .string w op memory code size rsi rdi count, .falls ?_, flags, supports_of_legacy ?_⟩
  · unfold Code.misstamped at slip
    rw [code] at slip
    cases slip
  · rw [code]
    rfl
  · rw [code]
    rfl

theorem genStringOps_built : always genStringOps (Builds caps) {} := by
  simp only [genStringOps, touchMemory, force, always_seq, always_lift, always_ite, always_modify,
    always_pick, always_anyWidth, always_between, Nat.zero_add, Nat.sub_zero]
  intro family _ w rep _
  split
  · intro count small
    have counted : rep ≠ .NONE → ∃ n ≤ 1, some (BitVec.ofNat 64 count) = some (BitVec.ofNat 64 n) :=
      fun _ => ⟨count, small, rfl⟩
    split
    all_goals
      rw [always_return, builds_some]
      exact built_string (by cases w <;> rfl) rfl rfl rfl rfl rfl counted (tracked_default rfl rfl)
  · rename_i plain
    have counted : ∀ c : Ctx, rep ≠ .NONE → ∃ n ≤ 1, c.forceGpr 1 = some (BitVec.ofNat 64 n) :=
      fun _ repeated => absurd repeated plain
    split
    all_goals
      rw [always_return, builds_some]
      exact built_string (by cases w <;> rfl) rfl rfl rfl rfl rfl (counted _)
        (tracked_default rfl rfl)

/-- The forms with an absolute address. -/
theorem built_absolute {c : Ctx} {instr : Instruction} {slot : Nat} (small : slot ≤ 15)
    (ordinary : instr.ordinary = true)
    (memory : instr.memory = some (.withDispl (kDataBase + BitVec.ofNat 64 (slot * 8)) 8))
    (code : instr.code.mnemonic = .MOV) (size : decide (instr.memorySize ≤ 8) = true)
    (flags : FlagsTracked c instr) : Built caps c instr := by
  apply built_of_ordinary ordinary
  · intro m operand
    obtain rfl := Option.some.inj (memory.symm.trans operand)
    exact .absolute _
  · exact .absolute slot small memory code (of_decide_eq_true size) (pointers_of_ordinary ordinary)
  · apply Branches.falls
    rw [code]
    rfl
  · exact flags

theorem genMoffs_built : always genMoffs (Builds caps) {} := by
  simp only [genMoffs, touchMemory, setFlagsMask, always_seq, always_lift, always_ite,
    always_modify, always_return, always_anyWidth, always_between, always_oneIn, Nat.reduceLT,
    Nat.zero_add, Nat.sub_zero, builds_some]
  intro w slot small load
  split
  · exact built_absolute small (by cases w <;> rfl) rfl rfl (by cases w <;> rfl) (tracked rfl)
  · exact built_absolute small (by cases w <;> rfl) rfl rfl (by cases w <;> rfl) (tracked rfl)

theorem genMovbeCrc32Nop_built : always genMovbeCrc32Nop (Builds caps) {} := by
  simp only [genMovbeCrc32Nop, touchMemory, setFlagsMask, always_pickRegIndex, always_seq,
    always_lift, always_ite, always_modify, always_return, always_width163264, always_between,
    always_randomDisp8, always_oneIn, Nat.reduceLT, Nat.zero_add, Nat.sub_zero, builds_some]
  intro family _
  split
  · intro w wide r disp small load
    split <;> exact built_window small (by cases w <;> rfl) rfl ⟨rfl, rfl, rfl⟩ (tracked rfl)
  split
  · intro d src dest64
    apply always_of_forall
    intro sw memory
    split
    · intro disp small
      exact built_window small (by cases dest64 <;> cases sw <;> rfl) rfl ⟨rfl, rfl, rfl⟩
        (tracked rfl)
    · exact built_registers (by cases dest64 <;> cases sw <;> rfl) (tracked rfl)
  · intro w wide memory
    split
    · intro disp small
      exact built_window small (by cases w <;> rfl) rfl ⟨rfl, rfl, rfl⟩ (tracked rfl)
    · intro r
      exact built_registers (by cases w <;> rfl) (tracked rfl)

/-! ## Branches and conditions -/

/-- A near target lies anywhere on the code page up to sixteen bytes before its end. -/
theorem always_randomCodeTarget {post : BitVec 64 → Prop} :
    randomCodeTarget.Always post ↔
      ∀ distance ≤ kPageSize - 16, post (kCodeBase + BitVec.ofNat 64 distance) := by
  simp only [randomCodeTarget, always_bind, always_between, always_pure, Nat.zero_add, Nat.sub_zero]

/-- A short target lies within the reach of a signed byte. -/
theorem always_randomShortTarget {post : BitVec 64 → Prop} :
    randomShortTarget.Always post ↔
      ∀ number ≤ 118, post (kCodeBase + BitVec.ofNat 64 (2 + number)) := by
  simp only [randomShortTarget, always_bind, always_between, always_pure, Nat.reduceSub]

/-- No target wraps around. -/
theorem toNat_codeTarget {distance : Nat} (small : distance < kPageSize) :
    (kCodeBase + BitVec.ofNat 64 distance).toNat = kCodeBase.toNat + distance := by
  simp only [kPageSize] at small
  simp only [kCodeBase, BitVec.toNat_add, BitVec.toNat_ofNat]
  omega

/-- The rule for a branch to a target in the instruction; a call pushes as well. -/
theorem built_near {c : Ctx} {code : Code} (short : Bool) {distance : Nat}
    (small : if short then 2 ≤ distance ∧ distance ≤ 120 else distance ≤ kPageSize - 16)
    (operands : code.operands = [if short then .rel8 else .rel32])
    (stamped : code.misstamped = false) (legacy : code.mnemonic.isVex = false)
    (rsp : c.forceGpr 4 = none)
    (flags : FlagsTracked c (withBranch code (kCodeBase + BitVec.ofNat 64 distance))) :
    Built caps c (withBranch code (kCodeBase + BitVec.ofNat 64 distance)) := by
  have inside : distance < kPageSize := by
    cases short <;> simp only [kPageSize, Bool.false_eq_true, ↓reduceIte] at small ⊢ <;> omega
  have target := toNat_codeTarget inside
  have fit : operandsFit 0 code.operands [{ kind := .NEAR_BRANCH64 }] = true := by
    rw [operands]
    cases short <;> rfl
  have reaches : code.Reaches (kCodeBase + BitVec.ofNat 64 distance) := by
    simp only [kPageSize] at inside
    unfold Code.Reaches
    rw [operands, target]
    cases short with
    | true =>
        simp only [↓reduceIte] at small ⊢
        omega
    | false =>
        simp only [Bool.false_eq_true, ↓reduceIte]
        omega
  refine ⟨fun _ => ⟨fit, encodable_of_memory_none rfl, reaches⟩, fun slip => ?_,
    .stack rfl ?_ rsp, .near short distance small rfl operands rfl, flags,
      supports_of_legacy legacy⟩
  · exact absurd (stamped.symm.trans slip) Bool.false_ne_true
  · intro op listed
    obtain rfl := List.mem_singleton.mp listed
    rfl

theorem genJcc_built : always genJcc (Builds caps) {} := by
  simp only [genJcc, always_randomCodeTarget, always_randomShortTarget, always_seq, always_lift,
    always_ite, always_return, always_pick, always_oneIn, Nat.reduceLT, builds_some]
  intro cc _ short
  split
  · intro number small
    exact built_near true ⟨by omega, by omega⟩ rfl rfl rfl rfl (tracked rfl)
  · intro distance small
    exact built_near false small rfl rfl rfl rfl (tracked rfl)

/-- The rule for a branch through a register. -/
theorem built_through_register {c : Ctx} {instr : Instruction} {index : Fin 16} {distance : Nat}
    (small : distance ≤ kPageSize - 16) (ordinary : instr.ordinary = true)
    (memory : instr.memory = none)
    (operands : instr.operands = [{ kind := .REGISTER, register := .gpr .W64 index }])
    (target : c.forceGpr index = some (kCodeBase + BitVec.ofNat 64 distance))
    (stack : (∀ gpr, instr.stackAccesses gpr = []) ∨ c.forceGpr 4 = none)
    (flags : FlagsTracked c instr) : Built caps c instr := by
  have addressed : Addressed c instr := by
    rcases stack with stackless | rsp
    · exact .nothing memory (pointers_of_ordinary ordinary) stackless
    · exact .stack memory (pointers_of_ordinary ordinary) rsp
  exact built_of_ordinary ordinary (encodable_of_memory_none memory) addressed
    (.register index distance small operands target) flags

/-- The rule for a branch through a slot. -/
theorem built_through_slot {c : Ctx} {instr : Instruction} {number distance : Nat}
    (inside : number ≤ 15) (small : distance ≤ kPageSize - 16) (ordinary : instr.ordinary = true)
    (operands : instr.operands = [{ kind := .MEMORY }])
    (memory : instr.memory = some (memOperand (BitVec.ofNat 8 (number * 8))))
    (size : decide (instr.memorySize ≤ 16) = true) (bits : instr.bitTestFits = true)
    (pins : c.touchesMemory = true ∧ c.forceGpr 7 = none ∧ c.forceGpr 4 = none)
    (planted : c.forceDataQword = some ⟨number * 8, kCodeBase + BitVec.ofNat 64 distance⟩ ∧
      c.forceDataBytes = none)
    (flags : FlagsTracked c instr) : Built caps c instr := by
  obtain ⟨touches, rdi, rsp⟩ := pins
  obtain ⟨qword, bytes⟩ := planted
  exact built_of_ordinary ordinary (encodable_of_memOperand memory)
    (.window (number * 8) (by omega) memory (of_decide_eq_true size) bits
      (pointers_of_ordinary ordinary) touches rdi rsp)
    (.slot number inside distance small operands memory qword bytes) flags

theorem genJmp_built : always genJmp (Builds caps) {} := by
  simp only [genJmp, indirectTargetDisp, touchMemory, force, always_seq, always_lift,
    always_between, Nat.zero_add, Nat.sub_zero]
  intro form _
  split <;> simp only [always_randomCodeTarget, always_randomShortTarget, always_pickRegIndex,
    always_seq, always_lift, always_modify, always_return, always_between, Nat.zero_add,
    Nat.sub_zero, builds_some]
  · intro number small
    exact built_near true ⟨by omega, by omega⟩ rfl rfl rfl rfl (tracked rfl)
  · intro distance small
    exact built_near false small rfl rfl rfl rfl (tracked rfl)
  · intro r distance small
    exact built_through_register small rfl rfl rfl (by simp only [forced_self]) (.inl fun _ => rfl)
      (tracked_default rfl rfl)
  · intro number inside distance small
    exact built_through_slot inside small rfl rfl rfl rfl rfl ⟨rfl, rfl, rfl⟩ ⟨rfl, rfl⟩
      (tracked_default rfl rfl)

theorem genCall_built : always genCall (Builds caps) {} := by
  simp only [genCall, indirectTargetDisp, touchMemory, force, always_seq, always_lift,
    always_between, Nat.zero_add, Nat.sub_zero]
  intro form _
  split <;> simp only [always_randomCodeTarget, always_pickRegIndex, always_seq, always_lift,
    always_ite, always_modify, always_return, always_between, Nat.zero_add, Nat.sub_zero,
    builds_some, builds_none]
  · intro distance small
    exact built_near false small rfl rfl rfl rfl (tracked rfl)
  · intro r
    split
    · trivial
    · rename_i away
      intro distance small
      exact built_through_register small rfl rfl rfl (by simp only [forced_self])
        (.inr (by simp only [forced_of_ne _ (Ne.symm away)])) (tracked_default rfl rfl)
  · intro number inside distance small
    exact built_through_slot inside small rfl rfl rfl rfl rfl ⟨rfl, rfl, rfl⟩ ⟨rfl, rfl⟩
      (tracked_default rfl rfl)

theorem genRet_built : always genRet (Builds caps) {} := by
  simp only [genRet, always_seq, always_lift, always_ite, always_return, always_between,
    always_oneIn, Nat.reduceLT, Nat.zero_add, Nat.sub_zero, builds_some]
  intro plain
  split
  · exact built_of_ordinary rfl (encodable_of_memory_none rfl)
      (.stack rfl (by rintro _ ⟨⟩) rfl) (.ret (by rintro _ ⟨⟩) rfl) (tracked rfl)
  · intro pops small
    refine built_of_ordinary rfl (encodable_of_memory_none rfl)
      (.stack rfl (pointers_of_ordinary rfl) rfl) (.ret ?_ rfl) (tracked rfl)
    intro op listed
    obtain rfl := List.mem_singleton.mp listed
    rfl

/-- What all rows of the table have in common. -/
theorem kLoop_rel8 {code : Code} (listed : code ∈ kLoop) :
    code.operands = [.rel8] ∧ code.misstamped = false ∧ code.mnemonic.isVex = false ∧
      code.mnemonic.maskFits kCompareFlagsMask = true := by
  revert code
  decide

/-- The rule for a short branch to a drawn target, whatever count is forced. -/
theorem built_loop {c : Ctx} {code : Code} {number : Nat} (small : number ≤ 118)
    (operands : code.operands = [.rel8])
    (plain : code.misstamped = false ∧ code.mnemonic.isVex = false ∧
      code.mnemonic.maskFits kCompareFlagsMask = true)
    (rsp : c.forceGpr 4 = none) (mask : c.flagsMask = kCompareFlagsMask) :
    Built caps c (withBranch code (kCodeBase + BitVec.ofNat 64 (2 + number))) :=
  built_near true ⟨by omega, by omega⟩ operands plain.1 plain.2.1 rsp
    (tracked_default mask plain.2.2)

theorem genLoop_built : always genLoop (Builds caps) {} := by
  have ended : ∀ c : Ctx, c.forceGpr 4 = none → c.flagsMask = kCompareFlagsMask →
      ∀ number ≤ 118, ∀ choice : Nat,
        Builds caps ((kLoop[choice]?).map fun code =>
          withBranch code (kCodeBase + BitVec.ofNat 64 (2 + number))) c := by
    intro c rsp mask number small choice instr chosen
    obtain ⟨code, found, rfl⟩ := Option.map_eq_some_iff.mp chosen
    obtain ⟨operands, plain⟩ := kLoop_rel8 (List.mem_of_getElem? found)
    exact built_loop small operands plain rsp mask
  simp only [genLoop, always_randomShortTarget, force, always_seq, always_lift, always_ite,
    always_modify, always_return, always_between, always_oneIn, Nat.reduceLT, Nat.zero_add,
    Nat.sub_zero, builds_some]
  intro number small choice _ counted
  split
  · intro count _
    split
    · exact built_loop small rfl ⟨rfl, rfl, rfl⟩ rfl rfl
    split
    · exact built_loop small rfl ⟨rfl, rfl, rfl⟩ rfl rfl
    · exact ended _ rfl rfl number small choice
  · split
    · exact built_loop small rfl ⟨rfl, rfl, rfl⟩ rfl rfl
    split
    · exact built_loop small rfl ⟨rfl, rfl, rfl⟩ rfl rfl
    · exact ended _ rfl rfl number small choice

theorem genSetcc_built : always genSetcc (Builds caps) {} := by
  simp only [genSetcc, touchMemory, always_pickRegIndex, always_seq, always_lift, always_ite,
    always_modify, always_return, always_pick, always_randomDisp8, always_oneIn, Nat.reduceLT,
    builds_some]
  intro cc _ register
  split
  · intro r
    exact built_registers rfl (tracked rfl)
  · intro disp small
    exact built_window small rfl rfl ⟨rfl, rfl, rfl⟩ (tracked rfl)

theorem genCmovcc_built : always genCmovcc (Builds caps) {} := by
  simp only [genCmovcc, touchMemory, always_pickRegIndex, always_seq, always_lift, always_ite,
    always_modify, always_return, always_pick, always_width163264, always_randomDisp8,
    always_oneIn, Nat.reduceLT, builds_some]
  intro cc _ w _ d register
  split
  · intro s
    exact built_registers (by cases w <;> rfl) (tracked rfl)
  · intro disp small
    exact built_window small (by cases w <;> rfl) rfl ⟨rfl, rfl, rfl⟩ (tracked rfl)

theorem genBt_built : always genBt (Builds caps) {} := by
  simp only [genBt, touchMemory, setFlagsMask, always_pickRegIndex, always_seq, always_lift,
    always_ite, always_modify, always_return, always_pick, always_width163264, always_randomDisp8,
    always_oneIn, Nat.reduceLT, builds_some]
  intro op _ w _ useImm register
  split
  · intro a
    split
    · apply always_of_forall
      intro imm
      exact built_registers (by cases w <;> rfl) (tracked rfl)
    · intro b
      exact built_registers (by cases w <;> rfl) (tracked rfl)
  · intro disp small
    split
    · apply always_of_forall
      intro imm
      exact built_window small (by cases w <;> rfl) rfl ⟨rfl, rfl, rfl⟩ (tracked rfl)
    · intro b
      exact built_window small (by cases w <;> rfl) rfl ⟨rfl, rfl, rfl⟩ (tracked rfl)

/-- The mask of a bit scan leaves out what the scan leaves undefined. -/
theorem scan_fits {op : RmSrcOp} (scan : isBsfBsr op = true) :
    (Mnemonic.rmsrc op).maskFits 0x0040#64 = true := by
  cases op <;> first | rfl | cases scan

/-- A bit count leaves no compared flag undefined. -/
theorem count_fits {op : RmSrcOp} (count : ¬ isBsfBsr op = true) :
    (Mnemonic.rmsrc op).maskFits kCompareFlagsMask = true := by
  cases op <;> first | rfl | exact absurd rfl count

theorem genRmsrc_built : always genRmsrc (Builds caps) {} := by
  simp only [genRmsrc, touchMemory, setFlagsMask, always_pickRegIndex, always_seq, always_lift,
    always_ite, always_modify, always_return, always_pick, always_width163264, always_randomDisp8,
    always_oneIn, Nat.reduceLT, builds_some]
  intro op _
  split
  · rename_i scan
    intro w _ d register
    split
    · intro s
      exact built_registers (by cases w <;> rfl) (tracked_of_mask rfl (scan_fits scan))
    · intro disp small
      exact built_window small (by cases w <;> rfl) rfl ⟨rfl, rfl, rfl⟩
        (tracked_of_mask rfl (scan_fits scan))
  · rename_i count
    intro w _ d register
    split
    · intro s
      exact built_registers (by cases w <;> rfl) (tracked_of_mask rfl (count_fits count))
    · intro disp small
      exact built_window small (by cases w <;> rfl) rfl ⟨rfl, rfl, rfl⟩
        (tracked_of_mask rfl (count_fits count))

theorem genBswap_built : always genBswap (Builds caps) {} := by
  simp only [genBswap, always_pickRegIndex, always_seq, always_lift, always_return, always_oneIn,
    Nat.reduceLT, builds_some]
  intro w64 r
  exact built_registers (by cases w64 <;> rfl) (tracked rfl)

/-- The mask of a row fits its mnemonic. -/
theorem kBmi_fits {e : BmiEntry} (listed : e ∈ kBmi) :
    (Mnemonic.bmi e.op).maskFits
      (if e.writesFlags then 0x001#64 ||| 0x040#64 ||| 0x080#64 ||| 0x800#64
        else kCompareFlagsMask) = true := by
  simp only [kBmi, List.mem_cons, List.not_mem_nil, or_false] at listed
  rcases listed with rfl | rfl | rfl | rfl | rfl | rfl | rfl | rfl | rfl | rfl | rfl | rfl | rfl <;>
    rfl

/-- The row with an immediate is the one of RORX, and it is built wrong. -/
theorem kBmi_misstamped {e : BmiEntry} (listed : e ∈ kBmi) (w : Width) :
    (e.code w).misstamped = decide (e.shape = .kDstRmImm) := by
  simp only [kBmi, List.mem_cons, List.not_mem_nil, or_false] at listed
  rcases listed with rfl | rfl | rfl | rfl | rfl | rfl | rfl | rfl | rfl | rfl | rfl | rfl | rfl <;>
    rfl

/-- Whatever a row builds is in order, given that its memory operand is pinned. -/
theorem bmiForm_built {c : Ctx} {e : BmiEntry} (listed : e ∈ kBmi) (w : Width) (d s : Fin 16)
    {rmIsMem : Bool} {disp : Nat} (small : disp ≤ 0x7F) (imm8 : BitVec 32)
    (pins : (rmIsMem = true → c.touchesMemory = true) ∧ c.forceGpr 7 = none ∧ c.forceGpr 4 = none)
    (fits : (Mnemonic.bmi e.op).maskFits c.flagsMask = true) :
    always (bmiForm e w d s rmIsMem (BitVec.ofNat 8 disp) imm8) (Builds caps) c := by
  obtain ⟨touches, rdi, rsp⟩ := pins
  have stamped := kBmi_misstamped listed w
  obtain ⟨op, shape, writesFlags⟩ := e
  cases shape with
  | kDstSrcRm =>
      simp only [bmiForm, always_pickRegIndex, always_seq, always_lift, always_ite, always_return,
        builds_some]
      split
      · rename_i memory
        exact built_window small (by cases op <;> first | (cases w <;> rfl) | cases stamped) rfl
          ⟨touches memory, rdi, rsp⟩ (tracked fits)
      · intro r
        exact built_registers (by cases op <;> first | (cases w <;> rfl) | cases stamped)
          (tracked fits)
  | kDstRmSrc =>
      simp only [bmiForm, always_pickRegIndex, always_seq, always_lift, always_ite, always_return,
        builds_some]
      split
      · rename_i memory
        exact built_window small (by cases op <;> first | (cases w <;> rfl) | cases stamped) rfl
          ⟨touches memory, rdi, rsp⟩ (tracked fits)
      · intro r
        exact built_registers (by cases op <;> first | (cases w <;> rfl) | cases stamped)
          (tracked fits)
  | kDstRm =>
      simp only [bmiForm, always_ite, always_return, builds_some]
      split
      · rename_i memory
        exact built_window small (by cases op <;> first | (cases w <;> rfl) | cases stamped) rfl
          ⟨touches memory, rdi, rsp⟩ (tracked fits)
      · exact built_registers (by cases op <;> first | (cases w <;> rfl) | cases stamped)
          (tracked fits)
  | kDstRmImm =>
      have legacy : caps.Supports (BmiEntry.code ⟨op, .kDstRmImm, writesFlags⟩ w) :=
        supports_of_legacy rfl
      simp only [bmiForm, always_ite, always_return, builds_some]
      split
      · rename_i memory
        exact built_misstamped stamped (by cases w <;> rfl)
          (.window disp small rfl (of_decide_eq_true (by cases w <;> rfl)) rfl (pointers_of_all rfl)
            (touches memory) rdi rsp) rfl (tracked fits) legacy
      · exact built_misstamped stamped (by cases w <;> rfl)
          (.nothing rfl (pointers_of_all rfl) fun _ => rfl) rfl (tracked fits) legacy

/-- Every row of the table is in order. -/
theorem genBmiEntry_built {e : BmiEntry} (listed : e ∈ kBmi) :
    always (genBmiEntry e) (Builds caps) {} := by
  have fits := kBmi_fits listed
  simp only [genBmiEntry, touchMemory, setFlagsMask, always_pickRegIndex, always_seq, always_lift,
    always_ite, always_modify, always_randomDisp8, always_oneIn, Nat.reduceLT]
  intro w64
  split
  all_goals
    rename_i writes
    simp only [writes, ↓reduceIte, Bool.false_eq_true] at fits
    intro d s rmIsMem
    split
    all_goals
      rename_i memory
      intro disp small
      apply always_of_forall
      intro imm8
      exact bmiForm_built listed _ d s small imm8
        ⟨fun touched => by first | rfl | exact absurd touched memory, rfl, rfl⟩ fits

theorem genBmi_built : always genBmi (Builds caps) {} := by
  simp only [genBmi, always_seq, always_lift, always_pick]
  intro e listed
  exact genBmiEntry_built listed

/-! ## Multiplication and division -/

/-- The mask of an operation. -/
theorem muldiv_fits (op : MulDivOp) :
    (Mnemonic.muldiv op).maskFits (if isDivFamily op then 0#64 else 0x0801#64) = true := by
  cases op <;> rfl

/-- The division with a fitting quotient, under whatever mask the family has set. -/
theorem genBiasedDiv_built {c : Ctx} (op : MulDivOp) (w : Width)
    (fits : (Mnemonic.muldiv op).maskFits c.flagsMask = true) :
    always (genBiasedDiv op w) (Builds caps) c := by
  simp only [genBiasedDiv, force, always_seq, always_lift, always_ite, always_modify,
    always_return, always_pick, builds_some]
  intro mapped _
  apply always_of_forall
  intro divisor
  apply always_of_forall
  intro quotient
  apply always_of_forall
  intro remainder
  split <;> exact built_registers (by cases w <;> rfl) (tracked fits)

theorem genMuldiv_built : always genMuldiv (Builds caps) {} := by
  simp only [genMuldiv, touchMemory, setFlagsMask, always_pickRegIndex, always_seq, always_lift,
    always_ite, always_modify, always_return, always_pick, always_anyWidth, always_randomDisp8,
    always_oneIn, Nat.reduceLT, builds_some]
  intro op _ w
  have fits := muldiv_fits op
  apply always_of_forall
  intro biased
  split
  · exact genBiasedDiv_built op w fits
  · intro register
    split
    · intro r
      exact built_registers (by cases w <;> rfl) (tracked fits)
    · intro disp small
      exact built_window small (by cases w <;> rfl) rfl ⟨rfl, rfl, rfl⟩ (tracked fits)

theorem genImulMulti_built : always genImulMulti (Builds caps) {} := by
  simp only [genImulMulti, touchMemory, setFlagsMask, always_pickRegIndex, always_seq,
    always_lift, always_ite, always_modify, always_return, always_width163264, always_between,
    always_randomDisp8, always_oneIn, Nat.reduceLT, Nat.zero_add, Nat.sub_zero, builds_some]
  intro w wide form _
  split
  · intro d s
    exact built_registers (by cases w <;> rfl) (tracked rfl)
  split
  · intro d disp small
    exact built_window small (by cases w <;> rfl) rfl ⟨rfl, rfl, rfl⟩ (tracked rfl)
  · intro d short
    apply always_of_forall
    intro imm register
    split
    · intro s
      exact built_registers (by cases w <;> first | exact absurd rfl wide | (cases short <;> rfl))
        (tracked (by cases w <;> cases short <;> rfl))
    · intro disp small
      exact built_window small
        (by cases w <;> first | exact absurd rfl wide | (cases short <;> rfl))
        (by cases w <;> cases short <;> rfl) ⟨rfl, rfl, rfl⟩
        (tracked (by cases w <;> cases short <;> rfl))

theorem genXchg_built : always genXchg (Builds caps) {} := by
  simp only [genXchg, touchMemory, setFlagsMask, always_pickRegIndex, always_seq, always_lift,
    always_ite, always_modify, always_return, always_anyWidth, always_width163264, always_between,
    always_randomDisp8, always_oneIn, Nat.reduceLT, builds_some]
  intro short
  split
  · intro w wide r _
    exact built_registers (by cases w <;> rfl) (tracked rfl)
  · intro w s memory
    split
    · intro disp small
      exact built_window small (by cases w <;> rfl) rfl ⟨rfl, rfl, rfl⟩ (tracked rfl)
    · intro d
      exact built_registers (by cases w <;> rfl) (tracked rfl)

theorem genXaddCmpxchg_built : always genXaddCmpxchg (Builds caps) {} := by
  simp only [genXaddCmpxchg, touchMemory, force, always_pickRegIndex, always_seq, always_lift,
    always_ite, always_modify, always_return, always_anyWidth, always_randomDisp8, always_oneIn,
    Nat.reduceLT, builds_some]
  intro w isXadd s memory
  split
  · intro disp small
    exact built_window small (by cases w <;> cases isXadd <;> rfl) rfl ⟨rfl, rfl, rfl⟩
      (tracked (by cases isXadd <;> rfl))
  · apply always_of_forall
    intro equal d
    split
    · apply always_of_forall
      intro shared
      exact built_registers (by cases w <;> cases isXadd <;> rfl)
        (tracked_default rfl (by cases isXadd <;> rfl))
    · exact built_registers (by cases w <;> cases isXadd <;> rfl)
        (tracked_default rfl (by cases isXadd <;> rfl))

/-- The mask of the double shifts leaves out what they leave undefined. -/
theorem doubleShift_fits (left : Bool) :
    (if left then Mnemonic.SHLD else Mnemonic.SHRD).maskFits
      (kCompareFlagsMask &&& ~~~(0x0800#64 ||| 0x0010#64)) = true := by
  cases left <;> rfl

theorem genShldShrd_built : always genShldShrd (Builds caps) {} := by
  simp only [genShldShrd, touchMemory, force, always_pickRegIndex, always_seq, always_lift,
    always_ite, always_modify, always_return, always_width163264, always_between,
    always_randomDisp8, always_oneIn, Nat.reduceLT, Nat.zero_add, Nat.sub_zero, builds_some]
  intro w _ left useCl s useMem
  split
  · split
    · intro count _
      split
      · intro disp small
        exact built_window small (by cases w <;> cases left <;> rfl) rfl ⟨rfl, rfl, rfl⟩
          (tracked_of_mask rfl (doubleShift_fits left))
      · intro d
        exact built_registers (by cases w <;> cases left <;> rfl)
          (tracked_of_mask rfl (doubleShift_fits left))
    · split
      · intro disp small
        exact built_window small (by cases w <;> cases left <;> rfl) rfl ⟨rfl, rfl, rfl⟩
          (tracked_of_mask rfl (doubleShift_fits left))
      · intro d
        exact built_registers (by cases w <;> cases left <;> rfl)
          (tracked_of_mask rfl (doubleShift_fits left))
  · apply always_of_forall
    intro imm masked
    split
    · intro disp small
      exact built_window small (by cases w <;> cases left <;> rfl) rfl ⟨rfl, rfl, rfl⟩
        (tracked_of_mask rfl (doubleShift_fits left))
    · intro d
      exact built_registers (by cases w <;> cases left <;> rfl)
        (tracked_of_mask rfl (doubleShift_fits left))

theorem genPrivileged_built : always genPrivileged (Builds caps) {} := by
  simp only [genPrivileged, setFlagsMask, always_seq, always_lift, always_modify, always_return,
    always_pick, builds_some]
  intro op _
  exact built_registers rfl (tracked rfl)

/-- The table lists control registers only. -/
theorem kCr_control {register : Register} (listed : register ∈ kCr) : ∃ n, register = .cr n := by
  simp only [kCr, List.mem_cons, List.not_mem_nil, or_false] at listed
  rcases listed with rfl | rfl | rfl | rfl | rfl <;> exact ⟨_, rfl⟩

theorem genPrivilegedMovcrdr_built : always genPrivilegedMovcrdr (Builds caps) {} := by
  simp only [genPrivilegedMovcrdr, setFlagsMask, always_pickRegIndex, always_seq, always_lift,
    always_ite, always_modify, always_return, always_pick, always_index, always_oneIn,
    Nat.reduceLT, builds_some]
  intro isCr readDir gp
  split
  · intro crreg listed
    obtain ⟨n, rfl⟩ := kCr_control listed
    split <;> exact built_registers rfl (tracked rfl)
  · intro i
    split <;> exact built_registers rfl (tracked rfl)

end SevenFuzzer
