import SevenFuzzer.Gen.BuiltInteger
import SevenFuzzer.Gen.BuiltSimd

/-! # x87 families build

`SevenFuzzer.Built` for the x87 families, and with it for every family
(`SevenFuzzer.family_built`).
-/

namespace SevenFuzzer

open Draw InstructionFactory

variable {caps : HostCaps}

/-- Planting leaves alone what a memory operand is pinned by. -/
structure Plants (c c' : Ctx) : Prop where
  touches : c'.touchesMemory = c.touchesMemory
  forceGpr : c'.forceGpr = c.forceGpr

/-- Planting a floating-point operand changes nothing else. -/
theorem plantFpOperand_plants (disp : BitVec 8) (size : Nat) (c : Ctx) :
    always (plantFpOperand disp size) (fun _ c' => Plants c c') c := by
  simp only [plantFpOperand, plantInt, plantBytes, always_seq, always_lift, always_ite,
    always_modify, always_return, always_pick, always_oneIn, Nat.reduceLT]
  intro keeps
  split
  · split
    · intro value _
      exact ⟨rfl, rfl⟩
    split
    · intro value _
      exact ⟨rfl, rfl⟩
    · apply always_of_forall
      intro value
      exact ⟨rfl, rfl⟩
  · exact ⟨rfl, rfl⟩

/-- Planting an integer operand changes nothing else. -/
theorem plantIntOperand_plants (disp : BitVec 8) (size : Nat) (c : Ctx) :
    always (plantIntOperand disp size) (fun _ c' => Plants c c') c := by
  simp only [plantIntOperand, plantInt, plantBytes, always_seq, always_lift, always_ite,
    always_modify, always_return, always_pick, always_oneIn, Nat.reduceLT]
  intro keeps
  split
  · intro value _
    exact ⟨rfl, rfl⟩
  · exact ⟨rfl, rfl⟩

/-- The rule for a memory operand of at most ten bytes. -/
theorem built_x87_memory {c : Ctx} (op : X87Op) {size : Nat} (bounded : size ≤ 10) {disp : Nat}
    (small : disp ≤ 0x7F)
    (pins : c.touchesMemory = true ∧ c.forceGpr 7 = none ∧ c.forceGpr 4 = none) :
    Built caps c (with1 (x87Mem op size) (memOperand (BitVec.ofNat 8 disp))) :=
  built_window small (decide_eq_true (bounded.trans (by decide))) rfl pins
    (tracked_of_defined rfl rfl)

/-- The rule for an operand that is planted first. -/
theorem built_x87_planted {c : Ctx} {prog : Gen Unit}
    (plants : always prog (fun _ c' => Plants c c') c) (op : X87Op) {size : Nat}
    (bounded : size ≤ 10) {disp : Nat} (small : disp ≤ 0x7F)
    (pins : c.touchesMemory = true ∧ c.forceGpr 7 = none ∧ c.forceGpr 4 = none) :
    always prog (fun _ => always (Pure.pure (some (with1 (x87Mem op size)
      (memOperand (BitVec.ofNat 8 disp))))) (Builds caps)) c := by
  obtain ⟨touches, rdi, rsp⟩ := pins
  refine always_mono plants fun _ c' planted => ?_
  rw [always_return, builds_some]
  apply built_x87_memory op bounded small
  rw [planted.touches, planted.forceGpr]
  exact ⟨touches, rdi, rsp⟩

/-- The x87 families deliver what `Built` asks for, one lemma each. -/
theorem genX87Load_built : always genX87Load (Builds caps) {} := by
  have sizes : ∀ f ∈ kX87Load, f.size ≤ 10 := by decide
  simp only [genX87Load, x87Setup, touchMemory, always_seq, always_lift, always_ite,
    always_modify, always_pick, always_randomDisp8]
  intro f listed disp small
  split
  · exact built_x87_planted (plantIntOperand_plants _ _ _) f.op (sizes f listed) small
      ⟨rfl, rfl, rfl⟩
  · exact built_x87_planted (plantFpOperand_plants _ _ _) f.op (sizes f listed) small
      ⟨rfl, rfl, rfl⟩

theorem genX87Store_built : always genX87Store (Builds caps) {} := by
  have sizes : ∀ f ∈ kX87Store, f.size ≤ 10 := by decide
  simp only [genX87Store, x87Setup, touchMemory, always_seq, always_lift, always_modify,
    always_return, always_pick, always_randomDisp8, builds_some]
  intro f listed disp small
  exact built_x87_memory f.op (sizes f listed) small ⟨rfl, rfl, rfl⟩

theorem genX87Arith_built : always genX87Arith (Builds caps) {} := by
  simp only [genX87Arith, x87Setup, touchMemory, always_pickStIndex, always_seq, always_lift,
    always_ite, always_modify, always_return, always_pick, always_between, always_randomDisp8,
    Nat.zero_add, Nat.sub_zero, builds_some]
  intro g _ form _
  split
  · intro i
    split
    · exact built_registers rfl (tracked_of_defined rfl rfl)
    split
    · exact built_registers rfl (tracked_of_defined rfl rfl)
    · exact built_registers rfl (tracked_of_defined rfl rfl)
  · intro disp small
    split
    all_goals rw [always_seq]
    · exact built_x87_planted (plantFpOperand_plants _ _ _) g.op (by decide) small ⟨rfl, rfl, rfl⟩
    · exact built_x87_planted (plantFpOperand_plants _ _ _) g.op (by decide) small ⟨rfl, rfl, rfl⟩
    · exact built_x87_planted (plantIntOperand_plants _ _ _) g.int (by decide) small ⟨rfl, rfl, rfl⟩
    · exact built_x87_planted (plantIntOperand_plants _ _ _) g.int (by decide) small ⟨rfl, rfl, rfl⟩

theorem genX87Unary_built : always genX87Unary (Builds caps) {} := by
  simp only [genX87Unary, x87Setup, always_seq, always_lift, always_ite, always_modify,
    always_return, always_pick, always_oneIn, Nat.reduceLT, builds_some]
  intro single
  split
  · intro op _
    exact built_registers rfl (tracked_of_defined rfl rfl)
  · intro op _
    exact built_registers rfl (tracked_of_defined rfl rfl)

theorem genX87Transcendental_built : always genX87Transcendental (Builds caps) {} := by
  simp only [genX87Transcendental, x87Setup, always_seq, always_lift, always_modify,
    always_return, always_pick, builds_some]
  intro op _
  exact built_registers rfl (tracked_of_defined rfl rfl)

/-- The rule for ST(0) and another stack register. -/
theorem built_st_st {c : Ctx} {code : Code} {op : X87Op} {form : CodeForm}
    (row : code = ⟨.x87 op, [.fixed (.st 0), .sti], form⟩) (i : Fin 8) :
    Built caps c (with2 code (stOf 0) (stOf i)) := by
  subst row
  exact built_registers rfl (tracked_of_defined rfl rfl)

theorem genX87Compare_built : always genX87Compare (Builds caps) {} := by
  have rows : ∀ code ∈ kX87CompareStSt, ∃ op form,
      code = ⟨.x87 op, [.fixed (.st 0), .sti], form⟩ := by
    intro code listed
    simp only [kX87CompareStSt, List.mem_cons, List.not_mem_nil, or_false] at listed
    rcases listed with rfl | rfl | rfl | rfl | rfl | rfl | rfl | rfl | rfl | rfl | rfl <;>
      exact ⟨_, _, rfl⟩
  simp only [genX87Compare, x87Setup, touchMemory, always_pickStIndex, always_seq, always_lift,
    always_ite, always_modify, always_return, always_pick, always_between, always_randomDisp8,
    always_oneIn, Nat.reduceLT, Nat.zero_add, Nat.sub_zero, builds_some]
  intro form _
  split
  · exact built_registers rfl (tracked_of_defined rfl rfl)
  split
  · exact built_registers rfl (tracked_of_defined rfl rfl)
  split
  · intro ordered
    split <;> exact built_registers rfl (tracked_of_defined rfl rfl)
  split
  · intro m64 pop disp small
    have bounded : (if m64 then 8 else 4) ≤ 10 := by
      cases m64 <;> decide
    exact built_x87_planted (plantFpOperand_plants _ _ _) _ bounded small ⟨rfl, rfl, rfl⟩
  · intro i code listed
    obtain ⟨op, form, row⟩ := rows code listed
    exact built_st_st row i

theorem genX87Move_built : always genX87Move (Builds caps) {} := by
  have stores : ∀ code ∈ kX87StoreStI, ∃ op form, code = ⟨.x87 op, [.sti], form⟩ := by
    intro code listed
    simp only [kX87StoreStI, List.mem_cons, List.not_mem_nil, or_false] at listed
    rcases listed with rfl | rfl | rfl | rfl | rfl <;> exact ⟨_, _, rfl⟩
  have exchanges :
      ∀ code ∈ kX87Xchg, ∃ op form, code = ⟨.x87 op, [.fixed (.st 0), .sti], form⟩ := by
    intro code listed
    simp only [kX87Xchg, List.mem_cons, List.not_mem_nil, or_false] at listed
    rcases listed with rfl | rfl | rfl <;> exact ⟨_, _, rfl⟩
  simp only [genX87Move, x87Setup, always_pickStIndex, always_seq, always_lift, always_between,
    Nat.zero_add, Nat.sub_zero]
  intro form _ i
  split
  all_goals simp only [always_seq, always_lift, always_ite, always_modify, always_return,
    always_pick, always_oneIn, Nat.reduceLT, builds_some]
  · exact built_registers rfl (tracked_of_defined rfl rfl)
  · intro code listed
    obtain ⟨op, form, rfl⟩ := stores code listed
    exact built_registers rfl (tracked_of_defined rfl rfl)
  · intro code listed
    obtain ⟨op, form, row⟩ := exchanges code listed
    exact built_st_st row i
  · intro freed
    split <;> exact built_registers rfl (tracked_of_defined rfl rfl)
  · intro op _
    exact built_registers rfl (tracked_of_defined rfl rfl)
  · intro op _
    exact built_registers rfl (tracked_of_defined rfl rfl)

theorem genX87ControlForm_built (form : Nat) :
    always (genX87ControlForm form) (Builds caps) {} := by
  simp only [genX87ControlForm, x87Setup, plantInt, plantBytes, touchMemory, always_seq,
    always_modify]
  split
  all_goals simp only [always_seq, always_lift, always_ite, always_modify, always_return,
    always_randomDisp8, always_oneIn, Nat.reduceLT, builds_some]
  · exact built_misstamped rfl rfl (.nothing rfl (by rintro _ ⟨⟩) fun _ => rfl) rfl
      (tracked_of_defined rfl rfl) (supports_of_legacy rfl)
  · intro disp small
    exact built_x87_memory _ (by decide) small ⟨rfl, rfl, rfl⟩
  · intro disp small
    exact built_x87_memory _ (by decide) small ⟨rfl, rfl, rfl⟩
  · intro disp small
    apply always_of_forall
    intro cw
    exact built_x87_memory _ (by decide) small ⟨rfl, rfl, rfl⟩
  · exact built_registers rfl (tracked_of_defined rfl rfl)
  · exact built_registers rfl (tracked_of_defined rfl rfl)
  · intro up
    split <;> exact built_registers rfl (tracked_of_defined rfl rfl)

theorem genX87Control_built : always genX87Control (Builds caps) {} := by
  simp only [genX87Control, always_seq, always_lift, always_between, Nat.zero_add, Nat.sub_zero]
  intro form _
  exact genX87ControlForm_built form

/-- Whatever is drawn, what a family returns is built. -/
theorem family_built (f : Family) : always (f.gen caps) (Builds caps) {} := by
  cases f with
  | gen_alu => exact genAlu_built
  | gen_test => exact genTest_built
  | gen_unary => exact genUnary_built
  | gen_shift => exact genShift_built
  | gen_mov => exact genMov_built
  | gen_movx => exact genMovx_built
  | gen_movsxd => exact genMovsxd_built
  | gen_pushpop => exact genPushpop_built
  | gen_lea => exact genLea_built
  | gen_jcc => exact genJcc_built
  | gen_jmp => exact genJmp_built
  | gen_call => exact genCall_built
  | gen_ret => exact genRet_built
  | gen_setcc => exact genSetcc_built
  | gen_cmovcc => exact genCmovcc_built
  | gen_bt => exact genBt_built
  | gen_rmsrc => exact genRmsrc_built
  | gen_bswap => exact genBswap_built
  | gen_loop => exact genLoop_built
  | gen_xchg => exact genXchg_built
  | gen_xadd_cmpxchg => exact genXaddCmpxchg_built
  | gen_shld_shrd => exact genShldShrd_built
  | gen_movbe_crc32_nop => exact genMovbeCrc32Nop_built
  | gen_moffs => exact genMoffs_built
  | gen_string_ops => exact genStringOps_built
  | gen_bmi => exact genBmi_built
  | gen_muldiv => exact genMuldiv_built
  | gen_imul_multi => exact genImulMulti_built
  | gen_simd_shuffle => exact genSimdShuffle_built
  | gen_simd_logic => exact genSimdLogic_built
  | gen_simd_pack => exact genSimdPack_built
  | gen_simd_shift => exact genSimdShift_built
  | gen_simd_fp => exact genSimdFp_built
  | gen_vex_simd => exact genVexSimd_built
  | gen_sse_arith => exact genSseArith_built
  | gen_packed_int => exact genPackedInt_built
  | gen_sse_move => exact genSseMove_built
  | gen_privileged => exact genPrivileged_built
  | gen_privileged_movcrdr => exact genPrivilegedMovcrdr_built
  | gen_x87_load => exact genX87Load_built
  | gen_x87_store => exact genX87Store_built
  | gen_x87_arith => exact genX87Arith_built
  | gen_x87_unary => exact genX87Unary_built
  | gen_x87_compare => exact genX87Compare_built
  | gen_x87_move => exact genX87Move_built
  | gen_x87_control => exact genX87Control_built
  | gen_x87_transcendental => exact genX87Transcendental_built

end SevenFuzzer
