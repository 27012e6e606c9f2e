import SevenFuzzer.Gen.CodeTables

/-! # The codes that are built

For each family, the codes it can build are those it names, of which the host must support the
VEX and EVEX rows (`SevenFuzzer.family_gives_iff`). A row that is drawn gives its own code
whatever else is drawn.
-/

namespace SevenFuzzer

open Draw InstructionFactory

variable (c : Ctx) (code : Code)

attribute [local simp] sometimes_const Family.codes setImmSized_code setImmKind_code touchMemory
  setFlagsMask force x87Setup

/-- An encoding can come out of the family exactly if the family's list has it; so below for each
family. -/
theorem genAlu_codes : Gives genAlu c code ↔ code ∈ Family.gen_alu.codes := by
  have narrow : ∀ t ∈ kAluOps, t.rmImm8 .W8 = t.rmImmFull .W8 := by decide
  simp only [genAlu, gives_seq, gives_ite]
  simp [sometimes_form, sometimes_shortImm, AluCodes.codes]
  refine exists_congr fun t => and_congr_right fun listed => exists_congr fun w =>
    and_congr_right fun _ => ?_
  by_cases wide : w = .W8
  · rw [wide, narrow t listed]
    tauto
  · tauto

theorem genTest_codes : Gives genTest c code ↔ code ∈ Family.gen_test.codes := by
  simp [genTest, sometimes_form, or_assoc, or_comm, or_left_comm]

theorem genUnary_codes : Gives genUnary c code ↔ code ∈ Family.gen_unary.codes := by
  simp [genUnary]

theorem genShift_codes : Gives genShift c code ↔ code ∈ Family.gen_shift.codes := by
  simp [genShift, sometimes_form, ShiftCodes.codes, or_assoc]

theorem genMov_codes : Gives genMov c code ↔ code ∈ Family.gen_mov.codes := by
  simp [genMov, sometimes_form, kWidths, or_assoc, or_comm, or_left_comm]

theorem genMovx_codes : Gives genMovx c code ↔ code ∈ Family.gen_movx.codes := by
  simp [genMovx, and_or_left, exists_or]

theorem genMovsxd_codes : Gives genMovsxd c code ↔ code ∈ Family.gen_movsxd.codes := by
  simp [genMovsxd]

theorem genPushpop_codes : Gives genPushpop c code ↔ code ∈ Family.gen_pushpop.codes := by
  simp [genPushpop]

theorem genLea_codes : Gives genLea c code ↔ code ∈ Family.gen_lea.codes := by
  simp [genLea]

theorem genJcc_codes : Gives genJcc c code ↔ code ∈ Family.gen_jcc.codes := by
  simp [genJcc]

theorem genJmp_codes : Gives genJmp c code ↔ code ∈ Family.gen_jmp.codes := by
  simp [genJmp, sometimes_form, or_assoc]

theorem genCall_codes : Gives genCall c code ↔ code ∈ Family.gen_call.codes := by
  simp [genCall, sometimes_form, sometimes_pickRegIndex, exists_ne]

theorem genRet_codes : Gives genRet c code ↔ code ∈ Family.gen_ret.codes := by
  simp [genRet]

theorem genSetcc_codes : Gives genSetcc c code ↔ code ∈ Family.gen_setcc.codes := by
  simp [genSetcc]

theorem genCmovcc_codes : Gives genCmovcc c code ↔ code ∈ Family.gen_cmovcc.codes := by
  simp [genCmovcc]

theorem genBt_codes : Gives genBt c code ↔ code ∈ Family.gen_bt.codes := by
  simp [genBt, or_comm]

theorem genRmsrc_codes : Gives genRmsrc c code ↔ code ∈ Family.gen_rmsrc.codes := by
  simp [genRmsrc]

theorem genBswap_codes : Gives genBswap c code ↔ code ∈ Family.gen_bswap.codes := by
  simp [genBswap]

theorem genLoop_codes : Gives genLoop c code ↔ code ∈ Family.gen_loop.codes := by
  simp [genLoop, kLoop, sometimes_form, or_assoc, eq_comm]

theorem genXchg_codes : Gives genXchg c code ↔ code ∈ Family.gen_xchg.codes := by
  simp [genXchg, or_comm]

theorem genXaddCmpxchg_codes :
    Gives genXaddCmpxchg c code ↔ code ∈ Family.gen_xadd_cmpxchg.codes := by
  simp [genXaddCmpxchg]

theorem genShldShrd_codes : Gives genShldShrd c code ↔ code ∈ Family.gen_shld_shrd.codes := by
  simp [genShldShrd, or_assoc, or_comm, or_left_comm]

theorem genMovbeCrc32Nop_codes :
    Gives genMovbeCrc32Nop c code ↔ code ∈ Family.gen_movbe_crc32_nop.codes := by
  simp [genMovbeCrc32Nop, sometimes_form, crc32SourceWidth, and_or_left, exists_or, or_assoc,
    or_comm, or_left_comm]

theorem genMoffs_codes : Gives genMoffs c code ↔ code ∈ Family.gen_moffs.codes := by
  simp [genMoffs]

theorem genStringOps_codes : Gives genStringOps c code ↔ code ∈ Family.gen_string_ops.codes := by
  simp [genStringOps, sometimes_form, stringCodes, and_or_left, exists_or, or_assoc]

@[simp] theorem genBiasedDiv_codes (op : MulDivOp) (w : Width) :
    Gives (genBiasedDiv op w) c code ↔ code = mulDivCode op w := by
  simp [genBiasedDiv, kNonAccumRegs]

theorem genMuldiv_codes : Gives genMuldiv c code ↔ code ∈ Family.gen_muldiv.codes := by
  simp [genMuldiv]

theorem genImulMulti_codes : Gives genImulMulti c code ↔ code ∈ Family.gen_imul_multi.codes := by
  simp [genImulMulti, sometimes_form]

theorem genSimdShuffle_codes :
    Gives genSimdShuffle c code ↔ code ∈ Family.gen_simd_shuffle.codes := by
  simp [genSimdShuffle]

theorem genSimdLogic_codes : Gives genSimdLogic c code ↔ code ∈ Family.gen_simd_logic.codes := by
  simp [genSimdLogic, genXmmBinary]

theorem genSimdPack_codes : Gives genSimdPack c code ↔ code ∈ Family.gen_simd_pack.codes := by
  simp [genSimdPack, genXmmBinary]

theorem genSimdShift_codes : Gives genSimdShift c code ↔ code ∈ Family.gen_simd_shift.codes := by
  simp [genSimdShift]

theorem genSimdFp_codes : Gives genSimdFp c code ↔ code ∈ Family.gen_simd_fp.codes := by
  simp [genSimdFp]

theorem genSseArith_codes : Gives genSseArith c code ↔ code ∈ Family.gen_sse_arith.codes := by
  simp [genSseArith, genXmmBinary]

theorem genPackedInt_codes : Gives genPackedInt c code ↔ code ∈ Family.gen_packed_int.codes := by
  simp [genPackedInt, genXmmBinary]

theorem genSseMove_codes : Gives genSseMove c code ↔ code ∈ Family.gen_sse_move.codes := by
  simp [genSseMove]

theorem genPrivileged_codes : Gives genPrivileged c code ↔ code ∈ Family.gen_privileged.codes := by
  simp [genPrivileged]

theorem genPrivilegedMovcrdr_codes :
    Gives genPrivilegedMovcrdr c code ↔ code ∈ Family.gen_privileged_movcrdr.codes := by
  simp [genPrivilegedMovcrdr, kCr, or_assoc]

theorem genX87Load_codes : Gives genX87Load c code ↔ code ∈ Family.gen_x87_load.codes := by
  simp [genX87Load]

theorem genX87Store_codes : Gives genX87Store c code ↔ code ∈ Family.gen_x87_store.codes := by
  simp [genX87Store]

theorem genX87Arith_codes : Gives genX87Arith c code ↔ code ∈ Family.gen_x87_arith.codes := by
  simp [genX87Arith, sometimes_form, X87ArithGroup.codes, or_assoc]

theorem genX87Unary_codes : Gives genX87Unary c code ↔ code ∈ Family.gen_x87_unary.codes := by
  simp [genX87Unary]

theorem genX87Compare_codes : Gives genX87Compare c code ↔ code ∈ Family.gen_x87_compare.codes := by
  simp [genX87Compare, sometimes_form, or_assoc, or_comm, or_left_comm]

theorem genX87Move_codes : Gives genX87Move c code ↔ code ∈ Family.gen_x87_move.codes := by
  simp [genX87Move, sometimes_form, or_assoc]

theorem genX87Transcendental_codes :
    Gives genX87Transcendental c code ↔ code ∈ Family.gen_x87_transcendental.codes := by
  simp [genX87Transcendental]

/-- A row can come out at both widths, whatever the host. -/
theorem genBmiEntry_codes (e : BmiEntry) :
    Gives (genBmiEntry e) c code ↔ code = e.code .W32 ∨ code = e.code .W64 := by
  cases shape : e.shape <;> simp [genBmiEntry, bmiForm, shape, or_comm]

theorem genBmi_codes : Gives genBmi c code ↔ code ∈ Family.gen_bmi.codes := by
  simp [genBmi, genBmiEntry_codes]

/-- A row can come out as it is. -/
theorem genVexEntry_codes (e : VexEntry) : Gives (genVexEntry e) c code ↔ code = e.code := by
  cases shape : e.shape <;> simp [genVexEntry, vexForm, shape]

/-- What each form can give. -/
theorem genX87ControlForm_codes (form : Nat) :
    Gives (genX87ControlForm form) c code ↔ code ∈ x87ControlCodes form := by
  unfold genX87ControlForm x87ControlCodes
  split <;> simp

/-- A row can be picked exactly if the host has what it needs. -/
theorem sometimes_pickVexEntry {evexOk : Bool} {post : Option VexEntry → Prop}
    (gaveUp : ¬ post none) (attempts : Nat) :
    (pickVexEntry evexOk (attempts + 1)).Sometimes post ↔
      ∃ e ∈ kVexSimd, (e.evex = true → evexOk = true) ∧ post (some e) := by
  constructor
  · rw [sometimes_iff_not_always]
    intro picked
    by_contra none
    refine picked (always_pickVexEntry gaveUp (fun e listed usable held => ?_) _)
    exact none ⟨e, listed, usable, held⟩
  · rintro ⟨e, listed, usable, held⟩
    exact (pickVexEntry_sometimes listed usable attempts).mono fun picked same => same ▸ held

/-- The host has what the encoding of a row asks for. -/
theorem supports_row_iff (caps : HostCaps) {e : VexEntry} (listed : e ∈ kVexSimd) :
    caps.Supports e.code ↔
      caps.avx = true ∧ caps.avx2 = true ∧ (e.evex = true → caps.evexOk = true) := by
  have form := kVexSimd_form e listed
  have vex := kVexSimd_isVex e listed
  unfold HostCaps.Supports
  rw [form]
  cases e.evex <;> simp [vex]

/-- A row of the table is built if the host supports it. -/
theorem genVexSimd_codes (caps : HostCaps) :
    Gives (genVexSimd caps) c code ↔
      code ∈ Family.gen_vex_simd.codes ∧ caps.Supports code := by
  simp only [genVexSimd, setFlagsMask, gives_ite, gives_seq, sometimes_modify, sometimes_lift,
    Family.codes, mem_codes_map]
  constructor
  · intro gives
    split at gives
    · simp at gives
    · rename_i enabled
      rw [not_or, not_not, not_not] at enabled
      obtain ⟨e, listed, usable, emitted⟩ := (sometimes_pickVexEntry (by simp) 7).mp gives
      obtain rfl := (genVexEntry_codes _ code e).mp emitted
      exact ⟨⟨e, listed, rfl⟩, (supports_row_iff caps listed).mpr ⟨enabled.1, enabled.2, usable⟩⟩
  · rintro ⟨⟨e, listed, rfl⟩, host⟩
    obtain ⟨avx, avx2, usable⟩ := (supports_row_iff caps listed).mp host
    rw [if_neg (by simp [avx, avx2])]
    exact (sometimes_pickVexEntry (by simp) 7).mpr
      ⟨e, listed, usable, (genVexEntry_codes _ e.code e).mpr rfl⟩

theorem genX87Control_codes : Gives genX87Control c code ↔ code ∈ Family.gen_x87_control.codes := by
  simp [genX87Control, genX87ControlForm_codes, sometimes_between, Nat.lt_succ_iff]

/-- The other families name no VEX or EVEX row. -/
theorem codes_legacy {f : Family} (other : f ≠ .gen_vex_simd) :
    ∀ code ∈ f.codes, code.mnemonic.isVex = false := by
  cases f <;> first
    | exact absurd rfl other
    | decide +kernel

/-- **The codes of the families.** A family builds a code by some draws if and only if it names
the code and the host supports it. -/
theorem family_gives_iff (caps : HostCaps) (f : Family) :
    Gives (f.gen caps) c code ↔ code ∈ f.codes ∧ caps.Supports code := by
  have named {f : Family} {prog : Gen (Option Instruction)}
      (codes : Gives prog c code ↔ code ∈ f.codes) (other : f ≠ .gen_vex_simd) :
      Gives prog c code ↔ code ∈ f.codes ∧ caps.Supports code :=
    codes.trans (and_iff_left_of_imp fun listed =>
      supports_of_legacy (codes_legacy other code listed)).symm
  cases f with
  | gen_alu => exact named (genAlu_codes c code) nofun
  | gen_test => exact named (genTest_codes c code) nofun
  | gen_unary => exact named (genUnary_codes c code) nofun
  | gen_shift => exact named (genShift_codes c code) nofun
  | gen_mov => exact named (genMov_codes c code) nofun
  | gen_movx => exact named (genMovx_codes c code) nofun
  | gen_movsxd => exact named (genMovsxd_codes c code) nofun
  | gen_pushpop => exact named (genPushpop_codes c code) nofun
  | gen_lea => exact named (genLea_codes c code) nofun
  | gen_jcc => exact named (genJcc_codes c code) nofun
  | gen_jmp => exact named (genJmp_codes c code) nofun
  | gen_call => exact named (genCall_codes c code) nofun
  | gen_ret => exact named (genRet_codes c code) nofun
  | gen_setcc => exact named (genSetcc_codes c code) nofun
  | gen_cmovcc => exact named (genCmovcc_codes c code) nofun
  | gen_bt => exact named (genBt_codes c code) nofun
  | gen_rmsrc => exact named (genRmsrc_codes c code) nofun
  | gen_bswap => exact named (genBswap_codes c code) nofun
  | gen_loop => exact named (genLoop_codes c code) nofun
  | gen_xchg => exact named (genXchg_codes c code) nofun
  | gen_xadd_cmpxchg => exact named (genXaddCmpxchg_codes c code) nofun
  | gen_shld_shrd => exact named (genShldShrd_codes c code) nofun
  | gen_movbe_crc32_nop => exact named (genMovbeCrc32Nop_codes c code) nofun
  | gen_moffs => exact named (genMoffs_codes c code) nofun
  | gen_string_ops => exact named (genStringOps_codes c code) nofun
  | gen_bmi => exact named (genBmi_codes c code) nofun
  | gen_muldiv => exact named (genMuldiv_codes c code) nofun
  | gen_imul_multi => exact named (genImulMulti_codes c code) nofun
  | gen_simd_shuffle => exact named (genSimdShuffle_codes c code) nofun
  | gen_simd_logic => exact named (genSimdLogic_codes c code) nofun
  | gen_simd_pack => exact named (genSimdPack_codes c code) nofun
  | gen_simd_shift => exact named (genSimdShift_codes c code) nofun
  | gen_simd_fp => exact named (genSimdFp_codes c code) nofun
  | gen_vex_simd => exact genVexSimd_codes c code caps
  | gen_sse_arith => exact named (genSseArith_codes c code) nofun
  | gen_packed_int => exact named (genPackedInt_codes c code) nofun
  | gen_sse_move => exact named (genSseMove_codes c code) nofun
  | gen_privileged => exact named (genPrivileged_codes c code) nofun
  | gen_privileged_movcrdr => exact named (genPrivilegedMovcrdr_codes c code) nofun
  | gen_x87_load => exact named (genX87Load_codes c code) nofun
  | gen_x87_store => exact named (genX87Store_codes c code) nofun
  | gen_x87_arith => exact named (genX87Arith_codes c code) nofun
  | gen_x87_unary => exact named (genX87Unary_codes c code) nofun
  | gen_x87_compare => exact named (genX87Compare_codes c code) nofun
  | gen_x87_move => exact named (genX87Move_codes c code) nofun
  | gen_x87_control => exact named (genX87Control_codes c code) nofun
  | gen_x87_transcendental => exact named (genX87Transcendental_codes c code) nofun

end SevenFuzzer
