import SevenFuzzer.Gen.Broadcast
import SevenFuzzer.Gen.Kept

/-! # The codes of the families

The codes that each family names, in its tables or by themselves, and the rules that read
off a program which codes it can build: a draw becomes a choice, and what else a step does is
of no account.
-/

namespace SevenFuzzer

open Draw InstructionFactory

/-- The widths of an array of four codes. -/
def kWidths : List Width := [.W8, .W16, .W32, .W64]

/-- The widths of an array of three. -/
def kWidths163264 : List Width := [.W16, .W32, .W64]

/-- All encodings of a row at one width. -/
def AluCodes.codes (t : AluCodes) (w : Width) : List Code :=
  [t.rmR w, t.rRm w, t.rmImm8 w, t.rmImmFull w, t.accImm w]

/-- All encodings of a row at one width. -/
def ShiftCodes.codes (t : ShiftCodes) (w : Width) : List Code := [t.imm8 w, t.cl w, t.one w]

/-- The codes of the five kinds of string instructions, which a prefix leaves as they are. -/
def stringCodes (w : Width) : List Code :=
  [(withMovs w .NONE).code, (withCmps w .NONE).code, (withScas w .NONE).code,
    (withStos w .NONE).code, (withLods w .NONE).code]

/-- All encodings of a group. -/
def X87ArithGroup.codes (g : X87ArithGroup) : List Code :=
  [ST0_STI g.op, STI_ST0 g.op, STI_ST0 g.pop, x87Mem g.op 4, x87Mem g.op 8, x87Mem g.int 2,
    x87Mem g.int 4]

/-- The codes of a form of `gen_x87_control`. -/
def x87ControlCodes : Nat → List Code
  | 0 => [FNSTSW_AX]
  | 1 => [x87Mem .FNSTSW 2]
  | 2 => [x87Mem .FNSTCW 2]
  | 3 => [x87Mem .FLDCW 2]
  | 4 => [x87Plain .FNCLEX]
  | 5 => [x87Plain .FNINIT]
  | _ => [x87Plain .FINCSTP, x87Plain .FDECSTP]

/-- The codes of a family. -/
def Family.codes : Family → List Code
  | .gen_alu => kAluOps.flatMap fun t => kWidths.flatMap t.codes
  | .gen_test =>
      kWidths.flatMap fun w => [TEST_RM_R w, TEST_RM_IMM w, kTestImmF7R1 w, kTestAccImm w]
  | .gen_unary => kUnaryOps.flatMap fun op => kWidths.map (unaryCode op)
  | .gen_shift => kShiftOps.flatMap fun t => kWidths.flatMap t.codes
  | .gen_mov =>
      (kWidths.flatMap fun w => [MOV_RM_R w, MOV_R_RM w, MOV_RM_IMM w]) ++
        [MOV_R_IMM .W8, MOV_R_IMM .W16, MOV_R_IMM .W32, MOV_R64_IMM64]
  | .gen_movx => kMovxWidths.flatMap fun w => [movxCode true w.1 w.2, movxCode false w.1 w.2]
  | .gen_movsxd => [MOVSXD_R64_RM32]
  | .gen_pushpop => [PUSH_R64, POP_R64]
  | .gen_lea => kWidths163264.map kLea
  | .gen_jcc => kConditions.flatMap fun cc => [kJcc cc, kJcc32 cc]
  | .gen_jmp => [JMP_REL8_64, JMP_REL32_64, JMP_RM64]
  | .gen_call => [CALL_REL32_64, CALL_RM64]
  | .gen_ret => [RETNQ, RETNQ_IMM16]
  | .gen_setcc => kConditions.map kSetcc
  | .gen_cmovcc => kConditions.flatMap fun cc => kWidths163264.map (kCmov cc)
  | .gen_bt => kBtFamily.flatMap fun op => kWidths163264.flatMap fun w => [btRmR op w, btRmImm op w]
  | .gen_rmsrc => kRmSrcFamily.flatMap fun op => kWidths163264.map (rmSrcCode op)
  | .gen_bswap => [BSWAP_R .W64, BSWAP_R .W32]
  | .gen_loop => kLoop ++ [JRCXZ_REL8_64, JECXZ_REL8_64]
  | .gen_xchg => kWidths.map xchgRmR ++ kWidths163264.map xchgShort
  | .gen_xadd_cmpxchg =>
      kWidths.flatMap fun w => [xaddCmpxchgCode true w, xaddCmpxchgCode false w]
  | .gen_shld_shrd =>
      kWidths163264.flatMap fun w =>
        [shldShrdCl true w, shldShrdImm true w, shldShrdCl false w, shldShrdImm false w]
  | .gen_movbe_crc32_nop =>
      (kWidths163264.flatMap fun w => [movbeLoad w, movbeStore w, kNop w]) ++
        [crc32Code .W32 .W8, crc32Code .W32 .W16, crc32Code .W32 .W32, crc32Code .W64 .W8,
          crc32Code .W64 .W64]
  | .gen_moffs => kWidths.flatMap fun w => [moffsLoad w, moffsStore w]
  | .gen_string_ops => kWidths.flatMap stringCodes
  | .gen_bmi => kBmi.flatMap fun e => [e.code .W32, e.code .W64]
  | .gen_muldiv => [.MUL, .IMUL, .DIV, .IDIV].flatMap fun op => kWidths.map (mulDivCode op)
  | .gen_imul_multi =>
      kWidths163264.flatMap fun w => [kImul2 w, kImul3Imm8 w, kImul3ImmFull w]
  | .gen_simd_shuffle => kSimdShuffleImm ++ kSimdShuffleNoImm
  | .gen_simd_logic => kSimdLogic
  | .gen_simd_pack => kSimdPack
  | .gen_simd_shift => kSimdShiftImm ++ kSimdShiftReg
  | .gen_simd_fp => kSimdFpCompare ++ kSimdFpNoFlags
  | .gen_vex_simd => kVexSimd.map VexEntry.code
  | .gen_sse_arith => kSseArith
  | .gen_packed_int => kPackedInt
  | .gen_sse_move => (kSseMoveStore ++ kSseMoveLoad).map SseMoveForm.code
  | .gen_privileged => kPrivileged.map fun op => ⟨.privileged op, [], .plain⟩
  | .gen_privileged_movcrdr => [MOV_R64_CR, MOV_CR_R64, MOV_R64_DR, MOV_DR_R64]
  | .gen_x87_load => kX87Load.map fun f => x87Mem f.op f.size
  | .gen_x87_store => kX87Store.map fun f => x87Mem f.op f.size
  | .gen_x87_arith => kX87Arith.flatMap X87ArithGroup.codes
  | .gen_x87_unary => (kX87Unary1 ++ kX87Unary2).map x87Plain
  | .gen_x87_compare =>
      [x87Plain .FTST, x87Plain .FXAM, x87Plain .FCOMPP, x87Plain .FUCOMPP, x87Mem .FCOM 4,
        x87Mem .FCOM 8, x87Mem .FCOMP 4, x87Mem .FCOMP 8] ++ kX87CompareStSt
  | .gen_x87_move =>
      STI .FLD :: kX87StoreStI ++ kX87Xchg ++ [STI .FFREE, STI .FFREEP] ++
        kX87Const.map x87Plain ++ kX87Cmov.map ST0_STI
  | .gen_x87_control => (List.range 7).flatMap x87ControlCodes
  | .gen_x87_transcendental => kX87Transcendental.map x87Plain

/-- Some draws build an instruction of the code. -/
def Gives (prog : Gen (Option Instruction)) (c : Ctx) (code : Code) : Prop :=
  sometimes prog (fun result _ => ∃ instr, result = some instr ∧ code = instr.code) c

/-- What is built always has one of the codes that are built sometimes. -/
theorem always_of_gives {prog : Gen (Option Instruction)} {c : Ctx} {good : Code → Prop}
    (held : ∀ code, Gives prog c code → good code) :
    always prog (fun result _ => ∀ instr, result = some instr → good instr.code) c := by
  refine (always_reached (prog.run c)).mono fun ended reached instr same => ?_
  refine held instr.code (reached.mono fun ended' drawn => ⟨instr, ?_, rfl⟩)
  rw [drawn, same]

section

variable {c : Ctx} {code : Code} {Value : Type}

@[simp] theorem gives_return {result : Option Instruction} :
    Gives (Pure.pure result) c code ↔ ∃ instr, result = some instr ∧ code = instr.code := Iff.rfl

@[simp] theorem gives_seq {prog : Gen Value} {next : Value → Gen (Option Instruction)} :
    Gives (prog >>= next) c code ↔ sometimes prog (fun value c => Gives (next value) c code) c :=
  sometimes_seq prog next

@[simp] theorem gives_map {prog : Gen Value} {f : Value → Option Instruction} :
    Gives (f <$> prog) c code ↔
      sometimes prog (fun value _ => ∃ instr, f value = some instr ∧ code = instr.code) c := by
  rw [map_eq_pure_bind]
  exact gives_seq

@[simp] theorem gives_ite {condition : Prop} [Decidable condition]
    {yes no : Gen (Option Instruction)} :
    Gives (if condition then yes else no) c code ↔
      if condition then Gives yes c code else Gives no c code := by
  split <;> exact Iff.rfl

/-- What a step does is of no account where the code does not depend on it. -/
@[simp] theorem sometimes_given {prog : Gen Value} {given : Prop} :
    sometimes prog (fun _ _ => given) c ↔ given := sometimes_const _

@[simp] theorem sometimes_anyWidth {post : Width → Prop} :
    anyWidth.Sometimes post ↔ ∃ w ∈ kWidths, post w := sometimes_pick

@[simp] theorem sometimes_width163264 {post : Width → Prop} :
    width163264.Sometimes post ↔ ∃ w ∈ kWidths163264, post w := sometimes_pick

@[simp] theorem sometimes_hit (bound : Nat) {post : Bool → Prop} :
    (oneIn (bound + 2)).Sometimes post ↔ post true ∨ post false := by
  rw [sometimes_oneIn (by omega), Bool.exists_bool, or_comm]

/-- A choice among forms is a choice of the last or among those before. -/
theorem sometimes_form {n : Nat} {post : Nat → Prop} :
    (between 0 (n + 1)).Sometimes post ↔ (between 0 n).Sometimes post ∨ post (n + 1) := by
  simp only [sometimes_between, Nat.sub_zero, Nat.zero_add, Nat.le_succ_iff, or_and_right,
    exists_or, exists_eq_left]

@[simp] theorem sometimes_form_zero {post : Nat → Prop} :
    (between 0 0).Sometimes post ↔ post 0 := by
  simp only [sometimes_between, Nat.sub_zero, Nat.zero_add, Nat.le_zero, exists_eq_left]

/-- A short immediate is drawn for every width but the byte. -/
theorem sometimes_shortImm {w : Width} {post : Bool → Prop} :
    (shortImm w).Sometimes post ↔ post false ∨ w ≠ .W8 ∧ post true := by
  unfold shortImm
  split
  · rename_i narrow
    simp only [sometimes_pure, narrow, ne_eq, not_true_eq_false, false_and, or_false]
  · rename_i wide
    simp only [sometimes_hit, wide, ne_eq, not_false_eq_true, true_and]
    exact or_comm

@[simp] theorem build_code (code : Code) (arguments : List Argument) :
    (build code arguments).code = code := by
  have added (arg : Argument) (instr : Instruction) : (arg.addTo instr).code = instr.code := by
    cases arg <;> rfl
  suffices folded : ∀ instr : Instruction,
      (arguments.foldl Argument.addTo instr).code = instr.code from folded _
  induction arguments with
  | nil => exact fun _ => rfl
  | cons arg rest ih => exact fun instr => (ih _).trans (added arg instr)

@[simp] theorem with0_code (code : Code) : (with0 code).code = code := rfl

@[simp] theorem with1_code (code : Code) (op0 : Argument) : (with1 code op0).code = code :=
  build_code ..

@[simp] theorem with2_code (code : Code) (op0 op1 : Argument) : (with2 code op0 op1).code = code :=
  build_code ..

@[simp] theorem with3_code (code : Code) (op0 op1 op2 : Argument) :
    (with3 code op0 op1 op2).code = code := build_code ..

@[simp] theorem with4_code (code : Code) (op0 op1 op2 op3 : Argument) :
    (with4 code op0 op1 op2 op3).code = code := build_code ..

@[simp] theorem withBranch_code (code : Code) (target : BitVec 64) :
    (withBranch code target).code = code := rfl

@[simp] theorem setImm8_code (instr : Instruction) (index : Nat) (value : BitVec 64) :
    (setImm8 instr index value).code = instr.code :=
  setImmKind_code instr index .IMMEDIATE8

@[simp] theorem setImmediate16_code (instr : Instruction) (value : BitVec 16) :
    (instr.setImmediate16 value).code = instr.code := rfl

@[simp] theorem setIsBroadcast_code (instr : Instruction) (value : Bool) :
    (instr.setIsBroadcast value).code = instr.code := rfl

@[simp] theorem ite_code {condition : Prop} [Decidable condition] (yes no : Instruction) :
    (if condition then yes else no).code = if condition then yes.code else no.code := by
  split <;> rfl

@[simp] theorem withMovs_code (w : Width) (rep : RepPrefixKind) :
    (withMovs w rep).code = ⟨.string .MOVS, [.esRdi w, .segRsi w], .plain⟩ := rfl

@[simp] theorem withCmps_code (w : Width) (rep : RepPrefixKind) :
    (withCmps w rep).code = ⟨.string .CMPS, [.segRsi w, .esRdi w], .plain⟩ := rfl

@[simp] theorem withScas_code (w : Width) (rep : RepPrefixKind) :
    (withScas w rep).code = ⟨.string .SCAS, [.fixed (accumulator w), .esRdi w], .plain⟩ := rfl

@[simp] theorem withStos_code (w : Width) (rep : RepPrefixKind) :
    (withStos w rep).code = ⟨.string .STOS, [.esRdi w, .fixed (accumulator w)], .plain⟩ := rfl

@[simp] theorem withLods_code (w : Width) (rep : RepPrefixKind) :
    (withLods w rep).code = ⟨.string .LODS, [.fixed (accumulator w), .segRsi w], .plain⟩ := rfl

@[simp] theorem mem_codes_map {Entry : Type} {f : Entry → Code} {table : List Entry} :
    code ∈ table.map f ↔ ∃ entry ∈ table, code = f entry := by
  simp only [List.mem_map, eq_comm]

end

end SevenFuzzer
