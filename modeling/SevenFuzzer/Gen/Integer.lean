import SevenFuzzer.Gen.Context

/-! # Integer families

The families of general-purpose instructions: each draws a code from its table and
operands for it, records in the context what the instruction needs, and builds the
instruction. The tables give a code for each width, as their names do.
-/

namespace SevenFuzzer

open Draw InstructionFactory

/-- One row of `kAluOps`: the encodings of an operation in the six operand orders `gen_alu` draws
from. -/
structure AluCodes where
  rmR : Width → Code
  rRm : Width → Code
  rmImm8 : Width → Code
  rmImmFull : Width → Code
  accImm : Width → Code

/-- The rows of the macro `SF_ALU`. -/
def aluCodes (op : AluOp) : AluCodes where
  rmR w := ⟨.alu op, [.regOrMem w, .reg w], .plain⟩
  rRm w := ⟨.alu op, [.reg w, .regOrMem w], .plain⟩
  rmImm8 w := ⟨.alu op, [.regOrMem w, immShort w], .plain⟩
  rmImmFull w := ⟨.alu op, [.regOrMem w, immFull w], .plain⟩
  accImm w := ⟨.alu op, [.fixed (accumulator w), immFull w], .plain⟩

/-- The eight two-operand operations, in the table's order. -/
def kAluOps : List AluCodes :=
  [aluCodes .ADD, aluCodes .OR, aluCodes .ADC, aluCodes .SBB, aluCodes .AND, aluCodes .SUB,
    aluCodes .XOR, aluCodes .CMP]

/-- Whether a form takes its one-byte immediate; at 8 bits there is no choice. -/
def shortImm (w : Width) : Draw Bool :=
  if w = .W8 then return false else oneIn 2

/-- The immediate of an ALU form: sign-extended from a byte in the short form, otherwise as wide as
the operands allow. -/
def immOf (short : Bool) (w : Width) : Draw (BitVec 32) :=
  if short then randomImmShort else randomImm32 (immBits w)

/-- `gen_alu`: one of the eight operations in one of four forms. The compared flags stay at their
default, so AF is compared even for the logical operations. -/
def genAlu : Gen (Option Instruction) := do
  let t ← pick kAluOps
  let w ← anyWidth
  let form ← between 0 3
  if form = 3 then
    let imm ← randomImm32 (immBits w)
    return some (setImmSized (with2 (t.accImm w) (accumulator w) imm) 1 w false (imm.signExtend 64))
  else if form = 0 then
    let a ← pickRegIndex
    let b ← pickRegIndex
    return some (with2 (t.rmR w) (regOf w a) (regOf w b))
  else if form = 1 then
    let a ← pickRegIndex
    let short ← shortImm w
    let code := if short then t.rmImm8 w else t.rmImmFull w
    let imm ← immOf short w
    return some (setImmSized (with2 code (regOf w a) imm) 1 w short (imm.signExtend 64))
  else
    touchMemory
    let disp ← randomDisp8
    if ← oneIn 2 then
      let short ← shortImm w
      let code := if short then t.rmImm8 w else t.rmImmFull w
      let imm ← immOf short w
      return some (setImmSized (with2 code (memOperand disp) imm) 1 w short (imm.signExtend 64))
    else
      let r ← pickRegIndex
      if ← oneIn 2 then
        return some (with2 (t.rmR w) (memOperand disp) (regOf w r))
      else
        return some (with2 (t.rRm w) (regOf w r) (memOperand disp))

/-- `TEST r/m, r`. -/
def TEST_RM_R (w : Width) : Code := ⟨.TEST, [.regOrMem w, .reg w], .plain⟩
/-- `TEST r/m, imm`. -/
def TEST_RM_IMM (w : Width) : Code := ⟨.TEST, [.regOrMem w, immFull w], .plain⟩

/-- The second encoding of TEST with an immediate. -/
def kTestImmF7R1 (w : Width) : Code :=
  ⟨.TEST, [.regOrMem w, immFull w], if w = .W8 then .F6R1 else .F7R1⟩

/-- The accumulator form of `TEST`, which has no ModRM byte. -/
def kTestAccImm (w : Width) : Code := ⟨.TEST, [.fixed (accumulator w), immFull w], .plain⟩

/-- `gen_test`: the three encodings of `TEST`, with a register or memory operand. -/
def genTest : Gen (Option Instruction) := do
  let w ← anyWidth
  let form ← between 0 3
  if form = 3 then
    let imm ← randomImm32 (immBits w)
    if ← oneIn 2 then
      return some (setImmSized (with2 (kTestAccImm w) (accumulator w) imm) 1 w false
        (imm.signExtend 64))
    else
      let a ← pickRegIndex
      return some (setImmSized (with2 (kTestImmF7R1 w) (regOf w a) imm) 1 w false
        (imm.signExtend 64))
  else if form = 0 then
    let a ← pickRegIndex
    let b ← pickRegIndex
    return some (with2 (TEST_RM_R w) (regOf w a) (regOf w b))
  else if form = 1 then
    let a ← pickRegIndex
    let imm ← randomImm32 (immBits w)
    return some (setImmSized (with2 (TEST_RM_IMM w) (regOf w a) imm) 1 w false (imm.signExtend 64))
  else
    touchMemory
    let disp ← randomDisp8
    if ← oneIn 2 then
      let b ← pickRegIndex
      return some (with2 (TEST_RM_R w) (memOperand disp) (regOf w b))
    else
      let imm ← randomImm32 (immBits w)
      return some (setImmSized (with2 (TEST_RM_IMM w) (memOperand disp) imm) 1 w false
        (imm.signExtend 64))

/-- The operations `gen_unary` picks from. -/
def kUnaryOps : List UnaryOp := [.INC, .DEC, .NEG, .NOT]

/-- The rows of the macro `SF_UN`. -/
def unaryCode (op : UnaryOp) (w : Width) : Code := ⟨.unary op, [.regOrMem w], .plain⟩

/-- `gen_unary`: one operand, a register or a location in the data window. -/
def genUnary : Gen (Option Instruction) := do
  let op ← pick kUnaryOps
  let w ← anyWidth
  if ← oneIn 2 then
    let a ← pickRegIndex
    return some (with1 (unaryCode op w) (regOf w a))
  else
    touchMemory
    let disp ← randomDisp8
    return some (with1 (unaryCode op w) (memOperand disp))

/-- One row of `kShiftOps`: the count is an immediate, CL, or one. -/
structure ShiftCodes where
  imm8 : Width → Code
  cl : Width → Code
  one : Width → Code

/-- The rows of the macro `SF_SH`. -/
def shiftCodes (op : ShiftOp) : ShiftCodes where
  imm8 w := ⟨.shift op, [.regOrMem w, .imm8], .plain⟩
  cl w := ⟨.shift op, [.regOrMem w, .fixed CL], .plain⟩
  one w := ⟨.shift op, [.regOrMem w, .imm8Const1], .plain⟩

/-- The shifts and rotates, in the table's order. -/
def kShiftOps : List ShiftCodes :=
  [shiftCodes .SHL, shiftCodes .SHR, shiftCodes .SAR, shiftCodes .ROL, shiftCodes .ROR,
    shiftCodes .RCL, shiftCodes .RCR, shiftCodes .SAL]

/-- OF is kept for the shift by one only. -/
def genShift : Gen (Option Instruction) := do
  let t ← pick kShiftOps
  let w ← anyWidth
  let countForm ← between 0 2
  let useMem ← oneIn 4
  if countForm ≠ 2 then
    modify fun c => { c with flagsMask := c.flagsMask &&& ~~~0x0800#64 }
  if ¬ useMem then
    let a ← pickRegIndex
    if countForm = 2 then
      return some (setImm8 (with2 (t.one w) (regOf w a) 1#32) 1 1)
    else if countForm = 1 then
      return some (with2 (t.cl w) (regOf w a) CL)
    else
      let imm ← randomImm32 8
      let imm := if ¬ (← oneIn 5) then imm &&& 0x3F#32 else imm
      return some (setImm8 (with2 (t.imm8 w) (regOf w a) imm) 1 (imm.signExtend 64))
  else
    touchMemory
    let disp ← randomDisp8
    if countForm = 2 then
      return some (setImm8 (with2 (t.one w) (memOperand disp) 1#32) 1 1)
    else if countForm = 1 then
      return some (with2 (t.cl w) (memOperand disp) CL)
    else
      let imm ← randomImm32 8
      return some (setImm8 (with2 (t.imm8 w) (memOperand disp) imm) 1 (imm.signExtend 64))

/-- `MOV r/m, r`. -/
def MOV_RM_R (w : Width) : Code := ⟨.MOV, [.regOrMem w, .reg w], .plain⟩
/-- `MOV r, r/m`. -/
def MOV_R_RM (w : Width) : Code := ⟨.MOV, [.reg w, .regOrMem w], .plain⟩
/-- `MOV r/m, imm`. -/
def MOV_RM_IMM (w : Width) : Code := ⟨.MOV, [.regOrMem w, immFull w], .plain⟩
/-- `MOV r64, imm64`, the only form with an eight-byte immediate. -/
def MOV_R64_IMM64 : Code := ⟨.MOV, [.reg .W64, .imm64], .plain⟩
/-- `MOV_R8_IMM8`, `MOV_R16_IMM16` and `MOV_R32_IMM32`. -/
def MOV_R_IMM (w : Width) : Code := ⟨.MOV, [.reg w, immFull w], .plain⟩

/-- `gen_mov`: a register copy, an immediate, a load or a store. -/
def genMov : Gen (Option Instruction) := do
  let w ← anyWidth
  let form ← between 0 3
  if form = 0 then
    let a ← pickRegIndex
    let b ← pickRegIndex
    return some (with2 (MOV_RM_R w) (regOf w a) (regOf w b))
  else if form = 1 then
    let a ← pickRegIndex
    if w = .W64 then
      let imm ← randomInterestingU64
      return some (with2 MOV_R64_IMM64 (regOf w a) imm)
    else
      let imm ← randomImm32 (bitsOf w)
      return some (setImmSized (with2 (MOV_R_IMM w) (regOf w a) imm) 1 w false (imm.signExtend 64))
  else
    touchMemory
    let disp ← randomDisp8
    let memForm ← between 0 2
    if memForm = 0 then
      let r ← pickRegIndex
      return some (with2 (MOV_RM_R w) (memOperand disp) (regOf w r))
    else if memForm = 1 then
      let r ← pickRegIndex
      return some (with2 (MOV_R_RM w) (regOf w r) (memOperand disp))
    else
      let imm ← randomImm32 (immBits w)
      return some (setImmSized (with2 (MOV_RM_IMM w) (memOperand disp) imm) 1 w false
        (imm.signExtend 64))

/-- The widths of destination and source in the tables of MOVZX and MOVSX. -/
def kMovxWidths : List (Width × Width) :=
  [(.W16, .W8), (.W32, .W8), (.W64, .W8), (.W16, .W16), (.W32, .W16), (.W64, .W16)]

/-- The zero- or sign-extending move between two widths. -/
def movxCode (zeroExt : Bool) (dstw srcw : Width) : Code :=
  ⟨if zeroExt then .MOVZX else .MOVSX, [.reg dstw, .regOrMem srcw], .plain⟩

/-- `gen_movx`: a widening move from a register or from memory, over the width pairs the encodings
allow. -/
def genMovx : Gen (Option Instruction) := do
  let zeroExt ← oneIn 2
  let (dstw, srcw) ← pick kMovxWidths
  let d ← pickRegIndex
  if ← oneIn 2 then
    let s ← pickRegIndex
    return some (with2 (movxCode zeroExt dstw srcw) (regOf dstw d) (regOf srcw s))
  else
    touchMemory
    let disp ← randomDisp8
    return some (with2 (movxCode zeroExt dstw srcw) (regOf dstw d) (memOperand disp))

/-- `MOVSXD r64, r/m32`. -/
def MOVSXD_R64_RM32 : Code := ⟨.MOVSXD, [.reg .W64, .regOrMem .W32], .plain⟩

/-- `gen_movsxd`. -/
def genMovsxd : Gen (Option Instruction) := do
  let d ← pickRegIndex
  if ← oneIn 2 then
    let s ← pickRegIndex
    return some (with2 MOVSXD_R64_RM32 (regOf .W64 d) (regOf .W32 s))
  else
    touchMemory
    let disp ← randomDisp8
    return some (with2 MOVSXD_R64_RM32 (regOf .W64 d) (memOperand disp))

/-- `PUSH r64`. -/
def PUSH_R64 : Code := ⟨.PUSH, [.reg .W64], .plain⟩
/-- `POP r64`. -/
def POP_R64 : Code := ⟨.POP, [.reg .W64], .plain⟩

/-- `gen_pushpop`: either direction, of any of the sixteen registers, RSP included. -/
def genPushpop : Gen (Option Instruction) := do
  let isPush ← oneIn 2
  let r ← pickRegIndex
  return some (with1 (if isPush then PUSH_R64 else POP_R64) (regOf .W64 r))

/-- `LEA` with a destination of each width it has. -/
def kLea (w : Width) : Code := ⟨.LEA, [.reg w, .address], .plain⟩

/-- `gen_lea`: the address is computed and never accessed, though the draw still pins the base
register. -/
def genLea : Gen (Option Instruction) := do
  touchMemory
  let d ← pickRegIndex
  let w ← width163264
  let disp ← randomDisp8
  return some (with2 (kLea w) (regOf w d) (memOperand disp))

/-- The address in the middle of the data window, which the absolute moves use. -/
def kMidWindow : BitVec 64 := kDataBase + BitVec.ofNat 64 (kDataWindow / 2)

/-- The pointers start in the middle of the window, and a repeated form runs at most
once. -/
def genStringOps : Gen (Option Instruction) := do
  touchMemory
  force 6 kMidWindow
  force 7 kMidWindow
  let family ← between 0 4
  let w ← anyWidth
  let rep ← pick [.NONE, .REPE, .REPNE]
  if rep ≠ .NONE then
    let count ← between 0 1
    force 1 (BitVec.ofNat 64 count)
  match family with
  | 0 => return some (withMovs w rep)
  | 1 => return some (withCmps w rep)
  | 2 => return some (withScas w rep)
  | 3 => return some (withStos w rep)
  | _ => return some (withLods w rep)

/-- `MOV_AL_MOFFS8` to `MOV_RAX_MOFFS64`. -/
def moffsLoad (w : Width) : Code := ⟨.MOV, [.fixed (accumulator w), .moffs w], .plain⟩
/-- The store of the accumulator to an absolute address. -/
def moffsStore (w : Width) : Code := ⟨.MOV, [.moffs w, .fixed (accumulator w)], .plain⟩

/-- The forms with an absolute address. -/
def genMoffs : Gen (Option Instruction) := do
  setFlagsMask 0
  touchMemory
  let w ← anyWidth
  let offset := (← between 0 15) * 8
  let addr := MemoryOperand.withDispl (kDataBase + BitVec.ofNat 64 offset) 8
  if ← oneIn 2 then
    return some (with2 (moffsLoad w) (accumulator w) addr)
  else
    return some (with2 (moffsStore w) addr (accumulator w))

/-- The byte-swapping load. -/
def movbeLoad (w : Width) : Code := ⟨.MOVBE, [.reg w, .mem (bytesOf w)], .plain⟩
/-- The byte-swapping store. -/
def movbeStore (w : Width) : Code := ⟨.MOVBE, [.mem (bytesOf w), .reg w], .plain⟩
/-- `CRC32`, by destination and source width. -/
def crc32Code (dw sw : Width) : Code := ⟨.CRC32, [.reg dw, .regOrMem sw], .plain⟩
/-- The multi-byte `NOP`, which takes an operand it does not access. -/
def kNop (w : Width) : Code := ⟨.NOP, [.regOrMem w], .plain⟩

/-- The source widths each destination admits: a 64-bit destination takes a byte or a quadword
only. -/
def crc32SourceWidth (dest64 : Bool) : Draw Width :=
  if dest64 then return if ← oneIn 2 then .W8 else .W64
  else pick [.W8, .W16, .W32]

/-- `gen_movbe_crc32_nop`: one of three families that share a generator and compare no flags. -/
def genMovbeCrc32Nop : Gen (Option Instruction) := do
  let family ← between 0 2
  if family = 0 then
    setFlagsMask 0
    touchMemory
    let w ← width163264
    let r ← pickRegIndex
    let disp ← randomDisp8
    if ← oneIn 2 then
      return some (with2 (movbeLoad w) (regOf w r) (memOperand disp))
    else
      return some (with2 (movbeStore w) (memOperand disp) (regOf w r))
  else if family = 1 then
    setFlagsMask 0
    let d ← pickRegIndex
    let src ← pickRegIndex
    let dest64 ← oneIn 2
    let sw ← crc32SourceWidth dest64
    let dw := if dest64 then Width.W64 else Width.W32
    if ← oneIn 3 then
      touchMemory
      let disp ← randomDisp8
      return some (with2 (crc32Code dw sw) (regOf dw d) (memOperand disp))
    else
      return some (with2 (crc32Code dw sw) (regOf dw d) (regOf sw src))
  else
    setFlagsMask 0
    let w ← width163264
    if ← oneIn 2 then
      touchMemory
      let disp ← randomDisp8
      return some (with1 (kNop w) (memOperand disp))
    else
      let r ← pickRegIndex
      return some (with1 (kNop w) (regOf w r))

/-! ## Branches and conditions -/

/-- The conditions in the order of `kJcc`, `kSetcc` and `kCmov16`. -/
def kConditions : List Condition :=
  [.O, .NO, .B, .AE, .E, .NE, .BE, .A, .S, .NS, .P, .NP, .L, .GE, .LE, .G]

/-- The short conditional jump. -/
def kJcc (cc : Condition) : Code := ⟨.jcc cc, [.rel8], .plain⟩
/-- The near conditional jump. -/
def kJcc32 (cc : Condition) : Code := ⟨.jcc cc, [.rel32], .plain⟩
/-- The byte set on a condition. -/
def kSetcc (cc : Condition) : Code := ⟨.setcc cc, [.regOrMem .W8], .plain⟩
/-- The conditional move. -/
def kCmov (cc : Condition) (w : Width) : Code := ⟨.cmovcc cc, [.reg w, .regOrMem w], .plain⟩
/-- The short jump. -/
def JMP_REL8_64 : Code := ⟨.JMP, [.rel8], .plain⟩
/-- The near jump. -/
def JMP_REL32_64 : Code := ⟨.JMP, [.rel32], .plain⟩
/-- The jump through a register or a memory location. -/
def JMP_RM64 : Code := ⟨.JMP, [.regOrMem .W64], .plain⟩
/-- The near call. -/
def CALL_REL32_64 : Code := ⟨.CALL, [.rel32], .plain⟩
/-- The call through a register or a memory location. -/
def CALL_RM64 : Code := ⟨.CALL, [.regOrMem .W64], .plain⟩
/-- The near return. -/
def RETNQ : Code := ⟨.RETNQ, [], .plain⟩
/-- The near return that also pops a number of bytes. -/
def RETNQ_IMM16 : Code := ⟨.RETNQ, [.imm16], .plain⟩
/-- The jump on RCX being zero. -/
def JRCXZ_REL8_64 : Code := ⟨.JRCXZ, [.rel8], .plain⟩
/-- The jump on ECX being zero. -/
def JECXZ_REL8_64 : Code := ⟨.JECXZ, [.rel8], .plain⟩

/-- The loop instructions, each with its counter of either width. -/
def kLoop : List Code :=
  [⟨.LOOP, [.rel8], .RCX⟩, ⟨.LOOP, [.rel8], .ECX⟩, ⟨.LOOPE, [.rel8], .RCX⟩,
    ⟨.LOOPE, [.rel8], .ECX⟩, ⟨.LOOPNE, [.rel8], .RCX⟩, ⟨.LOOPNE, [.rel8], .ECX⟩]

/-- `gen_jcc`: the short form targets the bytes around the instruction, the near form anywhere in
the code window. -/
def genJcc : Gen (Option Instruction) := do
  let cc ← pick kConditions
  if ← oneIn 2 then
    let target ← randomShortTarget
    return some (withBranch (kJcc cc) target)
  else
    let target ← randomCodeTarget
    return some (withBranch (kJcc32 cc) target)

/-- `gen_jmp`: two direct and two indirect routes to the target. -/
def genJmp : Gen (Option Instruction) := do
  match ← between 0 3 with
  | 0 =>
      let target ← randomShortTarget
      return some (withBranch JMP_REL8_64 target)
  | 1 =>
      let target ← randomCodeTarget
      return some (withBranch JMP_REL32_64 target)
  | 2 =>
      let r ← pickRegIndex
      let target ← randomCodeTarget
      force r target
      return some (with1 JMP_RM64 (regOf .W64 r))
  | _ =>
      let disp ← indirectTargetDisp
      touchMemory
      return some (with1 JMP_RM64 (memOperand disp))

/-- A call through RSP is given up: its stack pointer would not point to the stack. -/
def genCall : Gen (Option Instruction) := do
  match ← between 0 2 with
  | 0 =>
      let target ← randomCodeTarget
      return some (withBranch CALL_REL32_64 target)
  | 1 =>
      let r ← pickRegIndex
      if r = 4 then
        return none
      else
        let target ← randomCodeTarget
        force r target
        return some (with1 CALL_RM64 (regOf .W64 r))
  | _ =>
      let disp ← indirectTargetDisp
      touchMemory
      return some (with1 CALL_RM64 (memOperand disp))

/-- `gen_ret`: the return address is planted on the stack, and the immediate form pops a multiple of
eight bytes. -/
def genRet : Gen (Option Instruction) := do
  if ← oneIn 2 then
    return some (with0 RETNQ)
  else
    let popBytes := (← between 0 32) * 8
    let instr := setImmKind (with1 RETNQ_IMM16 (BitVec.ofNat 32 popBytes)) 0 .IMMEDIATE16
    return some (instr.setImmediate16 (BitVec.ofNat 16 popBytes))

/-- `gen_loop`: half of the draws force RCX to a small count, so that both exits of the loop are
met. -/
def genLoop : Gen (Option Instruction) := do
  let target ← randomShortTarget
  let choice ← between 0 7
  if ← oneIn 2 then
    let count ← between 0 3
    force 1 (BitVec.ofNat 64 count)
  if choice = 6 then
    return some (withBranch JRCXZ_REL8_64 target)
  else if choice = 7 then
    return some (withBranch JECXZ_REL8_64 target)
  else
    return (kLoop[choice]?).map fun code => withBranch code target

/-- `gen_setcc`. -/
def genSetcc : Gen (Option Instruction) := do
  let cc ← pick kConditions
  if ← oneIn 2 then
    let r ← pickRegIndex
    return some (with1 (kSetcc cc) (regOf .W8 r))
  else
    touchMemory
    let disp ← randomDisp8
    return some (with1 (kSetcc cc) (memOperand disp))

/-- `gen_cmovcc`. -/
def genCmovcc : Gen (Option Instruction) := do
  let cc ← pick kConditions
  let w ← width163264
  let d ← pickRegIndex
  if ← oneIn 2 then
    let s ← pickRegIndex
    return some (with2 (kCmov cc w) (regOf w d) (regOf w s))
  else
    touchMemory
    let disp ← randomDisp8
    return some (with2 (kCmov cc w) (regOf w d) (memOperand disp))

/-- The bit tests `gen_bt` picks from. -/
def kBtFamily : List BtOp := [.BT, .BTS, .BTR, .BTC]

/-- The bit test whose offset is in a register, and so unbounded for a memory operand. -/
def btRmR (op : BtOp) (w : Width) : Code := ⟨.bt op, [.regOrMem w, .reg w], .plain⟩
/-- The bit test whose offset is an immediate, taken modulo the operand's width. -/
def btRmImm (op : BtOp) (w : Width) : Code := ⟨.bt op, [.regOrMem w, .imm8], .plain⟩

/-- Only CF is kept. -/
def genBt : Gen (Option Instruction) := do
  setFlagsMask 0x0001#64
  let op ← pick kBtFamily
  let w ← width163264
  let useImm ← oneIn 2
  if ← oneIn 2 then
    let a ← pickRegIndex
    if useImm then
      let imm ← randomImm32 8
      return some (setImm8 (with2 (btRmImm op w) (regOf w a) imm) 1 (imm.signExtend 64))
    else
      let b ← pickRegIndex
      return some (with2 (btRmR op w) (regOf w a) (regOf w b))
  else
    touchMemory
    let disp ← randomDisp8
    if useImm then
      let imm ← randomImm32 8
      return some (setImm8 (with2 (btRmImm op w) (memOperand disp) imm) 1 (imm.signExtend 64))
    else
      let b ← pickRegIndex
      return some (with2 (btRmR op w) (memOperand disp) (regOf w b))

/-- The bit scans and counts `gen_rm_src` picks from. -/
def kRmSrcFamily : List RmSrcOp := [.BSF, .BSR, .POPCNT, .LZCNT, .TZCNT]

/-- The two-operand form the whole family shares. -/
def rmSrcCode (op : RmSrcOp) (w : Width) : Code := ⟨.rmsrc op, [.reg w, .regOrMem w], .plain⟩

/-- The two scans that leave most flags undefined, and the destination too for a zero source. -/
def isBsfBsr (op : RmSrcOp) : Bool := op = .BSF ∨ op = .BSR

/-- BSF and BSR keep ZF only and record their operands for `next`. -/
def genRmsrc : Gen (Option Instruction) := do
  let op ← pick kRmSrcFamily
  if isBsfBsr op then
    setFlagsMask 0x0040#64
  let w ← width163264
  let d ← pickRegIndex
  if ← oneIn 2 then
    let s ← pickRegIndex
    if isBsfBsr op then
      modify fun c =>
        { c with bsfBsrDest := some d, bsfBsrSrcReg := some s, bsfBsrWidthBytes := bytesOf w }
    return some (with2 (rmSrcCode op w) (regOf w d) (regOf w s))
  else
    touchMemory
    let disp ← randomDisp8
    if isBsfBsr op then
      modify fun c =>
        { c with
          bsfBsrDest := some d, bsfBsrSrcMemDisp := some disp, bsfBsrWidthBytes := bytesOf w }
    return some (with2 (rmSrcCode op w) (regOf w d) (memOperand disp))

/-- `BSWAP r`. -/
def BSWAP_R (w : Width) : Code := ⟨.BSWAP, [.reg w], .plain⟩

/-- `gen_bswap`, of a 32-bit or a 64-bit register. -/
def genBswap : Gen (Option Instruction) := do
  let w64 ← oneIn 2
  let r ← pickRegIndex
  let w := if w64 then Width.W64 else Width.W32
  return some (with1 (BSWAP_R w) (regOf w r))

/-- The operand orders of the BMI instructions. -/
inductive BmiShape where
  | kDstSrcRm | kDstRmSrc | kDstRm | kDstRmImm
  deriving DecidableEq

/-- One row of `kBmi`. -/
structure BmiEntry where
  op : BmiOp
  shape : BmiShape
  writesFlags : Bool

/-- `VEX_ANDN_R32_R32_RM32` and its like, by the shape of the row. -/
def BmiEntry.code (e : BmiEntry) (w : Width) : Code :=
  match e.shape with
  | .kDstSrcRm => ⟨.bmi e.op, [.reg w, .reg w, .regOrMem w], .VEX⟩
  | .kDstRmSrc => ⟨.bmi e.op, [.reg w, .regOrMem w, .reg w], .VEX⟩
  | .kDstRm => ⟨.bmi e.op, [.reg w, .regOrMem w], .VEX⟩
  | .kDstRmImm => ⟨.bmi e.op, [.reg w, .regOrMem w, .imm8], .VEX⟩

/-- The BMI1 and BMI2 instructions. No field says which of the two a row belongs to, and the
generator asks for neither. -/
def kBmi : List BmiEntry :=
  [⟨.ANDN, .kDstSrcRm, true⟩, ⟨.BEXTR, .kDstRmSrc, true⟩, ⟨.BLSI, .kDstRm, true⟩,
    ⟨.BLSMSK, .kDstRm, true⟩, ⟨.BLSR, .kDstRm, true⟩, ⟨.BZHI, .kDstRmSrc, true⟩,
    ⟨.PDEP, .kDstSrcRm, false⟩, ⟨.PEXT, .kDstSrcRm, false⟩, ⟨.MULX, .kDstSrcRm, false⟩,
    ⟨.RORX, .kDstRmImm, false⟩, ⟨.SARX, .kDstRmSrc, false⟩, ⟨.SHLX, .kDstRmSrc, false⟩,
    ⟨.SHRX, .kDstRmSrc, false⟩]

theorem kBmi_nonempty : 0 < kBmi.length := by decide

/-- The instruction for the shape of a row. -/
def bmiForm (e : BmiEntry) (w : Width) (d s : Fin 16) (rmIsMem : Bool) (disp : BitVec 8)
    (imm8 : BitVec 32) : Gen (Option Instruction) := do
  let code := e.code w
  match e.shape with
  | .kDstSrcRm =>
      if rmIsMem then
        return some (with3 code (regOf w d) (regOf w s) (memOperand disp))
      else
        let r ← pickRegIndex
        return some (with3 code (regOf w d) (regOf w s) (regOf w r))
  | .kDstRmSrc =>
      if rmIsMem then
        return some (with3 code (regOf w d) (memOperand disp) (regOf w s))
      else
        let r ← pickRegIndex
        return some (with3 code (regOf w d) (regOf w r) (regOf w s))
  | .kDstRm =>
      if rmIsMem then
        return some (with2 code (regOf w d) (memOperand disp))
      else
        return some (with2 code (regOf w d) (regOf w s))
  | .kDstRmImm =>
      if rmIsMem then
        return some (with3 code (regOf w d) (memOperand disp) imm8)
      else
        return some (with3 code (regOf w d) (regOf w s) imm8)

/-- What `gen_bmi` builds for a row of its table. -/
def genBmiEntry (e : BmiEntry) : Gen (Option Instruction) := do
  let w := if ← oneIn 2 then Width.W64 else Width.W32
  if e.writesFlags then
    setFlagsMask (0x001#64 ||| 0x040#64 ||| 0x080#64 ||| 0x800#64)
  let d ← pickRegIndex
  let s ← pickRegIndex
  let rmIsMem ← oneIn 3
  if rmIsMem then
    touchMemory
  let disp ← randomDisp8
  let imm8 ← randomImm32 8
  bmiForm e w d s rmIsMem disp imm8

/-- `gen_bmi`: a row of the table, drawn whatever the host offers. -/
def genBmi : Gen (Option Instruction) := do
  let e ← pick kBmi
  genBmiEntry e

/-! ## Multiplication and division -/

/-- The one-operand multiplication or division, on the accumulator pair. -/
def mulDivCode (op : MulDivOp) (w : Width) : Code := ⟨.muldiv op, [.regOrMem w], .plain⟩

/-- The registers that hold neither the dividend nor the stack pointer. -/
def kNonAccumRegs : List (Fin 16) := [1, 3, 5, 6, 7, 8, 9, 10, 11, 12, 13, 14, 15]

theorem kNonAccumRegs_nonempty : 0 < kNonAccumRegs.length := by decide

/-- The operations that can raise a divide error. -/
def isDivFamily (op : MulDivOp) : Bool := op = .DIV ∨ op = .IDIV

/-- A value below the divisor, for the upper half of a dividend whose quotient must fit. -/
def remainderBelow (divisor : BitVec 64) : Draw (BitVec 64) :=
  if 1#64 < divisor then (· % divisor) <$> randomInterestingU64 else return 0#64

/-- A dividend built from a divisor, a quotient and a remainder, in RDX:RAX. -/
def genBiasedDiv (op : MulDivOp) (w : Width) : Gen (Option Instruction) := do
  let mapped ← pick kNonAccumRegs
  let divisor ← randomImm (bitsOf w)
  let divisor := if divisor = 0 then 1#64 else divisor
  let quotient ← randomImm (bitsOf w)
  let remainder ← remainderBelow divisor
  -- `_umul128`, then the remainder added to the low half and its carry to the high half
  let productLo := quotient * divisor
  let hi := BitVec.ofNat 64 (quotient.toNat * divisor.toNat / 2 ^ 64)
  let lo := productLo + remainder
  let carry := if 2 ^ 64 ≤ productLo.toNat + remainder.toNat then 1#64 else 0#64
  force mapped divisor
  force 0 lo
  if w ≠ .W8 then
    force 2 (hi + carry)
  return some (with1 (mulDivCode op w) (regOf w mapped))

/-- Two divisions in three are drawn with a dividend whose quotient fits; a multiplication never
is. -/
def biasedDiv (op : MulDivOp) : Draw Bool :=
  if isDivFamily op then (! ·) <$> oneIn 3 else return false

/-- `gen_muldiv`: a division compares no flags, a multiplication only CF and OF. -/
def genMuldiv : Gen (Option Instruction) := do
  let op ← pick [.MUL, .IMUL, .DIV, .IDIV]
  let w ← anyWidth
  setFlagsMask (if isDivFamily op then 0#64 else 0x0801#64)
  let biased ← biasedDiv op
  if biased then
    genBiasedDiv op w
  else if ← oneIn 2 then
    let r ← pickRegIndex
    return some (with1 (mulDivCode op w) (regOf w r))
  else
    touchMemory
    let disp ← randomDisp8
    return some (with1 (mulDivCode op w) (memOperand disp))

/-- The two-operand multiplication. -/
def kImul2 (w : Width) : Code := ⟨.muldiv .IMUL, [.reg w, .regOrMem w], .plain⟩
/-- The three-operand multiplication with a sign-extended byte. -/
def kImul3Imm8 (w : Width) : Code := ⟨.muldiv .IMUL, [.reg w, .regOrMem w, immShort w], .plain⟩
/-- The three-operand multiplication with a full immediate. -/
def kImul3ImmFull (w : Width) : Code := ⟨.muldiv .IMUL, [.reg w, .regOrMem w, immFull w], .plain⟩

/-- `gen_imul_multi`: the two- and three-operand multiplications. -/
def genImulMulti : Gen (Option Instruction) := do
  setFlagsMask 0x0801#64
  let w ← width163264
  let form ← between 0 2
  if form = 0 then
    let d ← pickRegIndex
    let s ← pickRegIndex
    return some (with2 (kImul2 w) (regOf w d) (regOf w s))
  else if form = 1 then
    touchMemory
    let d ← pickRegIndex
    let disp ← randomDisp8
    return some (with2 (kImul2 w) (regOf w d) (memOperand disp))
  else
    let d ← pickRegIndex
    let short ← oneIn 2
    let imm ← immOf short w
    let code := if short then kImul3Imm8 w else kImul3ImmFull w
    if ← oneIn 2 then
      let s ← pickRegIndex
      return some (setImmSized (with3 code (regOf w d) (regOf w s) imm) 2 w short
        (imm.signExtend 64))
    else
      touchMemory
      let disp ← randomDisp8
      return some (setImmSized (with3 code (regOf w d) (memOperand disp) imm) 2 w short
        (imm.signExtend 64))

/-- `XCHG r/m, r`. -/
def xchgRmR (w : Width) : Code := ⟨.XCHG, [.regOrMem w, .reg w], .plain⟩
/-- `XCHG_R16_AX`, `XCHG_R32_EAX` and `XCHG_R64_RAX`. -/
def xchgShort (w : Width) : Code := ⟨.XCHG, [.reg w, .fixed (accumulator w)], .plain⟩

/-- `gen_xchg`: the short accumulator form or the general one. -/
def genXchg : Gen (Option Instruction) := do
  setFlagsMask 0
  if ← oneIn 4 then
    let w ← width163264
    let r ← between 1 15
    return some (with2 (xchgShort w) (regOf w (Fin.ofNat 16 r)) (accumulator w))
  else
    let w ← anyWidth
    let s ← pickRegIndex
    if ← oneIn 3 then
      touchMemory
      let disp ← randomDisp8
      return some (with2 (xchgRmR w) (memOperand disp) (regOf w s))
    else
      let d ← pickRegIndex
      return some (with2 (xchgRmR w) (regOf w d) (regOf w s))

/-- `XADD` or `CMPXCHG`, which take the same operands. -/
def xaddCmpxchgCode (isXadd : Bool) (w : Width) : Code :=
  ⟨if isXadd then .XADD else .CMPXCHG, [.regOrMem w, .reg w], .plain⟩

/-- Half of the compare-and-exchanges are made to succeed; for `XADD` nothing is drawn. -/
def equalOperands (isXadd : Bool) : Draw Bool :=
  if isXadd then return false else oneIn 2

/-- Half of the register forms of CMPXCHG are made to compare equal. -/
def genXaddCmpxchg : Gen (Option Instruction) := do
  let w ← anyWidth
  let isXadd ← oneIn 2
  let code := xaddCmpxchgCode isXadd w
  let s ← pickRegIndex
  if ← oneIn 3 then
    touchMemory
    let disp ← randomDisp8
    return some (with2 code (memOperand disp) (regOf w s))
  else
    let equal ← equalOperands isXadd
    let d ← pickRegIndex
    if equal ∧ d ≠ 0 then
      let shared ← randomInterestingU64
      force 0 shared
      force d shared
    return some (with2 code (regOf w d) (regOf w s))

/-- The double shift by CL. -/
def shldShrdCl (left : Bool) (w : Width) : Code :=
  ⟨if left then .SHLD else .SHRD, [.regOrMem w, .reg w, .fixed CL], .plain⟩

/-- The double shift by an immediate. -/
def shldShrdImm (left : Bool) (w : Width) : Code :=
  ⟨if left then .SHLD else .SHRD, [.regOrMem w, .reg w, .imm8], .plain⟩

/-- The counts of the 16-bit forms stay within the operand. -/
def genShldShrd : Gen (Option Instruction) := do
  modify fun c => { c with flagsMask := c.flagsMask &&& ~~~(0x0800#64 ||| 0x0010#64) }
  let w ← width163264
  let left ← oneIn 2
  let useCl ← oneIn 2
  let s ← pickRegIndex
  let useMem ← oneIn 3
  if useCl then
    let code := shldShrdCl left w
    if w = .W16 then
      let count ← between 0 15
      force 1 (BitVec.ofNat 64 count)
    if useMem then
      touchMemory
      let disp ← randomDisp8
      return some (with3 code (memOperand disp) (regOf w s) CL)
    else
      let d ← pickRegIndex
      return some (with3 code (regOf w d) (regOf w s) CL)
  else
    let code := shldShrdImm left w
    let imm ← randomImm32 8
    let imm := if ¬ (← oneIn 5) then imm &&& 0x3F#32 else imm
    let imm := if w = .W16 then imm &&& 0x0F#32 else imm
    if useMem then
      touchMemory
      let disp ← randomDisp8
      return some (setImm8 (with3 code (memOperand disp) (regOf w s) imm) 2 (imm.signExtend 64))
    else
      let d ← pickRegIndex
      return some (setImm8 (with3 code (regOf w d) (regOf w s) imm) 2 (imm.signExtend 64))

/-- The privileged instructions without operands. -/
def kPrivileged : List PrivilegedOp :=
  [.CLI, .STI, .HLT, .CLTS, .INVD, .WBINVD, .SWAPGS, .XSETBV, .RDMSR, .WRMSR]

/-- `gen_privileged`: each of these faults in ring 3 and compares no flags. -/
def genPrivileged : Gen (Option Instruction) := do
  setFlagsMask 0
  let op ← pick kPrivileged
  return some (with0 ⟨.privileged op, [], .plain⟩)

/-- The control registers that exist. -/
def kCr : List Register := [.cr 0, .cr 2, .cr 3, .cr 4, .cr 8]

/-- The read of a control register. -/
def MOV_R64_CR : Code := ⟨.MOV, [.reg .W64, .cr], .plain⟩
/-- The write of a control register. -/
def MOV_CR_R64 : Code := ⟨.MOV, [.cr, .reg .W64], .plain⟩
/-- The read of a debug register. -/
def MOV_R64_DR : Code := ⟨.MOV, [.reg .W64, .dr], .plain⟩
/-- The write of a debug register. -/
def MOV_DR_R64 : Code := ⟨.MOV, [.dr, .reg .W64], .plain⟩

/-- `gen_privileged_movcrdr`: a move between a general register and a control or debug register. -/
def genPrivilegedMovcrdr : Gen (Option Instruction) := do
  setFlagsMask 0
  let isCr ← oneIn 2
  let readDir ← oneIn 2
  let gp ← pickRegIndex
  if isCr then
    let crreg ← pick kCr
    if readDir then
      return some (with2 MOV_R64_CR (regOf .W64 gp) crreg)
    else
      return some (with2 MOV_CR_R64 crreg (regOf .W64 gp))
  else
    let i ← index 7
    let drreg := Register.dr i
    if readDir then
      return some (with2 MOV_R64_DR (regOf .W64 gp) drreg)
    else
      return some (with2 MOV_DR_R64 drreg (regOf .W64 gp))

end SevenFuzzer
