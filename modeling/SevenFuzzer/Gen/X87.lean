import SevenFuzzer.Gen.Context

/-! # x87 families

Every family records how many stack slots its instruction reads, and `next` then
builds a whole floating-point state. Memory operands are often planted, since random
bytes are rarely ordinary values.
-/

namespace SevenFuzzer

open Draw InstructionFactory

/-- An extended value by its fields. -/
structure X87Raw where
  signexp : BitVec 16
  signif : BitVec 64
  deriving DecidableEq

/-- The values of the stack slots: zeros, ones, infinities, denormals and unsupported encodings. -/
def kX87Pool : List X87Raw :=
  [⟨0x0000#16, 0x0000000000000000#64⟩, ⟨0x8000#16, 0x0000000000000000#64⟩,
    ⟨0x3FFF#16, 0x8000000000000000#64⟩, ⟨0xBFFF#16, 0x8000000000000000#64⟩,
    ⟨0x4000#16, 0x8000000000000000#64⟩, ⟨0x4000#16, 0xC000000000000000#64⟩,
    ⟨0x4002#16, 0xA000000000000000#64⟩, ⟨0x400B#16, 0xB400000000000000#64⟩,
    ⟨0x7FFF#16, 0x8000000000000000#64⟩, ⟨0xFFFF#16, 0x8000000000000000#64⟩,
    ⟨0x7FFF#16, 0xC000000000000000#64⟩, ⟨0xFFFF#16, 0xC000000000000000#64⟩,
    ⟨0x7FFF#16, 0x8000000000000001#64⟩, ⟨0x7FFF#16, 0x4000000000000000#64⟩,
    ⟨0x7FFF#16, 0x0000000000000000#64⟩, ⟨0x4000#16, 0x4000000000000000#64⟩,
    ⟨0x0000#16, 0x8000000000000000#64⟩, ⟨0x0000#16, 0x0000000000000001#64⟩,
    ⟨0x0000#16, 0x7FFFFFFFFFFFFFFF#64⟩, ⟨0x0001#16, 0x8000000000000000#64⟩,
    ⟨0x7FFE#16, 0xFFFFFFFFFFFFFFFF#64⟩, ⟨0x3FFF#16, 0xC90FDAA22168C235#64⟩,
    ⟨0x403E#16, 0x8000000000000000#64⟩, ⟨0x4040#16, 0x8000000000000000#64⟩]

/-- `random_x87_value`: any bit pattern in one draw of seven or so, else a value of the pool with a
drawn sign. -/
def randomX87Value : Draw X87Raw := do
  if (← between 0 99) < 15 then
    let signexp ← between 0 0xFFFF
    let signif ← fullU64
    return ⟨BitVec.ofNat 16 signexp, signif⟩
  else
    let v ← pick kX87Pool
    return if ← oneIn 4 then { v with signexp := v.signexp ^^^ 0x8000#16 } else v

/-- The single-precision operands. -/
def kF32Pool : List (BitVec 32) :=
  [0x00000000#32, 0x80000000#32, 0x3F800000#32, 0xBF800000#32, 0x00800000#32, 0x007FFFFF#32,
    0x00000001#32, 0x7F7FFFFF#32, 0x7F800000#32, 0xFF800000#32, 0x7FC00000#32, 0x7FA00000#32,
    0x40490FDB#32, 0x5F000000#32]

theorem kF32Pool_nonempty : 0 < kF32Pool.length := by decide

/-- The double-precision operands. -/
def kF64Pool : List (BitVec 64) :=
  [0x0000000000000000#64, 0x8000000000000000#64, 0x3FF0000000000000#64, 0xBFF0000000000000#64,
    0x0010000000000000#64, 0x000FFFFFFFFFFFFF#64, 0x0000000000000001#64, 0x7FEFFFFFFFFFFFFF#64,
    0x7FF0000000000000#64, 0xFFF0000000000000#64, 0x7FF8000000000000#64, 0x7FF4000000000000#64,
    0x400921FB54442D18#64, 0x43E0000000000000#64]

theorem kF64Pool_nonempty : 0 < kF64Pool.length := by decide

/-- The integer operands, around the limits of the three sizes. -/
def kX87IntPool : List (BitVec 64) :=
  [0#64, 1#64, 2#64, 100#64, 0x7FFF#64, 0x8000#64, 0xFFFF#64, 0x7FFFFFFF#64, 0x80000000#64,
    0x7FFFFFFFFFFFFFFF#64, 0x8000000000000000#64, 0xFFFFFFFFFFFFFFFF#64]

theorem kX87IntPool_nonempty : 0 < kX87IntPool.length := by decide

/-- The offset a displacement stands for. -/
def offsetOf (disp : BitVec 8) : Nat := (disp.signExtend 64).toNat

/-- Plants bytes where a displacement from the pinned base points. -/
def plantBytes (disp : BitVec 8) (src : Nat → BitVec 8) (size : Nat) : Gen Unit :=
  modify fun c =>
    { c with
      forceDataBytes := some ⟨offsetOf disp, size, fun i => if i.val < size then src i else 0⟩ }

/-- Plants an integer, low byte first. -/
def plantInt (disp : BitVec 8) (value : BitVec 64) (size : Nat) : Gen Unit :=
  plantBytes disp (fun i => if i < size then byteOf value i else 0) size

/-- The ten bytes of an extended value. -/
def x87Bytes (v : X87Raw) (i : Nat) : BitVec 8 :=
  if i < 8 then byteOf v.signif i
  else if i = 8 then v.signexp.setWidth 8
  else (v.signexp >>> 8).setWidth 8

/-- One time in four the operand keeps its random bytes. -/
def plantFpOperand (disp : BitVec 8) (size : Nat) : Gen Unit := do
  if ¬ (← oneIn 4) then
    if size = 4 then
      let value ← pick kF32Pool
      plantInt disp (value.setWidth 64) 4
    else if size = 8 then
      let value ← pick kF64Pool
      plantInt disp value 8
    else
      let v ← randomX87Value
      plantBytes disp (x87Bytes v) 10

/-- Plants an integer of the pool, or leaves the drawn bytes. -/
def plantIntOperand (disp : BitVec 8) (size : Nat) : Gen Unit := do
  if ¬ (← oneIn 4) then
    let value ← pick kX87IntPool
    plantInt disp value size

/-- The instruction uses the x87 unit and finds at least so many slots full; the larger of two
requests counts. -/
def x87Setup (needs : Nat) : Gen Unit :=
  modify fun c =>
    { c with usesX87 := true, x87Needs := if needs > c.x87Needs then needs else c.x87Needs }

/-- An x87 encoding without operands. -/
def x87Plain (op : X87Op) : Code := ⟨.x87 op, [], .plain⟩
/-- A memory operand of a size in bytes: `M32FP`, `M64INT`, `M2BYTE`. -/
def x87Mem (op : X87Op) (size : Nat) : Code := ⟨.x87 op, [.mem size], .plain⟩
/-- An x87 encoding into the top of the stack. -/
def ST0_STI (op : X87Op) : Code := ⟨.x87 op, [.fixed (.st 0), .sti], .plain⟩
/-- An x87 encoding from the top of the stack. -/
def STI_ST0 (op : X87Op) : Code := ⟨.x87 op, [.sti, .fixed (.st 0)], .plain⟩
/-- An x87 encoding with one slot. -/
def STI (op : X87Op) : Code := ⟨.x87 op, [.sti], .plain⟩
/-- The undocumented alias of a code. -/
def aliasOf (code : Code) (form : CodeForm) : Code := { code with form := form }

/-- An x87 operation and the size of its memory operand. -/
structure X87MemForm where
  op : X87Op
  size : Nat
  deriving DecidableEq

/-- The loads. -/
def kX87Load : List X87MemForm :=
  [⟨.FLD, 4⟩, ⟨.FLD, 8⟩, ⟨.FLD, 10⟩, ⟨.FILD, 2⟩, ⟨.FILD, 4⟩, ⟨.FILD, 8⟩]

theorem kX87Load_nonempty : 0 < kX87Load.length := by decide

/-- `gen_x87_load`: the operand is planted, as an integer for `FILD` and as a floating-point value
otherwise. -/
def genX87Load : Gen (Option Instruction) := do
  x87Setup 0
  touchMemory
  let f ← pick kX87Load
  let disp ← randomDisp8
  if f.op = .FILD then
    plantIntOperand disp f.size
  else
    plantFpOperand disp f.size
  return some (with1 (x87Mem f.op f.size) (memOperand disp))

/-- The stores. -/
def kX87Store : List X87MemForm :=
  [⟨.FST, 4⟩, ⟨.FST, 8⟩, ⟨.FSTP, 4⟩, ⟨.FSTP, 8⟩, ⟨.FSTP, 10⟩, ⟨.FIST, 2⟩, ⟨.FIST, 4⟩,
    ⟨.FISTP, 2⟩, ⟨.FISTP, 4⟩, ⟨.FISTP, 8⟩, ⟨.FISTTP, 4⟩]

/-- `gen_x87_store`. -/
def genX87Store : Gen (Option Instruction) := do
  x87Setup 1
  touchMemory
  let f ← pick kX87Store
  let disp ← randomDisp8
  return some (with1 (x87Mem f.op f.size) (memOperand disp))

/-- The mnemonics of a row of `kX87Arith`: the operation, its popping and its
integer form. -/
structure X87ArithGroup where
  op : X87Op
  pop : X87Op
  int : X87Op

/-- The arithmetic groups. -/
def kX87Arith : List X87ArithGroup :=
  [⟨.FADD, .FADDP, .FIADD⟩, ⟨.FMUL, .FMULP, .FIMUL⟩, ⟨.FSUB, .FSUBP, .FISUB⟩,
    ⟨.FSUBR, .FSUBRP, .FISUBR⟩, ⟨.FDIV, .FDIVP, .FIDIV⟩, ⟨.FDIVR, .FDIVRP, .FIDIVR⟩]

theorem kX87Arith_nonempty : 0 < kX87Arith.length := by decide

/-- `gen_x87_arith`: three forms between slots, four with an operand in memory. -/
def genX87Arith : Gen (Option Instruction) := do
  let g ← pick kX87Arith
  let form ← between 0 6
  if form ≤ 2 then
    let i ← pickStIndex
    x87Setup (i.val + 1)
    if form = 0 then
      return some (with2 (ST0_STI g.op) (stOf 0) (stOf i))
    else if form = 1 then
      return some (with2 (STI_ST0 g.op) (stOf i) (stOf 0))
    else
      return some (with2 (STI_ST0 g.pop) (stOf i) (stOf 0))
  else
    x87Setup 1
    touchMemory
    let disp ← randomDisp8
    match form with
    | 3 =>
        plantFpOperand disp 4
        return some (with1 (x87Mem g.op 4) (memOperand disp))
    | 4 =>
        plantFpOperand disp 8
        return some (with1 (x87Mem g.op 8) (memOperand disp))
    | 5 =>
        plantIntOperand disp 2
        return some (with1 (x87Mem g.int 2) (memOperand disp))
    | _ =>
        plantIntOperand disp 4
        return some (with1 (x87Mem g.int 4) (memOperand disp))

/-- The operations on the top slot alone. -/
def kX87Unary1 : List X87Op := [.FSQRT, .FRNDINT, .FABS, .FCHS]
/-- The operations that also read or push a second slot. -/
def kX87Unary2 : List X87Op := [.FSCALE, .FPREM, .FPREM1, .FXTRACT]

/-- `gen_x87_unary`. -/
def genX87Unary : Gen (Option Instruction) := do
  if ← oneIn 2 then
    x87Setup 1
    let op ← pick kX87Unary1
    return some (with0 (x87Plain op))
  else
    let op ← pick kX87Unary2
    x87Setup (if op = .FXTRACT then 1 else 2)
    return some (with0 (x87Plain op))

/-- The transcendental operations. -/
def kX87Transcendental : List X87Op :=
  [.FSIN, .FCOS, .FSINCOS, .FPTAN, .F2XM1, .FYL2X, .FYL2XP1, .FPATAN]

/-- `gen_x87_transcendental`: three of them take two slots. -/
def genX87Transcendental : Gen (Option Instruction) := do
  let op ← pick kX87Transcendental
  x87Setup (if op = .FYL2X ∨ op = .FYL2XP1 ∨ op = .FPATAN then 2 else 1)
  return some (with0 (x87Plain op))

/-- The comparisons between slots, the undocumented aliases included. -/
def kX87CompareStSt : List Code :=
  [ST0_STI .FCOM, ST0_STI .FCOMP, ST0_STI .FUCOM, ST0_STI .FUCOMP, ST0_STI .FCOMI, ST0_STI .FCOMIP,
    ST0_STI .FUCOMI, ST0_STI .FUCOMIP, aliasOf (ST0_STI .FCOM) .DCD0,
    aliasOf (ST0_STI .FCOMP) .DCD8, aliasOf (ST0_STI .FCOMP) .DED0]

theorem kX87CompareStSt_nonempty : 0 < kX87CompareStSt.length := by decide

/-- `gen_x87_compare`: the comparisons with zero, with a slot and with memory. -/
def genX87Compare : Gen (Option Instruction) := do
  let form ← between 0 9
  if form = 0 then
    x87Setup 1
    return some (with0 (x87Plain .FTST))
  else if form = 1 then
    x87Setup 1
    return some (with0 (x87Plain .FXAM))
  else if form = 2 then
    x87Setup 2
    if ← oneIn 2 then
      return some (with0 (x87Plain .FCOMPP))
    else
      return some (with0 (x87Plain .FUCOMPP))
  else if form ≤ 4 then
    x87Setup 1
    touchMemory
    let m64 ← oneIn 2
    let pop ← oneIn 2
    let disp ← randomDisp8
    let size := if m64 then 8 else 4
    plantFpOperand disp size
    return some (with1 (x87Mem (if pop then .FCOMP else .FCOM) size) (memOperand disp))
  else
    let i ← pickStIndex
    x87Setup (i.val + 1)
    let code ← pick kX87CompareStSt
    return some (with2 code (stOf 0) (stOf i))

/-- The stores into a slot, the undocumented aliases included. -/
def kX87StoreStI : List Code :=
  [STI .FST, STI .FSTP, aliasOf (STI .FSTP) .DFD0, aliasOf (STI .FSTP) .DFD8, STI .FSTPNCE]

/-- The exchanges, the undocumented aliases included. -/
def kX87Xchg : List Code :=
  [ST0_STI .FXCH, aliasOf (ST0_STI .FXCH) .DDC8, aliasOf (ST0_STI .FXCH) .DFC8]

/-- The constants, and the instruction that does nothing. -/
def kX87Const : List X87Op :=
  [.FLD1, .FLDZ, .FLDPI, .FLDL2T, .FLDL2E, .FLDLG2, .FLDLN2, .FNOP]

/-- The conditional moves. -/
def kX87Cmov : List X87Op :=
  [.FCMOVB, .FCMOVE, .FCMOVBE, .FCMOVU, .FCMOVNB, .FCMOVNE, .FCMOVNBE, .FCMOVNU]

/-- `gen_x87_move`: the pushes, stores, exchanges, constants and conditional moves that touch no
memory. -/
def genX87Move : Gen (Option Instruction) := do
  let form ← between 0 5
  let i ← pickStIndex
  match form with
  | 0 =>
      x87Setup (i.val + 1)
      return some (with1 (STI .FLD) (stOf i))
  | 1 =>
      x87Setup 1
      let code ← pick kX87StoreStI
      return some (with1 code (stOf i))
  | 2 =>
      x87Setup (i.val + 1)
      let code ← pick kX87Xchg
      return some (with2 code (stOf 0) (stOf i))
  | 3 =>
      x87Setup 0
      if ← oneIn 2 then
        return some (with1 (STI .FFREE) (stOf i))
      else
        return some (with1 (STI .FFREEP) (stOf i))
  | 4 =>
      x87Setup 0
      let op ← pick kX87Const
      return some (with0 (x87Plain op))
  | _ =>
      x87Setup (i.val + 1)
      let op ← pick kX87Cmov
      return some (with2 (ST0_STI op) (stOf 0) (stOf i))

/-- The store of the status word to AX, an encoding of its own. -/
def FNSTSW_AX : Code := ⟨.x87 .FNSTSW, [.fixed (accumulator .W16)], .plain⟩

/-- A word that FLDCW can load: masked, extended, any rounding. -/
def randomControlWord : Draw (BitVec 64) := do
  let rounding ← between 0 3
  let infinity := if ← oneIn 4 then 0x1000#64 else 0#64
  return 0x037F#64 ||| (BitVec.ofNat 64 rounding <<< 10) ||| infinity

/-- What `gen_x87_control` builds for a form. -/
def genX87ControlForm (form : Nat) : Gen (Option Instruction) := do
  x87Setup 0
  match form with
  | 0 => return some (with0 FNSTSW_AX)
  | 1 =>
      touchMemory
      let disp ← randomDisp8
      return some (with1 (x87Mem .FNSTSW 2) (memOperand disp))
  | 2 =>
      touchMemory
      let disp ← randomDisp8
      return some (with1 (x87Mem .FNSTCW 2) (memOperand disp))
  | 3 =>
      touchMemory
      let disp ← randomDisp8
      let cw ← randomControlWord
      plantInt disp cw 2
      return some (with1 (x87Mem .FLDCW 2) (memOperand disp))
  | 4 => return some (with0 (x87Plain .FNCLEX))
  | 5 => return some (with0 (x87Plain .FNINIT))
  | _ =>
      if ← oneIn 2 then
        return some (with0 (x87Plain .FINCSTP))
      else
        return some (with0 (x87Plain .FDECSTP))

/-- `gen_x87_control`: the control and status words, the two resets, and the moves of the stack
pointer, none of which asks for a full slot. -/
def genX87Control : Gen (Option Instruction) := do
  let form ← between 0 6
  genX87ControlForm form

end SevenFuzzer
