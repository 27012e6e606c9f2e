import SevenFuzzer.Common.HostCaps
import SevenFuzzer.Gen.Context

/-! # SIMD families

The legacy SSE families and the VEX and EVEX family, which asks the host what it can
execute. Operand lists carry the names they have in the codes; a mask register in a
name is no operand.
-/

namespace SevenFuzzer

open Draw InstructionFactory

def XMM_XMMM128 : List OpCodeOperandKind := [.xmm, .xmmOrMem 16 none]
def XMM_XMMM64 : List OpCodeOperandKind := [.xmm, .xmmOrMem 8 none]
def XMM_XMMM32 : List OpCodeOperandKind := [.xmm, .xmmOrMem 4 none]
def XMM_XMMM128_IMM8 : List OpCodeOperandKind := [.xmm, .xmmOrMem 16 none, .imm8]
def XMM_IMM8 : List OpCodeOperandKind := [.xmm, .imm8]
def XMM_M128 : List OpCodeOperandKind := [.xmm, .mem 16]
def XMM_M64 : List OpCodeOperandKind := [.xmm, .mem 8]
def XMMM128_XMM : List OpCodeOperandKind := [.xmmOrMem 16 none, .xmm]
def XMMM64_XMM : List OpCodeOperandKind := [.xmmOrMem 8 none, .xmm]
def XMMM32_XMM : List OpCodeOperandKind := [.xmmOrMem 4 none, .xmm]
def M128_XMM : List OpCodeOperandKind := [.mem 16, .xmm]
def M64_XMM : List OpCodeOperandKind := [.mem 8, .xmm]
def XMMM128_K1Z_XMM : List OpCodeOperandKind := [.xmmOrMem 16 none, .xmm]
def XMM_K1Z_XMMM128 : List OpCodeOperandKind := [.xmm, .xmmOrMem 16 none]
def XMM_K1Z_XMMM128B32_IMM8 : List OpCodeOperandKind := [.xmm, .xmmOrMem 16 (some 4), .imm8]
def XMM_K1Z_XMMM128B64_IMM8 : List OpCodeOperandKind := [.xmm, .xmmOrMem 16 (some 8), .imm8]
def XMM_K1Z_XMMM128_IMM8 : List OpCodeOperandKind := [.xmm, .xmmOrMem 16 none, .imm8]
def XMM_K1Z_XMMM64 : List OpCodeOperandKind := [.xmm, .xmmOrMem 8 none]
def XMM_K1Z_XMM_XMM : List OpCodeOperandKind := [.xmm, .xmm, .xmm]
def XMM_K1Z_XMM_XMMM128 : List OpCodeOperandKind := [.xmm, .xmm, .xmmOrMem 16 none]
def XMM_K1Z_XMM_XMMM128B32 : List OpCodeOperandKind := [.xmm, .xmm, .xmmOrMem 16 (some 4)]
def XMM_K1Z_XMM_XMMM128B32_IMM8 : List OpCodeOperandKind :=
  [.xmm, .xmm, .xmmOrMem 16 (some 4), .imm8]
def XMM_K1Z_XMM_XMMM128B64 : List OpCodeOperandKind := [.xmm, .xmm, .xmmOrMem 16 (some 8)]
def XMM_K1Z_XMM_XMMM128B64_IMM8 : List OpCodeOperandKind :=
  [.xmm, .xmm, .xmmOrMem 16 (some 8), .imm8]
def XMM_XMM_IMM8 : List OpCodeOperandKind := [.xmm, .xmm, .imm8]
def XMM_XMM_XMM : List OpCodeOperandKind := [.xmm, .xmm, .xmm]
def XMM_XMM_XMMM128 : List OpCodeOperandKind := [.xmm, .xmm, .xmmOrMem 16 none]
def XMM_XMM_XMMM128_IMM8 : List OpCodeOperandKind := [.xmm, .xmm, .xmmOrMem 16 none, .imm8]
def XMM_XMM_XMMM32 : List OpCodeOperandKind := [.xmm, .xmm, .xmmOrMem 4 none]
def XMM_XMM_XMMM64 : List OpCodeOperandKind := [.xmm, .xmm, .xmmOrMem 8 none]

/-- A legacy SSE encoding. -/
def sse (op : SimdOp) (operands : List OpCodeOperandKind) : Code := ⟨.simd op, operands, .plain⟩
/-- A VEX encoding. -/
def VEX (op : VexOp) (operands : List OpCodeOperandKind) : Code := ⟨.vex op, operands, .VEX⟩
/-- An EVEX encoding. -/
def EVEX (op : VexOp) (operands : List OpCodeOperandKind) : Code := ⟨.vex op, operands, .EVEX⟩

/-- The shuffles controlled by an immediate. -/
def kSimdShuffleImm : List Code :=
  [.SHUFPS, .SHUFPD, .PSHUFD, .PSHUFLW, .PSHUFHW].map fun op => sse op XMM_XMMM128_IMM8

/-- The shuffles whose pattern is fixed. -/
def kSimdShuffleNoImm : List Code :=
  [sse .UNPCKLPS XMM_XMMM128, sse .UNPCKLPD XMM_XMMM128, sse .UNPCKHPS XMM_XMMM128,
    sse .UNPCKHPD XMM_XMMM128, sse .MOVSLDUP XMM_XMMM128, sse .MOVSHDUP XMM_XMMM128,
    sse .MOVDDUP XMM_XMMM64]

/-- `gen_simd_shuffle`: a memory operand in one draw of four. -/
def genSimdShuffle : Gen (Option Instruction) := do
  setFlagsMask 0
  let d ← pickXmmIndex
  let useMem ← oneIn 4
  if ← oneIn 2 then
    let code ← pick kSimdShuffleImm
    let imm ← randomImm32 8
    if useMem then
      touchMemory
      let disp ← randomDisp8
      return some (setImm8 (with3 code (xmmOf d) (memOperand disp) imm) 2 (imm.signExtend 64))
    else
      let s ← pickXmmIndex
      return some (setImm8 (with3 code (xmmOf d) (xmmOf s) imm) 2 (imm.signExtend 64))
  else
    let code ← pick kSimdShuffleNoImm
    if useMem then
      touchMemory
      let disp ← randomDisp8
      return some (with2 code (xmmOf d) (memOperand disp))
    else
      let s ← pickXmmIndex
      return some (with2 code (xmmOf d) (xmmOf s))

/-- The bitwise operations. -/
def kSimdLogic : List Code :=
  [.ANDPS, .ANDPD, .ANDNPS, .ANDNPD, .ORPS, .ORPD, .XORPS, .XORPD, .PAND, .PANDN, .POR, .PXOR].map
    fun op => sse op XMM_XMMM128

/-- The packs and unpacks. -/
def kSimdPack : List Code :=
  [.PACKSSWB, .PACKSSDW, .PACKUSWB, .PUNPCKLBW, .PUNPCKHBW, .PUNPCKLWD, .PUNPCKHWD, .PUNPCKLDQ,
    .PUNPCKHDQ, .PUNPCKLQDQ, .PUNPCKHQDQ].map fun op => sse op XMM_XMMM128

/-- The floating-point arithmetic, packed and scalar. -/
def kSseArith : List Code :=
  [sse .ADDPS XMM_XMMM128, sse .ADDPD XMM_XMMM128, sse .ADDSS XMM_XMMM32, sse .ADDSD XMM_XMMM64,
    sse .SUBPS XMM_XMMM128, sse .SUBPD XMM_XMMM128, sse .SUBSS XMM_XMMM32, sse .SUBSD XMM_XMMM64,
    sse .MULPS XMM_XMMM128, sse .MULPD XMM_XMMM128, sse .MULSS XMM_XMMM32, sse .MULSD XMM_XMMM64,
    sse .DIVPS XMM_XMMM128, sse .DIVPD XMM_XMMM128, sse .DIVSS XMM_XMMM32, sse .DIVSD XMM_XMMM64,
    sse .MINPS XMM_XMMM128, sse .MINPD XMM_XMMM128, sse .MINSS XMM_XMMM32, sse .MINSD XMM_XMMM64,
    sse .MAXPS XMM_XMMM128, sse .MAXPD XMM_XMMM128, sse .MAXSS XMM_XMMM32, sse .MAXSD XMM_XMMM64,
    sse .SQRTPS XMM_XMMM128, sse .SQRTPD XMM_XMMM128, sse .SQRTSS XMM_XMMM32,
    sse .SQRTSD XMM_XMMM64]

/-- The packed integer operations. -/
def kPackedInt : List Code :=
  [.PADDB, .PADDW, .PADDD, .PADDQ, .PADDSB, .PADDSW, .PADDUSB, .PADDUSW, .PSUBB, .PSUBW, .PSUBD,
    .PSUBQ, .PSUBSB, .PSUBSW, .PSUBUSB, .PSUBUSW, .PCMPEQB, .PCMPEQW, .PCMPEQD, .PCMPEQQ,
    .PCMPGTB, .PCMPGTW, .PCMPGTD, .PCMPGTQ, .PAVGB, .PAVGW, .PMAXUB, .PMINSW, .PMULLW, .PMULHW,
    .PMULHUW, .PMULUDQ, .PMADDWD, .PSADBW].map fun op => sse op XMM_XMMM128

/-- A register and a register or memory, without flags. -/
def genXmmBinary (table : List Code) (nonempty : 0 < table.length) (randomDisp : Draw (BitVec 8)) :
    Gen (Option Instruction) := do
  setFlagsMask 0
  let code ← pick table nonempty
  let d ← pickXmmIndex
  if ← oneIn 4 then
    touchMemory
    let disp ← randomDisp
    return some (with2 code (xmmOf d) (memOperand disp))
  else
    let s ← pickXmmIndex
    return some (with2 code (xmmOf d) (xmmOf s))

/-- `gen_simd_logic`. -/
def genSimdLogic : Gen (Option Instruction) :=
  genXmmBinary kSimdLogic (by decide) randomDisp8

/-- `gen_simd_pack`. -/
def genSimdPack : Gen (Option Instruction) :=
  genXmmBinary kSimdPack (by decide) randomDisp8

/-- `gen_sse_arith`. -/
def genSseArith : Gen (Option Instruction) :=
  genXmmBinary kSseArith (by decide) randomDisp8

/-- The 128-bit memory forms need an aligned source. -/
def genPackedInt : Gen (Option Instruction) :=
  genXmmBinary kPackedInt (by decide) (alignedDisp8 16)

/-- The shifts whose count is an operand. -/
def kSimdShiftReg : List Code :=
  [.PSLLW, .PSLLD, .PSLLQ, .PSRLW, .PSRLD, .PSRLQ, .PSRAW, .PSRAD].map fun op => sse op XMM_XMMM128

/-- The shifts whose count is an immediate, the two whole-register byte shifts included. -/
def kSimdShiftImm : List Code :=
  [.PSLLW, .PSLLD, .PSLLQ, .PSRLW, .PSRLD, .PSRLQ, .PSRAW, .PSRAD, .PSRLDQ, .PSLLDQ].map fun op =>
    sse op XMM_IMM8

/-- `gen_simd_shift`. -/
def genSimdShift : Gen (Option Instruction) := do
  setFlagsMask 0
  let d ← pickXmmIndex
  if ← oneIn 2 then
    let code ← pick kSimdShiftImm
    let imm ← randomImm32 8
    return some (setImm8 (with2 code (xmmOf d) imm) 1 (imm.signExtend 64))
  else
    let code ← pick kSimdShiftReg
    if ← oneIn 4 then
      touchMemory
      let disp ← randomDisp8
      return some (with2 code (xmmOf d) (memOperand disp))
    else
      let s ← pickXmmIndex
      return some (with2 code (xmmOf d) (xmmOf s))

/-- The horizontal and alternating floating-point operations, which write no flags. -/
def kSimdFpNoFlags : List Code :=
  [.ADDSUBPS, .ADDSUBPD, .HADDPS, .HADDPD, .HSUBPS, .HSUBPD].map fun op => sse op XMM_XMMM128

/-- The scalar comparisons, which write the flags. -/
def kSimdFpCompare : List Code :=
  [sse .COMISS XMM_XMMM32, sse .UCOMISS XMM_XMMM32, sse .COMISD XMM_XMMM64,
    sse .UCOMISD XMM_XMMM64]

/-- The compares define or clear every flag, the others define none. -/
def genSimdFp : Gen (Option Instruction) := do
  let d ← pickXmmIndex
  let isCompare ← oneIn 2
  let code ← if isCompare then pick kSimdFpCompare
    else pick kSimdFpNoFlags
  setFlagsMask (if isCompare then kCompareFlagsMask else 0)
  if ← oneIn 4 then
    touchMemory
    let disp ← randomDisp8
    return some (with2 code (xmmOf d) (memOperand disp))
  else
    let s ← pickXmmIndex
    return some (with2 code (xmmOf d) (xmmOf s))

/-- A row of the move tables: the encoding, and whether it faults on a misaligned address. -/
structure SseMoveForm where
  code : Code
  needsAlignment : Bool

/-- The moves into a register. -/
def kSseMoveLoad : List SseMoveForm :=
  [⟨sse .MOVAPS XMM_XMMM128, true⟩, ⟨sse .MOVAPD XMM_XMMM128, true⟩,
    ⟨sse .MOVDQA XMM_XMMM128, true⟩, ⟨sse .MOVNTDQA XMM_M128, true⟩,
    ⟨sse .MOVUPS XMM_XMMM128, false⟩, ⟨sse .MOVUPD XMM_XMMM128, false⟩,
    ⟨sse .MOVDQU XMM_XMMM128, false⟩, ⟨sse .LDDQU XMM_M128, false⟩,
    ⟨sse .MOVSS XMM_XMMM32, false⟩, ⟨sse .MOVSD XMM_XMMM64, false⟩, ⟨sse .MOVHPS XMM_M64, false⟩,
    ⟨sse .MOVHPD XMM_M64, false⟩, ⟨sse .MOVLPS XMM_M64, false⟩, ⟨sse .MOVLPD XMM_M64, false⟩,
    ⟨sse .MOVQ XMM_XMMM64, false⟩, ⟨sse .MOVDDUP XMM_XMMM64, false⟩]

/-- The moves to memory. -/
def kSseMoveStore : List SseMoveForm :=
  [⟨sse .MOVAPS XMMM128_XMM, true⟩, ⟨sse .MOVAPD XMMM128_XMM, true⟩,
    ⟨sse .MOVDQA XMMM128_XMM, true⟩, ⟨sse .MOVNTPS M128_XMM, true⟩,
    ⟨sse .MOVNTPD M128_XMM, true⟩, ⟨sse .MOVNTDQ M128_XMM, true⟩,
    ⟨sse .MOVUPS XMMM128_XMM, false⟩, ⟨sse .MOVUPD XMMM128_XMM, false⟩,
    ⟨sse .MOVDQU XMMM128_XMM, false⟩, ⟨sse .MOVSS XMMM32_XMM, false⟩,
    ⟨sse .MOVSD XMMM64_XMM, false⟩, ⟨sse .MOVHPS M64_XMM, false⟩, ⟨sse .MOVHPD M64_XMM, false⟩,
    ⟨sse .MOVLPS M64_XMM, false⟩, ⟨sse .MOVLPD M64_XMM, false⟩]

/-- The loads without a register source. -/
def memOnlyLoads : List Code :=
  [sse .MOVNTDQA XMM_M128, sse .LDDQU XMM_M128, sse .MOVHPS XMM_M64, sse .MOVHPD XMM_M64,
    sse .MOVLPS XMM_M64, sse .MOVLPD XMM_M64]

/-- One in eight of the aligned forms gets an address that need not be aligned. -/
def forcesMisaligned (form : SseMoveForm) : Draw Bool :=
  if form.needsAlignment then oneIn 8 else return false

/-- The displacement of a move: aligned when the encoding demands it, except in the draws that
provoke the fault. -/
def sseMoveDisp (form : SseMoveForm) : Draw (BitVec 8) := do
  let forceMisaligned ← forcesMisaligned form
  if form.needsAlignment ∧ ¬ forceMisaligned then alignedDisp8 16 else randomDisp8

/-- The loads without a register form always use memory; the others in two draws of three. -/
def loadsFromMemory (code : Code) : Draw Bool :=
  if code ∈ memOnlyLoads then return true else (! ·) <$> oneIn 3

/-- `gen_sse_move`: a store or a load, aligned or not. -/
def genSseMove : Gen (Option Instruction) := do
  setFlagsMask 0
  if ← oneIn 2 then
    let form ← pick kSseMoveStore
    let disp ← sseMoveDisp form
    let reg ← pickXmmIndex
    touchMemory
    return some (with2 form.code (memOperand disp) (xmmOf reg))
  else
    let form ← pick kSseMoveLoad
    let disp ← sseMoveDisp form
    let reg ← pickXmmIndex
    if ← loadsFromMemory form.code then
      touchMemory
      return some (with2 form.code (xmmOf reg) (memOperand disp))
    else
      let s ← pickXmmIndex
      return some (with2 form.code (xmmOf reg) (xmmOf s))

/-- The operand orders of the VEX and EVEX rows. -/
inductive VexShape where
  | kDstSrcRm | kDstRm | kRmDst | kDstSrcImm | kDstSrcSrc | kDstRmImm | kDstSrcRm64 | kDstSrcRm32
  | kDstRm64 | kDstSrcRmImm
  deriving DecidableEq

/-- A row of `kVexSimd`: the encoding, its operand order and the features it needs. -/
structure VexEntry where
  code : Code
  shape : VexShape
  evex : Bool
  /-- An EVEX memory source may repeat one element. -/
  broadcast : Bool

/-- The table of VEX and EVEX instructions, in the source's order. -/
def kVexSimd : List VexEntry :=
  [⟨EVEX .VMOVAPD XMMM128_K1Z_XMM, .kRmDst, true, false⟩,
    ⟨EVEX .VMOVAPD XMM_K1Z_XMMM128, .kDstRm, true, false⟩,
    ⟨EVEX .VMOVAPS XMMM128_K1Z_XMM, .kRmDst, true, false⟩,
    ⟨EVEX .VMOVAPS XMM_K1Z_XMMM128, .kDstRm, true, false⟩,
    ⟨EVEX .VMOVDDUP XMM_K1Z_XMMM64, .kDstRm64, true, false⟩,
    ⟨EVEX .VMOVDQA32 XMMM128_K1Z_XMM, .kRmDst, true, false⟩,
    ⟨EVEX .VMOVDQA32 XMM_K1Z_XMMM128, .kDstRm, true, false⟩,
    ⟨EVEX .VMOVDQA64 XMMM128_K1Z_XMM, .kRmDst, true, false⟩,
    ⟨EVEX .VMOVDQA64 XMM_K1Z_XMMM128, .kDstRm, true, false⟩,
    ⟨EVEX .VMOVDQU16 XMMM128_K1Z_XMM, .kRmDst, true, false⟩,
    ⟨EVEX .VMOVDQU16 XMM_K1Z_XMMM128, .kDstRm, true, false⟩,
    ⟨EVEX .VMOVDQU32 XMMM128_K1Z_XMM, .kRmDst, true, false⟩,
    ⟨EVEX .VMOVDQU32 XMM_K1Z_XMMM128, .kDstRm, true, false⟩,
    ⟨EVEX .VMOVDQU64 XMMM128_K1Z_XMM, .kRmDst, true, false⟩,
    ⟨EVEX .VMOVDQU64 XMM_K1Z_XMMM128, .kDstRm, true, false⟩,
    ⟨EVEX .VMOVDQU8 XMMM128_K1Z_XMM, .kRmDst, true, false⟩,
    ⟨EVEX .VMOVDQU8 XMM_K1Z_XMMM128, .kDstRm, true, false⟩,
    ⟨EVEX .VMOVHLPS XMM_XMM_XMM, .kDstSrcSrc, true, false⟩,
    ⟨EVEX .VMOVLHPS XMM_XMM_XMM, .kDstSrcSrc, true, false⟩,
    ⟨EVEX .VMOVQ XMM_XMMM64, .kDstRm64, true, false⟩,
    ⟨EVEX .VMOVSD XMM_K1Z_XMM_XMM, .kDstSrcSrc, true, false⟩,
    ⟨EVEX .VMOVSHDUP XMM_K1Z_XMMM128, .kDstRm, true, false⟩,
    ⟨EVEX .VMOVSLDUP XMM_K1Z_XMMM128, .kDstRm, true, false⟩,
    ⟨EVEX .VMOVSS XMM_K1Z_XMM_XMM, .kDstSrcSrc, true, false⟩,
    ⟨EVEX .VMOVUPD XMMM128_K1Z_XMM, .kRmDst, true, false⟩,
    ⟨EVEX .VMOVUPD XMM_K1Z_XMMM128, .kDstRm, true, false⟩,
    ⟨EVEX .VMOVUPS XMMM128_K1Z_XMM, .kRmDst, true, false⟩,
    ⟨EVEX .VMOVUPS XMM_K1Z_XMMM128, .kDstRm, true, false⟩,
    ⟨EVEX .VPACKSSDW XMM_K1Z_XMM_XMMM128B32, .kDstSrcRm, true, true⟩,
    ⟨EVEX .VPACKSSWB XMM_K1Z_XMM_XMMM128, .kDstSrcRm, true, false⟩,
    ⟨EVEX .VPACKUSWB XMM_K1Z_XMM_XMMM128, .kDstSrcRm, true, false⟩,
    ⟨EVEX .VPADDB XMM_K1Z_XMM_XMMM128, .kDstSrcRm, true, false⟩,
    ⟨EVEX .VPADDD XMM_K1Z_XMM_XMMM128B32, .kDstSrcRm, true, true⟩,
    ⟨EVEX .VPADDQ XMM_K1Z_XMM_XMMM128B64, .kDstSrcRm, true, true⟩,
    ⟨EVEX .VPADDSB XMM_K1Z_XMM_XMMM128, .kDstSrcRm, true, false⟩,
    ⟨EVEX .VPADDSW XMM_K1Z_XMM_XMMM128, .kDstSrcRm, true, false⟩,
    ⟨EVEX .VPADDUSB XMM_K1Z_XMM_XMMM128, .kDstSrcRm, true, false⟩,
    ⟨EVEX .VPADDUSW XMM_K1Z_XMM_XMMM128, .kDstSrcRm, true, false⟩,
    ⟨EVEX .VPADDW XMM_K1Z_XMM_XMMM128, .kDstSrcRm, true, false⟩,
    ⟨EVEX .VPANDD XMM_K1Z_XMM_XMMM128B32, .kDstSrcRm, true, true⟩,
    ⟨EVEX .VPANDND XMM_K1Z_XMM_XMMM128B32, .kDstSrcRm, true, true⟩,
    ⟨EVEX .VPANDNQ XMM_K1Z_XMM_XMMM128B64, .kDstSrcRm, true, true⟩,
    ⟨EVEX .VPANDQ XMM_K1Z_XMM_XMMM128B64, .kDstSrcRm, true, true⟩,
    ⟨EVEX .VPAVGB XMM_K1Z_XMM_XMMM128, .kDstSrcRm, true, false⟩,
    ⟨EVEX .VPAVGW XMM_K1Z_XMM_XMMM128, .kDstSrcRm, true, false⟩,
    ⟨EVEX .VPMULLW XMM_K1Z_XMM_XMMM128, .kDstSrcRm, true, false⟩,
    ⟨EVEX .VPORD XMM_K1Z_XMM_XMMM128B32, .kDstSrcRm, true, true⟩,
    ⟨EVEX .VPORQ XMM_K1Z_XMM_XMMM128B64, .kDstSrcRm, true, true⟩,
    ⟨EVEX .VPSLLD XMM_K1Z_XMMM128B32_IMM8, .kDstRmImm, true, true⟩,
    ⟨EVEX .VPSLLD XMM_K1Z_XMM_XMMM128, .kDstSrcRm, true, false⟩,
    ⟨EVEX .VPSLLQ XMM_K1Z_XMMM128B64_IMM8, .kDstRmImm, true, true⟩,
    ⟨EVEX .VPSLLQ XMM_K1Z_XMM_XMMM128, .kDstSrcRm, true, false⟩,
    ⟨EVEX .VPSLLW XMM_K1Z_XMMM128_IMM8, .kDstRmImm, true, false⟩,
    ⟨EVEX .VPSLLW XMM_K1Z_XMM_XMMM128, .kDstSrcRm, true, false⟩,
    ⟨EVEX .VPSRAD XMM_K1Z_XMMM128B32_IMM8, .kDstRmImm, true, true⟩,
    ⟨EVEX .VPSRAD XMM_K1Z_XMM_XMMM128, .kDstSrcRm, true, false⟩,
    ⟨EVEX .VPSRAW XMM_K1Z_XMMM128_IMM8, .kDstRmImm, true, false⟩,
    ⟨EVEX .VPSRAW XMM_K1Z_XMM_XMMM128, .kDstSrcRm, true, false⟩,
    ⟨EVEX .VPSRLD XMM_K1Z_XMMM128B32_IMM8, .kDstRmImm, true, true⟩,
    ⟨EVEX .VPSRLD XMM_K1Z_XMM_XMMM128, .kDstSrcRm, true, false⟩,
    ⟨EVEX .VPSRLQ XMM_K1Z_XMMM128B64_IMM8, .kDstRmImm, true, true⟩,
    ⟨EVEX .VPSRLQ XMM_K1Z_XMM_XMMM128, .kDstSrcRm, true, false⟩,
    ⟨EVEX .VPSRLW XMM_K1Z_XMMM128_IMM8, .kDstRmImm, true, false⟩,
    ⟨EVEX .VPSRLW XMM_K1Z_XMM_XMMM128, .kDstSrcRm, true, false⟩,
    ⟨EVEX .VPSUBB XMM_K1Z_XMM_XMMM128, .kDstSrcRm, true, false⟩,
    ⟨EVEX .VPSUBD XMM_K1Z_XMM_XMMM128B32, .kDstSrcRm, true, true⟩,
    ⟨EVEX .VPSUBQ XMM_K1Z_XMM_XMMM128B64, .kDstSrcRm, true, true⟩,
    ⟨EVEX .VPSUBSB XMM_K1Z_XMM_XMMM128, .kDstSrcRm, true, false⟩,
    ⟨EVEX .VPSUBSW XMM_K1Z_XMM_XMMM128, .kDstSrcRm, true, false⟩,
    ⟨EVEX .VPSUBUSB XMM_K1Z_XMM_XMMM128, .kDstSrcRm, true, false⟩,
    ⟨EVEX .VPSUBUSW XMM_K1Z_XMM_XMMM128, .kDstSrcRm, true, false⟩,
    ⟨EVEX .VPSUBW XMM_K1Z_XMM_XMMM128, .kDstSrcRm, true, false⟩,
    ⟨EVEX .VPUNPCKHBW XMM_K1Z_XMM_XMMM128, .kDstSrcRm, true, false⟩,
    ⟨EVEX .VPUNPCKHDQ XMM_K1Z_XMM_XMMM128B32, .kDstSrcRm, true, true⟩,
    ⟨EVEX .VPUNPCKHWD XMM_K1Z_XMM_XMMM128, .kDstSrcRm, true, false⟩,
    ⟨EVEX .VPUNPCKLBW XMM_K1Z_XMM_XMMM128, .kDstSrcRm, true, false⟩,
    ⟨EVEX .VPUNPCKLDQ XMM_K1Z_XMM_XMMM128B32, .kDstSrcRm, true, true⟩,
    ⟨EVEX .VPUNPCKLWD XMM_K1Z_XMM_XMMM128, .kDstSrcRm, true, false⟩,
    ⟨EVEX .VPXORD XMM_K1Z_XMM_XMMM128B32, .kDstSrcRm, true, true⟩,
    ⟨EVEX .VPXORQ XMM_K1Z_XMM_XMMM128B64, .kDstSrcRm, true, true⟩,
    ⟨EVEX .VSHUFPD XMM_K1Z_XMM_XMMM128B64_IMM8, .kDstSrcRmImm, true, true⟩,
    ⟨EVEX .VSHUFPS XMM_K1Z_XMM_XMMM128B32_IMM8, .kDstSrcRmImm, true, true⟩,
    ⟨EVEX .VUNPCKHPD XMM_K1Z_XMM_XMMM128B64, .kDstSrcRm, true, true⟩,
    ⟨EVEX .VUNPCKHPS XMM_K1Z_XMM_XMMM128B32, .kDstSrcRm, true, true⟩,
    ⟨EVEX .VUNPCKLPD XMM_K1Z_XMM_XMMM128B64, .kDstSrcRm, true, true⟩,
    ⟨EVEX .VUNPCKLPS XMM_K1Z_XMM_XMMM128B32, .kDstSrcRm, true, true⟩,
    ⟨VEX .VADDPD XMM_XMM_XMMM128, .kDstSrcRm, false, false⟩,
    ⟨VEX .VADDPS XMM_XMM_XMMM128, .kDstSrcRm, false, false⟩,
    ⟨VEX .VADDSD XMM_XMM_XMMM64, .kDstSrcRm64, false, false⟩,
    ⟨VEX .VADDSS XMM_XMM_XMMM32, .kDstSrcRm32, false, false⟩,
    ⟨VEX .VANDNPD XMM_XMM_XMMM128, .kDstSrcRm, false, false⟩,
    ⟨VEX .VANDNPS XMM_XMM_XMMM128, .kDstSrcRm, false, false⟩,
    ⟨VEX .VANDPD XMM_XMM_XMMM128, .kDstSrcRm, false, false⟩,
    ⟨VEX .VANDPS XMM_XMM_XMMM128, .kDstSrcRm, false, false⟩,
    ⟨VEX .VDIVPD XMM_XMM_XMMM128, .kDstSrcRm, false, false⟩,
    ⟨VEX .VDIVPS XMM_XMM_XMMM128, .kDstSrcRm, false, false⟩,
    ⟨VEX .VDIVSD XMM_XMM_XMMM64, .kDstSrcRm64, false, false⟩,
    ⟨VEX .VDIVSS XMM_XMM_XMMM32, .kDstSrcRm32, false, false⟩,
    ⟨VEX .VMAXPD XMM_XMM_XMMM128, .kDstSrcRm, false, false⟩,
    ⟨VEX .VMAXPS XMM_XMM_XMMM128, .kDstSrcRm, false, false⟩,
    ⟨VEX .VMAXSD XMM_XMM_XMMM64, .kDstSrcRm64, false, false⟩,
    ⟨VEX .VMAXSS XMM_XMM_XMMM32, .kDstSrcRm32, false, false⟩,
    ⟨VEX .VMINPD XMM_XMM_XMMM128, .kDstSrcRm, false, false⟩,
    ⟨VEX .VMINPS XMM_XMM_XMMM128, .kDstSrcRm, false, false⟩,
    ⟨VEX .VMINSD XMM_XMM_XMMM64, .kDstSrcRm64, false, false⟩,
    ⟨VEX .VMINSS XMM_XMM_XMMM32, .kDstSrcRm32, false, false⟩,
    ⟨VEX .VMOVAPD XMMM128_XMM, .kRmDst, false, false⟩,
    ⟨VEX .VMOVAPD XMM_XMMM128, .kDstRm, false, false⟩,
    ⟨VEX .VMOVAPS XMMM128_XMM, .kRmDst, false, false⟩,
    ⟨VEX .VMOVAPS XMM_XMMM128, .kDstRm, false, false⟩,
    ⟨VEX .VMOVDDUP XMM_XMMM64, .kDstRm64, false, false⟩,
    ⟨VEX .VMOVDQA XMMM128_XMM, .kRmDst, false, false⟩,
    ⟨VEX .VMOVDQA XMM_XMMM128, .kDstRm, false, false⟩,
    ⟨VEX .VMOVDQU XMMM128_XMM, .kRmDst, false, false⟩,
    ⟨VEX .VMOVDQU XMM_XMMM128, .kDstRm, false, false⟩,
    ⟨VEX .VMOVHLPS XMM_XMM_XMM, .kDstSrcSrc, false, false⟩,
    ⟨VEX .VMOVLHPS XMM_XMM_XMM, .kDstSrcSrc, false, false⟩,
    ⟨VEX .VMOVQ XMM_XMMM64, .kDstRm64, false, false⟩,
    ⟨VEX .VMOVSD XMM_XMM_XMM, .kDstSrcSrc, false, false⟩,
    ⟨VEX .VMOVSHDUP XMM_XMMM128, .kDstRm, false, false⟩,
    ⟨VEX .VMOVSLDUP XMM_XMMM128, .kDstRm, false, false⟩,
    ⟨VEX .VMOVSS XMM_XMM_XMM, .kDstSrcSrc, false, false⟩,
    ⟨VEX .VMOVUPD XMMM128_XMM, .kRmDst, false, false⟩,
    ⟨VEX .VMOVUPD XMM_XMMM128, .kDstRm, false, false⟩,
    ⟨VEX .VMOVUPS XMMM128_XMM, .kRmDst, false, false⟩,
    ⟨VEX .VMOVUPS XMM_XMMM128, .kDstRm, false, false⟩,
    ⟨VEX .VMULPD XMM_XMM_XMMM128, .kDstSrcRm, false, false⟩,
    ⟨VEX .VMULPS XMM_XMM_XMMM128, .kDstSrcRm, false, false⟩,
    ⟨VEX .VMULSD XMM_XMM_XMMM64, .kDstSrcRm64, false, false⟩,
    ⟨VEX .VMULSS XMM_XMM_XMMM32, .kDstSrcRm32, false, false⟩,
    ⟨VEX .VORPD XMM_XMM_XMMM128, .kDstSrcRm, false, false⟩,
    ⟨VEX .VORPS XMM_XMM_XMMM128, .kDstSrcRm, false, false⟩,
    ⟨VEX .VPACKSSDW XMM_XMM_XMMM128, .kDstSrcRm, false, false⟩,
    ⟨VEX .VPACKSSWB XMM_XMM_XMMM128, .kDstSrcRm, false, false⟩,
    ⟨VEX .VPACKUSWB XMM_XMM_XMMM128, .kDstSrcRm, false, false⟩,
    ⟨VEX .VPADDB XMM_XMM_XMMM128, .kDstSrcRm, false, false⟩,
    ⟨VEX .VPADDD XMM_XMM_XMMM128, .kDstSrcRm, false, false⟩,
    ⟨VEX .VPADDQ XMM_XMM_XMMM128, .kDstSrcRm, false, false⟩,
    ⟨VEX .VPADDSB XMM_XMM_XMMM128, .kDstSrcRm, false, false⟩,
    ⟨VEX .VPADDSW XMM_XMM_XMMM128, .kDstSrcRm, false, false⟩,
    ⟨VEX .VPADDUSB XMM_XMM_XMMM128, .kDstSrcRm, false, false⟩,
    ⟨VEX .VPADDUSW XMM_XMM_XMMM128, .kDstSrcRm, false, false⟩,
    ⟨VEX .VPADDW XMM_XMM_XMMM128, .kDstSrcRm, false, false⟩,
    ⟨VEX .VPANDN XMM_XMM_XMMM128, .kDstSrcRm, false, false⟩,
    ⟨VEX .VPAND XMM_XMM_XMMM128, .kDstSrcRm, false, false⟩,
    ⟨VEX .VPAVGB XMM_XMM_XMMM128, .kDstSrcRm, false, false⟩,
    ⟨VEX .VPAVGW XMM_XMM_XMMM128, .kDstSrcRm, false, false⟩,
    ⟨VEX .VPCMPEQB XMM_XMM_XMMM128, .kDstSrcRm, false, false⟩,
    ⟨VEX .VPCMPEQD XMM_XMM_XMMM128, .kDstSrcRm, false, false⟩,
    ⟨VEX .VPCMPEQQ XMM_XMM_XMMM128, .kDstSrcRm, false, false⟩,
    ⟨VEX .VPCMPEQW XMM_XMM_XMMM128, .kDstSrcRm, false, false⟩,
    ⟨VEX .VPCMPGTB XMM_XMM_XMMM128, .kDstSrcRm, false, false⟩,
    ⟨VEX .VPCMPGTD XMM_XMM_XMMM128, .kDstSrcRm, false, false⟩,
    ⟨VEX .VPCMPGTQ XMM_XMM_XMMM128, .kDstSrcRm, false, false⟩,
    ⟨VEX .VPCMPGTW XMM_XMM_XMMM128, .kDstSrcRm, false, false⟩,
    ⟨VEX .VPMULLW XMM_XMM_XMMM128, .kDstSrcRm, false, false⟩,
    ⟨VEX .VPOR XMM_XMM_XMMM128, .kDstSrcRm, false, false⟩,
    ⟨VEX .VPSLLDQ XMM_XMM_IMM8, .kDstSrcImm, false, false⟩,
    ⟨VEX .VPSLLD XMM_XMM_IMM8, .kDstSrcImm, false, false⟩,
    ⟨VEX .VPSLLD XMM_XMM_XMMM128, .kDstSrcRm, false, false⟩,
    ⟨VEX .VPSLLQ XMM_XMM_IMM8, .kDstSrcImm, false, false⟩,
    ⟨VEX .VPSLLQ XMM_XMM_XMMM128, .kDstSrcRm, false, false⟩,
    ⟨VEX .VPSLLW XMM_XMM_IMM8, .kDstSrcImm, false, false⟩,
    ⟨VEX .VPSLLW XMM_XMM_XMMM128, .kDstSrcRm, false, false⟩,
    ⟨VEX .VPSRAD XMM_XMM_IMM8, .kDstSrcImm, false, false⟩,
    ⟨VEX .VPSRAD XMM_XMM_XMMM128, .kDstSrcRm, false, false⟩,
    ⟨VEX .VPSRAW XMM_XMM_IMM8, .kDstSrcImm, false, false⟩,
    ⟨VEX .VPSRAW XMM_XMM_XMMM128, .kDstSrcRm, false, false⟩,
    ⟨VEX .VPSRLDQ XMM_XMM_IMM8, .kDstSrcImm, false, false⟩,
    ⟨VEX .VPSRLD XMM_XMM_IMM8, .kDstSrcImm, false, false⟩,
    ⟨VEX .VPSRLD XMM_XMM_XMMM128, .kDstSrcRm, false, false⟩,
    ⟨VEX .VPSRLQ XMM_XMM_IMM8, .kDstSrcImm, false, false⟩,
    ⟨VEX .VPSRLQ XMM_XMM_XMMM128, .kDstSrcRm, false, false⟩,
    ⟨VEX .VPSRLW XMM_XMM_IMM8, .kDstSrcImm, false, false⟩,
    ⟨VEX .VPSRLW XMM_XMM_XMMM128, .kDstSrcRm, false, false⟩,
    ⟨VEX .VPSUBB XMM_XMM_XMMM128, .kDstSrcRm, false, false⟩,
    ⟨VEX .VPSUBD XMM_XMM_XMMM128, .kDstSrcRm, false, false⟩,
    ⟨VEX .VPSUBQ XMM_XMM_XMMM128, .kDstSrcRm, false, false⟩,
    ⟨VEX .VPSUBSB XMM_XMM_XMMM128, .kDstSrcRm, false, false⟩,
    ⟨VEX .VPSUBSW XMM_XMM_XMMM128, .kDstSrcRm, false, false⟩,
    ⟨VEX .VPSUBUSB XMM_XMM_XMMM128, .kDstSrcRm, false, false⟩,
    ⟨VEX .VPSUBUSW XMM_XMM_XMMM128, .kDstSrcRm, false, false⟩,
    ⟨VEX .VPSUBW XMM_XMM_XMMM128, .kDstSrcRm, false, false⟩,
    ⟨VEX .VPUNPCKHBW XMM_XMM_XMMM128, .kDstSrcRm, false, false⟩,
    ⟨VEX .VPUNPCKHDQ XMM_XMM_XMMM128, .kDstSrcRm, false, false⟩,
    ⟨VEX .VPUNPCKHWD XMM_XMM_XMMM128, .kDstSrcRm, false, false⟩,
    ⟨VEX .VPUNPCKLBW XMM_XMM_XMMM128, .kDstSrcRm, false, false⟩,
    ⟨VEX .VPUNPCKLDQ XMM_XMM_XMMM128, .kDstSrcRm, false, false⟩,
    ⟨VEX .VPUNPCKLWD XMM_XMM_XMMM128, .kDstSrcRm, false, false⟩,
    ⟨VEX .VPXOR XMM_XMM_XMMM128, .kDstSrcRm, false, false⟩,
    ⟨VEX .VSHUFPD XMM_XMM_XMMM128_IMM8, .kDstSrcRmImm, false, false⟩,
    ⟨VEX .VSHUFPS XMM_XMM_XMMM128_IMM8, .kDstSrcRmImm, false, false⟩,
    ⟨VEX .VSQRTSD XMM_XMM_XMMM64, .kDstSrcRm64, false, false⟩,
    ⟨VEX .VSQRTSS XMM_XMM_XMMM32, .kDstSrcRm32, false, false⟩,
    ⟨VEX .VSUBPD XMM_XMM_XMMM128, .kDstSrcRm, false, false⟩,
    ⟨VEX .VSUBPS XMM_XMM_XMMM128, .kDstSrcRm, false, false⟩,
    ⟨VEX .VSUBSD XMM_XMM_XMMM64, .kDstSrcRm64, false, false⟩,
    ⟨VEX .VSUBSS XMM_XMM_XMMM32, .kDstSrcRm32, false, false⟩,
    ⟨VEX .VUNPCKHPD XMM_XMM_XMMM128, .kDstSrcRm, false, false⟩,
    ⟨VEX .VUNPCKHPS XMM_XMM_XMMM128, .kDstSrcRm, false, false⟩,
    ⟨VEX .VUNPCKLPD XMM_XMM_XMMM128, .kDstSrcRm, false, false⟩,
    ⟨VEX .VUNPCKLPS XMM_XMM_XMMM128, .kDstSrcRm, false, false⟩,
    ⟨VEX .VXORPD XMM_XMM_XMMM128, .kDstSrcRm, false, false⟩,
    ⟨VEX .VXORPS XMM_XMM_XMMM128, .kDstSrcRm, false, false⟩]

theorem kVexSimd_nonempty : 0 < kVexSimd.length := by decide +kernel

/-- The four AVX-512 subsets the EVEX rows need together. -/
def HostCaps.evexOk (caps : HostCaps) : Bool :=
  caps.avx512f && caps.avx512vl && caps.avx512bw && caps.avx512dq

/-- A row the host can execute, within a number of attempts. -/
def pickVexEntry (evexOk : Bool) : Nat → Draw (Option VexEntry)
  | 0 => return none
  | attempts + 1 => do
      let candidate ← pick kVexSimd kVexSimd_nonempty
      if candidate.evex ∧ ¬ evexOk then pickVexEntry evexOk attempts else return some candidate

/-- A broadcast is drawn only for a memory operand of a row that admits one. -/
def drawsBroadcast (useMem : Bool) (entry : VexEntry) : Draw Bool :=
  if useMem ∧ entry.broadcast then oneIn 3 else return false

/-- The instruction for the shape of a row. -/
def vexForm (entry : VexEntry) (d s1 s2 : Fin 16) (useMem broadcast : Bool) :
    Gen (Option Instruction) := do
  let code := entry.code
  let finish := fun instr : Instruction => if broadcast then instr.setIsBroadcast true else instr
  match entry.shape with
  | .kDstSrcRm | .kDstSrcRm64 | .kDstSrcRm32 =>
      if useMem then
        touchMemory
        let disp ← randomDisp8
        return some (finish (with3 code (xmmOf d) (xmmOf s1) (memOperand disp)))
      else
        return some (with3 code (xmmOf d) (xmmOf s1) (xmmOf s2))
  | .kDstRm | .kDstRm64 =>
      if useMem then
        touchMemory
        let disp ← randomDisp8
        return some (finish (with2 code (xmmOf d) (memOperand disp)))
      else
        return some (with2 code (xmmOf d) (xmmOf s1))
  | .kRmDst =>
      if useMem then
        touchMemory
        let disp ← randomDisp8
        return some (with2 code (memOperand disp) (xmmOf s1))
      else
        return some (with2 code (xmmOf d) (xmmOf s1))
  | .kDstSrcSrc => return some (with3 code (xmmOf d) (xmmOf s1) (xmmOf s2))
  | .kDstSrcImm =>
      let imm ← randomImm32 8
      return some (setImm8 (with3 code (xmmOf d) (xmmOf s1) imm) 2 (imm.signExtend 64))
  | .kDstSrcRmImm =>
      let imm ← randomImm32 8
      if useMem then
        touchMemory
        let disp ← randomDisp8
        return some (finish (setImm8 (with4 code (xmmOf d) (xmmOf s1) (memOperand disp) imm) 3
          (imm.signExtend 64)))
      else
        return some (setImm8 (with4 code (xmmOf d) (xmmOf s1) (xmmOf s2) imm) 3 (imm.signExtend 64))
  | .kDstRmImm =>
      let imm ← randomImm32 8
      if useMem then
        touchMemory
        let disp ← randomDisp8
        return some (setImm8 (with3 code (xmmOf d) (memOperand disp) imm) 2 (imm.signExtend 64))
      else
        return some (setImm8 (with3 code (xmmOf d) (xmmOf s1) imm) 2 (imm.signExtend 64))

/-- What `gen_vex_simd` builds for a row of its table. -/
def genVexEntry (entry : VexEntry) : Gen (Option Instruction) := do
  let d ← pickXmmIndex
  let s1 ← pickXmmIndex
  let s2 ← pickXmmIndex
  let useMem ← oneIn 4
  let broadcast ← drawsBroadcast useMem entry
  vexForm entry d s1 s2 useMem broadcast

/-- `gen_vex_simd`: nothing is generated without AVX2, and an EVEX row is redrawn up to eight times
on a host without AVX-512. -/
def genVexSimd (caps : HostCaps) : Gen (Option Instruction) := do
  if ¬ caps.avx ∨ ¬ caps.avx2 then
    return none
  else
    setFlagsMask 0
    match ← pickVexEntry caps.evexOk 8 with
    | none => return none
    | some entry => genVexEntry entry

end SevenFuzzer
