import Mathlib.Data.BitVec
import SevenFuzzer.Common.Types

/-! # Instructions

What the generator uses of iced_x86: the codes with their operand lists, and
instructions as the factory builds them. A code is a mnemonic with the list of
operand kinds its name spells out (`ADD_RM16_IMM8` is `ADD` on a 16-bit register
or memory and a sign-extended byte); what else tells codes apart is its form. The
factory gives every operand the kind of the argument it is built from.
-/

namespace SevenFuzzer

/-- The operand widths. -/
inductive Width where
  | W8 | W16 | W32 | W64
  deriving DecidableEq

/-- A width in bits. -/
def bitsOf : Width → Nat
  | .W8 => 8
  | .W16 => 16
  | .W32 => 32
  | .W64 => 64

/-- A width in bytes. -/
def bytesOf (w : Width) : Nat := bitsOf w / 8

/-- The registers, by the x86 numbering within their class: `gpr .W8 4` is SPL. -/
inductive Register where
  | NONE
  | gpr (width : Width) (index : Fin 16)
  | xmm (index : Fin 16)
  | st (index : Fin 8)
  | cr (index : Nat)
  | dr (index : Fin 8)
  deriving DecidableEq

/-- A general register at a width, by its encoding number. -/
def regOf (w : Width) (idx : Fin 16) : Register := .gpr w idx
/-- A vector register. -/
def xmmOf (idx : Fin 16) : Register := .xmm idx
/-- An x87 stack slot. -/
def stOf (idx : Fin 8) : Register := .st idx

/-- The two-operand operations. -/
inductive AluOp where
  | ADD | OR | ADC | SBB | AND | SUB | XOR | CMP
  deriving DecidableEq

/-- The one-operand operations. -/
inductive UnaryOp where
  | INC | DEC | NEG | NOT
  deriving DecidableEq

/-- The shifts and rotates. -/
inductive ShiftOp where
  | SHL | SHR | SAR | ROL | ROR | RCL | RCR | SAL
  deriving DecidableEq

/-- The sixteen conditions. -/
inductive Condition where
  | O | NO | B | AE | E | NE | BE | A | S | NS | P | NP | L | GE | LE | G
  deriving DecidableEq

/-- The bit tests. -/
inductive BtOp where
  | BT | BTS | BTR | BTC
  deriving DecidableEq

/-- The bit scans and counts. -/
inductive RmSrcOp where
  | BSF | BSR | POPCNT | LZCNT | TZCNT
  deriving DecidableEq

/-- The instructions of BMI1 and BMI2. -/
inductive BmiOp where
  | ANDN | BEXTR | BLSI | BLSMSK | BLSR | BZHI | PDEP | PEXT | MULX | RORX | SARX | SHLX | SHRX
  deriving DecidableEq

/-- The multiplications and divisions. -/
inductive MulDivOp where
  | MUL | IMUL | DIV | IDIV
  deriving DecidableEq

/-- The string instructions. -/
inductive StringOp where
  | MOVS | CMPS | SCAS | STOS | LODS
  deriving DecidableEq

/-- The privileged instructions without operands. -/
inductive PrivilegedOp where
  | CLI | STI | HLT | CLTS | INVD | WBINVD | SWAPGS | XSETBV | RDMSR | WRMSR
  deriving DecidableEq

/-- The legacy vector instructions. -/
inductive SimdOp where
  | SHUFPS | SHUFPD | PSHUFD | PSHUFLW | PSHUFHW | UNPCKLPS | UNPCKLPD | UNPCKHPS | UNPCKHPD
  | MOVSLDUP | MOVSHDUP | MOVDDUP | ANDPS | ANDPD | ANDNPS | ANDNPD | ORPS | ORPD | XORPS
  | XORPD | PAND | PANDN | POR | PXOR | PACKSSWB | PACKSSDW | PACKUSWB | PUNPCKLBW | PUNPCKHBW
  | PUNPCKLWD | PUNPCKHWD | PUNPCKLDQ | PUNPCKHDQ | PUNPCKLQDQ | PUNPCKHQDQ | PSLLW | PSLLD
  | PSLLQ | PSRLW | PSRLD | PSRLQ | PSRAW | PSRAD | PSRLDQ | PSLLDQ | ADDSUBPS | ADDSUBPD
  | HADDPS | HADDPD | HSUBPS | HSUBPD | COMISS | UCOMISS | COMISD | UCOMISD | ADDPS | ADDPD
  | ADDSS | ADDSD | SUBPS | SUBPD | SUBSS | SUBSD | MULPS | MULPD | MULSS | MULSD | DIVPS
  | DIVPD | DIVSS | DIVSD | MINPS | MINPD | MINSS | MINSD | MAXPS | MAXPD | MAXSS | MAXSD
  | SQRTPS | SQRTPD | SQRTSS | SQRTSD | PADDB | PADDW | PADDD | PADDQ | PADDSB | PADDSW
  | PADDUSB | PADDUSW | PSUBB | PSUBW | PSUBD | PSUBQ | PSUBSB | PSUBSW | PSUBUSB | PSUBUSW
  | PCMPEQB | PCMPEQW | PCMPEQD | PCMPEQQ | PCMPGTB | PCMPGTW | PCMPGTD | PCMPGTQ | PAVGB
  | PAVGW | PMAXUB | PMINSW | PMULLW | PMULHW | PMULHUW | PMULUDQ | PMADDWD | PSADBW | MOVAPS
  | MOVAPD | MOVDQA | MOVNTDQA | MOVUPS | MOVUPD | MOVDQU | LDDQU | MOVSS | MOVSD | MOVHPS
  | MOVHPD | MOVLPS | MOVLPD | MOVQ | MOVNTPS | MOVNTPD | MOVNTDQ
  deriving DecidableEq

/-- The instructions of the VEX and EVEX table. -/
inductive VexOp where
  | VMOVAPD | VMOVAPS | VMOVDDUP | VMOVDQA32 | VMOVDQA64 | VMOVDQU16 | VMOVDQU32 | VMOVDQU64
  | VMOVDQU8 | VMOVHLPS | VMOVLHPS | VMOVQ | VMOVSD | VMOVSHDUP | VMOVSLDUP | VMOVSS | VMOVUPD
  | VMOVUPS | VPACKSSDW | VPACKSSWB | VPACKUSWB | VPADDB | VPADDD | VPADDQ | VPADDSB | VPADDSW
  | VPADDUSB | VPADDUSW | VPADDW | VPANDD | VPANDND | VPANDNQ | VPANDQ | VPAVGB | VPAVGW
  | VPMULLW | VPORD | VPORQ | VPSLLD | VPSLLQ | VPSLLW | VPSRAD | VPSRAW | VPSRLD | VPSRLQ
  | VPSRLW | VPSUBB | VPSUBD | VPSUBQ | VPSUBSB | VPSUBSW | VPSUBUSB | VPSUBUSW | VPSUBW
  | VPUNPCKHBW | VPUNPCKHDQ | VPUNPCKHWD | VPUNPCKLBW | VPUNPCKLDQ | VPUNPCKLWD | VPXORD
  | VPXORQ | VSHUFPD | VSHUFPS | VUNPCKHPD | VUNPCKHPS | VUNPCKLPD | VUNPCKLPS | VADDPD | VADDPS
  | VADDSD | VADDSS | VANDNPD | VANDNPS | VANDPD | VANDPS | VDIVPD | VDIVPS | VDIVSD | VDIVSS
  | VMAXPD | VMAXPS | VMAXSD | VMAXSS | VMINPD | VMINPS | VMINSD | VMINSS | VMOVDQA | VMOVDQU
  | VMULPD | VMULPS | VMULSD | VMULSS | VORPD | VORPS | VPANDN | VPAND | VPCMPEQB | VPCMPEQD
  | VPCMPEQQ | VPCMPEQW | VPCMPGTB | VPCMPGTD | VPCMPGTQ | VPCMPGTW | VPOR | VPSLLDQ | VPSRLDQ
  | VPXOR | VSQRTSD | VSQRTSS | VSUBPD | VSUBPS | VSUBSD | VSUBSS | VXORPD | VXORPS
  deriving DecidableEq

/-- The x87 instructions. -/
inductive X87Op where
  | FLD | FILD | FST | FSTP | FIST | FISTP | FISTTP | FADD | FADDP | FIADD | FMUL | FMULP
  | FIMUL | FSUB | FSUBP | FISUB | FSUBR | FSUBRP | FISUBR | FDIV | FDIVP | FIDIV | FDIVR
  | FDIVRP | FIDIVR | FSQRT | FRNDINT | FABS | FCHS | FSCALE | FPREM | FPREM1 | FXTRACT | FSIN
  | FCOS | FSINCOS | FPTAN | F2XM1 | FYL2X | FYL2XP1 | FPATAN | FTST | FXAM | FCOMPP | FUCOMPP
  | FCOMP | FCOM | FUCOM | FUCOMP | FCOMI | FCOMIP | FUCOMI | FUCOMIP | FSTPNCE | FXCH | FFREE
  | FFREEP | FLD1 | FLDZ | FLDPI | FLDL2T | FLDL2E | FLDLG2 | FLDLN2 | FNOP | FCMOVB | FCMOVE
  | FCMOVBE | FCMOVU | FCMOVNB | FCMOVNE | FCMOVNBE | FCMOVNU | FNSTSW | FNSTCW | FLDCW | FNCLEX
  | FNINIT | FINCSTP | FDECSTP
  deriving DecidableEq

/-- What an instruction does, apart from its operands. -/
inductive Mnemonic where
  | alu (op : AluOp) | TEST | unary (op : UnaryOp) | shift (op : ShiftOp)
  | MOV | MOVZX | MOVSX | MOVSXD | PUSH | POP | LEA | MOVBE | CRC32 | NOP | string (op : StringOp)
  | jcc (cc : Condition) | JMP | CALL | RETNQ | LOOP | LOOPE | LOOPNE | JRCXZ | JECXZ
  | setcc (cc : Condition) | cmovcc (cc : Condition)
  | bt (op : BtOp) | rmsrc (op : RmSrcOp) | BSWAP | bmi (op : BmiOp) | muldiv (op : MulDivOp)
  | XCHG | XADD | CMPXCHG | SHLD | SHRD | privileged (op : PrivilegedOp)
  | simd (op : SimdOp) | vex (op : VexOp) | x87 (op : X87Op)
  deriving DecidableEq

/-- An operand in the operand list of a code. -/
inductive OpCodeOperandKind where
  /-- `R8` to `R64` -/
  | reg (w : Width)
  /-- `RM8` to `RM64` -/
  | regOrMem (w : Width)
  | fixed (register : Register)
  /-- a memory operand of a size in bytes -/
  | mem (size : Nat)
  /-- the `M` of LEA, of which only the address is taken -/
  | address
  | moffs (w : Width)
  | segRsi (w : Width) | esRdi (w : Width)
  | xmm
  /-- `XMMM32` to `XMMM128`, and the broadcast element of the `B32` and `B64` kinds -/
  | xmmOrMem (size : Nat) (element : Option Nat)
  | sti | cr | dr
  | imm8 | imm8Const1 | imm8sex (w : Width) | imm16 | imm32 | imm32sex64 | imm64
  | rel8 | rel32
  deriving DecidableEq

/-- What tells codes of one mnemonic and operand list apart: the encoding, an alias
encoding, or the counter a loop uses. -/
inductive CodeForm where
  | plain | VEX | EVEX | F6R1 | F7R1 | DCD0 | DCD8 | DED0 | DFD0 | DFD8 | DDC8 | DFC8 | RCX | ECX
  deriving DecidableEq

/-- An encoding: the mnemonic, the kinds of operand it takes, and the form that tells apart
encodings with the same two. -/
structure Code where
  mnemonic : Mnemonic
  operands : List OpCodeOperandKind := []
  form : CodeForm := .plain
  deriving DecidableEq

/-- The kinds with which an instruction's operands are stamped. -/
inductive OpKind where
  | REGISTER | NEAR_BRANCH64 | IMMEDIATE8 | IMMEDIATE8TO16 | IMMEDIATE8TO32 | IMMEDIATE8TO64
  | IMMEDIATE16 | IMMEDIATE32 | IMMEDIATE32TO64 | IMMEDIATE64
  | MEMORY | MEMORY_SEG_RSI | MEMORY_ESRDI
  deriving DecidableEq

/-- A memory operand: a base register, if any, and a displacement. -/
structure MemoryOperand where
  base : Register := .NONE
  displacement : BitVec 64
  displSize : Nat
  deriving DecidableEq

/-- A base register with a displacement. -/
def MemoryOperand.withBaseDisplSize (base : Register) (displacement : BitVec 64) (displSize : Nat) :
    MemoryOperand :=
  { base := base, displacement := displacement, displSize := displSize }

/-- An absolute address. -/
def MemoryOperand.withDispl (displacement : BitVec 64) (displSize : Nat) : MemoryOperand :=
  { displacement := displacement, displSize := displSize }

/-- The repeat prefixes. -/
inductive RepPrefixKind where
  | NONE | REPE | REPNE
  deriving DecidableEq

/-- One operand of an instruction: its kind, and its register when it is one. -/
structure Operand where
  kind : OpKind
  register : Register := .NONE
  deriving DecidableEq

/-- An instruction has at most one memory operand and one immediate. -/
structure Instruction where
  code : Code
  operands : List Operand := []
  memory : Option MemoryOperand := none
  immediate : BitVec 64 := 0
  nearBranch : BitVec 64 := 0
  rep : RepPrefixKind := .NONE
  isBroadcast : Bool := false
  deriving DecidableEq

namespace Instruction

/-- Replaces the kind of an operand and leaves its value alone. -/
def setOpKind (instr : Instruction) (index : Nat) (kind : OpKind) : Instruction :=
  { instr with operands := instr.operands.modify index fun op => { op with kind := kind } }

/-- Stamps the first operand. -/
def setOp0Kind (instr : Instruction) (kind : OpKind) : Instruction := instr.setOpKind 0 kind
/-- Stamps the second operand. -/
def setOp1Kind (instr : Instruction) (kind : OpKind) : Instruction := instr.setOpKind 1 kind
/-- Stamps the third operand. -/
def setOp2Kind (instr : Instruction) (kind : OpKind) : Instruction := instr.setOpKind 2 kind

/-- Stores a byte, zero-extended. -/
def setImmediate8 (instr : Instruction) (value : BitVec 8) : Instruction :=
  { instr with immediate := value.setWidth 64 }

/-- Stores a byte that was extended to 16 bits. -/
def setImmediate8to16 (instr : Instruction) (value : BitVec 16) : Instruction :=
  { instr with immediate := value.signExtend 64 }

/-- Stores a byte that was extended to 32 bits. -/
def setImmediate8to32 (instr : Instruction) (value : BitVec 32) : Instruction :=
  { instr with immediate := value.signExtend 64 }

/-- Stores a byte that was extended to 64 bits. -/
def setImmediate8to64 (instr : Instruction) (value : BitVec 64) : Instruction :=
  { instr with immediate := value }

/-- Stores a word. -/
def setImmediate16 (instr : Instruction) (value : BitVec 16) : Instruction :=
  { instr with immediate := value.setWidth 64 }

/-- Stores a doubleword. -/
def setImmediate32 (instr : Instruction) (value : BitVec 32) : Instruction :=
  { instr with immediate := value.setWidth 64 }

/-- Stores a doubleword that was extended to 64 bits. -/
def setImmediate32to64 (instr : Instruction) (value : BitVec 64) : Instruction :=
  { instr with immediate := value }

/-- Marks the memory operand as one element to be repeated. -/
def setIsBroadcast (instr : Instruction) (value : Bool) : Instruction :=
  { instr with isBroadcast := value }

end Instruction

/-- An argument of the factory. -/
inductive Argument where
  | reg (register : Register)
  | mem (memory : MemoryOperand)
  | int32 (value : BitVec 32)
  | int64 (value : BitVec 64)

/-- The integer overloads build `IMMEDIATE32` and `IMMEDIATE64`, whatever the code. -/
def Argument.operand : Argument → Operand
  | .reg register => { kind := .REGISTER, register := register }
  | .mem _ => { kind := .MEMORY }
  | .int32 _ => { kind := .IMMEDIATE32 }
  | .int64 _ => { kind := .IMMEDIATE64 }

/-- What an argument adds to the instruction beside its operand: the memory it names or its
immediate. -/
def Argument.addTo (instr : Instruction) : Argument → Instruction
  | .reg _ => instr
  | .mem memory => { instr with memory := some memory }
  | .int32 value => { instr with immediate := value.signExtend 64 }
  | .int64 value => { instr with immediate := value }

instance : Coe Register Argument := ⟨.reg⟩
instance : Coe MemoryOperand Argument := ⟨.mem⟩
instance : Coe (BitVec 32) Argument := ⟨.int32⟩
instance : Coe (BitVec 64) Argument := ⟨.int64⟩

namespace InstructionFactory

/-- The factory behind `with1` to `with4`: the arguments become the operands, in order. -/
def build (code : Code) (arguments : List Argument) : Instruction :=
  arguments.foldl Argument.addTo { code := code, operands := arguments.map Argument.operand }

/-- The factory's `with`, for a code without operands. -/
def with0 (code : Code) : Instruction := build code []
/-- An instruction with one operand. -/
def with1 (code : Code) (op0 : Argument) : Instruction := build code [op0]
/-- An instruction with two operands. -/
def with2 (code : Code) (op0 op1 : Argument) : Instruction := build code [op0, op1]
/-- An instruction with three operands. -/
def with3 (code : Code) (op0 op1 op2 : Argument) : Instruction := build code [op0, op1, op2]
/-- An instruction with four operands. -/
def with4 (code : Code) (op0 op1 op2 op3 : Argument) : Instruction :=
  build code [op0, op1, op2, op3]

/-- An instruction whose operand is a branch target. -/
def withBranch (code : Code) (target : BitVec 64) : Instruction :=
  { code := code, operands := [{ kind := .NEAR_BRANCH64 }], nearBranch := target }

/-- `RAX` and its lower parts. -/
def accumulator (w : Width) : Register := .gpr w 0

/-- `with_movsb` to `with_movsq`, in 64-bit addressing. -/
def withMovs (w : Width) (rep : RepPrefixKind) : Instruction where
  code := ⟨.string .MOVS, [.esRdi w, .segRsi w], .plain⟩
  operands := [{ kind := .MEMORY_ESRDI }, { kind := .MEMORY_SEG_RSI }]
  rep := rep

/-- The string comparison. -/
def withCmps (w : Width) (rep : RepPrefixKind) : Instruction where
  code := ⟨.string .CMPS, [.segRsi w, .esRdi w], .plain⟩
  operands := [{ kind := .MEMORY_SEG_RSI }, { kind := .MEMORY_ESRDI }]
  rep := rep

/-- The string scan, which compares with the accumulator. -/
def withScas (w : Width) (rep : RepPrefixKind) : Instruction where
  code := ⟨.string .SCAS, [.fixed (accumulator w), .esRdi w], .plain⟩
  operands := [{ kind := .REGISTER, register := accumulator w }, { kind := .MEMORY_ESRDI }]
  rep := rep

/-- The string store, of the accumulator. -/
def withStos (w : Width) (rep : RepPrefixKind) : Instruction where
  code := ⟨.string .STOS, [.esRdi w, .fixed (accumulator w)], .plain⟩
  operands := [{ kind := .MEMORY_ESRDI }, { kind := .REGISTER, register := accumulator w }]
  rep := rep

/-- The string load, into the accumulator. -/
def withLods (w : Width) (rep : RepPrefixKind) : Instruction where
  code := ⟨.string .LODS, [.fixed (accumulator w), .segRsi w], .plain⟩
  operands := [{ kind := .REGISTER, register := accumulator w }, { kind := .MEMORY_SEG_RSI }]
  rep := rep

end InstructionFactory

end SevenFuzzer
