import SevenFuzzer.Gen.Context

/-! # What the architecture says of an instruction

The reference the generator is held against: which operands a code takes and what
the encoder can encode (`SevenFuzzer.Instruction.Encodable`), which data bytes an
instruction accesses (`SevenFuzzer.Instruction.dataAccesses`), and which flags it
leaves undefined (`SevenFuzzer.Instruction.undefinedFlags`).
-/

namespace SevenFuzzer

/-- The operand kinds an entry of an operand list names. -/
def OpCodeOperandKind.admits : OpCodeOperandKind → OpKind → Bool
  | .reg _, kind | .fixed _, kind | .xmm, kind | .sti, kind | .cr, kind | .dr, kind =>
      kind = .REGISTER
  | .regOrMem _, kind | .xmmOrMem _ _, kind => kind = .REGISTER ∨ kind = .MEMORY
  | .mem _, kind | .address, kind | .moffs _, kind => kind = .MEMORY
  | .segRsi _, kind => kind = .MEMORY_SEG_RSI
  | .esRdi _, kind => kind = .MEMORY_ESRDI
  | .imm8, kind | .imm8Const1, kind | .imm8sex .W8, kind => kind = .IMMEDIATE8
  | .imm8sex .W16, kind => kind = .IMMEDIATE8TO16
  | .imm8sex .W32, kind => kind = .IMMEDIATE8TO32
  | .imm8sex .W64, kind => kind = .IMMEDIATE8TO64
  | .imm16, kind => kind = .IMMEDIATE16
  | .imm32, kind => kind = .IMMEDIATE32
  | .imm32sex64, kind => kind = .IMMEDIATE32TO64
  | .imm64, kind => kind = .IMMEDIATE64
  | .rel8, kind | .rel32, kind => kind = .NEAR_BRANCH64

/-- A general register of the given width. -/
def Register.isGpr (w : Width) : Register → Bool
  | .gpr w' _ => w' = w
  | _ => false

/-- A vector register. -/
def Register.isXmm : Register → Bool
  | .xmm _ => true
  | _ => false

/-- The registers an entry of an operand list takes. -/
def OpCodeOperandKind.takes : OpCodeOperandKind → Register → Bool
  | .reg w, register | .regOrMem w, register => register.isGpr w
  | .fixed register', register => register = register'
  | .xmm, register | .xmmOrMem _ _, register => register.isXmm
  | .sti, .st _ => true
  | .cr, .cr _ => true
  | .dr, .dr _ => true
  | _, _ => false

/-- The operand has a kind the entry names. -/
def kindsMatch : List OpCodeOperandKind → List Operand → Bool
  | [], [] => true
  | entry :: entries, op :: ops => entry.admits op.kind && kindsMatch entries ops
  | _, _ => false

/-- Besides, a register is one the entry takes and a constant has its value. -/
def operandsFit (immediate : BitVec 64) : List OpCodeOperandKind → List Operand → Bool
  | [], [] => true
  | entry :: entries, op :: ops =>
      (entry.admits op.kind && (op.kind ≠ .REGISTER || entry.takes op.register) &&
        (entry ≠ .imm8Const1 || immediate = 1#64)) && operandsFit immediate entries ops
  | _, _ => false

/-- Every operand is of a kind its encoding takes in that place. -/
def Instruction.KindsMatch (instr : Instruction) : Prop :=
  kindsMatch instr.code.operands instr.operands = true

/-- Every operand's value fits the field its encoding gives it. -/
def Instruction.OperandsFit (instr : Instruction) : Prop :=
  operandsFit instr.immediate instr.code.operands instr.operands = true

/-- An operand that fits is of the right kind. -/
theorem kindsMatch_of_operandsFit {immediate : BitVec 64} {entries : List OpCodeOperandKind}
    {ops : List Operand} (fit : operandsFit immediate entries ops = true) :
    kindsMatch entries ops = true := by
  induction entries generalizing ops with
  | nil =>
      cases ops with
      | nil => rfl
      | cons => cases fit
  | cons entry entries ih =>
      cases ops with
      | nil => cases fit
      | cons op ops =>
          simp only [operandsFit, Bool.and_eq_true] at fit
          simp only [kindsMatch, Bool.and_eq_true]
          exact ⟨fit.1.1.1, ih fit.2⟩

/-- What can be encoded is stamped correctly. -/
theorem Instruction.OperandsFit.kinds {instr : Instruction} (fit : instr.OperandsFit) :
    instr.KindsMatch :=
  kindsMatch_of_operandsFit fit

/-- A short branch reaches its target from an instruction of any length, from 1 to 15
bytes, at the start of the code page, and so does a near one. -/
def Code.Reaches (code : Code) (target : BitVec 64) : Prop :=
  match code.operands with
  | [.rel8] => kCodeBase.toNat ≤ target.toNat + 113 ∧ target.toNat ≤ kCodeBase.toNat + 128
  | [.rel32] =>
      kCodeBase.toNat ≤ target.toNat + (2 ^ 31 - 15) ∧ target.toNat ≤ kCodeBase.toNat + 2 ^ 31
  | _ => True

/-- A base with a displacement of one byte, or an absolute address of eight. -/
inductive MemoryOperand.Encodable : MemoryOperand → Prop where
  | based (index : Fin 16) (disp : BitVec 8) :
      Encodable (.withBaseDisplSize (.gpr .W64 index) (disp.signExtend 64) 1)
  | absolute (address : BitVec 64) : Encodable (.withDispl address 8)

/-- An instruction with nothing the encoder could refuse. -/
structure Instruction.Encodable (instr : Instruction) : Prop where
  operands : instr.OperandsFit
  memory : ∀ m, instr.memory = some m → m.Encodable
  branch : instr.code.Reaches instr.nearBranch

/-- The value of a general register. -/
def Register.value (gpr : Fin 16 → BitVec 64) : Register → Nat
  | .gpr w i => (gpr i).toNat % 2 ^ bitsOf w
  | _ => 0

/-- What is left of a word under the mask of its low bits. -/
theorem toNat_and_lowMask (value : BitVec 64) {bits : Nat} (narrow : bits < 64) :
    (value &&& ((1#64 <<< bits) - 1#64)).toNat = value.toNat % 2 ^ bits := by
  have low : ((1#64 <<< bits) - 1#64).toNat = 2 ^ bits - 1 := by
    have small : 2 ^ bits < 2 ^ 64 := Nat.pow_lt_pow_right (by decide) narrow
    have positive : 0 < 2 ^ bits := Nat.two_pow_pos bits
    rw [BitVec.toNat_sub, BitVec.toNat_shiftLeft, Nat.shiftLeft_eq]
    simp only [BitVec.toNat_ofNat]
    omega
  rw [BitVec.toNat_and, low, Nat.and_two_pow_sub_one_eq_mod]

/-- A range of bytes an instruction reads or writes. -/
structure Access where
  address : BitVec 64
  /-- in bytes -/
  size : Nat
  deriving DecidableEq

/-- How many bytes a memory operand of this kind spans; a broadcast reads one element. -/
def OpCodeOperandKind.memorySize (broadcast : Bool) : OpCodeOperandKind → Option Nat
  | .regOrMem w | .moffs w => some (bytesOf w)
  | .mem size => some size
  | .xmmOrMem size element => some (if broadcast then element.getD size else size)
  | _ => none

/-- The bytes accessed at the memory operand; LEA and NOP only compute its address. -/
def Instruction.memorySize (instr : Instruction) : Nat :=
  match instr.code.mnemonic with
  | .LEA | .NOP => 0
  | _ => (instr.code.operands.findSome? (OpCodeOperandKind.memorySize instr.isBroadcast)).getD 0

/-- The address of a memory operand, before the bit offset of the bit tests. -/
def MemoryOperand.effectiveAddress (m : MemoryOperand) (gpr : Fin 16 → BitVec 64) : BitVec 64 :=
  match m.base with
  | .gpr _ index => gpr index + m.displacement
  | _ => m.displacement

/-- The bit offset of a bit test, if it is in a register: the operand width and the
signed value. -/
def Instruction.bitOffset (instr : Instruction) (gpr : Fin 16 → BitVec 64) : Option (Width × Int) :=
  match instr.code.mnemonic, instr.code.operands, instr.operands with
  | .bt _, [_, .reg w], [_, { kind := .REGISTER, register := .gpr _ index }] =>
      some (w, ((gpr index).setWidth (bitsOf w)).toInt)
  | _, _, _ => none

/-- The bytes by which a bit offset displaces the operand: whole operands, rounded
down. -/
def bitDisplacement : Option (Width × Int) → Int
  | some (w, offset) => bytesOf w * (offset / bitsOf w)
  | none => 0

/-- The access of the memory operand; a bit test by register reaches the bytes its offset names. -/
def Instruction.memoryAccesses (instr : Instruction) (gpr : Fin 16 → BitVec 64) : List Access :=
  match instr.memory with
  | some m =>
      [⟨m.effectiveAddress gpr + BitVec.ofInt 64 (bitDisplacement (instr.bitOffset gpr)),
        instr.memorySize⟩]
  | none => []

/-- The eight bytes at or below RSP that the stack instructions touch. -/
def Instruction.stackAccesses (instr : Instruction) (gpr : Fin 16 → BitVec 64) : List Access :=
  match instr.code.mnemonic with
  | .PUSH | .CALL => [⟨gpr 4 - 8#64, 8⟩]
  | .POP | .RETNQ => [⟨gpr 4, 8⟩]
  | _ => []

/-- The pointer of a string operand. -/
def OpKind.pointer : OpKind → Option (Fin 16)
  | .MEMORY_SEG_RSI => some 6
  | .MEMORY_ESRDI => some 7
  | _ => none

/-- The element size of a string operand. -/
def OpCodeOperandKind.stringSize : OpCodeOperandKind → Option Nat
  | .segRsi w | .esRdi w => some (bytesOf w)
  | _ => none

/-- How often a string instruction runs; a repeated compare may stop earlier. -/
def Instruction.iterations (instr : Instruction) (gpr : Fin 16 → BitVec 64) : Nat :=
  if instr.rep = .NONE then 1 else (gpr 1).toNat

/-- The pointers move up, or down when DF is set. -/
def Instruction.stringAccesses (instr : Instruction) (state : RegState) : List Access :=
  let size := (instr.code.operands.findSome? OpCodeOperandKind.stringSize).getD 0
  let stride := if state.rflags.getLsbD 10 then -BitVec.ofNat 64 size else BitVec.ofNat 64 size
  (List.range (instr.iterations state.gpr)).flatMap fun k =>
    (instr.operands.filterMap fun op => op.kind.pointer).map fun pointer =>
      ⟨state.gpr pointer + BitVec.ofNat 64 k * stride, size⟩

/-- The data an instruction reads or writes when it is executed once. -/
def Instruction.dataAccesses (instr : Instruction) (state : RegState) : List Access :=
  instr.memoryAccesses state.gpr ++ instr.stackAccesses state.gpr ++ instr.stringAccesses state

/-- The carry flag. -/
def CF : BitVec 64 := 0x0001#64
/-- The parity flag. -/
def PF : BitVec 64 := 0x0004#64
/-- The adjust flag. -/
def AF : BitVec 64 := 0x0010#64
/-- The zero flag. -/
def ZF : BitVec 64 := 0x0040#64
/-- The sign flag. -/
def SF : BitVec 64 := 0x0080#64
/-- The overflow flag. -/
def OF : BitVec 64 := 0x0800#64

/-- What the undefined flags of a mnemonic depend on. -/
inductive FlagRule where
  | fixed (flags : BitVec 64)
  /-- a shift, with whether its CF is undefined from the operand width on -/
  | shift (carry : Bool)
  | rotate
  | doubleShift

/-- The rule by which the architecture leaves flags undefined, for each instruction. -/
def Mnemonic.flagRule : Mnemonic → FlagRule
  | .alu .AND | .alu .OR | .alu .XOR | .TEST => .fixed AF
  | .shift .SHL | .shift .SAL | .shift .SHR => .shift true
  | .shift .SAR => .shift false
  | .shift .ROL | .shift .ROR | .shift .RCL | .shift .RCR => .rotate
  | .SHLD | .SHRD => .doubleShift
  | .bt _ => .fixed (OF ||| SF ||| AF ||| PF)
  | .rmsrc .BSF | .rmsrc .BSR => .fixed (OF ||| SF ||| AF ||| PF ||| CF)
  | .rmsrc .LZCNT | .rmsrc .TZCNT => .fixed (OF ||| SF ||| AF ||| PF)
  | .muldiv .MUL | .muldiv .IMUL => .fixed (SF ||| ZF ||| AF ||| PF)
  | .muldiv .DIV | .muldiv .IDIV => .fixed (OF ||| SF ||| ZF ||| AF ||| PF ||| CF)
  | .bmi .ANDN | .bmi .BLSI | .bmi .BLSR | .bmi .BLSMSK | .bmi .BZHI => .fixed (AF ||| PF)
  | .bmi .BEXTR => .fixed (AF ||| PF ||| SF)
  | _ => .fixed 0#64

/-- The flags a rule leaves undefined, for an operand of `bits` bits and a masked `count`. -/
def FlagRule.undefined (rule : FlagRule) (bits count : Nat) : BitVec 64 :=
  match rule with
  | .fixed flags => flags
  | .shift carry =>
      (if 0 < count then AF else 0#64) ||| (if 1 < count then OF else 0#64) |||
        (if carry ∧ bits ≤ count then CF else 0#64)
  | .rotate => if 1 < count then OF else 0#64
  | .doubleShift => AF ||| (if 1 < count then OF else 0#64)

/-- The width of the first operand. -/
def Code.width (code : Code) : Width :=
  match code.operands.head? with
  | some (.reg w) | some (.regOrMem w) => w
  | _ => .W64

/-- The count of a shift is its last operand: CL or an immediate. -/
def Instruction.countByte (instr : Instruction) (gpr : Fin 16 → BitVec 64) : BitVec 8 :=
  match instr.operands.getLast? with
  | some { kind := .REGISTER, register := .gpr _ index } => (gpr index).setWidth 8
  | _ => instr.immediate.setWidth 8

/-- The processor uses six bits of the count at 64 bits, and five below. -/
def Instruction.maskedCount (instr : Instruction) (gpr : Fin 16 → BitVec 64) : Nat :=
  (instr.countByte gpr &&& if instr.code.width = .W64 then 0x3F#8 else 0x1F#8).toNat

/-- The flags an instruction leaves undefined when it starts with these registers. -/
def Instruction.undefinedFlags (instr : Instruction) (gpr : Fin 16 → BitVec 64) : BitVec 64 :=
  instr.code.mnemonic.flagRule.undefined (bitsOf instr.code.width) (instr.maskedCount gpr)

end SevenFuzzer
