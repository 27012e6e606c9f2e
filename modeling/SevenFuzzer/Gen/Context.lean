import SevenFuzzer.Common.Types
import SevenFuzzer.Gen.Iced
import SevenFuzzer.Library.Draw

/-! # The context of a family

What a generator family works on: the draws, and the `Ctx` in which it records what
`next` has to prepare for its instruction. The random values, the memory operand
and the stamping of immediates are shared by the families.
-/

namespace SevenFuzzer

open Draw

/-- A qword planted in the scratch page. -/
structure ForcedQword where
  offset : Nat
  value : BitVec 64

/-- Up to ten bytes planted in the scratch page. -/
structure ForcedBytes where
  offset : Nat
  size : Nat
  value : Fin 10 → BitVec 8

/-- What a family notes for `next` beside its instruction: what to pin, what to plant and what not
to compare. -/
structure Ctx where
  touchesMemory : Bool := false
  flagsMask : BitVec 64 := kCompareFlagsMask
  /-- The registers a family sets itself, by the numbering of `RegState.gpr`. -/
  forceGpr : Fin 16 → Option (BitVec 64) := fun _ => none
  bsfBsrDest : Option (Fin 16) := none
  bsfBsrSrcReg : Option (Fin 16) := none
  bsfBsrSrcMemDisp : Option (BitVec 8) := none
  bsfBsrWidthBytes : Nat := 0
  forceDataQword : Option ForcedQword := none
  forceDataBytes : Option ForcedBytes := none
  usesX87 : Bool := false
  /-- The stack slots the instruction reads. -/
  x87Needs : Nat := 0

/-- A family's program: it draws, and it changes the context. -/
abbrev Gen := StateT Ctx Draw

/-- The instruction addresses the data window, so `next` pins its pointer registers. -/
def touchMemory : Gen Unit := modify fun c => { c with touchesMemory := true }

/-- Narrows or widens the compared flags. -/
def setFlagsMask (mask : BitVec 64) : Gen Unit := modify fun c => { c with flagsMask := mask }

/-- Sets the value a register starts with. -/
def force (index : Fin 16) (value : BitVec 64) : Gen Unit :=
  modify fun c => { c with forceGpr := Function.update c.forceGpr index (some value) }

/-- The values near which carries, signs and widths change. -/
def kInterestingPool : List (BitVec 64) :=
  [0#64, 1#64, 2#64, 3#64, 0x7F#64, 0x80#64, 0xFF#64, 0x100#64, 0x7FFF#64, 0x8000#64, 0xFFFF#64,
    0x10000#64, 0x7FFFFFFF#64, 0x80000000#64, 0xFFFFFFFF#64, 0x100000000#64,
    0x7FFFFFFFFFFFFFFF#64, 0x8000000000000000#64, 0xFFFFFFFFFFFFFFFF#64,
    0xAAAAAAAAAAAAAAAA#64, 0x5555555555555555#64]

/-- Any 64-bit word. -/
def fullU64 : Draw (BitVec 64) := BitVec.ofNat 64 <$> between 0 (2 ^ 64 - 1)

/-- `random_interesting_u64`: a value of the pool, at times moved by at most two, or one drawn
freely. -/
def randomInterestingU64 : Draw (BitVec 64) := do
  if (← between 0 99) < 40 then
    let v ← pick kInterestingPool
    if (← between 0 99) < 30 then
      -- the draw is of -2 to 2
      let delta ← between 0 4
      return v + BitVec.ofNat 64 delta - 2#64
    else
      return v
  else
    fullU64

/-- An interesting value cut to the width of an immediate. -/
def randomImm (bits : Nat) : Draw (BitVec 64) := do
  let v ← randomInterestingU64
  return if bits < 64 then v &&& ((1#64 <<< bits) - 1#64) else v

/-- Never negative: the scratch window lies at the start of its page. -/
def randomDisp8 : Draw (BitVec 8) := BitVec.ofNat 8 <$> between 0 0x7F

/-- A nonnegative displacement that is a multiple of the alignment. -/
def alignedDisp8 (alignment : Nat) : Draw (BitVec 8) := do
  let raw ← between 0 0x7F
  return BitVec.ofNat 8 (raw - raw % alignment)

/-- One of the sixteen general registers, RSP included. -/
def pickRegIndex : Draw (Fin 16) := index 15
/-- One of the sixteen vector registers. -/
def pickXmmIndex : Draw (Fin 16) := index 15
/-- One of the eight stack slots. -/
def pickStIndex : Draw (Fin 8) := index 7

/-- One of the four operand widths. -/
def anyWidth : Draw Width := pick [.W8, .W16, .W32, .W64]
/-- One of the widths of the instructions without a byte form. -/
def width163264 : Draw Width := pick [.W16, .W32, .W64]

/-- The base register of every memory operand the families build. -/
def RDI : Register := .gpr .W64 7
/-- The register of the shift counts. -/
def CL : Register := .gpr .W8 1

/-- The memory operand of the families: RDI plus a signed byte. -/
def memOperand (disp : BitVec 8) : MemoryOperand :=
  .withBaseDisplSize RDI (disp.signExtend 64) 1

/-- A branch target on the code page, sixteen bytes clear of its end. -/
def randomCodeTarget : Draw (BitVec 64) := do
  return kCodeBase + BitVec.ofNat 64 (← between 0 (kPageSize - 16))

/-- A target in the reach of a short branch. -/
def randomShortTarget : Draw (BitVec 64) := do
  return kCodeBase + BitVec.ofNat 64 (← between 2 120)

/-- Plants a code address in an aligned slot and gives the slot's displacement. -/
def indirectTargetDisp : Gen (BitVec 8) := do
  let offset := (← between 0 15) * 8
  let target ← randomCodeTarget
  modify fun c => { c with forceDataQword := some ⟨offset, target⟩ }
  return BitVec.ofNat 8 offset

/-- Stamps an operand with its immediate kind. -/
def setImmKind (instr : Instruction) (index : Nat) (kind : OpKind) : Instruction :=
  match index with
  | 0 => instr.setOp0Kind kind
  | 1 => instr.setOp1Kind kind
  | _ => instr.setOp2Kind kind

/-- Stamps an operand as a byte and stores the value's low byte. -/
def setImm8 (instr : Instruction) (index : Nat) (value : BitVec 64) : Instruction :=
  (setImmKind instr index .IMMEDIATE8).setImmediate8 (value.setWidth 8)

/-- Stamps an operand with the kind its width calls for, full or sign-extended from a byte. -/
def setImmSized (instr : Instruction) (index : Nat) (w : Width) (signExtendedImm8 : Bool)
    (value : BitVec 64) : Instruction :=
  if signExtendedImm8 then
    let byte := value.setWidth 8
    match w with
    | .W16 => (setImmKind instr index .IMMEDIATE8TO16).setImmediate8to16 (byte.signExtend 16)
    | .W32 => (setImmKind instr index .IMMEDIATE8TO32).setImmediate8to32 (byte.signExtend 32)
    | _ => (setImmKind instr index .IMMEDIATE8TO64).setImmediate8to64 (byte.signExtend 64)
  else
    match w with
    | .W8 => (setImmKind instr index .IMMEDIATE8).setImmediate8 (value.setWidth 8)
    | .W16 => (setImmKind instr index .IMMEDIATE16).setImmediate16 (value.setWidth 16)
    | .W32 => (setImmKind instr index .IMMEDIATE32).setImmediate32 (value.setWidth 32)
    | .W64 =>
        (setImmKind instr index .IMMEDIATE32TO64).setImmediate32to64
          ((value.setWidth 32).signExtend 64)

/-- The bits of the full immediate of a form. -/
def immBits : Width → Nat
  | .W8 => 8
  | .W16 => 16
  | _ => 32

/-- A random immediate as the 32-bit integer the factory takes. -/
def randomImm32 (bits : Nat) : Draw (BitVec 32) := do
  return (← randomImm bits).setWidth 32

/-- A random byte, sign-extended to that integer. -/
def randomImmShort : Draw (BitVec 32) := do
  return ((← randomImm 8).setWidth 8).signExtend 32

/-- The kind of the full immediate of a form in an operand list. -/
def immFull : Width → OpCodeOperandKind
  | .W8 => .imm8
  | .W16 => .imm16
  | .W32 => .imm32
  | .W64 => .imm32sex64

/-- The kind of the one-byte immediate of a form. -/
def immShort : Width → OpCodeOperandKind
  | .W8 => .imm8
  | w => .imm8sex w

end SevenFuzzer
