import SevenFuzzer.Gen.Integer
import SevenFuzzer.Gen.Simd
import SevenFuzzer.Gen.X87

/-! # The instruction generator

`next` draws a family, has it build an instruction, encodes it, and prepares the
initial state for it: random registers with the pins and the values the family
forces, the floating-point state, the flags and the scratch bytes with what is
planted in them. An attempt that yields no bytes is discarded; after two hundred of
them a NOP is returned. Besides the test case the model keeps the instruction and
the context it came from.
-/

namespace SevenFuzzer

open Draw

/-- The generator functions, one for each entry of the family table. -/
inductive Family where
  | gen_alu | gen_test | gen_unary | gen_shift | gen_mov | gen_movx | gen_movsxd | gen_pushpop
  | gen_lea | gen_jcc | gen_jmp | gen_call | gen_ret | gen_setcc | gen_cmovcc | gen_bt | gen_rmsrc
  | gen_bswap | gen_loop | gen_xchg | gen_xadd_cmpxchg | gen_shld_shrd | gen_movbe_crc32_nop
  | gen_moffs | gen_string_ops | gen_bmi | gen_muldiv | gen_imul_multi | gen_simd_shuffle
  | gen_simd_logic | gen_simd_pack | gen_simd_shift | gen_simd_fp | gen_vex_simd | gen_sse_arith
  | gen_packed_int | gen_sse_move | gen_privileged | gen_privileged_movcrdr | gen_x87_load
  | gen_x87_store | gen_x87_arith | gen_x87_unary | gen_x87_compare | gen_x87_move
  | gen_x87_control | gen_x87_transcendental
  deriving DecidableEq

/-- The families `next` picks from, each as often as the table lists it. -/
def kFamilies : List Family :=
  [.gen_alu, .gen_test, .gen_unary, .gen_shift, .gen_mov, .gen_movx, .gen_movsxd,
    .gen_pushpop, .gen_lea, .gen_jcc, .gen_jmp, .gen_call, .gen_ret, .gen_setcc,
    .gen_cmovcc, .gen_bt, .gen_rmsrc, .gen_bswap,
    .gen_loop, .gen_xchg, .gen_xadd_cmpxchg, .gen_shld_shrd, .gen_movbe_crc32_nop, .gen_moffs,
    .gen_string_ops,
    .gen_bmi,
    .gen_muldiv, .gen_imul_multi,
    .gen_simd_shuffle, .gen_simd_logic, .gen_simd_pack, .gen_simd_shift, .gen_simd_fp,
    .gen_vex_simd,
    .gen_sse_arith, .gen_packed_int, .gen_sse_move,
    .gen_privileged, .gen_privileged_movcrdr,
    .gen_x87_load, .gen_x87_store, .gen_x87_arith, .gen_x87_unary, .gen_x87_compare, .gen_x87_move,
    .gen_x87_control,
    .gen_x87_transcendental]

/-- There is a family to pick. -/
theorem kFamilies_nonempty : 0 < kFamilies.length := by decide

/-- The function of a family; one of them asks the host what it can execute. -/
def Family.gen (caps : HostCaps) : Family → Gen (Option Instruction)
  | .gen_alu => genAlu
  | .gen_test => genTest
  | .gen_unary => genUnary
  | .gen_shift => genShift
  | .gen_mov => genMov
  | .gen_movx => genMovx
  | .gen_movsxd => genMovsxd
  | .gen_pushpop => genPushpop
  | .gen_lea => genLea
  | .gen_jcc => genJcc
  | .gen_jmp => genJmp
  | .gen_call => genCall
  | .gen_ret => genRet
  | .gen_setcc => genSetcc
  | .gen_cmovcc => genCmovcc
  | .gen_bt => genBt
  | .gen_rmsrc => genRmsrc
  | .gen_bswap => genBswap
  | .gen_loop => genLoop
  | .gen_xchg => genXchg
  | .gen_xadd_cmpxchg => genXaddCmpxchg
  | .gen_shld_shrd => genShldShrd
  | .gen_movbe_crc32_nop => genMovbeCrc32Nop
  | .gen_moffs => genMoffs
  | .gen_string_ops => genStringOps
  | .gen_bmi => genBmi
  | .gen_muldiv => genMuldiv
  | .gen_imul_multi => genImulMulti
  | .gen_simd_shuffle => genSimdShuffle
  | .gen_simd_logic => genSimdLogic
  | .gen_simd_pack => genSimdPack
  | .gen_simd_shift => genSimdShift
  | .gen_simd_fp => genSimdFp
  | .gen_vex_simd => genVexSimd caps
  | .gen_sse_arith => genSseArith
  | .gen_packed_int => genPackedInt
  | .gen_sse_move => genSseMove
  | .gen_privileged => genPrivileged
  | .gen_privileged_movcrdr => genPrivilegedMovcrdr
  | .gen_x87_load => genX87Load
  | .gen_x87_store => genX87Store
  | .gen_x87_arith => genX87Arith
  | .gen_x87_unary => genX87Unary
  | .gen_x87_compare => genX87Compare
  | .gen_x87_move => genX87Move
  | .gen_x87_control => genX87Control
  | .gen_x87_transcendental => genX87Transcendental

/-- The instruction's bytes in hexadecimal, which serve as its text. -/
def hexDump (bytes : List (BitVec 8)) : String :=
  String.intercalate " " (bytes.map fun byte => hexPad 2 byte.toNat)

/-- The pins, and over them what the family forces. -/
def pinGpr (c : Ctx) (drawn : Fin 16 → BitVec 64) : Fin 16 → BitVec 64 :=
  let pinned := Function.update drawn 4 kStackTop
  let pinned := if c.touchesMemory then Function.update pinned 7 kDataBase else pinned
  fun i => (c.forceGpr i).getD (pinned i)

/-- The condition codes and exception flags that may be left over. -/
def kStaleBits : List (BitVec 16) :=
  [0x0001#16, 0x0002#16, 0x0004#16, 0x0008#16, 0x0010#16, 0x0020#16, 0x0040#16, 0x0100#16,
    0x0200#16, 0x0400#16, 0x4000#16]

/-- In a quarter of the draws, bits an earlier instruction might have left in the status word. -/
def addStaleBits (sw : BitVec 16) : Draw (BitVec 16) := do
  if ← oneIn 4 then
    kStaleBits.foldlM (fun sw bit => do return if ← oneIn 6 then sw ||| bit else sw) sw
  else
    return sw

/-- How many slots are full: at least what the instruction needs, except in the draws that provoke a
stack fault. -/
def randomDepth (needs : Nat) : Draw Nat := do
  if (← between 0 99) < 10 then
    between 0 8
  else
    return needs + (← upTo (8 - needs))

/-- One value on the stack: the registers are relative to the top, the tag is
that of the physical register. -/
def plantSlot (top : Nat) (x : X87State) (i : Nat) : Draw X87State := do
  let v ← randomX87Value
  let phys := (top + i) &&& 0x7
  let tw := x.tagWord &&& ~~~(0x3#16 <<< (2 * phys))
  let tw := tw ||| ((x87ClassifyTag v.signexp v.signif).setWidth 16 <<< (2 * phys))
  return { x with
    signexp := Function.update x.signexp (Fin.ofNat 8 i) v.signexp
    signif := Function.update x.signif (Fin.ofNat 8 i) v.signif
    tagWord := tw }

/-- A state of the x87 unit: rounding and top drawn, exceptions masked, and the slots planted from
the top. -/
def randomX87State (needs : Nat) : Draw X87State := do
  let rounding ← between 0 3
  let top ← between 0 7
  let depth ← randomDepth needs
  let sw ← addStaleBits (BitVec.ofNat 16 top <<< 11)
  let x : X87State :=
    { controlWord := 0x037F#16 ||| (BitVec.ofNat 16 rounding <<< 10), statusWord := sw }
  (List.range depth).foldlM (plantSlot top) x

/-- The flags that are drawn; the interrupt flag is always set. -/
def kRandFlags : List (BitVec 64) :=
  [0x1#64, 0x4#64, 0x10#64, 0x40#64, 0x80#64, 0x400#64, 0x800#64]

/-- The initial flags, each status flag and the direction flag drawn alone. -/
def randomFlags : Draw (BitVec 64) := do
  let fl ← kRandFlags.foldlM (fun fl bit => do return if ← oneIn 2 then fl ||| bit else fl) 0x2#64
  return fl ||| 0x200#64

/-- Bytes over the seed, if they fit. -/
def plant (seed : Fin kDataWindow → BitVec 8) (offset size : Nat) (bytes : Nat → BitVec 8) :
    Fin kDataWindow → BitVec 8 :=
  if offset + size ≤ kDataWindow then
    fun i => if offset ≤ i ∧ i < offset + size then bytes (i - offset) else seed i
  else seed

/-- The data window after the planted operands have overwritten the drawn bytes. -/
def plantAll (c : Ctx) (seed : Fin kDataWindow → BitVec 8) : Fin kDataWindow → BitVec 8 :=
  let seed := c.forceDataQword.elim seed fun q => plant seed q.offset 8 (byteOf q.value)
  c.forceDataBytes.elim seed fun b => plant seed b.offset b.size fun i => b.value (Fin.ofNat 10 i)

/-- A byte of the window, zero outside it. -/
def seedAt (seed : Fin kDataWindow → BitVec 8) (offset : Nat) : BitVec 8 :=
  if inside : offset < kDataWindow then seed ⟨offset, inside⟩ else 0

/-- The source of a BSF or BSR as the processor will read it, if it can be told. -/
def bsfBsrSource (c : Ctx) (gpr : Fin 16 → BitVec 64) (seed : Fin kDataWindow → BitVec 8) :
    Option (BitVec 64) :=
  let source := match c.bsfBsrSrcReg, c.bsfBsrSrcMemDisp with
    | some reg, _ => some (gpr reg)
    | none, some disp =>
        let off := offsetOf disp
        if off + c.bsfBsrWidthBytes ≤ kDataWindow then
          some ((List.range c.bsfBsrWidthBytes).foldl (fun value b =>
            value ||| ((seedAt seed (off + b)).setWidth 64 <<< (8 * b))) 0#64)
        else none
    | none, none => none
  source.map fun value =>
    if 0 < c.bsfBsrWidthBytes ∧ c.bsfBsrWidthBytes < 8 then
      value &&& ((1#64 <<< (8 * c.bsfBsrWidthBytes)) - 1#64)
    else value

/-- The compared registers: all but the destination of a bit scan whose source is zero. -/
def compareMask (c : Ctx) (gpr : Fin 16 → BitVec 64) (seed : Fin kDataWindow → BitVec 8) :
    BitVec 32 :=
  match c.bsfBsrDest with
  | some dest =>
      if bsfBsrSource c gpr seed = some 0#64 then 0xFFFF#32 &&& ~~~(1#32 <<< dest.val)
      else 0xFFFF#32
  | none => 0xFFFF#32

/-- The floating-point state, for a family that uses it. -/
def initialX87 (c : Ctx) : Draw X87State :=
  if c.usesX87 then randomX87State c.x87Needs else return {}

/-- The test case for an instruction, its context and its bytes. -/
def finishCase (c : Ctx) (bytes : List (BitVec 8)) : Draw TestCase := do
  let drawnGpr ← array randomInterestingU64 16
  let gpr := pinGpr c drawnGpr
  let drawnXmm ← array (do
    let lo ← randomInterestingU64
    let hi ← randomInterestingU64
    return (lo, hi)) 16
  let x87 ← initialX87 c
  let fl ← randomFlags
  let drawnSeed ← array (BitVec.ofNat 8 <$> between 0 255) kDataWindow
  let seed := plantAll c drawnSeed
  return {
    text := hexDump bytes
    bytes := bytes
    initial :=
      { gpr := gpr
        rflags := fl
        xmmLo := fun i => (drawnXmm i).1
        xmmHi := fun i => (drawnXmm i).2
        x87 := x87 }
    touchesMemory := c.touchesMemory
    flagsMask := c.flagsMask
    dataSeed := seed
    gprCompareMask := compareMask c gpr seed }

/-- A test case with the instruction it holds, and the family's context. -/
structure Generated where
  testCase : TestCase
  instruction : Instruction
  ctx : Ctx

/-- `NOP`. -/
def NOPD : Code := ⟨.NOP, [], .plain⟩

/-- The test case of last resort, when no attempt gave an encodable instruction. -/
def fallback : Generated where
  testCase :=
    { bytes := [0x90#8]
      text := "90"
      initial := { gpr := Function.update (fun _ => 0) 4 kStackTop, rflags := 0x202#64 } }
  instruction := InstructionFactory.with0 NOPD
  ctx := {}

section

variable (encode : Instruction → Option (List (BitVec 8))) (caps : HostCaps)

/-- One attempt; `none` is a discarded one. -/
def attempt : Draw (Option Generated) := do
  let fn ← pick kFamilies
  let (built, c) ← (fn.gen caps).run {}
  match built with
  | none => return none
  | some instr =>
      match encode instr with
      | none | some [] => return none
      | some (byte :: bytes) =>
          let tc ← finishCase c (byte :: bytes)
          return some ⟨tc, instr, c⟩

/-- The attempts left, and how many have been discarded. -/
def nextLoop : Nat → Nat → Draw (Generated × Nat)
  | 0, discarded => return (fallback, discarded)
  | attempts + 1, discarded => do
      match ← attempt encode caps with
      | some generated => return (generated, discarded)
      | none => nextLoop attempts (discarded + 1)

/-- The next test case of a generator that has discarded so many attempts. -/
def next (discarded : Nat) : Draw (Generated × Nat) :=
  nextLoop encode caps 200 discarded

end

end SevenFuzzer
