import Mathlib.Data.Fintype.Pi
import Mathlib.Data.BitVec

/-! # The data contract between the execution lanes

Every lane maps its own registers and memory onto the record types of this file,
so the comparator and the report writer never see a lane's internals. Arrays of
a fixed length are functions from `Fin`, machine words are bit vectors of the
source's own widths, and the default of a field is the one of the source.
-/

namespace SevenFuzzer

/-! The files of eight and of sixteen registers have a first register, and so has a pool of
one thread. Their literals refer to these instances, whatever else a module imports. -/

instance (priority := 2000) neZero_threads : NeZero 1 := ⟨by decide⟩
instance (priority := 2000) neZero_stack : NeZero 8 := ⟨by decide⟩
instance (priority := 2000) neZero_registers : NeZero 16 := ⟨by decide⟩

/-- The code page: one page, executable in every lane. -/
def kCodeBase : BitVec 64 := 0x0000100000000000#64
/-- The scratch page; the first `kDataWindow` bytes of it are compared. -/
def kDataBase : BitVec 64 := 0x0000100000001000#64
/-- The stack page. -/
def kStackBase : BitVec 64 := 0x0000100000002000#64
/-- The initial stack pointer, with headroom for pushes below it. -/
def kStackTop : BitVec 64 := kStackBase + 0x0F00#64
/-- Code, data and stack are each mapped in whole pages of this size. -/
def kPageSize : Nat := 0x1000
/-- Bytes of scratch data compared after the step. -/
def kDataWindow : Nat := 0x100

/-- The x87 register file and the three words that describe it. The registers
are held relative to the stack top, the tag word is the full one, two bits for
each physical register. -/
structure X87State where
  signif : Fin 8 → BitVec 64 := fun _ => 0
  signexp : Fin 8 → BitVec 16 := fun _ => 0
  controlWord : BitVec 16 := 0x037F#16
  statusWord : BitVec 16 := 0#16
  tagWord : BitVec 16 := 0xFFFF#16
  deriving DecidableEq

/-- The tag recreated from the contents of a register that is in use. -/
def x87ClassifyTag (signexp : BitVec 16) (signif : BitVec 64) : BitVec 8 :=
  let exp := signexp &&& 0x7FFF#16
  if exp = 0x7FFF#16 then 2#8
  else if exp = 0#16 then if signif = 0#64 then 1#8 else 2#8
  else if signif >>> 63 ≠ 0#64 then 0#8 else 2#8

/-- The stack top, from bits 11 to 13 of the status word. -/
def x87TopOf (x : X87State) : BitVec 8 := ((x.statusWord >>> 11) &&& 0x7#16).setWidth 8

/-- The tag of `ST(i)`, found through the stack top. -/
def x87TagOfSt (x : X87State) (stIndex : Fin 8) : BitVec 8 :=
  let phys := ((x87TopOf x).toNat + stIndex.val) % 8
  ((x.tagWord >>> (2 * phys)) &&& 0x3#16).setWidth 8

/-- General registers in the x86 numbering: 0 is RAX, 1 RCX, 2 RDX, 3 RBX, 4 RSP,
5 RBP, 6 RSI, 7 RDI and 8 to 15 are R8 to R15. -/
structure RegState where
  gpr : Fin 16 → BitVec 64 := fun _ => 0
  rip : BitVec 64 := 0#64
  rflags : BitVec 64 := 0x202#64
  xmmLo : Fin 16 → BitVec 64 := fun _ => 0
  xmmHi : Fin 16 → BitVec 64 := fun _ => 0
  x87 : X87State := {}
  dataAfter : Fin kDataWindow → BitVec 8 := fun _ => 0
  deriving DecidableEq

/-- CF, PF, AF, ZF, SF, DF and OF. -/
def kCompareFlagsMask : BitVec 64 :=
  0x0001#64 ||| 0x0004#64 ||| 0x0010#64 ||| 0x0040#64 ||| 0x0080#64 ||| 0x0400#64 ||| 0x0800#64

/-- Every bit of the status word is compared. -/
def kX87StatusMask : BitVec 16 := 0xFFFF#16

/-- One generated instruction: its text, its bytes, the state it starts in, and what of the outcome
is compared. -/
structure TestCase where
  text : String := ""
  bytes : List (BitVec 8) := []
  initial : RegState := {}
  touchesMemory : Bool := false
  /-- The flags compared; the generator leaves out those the instruction leaves
  undefined. -/
  flagsMask : BitVec 64 := kCompareFlagsMask
  /-- The bytes every lane writes to the scratch window before executing. -/
  dataSeed : Fin kDataWindow → BitVec 8 := fun _ => 0
  /-- Bit `i` is set when general register `i` is compared. -/
  gprCompareMask : BitVec 32 := 0xFFFF#32

/-- The fault vocabulary every lane maps its own exceptions onto. -/
inductive Stop where
  | ok | ud | gp | pf | de | bp | halted | other
  deriving DecidableEq, Repr

/-- The word a stop is printed as. -/
def stopName : Stop → String
  | .ok => "ok"
  | .ud => "ud"
  | .gp => "gp"
  | .pf => "pf"
  | .de => "de"
  | .bp => "bp"
  | .halted => "halted"
  | .other => "other"

/-- What a lane hands back for one test case: whether it ran at all, how it stopped, and the state
it left. -/
structure LaneOutcome where
  /-- False is a failure of the harness, not a result of the processor. -/
  setupOk : Bool := true
  setupError : String := ""
  stop : Stop := .ok
  detail : String := ""
  after : RegState := {}
  capturesX87 : Bool := false
  deriving DecidableEq

/-- Byte `i` of a word, lowest first. -/
def byteOf (value : BitVec 64) (i : Nat) : BitVec 8 := (value >>> (8 * i)).setWidth 8

/-- What `%0widthX` prints. -/
def hexPad (width value : Nat) : String :=
  let digits := (Nat.toDigits 16 value).map Char.toUpper
  String.ofList (List.replicate (width - digits.length) '0' ++ digits)

end SevenFuzzer
