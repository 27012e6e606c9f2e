import SevenFuzzer.Gen.ScanMask
import SevenFuzzer.Library.Interruptible

/-! # One step of a string instruction

A repeated string instruction is a loop. Two of the lanes leave it after every iteration
and the third runs it to its end, so that one step of them is the same only if there is
at most one iteration. The generator sees to that (`SevenFuzzer.string_step_whole`).
-/

namespace SevenFuzzer

open Draw InstructionFactory

/-- The part of the processor a string instruction works on. -/
structure StringMachine where
  gpr : Fin 16 → BitVec 64
  rip : BitVec 64
  rflags : BitVec 64
  memory : BitVec 64 → BitVec 8
  /-- what has been read and written so far -/
  accessed : List Access := []

/-- A value written over some bytes of memory, lowest first. -/
def writeLittle (memory : BitVec 64 → BitVec 8) (address : BitVec 64) (size : Nat)
    (value : BitVec 64) : BitVec 64 → BitVec 8 :=
  fun byte =>
    if (byte - address).toNat < size then byteOf value (byte - address).toNat else memory byte

/-- A flag set or cleared. -/
def setFlag (flag : BitVec 64) (value : Bool) (flags : BitVec 64) : BitVec 64 :=
  if value then flags ||| flag else flags &&& ~~~flag

/-- The flags of a subtraction. -/
def compareFlags {bits : Nat} (left right : BitVec bits) (flags : BitVec 64) : BitVec 64 :=
  let difference := left - right
  let ones := (List.range 8).countP fun i => difference.getLsbD i
  let flags := setFlag CF (left < right) flags
  let flags := setFlag PF (ones % 2 = 0) flags
  let flags := setFlag AF (left.toNat % 16 < right.toNat % 16) flags
  let flags := setFlag ZF (left = right) flags
  let flags := setFlag SF difference.msb flags
  setFlag OF (left.msb ≠ right.msb ∧ difference.msb ≠ left.msb) flags

namespace StringMachine

/-- Notes the element a pointer addresses. -/
def access (s : StringMachine) (w : Width) (pointer : Fin 16) : StringMachine :=
  { s with accessed := s.accessed ++ [⟨s.gpr pointer, bytesOf w⟩] }

/-- The element a pointer addresses. -/
def load (s : StringMachine) (w : Width) (pointer : Fin 16) : BitVec (bitsOf w) :=
  BitVec.ofNat (bitsOf w) (readLittle s.memory (s.gpr pointer) (bytesOf w))

/-- The element a pointer addresses, overwritten. -/
def store (s : StringMachine) (w : Width) (pointer : Fin 16) (value : BitVec (bitsOf w)) :
    StringMachine :=
  { s with memory := writeLittle s.memory (s.gpr pointer) (bytesOf w) (value.setWidth 64) }

/-- The pointer moves up, or down when DF is set. -/
def advance (s : StringMachine) (w : Width) (pointer : Fin 16) : StringMachine :=
  let size := BitVec.ofNat 64 (bytesOf w)
  { s with
    gpr := Function.update s.gpr pointer
      (if s.rflags.getLsbD 10 then s.gpr pointer - size else s.gpr pointer + size) }

/-- The flags of a comparison of two elements. -/
def compare (s : StringMachine) {w : Width} (left right : BitVec (bitsOf w)) : StringMachine :=
  { s with rflags := compareFlags left right s.rflags }

/-- The accumulator at a width. -/
def accumulator (s : StringMachine) (w : Width) : BitVec (bitsOf w) := (s.gpr 0).setWidth (bitsOf w)

/-- A write of EAX clears the upper half of RAX; one of AL or AX leaves the rest. -/
def setAccumulator (s : StringMachine) {w : Width} (value : BitVec (bitsOf w)) : StringMachine :=
  let rest := match w with
    | .W8 => s.gpr 0 &&& ~~~0xFF#64
    | .W16 => s.gpr 0 &&& ~~~0xFFFF#64
    | .W32 | .W64 => 0#64
  { s with gpr := Function.update s.gpr 0 (rest ||| value.setWidth 64) }

end StringMachine

/-- A string instruction of so many bytes. -/
structure StringInstruction where
  op : StringOp
  w : Width
  rep : RepPrefixKind
  length : Nat

namespace StringInstruction

/-- The instruction on one element: RSI points to the source and RDI to the destination. -/
def element (instr : StringInstruction) (s : StringMachine) : StringMachine :=
  let w := instr.w
  match instr.op with
  | .MOVS => ((((s.access w 6).access w 7).store w 7 (s.load w 6)).advance w 6).advance w 7
  | .CMPS =>
      ((((s.access w 6).access w 7).compare (s.load w 6) (s.load w 7)).advance w 6).advance w 7
  | .SCAS => ((s.access w 7).compare (s.accumulator w) (s.load w 7)).advance w 7
  | .STOS => ((s.access w 7).store w 7 (s.accumulator w)).advance w 7
  | .LODS => ((s.access w 6).setAccumulator (s.load w 6)).advance w 6

/-- One element of the repeated instruction, counted in RCX. -/
def countedElement (instr : StringInstruction) (s : StringMachine) : StringMachine :=
  let s := instr.element s
  { s with gpr := Function.update s.gpr 1 (s.gpr 1 - 1#64) }

/-- Compares and scans go on while ZF is set or while it is clear; the others always do. -/
def again (instr : StringInstruction) (s : StringMachine) : Bool :=
  match instr.op, instr.rep with
  | .CMPS, .REPE | .SCAS, .REPE => s.rflags.getLsbD 6
  | .CMPS, .REPNE | .SCAS, .REPNE => !s.rflags.getLsbD 6
  | _, _ => true

/-- On to the next instruction. -/
def leave (instr : StringInstruction) (s : StringMachine) : StringMachine :=
  { s with rip := s.rip + BitVec.ofNat 64 instr.length }

/-- An element leaves the count alone. -/
theorem element_rcx (instr : StringInstruction) (s : StringMachine) :
    (instr.element s).gpr 1 = s.gpr 1 := by
  unfold element
  split <;> rfl

/-- The loop of the repeated instruction. -/
def loop (instr : StringInstruction) : Interruptible StringMachine where
  count s := (s.gpr 1).toNat
  round := instr.countedElement
  again := instr.again
  leave := instr.leave
  counts s left := by
    have counted : (instr.countedElement s).gpr 1 = s.gpr 1 - 1#64 := by
      simp only [countedElement, Function.update_self, element_rcx]
    rw [counted, BitVec.toNat_sub]
    simp only [BitVec.toNat_ofNat]
    omega

/-- One step that is left after one iteration. -/
def iteration (instr : StringInstruction) (s : StringMachine) : StringMachine :=
  if instr.rep = .NONE then instr.leave (instr.element s) else instr.loop.step s

/-- One step that is left at the end of the loop. -/
def whole (instr : StringInstruction) (s : StringMachine) : StringMachine :=
  if instr.rep = .NONE then instr.leave (instr.element s) else instr.loop.run s

/-- It is one iteration if no more is counted. -/
theorem whole_eq_iteration {instr : StringInstruction} {s : StringMachine}
    (once : instr.rep ≠ .NONE → (s.gpr 1).toNat ≤ 1) : instr.whole s = instr.iteration s := by
  unfold whole iteration
  split
  · rfl
  · rename_i repeated
    exact instr.loop.run_eq_step (once repeated)

/-- With two elements to do, one iteration is not left. -/
example :
    let stos : StringInstruction := ⟨.STOS, .W8, .REPE, 2⟩
    let start : StringMachine :=
      { gpr := fun _ => 2#64, rip := 0#64, rflags := 0#64, memory := fun _ => 0#8 }
    (stos.iteration start).rip = 0#64 ∧ (stos.whole start).rip = 2#64 := by decide

/-- An element accesses nothing but the two pointed-to elements. -/
theorem element_accessed {instr : StringInstruction} {s : StringMachine} {access : Access}
    (accessed : access ∈ (instr.element s).accessed) :
    access ∈ s.accessed ∨ access = ⟨s.gpr 6, bytesOf instr.w⟩ ∨
      access = ⟨s.gpr 7, bytesOf instr.w⟩ := by
  have elements : (instr.element s).accessed = s.accessed ++ match instr.op with
      | .MOVS | .CMPS => [⟨s.gpr 6, bytesOf instr.w⟩, ⟨s.gpr 7, bytesOf instr.w⟩]
      | .SCAS | .STOS => [⟨s.gpr 7, bytesOf instr.w⟩]
      | .LODS => [⟨s.gpr 6, bytesOf instr.w⟩] := by
    unfold element
    cases instr.op with
    | MOVS | CMPS => exact List.append_assoc ..
    | SCAS | STOS | LODS => rfl
  rw [elements, List.mem_append] at accessed
  refine accessed.imp_right fun new => ?_
  cases op : instr.op <;> simp only [op, List.mem_cons, List.not_mem_nil, or_false] at new
  · exact new
  · exact new
  · exact .inr new
  · exact .inr new
  · exact .inl new

/-- A step that is left after one iteration accesses one element at each pointer. -/
theorem iteration_accessed {instr : StringInstruction} {s : StringMachine} {access : Access}
    (accessed : access ∈ (instr.iteration s).accessed) :
    access ∈ s.accessed ∨ access = ⟨s.gpr 6, bytesOf instr.w⟩ ∨
      access = ⟨s.gpr 7, bytesOf instr.w⟩ := by
  unfold iteration Interruptible.step at accessed
  split at accessed
  · exact element_accessed accessed
  · split at accessed
    · exact .inl accessed
    · split at accessed
      · exact element_accessed accessed
      · exact element_accessed accessed

end StringInstruction

/-- The width of the elements of a string instruction. -/
def Code.stringWidth (code : Code) : Option Width :=
  code.operands.findSome? fun
    | .segRsi w | .esRdi w => some w
    | _ => none

/-- The string instruction a test case holds, of the length of its bytes. -/
def Generated.string? (g : Generated) : Option StringInstruction :=
  match g.instruction.code.mnemonic, g.instruction.code.stringWidth with
  | .string op, some w => some ⟨op, w, g.instruction.rep, g.testCase.bytes.length⟩
  | _, _ => none

/-- The machine a test case starts in, with any flags and any memory. -/
def Generated.stringMachine (g : Generated) (rflags : BitVec 64) (memory : BitVec 64 → BitVec 8) :
    StringMachine :=
  { gpr := g.testCase.initial.gpr, rip := kCodeBase, rflags := rflags, memory := memory }

/-- One step is the same whether it is left after an iteration or at the end of the loop, and
reads and writes nothing outside the window. -/
structure StepsWhole (instr : StringInstruction) (start : StringMachine) : Prop where
  same : instr.iteration start = instr.whole start
  inside : ∀ access ∈ (instr.whole start).accessed, ∀ i < access.size,
    InWindow (access.address + BitVec.ofNat 64 i)

/-- **One step is the whole instruction** when the count is at most one, and its accesses stay at
the pins. -/
theorem stepsWhole_of_pinned {instr : StringInstruction} {start : StringMachine}
    (fresh : start.accessed = []) (rsi : start.gpr 6 = kMidWindow) (rdi : start.gpr 7 = kMidWindow)
    (once : instr.rep ≠ .NONE → (start.gpr 1).toNat ≤ 1) : StepsWhole instr start := by
  have same := StringInstruction.whole_eq_iteration once
  refine ⟨same.symm, fun access accessed i below => ?_⟩
  rw [same] at accessed
  have narrow : bytesOf instr.w ≤ 8 := by
    cases instr.w <;> decide
  have middle : access = ⟨kMidWindow, bytesOf instr.w⟩ := by
    rcases StringInstruction.iteration_accessed accessed with before | source | dest
    · rw [fresh] at before
      cases before
    · rw [source, rsi]
    · rw [dest, rdi]
  obtain rfl := middle
  have small : i < 8 := Nat.lt_of_lt_of_le below narrow
  have position :
      kMidWindow + BitVec.ofNat 64 i = kDataBase + BitVec.ofInt 64 (0x80 + i : Nat) := by
    rw [BitVec.ofInt_natCast, BitVec.ofNat_add, ← BitVec.add_assoc]
    rfl
  change InWindow (kMidWindow + BitVec.ofNat 64 i)
  rw [position, inWindow_iff (by omega)]
  unfold kDataWindow
  omega

/-- A string instruction of some width, with its pointers in the middle of the window and
at most one iteration to do. -/
structure StringPinned (c : Ctx) (instr : Instruction) : Prop where
  width : ∃ w, instr.code.stringWidth = some w
  rsi : c.forceGpr 6 = some kMidWindow
  rdi : c.forceGpr 7 = some kMidWindow
  count : instr.rep ≠ .NONE → ∃ n ≤ 1, c.forceGpr 1 = some (BitVec.ofNat 64 n)

/-- A string instruction has its pointers pinned in the window. -/
def StringsPinned (c : Ctx) (instr : Instruction) : Prop :=
  instr.code.mnemonic.isString = true → StringPinned c instr

/-- The family pins both pointers and forces the count of a repeated instruction. -/
theorem genStringOps_pinned : always genStringOps
    (fun result c => ∀ instr, result = some instr → StringsPinned c instr) {} := by
  have ended {c : Ctx} {instr : Instruction} (pinned : StringPinned c instr) :
      ∀ instr', some instr = some instr' → StringsPinned c instr' :=
    fun _ same _ => Option.some.inj same ▸ pinned
  simp only [genStringOps, touchMemory, force, always_seq, always_lift, always_ite, always_modify,
    always_pick, always_anyWidth, always_between, Nat.zero_add, Nat.sub_zero]
  intro family _ w rep _
  split
  · intro count small
    have counted : rep ≠ .NONE → ∃ n ≤ 1, some (BitVec.ofNat 64 count) = some (BitVec.ofNat 64 n) :=
      fun _ => ⟨count, small, rfl⟩
    split
    all_goals exact ended ⟨⟨w, rfl⟩, rfl, rfl, counted⟩
  · rename_i plain
    have counted (c : Ctx) : rep ≠ .NONE → ∃ n ≤ 1, c.forceGpr 1 = some (BitVec.ofNat 64 n) :=
      fun repeated => absurd repeated plain
    split
    all_goals exact ended ⟨⟨w, rfl⟩, rfl, rfl, counted _⟩

/-- Whatever is drawn, a string instruction of a family is pinned. -/
theorem family_stringsPinned {caps : HostCaps} (f : Family) : always (f.gen caps)
    (fun result c => ∀ instr, result = some instr → StringsPinned c instr) {} := by
  have other {c : Ctx} {instr : Instruction} (other : instr.code.mnemonic.isString = false) :
      StringsPinned c instr := fun string => absurd (other.symm.trans string) (by decide)
  refine families_of_plain (fun c instr plain => other ?_) (fun c instr op counts => other ?_)
    genStringOps_pinned ?_ f
  · simp only [Mnemonic.isPlain, Bool.and_eq_true, Bool.not_eq_true'] at plain
    exact plain.1.2
  · rw [counts]
    rfl
  · refine always_of_kept (Nat.zero_le 8) (genX87Control_kept needs_forcing.toFamilySteps)
      fun c instr built => other ?_
    obtain ⟨op, mnemonic⟩ := built
    rw [mnemonic]
    rfl

/-- A string test case steps whole. -/
def StringStepsWhole (g : Generated) : Prop :=
  ∀ op, g.instruction.code.mnemonic = .string op → ∃ w,
    g.string? = some ⟨op, w, g.instruction.rep, g.testCase.bytes.length⟩ ∧
      ∀ rflags memory, StepsWhole ⟨op, w, g.instruction.rep, g.testCase.bytes.length⟩
        (g.stringMachine rflags memory)

/-- What the family pins is what the test case starts with. -/
theorem stringStepsWhole_of_pinned {g : Generated} {bytes : List (BitVec 8)}
    (pinned : StringsPinned g.ctx g.instruction) (finished : Finished g.ctx bytes g.testCase) :
    StringStepsWhole g := by
  intro op mnemonic
  have string : StringPinned g.ctx g.instruction := pinned (by rw [mnemonic]; rfl)
  obtain ⟨w, width⟩ := string.width
  obtain ⟨drawn, gpr⟩ := finished.gpr
  have forced {i : Fin 16} {value : BitVec 64} (forced : g.ctx.forceGpr i = some value) :
      g.testCase.initial.gpr i = value := gpr ▸ pinGpr_forced forced drawn
  refine ⟨w, ?_, fun rflags memory => ?_⟩
  · simp only [Generated.string?, mnemonic, width]
  · refine stepsWhole_of_pinned rfl (forced string.rsi) (forced string.rdi) fun repeated => ?_
    obtain ⟨n, small, count⟩ := string.count repeated
    change (g.testCase.initial.gpr 1).toNat ≤ 1
    rw [forced count, BitVec.toNat_ofNat]
    omega

/-- **One step is the whole instruction.** Whatever is drawn, and with any flags and any memory,
a string test case leaves the same machine after one iteration as after its whole loop, and
accesses the window only. -/
theorem string_step_whole (encode : Instruction → Option (List (BitVec 8))) (caps : HostCaps)
    (discarded : Nat) :
    (next encode caps discarded).Always fun ended => StringStepsWhole ended.1 := by
  refine (next_from family_stringsPinned finishCase_finished discarded).mono ?_
  rintro ended (fell | ⟨bytes, -, -, pinned, finished⟩)
  · rw [fell]
    exact fun op string => nomatch string
  · exact stringStepsWhole_of_pinned pinned finished

end SevenFuzzer
