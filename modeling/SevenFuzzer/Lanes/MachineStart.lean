import Mathlib.Data.List.GetD
import Mathlib.Tactic.FinCases
import SevenFuzzer.Lanes.Adapters
import SevenFuzzer.Lanes.InitialMemory

/-! # The machine a test case starts on

Each lane writes a test case into another representation of a machine. Read back into one
abstract machine, what the emulator lanes and the hardware lane start from is the machine
the test case asks for (`handed_of_scratch`, `hardwareStart_eq`), up to the tags, which a
thread context abridges.
-/

namespace SevenFuzzer

open Command Transition

/-- A machine before the step: the compared flags, the x87 registers relative to the
stack top, and the bytes of the three pages. -/
@[ext] structure MachineStart (Tags : Type) where
  gpr : Fin 16 → BitVec 64
  rip : BitVec 64
  flags : BitVec 64
  xmm : Fin 16 → BitVec 64 × BitVec 64
  controlWord : BitVec 16
  statusWord : BitVec 16
  registers : Fin 8 → BitVec 64 × BitVec 16
  tags : Tags
  pages : Fin (3 * kPageSize) → BitVec 8
  privilege : Nat

/-- The same machine with the abridged tags of a thread context. -/
def MachineStart.abridge (start : MachineStart (BitVec 16)) : MachineStart (BitVec 8) where
  gpr := start.gpr
  rip := start.rip
  flags := start.flags
  xmm := start.xmm
  controlWord := start.controlWord
  statusWord := start.statusWord
  registers := start.registers
  tags := abridgedTag start.tags
  pages := start.pages
  privilege := start.privilege

/-- The machine a test case asks for. -/
def machineFor (tc : TestCase) (privilege : Nat) : MachineStart (BitVec 16) where
  gpr := tc.initial.gpr
  rip := kCodeBase
  flags := tc.initial.rflags &&& kCompareFlagsMask
  xmm i := (tc.initial.xmmLo i, tc.initial.xmmHi i)
  controlWord := tc.initial.x87.controlWord
  statusWord := tc.initial.x87.statusWord
  registers i := (tc.initial.x87.signif i, tc.initial.x87.signexp i)
  tags := tc.initial.x87.tagWord
  pages i := initialMemory tc (pageByte i)
  privilege := privilege

/-- The level is in the low two bits of the selector of the code segment. -/
def privilegeOf (cs : BitVec 16) : Nat := (cs &&& 0x3#16).toNat

/-- The bytes of the three pages, in address order. -/
def contentsPages (contents : Contents) (i : Fin (3 * kPageSize)) : BitVec 8 :=
  (contents (pageByte i)).getD 0

section

variable {width : Nat} {Rest Memory : Type} (core : SevenCore width Rest Memory)
  (held : Memory → Contents)

/-- The machine a Seven lane has set up, in the terms all lanes share. -/
def sevenView (state : CpuState width Rest) (memory : Memory) : MachineStart (BitVec 16) where
  gpr := state.gpr
  rip := state.rip
  flags := state.rflags &&& kCompareFlagsMask
  xmm i := unpackXmm (state.vectors i)
  controlWord := (readX87 core state).controlWord
  statusWord := (readX87 core state).statusWord
  registers i := ((readX87 core state).signif i, (readX87 core state).signexp i)
  tags := (readX87 core state).tagWord
  pages := contentsPages (held memory)
  privilege := privilegeOf state.cs

/-- A lane of the emulator core hands a machine to its engine if the code could be written. -/
def handed (memory : Memory) (tc : TestCase) : Option (CpuState width Rest × Memory) :=
  let (written, memory) := writeTestCase core memory tc
  if written then some (startState core tc, memory) else none

/-- The machine `run_seven` starts its step from, if it gets that far. -/
def sevenStart (tc : TestCase) : Option (MachineStart (BitVec 16)) :=
  (handed core (mapScratchPages core core.freshMemory) tc).map fun machine =>
    sevenView core held machine.1 machine.2

/-- The machine `run_seven_jit` starts its step from, on the memory of the rounds before. -/
def sevenJitStart (memory : Memory) (tc : TestCase) : Option (MachineStart (BitVec 16)) :=
  (handed core (mapScratchPages core (unmapScratchPages core memory)) tc).map fun machine =>
    sevenView core held machine.1 machine.2

end

/-- A thread of a user process runs in ring 3. -/
def hardwareView (v : Victim) : MachineStart (BitVec 8) where
  gpr := (readGprFromContext v.context {}).gpr
  rip := v.context.rip
  flags := v.context.eFlags.setWidth 64 &&& kCompareFlagsMask
  xmm i := ((v.context.fltSave.xmmRegisters i).low, (v.context.fltSave.xmmRegisters i).high)
  controlWord := v.context.fltSave.controlWord
  statusWord := v.context.fltSave.statusWord
  registers i := ((readX87FromContext v.context {}).x87.signif i,
    (readX87FromContext v.context {}).x87.signexp i)
  tags := v.context.fltSave.tagWord
  pages i := v.memory (pageByte i)
  privilege := 3

/-- The victim as it is resumed for a test case. -/
def hardwareStart (spawn : SpawnReplies) (w : World) (tc : TestCase) :
    Option (MachineStart (BitVec 8)) :=
  (resumedVictim w (runOne { spawn := spawn } tc w).2).map hardwareView

/-- The same registers, but for the x87 ones. -/
structure SameRegisters (state state' : CpuState width Rest) : Prop where
  rip : state.rip = state'.rip
  rflags : state.rflags = state'.rflags
  cs : state.cs = state'.cs
  gpr : state.gpr = state'.gpr
  vectors : state.vectors = state'.vectors

/-- Setting an x87 word changes no other register. -/
structure WordLaws {Memory : Type} (core : SevenCore width Rest Memory) : Prop extends
    X87Laws core where
  setControl (state : CpuState width Rest) (word : BitVec 16) :
    SameRegisters (core.setX87ControlWord state word) state
  setStatus (state : CpuState width Rest) (word : BitVec 16) :
    SameRegisters (core.setX87StatusWord state word) state

/-- The code, the seed and the return address lie apart. -/
theorem regions_apart {x : BitVec 64} (inCode : (x - kCodeBase).toNat < kPageSize) :
    ¬ (x - kDataBase).toNat < kPageSize ∧ ¬ (x - kStackBase).toNat < kPageSize ∧
      ¬ (x - kStackTop).toNat < 8 := by
  have code : kCodeBase.toNat = 0x100000000000 := by decide
  have data : kDataBase.toNat = 0x100000001000 := by decide
  have stack : kStackBase.toNat = 0x100000002000 := by decide
  have top : kStackTop.toNat = 0x100000002F00 := by decide
  simp only [BitVec.toNat_sub, code, data, stack, top, kPageSize] at inCode ⊢
  omega

/-- The data window is apart from the stack and its top. -/
theorem seed_apart {x : BitVec 64} (inWindow : (x - kDataBase).toNat < kDataWindow) :
    (x - kDataBase).toNat < kPageSize ∧ ¬ (x - kStackBase).toNat < kPageSize ∧
      ¬ (x - kStackTop).toNat < 8 := by
  have data : kDataBase.toNat = 0x100000001000 := by decide
  have stack : kStackBase.toNat = 0x100000002000 := by decide
  have top : kStackTop.toNat = 0x100000002F00 := by decide
  simp only [BitVec.toNat_sub, data, stack, top, kPageSize, kDataWindow] at inWindow ⊢
  omega

/-- What an emulator lane writes in all. -/
def startContents (tc : TestCase) : Contents :=
  Mapped.store (fun x => (x - kCodeBase).toNat) tc.bytes (seededContents tc)

/-- Freshly mapped pages are zero. -/
theorem scratchContents_getD (x : BitVec 64) : (scratchContents Mapped.empty x).getD 0 = 0 := by
  simp only [scratchContents, Mapped.map, Mapped.empty]
  split_ifs <;> rfl

/-- The emulators' memory is the test case's initial memory. -/
theorem startContents_getD {tc : TestCase} (fits : tc.bytes.length ≤ kPageSize) (x : BitVec 64) :
    (startContents tc x).getD 0 = initialMemory tc x := by
  simp only [startContents, seededContents, Mapped.store, List.length_ofFn, List.length_map,
    List.length_range, initialMemory]
  by_cases inCode : (x - kCodeBase).toNat < tc.bytes.length
  · obtain ⟨notData, -, notTop⟩ := regions_apart (lt_of_lt_of_le inCode fits)
    have notSeed : ¬ (x - kDataBase).toNat < kDataWindow :=
      fun inWindow => notData (seed_apart inWindow).1
    rw [dif_pos inCode, dif_neg notSeed, if_neg notTop, if_pos (lt_of_lt_of_le inCode fits),
      List.getD_eq_getElem _ _ inCode]
    rfl
  · rw [dif_neg inCode]
    by_cases inWindow : (x - kDataBase).toNat < kDataWindow
    · rw [dif_pos inWindow, dif_pos inWindow]
      simp
    · rw [dif_neg inWindow, dif_neg inWindow]
      by_cases inTop : (x - kStackTop).toNat < 8
      · rw [dif_pos inTop, if_pos inTop]
        simp
      · rw [dif_neg inTop, if_neg inTop, scratchContents_getD,
          List.getD_eq_default _ _ (Nat.not_lt.mp inCode), ite_self]

/-- A byte that was written. -/
theorem writeBytes_inside {memory : BitVec 64 → BitVec 8} {address x : BitVec 64}
    {bytes : List (BitVec 8)} (inside : (x - address).toNat < bytes.length) :
    writeBytes memory address bytes x = bytes.get ⟨_, inside⟩ :=
  List.getD_eq_getElem _ _ inside

/-- A byte that was not. -/
theorem writeBytes_outside {memory : BitVec 64 → BitVec 8} {address x : BitVec 64}
    {bytes : List (BitVec 8)} (outside : ¬ (x - address).toNat < bytes.length) :
    writeBytes memory address bytes x = memory x :=
  List.getD_eq_default _ _ (Nat.not_lt.mp outside)

/-- Writing zeros clears a range. -/
theorem writeBytes_zero (memory : BitVec 64 → BitVec 8) (address x : BitVec 64) (count : Nat) :
    writeBytes memory address (List.replicate count 0#8) x =
      if (x - address).toNat < count then 0#8 else memory x := by
  split
  · rename_i inside
    rw [writeBytes_inside (by rwa [List.length_replicate])]
    simp
  · rename_i outside
    rw [writeBytes_outside (by rwa [List.length_replicate])]

/-- The victim's pages, zero before. -/
theorem preparedVictim_memory {v : Victim} {tc : TestCase} (fits : tc.bytes.length ≤ kPageSize)
    {x : BitVec 64} (zero : v.memory x = 0) :
    (preparedVictim v tc).memory x = initialMemory tc x := by
  have retaddr : (littleEndian 8 kCodeBase).length = 8 := by
    rw [littleEndian, List.length_map, List.length_range]
  have window : (List.ofFn tc.dataSeed).length = kDataWindow := List.length_ofFn
  rw [preparedVictim, initialMemory]
  dsimp only
  by_cases inWindow : (x - kDataBase).toNat < kDataWindow
  · rw [writeBytes_outside (by rw [retaddr]; exact (seed_apart inWindow).2.2),
      writeBytes_inside (by rwa [window]), dif_pos inWindow]
    simp
  rw [dif_neg inWindow]
  by_cases inTop : (x - kStackTop).toNat < 8
  · rw [writeBytes_inside (by rwa [retaddr]), if_pos inTop]
    simp [littleEndian, byteOf, BitVec.setWidth_ushiftRight_eq_extractLsb]
  rw [if_neg inTop, writeBytes_outside (by rwa [retaddr]), writeBytes_outside (by rwa [window]),
    writeBytes_zero, writeBytes_zero]
  by_cases inCode : (x - kCodeBase).toNat < tc.bytes.length
  · have inPage := lt_of_lt_of_le inCode fits
    obtain ⟨notData, notStack, -⟩ := regions_apart inPage
    rw [if_neg notStack, if_neg notData, writeBytes_inside inCode, if_pos inPage,
      List.getD_eq_getElem _ _ inCode]
    rfl
  · have none_ : (0#8 : BitVec 8) = 0 := rfl
    rw [writeBytes_outside inCode, zero, none_, ite_self, ite_self,
      List.getD_eq_default _ _ (Nat.not_lt.mp inCode), ite_self]

/-- The code page is mapped. -/
theorem covers_code (tc : TestCase) {count : Nat} (fits : count ≤ kPageSize) :
    (seededContents tc).Covers kCodeBase count := by
  intro x inside
  refine Mapped.isSome_store (Mapped.isSome_store ?_)
  rw [scratchContents, Mapped.isSome_map, Mapped.isSome_map, Mapped.isSome_map]
  exact .inr (.inr (.inl (lt_of_lt_of_le inside fits)))

variable {width : Nat} {Rest Memory : Type} {core : SevenCore width Rest Memory}
  {held : Memory → Contents} {memory : Memory}

/-- Without code, memory is what was seeded. -/
theorem startContents_of_nil {tc : TestCase} (none_ : tc.bytes = []) :
    startContents tc = seededContents tc := by
  funext x
  simp [startContents, none_, Mapped.store]

/-- Writing the test case succeeds and leaves its contents. -/
theorem MemoryLaws.held_writeTestCase (laws : MemoryLaws core held)
    (mapped : held memory = scratchContents Mapped.empty) {tc : TestCase}
    (fits : tc.bytes.length ≤ kPageSize) :
    (writeTestCase core memory tc).1 = true ∧
      held (writeTestCase core memory tc).2 = startContents tc := by
  have seeded := laws.held_seed mapped tc
  rw [writeTestCase_eq]
  split
  · rename_i none_
    exact ⟨rfl, by rw [seeded, startContents_of_nil none_]⟩
  · have written := laws.write (seed core memory tc) kCodeBase tc.bytes
      (by rw [seeded]; exact covers_code tc fits)
    rwa [seeded] at written

/-- What stays the same twice stays the same. -/
theorem SameRegisters.trans {a b c : CpuState width Rest} (first : SameRegisters a b)
    (second : SameRegisters b c) : SameRegisters a c where
  rip := first.rip.trans second.rip
  rflags := first.rflags.trans second.rflags
  cs := first.cs.trans second.cs
  gpr := first.gpr.trans second.gpr
  vectors := first.vectors.trans second.vectors

/-- Setting the x87 state leaves the other registers alone. -/
theorem sameRegisters_applyX87 (laws : WordLaws core) (state : CpuState width Rest) (x : X87State) :
    SameRegisters (applyX87 core state x) state := by
  have words := (laws.setStatus (core.setX87ControlWord state x.controlWord) x.statusWord).trans
    (laws.setControl state x.controlWord)
  exact ⟨words.rip, words.rflags, words.cs, words.gpr, words.vectors⟩

/-- The pages of memory that agrees with the test case's. -/
theorem contentsPages_of_getD {contents : Contents} {tc : TestCase}
    (same : ∀ x, (contents x).getD 0 = initialMemory tc x) :
    contentsPages contents = fun i : Fin (3 * kPageSize) => initialMemory tc (pageByte i) :=
  funext fun _ => same _

/-- The state Seven sets up is the test case's machine. -/
theorem sevenView_startState (laws : WordLaws core) (wide : 128 ≤ width) {tc : TestCase}
    (fits : tc.bytes.length ≤ kPageSize) (holds : held memory = startContents tc) :
    sevenView core held (startState core tc) memory = machineFor tc 3 := by
  have kept : SameRegisters (startState core tc) _ := sameRegisters_applyX87 laws _ _
  have x87 : readX87 core (startState core tc) = _ := readX87_applyX87 laws.toX87Laws _ _
  have pages : contentsPages (held memory) =
      fun i : Fin (3 * kPageSize) => initialMemory tc (pageByte i) := by
    rw [holds]
    exact contentsPages_of_getD (startContents_getD fits)
  simp only [sevenView, machineFor, kept.gpr, kept.rip, kept.rflags, kept.vectors,
    kept.cs, x87, pages, unpackXmm_packXmm wide, MachineStart.mk.injEq, true_and]
  decide

/-- What a lane hands to its engine once the test case is written. -/
theorem handed_of_written {tc : TestCase} (written : (writeTestCase core memory tc).1 = true) :
    handed core memory tc = some (startState core tc, (writeTestCase core memory tc).2) := by
  rw [handed]
  dsimp only
  rw [if_pos written]

/-- On freshly mapped pages, it is the test case's machine. -/
theorem handed_of_scratch (laws : MemoryLaws core held) (words : WordLaws core)
    (wide : 128 ≤ width) (mapped : held memory = scratchContents Mapped.empty) {tc : TestCase}
    (fits : tc.bytes.length ≤ kPageSize) :
    (handed core memory tc).map (fun given => sevenView core held given.1 given.2) =
      some (machineFor tc 3) := by
  obtain ⟨written, holds⟩ := laws.held_writeTestCase mapped fits
  rw [handed_of_written written, Option.map_some, sevenView_startState words wide fits holds]

/-- The trap flag and the reserved bit are not compared, and no compared flag is cut off. -/
theorem compared_eFlags (rflags : BitVec 64) :
    (((rflags &&& kCompareFlagsMask) ||| 0x100#64 ||| 0x2#64).setWidth 32).setWidth 64 &&&
      kCompareFlagsMask = rflags &&& kCompareFlagsMask := by
  have low : ∀ bit < 64, kCompareFlagsMask.getLsbD bit = true →
      bit < 32 ∧ (0x100#64).getLsbD bit = false ∧ (0x2#64).getLsbD bit = false := by
    decide
  apply BitVec.eq_of_getLsbD_eq
  intro bit inside
  simp only [BitVec.getLsbD_and, BitVec.getLsbD_setWidth, BitVec.getLsbD_or]
  cases compared : kCompareFlagsMask.getLsbD bit with
  | false => simp only [Bool.and_false]
  | true =>
      obtain ⟨inDword, trap, reserved⟩ := low bit inside compared
      simp only [inside, inDword, trap, reserved, decide_true, Bool.and_true, Bool.true_and,
        Bool.or_false]

/-- The context carries the registers of the test case. -/
theorem gpr_contextFor (ctx : Context) (tc : TestCase) :
    (readGprFromContext (contextFor ctx tc) {}).gpr = tc.initial.gpr := by
  funext i
  fin_cases i <;> rfl

/-- The three pages are zero, as in a victim that has just been spawned. -/
def Zeroed (v : Victim) : Prop :=
  ∀ i : Fin (3 * kPageSize), v.memory (pageByte i) = 0

/-- A prepared victim is the test case's machine, its tags abridged. -/
theorem hardwareView_preparedVictim {v : Victim} (zeroed : Zeroed v) {tc : TestCase}
    (fits : tc.bytes.length ≤ kPageSize) :
    hardwareView (preparedVictim v tc) = (machineFor tc 3).abridge := by
  have registers : (readX87FromContext (contextFor v.context tc) {}).x87 =
      recreated tc.initial.x87 :=
    readX87FromContext_of_fltSave tc.initial {} rfl
  have pages : (fun i : Fin (3 * kPageSize) => (preparedVictim v tc).memory (pageByte i)) =
      fun i : Fin (3 * kPageSize) => initialMemory tc (pageByte i) :=
    funext fun i => preparedVictim_memory fits (zeroed i)
  have context : (preparedVictim v tc).context = contextFor v.context tc := rfl
  simp only [hardwareView, MachineStart.abridge, machineFor, pages, context, gpr_contextFor,
    registers, MachineStart.mk.injEq, true_and]
  exact ⟨rfl, compared_eFlags _, rfl, rfl, rfl, rfl, rfl, trivial⟩

/-- So is the victim that `run_one` resumes. -/
theorem hardwareStart_eq (spawn : SpawnReplies) {w : World} (live : Live w)
    (zeroed : Zeroed w.victim)
    {tc : TestCase} (fits : tc.bytes.length ≤ kPageSize) :
    hardwareStart spawn w tc = some (machineFor tc 3).abridge := by
  rw [hardwareStart, runOne_resumed spawn tc live, Option.map_some,
    hardwareView_preparedVictim zeroed fits]

end SevenFuzzer
