import SevenFuzzer.Lanes.Seven

/-! # The translator lane refines the interpreter lane

The interpreter lane builds its machine anew, the translator lane unmaps and maps the
scratch pages of a memory that all earlier test cases have written to. Whatever the
engine does, nothing but the scratch pages is ever mapped in that memory, so both lanes
hand their engine the same machine (`jit_refines_iff`).
-/

namespace SevenFuzzer

/-- The address lies in the page from `base` on. -/
def InPage (base address : BitVec 64) : Prop := (address - base).toNat < kPageSize

instance (base : BitVec 64) : DecidablePred (InPage base) :=
  fun address => inferInstanceAs (Decidable ((address - base).toNat < kPageSize))

/-- The address lies in one of the three pages a test case uses. -/
def InScratch (address : BitVec 64) : Prop :=
  InPage kCodeBase address ∨ InPage kDataBase address ∨ InPage kStackBase address

/-- What a memory holds at each mapped address. -/
abbrev Contents := Mapped (BitVec 64) (BitVec 8)

variable {width : Nat} {Rest Memory : Type} {core : SevenCore width Rest Memory}
  {held : Memory → Contents} {memory memory' : Memory}

/-- Every byte of a range is mapped. -/
def Contents.Covers (contents : Contents) (address : BitVec 64) (length : Nat) : Prop :=
  ∀ x, (x - address).toNat < length → (contents x).isSome

/-- The emulator's memory as documented: mapping a page that is absent adds it with zeros,
unmapping drops it, writing and reading act on mapped pages. -/
structure MemoryLaws (core : SevenCore width Rest Memory) (held : Memory → Contents) : Prop where
  fresh : held core.freshMemory = Mapped.empty
  map : ∀ memory base, base.toNat % kPageSize = 0 →
    held (core.map memory base kPageSize) = Mapped.map (InPage base) (held memory)
  unmap : ∀ memory base, base.toNat % kPageSize = 0 →
    held (core.unmap memory base kPageSize) = Mapped.unmap (InPage base) (held memory)
  write : ∀ memory address bytes, (held memory).Covers address bytes.length →
    (core.write memory address bytes).1 = true ∧ held (core.write memory address bytes).2 =
      Mapped.store (fun x => (x - address).toNat) bytes (held memory)
  refuse : ∀ memory address bytes, ¬ (held memory).Covers address bytes.length →
    (core.write memory address bytes).1 = false ∧
      Mapped.NoneAdded (held memory) (held (core.write memory address bytes).2)
  read : ∀ memory memory' address (size : Nat) (buffer : Fin size → BitVec 8),
    held memory = held memory' → core.read memory address buffer = core.read memory' address buffer

/-- The three pages start at page boundaries. -/
theorem pagesAligned : kCodeBase.toNat % kPageSize = 0 ∧ kDataBase.toNat % kPageSize = 0 ∧
    kStackBase.toNat % kPageSize = 0 := by
  decide

/-- What the scratch pages of a new machine hold. -/
def scratchContents (contents : Contents) : Contents :=
  Mapped.map (InPage kStackBase)
    (Mapped.map (InPage kDataBase) (Mapped.map (InPage kCodeBase) contents))

/-- What the pages hold after they are mapped. -/
theorem MemoryLaws.held_mapScratchPages (laws : MemoryLaws core held) (memory : Memory) :
    held (mapScratchPages core memory) = scratchContents (held memory) := by
  obtain ⟨code, data, stack⟩ := pagesAligned
  rw [mapScratchPages, laws.map _ _ stack, laws.map _ _ data, laws.map _ _ code]
  rfl

/-- Once they are unmapped, nothing is left. -/
theorem MemoryLaws.held_unmapScratchPages (laws : MemoryLaws core held)
    (within : Mapped.Within InScratch (held memory)) :
    held (unmapScratchPages core memory) = Mapped.empty := by
  obtain ⟨code, data, stack⟩ := pagesAligned
  rw [unmapScratchPages, laws.unmap _ _ stack, laws.unmap _ _ data, laws.unmap _ _ code]
  refine Mapped.eq_empty_of_within (Mapped.within_unmap ?_)
  refine fun address mapped => .inl ?_
  have inside := Mapped.within_unmap (Mapped.within_unmap within) address mapped
  exact inside

/-- The data window is mapped. -/
theorem covers_data : (scratchContents Mapped.empty).Covers kDataBase kDataWindow := by
  intro x inside
  rw [scratchContents, Mapped.isSome_map, Mapped.isSome_map]
  refine .inr (.inl (lt_trans inside ?_))
  decide

/-- The return address's slot is mapped. -/
theorem covers_stackTop : (scratchContents Mapped.empty).Covers kStackTop 8 := by
  intro x inside
  rw [scratchContents, Mapped.isSome_map]
  refine .inl ?_
  have top : kStackTop.toNat = 0x100000002F00 := by decide
  have base : kStackBase.toNat = 0x100000002000 := by decide
  rw [BitVec.toNat_sub, top] at inside
  rw [InPage, BitVec.toNat_sub, base, kPageSize]
  omega

/-- The scratch pages of a new machine, with the return address and the seed. -/
def seededContents (tc : TestCase) : Contents :=
  Mapped.store (fun x => (x - kDataBase).toNat) (List.ofFn tc.dataSeed)
    (Mapped.store (fun x => (x - kStackTop).toNat) ((List.range 8).map (byteOf kCodeBase))
      (scratchContents Mapped.empty))

/-- Memory after the return address and the data window have been written. -/
def seed (core : SevenCore width Rest Memory) (memory : Memory) (tc : TestCase) : Memory :=
  (core.write (core.write memory kStackTop ((List.range 8).map (byteOf kCodeBase))).2 kDataBase
    (List.ofFn tc.dataSeed)).2

/-- The data and the return address are written first, the code last and only if there is some. -/
theorem writeTestCase_eq (memory : Memory) (tc : TestCase) :
    writeTestCase core memory tc =
      if tc.bytes = [] then (true, seed core memory tc)
      else core.write (seed core memory tc) kCodeBase tc.bytes := rfl

/-- What the pages hold after they are seeded. -/
theorem MemoryLaws.held_seed (laws : MemoryLaws core held)
    (mapped : held memory = scratchContents Mapped.empty) (tc : TestCase) :
    held (seed core memory tc) = seededContents tc := by
  have first := laws.write memory kStackTop ((List.range 8).map (byteOf kCodeBase))
    (by rw [mapped]; exact covers_stackTop)
  have second := laws.write (core.write memory kStackTop ((List.range 8).map (byteOf kCodeBase))).2
    kDataBase (List.ofFn tc.dataSeed) ?_
  · rw [seed, second.2, first.2, mapped]
    rfl
  · rw [first.2, mapped, List.length_ofFn]
    exact fun x inside => Mapped.isSome_store (covers_data x inside)

/-- Whether the code can be written, and the memory with it, follow from what a memory
holds. -/
theorem MemoryLaws.write_congr (laws : MemoryLaws core held) (same : held memory = held memory')
    (address : BitVec 64) (bytes : List (BitVec 8)) :
    (core.write memory address bytes).1 = (core.write memory' address bytes).1 ∧
      ((core.write memory address bytes).1 = true →
        held (core.write memory address bytes).2 = held (core.write memory' address bytes).2) := by
  by_cases covers : (held memory).Covers address bytes.length
  · obtain ⟨written, holds⟩ := laws.write memory address bytes covers
    obtain ⟨written', holds'⟩ := laws.write memory' address bytes (same ▸ covers)
    exact ⟨written.trans written'.symm, fun _ => by rw [holds, holds', same]⟩
  · have refused := (laws.refuse memory address bytes covers).1
    have refused' := (laws.refuse memory' address bytes (same ▸ covers)).1
    exact ⟨refused.trans refused'.symm, fun written =>
      absurd (refused.symm.trans written) Bool.false_ne_true⟩

/-- Writing the test case succeeds alike on freshly mapped pages and leaves them alike. -/
theorem MemoryLaws.writeTestCase_congr (laws : MemoryLaws core held)
    (mapped : held memory = scratchContents Mapped.empty)
    (mapped' : held memory' = scratchContents Mapped.empty) (tc : TestCase) :
    (writeTestCase core memory tc).1 = (writeTestCase core memory' tc).1 ∧
      ((writeTestCase core memory tc).1 = true →
        held (writeTestCase core memory tc).2 = held (writeTestCase core memory' tc).2) := by
  have same : held (seed core memory tc) = held (seed core memory' tc) := by
    rw [laws.held_seed mapped, laws.held_seed mapped']
  rw [writeTestCase_eq, writeTestCase_eq]
  split
  · exact ⟨rfl, fun _ => same⟩
  · exact laws.write_congr same kCodeBase tc.bytes

/-- Writing maps nothing. -/
theorem MemoryLaws.noneAdded_write (laws : MemoryLaws core held) (memory : Memory)
    (address : BitVec 64) (bytes : List (BitVec 8)) :
    Mapped.NoneAdded (held memory) (held (core.write memory address bytes).2) := by
  by_cases covers : (held memory).Covers address bytes.length
  · rw [(laws.write memory address bytes covers).2]
    exact Mapped.noneAdded_store covers
  · exact (laws.refuse memory address bytes covers).2

/-- Writing maps nothing. -/
theorem MemoryLaws.noneAdded_writeTestCase (laws : MemoryLaws core held) (memory : Memory)
    (tc : TestCase) :
    Mapped.NoneAdded (held memory) (held (writeTestCase core memory tc).2) := by
  have seeded : Mapped.NoneAdded (held memory) (held (seed core memory tc)) :=
    (laws.noneAdded_write _ _ _).trans (laws.noneAdded_write _ _ _)
  rw [writeTestCase_eq]
  split
  · exact seeded
  · exact seeded.trans (laws.noneAdded_write _ _ _)

/-- Only the three pages are mapped. -/
theorem within_scratchContents : Mapped.Within InScratch (scratchContents Mapped.empty) := by
  intro address mapped
  rw [scratchContents, Mapped.isSome_map, Mapped.isSome_map, Mapped.isSome_map] at mapped
  rcases mapped with stack | data | code | none
  · exact .inr (.inr stack)
  · exact .inr (.inl data)
  · exact .inl code
  · cases none

/-- Code that is longer than the scratch pages does not fit into them. -/
theorem MemoryLaws.refuses_long (laws : MemoryLaws core held)
    (mapped : held memory = scratchContents Mapped.empty) {tc : TestCase}
    (long : 3 * kPageSize < tc.bytes.length) : (writeTestCase core memory tc).1 = false := by
  have nonempty : tc.bytes ≠ [] := List.ne_nil_of_length_pos (Nat.zero_lt_of_lt long)
  rw [writeTestCase_eq, if_neg nonempty]
  refine (laws.refuse _ _ _ fun covers => ?_).1
  -- the first byte above the stack page
  have beyond := covers (kCodeBase + BitVec.ofNat 64 (3 * kPageSize))
    (lt_of_eq_of_lt (by decide) long)
  rw [laws.held_seed mapped] at beyond
  have inside : InScratch (kCodeBase + BitVec.ofNat 64 (3 * kPageSize)) := by
    refine Mapped.Within.mono within_scratchContents ?_ _ beyond
    rw [← laws.held_seed mapped, ← mapped]
    exact (laws.noneAdded_write _ _ _).trans (laws.noneAdded_write _ _ _)
  revert inside
  unfold InScratch InPage
  decide

variable {Jit : Type}

/-- An engine's step as it acts on what a memory holds. -/
abbrev EngineStep (width : Nat) (Rest : Type) :=
  CpuState width Rest → Contents → ExecutionResult width Rest Contents

/-- A result, with the memory seen through its contents. -/
def ExecutionResult.view (held : Memory → Contents) (res : ExecutionResult width Rest Memory) :
    ExecutionResult width Rest Contents :=
  ⟨res.state, held res.memory, res.reason⟩

/-- A step of the budget's one instruction, without another reason to stop. -/
def ExecutionResult.limited (res : ExecutionResult width Rest Contents) :
    ExecutionResult width Rest Contents :=
  { res with reason := if res.reason = .none then .executionLimit else res.reason }

/-- The interpreter performs a step function, the translator its limited form, and no
step maps anything. -/
structure Performs (held : Memory → Contents) (step : EngineStep width Rest)
    (executor : CpuState width Rest → Memory → ExecutionResult width Rest Memory)
    (run : Jit → CpuState width Rest → Memory → Nat → Jit × ExecutionResult width Rest Memory) :
    Prop where
  interprets : ∀ state memory, (executor state memory).view held = step state (held memory)
  translates : ∀ jit state memory,
    (run jit state memory 1).2.view held = (step state (held memory)).limited
  mapsNothing : ∀ state contents, Mapped.NoneAdded contents (step state contents).memory

variable {step : EngineStep width Rest}
  {executor : CpuState width Rest → Memory → ExecutionResult width Rest Memory}
  {run : Jit → CpuState width Rest → Memory → Nat → Jit × ExecutionResult width Rest Memory}

/-- From machines that hold the same, both engines come to machines that hold the same. -/
theorem Performs.agree (performs : Performs held step executor run)
    (same : held memory = held memory') (jit : Jit) (state : CpuState width Rest) :
    let res := executor state memory
    let res' := (run jit state memory' 1).2
    res'.state = res.state ∧ held res'.memory = held res.memory ∧
      res'.reason = if res.reason = .none then .executionLimit else res.reason := by
  have effect := performs.translates jit state memory'
  rw [← same, ← performs.interprets state memory] at effect
  have states := congrArg ExecutionResult.state effect
  have memories := congrArg ExecutionResult.memory effect
  have reasons := congrArg ExecutionResult.reason effect
  exact ⟨states, memories, reasons⟩

/-- Nothing but the scratch pages is mapped. -/
def OnlyScratch (held : Memory → Contents) (memory : Memory) : Prop :=
  Mapped.Within InScratch (held memory)

/-- A compiled round leaves nothing mapped but the three pages. -/
theorem kept_runSevenJit (laws : MemoryLaws core held) (performs : Performs held step executor run)
    (tc : TestCase) (jit : Jit) (kept : OnlyScratch held memory) :
    OnlyScratch held (runSevenJit core run tc jit memory).2.2 := by
  have pages : held (mapScratchPages core (unmapScratchPages core memory)) =
      scratchContents Mapped.empty := by
    rw [laws.held_mapScratchPages, laws.held_unmapScratchPages kept]
  have written : OnlyScratch held
      (writeTestCase core (mapScratchPages core (unmapScratchPages core memory)) tc).2 := by
    refine Mapped.Within.mono ?_ (laws.noneAdded_writeTestCase _ tc)
    rw [pages]
    exact within_scratchContents
  rw [runSevenJit]
  dsimp only
  split
  · exact written
  · refine Mapped.Within.mono written ?_
    have effect := congrArg ExecutionResult.memory (performs.translates jit (startState core tc)
      (writeTestCase core (mapScratchPages core (unmapScratchPages core memory)) tc).2)
    change held _ = _ at effect
    rw [effect]
    exact performs.mapsNothing _ _

/-- So do any number of them. -/
theorem kept_afterHistory (laws : MemoryLaws core held) (performs : Performs held step executor run)
    (history : List TestCase) (jit : Jit) (kept : OnlyScratch held memory) :
    OnlyScratch held (afterHistory core run history jit memory).2 := by
  induction history generalizing jit memory with
  | nil => exact kept
  | cons tc history ih => exact ih _ (kept_runSevenJit laws performs tc jit kept)

/-- Two texts that are both empty, or name their engine and then go on alike. -/
def NamedAlike (text text' : String) : Prop :=
  text = "" ∧ text' = "" ∨ ∃ rest, text = "seven" ++ rest ∧ text' = "seven-jit" ++ rest

/-- An outcome of the interpreter lane and one of the translator lane, the same up to
the name of the engine. -/
structure SameButName (out out' : LaneOutcome) : Prop where
  setupOk : out'.setupOk = out.setupOk
  setupError : NamedAlike out.setupError out'.setupError
  stop : out'.stop = out.stop
  detail : NamedAlike out.detail out'.detail
  after : out'.after = out.after
  capturesX87 : out'.capturesX87 = out.capturesX87

/-- The machine of the interpreter lane, and whether the code could be written into it. -/
def sevenMachine (core : SevenCore width Rest Memory) (tc : TestCase) : Bool × Memory :=
  writeTestCase core (mapScratchPages core core.freshMemory) tc

/-- A write that is refused is reported under Seven's name. -/
theorem runSeven_refused {tc : TestCase} (refused : (sevenMachine core tc).1 = false) :
    (runSeven core executor tc).setupError = "seven: failed to write code bytes" := by
  rw [sevenMachine] at refused
  rw [runSeven]
  dsimp only
  rw [refused, if_pos Bool.false_ne_true]

/-- Under the compiler's name it is reported as such. -/
theorem runSevenJit_refused {tc : TestCase} {jit : Jit}
    (refused : (writeTestCase core (mapScratchPages core (unmapScratchPages core memory)) tc).1 =
      false) :
    (runSevenJit core run tc jit memory).1.setupError =
      "seven-jit: failed to write code bytes" := by
  rw [runSevenJit]
  dsimp only
  rw [refused, if_pos Bool.false_ne_true]

/-- The step of the interpreter lane reports a limit of itself. -/
def ReportsLimit (core : SevenCore width Rest Memory)
    (executor : CpuState width Rest → Memory → ExecutionResult width Rest Memory) (tc : TestCase) :
    Prop :=
  (sevenMachine core tc).1 = true ∧
    (executor (startState core tc) (sevenMachine core tc).2).reason = .executionLimit

/-- What is captured depends on memory through its contents only. -/
theorem MemoryLaws.readState_congr (laws : MemoryLaws core held) (state : CpuState width Rest)
    (same : held memory = held memory') :
    readState core state memory = readState core state memory' := by
  rw [readState, readState, laws.read memory memory' kDataBase _ _ same]

/-- A stop of its own is the same in both lanes. -/
theorem mapStopReason_limited {reason : StopReason} (own : reason ≠ .executionLimit) :
    SevenJitLane.mapStopReason (if reason = .none then .executionLimit else reason) =
      SevenLane.mapStopReason reason := by
  cases reason <;> first | rfl | exact absurd rfl own

/-- Only a step that retired is reported at the execution limit. -/
theorem limited_of_other {reason : StopReason} (other : SevenLane.mapStopReason reason = .other) :
    (if reason = .none then .executionLimit else reason) = reason := by
  cases reason <;> first | rfl | cases other

/-- The two details differ in the lane's name at most. -/
theorem namedAlike_detail (value value' : Int) (stop : Stop)
    (same : stop = .other → value' = value) :
    NamedAlike (if stop = .other then "seven StopReason=" ++ toString value else "")
      (if stop = .other then "seven-jit StopReason=" ++ toString value' else "") := by
  split
  · rename_i other
    rw [same other]
    exact .inr ⟨" StopReason=" ++ toString value, by rw [← String.append_assoc]; rfl,
      by rw [← String.append_assoc]; rfl⟩
  · exact .inl ⟨rfl, rfl⟩

/-- So do the two errors. -/
theorem namedAlike_setupError :
    NamedAlike "seven: failed to write code bytes" "seven-jit: failed to write code bytes" :=
  .inr ⟨": failed to write code bytes", rfl, rfl⟩

/-- The two lanes report the same but for their names exactly if the reported reasons are the
same. -/
theorem sameButName_iff (laws : MemoryLaws core held) (performs : Performs held step executor run)
    (tc : TestCase) (jit : Jit) (kept : OnlyScratch held memory) :
    SameButName (runSeven core executor tc) (runSevenJit core run tc jit memory).1 ↔
      ¬ ReportsLimit core executor tc := by
  have fresh : held (mapScratchPages core core.freshMemory) = scratchContents Mapped.empty := by
    rw [laws.held_mapScratchPages, laws.fresh]
  have reused : held (mapScratchPages core (unmapScratchPages core memory)) =
      scratchContents Mapped.empty := by
    rw [laws.held_mapScratchPages, laws.held_unmapScratchPages kept]
  obtain ⟨written, same⟩ := laws.writeTestCase_congr fresh reused tc
  rw [ReportsLimit, sevenMachine, runSeven, runSevenJit]
  dsimp only
  rw [← written]
  by_cases ok : (writeTestCase core (mapScratchPages core core.freshMemory) tc).1 = true
  · rw [if_neg (not_not_intro ok), if_neg (not_not_intro ok), and_iff_right ok]
    obtain ⟨state, holds, reason⟩ := performs.agree (same ok) jit (startState core tc)
    constructor
    · intro alike limit
      have stops := alike.stop
      dsimp only at stops
      rw [reason, limit] at stops
      cases stops
    · intro own
      have stop := mapStopReason_limited own
      rw [← reason] at stop
      refine ⟨rfl, .inl ⟨rfl, rfl⟩, stop, ?_, ?_, rfl⟩
      · dsimp only
        rw [stop]
        exact namedAlike_detail _ _ _ fun other => by rw [reason, limited_of_other other]
      · dsimp only
        rw [state, laws.readState_congr _ holds]
  · rw [if_pos ok, if_pos ok]
    exact iff_of_true ⟨rfl, namedAlike_setupError, rfl, .inl ⟨rfl, rfl⟩, rfl, rfl⟩
      fun limit => ok limit.1

/-- Fresh memory has nothing mapped. -/
theorem kept_fresh (laws : MemoryLaws core held) : OnlyScratch held core.freshMemory := by
  rw [OnlyScratch, laws.fresh]
  exact Mapped.within_empty

/-- **The translator lane refines the interpreter lane.** For every step function, every
test case and every history of earlier test cases on the same memory, if the translator
has the effect of one step with the reason none reported as the limit, then it returns the
outcome of the interpreter lane, up to the name of the engine in detail and set-up error,
if and only if the step of this test case does not report the limit of itself. -/
theorem jit_refines_iff (laws : MemoryLaws core held) (performs : Performs held step executor run)
    (history : List TestCase) (tc : TestCase) (jit : Jit) :
    let kept := afterHistory core run history jit core.freshMemory
    SameButName (runSeven core executor tc) (runSevenJit core run tc kept.1 kept.2).1 ↔
      ¬ ReportsLimit core executor tc :=
  sameButName_iff laws performs tc _ (kept_afterHistory laws performs history jit (kept_fresh laws))

/-- A memory that holds what it is told; the words of the x87 unit are the rest of the state. -/
def sampleCore : SevenCore 128 (BitVec 16 × BitVec 16) Contents where
  freshState := ⟨.other, 0, 0, 0, fun _ => 0, fun _ => 0, fun _ => ⟨0, 0⟩, fun _ => 0, (0, 0)⟩
  setX87ControlWord state word := { state with rest := (word, state.rest.2) }
  setX87StatusWord state word := { state with rest := (state.rest.1, word) }
  getX87ControlWord state := state.rest.1
  getX87StatusWord state := state.rest.2
  getX87Top state := ((state.rest.2 >>> 11) &&& 0x7#16).toNat
  reasonValue _ := 0
  freshMemory := Mapped.empty
  map contents base size := Mapped.map (fun x => (x - base).toNat < size) contents
  unmap contents base size := Mapped.unmap (fun x => (x - base).toNat < size) contents
  write contents address bytes :=
    if (List.range bytes.length).all fun i => (contents (address + BitVec.ofNat 64 i)).isSome then
      (true, Mapped.store (fun x => (x - address).toNat) bytes contents)
    else (false, contents)
  read contents address _ buffer i := (contents (address + BitVec.ofNat 64 i)).getD (buffer i)

/-- Whether a range is mapped can be computed. -/
theorem covers_iff {contents : Contents} {address : BitVec 64} {length : Nat} :
    contents.Covers address length ↔
      (List.range length).all (fun i => (contents (address + BitVec.ofNat 64 i)).isSome)
        = true := by
  rw [List.all_eq_true]
  constructor
  · intro covers i listed
    refine covers _ (lt_of_le_of_lt ?_ (List.mem_range.mp listed))
    rw [BitVec.add_comm, BitVec.add_sub_cancel, BitVec.toNat_ofNat]
    exact Nat.mod_le ..
  · intro all x inside
    have here := all _ (List.mem_range.mpr inside)
    rwa [BitVec.ofNat_toNat, BitVec.setWidth_eq, BitVec.add_comm, BitVec.sub_add_cancel] at here

/-- The sample memory keeps the laws of memory. -/
theorem sampleLaws : MemoryLaws sampleCore id where
  fresh := rfl
  map _ _ _ := rfl
  unmap _ _ _ := rfl
  write contents address bytes covers := by
    rw [id_eq, covers_iff] at covers
    simp only [sampleCore, covers, ↓reduceIte, id_eq, and_self]
  refuse contents address bytes uncovered := by
    rw [id_eq, covers_iff] at uncovered
    simp only [sampleCore, uncovered, Bool.false_eq_true, ↓reduceIte, true_and]
    exact fun _ => id
  read _ _ _ _ _ same := by rw [id_eq, id_eq] at same; rw [same]

/-- An engine that stops for a reason and does nothing else. -/
def stopsFor (reason : StopReason) : EngineStep 128 (BitVec 16 × BitVec 16) :=
  fun state contents => ⟨state, contents, reason⟩

/-- The compiled run of the sample engine: one interpreted step, reported at the execution limit. -/
def runs (step : EngineStep 128 (BitVec 16 × BitVec 16)) :
    Unit → CpuState 128 (BitVec 16 × BitVec 16) → Contents → Nat →
      Unit × ExecutionResult 128 (BitVec 16 × BitVec 16) Contents :=
  fun jit state contents _ => (jit, (step state contents).limited)

/-- The sample run performs the sample step. -/
theorem performs_stopsFor (reason : StopReason) :
    Performs id (stopsFor reason) (stopsFor reason) (runs (stopsFor reason)) :=
  ⟨fun _ _ => rfl, fun _ _ _ => rfl, fun _ _ _ => id⟩

/-- An empty test case after another one, on an engine that retires it. -/
theorem jit_refines_retired :
    let kept := afterHistory sampleCore (runs (stopsFor .none)) [{}] () sampleCore.freshMemory
    SameButName (runSeven sampleCore (stopsFor .none) {})
        (runSevenJit sampleCore (runs (stopsFor .none)) {} kept.1 kept.2).1 ↔
      ¬ ReportsLimit sampleCore (stopsFor .none) {} :=
  jit_refines_iff sampleLaws (performs_stopsFor .none) [{}] {} ()

/-- A test case with more code than the scratch pages hold. -/
def oversized : TestCase := { bytes := List.replicate (3 * kPageSize + 1) 0x90#8 }

/-- On an engine that reports the limit of itself the lanes stop differently, and a test
case whose code does not fit fails in both with different texts. -/
theorem jit_differs :
    (runSevenJit sampleCore (runs (stopsFor .executionLimit)) {} () sampleCore.freshMemory).1.stop ≠
        (runSeven sampleCore (stopsFor .executionLimit) {}).stop ∧
      (runSevenJit sampleCore (runs (stopsFor .none)) oversized ()
        sampleCore.freshMemory).1.setupError ≠
        (runSeven sampleCore (stopsFor .none) oversized).setupError := by
  have long : 3 * kPageSize < oversized.bytes.length := by
    rw [oversized, List.length_replicate]
    exact Nat.lt_succ_self _
  have fresh := sampleLaws.held_mapScratchPages sampleCore.freshMemory
  have reused := sampleLaws.held_mapScratchPages
    (unmapScratchPages sampleCore sampleCore.freshMemory)
  rw [sampleLaws.fresh] at fresh
  rw [sampleLaws.held_unmapScratchPages (kept_fresh sampleLaws)] at reused
  refine ⟨by decide, ?_⟩
  rw [runSeven_refused (sampleLaws.refuses_long fresh long),
    runSevenJit_refused (sampleLaws.refuses_long reused long)]
  decide

end SevenFuzzer
