import SevenFuzzer.Lanes.SameMachine

/-! # The translator over the rounds of a worker

A worker keeps one `JitExecutor` and one memory for all its rounds and recycles the executor
every `kJitRecycleInterval` of them. The executor replays what it has compiled for an address
as long as the epoch of the page is still the one it was compiled at; only when it compiles
does it do what the interpreter does. Every round maps the code page anew, which raises its
epoch, so no compiled code is ever replayed: over all rounds of a worker the lane refines the
interpreter lane, and between two recyclings no more functions are compiled than the interval
has rounds (`jit_worker_refines`).
-/

namespace SevenFuzzer

variable {width : Nat} {Rest Memory Jit : Type}

/-- The rounds after which the code cache is recycled. -/
def kJitRecycleInterval : Nat := 2000

/-- What the lane's round turns on of the executor's cache and of the memory's epochs. -/
structure CodeCache (Jit Memory : Type) where
  /-- `page_code_epoch` of the page of an address -/
  epoch : Memory → BitVec 64 → Nat
  /-- the epoch at which the code for an address was compiled -/
  recorded : Jit → BitVec 64 → Option Nat
  /-- the compiled functions that are not released -/
  functions : Jit → Nat
  recycle : Jit → Jit

section

variable (core : SevenCore width Rest Memory) (cache : CodeCache Jit Memory)
  (run : Jit → CpuState width Rest → Memory → Nat → Jit × ExecutionResult width Rest Memory)

/-- The executor as a round finds it, recycled when it is due. -/
def CodeCache.atRound (localI : Nat) (jit : Jit) : Jit :=
  if localI ≠ 0 ∧ localI % kJitRecycleInterval = 0 then cache.recycle jit else jit

/-- A worker's round of the compiled lane: the cache is recycled at its interval, and memory carries
over. -/
def jitRound (localI : Nat) (tc : TestCase) (jit : Jit) (memory : Memory) :
    LaneOutcome × Jit × Memory :=
  runSevenJit core run tc (cache.atRound localI jit) memory

/-- The outcomes of the rounds from one on, and what they leave. -/
def jitRounds : Nat → List TestCase → Jit → Memory → List LaneOutcome × Jit × Memory
  | _, [], jit, memory => ([], jit, memory)
  | localI, tc :: rest, jit, memory =>
      let (out, jit, memory) := jitRound core cache run localI tc jit memory
      let (outs, kept) := jitRounds (localI + 1) rest jit memory
      (out :: outs, kept)

end

variable {core : SevenCore width Rest Memory} {cache : CodeCache Jit Memory}
  {held : Memory → Contents} {step : EngineStep width Rest}
  {executor : CpuState width Rest → Memory → ExecutionResult width Rest Memory}
  {run : Jit → CpuState width Rest → Memory → Nat → Jit × ExecutionResult width Rest Memory}
  {jit : Jit} {memory : Memory}

/-- The code for an address is replayed. -/
def CodeCache.Replays (cache : CodeCache Jit Memory) (jit : Jit) (memory : Memory)
    (address : BitVec 64) : Prop :=
  cache.recorded jit address = some (cache.epoch memory address)

instance (address : BitVec 64) : Decidable (cache.Replays jit memory address) :=
  inferInstanceAs (Decidable (cache.recorded jit address = some (cache.epoch memory address)))

/-- The interpreter performs a step function, and the executor does where it compiles. What it
compiles it records at the epoch of the page, which mapping raises and nothing lowers. -/
structure CacheLaws (core : SevenCore width Rest Memory) (cache : CodeCache Jit Memory)
    (held : Memory → Contents) (step : EngineStep width Rest)
    (executor : CpuState width Rest → Memory → ExecutionResult width Rest Memory)
    (run : Jit → CpuState width Rest → Memory → Nat → Jit × ExecutionResult width Rest Memory) :
    Prop where
  interprets : ∀ state memory, (executor state memory).view held = step state (held memory)
  compiles : ∀ jit state memory, ¬ cache.Replays jit memory state.rip →
    (run jit state memory 1).2.view held = (step state (held memory)).limited
  mapsNothing : ∀ state contents, Mapped.NoneAdded contents (step state contents).memory
  records : ∀ jit state memory address epoch,
    cache.recorded (run jit state memory 1).1 address = some epoch →
      cache.recorded jit address = some epoch ∨
        epoch ≤ cache.epoch (run jit state memory 1).2.memory address
  run_grows : ∀ jit state memory address,
    cache.epoch memory address ≤ cache.epoch (run jit state memory 1).2.memory address
  write_grows : ∀ memory base bytes address,
    cache.epoch memory address ≤ cache.epoch (core.write memory base bytes).2 address
  unmap_grows : ∀ memory base size address,
    cache.epoch memory address ≤ cache.epoch (core.unmap memory base size) address
  map_grows : ∀ memory base size address,
    cache.epoch memory address ≤ cache.epoch (core.map memory base size) address
  map_raises : ∀ memory base, base.toNat % kPageSize = 0 →
    cache.epoch memory base < cache.epoch (core.map memory base kPageSize) base
  one_function : ∀ jit state memory,
    cache.functions (run jit state memory 1).1 ≤ cache.functions jit + 1
  recycled_empty : ∀ jit address, cache.recorded (cache.recycle jit) address = none
  recycled_released : ∀ jit, cache.functions (cache.recycle jit) = 0

/-- Nothing was compiled at an epoch that is still to come. -/
def CodeCache.Behind (cache : CodeCache Jit Memory) (jit : Jit) (memory : Memory) : Prop :=
  ∀ address epoch, cache.recorded jit address = some epoch → epoch ≤ cache.epoch memory address

/-- Recycling compiles nothing ahead of its time. -/
theorem CacheLaws.behind_atRound (laws : CacheLaws core cache held step executor run)
    (behind : cache.Behind jit memory) (localI : Nat) :
    cache.Behind (cache.atRound localI jit) memory := by
  intro address epoch recorded
  rw [CodeCache.atRound] at recorded
  split at recorded
  · rw [laws.recycled_empty] at recorded
    cases recorded
  · exact behind address epoch recorded

/-- Nor does a run. -/
theorem CacheLaws.behind_run (laws : CacheLaws core cache held step executor run)
    (behind : cache.Behind jit memory) (state : CpuState width Rest) :
    cache.Behind (run jit state memory 1).1 (run jit state memory 1).2.memory := by
  intro address epoch recorded
  rcases laws.records _ _ _ _ _ recorded with before | now
  · exact (behind address epoch before).trans (laws.run_grows _ _ _ _)
  · exact now

/-- Nothing is ahead of an epoch that has grown. -/
theorem CacheLaws.behind_of_grows {memory' : Memory} (behind : cache.Behind jit memory)
    (grows : ∀ address, cache.epoch memory address ≤ cache.epoch memory' address) :
    cache.Behind jit memory' :=
  fun address epoch recorded => (behind address epoch recorded).trans (grows address)

/-- The memory a round hands to the executor. -/
def jitMemory (core : SevenCore width Rest Memory) (tc : TestCase) (memory : Memory) :
    Bool × Memory :=
  writeTestCase core (mapScratchPages core (unmapScratchPages core memory)) tc

/-- Unmapping takes no epoch back. -/
theorem CacheLaws.unmapScratchPages_grows (laws : CacheLaws core cache held step executor run)
    (memory : Memory) (address : BitVec 64) :
    cache.epoch memory address ≤ cache.epoch (unmapScratchPages core memory) address :=
  (laws.unmap_grows _ _ _ _).trans ((laws.unmap_grows _ _ _ _).trans (laws.unmap_grows _ _ _ _))

/-- Nor does writing the test case. -/
theorem CacheLaws.writeTestCase_grows (laws : CacheLaws core cache held step executor run)
    (memory : Memory) (tc : TestCase) (address : BitVec 64) :
    cache.epoch memory address ≤ cache.epoch (writeTestCase core memory tc).2 address := by
  have seeded : cache.epoch memory address ≤ cache.epoch (seed core memory tc) address :=
    (laws.write_grows _ _ _ _).trans (laws.write_grows _ _ _ _)
  rw [writeTestCase_eq]
  split
  · exact seeded
  · exact seeded.trans (laws.write_grows _ _ _ _)

/-- Nor does the whole preparation of a round. -/
theorem CacheLaws.jitMemory_grows (laws : CacheLaws core cache held step executor run)
    (memory : Memory) (tc : TestCase) (address : BitVec 64) :
    cache.epoch memory address ≤ cache.epoch (jitMemory core tc memory).2 address := by
  have mapped : cache.epoch (unmapScratchPages core memory) address ≤
      cache.epoch (mapScratchPages core (unmapScratchPages core memory)) address :=
    (laws.map_grows _ _ _ _).trans ((laws.map_grows _ _ _ _).trans (laws.map_grows _ _ _ _))
  exact (laws.unmapScratchPages_grows memory address).trans
    (mapped.trans (laws.writeTestCase_grows _ tc address))

/-- A round raises the epoch of the code page before it hands the memory over. -/
theorem CacheLaws.jitMemory_raises (laws : CacheLaws core cache held step executor run)
    (memory : Memory) (tc : TestCase) :
    cache.epoch memory kCodeBase < cache.epoch (jitMemory core tc memory).2 kCodeBase := by
  have raised : cache.epoch (unmapScratchPages core memory) kCodeBase <
      cache.epoch (core.map (unmapScratchPages core memory) kCodeBase kPageSize) kCodeBase :=
    laws.map_raises _ _ pagesAligned.1
  have mapped : cache.epoch (unmapScratchPages core memory) kCodeBase <
      cache.epoch (mapScratchPages core (unmapScratchPages core memory)) kCodeBase :=
    raised.trans_le ((laws.map_grows _ _ _ _).trans (laws.map_grows _ _ _ _))
  exact (laws.unmapScratchPages_grows memory kCodeBase).trans_lt
    (mapped.trans_le (laws.writeTestCase_grows _ tc kCodeBase))

/-- So nothing is replayed. -/
theorem CacheLaws.not_replays (laws : CacheLaws core cache held step executor run)
    (behind : cache.Behind jit memory) (tc : TestCase) :
    ¬ cache.Replays jit (jitMemory core tc memory).2 kCodeBase := by
  intro replays
  have earlier := behind kCodeBase _ replays
  exact absurd (laws.jitMemory_raises memory tc) (Nat.not_lt.mpr earlier)

/-- The executor, but for replays: there it interprets. -/
def guarded (cache : CodeCache Jit Memory)
    (executor : CpuState width Rest → Memory → ExecutionResult width Rest Memory)
    (run : Jit → CpuState width Rest → Memory → Nat → Jit × ExecutionResult width Rest Memory)
    (jit : Jit) (state : CpuState width Rest) (memory : Memory) (budget : Nat) :
    Jit × ExecutionResult width Rest Memory :=
  if cache.Replays jit memory state.rip then
    let res := executor state memory
    (jit, { res with reason := if res.reason = .none then .executionLimit else res.reason })
  else run jit state memory budget

/-- The compiled run, as long as its entries are from before, performs the step. -/
theorem CacheLaws.performs_guarded (laws : CacheLaws core cache held step executor run) :
    Performs held step executor (guarded cache executor run) where
  interprets := laws.interprets
  translates jit state memory := by
    rw [guarded]
    split
    · rw [← laws.interprets]
      rfl
    · rename_i missed
      exact laws.compiles jit state memory missed
  mapsNothing := laws.mapsNothing

/-- Every round starts at the code page. -/
theorem WordLaws.startState_rip (words : WordLaws core) (tc : TestCase) :
    (startState core tc).rip = kCodeBase := by
  rw [startState, applyX87]
  exact (words.setStatus _ _).rip.trans (words.setControl _ _).rip

/-- In a round that replays nothing the guarded executor is the executor. -/
theorem runSevenJit_guarded (words : WordLaws core) {tc : TestCase}
    (missed : ¬ cache.Replays jit (jitMemory core tc memory).2 kCodeBase) :
    runSevenJit core (guarded cache executor run) tc jit memory =
      runSevenJit core run tc jit memory := by
  have same : guarded cache executor run jit (startState core tc) (jitMemory core tc memory).2 1 =
      run jit (startState core tc) (jitMemory core tc memory).2 1 := by
    rw [guarded, words.startState_rip]
    exact if_neg missed
  rw [jitMemory] at same
  simp only [runSevenJit, same]

/-- A round compiles one function at most. -/
theorem functions_runSevenJit (laws : CacheLaws core cache held step executor run)
    (tc : TestCase) (jit : Jit) (memory : Memory) :
    cache.functions (runSevenJit core run tc jit memory).2.1 ≤ cache.functions jit + 1 := by
  rw [runSevenJit]
  dsimp only
  split
  · exact Nat.le_succ _
  · exact laws.one_function _ _ _

/-- And nothing ahead of its time. -/
theorem behind_runSevenJit (laws : CacheLaws core cache held step executor run)
    (behind : cache.Behind jit memory) (tc : TestCase) :
    cache.Behind (runSevenJit core run tc jit memory).2.1
      (runSevenJit core run tc jit memory).2.2 := by
  have grown : cache.Behind jit (jitMemory core tc memory).2 :=
    CacheLaws.behind_of_grows behind (laws.jitMemory_grows memory tc)
  rw [runSevenJit]
  dsimp only
  split
  · exact grown
  · exact laws.behind_run grown _

/-- What holds of the executor and the memory before a round. -/
structure Coherent (cache : CodeCache Jit Memory) (held : Memory → Contents) (localI : Nat)
    (jit : Jit) (memory : Memory) : Prop where
  kept : OnlyScratch held memory
  behind : cache.Behind jit memory
  bounded : cache.functions jit ≤ kJitRecycleInterval
  released : cache.functions (cache.atRound localI jit) ≤ localI % kJitRecycleInterval

/-- No round replays anything, so the guarded executor runs it. -/
theorem CacheLaws.jitRound_guarded (cached : CacheLaws core cache held step executor run)
    (words : WordLaws core) (behind : cache.Behind jit memory) (localI : Nat) (tc : TestCase) :
    jitRound core cache run localI tc jit memory =
      jitRound core cache (guarded cache executor run) localI tc jit memory :=
  (runSevenJit_guarded words (cached.not_replays (cached.behind_atRound behind localI) tc)).symm

/-- **One round** leaves a coherent worker. -/
theorem coherent_round (laws : MemoryLaws core held) (words : WordLaws core)
    (cached : CacheLaws core cache held step executor run) {localI : Nat}
    (coherent : Coherent cache held localI jit memory) (tc : TestCase) :
    Coherent cache held (localI + 1) (jitRound core cache run localI tc jit memory).2.1
      (jitRound core cache run localI tc jit memory).2.2 := by
  have behind := cached.behind_atRound coherent.behind localI
  have compiled := functions_runSevenJit cached tc (cache.atRound localI jit) memory
  have released := coherent.released
  rw [kJitRecycleInterval] at released
  refine ⟨?_, behind_runSevenJit cached behind tc, ?_, ?_⟩
  · rw [cached.jitRound_guarded words coherent.behind]
    exact kept_runSevenJit laws cached.performs_guarded tc _ coherent.kept
  · rw [jitRound, kJitRecycleInterval]
    omega
  · rw [jitRound, CodeCache.atRound, kJitRecycleInterval]
    split
    · rw [cached.recycled_released]
      exact Nat.zero_le _
    · omega

/-- What the lane returns for a test case is what the interpreter lane does. -/
def LaneRefines (core : SevenCore width Rest Memory)
    (executor : CpuState width Rest → Memory → ExecutionResult width Rest Memory) (tc : TestCase)
    (out : LaneOutcome) : Prop :=
  SameButName (runSeven core executor tc) out ↔ ¬ ReportsLimit core executor tc

/-- One round of the compiled lane refines the interpreted one. -/
theorem jitRound_refines (laws : MemoryLaws core held) (words : WordLaws core)
    (cached : CacheLaws core cache held step executor run) {localI : Nat}
    (coherent : Coherent cache held localI jit memory) (tc : TestCase) :
    LaneRefines core executor tc (jitRound core cache run localI tc jit memory).1 := by
  rw [cached.jitRound_guarded words coherent.behind]
  exact sameButName_iff laws cached.performs_guarded tc _ coherent.kept

/-- So do any number of rounds, by induction on the test cases. -/
theorem jitRounds_refine (laws : MemoryLaws core held) (words : WordLaws core)
    (cached : CacheLaws core cache held step executor run) (cases : List TestCase) {localI : Nat}
    (coherent : Coherent cache held localI jit memory) :
    List.Forall₂ (LaneRefines core executor) cases
        (jitRounds core cache run localI cases jit memory).1 ∧
      Coherent cache held (localI + cases.length)
        (jitRounds core cache run localI cases jit memory).2.1
        (jitRounds core cache run localI cases jit memory).2.2 := by
  induction cases generalizing localI jit memory with
  | nil => exact ⟨.nil, coherent⟩
  | cons tc rest ih =>
      obtain ⟨refined, last⟩ := ih (coherent_round laws words cached coherent tc)
      rw [List.length_cons, Nat.add_comm rest.length, ← Nat.add_assoc]
      exact ⟨.cons (jitRound_refines laws words cached coherent tc) refined, last⟩

/-- A fresh worker is coherent. -/
theorem coherent_fresh (laws : MemoryLaws core held)
    (fresh : ∀ address, cache.recorded jit address = none) (released : cache.functions jit = 0) :
    Coherent cache held 0 jit core.freshMemory := by
  refine ⟨kept_fresh laws, fun address epoch recorded => ?_, ?_, ?_⟩
  · rw [fresh] at recorded
    cases recorded
  · exact released.le.trans (Nat.zero_le _)
  · exact released.le

/-- **The translator over the rounds of a worker.** Over all test cases a worker runs on one new
executor and one memory, each outcome is that of the interpreter lane, up to the name of the
engine, if and only if the step does not report the limit of itself, although the executor may
replay what it has compiled; and the executor never holds more functions than it has rounds
between two recyclings. -/
theorem jit_worker_refines (laws : MemoryLaws core held) (words : WordLaws core)
    (cached : CacheLaws core cache held step executor run)
    (fresh : ∀ address, cache.recorded jit address = none) (released : cache.functions jit = 0)
    (cases : List TestCase) :
    List.Forall₂ (LaneRefines core executor) cases
        (jitRounds core cache run 0 cases jit core.freshMemory).1 ∧
      cache.functions (jitRounds core cache run 0 cases jit core.freshMemory).2.1 ≤
        kJitRecycleInterval := by
  obtain ⟨refined, last⟩ :=
    jitRounds_refine laws words cached cases (coherent_fresh laws fresh released)
  exact ⟨refined, last.bounded⟩

/-- The sample memory with one epoch for all pages. -/
def epochCore : SevenCore 128 (BitVec 16 × BitVec 16) (Contents × Nat) where
  freshState := sampleCore.freshState
  setX87ControlWord := sampleCore.setX87ControlWord
  setX87StatusWord := sampleCore.setX87StatusWord
  getX87ControlWord := sampleCore.getX87ControlWord
  getX87StatusWord := sampleCore.getX87StatusWord
  getX87Top := sampleCore.getX87Top
  reasonValue := sampleCore.reasonValue
  freshMemory := (sampleCore.freshMemory, 0)
  map memory base size := (sampleCore.map memory.1 base size, memory.2 + 1)
  unmap memory base size := (sampleCore.unmap memory.1 base size, memory.2 + 1)
  write memory address bytes :=
    let (written, contents) := sampleCore.write memory.1 address bytes
    (written, contents, memory.2)
  read memory := sampleCore.read memory.1

/-- The sample memory keeps the laws of memory. -/
theorem epochLaws : MemoryLaws epochCore Prod.fst where
  fresh := sampleLaws.fresh
  map memory := sampleLaws.map memory.1
  unmap memory := sampleLaws.unmap memory.1
  write memory := sampleLaws.write memory.1
  refuse memory := sampleLaws.refuse memory.1
  read memory memory' := sampleLaws.read memory.1 memory'.1

/-- The sample engine keeps its laws. -/
theorem epochWordLaws : WordLaws epochCore where
  controlWord := sampleX87Laws.controlWord
  statusWord := sampleX87Laws.statusWord
  controlWord_kept := sampleX87Laws.controlWord_kept
  top := sampleX87Laws.top
  words_apart := sampleX87Laws.words_apart
  setControl _ _ := ⟨rfl, rfl, rfl, rfl, rfl⟩
  setStatus _ _ := ⟨rfl, rfl, rfl, rfl, rfl⟩

/-- The code for the byte at an address: it halts at HLT. -/
def reasonAt (contents : Contents) (address : BitVec 64) : StopReason :=
  if contents address = some 0xF4#8 then .halted else .none

/-- What was compiled for each address, with its epoch, and how often anything was. -/
structure SampleJit where
  entries : BitVec 64 → Option (Nat × StopReason) := fun _ => none
  functions : Nat := 0

/-- The cache of the sample engine: an entry remembers the epoch of the memory it was made from. -/
def sampleCache : CodeCache SampleJit (Contents × Nat) where
  epoch memory _ := memory.2
  recorded jit address := (jit.entries address).map Prod.fst
  functions := SampleJit.functions
  recycle _ := {}

/-- Compiles one address and remembers the epoch. -/
def compileAt (jit : SampleJit) (memory : Contents × Nat) (address : BitVec 64) : SampleJit where
  entries := Function.update jit.entries address (some (memory.2, reasonAt memory.1 address))
  functions := jit.functions + 1

/-- The executor replays the code for an address, and compiles it first if it is stale. -/
def sampleRun (jit : SampleJit) (state : CpuState 128 (BitVec 16 × BitVec 16))
    (memory : Contents × Nat) (_ : Nat) :
    SampleJit × ExecutionResult 128 (BitVec 16 × BitVec 16) (Contents × Nat) :=
  let jit := if sampleCache.Replays jit memory state.rip then jit
    else compileAt jit memory state.rip
  let reason := ((jit.entries state.rip).map Prod.snd).getD .none
  (jit, ⟨state, memory, if reason = .none then .executionLimit else reason⟩)

/-- The sample engine, whose step only reads the byte at the instruction pointer. -/
def sampleStep : EngineStep 128 (BitVec 16 × BitVec 16) :=
  fun state contents => ⟨state, contents, reasonAt contents state.rip⟩

/-- The sample cache keeps the laws of a cache. -/
theorem sampleCacheLaws : CacheLaws epochCore sampleCache Prod.fst sampleStep
    (fun state memory => ⟨state, memory, reasonAt memory.1 state.rip⟩) sampleRun where
  interprets _ _ := rfl
  compiles jit state memory missed := by
    simp only [sampleRun, if_neg missed, compileAt, Function.update_self]
    rfl
  mapsNothing _ _ := fun _ => id
  records jit state memory address epoch recorded := by
    simp only [sampleRun] at recorded ⊢
    split at recorded
    · exact .inl recorded
    · simp only [sampleCache, compileAt] at recorded
      by_cases here : address = state.rip
      · subst here
        rw [Function.update_self] at recorded
        exact .inr (Option.some.inj recorded).symm.le
      · rw [Function.update_of_ne here] at recorded
        exact .inl recorded
  run_grows _ _ _ _ := Nat.le_refl _
  write_grows _ _ _ _ := Nat.le_refl _
  unmap_grows _ _ _ _ := Nat.le_succ _
  map_grows _ _ _ _ := Nat.le_succ _
  map_raises _ _ _ := Nat.lt_succ_self _
  one_function jit state memory := by
    simp only [sampleRun]
    split
    · exact Nat.le_succ _
    · exact Nat.le_refl _
  recycled_empty _ _ := rfl
  recycled_released _ := rfl

/-- HLT after NOP at the same address. -/
theorem jit_worker_refines_halt :
    List.Forall₂ (LaneRefines epochCore fun state memory =>
        ⟨state, memory, reasonAt memory.1 state.rip⟩) [{ bytes := [0x90#8] }, { bytes := [0xF4#8] }]
        (jitRounds epochCore sampleCache sampleRun 0 [{ bytes := [0x90#8] }, { bytes := [0xF4#8] }]
          {} epochCore.freshMemory).1 ∧
      sampleCache.functions (jitRounds epochCore sampleCache sampleRun 0
        [{ bytes := [0x90#8] }, { bytes := [0xF4#8] }] {} epochCore.freshMemory).2.1 ≤
          kJitRecycleInterval :=
  jit_worker_refines epochLaws epochWordLaws sampleCacheLaws (fun _ => rfl) rfl _

end SevenFuzzer
