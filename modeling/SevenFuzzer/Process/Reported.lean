import Mathlib.Data.Set.Card
import SevenFuzzer.Compare.Verdict
import SevenFuzzer.Gen.Comparable
import SevenFuzzer.Lanes.JitWorker
import SevenFuzzer.Process.Serial

/-! # What a campaign reports

The generators draw the test cases, each worker runs them on its executor, its memory and its
session, and the threads count and file what differs. If the engines implement architectures
and the silicon serves every round, a finished campaign reports the architectures: a finding for
each test case on which seven's and the silicon's differ, an outlier for each other one on
which Unicorn's shows another answer, and nothing else, in whatever order the threads moved
(`SevenFuzzer.campaign_reports`).
-/

namespace SevenFuzzer

open Transition Draw

variable {threads width : Nat} {Rest Memory Jit Engine : Type}

/-- The test cases a worker is given, and what the operating system replies to its session. -/
structure WorkerLot where
  testCase : Nat → TestCase
  victimPath : String
  started : SpawnReplies
  spawn : Nat → SpawnReplies
  victim : Victim
  stream : List Delivery
  discards : BitVec 64

/-- Whether `hw.start` succeeds. -/
def WorkerLot.sessionStarted (lot : WorkerLot) : Bool :=
  match start lot.victimPath lot.started (.initial lot.victim lot.stream) with
  | .ok _ _ => true
  | .error _ _ => false

/-- The session before a round. -/
def WorkerLot.session (lot : WorkerLot) : Nat → World
  | 0 => (SessionCall.start lot.victimPath lot.started).perform (.initial lot.victim lot.stream)
  | i + 1 => (SessionCall.runOne { spawn := lot.spawn i } (lot.testCase i)).perform (lot.session i)

/-- What the hardware lane of a worker reports in each round. -/
def WorkerLot.hw (lot : WorkerLot) (i : Nat) : LaneOutcome :=
  (runOne { spawn := lot.spawn i } (lot.testCase i) (lot.session i)).1

/-- The sessions of the rounds are those of one run of calls. -/
theorem WorkerLot.run_session (lot : WorkerLot) (i : Nat) :
    ∃ trace, Run sessionStep (.initial lot.victim lot.stream) trace (lot.session i) := by
  induction i with
  | zero => exact ⟨_, Run.nil.snoc rfl⟩
  | succ i ih =>
      obtain ⟨trace, run⟩ := ih
      exact ⟨_, run.snoc rfl⟩

/-- The engines of a campaign; `jit` is the executor a worker starts with. -/
structure Engines (width : Nat) (Rest Memory Jit Engine : Type) where
  core : SevenCore width Rest Memory
  executor : CpuState width Rest → Memory → ExecutionResult width Rest Memory
  cache : CodeCache Jit Memory
  run : Jit → CpuState width Rest → Memory → Nat → Jit × ExecutionResult width Rest Memory
  jit : Jit
  api : UcApi Engine
  silicon : Silicon

/-- The outcome of the seven lane in a round of a worker. -/
def Engines.seven (engines : Engines width Rest Memory Jit Engine) (useJit : Bool)
    (lot : WorkerLot) (i : Nat) : LaneOutcome :=
  if useJit then
    let kept := (jitRounds engines.core engines.cache engines.run 0
      ((List.range i).map lot.testCase) engines.jit engines.core.freshMemory).2
    (jitRound engines.core engines.cache engines.run i (lot.testCase i) kept.1 kept.2).1
  else runSeven engines.core engines.executor (lot.testCase i)

/-- The lanes of all workers. -/
def Engines.lanes (engines : Engines width Rest Memory Jit Engine) (useJit : Bool)
    (findingsDir outliersDir : String) (lots : Fin threads → WorkerLot) : LaneTable threads where
  useJit := useJit
  findingsDir := findingsDir
  outliersDir := outliersDir
  sessionStarted w := (lots w).sessionStarted
  testCase w := (lots w).testCase
  seven w := engines.seven useJit (lots w)
  unicorn w i := runUnicorn engines.api ((lots w).testCase i)
  hw w := (lots w).hw
  discards w := (lots w).discards

/-- The engines do what is documented of them. -/
structure Engines.Documented (engines : Engines width Rest Memory Jit Engine)
    (held : Memory → Contents) (step : EngineStep width Rest) (machine : Engine → UcMachine) :
    Prop where
  memory : MemoryLaws engines.core held
  reads : Reads engines.core held
  words : WordLaws engines.core
  wide : 128 ≤ width
  cached : CacheLaws engines.core engines.cache held step engines.executor engines.run
  unrecorded : ∀ address, engines.cache.recorded engines.jit address = none
  released : engines.cache.functions engines.jit = 0
  uc : UcLaws engines.api machine
  ucReads : UcReads engines.api machine

/-- The architectures the engines implement. -/
structure Architectures where
  seven : Architecture
  silicon : Architecture
  unicorn : Architecture

/-- The engines implement architectures on a test case. -/
structure Engines.Implement (engines : Engines width Rest Memory Jit Engine)
    (held : Memory → Contents) (machine : Engine → UcMachine) (archs : Architectures)
    (tc : TestCase) : Prop where
  seven : ∀ given,
    handed engines.core (mapScratchPages engines.core engines.core.freshMemory) tc = some given →
      SevenImplements archs.seven engines.core held engines.executor tc given
  unicorn : ∀ uc, ucSetUp engines.api tc engines.api.open_.2 = .ok () uc →
    UcImplements archs.unicorn engines.api machine tc uc
  silicon : SiliconImplements archs.silicon engines.silicon tc
  classified : ∀ after, archs.silicon (machineFor tc 3) = .ok after → after.x87.Canonical
  readsOwnCode : ReadsOwnCode engines.silicon tc

variable {engines : Engines width Rest Memory Jit Engine} {held : Memory → Contents}
  {step : EngineStep width Rest} {machine : Engine → UcMachine} {archs : Architectures}
  {lot : WorkerLot} {i : Nat}

/-- The interpreter answers as its architecture, and the translator as the interpreter. -/
theorem Engines.Documented.seven_meets (documented : engines.Documented held step machine)
    (within : (lot.testCase i).ComparesFlags) (fits : (lot.testCase i).bytes.length ≤ kPageSize)
    (implements : engines.Implement held machine archs (lot.testCase i)) (useJit : Bool) :
    Meets (lot.testCase i) (archs.seven (machineFor (lot.testCase i) 3))
      (engines.seven useJit lot i) := by
  have interprets := runSeven_meets within documented.memory documented.reads documented.words
    documented.wide fits implements.seven
  cases useJit with
  | false => exact interprets
  | true =>
      have coherent := (jitRounds_refine documented.memory documented.words documented.cached
        ((List.range i).map lot.testCase) (coherent_fresh documented.memory documented.unrecorded
          documented.released)).2
      rw [List.length_map, List.length_range, Nat.zero_add] at coherent
      apply interprets.sameButName
      apply (jitRound_refines documented.memory documented.words documented.cached coherent
        (lot.testCase i)).mpr
      rintro ⟨written, limit⟩
      exact (implements.seven _ (handed_of_written written)).reports.not_limit limit

/-- Seven captures the x87 state whenever it runs. -/
theorem Engines.seven_captures {useJit : Bool} (ran : (engines.seven useJit lot i).setupOk = true) :
    (engines.seven useJit lot i).capturesX87 = true := by
  cases useJit with
  | false => exact runSeven_capturesX87 ran
  | true => exact runSevenJit_capturesX87 ran

/-- The session answers as the silicon, whatever it has been through. -/
theorem WorkerLot.hw_meets {silicon : Silicon} {arch : Architecture}
    (within : (lot.testCase i).ComparesFlags) (fits : (lot.testCase i).bytes.length ≤ kPageSize)
    (canonical : (lot.testCase i).initial.x87.Canonical)
    (implements : SiliconImplements arch silicon (lot.testCase i))
    (classified : ∀ after, arch (machineFor (lot.testCase i) 3) = .ok after → after.x87.Canonical)
    (own : ReadsOwnCode silicon (lot.testCase i))
    (served : Served silicon (lot.spawn i) (lot.testCase i) (lot.session i)) :
    Meets (lot.testCase i) (arch (machineFor (lot.testCase i) 3)) (lot.hw i) ∧
      (lot.hw i).capturesX87 = true := by
  obtain ⟨trace, session⟩ := lot.run_session i
  obtain ⟨v, observed⟩ := runOne_observe (bounded_of_run session) served
  have asked : lot.hw i = oracle silicon (lot.testCase i) := observed.trans (own.observe_eq v)
  rw [asked]
  exact ⟨oracle_meets within fits canonical classified implements, rfl⟩

/-- Unicorn never does. -/
theorem runUnicorn_uncaptured (api : UcApi Engine) (tc : TestCase) :
    (runUnicorn api tc).capturesX87 = false := by
  rw [runUnicorn]
  dsimp only
  split
  · rfl
  · split
    · rfl
    · rfl

/-- All lanes answer a round that is served, of a test case they can compare. -/
theorem Engines.Documented.answered (documented : engines.Documented held step machine)
    (compares : (lot.testCase i).ComparesFlags) (fits : (lot.testCase i).bytes.length ≤ kPageSize)
    (canonical : (lot.testCase i).initial.x87.Canonical)
    (implements : engines.Implement held machine archs (lot.testCase i))
    (served : Served engines.silicon (lot.spawn i) (lot.testCase i) (lot.session i))
    (useJit : Bool) :
    Answered (lot.testCase i) (archs.seven (machineFor (lot.testCase i) 3))
      (archs.silicon (machineFor (lot.testCase i) 3))
      (archs.unicorn (machineFor (lot.testCase i) 0)) (engines.seven useJit lot i)
      (runUnicorn engines.api (lot.testCase i)) (lot.hw i) := by
  have bySeven := documented.seven_meets compares fits implements useJit
  obtain ⟨byHw, hwCaptures⟩ := lot.hw_meets compares fits canonical implements.silicon
    implements.classified implements.readsOwnCode served
  exact ⟨bySeven, byHw, runUnicorn_meets compares documented.uc documented.ucReads fits
    implements.unicorn, Engines.seven_captures bySeven.setupOk, hwCaptures,
    runUnicorn_uncaptured _ _⟩

/-- The lanes can compare what the generator draws. -/
theorem comparable_of_drawn {encode : Instruction → Option (List (BitVec 8))} {caps : HostCaps}
    {tc : TestCase} (short : ∀ instr bytes, encode instr = some bytes → bytes.length ≤ 15)
    (drawn : ∃ discarded, (next encode caps discarded).Sometimes fun ended =>
      ended.1.testCase = tc) :
    tc.ComparesFlags ∧ tc.bytes.length ≤ kPageSize ∧ tc.initial.x87.Canonical := by
  obtain ⟨discarded, drawn⟩ := drawn
  obtain ⟨ended, rfl, comparable⟩ := drawn.meets (next_comparable encode caps discarded)
  refine ⟨comparable.flags, ?_, comparable.canonical⟩
  rcases comparable.encoded with same | ⟨instr, encoded⟩
  · rw [same]
    decide
  · exact (short instr _ encoded).trans (by decide)

/-! ## All rounds -/

/-- `worker_use_hw` after the set-up. -/
def WorkerLot.usesHw (lot : WorkerLot) (cfg : ThreadsConfig threads) : Bool :=
  cfg.useHw && lot.sessionStarted

/-- The rounds that belong in a directory. -/
def reportedRounds (archs : Architectures) (cfg : ThreadsConfig threads)
    (lots : Fin threads → WorkerLot) (dir : OutputDir) : Set (Fin threads × Nat) :=
  {r | r.2 < cfg.share r.1 ∧
    let tc := (lots r.1).testCase r.2
    let ofSeven := archs.seven (machineFor tc 3)
    let ofSilicon := archs.silicon (machineFor tc 3)
    let ofUnicorn := archs.unicorn (machineFor tc 0)
    match dir with
    | .findings =>
        if (lots r.1).usesHw cfg then Distinct tc ofSeven ofSilicon
        else tc.seen ofSeven ≠ tc.seen ofUnicorn
    | .outliers =>
        (lots r.1).usesHw cfg = true ∧ ¬ Distinct tc ofSeven ofSilicon ∧
          tc.seen ofSeven ≠ tc.seen ofUnicorn}

section

variable {cfg : ThreadsConfig threads} {lots : Fin threads → WorkerLot} {w : Fin threads}
  {useJit : Bool} {findingsDir outliersDir : String}

/-- The comparisons of a round are those of its lanes, with or without hardware. -/
theorem Engines.divergences_lanes {hwOk : Bool}
    (ran : ((engines.lanes useJit findingsDir outliersDir lots).brought cfg).hwOk cfg w i = hwOk) :
    ((engines.lanes useJit findingsDir outliersDir lots).brought cfg).divergences w i =
      roundDivergences ((engines.lanes useJit findingsDir outliersDir lots).workerConfig cfg w)
        ((lots w).testCase i) (engines.seven useJit (lots w) i)
        (runUnicorn engines.api ((lots w).testCase i)) ((lots w).hw i) hwOk := by
  rw [← ran]
  rfl

/-- A round is filed where it belongs, and the hardware lane does not fail in it. -/
theorem Engines.Documented.files (documented : engines.Documented held step machine)
    (compares : ((lots w).testCase i).ComparesFlags)
    (fits : ((lots w).testCase i).bytes.length ≤ kPageSize)
    (canonical : ((lots w).testCase i).initial.x87.Canonical)
    (implements : engines.Implement held machine archs ((lots w).testCase i))
    (served : (lots w).usesHw cfg = true →
      Served engines.silicon ((lots w).spawn i) ((lots w).testCase i) ((lots w).session i))
    (within : i < cfg.share w) :
    ((engines.lanes useJit findingsDir outliersDir lots).brought cfg).hwFails cfg w i = false ∧
      ∀ dir, ((engines.lanes useJit findingsDir outliersDir lots).brought cfg).filesTo cfg dir w i =
        true ↔ (w, i) ∈ reportedRounds archs cfg lots dir := by
  have uses : ((engines.lanes useJit findingsDir outliersDir lots).brought cfg).usesHw cfg w =
      (lots w).usesHw cfg := rfl
  cases hardware : (lots w).usesHw cfg with
  | false =>
      rw [hardware] at uses
      have off : ((engines.lanes useJit findingsDir outliersDir lots).brought cfg).hwOk cfg w i =
          false := by
        rw [RoundTable.hwOk, uses, Bool.false_and]
      have bySeven := documented.seven_meets compares fits implements useJit
      have byUnicorn := runUnicorn_meets compares documented.uc documented.ucReads fits
        implements.unicorn
      refine ⟨by rw [RoundTable.hwFails, uses, Bool.false_and], fun dir => ?_⟩
      cases dir with
      | findings =>
          rw [filesTo_findings rfl, off, Engines.divergences_lanes off,
            bySeven.finding_iff_seen byUnicorn (runUnicorn_uncaptured _ _)]
          simp only [reportedRounds, Set.mem_ofPred_eq, hardware, Bool.false_eq_true, ↓reduceIte,
            within, true_and]
      | outliers =>
          rw [filesTo_outliers rfl, off]
          refine iff_of_false (fun outlier => Bool.false_ne_true outlier.1) fun belongs => ?_
          exact Bool.false_ne_true (hardware.symm.trans belongs.2.1)
  | true =>
      rw [hardware] at uses
      have answered := documented.answered compares fits canonical implements (served hardware)
        useJit
      have setupOk : ((engines.lanes useJit findingsDir outliersDir lots).brought cfg).setupOk w i =
          true := answered.byHw.setupOk
      have on : ((engines.lanes useJit findingsDir outliersDir lots).brought cfg).hwOk cfg w i =
          true := by
        rw [RoundTable.hwOk, uses, setupOk, Bool.and_self]
      refine ⟨by rw [RoundTable.hwFails, setupOk, Bool.not_true, Bool.and_false], fun dir => ?_⟩
      cases dir with
      | findings =>
          rw [filesTo_findings rfl, on, Engines.divergences_lanes on, answered.finding_iff]
          simp only [reportedRounds, Set.mem_ofPred_eq, hardware, ↓reduceIte, within, true_and]
      | outliers =>
          rw [filesTo_outliers rfl, on, Engines.divergences_lanes on, answered.outlier_iff]
          simp only [reportedRounds, Set.mem_ofPred_eq, hardware, within, true_and]

end

/-- The counters and the directories have these rounds. -/
structure CampaignReported (rounds : OutputDir → Set (Fin threads × Nat))
    (s : ThreadsState threads) : Prop where
  findings : s.counters.findingCount.toNat = (rounds .findings).ncard
  outliers : s.counters.unicornOutlierCount.toNat = (rounds .outliers).ncard
  hwHarnessErrors : s.counters.hwHarnessErrors = 0#64
  filed : ∀ dir, ∀ r ∈ roundsIn dir s.dumps, r ∈ rounds dir
  complete : ∀ dir, (rounds dir).ncard ≤ kMaxDumpFilesPerDir.toNat →
    ∀ r ∈ rounds dir, r ∈ roundsIn dir s.dumps

variable {cfg : ThreadsConfig threads} {table : RoundTable threads}
  {trace : List (ThreadsState threads × ThreadsEvent threads)} {s : ThreadsState threads}

/-- A run whose table files the rounds in the directories where they belong reports them. -/
theorem reported_of_run {rounds : OutputDir → Set (Fin threads × Nat)} {clock : BitVec 64}
    (some_ : 0 < threads) (few : cfg.iterations.toNat < 2 ^ 31)
    (belongs : ∀ dir w i, (w, i) ∈ rounds dir ↔
      i < cfg.share w ∧ table.filesTo cfg dir w i = true)
    (ran : ∀ w, ∀ i < cfg.share w, table.hwFails cfg w i = false)
    (run : Run (threadsStep cfg) (.initial cfg clock) trace s) (follows : table.Follows trace)
    (joined : ∀ w, (s.workers w).point.phase.hasReturned = true) : CampaignReported rounds s := by
  have listed (dir : OutputDir) : rounds dir = roundsOf cfg (table.filesTo cfg dir) := by
    ext ⟨w, i⟩
    rw [belongs, Finset.mem_coe, mem_roundsOf]
  have number (dir : OutputDir) :
      (rounds dir).ncard = totalRounds cfg (table.filesTo cfg dir) := by
    rw [listed, Set.ncard_coe_finset, card_roundsOf]
  have below (dir : OutputDir) : totalRounds cfg (table.filesTo cfg dir) < 2 ^ 31 :=
    (totalRounds_le some_ _).trans_lt few
  have totals := totals_of_run run follows joined
  have settled := directory_of_run some_ few run follows joined
  constructor
  case findings =>
    rw [totals, number, RoundTable.totals]
    exact toNat_natCast ((below .findings).trans (by decide))
  case outliers =>
    rw [totals, number, RoundTable.totals]
    exact toNat_natCast ((below .outliers).trans (by decide))
  case hwHarnessErrors =>
    have none_ : totalRounds cfg (table.hwFails cfg) = 0 := by
      apply Finset.sum_eq_zero
      intro w _
      rw [Nat.count_eq_card_filter_range, Finset.card_eq_zero, Finset.filter_eq_empty_iff]
      intro i within
      rw [ran w i (Finset.mem_range.mp within)]
      exact Bool.false_ne_true
    rw [totals, RoundTable.totals, none_]
    rfl
  case filed =>
    rintro dir ⟨w, i⟩ filed
    exact (belongs dir w i).mpr ((settled dir).counted w i filed)
  case complete =>
    rintro dir few_ ⟨w, i⟩ member
    rw [number] at few_
    obtain ⟨within, files⟩ := (belongs dir w i).mp member
    exact (settled dir).complete few_ w i within files

/-- **A campaign reports its architectures.** If the engines do what is documented of them and
implement architectures on the test cases that were drawn, and every round with hardware is served,
a run in which all workers have returned without an exception has counted a finding for each
round with hardware in which seven's architecture and the silicon's are distinct on its test case,
and for each round without in which seven's and Unicorn's are seen to differ; an outlier for
each other round with hardware in which they are; and no harness error. Its files are of these
rounds, and of all of them if the limit allows. -/
theorem campaign_reports {encode : Instruction → Option (List (BitVec 8))} {caps : HostCaps}
    {useJit : Bool} {findingsDir outliersDir : String} {lots : Fin threads → WorkerLot}
    {clock : BitVec 64} (some_ : 0 < threads) (few : cfg.iterations.toNat < 2 ^ 31)
    (documented : engines.Documented held step machine)
    (short : ∀ instr bytes, encode instr = some bytes → bytes.length ≤ 15)
    (drawn : ∀ w, ∀ i < cfg.share w, ∃ discarded, (next encode caps discarded).Sometimes
      fun ended => ended.1.testCase = (lots w).testCase i)
    (implements : ∀ w, ∀ i < cfg.share w,
      engines.Implement held machine archs ((lots w).testCase i))
    (served : ∀ w, (lots w).usesHw cfg = true → ∀ i < cfg.share w,
      Served engines.silicon ((lots w).spawn i) ((lots w).testCase i) ((lots w).session i))
    (run : Run (threadsStep cfg) (.initial cfg clock) trace s)
    (follows : ((engines.lanes useJit findingsDir outliersDir lots).brought cfg).Follows trace)
    (joined : ∀ w, (s.workers w).point.phase.hasReturned = true) :
    CampaignReported (reportedRounds archs cfg lots) s := by
  let lanes := engines.lanes useJit findingsDir outliersDir lots
  have filed (w : Fin threads) (i : Nat) (within : i < cfg.share w) :
      (lanes.brought cfg).hwFails cfg w i = false ∧
        ∀ dir, (lanes.brought cfg).filesTo cfg dir w i = true ↔
          (w, i) ∈ reportedRounds archs cfg lots dir := by
    obtain ⟨compares, fits, canonical⟩ := comparable_of_drawn short (drawn w i within)
    exact documented.files compares fits canonical (implements w i within)
      (fun uses => served w uses i within) within
  apply reported_of_run some_ few _ _ run follows joined
  · intro dir w i
    constructor
    · intro member
      exact ⟨member.1, ((filed w i member.1).2 dir).mpr member⟩
    · rintro ⟨within, files⟩
      exact ((filed w i within).2 dir).mp files
  · exact fun w i within => (filed w i within).1

/-- Silicon that knows no instruction. -/
def refusing : Silicon :=
  fun v => (⟨EXCEPTION_ILLEGAL_INSTRUCTION, kCodeBase, 0, fun _ => 0⟩, v)

/-- Engines on which every instruction but HLT jumps to itself, and the silicon that refuses. -/
def sampleEngines : Engines 128 (BitVec 16 × BitVec 16) (Contents × Nat) SampleJit UcMachine where
  core := epochCore
  executor state memory := ⟨state, memory, reasonAt memory.1 state.rip⟩
  cache := sampleCache
  run := sampleRun
  jit := {}
  api := sampleApi
  silicon := refusing

/-- Three sample processors, of which the second refuses every instruction. -/
def sampleArchs : Architectures := ⟨loopingArch, refusingArch, loopingArch⟩

/-- The sample engines keep their laws. -/
theorem sampleEngines_documented : sampleEngines.Documented Prod.fst sampleStep id where
  memory := epochLaws
  reads memory := sampleReads memory.1
  words := epochWordLaws
  wide := Nat.le_refl _
  cached := sampleCacheLaws
  unrecorded _ := rfl
  released := rfl
  uc := sampleUcLaws
  ucReads := sampleUcReads

/-- The processor that refuses implements the architecture that has no instruction. -/
theorem refusing_silicon (tc : TestCase) : SiliconImplements refusingArch refusing tc where
  reports _ _ _ := .refused rfl
  shows_ _ _ _ _ retired := by cases retired

/-- It reads no code. -/
theorem refusing_readsOwnCode (tc : TestCase) : ReadsOwnCode refusing tc := by
  intro v v' same
  refine ⟨rfl, same.context, fun i => ?_⟩
  have held := same.memory _ (dataWindow_inPages i) (.inl (Nat.le_add_right _ _))
  rw [← data_eq_pageByte] at held
  exact held

/-- A step that retires in place implements the architecture that loops. -/
theorem looping_sevenAt (tc : TestCase)
    (given : CpuState 128 (BitVec 16 × BitVec 16) × Contents × Nat)
    (retires : reasonAt given.2.1 given.1.rip = .none) :
    SevenImplements loopingArch epochCore Prod.fst
      (fun state memory => ⟨state, memory, reasonAt memory.1 state.rip⟩) tc given where
  reports := by
    rw [retires]
    exact .retired
  shows_ after retired := by
    obtain rfl := Except.ok.inj retired
    exact ⟨views_refl tc rfl rfl rfl rfl, rfl, rfl, rfl, fun _ _ => ⟨rfl, rfl⟩⟩
  unmaps _ := id

/-- The sample engines implement the three sample architectures. -/
theorem sampleEngines_implement :
    sampleEngines.Implement Prod.fst id sampleArchs fallback.testCase where
  seven given handed_ := by
    have written : (writeTestCase epochCore (mapScratchPages epochCore epochCore.freshMemory)
        fallback.testCase).1 = true := by
      decide +kernel
    have nop : (writeTestCase epochCore (mapScratchPages epochCore epochCore.freshMemory)
        fallback.testCase).2.1 kCodeBase = some 0x90#8 := by
      decide +kernel
    obtain rfl := Option.some.inj ((handed_of_written written).symm.trans handed_)
    apply looping_sevenAt
    rw [epochWordLaws.startState_rip, reasonAt, nop]
    rfl
  unicorn uc _ := looping_unicorn _ uc
  silicon := refusing_silicon _
  classified _ retired := by cases retired
  readsOwnCode := refusing_readsOwnCode _

/-- A worker whose session refuses the only test case. -/
def sampleLot : WorkerLot where
  testCase _ := fallback.testCase
  victimPath := "seven_fuzz_victim.exe"
  started := .granted freshVictim
  spawn _ := .granted freshVictim
  victim := freshVictim
  stream := startEvents ++
    ⟨some (ofVictim (.exception ⟨EXCEPTION_BREAKPOINT, 0, 0, fun _ => 0⟩)), freshVictim⟩ ::
      [⟨some (ofVictim (.exception (refusing freshVictim).1)),
        preparedVictim (mapPages freshVictim) fallback.testCase⟩]
  discards := 200#64

/-- The sample session serves its test case. -/
theorem sampleLot_served :
    Served refusing (.granted freshVictim) fallback.testCase (sampleLot.session 0) := by
  have ready : (sampleLot.session 0).impl.ready = true := rfl
  have victim : (sampleLot.session 0).victim = mapPages freshVictim := rfl
  have left : (sampleLot.session 0).stream =
      [⟨some (ofVictim (.exception (refusing freshVictim).1)),
        preparedVictim (mapPages freshVictim) fallback.testCase⟩] := rfl
  have atOnce : Interlude passesInRun [] 0 := ⟨List.forall_mem_nil _, by decide⟩
  rw [Served, if_pos ready, victim, left]
  exact ⟨[], [], _, rfl, rfl, atOnce⟩

/-- A run of one worker and one round, with the hardware lane on. -/
def oneServed : ThreadsConfig 1 where
  iterations := 1#64
  watchdogSeconds := 0#32
  useHw := true
  verboseFrom := 1#64

/-- The steps of the only round, with these divergences. -/
def servedRound (d : RoundDivergences) : List (ThreadsEvent 1) :=
  [.worker 0 .start, .worker 0 (.setUp true), .worker 0 .lockIo, .worker 0 .unlockIo,
    .worker 0 .beginCase, .worker 0 .generate, .worker 0 .lockCompute, .worker 0 .unlockCompute,
    .worker 0 (.runHardware true), .worker 0 (.compare d), .worker 0 .lockIo, .worker 0 .unlockIo,
    .worker 0 .count, .worker 0 .endCase, .worker 0 (.leaveLoop 200#64)]

/-- What the only round differs in. -/
def servedDivergences : RoundDivergences where
  sevenVsUnicorn := []
  sevenVsHw := [⟨"seven-jit-vs-hw", ["stop: ok vs ud"]⟩]
  unicornVsHw := [⟨"unicorn-vs-hw", ["stop: ok vs ud"]⟩]

/-- A lane that refuses what another retires diverges from it. -/
theorem diffPair_refused (label : String) {a b : LaneOutcome} {flagsMask : BitVec 64}
    {mask : BitVec 32} (left : a.setupOk = true) (right : b.setupOk = true) (retires : a.stop = .ok)
    (refuses : b.stop = .ud) :
    diffPair label a b flagsMask mask [] = [⟨label, ["stop: ok vs ud"]⟩] := by
  rw [diffPair_eq_of_setupOk label a b flagsMask mask [] left right, diffLines, stopLines, retires,
    refuses]
  rfl

/-- The lanes of the sample run. -/
abbrev sampleLanes : LaneTable 1 :=
  sampleEngines.lanes true "findings" "unicorn_outliers" fun _ => sampleLot

/-- The looping processor shows nothing of its privilege level. -/
theorem seen_looping (tc : TestCase) :
    tc.seen (loopingArch (machineFor tc 3)) = tc.seen (loopingArch (machineFor tc 0)) := rfl

/-- What the sample architectures answer is seen. -/
theorem sampleLot_answered :
    Answered (sampleLot.testCase 0) (sampleArchs.seven (machineFor (sampleLot.testCase 0) 3))
      (sampleArchs.silicon (machineFor (sampleLot.testCase 0) 3))
      (sampleArchs.unicorn (machineFor (sampleLot.testCase 0) 0))
      (sampleEngines.seven true sampleLot 0)
      (runUnicorn sampleEngines.api (sampleLot.testCase 0)) (sampleLot.hw 0) := by
  have flags : ComparedFlags fallback.testCase.flagsMask := by decide
  have fits : fallback.testCase.bytes.length ≤ kPageSize := by decide
  have canonical : fallback.testCase.initial.x87.Canonical := by decide
  refine sampleEngines_documented.answered ?_ ?_ ?_ ?_ ?_ true
  · exact flags
  · exact fits
  · exact canonical
  · exact sampleEngines_implement
  · exact sampleLot_served

/-- The sample round's divergences. -/
theorem sampleLanes_divergences :
    (sampleLanes.brought oneServed).divergences 0 0 = servedDivergences := by
  have answered := sampleLot_answered
  have on : (sampleLanes.brought oneServed).hwOk oneServed 0 0 = true := by
    rw [RoundTable.hwOk]
    exact answered.byHw.setupOk
  have sevenVsUnicorn := (answered.bySeven.agree_iff_seen answered.byUnicorn
    answered.uncaptured).mpr (seen_looping _)
  rw [Engines.divergences_lanes on, roundDivergences, if_pos rfl, if_pos rfl,
    diffPair_refused _ answered.bySeven.setupOk answered.byHw.setupOk answered.bySeven.stop
      answered.byHw.stop,
    diffPair_refused _ answered.byUnicorn.setupOk answered.byHw.setupOk answered.byUnicorn.stop
      answered.byHw.stop, (diffPair_eq_nil_iff_agree _ _ _ _).mpr sevenVsUnicorn]
  rfl

/-- The sample round is what the sample lanes bring. -/
theorem sampleLanes_allows {s : ThreadsState 1} (first : (s.workers 0).point.localI = 0) :
    ∀ event ∈ servedRound servedDivergences, (sampleLanes.brought oneServed).Allows s event := by
  have setupOk : true = (sampleLanes.brought oneServed).setupOk 0 0 :=
    sampleLot_answered.byHw.setupOk.symm
  have compared := sampleLanes_divergences.symm
  rw [← first] at setupOk compared
  intro event listed
  simp only [servedRound, List.mem_cons, List.not_mem_nil, or_false] at listed
  rcases listed with rfl | rfl | rfl | rfl | rfl | rfl | rfl | rfl | rfl | rfl | rfl | rfl | rfl |
    rfl | rfl
  all_goals first | exact setupOk | exact compared | trivial

/-- A generator whose candidates are all refused returns the fallback. -/
theorem draws_fallback (caps : HostCaps) :
    (next (fun _ => none) caps 0).Sometimes fun ended =>
      ended.1.testCase = fallback.testCase := by
  apply Always.sometimes
  refine (next_produced 0).mono fun ended produced => ?_
  rcases produced with returned | accepted
  · rw [returned]
  · cases accepted.encoded

/-- The only round of the sample is a finding. -/
theorem campaign_reports_refused :
    ∃ trace s, Run (threadsStep oneServed) (.initial oneServed 0#64) trace s ∧
      s.counters.findingCount = 1 ∧
      CampaignReported (reportedRounds sampleArchs oneServed fun _ => sampleLot) s := by
  have ends : (play (threadsStep oneServed) (.initial oneServed 0#64)
      (servedRound servedDivergences)).map (fun played => (played.2.counters.findingCount,
        (played.2.workers 0).point.phase.hasReturned,
        (played.1.take 14).all fun moment => (moment.1.workers 0).point.localI == 0)) =
      some (1, true, true) := by
    decide +kernel
  obtain ⟨⟨trace, s⟩, played, same⟩ := Option.map_eq_some_iff.mp ends
  obtain ⟨counted, returned, inFirst⟩ := by simpa only [Prod.mk.injEq] using same
  have run := Run.of_play _ (servedRound servedDivergences) played
  have events := play_events _ (servedRound servedDivergences) played
  have joined (w : Fin 1) : (s.workers w).point.phase.hasReturned = true := by
    obtain rfl := Subsingleton.elim 0 w
    exact returned
  have follows : (sampleLanes.brought oneServed).Follows trace := by
    intro moment member
    rw [← List.take_append_drop 14 trace] at member
    rcases List.mem_append.mp member with member | member
    · apply sampleLanes_allows (beq_iff_eq.mp (List.all_eq_true.mp inFirst moment member))
      rw [← events]
      exact List.mem_map_of_mem (List.mem_of_mem_take member)
    · have last : moment.2 ∈ (servedRound servedDivergences).drop 14 := by
        rw [← events, ← List.map_drop]
        exact List.mem_map_of_mem member
      have leaves : moment.2 = .worker 0 (.leaveLoop 200#64) := List.mem_singleton.mp last
      rw [leaves]
      rfl
  refine ⟨trace, s, run, counted, ?_⟩
  apply campaign_reports (Nat.zero_lt_one) (by decide) sampleEngines_documented _ _ _ _ run follows
    joined
  · exact fun _ => none
  · exact {}
  · rintro _ _ ⟨⟩
  · exact fun _ _ _ => ⟨0, draws_fallback {}⟩
  · exact fun _ _ _ => sampleEngines_implement
  · intro w _ i within
    obtain rfl : i = 0 := Nat.lt_one_iff.mp within
    exact sampleLot_served

end SevenFuzzer
