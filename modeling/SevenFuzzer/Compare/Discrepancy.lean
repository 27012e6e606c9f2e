import SevenFuzzer.Compare.Differential
import SevenFuzzer.Compare.Participation

/-! # What a filed round says

A finding is a statement about seven: where the translator or the interpreter implements one
architecture and the silicon another, a round counts a finding exactly if the two differ visibly
on its test case, whatever Unicorn does (`SevenFuzzer.finding_iff_distinct`). And a
disagreement is seldom alone: if exactly one of the three pairs of lanes differs, it is seven and
hardware, in the x87 state (`SevenFuzzer.lone_divergence`).
-/

namespace SevenFuzzer

open Command Transition

/-- Machines that differ where a test case compares them. -/
def MachinesDiffer (tc : TestCase) (m m' : MachineStart (BitVec 16)) : Prop :=
  (∃ i : Fin 16, tc.gprCompareMask.getLsbD i.val = true ∧ m.gpr i ≠ m'.gpr i) ∨ m.rip ≠ m'.rip ∨
    m.flags &&& tc.flagsMask ≠ m'.flags &&& tc.flagsMask ∨
    (∃ i : Fin kDataWindow,
      m.pages ⟨_, dataWindow_inPages i⟩ ≠ m'.pages ⟨_, dataWindow_inPages i⟩) ∨
    X87Differs m.x87 m'.x87

/-- Answers with different faults, or with machines that differ. -/
def Distinct (tc : TestCase) (answer answer' : Except Fault (MachineStart (BitVec 16))) : Prop :=
  faultOf answer ≠ faultOf answer' ∨
    ∃ m m', answer = .ok m ∧ answer' = .ok m' ∧ MachinesDiffer tc m m'

/-- Each outcome has a stop of its own. -/
theorem stopFor_injective : Function.Injective stopFor := by
  intro fault fault' same
  rcases fault with _ | _ | _ | _ | _ <;> rcases fault' with _ | _ | _ | _ | _ <;>
    first | rfl | cases same

/-- Captured x87 states differ exactly if the machines' states do. -/
theorem ShowsX87.differs_iff {x y m m' : X87State} (left : ShowsX87 x m) (right : ShowsX87 y m') :
    X87Differs x y ↔ X87Differs m m' := by
  simp only [X87Differs, left.controlWord, left.statusWord, left.tagWord, right.controlWord,
    right.statusWord, right.tagWord, left.tag, right.tag]
  apply or_congr_right
  apply or_congr_right
  apply or_congr_right
  apply exists_congr
  intro i
  apply and_congr_right
  intro inUse
  apply and_congr_right
  intro inUse'
  rw [(left.used i inUse).1, (left.used i inUse).2, (right.used i inUse').1,
    (right.used i inUse').2]

/-- Captured outcomes differ exactly if what the test case sees of the machines differs. -/
theorem comparedDiffers_iff {tc : TestCase} {out out' : LaneOutcome}
    {m m' : MachineStart (BitVec 16)} (core : ShowsCore tc out.after m)
    (core' : ShowsCore tc out'.after m') (captures : out.capturesX87 = true)
    (captures' : out'.capturesX87 = true) (x87 : ShowsX87 out.after.x87 m.x87)
    (x87' : ShowsX87 out'.after.x87 m'.x87) :
    ComparedDiffers tc.flagsMask tc.gprCompareMask out out' ↔ MachinesDiffer tc m m' := by
  have gpr : GprDiffers tc.gprCompareMask out.after out'.after ↔
      ∃ i : Fin 16, tc.gprCompareMask.getLsbD i.val = true ∧ m.gpr i ≠ m'.gpr i := by
    apply exists_congr
    intro i
    apply and_congr_right
    intro compared
    rw [core.gpr i compared, core'.gpr i compared]
  have window : out.after.dataAfter ≠ out'.after.dataAfter ↔
      ∃ i : Fin kDataWindow,
        m.pages ⟨_, dataWindow_inPages i⟩ ≠ m'.pages ⟨_, dataWindow_inPages i⟩ := by
    rw [Function.ne_iff]
    simp only [core.window, core'.window]
  rw [ComparedDiffers, MachinesDiffer, gpr, core.rip, core'.rip, core.flags, core'.flags, window,
    x87.differs_iff x87', captures, captures']
  simp only [true_and]

/-- Outcomes of two answers agree exactly if the answers are not distinct. -/
theorem Meets.agree_iff {tc : TestCase} {answer answer' : Except Fault (MachineStart (BitVec 16))}
    {out out' : LaneOutcome} (meets : Meets tc answer out) (meets' : Meets tc answer' out')
    (captures : out.capturesX87 = true) (captures' : out'.capturesX87 = true) :
    tc.Agree out out' ↔ ¬ Distinct tc answer answer' := by
  rw [TestCase.Agree, SevenFuzzer.agree_iff _ _ _ _ meets.setupOk meets'.setupOk, meets.stop,
    meets'.stop, stopFor_injective.eq_iff, Distinct, not_or, not_not]
  apply and_congr_right
  intro faults
  cases answer with
  | error fault =>
      refine iff_of_true (fun retired => ?_) ?_
      · cases stopFor_eq_ok retired
      · rintro ⟨_, _, retired, -⟩
        cases retired
  | ok m =>
      obtain ⟨m', rfl⟩ := exists_of_faultOf faults.symm
      have differs := comparedDiffers_iff (meets.core m rfl) (meets'.core m' rfl) captures captures'
        (meets.x87 m rfl captures) (meets'.x87 m' rfl captures')
      rw [differs]
      constructor
      · rintro alike ⟨_, _, same, same', differs⟩
        obtain rfl := Except.ok.inj same
        obtain rfl := Except.ok.inj same'
        exact alike rfl differs
      · exact fun alike _ differs => alike ⟨m, m', rfl, rfl, differs⟩

section

variable (cfg : WorkerConfig) (tc : TestCase) (seven unicorn hw : LaneOutcome)
  (counters : SharedCounters)

/-- A divergence of seven and hardware makes a round a finding, and nothing else does where the
hardware lane ran. -/
theorem finding_iff_disagree :
    ¬ (roundDivergences cfg tc seven unicorn hw true).unicornOnlyOutlier true ∧
      (roundDivergences cfg tc seven unicorn hw true).divergences ≠ [] ↔ ¬ tc.Agree seven hw := by
  obtain ⟨-, sevenVsHw, -⟩ := roundDivergences_of_ran cfg tc seven unicorn hw
  constructor
  · rintro ⟨other, diverged⟩ same
    have silent := sevenVsHw.mpr same
    apply other
    refine ⟨rfl, silent, ?_⟩
    by_contra none
    obtain ⟨first, second⟩ := not_or.mp none
    apply diverged
    rw [RoundDivergences.divergences, not_not.mp first, silent, not_not.mp second]
    rfl
  · intro differs
    have found := mt sevenVsHw.mp differs
    refine ⟨fun outlier => found outlier.2.1, fun none => found ?_⟩
    exact (List.append_eq_nil_iff.mp (List.append_eq_nil_iff.mp none).1).2

/-- A round whose hardware lane ran counts a finding exactly if seven and hardware disagree. -/
theorem round_findingCount (ran : (cfg.workerUseHw && hw.setupOk) = true) :
    (round cfg tc seven unicorn hw counters).1.findingCount =
      counters.findingCount + if tc.Agree seven hw then 0 else 1 := by
  have counts := (round_counts cfg tc seven unicorn hw counters).2
  rw [ran] at counts
  rw [counts, if_congr (finding_iff_disagree cfg tc seven unicorn hw) rfl rfl, ite_not]

/-- Below the limit it writes the finding, with a divergence of the two. -/
theorem round_writesFinding (ran : (cfg.workerUseHw && hw.setupOk) = true)
    (differs : ¬ tc.Agree seven hw) (room : counters.findingCount.slt kMaxDumpFilesPerDir = true) :
    ∃ divergences, Effect.writeFinding .findings counters.findingCount tc cfg.sevenLabel seven
        unicorn hw true divergences ∈ (round cfg tc seven unicorn hw counters).2 ∧
      ∃ d ∈ divergences, d.pairing = cfg.sevenLabel ++ "-vs-hw" := by
  have noted : noteHarnessError cfg hw counters = (counters, []) := by
    rw [noteHarnessError, if_neg]
    rintro ⟨-, failed⟩
    exact failed (Bool.and_eq_true_iff.mp ran).2
  obtain ⟨other, diverged⟩ := (finding_iff_disagree cfg tc seven unicorn hw).mpr differs
  have pair : (roundDivergences cfg tc seven unicorn hw true).sevenVsHw =
      [⟨cfg.sevenLabel ++ "-vs-hw", diffLines seven hw tc.flagsMask tc.gprCompareMask⟩] := by
    rcases diffPair_eq_self_or (cfg.sevenLabel ++ "-vs-hw") seven hw tc.flagsMask
      tc.gprCompareMask [] with none | one
    · exact absurd ((diffPair_eq_nil_iff_agree _ tc seven hw).mp none) differs
    · exact one
  refine ⟨(roundDivergences cfg tc seven unicorn hw true).divergences, ?_,
    ⟨cfg.sevenLabel ++ "-vs-hw", diffLines seven hw tc.flagsMask tc.gprCompareMask⟩, ?_, rfl⟩
  · rw [round]
    dsimp only
    rw [noted, ran, triage]
    dsimp only
    rw [if_neg other, if_pos diverged, if_pos room]
    simp only [List.nil_append, List.cons_append, List.mem_cons, true_or]
  · rw [RoundDivergences.divergences, pair]
    simp only [List.mem_append, List.mem_singleton, true_or, or_true]

end

section

variable {width : Nat} {Rest Memory Jit : Type} {core : SevenCore width Rest Memory}
  {held : Memory → Contents} {step : EngineStep width Rest}
  {executor : CpuState width Rest → Memory → ExecutionResult width Rest Memory}
  {run : Jit → CpuState width Rest → Memory → Nat → Jit × ExecutionResult width Rest Memory}
  {silicon : Silicon} {arch siliconArch : Architecture}

/-- Seven captures the x87 state whenever it runs. -/
theorem runSeven_capturesX87 {tc : TestCase} (ran : (runSeven core executor tc).setupOk = true) :
    (runSeven core executor tc).capturesX87 = true := by
  rw [runSeven] at ran ⊢
  dsimp only at ran ⊢
  split at ran
  · cases ran
  · rename_i written
    rw [if_neg written]

/-- So does its compiler. -/
theorem runSevenJit_capturesX87 {tc : TestCase} {jit : Jit} {memory : Memory}
    (ran : (runSevenJit core run tc jit memory).1.setupOk = true) :
    (runSevenJit core run tc jit memory).1.capturesX87 = true := by
  rw [runSevenJit] at ran ⊢
  dsimp only at ran ⊢
  split at ran
  · cases ran
  · rename_i written
    rw [if_neg written]

/-- So does whichever of the two a worker uses. -/
theorem sevenOutcome_captures {useJit : Bool} {history : List TestCase} {jit : Jit} {tc : TestCase}
    (ran : (sevenOutcome core executor run useJit history jit tc).setupOk = true) :
    (sevenOutcome core executor run useJit history jit tc).capturesX87 = true := by
  cases useJit with
  | true => exact runSevenJit_capturesX87 ran
  | false => exact runSeven_capturesX87 ran

/-- **Findings are about seven.** If seven implements one architecture and the silicon another, a
round with a served hardware lane counts a finding if the two differ visibly on its test case,
and below the limit writes it with a divergence of the two, and counts none if they do not;
whatever Unicorn answers, and whatever the lanes have been through. -/
theorem finding_iff_distinct (cfg : WorkerConfig) (useHw : cfg.workerUseHw = true) {tc : TestCase}
    (counters : SharedCounters) (unicorn : LaneOutcome)
    (within : tc.ComparesFlags) (fits : tc.bytes.length ≤ kPageSize)
    (canonical : tc.initial.x87.Canonical)
    (classified : ∀ after, siliconArch (machineFor tc 3) = .ok after → after.x87.Canonical)
    (laws : MemoryLaws core held) (reads : Reads core held) (words : WordLaws core)
    (wide : 128 ≤ width) (performs : Performs held step executor run)
    (seven : ∀ given, handed core (mapScratchPages core core.freshMemory) tc = some given →
      SevenImplements arch core held executor tc given)
    (history : List TestCase) (jit : Jit)
    (hardware : SiliconImplements siliconArch silicon tc) (own : ReadsOwnCode silicon tc)
    {victim : Victim} {stream : List Delivery} {trace : List (World × SessionCall)} {w : World}
    (session : Run sessionStep (.initial victim stream) trace w) {spawn : SpawnReplies}
    (served : Served silicon spawn tc w) :
    let sevenOut := sevenOutcome core executor run cfg.useJit history jit tc
    let hw := (runOne { spawn := spawn } tc w).1
    let distinct := Distinct tc (arch (machineFor tc 3)) (siliconArch (machineFor tc 3))
    let filed := round cfg tc sevenOut unicorn hw counters
    (distinct → filed.1.findingCount = counters.findingCount + 1 ∧
      (counters.findingCount.slt kMaxDumpFilesPerDir = true → ∃ divergences,
        Effect.writeFinding .findings counters.findingCount tc cfg.sevenLabel sevenOut unicorn hw
          true divergences ∈ filed.2 ∧
        ∃ d ∈ divergences, d.pairing = cfg.sevenLabel ++ "-vs-hw")) ∧
    (¬ distinct → filed.1.findingCount = counters.findingCount) := by
  intro sevenOut hw distinct filed
  have first : Meets tc (arch (machineFor tc 3)) sevenOut :=
    sevenOutcome_meets within fits laws reads words wide performs seven cfg.useJit history jit
  obtain ⟨v, observed⟩ := runOne_observe (bounded_of_run session) served
  have asked : hw = oracle silicon tc := observed.trans (own.observe_eq v)
  have second : Meets tc (siliconArch (machineFor tc 3)) hw := by
    rw [asked]
    exact oracle_meets within fits canonical classified hardware
  have ran : (cfg.workerUseHw && hw.setupOk) = true := by
    rw [useHw, second.setupOk]
    rfl
  have captures : hw.capturesX87 = true := by
    rw [asked]
    rfl
  have agree : tc.Agree sevenOut hw ↔ ¬ distinct :=
    first.agree_iff second (sevenOutcome_captures first.setupOk) captures
  have counted := round_findingCount cfg tc sevenOut unicorn hw counters ran
  constructor
  · intro differs
    have apart : ¬ tc.Agree sevenOut hw := fun same => agree.mp same differs
    rw [if_neg apart] at counted
    exact ⟨counted, round_writesFinding cfg tc sevenOut unicorn hw counters ran apart⟩
  · intro alike
    rw [if_pos (agree.mpr alike)] at counted
    exact counted.trans (BitVec.add_zero _)

end

/-- No instruction is known. -/
def refusingArch : Architecture := fun _ => .error .ud

/-- An engine that refuses every instruction implements the architecture that has none. -/
theorem refusing_seven (tc : TestCase) (given : CpuState 128 (BitVec 16 × BitVec 16) × Contents) :
    SevenImplements refusingArch sampleCore id (stopsFor .invalidOpcode) tc given where
  reports := .invalidOpcode
  shows_ _ retired := nomatch retired
  unmaps _ := id

/-- Seven knows no instruction, and Unicorn fails; a finding is counted. -/
theorem finding_iff_distinct_refusing :
    let cfg : WorkerConfig := ⟨0, false, true, 1, "findings", "unicorn_outliers"⟩
    (round cfg {}
      (sevenOutcome sampleCore (stopsFor .invalidOpcode) (runs (stopsFor .invalidOpcode))
        cfg.useJit [] () {}) { setupOk := false }
      (runOne { spawn := .granted freshVictim } {} deniedWorld).1
        {}).1.findingCount = ({} : SharedCounters).findingCount + 1 := by
  intro cfg
  have within : TestCase.ComparesFlags {} := BitVec.and_self
  have canonical : (machineFor {} 3).x87.Canonical := by decide
  have classified : ∀ after, loopingArch (machineFor {} 3) = .ok after → after.x87.Canonical := by
    intro after retired
    obtain rfl := Except.ok.inj retired
    exact canonical
  have session : Run sessionStep (.initial freshVictim loopedStream) _ deniedWorld :=
    Run.nil.snoc rfl
  have distinct : Distinct {} (refusingArch (machineFor {} 3)) (loopingArch (machineFor {} 3)) :=
    .inl nofun
  exact ((finding_iff_distinct cfg rfl {} { setupOk := false } within (Nat.zero_le _) canonical
    classified sampleLaws sampleReads sampleWordLaws (le_refl _) (performs_stopsFor .invalidOpcode)
    (fun given _ => refusing_seven {} given) [] () (looping_silicon {}) (looping_readsOwnCode {})
    session looping_served).1 distinct).1

/-- What two outcomes that agree with a third can differ in. -/
theorem diffLines_of_agree {tc : TestCase} {seven unicorn hw : LaneOutcome}
    (retired : seven.stop = .ok) (stops : seven.stop = hw.stop)
    (first : ¬ ComparedDiffers tc.flagsMask tc.gprCompareMask seven unicorn)
    (second : ¬ ComparedDiffers tc.flagsMask tc.gprCompareMask unicorn hw) :
    diffLines seven hw tc.flagsMask tc.gprCompareMask =
      if seven.capturesX87 = true ∧ hw.capturesX87 = true then
        x87Lines seven.after.x87 hw.after.x87 else [] := by
  simp only [ComparedDiffers, not_or, GprDiffers, not_exists, not_and, ne_eq, not_not]
    at first second
  obtain ⟨gpr, rip, flags, data, -⟩ := first
  obtain ⟨gpr', rip', flags', data', -⟩ := second
  have registers : gprLines tc.gprCompareMask seven.after hw.after = [] := by
    apply (gprLines_eq_nil_iff _ _ _).mpr
    rintro ⟨i, compared, differs⟩
    exact differs ((gpr i compared).trans (gpr' i compared))
  rw [diffLines, (stopLines_eq_nil_iff _ _).mpr stops, if_pos ⟨retired, stops.symm.trans retired⟩,
    registers, (ripLines_eq_nil_iff _ _).mpr (rip.trans rip'),
    (flagsLines_eq_nil_iff _ _ _).mpr (flags.trans flags'),
    (dataLines_eq_nil_iff _ _).mpr (data.trans data')]
  rfl

/-- **A divergence that is alone.** If a round in which every lane ran has one divergence, all
three retired the instruction, and seven and hardware differ in the x87 state alone: Unicorn,
whose x87 state is not captured, never differs from only one of the others. -/
theorem lone_divergence (cfg : WorkerConfig) (tc : TestCase) (seven unicorn hw : LaneOutcome)
    (sevenRan : seven.setupOk = true) (unicornRan : unicorn.setupOk = true)
    (hwRan : hw.setupOk = true) (uncaptured : unicorn.capturesX87 = false)
    (alone : (roundDivergences cfg tc seven unicorn hw true).divergences.length = 1) :
    (seven.stop = .ok ∧ unicorn.stop = .ok ∧ hw.stop = .ok) ∧
      (seven.capturesX87 = true ∧ hw.capturesX87 = true) ∧
      (roundDivergences cfg tc seven unicorn hw true).divergences =
        [⟨cfg.sevenLabel ++ "-vs-hw", x87Lines seven.after.x87 hw.after.x87⟩] := by
  obtain ⟨su, sh, uh⟩ := roundDivergences_of_ran cfg tc seven unicorn hw
  have pairs : (roundDivergences cfg tc seven unicorn hw true).divergences =
      (roundDivergences cfg tc seven unicorn hw true).sevenVsUnicorn ++
        (roundDivergences cfg tc seven unicorn hw true).sevenVsHw ++
        (roundDivergences cfg tc seven unicorn hw true).unicornVsHw := rfl
  rw [pairs, List.length_append, List.length_append] at alone
  have nonempty {list : List Divergence} (some_ : list ≠ []) : 0 < list.length :=
    List.length_pos_iff.mpr some_
  by_cases same : tc.Agree seven hw
  · have through :=
      tc.agree_congr_of_agree seven hw unicorn sevenRan hwRan unicornRan uncaptured same
    rw [tc.agree_comm hw unicorn hwRan unicornRan] at through
    rw [sh.mpr same, List.length_nil] at alone
    by_cases unicornSame : tc.Agree seven unicorn
    · rw [su.mpr unicornSame, uh.mpr (through.mp unicornSame)] at alone
      cases alone
    · have one := nonempty (mt su.mp unicornSame)
      have two := nonempty (mt uh.mp (mt through.mpr unicornSame))
      omega
  · have one := nonempty (mt sh.mp same)
    have none_ : (roundDivergences cfg tc seven unicorn hw true).sevenVsUnicorn = [] :=
      List.length_eq_zero_iff.mp (by omega)
    have none' : (roundDivergences cfg tc seven unicorn hw true).unicornVsHw = [] :=
      List.length_eq_zero_iff.mp (by omega)
    have first := su.mp none_
    have second := uh.mp none'
    rw [TestCase.Agree, agree_iff _ _ _ _ sevenRan unicornRan] at first
    rw [TestCase.Agree, agree_iff _ _ _ _ unicornRan hwRan] at second
    rw [TestCase.Agree, agree_iff _ _ _ _ sevenRan hwRan] at same
    have stops := first.1.trans second.1
    have retired : seven.stop = .ok := by
      by_contra faulted
      exact same ⟨stops, fun retired => absurd retired faulted⟩
    have lines := diffLines_of_agree retired stops (first.2 retired)
      (second.2 (first.1.symm.trans retired))
    have differ : diffLines seven hw tc.flagsMask tc.gprCompareMask ≠ [] := fun empty =>
      same ((diffLines_eq_nil_iff _ _ _ _).mp empty)
    have captures : seven.capturesX87 = true ∧ hw.capturesX87 = true := by
      by_contra uncaptured
      rw [lines, if_neg uncaptured] at differ
      exact differ rfl
    refine ⟨⟨retired, first.1.symm.trans retired, stops.symm.trans retired⟩, captures, ?_⟩
    rw [pairs, none_, none', List.nil_append, List.append_nil, roundDivergences]
    dsimp only
    rw [if_pos rfl, diffPair_eq_of_setupOk _ _ _ _ _ _ sevenRan hwRan, if_pos differ, lines,
      if_pos captures, List.nil_append]

/-- Seven has cleared its control word. -/
def clearedControl : LaneOutcome :=
  { after := { x87 := { controlWord := 0 } }, capturesX87 := true }

/-- A lane that alone returns another control word. -/
theorem lone_divergence_control :
    let d := roundDivergences ⟨0, false, true, 1, "findings", "unicorn_outliers"⟩ {}
      clearedControl {}
      { capturesX87 := true } true
    d.divergences.map Divergence.lines = [["x87 cw: 0000 vs 037F"]] := by
  have lines : x87Lines clearedControl.after.x87 ({} : LaneOutcome).after.x87 =
      ["x87 cw: 0000 vs 037F"] := by decide +kernel
  have alone := (lone_divergence ⟨0, false, true, 1, "findings", "unicorn_outliers"⟩ {}
    clearedControl {} { capturesX87 := true } rfl rfl rfl rfl (by decide +kernel)).2.2
  exact (congrArg (List.map Divergence.lines) alone).trans (congrArg List.singleton lines)

end SevenFuzzer
