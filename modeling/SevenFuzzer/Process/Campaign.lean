import SevenFuzzer.Process.Accounting
import SevenFuzzer.Process.CommandLine
import SevenFuzzer.Process.Sweep

/-! # What a sweep has covered

`run_seed_sweep` starts a process for each seed and reports how many ended clean. What that
number says of the test cases goes through every stage of a child: the iterations are read
back from its command line, `main` splits them among its workers, the workers run them until
they are through or catch an exception, and main's zero is counted. The seeds counted as
clean times the iterations of a seed are the test cases those children have run, exactly when
none of their workers caught an exception and no kill with exit code zero cut one of them
short (`SevenFuzzer.sweep_coverage_iff`); otherwise the children have run fewer
(`SevenFuzzer.SweptChild.completed_le`).
-/

namespace SevenFuzzer

open Transition

/-- What `main` goes on to when it has read its arguments. -/
inductive MainMode where
  | selfTestEscape | seedSweep | probeBsrZero | workers
  deriving DecidableEq

/-- The mode for the arguments after the program name, in the order `main` asks for it. -/
def mainMode (args : List String) : MainMode :=
  let cfg := parseArguments args
  if cfg.selfTestEscape then .selfTestEscape
  else if 0#32 < cfg.sweepSeeds then .seedSweep
  else if args.head? = some "--probe-bsr-zero" then .probeBsrZero
  else .workers

/-- What `main` hands to its threads, on a host with so many of its own. -/
def Config.runConfig (cfg : Config) (hwConc : BitVec 32) :
    RunConfig (clampThreads cfg.iterations cfg.threads hwConc).toNat :=
  ⟨cfg.iterations, cfg.watchdogSeconds⟩

/-- The child of a sweep is no sweep, no self-test and no probe. -/
theorem mainMode_child {exePath : String} (unquoted : CommandLine.quote ∉ exePath.toList)
    (cfg : Config) (i : BitVec 32) : mainMode (childArguments exePath cfg i) = .workers := by
  have other : some (toString cfg.iterations.toNat) ≠ some "--probe-bsr-zero" := fun same =>
    ne_of_undashed (undashed_decimal _) (by decide) (Option.some.inj same)
  rw [mainMode, childArguments_eq unquoted, parseArguments_child, List.head?_cons, if_neg other]
  rfl

variable {threads : Nat} {cfg : RunConfig threads} {s next final : ProcessState threads}
  {event : ProcessEvent threads} {trace : List (ProcessState threads × ProcessEvent threads)}

/-- A worker that has caught an exception is short of its share, and stays so. -/
theorem WorkerMove.short {share completed : Nat} {caught : Prop} {clock : BitVec 64}
    {heartbeat heartbeat' : WorkerHeartbeat} {phase phase' : WorkerPhase} {action : WorkerAction}
    (moved : WorkerMove share clock heartbeat phase action phase' heartbeat')
    (history : PhaseHistory share completed caught phase) (short : caught → completed < share) :
    (caught ∨ ∃ thrown, action = .raise thrown) →
      completed + (if action = .endCase then 1 else 0) < share := by
  cases moved with
  | start => simpa using short
  | enterLoop => simpa using short
  | beginCase => simpa using short
  | endCase =>
      intro raised
      obtain ⟨_, _, quiet⟩ := history
      exact absurd raised (by simp [quiet])
  | raise =>
      intro _
      obtain ⟨counted, within, _⟩ := history
      simpa [counted] using within
  | leaveHandler => simpa using short
  | leaveLoop => simpa using short

/-- A worker that no exception has stopped yet has run its share at most. -/
theorem PhaseHistory.le_share {share completed : Nat} {caught : Prop} {phase : WorkerPhase}
    (history : PhaseHistory share completed caught phase) (quiet : ¬ caught) :
    completed ≤ share := by
  cases phase with
  | notStarted | settingUp => exact history.1.le.trans (Nat.zero_le _)
  | loopTest i => exact history.1.le.trans history.2.1
  | testCase i => exact history.1.le.trans history.2.1.le
  | handler i thrown => exact absurd history quiet
  | returned thrown =>
      cases thrown with
      | none => exact history.1.le
      | some thrown => exact absurd history quiet

/-- **Every step**: a worker that has caught something falls short of its share. -/
theorem short_step (history : RunHistory cfg trace s)
    (short : ∀ w, Caught w trace → completedCases w trace < cfg.share w)
    (moved : processStep cfg s event = some next) (w : Fin threads) :
    Caught w (trace ++ [(s, event)]) → completedCases w (trace ++ [(s, event)]) < cfg.share w := by
  rw [caught_append, completedCases_append]
  by_cases mine : ∃ action, event = .worker w action
  · obtain ⟨action, rfl⟩ := mine
    cases processStep_move moved with
    | worker stepped => simpa using stepped.short (history.phase w) (short w)
  · have other : ∀ action, event ≠ .worker w action := not_exists.mp mine
    rw [if_neg (other _), Nat.add_zero]
    intro raised
    rcases raised with caught | ⟨thrown, same⟩
    · exact short w caught
    · exact absurd same (other _)

/-- In every run a worker that caught an exception has not run its whole share. -/
theorem short_of_caught {clock : BitVec 64}
    (run : Run (processStep cfg) (.initial cfg clock) trace final) {w : Fin threads}
    (caught : Caught w trace) : completedCases w trace < cfg.share w := by
  have along : RunHistory cfg trace final ∧
      ∀ w, Caught w trace → completedCases w trace < cfg.share w := by
    apply run.history_invariant fun trace s => RunHistory cfg trace s ∧
      ∀ w, Caught w trace → completedCases w trace < cfg.share w
    · refine ⟨runHistory_initial cfg clock, fun w caught => ?_⟩
      exact absurd caught (by simp [Caught])
    · intro trace s event next held moved
      exact ⟨runHistory_step held.1 moved, short_step held.1 held.2 moved⟩
  exact along.2 w caught

/-- The shares are all there is to do. -/
theorem RunConfig.sum_share (cfg : RunConfig threads) (some_ : 0 < threads) :
    ∑ w, cfg.share w = cfg.iterations.toNat :=
  Totals.sum_share some_ _

/-- The test cases the workers of a process have run to the end. -/
def completedByAll (trace : List (ProcessState threads × ProcessEvent threads)) : Nat :=
  ∑ w, completedCases w trace

/-- No worker completes more than its share. -/
theorem completedCases_le {clock : BitVec 64}
    (run : Run (processStep cfg) (.initial cfg clock) trace final) (w : Fin threads) :
    completedCases w trace ≤ cfg.share w := by
  by_cases caught : Caught w trace
  · exact (short_of_caught run caught).le
  · exact ((runHistory_of_run run).phase w).le_share caught

/-- Nor do all of them more than the iterations. -/
theorem completedByAll_le {clock : BitVec 64} (some_ : 0 < threads)
    (run : Run (processStep cfg) (.initial cfg clock) trace final) :
    completedByAll trace ≤ cfg.iterations.toNat := by
  rw [← cfg.sum_share some_]
  exact Finset.sum_le_sum fun w _ => completedCases_le run w

/-- When the exit code is zero, the workers have run all iterations if and only if nothing
stopped one of them short. -/
theorem completedByAll_eq_iff {clock : BitVec 64} (some_ : 0 < threads)
    (run : Run (processStep cfg) (.initial cfg clock) trace final)
    (zero : final.exitCode = some 0#32) :
    completedByAll trace = cfg.iterations.toNat ↔ Unbroken cfg trace := by
  rw [← ranWholeShare_iff_unbroken (runHistory_of_run run) zero, completedByAll,
    ← cfg.sum_share some_, Finset.sum_eq_sum_iff_of_le fun w _ => completedCases_le run w]
  constructor
  · intro whole w
    have all := whole w (Finset.mem_univ w)
    exact ⟨all, fun caught => (short_of_caught run caught).ne all⟩
  · intro whole w _
    exact (whole w).1

/-- A child is counted as clean. -/
def ChildReplies.countedClean (replies : ChildReplies) : Bool :=
  replies.created && decide (verdictOf replies = .clean)

/-- A clean child is counted as one. -/
theorem SweepTally.count_clean (tally : SweepTally) (v : Verdict) :
    (tally.count v).clean = tally.clean + if v = .clean then 1 else 0 := by
  cases v with
  | clean => rfl
  | crashed | watchdogKilled | supervisorKilled => exact (BitVec.add_zero _).symm

/-- So the sweep counts the clean children. -/
theorem sweepChild_clean (tally : SweepTally) (replies : ChildReplies) :
    (sweepChild tally replies).clean =
      tally.clean + if replies.countedClean then 1 else 0 := by
  rw [sweepChild, ChildReplies.countedClean]
  by_cases created : replies.created
  · simp [created, SweepTally.count_clean]
  · simp [created]

/-- The clean count of a sweep, in the width of the counter. -/
theorem runSeedSweep_clean (children : List ChildReplies) :
    (runSeedSweep children).clean = BitVec.ofNat 32 (children.countP (·.countedClean)) := by
  suffices extended : ∀ tally : SweepTally, (children.foldl sweepChild tally).clean =
      tally.clean + BitVec.ofNat 32 (children.countP (·.countedClean)) by
    simpa [runSeedSweep] using extended {}
  induction children with
  | nil => simp
  | cons replies children ih =>
      intro tally
      rw [List.foldl_cons, ih, sweepChild_clean, List.countP_cons, BitVec.add_assoc]
      by_cases clean : replies.countedClean
      · simp [clean, BitVec.ofNat_add, BitVec.add_comm]
      · simp [clean]

/-- A child of a sweep: what the calls made for it replied, and the run of the process they
are about. The code that is read when the wait is over is the one the process ended with. -/
structure SweptChild (cfg : RunConfig threads) where
  replies : ChildReplies
  clock : BitVec 64
  trace : List (ProcessState threads × ProcessEvent threads)
  final : ProcessState threads
  run : Run (processStep cfg) (.initial cfg clock) trace final
  exitCodeRead : replies.created = true → replies.waitTimedOut = false →
    ∃ code, final.exitCode = some code ∧ replies.exitCode = some code

/-- A clean child ended with exit code zero. -/
theorem SweptChild.exitCode_of_clean (child : SweptChild cfg)
    (clean : child.replies.countedClean = true) : child.final.exitCode = some 0#32 := by
  obtain ⟨created, verdict⟩ := by simpa [ChildReplies.countedClean] using clean
  have counted : sweepChild {} child.replies = SweepTally.count {} .clean := by
    rw [sweepChild, if_pos created, verdict]
  obtain ⟨inTime, zero⟩ := (sweepChild_clean_iff {} created).mp counted
  obtain ⟨code, ended, read⟩ := child.exitCodeRead created inTime
  rw [read, Option.getD_some] at zero
  rw [ended, zero]

/-- No child runs more test cases than the iterations. -/
theorem SweptChild.completed_le (child : SweptChild cfg) (some_ : 0 < threads) :
    completedByAll child.trace ≤ cfg.iterations.toNat :=
  completedByAll_le some_ child.run

/-- The child of a sweep reads the iterations of the sweep. -/
theorem iterations_child {exePath : String} (unquoted : CommandLine.quote ∉ exePath.toList)
    (cfg : Config) (i : BitVec 32) :
    (parseArguments (childArguments exePath cfg i)).iterations = cfg.iterations := by
  rw [childArguments_eq unquoted, parseArguments_child, childConfig]

/-- **What a clean count says.** Every child of a sweep goes on to run its workers, and the
seeds a sweep counts as clean times the iterations of a seed are the test cases those
children have run, if and only if none of their workers was stopped short. -/
theorem sweep_coverage_iff {exePath : String} (unquoted : CommandLine.quote ∉ exePath.toList)
    (cfg : Config) (hwConc : BitVec 32)
    (children : ∀ i : Fin cfg.sweepSeeds.toNat, SweptChild
      ((parseArguments (childArguments exePath cfg (BitVec.ofNat 32 i))).runConfig hwConc)) :
    (∀ i : Fin cfg.sweepSeeds.toNat,
      mainMode (childArguments exePath cfg (BitVec.ofNat 32 i)) = .workers) ∧
    (∑ i with (children i).replies.countedClean, completedByAll (children i).trace =
        (runSeedSweep (List.ofFn fun i => (children i).replies)).clean.toNat *
          cfg.iterations.toNat ↔
      ∀ i, (children i).replies.countedClean → Unbroken
        ((parseArguments (childArguments exePath cfg (BitVec.ofNat 32 i))).runConfig hwConc)
        (children i).trace) := by
  have counted : (runSeedSweep (List.ofFn fun i => (children i).replies)).clean.toNat =
      (Finset.univ.filter fun i => (children i).replies.countedClean = true).card := by
    have room := cfg.sweepSeeds.isLt
    have few := Finset.card_le_univ
      (Finset.univ.filter fun i => (children i).replies.countedClean = true)
    rw [Fintype.card_fin] at few
    rw [runSeedSweep_clean, Totals.countP_ofFn, BitVec.toNat_ofNat, Nat.mod_eq_of_lt (by omega)]
  have positive (i : Fin cfg.sweepSeeds.toNat) := clampThreads_pos
    (parseArguments (childArguments exePath cfg (BitVec.ofNat 32 i))).iterations
    (parseArguments (childArguments exePath cfg (BitVec.ofNat 32 i))).threads hwConc
  have iterations (i : Fin cfg.sweepSeeds.toNat) :
      ((parseArguments (childArguments exePath cfg (BitVec.ofNat 32 i))).runConfig
        hwConc).iterations.toNat = cfg.iterations.toNat :=
    congrArg BitVec.toNat (iterations_child unquoted cfg _)
  refine ⟨fun i => mainMode_child unquoted cfg _, ?_⟩
  rw [counted, ← smul_eq_mul, ← Finset.sum_const, Finset.sum_eq_sum_iff_of_le]
  · constructor
    · intro whole i clean
      have all := whole i (Finset.mem_filter.mpr ⟨Finset.mem_univ i, clean⟩)
      rw [← iterations i] at all
      exact (completedByAll_eq_iff (positive i) (children i).run
        ((children i).exitCode_of_clean clean)).mp all
    · intro quiet i member
      have clean := (Finset.mem_filter.mp member).2
      rw [← iterations i]
      exact (completedByAll_eq_iff (positive i) (children i).run
        ((children i).exitCode_of_clean clean)).mpr (quiet i clean)
  · intro i _
    rw [← iterations i]
    exact (children i).completed_le (positive i)

/-- A sweep over one seed, of one iteration on one thread. -/
def oneSeed : Config where
  iterations := 1#64
  seed := 0x10#64
  threads := 1#32
  threadsExplicit := true
  watchdogSeconds := 0#32
  sweepSeeds := 1#32

/-- A process of one worker and one iteration, without a watchdog, can run it and return. -/
theorem exists_clean_run {cfg : RunConfig threads} (one : threads = 1)
    (single : cfg.iterations = 1#64) (unwatched : cfg.watchdogSeconds = 0#32) :
    ∃ child : SweptChild cfg, child.replies.countedClean = true := by
  subst one
  obtain ⟨iterations, watchdogSeconds⟩ := cfg
  subst single unwatched
  have run : Run (processStep oneCase) _ _ _ := .of_play (.initial oneCase 0#64)
    [.worker 0 .start, .worker 0 .enterLoop, .worker 0 .beginCase, .worker 0 .endCase,
      .worker 0 .leaveLoop, .mainReturn] rfl
  exact ⟨⟨{ exitCode := some 0#32 }, _, _, _, run, fun _ _ => ⟨0#32, rfl, rfl⟩⟩, rfl⟩

/-- Its child runs the iteration and is counted as clean. -/
theorem exists_clean_child {exePath : String} (unquoted : CommandLine.quote ∉ exePath.toList)
    (i : BitVec 32) :
    ∃ child : SweptChild ((parseArguments (childArguments exePath oneSeed i)).runConfig 8#32),
      child.replies.countedClean = true := by
  rw [childArguments_eq unquoted, parseArguments_child]
  have one : (clampThreads 1#64 1#32 8#32).toNat = 1 := by decide
  exact exists_clean_run one rfl rfl

/-- A sweep of one seed whose child completes its share. -/
theorem sweep_coverage_one_seed :
    ∃ children : ∀ i : Fin oneSeed.sweepSeeds.toNat, SweptChild ((parseArguments
        (childArguments "seven_fuzzer.exe" oneSeed (BitVec.ofNat 32 i))).runConfig 8#32),
      (∀ i, (children i).replies.countedClean = true) ∧
      (∀ i : Fin oneSeed.sweepSeeds.toNat,
        mainMode (childArguments "seven_fuzzer.exe" oneSeed (BitVec.ofNat 32 i)) = .workers) ∧
      (∑ i with (children i).replies.countedClean, completedByAll (children i).trace =
          (runSeedSweep (List.ofFn fun i => (children i).replies)).clean.toNat *
            oneSeed.iterations.toNat ↔
        ∀ i, (children i).replies.countedClean → Unbroken ((parseArguments
            (childArguments "seven_fuzzer.exe" oneSeed (BitVec.ofNat 32 i))).runConfig 8#32)
          (children i).trace) := by
  have unquoted : CommandLine.quote ∉ "seven_fuzzer.exe".toList := by decide
  choose children clean using fun i : Fin oneSeed.sweepSeeds.toNat =>
    exists_clean_child unquoted (BitVec.ofNat 32 i)
  exact ⟨children, clean, sweep_coverage_iff unquoted oneSeed 8#32 children⟩

end SevenFuzzer
