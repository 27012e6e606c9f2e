import SevenFuzzer.Process.Model

/-! # The verdict of a seed sweep

`run_seed_sweep` waits for each child process and counts it under one of four
verdicts, read off its exit code. `sweep_verdict_iff` follows a child's run from
the test-case loops of its workers to that count: a worker that catches an
exception returns like one that has finished, so main's zero says only that the
workers have been joined, and a zero may also come from a kill that joined nobody.
-/

namespace SevenFuzzer

open Transition

/-- What the sweep says of a child. -/
inductive Verdict where
  | clean | crashed | watchdogKilled | supervisorKilled
  deriving DecidableEq

/-- The text of a verdict. -/
def Verdict.status : Verdict → String
  | .supervisorKilled => "SUPERVISOR TIMEOUT (child's own watchdog never fired)"
  | .watchdogKilled => "watchdog-killed"
  | .crashed => "crashed"
  | .clean => "clean"

/-- The counters of a sweep. -/
structure SweepTally where
  clean : BitVec 32 := 0
  crashed : BitVec 32 := 0
  watchdogKilled : BitVec 32 := 0
  supervisorKilled : BitVec 32 := 0
  deriving DecidableEq

/-- One child more of this verdict. -/
def SweepTally.count (tally : SweepTally) : Verdict → SweepTally
  | .clean => { tally with clean := tally.clean + 1 }
  | .crashed => { tally with crashed := tally.crashed + 1 }
  | .watchdogKilled => { tally with watchdogKilled := tally.watchdogKilled + 1 }
  | .supervisorKilled => { tally with supervisorKilled := tally.supervisorKilled + 1 }

/-- What the calls made for one child reply: `CreateProcessW`, whether
`WaitForSingleObject` timed out, and the code `GetExitCodeProcess` stores, if any. -/
structure ChildReplies where
  created : Bool := true
  waitTimedOut : Bool := false
  exitCode : Option (BitVec 32) := none

/-- The verdict on a child, from the wait and the exit code; an exit code that cannot be had counts
as zero. -/
def verdictOf (replies : ChildReplies) : Verdict :=
  if replies.waitTimedOut then .supervisorKilled
  else
    let exitCode := replies.exitCode.getD 0#32
    if exitCode = 2#32 then .watchdogKilled
    else if exitCode ≠ 0#32 then .crashed
    else .clean

/-- One seed of `run_seed_sweep`: a child that was not launched is not counted. -/
def sweepChild (tally : SweepTally) (replies : ChildReplies) : SweepTally :=
  if replies.created then tally.count (verdictOf replies) else tally

/-- The tally after all children. -/
def runSeedSweep (children : List ChildReplies) : SweepTally :=
  children.foldl sweepChild {}

/-- A tally tells which verdict was counted. -/
theorem SweepTally.count_injective (tally : SweepTally) : Function.Injective tally.count := by
  have moves : ∀ counter : BitVec 32, counter + 1 ≠ counter := by
    intro counter
    bv_omega
  intro v v' same
  cases v <;> cases v' <;> first | rfl | skip
  all_goals
    simp only [SweepTally.count, SweepTally.mk.injEq, moves, (moves _).symm, false_and,
      and_false] at same

/-- A launched child is counted under exactly one verdict. -/
theorem sweepChild_counted_once {replies : ChildReplies} (tally : SweepTally)
    (created : replies.created = true) : ∃! v, sweepChild tally replies = tally.count v := by
  refine ⟨verdictOf replies, if_pos created, fun v counted => ?_⟩
  rw [sweepChild, if_pos created] at counted
  exact (tally.count_injective counted).symm

/-- A child is counted as clean exactly if the wait ended in time and its exit code is zero or
cannot be had. -/
theorem sweepChild_clean_iff {replies : ChildReplies} (tally : SweepTally)
    (created : replies.created = true) :
    sweepChild tally replies = tally.count .clean ↔
      replies.waitTimedOut = false ∧ replies.exitCode.getD 0#32 = 0#32 := by
  rw [sweepChild, if_pos created, tally.count_injective.eq_iff, verdictOf]
  cases replies.waitTimedOut with
  | true => simp
  | false =>
      by_cases killed : replies.exitCode.getD 0#32 = 2#32
      · simp [killed]
      · simp [killed]

variable {threads : Nat} {cfg : RunConfig threads} {s next final : ProcessState threads}
  {event : ProcessEvent threads} {trace : List (ProcessState threads × ProcessEvent threads)}

/-- The test cases a worker has run to the end. -/
def completedCases (w : Fin threads)
    (trace : List (ProcessState threads × ProcessEvent threads)) : Nat :=
  trace.countP fun moment => moment.2 = .worker w .endCase

/-- An exception left the try block of a worker, to be caught by one of its handlers. -/
def Caught (w : Fin threads) (trace : List (ProcessState threads × ProcessEvent threads)) : Prop :=
  ∃ s thrown, (s, .worker w (.raise thrown)) ∈ trace

/-- The worker completed its whole share and caught nothing. -/
def RanWholeShare (cfg : RunConfig threads) (w : Fin threads)
    (trace : List (ProcessState threads × ProcessEvent threads)) : Prop :=
  completedCases w trace = cfg.share w ∧ ¬ Caught w trace

/-- What the run of a worker so far was, by the phase it is in. -/
def PhaseHistory (share completed : Nat) (caught : Prop) : WorkerPhase → Prop
  | .notStarted => completed = 0 ∧ ¬ caught
  | .settingUp => completed = 0 ∧ ¬ caught
  | .loopTest i => completed = i ∧ i ≤ share ∧ ¬ caught
  | .testCase i => completed = i ∧ i < share ∧ ¬ caught
  | .handler _ _ => caught
  | .returned none => completed = share ∧ ¬ caught
  | .returned (some _) => caught

/-- The cases completed after one event more. -/
theorem completedCases_append (w : Fin threads) :
    completedCases w (trace ++ [(s, event)]) =
      completedCases w trace + if event = .worker w .endCase then 1 else 0 := by
  simp [completedCases, List.countP_append]

/-- What has been caught after one event more. -/
theorem caught_append (w : Fin threads) :
    Caught w (trace ++ [(s, event)]) ↔
      Caught w trace ∨ ∃ thrown, event = .worker w (.raise thrown) := by
  simp only [Caught, List.mem_append, List.mem_singleton, Prod.mk.injEq]
  constructor
  · rintro ⟨s', thrown, inside | ⟨_, same⟩⟩
    · exact .inl ⟨s', thrown, inside⟩
    · exact .inr ⟨thrown, same.symm⟩
  · rintro (⟨s', thrown, inside⟩ | ⟨thrown, same⟩)
    · exact ⟨s', thrown, .inl inside⟩
    · exact ⟨s, thrown, .inr ⟨rfl, same.symm⟩⟩

/-- The history of a worker is what it has completed and whether it has caught something. -/
theorem phaseHistory_congr {share completed completed' : Nat} {caught caught' : Prop}
    {phase : WorkerPhase} (same : completed' = completed) (same' : caught' ↔ caught)
    (history : PhaseHistory share completed caught phase) :
    PhaseHistory share completed' caught' phase := by
  rw [same, propext same']
  exact history

/-- One action of a worker carries its history on. -/
theorem WorkerMove.phaseHistory {share completed : Nat} {caught : Prop} {clock : BitVec 64}
    {heartbeat heartbeat' : WorkerHeartbeat} {phase phase' : WorkerPhase} {action : WorkerAction}
    (moved : WorkerMove share clock heartbeat phase action phase' heartbeat')
    (history : PhaseHistory share completed caught phase) :
    PhaseHistory share (completed + if action = .endCase then 1 else 0)
      (caught ∨ ∃ thrown, action = .raise thrown) phase' := by
  cases moved with
  | start => simpa [PhaseHistory] using history
  | enterLoop => simpa [PhaseHistory] using history
  | beginCase within =>
      obtain ⟨counted, _, quiet⟩ := history
      simpa [PhaseHistory] using ⟨counted, within, quiet⟩
  | endCase =>
      obtain ⟨counted, within, quiet⟩ := history
      simpa [PhaseHistory] using ⟨counted, within, quiet⟩
  | raise => simp [PhaseHistory]
  | leaveHandler => simpa [PhaseHistory] using history
  | leaveLoop done =>
      obtain ⟨counted, within, quiet⟩ := history
      simpa [PhaseHistory] using ⟨counted.trans (Nat.le_antisymm within done), quiet⟩

/-- The worker has no test case left to run. -/
def WorkerPhase.isThrough (share : Nat) : WorkerPhase → Bool
  | .notStarted | .settingUp => share == 0
  | .loopTest i => decide (share ≤ i)
  | .returned _ => true
  | _ => false

/-- A worker that caught nothing has run its share exactly when it has no test case left. -/
theorem PhaseHistory.whole_iff {share completed : Nat} {caught : Prop} {phase : WorkerPhase}
    (history : PhaseHistory share completed caught phase) (quiet : ¬ caught) :
    completed = share ↔ phase.isThrough share = true := by
  cases phase with
  | notStarted | settingUp =>
      obtain ⟨rfl, _⟩ := history
      simp only [WorkerPhase.isThrough, beq_iff_eq]
      exact eq_comm
  | loopTest i =>
      obtain ⟨rfl, within, _⟩ := history
      simpa [WorkerPhase.isThrough] using within.ge_iff_eq.symm
  | testCase i =>
      obtain ⟨rfl, within, _⟩ := history
      simpa [WorkerPhase.isThrough] using within.ne
  | handler i thrown => exact absurd history quiet
  | returned thrown =>
      cases thrown with
      | none => simpa [WorkerPhase.isThrough] using history.1
      | some thrown => exact absurd history quiet

/-- The exit code an event leaves, if it ends the process. -/
def ProcessEvent.exitCode : ProcessEvent threads → Option (BitVec 32)
  | .watchdog .terminate => some 2#32
  | .mainReturn => some 0#32
  | .abort code => some code
  | _ => none

/-- The process has the exit code of its last event, and that event moves no worker. -/
theorem processStep_exitCode (moved : processStep cfg s event = some next) :
    next.exitCode = event.exitCode ∧
      (event.exitCode.isSome = true → s.workers = next.workers) := by
  have running := processStep_running moved
  cases processStep_move moved with
  | tick _ | worker _ => exact ⟨running, fun ends => by cases ends⟩
  | watchdog stepped =>
      generalize s.watchdog = phase at stepped
      cases stepped <;> exact ⟨running, fun ends => by cases ends⟩
  | terminate _ | mainReturn _ _ | abort => exact ⟨rfl, fun _ => rfl⟩

/-- What a run has been for each worker, and how it came to its exit code. -/
structure RunHistory (cfg : RunConfig threads)
    (trace : List (ProcessState threads × ProcessEvent threads)) (s : ProcessState threads) :
    Prop where
  phase : ∀ w, PhaseHistory (cfg.share w) (completedCases w trace) (Caught w trace) (s.workers w)
  ended : ∀ before event code, (before, event) ∈ trace → event.exitCode = some code →
    s.exitCode = some code ∧ before.workers = s.workers
  cause : ∀ code, s.exitCode = some code →
    ∃ before event, (before, event) ∈ trace ∧ event.exitCode = some code
  joined : ∀ before, (before, .mainReturn) ∈ trace → ∀ w, (s.workers w).hasReturned = true

/-- Nothing is completed before the start. -/
theorem runHistory_initial (cfg : RunConfig threads) (clock : BitVec 64) :
    RunHistory cfg [] (.initial cfg clock) where
  phase _ := ⟨rfl, by simp [Caught]⟩
  ended _ _ _ member := by cases member
  cause _ ended := by cases ended
  joined _ member := by cases member

/-- A step carries the history of every worker on. -/
theorem phaseHistory_step (history : RunHistory cfg trace s)
    (moved : processStep cfg s event = some next) (w : Fin threads) :
    PhaseHistory (cfg.share w) (completedCases w (trace ++ [(s, event)]))
      (Caught w (trace ++ [(s, event)])) (next.workers w) := by
  rw [completedCases_append, caught_append]
  by_cases mine : ∃ action, event = .worker w action
  · obtain ⟨action, rfl⟩ := mine
    cases processStep_move moved with
    | worker stepped =>
        simpa only [Function.update_self, ProcessEvent.worker.injEq, true_and] using
          stepped.phaseHistory (history.phase w)
  · have other : ∀ action, event ≠ .worker w action := not_exists.mp mine
    have still : next.workers w = s.workers w := by
      cases processStep_move moved with
      | @worker w' action phase heartbeat _ =>
          have apart : w ≠ w' := by
            rintro rfl
            exact other action rfl
          exact Function.update_of_ne apart _ _
      | _ => rfl
    rw [still, if_neg (other _), Nat.add_zero]
    refine phaseHistory_congr rfl ?_ (history.phase w)
    exact or_iff_left fun ⟨thrown, same⟩ => other _ same

/-- **Every step** keeps the histories. -/
theorem runHistory_step (history : RunHistory cfg trace s)
    (moved : processStep cfg s event = some next) :
    RunHistory cfg (trace ++ [(s, event)]) next := by
  have running := processStep_running moved
  obtain ⟨left, still⟩ := processStep_exitCode moved
  have unended : ∀ before event' code, (before, event') ∈ trace → event'.exitCode ≠ some code := by
    intro before event' code member ends
    have already := (history.ended before event' code member ends).1
    rw [running] at already
    cases already
  refine ⟨phaseHistory_step history moved, ?_, ?_, ?_⟩
  · intro before event' code member ends
    rcases List.mem_append.mp member with inside | last
    · exact absurd ends (unended before event' code inside)
    · obtain ⟨rfl, rfl⟩ := Prod.mk.inj (List.mem_singleton.mp last)
      exact ⟨left.trans ends, still (ends ▸ rfl)⟩
  · intro code ends
    exact ⟨s, event, List.mem_append_right _ (List.mem_singleton.mpr rfl), left ▸ ends⟩
  · intro before member
    rcases List.mem_append.mp member with inside | last
    · exact absurd rfl (unended before .mainReturn 0#32 inside)
    · obtain ⟨rfl, rfl⟩ := Prod.mk.inj (List.mem_singleton.mp last)
      cases processStep_move moved with
      | mainReturn joined _ => exact joined

/-- **Every run** keeps the histories. -/
theorem runHistory_of_run {clock : BitVec 64}
    (run : Run (processStep cfg) (.initial cfg clock) trace final) : RunHistory cfg trace final :=
  run.history_invariant _ (runHistory_initial cfg clock) fun _ _ _ _ => runHistory_step

/-- A worker that has returned and caught nothing has run its whole share. -/
theorem ranWholeShare_of_returned (history : RunHistory cfg trace s) {w : Fin threads}
    (returned : (s.workers w).hasReturned = true) (quiet : ¬ Caught w trace) :
    RanWholeShare cfg w trace := by
  refine ⟨((history.phase w).whole_iff quiet).mpr ?_, quiet⟩
  cases held : s.workers w with
  | returned _ => rfl
  | _ =>
      rw [held] at returned
      cases returned

/-- No worker is stopped short of its share: none catches an exception, and when the
process is killed with exit code zero, its workers have no test case left. -/
structure Unbroken (cfg : RunConfig threads)
    (trace : List (ProcessState threads × ProcessEvent threads)) : Prop where
  quiet : ∀ w, ¬ Caught w trace
  through : ∀ before, (before, .abort 0#32) ∈ trace →
    ∀ w, (before.workers w).isThrough (cfg.share w) = true

/-- In a run that ends with exit code zero the workers run their shares exactly when
nothing stops them short. -/
theorem ranWholeShare_iff_unbroken (history : RunHistory cfg trace s)
    (zero : s.exitCode = some 0#32) :
    (∀ w, RanWholeShare cfg w trace) ↔ Unbroken cfg trace := by
  constructor
  · intro whole
    refine ⟨fun w => (whole w).2, fun before killed w => ?_⟩
    obtain ⟨_, still⟩ := history.ended before (.abort 0#32) 0#32 killed rfl
    rw [still]
    exact ((history.phase w).whole_iff (whole w).2).mp (whole w).1
  · intro unbroken w
    obtain ⟨before, event, member, ends⟩ := history.cause 0#32 zero
    obtain ⟨_, still⟩ := history.ended before event 0#32 member ends
    cases event with
    | tick | worker => cases ends
    | watchdog action => cases action <;> cases ends
    | mainReturn =>
        exact ranWholeShare_of_returned history (history.joined before member w) (unbroken.quiet w)
    | abort code =>
        obtain rfl := Option.some.inj ends
        refine ⟨((history.phase w).whole_iff (unbroken.quiet w)).mpr ?_, unbroken.quiet w⟩
        rw [← still]
        exact unbroken.through before member w

/-- The process is ended with an exit code other than zero: by its watchdog, or otherwise
than by main's return. -/
def EndsNonzero (trace : List (ProcessState threads × ProcessEvent threads)) : Prop :=
  ∃ before event code, (before, event) ∈ trace ∧ event.exitCode = some code ∧ code ≠ 0#32

/-- A child is counted once, and as clean only if every worker ran its whole
share and caught nothing, if and only if no worker was stopped short, or the process
was ended with a code other than zero, or the supervisor gave up waiting first. -/
theorem sweep_verdict_iff {clock : BitVec 64} {replies : ChildReplies} (tally : SweepTally)
    (run : Run (processStep cfg) (.initial cfg clock) trace final)
    (created : replies.created = true)
    (exitCodeRead : replies.waitTimedOut = false →
      ∃ code, final.exitCode = some code ∧ replies.exitCode = some code) :
    ((∃! v, sweepChild tally replies = tally.count v) ∧
      (sweepChild tally replies = tally.count .clean → ∀ w, RanWholeShare cfg w trace)) ↔
    (Unbroken cfg trace ∨ EndsNonzero trace ∨ replies.waitTimedOut = true) := by
  have history := runHistory_of_run run
  rw [sweepChild_clean_iff tally created, and_iff_right (sweepChild_counted_once tally created)]
  constructor
  · intro sound
    by_cases timedOut : replies.waitTimedOut = true
    · exact .inr (.inr timedOut)
    · obtain ⟨code, ended, read⟩ := exitCodeRead (Bool.eq_false_iff.mpr timedOut)
      by_cases zero : code = 0#32
      · subst zero
        have counted := sound ⟨Bool.eq_false_iff.mpr timedOut, by rw [read, Option.getD_some]⟩
        exact .inl ((ranWholeShare_iff_unbroken history ended).mp counted)
      · obtain ⟨before, event, member, ends⟩ := history.cause code ended
        exact .inr (.inl ⟨before, event, code, member, ends, zero⟩)
  · rintro condition ⟨inTime, zero⟩
    obtain ⟨code, ended, read⟩ := exitCodeRead inTime
    rw [read, Option.getD_some] at zero
    subst zero
    rcases condition with unbroken | ⟨before, event, code, member, ends, nonzero⟩ | timedOut
    · exact (ranWholeShare_iff_unbroken history ended).mpr unbroken
    · have same := (history.ended before event code member ends).1
      rw [ended] at same
      exact absurd (Option.some.inj same).symm nonzero
    · rw [inTime] at timedOut
      cases timedOut

/-- A child of one worker and one iteration, without a watchdog. -/
def oneCase : RunConfig 1 := ⟨1#64, 0#32⟩

/-- A child that completes its only case. -/
theorem sweep_verdict_clean :
    ∃ trace final, Run (processStep oneCase) (.initial oneCase 0#64) trace final ∧
      (((∃! v, sweepChild {} { exitCode := final.exitCode } = SweepTally.count {} v) ∧
        (sweepChild {} { exitCode := final.exitCode } = SweepTally.count {} .clean →
          ∀ w, RanWholeShare oneCase w trace)) ↔
      (Unbroken oneCase trace ∨ EndsNonzero trace ∨
        ({ exitCode := final.exitCode } : ChildReplies).waitTimedOut = true)) := by
  have run : Run (processStep oneCase) _ _ _ := .of_play (.initial oneCase 0#64)
    [.worker 0 .start, .worker 0 .enterLoop, .worker 0 .beginCase, .worker 0 .endCase,
      .worker 0 .leaveLoop, .mainReturn] rfl
  exact ⟨_, _, run, sweep_verdict_iff {} run rfl fun _ => ⟨0#32, rfl, rfl⟩⟩

/-- The only worker of a child catches an access violation in its only test case,
and the child is counted as clean. -/
theorem sweep_verdict_caught_clean :
    ∃ trace final, Run (processStep oneCase) (.initial oneCase 0#64) trace final ∧
      final.exitCode = some 0#32 ∧
      sweepChild {} { exitCode := final.exitCode } = SweepTally.count {} .clean ∧
      ¬ RanWholeShare oneCase 0 trace := by
  refine ⟨_, _, .of_play _ [.worker 0 .start, .worker 0 .enterLoop, .worker 0 .beginCase,
    .worker 0 (.raise .sehException), .worker 0 .leaveHandler, .mainReturn] rfl, rfl, rfl, ?_⟩
  rintro ⟨_, quiet⟩
  exact quiet ⟨_, _, .tail _ (.tail _ (.tail _ (.head _)))⟩

end SevenFuzzer
