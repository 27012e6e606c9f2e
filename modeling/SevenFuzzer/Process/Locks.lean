import SevenFuzzer.Library.Fairness
import SevenFuzzer.Process.Accounting
import SevenFuzzer.Process.WatchdogLock

/-! # The two locks of the workers

The computation of a round is serialized by `compute_mutex`, printing and writing by
`io_mutex`. In every state of every run a lock has the owner that stands inside its
section, and no worker stands inside both, so the workers cannot wait for each other in a
circle: while no hung worker holds a lock, a worker that has not returned can go on, or
another one can on whose lock it waits (`SevenFuzzer.locks_exclude_and_release`). A step of
a worker also brings it nearer to its end, so that the workers take only so many in a run
(`SevenFuzzer.workerSteps_le`).
-/

namespace SevenFuzzer

open Transition

variable {threads : Nat} {cfg : ThreadsConfig threads} {s next : ThreadsState threads}
  {event : ThreadsEvent threads} {trace : List (ThreadsState threads × ThreadsEvent threads)}

/-- The compute lock is held exactly by the worker inside its section, and never by the watchdog. -/
structure ComputeMutexHeld (s : ThreadsState threads) : Prop where
  worker : ∀ w, s.computeMutex = some (.worker w) ↔ (s.workers w).point.holdsCompute = true
  watchdog : s.computeMutex ≠ some .watchdog

/-- No lock is held before the start. -/
theorem computeMutexHeld_initial (cfg : ThreadsConfig threads) (clock : BitVec 64) :
    ComputeMutexHeld (.initial cfg clock) := by
  refine ⟨fun w => ?_, fun held => ?_⟩
  · simp [ThreadsState.initial, WorkerPoint.holdsCompute]
  · cases held

/-- **Every step** keeps the compute lock with its section. -/
theorem computeMutexHeld_step (held : ComputeMutexHeld s)
    (moved : threadsStep cfg s event = some next) : ComputeMutexHeld next := by
  cases threadsStep_move moved with
  | @worker w op result ioMutex computeMutex process awake moves io compute seen =>
      obtain ⟨worker, watchdog⟩ := lockStep_holds held.worker compute
      refine ⟨fun v => ?_, fun owned => held.watchdog (watchdog owned)⟩
      rw [worker v, ← point_update (fun _ => WorkerPoint.holdsCompute) s.workers w
        { s.workers w with point := result.point, usesHw := result.usesHw }]
  | @hang w =>
      refine ⟨fun v => (held.worker v).trans ?_, held.watchdog⟩
      have points := point_update (fun _ => WorkerPoint.holdsCompute) s.workers w
        { s.workers w with hung := true }
      rw [congrFun points v, Function.update_eq_self]
  | watchdogLock | report | process => exact ⟨held.worker, held.watchdog⟩

/-- No worker holds both locks. -/
theorem WorkerPoint.holds_one (point : WorkerPoint) :
    ¬ (point.holdsIo = true ∧ point.holdsCompute = true) := by
  cases point with
  | inRound i point => cases point <;> simp [holdsIo, holdsCompute]
  | _ => simp [holdsCompute]

/-- The owners of both locks stand in their sections. -/
structure LocksHeld (s : ThreadsState threads) : Prop where
  io : IoMutexHeld s
  compute : ComputeMutexHeld s

/-- No lock is held before the start. -/
theorem locksHeld_initial (cfg : ThreadsConfig threads) (clock : BitVec 64) :
    LocksHeld (.initial cfg clock) :=
  ⟨ioMutexHeld_initial cfg clock, computeMutexHeld_initial cfg clock⟩

/-- **Every step** keeps both locks with their sections. -/
theorem locksHeld_step (held : LocksHeld s) (moved : threadsStep cfg s event = some next) :
    LocksHeld next :=
  ⟨ioMutexHeld_step held.io moved, computeMutexHeld_step held.compute moved⟩

/-- **Every run** keeps them. -/
theorem locksHeld_of_run {clock : BitVec 64}
    (run : Run (threadsStep cfg) (.initial cfg clock) trace s) : LocksHeld s :=
  run.invariant LocksHeld (locksHeld_initial cfg clock) fun _ _ _ => locksHeld_step

/-- The worker has left its function. -/
def WorkerPoint.hasReturned (point : WorkerPoint) : Bool := point.phase.hasReturned

/-- The operation throws. -/
def WorkerOp.raises : WorkerOp → Bool
  | .raise _ => true
  | _ => false

/-- The process can see what a worker does. -/
theorem OpMove.seen_isSome {cfg : RunConfig threads} {s : ProcessState threads} {w : Fin threads}
    {verboseFrom : BitVec 64} {usesHw : Bool} {counters : SharedCounters} {point : WorkerPoint}
    {op : WorkerOp} {result : WorkerResult}
    (moves : OpMove (cfg.share w) verboseFrom usesHw counters point op result)
    (phase : s.workers w = point.phase) : (seenStep cfg s w result.action).isSome = true := by
  cases moves with
  | beginCase within =>
      simp only [seenStep, liveStep, workerStep, phase, WorkerPoint.phase, within, ↓reduceIte,
        Option.map_some, Option.isSome_some]
  | leaveLoop spent =>
      simp only [seenStep, liveStep, workerStep, phase, WorkerPoint.phase, not_lt.mpr spent,
        ↓reduceIte, Option.map_some, Option.isSome_some]
  | _ =>
      simp only [seenStep, liveStep, workerStep, phase, WorkerPoint.phase, ↓reduceIte,
        Option.map_some, Option.isSome_some]

/-- A lock that is free can be taken. -/
theorem lockStep_isSome (owner : LockOwner threads) {before after : Bool}
    {lock : Option (LockOwner threads)} (free : before = false → after = true → lock = none) :
    (lockStep owner before after lock).isSome = true := by
  cases before <;> cases after
  case false.true =>
      rw [lockStep, if_pos (free rfl rfl)]
      rfl
  all_goals rfl

/-- A worker that is awake takes a step of its own if the locks it would take are free. -/
theorem worker_steps (running : s.exitCode = none) {w : Fin threads}
    (awake : (s.workers w).hung = false) {op : WorkerOp} {result : WorkerResult}
    (stepped : opStep (cfg.share w) cfg.verboseFrom (s.workers w).point (s.workers w).usesHw
      s.counters op = some result)
    (io : (s.workers w).point.holdsIo = false → result.point.holdsIo = true → s.ioMutex = none)
    (compute : (s.workers w).point.holdsCompute = false → result.point.holdsCompute = true →
      s.computeMutex = none) :
    (threadsStep cfg s (.worker w op)).isSome = true := by
  obtain ⟨ioMutex, io⟩ := Option.isSome_iff_exists.mp (lockStep_isSome (.worker w) io)
  obtain ⟨computeMutex, compute⟩ :=
    Option.isSome_iff_exists.mp (lockStep_isSome (.worker w) compute)
  obtain ⟨process, seen⟩ := Option.isSome_iff_exists.mp
    ((opStep_move stepped).seen_isSome (s := s.process) rfl)
  rw [threadsStep, if_pos running, liveThreadsStep, awake, if_neg Bool.false_ne_true,
    workerThreadStep]
  simp only [stepped, io, compute, seen, Option.bind_eq_bind, Option.bind_some]
  rfl

/-- A round always has a next step that is no exception. -/
theorem exists_roundStep (share : Nat) (verboseFrom : BitVec 64) (i : Nat) (usesHw : Bool)
    (counters : SharedCounters) (point : RoundPoint) :
    ∃ op result, op.raises = false ∧
      opStep share verboseFrom (.inRound i point) usesHw counters op = some result := by
  cases point with
  | generated => exact ⟨.generate, _, rfl, rfl⟩
  | io held work =>
      cases held
      · exact ⟨.lockIo, _, rfl, rfl⟩
      · exact ⟨.unlockIo, _, rfl, rfl⟩
  | compute held =>
      cases held
      · exact ⟨.lockCompute, _, rfl, rfl⟩
      · exact ⟨.unlockCompute, _, rfl, rfl⟩
  | testing =>
      have succeeds : roundStep verboseFrom i usesHw counters .testing (.runHardware true) =
          some (.comparing usesHw, counters) := if_neg fun failed => failed.2 rfl
      exact ⟨.runHardware true, _, rfl, congrArg (Option.map _) succeeds⟩
  | comparing hwOkThisRound =>
      have agrees : roundStep verboseFrom i usesHw counters (.comparing hwOkThisRound)
          (.compare ⟨[], [], []⟩) = some (.counting, counters) := by
        simp [roundStep, RoundDivergences.unicornOnlyOutlier, RoundDivergences.divergences]
      exact ⟨.compare ⟨[], [], []⟩, _, rfl, congrArg (Option.map _) agrees⟩
  | saving => exact ⟨.save, _, rfl, rfl⟩
  | counting => exact ⟨.count, _, rfl, rfl⟩
  | done => exact ⟨.endCase, _, rfl, rfl⟩

/-- A worker that has not returned has a next step that is no exception. -/
theorem exists_opStep (share : Nat) (verboseFrom : BitVec 64) (usesHw : Bool)
    (counters : SharedCounters) {point : WorkerPoint} (open_ : point.hasReturned = false) :
    ∃ op result, op.raises = false ∧
      opStep share verboseFrom point usesHw counters op = some result := by
  cases point with
  | notStarted => exact ⟨.start, _, rfl, rfl⟩
  | settingUp =>
      cases usesHw
      · exact ⟨.setUp true, _, rfl, rfl⟩
      · exact ⟨.setUp true, _, rfl, rfl⟩
  | session held =>
      cases held
      · exact ⟨.lockIo, _, rfl, rfl⟩
      · exact ⟨.unlockIo, _, rfl, rfl⟩
  | loopTest i =>
      by_cases within : i < share
      · exact ⟨.beginCase, _, rfl, if_pos within⟩
      · exact ⟨.leaveLoop 0, _, rfl, if_neg within⟩
  | inRound i point => exact exists_roundStep share verboseFrom i usesHw counters point
  | handler i thrown held =>
      cases held
      · exact ⟨.lockIo, _, rfl, rfl⟩
      · exact ⟨.unlockIo, _, rfl, rfl⟩
  | returned caught => cases open_

/-- With both locks free a worker that has not returned can go on. -/
theorem steps_of_free (cfg : ThreadsConfig threads) (running : s.exitCode = none) {w : Fin threads}
    (awake : (s.workers w).hung = false) (open_ : (s.workers w).point.hasReturned = false)
    (io : s.ioMutex = none) (compute : s.computeMutex = none) :
    ∃ op, op.raises = false ∧ (threadsStep cfg s (.worker w op)).isSome = true := by
  obtain ⟨op, result, calm, stepped⟩ := exists_opStep (cfg.share w) cfg.verboseFrom
    (s.workers w).usesHw s.counters open_
  exact ⟨op, calm, worker_steps running awake stepped (fun _ _ => io) fun _ _ => compute⟩

/-- The holder of `compute_mutex` can leave it. -/
theorem steps_of_computing (running : s.exitCode = none) {w : Fin threads}
    (awake : (s.workers w).hung = false) (inside : (s.workers w).point.holdsCompute = true) :
    (threadsStep cfg s (.worker w .unlockCompute)).isSome = true := by
  obtain ⟨i, point⟩ : ∃ i, (s.workers w).point = .inRound i (.compute true) := by
    cases at_ : (s.workers w).point with
    | inRound i point =>
        rw [at_] at inside
        cases point with
        | compute held =>
            obtain rfl : held = true := inside
            exact ⟨i, rfl⟩
        | _ => cases inside
    | _ =>
        rw [at_] at inside
        cases inside
  have stepped : opStep (cfg.share w) cfg.verboseFrom (s.workers w).point (s.workers w).usesHw
      s.counters .unlockCompute = some { point := .inRound i .testing
                                         usesHw := (s.workers w).usesHw
                                         counters := s.counters } := by
    rw [point]
    rfl
  apply worker_steps running awake stepped
  · intro _ taken
    cases taken
  · intro _ taken
    cases taken

/-- At most so many steps of a round are left. -/
def RoundPoint.remaining : RoundPoint → Nat
  | .generated => 15
  | .io held .running => if held then 13 else 14
  | .compute held => if held then 11 else 12
  | .testing => 10
  | .io held .harnessError => if held then 8 else 9
  | .comparing _ => 7
  | .saving => 6
  | .io held (.outlier _) | .io held (.finding _) => if held then 4 else 5
  | .counting => 3
  | .io held .progress => if held then 1 else 2
  | .done => 0

/-- At most so many steps of a worker are left, seventeen for each round. -/
def WorkerPoint.remaining (share : Nat) : WorkerPoint → Nat
  | .notStarted => 17 * share + 7
  | .settingUp => 17 * share + 6
  | .session held => if held then 17 * share + 4 else 17 * share + 5
  | .loopTest i => 17 * (share - i) + 3
  | .inRound i point => 17 * (share - (i + 1)) + 4 + point.remaining
  | .handler _ _ held => if held then 1 else 2
  | .returned _ => 0

/-- Every step of a worker, exceptions included, brings it nearer to its end. -/
theorem OpMove.remaining_lt {share : Nat} {verboseFrom : BitVec 64} {usesHw : Bool}
    {counters : SharedCounters} {point : WorkerPoint} {op : WorkerOp} {result : WorkerResult}
    (moves : OpMove share verboseFrom usesHw counters point op result) :
    result.point.remaining share < point.remaining share := by
  cases moves with
  | beginCase within =>
      simp only [WorkerPoint.remaining, RoundPoint.remaining]
      omega
  | @unlockSection i work =>
      cases work <;> simp [WorkerPoint.remaining, RoundPoint.remaining, RoundSection.next]
  | @lockSection i work => cases work <;> simp [WorkerPoint.remaining, RoundPoint.remaining]
  | generate | save | count =>
      simp only [WorkerPoint.remaining]
      split <;> simp [RoundPoint.remaining]
  | raise => simp only [WorkerPoint.remaining, Bool.false_eq_true, ↓reduceIte]; omega
  | _ => simp [WorkerPoint.remaining, RoundPoint.remaining]

/-- How much the workers still have to do, summed over all of them. -/
def ThreadsState.remaining (cfg : ThreadsConfig threads) (s : ThreadsState threads) : Nat :=
  ∑ w, (s.workers w).point.remaining (cfg.share w)

/-- The event is a worker's step. -/
def ThreadsEvent.isStep : ThreadsEvent threads → Bool
  | .worker _ _ => true
  | _ => false

/-- What is left to do is a matter of the workers' places. -/
theorem remaining_of_workers (cfg : ThreadsConfig threads) {s next : ThreadsState threads}
    (points : ∀ w, (next.workers w).point = (s.workers w).point) :
    next.remaining cfg = s.remaining cfg := by
  simp only [ThreadsState.remaining, points]

/-- A worker hangs where it stands. -/
theorem point_hang (s : ThreadsState threads) (w v : Fin threads) :
    (Function.update s.workers w { s.workers w with hung := true } v).point =
      (s.workers v).point := by
  by_cases same : v = w
  · subst same
    simp only [Function.update_self]
  · simp only [Function.update_of_ne same]

/-- **Every step** of a worker leaves less to do. -/
theorem remaining_step (moved : threadsStep cfg s event = some next) :
    if event.isStep then next.remaining cfg < s.remaining cfg
    else next.remaining cfg = s.remaining cfg := by
  cases threadsStep_move moved with
  | @worker w op result ioMutex computeMutex process awake moves io compute seen =>
      have points := point_update (fun v point => point.remaining (cfg.share v)) s.workers w
        { s.workers w with point := result.point, usesHw := result.usesHw }
      have total := congrArg (fun amounts : Fin threads → Nat => ∑ v, amounts v) points
      have balance := Totals.sum_update
        (fun v => (s.workers v).point.remaining (cfg.share v)) w
        (result.point.remaining (cfg.share w))
      have lower := moves.remaining_lt
      simp only [ThreadsEvent.isStep, ↓reduceIte, ThreadsState.remaining] at total ⊢
      omega
  | @hang w => exact remaining_of_workers cfg (point_hang s w)
  | watchdogLock | report | process => exact rfl

/-- **The workers take only so many steps.** In a run, whatever the interleaving, they are at
most seventeen for each iteration and seven for each worker. -/
theorem workerSteps_le {clock : BitVec 64} (some_ : 0 < threads)
    (run : Run (threadsStep cfg) (.initial cfg clock) trace s) :
    (trace.countP fun moment => moment.2.isStep) + s.remaining cfg ≤
      17 * cfg.iterations.toNat + 7 * threads := by
  have counted := run.count_add_rank_le ThreadsEvent.isStep (ThreadsState.remaining cfg)
    fun state event next moved => by
      have lower := remaining_step moved
      cases step : event.isStep
      · simp only [step, Bool.false_eq_true, ↓reduceIte] at lower ⊢
        exact lower.le
      · simp only [step, ↓reduceIte] at lower ⊢
        exact lower
  have total : (ThreadsState.initial cfg clock).remaining cfg =
      17 * cfg.iterations.toNat + 7 * threads := by
    simp only [ThreadsState.remaining, ThreadsState.initial, WorkerPoint.remaining,
      Finset.sum_add_distrib, ← Finset.mul_sum, sum_share_eq some_, Finset.sum_const,
      Finset.card_univ, Fintype.card_fin, smul_eq_mul]
    omega
  exact total ▸ counted

/-- A worker in the middle of its first round. -/
theorem workerSteps_le_computing : ∃ trace s,
    Run (threadsStep oneThread) (.initial oneThread 0#64) trace s ∧
      (trace.countP fun moment => moment.2.isStep) + s.remaining oneThread ≤ 17 * 10 + 7 * 1 := by
  have run : Run (threadsStep oneThread) _ _ _ := .of_play (.initial oneThread 0#64)
    [.worker 0 .start, .worker 0 (.setUp false), .worker 0 .beginCase] rfl
  exact ⟨_, _, run, workerSteps_le Nat.one_pos run⟩

/-- **Mutual exclusion without deadlock.** At most one worker prints or writes, and not while
the watchdog does, at most one computes, and none does both. As long as no hung worker holds a
lock, a worker that is awake and has not returned is not stuck: a worker that has not returned
can take a step that is no exception, or the watchdog can print its line. -/
theorem locks_exclude_and_release {clock : BitVec 64}
    (run : Run (threadsStep cfg) (.initial cfg clock) trace s) :
    (∀ v w, (s.workers v).point.holdsIo = true → (s.workers w).point.holdsIo = true → v = w) ∧
      (s.ioMutex = some .watchdog → ∀ w, (s.workers w).point.holdsIo = false) ∧
      (∀ v w, (s.workers v).point.holdsCompute = true →
        (s.workers w).point.holdsCompute = true → v = w) ∧
      (∀ w, ¬ ((s.workers w).point.holdsIo = true ∧ (s.workers w).point.holdsCompute = true)) ∧
      (s.exitCode = none →
        (∀ w, (s.workers w).hung = true → (s.workers w).point.holdsIo = false ∧
          (s.workers w).point.holdsCompute = false) →
        ∀ w, (s.workers w).hung = false → (s.workers w).point.hasReturned = false →
          (∃ v op, (s.workers v).point.hasReturned = false ∧ op.raises = false ∧
            (threadsStep cfg s (.worker v op)).isSome = true) ∨
          (threadsStep cfg s (.process (.watchdog .report))).isSome = true) := by
  have held := locksHeld_of_run run
  refine ⟨fun v w first second => ?_, fun owned w => ?_, fun v w first second => ?_,
    fun w => WorkerPoint.holds_one _, fun running free w awake open_ => ?_⟩
  · have same := ((held.io.worker v).mpr first).symm.trans ((held.io.worker w).mpr second)
    cases same
    rfl
  · apply Bool.eq_false_iff.mpr
    intro inside
    cases owned.symm.trans ((held.io.worker w).mpr inside)
  · have same := ((held.compute.worker v).mpr first).symm.trans ((held.compute.worker w).mpr second)
    cases same
    rfl
  · cases io : s.ioMutex with
    | some owner =>
        cases owner with
        | watchdog =>
            right
            obtain ⟨v, found⟩ := held.io.watchdog io
            have phase : s.process.watchdog = .hungFound v := found
            rw [threadsStep, if_pos running, liveThreadsStep, if_pos io]
            simp only [liveStep, watchdogStep, phase, dif_pos (held.io.found v found),
              Option.map_some, Option.isSome_some]
        | worker v =>
            left
            have inside := (held.io.worker v).mp io
            have awake' : (s.workers v).hung = false := by
              apply Bool.eq_false_iff.mpr
              intro hung
              exact Bool.false_ne_true ((free v hung).1.symm.trans inside)
            obtain ⟨next, moved, -⟩ := exists_unlock cfg running awake' inside
            refine ⟨v, .unlockIo, ?_, rfl, by rw [moved]; rfl⟩
            cases point : (s.workers v).point with
            | returned caught =>
                rw [point] at inside
                cases inside
            | _ => rfl
    | none =>
        left
        cases compute : s.computeMutex with
        | none =>
            obtain ⟨op, calm, steps⟩ := steps_of_free cfg running awake open_ io compute
            exact ⟨w, op, open_, calm, steps⟩
        | some owner =>
            cases owner with
            | watchdog => exact absurd compute held.compute.watchdog
            | worker v =>
                have inside := (held.compute.worker v).mp compute
                have awake' : (s.workers v).hung = false := by
                  apply Bool.eq_false_iff.mpr
                  intro hung
                  exact Bool.false_ne_true ((free v hung).2.symm.trans inside)
                refine ⟨v, .unlockCompute, ?_, rfl, steps_of_computing running awake' inside⟩
                cases point : (s.workers v).point with
                | returned caught =>
                    rw [point] at inside
                    cases inside
                | _ => rfl

/-- Two workers without the hardware lane. -/
def twoThreads : ThreadsConfig 2 where
  iterations := 10#64
  watchdogSeconds := 60#32
  useHw := false
  verboseFrom := 10#64

/-- The second worker waits while the first one computes. -/
theorem locks_exclude_and_release_waiting : ∃ trace s,
    Run (threadsStep twoThreads) (.initial twoThreads 0#64) trace s ∧
      (s.workers 1).point = .inRound 0 (.compute false) ∧
      ((∃ v op, (s.workers v).point.hasReturned = false ∧ op.raises = false ∧
        (threadsStep twoThreads s (.worker v op)).isSome = true) ∨
        (threadsStep twoThreads s (.process (.watchdog .report))).isSome = true) := by
  have run : Run (threadsStep twoThreads) _ _ _ := .of_play (.initial twoThreads 0#64)
    [.worker 0 .start, .worker 0 (.setUp false), .worker 0 .beginCase, .worker 0 .generate,
      .worker 0 .lockCompute, .worker 1 .start, .worker 1 (.setUp false), .worker 1 .beginCase,
      .worker 1 .generate] rfl
  obtain ⟨-, -, -, -, steps⟩ := locks_exclude_and_release run
  refine ⟨_, _, run, rfl, steps rfl (fun w hung => ?_) 1 rfl rfl⟩
  revert hung
  revert w
  decide

end SevenFuzzer
