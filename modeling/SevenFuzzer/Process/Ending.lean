import SevenFuzzer.Process.Locks
import SevenFuzzer.Process.Scan
import Mathlib.Data.Prod.Lex

/-! # Every run ends

The scheduler is only asked to be just, an exception and a hang are nobody's turn, and the
clock may stand still as long as nobody hangs. Then a process ends on its own, unless a
worker hangs that holds the lock the watchdog prints under (`SevenFuzzer.unattended_run_ends`).
Three things are shown to happen sooner or later: a watchdog that has found a hung worker
terminates the process, workers of which none hangs return and are joined or the watchdog
takes one for hung, and the watchdog finds a worker that hangs.
-/

namespace SevenFuzzer

open Transition

variable {threads : Nat} {cfg : ThreadsConfig threads} {s next : ThreadsState threads}
  {event : ThreadsEvent threads}

/-- The threads that wait for their turn. -/
inductive ThreadId (threads : Nat) where
  | worker (w : Fin threads)
  | watchdog
  | main
  deriving DecidableEq

/-- Whose turn an event is. -/
def ThreadsEvent.thread : ThreadsEvent threads → Option (ThreadId threads)
  | .worker w op => if op.raises then none else some (.worker w)
  | .hang _ => none
  | .watchdogLock => some .watchdog
  | .process (.watchdog _) => some .watchdog
  | .process .mainReturn => some .main
  | .process _ => none

/-- The thread can take a step. -/
abbrev Able (cfg : ThreadsConfig threads) (s : ThreadsState threads)
    (t : ThreadId threads) : Prop :=
  Enabled ThreadsEvent.thread (threadsStep cfg) s t

/-- What holds of every state a run reaches. -/
structure Reached (cfg : ThreadsConfig threads) (s : ThreadsState threads) : Prop where
  locks : LocksHeld s
  ordered : ClockOrder s.process
  scanned : Scanned cfg.toRunConfig s.process
  finished : ∀ w, (s.heartbeats w).finished = (s.workers w).point.hasReturned

/-- Every state of a behaviour is reached. -/
theorem reached_of_behaviour {clock : BitVec 64}
    (behaviour : Behaviour (threadsStep cfg) (.initial cfg clock)) (n : Nat) :
    Reached cfg (behaviour.state n) := by
  obtain ⟨trace, run⟩ := behaviour.run n
  obtain ⟨seen, processRun⟩ := threadsRun_process run
  exact ⟨locksHeld_of_run run, clockOrder_of_run processRun, scanned_of_run processRun,
    (observed_of_run processRun).finished⟩

/-- A worker inside a section has not returned. -/
theorem WorkerPoint.open_of_holds {point : WorkerPoint}
    (inside : point.holdsIo = true ∨ point.holdsCompute = true) : point.hasReturned = false := by
  cases point with
  | returned => exact (inside.elim Bool.false_ne_true Bool.false_ne_true).elim
  | _ => rfl

/-- A step in which no worker moves: the end of the process, the clock, the watchdog, or a hang. -/
inductive OtherMove (cfg : ThreadsConfig threads) (s : ThreadsState threads) :
    ThreadsEvent threads → ThreadsState threads → Prop where
  | exits {event : ThreadsEvent threads} {next : ThreadsState threads}
      (ended : next.exitCode ≠ none) : OtherMove cfg s event next
  | tick {clock : BitVec 64} (later : s.clock ≤ clock) :
      OtherMove cfg s (.process (.tick clock)) { s with clock := clock }
  | hang {w : Fin threads} : OtherMove cfg s (.hang w)
      { s with workers := Function.update s.workers w { s.workers w with hung := true } }
  | lock {v : Nat} (found : s.watchdog = .hungFound v) (free : s.ioMutex = none) :
      OtherMove cfg s .watchdogLock { s with ioMutex := some .watchdog }
  | watchdog {action : WatchdogAction} {phase : WatchdogPhase}
      {ioMutex : Option (LockOwner threads)}
      (moves : WatchdogMove cfg.toRunConfig s.clock s.heartbeats s.watchdog action phase)
      (calm : s.watchdog.alarmed = false → ioMutex = s.ioMutex) :
      OtherMove cfg s (.process (.watchdog action)) { s with watchdog := phase, ioMutex := ioMutex }

/-- A step of the watchdog or the clock moves no worker. -/
theorem otherMove (moved : threadsStep cfg s event = some next) (other : event.isStep = false) :
    OtherMove cfg s event next := by
  have running : s.process.exitCode = none := threadsStep_running moved
  cases threadsStep_move moved with
  | worker => cases other
  | hang => exact .hang
  | watchdogLock found free => exact .lock found free
  | report owned seen =>
      cases processStep_move ((if_pos running).trans seen) with
      | watchdog moves =>
          refine .watchdog moves fun calm => ?_
          generalize before : s.process.watchdog = phase at moves
          have found : s.watchdog = phase := before
          cases moves with
          | report =>
              rw [found] at calm
              cases calm
  | process foreign distinct seen =>
      cases processStep_move ((if_pos running).trans seen) with
      | tick later => exact .tick later
      | worker => exact absurd rfl (foreign _ _)
      | watchdog moves => exact .watchdog moves fun _ => rfl
      | terminate => exact .exits (by simp [ThreadsState.withProcess])
      | mainReturn => exact .exits (by simp [ThreadsState.withProcess])
      | abort => exact .exits (by simp [ThreadsState.withProcess])

/-- What is left alone when a worker moves. -/
theorem step_frame (moved : threadsStep cfg s event = some next) (step : event.isStep = true) :
    next.watchdog = s.watchdog ∧ next.exitCode = s.exitCode ∧
      ∃ w, (s.workers w).hung = false ∧ event.thread ≠ some .watchdog ∧
        next.clock = s.clock ∧
        ∀ v ≠ w, next.workers v = s.workers v ∧ next.heartbeats v = s.heartbeats v := by
  cases threadsStep_move moved with
  | @worker w op result ioMutex computeMutex process awake moves io compute seen =>
      obtain ⟨watchdog, exitCode⟩ := seenStep_frame seen
      refine ⟨watchdog, exitCode, w, awake, ?_, ?_, fun v other => ?_⟩
      · rw [ThreadsEvent.thread]
        split <;> simp
      · cases action : result.action with
        | none =>
            rw [action] at seen
            obtain rfl := Option.some.inj seen
            rfl
        | some act =>
            rw [action] at seen
            obtain ⟨_, _, rfl⟩ := Option.map_eq_some_iff.mp seen
            rfl
      · refine ⟨Function.update_of_ne other _ _, ?_⟩
        cases action : result.action with
        | none =>
            rw [action] at seen
            obtain rfl := Option.some.inj seen
            rfl
        | some act =>
            rw [action] at seen
            obtain ⟨_, _, rfl⟩ := Option.map_eq_some_iff.mp seen
            exact Function.update_of_ne other _ _
  | hang => cases step
  | watchdogLock => cases step
  | report => cases step
  | process => cases step

/-! ## Whose turn it is -/

/-- A worker that is awake and whose lock is free can take a step. -/
theorem able_worker (running : s.exitCode = none) {w : Fin threads}
    (awake : (s.workers w).hung = false) (open_ : (s.workers w).point.hasReturned = false)
    (locks : LocksHeld s) (turn : s.ioMutex = some (.worker w) ∨ (s.ioMutex = none ∧
      (s.computeMutex = some (.worker w) ∨ s.computeMutex = none))) : Able cfg s (.worker w) := by
  rcases turn with inside | ⟨io, inside | compute⟩
  · obtain ⟨next, moved, -⟩ := exists_unlock cfg running awake ((locks.io.worker w).mp inside)
    exact ⟨.worker w .unlockIo, rfl, by rw [moved]; rfl⟩
  · exact ⟨.worker w .unlockCompute, rfl,
      steps_of_computing running awake ((locks.compute.worker w).mp inside)⟩
  · obtain ⟨op, calm, steps⟩ := steps_of_free cfg running awake open_ io compute
    refine ⟨.worker w op, ?_, steps⟩
    rw [ThreadsEvent.thread, calm]
    rfl

/-- The watchdog can move until it returns, unless it waits for the lock. -/
theorem able_watchdog (running : s.exitCode = none) (reached : Reached cfg s)
    (watching : s.watchdog ≠ .returned)
    (unlocked : ∀ v, s.watchdog = .hungFound v → ∀ w, s.ioMutex ≠ some (.worker w)) :
    Able cfg s .watchdog := by
  have step (action : WatchdogAction) (other : action ≠ .report)
      (moves : (liveStep cfg.toRunConfig s.process (.watchdog action)).isSome = true) :
      Able cfg s .watchdog := by
    refine ⟨.process (.watchdog action), rfl, ?_⟩
    rw [threadsStep, if_pos running]
    cases action with
    | report => exact absurd rfl other
    | _ => simpa only [liveThreadsStep, Option.isSome_map] using moves
  have phase : s.process.watchdog = s.watchdog := rfl
  cases at_ : s.watchdog with
  | sleeping =>
      apply step .wake (by rintro ⟨⟩)
      simp only [liveStep, watchdogStep, phase, at_, ↓reduceIte, Option.map_some,
        Option.isSome_some]
  | scanning now k all =>
      by_cases within : k < threads
      · apply step .loadFinished (by rintro ⟨⟩)
        simp only [liveStep, watchdogStep, phase, at_, dif_pos within]
        split <;> rfl
      · apply step .endScan (by rintro ⟨⟩)
        simp only [liveStep, watchdogStep, phase, at_, if_neg within, Option.map_some,
          Option.isSome_some]
  | loading now k =>
      apply step .loadTick (by rintro ⟨⟩)
      simp only [liveStep, watchdogStep, phase, at_, dif_pos (reached.scanned.loading now k at_).1]
      split <;> rfl
  | hungFound v =>
      cases io : s.ioMutex with
      | none =>
          refine ⟨.watchdogLock, rfl, ?_⟩
          rw [threadsStep, if_pos running, liveThreadsStep, at_, io]
          rfl
      | some owner =>
          cases owner with
          | watchdog =>
              refine ⟨.process (.watchdog .report), rfl, ?_⟩
              rw [threadsStep, if_pos running, liveThreadsStep, if_pos io]
              simp only [liveStep, watchdogStep, phase, at_, dif_pos (reached.locks.io.found v at_),
                Option.map_some, Option.isSome_some]
          | worker w => exact absurd io (unlocked v at_ w)
  | hungReported message =>
      apply step .terminate (by rintro ⟨⟩)
      simp only [liveStep, phase, at_, Option.isSome_some]
  | returned => exact absurd at_ watching

/-- How far a watchdog that has found a hung worker is from the end. -/
def alarmRank (s : ThreadsState threads) : Nat :=
  match s.watchdog with
  | .hungFound _ => if s.ioMutex = some .watchdog then 1 else 2
  | _ => 0

/-- The thread an alarmed watchdog waits for, or the watchdog. -/
def AlarmHelper (s : ThreadsState threads) : ThreadId threads → Prop
  | .worker w => (∃ v, s.watchdog = .hungFound v) ∧ s.ioMutex = some (.worker w)
  | .watchdog => ∀ v, s.watchdog = .hungFound v → ∀ w, s.ioMutex ≠ some (.worker w)
  | .main => False

/-- An alarm stands until the process ends. -/
theorem alarmed_step (alarmed : s.watchdog.alarmed = true)
    (moved : threadsStep cfg s event = some next) :
    next.exitCode ≠ none ∨ next.watchdog.alarmed = true := by
  cases step : event.isStep with
  | true =>
      obtain ⟨still, -⟩ := step_frame moved step
      rw [still]
      exact .inr alarmed
  | false =>
      cases otherMove moved step with
      | exits ended => exact .inl ended
      | tick | hang | lock => exact .inr alarmed
      | watchdog moves calm =>
          generalize before : s.watchdog = phase at moves alarmed
          cases moves with
          | report => exact .inr rfl
          | _ => cases alarmed

variable {clock : BitVec 64} {behaviour : Behaviour (threadsStep cfg) (.initial cfg clock)}

/-- **An alarm ends the process**, unless the watchdog waits for the lock for good. -/
theorem alarm_ends (just : behaviour.Just ThreadsEvent.thread)
    (unblocked : ∀ n, ¬ WatchdogBlocked (behaviour.state n)) {first : Nat}
    (alarmed : (behaviour.state first).watchdog.alarmed = true) :
    ∃ n, first ≤ n ∧ (behaviour.state n).exitCode ≠ none := by
  by_contra never
  have alarm (n : Nat) (later : first ≤ n) : (behaviour.state n).watchdog.alarmed = true :=
    behaviour.preserved (fun s => s.watchdog.alarmed = true) (fun s => s.exitCode ≠ none)
      (fun _ _ _ alarmed moved => alarmed_step alarmed moved) alarmed never later
  apply never
  apply behaviour.eventually just
    (fun s => Reached cfg s ∧ s.watchdog.alarmed = true ∧ ¬ WatchdogBlocked s)
    (fun s => s.exitCode ≠ none) (fun s => toLex (s.remaining cfg, alarmRank s)) AlarmHelper
  · exact fun n later => ⟨reached_of_behaviour behaviour n, alarm n later, unblocked n⟩
  · intro s valid _
    by_cases waits : ∃ v w, s.watchdog = .hungFound v ∧ s.ioMutex = some (.worker w)
    · obtain ⟨v, w, found, io⟩ := waits
      exact ⟨.worker w, ⟨v, found⟩, io⟩
    · refine ⟨.watchdog, fun v found w io => waits ⟨v, w, found, io⟩⟩
  · intro s t valid open_ helps
    have live : s.exitCode = none := not_not.mp open_
    cases t with
    | worker w =>
        obtain ⟨-, io⟩ := helps
        have awake : (s.workers w).hung = false :=
          Bool.eq_false_iff.mpr fun hung => valid.2.2 ⟨w, hung, io⟩
        exact able_worker live awake
          (WorkerPoint.open_of_holds (.inl ((valid.1.locks.io.worker w).mp io))) valid.1.locks
          (.inl io)
    | watchdog =>
        apply able_watchdog live valid.1 _ helps
        intro returned
        have alarmed := valid.2.1
        rw [returned] at alarmed
        cases alarmed
    | main => exact helps.elim
  · intro s event next t valid _ _ helps moved
    cases step : event.isStep with
    | true =>
        have lower := remaining_step moved
        rw [step, if_pos rfl] at lower
        exact .inr (.inl (Prod.Lex.toLex_lt_toLex.mpr (.inl lower)))
    | false =>
        have level := remaining_step moved
        rw [step, if_neg Bool.false_ne_true] at level
        have lowers (less : alarmRank next < alarmRank s) :
            toLex (next.remaining cfg, alarmRank next) < toLex (s.remaining cfg, alarmRank s) :=
          Prod.Lex.toLex_lt_toLex.mpr (.inr ⟨level, less⟩)
        cases otherMove moved step with
        | exits ended => exact .inl ended
        | tick => exact .inr (.inr ⟨by rw [level]; rfl, by cases t <;> exact helps, by rintro ⟨⟩⟩)
        | hang => exact .inr (.inr ⟨by rw [level]; rfl, by cases t <;> exact helps, by rintro ⟨⟩⟩)
        | lock found free =>
            refine .inr (.inl (lowers ?_))
            simp only [alarmRank, found, free, reduceCtorEq, ↓reduceIte]
            decide
        | watchdog moves calm =>
            have alarmed := valid.2.1
            refine .inr (.inl (lowers ?_))
            generalize before : s.watchdog = phase at moves alarmed
            cases moves with
            | report =>
                simp only [alarmRank, before]
                split <;> decide
            | _ => cases alarmed

/-- How far the watchdog is from its return once all workers have finished. -/
def returnRank (threads : Nat) : WatchdogPhase → Nat
  | .returned => 0
  | .scanning _ k true => threads - k + 1
  | .sleeping => threads + 2
  | .scanning _ k false => threads - k + (threads + 3)
  | .loading _ k => threads - k + (threads + 3)
  | _ => 0

/-- Every worker has left its function. -/
def AllReturned (s : ThreadsState threads) : Prop :=
  ∀ w, (s.workers w).point.hasReturned = true

instance : Decidable (AllReturned s) := inferInstanceAs (Decidable (∀ _, _))

/-- The watchdog counts when it is the last to return. -/
def joinRank (s : ThreadsState threads) : Nat :=
  if AllReturned s then returnRank threads s.watchdog else 0

/-- A worker nobody keeps from going on, then the watchdog, then main. -/
def JoinHelper (s : ThreadsState threads) : ThreadId threads → Prop
  | .worker w => (s.workers w).point.hasReturned = false ∧
      (s.ioMutex = some (.worker w) ∨ (s.ioMutex = none ∧
        (s.computeMutex = some (.worker w) ∨ s.computeMutex = none)))
  | .watchdog => AllReturned s ∧ s.watchdog ≠ .returned
  | .main => AllReturned s ∧ s.watchdog = .returned

/-- Until all workers have returned, some thread can help. -/
theorem exists_joinHelper (reached : Reached cfg s) (calm : s.watchdog.alarmed = false) :
    ∃ t, JoinHelper s t := by
  by_cases all : AllReturned s
  · by_cases returned : s.watchdog = .returned
    · exact ⟨.main, all, returned⟩
    · exact ⟨.watchdog, all, returned⟩
  · obtain ⟨w, open_⟩ := not_forall.mp all
    have open_ := Bool.eq_false_iff.mpr open_
    cases io : s.ioMutex with
    | some owner =>
        cases owner with
        | worker v =>
            have inside := (reached.locks.io.worker v).mp io
            exact ⟨.worker v, WorkerPoint.open_of_holds (.inl inside), .inl io⟩
        | watchdog =>
            obtain ⟨v, found⟩ := reached.locks.io.watchdog io
            rw [found] at calm
            cases calm
    | none =>
        cases compute : s.computeMutex with
        | none => exact ⟨.worker w, open_, .inr ⟨io, .inr compute⟩⟩
        | some owner =>
            cases owner with
            | worker v =>
                have inside := (reached.locks.compute.worker v).mp compute
                exact ⟨.worker v, WorkerPoint.open_of_holds (.inr inside), .inr ⟨io, .inl compute⟩⟩
            | watchdog => exact absurd compute reached.locks.compute.watchdog

/-- Each step of the watchdog brings it nearer to its return, or raises an alarm. -/
theorem returnRank_lt (finished : ∀ w, (s.heartbeats w).finished = true) {action : WatchdogAction}
    {phase : WatchdogPhase} (calm : s.watchdog.alarmed = false)
    (moves : WatchdogMove cfg.toRunConfig s.clock s.heartbeats s.watchdog action phase) :
    phase.alarmed = true ∨ returnRank threads phase < returnRank threads s.watchdog := by
  generalize s.watchdog = before at moves calm
  cases moves with
  | wake =>
      right
      simp only [returnRank]
      omega
  | @skipFinished now w all =>
      right
      have within := w.isLt
      cases all <;> simp only [returnRank] <;> omega
  | @seeUnfinished _ w _ unfinished =>
      rw [finished w] at unfinished
      cases unfinished
  | findHung => exact .inl rfl
  | @findAlive now w =>
      right
      have within := w.isLt
      simp only [returnRank]
      omega
  | @endScan _ _ all =>
      right
      cases all
      · simp only [returnRank, Bool.false_eq_true, ↓reduceIte]
        omega
      · simp only [returnRank, ↓reduceIte]
        omega
  | report => cases calm

theorem allReturned_watchdog {phase : WatchdogPhase} {ioMutex : Option (LockOwner threads)} :
    AllReturned { s with watchdog := phase, ioMutex := ioMutex } ↔ AllReturned s := Iff.rfl

/-- The rank is one of the workers and the watchdog. -/
theorem joinRank_congr (points : ∀ w, (next.workers w).point = (s.workers w).point)
    (watchdog : next.watchdog = s.watchdog) : joinRank next = joinRank s := by
  have same : AllReturned next ↔ AllReturned s := forall_congr' fun w => by rw [points w]
  rw [joinRank, joinRank, watchdog]
  exact if_congr same rfl rfl

/-- So is who can help. -/
theorem joinHelper_congr (points : ∀ w, (next.workers w).point = (s.workers w).point)
    (watchdog : next.watchdog = s.watchdog) (io : next.ioMutex = s.ioMutex)
    (compute : next.computeMutex = s.computeMutex) {t : ThreadId threads}
    (helps : JoinHelper s t) : JoinHelper next t := by
  cases t with
  | worker w => simpa only [JoinHelper, points, io, compute] using helps
  | watchdog => simpa only [JoinHelper, AllReturned, points, watchdog] using helps
  | main => simpa only [JoinHelper, AllReturned, points, watchdog] using helps

/-- No worker hangs before it has returned. -/
def SteadyWorkers (s : ThreadsState threads) : Prop :=
  ∀ w, (s.workers w).hung = true → (s.workers w).point.hasReturned = true

/-- Who can help is able to. -/
theorem able_joinHelper (reached : Reached cfg s) (steady : SteadyWorkers s)
    (live : s.exitCode = none)
    (calm : s.watchdog.alarmed = false) {t : ThreadId threads} (helps : JoinHelper s t) :
    Able cfg s t := by
  cases t with
  | worker w =>
      obtain ⟨open_, turn⟩ := helps
      have awake : (s.workers w).hung = false := by
        apply Bool.eq_false_iff.mpr
        intro hung
        exact Bool.false_ne_true (open_.symm.trans (steady w hung))
      exact able_worker live awake open_ reached.locks turn
  | watchdog =>
      apply able_watchdog live reached helps.2
      intro v found
      rw [found] at calm
      cases calm
  | main =>
      obtain ⟨all, returned⟩ := helps
      have joined : (∀ w, (s.process.workers w).hasReturned = true) ∧
          s.process.watchdog = .returned := ⟨all, returned⟩
      have returns : liveStep cfg.toRunConfig s.process .mainReturn =
          some { s.process with exitCode := some 0#32 } := if_pos joined
      refine ⟨.process .mainReturn, rfl, ?_⟩
      rw [threadsStep, if_pos live]
      simp only [liveThreadsStep, returns, Option.map_some, Option.isSome_some]

/-- **A helper's step** brings the end nearer. -/
theorem join_progress (reached : Reached cfg s) (calm : s.watchdog.alarmed = false)
    {t : ThreadId threads} (helps : JoinHelper s t) (moved : threadsStep cfg s event = some next) :
    (next.exitCode ≠ none ∨ next.watchdog.alarmed = true) ∨
      toLex (next.remaining cfg, joinRank next) < toLex (s.remaining cfg, joinRank s) ∨
      (toLex (next.remaining cfg, joinRank next) = toLex (s.remaining cfg, joinRank s) ∧
        JoinHelper next t ∧ event.thread ≠ some t) := by
  have shift := remaining_step moved
  cases step : event.isStep with
  | true =>
      rw [step, if_pos rfl] at shift
      exact .inr (.inl (Prod.Lex.toLex_lt_toLex.mpr (.inl shift)))
  | false =>
      rw [step, if_neg Bool.false_ne_true] at shift
      cases otherMove moved step with
      | exits ended => exact .inl (.inl ended)
      | tick =>
          refine .inr (.inr ⟨by rw [shift]; rfl, ?_, by rintro ⟨⟩⟩)
          apply joinHelper_congr (s := s) _ _ _ _ helps
          all_goals intros; rfl
      | @hang w =>
          refine .inr (.inr ⟨?_, ?_, by rintro ⟨⟩⟩)
          · rw [shift]
            exact congrArg (fun rank => toLex (s.remaining cfg, rank))
              (joinRank_congr (point_hang s w) rfl)
          · apply joinHelper_congr (s := s) _ _ _ _ helps
            · exact point_hang s w
            all_goals rfl
      | lock found =>
          rw [found] at calm
          cases calm
      | @watchdog action phase ioMutex moves kept =>
          obtain rfl := kept calm
          by_cases all : AllReturned s
          · have finished (w : Fin threads) : (s.heartbeats w).finished = true :=
              (reached.finished w).trans (all w)
            rcases returnRank_lt finished calm moves with alarmed | lower
            · exact .inl (.inr alarmed)
            · right
              left
              apply Prod.Lex.toLex_lt_toLex.mpr
              refine .inr ⟨shift, ?_⟩
              simp only [joinRank, if_pos all, if_pos (allReturned_watchdog.mpr all)]
              exact lower
          · cases t with
            | worker w =>
                refine .inr (.inr ⟨?_, helps, by rintro ⟨⟩⟩)
                rw [shift]
                simp only [joinRank, if_neg all, if_neg (mt allReturned_watchdog.mp all)]
            | watchdog => exact absurd helps.1 all
            | main => exact absurd helps.1 all

/-- Workers of which none hangs before it returns are joined, unless the watchdog finds one. -/
theorem workers_join (just : behaviour.Just ThreadsEvent.thread)
    (steady : ∀ n, SteadyWorkers (behaviour.state n)) :
    ∃ n, (behaviour.state n).exitCode ≠ none ∨ (behaviour.state n).watchdog.alarmed = true := by
  have calm {s : ThreadsState threads}
      (unmet : ¬ (s.exitCode ≠ none ∨ s.watchdog.alarmed = true)) :
      s.exitCode = none ∧ s.watchdog.alarmed = false := by
    obtain ⟨live, quiet⟩ := not_or.mp unmet
    exact ⟨not_not.mp live, Bool.eq_false_iff.mpr quiet⟩
  obtain ⟨n, -, met⟩ := behaviour.eventually just
    (fun s => Reached cfg s ∧ SteadyWorkers s)
    (fun s => s.exitCode ≠ none ∨ s.watchdog.alarmed = true)
    (fun s => toLex (s.remaining cfg, joinRank s)) JoinHelper
    (fun n (_ : 0 ≤ n) => ⟨reached_of_behaviour behaviour n, steady n⟩)
    (fun s valid unmet => exists_joinHelper valid.1 (calm unmet).2)
    (fun s t valid unmet helps =>
      able_joinHelper valid.1 valid.2 (calm unmet).1 (calm unmet).2 helps)
    (fun s event next t valid _ unmet helps moved =>
      join_progress valid.1 (calm unmet).2 helps moved)
  exact ⟨n, met⟩

/-! ## A hang is found -/

/-- Worker `w` hangs and has not returned. -/
structure Hangs (w : Fin threads) (s : ThreadsState threads) : Prop where
  hung : (s.workers w).hung = true
  open_ : (s.workers w).point.hasReturned = false

/-- It is longer than the timeout since the last heartbeat of worker `w`. -/
def Late (cfg : ThreadsConfig threads) (w : Fin threads) (s : ThreadsState threads) : Prop :=
  cfg.watchdogSeconds.toNat * 1000 < s.clock.toNat - (s.heartbeats w).lastTickMs.toNat

/-- A worker that hangs goes on hanging, and stores no heartbeat. -/
theorem hangs_step {w : Fin threads} (hangs : Hangs w s)
    (moved : threadsStep cfg s event = some next) :
    next.exitCode ≠ none ∨
      (Hangs w next ∧ (Late cfg w s → Late cfg w next)) := by
  cases step : event.isStep with
  | true =>
      obtain ⟨-, -, v, awake, -, clock, others⟩ := step_frame moved step
      have apart : w ≠ v := by
        rintro rfl
        exact Bool.false_ne_true (awake.symm.trans hangs.hung)
      obtain ⟨worker, heartbeat⟩ := others w apart
      refine .inr ⟨⟨?_, ?_⟩, fun late => ?_⟩
      · rw [worker]
        exact hangs.hung
      · rw [worker]
        exact hangs.open_
      · rw [Late, clock, heartbeat]
        exact late
  | false =>
      cases otherMove moved step with
      | exits ended => exact .inl ended
      | tick later =>
          refine .inr ⟨⟨hangs.hung, hangs.open_⟩, fun late => ?_⟩
          have later := BitVec.le_def.mp later
          rw [Late] at late ⊢
          dsimp only
          omega
      | @hang v =>
          refine .inr ⟨⟨?_, ?_⟩, id⟩
          · by_cases same : w = v
            · subst same
              simp only [Function.update_self]
            · simp only [Function.update_of_ne same]
              exact hangs.hung
          · dsimp only
            rw [point_hang]
            exact hangs.open_
      | lock | watchdog => exact .inr ⟨⟨hangs.hung, hangs.open_⟩, id⟩

/-- The scan that is under way will find the worker overdue. -/
def Fresh (cfg : RunConfig threads) (tick now : BitVec 64) (w : Fin threads) (k : Nat) : Prop :=
  cfg.overdue now tick = true ∧ k ≤ w.val

instance (cfg : RunConfig threads) (tick now : BitVec 64) (w : Fin threads) (k : Nat) :
    Decidable (Fresh cfg tick now w k) := inferInstanceAs (Decidable (_ ∧ _))

/-- How far the watchdog is from finding worker `w`, whose last heartbeat is `tick`. -/
def findRank (cfg : RunConfig threads) (w : Fin threads) (tick : BitVec 64) : WatchdogPhase → Nat
  | .scanning now k _ =>
      if Fresh cfg tick now w k then 2 * (w - k) + 1 else 2 * (threads - k) + 2 * w + 4
  | .loading now k =>
      if Fresh cfg tick now w k then 2 * (w - k) else 2 * (threads - k) + 2 * w + 3
  | .sleeping => 2 * w + 2
  | _ => 0

/-- Each step of the watchdog brings it nearer to the worker, or raises an alarm. -/
theorem findRank_lt {w : Fin threads} (unfinished : (s.heartbeats w).finished = false)
    (late : cfg.toRunConfig.overdue s.clock (s.heartbeats w).lastTickMs = true)
    {action : WatchdogAction} {phase : WatchdogPhase} (calm : s.watchdog.alarmed = false)
    (watching : phase ≠ .returned)
    (moves : WatchdogMove cfg.toRunConfig s.clock s.heartbeats s.watchdog action phase) :
    phase.alarmed = true ∨
      findRank cfg.toRunConfig w (s.heartbeats w).lastTickMs phase <
        findRank cfg.toRunConfig w (s.heartbeats w).lastTickMs s.watchdog := by
  generalize s.watchdog = before at moves calm
  have inside := w.isLt
  cases moves with
  | wake =>
      right
      rw [findRank, findRank, if_pos ⟨late, Nat.zero_le _⟩]
      omega
  | @skipFinished now v all finished =>
      right
      have within := v.isLt
      have apart : v.val ≠ w.val := by
        intro same
        rw [Fin.ext same, unfinished] at finished
        cases finished
      simp only [findRank, Fresh]
      by_cases fresh : cfg.toRunConfig.overdue now (s.heartbeats w).lastTickMs = true
      · simp only [fresh, true_and]
        split_ifs <;> omega
      · simp only [fresh, Bool.false_eq_true, false_and, if_false]
        omega
  | @seeUnfinished now v all =>
      right
      simp only [findRank]
      split_ifs <;> omega
  | findHung => exact .inl rfl
  | @findAlive now v current =>
      right
      have within := v.isLt
      simp only [findRank, Fresh]
      by_cases fresh : cfg.toRunConfig.overdue now (s.heartbeats w).lastTickMs = true
      · have apart : v.val ≠ w.val := by
          intro same
          rw [Fin.ext same, fresh] at current
          cases current
        simp only [fresh, true_and]
        split_ifs <;> omega
      · simp only [fresh, Bool.false_eq_true, false_and, if_false]
        omega
  | @endScan now k all done =>
      right
      cases all
      · have past : ¬ Fresh cfg.toRunConfig (s.heartbeats w).lastTickMs now w k :=
          fun fresh => absurd (lt_of_lt_of_le inside done) (not_lt.mpr fresh.2)
        simp only [findRank, Bool.false_eq_true, ↓reduceIte, if_neg past]
        omega
      · exact absurd rfl watching
  | report => cases calm

/-- A worker that is late is overdue. -/
theorem Late.overdue {w : Fin threads} (late : Late cfg w s) (reached : Reached cfg s) :
    cfg.toRunConfig.overdue s.clock (s.heartbeats w).lastTickMs = true := by
  have stored : (s.heartbeats w).lastTickMs ≤ s.clock := reached.ordered.heartbeat w
  rw [RunConfig.overdue_iff, BitVec.lt_def, BitVec.toNat_sub_of_le stored,
    RunConfig.timeoutMs_toNat]
  exact late

/-- A hang is found once the clock has passed the timeout. -/
theorem hang_found (just : behaviour.Just ThreadsEvent.thread)
    (watched : cfg.watchdogSeconds ≠ 0#32) {w : Fin threads} {first : Nat}
    (hangs : Hangs w (behaviour.state first)) (late : Late cfg w (behaviour.state first)) :
    ∃ n, first ≤ n ∧
      ((behaviour.state n).exitCode ≠ none ∨ (behaviour.state n).watchdog.alarmed = true) := by
  by_contra never
  have stays (n : Nat) (later : first ≤ n) :
      Hangs w (behaviour.state n) ∧ Late cfg w (behaviour.state n) :=
    behaviour.preserved (fun s => Hangs w s ∧ Late cfg w s)
      (fun s => s.exitCode ≠ none ∨ s.watchdog.alarmed = true)
      (fun _ _ _ kept moved => (hangs_step kept.1 moved).imp .inl fun still =>
        ⟨still.1, still.2 kept.2⟩) ⟨hangs, late⟩ never later
  have watching {s : ThreadsState threads} (reached : Reached cfg s)
      (hangs : Hangs w s) : s.watchdog ≠ .returned := by
    intro returned
    have finished := (reached.scanned.returned returned).resolve_left watched w
    exact Bool.false_ne_true
      (hangs.open_.symm.trans ((reached.finished w).symm.trans finished))
  apply never
  apply behaviour.eventually just (fun s => Reached cfg s ∧ Hangs w s ∧ Late cfg w s)
    (fun s => s.exitCode ≠ none ∨ s.watchdog.alarmed = true)
    (fun s => findRank cfg.toRunConfig w (s.heartbeats w).lastTickMs s.watchdog)
    (fun _ t => t = .watchdog)
  · exact fun n later => ⟨reached_of_behaviour behaviour n, stays n later⟩
  · exact fun s _ _ => ⟨.watchdog, rfl⟩
  · rintro s t valid unmet rfl
    apply able_watchdog (not_not.mp (not_or.mp unmet).1) valid.1 (watching valid.1 valid.2.1)
    intro v found
    have quiet := (not_or.mp unmet).2
    rw [found] at quiet
    exact absurd rfl quiet
  · rintro s event next t valid valid' unmet rfl moved
    have calm : s.watchdog.alarmed = false := Bool.eq_false_iff.mpr (not_or.mp unmet).2
    cases step : event.isStep with
    | true =>
        obtain ⟨still, -, v, awake, other, -, others⟩ := step_frame moved step
        have apart : w ≠ v := by
          rintro rfl
          exact Bool.false_ne_true (awake.symm.trans valid.2.1.hung)
        exact .inr (.inr ⟨by rw [still, (others w apart).2], rfl, other⟩)
    | false =>
        cases otherMove moved step with
        | exits ended => exact .inl (.inl ended)
        | tick => exact .inr (.inr ⟨rfl, rfl, by rintro ⟨⟩⟩)
        | hang => exact .inr (.inr ⟨rfl, rfl, by rintro ⟨⟩⟩)
        | lock found =>
            rw [found] at calm
            cases calm
        | watchdog moves kept =>
            have unfinished : (s.heartbeats w).finished = false :=
              (valid.1.finished w).trans valid.2.1.open_
            rcases findRank_lt unfinished (valid.2.2.overdue valid.1) calm
              (watching valid'.1 valid'.2.1) moves with alarmed | lower
            · exact .inl (.inr alarmed)
            · exact .inr (.inl lower)

/-- The worker computes its first test case for ever, and the watchdog finds it. -/
def stuckEvents : List (ThreadsEvent 1) :=
  [.worker 0 .start, .worker 0 (.setUp false), .worker 0 .beginCase, .worker 0 .generate,
    .worker 0 .lockCompute, .hang 0, .process (.tick 5000#64), .process (.watchdog .wake),
    .process (.watchdog .loadFinished), .process (.watchdog .loadTick), .watchdogLock,
    .process (.watchdog .report), .process (.watchdog .terminate)]

/-- The run in which the worker stops for good while it holds the lock. -/
def stuckBehaviour : Behaviour (threadsStep oneThread) (.initial oneThread 0#64) :=
  .follow _ _ stuckEvents

end SevenFuzzer
