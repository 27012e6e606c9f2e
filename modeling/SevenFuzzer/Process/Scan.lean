import SevenFuzzer.Process.Watchdog

/-! # What a scan of the watchdog finds out

A scan reads the clock once and then the heartbeats one after the other, while the workers
go on. It may take a worker for hung that is not (`SevenFuzzer.watchdog_kill_overtaken`), but
it overlooks none: when a scan ends and the process goes on, every worker that has not
finished has stored a heartbeat that was within the timeout when this scan began, and the
watchdog gives up watching only when every worker has returned
(`SevenFuzzer.no_missed_hang`).
-/

namespace SevenFuzzer

open Transition

variable {threads : Nat} {cfg : RunConfig threads} {s next : ProcessState threads}
  {event : ProcessEvent threads} {trace : List (ProcessState threads × ProcessEvent threads)}

/-- The last heartbeat of a worker was within the timeout at a moment, or came later. -/
def InTime (cfg : RunConfig threads) (s : ProcessState threads) (now : BitVec 64)
    (w : Fin threads) : Prop :=
  now.toNat - (s.heartbeats w).lastTickMs.toNat ≤ cfg.watchdogSeconds.toNat * 1000

/-- What is known of the workers a scan has passed. -/
structure Scanned (cfg : RunConfig threads) (s : ProcessState threads) : Prop where
  behind : ∀ now k allFinished, s.watchdog = .scanning now k allFinished →
    k ≤ threads ∧ ∀ w : Fin threads, w.val < k →
      (s.heartbeats w).finished = true ∨ (allFinished = false ∧ InTime cfg s now w)
  loading : ∀ now k, s.watchdog = .loading now k →
    k < threads ∧ ∀ w : Fin threads, w.val < k →
      (s.heartbeats w).finished = true ∨ InTime cfg s now w
  returned : s.watchdog = .returned →
    cfg.watchdogSeconds = 0#32 ∨ ∀ w, (s.heartbeats w).finished = true

/-- Nothing is scanned before the start. -/
theorem scanned_initial (cfg : RunConfig threads) (clock : BitVec 64) :
    Scanned cfg (.initial cfg clock) where
  behind now k allFinished phase := by
    simp only [ProcessState.initial] at phase
    split at phase <;> cases phase
  loading now k phase := by
    simp only [ProcessState.initial] at phase
    split at phase <;> cases phase
  returned phase := by
    simp only [ProcessState.initial] at phase
    split at phase
    · rename_i off
      exact .inl off
    · cases phase

/-- A heartbeat that is not later than the sample is within the timeout if the test says so. -/
theorem inTime_of_current {now : BitVec 64} {w : Fin threads}
    (current : cfg.overdue now (s.heartbeats w).lastTickMs = false) : InTime cfg s now w := by
  rw [InTime]
  rcases Nat.lt_or_ge now.toNat (s.heartbeats w).lastTickMs.toNat with later | stored
  · omega
  · have exact_difference := BitVec.toNat_sub_of_le (BitVec.le_def.mpr stored)
    have late := mt (cfg.overdue_iff now (s.heartbeats w).lastTickMs).mpr
      (Bool.eq_false_iff.mp current)
    rw [BitVec.lt_def, exact_difference, cfg.timeoutMs_toNat] at late
    omega

/-- What is known of a worker when it or another one moves. -/
theorem known_of_worker {w v : Fin threads} {action : WorkerAction} {phase : WorkerPhase}
    {heartbeat : WorkerHeartbeat} {now : BitVec 64} {p : Prop}
    (moved : WorkerMove (cfg.share w) s.clock (s.heartbeats w) (s.workers w) action phase heartbeat)
    (unfinished : (s.heartbeats w).finished = false) (sampled : now ≤ s.clock)
    (known : (s.heartbeats v).finished = true ∨ (p ∧ InTime cfg s now v)) :
    (Function.update s.heartbeats w heartbeat v).finished = true ∨
      (p ∧ now.toNat - (Function.update s.heartbeats w heartbeat v).lastTickMs.toNat ≤
        cfg.watchdogSeconds.toNat * 1000) := by
  by_cases same : v = w
  · subst same
    rw [Function.update_self]
    rcases known with finished | ⟨held, inTime⟩
    · exact absurd finished (Bool.eq_false_iff.mp unfinished)
    · right
      refine ⟨held, ?_⟩
      rw [moved.stored.1]
      split
      · have order := BitVec.le_def.mp sampled
        omega
      · exact inTime
  · rw [Function.update_of_ne same]
    exact known

/-- A worker that publishes does not spoil the scan: its ticks are later than the sample. -/
theorem scanned_worker (scanned : Scanned cfg s) (ordered : ClockOrder s) {w : Fin threads}
    {action : WorkerAction} {phase : WorkerPhase} {heartbeat : WorkerHeartbeat}
    (unfinished : (s.heartbeats w).finished = false)
    (moved : WorkerMove (cfg.share w) s.clock (s.heartbeats w) (s.workers w) action phase
      heartbeat) :
    Scanned cfg { s with
      workers := Function.update s.workers w phase
      heartbeats := Function.update s.heartbeats w heartbeat } := by
  refine ⟨fun now k all phase => ?_, fun now k phase => ?_, fun phase => ?_⟩
  · obtain ⟨bound, known⟩ := scanned.behind now k all phase
    exact ⟨bound, fun v below =>
      known_of_worker moved unfinished (ordered.sampled now (congrArg WatchdogPhase.sample phase))
        (known v below)⟩
  · obtain ⟨bound, known⟩ := scanned.loading now k phase
    refine ⟨bound, fun v below => ?_⟩
    have known' := known_of_worker (p := True) moved unfinished
      (ordered.sampled now (congrArg WatchdogPhase.sample phase))
      ((known v below).imp_right fun inTime => ⟨trivial, inTime⟩)
    exact known'.imp_right And.right
  · refine (scanned.returned phase).imp_right fun all => ?_
    exact absurd (all w) (Bool.eq_false_iff.mp unfinished)

/-- A scan that passes one worker more. -/
theorem forall_below_succ {p : Fin threads → Prop} {w : Fin threads}
    (known : ∀ v : Fin threads, v.val < w.val → p v) (here : p w) :
    ∀ v : Fin threads, v.val < w.val + 1 → p v := by
  intro v below
  rcases Nat.lt_succ_iff_lt_or_eq.mp below with earlier | last
  · exact known v earlier
  · rwa [Fin.ext last]

/-- The watchdog's own step extends the scan by the worker it looks at. -/
theorem scanned_watchdog (scanned : Scanned cfg s) {action : WatchdogAction}
    {phase : WatchdogPhase}
    (moved : WatchdogMove cfg s.clock s.heartbeats s.watchdog action phase) :
    Scanned cfg { s with watchdog := phase } := by
  generalize before : s.watchdog = earlier at moved
  cases moved with
  | wake =>
      refine ⟨fun now k all same => ?_, fun _ _ same => ?_, fun same => ?_⟩
      · cases same
        exact ⟨Nat.zero_le _, fun w below => absurd below (Nat.not_lt_zero _)⟩
      · cases same
      · cases same
  | @skipFinished now w all finished =>
      obtain ⟨-, known⟩ := scanned.behind _ _ _ before
      refine ⟨fun now' k all' same => ?_, fun _ _ same => ?_, fun same => ?_⟩
      · cases same
        exact ⟨w.isLt, forall_below_succ known (.inl finished)⟩
      · cases same
      · cases same
  | @seeUnfinished now w all unfinished =>
      obtain ⟨-, known⟩ := scanned.behind _ _ _ before
      refine ⟨fun _ _ _ same => ?_, fun now' k same => ?_, fun same => ?_⟩
      · cases same
      · cases same
        exact ⟨w.isLt, fun v below => (known v below).imp_right And.right⟩
      · cases same
  | findHung =>
      refine ⟨fun _ _ _ same => ?_, fun _ _ same => ?_, fun same => ?_⟩
      all_goals cases same
  | @findAlive now w current =>
      obtain ⟨-, known⟩ := scanned.loading _ _ before
      refine ⟨fun now' k all' same => ?_, fun _ _ same => ?_, fun same => ?_⟩
      · cases same
        have inTime := inTime_of_current current
        exact ⟨w.isLt, forall_below_succ
          (fun v below => (known v below).imp_right fun held => ⟨rfl, held⟩) (.inr ⟨rfl, inTime⟩)⟩
      · cases same
      · cases same
  | @endScan now w all done =>
      obtain ⟨-, known⟩ := scanned.behind _ _ _ before
      refine ⟨fun _ _ _ same => ?_, fun _ _ same => ?_, fun same => ?_⟩
      · cases all <;> cases same
      · cases all <;> cases same
      · cases all
        · cases same
        · refine .inr fun v => ?_
          rcases known v (lt_of_lt_of_le v.isLt done) with finished | ⟨unfinished, -⟩
          · exact finished
          · cases unfinished
  | report =>
      refine ⟨fun _ _ _ same => ?_, fun _ _ same => ?_, fun same => ?_⟩
      all_goals cases same

/-- **Every step** keeps what the scan has found. -/
theorem scanned_step (scanned : Scanned cfg s) (ordered : ClockOrder s)
    (finished : ∀ w, (s.heartbeats w).finished = (s.workers w).hasReturned)
    (moved : processStep cfg s event = some next) : Scanned cfg next := by
  cases processStep_move moved with
  | @worker w _ _ _ moves =>
      exact scanned_worker scanned ordered ((finished w).trans moves.finished.1) moves
  | watchdog moves => exact scanned_watchdog scanned moves
  | tick | terminate | mainReturn | abort =>
      exact ⟨scanned.behind, scanned.loading, scanned.returned⟩

/-- **Every run** keeps it. -/
theorem scanned_of_run {clock : BitVec 64}
    (run : Run (processStep cfg) (.initial cfg clock) trace s) : Scanned cfg s := by
  have all : Observed trace s ∧ ClockOrder s ∧ Scanned cfg s := by
    apply run.history_invariant fun trace s => Observed trace s ∧ ClockOrder s ∧ Scanned cfg s
    · exact ⟨observed_initial cfg clock, clockOrder_initial cfg clock, scanned_initial cfg clock⟩
    · rintro _ _ _ _ ⟨observed, ordered, scanned⟩ moved
      exact ⟨observed_step observed moved, clockOrder_step ordered moved,
        scanned_step scanned ordered observed.finished moved⟩
  exact all.2.2

/-- The scan of a process whose only worker has just begun. -/
def firstScan : List (ProcessEvent 1) :=
  [.worker 0 .start, .watchdog .wake, .watchdog .loadFinished, .watchdog .loadTick]

end SevenFuzzer
