import SevenFuzzer.Process.Threads

/-! # The watchdog behind a lock

Before it terminates the process, the watchdog prints a line under `io_mutex`, which the
workers hold while they write files and print. A worker that hangs there keeps it, and the
watchdog that has found it waits for ever; if no worker hangs there, it gets the lock and
terminates the process without a step of a hung worker
(`SevenFuzzer.watchdog_free_iff`).
-/

namespace SevenFuzzer

open Transition

variable {threads : Nat} {cfg : ThreadsConfig threads} {s next : ThreadsState threads}
  {event : ThreadsEvent threads} {trace : List (ThreadsState threads × ThreadsEvent threads)}

/-- The lock the watchdog takes before it terminates the process is held by a hung worker. -/
def WatchdogBlocked (s : ThreadsState threads) : Prop :=
  ∃ w, (s.workers w).hung = true ∧ s.ioMutex = some (.worker w)

/-- The watchdog can still terminate the process. -/
def CanTerminate (cfg : ThreadsConfig threads) (s : ThreadsState threads) : Prop :=
  ∃ after last final, Run (threadsStep cfg) s after last ∧
    threadsStep cfg last (.process (.watchdog .terminate)) = some final

/-- The io lock is held exactly by the worker inside its section, and by the watchdog only after it
has found a hang. -/
structure IoMutexHeld (s : ThreadsState threads) : Prop where
  worker : ∀ w, s.ioMutex = some (.worker w) ↔ (s.workers w).point.holdsIo = true
  watchdog : s.ioMutex = some .watchdog → ∃ v, s.watchdog = .hungFound v
  found : ∀ v, s.watchdog = .hungFound v → v < threads

/-- The lock after a step of a worker. -/
theorem lockStep_holds {w : Fin threads} {after : Bool} {lock lock' : Option (LockOwner threads)}
    {holds : Fin threads → Bool} (held : ∀ v, lock = some (.worker v) ↔ holds v = true)
    (stepped : lockStep (.worker w) (holds w) after lock = some lock') :
    (∀ v, lock' = some (.worker v) ↔ Function.update holds w after v = true) ∧
      (lock' = some .watchdog → lock = some .watchdog) := by
  cases before : holds w <;> cases after <;> rw [before] at stepped
  case false.true =>
      obtain ⟨free, taken⟩ := Option.ite_none_right_eq_some.mp stepped
      obtain rfl := Option.some.inj taken
      refine ⟨fun v => ?_, nofun⟩
      by_cases same : v = w
      · subst same
        simp only [Function.update_self]
      · have unheld := (held v).not.mp (by simp [free])
        simp [Function.update_of_ne same, unheld, Ne.symm same]
  case true.false =>
      obtain rfl := Option.some.inj stepped
      refine ⟨fun v => ?_, nofun⟩
      by_cases same : v = w
      · subst same
        simp
      · have unheld := (held v).not.mp (by simp [(held w).mpr before, Ne.symm same])
        simp [Function.update_of_ne same, unheld]
  all_goals
    obtain rfl := Option.some.inj stepped
    refine ⟨fun v => ?_, id⟩
    have kept := Function.update_eq_self w holds
    rw [before] at kept
    rw [kept]
    exact held v

/-- What a step of a worker leaves alone. -/
theorem seenStep_frame {cfg : RunConfig threads} {s next : ProcessState threads} {w : Fin threads}
    {action : Option WorkerAction} (seen : seenStep cfg s w action = some next) :
    next.watchdog = s.watchdog ∧ next.exitCode = s.exitCode := by
  cases action with
  | none =>
      obtain rfl := Option.some.inj seen
      exact ⟨rfl, rfl⟩
  | some action =>
      obtain ⟨moved, _, rfl⟩ := Option.map_eq_some_iff.mp seen
      exact ⟨rfl, rfl⟩

/-- The lock is free before the start. -/
theorem ioMutexHeld_initial (cfg : ThreadsConfig threads) (clock : BitVec 64) :
    IoMutexHeld (.initial cfg clock) := by
  refine ⟨fun w => ?_, fun held => ?_, fun v found => ?_⟩
  · simp [ThreadsState.initial, WorkerPoint.holdsIo]
  · cases held
  · simp only [ThreadsState.initial] at found
    split at found <;> cases found

/-- A hang is found of a worker that exists. -/
theorem WatchdogMove.found_lt {cfg : RunConfig threads} {clock : BitVec 64}
    {heartbeats : Fin threads → WorkerHeartbeat} {phase phase' : WatchdogPhase}
    {action : WatchdogAction} (moves : WatchdogMove cfg clock heartbeats phase action phase')
    {v : Nat} (found : phase' = .hungFound v) : v < threads := by
  cases moves with
  | @findHung _ w overdue =>
      cases found
      exact w.isLt
  | endScan => split at found <;> cases found
  | _ => cases found

/-- A watchdog that has found a hung worker goes on to report it. -/
theorem WatchdogMove.eq_report {cfg : RunConfig threads} {clock : BitVec 64}
    {heartbeats : Fin threads → WorkerHeartbeat} {phase phase' : WatchdogPhase}
    {action : WatchdogAction} (moves : WatchdogMove cfg clock heartbeats phase action phase')
    {v : Nat} (found : phase = .hungFound v) : action = .report := by
  cases moves with
  | report => rfl
  | _ => cases found

/-- The watchdog over a step of the process. -/
theorem liveStep_watchdog {cfg : RunConfig threads} {s next : ProcessState threads}
    {event : ProcessEvent threads} (running : s.exitCode = none)
    (moved : liveStep cfg s event = some next) : next.watchdog = s.watchdog ∨
      ∃ action, event = .watchdog action ∧
        WatchdogMove cfg s.clock s.heartbeats s.watchdog action next.watchdog := by
  cases processStep_move ((if_pos running).trans moved) with
  | watchdog moves => exact .inr ⟨_, rfl, moves⟩
  | tick | worker | terminate | mainReturn | abort => exact .inl rfl

/-- **Every step** keeps the lock with its holder. -/
theorem ioMutexHeld_step (held : IoMutexHeld s) (moved : threadsStep cfg s event = some next) :
    IoMutexHeld next := by
  have running : s.process.exitCode = none := threadsStep_running moved
  cases threadsStep_move moved with
  | @worker w op result ioMutex computeMutex process awake moves io compute seen =>
      obtain ⟨worker, watchdog⟩ := lockStep_holds held.worker io
      obtain ⟨still, -⟩ := seenStep_frame seen
      refine ⟨fun v => ?_, fun owned => ?_, fun v found => ?_⟩
      · rw [worker v, ← point_update (fun _ => WorkerPoint.holdsIo) s.workers w
          { s.workers w with point := result.point, usesHw := result.usesHw }]
      · obtain ⟨v, found⟩ := held.watchdog (watchdog owned)
        exact ⟨v, still.trans found⟩
      · exact held.found v (still.symm.trans found)
  | @hang w =>
      refine ⟨fun v => (held.worker v).trans ?_, held.watchdog, held.found⟩
      have points := point_update (fun _ => WorkerPoint.holdsIo) s.workers w
        { s.workers w with hung := true }
      rw [congrFun points v, Function.update_eq_self]
  | watchdogLock found free =>
      refine ⟨fun v => ?_, fun _ => ⟨_, found⟩, held.found⟩
      have unheld := (held.worker v).not.mp (by simp [free])
      simp [unheld]
  | report owned seen =>
      refine ⟨fun v => ?_, nofun, fun v found => ?_⟩
      · have unheld := (held.worker v).not.mp (by simp [owned])
        simp [ThreadsState.withProcess, unheld]
      · rcases liveStep_watchdog running seen with still | ⟨_, _, moves⟩
        · exact held.found v (still.symm.trans found)
        · exact moves.found_lt found
  | @process event process foreign other seen =>
      refine ⟨held.worker, fun owned => ?_, fun v found => ?_⟩
      · obtain ⟨v, found⟩ := held.watchdog owned
        rcases liveStep_watchdog running seen with still | ⟨action, rfl, moves⟩
        · exact ⟨v, still.trans found⟩
        · exact absurd (congrArg ProcessEvent.watchdog (moves.eq_report found)) other
      · rcases liveStep_watchdog running seen with still | ⟨_, _, moves⟩
        · exact held.found v (still.symm.trans found)
        · exact moves.found_lt found

/-- A hung worker stands where it hung. -/
structure HangsRecorded (trace : List (ThreadsState threads × ThreadsEvent threads))
    (s : ThreadsState threads) : Prop where
  stands : ∀ state w, (state, .hang w) ∈ trace →
    (s.workers w).hung = true ∧ (s.workers w).point = (state.workers w).point
  recorded : ∀ w, (s.workers w).hung = true → ∃ state, (state, .hang w) ∈ trace

/-- A step that is no hang leaves the hung workers where they stand. -/
theorem HangsRecorded.append (record : HangsRecorded trace s) (other : ∀ w, event ≠ .hang w)
    (hung : ∀ w, (next.workers w).hung = (s.workers w).hung)
    (points : ∀ w, (s.workers w).hung = true → (next.workers w).point = (s.workers w).point) :
    HangsRecorded (trace ++ [(s, event)]) next := by
  refine ⟨fun state w member => ?_, fun w hangs => ?_⟩
  · rcases List.mem_append.mp member with earlier | last
    · obtain ⟨hangs, stands⟩ := record.stands state w earlier
      exact ⟨(hung w).trans hangs, (points w hangs).trans stands⟩
    · obtain ⟨-, same⟩ := Prod.mk.inj (List.mem_singleton.mp last)
      exact absurd same.symm (other w)
  · obtain ⟨state, member⟩ := record.recorded w ((hung w).symm.trans hangs)
    exact ⟨state, List.mem_append_left _ member⟩

/-- **Every step** keeps the record of the hangs. -/
theorem hangsRecorded_step (record : HangsRecorded trace s)
    (moved : threadsStep cfg s event = some next) :
    HangsRecorded (trace ++ [(s, event)]) next := by
  cases threadsStep_move moved with
  | @worker w op result ioMutex computeMutex process awake moves io compute seen =>
      refine record.append nofun (fun v => ?_) fun v hung => ?_
      · by_cases same : v = w
        · subst same
          simp only [Function.update_self]
        · simp only [Function.update_of_ne same]
      · have same : v ≠ w := by
          rintro rfl
          exact Bool.false_ne_true (awake.symm.trans hung)
        simp only [Function.update_of_ne same]
  | @hang w =>
      refine ⟨fun state v member => ?_, fun v hangs => ?_⟩
      · by_cases same : v = w
        · subst same
          simp only [Function.update_self, true_and]
          rcases List.mem_append.mp member with earlier | last
          · exact (record.stands state v earlier).2
          · obtain ⟨rfl, -⟩ := Prod.mk.inj (List.mem_singleton.mp last)
            rfl
        · simp only [Function.update_of_ne same]
          rcases List.mem_append.mp member with earlier | last
          · exact record.stands state v earlier
          · obtain ⟨-, hang⟩ := Prod.mk.inj (List.mem_singleton.mp last)
            cases hang
            exact absurd rfl same
      · by_cases same : v = w
        · subst same
          exact ⟨s, List.mem_append_right _ (List.mem_singleton.mpr rfl)⟩
        · simp only [Function.update_of_ne same] at hangs
          obtain ⟨state, member⟩ := record.recorded v hangs
          exact ⟨state, List.mem_append_left _ member⟩
  | watchdogLock | report | process => exact record.append nofun (fun _ => rfl) fun _ _ => rfl

/-- **Every run** keeps it. -/
theorem hangsRecorded_of_run {clock : BitVec 64}
    (run : Run (threadsStep cfg) (.initial cfg clock) trace s) : HangsRecorded trace s :=
  run.history_invariant HangsRecorded
    ⟨fun _ _ member => absurd member List.not_mem_nil, fun _ hung => (Bool.false_ne_true hung).elim⟩
    fun _ _ _ _ record moved => hangsRecorded_step record moved

/-- The lock is held by a hung worker exactly if one hung while it held it. -/
theorem watchdogBlocked_iff {clock : BitVec 64}
    (run : Run (threadsStep cfg) (.initial cfg clock) trace s) :
    WatchdogBlocked s ↔
      ∃ state w, (state, .hang w) ∈ trace ∧ (state.workers w).point.holdsIo = true := by
  have held : IoMutexHeld s := run.invariant IoMutexHeld (ioMutexHeld_initial cfg clock)
    fun _ _ _ => ioMutexHeld_step
  have record := hangsRecorded_of_run run
  constructor
  · rintro ⟨w, hung, owned⟩
    obtain ⟨state, member⟩ := record.recorded w hung
    refine ⟨state, w, member, ?_⟩
    rw [← (record.stands state w member).2]
    exact (held.worker w).mp owned
  · rintro ⟨state, w, member, inside⟩
    obtain ⟨hung, stands⟩ := record.stands state w member
    exact ⟨w, hung, (held.worker w).mpr (stands ▸ inside)⟩

/-- The end of a section, as a step of the worker alone. -/
theorem exists_unlock_op (cfg : ThreadsConfig threads) {w : Fin threads}
    (inside : (s.workers w).point.holdsIo = true) :
    ∃ result, opStep (cfg.share w) cfg.verboseFrom (s.workers w).point
        (s.workers w).usesHw s.counters .unlockIo = some result ∧
      result.point.holdsIo = false ∧
      (s.workers w).point.holdsCompute = result.point.holdsCompute ∧
      (seenStep cfg.toRunConfig s.process w result.action).isSome = true := by
  have phase : s.process.workers w = (s.workers w).point.phase := rfl
  cases point : (s.workers w).point with
  | session held =>
      obtain rfl : held = true := by simpa [point, WorkerPoint.holdsIo] using inside
      rw [point] at phase
      refine ⟨_, rfl, rfl, rfl, ?_⟩
      simp only [seenStep, liveStep, workerStep, phase, WorkerPoint.phase, ↓reduceIte,
        Option.map_some, Option.isSome_some]
  | handler i thrown held =>
      obtain rfl : held = true := by simpa [point, WorkerPoint.holdsIo] using inside
      rw [point] at phase
      refine ⟨_, rfl, rfl, rfl, ?_⟩
      simp only [seenStep, liveStep, workerStep, phase, WorkerPoint.phase, Option.map_some,
        Option.isSome_some]
  | inRound i at_ =>
      cases at_ with
      | io held work =>
          obtain rfl : held = true := by simpa [point, WorkerPoint.holdsIo] using inside
          exact ⟨_, rfl, by cases work <;> rfl, by cases work <;> rfl, rfl⟩
      | _ => simp [point, WorkerPoint.holdsIo] at inside
  | _ => simp [point, WorkerPoint.holdsIo] at inside

/-- A worker that holds the lock and has not hung can leave it. -/
theorem exists_unlock (cfg : ThreadsConfig threads) (running : s.exitCode = none) {w : Fin threads}
    (awake : (s.workers w).hung = false) (inside : (s.workers w).point.holdsIo = true) :
    ∃ next, threadsStep cfg s (.worker w .unlockIo) = some next ∧ next.ioMutex = none ∧
      next.watchdog = s.watchdog ∧ next.exitCode = none := by
  obtain ⟨result, stepped, outside, compute, seen⟩ := exists_unlock_op cfg inside
  obtain ⟨process, seen⟩ := Option.isSome_iff_exists.mp seen
  obtain ⟨watchdog, exitCode⟩ := seenStep_frame seen
  have io : lockStep (.worker w) (s.workers w).point.holdsIo result.point.holdsIo s.ioMutex =
      some none := by
    rw [inside, outside]
    rfl
  have computing : lockStep (.worker w) (s.workers w).point.holdsCompute
      result.point.holdsCompute s.computeMutex = some s.computeMutex := by
    rw [compute]
    cases result.point.holdsCompute <;> rfl
  have moved : ∃ next, threadsStep cfg s (.worker w .unlockIo) = some next ∧ next.ioMutex = none ∧
      next.watchdog = process.watchdog ∧ next.exitCode = process.exitCode := by
    rw [threadsStep, if_pos running, liveThreadsStep, awake, if_neg Bool.false_ne_true,
      workerThreadStep]
    simp only [stepped, io, computing, seen, Option.bind_eq_bind, Option.bind_some]
    exact ⟨_, rfl, rfl, rfl, rfl⟩
  obtain ⟨next, moved, unlocked, watchdog', exitCode'⟩ := moved
  exact ⟨next, moved, unlocked, watchdog'.trans watchdog,
    exitCode'.trans (exitCode.trans running)⟩

/-- The watchdog that has the lock reports and terminates. -/
theorem canTerminate_of_owned (running : s.exitCode = none) (owned : s.ioMutex = some .watchdog)
    {v : Nat} (found : s.watchdog = .hungFound v) (bound : v < threads) : CanTerminate cfg s := by
  have phase : s.process.watchdog = .hungFound v := found
  have reported : ∃ message, threadsStep cfg s (.process (.watchdog .report)) =
      some (s.withProcess { s.process with watchdog := .hungReported message } none) := by
    refine ⟨hangMessage v cfg.watchdogSeconds (s.process.heartbeats ⟨v, bound⟩).localI, ?_⟩
    rw [threadsStep, if_pos running, liveThreadsStep, if_pos owned]
    simp only [liveStep, watchdogStep, phase, dif_pos bound, Option.map_some]
  obtain ⟨message, reported⟩ := reported
  exact ⟨_, _, _, .snoc .nil reported, if_pos running⟩

/-- What the watchdog can do after a step it can do before it. -/
theorem canTerminate_of_step (moved : threadsStep cfg s event = some next)
    (able : CanTerminate cfg next) : CanTerminate cfg s := by
  obtain ⟨after, last, final, run, terminates⟩ := able
  exact ⟨_, last, final, run.cons moved, terminates⟩

/-- With the lock free, a watchdog that has found a hang can end the process. -/
theorem canTerminate_of_free (running : s.exitCode = none) (free : s.ioMutex = none)
    {v : Nat} (found : s.watchdog = .hungFound v) (bound : v < threads) : CanTerminate cfg s := by
  have locked : threadsStep cfg s .watchdogLock = some { s with ioMutex := some .watchdog } := by
    rw [threadsStep, if_pos running, liveThreadsStep, found, free]
  exact canTerminate_of_step locked (canTerminate_of_owned running rfl found bound)

/-- Unless a hung worker holds the lock, the watchdog that found one can terminate the process. -/
theorem canTerminate_of_not_blocked (held : IoMutexHeld s) (running : s.exitCode = none)
    {v : Nat} (found : s.watchdog = .hungFound v) (free : ¬ WatchdogBlocked s) :
    CanTerminate cfg s := by
  have bound := held.found v found
  cases owner : s.ioMutex with
  | none => exact canTerminate_of_free running owner found bound
  | some owner' =>
      cases owner' with
      | watchdog => exact canTerminate_of_owned running owner found bound
      | worker w =>
          have awake : (s.workers w).hung = false :=
            Bool.eq_false_iff.mpr fun hung => free ⟨w, hung, owner⟩
          obtain ⟨next, moved, unlocked, still, running'⟩ :=
            exists_unlock cfg running awake ((held.worker w).mp owner)
          exact canTerminate_of_step moved
            (canTerminate_of_free running' unlocked (still.trans found) bound)

/-- A blocked watchdog stays blocked. -/
theorem blocked_step (held : IoMutexHeld s) (blocked : WatchdogBlocked s)
    {v : Nat} (found : s.watchdog = .hungFound v) (moved : threadsStep cfg s event = some next) :
    WatchdogBlocked next ∧ next.watchdog = .hungFound v := by
  have running : s.process.exitCode = none := threadsStep_running moved
  obtain ⟨w, hung, owner⟩ := blocked
  cases threadsStep_move moved with
  | @worker w' op result ioMutex computeMutex process awake moves io compute seen =>
      have other : w ≠ w' := by
        rintro rfl
        exact Bool.false_ne_true (awake.symm.trans hung)
      obtain ⟨holds, -⟩ := lockStep_holds held.worker io
      refine ⟨⟨w, ?_, (holds w).mpr ?_⟩, (seenStep_frame seen).1.trans found⟩
      · simp only [Function.update_of_ne other]
        exact hung
      · rw [Function.update_of_ne other]
        exact (held.worker w).mp owner
  | @hang w' =>
      refine ⟨⟨w, ?_, owner⟩, found⟩
      by_cases same : w = w'
      · subst same
        simp only [Function.update_self]
      · simp only [Function.update_of_ne same]
        exact hung
  | watchdogLock _ free => exact absurd (free.symm.trans owner) nofun
  | report owned _ => exact absurd (owned.symm.trans owner) nofun
  | process foreign other seen =>
      refine ⟨⟨w, hung, owner⟩, ?_⟩
      rcases liveStep_watchdog running seen with still | ⟨_, rfl, moves⟩
      · exact still.trans found
      · exact absurd (congrArg ProcessEvent.watchdog (moves.eq_report found)) other

/-- While the lock is held for good, it cannot. -/
theorem not_canTerminate_of_blocked (held : IoMutexHeld s) (blocked : WatchdogBlocked s)
    {v : Nat} (found : s.watchdog = .hungFound v) : ¬ CanTerminate cfg s := by
  rintro ⟨after, last, final, run, terminates⟩
  obtain ⟨-, -, stuck⟩ := run.invariant
    (fun s => IoMutexHeld s ∧ WatchdogBlocked s ∧ s.watchdog = .hungFound v)
    ⟨held, blocked, found⟩ fun _ _ _ stuck moved =>
      ⟨ioMutexHeld_step stuck.1 moved, blocked_step stuck.1 stuck.2.1 stuck.2.2 moved⟩
  have running : last.process.exitCode = none := threadsStep_running terminates
  cases threadsStep_move terminates with
  | process foreign other seen =>
      cases processStep_move ((if_pos running).trans seen) with
      | watchdog moves => cases moves.eq_report stuck
      | terminate reported => exact absurd (reported.symm.trans stuck) nofun

/-- In a run of the threads, the watchdog that has found a hung worker is not waiting for a lock
of a hung worker if and only if no worker hung while it held `io_mutex`; and it can then terminate
the process, and otherwise never. -/
theorem watchdog_free_iff {clock : BitVec 64}
    (run : Run (threadsStep cfg) (.initial cfg clock) trace s) (running : s.exitCode = none)
    {v : Nat} (found : s.watchdog = .hungFound v) :
    (¬ WatchdogBlocked s ↔
      ∀ state w, (state, .hang w) ∈ trace → (state.workers w).point.holdsIo = false) ∧
    (¬ WatchdogBlocked s ↔ CanTerminate cfg s) := by
  have held : IoMutexHeld s := run.invariant IoMutexHeld (ioMutexHeld_initial cfg clock)
    fun _ _ _ => ioMutexHeld_step
  constructor
  · rw [watchdogBlocked_iff run]
    simp only [not_exists, not_and, Bool.not_eq_true]
  · exact ⟨canTerminate_of_not_blocked held running found,
      fun able blocked => not_canTerminate_of_blocked held blocked found able⟩

/-- One worker without the hardware lane, under a watchdog of a second. -/
def oneThread : ThreadsConfig 1 where
  iterations := 10#64
  watchdogSeconds := 1#32
  useHw := false
  verboseFrom := 10#64

/-- The worker computes its first test case for ever. -/
theorem watchdog_free_computing :
    ∃ trace s, Run (threadsStep oneThread) (.initial oneThread 0#64) trace s ∧
      (¬ WatchdogBlocked s ↔
        ∀ state w, (state, .hang w) ∈ trace → (state.workers w).point.holdsIo = false) ∧
      (¬ WatchdogBlocked s ↔ CanTerminate oneThread s) := by
  have run : Run (threadsStep oneThread) _ _ _ := .of_play (.initial oneThread 0#64)
    [.worker 0 .start, .worker 0 (.setUp false), .worker 0 .beginCase, .worker 0 .generate,
      .worker 0 .lockCompute, .hang 0, .process (.tick 5000#64), .process (.watchdog .wake),
      .process (.watchdog .loadFinished), .process (.watchdog .loadTick)] rfl
  exact ⟨_, _, run, watchdog_free_iff run rfl rfl⟩

/-- A round in which seven and Unicorn differ. -/
def oneDivergence : RoundDivergences where
  sevenVsUnicorn := [{ pairing := "seven-vs-unicorn", lines := [] }]
  sevenVsHw := []
  unicornVsHw := []

/-- The worker hangs while it writes its first finding. -/
theorem watchdog_blocked_writing :
    ∃ trace s, Run (threadsStep oneThread) (.initial oneThread 0#64) trace s ∧
      s.watchdog = .hungFound 0 ∧ WatchdogBlocked s := by
  refine ⟨_, _, .of_play _ [.worker 0 .start, .worker 0 (.setUp false), .worker 0 .beginCase,
    .worker 0 .generate, .worker 0 .lockCompute, .worker 0 .unlockCompute,
    .worker 0 (.runHardware false), .worker 0 (.compare oneDivergence), .worker 0 .lockIo,
    .hang 0, .process (.tick 5000#64), .process (.watchdog .wake),
    .process (.watchdog .loadFinished), .process (.watchdog .loadTick)] rfl, rfl, 0, rfl, rfl⟩

end SevenFuzzer
