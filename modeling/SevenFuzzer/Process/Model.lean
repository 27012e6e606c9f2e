import SevenFuzzer.Common.Types
import SevenFuzzer.Library.Run

/-! # The process: workers, watchdog and main

One process of the fuzzer as a state machine over its threads: the workers, the
watchdog that scans their heartbeats, and main, which joins them and returns. A
step is one action of one thread, so that a run is an interleaving. The tick
clock only grows; a process that has an exit code takes no further step.
-/

namespace SevenFuzzer

/-- What a worker publishes for the watchdog. -/
structure WorkerHeartbeat where
  lastTickMs : BitVec 64 := 0
  localI : BitVec 64 := 0
  finished : Bool := false

/-- What a catch block of `run_worker` catches. -/
inductive Thrown where
  | sehException | stdException | unknown
  deriving DecidableEq

/-- Where a worker stands in `run_worker`. -/
inductive WorkerPhase where
  | notStarted
  | settingUp
  | loopTest (localI : Nat)
  | testCase (localI : Nat)
  | handler (localI : Nat) (thrown : Thrown)
  | returned (caught : Option Thrown)
  deriving DecidableEq

/-- The worker has left its function. -/
def WorkerPhase.hasReturned : WorkerPhase → Bool
  | .returned _ => true
  | _ => false

/-- Where the watchdog stands in `run_watchdog`: `scanning` before it loads the
finished flag of a worker, `loading` between that load and the one of its tick. -/
inductive WatchdogPhase where
  | sleeping
  | scanning (now : BitVec 64) (w : Nat) (allFinished : Bool)
  | loading (now : BitVec 64) (w : Nat)
  | hungFound (w : Nat)
  | hungReported (message : String)
  | returned
  deriving DecidableEq

/-- The parameters main hands to its threads. -/
structure RunConfig (threads : Nat) where
  iterations : BitVec 64
  watchdogSeconds : BitVec 32

variable {threads : Nat}

/-- The iterations of a worker. -/
def RunConfig.share (cfg : RunConfig threads) (w : Fin threads) : Nat :=
  cfg.iterations.toNat / threads + if w.val < cfg.iterations.toNat % threads then 1 else 0

/-- The timeout in milliseconds. -/
def RunConfig.timeoutMs (cfg : RunConfig threads) : BitVec 64 :=
  cfg.watchdogSeconds.setWidth 64 * 1000#64

/-- The process as the watchdog sees it: the clock, the workers and what they publish. -/
structure ProcessState (threads : Nat) where
  clock : BitVec 64
  heartbeats : Fin threads → WorkerHeartbeat
  workers : Fin threads → WorkerPhase
  watchdog : WatchdogPhase
  exitCode : Option (BitVec 32)

/-- The steps of a worker that the watchdog can tell apart. -/
inductive WorkerAction where
  | start | enterLoop | beginCase | endCase
  | raise (thrown : Thrown) | leaveHandler | leaveLoop
  deriving DecidableEq

/-- The steps of the watchdog. -/
inductive WatchdogAction where
  | wake | loadFinished | loadTick | endScan | report | terminate
  deriving DecidableEq

/-- A step of the process. `abort` is an end of the process that is neither
main's return nor the watchdog's: an exception nothing catches, or a kill from
outside, which may give it any exit code. -/
inductive ProcessEvent (threads : Nat) where
  | tick (clock : BitVec 64)
  | worker (w : Fin threads) (action : WorkerAction)
  | watchdog (action : WatchdogAction)
  | mainReturn
  | abort (code : BitVec 32)
  deriving DecidableEq

/-- What an action of a worker does to its phase and to its heartbeat. -/
def workerStep (share : Nat) (clock : BitVec 64) (phase : WorkerPhase)
    (heartbeat : WorkerHeartbeat) : WorkerAction → Option (WorkerPhase × WorkerHeartbeat)
  | .start =>
      if phase = .notStarted then some (.settingUp, { heartbeat with lastTickMs := clock })
      else none
  | .enterLoop => if phase = .settingUp then some (.loopTest 0, heartbeat) else none
  | .beginCase =>
      match phase with
      | .loopTest i =>
          if i < share then
            some (.testCase i, { heartbeat with lastTickMs := clock, localI := BitVec.ofNat 64 i })
          else none
      | _ => none
  | .endCase =>
      match phase with
      | .testCase i => some (.loopTest (i + 1), heartbeat)
      | _ => none
  | .raise thrown =>
      match phase with
      | .testCase i => some (.handler i thrown, heartbeat)
      | _ => none
  | .leaveHandler =>
      match phase with
      | .handler _ thrown => some (.returned (some thrown), { heartbeat with finished := true })
      | _ => none
  | .leaveLoop =>
      match phase with
      | .loopTest i =>
          if i < share then none
          else some (.returned none, { heartbeat with finished := true })
      | _ => none

/-- The line the watchdog prints before it terminates the process. -/
def hangMessage (w : Nat) (watchdogSeconds : BitVec 32) (localI : BitVec 64) : String :=
  "[watchdog] worker " ++ toString w ++ " appears hung: no progress for over " ++
  toString watchdogSeconds.toNat ++ " seconds, stuck at local iteration " ++
  toString localI.toNat ++ ". Writing a live minidump and terminating so an unattended run " ++
  "doesn't hang forever -- rerun with --threads 1 and the same seed to reach this worker's " ++
  "iteration range and reproduce.\n"

/-- The test of the watchdog, in the wrapping arithmetic of the source. -/
def RunConfig.overdue (cfg : RunConfig threads) (now last : BitVec 64) : Bool :=
  cfg.timeoutMs < now - last

/-- What an action of the watchdog does to its phase, the end of the process apart. -/
def watchdogStep (cfg : RunConfig threads) (clock : BitVec 64)
    (heartbeats : Fin threads → WorkerHeartbeat) (phase : WatchdogPhase) :
    WatchdogAction → Option WatchdogPhase
  | .wake => if phase = .sleeping then some (.scanning clock 0 true) else none
  | .loadFinished =>
      match phase with
      | .scanning now w allFinished =>
          if bound : w < threads then
            if (heartbeats ⟨w, bound⟩).finished then some (.scanning now (w + 1) allFinished)
            else some (.loading now w)
          else none
      | _ => none
  | .loadTick =>
      match phase with
      | .loading now w =>
          if bound : w < threads then
            if cfg.overdue now (heartbeats ⟨w, bound⟩).lastTickMs then some (.hungFound w)
            else some (.scanning now (w + 1) false)
          else none
      | _ => none
  | .endScan =>
      match phase with
      | .scanning _ w allFinished =>
          if w < threads then none
          else some (if allFinished then .returned else .sleeping)
      | _ => none
  | .report =>
      match phase with
      | .hungFound w =>
          if bound : w < threads then
            some (.hungReported
              (hangMessage w cfg.watchdogSeconds (heartbeats ⟨w, bound⟩).localI))
          else none
      | _ => none
  | .terminate => none

/-- One step of a process that has not ended. -/
def liveStep (cfg : RunConfig threads) (s : ProcessState threads) :
    ProcessEvent threads → Option (ProcessState threads)
  | .tick clock => if s.clock ≤ clock then some { s with clock := clock } else none
  | .worker w action =>
      (workerStep (cfg.share w) s.clock (s.workers w) (s.heartbeats w) action).map fun moved =>
        { s with
          workers := Function.update s.workers w moved.1
          heartbeats := Function.update s.heartbeats w moved.2 }
  | .watchdog .terminate =>
      match s.watchdog with
      | .hungReported _ => some { s with exitCode := some 2#32 }
      | _ => none
  | .watchdog action =>
      (watchdogStep cfg s.clock s.heartbeats s.watchdog action).map fun phase =>
        { s with watchdog := phase }
  | .mainReturn =>
      if (∀ w, (s.workers w).hasReturned) ∧ s.watchdog = .returned then
        some { s with exitCode := some 0#32 }
      else none
  | .abort code => some { s with exitCode := some code }

/-- A step of the process. One that has ended takes none. -/
def processStep (cfg : RunConfig threads) (s : ProcessState threads)
    (event : ProcessEvent threads) : Option (ProcessState threads) :=
  if s.exitCode = none then liveStep cfg s event else none

/-- The process when main has made the heartbeats: no thread has run yet. With
zero seconds the watchdog returns at once. -/
def ProcessState.initial (cfg : RunConfig threads) (clock : BitVec 64) :
    ProcessState threads where
  clock := clock
  heartbeats := fun _ => {}
  workers := fun _ => .notStarted
  watchdog := if cfg.watchdogSeconds = 0#32 then .returned else .sleeping
  exitCode := none

/-- The steps of a worker, each with what it publishes. -/
inductive WorkerMove (share : Nat) (clock : BitVec 64) (heartbeat : WorkerHeartbeat) :
    WorkerPhase → WorkerAction → WorkerPhase → WorkerHeartbeat → Prop where
  | start : WorkerMove share clock heartbeat .notStarted .start .settingUp
      { heartbeat with lastTickMs := clock }
  | enterLoop : WorkerMove share clock heartbeat .settingUp .enterLoop (.loopTest 0) heartbeat
  | beginCase {i : Nat} (within : i < share) :
      WorkerMove share clock heartbeat (.loopTest i) .beginCase (.testCase i)
        { heartbeat with lastTickMs := clock, localI := BitVec.ofNat 64 i }
  | endCase {i : Nat} :
      WorkerMove share clock heartbeat (.testCase i) .endCase (.loopTest (i + 1)) heartbeat
  | raise {i : Nat} {thrown : Thrown} :
      WorkerMove share clock heartbeat (.testCase i) (.raise thrown) (.handler i thrown) heartbeat
  | leaveHandler {i : Nat} {thrown : Thrown} :
      WorkerMove share clock heartbeat (.handler i thrown) .leaveHandler (.returned (some thrown))
        { heartbeat with finished := true }
  | leaveLoop {i : Nat} (done : share ≤ i) :
      WorkerMove share clock heartbeat (.loopTest i) .leaveLoop (.returned none)
        { heartbeat with finished := true }

/-- A worker's step is one of the listed moves. -/
theorem workerStep_move {share : Nat} {clock : BitVec 64} {phase phase' : WorkerPhase}
    {heartbeat heartbeat' : WorkerHeartbeat} {action : WorkerAction}
    (moved : workerStep share clock phase heartbeat action = some (phase', heartbeat')) :
    WorkerMove share clock heartbeat phase action phase' heartbeat' := by
  cases action <;> cases phase <;> simp only [workerStep] at moved <;>
    simp only [reduceCtorEq, ↓reduceIte, Option.some.injEq, Prod.mk.injEq,
      Option.ite_none_left_eq_some, Option.ite_none_right_eq_some, not_lt] at moved
  case start.notStarted =>
      obtain ⟨rfl, rfl⟩ := moved
      exact .start
  case enterLoop.settingUp =>
      obtain ⟨rfl, rfl⟩ := moved
      exact .enterLoop
  case beginCase.loopTest =>
      obtain ⟨within, rfl, rfl⟩ := moved
      exact .beginCase within
  case endCase.testCase =>
      obtain ⟨rfl, rfl⟩ := moved
      exact .endCase
  case raise.testCase =>
      obtain ⟨rfl, rfl⟩ := moved
      exact .raise
  case leaveHandler.handler =>
      obtain ⟨rfl, rfl⟩ := moved
      exact .leaveHandler
  case leaveLoop.loopTest =>
      obtain ⟨done, rfl, rfl⟩ := moved
      exact .leaveLoop done

/-- The steps of the watchdog, each with what it loads. -/
inductive WatchdogMove (cfg : RunConfig threads) (clock : BitVec 64)
    (heartbeats : Fin threads → WorkerHeartbeat) :
    WatchdogPhase → WatchdogAction → WatchdogPhase → Prop where
  | wake : WatchdogMove cfg clock heartbeats .sleeping .wake (.scanning clock 0 true)
  | skipFinished {now : BitVec 64} {w : Fin threads} {allFinished : Bool}
      (finished : (heartbeats w).finished = true) :
      WatchdogMove cfg clock heartbeats (.scanning now w allFinished) .loadFinished
        (.scanning now (w + 1) allFinished)
  | seeUnfinished {now : BitVec 64} {w : Fin threads} {allFinished : Bool}
      (unfinished : (heartbeats w).finished = false) :
      WatchdogMove cfg clock heartbeats (.scanning now w allFinished) .loadFinished
        (.loading now w)
  | findHung {now : BitVec 64} {w : Fin threads}
      (overdue : cfg.overdue now (heartbeats w).lastTickMs = true) :
      WatchdogMove cfg clock heartbeats (.loading now w) .loadTick (.hungFound w)
  | findAlive {now : BitVec 64} {w : Fin threads}
      (current : cfg.overdue now (heartbeats w).lastTickMs = false) :
      WatchdogMove cfg clock heartbeats (.loading now w) .loadTick (.scanning now (w + 1) false)
  | endScan {now : BitVec 64} {w : Nat} {allFinished : Bool} (done : threads ≤ w) :
      WatchdogMove cfg clock heartbeats (.scanning now w allFinished) .endScan
        (if allFinished then .returned else .sleeping)
  | report {w : Fin threads} :
      WatchdogMove cfg clock heartbeats (.hungFound w) .report
        (.hungReported (hangMessage w cfg.watchdogSeconds (heartbeats w).localI))

/-- So is one of the watchdog. -/
theorem watchdogStep_move {cfg : RunConfig threads} {clock : BitVec 64}
    {heartbeats : Fin threads → WorkerHeartbeat} {phase phase' : WatchdogPhase}
    {action : WatchdogAction}
    (moved : watchdogStep cfg clock heartbeats phase action = some phase') :
    WatchdogMove cfg clock heartbeats phase action phase' := by
  cases action <;> cases phase <;> simp only [watchdogStep] at moved <;>
    simp only [reduceCtorEq, ↓reduceIte, Option.some.injEq,
      Option.ite_none_left_eq_some, Option.dite_none_right_eq_some, not_lt] at moved
  case wake.sleeping =>
      obtain rfl := moved
      exact .wake
  case loadFinished.scanning now w allFinished =>
      obtain ⟨bound, moved⟩ := moved
      split at moved
      · rename_i finished
        obtain rfl := Option.some.inj moved
        exact .skipFinished (w := ⟨w, bound⟩) finished
      · rename_i unfinished
        obtain rfl := Option.some.inj moved
        exact .seeUnfinished (w := ⟨w, bound⟩) (Bool.eq_false_iff.mpr unfinished)
  case loadTick.loading now w =>
      obtain ⟨bound, moved⟩ := moved
      split at moved
      · rename_i overdue
        obtain rfl := Option.some.inj moved
        exact .findHung (w := ⟨w, bound⟩) overdue
      · rename_i current
        obtain rfl := Option.some.inj moved
        exact .findAlive (w := ⟨w, bound⟩) (Bool.eq_false_iff.mpr current)
  case endScan.scanning now w allFinished =>
      obtain ⟨done, rfl⟩ := moved
      exact .endScan done
  case report.hungFound w =>
      obtain ⟨bound, rfl⟩ := moved
      exact .report (w := ⟨w, bound⟩)

/-- The steps of the process: one of a thread, of the clock, or the end. -/
inductive ProcessMove (cfg : RunConfig threads) (s : ProcessState threads) :
    ProcessEvent threads → ProcessState threads → Prop where
  | tick {clock : BitVec 64} (later : s.clock ≤ clock) :
      ProcessMove cfg s (.tick clock) { s with clock := clock }
  | worker {w : Fin threads} {action : WorkerAction} {phase : WorkerPhase}
      {heartbeat : WorkerHeartbeat}
      (moved : WorkerMove (cfg.share w) s.clock (s.heartbeats w) (s.workers w) action phase
        heartbeat) :
      ProcessMove cfg s (.worker w action)
        { s with
          workers := Function.update s.workers w phase
          heartbeats := Function.update s.heartbeats w heartbeat }
  | watchdog {action : WatchdogAction} {phase : WatchdogPhase}
      (moved : WatchdogMove cfg s.clock s.heartbeats s.watchdog action phase) :
      ProcessMove cfg s (.watchdog action) { s with watchdog := phase }
  | terminate {message : String} (reported : s.watchdog = .hungReported message) :
      ProcessMove cfg s (.watchdog .terminate) { s with exitCode := some 2#32 }
  | mainReturn (joined : ∀ w, (s.workers w).hasReturned = true)
      (scanned : s.watchdog = .returned) :
      ProcessMove cfg s .mainReturn { s with exitCode := some 0#32 }
  | abort {code : BitVec 32} : ProcessMove cfg s (.abort code) { s with exitCode := some code }

/-- A process that takes a step has not ended. -/
theorem processStep_running {cfg : RunConfig threads} {s next : ProcessState threads}
    {event : ProcessEvent threads} (moved : processStep cfg s event = some next) :
    s.exitCode = none := by
  obtain ⟨running, _⟩ := Option.ite_none_right_eq_some.mp moved
  exact running

/-- Every step of the process is one of the listed moves. -/
theorem processStep_move {cfg : RunConfig threads} {s next : ProcessState threads}
    {event : ProcessEvent threads} (moved : processStep cfg s event = some next) :
    ProcessMove cfg s event next := by
  obtain ⟨_, moved⟩ := Option.ite_none_right_eq_some.mp moved
  cases event with
  | tick clock =>
      obtain ⟨later, stepped⟩ := Option.ite_none_right_eq_some.mp moved
      obtain rfl := Option.some.inj stepped
      exact .tick later
  | worker w action =>
      obtain ⟨⟨phase, heartbeat⟩, stepped, rfl⟩ := Option.map_eq_some_iff.mp moved
      exact .worker (workerStep_move stepped)
  | watchdog action =>
      by_cases ending : action = .terminate
      · subst ending
        simp only [liveStep] at moved
        split at moved
        · rename_i message reported
          obtain rfl := Option.some.inj moved
          exact .terminate reported
        · cases moved
      · have scanned : liveStep cfg s (.watchdog action) =
            (watchdogStep cfg s.clock s.heartbeats s.watchdog action).map fun phase =>
              { s with watchdog := phase } := by
          cases action <;> first | rfl | exact absurd rfl ending
        obtain ⟨phase, stepped, rfl⟩ := Option.map_eq_some_iff.mp (scanned ▸ moved)
        exact .watchdog (watchdogStep_move stepped)
  | mainReturn =>
      obtain ⟨⟨joined, scanned⟩, stepped⟩ := Option.ite_none_right_eq_some.mp moved
      obtain rfl := Option.some.inj stepped
      exact .mainReturn joined scanned
  | abort code =>
      obtain rfl := Option.some.inj moved
      exact .abort

end SevenFuzzer
