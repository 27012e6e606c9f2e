import SevenFuzzer.Compare.Triage
import SevenFuzzer.Process.Model

/-! # The threads and their locks

`ProcessState` sees of a worker only which test case it is in. Here it is followed through
`run_worker`: the computation under `compute_mutex`, the sections under `io_mutex`, and
every increment of a shared counter are steps of their own, so that a run is an
interleaving of these. A worker may hang anywhere, and takes no step then. What the process
sees of a step is one of its steps or nothing, and of a run one of its runs
(`SevenFuzzer.threadsRun_process`).
-/

namespace SevenFuzzer

/-- What a round prints or writes under `io_mutex`. -/
inductive RoundSection where
  | running | harnessError
  | outlier (oidx : BitVec 32)
  | finding (idx : BitVec 32)
  | progress
  deriving DecidableEq

/-- Where a worker stands in a round; a section is waited for until its lock is held. -/
inductive RoundPoint where
  | generated
  | io (held : Bool) (work : RoundSection)
  | compute (held : Bool)
  | testing
  | comparing (hwOkThisRound : Bool)
  | saving
  | counting
  | done
  deriving DecidableEq

/-- Where a worker stands in `run_worker`. -/
inductive WorkerPoint where
  | notStarted
  | settingUp
  | session (held : Bool)
  | loopTest (localI : Nat)
  | inRound (localI : Nat) (point : RoundPoint)
  | handler (localI : Nat) (thrown : Thrown) (held : Bool)
  | returned (caught : Option Thrown)
  deriving DecidableEq

/-- What the watchdog can tell of where a worker is. -/
def WorkerPoint.phase : WorkerPoint → WorkerPhase
  | .notStarted => .notStarted
  | .settingUp | .session _ => .settingUp
  | .loopTest i => .loopTest i
  | .inRound i _ => .testCase i
  | .handler i thrown _ => .handler i thrown
  | .returned caught => .returned caught

/-- The worker holds the io lock. -/
def WorkerPoint.holdsIo : WorkerPoint → Bool
  | .session held | .handler _ _ held | .inRound _ (.io held _) => held
  | _ => false

/-- The worker holds the compute lock. -/
def WorkerPoint.holdsCompute : WorkerPoint → Bool
  | .inRound _ (.compute held) => held
  | _ => false

/-- The round a worker is in. -/
def WorkerPoint.localI : WorkerPoint → Nat
  | .loopTest i | .inRound i _ | .handler i _ _ => i
  | _ => 0

/-- Whether an exception is caught by the worker here; the first print is before the `try`. -/
def RoundPoint.inTry : RoundPoint → Bool
  | .generated | .io _ .running => false
  | _ => true

/-- What follows a section of a round. -/
def RoundSection.next : RoundSection → RoundPoint
  | .running => .compute false
  | .harnessError => .comparing false
  | .outlier _ | .finding _ => .counting
  | .progress => .done

/-- The dump a section writes. A finding has its section also when it is not written. -/
def RoundSection.dump : RoundSection → Option (OutputDir × BitVec 32)
  | .outlier oidx => some (.outliers, oidx)
  | .finding idx => if idx.slt kMaxDumpFilesPerDir then some (.findings, idx) else none
  | _ => none

/-- The steps of a worker, with what is not its own decision: whether the session could be
started, what the hardware lane returned, what the comparison found. -/
inductive WorkerOp where
  | start
  | setUp (sessionStarted : Bool)
  | beginCase | generate
  | lockIo | unlockIo
  | lockCompute | unlockCompute
  | runHardware (setupOk : Bool)
  | compare (d : RoundDivergences)
  | save | count | endCase
  | raise (thrown : Thrown)
  | leaveLoop (discards : BitVec 64)

/-- What a step of a worker changes. -/
structure WorkerResult where
  point : WorkerPoint
  usesHw : Bool
  counters : SharedCounters
  dump : Option (OutputDir × BitVec 32) := none
  /-- what the process sees of it -/
  action : Option WorkerAction := none

/-- The step of a worker in a round that goes on. -/
def roundStep (verboseFrom : BitVec 64) (localI : Nat) (usesHw : Bool) (counters : SharedCounters)
    (point : RoundPoint) (op : WorkerOp) : Option (RoundPoint × SharedCounters) :=
  match point, op with
  | .generated, .generate =>
      some (if verboseFrom ≤ BitVec.ofNat 64 localI then .io false .running else .compute false,
        counters)
  | .io false work, .lockIo => some (.io true work, counters)
  | .io true work, .unlockIo => some (work.next, counters)
  | .compute false, .lockCompute => some (.compute true, counters)
  | .compute true, .unlockCompute => some (.testing, counters)
  | .testing, .runHardware setupOk =>
      if usesHw ∧ ¬ setupOk then
        some (.io false .harnessError,
          { counters with hwHarnessErrors := counters.hwHarnessErrors + 1 })
      else some (.comparing usesHw, counters)
  | .comparing hwOkThisRound, .compare d =>
      if d.unicornOnlyOutlier hwOkThisRound then
        some (.saving, { counters with unicornOutlierCount := counters.unicornOutlierCount + 1 })
      else if d.divergences ≠ [] then
        some (.io false (.finding counters.findingCount),
          { counters with findingCount := counters.findingCount + 1 })
      else some (.counting, counters)
  | .saving, .save =>
      let oidx := counters.unicornOutlierSaved
      some (if oidx.slt kMaxDumpFilesPerDir then .io false (.outlier oidx) else .counting,
        { counters with unicornOutlierSaved := oidx + 1 })
  | .counting, .count =>
      let done := counters.totalDone + 1
      some (if done % 5000#64 = 0#64 then .io false .progress else .done,
        { counters with totalDone := done })
  | _, _ => none

/-- What is written when a section ends. -/
def RoundPoint.dump : RoundPoint → WorkerOp → Option (OutputDir × BitVec 32)
  | .io true work, .unlockIo => work.dump
  | _, _ => none

/-- What an operation does to its worker and to the shared counters, where it is possible at all. -/
def opStep (share : Nat) (verboseFrom : BitVec 64) (point : WorkerPoint) (usesHw : Bool)
    (counters : SharedCounters) (op : WorkerOp) : Option WorkerResult :=
  match point, op with
  | .notStarted, .start => some { point := .settingUp, usesHw, counters, action := some .start }
  | .settingUp, .setUp sessionStarted =>
      if usesHw then some { point := .session false, usesHw := sessionStarted, counters }
      else some { point := .loopTest 0, usesHw, counters, action := some .enterLoop }
  | .session false, .lockIo => some { point := .session true, usesHw, counters }
  | .session true, .unlockIo =>
      some { point := .loopTest 0, usesHw, counters, action := some .enterLoop }
  | .loopTest i, .beginCase =>
      if i < share then
        some { point := .inRound i .generated, usesHw, counters, action := some .beginCase }
      else none
  | .loopTest i, .leaveLoop discards =>
      if i < share then none
      else some
        { point := .returned none
          usesHw
          counters := { counters with generatorDiscards := counters.generatorDiscards + discards }
          action := some .leaveLoop }
  | .inRound i .done, .endCase =>
      some { point := .loopTest (i + 1), usesHw, counters, action := some .endCase }
  | .inRound i point, .raise thrown =>
      if point.inTry then
        some { point := .handler i thrown false, usesHw, counters, action := some (.raise thrown) }
      else none
  | .inRound i point, op =>
      (roundStep verboseFrom i usesHw counters point op).map fun moved =>
        { point := .inRound i moved.1, usesHw, counters := moved.2, dump := point.dump op }
  | .handler i thrown false, .lockIo =>
      some { point := .handler i thrown true, usesHw, counters }
  | .handler _ thrown true, .unlockIo =>
      some { point := .returned (some thrown), usesHw, counters, action := some .leaveHandler }
  | _, _ => none

/-! ## The threads -/

/-- A file that was written, and in which round. -/
structure DumpFile (threads : Nat) where
  dir : OutputDir
  index : BitVec 32
  worker : Fin threads
  localI : Nat

/-- Who holds a lock. -/
inductive LockOwner (threads : Nat) where
  | worker (w : Fin threads)
  | watchdog
  deriving DecidableEq

/-- A worker: where it is, and whether it has stopped for good. -/
structure Worker where
  point : WorkerPoint := .notStarted
  /-- `worker_use_hw` -/
  usesHw : Bool
  hung : Bool := false

/-- The run's settings, with those the rounds need. -/
structure ThreadsConfig (threads : Nat) extends RunConfig threads where
  useHw : Bool
  verboseFrom : BitVec 64

/-- The process with its locks, counters and files. -/
structure ThreadsState (threads : Nat) where
  clock : BitVec 64
  heartbeats : Fin threads → WorkerHeartbeat
  workers : Fin threads → Worker
  watchdog : WatchdogPhase
  exitCode : Option (BitVec 32)
  counters : SharedCounters := {}
  dumps : List (DumpFile threads) := []
  ioMutex : Option (LockOwner threads) := none
  computeMutex : Option (LockOwner threads) := none

variable {threads : Nat}

/-- The process as it is seen without points and locks. -/
def ThreadsState.process (s : ThreadsState threads) : ProcessState threads where
  clock := s.clock
  heartbeats := s.heartbeats
  workers := fun w => (s.workers w).point.phase
  watchdog := s.watchdog
  exitCode := s.exitCode

/-- A step of a worker, the end of its steps, the watchdog taking the lock it prints under, or
a step of the process in which no worker takes part. -/
inductive ThreadsEvent (threads : Nat) where
  | worker (w : Fin threads) (op : WorkerOp)
  | hang (w : Fin threads)
  | watchdogLock
  | process (event : ProcessEvent threads)

/-- A lock over a step of one thread, which holds it before and after or not. A thread that
wants it waits until it is free. -/
def lockStep (owner : LockOwner threads) (before after : Bool) (lock : Option (LockOwner threads)) :
    Option (Option (LockOwner threads)) :=
  match before, after with
  | false, true => if lock = none then some (some owner) else none
  | true, false => some none
  | _, _ => some lock

/-- What the process sees of a step of a worker. -/
def seenStep (cfg : RunConfig threads) (s : ProcessState threads) (w : Fin threads) :
    Option WorkerAction → Option (ProcessState threads)
  | none => some s
  | some action => liveStep cfg s (.worker w action)

/-- A step of a worker, with the locks it takes and leaves by it. -/
def workerThreadStep (cfg : ThreadsConfig threads) (s : ThreadsState threads) (w : Fin threads)
    (op : WorkerOp) : Option (ThreadsState threads) := do
  let worker := s.workers w
  let result ← opStep (cfg.share w) cfg.verboseFrom worker.point worker.usesHw s.counters op
  let ioMutex ← lockStep (.worker w) worker.point.holdsIo result.point.holdsIo s.ioMutex
  let computeMutex ←
    lockStep (.worker w) worker.point.holdsCompute result.point.holdsCompute s.computeMutex
  let process ← seenStep cfg.toRunConfig s.process w result.action
  return {
    clock := process.clock
    heartbeats := process.heartbeats
    workers := Function.update s.workers w
      { worker with point := result.point, usesHw := result.usesHw }
    watchdog := process.watchdog
    exitCode := process.exitCode
    counters := result.counters
    dumps := s.dumps ++
      (result.dump.map fun dump => ⟨dump.1, dump.2, w, worker.point.localI⟩).toList
    ioMutex
    computeMutex }

/-- The state after a step of the watchdog or of the clock. -/
def ThreadsState.withProcess (s : ThreadsState threads) (process : ProcessState threads)
    (ioMutex : Option (LockOwner threads)) : ThreadsState threads :=
  { s with
    clock := process.clock
    watchdog := process.watchdog
    exitCode := process.exitCode
    ioMutex }

/-- One step of threads that have not ended. -/
def liveThreadsStep (cfg : ThreadsConfig threads) (s : ThreadsState threads) :
    ThreadsEvent threads → Option (ThreadsState threads)
  | .worker w op => if (s.workers w).hung then none else workerThreadStep cfg s w op
  | .hang w =>
      some { s with workers := Function.update s.workers w { s.workers w with hung := true } }
  | .watchdogLock =>
      match s.watchdog, s.ioMutex with
      | .hungFound _, none => some { s with ioMutex := some .watchdog }
      | _, _ => none
  | .process (.worker _ _) => none
  | .process (.watchdog .report) =>
      -- the lock is left when the line is printed
      if s.ioMutex = some .watchdog then
        (liveStep cfg.toRunConfig s.process (.watchdog .report)).map (s.withProcess · none)
      else none
  | .process event =>
      (liveStep cfg.toRunConfig s.process event).map (s.withProcess · s.ioMutex)

/-- A step of the run. A process that has ended takes none. -/
def threadsStep (cfg : ThreadsConfig threads) (s : ThreadsState threads)
    (event : ThreadsEvent threads) : Option (ThreadsState threads) :=
  if s.exitCode = none then liveThreadsStep cfg s event else none

/-- The threads when main has made the heartbeats. -/
def ThreadsState.initial (cfg : ThreadsConfig threads) (clock : BitVec 64) :
    ThreadsState threads where
  clock := clock
  heartbeats := fun _ => {}
  workers := fun _ => { usesHw := cfg.useHw }
  watchdog := if cfg.watchdogSeconds = 0#32 then .returned else .sleeping
  exitCode := none

/-- The steps of a worker: its point, its session and the counters before, and the result. -/
inductive OpMove (share : Nat) (verboseFrom : BitVec 64) (usesHw : Bool)
    (counters : SharedCounters) : WorkerPoint → WorkerOp → WorkerResult → Prop where
  | start : OpMove share verboseFrom usesHw counters .notStarted .start
      { point := .settingUp, usesHw, counters, action := some .start }
  | openSession {sessionStarted : Bool} (wanted : usesHw = true) :
      OpMove share verboseFrom usesHw counters .settingUp (.setUp sessionStarted)
        { point := .session false, usesHw := sessionStarted, counters }
  | skipSession {sessionStarted : Bool} (unwanted : usesHw = false) :
      OpMove share verboseFrom usesHw counters .settingUp (.setUp sessionStarted)
        { point := .loopTest 0, usesHw, counters, action := some .enterLoop }
  | lockSession : OpMove share verboseFrom usesHw counters (.session false) .lockIo
      { point := .session true, usesHw, counters }
  | unlockSession : OpMove share verboseFrom usesHw counters (.session true) .unlockIo
      { point := .loopTest 0, usesHw, counters, action := some .enterLoop }
  | beginCase {i : Nat} (within : i < share) :
      OpMove share verboseFrom usesHw counters (.loopTest i) .beginCase
        { point := .inRound i .generated, usesHw, counters, action := some .beginCase }
  | leaveLoop {i : Nat} {discards : BitVec 64} (spent : share ≤ i) :
      OpMove share verboseFrom usesHw counters (.loopTest i) (.leaveLoop discards)
        { point := .returned none
          usesHw
          counters := { counters with generatorDiscards := counters.generatorDiscards + discards }
          action := some .leaveLoop }
  | endCase {i : Nat} : OpMove share verboseFrom usesHw counters (.inRound i .done) .endCase
      { point := .loopTest (i + 1), usesHw, counters, action := some .endCase }
  | raise {i : Nat} {point : RoundPoint} {thrown : Thrown} (caught : point.inTry = true) :
      OpMove share verboseFrom usesHw counters (.inRound i point) (.raise thrown)
        { point := .handler i thrown false, usesHw, counters, action := some (.raise thrown) }
  | generate {i : Nat} : OpMove share verboseFrom usesHw counters (.inRound i .generated) .generate
      { point := .inRound i
          (if verboseFrom ≤ BitVec.ofNat 64 i then .io false .running else .compute false)
        usesHw
        counters }
  | lockSection {i : Nat} {work : RoundSection} :
      OpMove share verboseFrom usesHw counters (.inRound i (.io false work)) .lockIo
        { point := .inRound i (.io true work), usesHw, counters }
  | unlockSection {i : Nat} {work : RoundSection} :
      OpMove share verboseFrom usesHw counters (.inRound i (.io true work)) .unlockIo
        { point := .inRound i work.next, usesHw, counters, dump := work.dump }
  | lockCompute {i : Nat} :
      OpMove share verboseFrom usesHw counters (.inRound i (.compute false)) .lockCompute
        { point := .inRound i (.compute true), usesHw, counters }
  | unlockCompute {i : Nat} :
      OpMove share verboseFrom usesHw counters (.inRound i (.compute true)) .unlockCompute
        { point := .inRound i .testing, usesHw, counters }
  | harnessError {i : Nat} {setupOk : Bool} (failed : usesHw = true ∧ ¬ setupOk) :
      OpMove share verboseFrom usesHw counters (.inRound i .testing) (.runHardware setupOk)
        { point := .inRound i (.io false .harnessError)
          usesHw
          counters := { counters with hwHarnessErrors := counters.hwHarnessErrors + 1 } }
  | tested {i : Nat} {setupOk : Bool} (succeeded : ¬ (usesHw = true ∧ ¬ setupOk)) :
      OpMove share verboseFrom usesHw counters (.inRound i .testing) (.runHardware setupOk)
        { point := .inRound i (.comparing usesHw), usesHw, counters }
  | outlier {i : Nat} {hwOkThisRound : Bool} {d : RoundDivergences}
      (only : d.unicornOnlyOutlier hwOkThisRound) :
      OpMove share verboseFrom usesHw counters (.inRound i (.comparing hwOkThisRound)) (.compare d)
        { point := .inRound i .saving
          usesHw
          counters := { counters with unicornOutlierCount := counters.unicornOutlierCount + 1 } }
  | finding {i : Nat} {hwOkThisRound : Bool} {d : RoundDivergences}
      (other : ¬ d.unicornOnlyOutlier hwOkThisRound) (diverged : d.divergences ≠ []) :
      OpMove share verboseFrom usesHw counters (.inRound i (.comparing hwOkThisRound)) (.compare d)
        { point := .inRound i (.io false (.finding counters.findingCount))
          usesHw
          counters := { counters with findingCount := counters.findingCount + 1 } }
  | agree {i : Nat} {hwOkThisRound : Bool} {d : RoundDivergences} (agreed : d.divergences = []) :
      OpMove share verboseFrom usesHw counters (.inRound i (.comparing hwOkThisRound)) (.compare d)
        { point := .inRound i .counting, usesHw, counters }
  | save {i : Nat} : OpMove share verboseFrom usesHw counters (.inRound i .saving) .save
      { point := .inRound i (if counters.unicornOutlierSaved.slt kMaxDumpFilesPerDir then
          .io false (.outlier counters.unicornOutlierSaved) else .counting)
        usesHw
        counters := { counters with unicornOutlierSaved := counters.unicornOutlierSaved + 1 } }
  | count {i : Nat} : OpMove share verboseFrom usesHw counters (.inRound i .counting) .count
      { point := .inRound i
          (if (counters.totalDone + 1) % 5000#64 = 0#64 then .io false .progress else .done)
        usesHw
        counters := { counters with totalDone := counters.totalDone + 1 } }
  | lockHandler {i : Nat} {thrown : Thrown} :
      OpMove share verboseFrom usesHw counters (.handler i thrown false) .lockIo
        { point := .handler i thrown true, usesHw, counters }
  | unlockHandler {i : Nat} {thrown : Thrown} :
      OpMove share verboseFrom usesHw counters (.handler i thrown true) .unlockIo
        { point := .returned (some thrown), usesHw, counters, action := some .leaveHandler }

/-- An outlier has divergences. -/
theorem RoundDivergences.divergences_ne_nil {d : RoundDivergences} {hwOkThisRound : Bool}
    (only : d.unicornOnlyOutlier hwOkThisRound) : d.divergences ≠ [] := by
  obtain ⟨-, -, differs⟩ := only
  intro none
  simp only [divergences, List.append_eq_nil_iff] at none
  exact differs.elim (· none.1.1) (· none.2)

section

variable {share : Nat} {verboseFrom : BitVec 64} {usesHw : Bool} {counters : SharedCounters}

/-- A step of a round is one of the listed moves. -/
theorem roundStep_move {i : Nat} {point point' : RoundPoint} {op : WorkerOp}
    {counters' : SharedCounters}
    (moved : roundStep verboseFrom i usesHw counters point op = some (point', counters')) :
    OpMove share verboseFrom usesHw counters (.inRound i point) op
      { point := .inRound i point', usesHw, counters := counters', dump := point.dump op } := by
  unfold roundStep at moved
  split at moved
  case h_6 =>
      split at moved
      · rename_i failed
        cases moved
        exact .harnessError failed
      · rename_i succeeded
        cases moved
        exact .tested succeeded
  case h_7 =>
      split at moved
      · rename_i only
        cases moved
        exact .outlier only
      · rename_i other
        split at moved
        · rename_i diverged
          cases moved
          exact .finding other diverged
        · rename_i agreed
          cases moved
          exact .agree (not_not.mp agreed)
  case h_10 => cases moved
  all_goals
    cases moved
    constructor

/-- So is an operation of a worker. -/
theorem opStep_move {point : WorkerPoint} {op : WorkerOp} {result : WorkerResult}
    (moved : opStep share verboseFrom point usesHw counters op = some result) :
    OpMove share verboseFrom usesHw counters point op result := by
  unfold opStep at moved
  split at moved
  case h_2 =>
      split at moved
      · rename_i wanted
        cases moved
        exact .openSession wanted
      · rename_i unwanted
        cases moved
        exact .skipSession (Bool.eq_false_iff.mpr unwanted)
  case h_5 =>
      obtain ⟨within, stepped⟩ := Option.ite_none_right_eq_some.mp moved
      cases stepped
      exact .beginCase within
  case h_6 =>
      obtain ⟨spent, stepped⟩ := Option.ite_none_left_eq_some.mp moved
      cases stepped
      exact .leaveLoop (Nat.le_of_not_lt spent)
  case h_8 =>
      obtain ⟨caught, stepped⟩ := Option.ite_none_right_eq_some.mp moved
      cases stepped
      exact .raise caught
  case h_9 =>
      obtain ⟨⟨point', counters'⟩, stepped, rfl⟩ := Option.map_eq_some_iff.mp moved
      exact roundStep_move stepped
  case h_12 => cases moved
  all_goals
    cases moved
    constructor

end

/-- The steps of the threads. -/
inductive ThreadsMove (cfg : ThreadsConfig threads) (s : ThreadsState threads) :
    ThreadsEvent threads → ThreadsState threads → Prop where
  | worker {w : Fin threads} {op : WorkerOp} {result : WorkerResult}
      {ioMutex computeMutex : Option (LockOwner threads)} {process : ProcessState threads}
      (awake : (s.workers w).hung = false)
      (moves : OpMove (cfg.share w) cfg.verboseFrom (s.workers w).usesHw s.counters
        (s.workers w).point op result)
      (io : lockStep (.worker w) (s.workers w).point.holdsIo result.point.holdsIo s.ioMutex =
        some ioMutex)
      (compute : lockStep (.worker w) (s.workers w).point.holdsCompute result.point.holdsCompute
        s.computeMutex = some computeMutex)
      (seen : seenStep cfg.toRunConfig s.process w result.action = some process) :
      ThreadsMove cfg s (.worker w op)
        { clock := process.clock
          heartbeats := process.heartbeats
          workers := Function.update s.workers w
            { s.workers w with point := result.point, usesHw := result.usesHw }
          watchdog := process.watchdog
          exitCode := process.exitCode
          counters := result.counters
          dumps := s.dumps ++
            (result.dump.map fun dump => ⟨dump.1, dump.2, w, (s.workers w).point.localI⟩).toList
          ioMutex
          computeMutex }
  | hang {w : Fin threads} : ThreadsMove cfg s (.hang w)
      { s with workers := Function.update s.workers w { s.workers w with hung := true } }
  | watchdogLock {v : Nat} (found : s.watchdog = .hungFound v) (free : s.ioMutex = none) :
      ThreadsMove cfg s .watchdogLock { s with ioMutex := some .watchdog }
  | report {process : ProcessState threads} (owned : s.ioMutex = some .watchdog)
      (seen : liveStep cfg.toRunConfig s.process (.watchdog .report) = some process) :
      ThreadsMove cfg s (.process (.watchdog .report)) (s.withProcess process none)
  | process {event : ProcessEvent threads} {process : ProcessState threads}
      (foreign : ∀ w action, event ≠ .worker w action) (other : event ≠ .watchdog .report)
      (seen : liveStep cfg.toRunConfig s.process event = some process) :
      ThreadsMove cfg s (.process event) (s.withProcess process s.ioMutex)

variable {cfg : ThreadsConfig threads} {s next : ThreadsState threads}
  {event : ThreadsEvent threads}

/-- A process that takes a step has not ended. -/
theorem threadsStep_running (moved : threadsStep cfg s event = some next) : s.exitCode = none := by
  obtain ⟨running, _⟩ := Option.ite_none_right_eq_some.mp moved
  exact running

/-- Every step of the run is one of the listed moves. -/
theorem threadsStep_move (moved : threadsStep cfg s event = some next) :
    ThreadsMove cfg s event next := by
  obtain ⟨_, stepped⟩ := Option.ite_none_right_eq_some.mp moved
  unfold liveThreadsStep at stepped
  split at stepped
  case h_1 w op =>
      obtain ⟨awake, moved⟩ := Option.ite_none_left_eq_some.mp stepped
      obtain ⟨result, operated, moved⟩ := Option.bind_eq_some_iff.mp moved
      obtain ⟨ioMutex, io, moved⟩ := Option.bind_eq_some_iff.mp moved
      obtain ⟨computeMutex, compute, moved⟩ := Option.bind_eq_some_iff.mp moved
      obtain ⟨process, seen, moved⟩ := Option.bind_eq_some_iff.mp moved
      obtain rfl := Option.some.inj moved
      exact .worker (Bool.eq_false_iff.mpr awake) (opStep_move operated) io compute seen
  case h_2 =>
      obtain rfl := Option.some.inj stepped
      exact .hang
  case h_3 =>
      split at stepped
      · rename_i v found free
        obtain rfl := Option.some.inj stepped
        exact .watchdogLock found free
      · cases stepped
  case h_4 => cases stepped
  case h_5 =>
      obtain ⟨owned, moved⟩ := Option.ite_none_right_eq_some.mp stepped
      obtain ⟨process, seen, rfl⟩ := Option.map_eq_some_iff.mp moved
      exact .report owned seen
  case h_6 foreign other =>
      obtain ⟨process, seen, rfl⟩ := Option.map_eq_some_iff.mp stepped
      exact .process foreign other seen

/-- Workers do not move in a step of the process that is not theirs. -/
theorem liveStep_workers {cfg : RunConfig threads} {s next : ProcessState threads}
    {event : ProcessEvent threads} (foreign : ∀ w action, event ≠ .worker w action)
    (running : s.exitCode = none) (moved : liveStep cfg s event = some next) :
    next.workers = s.workers ∧ next.heartbeats = s.heartbeats := by
  have whole : processStep cfg s event = some next := by rw [processStep, if_pos running, moved]
  cases processStep_move whole with
  | worker => exact absurd rfl (foreign _ _)
  | tick | watchdog | terminate | mainReturn | abort => exact ⟨rfl, rfl⟩

/-- An operation without an action is not seen by the watchdog. -/
theorem OpMove.unseen {share : Nat} {verboseFrom : BitVec 64} {usesHw : Bool}
    {counters : SharedCounters} {point : WorkerPoint} {op : WorkerOp} {result : WorkerResult}
    (moves : OpMove share verboseFrom usesHw counters point op result)
    (unseen : result.action = none) : result.point.phase = point.phase := by
  cases moves <;> first | rfl | cases unseen

/-- An operation with one is the worker's step of that action. -/
theorem OpMove.seen {share : Nat} {verboseFrom : BitVec 64} {usesHw : Bool}
    {counters : SharedCounters} {point : WorkerPoint} {op : WorkerOp} {result : WorkerResult}
    (moves : OpMove share verboseFrom usesHw counters point op result) {action : WorkerAction}
    (seen : result.action = some action) {clock : BitVec 64}
    {heartbeat heartbeat' : WorkerHeartbeat}
    {phase : WorkerPhase}
    (moved : WorkerMove share clock heartbeat point.phase action phase heartbeat') :
    phase = result.point.phase := by
  cases moves <;> cases seen <;> cases moved <;> rfl

/-- What the watchdog sees of the state after its own step. -/
theorem ThreadsState.withProcess_process {process : ProcessState threads}
    {ioMutex : Option (LockOwner threads)} (workers : process.workers = s.process.workers)
    (heartbeats : process.heartbeats = s.process.heartbeats) :
    (s.withProcess process ioMutex).process = process := by
  obtain ⟨clock, heartbeats', workers', watchdog, exitCode⟩ := process
  dsimp only at workers heartbeats
  rw [workers, heartbeats]
  rfl

/-- What is read off the points when one worker has moved. -/
theorem point_update {Value : Type*} (read : Fin threads → WorkerPoint → Value)
    (workers : Fin threads → Worker) (w : Fin threads) (worker : Worker) :
    (fun v => read v (Function.update workers w worker v).point) =
      Function.update (fun v => read v (workers v).point) w (read w worker.point) := by
  funext v
  by_cases same : v = w
  · subst same
    simp only [Function.update_self]
  · simp only [Function.update_of_ne same]

/-- What the process sees of a step is one of its steps, or nothing. -/
theorem threadsStep_process (moved : threadsStep cfg s event = some next) :
    next.process = s.process ∨
      ∃ event, processStep cfg.toRunConfig s.process event = some next.process := by
  have running : s.process.exitCode = none := threadsStep_running moved
  cases threadsStep_move moved with
  | @worker w op result ioMutex computeMutex process awake moves io compute seen =>
      cases action : result.action with
      | none =>
          left
          rw [action] at seen
          obtain rfl := Option.some.inj seen
          have still : Function.update s.process.workers w result.point.phase =
              s.process.workers := by
            rw [moves.unseen action]
            exact Function.update_eq_self w s.process.workers
          have points := point_update (fun _ => WorkerPoint.phase) s.workers w
            { s.workers w with point := result.point, usesHw := result.usesHw }
          exact congrArg (fun workers => { s.process with workers }) (points.trans still)
      | some act =>
          rw [action] at seen
          have whole : processStep cfg.toRunConfig s.process (.worker w act) = some process :=
            (if_pos running).trans seen
          refine .inr ⟨.worker w act, whole.trans (congrArg some ?_)⟩
          cases processStep_move whole with
          | worker acted =>
              obtain rfl := moves.seen action acted
              simp only [ThreadsState.process, ProcessState.mk.injEq, true_and, and_true]
              exact (point_update (fun _ => WorkerPoint.phase) s.workers w
                { s.workers w with point := result.point, usesHw := result.usesHw }).symm
  | @hang w =>
      left
      have points : (fun v => (Function.update s.workers w
          { s.workers w with hung := true } v).point.phase) = s.process.workers :=
        (point_update (fun _ => WorkerPoint.phase) s.workers w _).trans
          (Function.update_eq_self w s.process.workers)
      exact congrArg (fun workers => { s.process with workers }) points
  | watchdogLock => exact .inl rfl
  | @report process owned seen =>
      obtain ⟨workers, heartbeats⟩ := liveStep_workers (by rintro _ _ ⟨⟩) running seen
      rw [ThreadsState.withProcess_process workers heartbeats]
      exact .inr ⟨_, (if_pos running).trans seen⟩
  | @process event process foreign other seen =>
      obtain ⟨workers, heartbeats⟩ := liveStep_workers foreign running seen
      rw [ThreadsState.withProcess_process workers heartbeats]
      exact .inr ⟨_, (if_pos running).trans seen⟩

/-- What the process sees of a run of the threads is one of its runs. -/
theorem threadsRun_process {clock : BitVec 64}
    {trace : List (ThreadsState threads × ThreadsEvent threads)}
    (run : Transition.Run (threadsStep cfg) (.initial cfg clock) trace s) :
    ∃ seen, Transition.Run (processStep cfg.toRunConfig) (.initial cfg.toRunConfig clock) seen
      s.process :=
  run.seen ThreadsState.process fun _ _ _ => threadsStep_process

end SevenFuzzer
