import SevenFuzzer.Hardware.Session
import SevenFuzzer.Library.Command

/-! # The ledger of debug events

Read off the log of calls: which debug events have been obtained and not yet
continued, and whether each continuation was of such an event and each closing of
the victim's handles came when there was none. Between two calls on the session
the ledger is settled when the only event it still owes is the parked one. This
module follows the ledger through the end of a victim, through both pumps and
through the start of a victim.
-/

namespace SevenFuzzer

open Command

/-- The account of the debug events, kept over the log: what is outstanding, and whether every
continuation so far had an event to continue. -/
@[ext] structure EventLedger where
  /-- The serials of the obtained events that have not been continued, newest first. -/
  outstanding : List Nat
  sound : Bool
  deriving DecidableEq

/-- An event is entered when it is obtained and struck off when it is continued. -/
def EventLedger.post (ledger : EventLedger) : Call → EventLedger
  | .waitForDebugEvent _ (some event) =>
      { ledger with outstanding := event.serial :: ledger.outstanding }
  | .continueDebugEvent event _ =>
      { outstanding := ledger.outstanding.erase event.serial
        sound := ledger.sound && ledger.outstanding.contains event.serial }
  | .closeHandle .victimProcess _ | .closeHandle .victimThread _ =>
      { ledger with sound := ledger.sound && ledger.outstanding.isEmpty }
  | _ => ledger

/-- The ledger with one more event in hand. -/
def EventLedger.hold (ledger : EventLedger) (serial : Nat) : EventLedger :=
  { ledger with outstanding := serial :: ledger.outstanding }

/-- The ledger after a log. -/
def ledgerOf (log : List Call) : EventLedger :=
  log.foldl EventLedger.post ⟨[], true⟩

@[simp] theorem ledgerOf_append (log calls : List Call) :
    ledgerOf (log ++ calls) = calls.foldl EventLedger.post (ledgerOf log) :=
  List.foldl_append

/-- An event that is obtained and continued at once leaves the ledger as it was. -/
@[simp] theorem EventLedger.post_wait_continue (ledger : EventLedger) (milliseconds : Nat)
    (event : DebugEvent) (victim : Victim) :
    (ledger.post (.waitForDebugEvent milliseconds (some event))).post
      (.continueDebugEvent event victim) = ledger := by
  simp [EventLedger.post]

/-- Every obtained event has been continued, once, but for the parked one. -/
def Settled (w : World) : Prop :=
  ledgerOf w.log = ⟨if w.impl.pendingValid then [w.impl.pendingEvent.serial] else [], true⟩

/-- The session holds no victim and no event. -/
structure TornDown (impl : Impl) : Prop where
  ready : impl.ready = false
  pending : impl.pendingValid = false
  job : impl.job = 0
  process : impl.process = 0
  thread : impl.thread = 0

/-- A session between two calls has a victim with a parked event, or none. -/
def Bounded (impl : Impl) : Prop :=
  if impl.ready then impl.pendingValid = true else TornDown impl

/-- The same events are outstanding, and a sound ledger without any is still sound. -/
structure SameDebts (log log' : List Call) : Prop where
  outstanding : (ledgerOf log').outstanding = (ledgerOf log).outstanding
  settled : (ledgerOf log).outstanding = [] → ledgerOf log' = ledgerOf log

/-- The same ledger is the same debts. -/
theorem SameDebts.of_eq {log log' : List Call} (same : ledgerOf log' = ledgerOf log) :
    SameDebts log log' :=
  ⟨congrArg _ same, fun _ => same⟩

/-- Debts that stay the same twice stay the same. -/
theorem SameDebts.trans {log log' log'' : List Call} (first : SameDebts log log')
    (second : SameDebts log' log'') : SameDebts log log'' where
  outstanding := second.outstanding.trans first.outstanding
  settled empty := (second.settled (first.outstanding.trans empty)).trans (first.settled empty)

/-- Closing a handle pays nothing. -/
theorem sameDebts_close (log : List Call) (kind : HandleKind) (handle : HANDLE) :
    SameDebts log (log ++ [.closeHandle kind handle]) := by
  constructor
  · cases kind <;> simp [EventLedger.post]
  · intro empty
    cases kind <;> simp [EventLedger.post, empty]
    all_goals
      ext1
      · exact empty.symm
      · rfl

/-- A victim has been given up: what was outstanding stays so. -/
structure GivenUp (log : List Call) (w : World) : Prop where
  tornDown : TornDown w.impl
  debts : SameDebts log w.log

/-- A session that is given up is settled exactly if nothing was outstanding. -/
theorem GivenUp.settled_iff {log : List Call} {w : World} (givenUp : GivenUp log w)
    (sound : (ledgerOf log).sound = true) :
    Settled w ↔ (ledgerOf log).outstanding = [] := by
  rw [Settled, givenUp.tornDown.pending]
  constructor
  · intro settled
    rw [← givenUp.debts.outstanding, settled]
    rfl
  · intro empty
    rw [givenUp.debts.settled empty]
    exact EventLedger.ext empty sound

/-- So it is settled if the ledger was clear. -/
theorem GivenUp.settled {log : List Call} {w : World} (givenUp : GivenUp log w)
    (clear : ledgerOf log = ⟨[], true⟩) : Settled w :=
  (givenUp.settled_iff (by rw [clear])).mpr (by rw [clear])

/-- And it is not if an event was owed. -/
theorem GivenUp.not_settled {log : List Call} {w : World} {serial : Nat}
    (givenUp : GivenUp log w) (owed : ledgerOf log = ⟨[serial], true⟩) : ¬ Settled w := by
  rw [givenUp.settled_iff (by rw [owed]), owed]
  exact List.cons_ne_nil _ _

/-- Every event of the drain is continued at once. -/
theorem wp_drainLoop (count : Nat) (stream : List Delivery) (w : World) :
    wp (drainLoop count stream) (fun _ w' => ledgerOf w'.log = ledgerOf w.log)
      (fun _ _ => False) w := by
  induction count generalizing stream w with
  | zero => rfl
  | succ count ih =>
      cases stream with
      | nil => simp [drainLoop, waitForNothing, record, EventLedger.post]
      | cons delivery rest =>
          simp only [drainLoop, waitForDebugEvent, record, wp_bind, wp_get, wp_set, wp_modify,
            wp_pure]
          cases delivery.event with
          | none => simp [EventLedger.post]
          | some event =>
              simp only [Option.map_some, continueDebugEvent, record, wp_bind, wp_get, wp_modify]
              split
              · simp
              · refine wp_mono (fun _ w' same => ?_) (fun _ _ => id) (ih rest _)
                simpa using same

/-- So terminating the victim pays no debt and makes none. -/
theorem wp_drainToExit (w : World) :
    wp drainToExit (fun _ w' => SameDebts w.log w'.log) (fun _ _ => False) w := by
  simp only [drainToExit, record, wp_bind, wp_get]
  split
  · exact .of_eq rfl
  · refine wp_mono (fun _ w' same => ?_) (fun _ _ => id) (wp_drainLoop 50 w.stream _)
    exact .of_eq (by simpa [EventLedger.post] using same)

/-- An action that is left out for a null handle. -/
theorem wp_whenOpen {handle : HANDLE} {action : Session Unit} {good : Unit → World → Prop}
    {bad : String → World → Prop} {w : World} (skip : good () w) (act : wp action good bad w) :
    wp (whenOpen handle action) good bad w := by
  rw [whenOpen, wp_ite]
  split
  · exact act
  · exact skip

/-- Closing a handle pays nothing. -/
theorem wp_closeWhenOpen (kind : HandleKind) (handle : HANDLE) (w : World) :
    wp (whenOpen handle (closeHandle kind handle))
      (fun _ w' => SameDebts w.log w'.log) (fun _ _ => False) w :=
  wp_whenOpen (.of_eq rfl) (sameDebts_close ..)

/-- **Giving the victim up** leaves the ledger's debts and no victim. -/
theorem wp_teardown (w : World) :
    wp teardown (fun _ w' => GivenUp w.log w') (fun _ _ => False) w := by
  rw [teardown, wp_bind, wp_get]
  refine wp_seq (wp_whenOpen (.of_eq rfl) (wp_drainToExit w)) fun _ w₁ drained => ?_
  refine wp_seq (wp_closeWhenOpen ..) fun _ w₂ thread => ?_
  refine wp_seq (wp_closeWhenOpen ..) fun _ w₃ process => ?_
  refine wp_seq (wp_closeWhenOpen ..) fun _ w₄ job => ?_
  exact ⟨⟨rfl, rfl, rfl, rfl, rfl⟩, drained.trans (thread.trans (process.trans job))⟩

/-- A part of the session that leaves the stream and the ledger alone, and keeps a
session without a victim as it is. -/
theorem wp_teardown_idle {w : World} (tornDown : TornDown w.impl) :
    wp teardown (fun _ w' => TornDown w'.impl ∧ w'.stream = w.stream ∧ w'.log = w.log)
      (fun _ _ => False) w := by
  simp only [teardown, whenOpen, modifyImpl, wp_bind, wp_get, tornDown.process, tornDown.thread,
    tornDown.job, ne_eq, not_true_eq_false, ↓reduceIte, wp_pure, wp_modify]
  exact ⟨⟨rfl, rfl, rfl, rfl, rfl⟩, trivial, trivial⟩

/-- So does giving it up with an error. -/
theorem wp_tearDownWith {α : Type} {good : α → World → Prop} {bad : String → World → Prop}
    (error : String) {w : World} (gaveUp : ∀ w', GivenUp w.log w' → bad error w') :
    wp (tearDownWith error) good bad w :=
  wp_seq (wp_mono (fun _ _ => id) (fun _ _ => False.elim) (wp_teardown w)) fun _ w' => gaveUp w'

/-- How a pump over the deliveries ends. -/
inductive PumpEnd where
  | timedOut | capped | exited
  | stopped (rec : ExceptionRecord)

/-- How a pump ends on a stream, and what it leaves of the stream: at the first
exception of the kind it stops at, at an exit, at the cap on other events, or at
a wait that times out. -/
def pumpEnd (stops : ExceptionRecord → Bool) (exits : DebugEventInfo → Bool) :
    List Delivery → Nat → PumpEnd × List Delivery
  | [], _ => (.timedOut, [])
  | delivery :: rest, uninterestingEvents =>
      match delivery.event with
      | none => (.timedOut, rest)
      | some de =>
          match de.info.exceptionRecord with
          | some rec =>
              if stops rec then (.stopped rec, rest)
              else pumpEnd stops exits rest uninterestingEvents
          | none =>
              if uninterestingEvents + 1 > kMaxUninterestingEvents then (.capped, rest)
              else if exits de.info then (.exited, rest)
              else pumpEnd stops exits rest (uninterestingEvents + 1)

/-- The end of the pump to the sync point, which stops at a breakpoint only. -/
def breakpointPumpEnd : List Delivery → Nat → PumpEnd × List Delivery :=
  pumpEnd (fun rec => rec.exceptionCode = EXCEPTION_BREAKPOINT) DebugEventInfo.isExitProcess

/-- The events at which a test case is given up. -/
def endsRun : DebugEventInfo → Bool
  | .exitProcess | .rip => true
  | _ => false

/-- The end of the pump of a test case, which stops at any exception. -/
def exceptionPumpEnd : List Delivery → Nat → PumpEnd × List Delivery :=
  pumpEnd (fun _ => true) endsRun

/-- How a pump that gave up leaves the session, by the ledger it began with: at
the cap it has an event in hand. -/
inductive PumpGaveUp (ledger : EventLedger) : PumpEnd → World → Prop where
  | timedOut {log : List Call} {w : World} (owed : ledgerOf log = ledger)
      (givenUp : GivenUp log w) : PumpGaveUp ledger .timedOut w
  | exited {log : List Call} {w : World} (owed : ledgerOf log = ledger)
      (givenUp : GivenUp log w) : PumpGaveUp ledger .exited w
  | capped {log : List Call} {serial : Nat} {w : World} (owed : ledgerOf log = ledger.hold serial)
      (givenUp : GivenUp log w) : PumpGaveUp ledger .capped w

/-- A pump that gave up left no victim. -/
theorem PumpGaveUp.tornDown {ledger : EventLedger} {ended : PumpEnd} {w : World}
    (gaveUp : PumpGaveUp ledger ended w) : TornDown w.impl := by
  cases gaveUp with
  | timedOut _ givenUp => exact givenUp.tornDown
  | exited _ givenUp => exact givenUp.tornDown
  | capped _ givenUp => exact givenUp.tornDown

/-- And it did not stop at an exception. -/
theorem PumpGaveUp.not_stopped {ledger : EventLedger} {ended : PumpEnd} {w : World}
    (gaveUp : PumpGaveUp ledger ended w) (rec : ExceptionRecord) : ended ≠ .stopped rec := by
  cases gaveUp <;> exact nofun

/-- And it left the session settled unless the cap was reached. -/
theorem PumpGaveUp.settled_iff {ended : PumpEnd} {w : World}
    (gaveUp : PumpGaveUp ⟨[], true⟩ ended w) : Settled w ↔ ended ≠ .capped := by
  cases gaveUp with
  | timedOut owed givenUp => exact iff_of_true (givenUp.settled owed) nofun
  | exited owed givenUp => exact iff_of_true (givenUp.settled owed) nofun
  | capped owed givenUp =>
      exact iff_of_false (givenUp.not_settled owed) (not_not_intro rfl)

/-- Continuing the event in hand strikes it off. -/
theorem ledgerOf_continue {log : List Call} {ledger : EventLedger} {event : DebugEvent}
    (victim : Victim) (inHand : ledgerOf log = ledger.hold event.serial) :
    ledgerOf (log ++ [.continueDebugEvent event victim]) = ledger := by
  simp [EventLedger.post, EventLedger.hold, inHand]

/-- Obtaining an event enters it. -/
theorem ledgerOf_wait (log : List Call) (milliseconds : Nat) (event : DebugEvent) :
    ledgerOf (log ++ [.waitForDebugEvent milliseconds (some event)]) =
      (ledgerOf log).hold event.serial := by
  simp [EventLedger.post, EventLedger.hold]

/-- A timeout enters nothing. -/
theorem ledgerOf_waitForNothing (log : List Call) (milliseconds : Nat) :
    ledgerOf (log ++ [.waitForDebugEvent milliseconds none]) = ledgerOf log := by
  simp [EventLedger.post]

/-- The event in hand is continued. -/
theorem wp_continueHeld {de : DebugEvent} {w : World} {ledger : EventLedger} {known : Prop}
    {bad : String → World → Prop} (holds : known)
    (inHand : ledgerOf w.log = ledger.hold de.serial) :
    wp (continueDebugEvent de)
      (fun _ w' => known ∧ w'.impl = w.impl ∧ ledgerOf w'.log = ledger) bad w :=
  ⟨holds, rfl, ledgerOf_continue w.victim inHand⟩

/-- The exit in hand is continued before the victim is given up. -/
theorem wp_continueExit {de : DebugEvent} {w : World} {ledger : EventLedger} {known : Prop}
    {error : String} {good : Unit → World → Prop} (holds : known)
    (inHand : ledgerOf w.log = ledger.hold de.serial) :
    wp (do continueDebugEvent de; tearDownWith error : Session Unit) good
      (fun _ w' => known ∧ PumpGaveUp ledger .exited w') w :=
  wp_seq (wp_continueHeld holds inHand) fun _ _ ⟨_, _, owed⟩ =>
    wp_tearDownWith _ fun _ givenUp => ⟨holds, .exited owed givenUp⟩

/-- Closing a module's file touches neither the session nor the ledger. -/
theorem wp_closeFile {hFile : HANDLE} {w : World} {bad : String → World → Prop} :
    wp (whenOpen hFile (closeHandle .file hFile))
      (fun _ w' => w'.impl = w.impl ∧ ledgerOf w'.log = ledgerOf w.log) bad w :=
  wp_whenOpen ⟨rfl, rfl⟩ ⟨rfl, by simp [EventLedger.post]⟩

/-- Storing a handle makes no call. -/
theorem wp_storeHandle {handle : HANDLE} {f : Impl → Impl} {w : World}
    {bad : String → World → Prop} :
    wp (whenOpen handle (modifyImpl f)) (fun _ w' => w'.log = w.log) bad w :=
  wp_whenOpen rfl rfl

/-- An event other than an exception is continued, and an exit then gives up. -/
theorem wp_handleRunEvent (de : DebugEvent) {w : World} {ledger : EventLedger}
    (inHand : ledgerOf w.log = ledger.hold de.serial) :
    wp (handleRunEvent de)
      (fun _ w' => endsRun de.info = false ∧ w'.impl = w.impl ∧ ledgerOf w'.log = ledger)
      (fun _ w' => endsRun de.info = true ∧ PumpGaveUp ledger .exited w') w := by
  obtain ⟨serial, processId, threadId, info⟩ := de
  cases info with
  | loadDll hFile =>
      refine wp_seq wp_closeFile fun _ w₁ ⟨same, held⟩ => ?_
      rw [← same]
      exact wp_continueHeld rfl (held.trans inHand)
  | exitProcess => exact wp_continueExit rfl inHand
  | rip => exact wp_continueExit rfl inHand
  | _ => exact wp_continueHeld rfl inHand

/-- How `run_one` leaves its pump when it has stopped at an exception: the event is
parked, and the ledger owes it. -/
structure Stopped (w : World) (out : LaneOutcome) (ended : PumpEnd) (w' : World) : Prop where
  exception : ∃ rec, ended = .stopped rec ∧ out.stop = mapException rec
  setupOk : out.setupOk = true
  ready : w'.impl.ready = w.impl.ready
  steps : w'.impl.stepsSinceRespawn = w.impl.stepsSinceRespawn
  pending : w'.impl.pendingValid = true
  parked : ledgerOf w'.log = (ledgerOf w.log).hold w'.impl.pendingEvent.serial

/-- An exception is parked, not continued. -/
theorem wp_classify (r : RunReplies) (de : DebugEvent) (rec : ExceptionRecord) {w : World}
    {log : List Call} (inHand : ledgerOf w.log = (ledgerOf log).hold de.serial) :
    wp (classify r de rec) (fun out w' => Stopped { w with log := log } out (.stopped rec) w')
      (fun _ _ => False) w := by
  simp only [classify, getThreadContext, readProcessMemory, record, modifyImpl, wp_bind, wp_get,
    wp_modify, wp_pure]
  exact ⟨⟨rec, rfl, rfl⟩, rfl, rfl, rfl, rfl, by simpa [EventLedger.post] using inHand⟩

/-- **The pump of a test case** parks the exception it stops at, and otherwise gives up as its end
says. -/
theorem wp_pumpToException (r : RunReplies) (stream : List Delivery) (n : Nat) (w : World) :
    wp (pumpToException r stream n)
      (fun out w' => Stopped w out (exceptionPumpEnd stream n).1 w')
      (fun _ w' => PumpGaveUp (ledgerOf w.log) (exceptionPumpEnd stream n).1 w') w := by
  induction stream generalizing n w with
  | nil =>
      simp only [pumpToException, waitForNothing, record, wp_bind, wp_modify]
      exact wp_tearDownWith _ fun _ givenUp => .timedOut (ledgerOf_waitForNothing ..) givenUp
  | cons delivery rest ih =>
      simp only [pumpToException, waitForDebugEvent, record, wp_bind, wp_get, wp_set, wp_modify,
        wp_pure, exceptionPumpEnd, pumpEnd]
      cases arrived : delivery.event with
      | none =>
          simp only [Option.map_none]
          exact wp_tearDownWith _ fun _ givenUp => .timedOut (ledgerOf_waitForNothing ..) givenUp
      | some de =>
          simp only [Option.map_some]
          cases exception : de.info.exceptionRecord with
          | some rec =>
              simp only [↓reduceIte]
              refine wp_mono (fun out w' stopped => ?_) (fun _ _ => False.elim)
                (wp_classify r _ rec (ledgerOf_wait ..))
              exact ⟨stopped.exception, stopped.setupOk, stopped.ready, stopped.steps,
                stopped.pending, stopped.parked⟩
          | none =>
              by_cases capped : n + 1 > kMaxUninterestingEvents
              · simp only [capped, ↓reduceIte]
                exact wp_tearDownWith _ fun _ givenUp => .capped (ledgerOf_wait ..) givenUp
              · simp only [capped, ↓reduceIte]
                refine wp_seq (wp_mono (fun _ _ => id) (fun _ w' handled => ?_)
                  (wp_handleRunEvent _ (ledgerOf_wait ..))) fun _ w₁ handled => ?_
                · obtain ⟨ended, gaveUp⟩ := handled
                  rw [if_pos ended]
                  exact gaveUp
                · obtain ⟨goesOn, same, owed⟩ := handled
                  rw [if_neg (Bool.eq_false_iff.mp goesOn), ← owed]
                  refine wp_mono (fun _ _ stopped => ?_) (fun _ _ => id) (ih (n + 1) w₁)
                  exact ⟨stopped.exception, stopped.setupOk, stopped.ready.trans (by rw [same]),
                    stopped.steps.trans (by rw [same]), stopped.pending,
                    stopped.parked.trans (by rw [owed])⟩

/-- A part of the session that leaves its fields, the stream and the ledger alone. -/
structure Unmoved (w w' : World) : Prop where
  impl : w'.impl = w.impl
  stream : w'.stream = w.stream
  ledger : ledgerOf w'.log = ledgerOf w.log

/-- Every call on the way to the token succeeds. -/
def BuildsToken (r : SpawnReplies) : Prop :=
  r.openProcessToken.isSome ∧ r.duplicateTokenEx.isSome ∧ r.createRestrictedToken.isSome ∧
    r.convertStringSidToSid ∧ r.setTokenInformation

/-- A victim is created: token, job and process are there. -/
def CreatesVictim (r : SpawnReplies) : Prop :=
  BuildsToken r ∧ r.createJobObject ≠ 0 ∧ r.createProcessAsUser.isSome

/-- The start of a victim that gives it up with an event parked or in hand: the
pump reaches its cap, or the pages cannot be had at the breakpoint. -/
def SpawnDrops (r : SpawnReplies) (stream : List Delivery) : Prop :=
  CreatesVictim r ∧ ((breakpointPumpEnd stream 0).1 = .capped ∨
    (∃ rec, (breakpointPumpEnd stream 0).1 = .stopped rec) ∧ r.virtualAllocEx ≠ kCodeBase)

/-- The replies and the deliveries that bring a victim to its sync point with the code page in
place. -/
def SpawnSucceeds (r : SpawnReplies) (stream : List Delivery) : Prop :=
  CreatesVictim r ∧ (∃ rec, (breakpointPumpEnd stream 0).1 = .stopped rec) ∧
    r.virtualAllocEx = kCodeBase

/-- The token touches neither the session nor the ledger. -/
theorem wp_buildRestrictedToken (r : SpawnReplies) (w : World) :
    wp (buildRestrictedToken r) (fun _ w' => BuildsToken r ∧ Unmoved w w')
      (fun _ w' => ¬ BuildsToken r ∧ Unmoved w w') w := by
  simp only [buildRestrictedToken, closeHandle, record, wp_bind, wp_modify]
  rcases opened : r.openProcessToken with _ | selfToken
  · simp only [wp_throw]
    exact ⟨by simp [BuildsToken, opened], rfl, rfl, by simp [EventLedger.post]⟩
  rcases duplicated : r.duplicateTokenEx with _ | dupToken
  · simp only [wp_bind, wp_modify, wp_throw]
    exact ⟨by simp [BuildsToken, duplicated], rfl, rfl, by simp [EventLedger.post]⟩
  rcases restricted : r.createRestrictedToken with _ | restrictedToken
  · simp only [wp_bind, wp_modify, wp_throw]
    exact ⟨by simp [BuildsToken, restricted], rfl, rfl, by simp [EventLedger.post]⟩
  cases converted : r.convertStringSidToSid
  · simp only [wp_bind, wp_modify, wp_throw, wp_ite]
    exact ⟨by simp [BuildsToken, converted], rfl, rfl, by simp [EventLedger.post]⟩
  cases labelled : r.setTokenInformation
  · simp only [wp_bind, wp_modify, wp_throw, wp_ite]
    exact ⟨by simp [BuildsToken, labelled], rfl, rfl, by simp [EventLedger.post]⟩
  · simp only [wp_bind, wp_modify, wp_throw, wp_ite]
    exact ⟨by simp [BuildsToken, *], rfl, rfl, by simp [EventLedger.post]⟩

/-- An event before the sync point is continued; an exit gives the victim up. -/
theorem wp_handleSpawnEvent (de : DebugEvent) {w : World} {ledger : EventLedger}
    (inHand : ledgerOf w.log = ledger.hold de.serial) :
    wp (handleSpawnEvent de)
      (fun _ w' => de.info.isExitProcess = false ∧ ledgerOf w'.log = ledger)
      (fun _ w' => de.info.isExitProcess = true ∧ PumpGaveUp ledger .exited w') w := by
  obtain ⟨serial, processId, threadId, info⟩ := de
  cases info with
  | loadDll hFile =>
      refine wp_seq wp_closeFile fun _ w₁ closed => ?_
      exact ⟨rfl, ledgerOf_continue w₁.victim (closed.2.trans inHand)⟩
  | createProcess hFile hProcess hThread =>
      refine wp_seq wp_closeFile fun _ w₁ closed => ?_
      refine wp_seq wp_storeHandle fun _ w₂ stored => ?_
      refine wp_seq wp_storeHandle fun _ w₃ stored' => ?_
      refine ⟨rfl, ledgerOf_continue w₃.victim ?_⟩
      rw [stored', stored, closed.2, inHand]
  | exitProcess => exact wp_continueExit rfl inHand
  | _ => exact ⟨rfl, ledgerOf_continue w.victim inHand⟩

/-- How `spawn_fresh` leaves its pump when it has reached the breakpoint. -/
structure Synced (ledger : EventLedger) (ended : PumpEnd × List Delivery) (w : World) : Prop where
  breakpoint : ∃ rec, ended.1 = .stopped rec
  stream : w.stream = ended.2
  pending : w.impl.pendingValid = true
  parked : ledgerOf w.log = ledger.hold w.impl.pendingEvent.serial

/-- **The pump of a start** parks the breakpoint, and otherwise gives up as its end says. -/
theorem wp_pumpToBreakpoint (stream : List Delivery) (n : Nat) (w : World) :
    wp (pumpToBreakpoint stream n)
      (fun _ w' => Synced (ledgerOf w.log) (breakpointPumpEnd stream n) w')
      (fun _ w' => PumpGaveUp (ledgerOf w.log) (breakpointPumpEnd stream n).1 w') w := by
  induction stream generalizing n w with
  | nil =>
      simp only [pumpToBreakpoint, waitForNothing, record, wp_bind, wp_modify]
      exact wp_tearDownWith _ fun _ givenUp => .timedOut (ledgerOf_waitForNothing ..) givenUp
  | cons delivery rest ih =>
      simp only [pumpToBreakpoint, waitForDebugEvent, record, wp_bind, wp_get, wp_set, wp_modify,
        wp_pure, breakpointPumpEnd, pumpEnd]
      cases arrived : delivery.event with
      | none =>
          simp only [Option.map_none]
          exact wp_tearDownWith _ fun _ givenUp => .timedOut (ledgerOf_waitForNothing ..) givenUp
      | some de =>
          simp only [Option.map_some]
          cases exception : de.info.exceptionRecord with
          | some rec =>
              by_cases breakpoint : rec.exceptionCode = EXCEPTION_BREAKPOINT
              · simp only [breakpoint, ↓reduceIte, decide_true, modifyImpl, wp_modify]
                exact ⟨⟨rec, rfl⟩, rfl, rfl, ledgerOf_wait ..⟩
              · simp only [breakpoint, ↓reduceIte, decide_false, Bool.false_eq_true]
                refine wp_seq (wp_continueHeld trivial (ledgerOf_wait ..)) fun _ w₁ held => ?_
                rw [← held.2.2]
                exact ih n w₁
          | none =>
              by_cases capped : n + 1 > kMaxUninterestingEvents
              · simp only [capped, ↓reduceIte]
                exact wp_tearDownWith _ fun _ givenUp => .capped (ledgerOf_wait ..) givenUp
              · simp only [capped, ↓reduceIte]
                refine wp_seq (wp_mono (fun _ _ => id) (fun _ w' handled => ?_)
                  (wp_handleSpawnEvent _ (ledgerOf_wait ..))) fun _ w₁ handled => ?_
                · obtain ⟨ended, gaveUp⟩ := handled
                  rw [if_pos ended]
                  exact gaveUp
                · obtain ⟨goesOn, owed⟩ := handled
                  rw [if_neg (Bool.eq_false_iff.mp goesOn), ← owed]
                  exact ih (n + 1) w₁

/-- The session after a start that failed, by the ledger before it. -/
structure NotSpawned (ledger : EventLedger) (r : SpawnReplies) (stream : List Delivery)
    (w : World) : Prop where
  tornDown : TornDown w.impl
  failed : ¬ SpawnSucceeds r stream
  settled : ledger = ⟨[], true⟩ → (Settled w ↔ ¬ SpawnDrops r stream)

/-- The session with a new victim at its initial breakpoint. -/
structure Spawned (ledger : EventLedger) (r : SpawnReplies) (stream : List Delivery) (w : World) :
    Prop where
  succeeded : SpawnSucceeds r stream
  ready : w.impl.ready = true
  pending : w.impl.pendingValid = true
  parked : ledgerOf w.log = ledger.hold w.impl.pendingEvent.serial
  steps : w.impl.stepsSinceRespawn = 0
  stream : w.stream = (breakpointPumpEnd stream 0).2

/-- Without a victim there is nothing to give up. -/
theorem notSpawned_of_not_created {r : SpawnReplies} {stream : List Delivery} {w : World}
    (failed : ¬ CreatesVictim r) (tornDown : TornDown w.impl) :
    NotSpawned (ledgerOf w.log) r stream w where
  tornDown := tornDown
  failed succeeded := failed succeeded.1
  settled clear := by
    rw [Settled, tornDown.pending]
    exact iff_of_true clear fun drops => failed drops.1

/-- The launch touches no event. -/
theorem wp_launchVictim {r : SpawnReplies} (token : HANDLE) {w : World} (built : BuildsToken r)
    (tornDown : TornDown w.impl) :
    wp (launchVictim r token)
      (fun _ w' => CreatesVictim r ∧ ledgerOf w'.log = ledgerOf w.log ∧ w'.stream = w.stream)
      (fun _ w' => ¬ CreatesVictim r ∧ ledgerOf w'.log = ledgerOf w.log ∧ TornDown w'.impl) w := by
  have down : ∀ impl : Impl, impl.ready = w.impl.ready → impl.pendingValid = w.impl.pendingValid →
      impl.job = 0 → impl.process = w.impl.process → impl.thread = w.impl.thread → TornDown impl :=
    fun impl ready pending job process thread => ⟨ready.trans tornDown.ready,
      pending.trans tornDown.pending, job, process.trans tornDown.process,
      thread.trans tornDown.thread⟩
  simp only [launchVictim, record, modifyImpl, modifyVictim, closeHandle, wp_bind, wp_get,
    wp_modify, wp_ite, wp_throw]
  by_cases noJob : r.createJobObject = 0
  · rw [if_pos noJob]
    exact ⟨fun created => created.2.1 noJob, by simp [EventLedger.post],
      down _ rfl rfl noJob rfl rfl⟩
  rw [if_neg noJob]
  refine wp_whenOpen ?_ ?_
  all_goals
    cases created : r.createProcessAsUser with
    | none =>
        refine ⟨fun creates => ?_, by simp [EventLedger.post], down _ rfl rfl rfl rfl rfl⟩
        simp [CreatesVictim, created] at creates
    | some pi =>
        refine ⟨⟨built, noJob, by rw [created]; rfl⟩, ?_, rfl⟩
        simp [EventLedger.post]

/-- The page is mapped, or the victim is given up with its sync event outstanding. -/
theorem wp_mapScratch {ledger : EventLedger} {r : SpawnReplies} {stream : List Delivery}
    {w : World} (created : CreatesVictim r)
    (synced : Synced ledger (breakpointPumpEnd stream 0) w) :
    wp (mapScratch r) (fun _ w' => Spawned ledger r stream w')
      (fun _ w' => NotSpawned ledger r stream w') w := by
  simp only [mapScratch, record, modifyImpl, modifyVictim, wp_bind, wp_get, wp_modify, wp_ite]
  by_cases mapped : r.virtualAllocEx = kCodeBase
  · rw [if_neg (by rw [mapped]; decide)]
    exact ⟨⟨created, synced.breakpoint, mapped⟩, rfl, synced.pending,
      by simpa [EventLedger.post] using synced.parked, rfl, synced.stream⟩
  · rw [if_pos (.inr mapped)]
    refine wp_tearDownWith _ fun w' givenUp => ?_
    refine ⟨givenUp.tornDown, fun succeeded => mapped succeeded.2.2, fun clear => ?_⟩
    have owed := synced.parked
    rw [clear] at owed
    refine iff_of_false
      (givenUp.not_settled (by simpa [EventLedger.post, EventLedger.hold] using owed))
      (not_not_intro ?_)
    exact ⟨created, .inr ⟨synced.breakpoint, mapped⟩⟩

/-- A start whose pump gave up failed. -/
theorem notSpawned_of_gaveUp {ledger : EventLedger} {r : SpawnReplies} {stream : List Delivery}
    {w : World} (created : CreatesVictim r)
    (gaveUp : PumpGaveUp ledger (breakpointPumpEnd stream 0).1 w) :
    NotSpawned ledger r stream w where
  tornDown := gaveUp.tornDown
  failed := fun ⟨_, ⟨rec, stopped⟩, _⟩ => gaveUp.not_stopped rec stopped
  settled clear := by
    have drops : SpawnDrops r stream ↔ (breakpointPumpEnd stream 0).1 = .capped :=
      (and_iff_right created).trans
        (or_iff_left fun ⟨⟨rec, stopped⟩, _⟩ => gaveUp.not_stopped rec stopped)
    subst clear
    rw [drops]
    exact gaveUp.settled_iff

/-- **A start** leaves a victim at its sync point, or none. -/
theorem wp_spawnFresh (r : SpawnReplies) {w : World} (tornDown : TornDown w.impl) :
    wp (spawnFresh r) (fun _ w' => Spawned (ledgerOf w.log) r w.stream w')
      (fun _ w' => NotSpawned (ledgerOf w.log) r w.stream w') w := by
  rw [spawnFresh]
  refine wp_seq (wp_mono (fun _ _ => id) (fun _ _ => False.elim) (wp_teardown_idle tornDown))
    fun _ w₁ down => ?_
  obtain ⟨tornDown₁, stream₁, log₁⟩ := down
  rw [← log₁, ← stream₁]
  refine wp_seq (wp_mono (fun _ _ => id) (fun _ w' built => ?_) (wp_buildRestrictedToken r w₁))
    fun token w₂ built => ?_
  · rw [← built.2.ledger]
    exact notSpawned_of_not_created (fun created => built.1 created.1) (built.2.impl ▸ tornDown₁)
  obtain ⟨built, same⟩ := built
  rw [← same.ledger, ← same.stream]
  refine wp_seq (wp_mono (fun _ _ => id) (fun _ w' failed => ?_)
    (wp_launchVictim token built (same.impl ▸ tornDown₁))) fun _ w₃ launched => ?_
  · rw [← failed.2.1]
    exact notSpawned_of_not_created failed.1 failed.2.2
  obtain ⟨created, ledger₃, stream₃⟩ := launched
  rw [← ledger₃, ← stream₃, wp_bind, wp_get]
  exact wp_seq (wp_mono (fun _ _ => id) (fun _ _ => notSpawned_of_gaveUp created)
    (wp_pumpToBreakpoint w₃.stream 0 w₃)) fun _ _ synced => wp_mapScratch created synced

end SevenFuzzer
