import SevenFuzzer.Hardware.EventProtocol
import SevenFuzzer.Hardware.Growth
import SevenFuzzer.Library.Monitor

/-! # Whose events decide

The session acts on debug events by their kind: it never compares the process and
the thread of an event with the process it has created and the thread it has
redirected. A monitor of the calls does, where an event is taken as the sync point,
as an exit of the victim or as the end of a test case. `outcome_attribution_iff` says
in which runs everything the session acts on is the victim's own.
-/

namespace SevenFuzzer

open Command Transition

/-- The process and the thread of an event. -/
def DebugEvent.origin (event : DebugEvent) : BitVec 32 × BitVec 32 :=
  (event.processId, event.threadId)

/-- The exception of the sync point. -/
def DebugEventInfo.isBreakpoint (info : DebugEventInfo) : Bool :=
  info.exceptionRecord.any fun rec => rec.exceptionCode == EXCEPTION_BREAKPOINT

/-- The process that was created last, and the origin of the event that brought the
handle of the thread whose context is set and read. -/
structure VictimIds where
  process : BitVec 32 := 0
  thread : Option (BitVec 32 × BitVec 32) := none

/-- An exception of the redirected thread of the victim. -/
def VictimIds.raised (ids : VictimIds) (event : DebugEvent) : Bool :=
  event.info.exceptionRecord.isSome && event.processId == ids.process &&
    ids.thread == some event.origin

/-- The death of the victim. -/
def VictimIds.died (ids : VictimIds) (event : DebugEvent) : Bool :=
  endsRun event.info && event.processId == ids.process

/-- The thread that is redirected after an event on the way to the sync point. -/
def redirectedBy (thread : Option (BitVec 32 × BitVec 32)) (event : DebugEvent) :
    Option (BitVec 32 × BitVec 32) :=
  match event.info with
  | .createProcess _ _ hThread => if hThread ≠ 0 then some event.origin else thread
  | _ => thread

/-- What the session is doing with its victim. -/
inductive VictimPhase where
  | idle
  /-- created, and not yet at its sync point -/
  | spawning
  /-- the context of a test case has been set -/
  | armed
  /-- resumed in a test case -/
  | running
  deriving DecidableEq

/-- What has been obtained from the present victim since it was last created or resumed. -/
structure EventHistory where
  phase : VictimPhase := .idle
  ids : VictimIds := {}
  /-- What has been obtained since the victim was created or resumed, newest first. -/
  events : List DebugEvent := []

/-- A creation and a continuation start the history anew; an event is added to it. -/
def EventHistory.post (history : EventHistory) : Call → EventHistory
  | .createProcessAsUser _ _ _ (some pi) =>
      { phase := .spawning, ids := { process := pi.processId } }
  | .virtualAllocEx .. | .terminateProcess .. => { history with phase := .idle }
  | .setThreadContext _ _ true => { history with phase := .armed }
  | .continueDebugEvent .. =>
      if history.phase = .armed then { history with phase := .running, events := [] } else history
  | .waitForDebugEvent _ (some event) =>
      let history := { history with events := event :: history.events }
      if history.phase = .spawning then
        { history with ids.thread := redirectedBy history.ids.thread event }
      else history
  | _ => history

/-- Where the session acts on an event: the scratch pages are asked for with the sync
point in hand, a pump that continues an exit gives the victim up for it, and the state
of a test case is read with the event in hand that ended it. -/
def EventHistory.fits (history : EventHistory) : Call → Bool
  | .virtualAllocEx .. =>
      history.events.head?.any fun event =>
        event.info.isBreakpoint && event.processId == history.ids.process
  | .continueDebugEvent event _ =>
      match history.phase with
      | .spawning => !event.info.isExitProcess || event.processId == history.ids.process
      | .running => !endsRun event.info || history.ids.died event
      | _ => true
  | .readProcessMemory .. =>
      history.events.head?.any history.ids.raised && !history.events.tail.any history.ids.raised
  | _ => true

/-- The monitor that reads each act of the session against the events that led to it. -/
def attribution : Monitor EventHistory Call := ⟨{}, EventHistory.post, EventHistory.fits⟩

/-- The history after a log. -/
abbrev historyOf (log : List Call) : EventHistory := attribution.reach log

/-- Whatever the session acted on was the victim's own: each sync point a breakpoint
of the process it had created, each exit an exit of it, and what ended each test case
the first exception of its redirected thread since it was resumed. -/
def ActsOnOwn (log : List Call) : Prop := attribution.Accepts log

/-- The history after one call more. -/
theorem historyOf_snoc (log : List Call) (call : Call) :
    historyOf (log ++ [call]) = (historyOf log).post call :=
  Monitor.reach_snoc

/-- The session has acted on its own events so far, and this call does. -/
theorem actsOnOwn_snoc (log : List Call) (call : Call) :
    ActsOnOwn (log ++ [call]) ↔ ActsOnOwn log ∧ (historyOf log).fits call = true :=
  Monitor.accepts_snoc

/-- From one log to a later one, the session acted on events of the victim alone if and
only if the verdict holds. -/
def Judged (verdict : Prop) (log log' : List Call) : Prop :=
  ActsOnOwn log' ↔ ActsOnOwn log ∧ verdict

variable {verdict verdict' : Prop} {log log' log'' : List Call}

/-- The verdicts of two parts, taken together. -/
theorem Judged.trans (first : Judged verdict log log') (second : Judged verdict' log' log'') :
    Judged (verdict ∧ verdict') log log'' :=
  Iff.trans second ((and_congr_left' first).trans and_assoc)

/-- A verdict may be replaced by an equivalent one. -/
theorem Judged.congr (judged : Judged verdict log log') (same : verdict ↔ verdict') :
    Judged verdict' log log' :=
  Iff.trans judged (and_congr_right' same)

/-- The session acted on no event. -/
abbrev Unjudged (log log' : List Call) : Prop := Judged True log log'

/-- Nothing was done. -/
theorem Unjudged.refl : Unjudged log log := (and_iff_left trivial).symm

/-- What was done before without a verdict does not count. -/
theorem Unjudged.then (first : Unjudged log log') (second : Judged verdict log' log'') :
    Judged verdict log log'' :=
  (first.trans second).congr (iff_of_eq (true_and _))

/-- Nor does what was done after. -/
theorem Judged.then (first : Judged verdict log log') (second : Unjudged log' log'') :
    Judged verdict log log'' :=
  (first.trans second).congr (iff_of_eq (and_true _))

/-- A call that acts on an event has a verdict. -/
theorem judged_call {call : Call} (fits : (historyOf log).fits call = true ↔ verdict) :
    Judged verdict log (log ++ [call]) :=
  (actsOnOwn_snoc ..).trans (and_congr_right' fits)

/-- Any other call has none. -/
theorem unjudged_call {call : Call} (fits : (historyOf log).fits call = true) :
    Unjudged log (log ++ [call]) :=
  judged_call (iff_true_intro fits)

/-! ## Calls that are no matter of events -/

/-- The history takes no notice of the token. -/
theorem ignores_of_buildsToken {call : Call} (builds : call.buildsToken = true) :
    attribution.Ignores call := by
  intro history
  cases call <;> first | exact ⟨rfl, rfl⟩ | exact absurd builds Bool.false_ne_true

/-- Calls that the monitor passes over. -/
structure Overlooked (log log' : List Call) : Prop where
  history : historyOf log' = historyOf log
  unjudged : Unjudged log log'

/-- Nothing was done. -/
theorem Overlooked.refl : Overlooked log log := ⟨rfl, .refl⟩

/-- What is overlooked twice is overlooked. -/
theorem Overlooked.trans (first : Overlooked log log') (second : Overlooked log' log'') :
    Overlooked log log'' :=
  ⟨second.history.trans first.history, first.unjudged.then second.unjudged⟩

/-- Calls the monitor ignores are overlooked. -/
theorem overlooked_append {calls : List Call} (ignored : ∀ call ∈ calls, attribution.Ignores call) :
    Overlooked log (log ++ calls) :=
  ⟨Monitor.reach_ignored ignored,
    (Monitor.accepts_ignored ignored).trans (and_iff_left trivial).symm⟩

/-- So is one more of them. -/
theorem Overlooked.call {call : Call} (overlooked : Overlooked log log')
    (ignored : attribution.Ignores call) : Overlooked log (log' ++ [call]) :=
  overlooked.trans (overlooked_append (List.forall_mem_singleton.mpr ignored))

/-- Closing a handle is overlooked. -/
theorem wp_close_overlooked (kind : HandleKind) (handle handle' : HANDLE) (w : World)
    {bad : String → World → Prop} :
    wp (whenOpen handle (closeHandle kind handle')) (fun _ w' => Overlooked w.log w'.log) bad w :=
  wp_whenOpen .refl (Overlooked.refl.call fun _ => ⟨rfl, rfl⟩)

/-- Outside a start, an event is only added to the history. -/
theorem EventHistory.post_wait {history : EventHistory} (settled : history.phase ≠ .spawning)
    (milliseconds : Nat) (event : DebugEvent) :
    history.post (.waitForDebugEvent milliseconds (some event)) =
      { history with events := event :: history.events } :=
  if_neg settled

/-- Unless a test case is ready, a continuation changes nothing. -/
theorem EventHistory.post_continue {history : EventHistory} (unarmed : history.phase ≠ .armed)
    (event : DebugEvent) (victim : Victim) :
    history.post (.continueDebugEvent event victim) = history :=
  if_neg unarmed

/-- An event that is obtained and continued while no victim is awaited. -/
theorem idle_continued (idle : (historyOf log).phase = .idle) (event : DebugEvent)
    (milliseconds : Nat) (victim : Victim) :
    let log' := log ++ [.waitForDebugEvent milliseconds (some event)] ++
      [.continueDebugEvent event victim]
    (historyOf log').phase = .idle ∧ Unjudged log log' := by
  have waited : historyOf (log ++ [.waitForDebugEvent milliseconds (some event)]) =
      { historyOf log with events := event :: (historyOf log).events } := by
    rw [historyOf_snoc, EventHistory.post_wait (by rw [idle]; decide)]
  constructor
  · rw [historyOf_snoc, waited, EventHistory.post_continue]
    · exact idle
    · exact ne_of_eq_of_ne idle (by decide)
  · refine (unjudged_call rfl).then (unjudged_call ?_)
    simp only [waited, EventHistory.fits, idle]

/-- What is drained decides nothing. -/
theorem wp_drainLoop_attribution (count : Nat) (stream : List Delivery) {w : World}
    (idle : (historyOf w.log).phase = .idle) :
    wp (drainLoop count stream) (fun _ w' => Unjudged w.log w'.log) (fun _ _ => False) w := by
  induction count generalizing stream w with
  | zero => exact .refl
  | succ count ih =>
      cases stream with
      | nil => exact unjudged_call rfl
      | cons delivery rest =>
          simp only [drainLoop, waitForDebugEvent, record, wp_bind, wp_get, wp_set, wp_modify,
            wp_pure]
          cases delivery.event with
          | none => exact unjudged_call rfl
          | some event =>
              simp only [Option.map_some, continueDebugEvent, record, wp_bind, wp_get, wp_modify,
                wp_ite, wp_pure]
              have continued := idle_continued idle { event with serial := w.obtained } 200
                delivery.victim
              split
              · exact continued.2
              · exact wp_mono (fun _ _ => continued.2.then) (fun _ _ => id) (ih rest continued.1)

/-- Giving the victim up acts on no event. -/
theorem wp_teardown_attribution (w : World) :
    wp teardown (fun _ w' => TornDown w'.impl ∧ Unjudged w.log w'.log) (fun _ _ => False) w := by
  have drains : wp drainToExit (fun _ w' => Unjudged w.log w'.log) (fun _ _ => False) w := by
    simp only [drainToExit, record, wp_bind, wp_get, wp_ite, wp_pure, wp_modify]
    split
    · exact .refl
    · refine wp_mono (fun _ w' drained => Unjudged.then (unjudged_call rfl) drained)
        (fun _ _ => id) (wp_drainLoop_attribution 50 w.stream ?_)
      rw [historyOf_snoc]
      rfl
  have unjudged : wp teardown (fun _ w' => Unjudged w.log w'.log) (fun _ _ => False) w := by
    rw [teardown, wp_bind, wp_get]
    refine wp_seq (wp_whenOpen .refl drains) fun _ w₁ drained => ?_
    refine wp_seq (wp_close_overlooked ..) fun _ w₂ thread => ?_
    refine wp_seq (wp_close_overlooked ..) fun _ w₃ process => ?_
    refine wp_seq (wp_close_overlooked ..) fun _ w₄ job => ?_
    exact drained.then (thread.trans (process.trans job)).unjudged
  exact wp_mono (fun _ _ both => ⟨both.1.tornDown, both.2⟩) (fun _ _ both => both.1)
    (wp_and (wp_teardown w) unjudged)

/-- A victim has been given up on a verdict. -/
structure VerdictGivenUp (verdict : Prop) (log : List Call) (w : World) : Prop where
  tornDown : TornDown w.impl
  judged : Judged verdict log w.log

/-- A verdict, and then the victim given up. -/
theorem VerdictGivenUp.after {w : World} (judged : Judged verdict log log')
    (gaveUp : VerdictGivenUp True log' w) : VerdictGivenUp verdict log w :=
  ⟨gaveUp.tornDown, judged.then gaveUp.judged⟩

/-- The victim given up with a verdict, after what has none. -/
theorem VerdictGivenUp.from {w : World} (unjudged : Unjudged log log')
    (gaveUp : VerdictGivenUp verdict log' w) : VerdictGivenUp verdict log w :=
  ⟨gaveUp.tornDown, unjudged.then gaveUp.judged⟩

/-- Giving the victim up with an error acts on no event. -/
theorem wp_tearDownWith_attribution {α : Type} {good : α → World → Prop}
    {bad : String → World → Prop} (error : String) {w : World}
    (gaveUp : ∀ w', VerdictGivenUp True w.log w' → bad error w') :
    wp (tearDownWith error) good bad w :=
  wp_seq (wp_mono (fun _ _ => id) (fun _ _ => False.elim) (wp_teardown_attribution w))
    fun _ w' down => gaveUp w' ⟨down.1, down.2⟩

/-! ## The pump of a test case -/

/-- The event at which a pump ends: the first exception of the kind it stops at or the
first exit, before its cap on other events and before a wait that times out. -/
def pumpStop (stops : ExceptionRecord → Bool) (exits : DebugEventInfo → Bool) :
    List Delivery → Nat → Option DebugEvent
  | [], _ => none
  | delivery :: rest, uninterestingEvents =>
      match delivery.event with
      | none => none
      | some de =>
          match de.info.exceptionRecord with
          | some rec =>
              if stops rec then some de else pumpStop stops exits rest uninterestingEvents
          | none =>
              if uninterestingEvents + 1 > kMaxUninterestingEvents then none
              else if exits de.info then some de
              else pumpStop stops exits rest (uninterestingEvents + 1)

/-- The event at which the pump of a test case stops, if one arrives in time. -/
def stepStop : List Delivery → Nat → Option DebugEvent := pumpStop (fun _ => true) endsRun

/-- What ends the pump of a test case is the victim's. -/
def EndsOwn (ids : VictimIds) (stream : List Delivery) (n : Nat) : Prop :=
  ∀ event ∈ stepStop stream n, (ids.raised event || ids.died event) = true

/-- The victim runs, and has raised nothing yet. -/
structure Running (ids : VictimIds) (log : List Call) : Prop where
  phase : (historyOf log).phase = .running
  victim : (historyOf log).ids = ids
  quiet : (historyOf log).events.any ids.raised = false

variable {ids : VictimIds}

/-- What is overlooked does not interrupt a test case. -/
theorem Running.overlooked (running : Running ids log) (overlooked : Overlooked log log') :
    Running ids log' := by
  obtain ⟨phase, victim, quiet⟩ := running
  rw [← overlooked.history] at phase victim quiet
  exact ⟨phase, victim, quiet⟩

/-- An event is obtained while the victim runs. -/
theorem Running.obtained (running : Running ids log) (event : DebugEvent) (milliseconds : Nat) :
    let log' := log ++ [.waitForDebugEvent milliseconds (some event)]
    historyOf log' = { historyOf log with events := event :: (historyOf log).events } ∧
      Unjudged log log' := by
  refine ⟨?_, unjudged_call rfl⟩
  rw [historyOf_snoc, EventHistory.post_wait (by rw [running.phase]; decide)]

/-- The death of the victim. -/
theorem wp_continueRunning (de : DebugEvent) {w : World} {bad : String → World → Prop}
    (running : Running ids w.log) :
    wp (continueDebugEvent de)
      (fun _ w' => historyOf w'.log = historyOf w.log ∧
        Judged (endsRun de.info = true → ids.died de = true) w.log w'.log) bad w := by
  have same : historyOf (w.log ++ [.continueDebugEvent de w.victim]) = historyOf w.log := by
    rw [historyOf_snoc, EventHistory.post_continue (by rw [running.phase]; decide)]
  refine ⟨same, judged_call ?_⟩
  simp only [EventHistory.fits, running.phase, running.victim]
  cases endsRun de.info <;> simp

/-- An event that ends a test case is judged by whose death it reports. -/
theorem wp_handleRunEvent_attribution (de : DebugEvent) {w : World} (running : Running ids w.log) :
    wp (handleRunEvent de)
      (fun _ w' => endsRun de.info = false ∧ Overlooked w.log w'.log)
      (fun _ w' => endsRun de.info = true ∧
        VerdictGivenUp (ids.died de = true) w.log w') w := by
  have goesOn : ∀ {w₁ : World} {bad : String → World → Prop}, endsRun de.info = false →
      Overlooked w.log w₁.log → wp (continueDebugEvent de) (fun _ w' => endsRun de.info = false ∧
        Overlooked w.log w'.log) bad w₁ := by
    intro w₁ bad continues overlooked
    refine wp_mono (fun _ w' continued => ⟨continues, overlooked.trans ⟨continued.1, ?_⟩⟩)
      (fun _ _ => id) (wp_continueRunning de (running.overlooked overlooked))
    refine continued.2.congr (iff_true_intro fun ends => ?_)
    exact absurd (ends.symm.trans continues) Bool.true_eq_false.mp
  have exits : endsRun de.info = true →
      wp (do continueDebugEvent de; tearDownWith "victim died mid test case" : Session Unit)
        (fun _ w' => endsRun de.info = false ∧ Overlooked w.log w'.log)
        (fun _ w' => endsRun de.info = true ∧
          VerdictGivenUp (ids.died de = true) w.log w') w := by
    intro ends
    refine wp_seq (wp_continueRunning de running) fun _ w₁ continued => ?_
    exact wp_tearDownWith_attribution _ fun _ gaveUp =>
      ⟨ends, gaveUp.after (continued.2.congr (imp_iff_right ends))⟩
  obtain ⟨serial, processId, threadId, info⟩ := de
  cases info with
  | loadDll hFile =>
      exact wp_seq (wp_close_overlooked ..) fun _ _ closed => goesOn rfl closed
  | exitProcess => exact exits rfl
  | rip => exact exits rfl
  | _ => exact goesOn rfl .refl

/-- The state is read for the exception in hand. -/
theorem wp_classify_attribution (r : RunReplies) (de : DebugEvent) (rec : ExceptionRecord)
    {w : World} {earlier : List DebugEvent} (inHand : (historyOf w.log).events = de :: earlier)
    (victim : (historyOf w.log).ids = ids) (quiet : earlier.any ids.raised = false) :
    wp (classify r de rec) (fun _ w' => Judged (ids.raised de = true) w.log w'.log)
      (fun _ _ => False) w := by
  simp only [classify, getThreadContext, readProcessMemory, record, modifyImpl, wp_bind, wp_get,
    wp_modify, wp_pure]
  have got : historyOf (w.log ++ [.getThreadContext w.impl.thread r.getThreadContextAfter]) =
      historyOf w.log := historyOf_snoc ..
  refine (unjudged_call rfl).then (judged_call ?_)
  rw [got]
  simp [EventHistory.fits, inHand, victim, quiet]

/-- No exception ends a test case in this way. -/
theorem endsRun_of_exception {info : DebugEventInfo} {rec : ExceptionRecord}
    (exception : info.exceptionRecord = some rec) : endsRun info = false := by
  cases info <;> first | rfl | cases exception

/-- **The pump of a test case** acts on its own events exactly if the event it ends with is one. -/
theorem wp_pumpToException_attribution (r : RunReplies) (stream : List Delivery) (n : Nat)
    {w : World} (running : Running ids w.log) :
    wp (pumpToException r stream n) (fun _ w' => Judged (EndsOwn ids stream n) w.log w'.log)
      (fun _ w' => Judged (EndsOwn ids stream n) w.log w'.log) w := by
  have nothing : ∀ {event : Option DebugEvent}, event = none →
      (True ↔ ∀ de ∈ event, (ids.raised de || ids.died de) = true) := by
    rintro _ rfl
    exact (iff_true_intro nofun).symm
  induction stream generalizing n w with
  | nil =>
      simp only [pumpToException, waitForNothing, record, wp_bind, wp_modify]
      exact wp_tearDownWith_attribution _ fun w' gaveUp =>
        (Unjudged.then (unjudged_call rfl) gaveUp.judged).congr (nothing rfl)
  | cons delivery rest ih =>
      simp only [pumpToException, waitForDebugEvent, record, wp_bind, wp_get, wp_set, wp_modify,
        wp_pure, EndsOwn, stepStop, pumpStop]
      cases arrived : delivery.event with
      | none =>
          exact wp_tearDownWith_attribution _ fun w' gaveUp =>
            (Unjudged.then (unjudged_call rfl) gaveUp.judged).congr (nothing rfl)
      | some de =>
          simp only [Option.map_some]
          obtain ⟨history, waited⟩ := running.obtained { de with serial := w.obtained }
            kWaitTimeoutMs
          cases exception : de.info.exceptionRecord with
          | some rec =>
              simp only [↓reduceIte, Option.mem_some_iff, forall_eq', VictimIds.died,
                endsRun_of_exception exception, Bool.false_and, Bool.or_false]
              refine wp_mono (fun _ _ => waited.then) (fun _ _ => False.elim)
                (wp_classify_attribution r _ rec ?_ ?_ running.quiet)
              · rw [history]
              · rw [history, running.victim]
          | none =>
              have running₁ : Running ids (w.log ++
                  [.waitForDebugEvent kWaitTimeoutMs (some { de with serial := w.obtained })]) := by
                refine ⟨by rw [history, running.phase], by rw [history, running.victim], ?_⟩
                rw [history, List.any_cons, running.quiet]
                simp [VictimIds.raised, exception]
              by_cases capped : n + 1 > kMaxUninterestingEvents
              · simp only [capped, ↓reduceIte]
                exact wp_tearDownWith_attribution _ fun _ gaveUp =>
                  (waited.then gaveUp.judged).congr (nothing rfl)
              · simp only [capped, ↓reduceIte]
                refine wp_seq (wp_mono (fun _ _ => id) (fun _ w' handled => ?_)
                  (wp_handleRunEvent_attribution _ running₁)) fun _ w₁ handled => ?_
                · obtain ⟨ended, gaveUp⟩ := handled
                  have quiet : ids.raised de = false := by simp [VictimIds.raised, exception]
                  simp only [ended, ↓reduceIte, Option.mem_some_iff, forall_eq', quiet,
                    Bool.false_or]
                  exact waited.then gaveUp.judged
                · obtain ⟨goesOn, overlooked⟩ := handled
                  simp only [goesOn, Bool.false_eq_true, ↓reduceIte]
                  have so_far : Unjudged _ _ := waited.then overlooked.unjudged
                  exact wp_mono (fun _ _ => so_far.then) (fun _ _ => so_far.then)
                    (ih (n + 1) (running₁.overlooked overlooked))

/-- The event at which the pump to the sync point stops, if one arrives in time. -/
def syncStop : List Delivery → Nat → Option DebugEvent :=
  pumpStop (fun rec => rec.exceptionCode = EXCEPTION_BREAKPOINT) DebugEventInfo.isExitProcess

/-- The thread that is redirected at the first breakpoint. -/
def redirectedAt : List Delivery → Option (BitVec 32 × BitVec 32) → Option (BitVec 32 × BitVec 32)
  | [], thread => thread
  | delivery :: rest, thread =>
      match delivery.event with
      | none => thread
      | some de =>
          if de.info.isBreakpoint then thread else redirectedAt rest (redirectedBy thread de)

/-- What ends the pump of a start is of the process that was created. -/
def SyncsOwn (process : BitVec 32) (stream : List Delivery) (n : Nat) : Prop :=
  ∀ event ∈ syncStop stream n, event.processId = process

/-- The victim has been created, and its sync point is awaited. -/
structure Awaited (ids : VictimIds) (log : List Call) : Prop where
  phase : (historyOf log).phase = .spawning
  victim : (historyOf log).ids = ids

/-- What is overlooked leaves the sync point to be waited for. -/
theorem Awaited.overlooked (awaited : Awaited ids log) (overlooked : Overlooked log log') :
    Awaited ids log' :=
  ⟨(congrArg _ overlooked.history).trans awaited.phase,
    (congrArg _ overlooked.history).trans awaited.victim⟩

/-- An event is obtained, and its threads are entered. -/
theorem Awaited.obtained (awaited : Awaited ids log) (event : DebugEvent) (milliseconds : Nat) :
    let log' := log ++ [.waitForDebugEvent milliseconds (some event)]
    Awaited ⟨ids.process, redirectedBy ids.thread event⟩ log' ∧
      (historyOf log').events.head? = some event ∧ Unjudged log log' := by
  have history : historyOf (log ++ [.waitForDebugEvent milliseconds (some event)]) = _ :=
    (historyOf_snoc ..).trans (if_pos awaited.phase)
  refine ⟨⟨?_, ?_⟩, ?_, unjudged_call rfl⟩
  · rw [history]
    exact awaited.phase
  · rw [history, ← awaited.victim]
  · rw [history]
    rfl

/-- The exit of the victim. -/
theorem wp_continueAwaited (de : DebugEvent) {w : World} {bad : String → World → Prop}
    (awaited : Awaited ids w.log) :
    wp (continueDebugEvent de)
      (fun _ w' => historyOf w'.log = historyOf w.log ∧
        Judged (de.info.isExitProcess = true → de.processId = ids.process) w.log w'.log) bad w := by
  have same : historyOf (w.log ++ [.continueDebugEvent de w.victim]) = historyOf w.log := by
    rw [historyOf_snoc, EventHistory.post_continue (by rw [awaited.phase]; decide)]
  refine ⟨same, judged_call ?_⟩
  simp only [EventHistory.fits, awaited.phase, awaited.victim]
  cases de.info.isExitProcess <;> simp

/-- Before the sync point, continuing an event that is no exit is overlooked. -/
theorem wp_continueAwaited_overlooked {de : DebugEvent} {w : World} {bad : String → World → Prop}
    (awaited : Awaited ids w.log) (stays : de.info.isExitProcess = false) :
    wp (continueDebugEvent de) (fun _ w' => Overlooked w.log w'.log) bad w := by
  refine wp_mono (fun _ w' continued => ⟨continued.1, ?_⟩) (fun _ _ => id)
    (wp_continueAwaited de awaited)
  refine continued.2.congr (iff_true_intro fun exits => ?_)
  exact absurd (exits.symm.trans stays) Bool.true_eq_false.mp

/-- Storing a handle is overlooked. -/
theorem wp_store_overlooked {handle : HANDLE} {f : Impl → Impl} {w : World}
    {bad : String → World → Prop} :
    wp (whenOpen handle (modifyImpl f)) (fun _ w' => Overlooked w.log w'.log) bad w :=
  wp_whenOpen .refl Overlooked.refl

/-- Before the sync point, an exit is judged by whose it is. -/
theorem wp_handleSpawnEvent_attribution (de : DebugEvent) {w : World}
    (awaited : Awaited ids w.log) :
    wp (handleSpawnEvent de)
      (fun _ w' => de.info.isExitProcess = false ∧ Overlooked w.log w'.log)
      (fun _ w' => de.info.isExitProcess = true ∧
        VerdictGivenUp (de.processId = ids.process) w.log w') w := by
  have goesOn : ∀ {w₁ : World} {bad : String → World → Prop}, de.info.isExitProcess = false →
      Overlooked w.log w₁.log → wp (continueDebugEvent de) (fun _ w' =>
        de.info.isExitProcess = false ∧ Overlooked w.log w'.log) bad w₁ := by
    intro w₁ bad stays overlooked
    exact wp_mono (fun _ w' continued => ⟨stays, overlooked.trans continued⟩) (fun _ _ => id)
      (wp_continueAwaited_overlooked (awaited.overlooked overlooked) stays)
  obtain ⟨serial, processId, threadId, info⟩ := de
  cases info with
  | loadDll hFile =>
      exact wp_seq (wp_close_overlooked ..) fun _ _ closed => goesOn rfl closed
  | createProcess hFile hProcess hThread =>
      refine wp_seq (wp_close_overlooked ..) fun _ w₁ closed => ?_
      refine wp_seq wp_store_overlooked fun _ w₂ thread => ?_
      refine wp_seq wp_store_overlooked fun _ w₃ process => ?_
      exact goesOn rfl (closed.trans (thread.trans process))
  | exitProcess =>
      refine wp_seq (wp_continueAwaited _ awaited) fun _ w₁ continued => ?_
      exact wp_tearDownWith_attribution _ fun _ gaveUp =>
        ⟨rfl, gaveUp.after (continued.2.congr (imp_iff_right rfl))⟩
  | _ => exact goesOn rfl .refl

/-- The pump of a start has come to its sync point. -/
structure AtSyncPoint (ids : VictimIds) (stream : List Delivery) (n : Nat) (log log' : List Call) :
    Prop where
  breakpoint : ∃ event serial, syncStop stream n = some event ∧
    event.info.isBreakpoint = true ∧
    (historyOf log').events.head? = some { event with serial := serial }
  victim : (historyOf log').ids = ⟨ids.process, redirectedAt stream ids.thread⟩
  unjudged : Unjudged log log'

/-- The breakpoint among the exceptions. -/
theorem isBreakpoint_of_exception {info : DebugEventInfo} {rec : ExceptionRecord}
    (exception : info.exceptionRecord = some rec) :
    info.isBreakpoint = decide (rec.exceptionCode = EXCEPTION_BREAKPOINT) := by
  rw [DebugEventInfo.isBreakpoint, exception]
  rfl

/-- No exception is an exit. -/
theorem isExitProcess_of_exception {info : DebugEventInfo} {rec : ExceptionRecord}
    (exception : info.exceptionRecord = some rec) : info.isExitProcess = false := by
  cases info <;> first | rfl | cases exception

/-- No exception tells which thread is redirected. -/
theorem redirectedBy_of_exception {event : DebugEvent} {rec : ExceptionRecord}
    (exception : event.info.exceptionRecord = some rec)
    (thread : Option (BitVec 32 × BitVec 32)) : redirectedBy thread event = thread := by
  obtain ⟨serial, processId, threadId, info⟩ := event
  cases info <;> first | rfl | cases exception

/-- An event before the sync point may bring the thread that is redirected. -/
theorem AtSyncPoint.cons {delivery : Delivery} {de : DebugEvent} {rest : List Delivery} {n n' : Nat}
    (arrived : delivery.event = some de) (stays : de.info.isBreakpoint = false)
    (stop : syncStop (delivery :: rest) n = syncStop rest n') (so_far : Unjudged log log')
    (synced : AtSyncPoint ⟨ids.process, redirectedBy ids.thread de⟩ rest n' log' log'') :
    AtSyncPoint ids (delivery :: rest) n log log'' := by
  obtain ⟨breakpoint, victim, unjudged⟩ := synced
  refine ⟨stop ▸ breakpoint, ?_, so_far.then unjudged⟩
  rw [victim, redirectedAt, arrived]
  simp only [stays, Bool.false_eq_true, ↓reduceIte]

/-- **The pump of a start** arrives at a breakpoint, or is judged by the event that ends it. -/
theorem wp_pumpToBreakpoint_attribution (stream : List Delivery) (n : Nat) {w : World}
    (awaited : Awaited ids w.log) :
    wp (pumpToBreakpoint stream n) (fun _ w' => AtSyncPoint ids stream n w.log w'.log)
      (fun _ w' => VerdictGivenUp (SyncsOwn ids.process stream n) w.log w') w := by
  have nothing : ∀ {event : Option DebugEvent}, event = none →
      (True ↔ ∀ de ∈ event, de.processId = ids.process) := by
    rintro _ rfl
    exact (iff_true_intro nofun).symm
  induction stream generalizing n w ids with
  | nil =>
      simp only [pumpToBreakpoint, waitForNothing, record, wp_bind, wp_modify]
      refine wp_tearDownWith_attribution _ fun w' gaveUp => ?_
      exact gaveUp.after ((unjudged_call rfl).congr (nothing rfl))
  | cons delivery rest ih =>
      simp only [pumpToBreakpoint, waitForDebugEvent, record, wp_bind, wp_get, wp_set, wp_modify,
        wp_pure, SyncsOwn, syncStop, pumpStop]
      cases arrived : delivery.event with
      | none =>
          refine wp_tearDownWith_attribution _ fun w' gaveUp => ?_
          exact gaveUp.after ((unjudged_call rfl).congr (nothing rfl))
      | some de =>
          simp only [Option.map_some]
          have obtained := awaited.obtained { de with serial := w.obtained } kWaitTimeoutMs
          obtain ⟨awaited₁, head, waited⟩ := obtained
          change Awaited ⟨ids.process, redirectedBy ids.thread de⟩ _ at awaited₁
          cases exception : de.info.exceptionRecord with
          | some rec =>
              by_cases breakpoint : rec.exceptionCode = EXCEPTION_BREAKPOINT
              · simp only [breakpoint, ↓reduceIte, decide_true, modifyImpl, wp_modify]
                have stops : de.info.isBreakpoint = true := by
                  rw [isBreakpoint_of_exception exception, decide_eq_true breakpoint]
                refine ⟨⟨de, w.obtained, ?_, stops, head⟩, ?_, waited⟩
                · simp [syncStop, pumpStop, arrived, exception, breakpoint]
                · rw [awaited₁.victim, redirectedBy_of_exception exception, redirectedAt, arrived]
                  simp only [stops, ↓reduceIte]
              · simp only [breakpoint, ↓reduceIte, decide_false, Bool.false_eq_true]
                have stays : de.info.isBreakpoint = false := by
                  rw [isBreakpoint_of_exception exception, decide_eq_false breakpoint]
                have stop : syncStop (delivery :: rest) n = syncStop rest n := by
                  simp [syncStop, pumpStop, arrived, exception, breakpoint]
                refine wp_seq (wp_continueAwaited_overlooked awaited₁
                  (isExitProcess_of_exception exception)) fun _ w₁ continued => ?_
                have so_far : Unjudged _ _ := waited.then continued.unjudged
                exact wp_mono (fun _ w' => .cons arrived stays stop so_far)
                  (fun _ _ gaveUp => gaveUp.from so_far)
                  (ih n (awaited₁.overlooked continued) nothing)
          | none =>
              by_cases capped : n + 1 > kMaxUninterestingEvents
              · simp only [capped, ↓reduceIte]
                refine wp_tearDownWith_attribution _ fun _ gaveUp => ?_
                exact gaveUp.after (waited.congr (nothing rfl))
              · simp only [capped, ↓reduceIte]
                refine wp_seq (wp_mono (fun _ _ => id) (fun _ w' handled => ?_)
                  (wp_handleSpawnEvent_attribution _ awaited₁)) fun _ w₁ handled => ?_
                · obtain ⟨ended, gaveUp⟩ := handled
                  simp only [ended, ↓reduceIte, Option.mem_some_iff, forall_eq']
                  exact gaveUp.from waited
                · obtain ⟨goesOn, overlooked⟩ := handled
                  simp only [goesOn, Bool.false_eq_true, ↓reduceIte]
                  have so_far : Unjudged _ _ := waited.then overlooked.unjudged
                  have stays : de.info.isBreakpoint = false := by
                    rw [DebugEventInfo.isBreakpoint, exception]
                    rfl
                  have stop : syncStop (delivery :: rest) n = syncStop rest (n + 1) := by
                    simp [syncStop, pumpStop, arrived, exception, capped, goesOn]
                  exact wp_mono (fun _ w' => .cons arrived stays stop so_far)
                    (fun _ _ gaveUp => gaveUp.from so_far)
                    (ih (n + 1) (awaited₁.overlooked overlooked) nothing)

/-- The breakpoint or the exit at which the pump of a start ends is of the process that
the start has created. -/
def SpawnOwn (r : SpawnReplies) (stream : List Delivery) : Prop :=
  CreatesVictim r → ∀ pi ∈ r.createProcessAsUser, SyncsOwn pi.processId stream 0

/-- The process of a start, and the thread that is redirected in it. -/
def spawnedIds (r : SpawnReplies) (stream : List Delivery) : VictimIds :=
  ⟨r.createProcessAsUser.elim 0 ProcessInformation.processId, redirectedAt stream none⟩

/-- The token is overlooked. -/
theorem wp_buildRestrictedToken_overlooked (r : SpawnReplies) (w : World) :
    wp (buildRestrictedToken r) (fun _ w' => Overlooked w.log w'.log)
      (fun _ w' => Overlooked w.log w'.log) w := by
  refine wp_mono (fun _ w' => ?_) (fun _ w' => ?_) (growsBy_buildRestrictedToken r w)
  all_goals
    rintro ⟨calls, grown, all⟩
    rw [grown]
    exact overlooked_append fun call member => ignores_of_buildsToken (all call member)

/-- A process has been created. -/
structure Created (pi : ProcessInformation) (log log' : List Call) : Prop where
  awaited : Awaited ⟨pi.processId, none⟩ log'
  unjudged : Unjudged log log'

/-- A creation starts the history anew. -/
theorem Overlooked.created (overlooked : Overlooked log log') (pi : ProcessInformation)
    (token : HANDLE) (path commandLine : String) :
    Created pi log (log' ++ [.createProcessAsUser token path commandLine (some pi)]) where
  awaited := ⟨congrArg _ (historyOf_snoc ..), congrArg _ (historyOf_snoc ..)⟩
  unjudged := overlooked.unjudged.then (unjudged_call rfl)

/-- What follows a creation and is ignored leaves it as it is. -/
theorem Created.call {pi : ProcessInformation} {call : Call} (created : Created pi log log')
    (ignored : attribution.Ignores call) : Created pi log (log' ++ [call]) where
  awaited := created.awaited.overlooked (Overlooked.refl.call ignored)
  unjudged := created.unjudged.then (Overlooked.refl.call ignored).unjudged

/-- The launch creates a victim, or acts on nothing. -/
theorem wp_launchVictim_attribution (r : SpawnReplies) (token : HANDLE) (w : World) :
    wp (launchVictim r token)
      (fun _ w' => ∃ pi, r.createProcessAsUser = some pi ∧ Created pi w.log w'.log)
      (fun _ w' => Unjudged w.log w'.log) w := by
  simp only [launchVictim, record, modifyImpl, modifyVictim, closeHandle, wp_bind, wp_get,
    wp_modify, wp_ite, wp_throw]
  by_cases noJob : r.createJobObject = 0
  · rw [if_pos noJob]
    exact ((Overlooked.refl.call fun _ => ⟨rfl, rfl⟩).call fun _ => ⟨rfl, rfl⟩).unjudged
  rw [if_neg noJob]
  refine wp_whenOpen ?_ ?_
  all_goals
    cases r.createProcessAsUser with
    | none =>
        refine Overlooked.unjudged ?_
        repeat refine Overlooked.call ?_ fun _ => ⟨rfl, rfl⟩
        exact .refl
    | some pi =>
        refine ⟨pi, rfl, ?_⟩
        repeat refine Created.call ?_ fun _ => ⟨rfl, rfl⟩
        refine Overlooked.created ?_ pi ..
        repeat refine Overlooked.call ?_ fun _ => ⟨rfl, rfl⟩
        exact .refl

/-- A start that stops at an event stops at its own exactly if the event is of its process. -/
theorem syncsOwn_iff {process : BitVec 32} {stream : List Delivery} {n : Nat} {event : DebugEvent}
    (stop : syncStop stream n = some event) :
    SyncsOwn process stream n ↔ event.processId = process := by
  rw [SyncsOwn, stop]
  simp only [Option.mem_some_iff, forall_eq']

/-- The pages are asked for with the sync point in hand. -/
theorem wp_mapScratch_attribution (r : SpawnReplies) {stream : List Delivery} {n : Nat}
    {log : List Call} {w : World} (synced : AtSyncPoint ids stream n log w.log) :
    wp (mapScratch r)
      (fun _ w' => (historyOf w'.log).ids = ⟨ids.process, redirectedAt stream ids.thread⟩ ∧
        Judged (SyncsOwn ids.process stream n) log w'.log)
      (fun _ w' => VerdictGivenUp (SyncsOwn ids.process stream n) log w') w := by
  obtain ⟨⟨event, serial, stop, breakpoint, head⟩, victim, unjudged⟩ := synced
  have asked : Judged (SyncsOwn ids.process stream n) log (w.log ++
      [.virtualAllocEx w.impl.process kCodeBase (3 * kPageSize) r.virtualAllocEx]) := by
    refine unjudged.then (judged_call ?_)
    rw [syncsOwn_iff stop]
    simp [EventHistory.fits, head, victim, breakpoint]
  simp only [mapScratch, record, modifyImpl, modifyVictim, wp_bind, wp_get, wp_modify, wp_ite]
  split
  · exact wp_tearDownWith_attribution _ fun _ gaveUp => gaveUp.after asked
  · refine ⟨?_, asked⟩
    rw [historyOf_snoc, ← victim]
    rfl

/-- A start that creates nothing acts on nothing. -/
theorem spawnOwn_of_not_created {r : SpawnReplies} {stream : List Delivery}
    (failed : ¬ CreatesVictim r) : True ↔ SpawnOwn r stream :=
  (iff_true_intro fun created => absurd created failed).symm

/-- **A start** acts on its own events exactly if its pump stops at one. -/
theorem wp_spawnFresh_attribution (r : SpawnReplies) {w : World} (tornDown : TornDown w.impl) :
    wp (spawnFresh r)
      (fun _ w' => (historyOf w'.log).ids = spawnedIds r w.stream ∧
        Judged (SpawnOwn r w.stream) w.log w'.log)
      (fun _ w' => Judged (SpawnOwn r w.stream) w.log w'.log) w := by
  rw [spawnFresh]
  refine wp_seq (wp_mono (fun _ _ => id) (fun _ _ => False.elim) (wp_teardown_idle tornDown))
    fun _ w₁ down => ?_
  obtain ⟨tornDown₁, stream₁, log₁⟩ := down
  rw [← log₁, ← stream₁]
  refine wp_seq (wp_mono (fun _ _ => id) (fun _ w' built => ?_)
    (wp_and (wp_buildRestrictedToken r w₁) (wp_buildRestrictedToken_overlooked r w₁)))
    fun token w₂ built => ?_
  · exact built.2.unjudged.congr (spawnOwn_of_not_created fun created => built.1.1 created.1)
  obtain ⟨⟨built, same⟩, overlooked⟩ := built
  refine wp_seq (wp_mono (fun _ _ => id) (fun _ w' failed => ?_)
    (wp_and (wp_launchVictim token built (same.impl ▸ tornDown₁))
      (wp_launchVictim_attribution r token w₂))) fun _ w₃ launched => ?_
  · have so_far : Unjudged _ _ := overlooked.unjudged.then failed.2
    exact so_far.congr (spawnOwn_of_not_created failed.1.1)
  obtain ⟨⟨creates, -, stream₃⟩, pi, created, awaited, launched⟩ := launched
  have so_far : Unjudged _ _ := overlooked.unjudged.then launched
  have own : SyncsOwn pi.processId w₁.stream 0 ↔ SpawnOwn r w₁.stream := by
    rw [SpawnOwn, created]
    simp [creates]
  rw [wp_bind, wp_get, stream₃, same.stream]
  refine wp_seq (wp_mono (fun _ _ => id) (fun _ w' gaveUp => ?_)
    (wp_pumpToBreakpoint_attribution w₁.stream 0 awaited)) fun _ w₄ synced => ?_
  · exact (so_far.then gaveUp.judged).congr own
  · refine wp_mono (fun _ w' mapped => ⟨?_, (so_far.then mapped.2).congr own⟩)
      (fun _ w' gaveUp => (so_far.then gaveUp.judged).congr own)
        (wp_mapScratch_attribution r synced)
    rw [mapped.1, spawnedIds, created]
    rfl

/-- The calls before the step that `run_one` acts on succeed. -/
def SetsUp (r : RunReplies) (tc : TestCase) : Prop :=
  (r.getThreadContext = true ∧ r.setThreadContext = true) ∧
    ¬ (tc.bytes ≠ [] ∧ r.writeCode = false)

/-- The exception or the death at which the pump of a test case ends is of the victim,
the exception of its redirected thread. -/
def StepOwn (ids : VictimIds) (r : RunReplies) (tc : TestCase) (stream : List Delivery) : Prop :=
  SetsUp r tc → EndsOwn ids stream 0

/-- Setting the context readies the history for a test case. -/
theorem wp_setUpContext_attribution (r : RunReplies) (tc : TestCase) (w : World) :
    wp (setUpContext r tc)
      (fun _ w' => historyOf w'.log = { historyOf w.log with phase := .armed } ∧
        Unjudged w.log w'.log)
      (fun _ w' => Unjudged w.log w'.log) w := by
  have got : ∀ ok, Overlooked w.log (w.log ++ [.getThreadContext w.impl.thread ok]) :=
    fun _ => Overlooked.refl.call fun _ => ⟨rfl, rfl⟩
  simp only [setUpContext, getThreadContext, setThreadContext, record, wp_bind, wp_get, wp_modify,
    wp_pure]
  cases r.getThreadContext with
  | false =>
      exact wp_tearDownWith_attribution _ fun _ gaveUp => (got _).unjudged.then gaveUp.judged
  | true =>
      cases r.setThreadContext with
      | false =>
          refine wp_tearDownWith_attribution _ fun _ gaveUp => ?_
          exact ((got _).call fun _ => ⟨rfl, rfl⟩).unjudged.then gaveUp.judged
      | true =>
          refine ⟨?_, (got _).unjudged.then (unjudged_call rfl)⟩
          rw [← (got true).history]
          exact historyOf_snoc ..

/-- A write is overlooked. -/
theorem wp_write_overlooked {process : HANDLE} {address : BitVec 64} {bytes : List (BitVec 8)}
    {ok : Bool} {log : List Call} {w : World} {bad : String → World → Prop}
    (overlooked : Overlooked log w.log) :
    wp (writeProcessMemory process address bytes ok)
      (fun _ w' => Overlooked log w'.log) bad w := by
  simp only [writeProcessMemory, record, modifyVictim, wp_bind, wp_modify, wp_ite, wp_pure]
  split <;> exact overlooked.call fun _ => ⟨rfl, rfl⟩

/-- So is the write of the code, and a refusal acts on no event. -/
theorem wp_setUpCode_attribution (r : RunReplies) (tc : TestCase) (w : World) :
    wp (setUpCode r tc) (fun _ w' => Overlooked w.log w'.log)
      (fun _ w' => Unjudged w.log w'.log) w := by
  rw [setUpCode, wp_ite]
  split
  · exact Overlooked.refl
  · rw [wp_bind, wp_get]
    refine wp_seq (wp_write_overlooked .refl) fun _ w₁ written => ?_
    rw [wp_ite]
    split
    · exact wp_tearDownWith_attribution _ fun _ gaveUp => written.unjudged.then gaveUp.judged
    · exact written

/-- So are the writes of data and stack. -/
theorem wp_setUpMemory_attribution (r : RunReplies) (tc : TestCase) (w : World) :
    wp (setUpMemory r tc) (fun _ w' => Overlooked w.log w'.log) (fun _ _ => False) w := by
  have step : ∀ {process address bytes ok} {w₁ : World}, Overlooked w.log w₁.log →
      wp (discard (writeProcessMemory process address bytes ok))
        (fun _ w' => Overlooked w.log w'.log) (fun _ _ => False) w₁ :=
    fun overlooked => (wp_discard _).mpr (wp_write_overlooked overlooked)
  rw [setUpMemory, wp_bind, wp_get]
  refine wp_seq (step .refl) fun _ _ overlooked => ?_
  refine wp_seq (step overlooked) fun _ _ overlooked => ?_
  refine wp_seq (step overlooked) fun _ _ overlooked => ?_
  exact step overlooked

/-- Resuming the victim starts the test case. -/
theorem wp_resume_attribution {w : World} (pending : w.impl.pendingValid = true)
    (armed : (historyOf w.log).phase = .armed) :
    wp resume (fun _ w' => Running (historyOf w.log).ids w'.log ∧ Unjudged w.log w'.log)
      (fun _ _ => False) w := by
  simp only [resume, continueDebugEvent, record, modifyImpl, wp_bind, wp_get, wp_modify, pending,
    ↓reduceIte]
  have history : historyOf (w.log ++ [.continueDebugEvent w.impl.pendingEvent w.victim]) =
      { historyOf w.log with phase := .running, events := [] } :=
    (historyOf_snoc ..).trans (if_pos armed)
  refine ⟨⟨?_, ?_, ?_⟩, unjudged_call ?_⟩
  · rw [history]
  · rw [history]
  · rw [history]
    rfl
  · simp only [EventHistory.fits, armed]

/-- Replacing the victim acts on no event. -/
theorem wp_respawnHygiene_attribution (out : LaneOutcome) (w : World) :
    wp (respawnHygiene out) (fun _ w' => Unjudged w.log w'.log) (fun _ _ => False) w := by
  simp only [respawnHygiene, modifyImpl, wp_bind, wp_get, wp_modify, wp_ite, wp_pure]
  split
  · exact wp_mono (fun _ _ down => down.2) (fun _ _ => id) (wp_teardown_attribution _)
  · exact Unjudged.refl

/-- **A step** acts on its own events exactly if its pump does. -/
theorem wp_stepVictim_attribution (r : RunReplies) (tc : TestCase) {w : World} (live : Live w) :
    wp (stepVictim r tc)
      (fun _ w' => Judged (StepOwn (historyOf w.log).ids r tc w.stream) w.log w'.log)
      (fun _ w' => Judged (StepOwn (historyOf w.log).ids r tc w.stream) w.log w'.log) w := by
  have unset : ¬ SetsUp r tc → (True ↔ StepOwn (historyOf w.log).ids r tc w.stream) :=
    fun failed => (iff_true_intro fun sets => absurd sets failed).symm
  rw [stepVictim]
  refine wp_seq (wp_mono (fun _ _ => id) (fun _ _ failed => ?_)
    (wp_and (wp_setUpContext r tc live) (wp_setUpContext_attribution r tc w))) fun _ w₁ set => ?_
  · refine failed.2.congr (unset fun sets => ?_)
    obtain ⟨⟨got, stored⟩, -⟩ := sets
    rcases failed.1.1 with lost | lost
    · exact Bool.false_ne_true (lost.symm.trans got)
    · exact Bool.false_ne_true (lost.symm.trans stored)
  obtain ⟨⟨checked, same₁⟩, history₁, unjudged₁⟩ := set
  have live₁ := live.unmoved same₁
  refine wp_seq (wp_mono (fun _ _ => id) (fun _ _ failed => ?_)
    (wp_and (wp_setUpCode r tc live₁) (wp_setUpCode_attribution r tc w₁))) fun _ w₂ written => ?_
  · have so_far : Unjudged _ _ := unjudged₁.then failed.2
    exact so_far.congr (unset fun sets => sets.2 failed.1.1)
  obtain ⟨⟨written, same₂⟩, code⟩ := written
  refine wp_seq (wp_mono (fun _ _ => id) (fun _ _ failed => failed.1.elim)
    (wp_and (wp_setUpMemory r tc w₂) (wp_setUpMemory_attribution r tc w₂))) fun _ w₃ stored => ?_
  obtain ⟨same₃, memory⟩ := stored
  have live₃ := (live₁.unmoved same₂).unmoved same₃
  have history₃ : historyOf w₃.log = { historyOf w.log with phase := .armed } := by
    rw [memory.history, code.history, history₁]
  refine wp_seq (wp_mono (fun _ _ => id) (fun _ _ failed => failed.1.elim)
    (wp_and (wp_resume live₃) (wp_resume_attribution live₃.pending (by rw [history₃]))))
    fun _ w₄ resumed => ?_
  obtain ⟨resumed, running, unjudged₄⟩ := resumed
  have so_far : Unjudged w.log w₄.log :=
    unjudged₁.then ((code.trans memory).unjudged.then unjudged₄)
  have stream : w₄.stream = w.stream := by
    rw [resumed.stream, same₃.stream, same₂.stream, same₁.stream]
  have own : EndsOwn (historyOf w₃.log).ids w.stream 0 ↔
      StepOwn (historyOf w.log).ids r tc w.stream := by
    rw [history₃]
    exact (imp_iff_right ⟨checked, written⟩).symm
  rw [wp_bind, wp_get, stream]
  refine wp_seq (wp_mono (fun _ _ => id) (fun _ _ judged => (so_far.then judged).congr own)
    (wp_pumpToException_attribution r w.stream 0 running)) fun out w₅ judged => ?_
  exact wp_mono (fun _ _ ended => ((so_far.then judged).congr own).then ended)
    (fun _ _ => False.elim) (wp_respawnHygiene_attribution out w₅)

/-! ## Calls on a session -/

/-- Every event at which a pump of the call ends is the victim's. -/
def OwnEvents (w : World) : SessionCall → Prop
  | .start _ r => w.impl.ready = false → SpawnOwn r w.stream
  | .runOne r tc =>
      if w.impl.ready then StepOwn (historyOf w.log).ids r tc w.stream
      else SpawnOwn r.spawn w.stream ∧ (SpawnSucceeds r.spawn w.stream →
        StepOwn (spawnedIds r.spawn w.stream) r tc (breakpointPumpEnd w.stream 0).2)
  | .shutdown => True

/-- A verdict on a program is one on what it leaves. -/
theorem judged_worldAfter {α : Type} {prog : Session α} {log : List Call} {w : World}
    (held : wp prog (fun _ w' => Judged verdict log w'.log)
      (fun _ w' => Judged verdict log w'.log) w) :
    Judged verdict log (worldAfter prog w).log := by
  rw [worldAfter]
  cases ended : prog w with
  | ok value w' => exact (wp_of_ok ended).mp held
  | error error w' => exact (wp_of_error ended).mp held

/-- What one call of a session is judged by. -/
theorem perform_judged (w : World) (call : SessionCall) (bounded : Bounded w.impl) :
    Judged (OwnEvents w call) w.log (call.perform w).log := by
  cases call with
  | start victimPath r =>
      refine judged_worldAfter ?_
      rw [SevenFuzzer.start, modifyImpl, wp_bind, wp_modify]
      by_cases ready : w.impl.ready = true
      · refine (wp_of_ok (ensureReady_of_ready ?_)).mpr (Unjudged.refl.congr ?_)
        · exact ready
        · exact (iff_true_intro fun unready => absurd (ready.symm.trans unready)
            Bool.true_eq_false.mp).symm
      · rw [Bool.not_eq_true] at ready
        have tornDown := bounded.tornDown ready
        have own : SpawnOwn r w.stream ↔ OwnEvents w (.start victimPath r) :=
          (imp_iff_right ready).symm
        exact wp_ensureReady_unready ready (wp_mono (fun _ _ spawned => spawned.2.congr own)
          (fun _ _ failed => failed.congr own) (wp_spawnFresh_attribution r
            ⟨ready, tornDown.pending, tornDown.job, tornDown.process, tornDown.thread⟩))
  | runOne r tc =>
      rw [SessionCall.perform, runOne_world]
      refine judged_worldAfter ?_
      rw [runSteps, wp_bind]
      by_cases ready : w.impl.ready = true
      · refine (wp_of_ok (ensureReady_of_ready ready)).mpr ?_
        rw [OwnEvents, if_pos ready]
        exact wp_stepVictim_attribution r tc (bounded.live ready)
      · rw [OwnEvents, if_neg ready]
        rw [Bool.not_eq_true] at ready
        have tornDown := bounded.tornDown ready
        refine wp_ensureReady_unready ready (wp_mono (fun _ w₁ spawned => ?_)
          (fun _ _ failed => failed.2.congr (and_iff_left fun succeeds =>
            absurd succeeds failed.1.failed).symm)
          (wp_and (wp_spawnFresh r.spawn tornDown) (wp_spawnFresh_attribution r.spawn tornDown)))
        obtain ⟨spawned, ids, judged⟩ := spawned
        have held := wp_stepVictim_attribution r tc spawned.live
        rw [ids, spawned.stream] at held
        have own : SpawnOwn r.spawn w.stream ∧ StepOwn (spawnedIds r.spawn w.stream) r tc
            (breakpointPumpEnd w.stream 0).2 ↔ _ :=
          and_congr_right' (imp_iff_right spawned.succeeded).symm
        exact wp_mono (fun _ _ stepped => (judged.trans stepped).congr own)
          (fun _ _ stepped => (judged.trans stepped).congr own) held
  | shutdown =>
      exact judged_worldAfter (wp_mono (fun _ _ down => down.2) (fun _ _ => False.elim)
        (wp_teardown_attribution w))

/-- An outcome is read off the exception that was in hand when the state was read. -/
def ClassifiedBy (start : List Call) (out : LaneOutcome) (log : List Call) : Prop :=
  ∃ before process address size ok after de rec,
    log = before ++ .readProcessMemory process address size ok :: after ∧ start <+: before ∧
      (historyOf before).events.head? = some de ∧ de.info.exceptionRecord = some rec ∧
      out.stop = mapException rec ∧ out.detail = exceptionDetail rec

/-- An outcome stays classified. -/
theorem ClassifiedBy.later {start : List Call} {out : LaneOutcome}
    (classified : ClassifiedBy start out log) (grown : log <+: log') :
    ClassifiedBy start out log' := by
  obtain ⟨before, process, address, size, ok, after, de, rec, rfl, classified⟩ := classified
  obtain ⟨more, rfl⟩ := grown
  exact ⟨before, process, address, size, ok, after ++ more, de, rec, by simp, classified⟩

/-- A program that only adds to the log. -/
theorem wp_grows {α : Type} {prog : Session α} {made : Call → Prop} {start : List Call} {w : World}
    (grows : Respects (GrowsBy made) prog) (before : start <+: w.log) :
    wp prog (fun _ w' => start <+: w'.log) (fun _ _ => True) w :=
  wp_mono (fun _ _ grown => before.trans grown.grows) (fun _ _ _ => trivial) (grows w)

/-- The last event obtained is the newest of the history. -/
theorem head_obtained (log : List Call) (milliseconds : Nat) (event : DebugEvent) :
    (historyOf (log ++ [.waitForDebugEvent milliseconds (some event)])).events.head? =
      some event := by
  rw [historyOf_snoc, EventHistory.post]
  split <;> rfl

/-- The pump reports what the event it ends with says. -/
theorem wp_pumpToException_classified (r : RunReplies) (stream : List Delivery) (n : Nat)
    {start : List Call} {w : World} (before : start <+: w.log) :
    wp (pumpToException r stream n) (fun out w' => ClassifiedBy start out w'.log)
      (fun _ _ => True) w := by
  have gives : ∀ {α : Type} {good : α → World → Prop} {w : World} (error : String),
      wp (tearDownWith error) good (fun _ _ => True) w := fun error =>
    wp_tearDownWith error fun _ _ => trivial
  induction stream generalizing n w with
  | nil =>
      simp only [pumpToException, waitForNothing, record, wp_bind, wp_modify]
      exact gives _
  | cons delivery rest ih =>
      simp only [pumpToException, waitForDebugEvent, record, wp_bind, wp_get, wp_set, wp_modify,
        wp_pure]
      cases arrived : delivery.event with
      | none => exact gives _
      | some de =>
          simp only [Option.map_some]
          have grown := before.trans (List.prefix_append w.log
            [.waitForDebugEvent kWaitTimeoutMs (some { de with serial := w.obtained })])
          cases exception : de.info.exceptionRecord with
          | some rec =>
              simp only [classify, getThreadContext, readProcessMemory, record, modifyImpl, wp_bind,
                wp_get, wp_modify, wp_pure]
              refine ⟨_, _, _, _, _, [], { de with serial := w.obtained }, rec, rfl,
                grown.trans (List.prefix_append ..), ?_, exception, rfl, rfl⟩
              rw [historyOf_snoc]
              exact head_obtained ..
          | none =>
              dsimp only
              rw [wp_ite]
              split
              · exact gives _
              · exact wp_seq (wp_grows (serves_handleRunEvent _) grown) fun _ w₁ => ih (n + 1)

/-- So does a step. -/
theorem wp_stepVictim_classified (r : RunReplies) (tc : TestCase) {start : List Call} {w : World}
    (before : start <+: w.log) :
    wp (stepVictim r tc) (fun out w' => ClassifiedBy start out w'.log) (fun _ _ => True) w := by
  rw [stepVictim]
  refine wp_seq (wp_grows (noSpawn_setUpContext r tc) before) fun _ _ before => ?_
  refine wp_seq (wp_grows (noSpawn_setUpCode r tc) before) fun _ _ before => ?_
  refine wp_seq (wp_grows (noSpawn_setUpMemory r tc) before) fun _ _ before => ?_
  refine wp_seq (wp_grows serves_resume before) fun _ w₁ before => ?_
  rw [wp_bind, wp_get]
  refine wp_seq (wp_pumpToException_classified r w₁.stream 0 before) fun out w₂ classified => ?_
  simp only [respawnHygiene, modifyImpl, wp_bind, wp_get, wp_modify, wp_ite, wp_pure]
  split
  · exact wp_mono (fun _ _ grown => classified.later grown.grows) (fun _ _ _ => trivial)
      (serves_teardown _)
  · exact classified

/-- So does every test case that is reported. -/
theorem runOne_classified (r : RunReplies) (tc : TestCase) {w : World}
    (reported : (runOne r tc w).1.setupOk = true) :
    ClassifiedBy w.log (runOne r tc w).1 (runOne r tc w).2.log := by
  have readies : wp (ensureReady r.spawn) (fun _ w' => w.log <+: w'.log) (fun _ _ => True) w := by
    rw [ensureReady, wp_bind, wp_get, wp_ite]
    split
    · exact List.prefix_rfl
    · exact wp_grows (noTransfer_spawnFresh r.spawn) List.prefix_rfl
  have held : wp (runSteps r tc) (fun out w' => ClassifiedBy w.log out w'.log)
      (fun _ _ => True) w :=
    wp_seq readies fun _ _ before => wp_stepVictim_classified r tc before
  rw [runOne] at reported ⊢
  cases ended : runSteps r tc w with
  | ok out w' => exact (wp_of_ok ended).mp held
  | error error w' =>
      rw [ended] at reported
      exact absurd reported Bool.false_ne_true

/-- **Every run**: the session has acted on its own events exactly if every call of the run has. -/
theorem actsOnOwn_iff_of_run {victim : Victim} {stream : List Delivery}
    {trace : List (World × SessionCall)} {final : World}
    (run : Run sessionStep (.initial victim stream) trace final) :
    ActsOnOwn final.log ↔ ∀ moment ∈ trace, OwnEvents moment.1 moment.2 := by
  induction run with
  | nil => exact iff_of_true Monitor.accepts_nil (List.forall_mem_nil _)
  | @snoc trace w call next reached moved ih =>
      obtain rfl : call.perform w = next := Option.some.inj moved
      rw [List.forall_mem_append, List.forall_mem_singleton, ← ih]
      exact perform_judged w call (bounded_of_run reached)

/-- **Outcome attribution.** In every run of calls on a session, whatever the events and
the replies, each outcome reported as sound is that of the exception in hand when the
state was read. That exception was always the first of the redirected thread of the
victim since it was resumed, and every sync point and every exit acted on was one of the
process just created, if and only if the breakpoint or exit that ends each pump of a
start has the process id that was created, and the exception, exit or RIP event that ends
each pump of a test case has it too, an exception also the redirected thread's. -/
theorem outcome_attribution_iff {victim : Victim} {stream : List Delivery}
    {trace : List (World × SessionCall)} {final : World}
    (run : Run sessionStep (.initial victim stream) trace final) :
    (∀ w r tc, (w, .runOne r tc) ∈ trace → (runOne r tc w).1.setupOk = true →
        ClassifiedBy w.log (runOne r tc w).1 (runOne r tc w).2.log) ∧
      (ActsOnOwn final.log ↔ ∀ moment ∈ trace, OwnEvents moment.1 moment.2) :=
  ⟨fun _ r tc _ reported => runOne_classified r tc reported, actsOnOwn_iff_of_run run⟩

/-- A session whose first test case ends in a single step of its own. -/
theorem outcome_attribution_single_step :
    ∃ trace final, Run sessionStep (.initial freshVictim (firstStepStream EXCEPTION_SINGLE_STEP))
        trace final ∧
      (∀ w r tc, (w, .runOne r tc) ∈ trace → (runOne r tc w).1.setupOk = true →
        ClassifiedBy w.log (runOne r tc w).1 (runOne r tc w).2.log) ∧
      (ActsOnOwn final.log ↔ ∀ moment ∈ trace, OwnEvents moment.1 moment.2) := by
  have run : Run sessionStep _ _ _ := .of_play
    (.initial freshVictim (firstStepStream EXCEPTION_SINGLE_STEP)) firstStepCalls rfl
  exact ⟨_, _, run, outcome_attribution_iff run⟩

/-- The first exception after the victim has been resumed is a breakpoint of another of its
threads. -/
def foreignThreadStream : List Delivery :=
  [⟨some { processId := 100, threadId := 104, info := .createProcess 0 32 36 }, freshVictim⟩,
    ⟨some {
        processId := 100, threadId := 104
        info := .exception ⟨EXCEPTION_BREAKPOINT, 0, 0, fun _ => 0⟩ },
      freshVictim⟩,
    ⟨some {
        processId := 100, threadId := 108
        info := .exception ⟨EXCEPTION_BREAKPOINT, 0, 0, fun _ => 0⟩ },
      freshVictim⟩]

/-- A test case is classified by a breakpoint that another thread has raised. -/
theorem foreign_thread_classified :
    ∃ trace final, Run sessionStep (.initial freshVictim foreignThreadStream) trace final ∧
      ¬ ActsOnOwn final.log := by
  have run : Run sessionStep _ _ _ := .of_play (.initial freshVictim foreignThreadStream)
    [.runOne { spawn := .granted freshVictim } {}] rfl
  refine ⟨_, _, run, fun attributed => ?_⟩
  have spawns : SpawnSucceeds (.granted freshVictim) foreignThreadStream :=
    ⟨⟨⟨rfl, rfl, rfl, rfl, rfl⟩, by decide, rfl⟩, ⟨_, rfl⟩, rfl⟩
  have sets : SetsUp { spawn := .granted freshVictim } {} :=
    ⟨⟨rfl, rfl⟩, fun failed => failed.1 rfl⟩
  have own := (actsOnOwn_iff_of_run run).mp attributed _ (List.mem_singleton_self _)
  exact absurd (own.2 spawns sets _ rfl) (by decide)

end SevenFuzzer
