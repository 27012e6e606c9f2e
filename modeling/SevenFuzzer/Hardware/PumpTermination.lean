import SevenFuzzer.Hardware.EventProtocol
import SevenFuzzer.Hardware.Growth

/-! # When the pumps end

A pump that is given the first events of a stream either returns while it reads them or
asks for one more. The cap counts every event that is no exception, and the pump of a
test case ends at any exception, so it reads at most one event more than the cap. The
pump of a start ends at a breakpoint only: `pumps_end_iff` says on which streams it
ends within a bound, and none is enough for all of them
(`SevenFuzzer.spawn_pump_endless`).
-/

namespace SevenFuzzer

open Command

/-- An endless stream of events that are all delivered. -/
structure EventStream where
  event : Nat → DebugEvent
  victim : Nat → Victim

/-- The first deliveries of a stream. -/
def EventStream.first (events : EventStream) (count : Nat) : List Delivery :=
  (List.range count).map fun i => ⟨some (events.event i), events.victim i⟩

/-- The wait of a pump for an event that is not there. -/
def Call.isPumpWait : Call → Bool
  | .waitForDebugEvent milliseconds none => milliseconds == kWaitTimeoutMs
  | _ => false

/-- How many waits of a pump have been made. -/
def World.pumpWaits (w : World) : Nat := w.log.countP Call.isPumpWait

/-- A pump that has read every delivery it was given asks for one more. -/
def AsksForMore {α : Type} (prog : Session α) (w : World) : Prop :=
  w.pumpWaits < (worldAfter prog w).pumpWaits

/-- Both pumps return after at most a number of events. -/
structure PumpsEndWithin (bound : Nat) (events : EventStream) (r : RunReplies) (w : World) :
    Prop where
  spawnFresh : ¬ AsksForMore (pumpToBreakpoint (events.first bound) 0) w
  runOne : ¬ AsksForMore (pumpToException r (events.first bound) 0) w

/-- No pump waits in vain. -/
abbrev NeverAsks (w w' : World) : Prop := GrowsBy (fun call => call.isPumpWait = false) w w'

/-- Where no pump waits, none is counted. -/
theorem GrowsBy.pumpWaits {w w' : World} (never : NeverAsks w w') : w'.pumpWaits = w.pumpWaits := by
  obtain ⟨calls, grown, quiet⟩ := never
  have none_ : calls.countP Call.isPumpWait = 0 :=
    List.countP_eq_zero.mpr fun call made => by rw [quiet call made]; exact Bool.false_ne_true
  rw [World.pumpWaits, grown, List.countP_append, none_, Nat.add_zero, World.pumpWaits]

/-- The calls of teardown wait for no pump. -/
theorem allowsPump_neverAsks : AllowsPump fun call => call.isPumpWait = false :=
  ⟨fun _ _ => rfl, fun _ _ => rfl, fun _ _ => rfl, rfl, fun _ _ => rfl⟩

/-- A pump that times out has waited once more than it received. -/
def PumpEnd.waits : PumpEnd → Nat
  | .timedOut => 1
  | _ => 0

/-- The pump has asked for more than it was given exactly if it has timed out. -/
def AskedOnce (ended : PumpEnd) (w w' : World) : Prop :=
  w'.pumpWaits = w.pumpWaits + ended.waits

/-- A pump that did not time out and never asked for more asked as often as it should. -/
theorem AskedOnce.of_never {ended : PumpEnd} (returned : ended ≠ .timedOut) {w w' : World}
    (never : NeverAsks w w') : AskedOnce ended w w' := by
  rw [AskedOnce, never.pumpWaits]
  cases ended <;> first | rfl | exact absurd rfl returned

/-- What was done before without waiting does not count. -/
theorem AskedOnce.after {ended : PumpEnd} {w w' w'' : World} (never : NeverAsks w w')
    (asked : AskedOnce ended w' w'') : AskedOnce ended w w'' := by
  rwa [AskedOnce, ← never.pumpWaits]

/-- Every delivery brings an event. -/
abbrev Delivered (stream : List Delivery) : Prop :=
  ∀ delivery ∈ stream, delivery.event.isSome = true

/-- A wait that brings an event asks for no more. -/
theorem neverAsks_wait {delivery : Delivery} (brought : delivery.event.isSome = true)
    (milliseconds : Nat) (rest : List Delivery) :
    Respects NeverAsks (waitForDebugEvent milliseconds delivery rest) :=
  growsBy_wait allowsPump_neverAsks (fun empty => by simp [empty] at brought) rest

/-- At the end of what it was given a pump waits once in vain. -/
theorem wp_askedForMore {α : Type} (error : String) (w : World) :
    wp (do waitForNothing kWaitTimeoutMs; tearDownWith error : Session α)
      (fun _ w' => AskedOnce .timedOut w w') (fun _ w' => AskedOnce .timedOut w w') w := by
  simp only [waitForNothing, record, wp_bind, wp_modify]
  have waited :
      World.pumpWaits { w with log := w.log ++ [.waitForDebugEvent kWaitTimeoutMs none] } =
      w.pumpWaits + 1 := by
    simp [World.pumpWaits, Call.isPumpWait]
  refine wp_mono (fun _ w' never => ?_) (fun _ w' never => ?_)
    (growsBy_tearDownWith allowsPump_neverAsks error _)
  · exact never.pumpWaits.trans waited
  · exact never.pumpWaits.trans waited

/-- A part that does not ask, and the rest of the pump if it goes on. -/
theorem wp_then_asked {α β : Type} {prog : Session α} {next : α → Session β} {ended : PumpEnd}
    {w : World} (continues : Prop) (quiet : Respects NeverAsks prog)
    (gaveUp : wp prog (fun _ _ => continues) (fun _ _ => ended ≠ .timedOut) w)
    (rest : continues → ∀ value w', wp (next value) (fun _ w'' => AskedOnce ended w' w'')
      (fun _ w'' => AskedOnce ended w' w'') w') :
    wp (prog >>= next) (fun _ w' => AskedOnce ended w w') (fun _ w' => AskedOnce ended w w') w := by
  refine (wp_bind prog next).mpr (wp_mono (fun value w₁ held => ?_) (fun error w₁ held => ?_)
    (wp_and (quiet w) gaveUp))
  · exact wp_mono (fun _ _ => .after held.1) (fun _ _ => .after held.1) (rest held.2 value w₁)
  · exact .of_never held.2 held.1

/-- A part that does not ask ends the pump. -/
theorem wp_asked_of_never {α : Type} {prog : Session α} {ended : PumpEnd}
    (returned : ended ≠ .timedOut)
    (quiet : Respects NeverAsks prog) (w : World) :
    wp prog (fun _ w' => AskedOnce ended w w') (fun _ w' => AskedOnce ended w w') w :=
  wp_mono (fun _ _ => .of_never returned) (fun _ _ => .of_never returned) (quiet w)

/-- An event that is obtained, and what a pump makes of it. -/
theorem wp_obtained_asked {α : Type} {next : Option DebugEvent → Session α} {ended : PumpEnd}
    {delivery : Delivery} {event : DebugEvent} (brought : delivery.event = some event)
    (rest : List Delivery) (w : World)
    (handles : ∀ serial w', wp (next (some { event with serial := serial }))
      (fun _ w'' => AskedOnce ended w' w'') (fun _ w'' => AskedOnce ended w' w'') w') :
    wp (waitForDebugEvent kWaitTimeoutMs delivery rest >>= next)
      (fun _ w' => AskedOnce ended w w') (fun _ w' => AskedOnce ended w w') w := by
  have quiet := neverAsks_wait (by rw [brought]; rfl : delivery.event.isSome = true) kWaitTimeoutMs
    rest w
  simp only [waitForDebugEvent, record, wp_bind, wp_get, wp_set, wp_modify, wp_pure, brought,
    Option.map_some] at quiet ⊢
  exact wp_mono (fun _ _ => .after quiet) (fun _ _ => .after quiet) (handles _ _)

/-- A start is given up exactly at an exit. -/
theorem wp_handleSpawnEvent_exits (de : DebugEvent) (w : World) :
    wp (handleSpawnEvent de) (fun _ _ => de.info.isExitProcess = false)
      (fun _ _ => de.info.isExitProcess = true) w := by
  obtain ⟨serial, processId, threadId, info⟩ := de
  cases info with
  | exitProcess =>
      refine wp_mono (fun _ _ => False.elim) (fun _ _ _ => rfl)
        (show wp (handleSpawnEvent _) (fun _ _ => False) (fun _ _ => True) w from ?_)
      simp only [handleSpawnEvent, continueDebugEvent, record, wp_bind, wp_get, wp_modify]
      exact wp_tearDownWith _ fun _ _ => trivial
  | loadDll hFile =>
      simp only [handleSpawnEvent, continueDebugEvent, record, whenOpen, closeHandle, wp_bind,
        wp_ite, wp_get, wp_modify, wp_pure]
      split <;> rfl
  | createProcess hFile hProcess hThread =>
      simp only [handleSpawnEvent, continueDebugEvent, record, whenOpen, closeHandle, modifyImpl,
        wp_bind, wp_ite, wp_get, wp_modify, wp_pure]
      split_ifs <;> rfl
  | _ => rfl

/-- The pump of a start waits for more than it was given exactly if it times out. -/
theorem wp_pumpToBreakpoint_asked (stream : List Delivery) (delivered : Delivered stream) (n : Nat)
    (w : World) :
    wp (pumpToBreakpoint stream n) (fun _ w' => AskedOnce (breakpointPumpEnd stream n).1 w w')
      (fun _ w' => AskedOnce (breakpointPumpEnd stream n).1 w w') w := by
  induction stream generalizing n w with
  | nil => exact wp_askedForMore _ w
  | cons delivery rest ih =>
      have delivered := List.forall_mem_cons.mp delivered
      obtain ⟨event, brought⟩ := Option.isSome_iff_exists.mp delivered.1
      simp only [breakpointPumpEnd, pumpEnd, brought]
      refine wp_obtained_asked brought rest w fun serial w₁ => ?_
      dsimp only
      cases event.info.exceptionRecord with
      | some rec =>
          dsimp only
          by_cases stops : rec.exceptionCode = EXCEPTION_BREAKPOINT
          · simp only [stops, ↓reduceIte, decide_true]
            exact wp_asked_of_never (by rintro ⟨⟩) (growsBy_modifyImpl _) w₁
          · simp only [stops, ↓reduceIte, decide_false, Bool.false_eq_true]
            exact wp_then_asked True (growsBy_continue allowsPump_neverAsks _) trivial
              fun _ _ w₂ => ih delivered.2 n w₂
      | none =>
          dsimp only
          by_cases capped : n + 1 > kMaxUninterestingEvents
          · simp only [capped, ↓reduceIte]
            exact wp_asked_of_never (by rintro ⟨⟩) (growsBy_tearDownWith allowsPump_neverAsks _) w₁
          · simp only [capped, ↓reduceIte]
            have handled := wp_handleSpawnEvent_exits { event with serial := serial } w₁
            cases exits : event.info.isExitProcess with
            | true =>
                refine wp_then_asked False (growsBy_handleSpawnEvent allowsPump_neverAsks _) ?_
                  False.elim
                refine wp_mono (fun _ _ returned => ?_) (fun _ _ _ wrong => by cases wrong) handled
                exact Bool.false_ne_true (returned.symm.trans exits)
            | false =>
                refine wp_then_asked True (growsBy_handleSpawnEvent allowsPump_neverAsks _) ?_
                  fun _ _ w₂ => ih delivered.2 (n + 1) w₂
                refine wp_mono (fun _ _ _ => trivial) (fun _ _ threw => ?_) handled
                exact absurd (threw.symm.trans exits) (by decide)

/-- The report of an exception waits for nothing. -/
theorem growsBy_classify_neverAsks (r : RunReplies) (de : DebugEvent) (rec : ExceptionRecord) :
    Respects NeverAsks (classify r de rec) := by
  intro w
  simp only [classify, getThreadContext, readProcessMemory, record, modifyImpl, wp_bind, wp_get,
    wp_modify, wp_pure]
  exact ⟨[.getThreadContext _ _, .readProcessMemory _ _ _ _],
    by rw [List.append_assoc]; rfl, by simp [Call.isPumpWait]⟩

/-- A test case is given up exactly at an event that ends it. -/
theorem wp_handleRunEvent_exits (de : DebugEvent) (w : World) :
    wp (handleRunEvent de) (fun _ _ => endsRun de.info = false)
      (fun _ _ => endsRun de.info = true) w := by
  have exits : ∀ w, wp (do
      continueDebugEvent de
      tearDownWith "victim died mid test case" : Session Unit) (fun _ _ => False)
      (fun _ _ => True) w := by
    intro w
    simp only [continueDebugEvent, record, wp_bind, wp_get, wp_modify]
    exact wp_tearDownWith _ fun _ _ => trivial
  obtain ⟨serial, processId, threadId, info⟩ := de
  cases info with
  | exitProcess => exact wp_mono (fun _ _ => False.elim) (fun _ _ _ => rfl) (exits w)
  | rip => exact wp_mono (fun _ _ => False.elim) (fun _ _ _ => rfl) (exits w)
  | loadDll hFile =>
      simp only [handleRunEvent, continueDebugEvent, record, whenOpen, closeHandle, wp_bind,
        wp_ite, wp_get, wp_modify, wp_pure]
      split <;> rfl
  | _ => rfl

/-- The pump of a test case waits for more than it was given exactly if it times out. -/
theorem wp_pumpToException_asked (r : RunReplies) (stream : List Delivery)
    (delivered : Delivered stream) (n : Nat) (w : World) :
    wp (pumpToException r stream n) (fun _ w' => AskedOnce (exceptionPumpEnd stream n).1 w w')
      (fun _ w' => AskedOnce (exceptionPumpEnd stream n).1 w w') w := by
  induction stream generalizing n w with
  | nil => exact wp_askedForMore _ w
  | cons delivery rest ih =>
      have delivered := List.forall_mem_cons.mp delivered
      obtain ⟨event, brought⟩ := Option.isSome_iff_exists.mp delivered.1
      simp only [exceptionPumpEnd, pumpEnd, brought]
      refine wp_obtained_asked brought rest w fun serial w₁ => ?_
      dsimp only
      cases event.info.exceptionRecord with
      | some rec => exact wp_asked_of_never (by rintro ⟨⟩) (growsBy_classify_neverAsks r _ rec) w₁
      | none =>
          dsimp only
          by_cases capped : n + 1 > kMaxUninterestingEvents
          · simp only [capped, ↓reduceIte]
            exact wp_asked_of_never (by rintro ⟨⟩) (growsBy_tearDownWith allowsPump_neverAsks _) w₁
          · simp only [capped, ↓reduceIte]
            have handled := wp_handleRunEvent_exits { event with serial := serial } w₁
            cases exits : endsRun event.info with
            | true =>
                refine wp_then_asked False (growsBy_handleRunEvent allowsPump_neverAsks _) ?_
                  False.elim
                refine wp_mono (fun _ _ returned => ?_) (fun _ _ _ wrong => by cases wrong) handled
                exact Bool.false_ne_true (returned.symm.trans exits)
            | false =>
                refine wp_then_asked True (growsBy_handleRunEvent allowsPump_neverAsks _) ?_
                  fun _ _ w₂ => ih delivered.2 (n + 1) w₂
                refine wp_mono (fun _ _ _ => trivial) (fun _ _ threw => ?_) handled
                exact absurd (threw.symm.trans exits) (by decide)

/-- A pump asks for more exactly if it has timed out on what it was given. -/
theorem asksForMore_iff {α : Type} {prog : Session α} {ended : PumpEnd} {w : World}
    (asked : wp prog (fun _ w' => AskedOnce ended w w') (fun _ w' => AskedOnce ended w w') w) :
    AsksForMore prog w ↔ ended = .timedOut := by
  have after : AskedOnce ended w (worldAfter prog w) := by
    rw [worldAfter]
    cases run : prog w with
    | ok value w' => exact (wp_of_ok run).mp asked
    | error error w' => exact (wp_of_error run).mp asked
  rw [AsksForMore, after]
  cases ended <;> simp [PumpEnd.waits]

/-- An event at which a pump ends, whatever came before it. -/
def endsPump (stops : ExceptionRecord → Bool) (exits : DebugEventInfo → Bool)
    (info : DebugEventInfo) : Bool :=
  match info.exceptionRecord with
  | some rec => stops rec
  | none => exits info

/-- The delivery carries an event that is no exception. -/
def isNoException (delivery : Delivery) : Bool :=
  delivery.event.any fun event => event.info.exceptionRecord.isNone

/-- A pump reads all of what it is given if nothing in it ends a pump and the cap is not
exceeded. -/
theorem pumpEnd_timedOut_iff {stops : ExceptionRecord → Bool} {exits : DebugEventInfo → Bool}
    {stream : List Delivery} (delivered : Delivered stream) {n : Nat}
    (within : n ≤ kMaxUninterestingEvents) :
    (pumpEnd stops exits stream n).1 = .timedOut ↔
      (∀ delivery ∈ stream, ∀ event ∈ delivery.event, endsPump stops exits event.info = false) ∧
        n + stream.countP isNoException ≤ kMaxUninterestingEvents := by
  induction stream generalizing n with
  | nil => simpa [pumpEnd] using within
  | cons delivery rest ih =>
      have delivered := List.forall_mem_cons.mp delivered
      obtain ⟨event, brought⟩ := Option.isSome_iff_exists.mp delivered.1
      simp only [pumpEnd, brought, List.forall_mem_cons, Option.mem_def, Option.some.injEq,
        forall_eq', List.countP_cons, and_assoc]
      cases raised : event.info.exceptionRecord with
      | some rec =>
          have ends : endsPump stops exits event.info = stops rec := by rw [endsPump, raised]
          have uncounted :
              isNoException delivery = false := by simp [isNoException, brought, raised]
          simp only [ends, uncounted, Bool.false_eq_true, ↓reduceIte, Nat.add_zero]
          cases stops rec with
          | true => simp
          | false =>
              simp only [Bool.false_eq_true, ↓reduceIte, true_and]
              exact ih delivered.2 within
      | none =>
          have ends : endsPump stops exits event.info = exits event.info := by rw [endsPump, raised]
          have counted : isNoException delivery = true := by simp [isNoException, brought, raised]
          simp only [ends, counted, ↓reduceIte]
          by_cases capped : n + 1 > kMaxUninterestingEvents
          · simp only [capped, ↓reduceIte, reduceCtorEq, false_iff, not_and, not_le]
            omega
          · simp only [capped, ↓reduceIte]
            cases exits event.info with
            | true => simp
            | false =>
                simp only [Bool.false_eq_true, ↓reduceIte, true_and]
                rw [ih delivered.2 (by omega), Nat.add_right_comm, Nat.add_assoc]
                exact Iff.rfl

/-- A prefix of an endless stream is all events. -/
theorem delivered_first (events : EventStream) (count : Nat) : Delivered (events.first count) := by
  intro delivery listed
  obtain ⟨i, -, rfl⟩ := List.mem_map.mp listed
  rfl

/-- Among the first events of a stream there is one at which a pump ends. -/
def EventStream.Ends (events : EventStream) (stops : ExceptionRecord → Bool)
    (exits : DebugEventInfo → Bool) (count : Nat) : Prop :=
  ∃ i < count, endsPump stops exits (events.event i).info = true

/-- How many of the first events of a stream are no exceptions. -/
def EventStream.others (events : EventStream) (count : Nat) : Nat :=
  (List.range count).countP fun i => (events.event i).info.exceptionRecord.isNone

/-- A pump times out on a prefix exactly if nothing in it ends the pump. -/
theorem pumpEnd_first_iff (events : EventStream) (stops : ExceptionRecord → Bool)
    (exits : DebugEventInfo → Bool) (count : Nat) :
    (pumpEnd stops exits (events.first count) 0).1 = .timedOut ↔
      ¬ events.Ends stops exits count ∧ events.others count ≤ kMaxUninterestingEvents := by
  rw [pumpEnd_timedOut_iff (delivered_first events count) (Nat.zero_le _), Nat.zero_add,
    EventStream.first, List.countP_map]
  refine and_congr ?_ Iff.rfl
  simp only [EventStream.Ends, List.forall_mem_map, List.mem_range, Option.mem_def,
    Option.some.injEq, forall_eq', not_exists, not_and, Bool.not_eq_true]

/-- The pump of a test case ends at any exception, and before the cap is exceeded. -/
theorem runOne_ends (events : EventStream) {bound : Nat} (above : kMaxUninterestingEvents < bound)
    (r : RunReplies) (w : World) :
    ¬ AsksForMore (pumpToException r (events.first bound) 0) w := by
  rw [asksForMore_iff (wp_pumpToException_asked r _ (delivered_first events bound) 0 w),
    exceptionPumpEnd, pumpEnd_first_iff]
  rintro ⟨quiet, within⟩
  have others : events.others bound = bound := by
    rw [EventStream.others]
    refine (List.countP_eq_length.mpr fun i listed => ?_).trans List.length_range
    by_contra raised
    refine quiet ⟨i, List.mem_range.mp listed, ?_⟩
    rw [endsPump]
    cases record : (events.event i).info.exceptionRecord with
    | none => simp [record] at raised
    | some rec => rfl
  omega

/-- The exception of the sync point. -/
def isBreakpointRecord (rec : ExceptionRecord) : Bool := rec.exceptionCode = EXCEPTION_BREAKPOINT

/-- The pump of a start wants more than a bound exactly if no event within it ends the pump and the
cap is not reached. -/
theorem spawnFresh_asks_iff (events : EventStream) (bound : Nat) (w : World) :
    AsksForMore (pumpToBreakpoint (events.first bound) 0) w ↔
      ¬ events.Ends isBreakpointRecord DebugEventInfo.isExitProcess bound ∧
        events.others bound ≤ kMaxUninterestingEvents := by
  rw [asksForMore_iff (wp_pumpToBreakpoint_asked _ (delivered_first events bound) 0 w),
    breakpointPumpEnd]
  exact pumpEnd_first_iff ..

/-- **Which streams end both pumps.** Within a bound above the cap both pumps return if
and only if the first events of the stream hold a breakpoint or an exit of the process, or
exceed the cap with events that are no exceptions. -/
theorem pumps_end_iff (events : EventStream) {bound : Nat} (above : kMaxUninterestingEvents < bound)
    (r : RunReplies) (w : World) :
    PumpsEndWithin bound events r w ↔
      events.Ends isBreakpointRecord DebugEventInfo.isExitProcess bound ∨
        kMaxUninterestingEvents < events.others bound := by
  have spawns := not_congr (spawnFresh_asks_iff events bound w)
  rw [not_and_or, not_not, not_le] at spawns
  constructor
  · rintro ⟨spawnFresh, -⟩
    exact spawns.mp spawnFresh
  · intro ends
    exact ⟨spawns.mpr ends, runOne_ends events above r w⟩

/-- Breakpoints without end. -/
def breakpoints : EventStream where
  event _ := { info := .exception ⟨EXCEPTION_BREAKPOINT, 0, 0, fun _ => 0⟩ }
  victim _ := freshVictim

/-- A stream of breakpoints ends both pumps. -/
theorem pumps_end_breakpoints :
    PumpsEndWithin 10001 breakpoints { spawn := .granted freshVictim }
      ⟨{}, freshVictim, [], 0, []⟩ ↔
      breakpoints.Ends isBreakpointRecord DebugEventInfo.isExitProcess 10001 ∨
        kMaxUninterestingEvents < breakpoints.others 10001 :=
  pumps_end_iff breakpoints (by decide) { spawn := .granted freshVictim }
    ⟨{}, freshVictim, [], 0, []⟩

/-- An access violation that is continued and raised again without end. -/
def accessViolations : EventStream where
  event _ := { info := .exception ⟨EXCEPTION_ACCESS_VIOLATION, 0, 0, fun _ => 0⟩ }
  victim _ := freshVictim

/-- The pump of a start goes on for ever on them: no bound is enough for every stream. -/
theorem spawn_pump_endless :
    ¬ ∃ bound, ∀ events r w, PumpsEndWithin bound events r w := by
  rintro ⟨bound, ends⟩
  refine (ends accessViolations { spawn := .granted freshVictim }
    ⟨{}, freshVictim, [], 0, []⟩).spawnFresh ?_
  rw [spawnFresh_asks_iff]
  refine ⟨?_, ?_⟩
  · rintro ⟨i, -, ended⟩
    exact absurd ended (by decide : ¬ endsPump isBreakpointRecord DebugEventInfo.isExitProcess
      (.exception ⟨EXCEPTION_ACCESS_VIOLATION, 0, 0, fun _ => 0⟩) = true)
  · refine (Nat.le_of_eq (List.countP_eq_zero.mpr fun i _ => ?_)).trans (Nat.zero_le _)
    exact Bool.false_ne_true

end SevenFuzzer
