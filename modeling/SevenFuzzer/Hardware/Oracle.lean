import SevenFuzzer.Hardware.HistoryIndependence

/-! # The hardware lane as an oracle

What the lane reports of a test case is the answer of the silicon to it, whatever the session
has been through: earlier test cases, faults and respawns, calls that failed, streams of events
from anywhere. It is enough that this one call is served, every Win32 call succeeding and the
next exception being the one the silicon stops the prepared victim with, and that the
instruction reads nothing behind itself on the code page (`runOne_eq_oracle`).
-/

namespace SevenFuzzer

open Command Transition

/-- One instruction of a victim: the exception that stops it and the state it is stopped in. -/
abbrev Silicon := Victim → ExceptionRecord × Victim

/-- The outcome read off an exception and the victim it has stopped. -/
def observe (rec : ExceptionRecord) (v : Victim) : LaneOutcome where
  stop := mapException rec
  detail := exceptionDetail rec
  after := { readAllFromContext v.context with
    dataAfter := fun i => v.memory (kDataBase + BitVec.ofNat 64 i) }
  capturesX87 := true

/-- The data window in the numbering of the three pages. -/
theorem data_eq_pageByte (i : Nat) : kDataBase + BitVec.ofNat 64 i = pageByte (kPageSize + i) := by
  rw [pageByte, BitVec.ofNat_add, ← BitVec.add_assoc]
  rfl

/-- The data window lies within the three pages. -/
theorem dataWindow_inPages (i : Fin kDataWindow) : kPageSize + i.val < 3 * kPageSize := by
  have inside := i.isLt
  simp only [kDataWindow, kPageSize] at inside ⊢
  omega

/-- What the silicon makes of a test case, on a victim of its own. -/
def oracle (silicon : Silicon) (tc : TestCase) : LaneOutcome :=
  let stopped := silicon (preparedVictim freshVictim tc)
  observe stopped.1 stopped.2

/-- The same victim, but for the code page behind the bytes of a test case. -/
structure SameButCodeRest (tc : TestCase) (v v' : Victim) : Prop where
  context : v.context = v'.context
  memory : ∀ offset < 3 * kPageSize, kPageSize ≤ offset ∨ offset < tc.bytes.length →
    v.memory (pageByte offset) = v'.memory (pageByte offset)

/-- The code page behind a test case makes no difference to what stops it, to the registers or to
the data window. -/
def ReadsOwnCode (silicon : Silicon) (tc : TestCase) : Prop :=
  ∀ v v', SameButCodeRest tc v v' →
    (silicon v).1 = (silicon v').1 ∧ (silicon v).2.context = (silicon v').2.context ∧
      ∀ i : Fin kDataWindow, (silicon v).2.memory (kDataBase + BitVec.ofNat 64 i) =
        (silicon v').2.memory (kDataBase + BitVec.ofNat 64 i)

/-- Preparing a victim leaves nothing of its past but the rest of the code page. -/
theorem sameButCodeRest_prepared (v v' : Victim) (tc : TestCase) :
    SameButCodeRest tc (preparedVictim v tc) (preparedVictim v' tc) where
  context := rfl
  memory offset inPages written := by
    apply (preparedVictim_memory_iff inPages).mpr
    exact written.imp_right .inl

/-- Where the rest of the code page does not count, every prepared victim shows what the oracle
says. -/
theorem ReadsOwnCode.observe_eq {silicon : Silicon} {tc : TestCase} (own : ReadsOwnCode silicon tc)
    (v : Victim) :
    observe (silicon (preparedVictim v tc)).1 (silicon (preparedVictim v tc)).2 =
      oracle silicon tc := by
  obtain ⟨record, context, window⟩ := own _ _ (sameButCodeRest_prepared v freshVictim tc)
  have data := funext window
  rw [oracle, observe, observe, record, context, data]

/-- An event that is no exception and counts towards the cap. -/
def Delivery.uninteresting (delivery : Delivery) : Bool :=
  delivery.event.any fun de => de.info.exceptionRecord.isNone

/-- Events a pump handles and goes on after. -/
structure Interlude (passes : DebugEventInfo → Bool) (before : List Delivery) (n : Nat) : Prop where
  each : ∀ delivery ∈ before, ∃ de, delivery.event = some de ∧ passes de.info = true
  within : n + before.countP Delivery.uninteresting ≤ kMaxUninterestingEvents

/-- A pump comes to an exception that stops a victim, and leaves the rest of the stream. -/
def ReachesStop (passes : DebugEventInfo → Bool) (stopped : ExceptionRecord × Victim)
    (stream rest : List Delivery) : Prop :=
  ∃ before de, stream = before ++ ⟨some de, stopped.2⟩ :: rest ∧
    de.info = .exception stopped.1 ∧ Interlude passes before 0

/-- The pump goes on after an event of this kind. -/
def passesInRun (info : DebugEventInfo) : Bool :=
  info.exceptionRecord.isNone && !endsRun info

/-- Before the sync point other exceptions pass as well. -/
def passesInSpawn (info : DebugEventInfo) : Bool :=
  match info.exceptionRecord with
  | some rec => rec.exceptionCode ≠ EXCEPTION_BREAKPOINT
  | none => !info.isExitProcess

/-- A test case is served: a victim can be had where there is none, and the exception that comes
next is the silicon's. -/
def Served (silicon : Silicon) (spawn : SpawnReplies) (tc : TestCase) (w : World) : Prop :=
  if w.impl.ready then
    ∃ rest, ReachesStop passesInRun (silicon (preparedVictim w.victim tc)) w.stream rest
  else
    CreatesVictim spawn ∧ spawn.virtualAllocEx = kCodeBase ∧
      ∃ rec fresh between rest, rec.exceptionCode = EXCEPTION_BREAKPOINT ∧
        ReachesStop passesInSpawn (rec, fresh) w.stream between ∧
        ReachesStop passesInRun (silicon (preparedVictim (mapPages fresh) tc)) between rest

/-- What is left of an interlude after its first delivery is one. -/
theorem Interlude.tail {passes : DebugEventInfo → Bool} {delivery : Delivery}
    {before : List Delivery} {n : Nat} (interlude : Interlude passes (delivery :: before) n) :
    Interlude passes before (n + if delivery.uninteresting then 1 else 0) where
  each later listed := interlude.each later (List.mem_cons_of_mem _ listed)
  within := by
    have within := interlude.within
    rw [List.countP_cons] at within
    omega

/-- Closing a module's file never fails. -/
theorem wp_closeFile_any {hFile : HANDLE} {bad : String → World → Prop} (w : World) :
    wp (whenOpen hFile (closeHandle .file hFile)) (fun _ _ => True) bad w := by
  rw [whenOpen, wp_ite]
  split
  · trivial
  · trivial

/-- The pump of a test case goes on after an event that passes. -/
theorem wp_handleRunEvent_passes {de : DebugEvent} (passes : passesInRun de.info = true)
    (w : World) : wp (handleRunEvent de) (fun _ _ => True) (fun _ _ => False) w := by
  obtain ⟨serial, processId, threadId, info⟩ := de
  cases info with
  | exception rec => cases passes
  | exitProcess => cases passes
  | rip => cases passes
  | loadDll hFile => exact wp_seq (wp_closeFile_any w) fun _ _ _ => trivial
  | _ => trivial

/-- An exception is reported as it is observed. -/
theorem wp_classify_observe (spawn : SpawnReplies) (de : DebugEvent) (rec : ExceptionRecord)
    (w : World) :
    wp (classify { spawn := spawn } de rec) (fun out _ => out = observe rec w.victim)
      (fun _ _ => False) w := by
  simp only [classify, getThreadContext, readProcessMemory, record, modifyImpl, wp_bind, wp_get,
    wp_modify, wp_pure, ↓reduceIte]
  rfl

/-- The pump passes an interlude and reads off what it stops at. -/
theorem wp_pumpToException_observe (spawn : SpawnReplies) {before rest : List Delivery}
    {de : DebugEvent} {stopped : ExceptionRecord × Victim}
    (exception : de.info = .exception stopped.1) {n : Nat}
    (interlude : Interlude passesInRun before n) (w : World) :
    wp (pumpToException { spawn := spawn } (before ++ ⟨some de, stopped.2⟩ :: rest) n)
      (fun out _ => out = observe stopped.1 stopped.2) (fun _ _ => False) w := by
  induction before generalizing n w with
  | nil =>
      simp only [List.nil_append, pumpToException, waitForDebugEvent, record, wp_bind, wp_get,
        wp_set, wp_modify, wp_pure, Option.map_some, exception, DebugEventInfo.exceptionRecord]
      exact wp_classify_observe spawn _ stopped.1 _
  | cons delivery before ih =>
      obtain ⟨passing, arrived, passes⟩ := interlude.each delivery List.mem_cons_self
      have none_ : passing.info.exceptionRecord = none := by
        apply Option.isNone_iff_eq_none.mp
        exact (Bool.and_eq_true_iff.mp passes).1
      have counts : delivery.uninteresting = true := by
        rw [Delivery.uninteresting, arrived, Option.any_some, none_]
        rfl
      have later := interlude.tail
      rw [counts, if_pos rfl] at later
      have below : ¬ n + 1 > kMaxUninterestingEvents :=
        Nat.not_lt.mpr (le_trans (Nat.le_add_right _ _) later.within)
      simp only [List.cons_append, pumpToException, waitForDebugEvent, record, wp_bind, wp_get,
        wp_set, wp_modify, wp_pure, arrived, Option.map_some, none_, if_neg below]
      have passes : passesInRun { passing with serial := w.obtained }.info = true := passes
      exact wp_mono (fun _ w' _ => ih later w') (fun _ _ => id)
        (wp_handleRunEvent_passes passes _)

/-- Whether the victim is replaced does not change what is reported. -/
theorem wp_respawnHygiene_same (out : LaneOutcome) (w : World) :
    wp (respawnHygiene out) (fun out' _ => out' = out) (fun _ _ => False) w := by
  simp only [respawnHygiene, modifyImpl, wp_bind, wp_get, wp_modify, wp_ite, wp_pure]
  split
  · exact wp_mono (fun _ _ _ => rfl) (fun _ _ => id) (wp_teardown _)
  · trivial

/-- A victim that reaches its stop is reported as it stopped. -/
theorem wp_stepVictim_observe (spawn : SpawnReplies) (tc : TestCase)
    {stopped : ExceptionRecord × Victim} {rest : List Delivery} {w : World} (live : Live w)
    (reaches : ReachesStop passesInRun stopped w.stream rest) :
    wp (stepVictim { spawn := spawn } tc)
      (fun out _ => out = observe stopped.1 stopped.2) (fun _ _ => False) w := by
  rw [stepVictim]
  refine wp_seq (wp_setUpContext_prepares w) fun _ w₁ context => ?_
  refine wp_seq (wp_setUpCode_prepares w₁) fun _ w₂ code => ?_
  refine wp_seq (wp_setUpMemory_prepares w₂) fun _ w₃ memory => ?_
  have prepared := (context.trans code).trans memory
  have live₃ : Live w₃ := ⟨by rw [prepared.impl, live.ready], by rw [prepared.impl, live.pending]⟩
  refine wp_seq (wp_resume live₃) fun _ w₄ resumed => ?_
  obtain ⟨before, de, split_, exception, interlude⟩ := reaches
  rw [wp_bind, wp_get, resumed.stream, prepared.stream, split_]
  refine wp_seq (wp_pumpToException_observe spawn exception interlude w₄) fun out w₅ same => ?_
  rw [← same]
  exact wp_respawnHygiene_same out w₅

/-- The pump of a start goes on after an event that passes. -/
theorem wp_handleSpawnEvent_passes {de : DebugEvent} (none_ : de.info.exceptionRecord = none)
    (passes : passesInSpawn de.info = true) (w : World) :
    wp (handleSpawnEvent de) (fun _ _ => True) (fun _ _ => False) w := by
  obtain ⟨serial, processId, threadId, info⟩ := de
  have store {handle : HANDLE} {f : Impl → Impl} (w : World) :
      wp (whenOpen handle (modifyImpl f)) (fun _ _ => True) (fun _ _ => False) w :=
    wp_mono (fun _ _ _ => trivial) (fun _ _ => id) wp_storeHandle
  cases info with
  | exception rec => cases none_
  | exitProcess => cases passes
  | loadDll hFile => exact wp_seq (wp_closeFile_any w) fun _ _ _ => trivial
  | createProcess hFile hProcess hThread =>
      refine wp_seq (wp_closeFile_any w) fun _ w₁ _ => ?_
      refine wp_seq (store w₁) fun _ w₂ _ => ?_
      exact wp_seq (store w₂) fun _ _ _ => trivial
  | _ => trivial

/-- The pump passes an interlude and parks the breakpoint it stops at. -/
theorem wp_pumpToBreakpoint_stops {before rest : List Delivery} {de : DebugEvent}
    {rec : ExceptionRecord} {fresh : Victim} (exception : de.info = .exception rec)
    (breakpoint : rec.exceptionCode = EXCEPTION_BREAKPOINT) {n : Nat}
    (interlude : Interlude passesInSpawn before n) (w : World) :
    wp (pumpToBreakpoint (before ++ ⟨some de, fresh⟩ :: rest) n)
      (fun _ w' => w'.impl.pendingValid = true ∧ w'.victim = fresh ∧ w'.stream = rest)
      (fun _ _ => False) w := by
  induction before generalizing n w with
  | nil =>
      simp only [List.nil_append, pumpToBreakpoint, waitForDebugEvent, record, modifyImpl, wp_bind,
        wp_get, wp_set, wp_modify, wp_pure, Option.map_some, exception,
        DebugEventInfo.exceptionRecord, breakpoint, ↓reduceIte, and_self]
  | cons delivery before ih =>
      obtain ⟨passing, arrived, passes⟩ := interlude.each delivery List.mem_cons_self
      have later := interlude.tail
      simp only [List.cons_append, pumpToBreakpoint, waitForDebugEvent, record, wp_bind, wp_get,
        wp_set, wp_modify, wp_pure, arrived, Option.map_some]
      cases thrown : passing.info.exceptionRecord with
      | some other =>
          have counts : delivery.uninteresting = false := by
            rw [Delivery.uninteresting, arrived, Option.any_some, thrown]
            rfl
          have others : other.exceptionCode ≠ EXCEPTION_BREAKPOINT := by
            rw [passesInSpawn, thrown] at passes
            exact of_decide_eq_true passes
          rw [counts, if_neg Bool.false_ne_true] at later
          simp only [if_neg others, continueDebugEvent, record, wp_bind, wp_get, wp_modify]
          exact ih later _
      | none =>
          have counts : delivery.uninteresting = true := by
            rw [Delivery.uninteresting, arrived, Option.any_some, thrown]
            rfl
          rw [counts, if_pos rfl] at later
          have below : ¬ n + 1 > kMaxUninterestingEvents :=
            Nat.not_lt.mpr (le_trans (Nat.le_add_right _ _) later.within)
          let held : DebugEvent := { passing with serial := w.obtained }
          have thrown' : held.info.exceptionRecord = none := thrown
          have passes' : passesInSpawn held.info = true := passes
          simp only [if_neg below, wp_bind]
          exact wp_mono (fun _ w' _ => ih later w') (fun _ _ => id)
            (wp_handleSpawnEvent_passes thrown' passes' _)

/-- A victim that is created and mapped arrives at its sync point. -/
theorem wp_spawnFresh_serves {spawn : SpawnReplies} (created : CreatesVictim spawn)
    (mapped : spawn.virtualAllocEx = kCodeBase) {rec : ExceptionRecord} {fresh : Victim}
    (breakpoint : rec.exceptionCode = EXCEPTION_BREAKPOINT) {between : List Delivery} {w : World}
    (tornDown : TornDown w.impl)
    (reaches : ReachesStop passesInSpawn (rec, fresh) w.stream between) :
    wp (spawnFresh spawn)
      (fun _ w' => Live w' ∧ w'.victim = mapPages fresh ∧ w'.stream = between)
      (fun _ _ => False) w := by
  obtain ⟨before, de, split_, exception, interlude⟩ := reaches
  rw [spawnFresh]
  refine wp_seq (wp_teardown_idle tornDown) fun _ w₁ down => ?_
  obtain ⟨tornDown₁, stream₁, -⟩ := down
  refine wp_seq (wp_mono (fun _ _ => id) (fun _ w' failed => absurd created.1 failed.1)
    (wp_buildRestrictedToken spawn w₁)) fun token w₂ built => ?_
  have tornDown₂ : TornDown w₂.impl := built.2.impl ▸ tornDown₁
  refine wp_seq (wp_mono (fun _ _ => id) (fun _ w' failed => absurd created failed.1)
    (wp_launchVictim token built.1 tornDown₂)) fun _ w₃ launched => ?_
  rw [wp_bind, wp_get, launched.2.2, built.2.stream, stream₁, split_]
  refine wp_seq (wp_pumpToBreakpoint_stops exception breakpoint interlude w₃)
    fun _ w₄ synced => ?_
  obtain ⟨pending, victim, stream⟩ := synced
  have given : ¬ (spawn.virtualAllocEx = 0 ∨ spawn.virtualAllocEx ≠ kCodeBase) := by
    rw [mapped]
    decide
  simp only [mapScratch, record, modifyImpl, modifyVictim, wp_bind, wp_get, wp_modify,
    if_neg given]
  exact ⟨⟨rfl, pending⟩, congrArg mapPages victim, stream⟩

/-- A served test case gives what the silicon gives on the victim the session has. -/
theorem runOne_observe {silicon : Silicon} {spawn : SpawnReplies} {tc : TestCase} {w : World}
    (bounded : Bounded w.impl) (served : Served silicon spawn tc w) :
    ∃ v, (runOne { spawn := spawn } tc w).1 =
      observe (silicon (preparedVictim v tc)).1 (silicon (preparedVictim v tc)).2 := by
  have held : ∃ v, wp (runSteps { spawn := spawn } tc)
      (fun out _ => out = observe (silicon (preparedVictim v tc)).1
        (silicon (preparedVictim v tc)).2) (fun _ _ => False) w := by
    rw [Served] at served
    split at served
    · rename_i ready
      obtain ⟨rest, reaches⟩ := served
      refine ⟨w.victim, (wp_bind _ _).mpr ((wp_of_ok (ensureReady_of_ready ready)).mpr ?_)⟩
      exact wp_stepVictim_observe spawn tc (bounded.live ready) reaches
    · rename_i unready
      have unready := Bool.eq_false_iff.mpr unready
      obtain ⟨created, mapped, rec, fresh, between, rest, breakpoint, starts, reaches⟩ := served
      refine ⟨mapPages fresh, wp_seq (wp_ensureReady_unready unready (wp_spawnFresh_serves created
        mapped breakpoint (bounded.tornDown unready) starts)) fun _ w₁ spawned => ?_⟩
      obtain ⟨live, -, stream⟩ := spawned
      have reaches : ReachesStop passesInRun _ w₁.stream rest := stream.symm ▸ reaches
      exact wp_stepVictim_observe spawn tc live reaches
  obtain ⟨v, held⟩ := held
  refine ⟨v, ?_⟩
  rw [runOne]
  split
  · rename_i ended
    exact (wp_of_ok ended).mp held
  · rename_i ended
    exact ((wp_of_error ended).mp held).elim

/-- **The hardware lane is an oracle.** After every run of calls on a session, whatever became of
them, a test case that is served has the outcome the silicon gives it on a victim of its own. -/
theorem runOne_eq_oracle {silicon : Silicon} {spawn : SpawnReplies} {tc : TestCase}
    {victim : Victim} {stream : List Delivery} {trace : List (World × SessionCall)} {w : World}
    (run : Run sessionStep (.initial victim stream) trace w) (own : ReadsOwnCode silicon tc)
    (served : Served silicon spawn tc w) :
    (runOne { spawn := spawn } tc w).1 = oracle silicon tc := by
  obtain ⟨v, same⟩ := runOne_observe (bounded_of_run run) served
  rw [same]
  exact own.observe_eq v

/-- Silicon on which every instruction jumps to itself. -/
def looping : Silicon := fun v => (⟨EXCEPTION_SINGLE_STEP, kCodeBase, 0, fun _ => 0⟩, v)

/-- An event of the first thread of a victim. -/
def ofVictim (info : DebugEventInfo) : DebugEvent :=
  { processId := 100, threadId := 104, info := info }

/-- The events of a victim before its initial breakpoint. -/
def startEvents : List Delivery :=
  [⟨some (ofVictim (.createProcess 0 32 36)), freshVictim⟩,
    ⟨some (ofVictim (.loadDll 40)), freshVictim⟩]

/-- A victim starts and is stepped once. -/
def loopedStream : List Delivery :=
  startEvents ++ ⟨some (ofVictim (.exception ⟨EXCEPTION_BREAKPOINT, 0, 0, fun _ => 0⟩)),
    freshVictim⟩ ::
    [⟨some (ofVictim (.exception (looping freshVictim).1)),
      preparedVictim (mapPages freshVictim) {}⟩]

/-- The processor that loops reads no code at all. -/
theorem looping_readsOwnCode (tc : TestCase) : ReadsOwnCode looping tc := by
  intro v v' same
  refine ⟨rfl, same.context, fun i => ?_⟩
  have held := same.memory _ (dataWindow_inPages i) (.inl (Nat.le_add_right _ _))
  rw [← data_eq_pageByte] at held
  exact held

/-- A session whose first call could not open the token of its process. -/
def deniedWorld : World :=
  (SessionCall.runOne
    { spawn := { SpawnReplies.granted freshVictim with openProcessToken := none } } {}).perform
      (.initial freshVictim loopedStream)

/-- It is served by a session whose victim is still to be started. -/
theorem looping_served : Served looping (.granted freshVictim) {} deniedWorld := by
  have unready : deniedWorld.impl.ready = false := rfl
  have left : deniedWorld.stream = loopedStream := rfl
  have starts : Interlude passesInSpawn startEvents 0 := by
    refine ⟨fun delivery listed => ?_, by decide⟩
    rcases List.mem_pair.mp listed with rfl | rfl
    · exact ⟨_, rfl, rfl⟩
    · exact ⟨_, rfl, rfl⟩
  have atOnce : Interlude passesInRun [] 0 := ⟨List.forall_mem_nil _, by decide⟩
  rw [Served, if_neg (Bool.eq_false_iff.mp unready), left]
  have created : CreatesVictim (.granted freshVictim) := ⟨⟨rfl, rfl, rfl, rfl, rfl⟩, by decide, rfl⟩
  have breaks : ReachesStop passesInSpawn (⟨EXCEPTION_BREAKPOINT, 0, 0, fun _ => 0⟩, freshVictim)
      loopedStream _ := ⟨startEvents, _, rfl, rfl, starts⟩
  exact ⟨created, rfl, _, _, _, [], rfl, breaks, [], _, rfl, rfl, atOnce⟩

/-- A test case after one for which no victim could be had. -/
theorem runOne_eq_oracle_looping :
    (runOne { spawn := .granted freshVictim } {} deniedWorld).1 = oracle looping {} := by
  have run : Run sessionStep (.initial freshVictim loopedStream) _ deniedWorld := Run.nil.snoc rfl
  exact runOne_eq_oracle run (looping_readsOwnCode {}) looping_served

end SevenFuzzer
