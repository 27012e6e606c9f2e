import SevenFuzzer.Hardware.EventLedger
import SevenFuzzer.Library.Run

/-! # The debug-event protocol over sequences of calls

`settled_throughout_iff` says in which runs of a session the ledger of debug
events is settled at every call boundary: in those in which no call gives a
victim up while an event is parked or in hand. Ending a victim drains what the
debugger has still to deliver, but never continues the event the session holds.
-/

namespace SevenFuzzer

open Command Transition

/-- A ready session: the victim is stopped at the parked event. -/
structure Live (w : World) : Prop where
  ready : w.impl.ready = true
  pending : w.impl.pendingValid = true

/-- A victim stays live while the session stays as it is. -/
theorem Live.unmoved {w w' : World} (live : Live w) (same : Unmoved w w') : Live w' where
  ready := by rw [same.impl, live.ready]
  pending := by rw [same.impl, live.pending]

/-- In a settled session the parked event is the one outstanding. -/
theorem Live.parked {w : World} (live : Live w) (settled : Settled w) :
    ledgerOf w.log = ⟨[w.impl.pendingEvent.serial], true⟩ := by
  rwa [Settled, live.pending] at settled

/-- A session is settled when its parked event is the one outstanding. -/
theorem Live.settled {w : World} (live : Live w)
    (parked : ledgerOf w.log = ⟨[w.impl.pendingEvent.serial], true⟩) : Settled w := by
  rw [Settled, live.pending]
  exact parked

/-- A session that stays as it is stays settled. -/
theorem Unmoved.settled {w w' : World} (same : Unmoved w w') (settled : Settled w) :
    Settled w' := by
  rw [Settled, same.impl, same.ledger]
  exact settled

/-- The victim has been given up with its event parked. -/
structure Lost (w w' : World) : Prop where
  tornDown : TornDown w'.impl
  owing : Settled w → ¬ Settled w'

/-- A test case on a live victim that gives it up with an event parked or in hand:
a checked call before the step fails, the pump reaches its cap, or the exception
is a fault or the last step before the victim is replaced. -/
def RunDrops (r : RunReplies) (tc : TestCase) (steps : BitVec 64) (stream : List Delivery) :
    Prop :=
  r.getThreadContext = false ∨ r.setThreadContext = false ∨
    (tc.bytes ≠ [] ∧ r.writeCode = false) ∨ (exceptionPumpEnd stream 0).1 = .capped ∨
    ∃ rec, (exceptionPumpEnd stream 0).1 = .stopped rec ∧
      (mapException rec ≠ .ok ∨ kRespawnEvery ≤ steps + 1)

/-- A live victim that is given up has its parked event lost. -/
theorem Live.lost {w w' : World} {log : List Call} (live : Live w)
    (same : ledgerOf log = ledgerOf w.log) (givenUp : GivenUp log w') : Lost w w' :=
  ⟨givenUp.tornDown, fun settled => givenUp.not_settled (same.trans (live.parked settled))⟩

/-- The context is set without touching the ledger, or the victim is given up. -/
theorem wp_setUpContext (r : RunReplies) (tc : TestCase) {w : World} (live : Live w) :
    wp (setUpContext r tc)
      (fun _ w' => (r.getThreadContext = true ∧ r.setThreadContext = true) ∧ Unmoved w w')
      (fun _ w' => (r.getThreadContext = false ∨ r.setThreadContext = false) ∧ Lost w w') w := by
  simp only [setUpContext, getThreadContext, setThreadContext, record, wp_bind, wp_get, wp_modify,
    wp_pure]
  cases got : r.getThreadContext with
  | false =>
      simp only [Bool.false_eq_true, ↓reduceIte]
      exact wp_tearDownWith _ fun _ givenUp =>
        ⟨.inl trivial, live.lost (by simp [EventLedger.post]) givenUp⟩
  | true =>
      cases stored : r.setThreadContext with
      | false =>
          simp only [↓reduceIte, wp_bind, wp_modify, wp_pure, Bool.false_eq_true, not_false_eq_true]
          exact wp_tearDownWith _ fun _ givenUp =>
            ⟨.inr trivial, live.lost (by simp [EventLedger.post]) givenUp⟩
      | true =>
          simp only [↓reduceIte, wp_bind, wp_modify, wp_pure, modifyVictim, not_true_eq_false]
          exact ⟨⟨trivial, trivial⟩, rfl, rfl, by simp [EventLedger.post]⟩

/-- A write does not touch the ledger. -/
theorem wp_writeProcessMemory {process : HANDLE} {address : BitVec 64} {bytes : List (BitVec 8)}
    {ok : Bool} {w : World} {good : Bool → World → Prop} {bad : String → World → Prop}
    (moved : ∀ w', Unmoved w w' → good ok w') :
    wp (writeProcessMemory process address bytes ok) good bad w := by
  simp only [writeProcessMemory, record, modifyVictim, wp_bind, wp_modify, wp_ite, wp_pure]
  split <;> exact moved _ ⟨rfl, rfl, by simp [EventLedger.post]⟩

/-- Nor does the write of the code, unless it is refused and the victim given up. -/
theorem wp_setUpCode (r : RunReplies) (tc : TestCase) {w : World} (live : Live w) :
    wp (setUpCode r tc) (fun _ w' => ¬ (tc.bytes ≠ [] ∧ r.writeCode = false) ∧ Unmoved w w')
      (fun _ w' => (tc.bytes ≠ [] ∧ r.writeCode = false) ∧ Lost w w') w := by
  rw [setUpCode, wp_ite]
  split
  · rename_i empty
    exact ⟨fun failed => failed.1 empty, rfl, rfl, rfl⟩
  · rename_i nonempty
    rw [wp_bind, wp_get, wp_bind]
    refine wp_writeProcessMemory fun w₁ same => ?_
    rw [wp_ite]
    split
    · rename_i failed
      exact wp_tearDownWith _ fun _ givenUp => ⟨⟨nonempty, Bool.eq_false_iff.mpr failed⟩,
        live.lost same.ledger givenUp⟩
    · rename_i written
      exact ⟨fun failed => written (Bool.eq_false_iff.mp failed.2), same⟩

/-- Nor do the writes of data and stack. -/
theorem wp_setUpMemory (r : RunReplies) (tc : TestCase) (w : World) :
    wp (setUpMemory r tc) (fun _ w' => Unmoved w w') (fun _ _ => False) w := by
  have step : ∀ {process address bytes ok} {w₁ : World}, Unmoved w w₁ →
      wp (discard (writeProcessMemory process address bytes ok)) (fun _ w' => Unmoved w w')
        (fun _ _ => False) w₁ := fun {_ _ _ _ w₁} same =>
    (wp_discard _).mpr (wp_writeProcessMemory fun w' same' =>
      ⟨same'.impl.trans same.impl, same'.stream.trans same.stream, same'.ledger.trans same.ledger⟩)
  rw [setUpMemory, wp_bind, wp_get]
  refine wp_seq (step ⟨rfl, rfl, rfl⟩) fun _ _ same => ?_
  refine wp_seq (step same) fun _ _ same => ?_
  refine wp_seq (step same) fun _ _ same => ?_
  exact step same

/-- The victim runs: nothing is parked, and a settled ledger owes nothing. -/
structure Resumed (w w' : World) : Prop where
  ready : w'.impl.ready = w.impl.ready
  steps : w'.impl.stepsSinceRespawn = w.impl.stepsSinceRespawn
  stream : w'.stream = w.stream
  clear : Settled w → ledgerOf w'.log = ⟨[], true⟩

/-- The parked event is continued. -/
theorem wp_resume {w : World} (live : Live w) :
    wp resume (fun _ w' => Resumed w w') (fun _ _ => False) w := by
  simp only [resume, continueDebugEvent, record, modifyImpl, wp_bind, wp_get, wp_modify,
    live.pending, ↓reduceIte]
  exact ⟨rfl, rfl, rfl, fun settled => ledgerOf_continue w.victim (live.parked settled)⟩

/-- How a call leaves the session: with a victim or without, and with a settled
ledger, if it was settled, unless the call drops an event. -/
structure CallEnd (before : World) (drops : Prop) (w : World) : Prop where
  bounded : Bounded w.impl
  settled : Settled before → (Settled w ↔ ¬ drops)

/-- A call that lost the parked event ends with an event dropped. -/
theorem Lost.callEnd {before w w' : World} {drops : Prop} (lost : Lost w w')
    (kept : Settled before → Settled w) (dropped : drops) : CallEnd before drops w' := by
  refine ⟨?_, fun settled => iff_of_false (lost.owing (kept settled)) (not_not_intro dropped)⟩
  rw [Bounded, lost.tornDown.ready]
  exact lost.tornDown

/-- A call that left a live victim ends with none dropped. -/
theorem Live.callEnd {before w : World} {drops : Prop} (live : Live w)
    (kept : Settled before → Settled w) (keeps : ¬ drops) : CallEnd before drops w := by
  refine ⟨?_, fun settled => iff_of_true (kept settled) keeps⟩
  rw [Bounded, live.ready]
  exact live.pending

/-- How a call ended depends on the start only through its being settled. -/
theorem CallEnd.congr {before before' w : World} {drops drops' : Prop}
    (ended : CallEnd before drops w) (kept : Settled before' → Settled before)
    (same : drops ↔ drops') : CallEnd before' drops' w :=
  ⟨ended.bounded, fun settled => (ended.settled (kept settled)).trans (not_congr same)⟩

/-- The event that ended a test case is dropped exactly when the victim is replaced. -/
theorem wp_respawnHygiene (out : LaneOutcome) {w : World} (live : Live w) :
    wp (respawnHygiene out)
      (fun out' w' => out' = out ∧
        CallEnd w (out.stop ≠ .ok ∨ kRespawnEvery ≤ w.impl.stepsSinceRespawn + 1) w')
      (fun _ _ => False) w := by
  simp only [respawnHygiene, modifyImpl, wp_bind, wp_get, wp_modify, wp_ite, wp_pure]
  split
  · rename_i ends
    refine wp_mono (fun _ w' down => ⟨rfl, ?_⟩) (fun _ _ => id) (wp_teardown _)
    exact (live.lost rfl down).callEnd id ends
  · rename_i stays
    exact ⟨trivial, Live.callEnd ⟨live.ready, live.pending⟩ id stays⟩

/-- A pump that gave up dropped an event exactly if it was capped. -/
theorem PumpGaveUp.callEnd {before w₀ w : World} {ended : PumpEnd} {drops : Prop}
    (gaveUp : PumpGaveUp (ledgerOf w₀.log) ended w)
    (clear : Settled before → ledgerOf w₀.log = ⟨[], true⟩) (capped : drops ↔ ended = .capped) :
    CallEnd before drops w := by
  refine ⟨?_, fun settled => ?_⟩
  · rw [Bounded, gaveUp.tornDown.ready]
    exact gaveUp.tornDown
  · rw [capped]
    rw [clear settled] at gaveUp
    exact gaveUp.settled_iff

/-- How a step on a live victim ends. -/
theorem wp_stepVictim (r : RunReplies) (tc : TestCase) {w : World} (live : Live w) :
    wp (stepVictim r tc)
      (fun _ w' => CallEnd w (RunDrops r tc w.impl.stepsSinceRespawn w.stream) w')
      (fun _ w' => CallEnd w (RunDrops r tc w.impl.stepsSinceRespawn w.stream) w') w := by
  rw [stepVictim]
  refine wp_seq (wp_mono (fun _ _ => id) (fun _ _ failed => ?_) (wp_setUpContext r tc live))
    fun _ w₁ set => ?_
  · exact failed.2.callEnd id (failed.1.imp id .inl)
  obtain ⟨⟨got, stored⟩, same₁⟩ := set
  have live₁ := live.unmoved same₁
  refine wp_seq (wp_mono (fun _ _ => id) (fun _ _ failed => ?_) (wp_setUpCode r tc live₁))
    fun _ w₂ written => ?_
  · exact failed.2.callEnd same₁.settled (.inr (.inr (.inl failed.1)))
  obtain ⟨written, same₂⟩ := written
  have live₂ := live₁.unmoved same₂
  refine wp_seq (wp_mono (fun _ _ => id) (fun _ _ => False.elim) (wp_setUpMemory r tc w₂))
    fun _ w₃ same₃ => ?_
  refine wp_seq (wp_mono (fun _ _ => id) (fun _ _ => False.elim)
    (wp_resume (live₂.unmoved same₃))) fun _ w₄ resumed => ?_
  have clear : Settled w → ledgerOf w₄.log = ⟨[], true⟩ := fun settled =>
    resumed.clear (same₃.settled (same₂.settled (same₁.settled settled)))
  have stream : w₄.stream = w.stream := by
    rw [resumed.stream, same₃.stream, same₂.stream, same₁.stream]
  have steps : w₄.impl.stepsSinceRespawn = w.impl.stepsSinceRespawn := by
    rw [resumed.steps, same₃.impl, same₂.impl, same₁.impl]
  have ready : w₄.impl.ready = true := by
    rw [resumed.ready, same₃.impl, live₂.ready]
  have checked : RunDrops r tc w.impl.stepsSinceRespawn w.stream ↔
      (exceptionPumpEnd w.stream 0).1 = .capped ∨
      ∃ rec, (exceptionPumpEnd w.stream 0).1 = .stopped rec ∧
        (mapException rec ≠ .ok ∨ kRespawnEvery ≤ w.impl.stepsSinceRespawn + 1) := by
    simp [RunDrops, got, stored, written]
  rw [wp_bind, wp_get, stream]
  refine wp_seq (wp_mono (fun _ _ => id) (fun _ _ gaveUp => gaveUp.callEnd clear (checked.trans
    (or_iff_left fun ⟨rec, stopped, _⟩ => gaveUp.not_stopped rec stopped)))
    (wp_pumpToException r w.stream 0 w₄)) fun out w₅ stopped => ?_
  obtain ⟨rec, ended, stop⟩ := stopped.exception
  have live₅ : Live w₅ := ⟨stopped.ready.trans ready, stopped.pending⟩
  refine wp_mono (fun _ w' after => after.2.congr (fun settled => live₅.settled ?_) ?_)
    (fun _ _ => False.elim) (wp_respawnHygiene out live₅)
  · rw [stopped.parked, clear settled]
    rfl
  · rw [checked, stop, stopped.steps, steps]
    simp [ended]

/-- The calls that give a victim up while an event is parked or in hand. -/
def DropsEvent (w : World) : SessionCall → Prop
  | .start _ r => w.impl.ready = false ∧ SpawnDrops r w.stream
  | .runOne r tc =>
      if w.impl.ready then RunDrops r tc w.impl.stepsSinceRespawn w.stream
      else SpawnDrops r.spawn w.stream ∨ (SpawnSucceeds r.spawn w.stream ∧
        RunDrops r tc 0 (breakpointPumpEnd w.stream 0).2)
  | .shutdown => w.impl.ready = true

/-- How a call ends is how its program ends, returning or throwing. -/
theorem callEnd_perform {before : World} {drops : Prop} {α : Type} {prog : Session α} {w : World}
    (held : wp prog (fun _ w' => CallEnd before drops w') (fun _ w' => CallEnd before drops w') w) :
    CallEnd before drops (worldAfter prog w) := by
  rw [worldAfter]
  cases ended : prog w with
  | ok value w' => exact (wp_of_ok ended).mp held
  | error error w' => exact (wp_of_error ended).mp held

/-- `run_one` leaves what its body leaves. -/
theorem runOne_world (r : RunReplies) (tc : TestCase) (w : World) :
    (runOne r tc w).2 = worldAfter (runSteps r tc) w := by
  rw [runOne, worldAfter]
  cases runSteps r tc w <;> rfl

/-- A ready session has a live victim. -/
theorem Bounded.live {w : World} (bounded : Bounded w.impl) (ready : w.impl.ready = true) :
    Live w := by
  rw [Bounded, if_pos ready] at bounded
  exact ⟨ready, bounded⟩

/-- A session that is not ready has none. -/
theorem Bounded.tornDown {w : World} (bounded : Bounded w.impl)
    (unready : w.impl.ready = false) : TornDown w.impl := by
  rwa [Bounded, unready, if_neg Bool.false_ne_true] at bounded

/-- Without a victim, settled means that nothing is outstanding. -/
theorem TornDown.clear {w : World} (tornDown : TornDown w.impl) (settled : Settled w) :
    ledgerOf w.log = ⟨[], true⟩ := by
  rw [Settled, tornDown.pending] at settled
  exact settled

/-- A victim that was started is live. -/
theorem Spawned.live {ledger : EventLedger} {r : SpawnReplies} {stream : List Delivery} {w : World}
    (spawned : Spawned ledger r stream w) : Live w :=
  ⟨spawned.ready, spawned.pending⟩

/-- And its sync event is the one outstanding. -/
theorem Spawned.settled {ledger : EventLedger} {r : SpawnReplies} {stream : List Delivery}
    {w : World} (spawned : Spawned ledger r stream w) (clear : ledger = ⟨[], true⟩) :
    Settled w := by
  refine spawned.live.settled ?_
  rw [spawned.parked, clear]
  rfl

/-- A start that succeeds drops nothing. -/
theorem SpawnSucceeds.not_drops {r : SpawnReplies} {stream : List Delivery}
    (succeeds : SpawnSucceeds r stream) : ¬ SpawnDrops r stream := by
  obtain ⟨_, ⟨rec, stopped⟩, mapped⟩ := succeeds
  rintro ⟨_, capped | ⟨_, unmapped⟩⟩
  · simp [capped] at stopped
  · exact unmapped mapped

/-- A start that fails drops what its pump dropped. -/
theorem NotSpawned.callEnd {before : World} {r : SpawnReplies} {stream : List Delivery} {w : World}
    {ledger : EventLedger} {drops : Prop} (failed : NotSpawned ledger r stream w)
    (clear : Settled before → ledger = ⟨[], true⟩) (same : drops ↔ SpawnDrops r stream) :
    CallEnd before drops w := by
  refine ⟨?_, fun settled => (failed.settled (clear settled)).trans (not_congr same.symm)⟩
  rw [Bounded, failed.tornDown.ready]
  exact failed.tornDown

/-- A victim that is ready is kept. -/
theorem ensureReady_of_ready {r : SpawnReplies} {w : World} (ready : w.impl.ready = true) :
    ensureReady r w = .ok () w := by
  have asked : ensureReady r w =
      (if w.impl.ready = true then pure () else spawnFresh r : Session Unit) w := rfl
  rw [asked, if_pos ready]
  rfl

/-- Otherwise a new one is started. -/
theorem wp_ensureReady_unready {r : SpawnReplies} {w : World} {good : Unit → World → Prop}
    {bad : String → World → Prop} (unready : w.impl.ready = false)
    (held : wp (spawnFresh r) good bad w) : wp (ensureReady r) good bad w := by
  rw [ensureReady, wp_bind, wp_get, wp_ite, if_neg (by rw [unready]; exact Bool.false_ne_true)]
  exact held

/-- What one call makes of a session and its ledger. -/
theorem perform_callEnd (w : World) (call : SessionCall) (bounded : Bounded w.impl) :
    CallEnd w (DropsEvent w call) (call.perform w) := by
  cases call with
  | start victimPath r =>
      refine callEnd_perform ?_
      rw [SevenFuzzer.start, modifyImpl, wp_bind, wp_modify]
      by_cases ready : w.impl.ready = true
      · have live := bounded.live ready
        refine (wp_of_ok (ensureReady_of_ready ?_)).mpr ?_
        · exact ready
        refine Live.callEnd ⟨ready, live.pending⟩ id fun drops => ?_
        exact absurd drops.1 (Bool.not_eq_false _ ▸ ready)
      · rw [Bool.not_eq_true] at ready
        have tornDown := bounded.tornDown ready
        have drops : DropsEvent w (.start victimPath r) ↔ SpawnDrops r w.stream :=
          and_iff_right ready
        refine wp_ensureReady_unready ready (wp_mono (fun _ w' spawned => ?_)
          (fun _ w' failed => failed.callEnd tornDown.clear drops) (wp_spawnFresh r
            ⟨ready, tornDown.pending, tornDown.job, tornDown.process, tornDown.thread⟩))
        exact spawned.live.callEnd (fun settled => spawned.settled (tornDown.clear settled))
          fun dropped => spawned.succeeded.not_drops (drops.mp dropped)
  | runOne r tc =>
      rw [SessionCall.perform, runOne_world]
      refine callEnd_perform ?_
      rw [runSteps, wp_bind]
      by_cases ready : w.impl.ready = true
      · refine (wp_of_ok (ensureReady_of_ready ready)).mpr ?_
        have held := wp_stepVictim r tc (bounded.live ready)
        simpa only [DropsEvent, ready, ↓reduceIte] using held
      · rw [Bool.not_eq_true] at ready
        have tornDown := bounded.tornDown ready
        simp only [DropsEvent, ready, Bool.false_eq_true, ↓reduceIte]
        refine wp_ensureReady_unready ready (wp_mono (fun _ w₁ spawned => ?_)
          (fun _ w' failed => failed.callEnd tornDown.clear
            (or_iff_left fun both => failed.failed both.1)) (wp_spawnFresh r.spawn tornDown))
        have held := wp_stepVictim r tc spawned.live
        rw [spawned.steps, spawned.stream] at held
        have same : RunDrops r tc 0 (breakpointPumpEnd w.stream 0).2 ↔
            SpawnDrops r.spawn w.stream ∨ (SpawnSucceeds r.spawn w.stream ∧
              RunDrops r tc 0 (breakpointPumpEnd w.stream 0).2) := by
          rw [or_iff_right spawned.succeeded.not_drops, and_iff_right spawned.succeeded]
        have kept : Settled w → Settled w₁ := fun settled =>
          spawned.settled (tornDown.clear settled)
        exact wp_mono (fun _ _ ended => ended.congr kept same)
          (fun _ _ ended => ended.congr kept same) held
  | shutdown =>
      refine callEnd_perform ?_
      refine wp_mono (fun _ w' down => ?_) (fun _ _ => False.elim) (wp_teardown w)
      by_cases ready : w.impl.ready = true
      · exact ((bounded.live ready).lost rfl down).callEnd id ready
      · rw [Bool.not_eq_true] at ready
        refine ⟨?_, fun settled => iff_of_true ?_ (Bool.eq_false_iff.mp ready)⟩
        · rw [Bounded, down.tornDown.ready]
          exact down.tornDown
        · exact down.settled ((bounded.tornDown ready).clear settled)

/-- A session is a machine whose events are the calls made on it. -/
def sessionStep (w : World) (call : SessionCall) : Option World :=
  some (call.perform w)

/-- A session that has just been constructed. -/
def World.initial (victim : Victim) (stream : List Delivery) : World :=
  { victim := victim, stream := stream }

/-- Between two calls a session is live or torn down. -/
theorem bounded_of_run {victim : Victim} {stream : List Delivery}
    {trace : List (World × SessionCall)} {final : World}
    (run : Run sessionStep (.initial victim stream) trace final) : Bounded final.impl := by
  have fresh : TornDown (World.initial victim stream).impl := ⟨rfl, rfl, rfl, rfl, rfl⟩
  apply run.invariant fun w => Bounded w.impl
  · exact fresh
  · intro w call next bounded moved
    have performed : call.perform w = next := Option.some.inj moved
    rw [← performed]
    exact (perform_callEnd w call bounded).bounded

/-- In a run of calls on a session, the ledger is settled at every call boundary
if and only if no call drops an event. -/
theorem settled_throughout_iff {victim : Victim} {stream : List Delivery}
    {trace : List (World × SessionCall)} {final : World}
    (run : Run sessionStep (.initial victim stream) trace final) :
    ((∀ moment ∈ trace, Settled moment.1) ∧ Settled final) ↔
      ∀ moment ∈ trace, ¬ DropsEvent moment.1 moment.2 := by
  induction run with
  | nil => exact iff_of_true ⟨List.forall_mem_nil _, rfl⟩ (List.forall_mem_nil _)
  | @snoc trace w call next reached moved ih =>
      have performed : call.perform w = next := Option.some.inj moved
      subst performed
      rw [List.forall_mem_append, List.forall_mem_append, List.forall_mem_singleton,
        List.forall_mem_singleton, ← ih]
      exact and_congr_right fun settled =>
        (perform_callEnd w call (bounded_of_run reached)).settled settled.2

instance (w : World) : Decidable (Settled w) := inferInstanceAs (Decidable (_ = _))

/-- A victim before it has run. -/
def freshVictim : Victim where
  context := ⟨0, 0, 0, 0, 0, 0, 0, 0, 0, 0, 0, 0, 0, 0, 0, 0, 0, 0,
    ⟨0, 0, 0, fun _ => 0, fun _ => ⟨0, 0⟩⟩⟩
  memory _ := 0

/-- The events of a victim that starts and whose first step ends in an exception. -/
def firstStepStream (exceptionCode : BitVec 32) : List Delivery :=
  [.createProcess 0 32 36, .exception ⟨EXCEPTION_BREAKPOINT, 0, 0, fun _ => 0⟩,
    .exception ⟨exceptionCode, 0, 0, fun _ => 0⟩].map fun info =>
      ⟨some { processId := 100, threadId := 104, info := info }, freshVictim⟩

/-- A start and one test case on it, every call granted. -/
def firstStepCalls : List SessionCall :=
  [.start "victim.exe" (.granted freshVictim), .runOne { spawn := .granted freshVictim } {}]

/-- A first test case that ends in a single step. -/
theorem settled_throughout_single_step :
    ∃ trace final, Run sessionStep (.initial freshVictim (firstStepStream EXCEPTION_SINGLE_STEP))
        trace final ∧
      (((∀ moment ∈ trace, Settled moment.1) ∧ Settled final) ↔
        ∀ moment ∈ trace, ¬ DropsEvent moment.1 moment.2) := by
  have run : Run sessionStep _ _ _ := .of_play
    (.initial freshVictim (firstStepStream EXCEPTION_SINGLE_STEP)) firstStepCalls rfl
  exact ⟨_, _, run, settled_throughout_iff run⟩

/-- A first test case that faults: its event is parked and then never continued. -/
theorem settled_throughout_fault :
    ∃ trace final, Run sessionStep (.initial freshVictim
        (firstStepStream EXCEPTION_ILLEGAL_INSTRUCTION)) trace final ∧ ¬ Settled final := by
  refine ⟨_, _, .of_play _ firstStepCalls rfl, ?_⟩
  decide

end SevenFuzzer
