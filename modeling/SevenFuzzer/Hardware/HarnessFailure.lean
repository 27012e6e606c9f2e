import SevenFuzzer.Hardware.Quiet

/-! # Harness failures and outcomes

`run_one` transfers the state of a test case to the victim and back with a dozen
calls. `harness_failure_iff` says when an outcome whose set-up is reported as
sound really rests on all of them: the calls whose replies are looked at never
fail behind such an outcome, the others do. What transfers state is read off the
log, which the rest of the session's code only adds other calls to (`SevenFuzzer.Quiet`).
-/

namespace SevenFuzzer

open Command Transition

/-- A page of zero bytes. -/
def zeroPage : List (BitVec 8) := List.replicate kPageSize 0#8

/-- The write of the code, which is left out when there is none. -/
def codeTransfers (process : HANDLE) (tc : TestCase) : List Call :=
  if tc.bytes = [] then [] else [.writeProcessMemory process kCodeBase tc.bytes true]

/-- The transfers of a test case when every one of them succeeds. -/
def completeTransfers (tc : TestCase) (thread process : HANDLE) (ctx : Context) : List Call :=
  .getThreadContext thread true :: .setThreadContext thread ctx true :: codeTransfers process tc ++
    [.writeProcessMemory process kDataBase zeroPage true,
      .writeProcessMemory process kStackBase zeroPage true,
      .writeProcessMemory process kDataBase (List.ofFn tc.dataSeed) true,
      .writeProcessMemory process kStackTop (littleEndian 8 kCodeBase) true,
      .getThreadContext thread true, .readProcessMemory process kDataBase kDataWindow true]

/-- The context and the code were set, the pages, the seed and the return address
were written, and the context and the window were read back, all of them with success. -/
def HarnessDone (tc : TestCase) (before after : World) : Prop :=
  ∃ thread process ctx, after.transfers = before.transfers ++ completeTransfers tc thread
    process ctx

/-- The writes of the data window and the stack, in the order they are made. -/
def memoryTransfers (r : RunReplies) (process : HANDLE) (tc : TestCase) : List Call :=
  [.writeProcessMemory process kDataBase zeroPage r.writeZeroData,
    .writeProcessMemory process kStackBase zeroPage r.writeZeroStack,
    .writeProcessMemory process kDataBase (List.ofFn tc.dataSeed) r.writeSeed,
    .writeProcessMemory process kStackTop (littleEndian 8 kCodeBase) r.writeRetaddr]

/-- The two reads of the state a test case left. -/
def readTransfers (r : RunReplies) (thread process : HANDLE) : List Call :=
  [.getThreadContext thread r.getThreadContextAfter,
    .readProcessMemory process kDataBase kDataWindow r.readProcessMemory]

/-- The calls whose replies `run_one` does not act on. -/
def UncheckedSucceed (r : RunReplies) : Prop :=
  r.writeZeroData = true ∧ r.writeZeroStack = true ∧ r.writeSeed = true ∧ r.writeRetaddr = true ∧
    r.getThreadContextAfter = true ∧ r.readProcessMemory = true

/-- The transfers that were made say which replies were granted. -/
theorem harnessDone_iff {r : RunReplies} {tc : TestCase} {before after : World}
    (thread process : HANDLE) (ctx : Context)
    (made : after.transfers = before.transfers ++
      ([.getThreadContext thread true, .setThreadContext thread ctx true] ++
        codeTransfers process tc ++ memoryTransfers r process tc ++
        readTransfers r thread process)) :
    HarnessDone tc before after ↔ UncheckedSucceed r := by
  constructor
  · rintro ⟨thread', process', ctx', done⟩
    have same := List.append_cancel_left (made.symm.trans done)
    by_cases empty : tc.bytes = []
    · simp [completeTransfers, codeTransfers, memoryTransfers, readTransfers, empty] at same
      obtain ⟨-, -, ⟨-, zeroData⟩, ⟨-, zeroStack⟩, ⟨-, seed⟩, ⟨-, retaddr⟩, ⟨-, context⟩, -,
        window⟩ := same
      exact ⟨zeroData, zeroStack, seed, retaddr, context, window⟩
    · simp [completeTransfers, codeTransfers, memoryTransfers, readTransfers, empty] at same
      obtain ⟨-, -, -, ⟨-, zeroData⟩, ⟨-, zeroStack⟩, ⟨-, seed⟩, ⟨-, retaddr⟩, ⟨-, context⟩, -,
        window⟩ := same
      exact ⟨zeroData, zeroStack, seed, retaddr, context, window⟩
  · rintro ⟨zeroData, zeroStack, seed, retaddr, context, window⟩
    refine ⟨thread, process, ctx, made.trans ?_⟩
    simp [completeTransfers, memoryTransfers, readTransfers, zeroData, zeroStack, seed, retaddr,
      context, window]

/-- The two transfers of the context, both granted. -/
theorem wp_setUpContext_transfers (r : RunReplies) (tc : TestCase) (w : World) :
    wp (setUpContext r tc)
      (fun _ w' => ∃ ctx, w'.transfers = w.transfers ++
        [.getThreadContext w.impl.thread true, .setThreadContext w.impl.thread ctx true])
      (fun _ _ => True) w := by
  simp only [setUpContext, getThreadContext, setThreadContext, record, wp_bind, wp_get, wp_modify,
    wp_pure]
  cases got : r.getThreadContext with
  | false =>
      simp only [Bool.false_eq_true, ↓reduceIte]
      exact wp_tearDownWith _ fun _ _ => trivial
  | true =>
      cases stored : r.setThreadContext with
      | false =>
          simp only [↓reduceIte, wp_bind, wp_modify, wp_pure, Bool.false_eq_true, not_false_eq_true]
          exact wp_tearDownWith _ fun _ _ => trivial
      | true =>
          simp only [↓reduceIte, wp_bind, wp_modify, wp_pure, modifyVictim, not_true_eq_false]
          refine ⟨contextFor w.victim.context tc, ?_⟩
          simp [World.transfers, Call.isTransfer]

/-- A write is one transfer. -/
theorem wp_writeProcessMemory_transfers {process : HANDLE} {address : BitVec 64}
    {bytes : List (BitVec 8)} {ok : Bool} {w : World} {good : Bool → World → Prop}
    {bad : String → World → Prop}
    (made : ∀ w', w'.transfers = w.transfers ++ [.writeProcessMemory process address bytes ok] →
      good ok w') :
    wp (writeProcessMemory process address bytes ok) good bad w := by
  simp only [writeProcessMemory, record, modifyVictim, wp_bind, wp_modify, wp_ite, wp_pure]
  split <;> exact made _ (by simp [World.transfers, Call.isTransfer])

/-- The transfer of the code. -/
theorem wp_setUpCode_transfers (r : RunReplies) (tc : TestCase) (w : World) :
    wp (setUpCode r tc)
      (fun _ w' => w'.transfers = w.transfers ++ codeTransfers w.impl.process tc)
      (fun _ _ => True) w := by
  rw [setUpCode, wp_ite, codeTransfers]
  split
  · exact (List.append_nil _).symm
  · rw [wp_bind, wp_get, wp_bind]
    refine wp_writeProcessMemory_transfers fun w₁ made => ?_
    rw [wp_ite]
    split
    · exact wp_tearDownWith _ fun _ _ => trivial
    · rename_i written
      rw [Bool.not_eq_true, Bool.not_eq_false] at written
      rw [written] at made
      exact made

/-- The transfers of data and stack, granted or not. -/
theorem wp_setUpMemory_transfers (r : RunReplies) (tc : TestCase) (w : World) :
    wp (setUpMemory r tc)
      (fun _ w' => w'.transfers = w.transfers ++ memoryTransfers r w.impl.process tc)
      (fun _ _ => False) w := by
  have step : ∀ {process address bytes ok} (w₁ : World),
      wp (discard (writeProcessMemory process address bytes ok))
        (fun _ w' => w'.transfers = w₁.transfers ++ [.writeProcessMemory process address bytes ok])
        (fun _ _ => False) w₁ := fun {_ _ _ _} w₁ =>
    (wp_discard _).mpr (wp_writeProcessMemory_transfers fun _ => id)
  rw [setUpMemory, wp_bind, wp_get]
  refine wp_seq (step w) fun _ w₁ zeroData => ?_
  refine wp_seq (step w₁) fun _ w₂ zeroStack => ?_
  refine wp_seq (step w₂) fun _ w₃ seed => ?_
  refine wp_mono (fun _ w₄ retaddr => ?_) (fun _ _ => id) (step w₃)
  rw [retaddr, seed, zeroStack, zeroData]
  simp [memoryTransfers, zeroPage]

/-- The two transfers that read the outcome, granted or not. -/
theorem wp_classify_transfers (r : RunReplies) (de : DebugEvent) (rec : ExceptionRecord)
    (w : World) :
    wp (classify r de rec)
      (fun _ w' => w'.transfers = w.transfers ++ readTransfers r w.impl.thread w.impl.process)
      (fun _ _ => False) w := by
  simp only [classify, getThreadContext, readProcessMemory, record, modifyImpl, wp_bind, wp_get,
    wp_modify, wp_pure]
  simp [World.transfers, Call.isTransfer, readTransfers]

/-- The pump makes the transfers of the exception it ends with and no others. -/
theorem wp_pumpToException_transfers (r : RunReplies) (stream : List Delivery) (n : Nat)
    (w : World) :
    wp (pumpToException r stream n)
      (fun _ w' => w'.transfers = w.transfers ++ readTransfers r w.impl.thread w.impl.process)
      (fun _ _ => True) w := by
  induction stream generalizing n w with
  | nil =>
      simp only [pumpToException, waitForNothing, record, wp_bind, wp_modify]
      exact wp_tearDownWith _ fun _ _ => trivial
  | cons delivery rest ih =>
      simp only [pumpToException, waitForDebugEvent, record, wp_bind, wp_get, wp_set, wp_modify,
        wp_pure]
      cases arrived : delivery.event with
      | none =>
          simp only [Option.map_none]
          exact wp_tearDownWith _ fun _ _ => trivial
      | some de =>
          simp only [Option.map_some]
          cases exception : de.info.exceptionRecord with
          | some rec =>
              dsimp only
              refine wp_mono (fun _ w' made => made.trans ?_) (fun _ _ => False.elim)
                (wp_classify_transfers r _ rec _)
              simp [World.transfers, Call.isTransfer]
          | none =>
              dsimp only
              rw [wp_ite]
              split
              · exact wp_tearDownWith _ fun _ _ => trivial
              · refine wp_seq (wp_mono (fun _ _ => id) (fun _ _ _ => trivial)
                  (wp_and (wp_handleRunEvent _ (ledgerOf_wait ..)) (quiet_handleRunEvent _ _)))
                  fun _ w₁ handled => ?_
                obtain ⟨⟨_, same, _⟩, kept⟩ := handled
                refine wp_mono (fun _ w' made => made.trans ?_) (fun _ _ => id) (ih (n + 1) w₁)
                rw [kept.transfers, same]
                simp [World.transfers, Call.isTransfer]

/-- The replies that `run_one` acts on let the test case reach an exception. -/
def StepReaches (r : RunReplies) (tc : TestCase) (stream : List Delivery) : Prop :=
  (r.getThreadContext = true ∧ r.setThreadContext = true) ∧
    ¬ (tc.bytes ≠ [] ∧ r.writeCode = false) ∧
    ∃ rec, (exceptionPumpEnd stream 0).1 = .stopped rec

/-- Before the step a victim is at hand, and the step reaches an exception. -/
def ReachesException (r : RunReplies) (tc : TestCase) (w : World) : Prop :=
  if w.impl.ready then StepReaches r tc w.stream
  else SpawnSucceeds r.spawn w.stream ∧ StepReaches r tc (breakpointPumpEnd w.stream 0).2

/-- An outcome reported as sound, and the transfers it came from. -/
structure Reported (r : RunReplies) (tc : TestCase) (before : World) (out : LaneOutcome)
    (after : World) : Prop where
  setupOk : out.setupOk = true
  transfers : HarnessDone tc before after ↔ UncheckedSucceed r

/-- Resuming keeps the handles. -/
theorem wp_resume_impl (w : World) :
    wp resume (fun _ w' => w'.impl.thread = w.impl.thread ∧ w'.impl.process = w.impl.process)
      (fun _ _ => False) w := by
  rw [resume, wp_bind, wp_get, wp_ite]
  split
  · exact ⟨rfl, rfl⟩
  · exact ⟨rfl, rfl⟩

/-- A step on a live victim either reaches an exception and reports it, or fails. -/
theorem wp_stepVictim_reported (r : RunReplies) (tc : TestCase) {w : World} (live : Live w) :
    wp (stepVictim r tc) (fun out w' => StepReaches r tc w.stream ∧ Reported r tc w out w')
      (fun _ _ => ¬ StepReaches r tc w.stream) w := by
  rw [stepVictim]
  refine wp_seq (wp_mono (fun _ _ => id) (fun _ _ failed reaches => ?_)
    (wp_and (wp_setUpContext r tc live) (wp_setUpContext_transfers r tc w))) fun _ w₁ set => ?_
  · obtain ⟨⟨got, stored⟩, _⟩ := reaches
    rcases failed.1.1 with lost | lost
    · exact Bool.false_ne_true (lost.symm.trans got)
    · exact Bool.false_ne_true (lost.symm.trans stored)
  obtain ⟨⟨checked, same₁⟩, ctx, made₁⟩ := set
  have live₁ := live.unmoved same₁
  refine wp_seq (wp_mono (fun _ _ => id) (fun _ _ failed reaches => reaches.2.1 failed.1.1)
    (wp_and (wp_setUpCode r tc live₁) (wp_setUpCode_transfers r tc w₁))) fun _ w₂ written => ?_
  obtain ⟨⟨written, same₂⟩, made₂⟩ := written
  refine wp_seq (wp_mono (fun _ _ => id) (fun _ _ failed => failed.1.elim)
    (wp_and (wp_setUpMemory r tc w₂) (wp_setUpMemory_transfers r tc w₂))) fun _ w₃ stored => ?_
  obtain ⟨same₃, made₃⟩ := stored
  have live₃ := (live₁.unmoved same₂).unmoved same₃
  refine wp_seq (wp_mono (fun _ _ => id) (fun _ _ failed => failed.1.1.elim)
    (wp_and (wp_and (wp_resume live₃) (wp_resume_impl w₃)) (quiet_resume w₃)))
    fun _ w₄ resumed => ?_
  obtain ⟨⟨resumed, thread₄, process₄⟩, kept₄⟩ := resumed
  have stream : w₄.stream = w.stream := by
    rw [resumed.stream, same₃.stream, same₂.stream, same₁.stream]
  rw [wp_bind, wp_get, stream]
  refine wp_seq (wp_mono (fun _ _ => id) (fun _ _ gaveUp reaches => ?_)
    (wp_and (wp_pumpToException r w.stream 0 w₄) (wp_pumpToException_transfers r w.stream 0 w₄)))
    fun out w₅ stopped => ?_
  · obtain ⟨rec, ended⟩ := reaches.2.2
    exact gaveUp.1.not_stopped rec ended
  obtain ⟨stopped, made₅⟩ := stopped
  obtain ⟨rec, ended, _⟩ := stopped.exception
  have live₅ : Live w₅ :=
    ⟨stopped.ready.trans (resumed.ready.trans live₃.ready), stopped.pending⟩
  refine wp_mono (fun out' w₆ finished => ?_) (fun _ _ failed => failed.1.elim)
    (wp_and (wp_respawnHygiene out live₅) (quiet_respawnHygiene out w₅))
  obtain ⟨⟨same₆, _⟩, kept₆⟩ := finished
  subst same₆
  refine ⟨⟨checked, written, rec, ended⟩, stopped.setupOk,
    harnessDone_iff w.impl.thread w.impl.process ctx ?_⟩
  rw [kept₆.transfers, made₅, kept₄.transfers, made₃, made₂, made₁, thread₄, process₄, same₃.impl,
    same₂.impl, same₁.impl]
  simp only [List.append_assoc]

/-- So does a test case, whether or not it has to start a victim first. -/
theorem wp_runSteps_reported (r : RunReplies) (tc : TestCase) {w : World}
    (bounded : Bounded w.impl) :
    wp (runSteps r tc) (fun out w' => ReachesException r tc w ∧ Reported r tc w out w')
      (fun _ _ => ¬ ReachesException r tc w) w := by
  rw [runSteps, wp_bind]
  by_cases ready : w.impl.ready = true
  · refine (wp_of_ok (ensureReady_of_ready ready)).mpr ?_
    rw [ReachesException, if_pos ready]
    exact wp_stepVictim_reported r tc (bounded.live ready)
  · rw [ReachesException, if_neg ready]
    rw [Bool.not_eq_true] at ready
    refine wp_ensureReady_unready ready (wp_mono (fun _ w₁ spawned => ?_)
      (fun _ _ failed reaches => failed.1.failed reaches.1)
      (wp_and (wp_spawnFresh r.spawn (bounded.tornDown ready)) (quiet_spawnFresh r.spawn w)))
    obtain ⟨spawned, kept⟩ := spawned
    rw [← spawned.stream]
    refine wp_mono (fun out w' ended => ?_) (fun _ _ failed reaches => failed reaches.2)
      (wp_stepVictim_reported r tc spawned.live)
    refine ⟨⟨spawned.succeeded, ended.1⟩, ended.2.setupOk, ?_⟩
    rw [← ended.2.transfers, HarnessDone, HarnessDone, kept.transfers]

/-- A test case that reaches an exception is reported. -/
theorem runOne_reported {r : RunReplies} {tc : TestCase} {w : World} (bounded : Bounded w.impl)
    (reaches : ReachesException r tc w) :
    Reported r tc w (runOne r tc w).1 (runOne r tc w).2 := by
  have held := wp_runSteps_reported r tc bounded
  rw [runOne]
  cases ended : runSteps r tc w with
  | ok out w' => exact ((wp_of_ok ended).mp held).2
  | error error w' => exact absurd reaches ((wp_of_error ended).mp held)

/-- One that does not is a failure of the harness. -/
theorem runOne_unreported {r : RunReplies} {tc : TestCase} {w : World} (bounded : Bounded w.impl)
    (unreached : ¬ ReachesException r tc w) : (runOne r tc w).1.setupOk = false := by
  have held := wp_runSteps_reported r tc bounded
  rw [runOne]
  cases ended : runSteps r tc w with
  | ok out w' => exact absurd ((wp_of_ok ended).mp held).1 unreached
  | error error w' => rfl

/-- In every state of a session, an outcome whose set-up is reported as sound rests
on transfers that all succeeded if and only if, where the test case reaches an
exception, none of the calls fails whose replies are not looked at. -/
theorem harness_failure_iff {victim : Victim} {stream : List Delivery}
    {trace : List (World × SessionCall)} {w : World}
    (run : Run sessionStep (.initial victim stream) trace w) (r : RunReplies) (tc : TestCase) :
    ((runOne r tc w).1.setupOk = true → HarnessDone tc w (runOne r tc w).2) ↔
      (ReachesException r tc w → UncheckedSucceed r) := by
  have bounded := bounded_of_run run
  by_cases reaches : ReachesException r tc w
  · have reported := runOne_reported bounded reaches
    rw [reported.transfers]
    exact ⟨fun sound _ => sound reported.setupOk, fun succeed _ => succeed reaches⟩
  · have unreported := runOne_unreported bounded reaches
    exact iff_of_true (fun reported => absurd (unreported.symm.trans reported) Bool.false_ne_true)
      fun reached => absurd reached reaches

/-- A first test case whose calls all succeed. -/
theorem harness_failure_granted :
    ∃ trace w, Run sessionStep (.initial freshVictim (firstStepStream EXCEPTION_SINGLE_STEP)) trace
        w ∧
      (((runOne { spawn := .granted freshVictim } {} w).1.setupOk = true →
        HarnessDone {} w (runOne { spawn := .granted freshVictim } {} w).2) ↔
      (ReachesException { spawn := .granted freshVictim } {} w →
        UncheckedSucceed { spawn := .granted freshVictim })) := by
  have run : Run sessionStep (.initial freshVictim (firstStepStream EXCEPTION_SINGLE_STEP)) [] _ :=
    .nil
  exact ⟨_, _, run, harness_failure_iff run _ _⟩

/-- A first test case whose data seed is not written: its outcome is reported as
sound, with a data window read from the zeroed page. -/
theorem harness_failure_seed :
    ∃ trace w, Run sessionStep (.initial freshVictim (firstStepStream EXCEPTION_SINGLE_STEP)) trace
        w ∧
      (runOne { spawn := .granted freshVictim, writeSeed := false } {} w).1.setupOk = true ∧
      ¬ HarnessDone {} w (runOne { spawn := .granted freshVictim, writeSeed := false } {} w).2 := by
  have fresh : TornDown (World.initial freshVictim
      (firstStepStream EXCEPTION_SINGLE_STEP)).impl := ⟨rfl, rfl, rfl, rfl, rfl⟩
  have spawns : SpawnSucceeds (.granted freshVictim) (firstStepStream EXCEPTION_SINGLE_STEP) :=
    ⟨⟨⟨rfl, rfl, rfl, rfl, rfl⟩, by decide, rfl⟩, ⟨_, rfl⟩, rfl⟩
  have reaches : ReachesException { spawn := .granted freshVictim, writeSeed := false } {}
      (.initial freshVictim (firstStepStream EXCEPTION_SINGLE_STEP)) :=
    ⟨spawns, ⟨rfl, rfl⟩, fun failed => failed.1 rfl, _, rfl⟩
  have reported := runOne_reported (w := .initial _ _) fresh reaches
  refine ⟨_, _, .nil, reported.setupOk, ?_⟩
  rw [reported.transfers]
  exact fun succeed => Bool.false_ne_true succeed.2.2.1

end SevenFuzzer
