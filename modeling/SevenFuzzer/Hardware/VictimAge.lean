import SevenFuzzer.Hardware.EventProtocol
import SevenFuzzer.Hardware.Growth

/-! # The age of a victim

Read off the log of calls: which exceptions ended the test cases of the victim
since it was created, and whether each test case so far was started on a victim
young and clean enough. `young_throughout` says that it always is: between two
calls a session is torn down or fully live, and the respawn counter counts what
the log says.
-/

namespace SevenFuzzer

open Command Transition

/-- How far a test case has come. -/
inductive CasePhase where
  | idle
  /-- its context has been set -/
  | armed
  /-- the victim has been resumed in it -/
  | running
  deriving DecidableEq

/-- The record of the current victim, kept over the log: the test cases that ended in it, and how
far the present one has come. -/
@[ext] structure VictimAge where
  /-- The codes of the exceptions that ended the victim's test cases, newest first. -/
  completed : List (BitVec 32)
  phase : CasePhase
  sound : Bool
  deriving DecidableEq

/-- The victim has completed fewer test cases than a victim may, and each of them
ended in a single step. -/
def VictimAge.young (age : VictimAge) : Bool :=
  decide (age.completed.length < kRespawnEvery.toNat) &&
    age.completed.all fun code => code == EXCEPTION_SINGLE_STEP

/-- A test case runs from the continuation after its context has been set to the next
exception. It must not be started on a victim that is not young. -/
def VictimAge.post (age : VictimAge) : Call → VictimAge
  | .createProcessAsUser _ _ _ (some _) => { age with completed := [], phase := .idle }
  | .terminateProcess _ _ => { age with phase := .idle }
  | .setThreadContext _ _ true => { age with phase := .armed }
  | .continueDebugEvent _ _ =>
      if age.phase = .armed then { age with phase := .running, sound := age.sound && age.young }
      else age
  | .waitForDebugEvent _ (some event) =>
      match age.phase, event.info.exceptionRecord with
      | .running, some rec =>
          { age with completed := rec.exceptionCode :: age.completed, phase := .idle }
      | _, _ => age
  | _ => age

/-- The record after a log. -/
def ageOf (log : List Call) : VictimAge :=
  log.foldl VictimAge.post ⟨[], .idle, true⟩

@[simp] theorem ageOf_append (log calls : List Call) :
    ageOf (log ++ calls) = calls.foldl VictimAge.post (ageOf log) :=
  List.foldl_append

/-- A wait counts only while a test case runs. -/
theorem VictimAge.post_wait_idle {age : VictimAge} (idle : age.phase ≠ .running)
    (milliseconds : Nat)
    (obtained : Option DebugEvent) : age.post (.waitForDebugEvent milliseconds obtained) = age := by
  cases obtained with
  | none => rfl
  | some event =>
      simp only [VictimAge.post]
      split
      · rename_i running _
        exact absurd running idle
      · rfl

/-- A continuation starts a test case only after its context has been set. -/
theorem VictimAge.post_continue {age : VictimAge} (unarmed : age.phase ≠ .armed)
    (event : DebugEvent)
    (victim : Victim) : age.post (.continueDebugEvent event victim) = age :=
  if_neg unarmed

/-- The drain ends no test case. -/
theorem wp_drainLoop_age (count : Nat) (stream : List Delivery) {w : World}
    (idle : (ageOf w.log).phase = .idle) :
    wp (drainLoop count stream) (fun _ w' => ageOf w'.log = ageOf w.log) (fun _ _ => False) w := by
  have waits : ∀ milliseconds obtained,
      (ageOf w.log).post (.waitForDebugEvent milliseconds obtained) = ageOf w.log :=
    VictimAge.post_wait_idle (by rw [idle]; decide)
  have continues : ∀ event victim,
      (ageOf w.log).post (.continueDebugEvent event victim) = ageOf w.log :=
    VictimAge.post_continue (by rw [idle]; decide)
  induction count generalizing stream w with
  | zero => rfl
  | succ count ih =>
      cases stream with
      | nil => simp [drainLoop, waitForNothing, record, waits]
      | cons delivery rest =>
          simp only [drainLoop, waitForDebugEvent, record, wp_bind, wp_get, wp_set, wp_modify,
            wp_pure]
          cases delivery.event with
          | none => simp [waits]
          | some event =>
              simp only [Option.map_some, continueDebugEvent, record, wp_bind, wp_get, wp_modify]
              split
              · simp [waits, continues]
              · refine wp_mono (fun _ w' same => same.trans ?_) (fun _ _ => id) (ih rest ?_ ?_ ?_)
                all_goals simp [waits, continues, idle]

/-- The victim has been given up, and no test case was started. -/
structure AgeGivenUp (w w' : World) : Prop where
  tornDown : TornDown w'.impl
  sound : (ageOf w'.log).sound = (ageOf w.log).sound

/-- Terminating the victim starts no test case. -/
theorem wp_drainToExit_age (w : World) :
    wp drainToExit (fun _ w' => (ageOf w'.log).sound = (ageOf w.log).sound)
      (fun _ _ => False) w := by
  simp only [drainToExit, record, wp_bind, wp_get, wp_ite, wp_pure, wp_modify]
  split
  · trivial
  · refine wp_mono (fun _ w' same => ?_) (fun _ _ => id) (wp_drainLoop_age 50 w.stream ?_)
    · rw [same, ageOf_append]
      rfl
    · rw [ageOf_append]
      rfl

/-- Nor does closing a handle. -/
theorem wp_close_age (kind : HandleKind) (handle handle' : HANDLE) (w : World) :
    wp (whenOpen handle (closeHandle kind handle'))
      (fun _ w' => ageOf w'.log = ageOf w.log) (fun _ _ => False) w :=
  wp_whenOpen rfl (ageOf_append ..)

/-- Giving the victim up starts no test case. -/
theorem wp_teardown_age (w : World) :
    wp teardown (fun _ w' => AgeGivenUp w w') (fun _ _ => False) w := by
  have sound : wp teardown (fun _ w' => (ageOf w'.log).sound = (ageOf w.log).sound)
      (fun _ _ => False) w := by
    rw [teardown, wp_bind, wp_get]
    refine wp_seq (wp_whenOpen rfl (wp_drainToExit_age w)) fun _ w₁ drained => ?_
    refine wp_seq (wp_close_age ..) fun _ w₂ thread => ?_
    refine wp_seq (wp_close_age ..) fun _ w₃ process => ?_
    refine wp_seq (wp_close_age ..) fun _ w₄ job => ?_
    change (ageOf w₄.log).sound = _
    rw [job, process, thread, drained]
  exact wp_mono (fun _ _ both => ⟨both.1.tornDown, both.2⟩) (fun _ _ both => both.1)
    (wp_and (wp_teardown w) sound)

/-- Nor does giving it up with an error. -/
theorem wp_tearDownWith_age {α : Type} {good : α → World → Prop} {bad : String → World → Prop}
    (error : String) {w : World} (gaveUp : ∀ w', AgeGivenUp w w' → bad error w') :
    wp (tearDownWith error) good bad w :=
  wp_seq (wp_mono (fun _ _ => id) (fun _ _ => False.elim) (wp_teardown_age w)) fun _ w' => gaveUp w'

/-! ## The start of a victim -/

/-- What the system is taken to do: the event that reports a new process supplies both
handles, and no memory is had of a null process. -/
def Call.supplies : Call → Bool
  | .waitForDebugEvent _ (some { info := .createProcess _ hProcess hThread, .. }) =>
      hProcess != 0 && hThread != 0
  | .virtualAllocEx process _ _ got => process != 0 || got == 0
  | _ => true

/-- The system keeps its promises in every call of the log. -/
def SystemSupplies (log : List Call) : Prop := ∀ call ∈ log, call.supplies = true

/-- What holds of a log holds of every earlier one. -/
theorem SystemSupplies.before {log log' : List Call} (supplies : SystemSupplies log')
    (grown : log <+: log') : SystemSupplies log :=
  fun call member => supplies call (grown.subset member)

/-- A session that holds a handle of the process holds one of its thread. -/
def Paired (w : World) : Prop := SystemSupplies w.log → w.impl.process ≠ 0 → w.impl.thread ≠ 0

/-- A part of the start that keeps the job and the age. -/
structure Spawning (w w' : World) : Prop where
  job : w'.impl.job = w.impl.job
  grown : w.log <+: w'.log
  age : ageOf w'.log = ageOf w.log
  paired : Paired w → Paired w'

/-- One part of the start after another. -/
theorem Spawning.trans {w w' w'' : World} (first : Spawning w w') (second : Spawning w' w'') :
    Spawning w w'' where
  job := second.job.trans first.job
  grown := first.grown.trans second.grown
  age := second.age.trans first.age
  paired held := second.paired (first.paired held)

/-- Calls that add to the log alone. -/
theorem Spawning.of_impl {w w' : World} (impl : w'.impl = w.impl) (grown : w.log <+: w'.log)
    (age : ageOf w'.log = ageOf w.log) : Spawning w w' := by
  refine ⟨by rw [impl], grown, age, fun paired supplies => ?_⟩
  rw [impl]
  exact paired (supplies.before grown)

/-- Before a context is set, continuing an event changes nothing. -/
theorem ageOf_continue_idle {log : List Call} (idle : (ageOf log).phase = .idle) (de : DebugEvent)
    (victim : Victim) : ageOf (log ++ [.continueDebugEvent de victim]) = ageOf log :=
  (ageOf_append ..).trans (VictimAge.post_continue (by rw [idle]; decide) de victim)

/-- Nor does a wait. -/
theorem ageOf_wait_idle {log : List Call} (idle : (ageOf log).phase = .idle) (milliseconds : Nat)
    (obtained : Option DebugEvent) :
    ageOf (log ++ [.waitForDebugEvent milliseconds obtained]) = ageOf log :=
  (ageOf_append ..).trans (VictimAge.post_wait_idle (by rw [idle]; decide) milliseconds obtained)

/-- Continuing an event is a part of the start. -/
theorem wp_continue_spawning (de : DebugEvent) {w : World} {bad : String → World → Prop}
    (idle : (ageOf w.log).phase = .idle) :
    wp (continueDebugEvent de) (fun _ w' => Spawning w w') bad w :=
  .of_impl rfl (List.prefix_append _ _) (ageOf_continue_idle idle de w.victim)

/-- So is closing a module's file. -/
theorem wp_closeFile_spawning (hFile : HANDLE) (w : World) {bad : String → World → Prop} :
    wp (whenOpen hFile (closeHandle .file hFile)) (fun _ w' => Spawning w w') bad w :=
  wp_whenOpen (.of_impl rfl List.prefix_rfl rfl)
    (.of_impl rfl (List.prefix_append _ _) (ageOf_append ..))

/-- A victim that is given up later has been given up. -/
theorem AgeGivenUp.after {w w' w'' : World} (sound : (ageOf w'.log).sound = (ageOf w.log).sound)
    (gaveUp : AgeGivenUp w' w'') : AgeGivenUp w w'' :=
  ⟨gaveUp.tornDown, gaveUp.sound.trans sound⟩

/-- An event before the sync point. -/
theorem wp_handleSpawnEvent_age {de : DebugEvent} {w : World} {milliseconds : Nat}
    (idle : (ageOf w.log).phase = .idle)
    (obtained : .waitForDebugEvent milliseconds (some de) ∈ w.log) :
    wp (handleSpawnEvent de) (fun _ w' => Spawning w w') (fun _ w' => AgeGivenUp w w') w := by
  obtain ⟨serial, processId, threadId, info⟩ := de
  cases info with
  | loadDll hFile =>
      refine wp_seq (wp_closeFile_spawning hFile w) fun _ w₁ closed => ?_
      exact wp_mono (fun _ _ => closed.trans) (fun _ _ => id)
        (wp_continue_spawning _ (by rw [closed.age, idle]))
  | createProcess hFile hProcess hThread =>
      refine wp_seq (wp_closeFile_spawning hFile w) fun _ w₁ closed => ?_
      have continued := ageOf_continue_idle (by rw [closed.age, idle])
        ⟨serial, processId, threadId, .createProcess hFile hProcess hThread⟩ w₁.victim
      -- whichever handles are stored, one of the thread is among them
      have stored : ∀ impl : Impl, impl.job = w₁.impl.job → (hThread ≠ 0 → impl.thread = hThread) →
          Spawning w { w₁ with
            impl := impl
            log := w₁.log ++ [.continueDebugEvent ⟨serial, processId, threadId,
              .createProcess hFile hProcess hThread⟩ w₁.victim] } := by
        intro impl job thread
        refine closed.trans ⟨job, List.prefix_append _ _, continued, fun _ supplies _ => ?_⟩
        have supplied := supplies _ ((closed.grown.trans (List.prefix_append _ _)).subset obtained)
        rw [Call.supplies, Bool.and_eq_true, bne_iff_ne, bne_iff_ne] at supplied
        rw [thread supplied.2]
        exact supplied.2
      simp only [whenOpen, modifyImpl, continueDebugEvent, record, wp_bind, wp_ite, wp_modify,
        wp_pure, wp_get]
      by_cases thread : hThread = 0
      · rw [if_neg (not_not_intro thread)]
        split <;> exact stored _ rfl fun open_ => absurd thread open_
      · rw [if_pos thread]
        split <;> exact stored _ rfl fun _ => rfl
  | exitProcess =>
      refine wp_seq (wp_continue_spawning _ idle) fun _ w₁ continued => ?_
      exact wp_tearDownWith_age _ fun _ => .after (by rw [continued.age])
  | _ => exact wp_continue_spawning _ idle

/-- **The pump of a start** ends no test case, and at the sync point an event is parked. -/
theorem wp_pumpToBreakpoint_age (stream : List Delivery) (n : Nat) {w : World}
    (idle : (ageOf w.log).phase = .idle) :
    wp (pumpToBreakpoint stream n) (fun _ w' => Spawning w w' ∧ w'.impl.pendingValid = true)
      (fun _ w' => AgeGivenUp w w') w := by
  induction stream generalizing n w with
  | nil =>
      simp only [pumpToBreakpoint, waitForNothing, record, wp_bind, wp_modify]
      exact wp_tearDownWith_age _ fun _ => .after (by rw [ageOf_wait_idle idle])
  | cons delivery rest ih =>
      simp only [pumpToBreakpoint, waitForDebugEvent, record, wp_bind, wp_get, wp_set, wp_modify,
        wp_pure]
      cases arrived : delivery.event with
      | none => exact wp_tearDownWith_age _ fun _ => .after (congrArg _ (ageOf_wait_idle idle _ _))
      | some de =>
          simp only [Option.map_some]
          have waited := ageOf_wait_idle idle kWaitTimeoutMs (some { de with serial := w.obtained })
          have waiting : Spawning w { w with
              victim := delivery.victim
              stream := rest
              obtained := w.obtained + 1
              log := w.log ++ [.waitForDebugEvent kWaitTimeoutMs
                (some { de with serial := w.obtained })] } :=
            .of_impl rfl (List.prefix_append _ _) waited
          cases exception : de.info.exceptionRecord with
          | some rec =>
              simp only [wp_ite, modifyImpl, wp_modify, wp_bind]
              split
              · exact ⟨waiting.trans ⟨rfl, List.prefix_rfl, rfl, id⟩, trivial⟩
              · refine wp_mono (fun _ w₁ continued => ?_) (fun _ _ => id)
                  (wp_continue_spawning _ (by rw [waited, idle]))
                have so_far := waiting.trans continued
                exact wp_mono (fun _ _ done => ⟨so_far.trans done.1, done.2⟩)
                  (fun _ _ => .after (by rw [so_far.age])) (ih n (by rw [so_far.age, idle]))
          | none =>
              simp only [wp_ite, wp_bind]
              split
              · exact wp_tearDownWith_age _ fun _ => .after (by rw [waited])
              · refine wp_mono (fun _ w₁ handled => ?_) (fun _ _ => .after (by rw [waited]))
                  (wp_handleSpawnEvent_age (by rw [waited, idle])
                    (List.mem_append_right _ (List.mem_singleton_self _)))
                have so_far := waiting.trans handled
                exact wp_mono (fun _ _ done => ⟨so_far.trans done.1, done.2⟩)
                  (fun _ _ => .after (by rw [so_far.age])) (ih (n + 1) (by rw [so_far.age, idle]))

/-- A session with a victim and all it needs of it. -/
structure FullyLive (impl : Impl) : Prop where
  ready : impl.ready = true
  job : impl.job ≠ 0
  process : impl.process ≠ 0
  thread : impl.thread ≠ 0
  pending : impl.pendingValid = true

/-- Its victim is young and clean, and the respawn counter knows how young. -/
structure Young (w : World) : Prop where
  live : FullyLive w.impl
  clean : ∀ code ∈ (ageOf w.log).completed, code = EXCEPTION_SINGLE_STEP
  counted : w.impl.stepsSinceRespawn.toNat = (ageOf w.log).completed.length
  few : (ageOf w.log).completed.length < kRespawnEvery.toNat

/-- The token does not change the record. -/
theorem wp_buildRestrictedToken_age (r : SpawnReplies) (w : World) :
    wp (buildRestrictedToken r) (fun _ w' => ageOf w'.log = ageOf w.log)
      (fun _ w' => ageOf w'.log = ageOf w.log) w := by
  have kept : ∀ age : VictimAge, ∀ call : Call, call.buildsToken = true → age.post call = age := by
    intro age call builds
    cases call <;> first | rfl | exact absurd builds Bool.false_ne_true
  exact wp_mono (fun _ w' grows => grows.foldl_eq kept _) (fun _ w' grows => grows.foldl_eq kept _)
    (growsBy_buildRestrictedToken r w)

/-- A victim that has just been created has completed nothing. -/
theorem wp_launchVictim_age (r : SpawnReplies) (token : HANDLE) (w : World) :
    wp (launchVictim r token)
      (fun _ w' => w'.impl.job = r.createJobObject ∧ w'.impl.process = w.impl.process ∧
        ageOf w'.log = ⟨[], .idle, (ageOf w.log).sound⟩)
      (fun _ w' => (ageOf w'.log).sound = (ageOf w.log).sound) w := by
  simp only [launchVictim, record, modifyImpl, modifyVictim, closeHandle, wp_bind, wp_get,
    wp_modify, wp_ite, wp_throw]
  by_cases noJob : r.createJobObject = 0
  · rw [if_pos noJob, ageOf_append, ageOf_append]
    rfl
  rw [if_neg noJob]
  refine wp_whenOpen ?_ ?_
  all_goals
    cases created : r.createProcessAsUser with
    | none =>
        simp only [wp_bind, wp_modify, wp_throw, ageOf_append]
        rfl
    | some pi =>
        simp only [wp_bind, wp_modify, ageOf_append]
        exact ⟨trivial, trivial, rfl⟩

/-- With the page mapped, the victim is young, if the system supplied its handles. -/
theorem wp_mapScratch_age (r : SpawnReplies) {w : World} (job : w.impl.job ≠ 0)
    (pending : w.impl.pendingValid = true) (paired : Paired w)
    (fresh : (ageOf w.log).completed = []) :
    wp (mapScratch r)
      (fun _ w' => (ageOf w'.log).sound = (ageOf w.log).sound ∧ (SystemSupplies w'.log → Young w'))
      (fun _ w' => AgeGivenUp w w') w := by
  have asked :
      ∀ got, ageOf (w.log ++ [.virtualAllocEx w.impl.process kCodeBase (3 * kPageSize) got]) =
      ageOf w.log := fun got => ageOf_append ..
  simp only [mapScratch, record, modifyImpl, modifyVictim, wp_bind, wp_get, wp_modify,
    wp_ite, asked]
  by_cases mapped : r.virtualAllocEx = kCodeBase
  · rw [if_neg (by rw [mapped]; decide)]
    refine ⟨trivial, fun supplies => ?_⟩
    have process : w.impl.process ≠ 0 := by
      intro null
      have refused := supplies _ (List.mem_append_right _ (List.mem_singleton_self _))
      rw [Call.supplies, null, mapped] at refused
      exact absurd refused (by decide)
    refine ⟨⟨rfl, job, process, paired (supplies.before (List.prefix_append _ _)) process, pending⟩,
      ?_, ?_, ?_⟩
    all_goals
      dsimp only
      rw [asked, fresh]
    · exact List.forall_mem_nil _
    · rfl
    · decide
  · rw [if_pos (.inr mapped)]
    exact wp_tearDownWith_age _ fun _ => .after (by rw [asked])

/-- **A start** leaves a young victim, or none. -/
theorem wp_spawnFresh_age (r : SpawnReplies) {w : World} (tornDown : TornDown w.impl) :
    wp (spawnFresh r)
      (fun _ w' => (ageOf w'.log).sound = (ageOf w.log).sound ∧ (SystemSupplies w'.log → Young w'))
      (fun _ w' => AgeGivenUp w w') w := by
  rw [spawnFresh]
  refine wp_seq (wp_mono (fun _ _ => id) (fun _ _ => False.elim) (wp_teardown_idle tornDown))
    fun _ w₁ down => ?_
  obtain ⟨tornDown₁, -, log₁⟩ := down
  refine wp_seq (wp_mono (fun _ _ => id) (fun _ w' built => ?_)
    (wp_and (wp_buildRestrictedToken r w₁) (wp_buildRestrictedToken_age r w₁)))
    fun token w₂ built => ?_
  · exact ⟨built.1.2.impl ▸ tornDown₁, by rw [built.2, log₁]⟩
  obtain ⟨⟨built, same⟩, age₂⟩ := built
  rw [log₁] at age₂
  have tornDown₂ : TornDown w₂.impl := same.impl ▸ tornDown₁
  refine wp_seq (wp_mono (fun _ _ => id) (fun _ w' failed => ?_)
    (wp_and (wp_launchVictim token built tornDown₂) (wp_launchVictim_age r token w₂)))
    fun _ w₃ launched => ?_
  · exact ⟨failed.1.2.2, by rw [failed.2, age₂]⟩
  obtain ⟨⟨created, -⟩, job₃, process₃, age₃⟩ := launched
  have sound₃ : (ageOf w₃.log).sound = (ageOf w.log).sound := by rw [age₃, age₂]
  have paired₃ : Paired w₃ := fun _ process =>
    absurd (process₃.trans tornDown₂.process) process
  rw [wp_bind, wp_get]
  refine wp_seq (wp_mono (fun _ _ => id) (fun _ _ => .after sound₃)
    (wp_pumpToBreakpoint_age w₃.stream 0 (by rw [age₃]))) fun _ w₄ pumped => ?_
  obtain ⟨spawning, pending⟩ := pumped
  have sound₄ : (ageOf w₄.log).sound = (ageOf w.log).sound := by rw [spawning.age, sound₃]
  rw [← sound₄]
  refine wp_mono (fun _ _ => id) (fun _ _ => .after sound₄)
    (wp_mapScratch_age r ?_ pending (spawning.paired paired₃) ?_)
  · rw [spawning.job, job₃]
    exact created.2.1
  · rw [spawning.age, age₃]

/-! ## One test case -/

/-- A part of the session that leaves its fields and the age alone. -/
structure Steady (w w' : World) : Prop where
  impl : w'.impl = w.impl
  age : ageOf w'.log = ageOf w.log

/-- Setting the context readies the victim for one test case. -/
theorem wp_setUpContext_age (r : RunReplies) (tc : TestCase) (w : World) :
    wp (setUpContext r tc)
      (fun _ w' => w'.impl = w.impl ∧ ageOf w'.log = { ageOf w.log with phase := .armed })
      (fun _ w' => AgeGivenUp w w') w := by
  simp only [setUpContext, getThreadContext, setThreadContext, record, wp_bind, wp_get, wp_modify,
    wp_pure]
  cases r.getThreadContext with
  | false =>
      simp only [Bool.false_eq_true, ↓reduceIte]
      refine wp_tearDownWith_age _ fun _ => .after ?_
      rw [ageOf_append]
      rfl
  | true =>
      cases r.setThreadContext with
      | false =>
          simp only [↓reduceIte, wp_bind, wp_modify, wp_pure, Bool.false_eq_true, not_false_eq_true]
          refine wp_tearDownWith_age _ fun _ => .after ?_
          rw [ageOf_append, ageOf_append]
          rfl
      | true =>
          simp only [↓reduceIte, wp_bind, wp_modify, wp_pure, modifyVictim, not_true_eq_false,
            ageOf_append]
          exact ⟨trivial, rfl⟩

/-- A write leaves the record alone. -/
theorem wp_writeProcessMemory_age {process : HANDLE} {address : BitVec 64} {bytes : List (BitVec 8)}
    {ok : Bool} {w : World} {good : Bool → World → Prop} {bad : String → World → Prop}
    (steady : ∀ w', Steady w w' → good ok w') :
    wp (writeProcessMemory process address bytes ok) good bad w := by
  simp only [writeProcessMemory, record, modifyVictim, wp_bind, wp_modify, wp_ite, wp_pure]
  split <;> exact steady _ ⟨rfl, ageOf_append ..⟩

/-- So does the write of the code, unless it is refused and the victim given up. -/
theorem wp_setUpCode_age (r : RunReplies) (tc : TestCase) (w : World) :
    wp (setUpCode r tc) (fun _ w' => Steady w w') (fun _ w' => AgeGivenUp w w') w := by
  rw [setUpCode, wp_ite]
  split
  · exact ⟨rfl, rfl⟩
  · rw [wp_bind, wp_get, wp_bind]
    refine wp_writeProcessMemory_age fun w₁ steady => ?_
    rw [wp_ite]
    split
    · exact wp_tearDownWith_age _ fun _ => .after (by rw [steady.age])
    · exact steady

/-- So do the writes of data and stack. -/
theorem wp_setUpMemory_age (r : RunReplies) (tc : TestCase) (w : World) :
    wp (setUpMemory r tc) (fun _ w' => Steady w w') (fun _ _ => False) w := by
  have step : ∀ {process address bytes ok} {w₁ : World}, Steady w w₁ →
      wp (discard (writeProcessMemory process address bytes ok)) (fun _ w' => Steady w w')
        (fun _ _ => False) w₁ := fun {_ _ _ _ w₁} so_far =>
    (wp_discard _).mpr (wp_writeProcessMemory_age fun w' steady =>
      ⟨steady.impl.trans so_far.impl, steady.age.trans so_far.age⟩)
  rw [setUpMemory, wp_bind, wp_get]
  refine wp_seq (step ⟨rfl, rfl⟩) fun _ _ steady => ?_
  refine wp_seq (step steady) fun _ _ steady => ?_
  refine wp_seq (step steady) fun _ _ steady => ?_
  exact step steady

/-- The victim is resumed in a test case, and the ledger looks at its age. -/
theorem wp_resume_age {w : World} (pending : w.impl.pendingValid = true)
    (armed : (ageOf w.log).phase = .armed) :
    wp resume
      (fun _ w' => w'.impl = { w.impl with pendingValid := false } ∧
        ageOf w'.log = { ageOf w.log with
          phase := .running, sound := (ageOf w.log).sound && (ageOf w.log).young })
      (fun _ _ => False) w := by
  simp only [resume, continueDebugEvent, record, modifyImpl, wp_bind, wp_get, wp_modify, pending,
    ↓reduceIte, ageOf_append]
  exact ⟨trivial, if_pos armed⟩

/-- An event during the step that is no exception ends no test case. -/
theorem wp_handleRunEvent_age (de : DebugEvent) {w : World}
    (running : (ageOf w.log).phase = .running) :
    wp (handleRunEvent de) (fun _ w' => Steady w w') (fun _ w' => AgeGivenUp w w') w := by
  have continues : ∀ {w' : World} {bad : String → World → Prop}, Steady w w' →
      wp (continueDebugEvent de) (fun _ w'' => Steady w w'') bad w' := by
    intro w' bad steady
    have kept : ageOf (w'.log ++ [.continueDebugEvent de w'.victim]) = ageOf w'.log :=
      (ageOf_append ..).trans
        (VictimAge.post_continue (by rw [steady.age, running]; decide) de w'.victim)
    exact ⟨steady.impl, kept.trans steady.age⟩
  have exits :
      wp (do continueDebugEvent de; tearDownWith "victim died mid test case" : Session Unit)
      (fun _ w' => Steady w w') (fun _ w' => AgeGivenUp w w') w :=
    wp_seq (continues ⟨rfl, rfl⟩) fun _ w₁ steady =>
      wp_tearDownWith_age _ fun _ => .after (by rw [steady.age])
  obtain ⟨serial, processId, threadId, info⟩ := de
  cases info with
  | loadDll hFile =>
      have closes : wp (whenOpen hFile (closeHandle .file hFile)) (fun _ w' => Steady w w')
          (fun _ w' => AgeGivenUp w w') w := wp_whenOpen ⟨rfl, rfl⟩ ⟨rfl, ageOf_append ..⟩
      exact wp_seq closes fun _ _ steady => continues steady
  | exitProcess => exact exits
  | rip => exact exits
  | _ => exact continues ⟨rfl, rfl⟩

/-- A test case that has come to an exception. -/
structure CaseCompleted (w : World) (out : LaneOutcome) (w' : World) : Prop where
  exception : ∃ rec : ExceptionRecord, out.stop = mapException rec ∧
    ageOf w'.log = ⟨rec.exceptionCode :: (ageOf w.log).completed, .idle, (ageOf w.log).sound⟩
  setupOk : out.setupOk = true
  impl : ∃ de, w'.impl = { w.impl with pendingEvent := de, pendingValid := true }

/-- An exception ends the test case and is entered in the record. -/
theorem wp_classify_age (r : RunReplies) (de : DebugEvent) (rec : ExceptionRecord) (w : World) :
    wp (classify r de rec)
      (fun out w' => (out.stop = mapException rec ∧ out.setupOk = true) ∧
        w'.impl = { w.impl with pendingEvent := de, pendingValid := true } ∧
        ageOf w'.log = ageOf w.log)
      (fun _ _ => False) w := by
  simp only [classify, getThreadContext, readProcessMemory, record, modifyImpl, wp_bind, wp_get,
    wp_modify, wp_pure, ageOf_append]
  exact ⟨⟨trivial, trivial⟩, trivial, rfl⟩

/-- **The pump of a test case** completes it, or gives the victim up. -/
theorem wp_pumpToException_age (r : RunReplies) (stream : List Delivery) (n : Nat) {w : World}
    (running : (ageOf w.log).phase = .running) :
    wp (pumpToException r stream n) (fun out w' => CaseCompleted w out w')
      (fun _ w' => AgeGivenUp w w') w := by
  induction stream generalizing n w with
  | nil =>
      simp only [pumpToException, waitForNothing, record, wp_bind, wp_modify]
      refine wp_tearDownWith_age _ fun _ => .after ?_
      rw [ageOf_append]
      rfl
  | cons delivery rest ih =>
      simp only [pumpToException, waitForDebugEvent, record, wp_bind, wp_get, wp_set, wp_modify,
        wp_pure]
      cases arrived : delivery.event with
      | none =>
          refine wp_tearDownWith_age _ fun _ => .after ?_
          rw [ageOf_append]
          rfl
      | some de =>
          simp only [Option.map_some]
          cases exception : de.info.exceptionRecord with
          | some rec =>
              refine wp_mono (fun out w' classified => ?_) (fun _ _ => False.elim)
                (wp_classify_age r _ rec _)
              obtain ⟨⟨stop, setupOk⟩, impl, age⟩ := classified
              refine ⟨⟨rec, stop, ?_⟩, setupOk, _, impl⟩
              rw [age, ageOf_append]
              simp only [List.foldl_cons, List.foldl_nil, VictimAge.post, running, exception]
          | none =>
              have waited : ageOf (w.log ++ [.waitForDebugEvent kWaitTimeoutMs
                  (some { de with serial := w.obtained })]) = ageOf w.log := by
                rw [ageOf_append]
                simp only [List.foldl_cons, List.foldl_nil, VictimAge.post, running, exception]
              simp only [wp_ite, wp_bind]
              split
              · exact wp_tearDownWith_age _ fun _ => .after (by rw [waited])
              · refine wp_mono (fun _ w₁ steady => ?_) (fun _ _ => .after (by rw [waited]))
                  (wp_handleRunEvent_age _ (by rw [waited, running]))
                have age₁ : ageOf w₁.log = ageOf w.log := steady.age.trans waited
                refine wp_mono (fun out w' completed => ?_) (fun _ _ => .after (by rw [age₁]))
                  (ih (n + 1) (by rw [age₁, running]))
                obtain ⟨⟨rec, stop, age⟩, setupOk, de', impl⟩ := completed
                rw [age₁] at age
                rw [steady.impl] at impl
                exact ⟨⟨rec, stop, age⟩, setupOk, de', impl⟩

/-- Only a single step is reported as `ok`. -/
theorem mapException_ok {rec : ExceptionRecord} :
    mapException rec = .ok ↔ rec.exceptionCode = EXCEPTION_SINGLE_STEP := by
  constructor
  · intro ok
    by_contra other
    rw [mapException, if_neg other] at ok
    repeat' split at ok
    all_goals cases ok
  · intro step
    rw [mapException, if_pos step]

/-- Between two calls: the ledger is sound, and a victim there is, is young. -/
def WellAged (w : World) : Prop :=
  (ageOf w.log).sound = true ∧ (TornDown w.impl ∨ Young w)

/-- A session without a victim is well aged. -/
theorem AgeGivenUp.wellAged {w w' : World} (gaveUp : AgeGivenUp w w')
    (sound : (ageOf w.log).sound = true) : WellAged w' :=
  ⟨gaveUp.sound.trans sound, .inl gaveUp.tornDown⟩

/-- A victim that has completed one more test case is given up after a fault, and when
it has completed as many as it may. -/
theorem wp_respawnHygiene_age (out : LaneOutcome) {before w : World} (young : Young before)
    (sound : (ageOf w.log).sound = true) (live : FullyLive w.impl)
    (steps : w.impl.stepsSinceRespawn = before.impl.stepsSinceRespawn)
    (exception : ∃ rec : ExceptionRecord, out.stop = mapException rec ∧
      (ageOf w.log).completed = rec.exceptionCode :: (ageOf before.log).completed) :
    wp (respawnHygiene out)
      (fun out' w' => out' = out ∧ WellAged w' ∧ (out.stop ≠ .ok → TornDown w'.impl))
      (fun _ _ => False) w := by
  obtain ⟨rec, stop, completed⟩ := exception
  simp only [respawnHygiene, modifyImpl, wp_bind, wp_get, wp_modify, wp_ite, wp_pure]
  split
  · refine wp_mono (fun _ w' gaveUp => ⟨rfl, ?_, fun _ => gaveUp.tornDown⟩) (fun _ _ => id)
      (wp_teardown_age _)
    exact gaveUp.wellAged sound
  · rename_i stays
    obtain ⟨ok, few⟩ := not_or.mp stays
    rw [ne_eq, not_not] at ok
    refine ⟨trivial, ⟨sound, .inr ⟨⟨live.ready, live.job, live.process, live.thread, live.pending⟩,
      ?_, ?_, ?_⟩⟩, fun fault => absurd ok fault⟩
    · rw [completed, List.forall_mem_cons]
      exact ⟨mapException_ok.mp (stop.symm.trans ok), young.clean⟩
    all_goals
      have limit : kRespawnEvery.toNat = 2000 := by decide
      have counted := young.counted
      have bound := young.few
      rw [steps] at few
      rw [completed, List.length_cons]
    · dsimp only
      rw [steps, BitVec.toNat_add]
      have one : (1#64).toNat = 1 := rfl
      change (before.impl.stepsSinceRespawn.toNat + 1) % 2 ^ 64 = _
      omega
    · have below := BitVec.not_le.mp few
      rw [BitVec.lt_def, BitVec.toNat_add] at below
      change (before.impl.stepsSinceRespawn.toNat + 1) % 2 ^ 64 < _ at below
      omega

/-- A young victim has a young record. -/
theorem Young.young {w : World} (young : Young w) : (ageOf w.log).young = true := by
  rw [VictimAge.young, Bool.and_eq_true]
  refine ⟨decide_eq_true young.few, List.all_eq_true.mpr fun code completed => ?_⟩
  rw [young.clean code completed]
  rfl

/-- **A step** on a young victim reports, and keeps the victim only if it is still young and
clean. -/
theorem wp_stepVictim_age (r : RunReplies) (tc : TestCase) {w : World} (young : Young w)
    (sound : (ageOf w.log).sound = true) :
    wp (stepVictim r tc)
      (fun out w' => out.setupOk = true ∧ WellAged w' ∧ (out.stop ≠ .ok → TornDown w'.impl))
      (fun _ w' => WellAged w' ∧ TornDown w'.impl) w := by
  have given : ∀ {w₁ w' : World}, (ageOf w₁.log).sound = true → AgeGivenUp w₁ w' →
      WellAged w' ∧ TornDown w'.impl := fun sound gaveUp => ⟨gaveUp.wellAged sound, gaveUp.tornDown⟩
  rw [stepVictim]
  refine wp_seq (wp_mono (fun _ _ => id) (fun _ _ => given sound) (wp_setUpContext_age r tc w))
    fun _ w₁ context => ?_
  obtain ⟨impl₁, age₁⟩ := context
  refine wp_seq (wp_mono (fun _ _ => id) (fun _ _ => given (by rw [age₁, sound]))
    (wp_setUpCode_age r tc w₁)) fun _ w₂ code => ?_
  refine wp_seq (wp_mono (fun _ _ => id) (fun _ _ => False.elim) (wp_setUpMemory_age r tc w₂))
    fun _ w₃ memory => ?_
  have impl₃ : w₃.impl = w.impl := by rw [memory.impl, code.impl, impl₁]
  have age₃ : ageOf w₃.log = { ageOf w.log with phase := .armed } := by
    rw [memory.age, code.age, age₁]
  refine wp_seq (wp_mono (fun _ _ => id) (fun _ _ => False.elim)
    (wp_resume_age (by rw [impl₃, young.live.pending]) (by rw [age₃]))) fun _ w₄ resumed => ?_
  obtain ⟨impl₄, age₄⟩ := resumed
  have sound₄ : (ageOf w₄.log).sound = true := by
    rw [age₄, age₃, Bool.and_eq_true]
    exact ⟨sound, young.young⟩
  have completed₄ : (ageOf w₄.log).completed = (ageOf w.log).completed := by rw [age₄, age₃]
  rw [wp_bind, wp_get]
  refine wp_seq (wp_mono (fun _ _ => id) (fun _ _ => given sound₄)
    (wp_pumpToException_age r w₄.stream 0 (by rw [age₄]))) fun out w₅ completed => ?_
  obtain ⟨⟨rec, stop, age₅⟩, setupOk, de, impl₅⟩ := completed
  rw [impl₄, impl₃] at impl₅
  refine wp_mono (fun out' w' ended => ?_) (fun _ _ => False.elim)
    (wp_respawnHygiene_age out young ?_ ?_ ?_ ⟨rec, stop, ?_⟩)
  · obtain ⟨rfl, ended⟩ := ended
    exact ⟨setupOk, ended⟩
  · rw [age₅, sound₄]
  · rw [impl₅]
    exact ⟨young.live.ready, young.live.job, young.live.process, young.live.thread, rfl⟩
  · rw [impl₅]
  · rw [age₅, completed₄]

/-- A well-aged session that is not ready has no victim. -/
theorem WellAged.tornDown {w : World} (aged : WellAged w) (unready : w.impl.ready = false) :
    TornDown w.impl :=
  aged.2.resolve_right fun young => Bool.false_ne_true (unready.symm.trans young.live.ready)

/-- A well-aged session that is ready has a young one. -/
theorem WellAged.young {w : World} (aged : WellAged w) (ready : w.impl.ready = true) : Young w :=
  aged.2.resolve_left fun tornDown => Bool.false_ne_true (tornDown.ready.symm.trans ready)

/-- So does a test case, whether or not it has to start a victim first. -/
theorem wp_runSteps_age (r : RunReplies) (tc : TestCase) {w : World} (aged : WellAged w) :
    wp (runSteps r tc)
      (fun out w' => SystemSupplies w'.log →
        out.setupOk = true ∧ WellAged w' ∧ (out.stop ≠ .ok → TornDown w'.impl))
      (fun _ w' => SystemSupplies w'.log → WellAged w' ∧ TornDown w'.impl) w := by
  rw [runSteps, wp_bind]
  by_cases ready : w.impl.ready = true
  · refine (wp_of_ok (ensureReady_of_ready ready)).mpr ?_
    exact wp_mono (fun _ _ ended _ => ended) (fun _ _ ended _ => ended)
      (wp_stepVictim_age r tc (aged.young ready) aged.1)
  · rw [Bool.not_eq_true] at ready
    refine wp_ensureReady_unready ready (wp_mono (fun _ w₁ spawned => ?_)
      (fun _ w' gaveUp _ => ⟨gaveUp.wellAged aged.1, gaveUp.tornDown⟩)
      (wp_spawnFresh_age r.spawn (aged.tornDown ready)))
    obtain ⟨sound, young⟩ := spawned
    by_cases supplies : SystemSupplies w₁.log
    · exact wp_mono (fun _ _ ended _ => ended) (fun _ _ ended _ => ended)
        (wp_stepVictim_age r tc (young supplies) (sound.trans aged.1))
    · exact wp_mono (fun _ _ grows later => absurd (later.before grows.grows) supplies)
        (fun _ _ grows later => absurd (later.before grows.grows) supplies)
        (noSpawn_stepVictim r tc w₁)

/-- A test case without a result, or whose result is not that of a single step. -/
def Tainted (out : LaneOutcome) : Prop := out.setupOk = false ∨ out.stop ≠ .ok

/-- **One call** of `run_one` keeps the session well aged, and a tainted outcome leaves no
victim. -/
theorem runOne_age (r : RunReplies) (tc : TestCase) {w : World} (aged : WellAged w)
    (supplies : SystemSupplies (runOne r tc w).2.log) :
    WellAged (runOne r tc w).2 ∧ (Tainted (runOne r tc w).1 → TornDown (runOne r tc w).2.impl) := by
  have held := wp_runSteps_age r tc aged
  rw [runOne] at supplies ⊢
  cases ended : runSteps r tc w with
  | ok out w' =>
      simp only [ended] at supplies ⊢
      obtain ⟨setupOk, aged', fault⟩ := (wp_of_ok ended).mp held supplies
      exact ⟨aged', fun tainted => tainted.elim
        (fun failed => absurd (setupOk.symm.trans failed) Bool.true_eq_false.mp) fault⟩
  | error error w' =>
      simp only [ended] at supplies ⊢
      obtain ⟨aged', tornDown⟩ := (wp_of_error ended).mp held supplies
      exact ⟨aged', fun _ => tornDown⟩

/-- So does every other call. -/
theorem wellAged_perform {w : World} (call : SessionCall) (aged : WellAged w)
    (supplies : SystemSupplies (call.perform w).log) : WellAged (call.perform w) := by
  cases call with
  | start victimPath r =>
      have held : wp (SevenFuzzer.start victimPath r)
          (fun _ w' => SystemSupplies w'.log → WellAged w') (fun _ w' => WellAged w') w := by
        rw [SevenFuzzer.start, modifyImpl, wp_bind, wp_modify]
        by_cases ready : w.impl.ready = true
        · refine (wp_of_ok (ensureReady_of_ready ?_)).mpr fun _ => ⟨aged.1, .inr ?_⟩
          · exact ready
          obtain ⟨live, clean, counted, few⟩ := aged.young ready
          exact ⟨⟨live.ready, live.job, live.process, live.thread, live.pending⟩, clean,
            counted, few⟩
        · rw [Bool.not_eq_true] at ready
          have tornDown := aged.tornDown ready
          refine wp_ensureReady_unready ready (wp_mono (fun _ w' spawned supplies => ?_)
            (fun _ w' gaveUp => gaveUp.wellAged aged.1) (wp_spawnFresh_age r
              ⟨ready, tornDown.pending, tornDown.job, tornDown.process, tornDown.thread⟩))
          exact ⟨spawned.1.trans aged.1, .inr (spawned.2 supplies)⟩
      rw [SessionCall.perform, worldAfter] at supplies ⊢
      cases ended : SevenFuzzer.start victimPath r w with
      | ok value w' =>
          rw [ended] at supplies
          exact (wp_of_ok ended).mp held supplies
      | error error w' => exact (wp_of_error ended).mp held
  | runOne r tc => exact (runOne_age r tc aged supplies).1
  | shutdown =>
      have held := wp_teardown_age w
      rw [SessionCall.perform, worldAfter]
      cases ended : SevenFuzzer.shutdown w with
      | ok value w' => exact ((wp_of_ok ended).mp held).wellAged aged.1
      | error error w' => exact ((wp_of_error ended).mp held).elim

/-- So the session is well aged in every state of a run. -/
theorem wellAged_of_run {victim : Victim} {stream : List Delivery}
    {trace : List (World × SessionCall)} {final : World}
    (run : Run sessionStep (.initial victim stream) trace final)
    (supplies : SystemSupplies final.log) :
    WellAged final ∧ ∀ moment ∈ trace, WellAged moment.1 ∧
      (moment.2.perform moment.1).log <+: final.log := by
  induction run with
  | nil => exact ⟨⟨rfl, .inl ⟨rfl, rfl, rfl, rfl, rfl⟩⟩, List.forall_mem_nil _⟩
  | @snoc trace w call next reached moved ih =>
      obtain rfl : call.perform w = next := Option.some.inj moved
      have grown := log_perform w call
      obtain ⟨aged, earlier⟩ := ih (supplies.before grown)
      refine ⟨wellAged_perform call aged supplies, List.forall_mem_append.mpr ⟨?_, ?_⟩⟩
      · intro moment member
        obtain ⟨aged', after⟩ := earlier moment member
        exact ⟨aged', after.trans grown⟩
      · rw [List.forall_mem_singleton]
        exact ⟨aged, List.prefix_rfl⟩

/-- Every victim that was resumed in a test case had completed fewer test cases than a
victim may since it was created, and each of them ended in a single step. -/
def ResumedYoung (log : List Call) : Prop :=
  ∀ before event victim after, log = before ++ .continueDebugEvent event victim :: after →
    (ageOf before).phase = .armed →
    (ageOf before).completed.length < kRespawnEvery.toNat ∧
      ∀ code ∈ (ageOf before).completed, code = EXCEPTION_SINGLE_STEP

/-- A sound record was sound all along. -/
theorem VictimAge.sound_of_foldl {age : VictimAge} {calls : List Call}
    (sound : (calls.foldl VictimAge.post age).sound = true) : age.sound = true := by
  induction calls generalizing age with
  | nil => exact sound
  | cons call calls ih =>
      have later := ih sound
      cases call <;> try exact later
      all_goals
        simp only [VictimAge.post] at later
        repeat' split at later
        all_goals simp_all

/-- Every victim that was resumed for a test case was young. -/
theorem resumedYoung_of_sound {log : List Call} (sound : (ageOf log).sound = true) :
    ResumedYoung log := by
  rintro before event victim after rfl armed
  rw [ageOf_append, List.foldl_cons] at sound
  have here := VictimAge.sound_of_foldl sound
  rw [VictimAge.post, if_pos armed, Bool.and_eq_true, VictimAge.young, Bool.and_eq_true] at here
  refine ⟨of_decide_eq_true here.2.1, fun code completed => ?_⟩
  exact eq_of_beq (List.all_eq_true.mp here.2.2 code completed)

/-- **No reuse of a tainted victim.** In every run of calls on a session, whatever the
events and the replies, as long as the system supplies the handles of a new process and
no memory of a null one: between two calls the session is torn down or fully live, a
test case without the result of a single step leaves it torn down, and every victim that
is resumed in a test case is young and clean. -/
theorem young_throughout {victim : Victim} {stream : List Delivery}
    {trace : List (World × SessionCall)} {final : World}
    (run : Run sessionStep (.initial victim stream) trace final)
    (supplies : SystemSupplies final.log) :
    (∀ moment ∈ trace, TornDown moment.1.impl ∨ FullyLive moment.1.impl) ∧
      (TornDown final.impl ∨ FullyLive final.impl) ∧
      (∀ w r tc, (w, .runOne r tc) ∈ trace →
        (runOne r tc w).1.setupOk = false ∨ (runOne r tc w).1.stop ≠ .ok →
          TornDown (runOne r tc w).2.impl) ∧
      ResumedYoung final.log := by
  obtain ⟨aged, earlier⟩ := wellAged_of_run run supplies
  refine ⟨fun moment member => ?_, aged.2.imp_right Young.live, fun w r tc member tainted => ?_,
    resumedYoung_of_sound aged.1⟩
  · exact (earlier moment member).1.2.imp_right Young.live
  · obtain ⟨aged', after⟩ := earlier _ member
    exact (runOne_age r tc aged' (supplies.before after)).2 tainted

/-- A session whose first test case ends in a single step. -/
theorem young_throughout_single_step :
    ∃ trace final, Run sessionStep (.initial freshVictim (firstStepStream EXCEPTION_SINGLE_STEP))
        trace final ∧
      (∀ moment ∈ trace, TornDown moment.1.impl ∨ FullyLive moment.1.impl) ∧
      (TornDown final.impl ∨ FullyLive final.impl) ∧
      (∀ w r tc, (w, .runOne r tc) ∈ trace →
        (runOne r tc w).1.setupOk = false ∨ (runOne r tc w).1.stop ≠ .ok →
          TornDown (runOne r tc w).2.impl) ∧
      ResumedYoung final.log := by
  have run : Run sessionStep _ _ _ := .of_play
    (.initial freshVictim (firstStepStream EXCEPTION_SINGLE_STEP)) firstStepCalls rfl
  refine ⟨_, _, run, young_throughout run ?_⟩
  unfold SystemSupplies
  decide

end SevenFuzzer
