import SevenFuzzer.Hardware.Session
import SevenFuzzer.Library.Command

/-! # Which part makes which calls

The log of calls only grows. The calls that start a victim, those that serve its
debug events or end it, and those that move the state of a test case are made by
different parts of the session, so a history read off the log changes in one part
only (`SevenFuzzer.GrowsBy`).
-/

namespace SevenFuzzer

open Command

/-- What a call of the session is made for. -/
inductive CallPurpose where
  /-- on the way to a victim at its initial breakpoint -/
  | spawn
  /-- for its debug events and its end -/
  | pump
  /-- for the state of a test case -/
  | transfer
  deriving DecidableEq

/-- The purpose of each call. -/
def Call.purpose : Call → CallPurpose
  | .openProcessToken .. | .duplicateTokenEx .. | .createRestrictedToken .. => .spawn
  | .convertStringSidToSid .. | .setTokenInformation .. => .spawn
  | .createJobObject .. | .setInformationJobObject .. | .createFile .. => .spawn
  | .createProcessAsUser .. | .assignProcessToJobObject .. | .virtualAllocEx .. => .spawn
  | .terminateProcess .. | .closeHandle .. => .pump
  | .waitForDebugEvent .. | .continueDebugEvent .. => .pump
  | .getThreadContext .. | .setThreadContext .. => .transfer
  | .writeProcessMemory .. | .readProcessMemory .. => .transfer

/-- The log has grown by calls of a kind. -/
def GrowsBy (made : Call → Prop) (w w' : World) : Prop :=
  ∃ calls : List Call, w'.log = w.log ++ calls ∧ ∀ call ∈ calls, made call

variable {made : Call → Prop}

theorem GrowsBy.of_log {w w' : World} (same : w'.log = w.log) : GrowsBy made w w' :=
  ⟨[], by rw [same, List.append_nil], List.forall_mem_nil _⟩

theorem GrowsBy.refl (w : World) : GrowsBy made w w := .of_log rfl

theorem GrowsBy.trans {w w' w'' : World} (first : GrowsBy made w w')
    (second : GrowsBy made w' w'') :
    GrowsBy made w w'' := by
  obtain ⟨calls, grown, all⟩ := first
  obtain ⟨calls', grown', all'⟩ := second
  refine ⟨calls ++ calls', ?_, List.forall_mem_append.mpr ⟨all, all'⟩⟩
  rw [grown', grown, List.append_assoc]

theorem GrowsBy.mono {made' : Call → Prop} {w w' : World} (grows : GrowsBy made w w')
    (kinds : ∀ call, made call → made' call) : GrowsBy made' w w' := by
  obtain ⟨calls, grown, all⟩ := grows
  exact ⟨calls, grown, fun call member => kinds call (all call member)⟩

theorem GrowsBy.grows {w w' : World} (grows : GrowsBy made w w') : w.log <+: w'.log := by
  obtain ⟨calls, grown, -⟩ := grows
  exact ⟨calls, grown.symm⟩

/-- What the calls leave of a history that is read off the log. -/
theorem GrowsBy.foldl_eq {History : Type} {post : History → Call → History} {w w' : World}
    (grows : GrowsBy made w w') (kept : ∀ history call, made call → post history call = history)
    (start : History) : w'.log.foldl post start = w.log.foldl post start := by
  obtain ⟨calls, grown, all⟩ := grows
  rw [grown, List.foldl_append]
  generalize w.log.foldl post start = history
  clear grown
  induction calls with
  | nil => rfl
  | cons call calls ih =>
      rw [List.forall_mem_cons] at all
      rw [List.foldl_cons, kept _ _ all.1]
      exact ih all.2

theorem respects_mono {rel rel' : World → World → Prop} {α : Type} {prog : Session α}
    (weaker : ∀ w w', rel w w' → rel' w w') (respects : Respects rel prog) : Respects rel' prog :=
  fun w => wp_mono (fun _ w' => weaker w w') (fun _ w' => weaker w w') (respects w)

theorem growsBy_pure {α : Type} (value : α) : Respects (GrowsBy made) (pure value : Session α) :=
  respects_pure GrowsBy.refl value

theorem growsBy_throw {α : Type} (error : String) :
    Respects (GrowsBy made) (throw error : Session α) :=
  respects_throw GrowsBy.refl error

theorem growsBy_get : Respects (GrowsBy made) (get : Session World) := respects_get GrowsBy.refl

/-- One program after another. -/
theorem growsBy_bind {α β : Type} {prog : Session α} {next : α → Session β}
    (first : Respects (GrowsBy made) prog)
    (second : ∀ value, Respects (GrowsBy made) (next value)) :
    Respects (GrowsBy made) (prog >>= next) :=
  respects_bind (fun _ _ _ now later => now.trans later) first second

/-- A call of the allowed kind. -/
theorem growsBy_record {call : Call} (allowed : made call) :
    Respects (GrowsBy made) (record call) :=
  respects_modify fun _ => ⟨[call], rfl, List.forall_mem_singleton.mpr allowed⟩

/-- The session's own state is not in the log. -/
theorem growsBy_modifyImpl (f : Impl → Impl) : Respects (GrowsBy made) (modifyImpl f) :=
  respects_modify fun _ => .of_log rfl

theorem growsBy_modifyVictim (f : Victim → Victim) : Respects (GrowsBy made) (modifyVictim f) :=
  respects_modify fun _ => .of_log rfl

/-- An action that is left out for a null handle. -/
theorem growsBy_whenOpen {handle : HANDLE} {action : Session Unit}
    (grows : Respects (GrowsBy made) action) : Respects (GrowsBy made) (whenOpen handle action) :=
  respects_ite grows (growsBy_pure ())

/-- The calls of a part serve a purpose. -/
abbrev Serves (purpose : CallPurpose) (w w' : World) : Prop :=
  GrowsBy (fun call => call.purpose = purpose) w w'

/-- Nothing is called for this purpose. -/
abbrev NeverServes (purpose : CallPurpose) (w w' : World) : Prop :=
  GrowsBy (fun call => call.purpose ≠ purpose) w w'

/-- What is made for one purpose is not made for another. -/
theorem neverServes_of_serves {purpose other : CallPurpose} (differ : purpose ≠ other) {α : Type}
    {prog : Session α} (serves : Respects (Serves purpose) prog) :
    Respects (NeverServes other) prog :=
  respects_mono (fun _ _ grows => grows.mono fun _ served => served ▸ differ) serves

/-- What a history must allow of the calls that serve the events of a victim and end
it. A pump that waits in vain is not among them. -/
structure AllowsPump (made : Call → Prop) : Prop where
  terminate : ∀ process exitCode, made (.terminateProcess process exitCode)
  close : ∀ kind handle, made (.closeHandle kind handle)
  obtained : ∀ milliseconds event, made (.waitForDebugEvent milliseconds (some event))
  drained : made (.waitForDebugEvent 200 none)
  continued : ∀ event resumed, made (.continueDebugEvent event resumed)

/-- The lemmas below say of each program of a pump that it makes the calls of a pump only. -/
theorem growsBy_close (allows : AllowsPump made) (kind : HandleKind) (handle handle' : HANDLE) :
    Respects (GrowsBy made) (whenOpen handle (closeHandle kind handle')) :=
  growsBy_whenOpen (growsBy_record (allows.close kind handle'))

theorem growsBy_continue (allows : AllowsPump made) (de : DebugEvent) :
    Respects (GrowsBy made) (continueDebugEvent de) :=
  growsBy_bind growsBy_get fun _ => growsBy_record (allows.continued _ _)

/-- A wait is allowed, and a wait for nothing where that is. -/
theorem growsBy_wait (allows : AllowsPump made) {milliseconds : Nat} {delivery : Delivery}
    (waits : delivery.event = none → made (.waitForDebugEvent milliseconds none))
    (rest : List Delivery) :
    Respects (GrowsBy made) (waitForDebugEvent milliseconds delivery rest) := by
  intro w
  simp only [waitForDebugEvent, record, wp_bind, wp_get, wp_set, wp_modify, wp_pure]
  refine ⟨_, rfl, List.forall_mem_singleton.mpr ?_⟩
  cases brought : delivery.event with
  | none => exact waits brought
  | some event => exact allows.obtained _ _

/-- By induction on the waits that are left. -/
theorem growsBy_drainLoop (allows : AllowsPump made) (count : Nat) (stream : List Delivery) :
    Respects (GrowsBy made) (drainLoop count stream) := by
  induction count generalizing stream with
  | zero => exact growsBy_pure ()
  | succ count ih =>
      cases stream with
      | nil => exact growsBy_record allows.drained
      | cons delivery rest =>
          refine growsBy_bind (growsBy_wait allows (fun _ => allows.drained) _) fun obtained => ?_
          cases obtained with
          | none => exact growsBy_pure ()
          | some de =>
              exact growsBy_bind (growsBy_continue allows de) fun _ =>
                respects_ite (growsBy_pure ()) (ih rest)

/-- Giving the victim up is part of every pump. -/
theorem growsBy_teardown (allows : AllowsPump made) : Respects (GrowsBy made) teardown := by
  have drains : Respects (GrowsBy made) drainToExit :=
    growsBy_bind growsBy_get fun w => respects_ite (growsBy_pure ())
      (growsBy_bind (growsBy_record (allows.terminate _ _)) fun _ =>
        growsBy_drainLoop allows 50 w.stream)
  refine growsBy_bind growsBy_get fun w => ?_
  refine growsBy_bind (growsBy_whenOpen drains) fun _ => ?_
  refine growsBy_bind (growsBy_close allows _ _ _) fun _ => ?_
  refine growsBy_bind (growsBy_close allows _ _ _) fun _ => ?_
  refine growsBy_bind (growsBy_close allows _ _ _) fun _ => ?_
  exact growsBy_modifyImpl _

theorem growsBy_tearDownWith (allows : AllowsPump made) {α : Type} (error : String) :
    Respects (GrowsBy made) (tearDownWith error : Session α) :=
  growsBy_bind (growsBy_teardown allows) fun _ => growsBy_throw error

theorem growsBy_handleSpawnEvent (allows : AllowsPump made) (de : DebugEvent) :
    Respects (GrowsBy made) (handleSpawnEvent de) := by
  obtain ⟨serial, processId, threadId, info⟩ := de
  cases info with
  | loadDll hFile =>
      exact growsBy_bind (growsBy_close allows _ _ _) fun _ => growsBy_continue allows _
  | createProcess hFile hProcess hThread =>
      refine growsBy_bind (growsBy_close allows _ _ _) fun _ => ?_
      refine growsBy_bind (growsBy_whenOpen (growsBy_modifyImpl _)) fun _ => ?_
      exact growsBy_bind (growsBy_whenOpen (growsBy_modifyImpl _)) fun _ =>
        growsBy_continue allows _
  | exitProcess =>
      exact growsBy_bind (growsBy_continue allows _) fun _ => growsBy_tearDownWith allows _
  | _ => exact growsBy_continue allows _

theorem growsBy_resume (allows : AllowsPump made) : Respects (GrowsBy made) resume :=
  growsBy_bind growsBy_get fun _ =>
    respects_ite (growsBy_bind (growsBy_continue allows _) fun _ => growsBy_modifyImpl _)
      (growsBy_pure ())

theorem growsBy_handleRunEvent (allows : AllowsPump made) (de : DebugEvent) :
    Respects (GrowsBy made) (handleRunEvent de) := by
  have exits : Respects (GrowsBy made) (do
      continueDebugEvent de
      tearDownWith "victim died mid test case" : Session Unit) :=
    growsBy_bind (growsBy_continue allows de) fun _ => growsBy_tearDownWith allows _
  obtain ⟨serial, processId, threadId, info⟩ := de
  cases info with
  | loadDll hFile =>
      exact growsBy_bind (growsBy_close allows _ _ _) fun _ => growsBy_continue allows _
  | exitProcess => exact exits
  | rip => exact exits
  | _ => exact growsBy_continue allows _

theorem growsBy_respawnHygiene (allows : AllowsPump made) (out : LaneOutcome) :
    Respects (GrowsBy made) (respawnHygiene out) :=
  growsBy_bind (growsBy_modifyImpl _) fun _ => growsBy_bind growsBy_get fun _ =>
    respects_ite (growsBy_bind (growsBy_teardown allows) fun _ => growsBy_pure out)
      (growsBy_pure out)

/-- The calls of a pump are made for a pump. -/
theorem allowsPump_serves : AllowsPump fun call => call.purpose = .pump :=
  ⟨fun _ _ => rfl, fun _ _ => rfl, fun _ _ => rfl, rfl, fun _ _ => rfl⟩

theorem serves_continue (de : DebugEvent) : Respects (Serves .pump) (continueDebugEvent de) :=
  growsBy_continue allowsPump_serves de

theorem serves_wait (milliseconds : Nat) (delivery : Delivery) (rest : List Delivery) :
    Respects (Serves .pump) (waitForDebugEvent milliseconds delivery rest) :=
  growsBy_wait allowsPump_serves (fun _ => rfl) rest

/-- Giving the victim up is a matter of the pumps. -/
theorem serves_teardown : Respects (Serves .pump) teardown := growsBy_teardown allowsPump_serves

theorem serves_tearDownWith {α : Type} (error : String) :
    Respects (Serves .pump) (tearDownWith error : Session α) :=
  growsBy_tearDownWith allowsPump_serves error

theorem serves_resume : Respects (Serves .pump) resume := growsBy_resume allowsPump_serves

theorem serves_handleRunEvent (de : DebugEvent) :
    Respects (Serves .pump) (handleRunEvent de) :=
  growsBy_handleRunEvent allowsPump_serves de

theorem serves_respawnHygiene (out : LaneOutcome) :
    Respects (Serves .pump) (respawnHygiene out) :=
  growsBy_respawnHygiene allowsPump_serves out

/-- So is the pump of a start. -/
theorem serves_pumpToBreakpoint (stream : List Delivery) (n : Nat) :
    Respects (Serves .pump) (pumpToBreakpoint stream n) := by
  induction stream generalizing n with
  | nil => exact growsBy_bind (growsBy_record rfl) fun _ => serves_tearDownWith _
  | cons delivery rest ih =>
      refine growsBy_bind (serves_wait _ _ _) fun obtained => ?_
      cases obtained with
      | none => exact serves_tearDownWith _
      | some de =>
          dsimp only
          cases de.info.exceptionRecord with
          | some rec =>
              exact respects_ite (growsBy_modifyImpl _)
                (growsBy_bind (serves_continue de) fun _ => ih n)
          | none =>
              exact respects_ite (serves_tearDownWith _)
                (growsBy_bind (growsBy_handleSpawnEvent allowsPump_serves de) fun _ => ih (n + 1))

theorem noTransfer_spawn {call : Call} (served : call.purpose = .spawn) :
    Respects (NeverServes .transfer) (record call) :=
  growsBy_record (served ▸ by decide)

/-- A pump transfers nothing. -/
theorem noTransfer_pump {α : Type} {prog : Session α} (serves : Respects (Serves .pump) prog) :
    Respects (NeverServes .transfer) prog :=
  neverServes_of_serves (by decide) serves

theorem noTransfer_close (kind : HandleKind) (handle : HANDLE) :
    Respects (NeverServes .transfer) (closeHandle kind handle) :=
  noTransfer_pump (growsBy_record rfl)

/-- The calls that build the token. -/
def Call.buildsToken : Call → Bool
  | .openProcessToken .. | .duplicateTokenEx .. | .createRestrictedToken .. => true
  | .convertStringSidToSid .. | .setTokenInformation .. | .closeHandle .token _ => true
  | _ => false

/-- The token is built by the five calls that build a token. -/
theorem growsBy_buildRestrictedToken (r : SpawnReplies) :
    Respects (GrowsBy fun call => call.buildsToken = true) (buildRestrictedToken r) := by
  refine growsBy_bind (growsBy_record rfl) fun _ => ?_
  cases r.openProcessToken with
  | none => exact growsBy_throw _
  | some selfToken =>
      refine growsBy_bind (growsBy_record rfl) fun _ =>
        growsBy_bind (growsBy_record rfl) fun _ => ?_
      cases r.duplicateTokenEx with
      | none => exact growsBy_throw _
      | some dupToken =>
          refine growsBy_bind (growsBy_record rfl) fun _ =>
            growsBy_bind (growsBy_record rfl) fun _ => ?_
          cases r.createRestrictedToken with
          | none => exact growsBy_throw _
          | some restrictedToken =>
              have fails : ∀ error, Respects (GrowsBy fun call => call.buildsToken = true) (do
                  closeHandle .token restrictedToken
                  throw error : Session HANDLE) := fun error =>
                growsBy_bind (growsBy_record rfl) fun _ => growsBy_throw error
              refine growsBy_bind (growsBy_record rfl) fun _ => respects_ite (fails _) ?_
              refine growsBy_bind (growsBy_record rfl) fun _ => respects_ite (fails _) ?_
              exact growsBy_pure _

/-- None of them is a transfer. -/
theorem noTransfer_buildRestrictedToken (r : SpawnReplies) :
    Respects (NeverServes .transfer) (buildRestrictedToken r) := by
  refine respects_mono (fun _ _ grows => grows.mono fun call builds => ?_)
    (growsBy_buildRestrictedToken r)
  cases call <;> first | exact absurd builds Bool.false_ne_true | exact nofun

/-- Nor is a call of the launch. -/
theorem noTransfer_launchVictim (r : SpawnReplies) (token : HANDLE) :
    Respects (NeverServes .transfer) (launchVictim r token) := by
  refine growsBy_bind (noTransfer_spawn rfl) fun _ => growsBy_bind (growsBy_modifyImpl _)
    fun _ => ?_
  refine respects_ite (growsBy_bind (noTransfer_close _ _) fun _ => growsBy_throw _) ?_
  refine growsBy_bind (noTransfer_spawn rfl) fun _ => ?_
  refine growsBy_bind (noTransfer_spawn rfl) fun _ => ?_
  refine growsBy_bind (noTransfer_spawn rfl) fun _ => growsBy_bind growsBy_get fun _ => ?_
  refine growsBy_bind (noTransfer_spawn rfl) fun _ => growsBy_bind (noTransfer_close _ _)
    fun _ => ?_
  refine growsBy_bind (growsBy_whenOpen (noTransfer_close _ _)) fun _ => ?_
  cases r.createProcessAsUser with
  | none =>
      exact growsBy_bind (noTransfer_close _ _) fun _ =>
        growsBy_bind (growsBy_modifyImpl _) fun _ => growsBy_throw _
  | some pi =>
      refine growsBy_bind (growsBy_modifyVictim _) fun _ => ?_
      refine growsBy_bind (growsBy_modifyImpl _) fun _ =>
        growsBy_bind (noTransfer_spawn rfl) fun _ => ?_
      exact growsBy_bind (noTransfer_close _ _) fun _ => noTransfer_close _ _

/-- **A start transfers nothing.** -/
theorem noTransfer_spawnFresh (r : SpawnReplies) :
    Respects (NeverServes .transfer) (spawnFresh r) := by
  refine growsBy_bind (noTransfer_pump serves_teardown) fun _ => ?_
  refine growsBy_bind (noTransfer_buildRestrictedToken r) fun token => ?_
  refine growsBy_bind (noTransfer_launchVictim r token) fun _ =>
    growsBy_bind growsBy_get fun w => ?_
  refine growsBy_bind (noTransfer_pump (serves_pumpToBreakpoint w.stream 0)) fun _ => ?_
  refine growsBy_bind growsBy_get fun _ => growsBy_bind (noTransfer_spawn rfl) fun _ => ?_
  refine respects_ite (noTransfer_pump (serves_tearDownWith _)) ?_
  exact growsBy_bind (growsBy_modifyVictim _) fun _ => growsBy_modifyImpl _

/-- A pump starts nothing. -/
theorem noSpawn_pump {α : Type} {prog : Session α} (serves : Respects (Serves .pump) prog) :
    Respects (NeverServes .spawn) prog :=
  neverServes_of_serves (by decide) serves

theorem noSpawn_getThreadContext (thread : HANDLE) (ok : Bool) :
    Respects (NeverServes .spawn) (getThreadContext thread ok) := by
  refine growsBy_bind (growsBy_record ?_) fun _ => growsBy_bind growsBy_get fun _ => growsBy_pure _
  exact nofun

/-- Nor does any part of a step. -/
theorem noSpawn_setUpContext (r : RunReplies) (tc : TestCase) :
    Respects (NeverServes .spawn) (setUpContext r tc) := by
  refine growsBy_bind growsBy_get fun w => growsBy_bind (noSpawn_getThreadContext _ _) fun got => ?_
  cases got with
  | none => exact noSpawn_pump (serves_tearDownWith _)
  | some ctx =>
      have stores : Respects (NeverServes .spawn)
          (setThreadContext w.impl.thread (contextFor ctx tc) r.setThreadContext) := by
        intro w
        simp only [setThreadContext, record, modifyVictim, wp_bind, wp_modify, wp_ite, wp_pure]
        split <;> exact ⟨[_], rfl, List.forall_mem_singleton.mpr (by rintro ⟨⟩)⟩
      exact growsBy_bind stores fun _ =>
        respects_ite (noSpawn_pump (serves_tearDownWith _)) (growsBy_pure _)

theorem noSpawn_write (process : HANDLE) (address : BitVec 64) (bytes : List (BitVec 8))
    (ok : Bool) :
    Respects (NeverServes .spawn) (writeProcessMemory process address bytes ok) := by
  intro w
  simp only [writeProcessMemory, record, modifyVictim, wp_bind, wp_modify, wp_ite, wp_pure]
  split <;> exact ⟨[_], rfl, List.forall_mem_singleton.mpr (by rintro ⟨⟩)⟩

theorem noSpawn_setUpCode (r : RunReplies) (tc : TestCase) :
    Respects (NeverServes .spawn) (setUpCode r tc) := by
  refine respects_ite (growsBy_pure _) ?_
  refine growsBy_bind growsBy_get fun w => growsBy_bind (noSpawn_write _ _ _ _) fun _ => ?_
  exact respects_ite (noSpawn_pump (serves_tearDownWith _)) (growsBy_pure _)

theorem noSpawn_setUpMemory (r : RunReplies) (tc : TestCase) :
    Respects (NeverServes .spawn) (setUpMemory r tc) := by
  have discards : ∀ process address bytes ok, Respects (NeverServes .spawn)
      (discard (writeProcessMemory process address bytes ok)) := by
    intro process address bytes ok w
    rw [wp_discard]
    exact noSpawn_write process address bytes ok w
  refine growsBy_bind growsBy_get fun w => ?_
  refine growsBy_bind (discards _ _ _ _) fun _ => growsBy_bind (discards _ _ _ _) fun _ => ?_
  exact growsBy_bind (discards _ _ _ _) fun _ => discards _ _ _ _

theorem noSpawn_classify (r : RunReplies) (de : DebugEvent) (rec : ExceptionRecord) :
    Respects (NeverServes .spawn) (classify r de rec) := by
  refine growsBy_bind growsBy_get fun w => growsBy_bind (noSpawn_getThreadContext _ _) fun _ => ?_
  have reads : Respects (NeverServes .spawn)
      (readProcessMemory w.impl.process kDataBase kDataWindow r.readProcessMemory) :=
    growsBy_bind (growsBy_record nofun) fun _ => growsBy_bind growsBy_get fun _ => growsBy_pure _
  exact growsBy_bind reads fun _ => growsBy_bind (growsBy_modifyImpl _) fun _ => growsBy_pure _

/-- Nor does the pump of a test case. -/
theorem noSpawn_pumpToException (r : RunReplies) (stream : List Delivery) (n : Nat) :
    Respects (NeverServes .spawn) (pumpToException r stream n) := by
  induction stream generalizing n with
  | nil =>
      exact growsBy_bind (noSpawn_pump (growsBy_record rfl)) fun _ =>
        noSpawn_pump (serves_tearDownWith _)
  | cons delivery rest ih =>
      refine growsBy_bind (noSpawn_pump (serves_wait _ _ _)) fun obtained => ?_
      cases obtained with
      | none => exact noSpawn_pump (serves_tearDownWith _)
      | some de =>
          dsimp only
          cases de.info.exceptionRecord with
          | some rec => exact noSpawn_classify r de rec
          | none =>
              refine respects_ite (noSpawn_pump (serves_tearDownWith _)) ?_
              exact growsBy_bind (noSpawn_pump (serves_handleRunEvent de)) fun _ => ih (n + 1)

/-- **A step starts nothing.** -/
theorem noSpawn_stepVictim (r : RunReplies) (tc : TestCase) :
    Respects (NeverServes .spawn) (stepVictim r tc) := by
  refine growsBy_bind (noSpawn_setUpContext r tc) fun _ => ?_
  refine growsBy_bind (noSpawn_setUpCode r tc) fun _ => ?_
  refine growsBy_bind (noSpawn_setUpMemory r tc) fun _ => ?_
  refine growsBy_bind (noSpawn_pump serves_resume) fun _ => growsBy_bind growsBy_get fun w => ?_
  refine growsBy_bind (noSpawn_pumpToException r w.stream 0) fun out => ?_
  exact noSpawn_pump (serves_respawnHygiene out)

/-- What holds of a program's log holds of what it leaves. -/
theorem growsBy_worldAfter {α : Type} {prog : Session α} (grows : Respects (GrowsBy made) prog)
    (w : World) : GrowsBy made w (worldAfter prog w) := by
  have held := grows w
  rw [worldAfter]
  cases ended : prog w with
  | ok value w' => exact (wp_of_ok ended).mp held
  | error error w' => exact (wp_of_error ended).mp held

/-- A call on a session adds to the log. -/
theorem log_perform (w : World) (call : SessionCall) : w.log <+: (call.perform w).log := by
  have any : ∀ {made : Call → Prop} {α : Type} {prog : Session α}, Respects (GrowsBy made) prog →
      Respects (GrowsBy fun _ => True) prog := fun grows =>
    respects_mono (fun _ _ grown => grown.mono fun _ _ => trivial) grows
  have ready : ∀ r, Respects (GrowsBy fun _ => True) (ensureReady r) := fun r =>
    growsBy_bind growsBy_get fun _ => respects_ite (growsBy_pure _) (any (noTransfer_spawnFresh r))
  cases call with
  | start victimPath r =>
      exact (growsBy_worldAfter (growsBy_bind (growsBy_modifyImpl _) fun _ => ready r) w).grows
  | runOne r tc =>
      have steps : (runOne r tc w).2 = worldAfter (runSteps r tc) w := by
        rw [runOne, worldAfter]
        cases runSteps r tc w <;> rfl
      rw [SessionCall.perform, steps]
      exact (growsBy_worldAfter (growsBy_bind (ready r.spawn) fun _ =>
        any (noSpawn_stepVictim r tc)) w).grows
  | shutdown => exact (growsBy_worldAfter (any serves_teardown) w).grows

end SevenFuzzer
