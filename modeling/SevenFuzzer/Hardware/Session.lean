import SevenFuzzer.Hardware.Context

/-! # The hardware session

`HardwareSession::Impl`: a victim process under a debugger. `spawnFresh` starts a
victim and pumps its debug events up to the initial breakpoint, `runOne` sets
the victim up for a test case, resumes it and pumps its events up to the next
exception, and `teardown` ends it. The event that stopped the victim is parked
in the session and continued when the next test case resumes it.
-/

namespace SevenFuzzer

/-- How long a pump waits for its next event. -/
def kWaitTimeoutMs : Nat := 10000
/-- A victim is replaced after this many test cases. -/
def kRespawnEvery : BitVec 64 := 2000#64
/-- The cap on the events other than exceptions in one pump. -/
def kMaxUninterestingEvents : Nat := 10000

/-- The replies of the calls that build the token and start a victim. -/
structure SpawnReplies where
  openProcessToken : Option HANDLE
  duplicateTokenEx : Option HANDLE
  createRestrictedToken : Option HANDLE
  convertStringSidToSid : Bool
  setTokenInformation : Bool
  createJobObject : HANDLE
  setExtendedLimits : Bool
  setUiRestrictions : Bool
  createFile : HANDLE
  createProcessAsUser : Option ProcessInformation
  createdVictim : Victim
  assignProcessToJobObject : Bool
  virtualAllocEx : BitVec 64
  lastError : BitVec 32

/-- The replies of the calls `run_one` makes itself, and of those of the victim it
may have to start first. -/
structure RunReplies where
  spawn : SpawnReplies
  getThreadContext : Bool := true
  setThreadContext : Bool := true
  writeCode : Bool := true
  writeZeroData : Bool := true
  writeZeroStack : Bool := true
  writeSeed : Bool := true
  writeRetaddr : Bool := true
  getThreadContextAfter : Bool := true
  readProcessMemory : Bool := true

/-- Every call on the way to a victim succeeds. -/
def SpawnReplies.granted (victim : Victim) : SpawnReplies where
  openProcessToken := some 4
  duplicateTokenEx := some 8
  createRestrictedToken := some 12
  convertStringSidToSid := true
  setTokenInformation := true
  createJobObject := 16
  setExtendedLimits := true
  setUiRestrictions := true
  createFile := 20
  createProcessAsUser := some ⟨24, 28, 100⟩
  createdVictim := victim
  assignProcessToJobObject := true
  virtualAllocEx := kCodeBase
  lastError := 0

/-- Waits for the exit of the victim and continues what comes before it. -/
def drainLoop : Nat → List Delivery → Session Unit
  | 0, _ => return
  | _ + 1, [] => waitForNothing 200
  | i + 1, delivery :: rest => do
      match ← waitForDebugEvent 200 delivery rest with
      | none => return
      | some de =>
          continueDebugEvent de
          if de.info.isExitProcess then return
          drainLoop i rest

/-- Terminates the victim and waits for its exit. -/
def drainToExit : Session Unit := do
  let w ← get
  if w.impl.process = 0 then return
  record (.terminateProcess w.impl.process 1#32)
  drainLoop 50 w.stream

/-- `teardown`: ends the victim, closes the session's handles and forgets them. -/
def teardown : Session Unit := do
  let w ← get
  whenOpen w.impl.process drainToExit
  whenOpen w.impl.thread (closeHandle .victimThread w.impl.thread)
  whenOpen w.impl.process (closeHandle .victimProcess w.impl.process)
  whenOpen w.impl.job (closeHandle .job w.impl.job)
  modifyImpl fun impl =>
    { impl with
      thread := 0, process := 0, job := 0, ready := false, pendingValid := false, pid := 0 }

/-- The end of a path that gives the victim up with an error. -/
def tearDownWith {α : Type} (error : String) : Session α := do
  teardown
  throw error

/-- The identifier of the low integrity level. -/
def lowIntegritySid : String := "S-1-16-4096"

/-- `build_restricted_token`: a primary token without privileges at low integrity. A path
that fails closes what it opened. -/
def buildRestrictedToken (r : SpawnReplies) : Session HANDLE := do
  record (.openProcessToken r.openProcessToken)
  let some selfToken := r.openProcessToken | throw "OpenProcessToken failed"
  record (.duplicateTokenEx selfToken r.duplicateTokenEx)
  closeHandle .token selfToken
  let some dupToken := r.duplicateTokenEx | throw "DuplicateTokenEx failed"
  record (.createRestrictedToken dupToken r.createRestrictedToken)
  closeHandle .token dupToken
  let some restrictedToken := r.createRestrictedToken | throw "CreateRestrictedToken failed"
  record (.convertStringSidToSid lowIntegritySid r.convertStringSidToSid)
  if ¬ r.convertStringSidToSid then
    closeHandle .token restrictedToken
    throw "ConvertStringSidToSidW failed"
  record (.setTokenInformation restrictedToken lowIntegritySid r.setTokenInformation)
  if ¬ r.setTokenInformation then
    closeHandle .token restrictedToken
    throw "SetTokenInformation(TokenIntegrityLevel) failed"
  return restrictedToken

/-- Killed with its job, alone in it, and capped in memory. -/
def jobLimits : JobLimits := .extended true true true 1 (64 * 1024 * 1024)

/-- What of the user interface the job denies. -/
def jobUiRestrictions : JobLimits :=
  .uiRestrictions ["HANDLES", "DESKTOP", "EXITWINDOWS", "DISPLAYSETTINGS", "GLOBALATOMS",
    "SYSTEMPARAMETERS", "WRITECLIPBOARD"]

/-- An event before the sync point that is no exception. The handles of the
victim are those its creation event brings, not those of `PROCESS_INFORMATION`. -/
def handleSpawnEvent (de : DebugEvent) : Session Unit :=
  match de.info with
  | .loadDll hFile => do
      whenOpen hFile (closeHandle .file hFile)
      continueDebugEvent de
  | .createProcess hFile hProcess hThread => do
      whenOpen hFile (closeHandle .file hFile)
      whenOpen hThread (modifyImpl fun impl => { impl with thread := hThread })
      whenOpen hProcess (modifyImpl fun impl => { impl with process := hProcess })
      continueDebugEvent de
  | .exitProcess => do
      continueDebugEvent de
      tearDownWith "victim exited before reaching sync point"
  | _ => continueDebugEvent de

/-- The pump of `spawn_fresh`: it ends with the initial breakpoint parked. -/
def pumpToBreakpoint : List Delivery → Nat → Session Unit
  | [], _ => do
      waitForNothing kWaitTimeoutMs
      tearDownWith "WaitForDebugEvent timed out waiting for initial breakpoint"
  | delivery :: rest, uninterestingEvents => do
      match ← waitForDebugEvent kWaitTimeoutMs delivery rest with
      | none => tearDownWith "WaitForDebugEvent timed out waiting for initial breakpoint"
      | some de =>
          match de.info.exceptionRecord with
          | some rec =>
              if rec.exceptionCode = EXCEPTION_BREAKPOINT then
                modifyImpl fun impl => { impl with pendingEvent := de, pendingValid := true }
              else
                continueDebugEvent de
                pumpToBreakpoint rest uninterestingEvents
          | none =>
              if uninterestingEvents + 1 > kMaxUninterestingEvents then
                tearDownWith "too many non-exception debug events without reaching the sync point"
              else
                handleSpawnEvent de
                pumpToBreakpoint rest (uninterestingEvents + 1)

/-- The job object and the process under it, up to the pump. -/
def launchVictim (r : SpawnReplies) (token : HANDLE) : Session Unit := do
  record (.createJobObject r.createJobObject)
  modifyImpl fun impl => { impl with job := r.createJobObject }
  if r.createJobObject = 0 then
    closeHandle .token token
    throw "CreateJobObjectW failed"
  record (.setInformationJobObject r.createJobObject jobLimits r.setExtendedLimits)
  record (.setInformationJobObject r.createJobObject jobUiRestrictions r.setUiRestrictions)
  record (.createFile "NUL" r.createFile)
  let w ← get
  record (.createProcessAsUser token w.impl.victimPath ("\"" ++ w.impl.victimPath ++ "\"")
    r.createProcessAsUser)
  closeHandle .token token
  whenOpen (if r.createFile = INVALID_HANDLE_VALUE then 0 else r.createFile)
    (closeHandle .file r.createFile)
  match r.createProcessAsUser with
  | none =>
      closeHandle .job r.createJobObject
      modifyImpl fun impl => { impl with job := 0 }
      throw ("CreateProcessAsUserW failed (err=" ++ toString r.lastError.toNat ++ ")")
  | some pi =>
      modifyVictim fun _ => r.createdVictim
      modifyImpl fun impl => { impl with pid := pi.processId }
      record (.assignProcessToJobObject r.createJobObject pi.hProcess r.assignProcessToJobObject)
      closeHandle .createdThread pi.hThread
      closeHandle .createdProcess pi.hProcess

/-- The three pages come zeroed. -/
def mapPages (v : Victim) : Victim :=
  { v with memory := writeBytes v.memory kCodeBase (List.replicate (3 * kPageSize) 0) }

/-- One reservation for the three pages, after which the victim is ready. -/
def mapScratch (r : SpawnReplies) : Session Unit := do
  let w ← get
  record (.virtualAllocEx w.impl.process kCodeBase (3 * kPageSize) r.virtualAllocEx)
  if r.virtualAllocEx = 0 ∨ r.virtualAllocEx ≠ kCodeBase then
    tearDownWith ("VirtualAllocEx failed for scratch region (err=" ++
      toString r.lastError.toNat ++ ")")
  else
    modifyVictim mapPages
    modifyImpl fun impl => { impl with ready := true, stepsSinceRespawn := 0 }

/-- `spawn_fresh`: tears the old victim down, launches a new one and pumps it to its first
breakpoint. -/
def spawnFresh (r : SpawnReplies) : Session Unit := do
  teardown
  let token ← buildRestrictedToken r
  launchVictim r token
  let w ← get
  pumpToBreakpoint w.stream 0
  mapScratch r

/-- `ensure_ready`: a victim that is ready is kept. -/
def ensureReady (r : SpawnReplies) : Session Unit := do
  let w ← get
  if w.impl.ready then return
  spawnFresh r

/-- The context `run_one` sets: the whole of it comes from the test case. -/
def contextFor (ctx : Context) (tc : TestCase) : Context :=
  let ctx := applyContextToGpr ctx tc.initial
  let ctx := applyContextToXmm ctx tc.initial
  let ctx := applyContextToX87 ctx tc.initial
  { ctx with
    rip := kCodeBase
    eFlags := ((tc.initial.rflags &&& kCompareFlagsMask) ||| 0x100#64 ||| 0x2#64).setWidth 32 }

/-- Sets the registers of the test case in the victim's thread. -/
def setUpContext (r : RunReplies) (tc : TestCase) : Session Unit := do
  let w ← get
  match ← getThreadContext w.impl.thread r.getThreadContext with
  | none => tearDownWith "GetThreadContext failed"
  | some ctx =>
      if ¬ (← setThreadContext w.impl.thread (contextFor ctx tc) r.setThreadContext) then
        tearDownWith "SetThreadContext failed"

/-- The bytes of a word, lowest first. -/
def littleEndian (size : Nat) {width : Nat} (word : BitVec width) : List (BitVec 8) :=
  (List.range size).map fun i => word.extractLsb' (8 * i) 8

/-- Writes the bytes of the test case at the start of the code page, and leaves the rest of the page
as it is. -/
def setUpCode (r : RunReplies) (tc : TestCase) : Session Unit := do
  if tc.bytes = [] then return
  let w ← get
  if ¬ (← writeProcessMemory w.impl.process kCodeBase tc.bytes r.writeCode) then
    tearDownWith "WriteProcessMemory(code) failed"

/-- The pages are reset for every test case; the replies are not looked at. -/
def setUpMemory (r : RunReplies) (tc : TestCase) : Session Unit := do
  let w ← get
  let process := w.impl.process
  let zero := List.replicate kPageSize 0#8
  discard (writeProcessMemory process kDataBase zero r.writeZeroData)
  discard (writeProcessMemory process kStackBase zero r.writeZeroStack)
  discard (writeProcessMemory process kDataBase (List.ofFn tc.dataSeed) r.writeSeed)
  discard (writeProcessMemory process kStackTop (littleEndian 8 kCodeBase) r.writeRetaddr)

/-- Continues the parked event, which resumes the victim. -/
def resume : Session Unit := do
  let w ← get
  if w.impl.pendingValid then
    continueDebugEvent w.impl.pendingEvent
    modifyImpl fun impl => { impl with pendingValid := false }

/-- The state a lane reports, read from the context alone. -/
def readAllFromContext (ctx : Context) : RegState :=
  readX87FromContext ctx (readXmmFromContext ctx (readGprFromContext ctx {}))

/-- The outcome read off an exception and the state it stopped in; the event is
parked. -/
def classify (r : RunReplies) (de : DebugEvent) (rec : ExceptionRecord) :
    Session LaneOutcome := do
  let w ← get
  let context ← getThreadContext w.impl.thread r.getThreadContextAfter
  let after := context.elim ({} : RegState) readAllFromContext
  let window ← readProcessMemory w.impl.process kDataBase kDataWindow r.readProcessMemory
  modifyImpl fun impl => { impl with pendingEvent := de, pendingValid := true }
  return {
    stop := mapException rec
    detail := exceptionDetail rec
    after := { after with dataAfter := window.getD after.dataAfter }
    capturesX87 := context.isSome }

/-- An event during the step that is no exception. -/
def handleRunEvent (de : DebugEvent) : Session Unit :=
  match de.info with
  | .loadDll hFile => do
      whenOpen hFile (closeHandle .file hFile)
      continueDebugEvent de
  | .exitProcess | .rip => do
      continueDebugEvent de
      tearDownWith "victim died mid test case"
  | _ => continueDebugEvent de

/-- The pump of `run_one`. -/
def pumpToException (r : RunReplies) : List Delivery → Nat → Session LaneOutcome
  | [], _ => do
      waitForNothing kWaitTimeoutMs
      tearDownWith "WaitForDebugEvent timeout"
  | delivery :: rest, uninterestingEvents => do
      match ← waitForDebugEvent kWaitTimeoutMs delivery rest with
      | none => tearDownWith "WaitForDebugEvent timeout"
      | some de =>
          match de.info.exceptionRecord with
          | some rec => classify r de rec
          | none =>
              if uninterestingEvents + 1 > kMaxUninterestingEvents then
                tearDownWith "too many non-exception debug events without progress"
              else
                handleRunEvent de
                pumpToException r rest (uninterestingEvents + 1)

/-- After a classified step: a fault or old age ends the victim. -/
def respawnHygiene (out : LaneOutcome) : Session LaneOutcome := do
  modifyImpl fun impl => { impl with stepsSinceRespawn := impl.stepsSinceRespawn + 1 }
  let w ← get
  if out.stop ≠ .ok ∨ kRespawnEvery ≤ w.impl.stepsSinceRespawn then
    teardown
    return out
  return out

/-- One test case on a victim that is ready. -/
def stepVictim (r : RunReplies) (tc : TestCase) : Session LaneOutcome := do
  setUpContext r tc
  setUpCode r tc
  setUpMemory r tc
  resume
  let w ← get
  let out ← pumpToException r w.stream 0
  respawnHygiene out

/-- The body of `run_one`: a victim that is ready, and one step of it. -/
def runSteps (r : RunReplies) (tc : TestCase) : Session LaneOutcome := do
  ensureReady r.spawn
  stepVictim r tc

/-- `run_one`: an error of any part is an outcome whose set-up failed. -/
def runOne (r : RunReplies) (tc : TestCase) (w : World) : LaneOutcome × World :=
  match runSteps r tc w with
  | .ok out w' => (out, w')
  | .error error w' => ({ setupOk := false, setupError := "hardware: " ++ error }, w')

/-- `start`: the first victim. -/
def start (victimPath : String) (r : SpawnReplies) : Session Unit := do
  modifyImpl fun impl => { impl with victimPath := victimPath }
  ensureReady r

/-- `shutdown`. -/
def shutdown : Session Unit := teardown

/-- The calls a caller of the session makes. -/
inductive SessionCall where
  | start (victimPath : String) (r : SpawnReplies)
  | runOne (r : RunReplies) (tc : TestCase)
  | shutdown

/-- The world a part of the session leaves, however it ends. -/
def worldAfter {α : Type} (prog : Session α) (w : World) : World :=
  match prog w with
  | .ok _ w' => w'
  | .error _ w' => w'

/-- What a call leaves behind, whether it succeeds or throws. -/
def SessionCall.perform (w : World) : SessionCall → World
  | .start victimPath r => worldAfter (SevenFuzzer.start victimPath r) w
  | .runOne r tc => (SevenFuzzer.runOne r tc w).2
  | .shutdown => worldAfter SevenFuzzer.shutdown w

end SevenFuzzer
