import SevenFuzzer.Common.Types

/-! # The system calls of the hardware lane

What `hardware_lane.cpp` uses of Windows: handles, the thread context, debug
events, and the calls as commands on a world. The world keeps the ledger of the
calls made, the stream of what `WaitForDebugEvent` has still to deliver, and the
machine state of the victim, which a delivery may have changed in any way. The
reply of a call that can fail is an argument of its command.
-/

namespace SevenFuzzer

/-- A handle; null is zero. -/
abbrev HANDLE := BitVec 64

/-- The handle of a file that could not be opened. -/
def INVALID_HANDLE_VALUE : HANDLE := -1#64

/-- A vector register, in two halves. -/
structure M128A where
  low : BitVec 64
  high : BitVec 64

/-- The legacy FXSAVE area of a context: `floatRegisters i` is `ST(i)`, the tag
word is the abridged one, a bit for each physical register. -/
structure FltSave where
  controlWord : BitVec 16
  statusWord : BitVec 16
  tagWord : BitVec 8
  floatRegisters : Fin 8 → BitVec 128
  xmmRegisters : Fin 16 → M128A

/-- The part of `CONTEXT` the lane sets and reads. -/
structure Context where
  rax : BitVec 64
  rcx : BitVec 64
  rdx : BitVec 64
  rbx : BitVec 64
  rsp : BitVec 64
  rbp : BitVec 64
  rsi : BitVec 64
  rdi : BitVec 64
  r8 : BitVec 64
  r9 : BitVec 64
  r10 : BitVec 64
  r11 : BitVec 64
  r12 : BitVec 64
  r13 : BitVec 64
  r14 : BitVec 64
  r15 : BitVec 64
  rip : BitVec 64
  eFlags : BitVec 32
  fltSave : FltSave

/-- The victim: the context of its redirected thread and its memory. -/
structure Victim where
  context : Context
  memory : BitVec 64 → BitVec 8

/-- Memory after bytes have been written from an address on. -/
def writeBytes (memory : BitVec 64 → BitVec 8) (address : BitVec 64) (bytes : List (BitVec 8)) :
    BitVec 64 → BitVec 8 :=
  fun at_ => bytes.getD (at_ - address).toNat (memory at_)

/-- What the system reports of an exception. -/
structure ExceptionRecord where
  exceptionCode : BitVec 32
  exceptionAddress : BitVec 64 := 0
  numberParameters : BitVec 32 := 0
  exceptionInformation : Fin 15 → BitVec 64 := fun _ => 0

/-- What a debug event reports; the handles are those the system hands to the debugger. -/
inductive DebugEventInfo where
  | exception (record : ExceptionRecord)
  | createThread (hThread : HANDLE)
  | createProcess (hFile hProcess hThread : HANDLE)
  | exitThread
  | exitProcess
  | loadDll (hFile : HANDLE)
  | unloadDll
  | outputDebugString
  | rip

/-- The record of an exception event. -/
def DebugEventInfo.exceptionRecord : DebugEventInfo → Option ExceptionRecord
  | .exception record => some record
  | _ => none

/-- The event that ends a process. -/
def DebugEventInfo.isExitProcess : DebugEventInfo → Bool
  | .exitProcess => true
  | _ => false

/-- A debug event as `WaitForDebugEvent` stores it; `serial` tells apart the
events obtained from it and is not part of the structure the system fills in. -/
structure DebugEvent where
  serial : Nat := 0
  processId : BitVec 32 := 0
  threadId : BitVec 32 := 0
  info : DebugEventInfo := .unloadDll

/-- What one wait brings: an event or the timeout, and the state the victim has
come to. -/
structure Delivery where
  event : Option DebugEvent
  victim : Victim

/-- The handles and the id `CreateProcessAsUserW` fills in. -/
structure ProcessInformation where
  hProcess : HANDLE
  hThread : HANDLE
  processId : BitVec 32

/-- The limits given to a job object. -/
inductive JobLimits where
  | extended (killOnJobClose activeProcess processMemory : Bool) (activeProcessLimit : Nat)
      (processMemoryLimit : Nat)
  | uiRestrictions (classes : List String)

/-- What a handle was held as. -/
inductive HandleKind where
  | token | file | job | createdProcess | createdThread | victimProcess | victimThread
  deriving DecidableEq

/-- A call made, with its arguments and its reply. A continuation also carries
the state in which the victim resumes. -/
inductive Call where
  | openProcessToken (token : Option HANDLE)
  | duplicateTokenEx (token : HANDLE) (duplicate : Option HANDLE)
  | createRestrictedToken (token : HANDLE) (restricted : Option HANDLE)
  | convertStringSidToSid (sid : String) (ok : Bool)
  | setTokenInformation (token : HANDLE) (sid : String) (ok : Bool)
  | createJobObject (job : HANDLE)
  | setInformationJobObject (job : HANDLE) (limits : JobLimits) (ok : Bool)
  | createFile (path : String) (file : HANDLE)
  | createProcessAsUser (token : HANDLE) (path commandLine : String)
      (created : Option ProcessInformation)
  | assignProcessToJobObject (job process : HANDLE) (ok : Bool)
  | virtualAllocEx (process : HANDLE) (address : BitVec 64) (size : Nat) (got : BitVec 64)
  | terminateProcess (process : HANDLE) (exitCode : BitVec 32)
  | closeHandle (kind : HandleKind) (handle : HANDLE)
  | waitForDebugEvent (milliseconds : Nat) (obtained : Option DebugEvent)
  | continueDebugEvent (event : DebugEvent) (resumed : Victim)
  | getThreadContext (thread : HANDLE) (ok : Bool)
  | setThreadContext (thread : HANDLE) (context : Context) (ok : Bool)
  | writeProcessMemory (process : HANDLE) (address : BitVec 64) (bytes : List (BitVec 8))
      (ok : Bool)
  | readProcessMemory (process : HANDLE) (address : BitVec 64) (size : Nat) (ok : Bool)

/-- The fields of `HardwareSession::Impl`. -/
structure Impl where
  job : HANDLE := 0
  process : HANDLE := 0
  thread : HANDLE := 0
  pid : BitVec 32 := 0
  victimPath : String := ""
  ready : Bool := false
  pendingEvent : DebugEvent := {}
  pendingValid : Bool := false
  stepsSinceRespawn : BitVec 64 := 0

/-- The session, the victim it debugs, the deliveries still to come, and what was called so far. -/
structure World where
  impl : Impl := {}
  victim : Victim
  stream : List Delivery
  obtained : Nat := 0
  log : List Call := []

/-- A part of the session's code: it ends with a value, or early with the text of
an error, and keeps what it did either way. -/
abbrev Session := EStateM String World

/-- Logs a call. -/
def record (call : Call) : Session Unit :=
  modify fun w => { w with log := w.log ++ [call] }

/-- Changes the session's own state. -/
def modifyImpl (f : Impl → Impl) : Session Unit :=
  modify fun w => { w with impl := f w.impl }

/-- Changes the victim. -/
def modifyVictim (f : Victim → Victim) : Session Unit :=
  modify fun w => { w with victim := f w.victim }

/-- `CloseHandle`, with what the handle was held as. -/
def closeHandle (kind : HandleKind) (handle : HANDLE) : Session Unit :=
  record (.closeHandle kind handle)

/-- An action on a handle that may be null. -/
def whenOpen (handle : HANDLE) (action : Session Unit) : Session Unit :=
  if handle ≠ 0 then action else return

/-- `ContinueDebugEvent`, logged with the state in which the victim resumes. -/
def continueDebugEvent (event : DebugEvent) : Session Unit := do
  let w ← get
  record (.continueDebugEvent event w.victim)

/-- A wait with nothing left to deliver. -/
def waitForNothing (milliseconds : Nat) : Session Unit :=
  record (.waitForDebugEvent milliseconds none)

/-- A wait that brings a delivery and leaves the rest of the stream. -/
def waitForDebugEvent (milliseconds : Nat) (delivery : Delivery) (rest : List Delivery) :
    Session (Option DebugEvent) := do
  let w ← get
  let obtained := delivery.event.map fun event => { event with serial := w.obtained }
  set { w with victim := delivery.victim, stream := rest, obtained := w.obtained + 1 }
  record (.waitForDebugEvent milliseconds obtained)
  return obtained

/-- `GetThreadContext`: the victim's context, or a failure. -/
def getThreadContext (thread : HANDLE) (ok : Bool) : Session (Option Context) := do
  record (.getThreadContext thread ok)
  let w ← get
  return if ok then some w.victim.context else none

/-- `SetThreadContext`; a failed call changes nothing. -/
def setThreadContext (thread : HANDLE) (context : Context) (ok : Bool) : Session Bool := do
  record (.setThreadContext thread context ok)
  if ok then modifyVictim fun v => { v with context := context }
  return ok

/-- `WriteProcessMemory`; a failed call changes nothing. -/
def writeProcessMemory (process : HANDLE) (address : BitVec 64) (bytes : List (BitVec 8))
    (ok : Bool) : Session Bool := do
  record (.writeProcessMemory process address bytes ok)
  if ok then modifyVictim fun v => { v with memory := writeBytes v.memory address bytes }
  return ok

/-- `ReadProcessMemory`: a range of the victim's bytes, or a failure. -/
def readProcessMemory (process : HANDLE) (address : BitVec 64) (size : Nat) (ok : Bool) :
    Session (Option (Fin size → BitVec 8)) := do
  record (.readProcessMemory process address size ok)
  let w ← get
  return if ok then some fun i => w.victim.memory (address + BitVec.ofNat 64 i) else none

end SevenFuzzer
