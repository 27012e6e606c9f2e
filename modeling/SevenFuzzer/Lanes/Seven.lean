import Mathlib.Data.Fin.VecNotation
import SevenFuzzer.Common.Types
import SevenFuzzer.Library.Mapped
import SevenFuzzer.Library.Words

/-! # The two lanes of the emulator core

`seven_lane.cpp` steps the interpreter on a machine built for the call,
`seven_jit_lane.cpp` runs the translator on a memory it keeps from call to call. What
both use of the emulator's own code is a parameter: the operations of its processor
state and its memory (`SevenCore`), and the engine itself.
-/

namespace SevenFuzzer

/-- The mode the lanes set, and any other. -/
inductive ExecutionMode where
  | long64 | other

/-- The reasons the lanes tell apart; the rest of the enumeration by its value. -/
inductive StopReason where
  | none | halted | invalidOpcode | unsupportedInstruction | decodeError
  | generalProtection | pageFault | divideError | executionLimit
  | other (value : Nat)
  deriving DecidableEq

/-- A physical x87 register. -/
structure X87Register where
  signif : BitVec 64
  signExp : BitVec 16

/-- The part of `seven::CpuState` the lanes write and read themselves; `rest` is the
rest of it. The x87 registers and tags are in physical order. -/
structure CpuState (width : Nat) (Rest : Type) where
  mode : ExecutionMode
  rip : BitVec 64
  rflags : BitVec 64
  /-- `sreg[1]` -/
  cs : BitVec 16
  gpr : Fin 16 → BitVec 64
  vectors : Fin 16 → BitVec width
  x87Stack : Fin 8 → X87Register
  x87Tags : Fin 8 → BitVec 8
  rest : Rest

/-- The operations of the emulator's processor state and of its memory. A machine built
for a test case has the state and the memory a default constructor gives. -/
structure SevenCore (width : Nat) (Rest Memory : Type) where
  freshState : CpuState width Rest
  setX87ControlWord : CpuState width Rest → BitVec 16 → CpuState width Rest
  setX87StatusWord : CpuState width Rest → BitVec 16 → CpuState width Rest
  getX87ControlWord : CpuState width Rest → BitVec 16
  getX87StatusWord : CpuState width Rest → BitVec 16
  getX87Top : CpuState width Rest → Nat
  /-- The value of a reason as an integer. -/
  reasonValue : StopReason → Int
  freshMemory : Memory
  map : Memory → BitVec 64 → Nat → Memory
  unmap : Memory → BitVec 64 → Nat → Memory
  write : Memory → BitVec 64 → List (BitVec 8) → Bool × Memory
  read : Memory → BitVec 64 → {size : Nat} → (Fin size → BitVec 8) → Fin size → BitVec 8

/-- What a step of Seven hands back. -/
structure ExecutionResult (width : Nat) (Rest Memory : Type) where
  state : CpuState width Rest
  memory : Memory
  reason : StopReason

variable {width : Nat} {Rest Memory : Type} (core : SevenCore width Rest Memory)

/-- Byte `i` of a pair of words in memory order. -/
def pairByte (lo hi : BitVec 64) (i : Nat) : BitVec 8 :=
  if i < 8 then byteOf lo i else byteOf hi (i - 8)

/-- A vector register from its two halves. -/
def packXmm (width : Nat) (lo hi : BitVec 64) : BitVec width :=
  Words.join width 16 (pairByte lo hi)

/-- The two low halves of a vector register. -/
def unpackXmm {width : Nat} (value : BitVec width) : BitVec 64 × BitVec 64 :=
  let bytes := fun i => ((value >>> (i * 8)) &&& 0xFF).setWidth 8
  (Words.join 64 8 bytes, Words.join 64 8 fun i => bytes (i + 8))

/-- The physical register of `ST(i)`. -/
def physOf (top : Nat) (i : Fin 8) : Fin 8 := Fin.ofNat 8 (top + i)

/-- The stack top has to be there first: the registers are placed relative to it. -/
def applyX87 (state : CpuState width Rest) (x : X87State) : CpuState width Rest :=
  let state := core.setX87ControlWord state x.controlWord
  let state := core.setX87StatusWord state x.statusWord
  let top := core.getX87Top state
  { state with
    x87Stack := (List.finRange 8).foldl (fun stack i =>
      Function.update stack (physOf top i) ⟨x.signif i, x.signexp i⟩) state.x87Stack
    x87Tags := fun phys => ((x.tagWord >>> (2 * phys.val)) &&& 0x3#16).setWidth 8 }

/-- The x87 state a lane captures: the registers in stack order, from the physical ones. -/
def readX87 (state : CpuState width Rest) : X87State :=
  let top := core.getX87Top state
  { controlWord := core.getX87ControlWord state
    statusWord := core.getX87StatusWord state
    signif := fun i => (state.x87Stack (physOf top i)).signif
    signexp := fun i => (state.x87Stack (physOf top i)).signExp
    tagWord := (List.finRange 8).foldl (fun tagWord phys =>
      tagWord ||| ((state.x87Tags phys &&& 0x3#8).setWidth 16 <<< (2 * phys.val))) 0 }

/-- The state a test case starts in, in ring 3 by the selector of the code segment. -/
def startState (tc : TestCase) : CpuState width Rest :=
  applyX87 core
    { core.freshState with
      mode := .long64
      rip := kCodeBase
      rflags := tc.initial.rflags
      cs := 0x33#16
      gpr := tc.initial.gpr
      vectors := fun i => packXmm width (tc.initial.xmmLo i) (tc.initial.xmmHi i) }
    tc.initial.x87

/-- Maps the code, data and stack pages. -/
def mapScratchPages (memory : Memory) : Memory :=
  core.map (core.map (core.map memory kCodeBase kPageSize) kDataBase kPageSize) kStackBase kPageSize

/-- Unmaps the same pages, so that mapping them again clears them. -/
def unmapScratchPages (memory : Memory) : Memory :=
  core.unmap (core.unmap (core.unmap memory kCodeBase kPageSize) kDataBase kPageSize) kStackBase
    kPageSize

/-- The return address and the seed, whose replies are not looked at, and the code. -/
def writeTestCase (memory : Memory) (tc : TestCase) : Bool × Memory :=
  let memory := (core.write memory kStackTop ((List.range 8).map (byteOf kCodeBase))).2
  let memory := (core.write memory kDataBase (List.ofFn tc.dataSeed)).2
  if tc.bytes = [] then (true, memory) else core.write memory kCodeBase tc.bytes

/-- The state a lane captures. -/
def readState (state : CpuState width Rest) (memory : Memory) : RegState where
  gpr := state.gpr
  rip := state.rip
  rflags := state.rflags
  xmmLo i := (unpackXmm (state.vectors i)).1
  xmmHi i := (unpackXmm (state.vectors i)).2
  x87 := readX87 core state
  dataAfter := core.read memory kDataBase fun _ => 0

namespace SevenLane

/-- The stop each reason is reported as. -/
def mapStopReason : StopReason → Stop
  | .none => .ok
  | .halted => .halted
  | .invalidOpcode | .unsupportedInstruction | .decodeError => .ud
  | .generalProtection => .gp
  | .pageFault => .pf
  | .divideError => .de
  | .executionLimit | .other _ => .other

end SevenLane

/-- One test case on a machine built for it. -/
def runSeven (step : CpuState width Rest → Memory → ExecutionResult width Rest Memory)
    (tc : TestCase) : LaneOutcome :=
  let (written, memory) := writeTestCase core (mapScratchPages core core.freshMemory) tc
  if ¬ written then
    { setupOk := false, setupError := "seven: failed to write code bytes" }
  else
    let res := step (startState core tc) memory
    let stop := SevenLane.mapStopReason res.reason
    { stop := stop
      detail := if stop = .other then "seven StopReason=" ++ toString (core.reasonValue res.reason)
        else ""
      after := readState core res.state res.memory
      capturesX87 := true }

namespace SevenJitLane

/-- The translator reports a full budget where a single step reports nothing. -/
def mapStopReason : StopReason → Stop
  | .none | .executionLimit => .ok
  | .halted => .halted
  | .invalidOpcode | .unsupportedInstruction | .decodeError => .ud
  | .generalProtection => .gp
  | .pageFault => .pf
  | .divideError => .de
  | .other _ => .other

end SevenJitLane

/-- One test case on a translator and a memory that have served others; both are left for
the next. -/
def runSevenJit {Jit : Type}
    (run : Jit → CpuState width Rest → Memory → Nat → Jit × ExecutionResult width Rest Memory)
    (tc : TestCase) (jit : Jit) (memory : Memory) : LaneOutcome × Jit × Memory :=
  let (written, memory) :=
    writeTestCase core (mapScratchPages core (unmapScratchPages core memory)) tc
  if ¬ written then
    ({ setupOk := false, setupError := "seven-jit: failed to write code bytes" }, jit, memory)
  else
    let (jit, res) := run jit (startState core tc) memory 1
    let stop := SevenJitLane.mapStopReason res.reason
    ({ stop := stop
       detail := if stop = .other then
           "seven-jit StopReason=" ++ toString (core.reasonValue res.reason)
         else ""
       after := readState core res.state res.memory
       capturesX87 := true }, jit, res.memory)

/-- The translator and the memory after a history of test cases, oldest first. -/
def afterHistory {Jit : Type}
    (run : Jit → CpuState width Rest → Memory → Nat → Jit × ExecutionResult width Rest Memory)
    (history : List TestCase) (jit : Jit) (memory : Memory) : Jit × Memory :=
  history.foldl (fun kept tc => (runSevenJit core run tc kept.1 kept.2).2) (jit, memory)

end SevenFuzzer
