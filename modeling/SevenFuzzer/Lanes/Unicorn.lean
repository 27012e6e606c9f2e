import SevenFuzzer.Lanes.Seven

/-! # The Unicorn lane

`run_unicorn`: an engine is opened for each test case, set up by writes of pages and
registers that may each fail, and started for one instruction. The engine's own code is
a parameter, its calls by name.
-/

namespace SevenFuzzer

/-- The errors the lane tells apart; the rest of the enumeration by its value. -/
inductive UcErr where
  | ok | insnInvalid
  | readUnmapped | writeUnmapped | fetchUnmapped
  | readProt | writeProt | fetchProt
  | other (value : Nat)
  deriving DecidableEq

/-- A register with the value that is written to it: `st i` is stack-relative and takes
the ten bytes of an extended value. -/
inductive UcReg where
  | gpr (i : Fin 16) (value : BitVec 64)
  | rip (value : BitVec 64)
  | eflags (value : BitVec 64)
  | xmm (i : Fin 16) (lo hi : BitVec 64)
  | fpsw (value : BitVec 16)
  | fpcw (value : BitVec 16)
  | st (i : Fin 8) (signif : BitVec 64) (signexp : BitVec 16)
  | fptag (value : BitVec 16)

/-- The calls of the engine; a start also brings the number of the interrupt that the
hook has seen. -/
structure UcApi (Engine : Type) where
  open_ : UcErr × Engine
  memMap : Engine → BitVec 64 → Nat → UcErr × Engine
  memWrite : Engine → BitVec 64 → List (BitVec 8) → UcErr × Engine
  regWrite : Engine → UcReg → UcErr × Engine
  emuStart : Engine → BitVec 64 → UcErr × BitVec 32 × Engine
  readGpr : Engine → Fin 16 → BitVec 64
  readRip : Engine → BitVec 64
  readEflags : Engine → BitVec 64
  readXmm : Engine → Fin 16 → BitVec 64 × BitVec 64
  memRead : Engine → BitVec 64 → {size : Nat} → (Fin size → BitVec 8) → Fin size → BitVec 8
  strerror : UcErr → String

variable {Engine : Type} (api : UcApi Engine)

/-- The set-up of an engine: it ends early with the text of an error. -/
abbrev UcSetup (Engine : Type) := EStateM String Engine

/-- A call whose error ends the set-up. -/
def ucChecked (what : String) (call : Engine → UcErr × Engine) : UcSetup Engine Unit := do
  let uc ← get
  let (err, uc) := call uc
  set uc
  if err ≠ .ok then throw ("unicorn: " ++ what ++ " failed: " ++ api.strerror err)

/-- A call whose error is not looked at. -/
def ucUnchecked (call : Engine → UcErr × Engine) : UcSetup Engine Unit :=
  modify fun uc => (call uc).2

/-- Maps the code, data and stack pages. -/
def ucMapPages : UcSetup Engine Unit := do
  ucChecked api "map code" fun uc => api.memMap uc kCodeBase kPageSize
  ucChecked api "map data" fun uc => api.memMap uc kDataBase kPageSize
  ucChecked api "map stack" fun uc => api.memMap uc kStackBase kPageSize

/-- Writes the stack's return address, the data window and the code; the first two writes are not
checked. -/
def ucWriteMemory (tc : TestCase) : UcSetup Engine Unit := do
  ucUnchecked fun uc => api.memWrite uc kStackTop ((List.range 8).map (byteOf kCodeBase))
  ucUnchecked fun uc => api.memWrite uc kDataBase (List.ofFn tc.dataSeed)
  if tc.bytes ≠ [] then
    ucChecked api "write code" fun uc => api.memWrite uc kCodeBase tc.bytes

/-- One checked register write. -/
def ucWriteReg (what : String) (reg : UcReg) : UcSetup Engine Unit :=
  ucChecked api what fun uc => api.regWrite uc reg

/-- A checked write of each register of a family. -/
def ucWriteRegs {count : Nat} (what : String) (reg : Fin count → UcReg) : UcSetup Engine Unit :=
  (List.finRange count).forM fun i => ucWriteReg api what (reg i)

/-- The status word goes before the registers, which are placed relative to its top. -/
def ucWriteX87 (x : X87State) : UcSetup Engine Unit := do
  ucWriteReg api "fpsw write" (.fpsw x.statusWord)
  ucWriteReg api "fpcw write" (.fpcw x.controlWord)
  ucWriteRegs api "st write" fun i => .st i (x.signif i) (x.signexp i)
  ucWriteReg api "fptag write" (.fptag x.tagWord)

/-- All the lane writes; the selector of the code segment is not among it. -/
def ucSetUp (tc : TestCase) : UcSetup Engine Unit := do
  ucMapPages api
  ucWriteMemory api tc
  ucWriteRegs api "gpr write" fun i => .gpr i (tc.initial.gpr i)
  ucWriteReg api "rip write" (.rip kCodeBase)
  ucWriteReg api "eflags write" (.eflags tc.initial.rflags)
  ucWriteRegs api "xmm write" fun i => .xmm i (tc.initial.xmmLo i) (tc.initial.xmmHi i)
  ucWriteX87 api tc.initial.x87

/-- The stop each error of the emulator is reported as. -/
def mapUcErr : UcErr → Stop
  | .ok => .ok
  | .insnInvalid => .ud
  | .readUnmapped | .writeUnmapped | .fetchUnmapped => .pf
  | .readProt | .writeProt | .fetchProt => .pf
  | .other _ => .other

/-- The stop of an interrupt, by its vector. -/
def mapIntno (intno : BitVec 32) : Stop :=
  if intno = 0#32 then .de
  else if intno = 6#32 then .ud
  else if intno = 13#32 then .gp
  else if intno = 14#32 then .pf
  else .other

/-- What the hook's number holds when no interrupt has come. -/
def noIntno : BitVec 32 := 0xFFFFFFFF#32

/-- One instruction; the x87 registers are not read back. -/
def ucStep (uc : Engine) : LaneOutcome :=
  let (err, intno, uc) := api.emuStart uc kCodeBase
  let stop := if intno ≠ noIntno then mapIntno intno else mapUcErr err
  { stop := stop
    detail := if stop = .other then "unicorn uc_err=" ++ api.strerror err else ""
    after :=
      { gpr := api.readGpr uc
        rip := api.readRip uc
        rflags := api.readEflags uc
        xmmLo := fun i => (api.readXmm uc i).1
        xmmHi := fun i => (api.readXmm uc i).2
        dataAfter := api.memRead uc kDataBase fun _ => 0 } }

/-- `run_unicorn`: a fresh engine for each test case. -/
def runUnicorn (tc : TestCase) : LaneOutcome :=
  let (err, uc) := api.open_
  if err ≠ .ok then
    { setupOk := false, setupError := "unicorn: uc_open failed: " ++ api.strerror err }
  else
    match ucSetUp api tc uc with
    | .error error _ => { setupOk := false, setupError := error }
    | .ok _ uc => ucStep api uc

end SevenFuzzer
