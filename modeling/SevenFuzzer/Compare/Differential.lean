import SevenFuzzer.Compare.Triage
import SevenFuzzer.Hardware.Oracle
import SevenFuzzer.Lanes.SameMachine

/-! # Engines of one architecture

The comparison is differential: it asks whether three engines do the same, not whether any is
right. Each engine has its own way of reporting a fault and of showing its registers. If all
three implement one architecture, up to the flags and registers the masks of a test case leave
undefined, and the instruction does the same in ring 0, where the Unicorn lane runs it, as in
ring 3, then a round files nothing (`engines_agree`): what is filed is a difference
of the engines, never one of the lanes.
-/

namespace SevenFuzzer

open Command Transition

/-- The faults every lane tells apart. -/
inductive Fault where
  | de | ud | gp | pf

/-- What one instruction does to a machine: the fault it raises, or the machine after it. -/
abbrev Architecture := MachineStart (BitVec 16) → Except Fault (MachineStart (BitVec 16))

/-- The fault of an answer, if there is one. -/
def faultOf {After : Type} : Except Fault After → Option Fault
  | .error fault => some fault
  | .ok _ => none

/-- The stop each fault is reported as. -/
def stopFor : Option Fault → Stop
  | none => .ok
  | some .de => .de
  | some .ud => .ud
  | some .gp => .gp
  | some .pf => .pf

/-- The stop reasons with which Seven may report each outcome of the processor. -/
inductive SevenReports : Option Fault → StopReason → Prop
  | retired : SevenReports none .none
  | divideError : SevenReports (some .de) .divideError
  | invalidOpcode : SevenReports (some .ud) .invalidOpcode
  | unsupportedInstruction : SevenReports (some .ud) .unsupportedInstruction
  | decodeError : SevenReports (some .ud) .decodeError
  | generalProtection : SevenReports (some .gp) .generalProtection
  | pageFault : SevenReports (some .pf) .pageFault

/-- The hook takes the vector of an exception; an error of the memory or the decoder reaches the
caller. -/
inductive UcReports : Option Fault → UcErr → BitVec 32 → Prop
  | retired : UcReports none .ok noIntno
  | vector0 (err : UcErr) : UcReports (some .de) err 0#32
  | vector6 (err : UcErr) : UcReports (some .ud) err 6#32
  | vector13 (err : UcErr) : UcReports (some .gp) err 13#32
  | vector14 (err : UcErr) : UcReports (some .pf) err 14#32
  | insnInvalid : UcReports (some .ud) .insnInvalid noIntno
  | memory (err : UcErr) (of_ : err ∈ [.readUnmapped, .writeUnmapped, .fetchUnmapped, .readProt,
      .writeProt, .fetchProt]) : UcReports (some .pf) err noIntno

/-- A general protection fault is an access violation without an address, or a privileged
instruction. -/
inductive WindowsReports : Option Fault → ExceptionRecord → Prop
  | retired {rec : ExceptionRecord} (code : rec.exceptionCode = EXCEPTION_SINGLE_STEP) :
      WindowsReports none rec
  | divided {rec : ExceptionRecord} (code : rec.exceptionCode = EXCEPTION_INT_DIVIDE_BY_ZERO ∨
      rec.exceptionCode = EXCEPTION_INT_OVERFLOW) : WindowsReports (some .de) rec
  | refused {rec : ExceptionRecord} (code : rec.exceptionCode = EXCEPTION_ILLEGAL_INSTRUCTION) :
      WindowsReports (some .ud) rec
  | noAddress {rec : ExceptionRecord} (code : rec.exceptionCode = EXCEPTION_ACCESS_VIOLATION)
      (given : 2#32 ≤ rec.numberParameters) (address : rec.exceptionInformation 1 = -1#64) :
      WindowsReports (some .gp) rec
  | privileged {rec : ExceptionRecord} (code : rec.exceptionCode = EXCEPTION_PRIV_INSTRUCTION) :
      WindowsReports (some .gp) rec
  | atAddress {rec : ExceptionRecord} (code : rec.exceptionCode = EXCEPTION_ACCESS_VIOLATION)
      (address : rec.exceptionInformation 1 ≠ -1#64) : WindowsReports (some .pf) rec
  | inPage {rec : ExceptionRecord} (code : rec.exceptionCode = EXCEPTION_IN_PAGE_ERROR) :
      WindowsReports (some .pf) rec

/-- However Seven reports an outcome, it is read as the right stop. -/
theorem SevenReports.stop {fault : Option Fault} {reason : StopReason}
    (reports : SevenReports fault reason) : SevenLane.mapStopReason reason = stopFor fault := by
  cases reports <;> rfl

/-- So for Unicorn. -/
theorem UcReports.stop {fault : Option Fault} {err : UcErr} {intno : BitVec 32}
    (reports : UcReports fault err intno) :
    (if intno ≠ noIntno then mapIntno intno else mapUcErr err) = stopFor fault := by
  cases reports with
  | memory err of_ =>
      simp only [List.mem_cons, List.not_mem_nil, or_false] at of_
      rcases of_ with rfl | rfl | rfl | rfl | rfl | rfl <;> rfl
  | _ => rfl

/-- So for the hardware. -/
theorem WindowsReports.stop {fault : Option Fault} {rec : ExceptionRecord}
    (reports : WindowsReports fault rec) : mapException rec = stopFor fault := by
  cases reports with
  | divided code =>
      rcases code with code | code
      · simp only [mapException, code]
        rfl
      · simp only [mapException, code]
        rfl
  | noAddress code given address =>
      simp only [mapException, code, given, address, and_self, ↓reduceIte]
      rfl
  | atAddress code address =>
      simp only [mapException, code, address, and_false, ↓reduceIte]
      rfl
  | retired code | refused code | privileged code | inPage code =>
      simp only [mapException, code]
      rfl

/-- An outcome's registers show those of a machine where a test case compares them. -/
structure ShowsCore (tc : TestCase) (r : RegState) (after : MachineStart (BitVec 16)) : Prop where
  gpr : ∀ i : Fin 16, tc.gprCompareMask.getLsbD i.val = true → r.gpr i = after.gpr i
  rip : r.rip = after.rip
  flags : r.rflags &&& tc.flagsMask = after.flags &&& tc.flagsMask
  window : ∀ i : Fin kDataWindow, r.dataAfter i = after.pages ⟨_, dataWindow_inPages i⟩

/-- The x87 state of a started machine, in the layout the lanes capture. -/
def MachineStart.x87 (m : MachineStart (BitVec 16)) : X87State where
  signif i := (m.registers i).1
  signexp i := (m.registers i).2
  controlWord := m.controlWord
  statusWord := m.statusWord
  tagWord := m.tags

/-- The contents of an empty register are not defined. -/
structure ShowsX87 (x x' : X87State) : Prop where
  controlWord : x.controlWord = x'.controlWord
  statusWord : x.statusWord = x'.statusWord
  tagWord : x.tagWord = x'.tagWord
  used : ∀ i : Fin 8, x87TagOfSt x' i ≠ 3#8 → x.signif i = x'.signif i ∧ x.signexp i = x'.signexp i

/-- The outcome of a lane is an answer of the architecture. -/
structure Meets (tc : TestCase) (answer : Except Fault (MachineStart (BitVec 16)))
    (out : LaneOutcome) : Prop where
  setupOk : out.setupOk = true
  stop : out.stop = stopFor (faultOf answer)
  core : ∀ after, answer = .ok after → ShowsCore tc out.after after
  x87 : ∀ after, answer = .ok after → out.capturesX87 = true → ShowsX87 out.after.x87 after.x87

/-- A captured slot is tagged as the machine's is. -/
theorem ShowsX87.tag {x x' : X87State} (shows_ : ShowsX87 x x') (i : Fin 8) :
    x87TagOfSt x i = x87TagOfSt x' i := by
  rw [x87TagOfSt, x87TagOfSt, x87TopOf, x87TopOf, shows_.tagWord, shows_.statusWord]

/-- Two captures of one state do not differ. -/
theorem ShowsX87.alike {x y z : X87State} (left : ShowsX87 x z) (right : ShowsX87 y z) :
    ¬ X87Differs x y := by
  rintro (control | status | tags | ⟨i, used, -, contents⟩)
  · exact control (left.controlWord.trans right.controlWord.symm)
  · exact status (left.statusWord.trans right.statusWord.symm)
  · exact tags (left.tagWord.trans right.tagWord.symm)
  · rw [left.tag] at used
    obtain ⟨signif, signexp⟩ := left.used i used
    obtain ⟨signif', signexp'⟩ := right.used i used
    rcases contents with differs | differs
    · exact differs (signexp.trans signexp'.symm)
    · exact differs (signif.trans signif'.symm)

/-- The answer without the level the machine runs at. -/
def levelled (answer : Except Fault (MachineStart (BitVec 16))) :
    Except Fault (MachineStart (BitVec 16)) :=
  answer.map fun after => { after with privilege := 0 }

/-- The privilege level does not matter to the fault. -/
theorem faultOf_levelled (answer : Except Fault (MachineStart (BitVec 16))) :
    faultOf (levelled answer) = faultOf answer := by
  cases answer <;> rfl

/-- Only an instruction that retires stops as `ok`. -/
theorem stopFor_eq_ok {fault : Option Fault} (stops : stopFor fault = .ok) : fault = none := by
  rcases fault with _ | _ | _ | _ | _
  · rfl
  all_goals cases stops

/-- An instruction without a fault has a machine after it. -/
theorem exists_of_faultOf {After : Type} {answer : Except Fault After}
    (retired : faultOf answer = none) :
    ∃ after, answer = .ok after := by
  cases answer with
  | error fault => cases retired
  | ok after => exact ⟨after, rfl⟩

/-- Outcomes that are one answer, at whatever level, agree. -/
theorem Meets.agree {tc : TestCase} {answer answer' : Except Fault (MachineStart (BitVec 16))}
    {out out' : LaneOutcome} (meets : Meets tc answer out) (meets' : Meets tc answer' out')
    (same : levelled answer = levelled answer') : tc.Agree out out' := by
  have faults : faultOf answer = faultOf answer' := by
    rw [← faultOf_levelled answer, same, faultOf_levelled]
  apply (agree_iff _ _ _ _ meets.setupOk meets'.setupOk).mpr
  refine ⟨by rw [meets.stop, meets'.stop, faults], fun retired => ?_⟩
  rw [meets.stop] at retired
  have retired := stopFor_eq_ok retired
  obtain ⟨after, rfl⟩ := exists_of_faultOf retired
  obtain ⟨after', rfl⟩ := exists_of_faultOf (faults.symm.trans retired)
  have alike : ({ after with privilege := 0 } : MachineStart (BitVec 16)) =
      { after' with privilege := 0 } := Except.ok.inj same
  have core := meets.core after rfl
  have core' := meets'.core after' rfl
  simp only [MachineStart.mk.injEq] at alike
  obtain ⟨gpr, rip, flags, -, control, status, registers, tags, pages, -⟩ := alike
  rintro (⟨i, compared, differs⟩ | differs | differs | differs | ⟨captures, captures', differs⟩)
  · apply differs
    rw [core.gpr i compared, core'.gpr i compared, gpr]
  · apply differs
    rw [core.rip, core'.rip, rip]
  · apply differs
    rw [core.flags, core'.flags, flags]
  · apply differs
    funext i
    rw [core.window, core'.window, pages]
  · have same : after'.x87 = after.x87 := by
      rw [MachineStart.x87, MachineStart.x87, control, status, registers, tags]
    have right := meets'.x87 after' rfl captures'
    rw [same] at right
    exact (meets.x87 after rfl captures).alike right differs

/-- Flags that a test case compares are compared flags. -/
def TestCase.ComparesFlags (tc : TestCase) : Prop :=
  kCompareFlagsMask &&& tc.flagsMask = tc.flagsMask

/-- Flags that agree where they are reported agree under the mask. -/
theorem TestCase.ComparesFlags.of_view {tc : TestCase} (within : tc.ComparesFlags)
    {rflags flags : BitVec 64}
    (same : (rflags &&& kCompareFlagsMask) &&& tc.flagsMask = flags &&& tc.flagsMask) :
    rflags &&& tc.flagsMask = flags &&& tc.flagsMask := by
  rw [BitVec.and_assoc, within] at same
  exact same

/-- The view of an engine's machine shows a machine where a test case compares it. -/
structure Views {Tags : Type} (tc : TestCase) (view : MachineStart Tags)
    (after : MachineStart (BitVec 16)) : Prop where
  gpr : ∀ i : Fin 16, tc.gprCompareMask.getLsbD i.val = true → view.gpr i = after.gpr i
  rip : view.rip = after.rip
  flags : view.flags &&& tc.flagsMask = after.flags &&& tc.flagsMask
  window : ∀ i : Fin kDataWindow, view.pages ⟨_, dataWindow_inPages i⟩ =
    after.pages ⟨_, dataWindow_inPages i⟩

/-! ## The interpreter and the translator -/

section

variable {width : Nat} {Rest Memory : Type} {core : SevenCore width Rest Memory}
  {held : Memory → Contents}
  {executor : CpuState width Rest → Memory → ExecutionResult width Rest Memory}

/-- Reading a mapped range gives its bytes. -/
def Reads (core : SevenCore width Rest Memory) (held : Memory → Contents) : Prop :=
  ∀ memory address (size : Nat) (buffer : Fin size → BitVec 8),
    (held memory).Covers address size → ∀ i, core.read memory address buffer i =
      (held memory (address + BitVec.ofNat 64 i)).getD 0

/-- The interpreter implements an architecture on the machine the lane hands it. -/
structure SevenImplements (arch : Architecture) (core : SevenCore width Rest Memory)
    (held : Memory → Contents)
    (executor : CpuState width Rest → Memory → ExecutionResult width Rest Memory) (tc : TestCase)
    (given : CpuState width Rest × Memory) : Prop where
  reports : SevenReports (faultOf (arch (sevenView core held given.1 given.2)))
    (executor given.1 given.2).reason
  shows_ : ∀ after, arch (sevenView core held given.1 given.2) = .ok after →
    let res := executor given.1 given.2
    Views tc (sevenView core held res.state res.memory) after ∧
      ShowsX87 (readX87 core res.state) after.x87
  unmaps : ∀ x, (held given.2 x).isSome → (held (executor given.1 given.2).memory x).isSome

/-- The data window among the bytes of the pages. -/
theorem contentsPages_window (contents : Contents) (i : Fin kDataWindow) :
    contentsPages contents ⟨_, dataWindow_inPages i⟩ =
      (contents (kDataBase + BitVec.ofNat 64 i)).getD 0 := by
  rw [contentsPages, data_eq_pageByte]

/-- The data window is mapped. -/
theorem covers_window (tc : TestCase) : (startContents tc).Covers kDataBase kDataWindow :=
  fun x inside => Mapped.isSome_store (Mapped.isSome_store (Mapped.isSome_store
    (covers_data x inside)))

/-- **Seven**: an engine that implements the architecture reports what the architecture does. -/
theorem runSeven_meets {arch : Architecture} {tc : TestCase} (within : tc.ComparesFlags)
    (laws : MemoryLaws core held) (reads : Reads core held) (words : WordLaws core)
    (wide : 128 ≤ width) (fits : tc.bytes.length ≤ kPageSize)
    (implements : ∀ given, handed core (mapScratchPages core core.freshMemory) tc = some given →
      SevenImplements arch core held executor tc given) :
    Meets tc (arch (machineFor tc 3)) (runSeven core executor tc) := by
  have fresh : held (mapScratchPages core core.freshMemory) = scratchContents Mapped.empty := by
    rw [laws.held_mapScratchPages, laws.fresh]
  obtain ⟨written, holds⟩ := laws.held_writeTestCase fresh fits
  have implements := implements _ (handed_of_written written)
  have view : sevenView core held (startState core tc) _ = machineFor tc 3 :=
    sevenView_startState words wide fits holds
  obtain ⟨reports, shows_, unmaps⟩ := implements
  dsimp only at reports shows_ unmaps
  rw [view] at reports shows_
  have maps := fun x inside => unmaps x (by rw [holds]; exact covers_window tc x inside)
  rw [runSeven]
  dsimp only
  rw [if_neg (not_not_intro written)]
  refine ⟨rfl, reports.stop, fun after retired => ?_, fun after retired _ => ?_⟩
  · obtain ⟨views, -⟩ := shows_ after retired
    refine ⟨views.gpr, views.rip, within.of_view views.flags, fun i => ?_⟩
    exact ((reads _ _ _ _ maps i).trans (contentsPages_window _ i).symm).trans (views.window i)
  · exact (shows_ after retired).2

/-- What one lane meets, a lane of another engine name does. -/
theorem Meets.sameButName {tc : TestCase} {answer : Except Fault (MachineStart (BitVec 16))}
    {out out' : LaneOutcome} (meets : Meets tc answer out) (same : SameButName out out') :
    Meets tc answer out' where
  setupOk := same.setupOk.trans meets.setupOk
  stop := same.stop.trans meets.stop
  core after retired := by
    rw [same.after]
    exact meets.core after retired
  x87 after retired captures := by
    rw [same.after]
    exact meets.x87 after retired (same.capturesX87.symm.trans captures)

/-- No outcome is reported as the execution limit. -/
theorem SevenReports.not_limit {fault : Option Fault} {reason : StopReason}
    (reports : SevenReports fault reason) : reason ≠ .executionLimit := by
  rintro rfl
  cases reports

/-- The translator lane after any history does as the interpreter lane. -/
theorem runSevenJit_meets {Jit : Type} {step : EngineStep width Rest}
    {run : Jit → CpuState width Rest → Memory → Nat → Jit × ExecutionResult width Rest Memory}
    {arch : Architecture} {tc : TestCase} {answer : Except Fault (MachineStart (BitVec 16))}
    (laws : MemoryLaws core held) (performs : Performs held step executor run)
    (implements : ∀ given, handed core (mapScratchPages core core.freshMemory) tc = some given →
      SevenImplements arch core held executor tc given) (history : List TestCase) (jit : Jit)
    (meets : Meets tc answer (runSeven core executor tc)) :
    let kept := afterHistory core run history jit core.freshMemory
    Meets tc answer (runSevenJit core run tc kept.1 kept.2).1 := by
  intro kept
  have only := kept_afterHistory laws performs history jit (kept_fresh laws)
  apply meets.sameButName
  apply (sameButName_iff laws performs tc kept.1 only).mpr
  rintro ⟨written, limit⟩
  exact (implements _ (handed_of_written written)).reports.not_limit limit

end

section

variable {Engine : Type} {api : UcApi Engine} {machine : Engine → UcMachine}

/-- Registers and mapped bytes are read as they are. -/
structure UcReads (api : UcApi Engine) (machine : Engine → UcMachine) : Prop where
  gpr : ∀ uc, api.readGpr uc = (machine uc).gpr
  rip : ∀ uc, api.readRip uc = (machine uc).rip
  eflags : ∀ uc, api.readEflags uc = (machine uc).eflags
  memory : ∀ uc address (size : Nat) (buffer : Fin size → BitVec 8),
    (machine uc).memory.Covers address size → ∀ i, api.memRead uc address buffer i =
      ((machine uc).memory (address + BitVec.ofNat 64 i)).getD 0

/-- The engine implements an architecture on the machine the lane has set up. -/
structure UcImplements (arch : Architecture) (api : UcApi Engine) (machine : Engine → UcMachine)
    (tc : TestCase) (uc : Engine) : Prop where
  reports : UcReports (faultOf (arch (machine uc).view)) (api.emuStart uc kCodeBase).1
    (api.emuStart uc kCodeBase).2.1
  shows_ : ∀ after, arch (machine uc).view = .ok after →
    Views tc (machine (api.emuStart uc kCodeBase).2.2).view after
  unmaps : ∀ x, ((machine uc).memory x).isSome →
    ((machine (api.emuStart uc kCodeBase).2.2).memory x).isSome

/-- Two engines whose machines have the same memory. -/
def SameMemory (machine : Engine → UcMachine) (uc uc' : Engine) : Prop :=
  (machine uc').memory = (machine uc).memory

/-- One setup after another. -/
theorem sameMemory_bind {α β : Type} {prog : UcSetup Engine α} {next : α → UcSetup Engine β}
    (first : Respects (SameMemory machine) prog)
    (second : ∀ value, Respects (SameMemory machine) (next value)) :
    Respects (SameMemory machine) (prog >>= next) :=
  respects_bind (fun _ _ _ now later => later.trans now) first second

/-- Writing registers changes no memory. -/
theorem UcLaws.sameMemory_writeReg (laws : UcLaws api machine) (what : String) (reg : UcReg) :
    Respects (SameMemory machine) (ucWriteReg api what reg) := by
  intro uc
  apply wp_mono _ (fun _ _ => False.elim) (laws.wp_writeReg what reg uc)
  intro _ uc' written
  rw [SameMemory, written]
  cases reg <;> rfl

/-- Register writes leave memory alone. -/
theorem UcLaws.sameMemory_writeRegs (laws : UcLaws api machine) {count : Nat} (what : String)
    (reg : Fin count → UcReg) : Respects (SameMemory machine) (ucWriteRegs api what reg) := by
  rw [ucWriteRegs]
  induction List.finRange count with
  | nil => exact respects_pure (fun uc => (rfl : SameMemory machine uc uc)) _
  | cons slot slots ih =>
      rw [List.forM]
      exact sameMemory_bind (laws.sameMemory_writeReg what (reg slot)) fun _ => ih

/-- After the setup, memory is the test case's. -/
theorem UcLaws.memory_of_setUp (laws : UcLaws api machine) {tc : TestCase}
    (fits : tc.bytes.length ≤ kPageSize) {uc : Engine}
    (ended : ucSetUp api tc api.open_.2 = .ok () uc) : (machine uc).memory = startContents tc := by
  have x87 : Respects (SameMemory machine) (ucWriteX87 api tc.initial.x87) :=
    sameMemory_bind (laws.sameMemory_writeReg _ _) fun _ =>
      sameMemory_bind (laws.sameMemory_writeReg _ _) fun _ =>
        sameMemory_bind (laws.sameMemory_writeRegs _ _) fun _ => laws.sameMemory_writeReg _ _
  have registers := sameMemory_bind (laws.sameMemory_writeRegs "gpr write" fun i =>
    .gpr i (tc.initial.gpr i)) fun _ => sameMemory_bind (laws.sameMemory_writeReg "rip write"
      (.rip kCodeBase)) fun _ => sameMemory_bind (laws.sameMemory_writeReg "eflags write"
        (.eflags tc.initial.rflags)) fun _ => sameMemory_bind (laws.sameMemory_writeRegs "xmm write"
          fun i => .xmm i (tc.initial.xmmLo i) (tc.initial.xmmHi i)) fun _ => x87
  have held : wp (ucSetUp api tc) (fun _ uc' => (machine uc').memory = startContents tc)
      (fun _ _ => True) api.open_.2 := by
    refine wp_seq (wp_mono (fun _ _ => id) (fun _ _ _ => trivial) (laws.wp_mapPages laws.memory))
      fun _ uc₁ mapped => ?_
    refine wp_seq (wp_mono (fun _ _ => id) (fun _ _ _ => trivial)
      (laws.wp_writeMemory fits (by rw [mapped]; rfl))) fun _ uc₂ written => ?_
    refine wp_mono (fun _ uc₃ same => ?_) (fun _ _ _ => trivial) (registers uc₂)
    rw [SameMemory, written] at same
    exact same
  exact (wp_of_ok ended).mp held

/-- **Unicorn**: an engine that implements the architecture reports what the architecture does. -/
theorem runUnicorn_meets {arch : Architecture} {tc : TestCase} (within : tc.ComparesFlags)
    (laws : UcLaws api machine) (reads : UcReads api machine) (fits : tc.bytes.length ≤ kPageSize)
    (implements : ∀ uc, ucSetUp api tc api.open_.2 = .ok () uc →
      UcImplements arch api machine tc uc) :
    Meets tc (arch (machineFor tc 0)) (runUnicorn api tc) := by
  have setUp := laws.wp_setUp fits laws.memory
  rw [runUnicorn]
  dsimp only
  rw [if_neg (not_not_intro laws.opened)]
  split
  · rename_i ended
    exact ((wp_of_error ended).mp setUp).elim
  · rename_i uc ended
    have view := (wp_of_ok ended).mp setUp
    rw [laws.ring] at view
    obtain ⟨reports, shows_, unmaps⟩ := implements uc ended
    rw [view] at reports shows_
    have holds := laws.memory_of_setUp fits ended
    have maps := fun x inside => unmaps x (by rw [holds]; exact covers_window tc x inside)
    refine ⟨rfl, reports.stop, fun after retired => ?_, fun after _ captures => ?_⟩
    · have views := shows_ after retired
      refine ⟨fun i compared => ?_, ?_, within.of_view ?_, fun i => ?_⟩
      · exact (congrFun (reads.gpr _) i).trans (views.gpr i compared)
      · exact (reads.rip _).trans views.rip
      · have flags := views.flags
        rw [UcMachine.view, ← reads.eflags] at flags
        exact flags
      · exact ((reads.memory _ _ _ _ maps i).trans (contentsPages_window _ i).symm).trans
          (views.window i)
    · exact absurd captures Bool.false_ne_true

end

/-- The silicon implements an architecture on a prepared victim, whose tag word is that of any
canonical machine. -/
structure SiliconImplements (arch : Architecture) (silicon : Silicon) (tc : TestCase) : Prop where
  reports : ∀ start, start.x87.Canonical →
    start.abridge = hardwareView (preparedVictim freshVictim tc) →
      WindowsReports (faultOf (arch start)) (silicon (preparedVictim freshVictim tc)).1
  shows_ : ∀ start after, start.x87.Canonical →
    start.abridge = hardwareView (preparedVictim freshVictim tc) → arch start = .ok after →
      let view := hardwareView (silicon (preparedVictim freshVictim tc)).2
      Views tc view after ∧ view.controlWord = after.controlWord ∧
        view.statusWord = after.statusWord ∧ view.tags = abridgedTag after.tags ∧
        ∀ i, x87TagOfSt after.x87 i ≠ 3#8 → view.registers i = after.registers i

/-- What a context shows of a canonical machine. -/
theorem showsX87_context {ctx : Context} {x : X87State} (canonical : x.Canonical)
    (control : ctx.fltSave.controlWord = x.controlWord)
    (status : ctx.fltSave.statusWord = x.statusWord)
    (tags : ctx.fltSave.tagWord = abridgedTag x.tagWord)
    (used : ∀ i, x87TagOfSt x i ≠ 3#8 → (readX87FromContext ctx {}).x87.signif i = x.signif i ∧
      (readX87FromContext ctx {}).x87.signexp i = x.signexp i) :
    ShowsX87 (readX87FromContext ctx {}).x87 x := by
  let read := (readX87FromContext ctx {}).x87
  let whole : X87State := { read with controlWord := x.controlWord, tagWord := x.tagWord,
                                      statusWord := x.statusWord }
  have sameTag (i : Fin 8) : x87TagOfSt whole i = x87TagOfSt x i := rfl
  have canonical' : whole.Canonical := by
    intro i inUse
    rw [sameTag] at inUse ⊢
    obtain ⟨signif, signexp⟩ := used i inUse
    have tag := canonical i inUse
    rw [← signif, ← signexp] at tag
    exact tag
  refine ⟨control, status, ?_, used⟩
  have word := (recreated_tagWord_iff whole).mpr canonical'
  have word : fullTag (abridgedTag x.tagWord) x.statusWord whole.signexp whole.signif =
      x.tagWord := word
  rw [← tags, ← status] at word
  exact word

/-- A fresh victim's pages are zero. -/
theorem freshVictim_zeroed : Zeroed freshVictim := fun i => by
  rw [freshVictim]

/-- What the hardware lane captures shows the machine. -/
theorem showsCore_observe {tc : TestCase} (within : tc.ComparesFlags) {rec : ExceptionRecord}
    {v : Victim} {after : MachineStart (BitVec 16)} (views : Views tc (hardwareView v) after) :
    ShowsCore tc (observe rec v).after after where
  gpr := views.gpr
  rip := views.rip
  flags := within.of_view views.flags
  window i := by
    rw [← views.window i]
    exact congrArg v.memory (data_eq_pageByte i)

/-- **The hardware**: a processor that implements the architecture is reported as such. -/
theorem oracle_meets {arch : Architecture} {silicon : Silicon} {tc : TestCase}
    (within : tc.ComparesFlags) (fits : tc.bytes.length ≤ kPageSize)
    (canonical : tc.initial.x87.Canonical)
    (classified : ∀ after, arch (machineFor tc 3) = .ok after → after.x87.Canonical)
    (implements : SiliconImplements arch silicon tc) :
    Meets tc (arch (machineFor tc 3)) (oracle silicon tc) := by
  have view := (hardwareView_preparedVictim freshVictim_zeroed fits).symm
  have canonical : (machineFor tc 3).x87.Canonical := canonical
  have reports := implements.reports _ canonical view
  refine ⟨rfl, reports.stop, fun after retired => ?_, fun after retired _ => ?_⟩
  · exact showsCore_observe within (implements.shows_ _ after canonical view retired).1
  · obtain ⟨-, control, status, tags, registers⟩ := implements.shows_ _ after canonical view retired
    apply showsX87_context (classified after retired) control status tags
    intro i inUse
    have same := registers i inUse
    exact ⟨congrArg Prod.fst same, congrArg Prod.snd same⟩

/-! ## The result -/

/-- A round whose lanes agree is counted and nothing else. -/
theorem round_of_agree (cfg : WorkerConfig) {tc : TestCase} {seven unicorn hw : LaneOutcome}
    (counters : SharedCounters) (sevenVsUnicorn : tc.Agree seven unicorn)
    (ran : cfg.workerUseHw = true → hw.setupOk = true)
    (sevenVsHw : cfg.workerUseHw = true → tc.Agree seven hw)
    (unicornVsHw : cfg.workerUseHw = true → tc.Agree unicorn hw) :
    round cfg tc seven unicorn hw counters = noteDone cfg counters := by
  have noted : noteHarnessError cfg hw counters = (counters, []) := by
    rw [noteHarnessError, if_neg]
    rintro ⟨uses, failed⟩
    exact failed (ran uses)
  have first (label : String) :
      diffPair label seven unicorn tc.flagsMask tc.gprCompareMask [] = [] :=
    (diffPair_eq_nil_iff_agree label tc _ _).mpr sevenVsUnicorn
  have second (uses : cfg.workerUseHw = true) (label : String) :
      diffPair label seven hw tc.flagsMask tc.gprCompareMask [] = [] :=
    (diffPair_eq_nil_iff_agree label tc _ _).mpr (sevenVsHw uses)
  have third (uses : cfg.workerUseHw = true) (label : String) :
      diffPair label unicorn hw tc.flagsMask tc.gprCompareMask [] = [] :=
    (diffPair_eq_nil_iff_agree label tc _ _).mpr (unicornVsHw uses)
  have none_ : roundDivergences cfg tc seven unicorn hw (cfg.workerUseHw && hw.setupOk) =
      ⟨[], [], []⟩ := by
    rw [roundDivergences, first]
    cases uses : cfg.workerUseHw with
    | false => rfl
    | true => rw [second uses, third uses, ite_self]
  have filed : triage cfg tc seven unicorn hw (cfg.workerUseHw && hw.setupOk) counters =
      (counters, []) := by
    rw [triage]
    dsimp only
    rw [none_, if_neg, if_neg]
    · exact not_not_intro rfl
    · rintro ⟨-, -, differs | differs⟩
      · exact differs rfl
      · exact differs rfl
  rw [round]
  dsimp only
  rw [noted]
  dsimp only
  rw [filed, List.nil_append, List.nil_append]

section

variable {width : Nat} {Rest Memory Jit Engine : Type} {core : SevenCore width Rest Memory}
  {held : Memory → Contents} {step : EngineStep width Rest}
  {executor : CpuState width Rest → Memory → ExecutionResult width Rest Memory}
  {run : Jit → CpuState width Rest → Memory → Nat → Jit × ExecutionResult width Rest Memory}
  {api : UcApi Engine} {machine : Engine → UcMachine} {silicon : Silicon} {arch : Architecture}

/-- The outcome of the seven lane, on the translator after a history or on the interpreter. -/
def sevenOutcome (core : SevenCore width Rest Memory)
    (executor : CpuState width Rest → Memory → ExecutionResult width Rest Memory)
    (run : Jit → CpuState width Rest → Memory → Nat → Jit × ExecutionResult width Rest Memory)
    (useJit : Bool) (history : List TestCase) (jit : Jit) (tc : TestCase) : LaneOutcome :=
  if useJit then
    let kept := afterHistory core run history jit core.freshMemory
    (runSevenJit core run tc kept.1 kept.2).1
  else runSeven core executor tc

/-- So for whichever of Seven's two lanes a worker uses. -/
theorem sevenOutcome_meets {tc : TestCase} (within : tc.ComparesFlags)
    (fits : tc.bytes.length ≤ kPageSize) (laws : MemoryLaws core held) (reads : Reads core held)
    (words : WordLaws core) (wide : 128 ≤ width) (performs : Performs held step executor run)
    (implements : ∀ given, handed core (mapScratchPages core core.freshMemory) tc = some given →
      SevenImplements arch core held executor tc given)
    (useJit : Bool) (history : List TestCase) (jit : Jit) :
    Meets tc (arch (machineFor tc 3)) (sevenOutcome core executor run useJit history jit tc) := by
  have interprets := runSeven_meets within laws reads words wide fits implements
  rw [sevenOutcome]
  split
  · exact runSevenJit_meets laws performs implements history jit interprets
  · exact interprets

/-- **Engines of one architecture agree.** If all engines implement an architecture on a test case
whose instruction does the same in ring 0 and in ring 3, its round files nothing and counts no
harness error, with the interpreter or the translator, with hardware or without, and whatever the
translator's memory and the hardware session have been through. -/
theorem engines_agree (cfg : WorkerConfig) {tc : TestCase} (counters : SharedCounters)
    (within : tc.ComparesFlags) (fits : tc.bytes.length ≤ kPageSize)
    (canonical : tc.initial.x87.Canonical)
    (sameInRings : levelled (arch (machineFor tc 0)) = levelled (arch (machineFor tc 3)))
    (classified : ∀ after, arch (machineFor tc 3) = .ok after → after.x87.Canonical)
    (laws : MemoryLaws core held) (reads : Reads core held) (words : WordLaws core)
    (wide : 128 ≤ width) (performs : Performs held step executor run)
    (seven : ∀ given, handed core (mapScratchPages core core.freshMemory) tc = some given →
      SevenImplements arch core held executor tc given)
    (history : List TestCase) (jit : Jit) (ucLaws : UcLaws api machine)
    (ucReads : UcReads api machine)
    (unicorn : ∀ uc, ucSetUp api tc api.open_.2 = .ok () uc → UcImplements arch api machine tc uc)
    (hardware : SiliconImplements arch silicon tc) (own : ReadsOwnCode silicon tc)
    {victim : Victim} {stream : List Delivery} {trace : List (World × SessionCall)} {w : World}
    (session : Run sessionStep (.initial victim stream) trace w) {spawn : SpawnReplies}
    (served : cfg.workerUseHw = true → Served silicon spawn tc w) :
    let hw := if cfg.workerUseHw then (runOne { spawn := spawn } tc w).1 else {}
    round cfg tc (sevenOutcome core executor run cfg.useJit history jit tc) (runUnicorn api tc) hw
      counters = noteDone cfg counters := by
  intro hw
  have first := sevenOutcome_meets within fits laws reads words wide performs seven cfg.useJit
    history jit
  have second := runUnicorn_meets within ucLaws ucReads fits unicorn
  have third (uses : cfg.workerUseHw = true) : Meets tc (arch (machineFor tc 3)) hw := by
    obtain ⟨v, observed⟩ := runOne_observe (bounded_of_run session) (served uses)
    have asked : hw = oracle silicon tc :=
      (if_pos uses).trans (observed.trans (own.observe_eq v))
    rw [asked]
    exact oracle_meets within fits canonical classified hardware
  apply round_of_agree
  · exact first.agree second sameInRings.symm
  · exact fun uses => (third uses).setupOk
  · exact fun uses => first.agree (third uses) rfl
  · exact fun uses => second.agree (third uses) sameInRings

end

/-- Every instruction jumps to itself. -/
def loopingArch : Architecture := .ok

/-- A view with the machine's own fields views it. -/
theorem views_refl {Tags : Type} (tc : TestCase) {view : MachineStart Tags}
    {start : MachineStart (BitVec 16)} (gpr : view.gpr = start.gpr) (rip : view.rip = start.rip)
    (flags : view.flags = start.flags) (pages : view.pages = start.pages) :
    Views tc view start where
  gpr i _ := by rw [gpr]
  rip := rip
  flags := by rw [flags]
  window i := by rw [pages]

/-- The engine that loops implements the architecture that does. -/
theorem looping_seven (tc : TestCase) (given : CpuState 128 (BitVec 16 × BitVec 16) × Contents) :
    SevenImplements loopingArch sampleCore id (stopsFor .none) tc given where
  reports := .retired
  shows_ after retired := by
    obtain rfl := Except.ok.inj retired
    exact ⟨views_refl tc rfl rfl rfl rfl, rfl, rfl, rfl, fun _ _ => ⟨rfl, rfl⟩⟩
  unmaps _ := id

/-- So does the Unicorn that loops. -/
theorem looping_unicorn (tc : TestCase) (uc : UcMachine) :
    UcImplements loopingArch sampleApi id tc uc where
  reports := .retired
  shows_ after retired := by
    obtain rfl := Except.ok.inj retired
    exact views_refl tc rfl rfl rfl rfl
  unmaps _ := id

/-- So does the processor that loops. -/
theorem looping_silicon (tc : TestCase) : SiliconImplements loopingArch looping tc where
  reports _ _ _ := .retired rfl
  shows_ start after _ view retired := by
    obtain rfl := Except.ok.inj retired
    rw [looping]
    dsimp only
    rw [← view]
    exact ⟨views_refl tc rfl rfl rfl rfl, rfl, rfl, rfl, fun _ _ => rfl⟩

/-- A mapped byte does not depend on what is read for an unmapped one. -/
theorem getD_of_covers {contents : Contents} {address : BitVec 64} {size : Nat}
    (covers : contents.Covers address size) (i : Fin size) (value : BitVec 8) :
    (contents (address + BitVec.ofNat 64 i)).getD value =
      (contents (address + BitVec.ofNat 64 i)).getD 0 := by
  have mapped := List.all_eq_true.mp (covers_iff.mp covers) i.val (List.mem_range.mpr i.isLt)
  obtain ⟨byte, here⟩ := Option.isSome_iff_exists.mp mapped
  rw [here]
  rfl

/-- The sample engine is read as its contents. -/
theorem sampleReads : Reads sampleCore id :=
  fun _ _ _ buffer covers i => getD_of_covers covers i (buffer i)

/-- So is the sample Unicorn. -/
theorem sampleUcReads : UcReads sampleApi id where
  gpr _ := rfl
  rip _ := rfl
  eflags _ := rfl
  memory _ _ _ buffer covers i := getD_of_covers covers i (buffer i)

/-- A round of an empty test case with the translator and with hardware, after another one on the
translator and a session that could not start its victim. -/
theorem engines_agree_looping :
    let cfg : WorkerConfig := ⟨0, true, true, 1, "findings", "unicorn_outliers"⟩
    round cfg {} (sevenOutcome sampleCore (stopsFor .none) (runs (stopsFor .none)) true [{}] () {})
      (runUnicorn sampleApi {}) (runOne { spawn := .granted freshVictim } {} deniedWorld).1 {} =
        noteDone cfg {} := by
  intro cfg
  have within : TestCase.ComparesFlags {} := BitVec.and_self
  have canonical : (machineFor {} 3).x87.Canonical := by decide
  have classified : ∀ after, loopingArch (machineFor {} 3) = .ok after → after.x87.Canonical := by
    intro after retired
    obtain rfl := Except.ok.inj retired
    exact canonical
  have session : Run sessionStep (.initial freshVictim loopedStream) _ deniedWorld :=
    Run.nil.snoc rfl
  exact engines_agree cfg {} within (Nat.zero_le _) canonical rfl classified sampleLaws sampleReads
    sampleWordLaws (le_refl _) (performs_stopsFor .none)
      (fun given _ => looping_seven {} given) [{}]
    () sampleUcLaws sampleUcReads (fun uc _ => looping_unicorn {} uc) (looping_silicon {})
    (looping_readsOwnCode {}) session fun _ => looping_served

end SevenFuzzer
