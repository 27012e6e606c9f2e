import SevenFuzzer.Lanes.MachineStart
import SevenFuzzer.Lanes.Unicorn

/-! # One machine for all lanes

The Unicorn lane sets its engine up with writes of pages and registers, each of which may
fail. On an engine that takes them its machine is the one the other lanes start from but
for the privilege level: the emulator lanes set the selector of the code segment, the
hardware lane runs a user process, and the Unicorn lane leaves its engine in the ring it
opens in (`unicorn_starts_privileged`).
-/

namespace SevenFuzzer

open Command Transition

/-- The registers of an engine as its calls write them; the x87 registers are in physical
order. -/
structure UcMachine where
  gpr : Fin 16 → BitVec 64
  rip : BitVec 64
  eflags : BitVec 64
  xmm : Fin 16 → BitVec 64 × BitVec 64
  fpsw : BitVec 16
  fpcw : BitVec 16
  x87Stack : Fin 8 → X87Register
  fptag : BitVec 16
  cs : BitVec 16
  memory : Contents

/-- The stack top of a status word, as a number. -/
def topOf (statusWord : BitVec 16) : Nat := ((statusWord >>> 11) &&& 0x7#16).toNat

/-- The effect of a register write on the machine. -/
def UcMachine.write (machine : UcMachine) : UcReg → UcMachine
  | .gpr i value => { machine with gpr := Function.update machine.gpr i value }
  | .rip value => { machine with rip := value }
  | .eflags value => { machine with eflags := value }
  | .xmm i lo hi => { machine with xmm := Function.update machine.xmm i (lo, hi) }
  | .fpsw value => { machine with fpsw := value }
  | .fpcw value => { machine with fpcw := value }
  | .st i signif signexp =>
      { machine with
        x87Stack :=
          Function.update machine.x87Stack (physOf (topOf machine.fpsw) i) ⟨signif, signexp⟩ }
  | .fptag value => { machine with fptag := value }

/-- The machine in the terms all lanes share. -/
def UcMachine.view (machine : UcMachine) : MachineStart (BitVec 16) where
  gpr := machine.gpr
  rip := machine.rip
  flags := machine.eflags &&& kCompareFlagsMask
  xmm := machine.xmm
  controlWord := machine.fpcw
  statusWord := machine.fpsw
  registers i :=
    let register := machine.x87Stack (physOf (topOf machine.fpsw) i)
    (register.signif, register.signExp)
  tags := machine.fptag
  pages := contentsPages machine.memory
  privilege := privilegeOf machine.cs

/-- The engine as the lane starts it. -/
def unicornStart {Engine : Type} (api : UcApi Engine) (machine : Engine → UcMachine)
    (tc : TestCase) : Option (MachineStart (BitVec 16)) :=
  if api.open_.1 ≠ .ok then none
  else
    match ucSetUp api tc api.open_.2 with
    | .error _ _ => none
    | .ok _ uc => some (machine uc).view

/-- An engine opens without memory and in ring 0; a page is mapped with zeros where there
is none, a write reaches mapped bytes, and a register takes the value written. -/
structure UcLaws {Engine : Type} (api : UcApi Engine) (machine : Engine → UcMachine) : Prop where
  opened : api.open_.1 = .ok
  memory : (machine api.open_.2).memory = Mapped.empty
  ring : privilegeOf (machine api.open_.2).cs = 0
  memMap : ∀ uc base, base.toNat % kPageSize = 0 →
    (∀ x, InPage base x → (machine uc).memory x = none) →
      (api.memMap uc base kPageSize).1 = .ok ∧ (machine (api.memMap uc base kPageSize).2).memory =
        Mapped.map (InPage base) (machine uc).memory
  memWrite : ∀ uc address bytes, (machine uc).memory.Covers address bytes.length →
    (api.memWrite uc address bytes).1 = .ok ∧ (machine (api.memWrite uc address bytes).2).memory =
      Mapped.store (fun x => (x - address).toNat) bytes (machine uc).memory
  mapsOnly : ∀ uc base size, ∃ memory,
    machine (api.memMap uc base size).2 = { machine uc with memory := memory }
  writesOnly : ∀ uc address bytes, ∃ memory,
    machine (api.memWrite uc address bytes).2 = { machine uc with memory := memory }
  regWrite : ∀ uc reg, (api.regWrite uc reg).1 = .ok ∧
    machine (api.regWrite uc reg).2 = (machine uc).write reg

section

variable {Engine : Type} {api : UcApi Engine} {machine : Engine → UcMachine}

/-- A checked call that succeeds goes on. -/
theorem wp_ucChecked {what : String} {call : Engine → UcErr × Engine}
    {good : Unit → Engine → Prop} {bad : String → Engine → Prop} {uc : Engine}
    (succeeds : (call uc).1 = .ok) :
    wp (ucChecked api what call) good bad uc ↔ good () (call uc).2 := by
  simp only [ucChecked, wp_bind, wp_get, wp_set, wp_pure, succeeds, ne_eq, not_true,
    ↓reduceIte]

/-- A register write succeeds and writes its register. -/
theorem UcLaws.wp_writeReg (laws : UcLaws api machine) (what : String) (reg : UcReg) (uc : Engine) :
    wp (ucWriteReg api what reg) (fun _ uc' => machine uc' = (machine uc).write reg)
      (fun _ _ => False) uc := by
  rw [ucWriteReg, wp_ucChecked (laws.regWrite uc reg).1]
  exact (laws.regWrite uc reg).2

/-- One write after the other. -/
theorem UcLaws.wp_writeRegs (laws : UcLaws api machine) {count : Nat} (what : String)
    (reg : Fin count → UcReg) (slots : List (Fin count)) (uc : Engine) :
    wp (slots.forM fun i => ucWriteReg api what (reg i))
      (fun _ uc' => machine uc' = slots.foldl (fun state i => state.write (reg i)) (machine uc))
      (fun _ _ => False) uc := by
  induction slots generalizing uc with
  | nil => rfl
  | cons slot slots ih =>
      rw [List.forM]
      refine wp_seq (laws.wp_writeReg what (reg slot) uc) fun _ uc' written => ?_
      rw [List.foldl_cons, ← written]
      exact ih uc'

/-- Writes that fill a bank of registers, whatever else the machine holds. -/
theorem foldl_write {count : Nat} {Value : Type} {place : Fin count → Fin count}
    (injective : Function.Injective place) {values : Fin count → Value} (reg : Fin count → UcReg)
    (bank : (Fin count → Value) → UcMachine)
    (writes : ∀ array i, (bank array).write (reg i) =
      bank (Function.update array (place i) (values i)))
    (array : Fin count → Value) :
    ∃ filled, (List.finRange count).foldl (fun state i => state.write (reg i)) (bank array) =
      bank filled ∧ ∀ i, filled (place i) = values i :=
  ⟨_, List.foldl_hom bank fun array i => writes array i,
    Words.foldl_update injective values array⟩

/-- The machine with another memory. -/
def UcMachine.withMemory (state : UcMachine) (memory : Contents) : UcMachine :=
  { state with memory := memory }

@[simp] theorem UcMachine.withMemory_memory (state : UcMachine) (memory : Contents) :
    (state.withMemory memory).memory = memory := rfl

@[simp] theorem UcMachine.withMemory_withMemory (state : UcMachine) (memory memory' : Contents) :
    (state.withMemory memory).withMemory memory' = state.withMemory memory' := rfl

/-- A vacant page is mapped and zero. -/
theorem UcLaws.machine_memMap (laws : UcLaws api machine) (uc : Engine) {base : BitVec 64}
    (aligned : base.toNat % kPageSize = 0)
    (vacant : ∀ x, InPage base x → (machine uc).memory x = none) :
    (api.memMap uc base kPageSize).1 = .ok ∧ machine (api.memMap uc base kPageSize).2 =
      (machine uc).withMemory (Mapped.map (InPage base) (machine uc).memory) := by
  obtain ⟨ok, mapped⟩ := laws.memMap uc base aligned vacant
  obtain ⟨memory, only⟩ := laws.mapsOnly uc base kPageSize
  refine ⟨ok, ?_⟩
  rw [only] at mapped ⊢
  exact congrArg (machine uc).withMemory mapped

/-- A mapped range is written. -/
theorem UcLaws.machine_memWrite (laws : UcLaws api machine) (uc : Engine) (address : BitVec 64)
    (bytes : List (BitVec 8)) (covers : (machine uc).memory.Covers address bytes.length) :
    (api.memWrite uc address bytes).1 = .ok ∧ machine (api.memWrite uc address bytes).2 =
      (machine uc).withMemory
        (Mapped.store (fun x => (x - address).toNat) bytes (machine uc).memory) := by
  obtain ⟨ok, stored⟩ := laws.memWrite uc address bytes covers
  obtain ⟨memory, only⟩ := laws.writesOnly uc address bytes
  refine ⟨ok, ?_⟩
  rw [only] at stored ⊢
  exact congrArg (machine uc).withMemory stored

/-- The three pages do not overlap. -/
theorem pages_apart {x : BitVec 64} : ¬ (InPage kCodeBase x ∧ InPage kDataBase x) ∧
    ¬ (InPage kCodeBase x ∧ InPage kStackBase x) ∧
      ¬ (InPage kDataBase x ∧ InPage kStackBase x) := by
  have code : kCodeBase.toNat = 0x100000000000 := by decide
  have data : kDataBase.toNat = 0x100000001000 := by decide
  have stack : kStackBase.toNat = 0x100000002000 := by decide
  simp only [InPage, BitVec.toNat_sub, code, data, stack, kPageSize]
  omega

/-- Mapping the pages leaves them zero and nothing else changed. -/
theorem UcLaws.wp_mapPages (laws : UcLaws api machine) {uc : Engine}
    (empty : (machine uc).memory = Mapped.empty) :
    wp (ucMapPages api)
      (fun _ uc' => machine uc' = (machine uc).withMemory (scratchContents Mapped.empty))
      (fun _ _ => False) uc := by
  obtain ⟨codeAligned, dataAligned, stackAligned⟩ := pagesAligned
  obtain ⟨codeOk, code⟩ := laws.machine_memMap uc codeAligned fun x _ => by rw [empty]; rfl
  obtain ⟨dataOk, data⟩ := laws.machine_memMap _ dataAligned fun x inside => by
    have outside := fun inCode => pages_apart.1 ⟨inCode, inside⟩
    rw [code, UcMachine.withMemory_memory, empty, Mapped.map_of_not outside]
    rfl
  obtain ⟨stackOk, stack⟩ := laws.machine_memMap _ stackAligned fun x inside => by
    have outside := fun inData => pages_apart.2.2 ⟨inData, inside⟩
    have outside' := fun inCode => pages_apart.2.1 ⟨inCode, inside⟩
    rw [data, UcMachine.withMemory_memory, Mapped.map_of_not outside, code,
      UcMachine.withMemory_memory, empty, Mapped.map_of_not outside']
    rfl
  rw [ucMapPages, wp_bind, wp_ucChecked codeOk, wp_bind, wp_ucChecked dataOk, wp_ucChecked stackOk,
    stack, data, code, empty]
  rfl

/-- Writing the test case leaves its contents. -/
theorem UcLaws.wp_writeMemory (laws : UcLaws api machine) {tc : TestCase}
    (fits : tc.bytes.length ≤ kPageSize) {uc : Engine}
    (mapped : (machine uc).memory = scratchContents Mapped.empty) :
    wp (ucWriteMemory api tc)
      (fun _ uc' => machine uc' = (machine uc).withMemory (startContents tc))
      (fun _ _ => False) uc := by
  have retaddr := (laws.machine_memWrite uc kStackTop ((List.range 8).map (byteOf kCodeBase))
    (by rw [mapped]; exact covers_stackTop)).2
  have seeded := (laws.machine_memWrite _ kDataBase (List.ofFn tc.dataSeed) (by
    rw [retaddr, UcMachine.withMemory_memory, mapped, List.length_ofFn]
    exact fun x inside => Mapped.isSome_store (covers_data x inside))).2
  rw [retaddr, UcMachine.withMemory_memory, UcMachine.withMemory_withMemory, mapped] at seeded
  simp only [ucWriteMemory, ucUnchecked, wp_bind, wp_modify, wp_ite, wp_pure]
  split
  · obtain ⟨codeOk, code⟩ := laws.machine_memWrite _ kCodeBase tc.bytes (by
      rw [seeded]
      exact covers_code tc fits)
    rw [wp_ucChecked codeOk, code, seeded]
    rfl
  · rename_i none_
    rw [seeded, startContents_of_nil (not_not.mp none_)]
    rfl

/-- The x87 registers are placed relative to the top of the status word written before. -/
theorem UcLaws.wp_writeX87 (laws : UcLaws api machine) (x : X87State) (uc : Engine) :
    wp (ucWriteX87 api x)
      (fun _ uc' => ∃ stack, (∀ i, stack (physOf (topOf x.statusWord) i) =
          ⟨x.signif i, x.signexp i⟩) ∧
        machine uc' = { machine uc with
          fpsw := x.statusWord
          fpcw := x.controlWord
          x87Stack := stack
          fptag := x.tagWord })
      (fun _ _ => False) uc := by
  refine wp_seq (laws.wp_writeReg _ _ uc) fun _ uc₁ status => ?_
  refine wp_seq (laws.wp_writeReg _ _ uc₁) fun _ uc₂ control => ?_
  refine wp_seq (laws.wp_writeRegs _ _ _ uc₂) fun _ uc₃ registers => ?_
  refine wp_mono (fun _ uc₄ tags => ?_) (fun _ _ => id) (laws.wp_writeReg _ _ uc₃)
  obtain ⟨stack, placed, filled⟩ := foldl_write (physOf_injective (topOf x.statusWord))
    (fun i => .st i (x.signif i) (x.signexp i))
    (fun stack => { machine uc with
      fpsw := x.statusWord
      fpcw := x.controlWord
      x87Stack := stack })
    (fun _ _ => rfl) (machine uc).x87Stack
  refine ⟨stack, filled, ?_⟩
  rw [tags, registers, control, status]
  exact congrArg (UcMachine.write · (.fptag x.tagWord)) placed

/-- **The setup** leaves the test case's machine, at the privilege the engine started with. -/
theorem UcLaws.wp_setUp (laws : UcLaws api machine) {tc : TestCase}
    (fits : tc.bytes.length ≤ kPageSize) {uc : Engine}
    (empty : (machine uc).memory = Mapped.empty) :
    wp (ucSetUp api tc)
      (fun _ uc' => (machine uc').view = machineFor tc (privilegeOf (machine uc).cs))
      (fun _ _ => False) uc := by
  refine wp_seq (laws.wp_mapPages empty) fun _ uc₁ mapped => ?_
  refine wp_seq (laws.wp_writeMemory fits (by rw [mapped]; rfl)) fun _ uc₂ written => ?_
  refine wp_seq (laws.wp_writeRegs _ _ _ uc₂) fun _ uc₃ gprs => ?_
  refine wp_seq (laws.wp_writeReg _ _ uc₃) fun _ uc₄ rip => ?_
  refine wp_seq (laws.wp_writeReg _ _ uc₄) fun _ uc₅ eflags => ?_
  refine wp_seq (laws.wp_writeRegs _ _ _ uc₅) fun _ uc₆ xmms => ?_
  refine wp_mono (fun _ uc₇ x87 => ?_) (fun _ _ => id) (laws.wp_writeX87 _ uc₆)
  obtain ⟨stack, relative, x87⟩ := x87
  obtain ⟨gpr, gprFilled, sameGpr⟩ := foldl_write Function.injective_id
    (fun i => .gpr i (tc.initial.gpr i)) (fun gpr => { machine uc₂ with gpr := gpr })
    (fun _ _ => rfl) (machine uc₂).gpr
  obtain rfl : gpr = tc.initial.gpr := funext sameGpr
  obtain ⟨xmm, xmmFilled, sameXmm⟩ := foldl_write Function.injective_id
    (fun i => .xmm i (tc.initial.xmmLo i) (tc.initial.xmmHi i))
    (fun xmm => { machine uc₅ with xmm := xmm }) (fun _ _ => rfl) (machine uc₅).xmm
  obtain rfl : xmm = fun i => (tc.initial.xmmLo i, tc.initial.xmmHi i) := funext sameXmm
  replace gprs := gprs.trans gprFilled
  replace xmms := xmms.trans xmmFilled
  have pages : contentsPages (startContents tc) =
      fun i : Fin (3 * kPageSize) => initialMemory tc (pageByte i) :=
    contentsPages_of_getD (startContents_getD fits)
  rw [x87, xmms, eflags, rip, gprs, written, mapped]
  simp only [UcMachine.view, UcMachine.write, UcMachine.withMemory, machineFor, relative, pages]

/-- So Unicorn starts from the test case's machine in ring 0. -/
theorem unicornStart_eq (laws : UcLaws api machine) {tc : TestCase}
    (fits : tc.bytes.length ≤ kPageSize) :
    unicornStart api machine tc = some (machineFor tc 0) := by
  have held := laws.wp_setUp fits laws.memory
  rw [unicornStart, if_neg (not_not_intro laws.opened)]
  split
  · rename_i ended
    exact ((wp_of_error ended).mp held).elim
  · rename_i ended
    rw [(wp_of_ok ended).mp held, laws.ring]

/-- The selector is the same in both engines. -/
def SameSelector (machine : Engine → UcMachine) (uc uc' : Engine) : Prop :=
  (machine uc').cs = (machine uc).cs

/-- A selector that stays twice stays. -/
theorem sameSelector_trans (uc uc' uc'' : Engine) (first : SameSelector machine uc uc')
    (second : SameSelector machine uc' uc'') : SameSelector machine uc uc'' :=
  second.trans first

/-- One setup after another. -/
theorem keepsSelector_bind {α β : Type} {prog : UcSetup Engine α} {next : α → UcSetup Engine β}
    (first : Respects (SameSelector machine) prog)
    (second : ∀ value, Respects (SameSelector machine) (next value)) :
    Respects (SameSelector machine) (prog >>= next) :=
  respects_bind sameSelector_trans first second

theorem keepsSelector_pure {α : Type} (value : α) :
    Respects (SameSelector machine) (pure value : UcSetup Engine α) :=
  fun uc => (rfl : SameSelector machine uc uc)

/-- A call that keeps the selector, checked. -/
theorem keepsSelector_checked {what : String} {call : Engine → UcErr × Engine}
    (keeps : ∀ uc, SameSelector machine uc (call uc).2) :
    Respects (SameSelector machine) (ucChecked api what call) := by
  intro uc
  simp only [ucChecked, wp_bind, wp_get, wp_set, wp_ite, wp_throw, wp_pure]
  split
  · exact keeps uc
  · exact keeps uc

theorem UcLaws.keepsSelector_memMap (laws : UcLaws api machine) (uc : Engine) (base : BitVec 64)
    (size : Nat) : SameSelector machine uc (api.memMap uc base size).2 := by
  obtain ⟨memory, only⟩ := laws.mapsOnly uc base size
  rw [SameSelector, only]

theorem UcLaws.keepsSelector_memWrite (laws : UcLaws api machine) (uc : Engine)
    (address : BitVec 64) (bytes : List (BitVec 8)) :
    SameSelector machine uc (api.memWrite uc address bytes).2 := by
  obtain ⟨memory, only⟩ := laws.writesOnly uc address bytes
  rw [SameSelector, only]

/-- No register that can be written is the selector. -/
theorem UcLaws.keepsSelector_writeReg (laws : UcLaws api machine) (what : String) (reg : UcReg) :
    Respects (SameSelector machine) (ucWriteReg api what reg) := by
  refine keepsSelector_checked fun uc => ?_
  rw [SameSelector, (laws.regWrite uc reg).2]
  cases reg <;> rfl

/-- No register that is written is a selector. -/
theorem UcLaws.keepsSelector_writeRegs (laws : UcLaws api machine) {count : Nat} (what : String)
    (reg : Fin count → UcReg) :
    Respects (SameSelector machine) (ucWriteRegs api what reg) := by
  rw [ucWriteRegs]
  induction List.finRange count with
  | nil => exact keepsSelector_pure _
  | cons slot slots ih =>
      rw [List.forM]
      exact keepsSelector_bind (laws.keepsSelector_writeReg what (reg slot)) fun _ => ih

/-- **The setup never writes CS.** -/
theorem UcLaws.keepsSelector_setUp (laws : UcLaws api machine) (tc : TestCase) :
    Respects (SameSelector machine) (ucSetUp api tc) := by
  have map (base : BitVec 64) : ∀ uc, SameSelector machine uc (api.memMap uc base kPageSize).2 :=
    fun uc => laws.keepsSelector_memMap uc base kPageSize
  have write (address : BitVec 64) (bytes : List (BitVec 8)) :
      ∀ uc, SameSelector machine uc (api.memWrite uc address bytes).2 :=
    fun uc => laws.keepsSelector_memWrite uc address bytes
  have pages : Respects (SameSelector machine) (ucMapPages api) :=
    keepsSelector_bind (keepsSelector_checked (map _)) fun _ =>
      keepsSelector_bind (keepsSelector_checked (map _)) fun _ => keepsSelector_checked (map _)
  have memory : Respects (SameSelector machine) (ucWriteMemory api tc) :=
    keepsSelector_bind (respects_modify (write _ _)) fun _ =>
      keepsSelector_bind (respects_modify (write _ _)) fun _ =>
        respects_ite (keepsSelector_checked (write _ _)) (keepsSelector_pure _)
  have x87 : Respects (SameSelector machine) (ucWriteX87 api tc.initial.x87) :=
    keepsSelector_bind (laws.keepsSelector_writeReg _ _) fun _ =>
      keepsSelector_bind (laws.keepsSelector_writeReg _ _) fun _ =>
        keepsSelector_bind (laws.keepsSelector_writeRegs _ _) fun _ =>
          laws.keepsSelector_writeReg _ _
  exact keepsSelector_bind pages fun _ => keepsSelector_bind memory fun _ =>
    keepsSelector_bind (laws.keepsSelector_writeRegs _ _) fun _ =>
      keepsSelector_bind (laws.keepsSelector_writeReg _ _) fun _ =>
        keepsSelector_bind (laws.keepsSelector_writeReg _ _) fun _ =>
          keepsSelector_bind (laws.keepsSelector_writeRegs _ _) fun _ => x87

/-- Whatever a test case is, its code included, the engine starts it in ring 0. -/
theorem privilege_of_unicornStart (laws : UcLaws api machine) {tc : TestCase}
    {start : MachineStart (BitVec 16)} (starts : unicornStart api machine tc = some start) :
    start.privilege = 0 := by
  have kept := laws.keepsSelector_setUp tc api.open_.2
  rw [unicornStart, if_neg (not_not_intro laws.opened)] at starts
  split at starts
  · cases starts
  · rename_i uc ended
    have same : (machine uc).cs = (machine api.open_.2).cs := (wp_of_ok ended).mp kept
    obtain rfl := Option.some.inj starts
    rw [← laws.ring, ← same]
    rfl

end

variable {width : Nat} {Rest Memory : Type} {core : SevenCore width Rest Memory}
  {held : Memory → Contents}

/-- All lanes hand their engines one machine, and in ring 3. -/
def StartsAlike {Engine : Type} (core : SevenCore width Rest Memory) (held : Memory → Contents)
    (memory : Memory) (api : UcApi Engine) (machine : Engine → UcMachine) (spawn : SpawnReplies)
    (w : World) (tc : TestCase) : Prop :=
  ∃ start, sevenStart core held tc = some start ∧ sevenJitStart core held memory tc = some start ∧
    unicornStart api machine tc = some start ∧ hardwareStart spawn w tc = some start.abridge ∧
      start.privilege = 3

variable {Engine Jit : Type} {api : UcApi Engine} {machine : Engine → UcMachine}
  {step : EngineStep width Rest}
  {executor : CpuState width Rest → Memory → ExecutionResult width Rest Memory}
  {run : Jit → CpuState width Rest → Memory → Nat → Jit × ExecutionResult width Rest Memory}

/-- No test case is started on the same machine by all lanes. Those of a page at most are
started on the machine they ask for, in ring 3 but for the Unicorn lane, which starts them in
ring 0. -/
theorem unicorn_starts_privileged (laws : MemoryLaws core held) (words : WordLaws core)
    (wide : 128 ≤ width) (performs : Performs held step executor run)
    (engine : UcLaws api machine) (history : List TestCase) (jit : Jit) (spawn : SpawnReplies)
    {w : World} (live : Live w) (zeroed : Zeroed w.victim) (tc : TestCase) :
    let kept := (afterHistory core run history jit core.freshMemory).2
    ¬ StartsAlike core held kept api machine spawn w tc ∧
      (tc.bytes.length ≤ kPageSize → sevenStart core held tc = some (machineFor tc 3) ∧
        sevenJitStart core held kept tc = some (machineFor tc 3) ∧
          hardwareStart spawn w tc = some (machineFor tc 3).abridge ∧
            unicornStart api machine tc = some (machineFor tc 0)) := by
  dsimp only
  constructor
  · rintro ⟨start, -, -, unicorn, -, ring3⟩
    rw [privilege_of_unicornStart engine unicorn] at ring3
    cases ring3
  · intro fits
    have pages : held (mapScratchPages core core.freshMemory) = scratchContents Mapped.empty := by
      rw [laws.held_mapScratchPages, laws.fresh]
    have keptPages : held (mapScratchPages core (unmapScratchPages core
        (afterHistory core run history jit core.freshMemory).2)) =
          scratchContents Mapped.empty := by
      have only := kept_afterHistory laws performs history jit (kept_fresh laws)
      rw [laws.held_mapScratchPages, laws.held_unmapScratchPages only]
    exact ⟨handed_of_scratch laws words wide pages fits,
      handed_of_scratch laws words wide keptPages fits,
      hardwareStart_eq spawn live zeroed fits, unicornStart_eq engine fits⟩

/-- An engine that holds what is written to it and executes nothing. -/
def sampleApi : UcApi UcMachine where
  open_ := (.ok, ⟨fun _ => 0, 0, 0, fun _ => (0, 0), 0, 0, fun _ => ⟨0, 0⟩, 0, 0, Mapped.empty⟩)
  memMap uc base size :=
    (.ok, uc.withMemory (Mapped.map (fun x => (x - base).toNat < size) uc.memory))
  memWrite uc address bytes :=
    if (List.range bytes.length).all fun i => (uc.memory (address + BitVec.ofNat 64 i)).isSome then
      (.ok, uc.withMemory (Mapped.store (fun x => (x - address).toNat) bytes uc.memory))
    else (.writeUnmapped, uc)
  regWrite uc reg := (.ok, uc.write reg)
  emuStart uc _ := (.ok, noIntno, uc)
  readGpr uc := uc.gpr
  readRip uc := uc.rip
  readEflags uc := uc.eflags
  readXmm uc := uc.xmm
  memRead uc address _ buffer i := (uc.memory (address + BitVec.ofNat 64 i)).getD (buffer i)
  strerror _ := ""

/-- The sample Unicorn keeps its laws. -/
theorem sampleUcLaws : UcLaws sampleApi id where
  opened := rfl
  memory := rfl
  ring := by decide
  memMap _ _ _ _ := ⟨rfl, rfl⟩
  memWrite uc address bytes covers := by
    rw [id_eq, covers_iff] at covers
    simp only [sampleApi, covers, ↓reduceIte, id_eq, UcMachine.withMemory_memory, and_self]
  mapsOnly uc _ _ := ⟨_, rfl⟩
  writesOnly uc address bytes := by
    simp only [sampleApi]
    split
    · exact ⟨_, rfl⟩
    · exact ⟨uc.memory, rfl⟩
  regWrite _ _ := ⟨rfl, rfl⟩

/-- The sample engine keeps its laws. -/
theorem sampleWordLaws : WordLaws sampleCore where
  toX87Laws := sampleX87Laws
  setControl _ _ := ⟨rfl, rfl, rfl, rfl, rfl⟩
  setStatus _ _ := ⟨rfl, rfl, rfl, rfl, rfl⟩

/-- The sample victim's pages are zero. -/
theorem startedWorld_zeroed : Zeroed startedWorld.victim := by
  have mapped : startedWorld.victim.memory =
      writeBytes freshVictim.memory kCodeBase (List.replicate (3 * kPageSize) 0#8) := rfl
  intro i
  rw [mapped, writeBytes_zero]
  split
  · rfl
  · rfl

/-- FNOP with two registers on the stack, after a wide NOP in the translator's memory. -/
theorem unicorn_starts_privileged_fnop :
    let kept := (afterHistory sampleCore (runs (stopsFor .none)) [wideNop] ()
      sampleCore.freshMemory).2
    ¬ StartsAlike sampleCore id kept sampleApi id (.granted freshVictim) startedWorld fnop ∧
      sevenStart sampleCore id fnop = some (machineFor fnop 3) ∧
        sevenJitStart sampleCore id kept fnop = some (machineFor fnop 3) ∧
          hardwareStart (.granted freshVictim) startedWorld fnop =
            some (machineFor fnop 3).abridge ∧
            unicornStart sampleApi id fnop = some (machineFor fnop 0) := by
  obtain ⟨differ, starts⟩ := unicorn_starts_privileged sampleLaws sampleWordLaws (le_refl _)
    (performs_stopsFor .none) sampleUcLaws [wideNop] () (.granted freshVictim) ⟨rfl, rfl⟩
    startedWorld_zeroed fnop
  exact ⟨differ, starts (by decide)⟩

/-- The first test case of a session, with nothing in it. -/
theorem starts_differ_empty :
    ¬ StartsAlike sampleCore id sampleCore.freshMemory sampleApi id (.granted freshVictim)
      startedWorld {} := by
  rintro ⟨start, -, -, unicorn, -, ring3⟩
  rw [privilege_of_unicornStart sampleUcLaws unicorn] at ring3
  cases ring3

end SevenFuzzer
