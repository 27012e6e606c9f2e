import SevenFuzzer.Gen.Containment
import SevenFuzzer.Gen.Kept
import SevenFuzzer.Gen.Logged

/-! # The pinned registers

RSP starts at the top of the stack and RDI at the scratch page, where a string instruction has
both of its pointers in the middle of the window. What a family forces is written over
the pins: a jump through a register and a compare-and-exchange force the register they have
drawn, and nothing keeps them from drawing RSP. `nextPins` is `next` that also returns
what these two have drawn; the pins are held unless that is RSP (`SevenFuzzer.pins_held_iff`).
-/

namespace SevenFuzzer

open Draw InstructionFactory

/-- The register an accepted attempt drew and forced. -/
inductive PinDraw where
  | other
  /-- a jump through a register -/
  | jump (r : Fin 16)
  /-- a compare-and-exchange of equal operands -/
  | equal (d : Fin 16) (shared : BitVec 64)
  deriving DecidableEq

/-- It is RSP, and the value is not its own. -/
def PinDraw.overrides : PinDraw → Bool
  | .other => false
  | .jump r => r = 4
  | .equal d shared => d = 4 ∧ shared ≠ kStackTop

/-- `genJmp`, with the register it pins. -/
def genJmpLogged : Gen (Option (Instruction × PinDraw)) := do
  match ← between 0 3 with
  | 0 =>
      let target ← randomShortTarget
      return some (withBranch JMP_REL8_64 target, .other)
  | 1 =>
      let target ← randomCodeTarget
      return some (withBranch JMP_REL32_64 target, .other)
  | 2 =>
      let r ← pickRegIndex
      let target ← randomCodeTarget
      force r target
      return some (with1 JMP_RM64 (regOf .W64 r), .jump r)
  | _ =>
      let disp ← indirectTargetDisp
      touchMemory
      return some (with1 JMP_RM64 (memOperand disp), .other)

/-- `genXaddCmpxchg`, with the accumulator value it pins. -/
def genXaddCmpxchgLogged : Gen (Option (Instruction × PinDraw)) := do
  let w ← anyWidth
  let isXadd ← oneIn 2
  let code := xaddCmpxchgCode isXadd w
  let s ← pickRegIndex
  if ← oneIn 3 then
    touchMemory
    let disp ← randomDisp8
    return some (with2 code (memOperand disp) (regOf w s), .other)
  else
    let equal ← equalOperands isXadd
    let d ← pickRegIndex
    if equal ∧ d ≠ 0 then
      let shared ← randomInterestingU64
      force 0 shared
      force d shared
      return some (with2 code (regOf w d) (regOf w s), .equal d shared)
    else
      return some (with2 code (regOf w d) (regOf w s), .other)

/-- A family, with what it pins. -/
def Family.genLogged (caps : HostCaps) : Family → Gen (Option (Instruction × PinDraw))
  | .gen_jmp => genJmpLogged
  | .gen_xadd_cmpxchg => genXaddCmpxchgLogged
  | f => Option.map (·, .other) <$> f.gen caps

/-- Leaving out the log gives the source's program back; so below up to `next`. -/
theorem erase_genJmpLogged : Option.map Prod.fst <$> genJmpLogged = genJmp := by
  simp only [genJmpLogged, genJmp, map_bind]
  refine bind_congr fun form => ?_
  split <;> simp only [map_bind, map_pure, Option.map_some]

theorem erase_genXaddCmpxchgLogged :
    Option.map Prod.fst <$> genXaddCmpxchgLogged = genXaddCmpxchg := by
  simp only [genXaddCmpxchgLogged, genXaddCmpxchg, map_bind]
  refine bind_congr fun w => bind_congr fun isXadd =>
    bind_congr fun s => bind_congr fun memory => ?_
  split
  · simp only [map_bind, map_pure, Option.map_some]
  · simp only [map_bind]
    refine bind_congr fun equal => bind_congr fun d => ?_
    split <;> simp only [map_bind, map_pure, Option.map_some]

theorem erase_genLogged (caps : HostCaps) (f : Family) :
    Option.map Prod.fst <$> f.genLogged caps = f.gen caps := by
  cases f with
  | gen_jmp => exact erase_genJmpLogged
  | gen_xadd_cmpxchg => exact erase_genXaddCmpxchgLogged
  | _ => exact erase_unlogged _ _

section

variable (encode : Instruction → Option (List (BitVec 8))) (caps : HostCaps)

/-- One attempt of `next`, with what its family pinned. -/
def attemptPins : Draw (Option (Generated × PinDraw)) := do
  let fn ← pick kFamilies kFamilies_nonempty
  let (built, c) ← (fn.genLogged caps).run {}
  match built with
  | none => return none
  | some (instr, drawn) =>
      match encode instr with
      | none | some [] => return none
      | some (byte :: bytes) =>
          let tc ← finishCase c (byte :: bytes)
          return some (⟨tc, instr, c⟩, drawn)

/-- The attempts of `next`, with what was pinned in the one that is taken. -/
def nextLoopPins : Nat → Nat → Draw ((Generated × Nat) × PinDraw)
  | 0, discarded => return ((fallback, discarded), .other)
  | attempts + 1, discarded => do
      match ← attemptPins encode caps with
      | some (generated, drawn) => return ((generated, discarded), drawn)
      | none => nextLoopPins attempts (discarded + 1)

/-- `next`, with what the family of the test case pinned. -/
def nextPins (discarded : Nat) : Draw ((Generated × Nat) × PinDraw) :=
  nextLoopPins encode caps 200 discarded

theorem erase_attemptPins :
    Option.map Prod.fst <$> attemptPins encode caps = attempt encode caps := by
  have run (f : Family) : (fun ended => (Option.map Prod.fst ended.1, ended.2)) <$>
      (f.genLogged caps).run {} = (f.gen caps).run {} := by
    rw [← erase_genLogged caps f, StateT.run_map]
  simp only [attemptPins, attempt, map_bind, ← run, bind_map_left]
  refine bind_congr fun fn => bind_congr fun ended => ?_
  obtain ⟨_ | ⟨instr, drawn⟩, c⟩ := ended
  · rfl
  · dsimp only [Option.map_some]
    rcases encode instr with _ | _ | ⟨byte, bytes⟩
    · rfl
    · rfl
    · simp only [map_bind, map_pure, Option.map_some]

/-- The logged `next` is an instance of the general loop over logged attempts. -/
theorem nextPins_eq (discarded : Nat) :
    nextPins encode caps discarded = nextOf (attemptPins encode caps) .other discarded := by
  rw [nextPins, nextOf]
  generalize 200 = attempts
  induction attempts generalizing discarded with
  | zero => rfl
  | succ attempts ih =>
      rw [nextLoopPins, nextLoopOf]
      refine bind_congr fun result => ?_
      cases result with
      | none => exact ih (discarded + 1)
      | some generated => rfl

/-- What was drawn is no part of the program. -/
theorem erase_nextPins (discarded : Nat) :
    Prod.fst <$> nextPins encode caps discarded = next encode caps discarded := by
  rw [nextPins_eq]
  exact erase_nextOf PinDraw.other (erase_attemptPins encode caps) discarded

end

/-- The pins of a context: RSP is its own if it was not drawn, and RDI is not forced if memory is
touched, but for a string instruction. -/
structure FamilyPins (c : Ctx) (instr : Instruction) (drawn : PinDraw) : Prop where
  rsp : (c.forceGpr 4).getD kStackTop = kStackTop ↔ drawn.overrides = false
  rdi : instr.code.mnemonic.isString = false → c.touchesMemory = true → c.forceGpr 7 = none
  pointers : instr.code.mnemonic.isString = true →
    c.forceGpr 6 = some kMidWindow ∧ c.forceGpr 7 = some kMidWindow

/-- What a family ends with: nothing, or an instruction with its pins. -/
def HoldsPins (result : Option (Instruction × PinDraw)) (c : Ctx) : Prop :=
  ∀ instr drawn, result = some (instr, drawn) → FamilyPins c instr drawn

@[simp] theorem holdsPins_none {c : Ctx} : HoldsPins none c := by
  rintro _ _ ⟨⟩

@[simp] theorem holdsPins_some {c : Ctx} {instr : Instruction} {drawn : PinDraw} :
    HoldsPins (some (instr, drawn)) c ↔ FamilyPins c instr drawn := by
  constructor
  · exact fun held => held instr drawn rfl
  · rintro held _ _ ⟨⟩
    exact held

/-- Nothing is forced on the two pinned registers. -/
structure Unforced (c : Ctx) : Prop where
  rsp : c.forceGpr 4 = none
  rdi : c.forceGpr 7 = none
  needs : c.x87Needs ≤ 8

/-- No register is forced before a family runs. -/
theorem unforced_initial : Unforced {} := ⟨rfl, rfl, Nat.zero_le 8⟩

/-- The steps of most families force no register but the count. -/
theorem unforced_steps : FamilySteps Unforced where
  touchesMemory _ free := ⟨free.rsp, free.rdi, free.needs⟩
  flagsMask _ _ _ free := ⟨free.rsp, free.rdi, free.needs⟩
  count _ _ free := ⟨free.rsp, free.rdi, free.needs⟩
  dataQword _ _ free := ⟨free.rsp, free.rdi, free.needs⟩
  dataBytes _ _ free := ⟨free.rsp, free.rdi, free.needs⟩
  x87 _ _ onStack free := ⟨free.rsp, free.rdi, onStack⟩
  needs _ free := free.needs

/-- Nor does a recorded bit scan. -/
theorem unforced_scanned : ScanSteps Unforced where
  toPlainSteps := unforced_steps.toPlainSteps
  scanned _ _ _ _ _ free := ⟨free.rsp, free.rdi, free.needs⟩

/-- The rule for what forces neither. -/
theorem pins_of_unforced {c : Ctx} {instr : Instruction}
    (free : c.forceGpr 4 = none ∧ c.forceGpr 7 = none)
    (plain : instr.code.mnemonic.isString = false) : FamilyPins c instr .other where
  rsp := by
    rw [free.1]
    exact iff_of_true rfl rfl
  rdi _ _ := free.2
  pointers string := by
    rw [plain] at string
    cases string

/-- The rule for what does not touch memory and leaves RSP alone. -/
theorem pins_of_registers {c : Ctx} {instr : Instruction} (rsp : c.forceGpr 4 = none)
    (untouched : c.touchesMemory = false) (plain : instr.code.mnemonic.isString = false) :
    FamilyPins c instr .other where
  rsp := by
    rw [rsp]
    exact iff_of_true rfl rfl
  rdi _ touched := by
    rw [untouched] at touched
    cases touched
  pointers string := by
    rw [plain] at string
    cases string

/-- What holds of a family without a log holds of it with an empty one. -/
theorem always_logged {prog : Gen (Option Instruction)} {c : Ctx}
    (held : always prog
      (fun result c => ∀ instr, result = some instr → FamilyPins c instr .other) c) :
    always (Option.map (·, PinDraw.other) <$> prog) HoldsPins c := by
  rw [← bind_pure_comp, always_seq]
  refine always_mono held fun result c' pins instr drawn same => ?_
  obtain ⟨built, returned, paired⟩ := Option.map_eq_some_iff.mp same
  obtain ⟨rfl, rfl⟩ := Prod.mk.inj paired
  exact pins built returned

/-- The rule for a family that keeps both registers free and builds no string. -/
theorem always_pins {prog : Gen (Option Instruction)} {good : Instruction → Prop}
    (kept : Keeps Unforced (fun result => ∀ instr, result = some instr → good instr) prog)
    (plain : ∀ instr, good instr → instr.code.mnemonic.isString = false) :
    always prog (fun result c => ∀ instr, result = some instr → FamilyPins c instr .other) {} := by
  refine always_mono (kept {} unforced_initial).2 ?_
  rintro _ c ⟨free, built⟩ instr rfl
  exact pins_of_unforced ⟨free.rsp, free.rdi⟩ (plain instr (built instr rfl))

/-- A plain family pins nothing of its own. -/
theorem plainFamily_pins (caps : HostCaps) {f : Family} (plain : f.isPlain = true) :
    always (Option.map (·, PinDraw.other) <$> f.gen caps) HoldsPins {} := by
  refine always_logged (always_pins (family_kept unforced_steps plain) fun instr ordinary => ?_)
  simp only [Mnemonic.isPlain, Bool.and_eq_true, Bool.not_eq_true'] at ordinary
  exact ordinary.1.2

/-- No branch target is the stack pointer's pin. -/
theorem codeTarget_ne_kStackTop {distance : Nat} (small : distance ≤ kPageSize - 16) :
    kCodeBase + BitVec.ofNat 64 distance ≠ kStackTop := by
  unfold kPageSize at small
  unfold kCodeBase kStackTop kStackBase
  bv_omega

/-- The rule for a register that was drawn and forced: RSP changes if it is that register, and
if the value is not its own. -/
theorem pins_of_forced {c : Ctx} {instr : Instruction} {drawn : PinDraw}
    {forced : Fin 16 → Option (BitVec 64)} {d : Fin 16} {value : BitVec 64}
    (forceGpr : c.forceGpr = Function.update forced d (some value)) (free : forced 4 = none)
    (overrides : drawn.overrides = false ↔ ¬ (d = 4 ∧ value ≠ kStackTop))
    (untouched : c.touchesMemory = false) (plain : instr.code.mnemonic.isString = false) :
    FamilyPins c instr drawn := by
  refine ⟨?_, fun _ touched => ?_, fun string => ?_⟩
  · rw [overrides, forceGpr]
    by_cases stack : d = 4
    · subst stack
      rw [Function.update_self, Option.getD_some]
      simp only [true_and, ne_eq, not_not]
    · rw [Function.update_of_ne (Ne.symm stack), free]
      exact iff_of_true rfl fun drawn => stack drawn.1
  · cases untouched.symm.trans touched
  · cases plain.symm.trans string

/-- The jump through a register overrides the pin of RSP when it picks RSP. -/
theorem genJmpLogged_pins : always genJmpLogged HoldsPins {} := by
  simp only [genJmpLogged, indirectTargetDisp, touchMemory, force, always_seq, always_lift,
    always_between, Nat.zero_add, Nat.sub_zero]
  intro form _
  split <;> simp only [always_randomCodeTarget, always_randomShortTarget, always_pickRegIndex,
    always_seq, always_lift, always_modify, always_return, always_between, Nat.zero_add,
    Nat.sub_zero, holdsPins_some]
  · exact fun number small => pins_of_unforced ⟨rfl, rfl⟩ rfl
  · exact fun distance small => pins_of_unforced ⟨rfl, rfl⟩ rfl
  · intro r distance small
    refine pins_of_forced rfl rfl ?_ rfl rfl
    rw [PinDraw.overrides, decide_eq_false_iff_not]
    exact not_congr (and_iff_left (codeTarget_ne_kStackTop small)).symm
  · exact fun number inside distance small => pins_of_unforced ⟨rfl, rfl⟩ rfl

/-- The compare-and-exchange overrides the pin of RSP when it picks RSP and another value. -/
theorem genXaddCmpxchgLogged_pins : always genXaddCmpxchgLogged HoldsPins {} := by
  simp only [genXaddCmpxchgLogged, touchMemory, force, always_pickRegIndex, always_seq, always_lift,
    always_ite, always_modify, always_return, always_anyWidth, always_randomDisp8, always_oneIn,
    Nat.reduceLT, holdsPins_some]
  intro w isXadd s memory
  have plain : (xaddCmpxchgCode isXadd w).mnemonic.isString = false := by cases isXadd <;> rfl
  split
  · exact fun disp small => pins_of_unforced ⟨rfl, rfl⟩ plain
  · refine always_of_forall fun equal d => ?_
    split
    · refine always_of_forall fun shared => ?_
      refine pins_of_forced rfl (forced_of_ne _ (by decide) shared) ?_ rfl plain
      rw [PinDraw.overrides, decide_eq_false_iff_not]
    · exact pins_of_unforced ⟨rfl, rfl⟩ plain

/-- The call is given up rather than go through RSP. -/
theorem genCall_pins : always genCall
    (fun result c => ∀ instr, result = some instr → FamilyPins c instr .other) {} := by
  simp only [genCall, indirectTargetDisp, touchMemory, force, always_seq, always_lift,
    always_between, Nat.zero_add, Nat.sub_zero]
  intro form _
  split <;> simp only [always_randomCodeTarget, always_pickRegIndex, always_seq, always_lift,
    always_ite, always_modify, always_return, always_between, Nat.zero_add, Nat.sub_zero]
  · rintro distance small _ ⟨⟩
    exact pins_of_unforced ⟨rfl, rfl⟩ rfl
  · intro r
    split
    · rintro _ ⟨⟩
    · rename_i away
      rintro distance small _ ⟨⟩
      exact pins_of_registers (by simp only [forced_of_ne _ (Ne.symm away)]) rfl rfl
  · rintro number inside distance small _ ⟨⟩
    exact pins_of_unforced ⟨rfl, rfl⟩ rfl

/-- RSP is not forced, and memory not touched. -/
def InRegisters (c : Ctx) : Prop := c.forceGpr 4 = none ∧ c.touchesMemory = false

/-- Forcing another register leaves RSP's pin. -/
theorem keeps_forceAway {index : Fin 16} (away : index ≠ 4) (value : BitVec 64) :
    Keeps InRegisters (fun _ => True) (force index value) :=
  keeps_modify fun _ kept => ⟨(forced_of_ne _ (Ne.symm away) value).trans kept.1, kept.2⟩

theorem genBiasedDiv_pins (op : MulDivOp) (w : Width) {c : Ctx} (registers : InRegisters c) :
    always (genBiasedDiv op w)
      (fun result c => ∀ instr, result = some instr → FamilyPins c instr .other) c := by
  have away : ∀ mapped ∈ kNonAccumRegs, mapped ≠ 4 := by decide
  have built (instr : Instruction) (plain : instr.code.mnemonic.isString = false) :
      Keeps InRegisters (fun result => ∀ built, result = some built →
        built.code.mnemonic.isString = false) (Pure.pure (some instr)) :=
    keeps_return fun _ same => Option.some.inj same ▸ plain
  have keeps : Keeps InRegisters (fun result => ∀ built, result = some built →
      built.code.mnemonic.isString = false) (genBiasedDiv op w) := by
    refine keeps_pick fun mapped listed => keeps_draw (by simp) fun divisor =>
      keeps_draw (by simp) fun quotient => keeps_draw (by simp) fun remainder =>
        keeps_seq (keeps_forceAway (away mapped listed) _) fun _ =>
          keeps_seq (keeps_forceAway (by decide) _) fun _ => keeps_ite ?_ (built _ rfl)
    exact keeps_seq (keeps_forceAway (by decide) _) fun _ => built _ rfl
  refine always_mono (keeps c registers).2 ?_
  rintro _ c' ⟨registers, plain⟩ instr rfl
  exact pins_of_registers registers.1 registers.2 (plain instr rfl)

theorem genMuldiv_pins : always genMuldiv
    (fun result c => ∀ instr, result = some instr → FamilyPins c instr .other) {} := by
  simp only [genMuldiv, touchMemory, setFlagsMask, always_pickRegIndex, always_seq, always_lift,
    always_ite, always_modify, always_return, always_pick, always_anyWidth, always_randomDisp8,
    always_oneIn, Nat.reduceLT]
  intro op _ w
  refine always_of_forall fun biased => ?_
  split
  · exact genBiasedDiv_pins op w ⟨rfl, rfl⟩
  · intro register
    split
    · rintro r _ ⟨⟩
      exact pins_of_unforced ⟨rfl, rfl⟩ rfl
    · rintro disp small _ ⟨⟩
      exact pins_of_unforced ⟨rfl, rfl⟩ rfl

theorem genStringOps_pins : always genStringOps
    (fun result c => ∀ instr, result = some instr → FamilyPins c instr .other) {} := by
  have string {c : Ctx} {instr : Instruction} (rsp : c.forceGpr 4 = none)
      (rsi : c.forceGpr 6 = some kMidWindow) (rdi : c.forceGpr 7 = some kMidWindow)
      (string : instr.code.mnemonic.isString = true) : FamilyPins c instr .other := by
    refine ⟨?_, fun plain => ?_, fun _ => ⟨rsi, rdi⟩⟩
    · rw [rsp]
      exact iff_of_true rfl rfl
    · cases plain.symm.trans string
  simp only [genStringOps, touchMemory, force, always_seq, always_lift, always_ite, always_modify,
    always_pick, always_anyWidth, always_between, Nat.zero_add, Nat.sub_zero]
  intro family _ w rep _
  split
  · intro count small
    split
    all_goals
      rw [always_return]
      rintro _ ⟨⟩
      exact string rfl rfl rfl rfl
  · split
    all_goals
      rw [always_return]
      rintro _ ⟨⟩
      exact string rfl rfl rfl rfl

theorem genRmsrc_pins : always genRmsrc
    (fun result c => ∀ instr, result = some instr → FamilyPins c instr .other) {} := by
  refine always_pins (genRmsrc_kept unforced_scanned) fun instr built => ?_
  obtain ⟨op, mnemonic⟩ := built
  rw [mnemonic]
  rfl

theorem genX87Control_pins : always genX87Control
    (fun result c => ∀ instr, result = some instr → FamilyPins c instr .other) {} := by
  refine always_pins (genX87Control_kept unforced_steps) fun instr built => ?_
  obtain ⟨op, mnemonic⟩ := built
  rw [mnemonic]
  rfl

/-- **Every family**: the log says which pin it overrides. -/
theorem family_pins (caps : HostCaps) (f : Family) : always (f.genLogged caps) HoldsPins {} := by
  by_cases plain : f.isPlain = true
  · have held := plainFamily_pins caps plain
    cases f with
    | gen_jmp | gen_xadd_cmpxchg => cases plain
    | _ => exact held
  · cases f with
    | gen_jmp => exact genJmpLogged_pins
    | gen_xadd_cmpxchg => exact genXaddCmpxchgLogged_pins
    | gen_call => exact always_logged genCall_pins
    | gen_muldiv => exact always_logged genMuldiv_pins
    | gen_string_ops => exact always_logged genStringOps_pins
    | gen_rmsrc => exact always_logged genRmsrc_pins
    | gen_x87_control => exact always_logged genX87Control_pins
    | _ => exact absurd rfl plain

/-- The pins of a test case. -/
structure PinsHeld (g : Generated) : Prop where
  rsp : g.testCase.initial.gpr 4 = kStackTop
  rdi : g.instruction.code.mnemonic.isString = false → g.testCase.touchesMemory = true →
    g.testCase.initial.gpr 7 = kDataBase
  pointers : g.instruction.code.mnemonic.isString = true →
    g.testCase.initial.gpr 6 = kMidWindow ∧ g.testCase.initial.gpr 7 = kMidWindow

/-- The fallback pins the stack pointer. -/
theorem pinsHeld_fallback : PinsHeld fallback := ⟨rfl, nofun, nofun⟩

/-- The pins hold in the finished test case exactly if the log names none that is overridden. -/
theorem pinsHeld_iff {g : Generated} {drawn : PinDraw}
    (pins : FamilyPins g.ctx g.instruction drawn)
    (finished : Finished g.ctx g.testCase.bytes g.testCase) :
    PinsHeld g ↔ drawn.overrides = false := by
  obtain ⟨draws, gpr⟩ := finished.gpr
  have rsp : g.testCase.initial.gpr 4 = (g.ctx.forceGpr 4).getD kStackTop := by
    rw [gpr, pinGpr]
    dsimp only
    split
    · rw [Function.update_of_ne (by decide), Function.update_self]
    · rw [Function.update_self]
  rw [← pins.rsp, ← rsp]
  refine ⟨PinsHeld.rsp, fun held => ⟨held, fun plain touches => ?_, fun string => ?_⟩⟩
  · rw [finished.touches] at touches
    rw [gpr]
    exact pinGpr_rdi touches (pins.rdi plain touches) draws
  · obtain ⟨rsi, rdi⟩ := pins.pointers string
    rw [gpr]
    exact ⟨pinGpr_forced rsi draws, pinGpr_forced rdi draws⟩

/-- Whatever is drawn, the pins are held unless the accepted attempt drew RSP for a jump through
a register, or for a compare-and-exchange of equal operands with a value other than its own. -/
theorem pins_held_iff (encode : Instruction → Option (List (BitVec 8))) (caps : HostCaps)
    (discarded : Nat) :
    Prod.fst <$> nextPins encode caps discarded = next encode caps discarded ∧
      (nextPins encode caps discarded).Always fun ended =>
        PinsHeld ended.1.1 ↔ ended.2.overrides = false := by
  refine ⟨erase_nextPins encode caps discarded, ?_⟩
  have attempted : (attemptPins encode caps).Always fun ended => ∀ g drawn,
      ended = some (g, drawn) → (PinsHeld g ↔ drawn.overrides = false) := by
    simp only [attemptPins, always_bind, always_pick]
    intro f _
    refine (family_pins caps f).mono fun ended pins => ?_
    obtain ⟨_ | ⟨instr, drawn⟩, c⟩ := ended
    · rintro _ _ ⟨⟩
    · dsimp only
      rcases encode instr with _ | _ | ⟨byte, bytes⟩
      · rintro _ _ ⟨⟩
      · rintro _ _ ⟨⟩
      · simp only [always_bind]
        refine (finishCase_finished c (byte :: bytes)).mono fun tc finished => ?_
        rintro _ _ ⟨⟩
        refine pinsHeld_iff (pins instr drawn rfl) ?_
        rwa [finished.bytes]
  rw [nextPins_eq]
  exact nextOf_from (fun g (drawn : PinDraw) => PinsHeld g ↔ drawn.overrides = false)
    (iff_of_true pinsHeld_fallback rfl) attempted discarded

/-- `JMP RSP`. -/
def jmpRsp : Instruction := with1 JMP_RM64 (regOf .W64 4)

/-- An encoder that knows this instruction only. -/
def encodesJmpRsp (instr : Instruction) : Option (List (BitVec 8)) :=
  if instr = jmpRsp then some [0xFF#8, 0xE4#8] else none

/-- The draws of the family, the form through a register, RSP and the start of the code page;
and then whatever follows. -/
def jmpRspDraws : List Nat := [10, 2, 4, 0] ++ List.replicate 500 0

/-- The stack pointer starts in the code page. -/
theorem jmp_overrides_rsp :
    ((next encodesJmpRsp {} 0).run jmpRspDraws).map (fun ended =>
      (ended.1.1.testCase.bytes, ended.1.1.testCase.initial.gpr 4)) =
      some ([0xFF#8, 0xE4#8], kCodeBase) ∧
    kCodeBase ≠ kStackTop := by
  constructor <;> decide +kernel

end SevenFuzzer
