import SevenFuzzer.Gen.Kept
import SevenFuzzer.Gen.Logged
import SevenFuzzer.Gen.ScanMask
import SevenFuzzer.Hardware.Context

/-! # Planted operands

A family plants the target of an indirect branch, or a value for the x87 unit to load, where
its instruction will read it. `nextPlants` is `next` that also returns what was planted and
the random bytes that were in the seed before. The planted bytes are always written and read
back as the value, and the others stay (`SevenFuzzer.planted_arrives`).
-/

namespace SevenFuzzer

open Draw InstructionFactory

/-- The argument of the plant of a family call. -/
inductive Planted where
  | nothing
  /-- the target of an indirect branch -/
  | target (value : BitVec 64)
  | single (value : BitVec 32)
  | double (value : BitVec 64)
  | extended (value : X87Raw)
  /-- an integer of a size in bytes, which may be narrower than the value -/
  | integer (value : BitVec 64) (size : Nat)

namespace Planted

/-- How many bytes are planted. -/
def size : Planted → Nat
  | .nothing => 0
  | .target _ | .double _ => 8
  | .single _ => 4
  | .extended _ => 10
  | .integer _ size => size

/-- The value as the number that its operand holds. -/
def number : Planted → Nat
  | .nothing => 0
  | .target value | .double value => value.toNat
  | .single value => value.toNat
  | .extended value => value.signif.toNat + value.signexp.toNat * 2 ^ 64
  | .integer value size => value.toNat % 2 ^ (8 * size)

end Planted

/-- `indirectTargetDisp`, with the target it plants. -/
def indirectTargetDispLogged : Gen (BitVec 8 × Planted) := do
  let offset := (← between 0 15) * 8
  let target ← randomCodeTarget
  modify fun c => { c with forceDataQword := some ⟨offset, target⟩ }
  return (BitVec.ofNat 8 offset, .target target)

/-- `plantFpOperand`, with the value it plants. -/
def plantFpOperandLogged (disp : BitVec 8) (size : Nat) : Gen Planted := do
  if ¬ (← oneIn 4) then
    if size = 4 then
      let value ← pick kF32Pool kF32Pool_nonempty
      plantInt disp (value.setWidth 64) 4
      return .single value
    else if size = 8 then
      let value ← pick kF64Pool kF64Pool_nonempty
      plantInt disp value 8
      return .double value
    else
      let v ← randomX87Value
      plantBytes disp (x87Bytes v) 10
      return .extended v
  else
    return .nothing

/-- `plantIntOperand`, with the value it plants. -/
def plantIntOperandLogged (disp : BitVec 8) (size : Nat) : Gen Planted := do
  if ¬ (← oneIn 4) then
    let value ← pick kX87IntPool kX87IntPool_nonempty
    plantInt disp value size
    return .integer value size
  else
    return .nothing

/-- `genJmp`, with the target planted for the memory form. -/
def genJmpPlants : Gen (Option (Instruction × Planted)) := do
  match ← between 0 3 with
  | 0 =>
      let target ← randomShortTarget
      return some (withBranch JMP_REL8_64 target, .nothing)
  | 1 =>
      let target ← randomCodeTarget
      return some (withBranch JMP_REL32_64 target, .nothing)
  | 2 =>
      let r ← pickRegIndex
      let target ← randomCodeTarget
      force r target
      return some (with1 JMP_RM64 (regOf .W64 r), .nothing)
  | _ =>
      let (disp, planted) ← indirectTargetDispLogged
      touchMemory
      return some (with1 JMP_RM64 (memOperand disp), planted)

/-- `genCall`, with the target planted for the memory form. -/
def genCallPlants : Gen (Option (Instruction × Planted)) := do
  match ← between 0 2 with
  | 0 =>
      let target ← randomCodeTarget
      return some (withBranch CALL_REL32_64 target, .nothing)
  | 1 =>
      let r ← pickRegIndex
      if r = 4 then
        return none
      else
        let target ← randomCodeTarget
        force r target
        return some (with1 CALL_RM64 (regOf .W64 r), .nothing)
  | _ =>
      let (disp, planted) ← indirectTargetDispLogged
      touchMemory
      return some (with1 CALL_RM64 (memOperand disp), planted)

/-- `genX87Load`, with the operand it plants. -/
def genX87LoadPlants : Gen (Option (Instruction × Planted)) := do
  x87Setup 0
  touchMemory
  let f ← pick kX87Load kX87Load_nonempty
  let disp ← randomDisp8
  let planted ←
    if f.op = .FILD then plantIntOperandLogged disp f.size else plantFpOperandLogged disp f.size
  return some (with1 (x87Mem f.op f.size) (memOperand disp), planted)

/-- `genX87Arith`, with the operand it plants. -/
def genX87ArithPlants : Gen (Option (Instruction × Planted)) := do
  let g ← pick kX87Arith kX87Arith_nonempty
  let form ← between 0 6
  if form ≤ 2 then
    let i ← pickStIndex
    x87Setup (i.val + 1)
    if form = 0 then
      return some (with2 (ST0_STI g.op) (stOf 0) (stOf i), .nothing)
    else if form = 1 then
      return some (with2 (STI_ST0 g.op) (stOf i) (stOf 0), .nothing)
    else
      return some (with2 (STI_ST0 g.pop) (stOf i) (stOf 0), .nothing)
  else
    x87Setup 1
    touchMemory
    let disp ← randomDisp8
    match form with
    | 3 =>
        let planted ← plantFpOperandLogged disp 4
        return some (with1 (x87Mem g.op 4) (memOperand disp), planted)
    | 4 =>
        let planted ← plantFpOperandLogged disp 8
        return some (with1 (x87Mem g.op 8) (memOperand disp), planted)
    | 5 =>
        let planted ← plantIntOperandLogged disp 2
        return some (with1 (x87Mem g.int 2) (memOperand disp), planted)
    | _ =>
        let planted ← plantIntOperandLogged disp 4
        return some (with1 (x87Mem g.int 4) (memOperand disp), planted)

/-- `genX87Compare`, with the operand it plants. -/
def genX87ComparePlants : Gen (Option (Instruction × Planted)) := do
  let form ← between 0 9
  if form = 0 then
    x87Setup 1
    return some (with0 (x87Plain .FTST), .nothing)
  else if form = 1 then
    x87Setup 1
    return some (with0 (x87Plain .FXAM), .nothing)
  else if form = 2 then
    x87Setup 2
    if ← oneIn 2 then
      return some (with0 (x87Plain .FCOMPP), .nothing)
    else
      return some (with0 (x87Plain .FUCOMPP), .nothing)
  else if form ≤ 4 then
    x87Setup 1
    touchMemory
    let m64 ← oneIn 2
    let pop ← oneIn 2
    let disp ← randomDisp8
    let size := if m64 then 8 else 4
    let planted ← plantFpOperandLogged disp size
    return some (with1 (x87Mem (if pop then .FCOMP else .FCOM) size) (memOperand disp), planted)
  else
    let i ← pickStIndex
    x87Setup (i.val + 1)
    let code ← pick kX87CompareStSt kX87CompareStSt_nonempty
    return some (with2 code (stOf 0) (stOf i), .nothing)

/-- `genX87Control`, with the control word it plants. -/
def genX87ControlPlants : Gen (Option (Instruction × Planted)) := do
  let form ← between 0 6
  if form = 3 then
    x87Setup 0
    touchMemory
    let disp ← randomDisp8
    let cw ← randomControlWord
    plantInt disp cw 2
    return some (with1 (x87Mem .FLDCW 2) (memOperand disp), .integer cw 2)
  else
    Option.map (·, .nothing) <$> genX87ControlForm form

/-- A family, with what it plants; the other families plant nothing. -/
def Family.genPlants (caps : HostCaps) : Family → Gen (Option (Instruction × Planted))
  | .gen_jmp => genJmpPlants
  | .gen_call => genCallPlants
  | .gen_x87_load => genX87LoadPlants
  | .gen_x87_arith => genX87ArithPlants
  | .gen_x87_compare => genX87ComparePlants
  | .gen_x87_control => genX87ControlPlants
  | f => Option.map (·, .nothing) <$> f.gen caps

/-- `finishCase`, with the random bytes of the seed. -/
def finishCaseFilled (c : Ctx) (bytes : List (BitVec 8)) :
    Draw (TestCase × (Fin kDataWindow → BitVec 8)) := do
  let drawnGpr ← array randomInterestingU64 16
  let gpr := pinGpr c drawnGpr
  let drawnXmm ← array (do
    let lo ← randomInterestingU64
    let hi ← randomInterestingU64
    return (lo, hi)) 16
  let x87 ← initialX87 c
  let fl ← randomFlags
  let drawnSeed ← array (BitVec.ofNat 8 <$> between 0 255) kDataWindow
  let seed := plantAll c drawnSeed
  let tc : TestCase :=
    { text := hexDump bytes
      bytes := bytes
      initial :=
        { gpr := gpr
          rflags := fl
          xmmLo := fun i => (drawnXmm i).1
          xmmHi := fun i => (drawnXmm i).2
          x87 := x87 }
      touchesMemory := c.touchesMemory
      flagsMask := c.flagsMask
      dataSeed := seed
      gprCompareMask := compareMask c gpr seed }
  return (tc, drawnSeed)

section

variable (encode : Instruction → Option (List (BitVec 8))) (caps : HostCaps)

/-- One attempt of `next`, with what its family planted and the window as it was drawn. -/
def attemptPlants : Draw (Option (Generated × (Planted × (Fin kDataWindow → BitVec 8)))) :=
  attemptOf encode (Family.genPlants caps) finishCaseFilled

/-- `next`, with what was planted and the bytes of the seed before that. -/
def nextPlants (discarded : Nat) :
    Draw ((Generated × Nat) × (Planted × (Fin kDataWindow → BitVec 8))) :=
  nextOf (attemptPlants encode caps) (.nothing, fallback.testCase.dataSeed) discarded

end

/-! ## The log is no part of the program -/

/-- Leaving out the log gives the source's program back; the lemmas below say the same of each
program that plants. -/
theorem erase_indirectTargetDispLogged :
    Prod.fst <$> indirectTargetDispLogged = indirectTargetDisp := by
  simp only [indirectTargetDispLogged, indirectTargetDisp, map_bind, map_pure]

theorem erase_plantFpOperandLogged (disp : BitVec 8) (size : Nat) :
    (fun _ => ()) <$> plantFpOperandLogged disp size = plantFpOperand disp size := by
  simp only [plantFpOperandLogged, plantFpOperand, map_bind]
  refine bind_congr fun keeps => ?_
  split
  · split
    · simp only [map_bind, map_pure, bind_pure_unit]
    · split <;> simp only [map_bind, map_pure, bind_pure_unit]
  · rfl

theorem erase_plantIntOperandLogged (disp : BitVec 8) (size : Nat) :
    (fun _ => ()) <$> plantIntOperandLogged disp size = plantIntOperand disp size := by
  simp only [plantIntOperandLogged, plantIntOperand, map_bind]
  refine bind_congr fun keeps => ?_
  split
  · simp only [map_bind, map_pure, bind_pure_unit]
  · rfl

theorem erase_genJmpPlants : Option.map Prod.fst <$> genJmpPlants = genJmp := by
  simp only [genJmpPlants, genJmp, ← erase_indirectTargetDispLogged, map_bind, bind_map_left]
  refine bind_congr fun form => ?_
  split <;> simp only [map_bind, map_pure, Option.map_some]

theorem erase_genCallPlants : Option.map Prod.fst <$> genCallPlants = genCall := by
  simp only [genCallPlants, genCall, ← erase_indirectTargetDispLogged, map_bind, bind_map_left]
  refine bind_congr fun form => ?_
  split
  · simp only [map_bind, map_pure, Option.map_some]
  · simp only [map_bind]
    refine bind_congr fun r => ?_
    split <;> simp only [map_bind, map_pure, Option.map_some, Option.map_none]
  · simp only [map_bind, map_pure, Option.map_some]

theorem erase_genX87LoadPlants : Option.map Prod.fst <$> genX87LoadPlants = genX87Load := by
  simp only [genX87LoadPlants, genX87Load, ← erase_plantFpOperandLogged,
    ← erase_plantIntOperandLogged, map_bind]
  refine bind_congr fun _ => bind_congr fun _ => bind_congr fun f => bind_congr fun disp => ?_
  split <;> simp only [map_bind, bind_map_left, map_pure, Option.map_some]

theorem erase_genX87ArithPlants : Option.map Prod.fst <$> genX87ArithPlants = genX87Arith := by
  simp only [genX87ArithPlants, genX87Arith, ← erase_plantFpOperandLogged,
    ← erase_plantIntOperandLogged, map_bind]
  refine bind_congr fun g => bind_congr fun form => ?_
  split
  · simp only [map_bind]
    refine bind_congr fun i => bind_congr fun _ => ?_
    split
    · simp only [map_pure, Option.map_some]
    · split <;> simp only [map_pure, Option.map_some]
  · simp only [map_bind]
    refine bind_congr fun _ => bind_congr fun _ => bind_congr fun disp => ?_
    split <;> simp only [map_bind, bind_map_left, map_pure, Option.map_some]

theorem erase_genX87ComparePlants :
    Option.map Prod.fst <$> genX87ComparePlants = genX87Compare := by
  simp only [genX87ComparePlants, genX87Compare, ← erase_plantFpOperandLogged, map_bind]
  refine bind_congr fun form => ?_
  split
  · simp only [map_bind, map_pure, Option.map_some]
  split
  · simp only [map_bind, map_pure, Option.map_some]
  split
  · simp only [map_bind]
    refine bind_congr fun _ => bind_congr fun ordered => ?_
    split <;> simp only [map_pure, Option.map_some]
  split <;> simp only [map_bind, bind_map_left, map_pure, Option.map_some]

theorem erase_genX87ControlPlants :
    Option.map Prod.fst <$> genX87ControlPlants = genX87Control := by
  simp only [genX87ControlPlants, genX87Control, map_bind]
  refine bind_congr fun form => ?_
  split
  · rename_i loads
    simp only [loads, genX87ControlForm, map_bind, map_pure, Option.map_some]
  · exact erase_unlogged _ _

/-- Every family is its logged version with the log left out. -/
theorem erase_genPlants (caps : HostCaps) (f : Family) :
    Option.map Prod.fst <$> f.genPlants caps = f.gen caps := by
  cases f with
  | gen_jmp => exact erase_genJmpPlants
  | gen_call => exact erase_genCallPlants
  | gen_x87_load => exact erase_genX87LoadPlants
  | gen_x87_arith => exact erase_genX87ArithPlants
  | gen_x87_compare => exact erase_genX87ComparePlants
  | gen_x87_control => exact erase_genX87ControlPlants
  | _ => exact erase_unlogged _ _

/-- The test case does not depend on keeping the window as it was drawn. -/
theorem erase_finishCaseFilled (c : Ctx) (bytes : List (BitVec 8)) :
    Prod.fst <$> finishCaseFilled c bytes = finishCase c bytes := by
  simp only [finishCaseFilled, finishCase, map_bind, map_pure]

/-- **The log changes nothing**: `next` is the logged program without its log. -/
theorem erase_nextPlants (encode : Instruction → Option (List (BitVec 8))) (caps : HostCaps)
    (discarded : Nat) :
    Prod.fst <$> nextPlants encode caps discarded = next encode caps discarded :=
  erase_nextOf _ (erase_attemptOf (erase_genPlants caps) erase_finishCaseFilled) discarded

/-- The bytes of the operand, lowest first. -/
def Planted.byte : Planted → Nat → BitVec 8
  | .nothing => fun _ => 0
  | .target value | .double value | .integer value _ => byteOf value
  | .single value => byteOf (value.setWidth 64)
  | .extended value => x87Bytes value

/-- The plant that a context holds for `next`, at an offset of the seed. -/
inductive Pending (c : Ctx) (offset : Nat) : Planted → Prop where
  | qword {value : BitVec 64} (qword : c.forceDataQword = some ⟨offset, value⟩)
      (bytes : c.forceDataBytes = none) : Pending c offset (.target value)
  | bytes {planted : Planted} {value : Fin 10 → BitVec 8} (qword : c.forceDataQword = none)
      (bytes : c.forceDataBytes = some ⟨offset, planted.size, value⟩)
      (fits : 0 < planted.size ∧ planted.size ≤ 10)
      (holds : ∀ i < planted.size, value (Fin.ofNat 10 i) = planted.byte i) :
      Pending c offset planted

/-- Nothing is pending, or what the memory operand of the instruction will read. -/
inductive PlantsOperand (c : Ctx) (instr : Instruction) : Planted → Prop where
  | nothing (qword : c.forceDataQword = none) (bytes : c.forceDataBytes = none) :
      PlantsOperand c instr .nothing
  | operand {planted : Planted} {disp : Nat} (small : disp ≤ 0x7F)
      (pending : Pending c disp planted) (operands : instr.operands = [{ kind := .MEMORY }])
      (memory : instr.memory = some (memOperand (BitVec.ofNat 8 disp)))
      (size : instr.memorySize = planted.size)
      (pins : c.touchesMemory = true ∧ c.forceGpr 7 = none) : PlantsOperand c instr planted

/-- What a family ends with: nothing, or an instruction with its plant. -/
def HoldsPlant (result : Option (Instruction × Planted)) (c : Ctx) : Prop :=
  ∀ instr planted, result = some (instr, planted) → PlantsOperand c instr planted

@[simp] theorem holdsPlant_none {c : Ctx} : HoldsPlant none c := by
  rintro _ _ ⟨⟩

@[simp] theorem holdsPlant_some {c : Ctx} {instr : Instruction} {planted : Planted} :
    HoldsPlant (some (instr, planted)) c ↔ PlantsOperand c instr planted := by
  constructor
  · exact fun held => held instr planted rfl
  · rintro held _ _ ⟨⟩
    exact held

/-- Nothing is planted. -/
structure Unplanted (c : Ctx) : Prop where
  qword : c.forceDataQword = none
  bytes : c.forceDataBytes = none
  needs : c.x87Needs ≤ 8

/-- Nothing is planted before a family runs. -/
theorem unplanted_initial : Unplanted {} := ⟨rfl, rfl, Nat.zero_le 8⟩

/-- The steps of the other families plant nothing. -/
theorem unplanted_steps : RegisterSteps Unplanted where
  touchesMemory _ free := ⟨free.qword, free.bytes, free.needs⟩
  flagsMask _ _ _ free := ⟨free.qword, free.bytes, free.needs⟩
  count _ _ free := ⟨free.qword, free.bytes, free.needs⟩
  x87 _ _ onStack free := ⟨free.qword, free.bytes, onStack⟩
  needs _ free := free.needs
  forced _ _ _ free := ⟨free.qword, free.bytes, free.needs⟩

/-- Nor does a recorded bit scan. -/
theorem unplanted_scanned : ScanSteps Unplanted where
  toPlainSteps := unplanted_steps.toPlainSteps
  scanned _ _ _ _ _ free := ⟨free.qword, free.bytes, free.needs⟩

/-- The rule for a family that plants nothing. -/
theorem always_unplanted {prog : Gen (Option Instruction)} {good : Option Instruction → Prop}
    {c : Ctx} (free : Unplanted c) (keeps : Draw.Keeps Unplanted good prog) :
    always (Option.map (·, Planted.nothing) <$> prog) HoldsPlant c := by
  rw [← bind_pure_comp, always_seq]
  refine always_mono (keeps c free).2 ?_
  rintro result c' ⟨free', -⟩ instr planted same
  obtain ⟨built, -, paired⟩ := Option.map_eq_some_iff.mp same
  obtain ⟨rfl, rfl⟩ := Prod.mk.inj paired
  exact .nothing free'.qword free'.bytes

/-- Nothing is planted yet, and the window is addressed. -/
structure ReadyToPlant (c : Ctx) : Prop where
  qword : c.forceDataQword = none
  bytes : c.forceDataBytes = none
  pins : c.touchesMemory = true ∧ c.forceGpr 7 = none

section

variable {c : Ctx} {disp size : Nat} {op : X87Op}

/-- The rule for bytes that are those of a value. -/
theorem plantBytes_pends (planted : Planted) (ready : ReadyToPlant c) (small : disp ≤ 0x7F)
    (whole : planted.size = size) (fits : 0 < size ∧ size ≤ 10) {src : Nat → BitVec 8}
    (bytes : ∀ i < size, src i = planted.byte i) :
    always (plantBytes (BitVec.ofNat 8 disp) src size) (fun _ c' =>
      PlantsOperand c' (with1 (x87Mem op size) (memOperand (BitVec.ofNat 8 disp))) planted) c := by
  subst whole
  rw [plantBytes, always_modify, offsetOf_small small]
  refine .operand small (.bytes ready.qword rfl fits fun i below => ?_) rfl rfl rfl ready.pins
  have index : (Fin.ofNat 10 i).val = i := Nat.mod_eq_of_lt (by omega)
  rw [index, if_pos below, bytes i below]

/-- What is planted where a displacement from RDI points is what the context then holds. -/
theorem plantInt_pends (planted : Planted) (ready : ReadyToPlant c) (small : disp ≤ 0x7F)
    (whole : planted.size = size) (fits : 0 < size ∧ size ≤ 10) {value : BitVec 64}
    (bytes : planted.byte = byteOf value) :
    always (plantInt (BitVec.ofNat 8 disp) value size) (fun _ c' =>
      PlantsOperand c' (with1 (x87Mem op size) (memOperand (BitVec.ofNat 8 disp))) planted) c :=
  plantBytes_pends planted ready small whole fits fun i below => by rw [if_pos below, bytes]

/-- A floating-point operand of any of the three sizes is held as planted, or nothing is. -/
theorem plantFpOperand_pends (ready : ReadyToPlant c) (small : disp ≤ 0x7F)
    (known : size = 4 ∨ size = 8 ∨ size = 10) :
    always (plantFpOperandLogged (BitVec.ofNat 8 disp) size) (fun planted c' =>
      PlantsOperand c' (with1 (x87Mem op size) (memOperand (BitVec.ofNat 8 disp))) planted) c := by
  have fits : 0 < size ∧ size ≤ 10 := by omega
  simp only [plantFpOperandLogged, always_seq, always_lift, always_ite, always_return]
  refine always_of_forall fun keeps => ?_
  split
  · split
    · rename_i four
      subst four
      exact always_of_forall fun value =>
        always_mono (plantInt_pends (.single value) ready small rfl fits rfl) fun _ _ => id
    split
    · rename_i eight
      subst eight
      exact always_of_forall fun value =>
        always_mono (plantInt_pends (.double value) ready small rfl fits rfl) fun _ _ => id
    · rename_i other ten
      obtain rfl : size = 10 := by omega
      exact always_of_forall fun value => always_mono
        (plantBytes_pends (.extended value) ready small rfl fits fun _ _ => rfl) fun _ _ => id
  · exact .nothing ready.qword ready.bytes

/-- An integer operand is held as planted, or nothing is. -/
theorem plantIntOperand_pends (ready : ReadyToPlant c) (small : disp ≤ 0x7F)
    (fits : 0 < size ∧ size ≤ 10) :
    always (plantIntOperandLogged (BitVec.ofNat 8 disp) size) (fun planted c' =>
      PlantsOperand c' (with1 (x87Mem op size) (memOperand (BitVec.ofNat 8 disp))) planted) c := by
  simp only [plantIntOperandLogged, always_seq, always_lift, always_ite, always_return]
  refine always_of_forall fun keeps => ?_
  split
  · exact always_of_forall fun value =>
      always_mono (plantInt_pends (.integer value size) ready small rfl fits rfl) fun _ _ => id
  · exact .nothing ready.qword ready.bytes

end

/-- After each of the six families, the context holds what the log says. -/
theorem genJmpPlants_pends : always genJmpPlants HoldsPlant {} := by
  simp only [genJmpPlants, indirectTargetDispLogged, touchMemory, force, always_seq, always_lift,
    always_between, Nat.zero_add, Nat.sub_zero]
  intro form _
  split <;> simp only [always_seq, always_lift, always_modify, always_return, always_between,
    Nat.zero_add, Nat.sub_zero, holdsPlant_some]
  · exact always_of_forall fun target => .nothing rfl rfl
  · exact always_of_forall fun target => .nothing rfl rfl
  · exact always_of_forall fun r => always_of_forall fun target => .nothing rfl rfl
  · refine fun number inside => always_of_forall fun target => ?_
    exact .operand (show number * 8 ≤ 0x7F by omega) (.qword rfl rfl) rfl rfl rfl ⟨rfl, rfl⟩

theorem genCallPlants_pends : always genCallPlants HoldsPlant {} := by
  simp only [genCallPlants, indirectTargetDispLogged, touchMemory, force, always_seq, always_lift,
    always_between, Nat.zero_add, Nat.sub_zero]
  intro form _
  split <;> simp only [always_seq, always_lift, always_ite, always_modify, always_return,
    always_between, Nat.zero_add, Nat.sub_zero, holdsPlant_some, holdsPlant_none]
  · exact always_of_forall fun target => .nothing rfl rfl
  · refine always_of_forall fun r => ?_
    split
    · trivial
    · exact always_of_forall fun target => .nothing rfl rfl
  · refine fun number inside => always_of_forall fun target => ?_
    exact .operand (show number * 8 ≤ 0x7F by omega) (.qword rfl rfl) rfl rfl rfl ⟨rfl, rfl⟩

theorem genX87LoadPlants_pends : always genX87LoadPlants HoldsPlant {} := by
  have floats : ∀ f ∈ kX87Load, f.op ≠ .FILD → f.size = 4 ∨ f.size = 8 ∨ f.size = 10 := by decide
  have sizes : ∀ f ∈ kX87Load, 0 < f.size ∧ f.size ≤ 10 := by decide
  simp only [genX87LoadPlants, x87Setup, touchMemory, always_seq, always_lift, always_modify,
    always_pick, always_randomDisp8]
  intro f listed disp small
  split
  · rw [always_seq]
    exact always_mono (plantIntOperand_pends ⟨rfl, rfl, rfl, rfl⟩ small (sizes f listed))
      fun _ _ => holdsPlant_some.mpr
  · rename_i float
    rw [always_seq]
    exact always_mono (plantFpOperand_pends ⟨rfl, rfl, rfl, rfl⟩ small (floats f listed float))
      fun _ _ => holdsPlant_some.mpr

theorem genX87ArithPlants_pends : always genX87ArithPlants HoldsPlant {} := by
  simp only [genX87ArithPlants, x87Setup, touchMemory, always_seq, always_lift, always_ite,
    always_modify, always_return, always_randomDisp8, holdsPlant_some]
  refine always_of_forall fun g => always_of_forall fun form => ?_
  split
  · refine always_of_forall fun i => ?_
    split
    · exact .nothing rfl rfl
    split <;> exact .nothing rfl rfl
  · intro disp small
    split <;> rw [always_seq]
    · exact always_mono (plantFpOperand_pends ⟨rfl, rfl, rfl, rfl⟩ small (by decide))
        fun _ _ => holdsPlant_some.mpr
    · exact always_mono (plantFpOperand_pends ⟨rfl, rfl, rfl, rfl⟩ small (by decide))
        fun _ _ => holdsPlant_some.mpr
    · exact always_mono (plantIntOperand_pends ⟨rfl, rfl, rfl, rfl⟩ small (by decide))
        fun _ _ => holdsPlant_some.mpr
    · exact always_mono (plantIntOperand_pends ⟨rfl, rfl, rfl, rfl⟩ small (by decide))
        fun _ _ => holdsPlant_some.mpr

theorem genX87ComparePlants_pends : always genX87ComparePlants HoldsPlant {} := by
  simp only [genX87ComparePlants, x87Setup, touchMemory, always_seq, always_lift, always_ite,
    always_modify, always_return, always_randomDisp8, holdsPlant_some]
  refine always_of_forall fun form => ?_
  split
  · exact .nothing rfl rfl
  split
  · exact .nothing rfl rfl
  split
  · refine always_of_forall fun ordered => ?_
    split <;> exact .nothing rfl rfl
  split
  · refine always_of_forall fun m64 => always_of_forall fun pop => fun disp small => ?_
    refine always_mono (plantFpOperand_pends ⟨rfl, rfl, rfl, rfl⟩ small ?_)
      fun _ _ => holdsPlant_some.mpr
    cases m64 <;> decide
  · exact always_of_forall fun i => always_of_forall fun code => .nothing rfl rfl

theorem genX87ControlPlants_pends : always genX87ControlPlants HoldsPlant {} := by
  have word : 0 < 2 ∧ 2 ≤ 10 := by decide
  simp only [genX87ControlPlants, always_seq, always_lift, always_ite]
  refine always_of_forall fun form => ?_
  split
  · simp only [x87Setup, touchMemory, always_seq, always_lift, always_modify, always_randomDisp8]
    refine fun disp small => always_of_forall fun cw => ?_
    exact always_mono
      (plantInt_pends (.integer cw 2) ⟨rfl, rfl, rfl, rfl⟩ small rfl word rfl)
      fun _ _ => holdsPlant_some.mpr
  · rename_i stores
    exact always_unplanted unplanted_initial (genX87ControlForm_kept unplanted_steps.toPlainSteps
      fun loads => absurd loads stores)

/-- Whatever is drawn, what a family plants is pending for its operand. -/
theorem family_plants (caps : HostCaps) (f : Family) : always (f.genPlants caps) HoldsPlant {} := by
  have unplanted (unplanted : f.isPlanting = false) :
      always (Option.map (·, Planted.nothing) <$> f.gen caps) HoldsPlant {} := by
    by_cases plain : f.isPlain = true
    · exact always_unplanted unplanted_initial
        (unplanted_kept unplanted_steps.toPlainSteps plain unplanted)
    · cases f with
      | gen_muldiv => exact always_unplanted unplanted_initial (genMuldiv_kept unplanted_steps)
      | gen_xadd_cmpxchg =>
          exact always_unplanted unplanted_initial (genXaddCmpxchg_kept unplanted_steps)
      | gen_string_ops =>
          exact always_unplanted unplanted_initial (genStringOps_kept unplanted_steps)
      | gen_rmsrc => exact always_unplanted unplanted_initial (genRmsrc_kept unplanted_scanned)
      | gen_jmp | gen_call | gen_x87_control => cases unplanted
      | _ => exact absurd rfl plain
  cases f with
  | gen_jmp => exact genJmpPlants_pends
  | gen_call => exact genCallPlants_pends
  | gen_x87_load => exact genX87LoadPlants_pends
  | gen_x87_arith => exact genX87ArithPlants_pends
  | gen_x87_compare => exact genX87ComparePlants_pends
  | gen_x87_control => exact genX87ControlPlants_pends
  | _ => exact unplanted rfl

/-! ## The seed -/

namespace Pending

variable {c : Ctx} {disp : Nat} {planted : Planted}

/-- Something is planted, of ten bytes at most. -/
theorem fits (pending : Pending c disp planted) : 0 < planted.size ∧ planted.size ≤ 10 := by
  cases pending with
  | qword => exact ⟨Nat.succ_pos 7, Nat.le_add_right 8 2⟩
  | bytes _ _ fits => exact fits

/-- A family plants in one of the two ways, never in both. -/
theorem one (pending : Pending c disp planted) :
    c.forceDataQword = none ∨ c.forceDataBytes = none := by
  cases pending with
  | qword _ bytes => exact .inr bytes
  | bytes qword => exact .inl qword

/-- What is pending is no absent operand. -/
theorem ne_nothing (pending : Pending c disp planted) : planted ≠ .nothing := by
  rintro rfl
  exact absurd pending.fits.1 (Nat.lt_irrefl 0)

/-- The context holds a plant. -/
theorem not_none (pending : Pending c disp planted) :
    ¬ (c.forceDataQword = none ∧ c.forceDataBytes = none) := by
  rintro ⟨noQword, noBytes⟩
  cases pending with
  | qword qword => cases qword.symm.trans noQword
  | bytes _ bytes => cases bytes.symm.trans noBytes

/-- The guards of `next` let the plant through. -/
theorem inBounds (pending : Pending c disp planted) (inside : disp + planted.size ≤ kDataWindow) :
    (∀ q, c.forceDataQword = some q → q.offset + 8 ≤ kDataWindow) ∧
      ∀ b, c.forceDataBytes = some b → b.offset + b.size ≤ kDataWindow := by
  cases pending with
  | qword qword bytes =>
      refine ⟨fun q same => ?_, fun b same => ?_⟩
      · obtain rfl := Option.some.inj (qword.symm.trans same)
        exact inside
      · cases bytes.symm.trans same
  | bytes qword bytes =>
      refine ⟨fun q same => ?_, fun b same => ?_⟩
      · cases qword.symm.trans same
      · obtain rfl := Option.some.inj (bytes.symm.trans same)
        exact inside

end Pending

/-- Some bytes of the seed as a number, lowest first. -/
def decodeSeed (seed : Fin kDataWindow → BitVec 8) (offset size : Nat) : Nat :=
  Nat.ofDigits 256 ((List.range size).map fun i => (seedAt seed (offset + i)).toNat)

/-- A value read from the window is the one whose bytes are there. -/
theorem decodeSeed_of_bytes {seed : Fin kDataWindow → BitVec 8} {offset size value : Nat}
    (bytes : ∀ i < size, (seedAt seed (offset + i)).toNat = value / 2 ^ (8 * i) % 256) :
    decodeSeed seed offset size = value % 2 ^ (8 * size) :=
  Words.ofDigits_bytes bytes

/-- What is pending is written, and nothing else. -/
theorem plantAll_pending {c : Ctx} {disp : Nat} {planted : Planted}
    (pending : Pending c disp planted) (fill : Fin kDataWindow → BitVec 8) :
    plantAll c fill = plant fill disp planted.size planted.byte := by
  cases pending with
  | qword qword bytes =>
      simp only [plantAll, qword, bytes, Option.elim_some, Option.elim_none]
      rfl
  | bytes qword bytes fits holds =>
      simp only [plantAll, qword, bytes, Option.elim_some, Option.elim_none]
      unfold plant
      split
      · refine funext fun i => ?_
        split
        · exact holds _ (by omega)
        · rfl
      · rfl

/-- The bytes of an extended value are those of its two fields, one after the other. -/
theorem toNat_x87Bytes (v : X87Raw) {i : Nat} (below : i < 10) :
    (x87Bytes v i).toNat = (v.signif.toNat + v.signexp.toNat * 2 ^ 64) / 2 ^ (8 * i) % 256 := by
  have low := v.signif.isLt
  have high := v.signexp.isLt
  unfold x87Bytes
  split
  · have split : 2 ^ 64 = 2 ^ (8 * i) * (2 ^ (8 * (7 - i)) * 256) := by
      rw [show 256 = 2 ^ 8 from rfl, ← Nat.pow_add, ← Nat.pow_add]
      congr 1
      omega
    have shifted : (v.signif.toNat + v.signexp.toNat * 2 ^ 64) / 2 ^ (8 * i) =
        v.signif.toNat / 2 ^ (8 * i) + v.signexp.toNat * 2 ^ (8 * (7 - i)) * 256 := by
      rw [split, Nat.mul_left_comm, Nat.add_mul_div_left _ _ (Nat.two_pow_pos _), Nat.mul_assoc]
    rw [toNat_byteOf, shifted, Nat.add_mul_mod_self_right]
  split
  · rename_i eight
    subst eight
    rw [BitVec.toNat_setWidth]
    omega
  · obtain rfl : i = 9 := by omega
    rw [BitVec.toNat_setWidth, BitVec.toNat_ushiftRight, Nat.shiftRight_eq_div_pow]
    omega

/-- The bytes of a value decode to it. -/
theorem Planted.decode {planted : Planted} {seed : Fin kDataWindow → BitVec 8} {offset : Nat}
    (bytes : ∀ i < planted.size, seedAt seed (offset + i) = planted.byte i) :
    decodeSeed seed offset planted.size = planted.number := by
  have word {value : BitVec 64} {size : Nat}
      (stored : ∀ i < size, seedAt seed (offset + i) = byteOf value i) :
      decodeSeed seed offset size = value.toNat % 2 ^ (8 * size) :=
    decodeSeed_of_bytes fun i below => by rw [stored i below, toNat_byteOf]
  cases planted with
  | nothing => rfl
  | target value | double value => exact (word bytes).trans (Nat.mod_eq_of_lt value.isLt)
  | single value =>
      have narrow := value.isLt
      refine (word bytes).trans ?_
      simp only [Planted.number, Planted.size, BitVec.toNat_setWidth]
      omega
  | extended value =>
      have low := value.signif.isLt
      have high := value.signexp.isLt
      refine (decodeSeed_of_bytes fun i below => ?_).trans (Nat.mod_eq_of_lt ?_)
      · rw [bytes i below]
        exact toNat_x87Bytes value below
      · change value.signif.toNat + value.signexp.toNat * 2 ^ 64 < 2 ^ (8 * 10)
        omega
  | integer value size => exact word bytes

/-- The significand comes first, then sign and exponent. -/
theorem decode_extended {v : X87Raw} {seed : Fin kDataWindow → BitVec 8} {offset : Nat}
    (bytes : ∀ i < 10, seedAt seed (offset + i) = x87Bytes v i) :
    decodeSeed seed offset 8 = v.signif.toNat ∧
      decodeSeed seed (offset + 8) 2 = v.signexp.toNat := by
  have low := v.signif.isLt
  have high := v.signexp.isLt
  constructor
  · refine (decodeSeed_of_bytes fun i below => ?_).trans
      (show (v.signif.toNat + v.signexp.toNat * 2 ^ 64) % 2 ^ (8 * 8) = _ by omega)
    rw [bytes i (by omega), toNat_x87Bytes v (by omega)]
  · refine (decodeSeed_of_bytes fun i below => ?_).trans
      (show (v.signif.toNat + v.signexp.toNat * 2 ^ 64) / 2 ^ (8 * 8) % 2 ^ (8 * 2) = _ by omega)
    rw [Nat.add_assoc, bytes (8 + i) (by omega), toNat_x87Bytes v (by omega),
      Nat.div_div_eq_div_mul, ← Nat.pow_add, Nat.mul_add]

/-- An extended value is laid out as in a floating-point register of the thread context. -/
theorem number_extended (context : Context) (r : RegState) (i : Fin 8) :
    (Planted.extended ⟨r.x87.signexp i, r.x87.signif i⟩).number =
      ((applyContextToX87 context r).fltSave.floatRegisters i).toNat := by
  have low := (r.x87.signif i).isLt
  have high := (r.x87.signexp i).isLt
  have joined : (applyContextToX87 context r).fltSave.floatRegisters i =
      (r.x87.signexp i).setWidth 128 <<< 64 ||| (r.x87.signif i).setWidth 128 := rfl
  have apart : (r.x87.signexp i).setWidth 128 <<< 64 &&& (r.x87.signif i).setWidth 128 = 0#128 := by
    apply BitVec.eq_of_getLsbD_eq
    intro bit _
    rw [BitVec.getLsbD_and, BitVec.getLsbD_shiftLeft, BitVec.getLsbD_setWidth _ (r.x87.signif i)]
    rcases Nat.lt_or_ge bit 64 with below | above
    · simp [below]
    · simp [BitVec.getLsbD_of_ge _ _ above]
  rw [joined, ← BitVec.add_eq_or_of_and_eq_zero _ _ apart]
  simp only [Planted.number, BitVec.toNat_add, BitVec.toNat_shiftLeft, BitVec.toNat_setWidth,
    Nat.shiftLeft_eq]
  omega

/-- Where the memory operand of an instruction is in the seed, from RDI. -/
def Instruction.seedOffset (instr : Instruction) : Nat :=
  instr.memory.elim 0 fun m => m.displacement.toNat

/-- What was planted is in the seed, where the instruction reads it, over the random bytes. -/
structure PlantArrives (g : Generated) (planted : Planted) (fill : Fin kDataWindow → BitVec 8) :
    Prop where
  one : g.ctx.forceDataQword = none ∨ g.ctx.forceDataBytes = none
  pending : planted = .nothing ↔ g.ctx.forceDataQword = none ∧ g.ctx.forceDataBytes = none
  inBounds : (∀ q, g.ctx.forceDataQword = some q → q.offset + 8 ≤ kDataWindow) ∧
    ∀ b, g.ctx.forceDataBytes = some b → b.offset + b.size ≤ kDataWindow
  operand : planted ≠ .nothing → g.instruction.operands = [{ kind := .MEMORY }] ∧
    g.instruction.memorySize = planted.size ∧
    ∃ m, g.instruction.memory = some m ∧ m.base = RDI ∧ g.testCase.initial.gpr 7 = kDataBase
  decoded : decodeSeed g.testCase.dataSeed g.instruction.seedOffset planted.size = planted.number
  halves : ∀ v, planted = .extended v →
    decodeSeed g.testCase.dataSeed g.instruction.seedOffset 8 = v.signif.toNat ∧
      decodeSeed g.testCase.dataSeed (g.instruction.seedOffset + 8) 2 = v.signexp.toNat
  others : ∀ i : Fin kDataWindow, ¬ (g.instruction.seedOffset ≤ i ∧
    i < g.instruction.seedOffset + planted.size) → g.testCase.dataSeed i = fill i

/-- What a test case is finished with that bears on the seed. -/
structure SeedFinished (c : Ctx) (tc : TestCase) (fill : Fin kDataWindow → BitVec 8) : Prop where
  seed : tc.dataSeed = plantAll c fill
  gpr : ∃ drawn, tc.initial.gpr = pinGpr c drawn

/-- `next` plants exactly what the context holds over the drawn window. -/
theorem finishCaseFilled_seed (c : Ctx) (bytes : List (BitVec 8)) :
    (finishCaseFilled c bytes).Always fun finished => SeedFinished c finished.1 finished.2 := by
  simp only [finishCaseFilled, always_bind, always_pure]
  refine always_of_forall fun drawnGpr => always_of_forall fun drawnXmm => ?_
  refine always_of_forall fun x87 => always_of_forall fun fl => always_of_forall fun drawnSeed => ?_
  exact ⟨rfl, drawnGpr, rfl⟩

/-- The operand of a family lies at its displacement in the window. -/
theorem seedOffset_memOperand {instr : Instruction} {disp : Nat} (small : disp ≤ 0x7F)
    (memory : instr.memory = some (memOperand (BitVec.ofNat 8 disp))) :
    instr.seedOffset = disp := by
  rw [Instruction.seedOffset, memory]
  exact offsetOf_small small

/-- **From context to test case**: what the context holds is where the instruction looks for it. -/
theorem plantArrives {g : Generated} {planted : Planted} {fill : Fin kDataWindow → BitVec 8}
    (plants : PlantsOperand g.ctx g.instruction planted)
    (finished : SeedFinished g.ctx g.testCase fill) : PlantArrives g planted fill := by
  cases plants with
  | nothing qword bytes =>
      have seed : g.testCase.dataSeed = fill := by
        simp only [finished.seed, plantAll, qword, bytes, Option.elim_none]
      refine ⟨.inl qword, iff_of_true rfl ⟨qword, bytes⟩,
        ⟨fun q pending => ?_, fun b pending => ?_⟩, fun some => absurd rfl some,
          rfl, by rintro v ⟨⟩,
        fun i _ => congrFun seed i⟩
      · cases qword.symm.trans pending
      · cases bytes.symm.trans pending
  | @operand _ disp small pending operands memory size pins =>
      obtain ⟨drawn, gpr⟩ := finished.gpr
      have offset := seedOffset_memOperand small memory
      have inside : disp + planted.size ≤ kDataWindow := by
        have narrow := pending.fits.2
        unfold kDataWindow
        omega
      have seed : g.testCase.dataSeed = plant fill disp planted.size planted.byte := by
        rw [finished.seed, plantAll_pending pending]
      have stored (i : Nat) (below : i < planted.size) :
          seedAt g.testCase.dataSeed (disp + i) = planted.byte i := by
        have within : disp + i < kDataWindow := by omega
        rw [seedAt, dif_pos within, seed, plant_inside inside below]
      refine ⟨pending.one, iff_of_false pending.ne_nothing pending.not_none,
        pending.inBounds inside, fun _ => ⟨operands, size, _, memory, rfl, ?_⟩, ?_, ?_, ?_⟩
      · rw [gpr]
        exact pinGpr_rdi pins.1 pins.2 drawn
      · rw [offset]
        exact Planted.decode stored
      · rintro v rfl
        rw [offset]
        exact decode_extended stored
      · intro i outside
        rw [offset] at outside
        rw [seed]
        exact plant_outside outside fill planted.byte

/-- The fallback plants nothing. -/
theorem plantArrives_fallback : PlantArrives fallback .nothing fallback.testCase.dataSeed :=
  plantArrives (.nothing rfl rfl) ⟨rfl, _, rfl⟩

/-- **Planted operands arrive.** Whatever is drawn, what the family planted is not dropped, is the
only plant, and reads back from the seed at the operand of the instruction; the other bytes are
those that were drawn. An extended value has the layout of the lanes. -/
theorem planted_arrives (encode : Instruction → Option (List (BitVec 8))) (caps : HostCaps)
    (discarded : Nat) :
    Prod.fst <$> nextPlants encode caps discarded = next encode caps discarded ∧
      (nextPlants encode caps discarded).Always (fun ended =>
        PlantArrives ended.1.1 ended.2.1 ended.2.2) ∧
      ∀ (context : Context) (r : RegState) (i : Fin 8),
        (Planted.extended ⟨r.x87.signexp i, r.x87.signif i⟩).number =
          ((applyContextToX87 context r).fltSave.floatRegisters i).toNat := by
  refine ⟨erase_nextPlants encode caps discarded, ?_, number_extended⟩
  have attempted : (attemptPlants encode caps).Always fun ended => ∀ g log, ended = some (g, log) →
      PlantArrives g log.1 log.2 := by
    refine (attemptOf_from (family_plants caps) finishCaseFilled_seed).mono ?_
    exact fun ended held g log same => plantArrives (held g log same).1 (held g log same).2
  exact nextOf_from (fun g log => PlantArrives g (Prod.fst log) (Prod.snd log))
    plantArrives_fallback attempted discarded

end SevenFuzzer
