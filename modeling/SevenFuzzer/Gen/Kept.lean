import SevenFuzzer.Gen.BuiltX87

/-! # What the families keep

Most families change their context in the same few steps: they touch memory, set their flags
mask, force the count register, plant data or set up the x87 stack. What these steps keep
is kept by all of these families, whatever is drawn, and none of them builds a bit scan, a
string instruction or a load of the x87 control word (`SevenFuzzer.family_kept`). So what
holds of every other instruction need be looked at for three families only
(`SevenFuzzer.families_of_plain`).
-/

namespace SevenFuzzer

open Draw InstructionFactory

variable {caps : HostCaps} {inv : Ctx → Prop}

/-- BSF and BSR. -/
def Mnemonic.isScan : Mnemonic → Bool
  | .rmsrc op => isBsfBsr op
  | _ => false

/-- The string instructions. -/
def Mnemonic.isString : Mnemonic → Bool
  | .string _ => true
  | _ => false

/-- What a family needs no record of its own for. -/
def Mnemonic.isPlain (mnemonic : Mnemonic) : Bool :=
  !mnemonic.isScan && !mnemonic.isString && mnemonic != .x87 .FLDCW

/-- A mask of flags that the lanes report. -/
def ComparedFlags (mask : BitVec 64) : Prop := kCompareFlagsMask &&& mask = mask

instance (mask : BitVec 64) : Decidable (ComparedFlags mask) :=
  inferInstanceAs (Decidable (_ = _))

/-- Clearing flags leaves a mask of compared flags. -/
theorem ComparedFlags.and {mask : BitVec 64} (compared : ComparedFlags mask) (kept : BitVec 64) :
    ComparedFlags (mask &&& kept) := by
  rw [ComparedFlags, ← BitVec.and_assoc, compared]

/-- A property of the context that is kept where nothing is planted. -/
structure PlainSteps (inv : Ctx → Prop) : Prop where
  touchesMemory : ∀ c, inv c → inv { c with touchesMemory := true }
  flagsMask : ∀ c mask, (ComparedFlags c.flagsMask → ComparedFlags mask) →
    inv c → inv { c with flagsMask := mask }
  count : ∀ c value, inv c → inv { c with forceGpr := Function.update c.forceGpr 1 value }
  x87 : ∀ c, ∀ needs ≤ 8, inv c → inv { c with usesX87 := true, x87Needs := needs }
  needs : ∀ c, inv c → c.x87Needs ≤ 8

/-- A property of the context that the steps of most families keep. -/
structure FamilySteps (inv : Ctx → Prop) : Prop extends PlainSteps inv where
  dataQword : ∀ c qword, inv c → inv { c with forceDataQword := qword }
  dataBytes : ∀ c bytes, inv c → inv { c with forceDataBytes := bytes }

/-- A program that keeps the property and ends with nothing or a plain instruction. -/
abbrev Ordinary (inv : Ctx → Prop) (prog : Gen (Option Instruction)) : Prop :=
  Keeps inv (fun result => ∀ instr, result = some instr → instr.code.mnemonic.isPlain = true) prog

/-- To end with a plain instruction is to end as an ordinary family does. -/
theorem ordinary_built {instr : Instruction} (mnemonic : instr.code.mnemonic.isPlain = true) :
    Ordinary inv (Pure.pure (some instr)) :=
  keeps_return fun _ built => Option.some.inj built ▸ mnemonic

theorem ordinary_none : Ordinary inv (Pure.pure none) :=
  keeps_return fun _ built => (Option.some_ne_none _ built.symm).elim

/-- Stamping an operand leaves the encoding alone. -/
theorem setImmKind_code (instr : Instruction) (index : Nat) (kind : OpKind) :
    (setImmKind instr index kind).code = instr.code := by
  unfold setImmKind
  split <;> rfl

/-- Storing an immediate leaves the encoding alone. -/
theorem setImmSized_code (instr : Instruction) (index : Nat) (w : Width) (short : Bool)
    (value : BitVec 64) : (setImmSized instr index w short value).code = instr.code := by
  have kind := setImmKind_code instr index
  unfold setImmSized
  split
  · split <;> exact kind _
  · split <;> exact kind _

/-- The rule for a form with an immediate of the operand's width. -/
theorem ordinary_sized {instr : Instruction} {index : Nat} {w : Width} {short : Bool}
    {value : BitVec 64} (mnemonic : instr.code.mnemonic.isPlain = true) :
    Ordinary inv (Pure.pure (some (setImmSized instr index w short value))) :=
  ordinary_built (by rw [setImmSized_code]; exact mnemonic)

namespace PlainSteps

theorem keeps_touchMemory (steps : PlainSteps inv) : Keeps inv (fun _ => True) touchMemory :=
  keeps_modify steps.touchesMemory

theorem keeps_setFlagsMask (steps : PlainSteps inv) {mask : BitVec 64}
    (compared : ComparedFlags mask) : Keeps inv (fun _ => True) (setFlagsMask mask) :=
  keeps_modify fun c => steps.flagsMask c mask fun _ => compared

/-- Taking flags out of the comparison is one of the steps. -/
theorem keeps_clearFlags (steps : PlainSteps inv) (kept : BitVec 64) :
    Keeps inv (fun _ => True)
      (modify fun c => { c with flagsMask := c.flagsMask &&& kept } : Gen Unit) :=
  keeps_modify fun c => steps.flagsMask c _ fun compared => compared.and kept

theorem keeps_forceCount (steps : PlainSteps inv) (value : BitVec 64) :
    Keeps inv (fun _ => True) (force 1 value) :=
  keeps_modify fun c => steps.count c (some value)

/-- Asking for stack slots is one of the steps, as long as there are so many. -/
theorem keeps_x87Setup (steps : PlainSteps inv) {needs : Nat} (onStack : needs ≤ 8) :
    Keeps inv (fun _ => True) (x87Setup needs) :=
  keeps_modify fun c kept => steps.x87 c _ (by
    split
    · exact onStack
    · exact steps.needs c kept) kept

end PlainSteps

/-- Planting bytes is one of the steps. -/
theorem FamilySteps.keeps_plantBytes (steps : FamilySteps inv) (disp : BitVec 8)
    (src : Nat → BitVec 8) (size : Nat) : Keeps inv (fun _ => True) (plantBytes disp src size) :=
  keeps_modify fun c => steps.dataBytes c _

@[simp] theorem ordered_fullU64 : fullU64.Ordered := by simp [fullU64]

@[simp] theorem ordered_randomInterestingU64 : randomInterestingU64.Ordered := by
  refine Ordered.seq (by simp) fun roll => ?_
  split
  · refine Ordered.seq (by simp) fun v => Ordered.seq (by simp) fun roll => ?_
    split
    · exact Ordered.seq (by simp) fun delta => trivial
    · trivial
  · exact ordered_fullU64

@[simp] theorem ordered_randomImm (bits : Nat) : (randomImm bits).Ordered :=
  ordered_randomInterestingU64.seq fun _ => trivial

@[simp] theorem ordered_randomImm32 (bits : Nat) : (randomImm32 bits).Ordered :=
  (ordered_randomImm bits).seq fun _ => trivial

@[simp] theorem ordered_randomImmShort : randomImmShort.Ordered :=
  (ordered_randomImm 8).seq fun _ => trivial

@[simp] theorem ordered_randomDisp8 : randomDisp8.Ordered := by simp [randomDisp8]

@[simp] theorem ordered_alignedDisp8 (alignment : Nat) : (alignedDisp8 alignment).Ordered :=
  Ordered.seq (by simp) fun _ => trivial

@[simp] theorem ordered_pickRegIndex : pickRegIndex.Ordered := ordered_index 15

@[simp] theorem ordered_pickXmmIndex : pickXmmIndex.Ordered := ordered_index 15

@[simp] theorem ordered_pickStIndex : pickStIndex.Ordered := ordered_index 7

@[simp] theorem ordered_anyWidth : anyWidth.Ordered := ordered_pick

@[simp] theorem ordered_width163264 : width163264.Ordered := ordered_pick

@[simp] theorem ordered_randomCodeTarget : randomCodeTarget.Ordered :=
  Ordered.seq (by simp) fun _ => trivial

@[simp] theorem ordered_randomShortTarget : randomShortTarget.Ordered :=
  Ordered.seq (by simp) fun _ => trivial

@[simp] theorem ordered_shortImm (w : Width) : (shortImm w).Ordered := by
  simp [shortImm]

@[simp] theorem ordered_immOf (short : Bool) (w : Width) : (immOf short w).Ordered := by
  simp [immOf]

@[simp] theorem ordered_crc32SourceWidth (dest64 : Bool) : (crc32SourceWidth dest64).Ordered := by
  unfold crc32SourceWidth
  split
  · exact Ordered.seq (by simp) fun _ => trivial
  · exact ordered_pick

@[simp] theorem ordered_remainderBelow (divisor : BitVec 64) :
    (remainderBelow divisor).Ordered := by
  simp [remainderBelow]

@[simp] theorem ordered_biasedDiv (op : MulDivOp) : (biasedDiv op).Ordered := by
  simp [biasedDiv]

@[simp] theorem ordered_equalOperands (isXadd : Bool) : (equalOperands isXadd).Ordered := by
  simp [equalOperands]

@[simp] theorem ordered_forcesMisaligned (form : SseMoveForm) :
    (forcesMisaligned form).Ordered := by
  simp [forcesMisaligned]

@[simp] theorem ordered_sseMoveDisp (form : SseMoveForm) : (sseMoveDisp form).Ordered :=
  (ordered_forcesMisaligned form).seq fun _ => by simp

@[simp] theorem ordered_loadsFromMemory (code : Code) : (loadsFromMemory code).Ordered := by
  simp [loadsFromMemory]

@[simp] theorem ordered_pickVexEntry (evexOk : Bool) (attempts : Nat) :
    (pickVexEntry evexOk attempts).Ordered := by
  induction attempts with
  | zero => exact trivial
  | succ attempts ih =>
      refine ordered_pick.seq fun candidate => ?_
      split
      · exact ih
      · trivial

@[simp] theorem ordered_drawsBroadcast (useMem : Bool) (entry : VexEntry) :
    (drawsBroadcast useMem entry).Ordered := by
  simp [drawsBroadcast]

@[simp] theorem ordered_randomX87Value : randomX87Value.Ordered := by
  refine Ordered.seq (by simp) fun roll => ?_
  split
  · exact Ordered.seq (by simp) fun signexp => ordered_fullU64.seq fun signif => trivial
  · exact Ordered.seq (by simp) fun v => Ordered.seq (by simp) fun negative => trivial

@[simp] theorem ordered_randomControlWord : randomControlWord.Ordered :=
  Ordered.seq (by simp) fun rounding => Ordered.seq (by simp) fun infinity => trivial

/-! ## Integer families -/

theorem genAlu_kept (steps : PlainSteps inv) : Ordinary inv genAlu := by
  refine keeps_pick fun t listed => keeps_draw (by simp) fun w => keeps_draw (by simp) fun form =>
    ?_
  obtain ⟨op, rfl⟩ := mem_kAluOps listed
  refine keeps_ite (keeps_draw (by simp) fun imm =>
    ordinary_sized rfl) (keeps_ite ?_ (keeps_ite ?_ ?_))
  · exact keeps_draw (by simp) fun a => keeps_draw (by simp) fun b => ordinary_built rfl
  · exact keeps_draw (by simp) fun a => keeps_draw (by simp) fun short =>
      keeps_draw (by simp) fun imm =>
      ordinary_sized (by cases short <;> rfl)
  · refine keeps_seq steps.keeps_touchMemory fun _ => keeps_draw (by simp) fun disp =>
      keeps_draw (by simp) fun immediate => ?_
    refine keeps_ite ?_ (keeps_draw (by simp) fun r => keeps_draw (by simp) fun store => ?_)
    · exact keeps_draw (by simp) fun short => keeps_draw (by simp) fun imm =>
        ordinary_sized (by cases short <;> rfl)
    · exact keeps_ite (ordinary_built rfl) (ordinary_built rfl)

theorem genTest_kept (steps : PlainSteps inv) : Ordinary inv genTest := by
  refine keeps_draw (by simp) fun w => keeps_draw (by simp) fun form =>
    keeps_ite ?_ (keeps_ite ?_ (keeps_ite ?_ ?_))
  · exact keeps_draw (by simp) fun imm => keeps_draw (by simp) fun accumulated =>
      keeps_ite (ordinary_sized rfl) (keeps_draw (by simp) fun a => ordinary_sized rfl)
  · exact keeps_draw (by simp) fun a => keeps_draw (by simp) fun b => ordinary_built rfl
  · exact keeps_draw (by simp) fun a => keeps_draw (by simp) fun imm => ordinary_sized rfl
  · exact keeps_seq steps.keeps_touchMemory fun _ => keeps_draw (by simp) fun disp =>
      keeps_draw (by simp) fun register =>
      keeps_ite (keeps_draw (by simp) fun b => ordinary_built rfl) (keeps_draw (by simp) fun imm =>
        ordinary_sized rfl)

theorem genUnary_kept (steps : PlainSteps inv) : Ordinary inv genUnary := by
  refine keeps_draw (by simp) fun op => keeps_draw (by simp) fun w =>
    keeps_draw (by simp) fun register => keeps_ite ?_ ?_
  · exact keeps_draw (by simp) fun a => ordinary_built rfl
  · exact keeps_seq steps.keeps_touchMemory fun _ => keeps_draw (by simp) fun disp =>
      ordinary_built rfl

theorem genShift_kept (steps : PlainSteps inv) : Ordinary inv genShift := by
  refine keeps_pick fun t listed => keeps_draw (by simp) fun w => keeps_draw (by simp) fun form =>
    keeps_draw (by simp) fun useMem =>
    keeps_ite (keeps_seq (steps.keeps_clearFlags _) fun _ => ?_) ?_
  all_goals
    obtain ⟨op, rfl⟩ := mem_kShiftOps listed
    refine keeps_ite (keeps_draw (by simp) fun a =>
      keeps_ite (ordinary_built rfl) (keeps_ite (ordinary_built rfl) ?_))
      (keeps_seq steps.keeps_touchMemory fun _ => keeps_draw (by simp) fun disp =>
        keeps_ite (ordinary_built rfl) (keeps_ite (ordinary_built rfl) ?_))
    · exact keeps_draw (by simp) fun imm => keeps_draw (by simp) fun masked => ordinary_built rfl
    · exact keeps_draw (by simp) fun imm => ordinary_built rfl

theorem genMov_kept (steps : PlainSteps inv) : Ordinary inv genMov := by
  refine keeps_draw (by simp) fun w => keeps_draw (by simp) fun form =>
    keeps_ite ?_ (keeps_ite ?_ ?_)
  · exact keeps_draw (by simp) fun a => keeps_draw (by simp) fun b => ordinary_built rfl
  · exact keeps_draw (by simp) fun a => keeps_ite (keeps_draw (by simp) fun imm =>
      ordinary_built rfl)
      (keeps_draw (by simp) fun imm => ordinary_sized rfl)
  · refine keeps_seq steps.keeps_touchMemory fun _ => keeps_draw (by simp) fun disp =>
      keeps_draw (by simp) fun memForm => ?_
    exact keeps_ite (keeps_draw (by simp) fun r => ordinary_built rfl)
      (keeps_ite (keeps_draw (by simp) fun r => ordinary_built rfl) (keeps_draw (by simp) fun imm =>
        ordinary_sized rfl))

theorem genMovx_kept (steps : PlainSteps inv) : Ordinary inv genMovx := by
  refine keeps_draw (by simp) fun zeroExt => keeps_draw (by simp) fun widths =>
    keeps_draw (by simp) fun d =>
    keeps_draw (by simp) fun register => keeps_ite (keeps_draw (by simp) fun s => ?_)
      (keeps_seq steps.keeps_touchMemory fun _ => keeps_draw (by simp) fun disp => ?_)
  all_goals exact ordinary_built (by cases zeroExt <;> rfl)

theorem genMovsxd_kept (steps : PlainSteps inv) : Ordinary inv genMovsxd :=
  keeps_draw (by simp) fun _ => keeps_draw (by simp) fun _ =>
    keeps_ite (keeps_draw (by simp) fun _ => ordinary_built rfl)
    (keeps_seq steps.keeps_touchMemory fun _ => keeps_draw (by simp) fun _ => ordinary_built rfl)

theorem genPushpop_kept : Ordinary inv genPushpop :=
  keeps_draw (by simp) fun isPush => keeps_draw (by simp) fun r =>
    ordinary_built (by cases isPush <;> rfl)

theorem genLea_kept (steps : PlainSteps inv) : Ordinary inv genLea :=
  keeps_seq steps.keeps_touchMemory fun _ => keeps_draw (by simp) fun _ =>
    keeps_draw (by simp) fun _ =>
    keeps_draw (by simp) fun _ => ordinary_built rfl

theorem genMoffs_kept (steps : PlainSteps inv) : Ordinary inv genMoffs :=
  keeps_seq (steps.keeps_setFlagsMask (by decide)) fun _ =>
    keeps_seq steps.keeps_touchMemory fun _ =>
    keeps_draw (by simp) fun _ => keeps_draw (by simp) fun _ => keeps_draw (by simp) fun _ =>
      keeps_ite (ordinary_built rfl) (ordinary_built rfl)

theorem genMovbeCrc32Nop_kept (steps : PlainSteps inv) : Ordinary inv genMovbeCrc32Nop := by
  refine keeps_draw (by simp) fun family => keeps_ite ?_ (keeps_ite ?_ ?_)
  all_goals refine keeps_seq (steps.keeps_setFlagsMask (by decide)) fun _ => ?_
  · exact keeps_seq steps.keeps_touchMemory fun _ => keeps_draw (by simp) fun w =>
      keeps_draw (by simp) fun r =>
      keeps_draw (by simp) fun disp => keeps_draw (by simp) fun load =>
        keeps_ite (ordinary_built rfl) (ordinary_built rfl)
  · exact keeps_draw (by simp) fun d => keeps_draw (by simp) fun src =>
      keeps_draw (by simp) fun dest64 => keeps_draw (by simp) fun sw =>
      keeps_draw (by simp) fun memory => keeps_ite
        (keeps_seq steps.keeps_touchMemory fun _ => keeps_draw (by simp) fun disp =>
          ordinary_built rfl)
        (ordinary_built rfl)
  · exact keeps_draw (by simp) fun w => keeps_draw (by simp) fun memory => keeps_ite
      (keeps_seq steps.keeps_touchMemory fun _ => keeps_draw (by simp) fun disp =>
        ordinary_built rfl)
      (keeps_draw (by simp) fun r => ordinary_built rfl)

theorem genJcc_kept : Ordinary inv genJcc :=
  keeps_draw (by simp) fun _ => keeps_draw (by simp) fun _ =>
    keeps_ite (keeps_draw (by simp) fun _ => ordinary_built rfl)
    (keeps_draw (by simp) fun _ => ordinary_built rfl)

theorem keeps_indirectTargetDisp (steps : FamilySteps inv) :
    Keeps inv (fun _ => True) indirectTargetDisp :=
  keeps_draw (by simp) fun _ => keeps_draw (by simp) fun _ =>
    keeps_seq (keeps_modify fun c => steps.dataQword c _) fun _ => keeps_return trivial

theorem genRet_kept : Ordinary inv genRet :=
  keeps_draw (by simp) fun _ => keeps_ite (ordinary_built rfl) (keeps_draw (by simp) fun _ =>
    ordinary_built rfl)

theorem genLoop_kept (steps : PlainSteps inv) : Ordinary inv genLoop := by
  have rows : ∀ code ∈ kLoop, code.mnemonic.isPlain = true := by decide
  refine keeps_draw (by simp) fun target => keeps_draw (by simp) fun choice =>
    keeps_draw (by simp) fun counted =>
    keeps_ite (keeps_draw (by simp) fun count => keeps_seq (steps.keeps_forceCount _) fun _ =>
      ?_) ?_
  all_goals
    refine keeps_ite (ordinary_built rfl) (keeps_ite (ordinary_built rfl) (keeps_return ?_))
    intro instr built
    obtain ⟨code, found, rfl⟩ := Option.map_eq_some_iff.mp built
    exact rows code (List.mem_of_getElem? found)

theorem genSetcc_kept (steps : PlainSteps inv) : Ordinary inv genSetcc :=
  keeps_draw (by simp) fun _ => keeps_draw (by simp) fun _ =>
    keeps_ite (keeps_draw (by simp) fun _ => ordinary_built rfl)
    (keeps_seq steps.keeps_touchMemory fun _ => keeps_draw (by simp) fun _ => ordinary_built rfl)

theorem genCmovcc_kept (steps : PlainSteps inv) : Ordinary inv genCmovcc :=
  keeps_draw (by simp) fun _ => keeps_draw (by simp) fun _ => keeps_draw (by simp) fun _ =>
    keeps_draw (by simp) fun _ =>
    keeps_ite (keeps_draw (by simp) fun _ => ordinary_built rfl)
      (keeps_seq steps.keeps_touchMemory fun _ => keeps_draw (by simp) fun _ => ordinary_built rfl)

theorem genBt_kept (steps : PlainSteps inv) : Ordinary inv genBt := by
  refine keeps_seq (steps.keeps_setFlagsMask (by decide)) fun _ => keeps_draw (by simp) fun op =>
    keeps_draw (by simp) fun w =>
    keeps_draw (by simp) fun useImm => keeps_draw (by simp) fun register =>
      keeps_ite (keeps_draw (by simp) fun a => ?_)
      (keeps_seq steps.keeps_touchMemory fun _ => keeps_draw (by simp) fun disp => ?_)
  all_goals
    exact keeps_ite (keeps_draw (by simp) fun imm =>
      ordinary_built rfl) (keeps_draw (by simp) fun b => ordinary_built rfl)

theorem genBswap_kept : Ordinary inv genBswap :=
  keeps_draw (by simp) fun _ => keeps_draw (by simp) fun _ => ordinary_built rfl

/-- Whatever a row of the table builds is plain. -/
theorem bmiForm_kept (e : BmiEntry) (w : Width) (d s : Fin 16) (rmIsMem : Bool) (disp : BitVec 8)
    (imm8 : BitVec 32) : Ordinary inv (bmiForm e w d s rmIsMem disp imm8) := by
  obtain ⟨op, shape, writesFlags⟩ := e
  cases shape with
  | kDstSrcRm | kDstRmSrc => exact keeps_ite (ordinary_built rfl) (keeps_draw (by simp) fun r =>
    ordinary_built rfl)
  | kDstRm | kDstRmImm => exact keeps_ite (ordinary_built rfl) (ordinary_built rfl)

theorem genBmi_kept (steps : PlainSteps inv) : Ordinary inv genBmi := by
  refine keeps_draw (by simp) fun e => keeps_draw (by simp) fun w64 =>
    keeps_ite (keeps_seq (steps.keeps_setFlagsMask (by decide)) fun _ => ?_) ?_
  all_goals
    refine keeps_draw (by simp) fun d => keeps_draw (by simp) fun s =>
      keeps_draw (by simp) fun rmIsMem =>
      keeps_ite (keeps_seq steps.keeps_touchMemory fun _ => ?_) ?_
    all_goals exact keeps_draw (by simp) fun disp => keeps_draw (by simp) fun imm8 =>
      bmiForm_kept _ _ _ _ _ _ _

theorem genImulMulti_kept (steps : PlainSteps inv) : Ordinary inv genImulMulti := by
  refine keeps_seq (steps.keeps_setFlagsMask (by decide)) fun _ => keeps_draw (by simp) fun w =>
    keeps_draw (by simp) fun form =>
    keeps_ite ?_ (keeps_ite ?_ ?_)
  · exact keeps_draw (by simp) fun d => keeps_draw (by simp) fun s => ordinary_built rfl
  · exact keeps_seq steps.keeps_touchMemory fun _ => keeps_draw (by simp) fun d =>
      keeps_draw (by simp) fun disp =>
      ordinary_built rfl
  · refine keeps_draw (by simp) fun d => keeps_draw (by simp) fun short =>
      keeps_draw (by simp) fun imm => keeps_draw (by simp) fun register =>
      keeps_ite (keeps_draw (by simp) fun s => ?_)
        (keeps_seq steps.keeps_touchMemory fun _ => keeps_draw (by simp) fun disp => ?_)
    all_goals exact ordinary_sized (by cases short <;> rfl)

theorem genXchg_kept (steps : PlainSteps inv) : Ordinary inv genXchg :=
  keeps_seq (steps.keeps_setFlagsMask (by decide)) fun _ => keeps_draw (by simp) fun _ =>
    keeps_ite (keeps_draw (by simp) fun _ => keeps_draw (by simp) fun _ => ordinary_built rfl)
      (keeps_draw (by simp) fun _ => keeps_draw (by simp) fun _ => keeps_draw (by simp) fun _ =>
        keeps_ite
        (keeps_seq steps.keeps_touchMemory fun _ => keeps_draw (by simp) fun _ =>
          ordinary_built rfl)
        (keeps_draw (by simp) fun _ => ordinary_built rfl))

theorem genShldShrd_kept (steps : PlainSteps inv) : Ordinary inv genShldShrd := by
  refine keeps_seq (steps.keeps_clearFlags _) fun _ => keeps_draw (by simp) fun w =>
    keeps_draw (by simp) fun left =>
    keeps_draw (by simp) fun useCl => keeps_draw (by simp) fun s =>
      keeps_draw (by simp) fun useMem => keeps_ite ?_ ?_
  · refine keeps_ite (keeps_draw (by simp) fun count =>
      keeps_seq (steps.keeps_forceCount _) fun _ => ?_) ?_
    all_goals
      refine keeps_ite (keeps_seq steps.keeps_touchMemory fun _ => keeps_draw (by simp) fun disp =>
        ?_)
        (keeps_draw (by simp) fun d => ?_)
      all_goals exact ordinary_built (by cases left <;> rfl)
  · refine keeps_draw (by simp) fun imm => keeps_draw (by simp) fun masked =>
      keeps_ite (keeps_seq steps.keeps_touchMemory fun _ => keeps_draw (by simp) fun disp => ?_)
        (keeps_draw (by simp) fun d => ?_)
    all_goals exact ordinary_built (by cases left <;> rfl)

theorem genPrivileged_kept (steps : PlainSteps inv) : Ordinary inv genPrivileged :=
  keeps_seq (steps.keeps_setFlagsMask (by decide)) fun _ =>
    keeps_draw (by simp) fun _ => ordinary_built rfl

theorem genPrivilegedMovcrdr_kept (steps : PlainSteps inv) : Ordinary inv genPrivilegedMovcrdr :=
  keeps_seq (steps.keeps_setFlagsMask (by decide)) fun _ => keeps_draw (by simp) fun _ =>
    keeps_draw (by simp) fun _ =>
    keeps_draw (by simp) fun _ => keeps_ite
      (keeps_draw (by simp) fun _ => keeps_ite (ordinary_built rfl) (ordinary_built rfl))
      (keeps_draw (by simp) fun _ => keeps_ite (ordinary_built rfl) (ordinary_built rfl))

/-- The rule for a destination register and a source in memory or a register. -/
theorem ordinary_xmm_binary (steps : PlainSteps inv) {code : Code}
    (row : code.mnemonic.isPlain = true) (d : Fin 16) {drawn : Draw Bool}
    {randomDisp : Draw (BitVec 8)} (hit : drawn.Ordered) (placed : randomDisp.Ordered) :
    Ordinary inv (do
      if ← drawn then
        touchMemory
        let disp ← randomDisp
        return some (with2 code (xmmOf d) (memOperand disp))
      else
        let s ← pickXmmIndex
        return some (with2 code (xmmOf d) (xmmOf s))) :=
  keeps_draw hit fun _ => keeps_ite
    (keeps_seq steps.keeps_touchMemory fun _ => keeps_draw placed fun _ => ordinary_built row)
    (keeps_draw (by simp) fun _ => ordinary_built row)

theorem genSimdShuffle_kept (steps : PlainSteps inv) : Ordinary inv genSimdShuffle := by
  have immediate : ∀ code ∈ kSimdShuffleImm, code.mnemonic.isPlain = true := by decide
  have plain : ∀ code ∈ kSimdShuffleNoImm, code.mnemonic.isPlain = true := by decide
  refine keeps_seq (steps.keeps_setFlagsMask (by decide)) fun _ => keeps_draw (by simp) fun d =>
    keeps_draw (by simp) fun useMem =>
    keeps_draw (by simp) fun hasImm => keeps_ite ?_ ?_
  · refine keeps_pick fun code listed => keeps_draw (by simp) fun imm => keeps_ite ?_ ?_
    · exact keeps_seq steps.keeps_touchMemory fun _ => keeps_draw (by simp) fun disp =>
        ordinary_built (immediate code listed)
    · exact keeps_draw (by simp) fun s => ordinary_built (immediate code listed)
  · refine keeps_pick fun code listed => keeps_ite ?_ ?_
    · exact keeps_seq steps.keeps_touchMemory fun _ => keeps_draw (by simp) fun disp =>
        ordinary_built (plain code listed)
    · exact keeps_draw (by simp) fun s => ordinary_built (plain code listed)

/-- The generator that the plain vector tables share keeps what each of its steps keeps. -/
theorem genXmmBinary_kept (steps : PlainSteps inv) {table : List Code} {nonempty : 0 < table.length}
    {randomDisp : Draw (BitVec 8)} (rows : ∀ code ∈ table, code.mnemonic.isPlain = true)
    (placed : randomDisp.Ordered) :
    Ordinary inv (genXmmBinary table nonempty randomDisp) :=
  keeps_seq (steps.keeps_setFlagsMask (by decide)) fun _ => keeps_pick fun code listed =>
    keeps_draw (by simp) fun d =>
    ordinary_xmm_binary steps (rows code listed) d (by simp) placed

theorem genSimdLogic_kept (steps : PlainSteps inv) :
    Ordinary inv genSimdLogic := genXmmBinary_kept steps (by decide) (by simp)

theorem genSimdPack_kept (steps : PlainSteps inv) :
    Ordinary inv genSimdPack := genXmmBinary_kept steps (by decide) (by simp)

theorem genSseArith_kept (steps : PlainSteps inv) :
    Ordinary inv genSseArith := genXmmBinary_kept steps (by decide) (by simp)

theorem genPackedInt_kept (steps : PlainSteps inv) :
    Ordinary inv genPackedInt := genXmmBinary_kept steps (by decide) (by simp)

theorem genSimdShift_kept (steps : PlainSteps inv) : Ordinary inv genSimdShift := by
  have immediate : ∀ code ∈ kSimdShiftImm, code.mnemonic.isPlain = true := by decide
  have plain : ∀ code ∈ kSimdShiftReg, code.mnemonic.isPlain = true := by decide
  refine keeps_seq (steps.keeps_setFlagsMask (by decide)) fun _ => keeps_draw (by simp) fun d =>
    keeps_draw (by simp) fun hasImm =>
    keeps_ite ?_ ?_
  · exact keeps_pick fun code listed => keeps_draw (by simp) fun imm =>
      ordinary_built (immediate code listed)
  · exact keeps_pick fun code listed =>
      ordinary_xmm_binary steps (plain code listed) d (by simp) (by simp)

theorem genSimdFp_kept (steps : PlainSteps inv) : Ordinary inv genSimdFp := by
  have compares : ∀ code ∈ kSimdFpCompare, code.mnemonic.isPlain = true := by decide
  have plain : ∀ code ∈ kSimdFpNoFlags, code.mnemonic.isPlain = true := by decide
  refine keeps_draw (by simp) fun d => keeps_draw (by simp) fun isCompare => keeps_ite ?_ ?_
  · exact keeps_pick fun code listed =>
      keeps_seq (steps.keeps_setFlagsMask (by split <;> decide)) fun _ =>
      ordinary_xmm_binary steps (compares code listed) d (by simp) (by simp)
  · exact keeps_pick fun code listed =>
      keeps_seq (steps.keeps_setFlagsMask (by split <;> decide)) fun _ =>
      ordinary_xmm_binary steps (plain code listed) d (by simp) (by simp)

theorem genSseMove_kept (steps : PlainSteps inv) : Ordinary inv genSseMove := by
  have stores : ∀ form ∈ kSseMoveStore, form.code.mnemonic.isPlain = true := by decide
  have loads : ∀ form ∈ kSseMoveLoad, form.code.mnemonic.isPlain = true := by decide
  refine keeps_seq (steps.keeps_setFlagsMask (by decide)) fun _ => keeps_draw (by simp) fun store =>
    keeps_ite ?_ ?_
  · exact keeps_pick fun form listed => keeps_draw (by simp) fun disp =>
      keeps_draw (by simp) fun reg =>
      keeps_seq steps.keeps_touchMemory fun _ => ordinary_built (stores form listed)
  · refine keeps_pick fun form listed => keeps_draw (by simp) fun disp =>
      keeps_draw (by simp) fun reg =>
      keeps_draw (by simp) fun memory => keeps_ite ?_ ?_
    · exact keeps_seq steps.keeps_touchMemory fun _ => ordinary_built (loads form listed)
    · exact keeps_draw (by simp) fun s => ordinary_built (loads form listed)

/-- Whatever a shape builds of a row is plain. -/
theorem vexForm_kept (steps : PlainSteps inv) {e : VexEntry} (listed : e ∈ kVexSimd)
    (d s1 s2 : Fin 16) (useMem broadcast : Bool) :
    Ordinary inv (vexForm e d s1 s2 useMem broadcast) := by
  obtain ⟨op, vex⟩ := vex_of_isVex (kVexSimd_isVex e listed)
  obtain ⟨⟨mnemonic, entries, form⟩, shape, evex, repeats⟩ := e
  obtain rfl : mnemonic = .vex op := vex
  cases shape with
  | kDstSrcRm | kDstSrcRm64 | kDstSrcRm32 | kDstRm | kDstRm64 =>
      exact keeps_ite (keeps_seq steps.keeps_touchMemory fun _ => keeps_draw (by simp) fun disp =>
        ordinary_built (by cases broadcast <;> rfl)) (ordinary_built rfl)
  | kRmDst =>
      exact keeps_ite (keeps_seq steps.keeps_touchMemory fun _ => keeps_draw (by simp) fun disp =>
        ordinary_built rfl)
        (ordinary_built rfl)
  | kDstSrcSrc => exact ordinary_built rfl
  | kDstSrcImm => exact keeps_draw (by simp) fun imm => ordinary_built rfl
  | kDstSrcRmImm =>
      exact keeps_draw (by simp) fun imm => keeps_ite (keeps_seq steps.keeps_touchMemory fun _ =>
        keeps_draw (by simp) fun disp => ordinary_built (by cases broadcast <;> rfl))
          (ordinary_built rfl)
  | kDstRmImm =>
      exact keeps_draw (by simp) fun imm => keeps_ite
        (keeps_seq steps.keeps_touchMemory fun _ => keeps_draw (by simp) fun disp =>
          ordinary_built rfl)
        (ordinary_built rfl)

theorem genVexSimd_kept (steps : PlainSteps inv) : Ordinary inv (genVexSimd caps) := by
  refine keeps_ite ordinary_none (keeps_seq (steps.keeps_setFlagsMask (by decide)) fun _ => ?_)
  have picked : (pickVexEntry caps.evexOk 8).Always fun entry =>
    ∀ e, entry = some e → e ∈ kVexSimd :=
    always_pickVexEntry (fun _ none_ => (Option.some_ne_none _ none_.symm).elim)
      (fun e listed _ _ same => Option.some.inj same ▸ listed) 8
  refine keeps_bind (keeps_lift (by simp) picked) fun entry listed => ?_
  cases entry with
  | none => exact ordinary_none
  | some e =>
      exact keeps_draw (by simp) fun d => keeps_draw (by simp) fun s1 =>
        keeps_draw (by simp) fun s2 => keeps_draw (by simp) fun useMem =>
        keeps_draw (by simp) fun broadcast =>
          vexForm_kept steps (listed e rfl) d s1 s2 useMem broadcast

theorem keeps_plantFpOperand (steps : FamilySteps inv) (disp : BitVec 8) (size : Nat) :
    Keeps inv (fun _ => True) (plantFpOperand disp size) := by
  refine keeps_draw (by simp) fun keeps => keeps_ite (keeps_ite ?_ (keeps_ite ?_ ?_))
    (keeps_return trivial)
  all_goals exact keeps_draw (by simp) fun value => steps.keeps_plantBytes _ _ _

theorem keeps_plantIntOperand (steps : FamilySteps inv) (disp : BitVec 8) (size : Nat) :
    Keeps inv (fun _ => True) (plantIntOperand disp size) :=
  keeps_draw (by simp) fun _ => keeps_ite (keeps_draw (by simp) fun _ =>
    steps.keeps_plantBytes _ _ _) (keeps_return trivial)

theorem genX87Load_kept (steps : FamilySteps inv) : Ordinary inv genX87Load := by
  have rows : ∀ f ∈ kX87Load, (Mnemonic.x87 f.op).isPlain = true := by decide
  exact keeps_seq (steps.keeps_x87Setup (by decide)) fun _ =>
    keeps_seq steps.keeps_touchMemory fun _ =>
    keeps_pick fun f listed => keeps_draw (by simp) fun disp => keeps_ite
      (keeps_seq (keeps_plantIntOperand steps _ _) fun _ => ordinary_built (rows f listed))
      (keeps_seq (keeps_plantFpOperand steps _ _) fun _ => ordinary_built (rows f listed))

theorem genX87Store_kept (steps : PlainSteps inv) : Ordinary inv genX87Store := by
  have rows : ∀ f ∈ kX87Store, (Mnemonic.x87 f.op).isPlain = true := by decide
  exact keeps_seq (steps.keeps_x87Setup (by decide)) fun _ =>
    keeps_seq steps.keeps_touchMemory fun _ =>
    keeps_pick fun f listed => keeps_draw (by simp) fun disp => ordinary_built (rows f listed)

theorem genX87Arith_kept (steps : FamilySteps inv) : Ordinary inv genX87Arith := by
  have rows : ∀ g ∈ kX87Arith, (Mnemonic.x87 g.op).isPlain = true ∧
      (Mnemonic.x87 g.pop).isPlain = true ∧ (Mnemonic.x87 g.int).isPlain = true := by decide
  refine keeps_pick fun g listed => keeps_draw (by simp) fun form => keeps_ite ?_ ?_
  all_goals obtain ⟨op, pop, int⟩ := rows g listed
  · exact keeps_draw (by simp) fun i => keeps_seq (steps.keeps_x87Setup i.isLt) fun _ =>
      keeps_ite (ordinary_built op) (keeps_ite (ordinary_built op) (ordinary_built pop))
  · refine keeps_seq (steps.keeps_x87Setup (by decide)) fun _ =>
      keeps_seq steps.keeps_touchMemory fun _ =>
      keeps_draw (by simp) fun disp => ?_
    split
    · exact keeps_seq (keeps_plantFpOperand steps _ _) fun _ => ordinary_built op
    · exact keeps_seq (keeps_plantFpOperand steps _ _) fun _ => ordinary_built op
    · exact keeps_seq (keeps_plantIntOperand steps _ _) fun _ => ordinary_built int
    · exact keeps_seq (keeps_plantIntOperand steps _ _) fun _ => ordinary_built int

theorem genX87Unary_kept (steps : PlainSteps inv) : Ordinary inv genX87Unary := by
  have one : ∀ op ∈ kX87Unary1, (Mnemonic.x87 op).isPlain = true := by decide
  have two : ∀ op ∈ kX87Unary2, (Mnemonic.x87 op).isPlain = true := by decide
  refine keeps_draw (by simp) fun single => keeps_ite ?_ ?_
  · exact keeps_seq (steps.keeps_x87Setup (by decide)) fun _ => keeps_pick fun op listed =>
      ordinary_built (one op listed)
  · refine keeps_pick fun op listed => keeps_seq (steps.keeps_x87Setup ?_) fun _ =>
      ordinary_built (two op listed)
    split <;> decide

theorem genX87Transcendental_kept (steps : PlainSteps inv) :
    Ordinary inv genX87Transcendental := by
  have rows : ∀ op ∈ kX87Transcendental, (Mnemonic.x87 op).isPlain = true := by decide
  refine keeps_pick fun op listed => keeps_seq (steps.keeps_x87Setup ?_) fun _ =>
    ordinary_built (rows op listed)
  split <;> decide

theorem genX87Compare_kept (steps : FamilySteps inv) : Ordinary inv genX87Compare := by
  have rows : ∀ code ∈ kX87CompareStSt, code.mnemonic.isPlain = true := by decide
  refine keeps_draw (by simp) fun form => keeps_ite ?_ (keeps_ite ?_ (keeps_ite ?_
    (keeps_ite ?_ ?_)))
  · exact keeps_seq (steps.keeps_x87Setup (by decide)) fun _ => ordinary_built rfl
  · exact keeps_seq (steps.keeps_x87Setup (by decide)) fun _ => ordinary_built rfl
  · exact keeps_seq (steps.keeps_x87Setup (by decide)) fun _ => keeps_draw (by simp) fun ordered =>
      keeps_ite (ordinary_built rfl) (ordinary_built rfl)
  · exact keeps_seq (steps.keeps_x87Setup (by decide)) fun _ =>
      keeps_seq steps.keeps_touchMemory fun _ =>
      keeps_draw (by simp) fun m64 => keeps_draw (by simp) fun pop =>
        keeps_draw (by simp) fun disp =>
        keeps_seq (keeps_plantFpOperand steps _ _) fun _ => ordinary_built (by cases pop <;> rfl)
  · exact keeps_draw (by simp) fun i => keeps_seq (steps.keeps_x87Setup i.isLt) fun _ =>
      keeps_pick fun code listed => ordinary_built (rows code listed)

theorem genX87Move_kept (steps : PlainSteps inv) : Ordinary inv genX87Move := by
  have stores : ∀ code ∈ kX87StoreStI, code.mnemonic.isPlain = true := by decide
  have exchanges : ∀ code ∈ kX87Xchg, code.mnemonic.isPlain = true := by decide
  have constants : ∀ op ∈ kX87Const, (Mnemonic.x87 op).isPlain = true := by decide
  have moves : ∀ op ∈ kX87Cmov, (Mnemonic.x87 op).isPlain = true := by decide
  refine keeps_draw (by simp) fun form => keeps_draw (by simp) fun i => ?_
  split
  · exact keeps_seq (steps.keeps_x87Setup i.isLt) fun _ => ordinary_built rfl
  · exact keeps_seq (steps.keeps_x87Setup (by decide)) fun _ => keeps_pick fun code listed =>
      ordinary_built (stores code listed)
  · exact keeps_seq (steps.keeps_x87Setup i.isLt) fun _ => keeps_pick fun code listed =>
      ordinary_built (exchanges code listed)
  · exact keeps_seq (steps.keeps_x87Setup (by decide)) fun _ => keeps_draw (by simp) fun freed =>
      keeps_ite (ordinary_built rfl) (ordinary_built rfl)
  · exact keeps_seq (steps.keeps_x87Setup (by decide)) fun _ => keeps_pick fun op listed =>
      ordinary_built (constants op listed)
  · exact keeps_seq (steps.keeps_x87Setup i.isLt) fun _ => keeps_pick fun op listed =>
      ordinary_built (moves op listed)

/-- The families that force a register they have drawn, or leave another record. -/
def Family.isPlain : Family → Bool
  | .gen_jmp | .gen_call | .gen_muldiv | .gen_xadd_cmpxchg | .gen_string_ops | .gen_rmsrc
  | .gen_x87_control => false
  | _ => true

/-- The families that plant a value. -/
def Family.isPlanting : Family → Bool
  | .gen_jmp | .gen_call | .gen_x87_load | .gen_x87_arith | .gen_x87_compare
  | .gen_x87_control => true
  | _ => false

/-- Whatever is drawn, a plain family that plants nothing keeps what its steps keep. -/
theorem unplanted_kept (steps : PlainSteps inv) {f : Family} (plain : f.isPlain = true)
    (unplanted : f.isPlanting = false) : Ordinary inv (f.gen caps) := by
  cases f with
  | gen_jmp | gen_call | gen_muldiv | gen_xadd_cmpxchg | gen_string_ops | gen_rmsrc
  | gen_x87_control => cases plain
  | gen_x87_load | gen_x87_arith | gen_x87_compare => cases unplanted
  | gen_alu => exact genAlu_kept steps
  | gen_test => exact genTest_kept steps
  | gen_unary => exact genUnary_kept steps
  | gen_shift => exact genShift_kept steps
  | gen_mov => exact genMov_kept steps
  | gen_movx => exact genMovx_kept steps
  | gen_movsxd => exact genMovsxd_kept steps
  | gen_pushpop => exact genPushpop_kept
  | gen_lea => exact genLea_kept steps
  | gen_jcc => exact genJcc_kept
  | gen_ret => exact genRet_kept
  | gen_setcc => exact genSetcc_kept steps
  | gen_cmovcc => exact genCmovcc_kept steps
  | gen_bt => exact genBt_kept steps
  | gen_bswap => exact genBswap_kept
  | gen_loop => exact genLoop_kept steps
  | gen_xchg => exact genXchg_kept steps
  | gen_shld_shrd => exact genShldShrd_kept steps
  | gen_movbe_crc32_nop => exact genMovbeCrc32Nop_kept steps
  | gen_moffs => exact genMoffs_kept steps
  | gen_bmi => exact genBmi_kept steps
  | gen_imul_multi => exact genImulMulti_kept steps
  | gen_simd_shuffle => exact genSimdShuffle_kept steps
  | gen_simd_logic => exact genSimdLogic_kept steps
  | gen_simd_pack => exact genSimdPack_kept steps
  | gen_simd_shift => exact genSimdShift_kept steps
  | gen_simd_fp => exact genSimdFp_kept steps
  | gen_vex_simd => exact genVexSimd_kept steps
  | gen_sse_arith => exact genSseArith_kept steps
  | gen_packed_int => exact genPackedInt_kept steps
  | gen_sse_move => exact genSseMove_kept steps
  | gen_privileged => exact genPrivileged_kept steps
  | gen_privileged_movcrdr => exact genPrivilegedMovcrdr_kept steps
  | gen_x87_store => exact genX87Store_kept steps
  | gen_x87_unary => exact genX87Unary_kept steps
  | gen_x87_move => exact genX87Move_kept steps
  | gen_x87_transcendental => exact genX87Transcendental_kept steps

/-- Whatever is drawn, a plain family keeps what its steps keep. -/
theorem family_kept (steps : FamilySteps inv) {f : Family} (plain : f.isPlain = true) :
    Ordinary inv (f.gen caps) := by
  by_cases planting : f.isPlanting = true
  · cases f with
    | gen_x87_load => exact genX87Load_kept steps
    | gen_x87_arith => exact genX87Arith_kept steps
    | gen_x87_compare => exact genX87Compare_kept steps
    | gen_jmp | gen_call | gen_x87_control => cases plain
    | _ => cases planting
  · exact unplanted_kept steps.toPlainSteps plain (Bool.eq_false_of_not_eq_true planting)

/-! ## Families that force what they draw -/

/-- A property of the context that is kept whatever register is forced, where nothing is
planted. -/
structure RegisterSteps (inv : Ctx → Prop) : Prop extends PlainSteps inv where
  forced : ∀ c index value, inv c →
    inv { c with forceGpr := Function.update c.forceGpr index value }

/-- A property of the context that is kept whatever register is forced. -/
structure ForcingSteps (inv : Ctx → Prop) : Prop extends FamilySteps inv, RegisterSteps inv

/-- Forcing any register is one of the steps of the families that do so. -/
theorem RegisterSteps.keeps_force (steps : RegisterSteps inv) (index : Fin 16) (value : BitVec 64) :
    Keeps inv (fun _ => True) (SevenFuzzer.force index value) :=
  keeps_modify fun c => steps.forced c index (some value)

theorem genJmp_kept (steps : ForcingSteps inv) : Ordinary inv genJmp := by
  refine keeps_draw (by simp) fun form => ?_
  split
  · exact keeps_draw (by simp) fun target => ordinary_built rfl
  · exact keeps_draw (by simp) fun target => ordinary_built rfl
  · exact keeps_draw (by simp) fun r => keeps_draw (by simp) fun target =>
      keeps_seq (steps.keeps_force _ _) fun _ =>
      ordinary_built rfl
  · exact keeps_seq (keeps_indirectTargetDisp steps.toFamilySteps) fun disp =>
      keeps_seq steps.keeps_touchMemory fun _ =>
      ordinary_built rfl

theorem genCall_kept (steps : ForcingSteps inv) : Ordinary inv genCall := by
  refine keeps_draw (by simp) fun form => ?_
  split
  · exact keeps_draw (by simp) fun target => ordinary_built rfl
  · exact keeps_draw (by simp) fun r => keeps_ite ordinary_none (keeps_draw (by simp) fun target =>
      keeps_seq (steps.keeps_force _ _) fun _ => ordinary_built rfl)
  · exact keeps_seq (keeps_indirectTargetDisp steps.toFamilySteps) fun disp =>
      keeps_seq steps.keeps_touchMemory fun _ =>
      ordinary_built rfl

theorem genBiasedDiv_kept (steps : RegisterSteps inv) (op : MulDivOp) (w : Width) :
    Ordinary inv (genBiasedDiv op w) := by
  refine keeps_draw (by simp) fun mapped => keeps_draw (by simp) fun divisor =>
    keeps_draw (by simp) fun quotient =>
    keeps_draw (by simp) fun remainder => keeps_seq (steps.keeps_force _ _) fun _ =>
      keeps_seq (steps.keeps_force _ _) fun _ =>
      keeps_ite (keeps_seq (steps.keeps_force _ _) fun _ => ordinary_built rfl) (ordinary_built rfl)

theorem genMuldiv_kept (steps : RegisterSteps inv) : Ordinary inv genMuldiv :=
  keeps_draw (by simp) fun op => keeps_draw (by simp) fun w =>
    keeps_seq (steps.keeps_setFlagsMask (by split <;> decide)) fun _ =>
    keeps_draw (by simp) fun _ => keeps_ite (genBiasedDiv_kept steps op w)
      (keeps_draw (by simp) fun _ =>
      keeps_ite (keeps_draw (by simp) fun _ => ordinary_built rfl)
        (keeps_seq steps.keeps_touchMemory fun _ => keeps_draw (by simp) fun _ =>
          ordinary_built rfl))

theorem genXaddCmpxchg_kept (steps : RegisterSteps inv) : Ordinary inv genXaddCmpxchg := by
  refine keeps_draw (by simp) fun w => keeps_draw (by simp) fun isXadd =>
    keeps_draw (by simp) fun s => keeps_draw (by simp) fun memory =>
    keeps_ite (keeps_seq steps.keeps_touchMemory fun _ => keeps_draw (by simp) fun disp => ?_)
      (keeps_draw (by simp) fun equal => keeps_draw (by simp) fun d =>
        keeps_ite (keeps_draw (by simp) fun shared =>
        keeps_seq (steps.keeps_force _ _) fun _ => keeps_seq (steps.keeps_force _ _) fun _ =>
          ?_) ?_)
  all_goals exact ordinary_built (by cases isXadd <;> rfl)

/-- The families that set a register themselves. -/
def Family.isForcing : Family → Bool
  | .gen_jmp | .gen_call | .gen_muldiv | .gen_xadd_cmpxchg => true
  | _ => false

/-- The four families that force a register of their choice, taken together. -/
theorem forcingFamily_kept (steps : ForcingSteps inv) {f : Family} (forcing : f.isForcing = true) :
    Ordinary inv (f.gen caps) := by
  cases f with
  | gen_jmp => exact genJmp_kept steps
  | gen_call => exact genCall_kept steps
  | gen_muldiv => exact genMuldiv_kept steps.toRegisterSteps
  | gen_xadd_cmpxchg => exact genXaddCmpxchg_kept steps.toRegisterSteps
  | _ => cases forcing

/-- The string family builds nothing else. -/
theorem genStringOps_kept (steps : RegisterSteps inv) : Keeps inv (fun result =>
    ∀ instr, result = some instr → instr.code.mnemonic.isString = true) genStringOps := by
  have built (instr : Instruction) (string : instr.code.mnemonic.isString = true) :
      Keeps inv (fun result => ∀ instr, result = some instr →
        instr.code.mnemonic.isString = true) (Pure.pure (some instr)) :=
    keeps_return fun _ same => Option.some.inj same ▸ string
  refine keeps_seq steps.keeps_touchMemory fun _ => keeps_seq (steps.keeps_force _ _) fun _ =>
    keeps_seq (steps.keeps_force _ _) fun _ => keeps_draw (by simp) fun family =>
      keeps_draw (by simp) fun w => keeps_draw (by simp) fun rep =>
        keeps_ite (keeps_draw (by simp) fun count => keeps_seq (steps.keeps_force _ _) fun _ =>
          ?_) ?_
  all_goals
    dsimp only
    split <;> exact built _ rfl

/-- A property of the context that is kept where a scan records its operands. -/
structure ScanSteps (inv : Ctx → Prop) : Prop extends PlainSteps inv where
  scanned : ∀ c dest reg disp bytes, inv c →
    inv { c with bsfBsrDest := dest, bsfBsrSrcReg := reg, bsfBsrSrcMemDisp := disp,
                 bsfBsrWidthBytes := bytes }

/-- The families of scans and counts build nothing else. -/
theorem genRmsrc_kept (steps : ScanSteps inv) : Keeps inv (fun result =>
    ∀ instr, result = some instr → ∃ op, instr.code.mnemonic = .rmsrc op) genRmsrc := by
  have built {op : RmSrcOp} (instr : Instruction) (mnemonic : instr.code.mnemonic = .rmsrc op) :
      Keeps inv (fun result => ∀ instr, result = some instr →
        ∃ op, instr.code.mnemonic = .rmsrc op) (Pure.pure (some instr)) :=
    keeps_return fun _ same => ⟨op, Option.some.inj same ▸ mnemonic⟩
  refine keeps_draw (by simp) fun op =>
    keeps_ite (keeps_seq (steps.keeps_setFlagsMask (by decide)) fun _ => ?_) ?_
  all_goals
    refine keeps_draw (by simp) fun w => keeps_draw (by simp) fun d =>
      keeps_draw (by simp) fun register => keeps_ite ?_ ?_
    · refine keeps_draw (by simp) fun s => keeps_ite ?_ (built _ rfl)
      exact keeps_seq (keeps_modify fun c => steps.scanned c _ _ c.bsfBsrSrcMemDisp _)
        fun _ => built _ rfl
    · refine keeps_seq steps.keeps_touchMemory fun _ => keeps_draw (by simp) fun disp =>
        keeps_ite ?_ (built _ rfl)
      exact keeps_seq (keeps_modify fun c => steps.scanned c _ c.bsfBsrSrcReg _ _)
        fun _ => built _ rfl

/-- The rule for a form of the x87 control: one of them plants what it loads. -/
theorem genX87ControlForm_kept (steps : PlainSteps inv) {form : Nat}
    (loads : form = 3 → ∀ c bytes, inv c → inv { c with forceDataBytes := bytes }) :
    Keeps inv (fun result => ∀ instr, result = some instr → ∃ op, instr.code.mnemonic = .x87 op)
      (genX87ControlForm form) := by
  have built {op : X87Op} (instr : Instruction) (mnemonic : instr.code.mnemonic = .x87 op) :
      Keeps inv (fun result => ∀ instr, result = some instr →
        ∃ op, instr.code.mnemonic = .x87 op) (Pure.pure (some instr)) :=
    keeps_return fun _ same => ⟨op, Option.some.inj same ▸ mnemonic⟩
  refine keeps_seq (steps.keeps_x87Setup (by decide)) fun _ => ?_
  split
  · exact built _ rfl
  · exact keeps_seq steps.keeps_touchMemory fun _ => keeps_draw (by simp) fun disp => built _ rfl
  · exact keeps_seq steps.keeps_touchMemory fun _ => keeps_draw (by simp) fun disp => built _ rfl
  · exact keeps_seq steps.keeps_touchMemory fun _ => keeps_draw (by simp) fun disp =>
      keeps_draw (by simp) fun cw => keeps_seq (keeps_modify fun c => loads rfl c _)
        fun _ => built _ rfl
  · exact built _ rfl
  · exact built _ rfl
  · exact keeps_draw (by simp) fun up => keeps_ite (built _ rfl) (built _ rfl)

/-- The families of the x87 control word build nothing else. -/
theorem genX87Control_kept (steps : FamilySteps inv) : Keeps inv (fun result =>
    ∀ instr, result = some instr → ∃ op, instr.code.mnemonic = .x87 op) genX87Control :=
  keeps_draw (by simp) fun _ => genX87ControlForm_kept steps.toPlainSteps fun _ => steps.dataBytes

/-- No step of a forcing family asks for more slots than the stack has. -/
theorem needs_forcing : ForcingSteps fun c => c.x87Needs ≤ 8 where
  touchesMemory _ kept := kept
  flagsMask _ _ _ kept := kept
  count _ _ kept := kept
  dataQword _ _ kept := kept
  dataBytes _ _ kept := kept
  x87 _ _ onStack _ := onStack
  needs _ kept := kept
  forced _ _ _ kept := kept

/-- Nor does a recorded bit scan. -/
theorem needs_scanned : ScanSteps fun c => c.x87Needs ≤ 8 where
  toPlainSteps := needs_forcing.toPlainSteps
  scanned _ _ _ _ _ kept := kept

/-- The rule for the families whose instructions all have a property whatever the context. -/
theorem always_of_kept {inv : Ctx → Prop} {post : Ctx → Instruction → Prop}
    {prog : Gen (Option Instruction)} {built : Instruction → Prop} (start : inv {})
    (keeps : Keeps inv (fun result => ∀ instr, result = some instr → built instr) prog)
    (held : ∀ c instr, built instr → post c instr) :
    always prog (fun result c => ∀ instr, result = some instr → post c instr) {} :=
  always_mono (keeps {} start).2 fun _ c ended instr same => held c instr (ended.2 instr same)

/-- **What is built.** A property of every plain instruction holds of what any family builds,
if it holds of the scans and counts, of the strings and of the x87 control. -/
theorem families_of_plain {post : Ctx → Instruction → Prop}
    (plain : ∀ c instr, instr.code.mnemonic.isPlain = true → post c instr)
    (counts : ∀ c instr op, instr.code.mnemonic = .rmsrc op → post c instr)
    (strings : always genStringOps
      (fun result c => ∀ instr, result = some instr → post c instr) {})
    (control : always genX87Control
      (fun result c => ∀ instr, result = some instr → post c instr) {}) (f : Family) :
    always (f.gen caps) (fun result c => ∀ instr, result = some instr → post c instr) {} := by
  by_cases ordinary : f.isPlain = true
  · exact always_of_kept (Nat.zero_le 8) (family_kept needs_forcing.toFamilySteps ordinary) plain
  by_cases forcing : f.isForcing = true
  · exact always_of_kept (Nat.zero_le 8) (forcingFamily_kept needs_forcing forcing) plain
  cases f with
  | gen_string_ops => exact strings
  | gen_rmsrc =>
      refine always_of_kept (Nat.zero_le 8) (genRmsrc_kept needs_scanned) fun c instr built => ?_
      obtain ⟨op, mnemonic⟩ := built
      exact counts c instr op mnemonic
  | gen_x87_control => exact control
  | _ => first | exact absurd rfl ordinary | exact absurd rfl forcing

end SevenFuzzer
