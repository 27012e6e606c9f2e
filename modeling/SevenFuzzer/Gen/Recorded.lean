import SevenFuzzer.Gen.Kept

/-! # What the families record

Beside the pins and plants a family leaves in its context the operands of a BSF or BSR
and the stack slots an x87 instruction reads. Whatever was drawn, the first are those of the
instruction, and of no other one, and the second fit the stack
(`SevenFuzzer.family_recorded`).
-/

namespace SevenFuzzer

open Draw InstructionFactory

variable {caps : HostCaps}

/-- The operands of a scan are recorded, and nothing is for another instruction. -/
inductive ScanRecorded (c : Ctx) (instr : Instruction) : Prop where
  | other (mnemonic : instr.code.mnemonic.isScan = false) (dest : c.bsfBsrDest = none)
  | register (op : RmSrcOp) (w : Width) (d s : Fin 16) (scan : isBsfBsr op = true)
      (built : instr = with2 (rmSrcCode op w) (regOf w d) (regOf w s))
      (dest : c.bsfBsrDest = some d) (source : c.bsfBsrSrcReg = some s)
      (width : c.bsfBsrWidthBytes = bytesOf w)
  | memory (op : RmSrcOp) (w : Width) (d : Fin 16) (disp : Nat) (scan : isBsfBsr op = true)
      (small : disp ≤ 0x7F)
      (built : instr = with2 (rmSrcCode op w) (regOf w d) (memOperand (BitVec.ofNat 8 disp)))
      (dest : c.bsfBsrDest = some d) (noRegister : c.bsfBsrSrcReg = none)
      (source : c.bsfBsrSrcMemDisp = some (BitVec.ofNat 8 disp))
      (width : c.bsfBsrWidthBytes = bytesOf w)
      (pins : c.touchesMemory = true ∧ c.forceGpr 7 = none)

/-- What a family's context says of its instruction: a bit scan is recorded, and no more stack slots
are asked for than there are. -/
structure Recorded (c : Ctx) (instr : Instruction) : Prop where
  scan : ScanRecorded c instr
  needs : c.x87Needs ≤ 8

/-- What a family ends with: nothing, or an instruction that is recorded. -/
def Records (result : Option Instruction) (c : Ctx) : Prop :=
  ∀ instr, result = some instr → Recorded c instr

@[simp] theorem records_none {c : Ctx} : Records none c := by
  intro instr same
  cases same

@[simp] theorem records_some {c : Ctx} {instr : Instruction} :
    Records (some instr) c ↔ Recorded c instr := by
  constructor
  · exact fun recorded => recorded instr rfl
  · intro recorded _ same
    exact Option.some.inj same ▸ recorded

/-- Nothing is recorded of a scan, and the recorded stack slots are on the stack. -/
structure Unscanned (c : Ctx) : Prop where
  dest : c.bsfBsrDest = none
  needs : c.x87Needs ≤ 8

/-- The program builds no bit scan. -/
def NoScan (result : Option Instruction) : Prop :=
  ∀ instr, result = some instr → instr.code.mnemonic.isScan = false

/-- A family that leaves the record of scans alone and builds none. -/
abbrev Plain (prog : Gen (Option Instruction)) : Prop := Keeps Unscanned NoScan prog

/-- A family whose draws are ordered and whose instruction is recorded. -/
def Recording (prog : Gen (Option Instruction)) : Prop :=
  (prog.run {}).Ordered ∧ always prog Records {}

/-- A program that builds no scan and records none has nothing to record. -/
theorem recording_of_plain {prog : Gen (Option Instruction)} (plain : Plain prog) :
    Recording prog :=
  ⟨(plain {} ⟨rfl, Nat.zero_le 8⟩).1,
    always_mono (plain {} ⟨rfl, Nat.zero_le 8⟩).2 fun _ _ ended instr built =>
      ⟨.other (ended.2 instr built) ended.1.dest, ended.1.needs⟩⟩

/-- The steps of most families record no scan. -/
theorem unscanned_steps : FamilySteps Unscanned where
  touchesMemory _ kept := ⟨kept.dest, kept.needs⟩
  flagsMask _ _ _ kept := ⟨kept.dest, kept.needs⟩
  count _ _ kept := ⟨kept.dest, kept.needs⟩
  dataQword _ _ kept := ⟨kept.dest, kept.needs⟩
  dataBytes _ _ kept := ⟨kept.dest, kept.needs⟩
  x87 _ _ onStack kept := ⟨kept.dest, onStack⟩
  needs _ kept := kept.needs

/-- A plain instruction is no scan. -/
theorem Mnemonic.notScan_of_isPlain {mnemonic : Mnemonic} (plain : mnemonic.isPlain = true) :
    mnemonic.isScan = false := by
  simp only [isPlain, Bool.and_eq_true, Bool.not_eq_true'] at plain
  exact plain.1.1

/-- The rule for a family that builds no scan. -/
theorem plain_of_kept {prog : Gen (Option Instruction)} {good : Instruction → Prop}
    (kept : Keeps Unscanned (fun result => ∀ instr, result = some instr → good instr) prog)
    (other : ∀ instr, good instr → instr.code.mnemonic.isScan = false) :
    Plain prog := fun c start =>
  ⟨(kept c start).1, always_mono (kept c start).2 fun _ _ ended =>
    ⟨ended.1, fun instr built => other instr (ended.2 instr built)⟩⟩

/-- An ordinary family records no scan and builds none. -/
theorem plain_of_ordinary {prog : Gen (Option Instruction)} (ordinary : Ordinary Unscanned prog) :
    Plain prog :=
  plain_of_kept ordinary fun _ => Mnemonic.notScan_of_isPlain

/-- Nor do the forcing families record one. -/
theorem unscanned_forcing : ForcingSteps Unscanned where
  toFamilySteps := unscanned_steps
  forced _ _ _ kept := ⟨kept.dest, kept.needs⟩

theorem genStringOps_plain : Plain genStringOps := by
  refine plain_of_kept (genStringOps_kept unscanned_forcing.toRegisterSteps) fun instr string => ?_
  cases mnemonic : instr.code.mnemonic with
  | string op => rfl
  | _ =>
      rw [mnemonic] at string
      cases string

theorem genX87Control_plain : Plain genX87Control := by
  refine plain_of_kept (genX87Control_kept unscanned_steps) fun instr built => ?_
  obtain ⟨op, mnemonic⟩ := built
  rw [mnemonic]
  rfl

/-- The bit counts are no scans. -/
theorem notScan_of_count {op : RmSrcOp} (count : ¬ isBsfBsr op = true) :
    (Mnemonic.rmsrc op).isScan = false :=
  Bool.eq_false_iff.mpr count

/-- Where the family builds a scan, it records its destination and its source. -/
theorem genRmsrc_records : always genRmsrc Records {} := by
  simp only [genRmsrc, touchMemory, setFlagsMask, always_seq, always_lift, always_ite,
    always_modify, always_return, always_pickRegIndex, always_randomDisp8, records_some]
  apply always_of_forall
  intro op
  split
  · rename_i scan
    refine always_of_forall fun w d => always_of_forall fun register => ?_
    split
    · exact fun s => ⟨.register op w d s scan rfl rfl rfl rfl, Nat.zero_le 8⟩
    · exact fun disp small =>
        ⟨.memory op w d disp scan small rfl rfl rfl rfl rfl ⟨rfl, rfl⟩, Nat.zero_le 8⟩
  · rename_i count
    have mnemonic := notScan_of_count count
    refine always_of_forall fun w d => always_of_forall fun register => ?_
    split
    · exact fun s => ⟨.other mnemonic rfl, Nat.zero_le 8⟩
    · exact fun disp small => ⟨.other mnemonic rfl, Nat.zero_le 8⟩

/-- **Every family** records the scan it builds, and asks for no more slots than there are. -/
theorem family_recording (f : Family) : Recording (f.gen caps) := by
  by_cases plain : f.isPlain = true
  · exact recording_of_plain (plain_of_ordinary (family_kept unscanned_steps plain))
  · by_cases forcing : f.isForcing = true
    · exact recording_of_plain (plain_of_ordinary (forcingFamily_kept unscanned_forcing forcing))
    · cases f with
      | gen_string_ops => exact recording_of_plain genStringOps_plain
      | gen_rmsrc => exact ⟨(genRmsrc_kept needs_scanned {} (Nat.zero_le 8)).1, genRmsrc_records⟩
      | gen_x87_control => exact recording_of_plain genX87Control_plain
      | _ => first | exact absurd rfl plain | exact absurd rfl forcing

/-- Whatever is drawn, what a family returns is recorded. -/
theorem family_recorded (f : Family) : always (f.gen caps) Records {} :=
  (family_recording f).2

/-- No family draws from a range with its ends in the wrong order. -/
theorem family_ordered (f : Family) : ((f.gen caps).run {}).Ordered :=
  (family_recording f).1

end SevenFuzzer
