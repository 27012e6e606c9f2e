import SevenFuzzer.Gen.Built

/-! # SIMD families build

`SevenFuzzer.Built` for the legacy SSE families and for the VEX and EVEX one. What
the proofs need of the tables is checked on the rows: the operand list of a row is
the one its place in the table, or its shape, asks for.
-/

namespace SevenFuzzer

open Draw InstructionFactory

variable {caps : HostCaps}

/-- An aligned displacement is one of the nonnegative ones. -/
theorem always_alignedDisp8 {post : BitVec 8 → Prop} (alignment : Nat)
    (held : ∀ disp ≤ 0x7F, post (BitVec.ofNat 8 disp)) : (alignedDisp8 alignment).Always post := by
  simp only [alignedDisp8, always_bind, always_between, always_pure, Nat.zero_add, Nat.sub_zero]
  intro raw small
  exact held _ (by omega)

/-- A row with a destination register and a register or memory. -/
def Code.isXmmBinary : Code → Bool
  | ⟨.simd _, [.xmm, .xmmOrMem size none], .plain⟩ => size ≤ 16
  | _ => false

/-- Besides, an immediate. -/
def Code.isXmmBinaryImm : Code → Bool
  | ⟨.simd _, [.xmm, .xmmOrMem size none, .imm8], .plain⟩ => size ≤ 16
  | _ => false

/-- What the rows of the binary tables look like. -/
theorem isXmmBinary_iff {code : Code} :
    code.isXmmBinary = true ↔
      ∃ op, ∃ size ≤ 16, code = ⟨.simd op, [.xmm, .xmmOrMem size none], .plain⟩ := by
  constructor
  · intro binary
    unfold Code.isXmmBinary at binary
    split at binary
    · exact ⟨_, _, of_decide_eq_true binary, rfl⟩
    · cases binary
  · rintro ⟨op, size, small, rfl⟩
    exact decide_eq_true small

/-- What the rows with an immediate look like. -/
theorem isXmmBinaryImm_iff {code : Code} :
    code.isXmmBinaryImm = true ↔
      ∃ op, ∃ size ≤ 16, code = ⟨.simd op, [.xmm, .xmmOrMem size none, .imm8], .plain⟩ := by
  constructor
  · intro binary
    unfold Code.isXmmBinaryImm at binary
    split at binary
    · exact ⟨_, _, of_decide_eq_true binary, rfl⟩
    · cases binary
  · rintro ⟨op, size, small, rfl⟩
    exact decide_eq_true small

/-- The rule for a row with its source in memory. -/
theorem built_xmm_memory {c : Ctx} {code : Code} (binary : code.isXmmBinary = true) (d : Fin 16)
    {disp : Nat} (small : disp ≤ 0x7F)
    (pins : c.touchesMemory = true ∧ c.forceGpr 7 = none ∧ c.forceGpr 4 = none) :
    Built caps c (with2 code (xmmOf d) (memOperand (BitVec.ofNat 8 disp))) := by
  obtain ⟨op, size, bounded, rfl⟩ := isXmmBinary_iff.mp binary
  exact built_window small (decide_eq_true bounded) rfl pins (tracked_of_defined rfl rfl)

/-- The rule for a row with its source in a register. -/
theorem built_xmm_register {c : Ctx} {code : Code} (binary : code.isXmmBinary = true)
    (d s : Fin 16) : Built caps c (with2 code (xmmOf d) (xmmOf s)) := by
  obtain ⟨op, size, _, rfl⟩ := isXmmBinary_iff.mp binary
  exact built_registers rfl (tracked_of_defined rfl rfl)

/-- Such a row is in order on a pinned operand in memory. -/
theorem built_xmm_memory_imm {c : Ctx} {code : Code} (binary : code.isXmmBinaryImm = true)
    (d : Fin 16) {disp : Nat} (small : disp ≤ 0x7F) (imm : BitVec 32)
    (pins : c.touchesMemory = true ∧ c.forceGpr 7 = none ∧ c.forceGpr 4 = none) :
    Built caps c (setImm8 (with3 code (xmmOf d) (memOperand (BitVec.ofNat 8 disp)) imm) 2
      (imm.signExtend 64)) := by
  obtain ⟨op, size, bounded, rfl⟩ := isXmmBinaryImm_iff.mp binary
  exact built_window small (decide_eq_true bounded) rfl pins (tracked_of_defined rfl rfl)

/-- Such a row is in order on registers. -/
theorem built_xmm_register_imm {c : Ctx} {code : Code} (binary : code.isXmmBinaryImm = true)
    (d s : Fin 16) (imm : BitVec 32) :
    Built caps c (setImm8 (with3 code (xmmOf d) (xmmOf s) imm) 2 (imm.signExtend 64)) := by
  obtain ⟨op, size, _, rfl⟩ := isXmmBinaryImm_iff.mp binary
  exact built_registers rfl (tracked_of_defined rfl rfl)

/-- The vector families deliver what `Built` asks for, one lemma each. -/
theorem genSimdShuffle_built : always genSimdShuffle (Builds caps) {} := by
  have immediate : ∀ code ∈ kSimdShuffleImm, code.isXmmBinaryImm = true := by decide
  have plain : ∀ code ∈ kSimdShuffleNoImm, code.isXmmBinary = true := by decide
  simp only [genSimdShuffle, touchMemory, setFlagsMask, always_pickXmmIndex, always_seq,
    always_lift, always_ite, always_modify, always_return, always_pick, always_randomDisp8,
    always_oneIn, Nat.reduceLT, builds_some]
  intro d useMem hasImm
  split
  · intro code listed
    apply always_of_forall
    intro imm
    split
    · intro disp small
      exact built_xmm_memory_imm (immediate code listed) d small imm ⟨rfl, rfl, rfl⟩
    · intro s
      exact built_xmm_register_imm (immediate code listed) d s imm
  · intro code listed
    split
    · intro disp small
      exact built_xmm_memory (plain code listed) d small ⟨rfl, rfl, rfl⟩
    · intro s
      exact built_xmm_register (plain code listed) d s

/-- The families that only differ in their table and their displacement. -/
theorem genXmmBinary_built {table : List Code} {nonempty : 0 < table.length}
    {randomDisp : Draw (BitVec 8)} (rows : ∀ code ∈ table, code.isXmmBinary = true)
    (disps : ∀ {post : BitVec 8 → Prop}, (∀ disp ≤ 0x7F, post (BitVec.ofNat 8 disp)) →
      randomDisp.Always post) :
    always (genXmmBinary table nonempty randomDisp) (Builds caps) {} := by
  simp only [genXmmBinary, touchMemory, setFlagsMask, always_pickXmmIndex, always_seq,
    always_lift, always_ite, always_modify, always_return, always_pick, always_oneIn,
    Nat.reduceLT, builds_some]
  intro code listed d memory
  split
  · apply disps
    intro disp small
    exact built_xmm_memory (rows code listed) d small ⟨rfl, rfl, rfl⟩
  · intro s
    exact built_xmm_register (rows code listed) d s

theorem genSimdLogic_built : always genSimdLogic (Builds caps) {} :=
  genXmmBinary_built (by decide) always_randomDisp8.mpr

theorem genSimdPack_built : always genSimdPack (Builds caps) {} :=
  genXmmBinary_built (by decide) always_randomDisp8.mpr

theorem genSseArith_built : always genSseArith (Builds caps) {} :=
  genXmmBinary_built (by decide) always_randomDisp8.mpr

theorem genPackedInt_built : always genPackedInt (Builds caps) {} :=
  genXmmBinary_built (by decide) (always_alignedDisp8 16)

/-- Every row shifts a register by an immediate. -/
theorem kSimdShiftImm_row {code : Code} (listed : code ∈ kSimdShiftImm) :
    ∃ op, code = sse op XMM_IMM8 := by
  obtain ⟨op, -, rfl⟩ := List.mem_map.mp listed
  exact ⟨op, rfl⟩

theorem genSimdShift_built : always genSimdShift (Builds caps) {} := by
  have rows : ∀ code ∈ kSimdShiftReg, code.isXmmBinary = true := by decide
  simp only [genSimdShift, touchMemory, setFlagsMask, always_pickXmmIndex, always_seq,
    always_lift, always_ite, always_modify, always_return, always_pick, always_randomDisp8,
    always_oneIn, Nat.reduceLT, builds_some]
  intro d hasImm
  split
  · intro code listed
    obtain ⟨op, rfl⟩ := kSimdShiftImm_row listed
    apply always_of_forall
    intro imm
    exact built_registers rfl (tracked_of_defined rfl rfl)
  · intro code listed memory
    split
    · intro disp small
      exact built_xmm_memory (rows code listed) d small ⟨rfl, rfl, rfl⟩
    · intro s
      exact built_xmm_register (rows code listed) d s

theorem genSimdFp_built : always genSimdFp (Builds caps) {} := by
  have compares : ∀ code ∈ kSimdFpCompare, code.isXmmBinary = true := by decide
  have plain : ∀ code ∈ kSimdFpNoFlags, code.isXmmBinary = true := by decide
  simp only [genSimdFp, touchMemory, setFlagsMask, always_pickXmmIndex, always_seq, always_lift,
    always_ite, always_modify, always_return, always_pick, always_randomDisp8, always_oneIn,
    Nat.reduceLT, builds_some]
  intro d isCompare
  split
  all_goals intro code listed memory
  · split
    · intro disp small
      exact built_xmm_memory (compares code listed) d small ⟨rfl, rfl, rfl⟩
    · intro s
      exact built_xmm_register (compares code listed) d s
  · split
    · intro disp small
      exact built_xmm_memory (plain code listed) d small ⟨rfl, rfl, rfl⟩
    · intro s
      exact built_xmm_register (plain code listed) d s

/-- The displacement of a move is nonnegative, aligned or not. -/
theorem always_sseMoveDisp {post : BitVec 8 → Prop} (form : SseMoveForm)
    (held : ∀ disp ≤ 0x7F, post (BitVec.ofNat 8 disp)) : (sseMoveDisp form).Always post := by
  simp only [sseMoveDisp, always_bind]
  apply always_of_forall
  intro forced
  split
  · exact always_alignedDisp8 16 held
  · exact always_randomDisp8.mpr held

/-- A row that stores a register. -/
def Code.isXmmStore : Code → Bool
  | ⟨.simd _, [.xmmOrMem size none, .xmm], .plain⟩ => size ≤ 16
  | ⟨.simd _, [.mem size, .xmm], .plain⟩ => size ≤ 16
  | _ => false

/-- A row that loads a register from memory. -/
def Code.isXmmLoad (code : Code) : Bool :=
  code.isXmmBinary ||
    match code with
    | ⟨.simd _, [.xmm, .mem size], .plain⟩ => size ≤ 16
    | _ => false

/-- A store is in order on a pinned operand. -/
theorem built_xmm_store {c : Ctx} {code : Code} (store : code.isXmmStore = true) (s : Fin 16)
    {disp : Nat} (small : disp ≤ 0x7F)
    (pins : c.touchesMemory = true ∧ c.forceGpr 7 = none ∧ c.forceGpr 4 = none) :
    Built caps c (with2 code (memOperand (BitVec.ofNat 8 disp)) (xmmOf s)) := by
  unfold Code.isXmmStore at store
  split at store
  · exact built_window small store rfl pins (tracked_of_defined rfl rfl)
  · exact built_window small store rfl pins (tracked_of_defined rfl rfl)
  · cases store

/-- A load is in order on a pinned operand. -/
theorem built_xmm_load {c : Ctx} {code : Code} (load : code.isXmmLoad = true) (d : Fin 16)
    {disp : Nat} (small : disp ≤ 0x7F)
    (pins : c.touchesMemory = true ∧ c.forceGpr 7 = none ∧ c.forceGpr 4 = none) :
    Built caps c (with2 code (xmmOf d) (memOperand (BitVec.ofNat 8 disp))) := by
  rcases Bool.or_eq_true_iff.mp load with binary | memory
  · exact built_xmm_memory binary d small pins
  · split at memory
    · exact built_window small memory rfl pins (tracked_of_defined rfl rfl)
    · cases memory

/-- A load without a register form always uses memory. -/
theorem always_loadsFromMemory {code : Code} {post : Bool → Prop}
    (held : ∀ fromMemory, (fromMemory = false → code ∉ memOnlyLoads) → post fromMemory) :
    (loadsFromMemory code).Always post := by
  unfold loadsFromMemory
  split
  · exact held true nofun
  · rename_i optional
    simp only [always_map, always_oneIn, Nat.reduceLT]
    intro hit
    exact held _ fun _ => optional

theorem genSseMove_built : always genSseMove (Builds caps) {} := by
  have stores : ∀ form ∈ kSseMoveStore, form.code.isXmmStore = true := by decide
  have loads : ∀ form ∈ kSseMoveLoad, form.code.isXmmLoad = true := by decide
  have registers : ∀ form ∈ kSseMoveLoad, form.code ∉ memOnlyLoads →
      form.code.isXmmBinary = true := by decide
  simp only [genSseMove, touchMemory, setFlagsMask, always_pickXmmIndex, always_seq, always_lift,
    always_ite, always_modify, always_return, always_pick, always_oneIn, Nat.reduceLT, builds_some]
  intro store
  split
  · intro form listed
    apply always_sseMoveDisp
    intro disp small s
    exact built_xmm_store (stores form listed) s small ⟨rfl, rfl, rfl⟩
  · intro form listed
    apply always_sseMoveDisp
    intro disp small d
    apply always_loadsFromMemory
    intro fromMemory allowed
    split
    · exact built_xmm_load (loads form listed) d small ⟨rfl, rfl, rfl⟩
    · intro s
      rename_i notMemory
      exact built_xmm_register
        (registers form listed (allowed (Bool.eq_false_iff.mpr notMemory))) d s

/-- The operand list a shape asks for, with the size of its memory operand and of the
element that operand may repeat. -/
def VexShape.operands (shape : VexShape) (size : Nat) (element : Option Nat) :
    List OpCodeOperandKind :=
  match shape with
  | .kDstSrcRm | .kDstSrcRm64 | .kDstSrcRm32 => [.xmm, .xmm, .xmmOrMem size element]
  | .kDstRm | .kDstRm64 => [.xmm, .xmmOrMem size element]
  | .kRmDst => [.xmmOrMem size element, .xmm]
  | .kDstSrcSrc => [.xmm, .xmm, .xmm]
  | .kDstSrcImm => [.xmm, .xmm, .imm8]
  | .kDstSrcRmImm => [.xmm, .xmm, .xmmOrMem size element, .imm8]
  | .kDstRmImm => [.xmm, .xmmOrMem size element, .imm8]

/-- The size of the memory operand and of the element it may repeat. -/
def OpCodeOperandKind.sizes : OpCodeOperandKind → Option (Nat × Option Nat)
  | .xmmOrMem size element => some (size, element)
  | _ => none

/-- The size of a row's memory operand, and of its element when it may be broadcast. -/
def VexEntry.sizes (e : VexEntry) : Nat × Option Nat :=
  (e.code.operands.findSome? OpCodeOperandKind.sizes).getD (0, none)

/-- Every row has the operand list its shape asks for, with a memory operand no larger
than a register. -/
theorem kVexSimd_operands :
    ∀ e ∈ kVexSimd, e.code.operands = e.shape.operands e.sizes.1 e.sizes.2 ∧
      e.sizes.1 ≤ 16 ∧ e.sizes.2.getD e.sizes.1 ≤ 16 := by
  decide +kernel

/-- The table lists VEX and EVEX instructions only. -/
theorem kVexSimd_isVex : ∀ e ∈ kVexSimd, e.code.mnemonic.isVex = true := by
  decide +kernel

/-- The rows with two sources and an immediate are the ones that are built wrong. -/
theorem kVexSimd_misstamped :
    ∀ e ∈ kVexSimd, e.code.misstamped = decide (e.shape = .kDstSrcRmImm) := by
  decide +kernel

/-- Every row's encoding is the one its flag announces. -/
theorem kVexSimd_form : ∀ e ∈ kVexSimd, e.code.form = if e.evex then .EVEX else .VEX := by
  decide +kernel

/-- What is counted as VEX is one of the table's instructions. -/
theorem vex_of_isVex {mnemonic : Mnemonic} (vex : mnemonic.isVex = true) :
    ∃ op, mnemonic = .vex op := by
  cases mnemonic with
  | vex op => exact ⟨op, rfl⟩
  | _ => cases vex

section

variable {c : Ctx} {instr : Instruction} {op : VexOp}

/-- The rule for rows without memory. -/
theorem built_vex_registers (vex : instr.code.mnemonic = .vex op) (host : caps.Supports instr.code)
    (stamped : instr.code.misstamped = false) (fits : instr.fits = true)
    (memory : instr.memory = none) : Built caps c instr := by
  have stackless : ∀ gpr, instr.stackAccesses gpr = [] := by
    intro gpr
    unfold Instruction.stackAccesses
    rw [vex]
  have falls : instr.code.mnemonic.isBranch = false := by
    rw [vex]
    rfl
  apply built_of_fits fits stamped host (encodable_of_memory_none memory)
    (.nothing memory (pointers_of_fits fits) stackless) (.falls falls)
  apply tracked_of_defined <;> rw [vex] <;> rfl

/-- The rule for rows with a memory operand. -/
theorem built_vex_memory (vex : instr.code.mnemonic = .vex op) (host : caps.Supports instr.code)
    (stamped : instr.code.misstamped = false) (fits : instr.fits = true) {disp : Nat}
    (small : disp ≤ 0x7F) (memory : instr.memory = some (memOperand (BitVec.ofNat 8 disp)))
    (size : instr.memorySize ≤ 16)
    (pins : c.touchesMemory = true ∧ c.forceGpr 7 = none ∧ c.forceGpr 4 = none) :
    Built caps c instr := by
  obtain ⟨touches, rdi, rsp⟩ := pins
  have bits : instr.bitTestFits = true := by
    unfold Instruction.bitTestFits
    rw [vex]
  have falls : instr.code.mnemonic.isBranch = false := by
    rw [vex]
    rfl
  apply built_of_fits fits stamped host (encodable_of_memOperand memory)
    (.window disp small memory size bits (pointers_of_fits fits) touches rdi rsp) (.falls falls)
  apply tracked_of_defined <;> rw [vex] <;> rfl

end

/-- Whatever a row's shape builds is in order on a host that supports the row. -/
theorem vexForm_built {e : VexEntry} (listed : e ∈ kVexSimd) (host : caps.Supports e.code)
    (d s1 s2 : Fin 16) (useMem broadcast : Bool) {mask : BitVec 64} :
    always (vexForm e d s1 s2 useMem broadcast) (Builds caps) { flagsMask := mask } := by
  obtain ⟨op, vex⟩ := vex_of_isVex (kVexSimd_isVex e listed)
  obtain ⟨operands, bounded, boundedElement⟩ := kVexSimd_operands e listed
  have stamped := kVexSimd_misstamped e listed
  generalize e.sizes.1 = size at operands bounded boundedElement
  generalize e.sizes.2 = element at operands boundedElement
  obtain ⟨⟨mnemonic, entries, form⟩, shape, evex, repeats⟩ := e
  obtain rfl : mnemonic = .vex op := vex
  obtain rfl : entries = shape.operands size element := operands
  cases shape with
  | kDstSrcRm | kDstSrcRm64 | kDstSrcRm32 | kDstRm | kDstRm64 =>
      simp only [vexForm, touchMemory, always_seq, always_lift, always_ite, always_modify,
        always_return, always_randomDisp8, builds_some]
      split
      · intro disp small
        cases broadcast with
        | false => exact built_vex_memory rfl host stamped rfl small rfl bounded ⟨rfl, rfl, rfl⟩
        | true =>
            exact built_vex_memory rfl host stamped rfl small rfl boundedElement ⟨rfl, rfl, rfl⟩
      · exact built_vex_registers rfl host stamped rfl rfl
  | kRmDst =>
      simp only [vexForm, touchMemory, always_seq, always_lift, always_ite, always_modify,
        always_return, always_randomDisp8, builds_some]
      split
      · intro disp small
        exact built_vex_memory rfl host stamped rfl small rfl bounded ⟨rfl, rfl, rfl⟩
      · exact built_vex_registers rfl host stamped rfl rfl
  | kDstSrcSrc =>
      simp only [vexForm, always_return, builds_some]
      exact built_vex_registers rfl host stamped rfl rfl
  | kDstSrcImm =>
      simp only [vexForm, always_seq, always_lift, always_return, builds_some]
      apply always_of_forall
      intro imm
      exact built_vex_registers rfl host stamped rfl rfl
  | kDstRmImm =>
      simp only [vexForm, touchMemory, always_seq, always_lift, always_ite, always_modify,
        always_return, always_randomDisp8, builds_some]
      apply always_of_forall
      intro imm
      split
      · intro disp small
        exact built_vex_memory rfl host stamped rfl small rfl bounded ⟨rfl, rfl, rfl⟩
      · exact built_vex_registers rfl host stamped rfl rfl
  | kDstSrcRmImm =>
      simp only [vexForm, touchMemory, always_seq, always_lift, always_ite, always_modify,
        always_return, always_randomDisp8, builds_some]
      apply always_of_forall
      intro imm
      split
      · intro disp small
        cases broadcast with
        | false =>
            exact built_misstamped stamped rfl
              (.window disp small rfl bounded rfl (pointers_of_all rfl) rfl rfl rfl) rfl
              (tracked_of_defined rfl rfl) host
        | true =>
            exact built_misstamped stamped rfl
              (.window disp small rfl boundedElement rfl (pointers_of_all rfl) rfl rfl rfl) rfl
              (tracked_of_defined rfl rfl) host
      · exact built_misstamped stamped rfl (.nothing rfl (pointers_of_all rfl) fun _ => rfl) rfl
          (tracked_of_defined rfl rfl) host

/-- Every row is in order on a host that supports it. -/
theorem genVexEntry_built {e : VexEntry} (listed : e ∈ kVexSimd) (host : caps.Supports e.code)
    {mask : BitVec 64} : always (genVexEntry e) (Builds caps) { flagsMask := mask } := by
  simp only [genVexEntry, always_pickXmmIndex, always_seq, always_lift, always_oneIn, Nat.reduceLT]
  intro d s1 s2 useMem
  apply always_of_forall
  intro broadcast
  exact vexForm_built listed host d s1 s2 useMem broadcast

/-- Only a row the host can execute is picked. -/
theorem always_pickVexEntry {evexOk : Bool} {post : Option VexEntry → Prop}
    (gaveUp : post none)
    (held : ∀ e ∈ kVexSimd, (e.evex = true → evexOk = true) → post (some e)) (attempts : Nat) :
    (pickVexEntry evexOk attempts).Always post := by
  induction attempts with
  | zero => exact gaveUp
  | succ attempts ih =>
      simp only [pickVexEntry, always_bind, always_pick]
      intro candidate listed
      split
      · exact ih
      · rename_i usable
        refine held candidate listed fun evex => ?_
        by_contra notOk
        exact usable ⟨evex, notOk⟩

theorem genVexSimd_built : always (genVexSimd caps) (Builds caps) {} := by
  simp only [genVexSimd, setFlagsMask, always_seq, always_lift, always_ite, always_modify,
    always_return, builds_none]
  split
  · trivial
  · rename_i enabled
    simp only [not_or, not_not] at enabled
    apply always_pickVexEntry
    · exact builds_none
    · intro e listed usable
      have host : caps.Supports e.code := by
        intro _
        refine ⟨enabled.1, enabled.2, fun form => usable ?_⟩
        rw [kVexSimd_form e listed] at form
        split at form
        · assumption
        · cases form
      exact genVexEntry_built listed host

end SevenFuzzer
