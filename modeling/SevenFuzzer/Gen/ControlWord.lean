import SevenFuzzer.Gen.ScanMask

/-! # The x87 control word

An exception that is not masked would be raised by some later test case on the same
processor. Every test case starts with all exceptions masked and extended precision, and
its instruction leaves it so; what FLDCW loads has been planted in the seed
(`SevenFuzzer.control_word_masked`).
-/

namespace SevenFuzzer

open Draw InstructionFactory

/-- All exceptions masked, and extended precision. -/
structure MaskedExtended (cw : BitVec 16) : Prop where
  masks : cw &&& 0x003F#16 = 0x003F#16
  precision : cw &&& 0x0300#16 = 0x0300#16

/-- The two bytes an `FLDCW` loads. -/
def readWord (memory : BitVec 64 → BitVec 8) (address : BitVec 64) : BitVec 16 :=
  BitVec.ofNat 16 (readLittle memory address 2)

/-- The control word after the instruction: only two of those that are generated write it. -/
def Instruction.controlWordAfter (instr : Instruction) (gpr : Fin 16 → BitVec 64)
    (memory : BitVec 64 → BitVec 8) (cw : BitVec 16) : BitVec 16 :=
  match instr.code.mnemonic, instr.memory with
  | .x87 .FLDCW, some m => readWord memory (m.effectiveAddress gpr)
  | .x87 .FNINIT, _ => 0x037F#16
  | _, _ => cw

/-- The control word after a test case. -/
def Generated.controlWordAfter (g : Generated) : BitVec 16 :=
  g.instruction.controlWordAfter g.testCase.initial.gpr (initialMemory g.testCase)
    g.testCase.initial.x87.controlWord

/-- Exceptions stay masked, and FLDCW finds such a word in the window. -/
structure StaysMasked (g : Generated) : Prop where
  initial : MaskedExtended g.testCase.initial.x87.controlWord
  after : MaskedExtended g.controlWordAfter
  loaded : g.instruction.code.mnemonic = .x87 .FLDCW → ∃ disp ≤ 0x7F,
    g.instruction = with1 (x87Mem .FLDCW 2) (memOperand (BitVec.ofNat 8 disp)) ∧
      g.testCase.initial.gpr 7 = kDataBase ∧
      MaskedExtended (readWord (initialMemory g.testCase) (kDataBase + BitVec.ofNat 64 disp))

/-- Bits that are set stay set whatever is added. -/
theorem or_and_of_and {width : Nat} {word mask : BitVec width} (set : word &&& mask = mask)
    (rest : BitVec width) : (word ||| rest) &&& mask = mask := by
  apply BitVec.eq_of_getLsbD_eq
  intro i _
  have bit := congrArg (fun bits => bits.getLsbD i) set
  simp only [BitVec.getLsbD_and] at bit
  simp only [BitVec.getLsbD_and, BitVec.getLsbD_or]
  cases inMask : mask.getLsbD i with
  | false => exact Bool.and_false _
  | true =>
      rw [inMask, Bool.and_true] at bit
      rw [bit, Bool.true_or, Bool.and_true]

/-- Setting further bits leaves the exceptions masked and the precision extended. -/
theorem maskedExtended_or (rest : BitVec 16) : MaskedExtended (0x037F#16 ||| rest) where
  masks := or_and_of_and (by decide) rest
  precision := or_and_of_and (by decide) rest

/-- The control word of a test case without x87 state is masked. -/
theorem maskedExtended_default : MaskedExtended 0x037F#16 := ⟨by decide, by decide⟩

/-- Its two bytes, read back. -/
theorem readWord_of_bytes {memory : BitVec 64 → BitVec 8} {address value : BitVec 64}
    (stored : ∀ i < 2, memory (address + BitVec.ofNat 64 i) = byteOf value i) :
    readWord memory address = value.setWidth 16 := by
  have read : readLittle memory address 2 = value.toNat % 2 ^ (8 * 2) :=
    Words.ofDigits_bytes fun i below => by rw [stored i below, toNat_byteOf]
  apply BitVec.eq_of_toNat_eq
  rw [readWord, read, BitVec.toNat_ofNat, BitVec.toNat_setWidth, Nat.mod_mod]

/-- So is every drawn one. -/
theorem randomX87State_masked (needs : Nat) :
    (randomX87State needs).Always fun x => MaskedExtended x.controlWord := by
  simp only [randomX87State, always_bind]
  refine always_of_forall fun rounding => always_of_forall fun top => ?_
  refine always_of_forall fun depth => always_of_forall fun sw => ?_
  refine always_foldlM (fun i _ x masked => ?_) (maskedExtended_or _)
  rw [plantSlot, always_bind]
  exact always_of_forall fun v => masked

/-- So is the one a test case starts with. -/
theorem initialX87_masked (c : Ctx) :
    (initialX87 c).Always fun x => MaskedExtended x.controlWord := by
  unfold initialX87
  split
  · exact randomX87State_masked c.x87Needs
  · exact maskedExtended_default

/-- What a test case is finished with that bears on the control word. -/
structure ControlFinished (c : Ctx) (tc : TestCase) : Prop where
  word : MaskedExtended tc.initial.x87.controlWord
  gpr : ∃ drawn, tc.initial.gpr = pinGpr c drawn
  seed : ∃ drawn, tc.dataSeed = plantAll c drawn

/-- The finished test case starts with a masked control word and keeps the planted one in memory. -/
theorem finishCase_control (c : Ctx) (bytes : List (BitVec 8)) :
    (finishCase c bytes).Always (ControlFinished c) := by
  simp only [finishCase, always_bind, always_pure]
  refine always_of_forall fun drawnGpr => always_of_forall fun drawnXmm => ?_
  refine (initialX87_masked c).mono fun x87 masked => ?_
  refine always_of_forall fun fl => always_of_forall fun drawnSeed => ?_
  exact ⟨masked, ⟨drawnGpr, rfl⟩, ⟨drawnSeed, rfl⟩⟩

/-- Every word planted for a load is masked. -/
theorem randomControlWord_masked :
    randomControlWord.Always fun cw => MaskedExtended (cw.setWidth 16) := by
  simp only [randomControlWord, always_bind]
  refine always_of_forall fun rounding => always_of_forall fun infinity => ?_
  rw [always_pure, BitVec.or_assoc, BitVec.setWidth_or]
  exact maskedExtended_or _

/-- A word to load, planted where the instruction will find it. -/
structure ControlPlanted (c : Ctx) (instr : Instruction) (disp : Nat) (cw : BitVec 64) : Prop where
  small : disp ≤ 0x7F
  masked : MaskedExtended (cw.setWidth 16)
  built : instr = with1 (x87Mem .FLDCW 2) (memOperand (BitVec.ofNat 8 disp))
  pins : c.touchesMemory = true ∧ c.forceGpr 7 = none
  planted : ∃ value, c.forceDataBytes = some ⟨disp, 2, value⟩ ∧
    value 0 = byteOf cw 0 ∧ value 1 = byteOf cw 1

/-- An FLDCW has its word planted. -/
def LoadsPlanted (c : Ctx) (instr : Instruction) : Prop :=
  instr.code.mnemonic = .x87 .FLDCW → ∃ disp cw, ControlPlanted c instr disp cw

/-- Only `FLDCW` loads a control word. -/
theorem loadsPlanted_of_ne {c : Ctx} {instr : Instruction}
    (other : instr.code.mnemonic ≠ .x87 .FLDCW) : LoadsPlanted c instr :=
  fun loads => absurd loads other

/-- A plain instruction loads none. -/
theorem Mnemonic.notLoad_of_isPlain {mnemonic : Mnemonic} (plain : mnemonic.isPlain = true) :
    mnemonic ≠ .x87 .FLDCW := by
  rintro rfl
  cases plain

/-- A string instruction loads none. -/
theorem Mnemonic.notLoad_of_isString {mnemonic : Mnemonic} (string : mnemonic.isString = true) :
    mnemonic ≠ .x87 .FLDCW := by
  rintro rfl
  cases string

/-- Where the family builds the load, it has planted the word that is loaded. -/
theorem genX87Control_planted : always genX87Control
    (fun result c => ∀ instr, result = some instr → LoadsPlanted c instr) {} := by
  have ended {c : Ctx} {instr : Instruction} (planted : LoadsPlanted c instr) :
      ∀ instr', some instr = some instr' → LoadsPlanted c instr' :=
    fun _ same => Option.some.inj same ▸ planted
  simp only [genX87Control, genX87ControlForm, x87Setup, touchMemory, plantInt, plantBytes,
    always_seq, always_lift, always_modify]
  refine always_of_forall fun form => ?_
  split
  all_goals simp only [always_seq, always_lift, always_ite, always_modify, always_return,
    always_randomDisp8]
  · exact ended (loadsPlanted_of_ne (by rintro ⟨⟩))
  · exact fun disp _ => ended (loadsPlanted_of_ne (by rintro ⟨⟩))
  · exact fun disp _ => ended (loadsPlanted_of_ne (by rintro ⟨⟩))
  · intro disp small
    refine randomControlWord_masked.mono fun cw masked => ended fun _ => ⟨disp, cw, ?_⟩
    exact ⟨small, masked, rfl, ⟨rfl, rfl⟩, _, by rw [offsetOf_small small], rfl, rfl⟩
  · exact ended (loadsPlanted_of_ne (by rintro ⟨⟩))
  · exact ended (loadsPlanted_of_ne (by rintro ⟨⟩))
  · refine always_of_forall fun up => ?_
    split
    · exact ended (loadsPlanted_of_ne (by rintro ⟨⟩))
    · exact ended (loadsPlanted_of_ne (by rintro ⟨⟩))

/-- Whatever is drawn, an FLDCW of a family has its word planted. -/
theorem family_planted {caps : HostCaps} (f : Family) : always (f.gen caps)
    (fun result c => ∀ instr, result = some instr → LoadsPlanted c instr) {} := by
  refine families_of_plain (fun c instr plain => ?_) (fun c instr op counts => ?_) ?_
    genX87Control_planted f
  · exact loadsPlanted_of_ne (Mnemonic.notLoad_of_isPlain plain)
  · apply loadsPlanted_of_ne
    rw [counts]
    nofun
  · refine always_of_kept (Nat.zero_le 8) (genStringOps_kept needs_forcing.toRegisterSteps) ?_
    exact fun c instr string =>
      loadsPlanted_of_ne (Mnemonic.notLoad_of_isString string)

/-- Neither the random bytes nor another plant change the word. -/
theorem readWord_planted {g : Generated} {disp : Nat} {cw : BitVec 64}
    (planted : ControlPlanted g.ctx g.instruction disp cw)
    (finished : ControlFinished g.ctx g.testCase) :
    readWord (initialMemory g.testCase) (kDataBase + BitVec.ofNat 64 disp) = cw.setWidth 16 := by
  obtain ⟨value, bytes, low, high⟩ := planted.planted
  obtain ⟨drawn, seed⟩ := finished.seed
  have small := planted.small
  have fits : disp + 2 ≤ kDataWindow := by
    unfold kDataWindow
    omega
  have seeded (i : Nat) (below : i < 2) (inside : disp + i < kDataWindow) :
      g.testCase.dataSeed ⟨disp + i, inside⟩ = value (Fin.ofNat 10 i) := by
    rw [seed, plantAll, bytes, Option.elim_some, plant_inside fits below]
  apply readWord_of_bytes
  intro i below
  have inside : disp + i < kDataWindow := by omega
  rw [initialMemory_seed g.testCase inside, seeded i below inside]
  obtain rfl | rfl : i = 0 ∨ i = 1 := by omega
  · exact low
  · exact high

/-- **After execution**: the word that is loaded is the planted one, and it is masked. -/
theorem staysMasked_of_planted {g : Generated} (planted : LoadsPlanted g.ctx g.instruction)
    (finished : ControlFinished g.ctx g.testCase) : StaysMasked g := by
  have loaded : g.instruction.code.mnemonic = .x87 .FLDCW → ∃ disp ≤ 0x7F,
      g.instruction = with1 (x87Mem .FLDCW 2) (memOperand (BitVec.ofNat 8 disp)) ∧
        g.testCase.initial.gpr 7 = kDataBase ∧
        MaskedExtended
          (readWord (initialMemory g.testCase) (kDataBase + BitVec.ofNat 64 disp)) := by
    intro loads
    obtain ⟨disp, cw, plant⟩ := planted loads
    obtain ⟨drawn, gpr⟩ := finished.gpr
    refine ⟨disp, plant.small, plant.built, ?_, ?_⟩
    · rw [gpr]
      exact pinGpr_rdi plant.pins.1 plant.pins.2 drawn
    · rw [readWord_planted plant finished]
      exact plant.masked
  refine ⟨finished.word, ?_, loaded⟩
  unfold Generated.controlWordAfter Instruction.controlWordAfter
  split
  · rename_i m loads memory
    obtain ⟨disp, small, built, rdi, masked⟩ := loaded loads
    rw [built] at memory
    obtain rfl := Option.some.inj memory
    rw [displaced_memOperand small rdi]
    exact masked
  · exact maskedExtended_default
  · exact finished.word

/-- The fallback leaves the control word alone. -/
theorem staysMasked_fallback : StaysMasked fallback where
  initial := maskedExtended_default
  after := maskedExtended_default
  loaded := nofun

/-- **Exceptions stay masked.** Whatever is drawn, the control word masks every exception and
has extended precision before and after the test case. -/
theorem control_word_masked (encode : Instruction → Option (List (BitVec 8))) (caps : HostCaps)
    (discarded : Nat) :
    (next encode caps discarded).Always fun ended => StaysMasked ended.1 := by
  refine (next_from family_planted (fun c _ => finishCase_control c _) discarded).mono ?_
  rintro ended (fell | ⟨bytes, -, -, planted, finished⟩)
  · rw [fell]
    exact staysMasked_fallback
  · exact staysMasked_of_planted planted finished

end SevenFuzzer
