import SevenFuzzer.Common.Types
import SevenFuzzer.Library.Words

/-! # The tags of the x87 registers

The tag word is in physical order and the registers are relative to the stack top. A tag
word is the eight tags in it (`tagWord_ext`), and a state is canonical if every register
that is in use carries the tag recreated from its contents.
-/

namespace SevenFuzzer

/-- The tag of a physical register. -/
def tagAt (tagWord : BitVec 16) (phys : Nat) : BitVec 8 :=
  ((tagWord >>> (2 * phys)) &&& 0x3#16).setWidth 8

theorem getLsbD_three (bit : Nat) : (0x3#16).getLsbD bit = decide (bit < 2) := by
  rw [show 0x3#16 = BitVec.ofNat 16 (2 ^ 2 - 1) from rfl, BitVec.getLsbD_ofNat,
    Nat.testBit_two_pow_sub_one]
  by_cases low : bit < 2
  · simp [low, show bit < 16 by omega]
  · simp [low]

/-- The two bits of a tag, in the tag word. -/
theorem getLsbD_tagAt (tagWord : BitVec 16) (phys bit : Nat) :
    (tagAt tagWord phys).getLsbD bit = (decide (bit < 2) && tagWord.getLsbD (2 * phys + bit)) := by
  rw [tagAt, BitVec.getLsbD_setWidth, BitVec.getLsbD_and, BitVec.getLsbD_ushiftRight, getLsbD_three]
  by_cases low : bit < 2
  · simp [low, show bit < 8 by omega]
  · simp [low]

/-- A tag word is determined by its tags. -/
theorem tagWord_ext {tagWord tagWord' : BitVec 16}
    (same : ∀ phys < 8, tagAt tagWord phys = tagAt tagWord' phys) : tagWord = tagWord' := by
  apply BitVec.eq_of_getLsbD_eq
  intro bit inside
  have tags := congrArg (fun tag => BitVec.getLsbD tag (bit % 2)) (same (bit / 2) (by omega))
  simpa [getLsbD_tagAt, Nat.div_add_mod, Nat.mod_lt bit (show 0 < 2 by decide)] using tags

/-- The tags of a word that is put together from eight tags. -/
theorem tagAt_fill {tags : Nat → BitVec 8}
    (narrow : ∀ i bit, 2 ≤ bit → (tags i).getLsbD bit = false)
    {phys : Nat} (inside : phys < 8) :
    tagAt (Words.fill 2 8 fun i => (tags i).setWidth 16) phys = tags phys := by
  apply BitVec.eq_of_getLsbD_eq
  intro bit _
  rw [getLsbD_tagAt, Words.getLsbD_fill (by decide) fun i bit wide => by simp [narrow i bit wide],
    BitVec.getLsbD_setWidth]
  rcases Nat.lt_or_ge bit 2 with low | high
  · simp [low, show (2 * phys + bit) / 2 = phys by omega, show (2 * phys + bit) % 2 = bit by omega,
      show 2 * phys + bit < 16 by omega, show bit < 16 by omega]
  · simp [high.not_gt, narrow phys bit high]

/-- A tag has two bits. -/
theorem tagAt_narrow (tagWord : BitVec 16) (phys bit : Nat) (high : 2 ≤ bit) :
    (tagAt tagWord phys).getLsbD bit = false := by
  simp [getLsbD_tagAt, high.not_gt]

/-- Cutting a tag to two bits changes nothing. -/
theorem tagAt_and_three (tagWord : BitVec 16) (phys : Nat) :
    tagAt tagWord phys &&& 0x3#8 = tagAt tagWord phys := by
  apply BitVec.eq_of_getLsbD_eq
  intro bit inside
  rw [BitVec.getLsbD_and]
  rcases Nat.lt_or_ge bit 2 with low | high
  · have mask : (0x3#8).getLsbD bit = true := by
      rcases (show bit = 0 ∨ bit = 1 by omega) with rfl | rfl <;> rfl
    rw [mask, Bool.and_true]
  · rw [tagAt_narrow tagWord phys bit high, Bool.false_and]

/-- A full slot is tagged valid, zero or special. -/
theorem x87ClassifyTag_cases (signexp : BitVec 16) (signif : BitVec 64) :
    x87ClassifyTag signexp signif = 0#8 ∨ x87ClassifyTag signexp signif = 1#8 ∨
      x87ClassifyTag signexp signif = 2#8 := by
  simp only [x87ClassifyTag]
  split_ifs <;> simp

/-- It is never tagged empty. -/
theorem x87ClassifyTag_ne_empty (signexp : BitVec 16) (signif : BitVec 64) :
    x87ClassifyTag signexp signif ≠ 3#8 := by
  rcases x87ClassifyTag_cases signexp signif with tag | tag | tag <;> rw [tag] <;> decide

/-- The tag of a value has two bits. -/
theorem x87ClassifyTag_narrow (signexp : BitVec 16) (signif : BitVec 64) (bit : Nat)
    (high : 2 ≤ bit) : (x87ClassifyTag signexp signif).getLsbD bit = false := by
  have small : (x87ClassifyTag signexp signif).toNat < 2 ^ 2 := by
    rcases x87ClassifyTag_cases signexp signif with tag | tag | tag <;> rw [tag] <;> decide
  exact Nat.testBit_lt_two_pow (lt_of_lt_of_le small (Nat.pow_le_pow_right (by decide) high))

/-- A slot is empty exactly if both bits of its tag are set. -/
theorem tagAt_eq_three_iff (tagWord : BitVec 16) (phys : Nat) :
    tagAt tagWord phys = 3#8 ↔ (tagWord >>> (2 * phys)) &&& 0x3#16 = 0x3#16 := by
  have small : ((tagWord >>> (2 * phys)) &&& 0x3#16).toNat ≤ 3 := by
    rw [BitVec.toNat_and]
    exact Nat.and_le_right
  rw [tagAt, ← BitVec.toNat_inj, ← BitVec.toNat_inj, BitVec.toNat_setWidth,
    Nat.mod_eq_of_lt (by omega)]
  rfl

/-- A tag written over another leaves the other tags alone. -/
theorem tagAt_retag (tagWord : BitVec 16) {tag : BitVec 8}
    (narrow : ∀ bit, 2 ≤ bit → tag.getLsbD bit = false) {slot phys : Nat} (inside : slot < 8)
    (within : phys < 8) :
    tagAt ((tagWord &&& ~~~(0x3#16 <<< (2 * slot))) ||| (tag.setWidth 16 <<< (2 * slot))) phys =
      if phys = slot then tag else tagAt tagWord phys := by
  apply BitVec.eq_of_getLsbD_eq
  intro bit _
  rcases Nat.lt_or_ge bit 2 with low | high
  · rw [getLsbD_tagAt, decide_eq_true low, Bool.true_and]
    simp only [BitVec.getLsbD_or, BitVec.getLsbD_and, BitVec.getLsbD_not, BitVec.getLsbD_shiftLeft,
      BitVec.getLsbD_setWidth, getLsbD_three, show 2 * phys + bit < 16 by omega, decide_true,
      Bool.true_and]
    rcases Nat.lt_trichotomy phys slot with before | rfl | after
    · simp [before.ne, getLsbD_tagAt, low, show 2 * phys + bit < 2 * slot by omega]
    · simp [low, show bit < 16 by omega, show ¬ 2 * phys + bit < 2 * phys by omega]
    · have beyond : 2 ≤ 2 * phys + bit - 2 * slot := by omega
      simp [after.ne', getLsbD_tagAt, low, beyond.not_gt, narrow _ beyond]
  · rw [tagAt_narrow _ _ _ high]
    split
    · exact (narrow bit high).symm
    · exact (tagAt_narrow _ _ _ high).symm

/-- The stack top as a number. -/
theorem toNat_x87TopOf (x : X87State) :
    (x87TopOf x).toNat = ((x.statusWord >>> 11) &&& 0x7#16).toNat := by
  have small : ((x.statusWord >>> 11) &&& 0x7#16).toNat ≤ 7 := by
    rw [BitVec.toNat_and]
    exact Nat.and_le_right
  rw [x87TopOf, BitVec.toNat_setWidth, Nat.mod_eq_of_lt (by omega)]

/-- It is one of the eight registers. -/
theorem x87TopOf_lt (x : X87State) : (x87TopOf x).toNat < 8 := by
  rw [toNat_x87TopOf, BitVec.toNat_and]
  exact Nat.lt_succ_of_le Nat.and_le_right

/-- The physical register of `ST(i)`. -/
def stPhys (x : X87State) (i : Fin 8) : Nat := ((x87TopOf x).toNat + i.val) % 8

/-- The tag of a slot is that of its register. -/
theorem x87TagOfSt_eq (x : X87State) (i : Fin 8) : x87TagOfSt x i = tagAt x.tagWord (stPhys x i) :=
  rfl

/-- A slot is one of the eight registers. -/
theorem stPhys_lt (x : X87State) (i : Fin 8) : stPhys x i < 8 := Nat.mod_lt _ (by decide)

/-- The way back from a physical register to the stack. -/
theorem stOf_stPhys (x : X87State) (i : Fin 8) :
    Fin.ofNat 8 (stPhys x i + 8 - (x87TopOf x).toNat) = i := by
  have top := x87TopOf_lt x
  apply Fin.ext
  rw [Fin.val_ofNat, stPhys]
  omega

/-- Every register is a slot. -/
theorem exists_stPhys (x : X87State) {phys : Nat} (inside : phys < 8) :
    ∃ i : Fin 8, stPhys x i = phys := by
  have top := x87TopOf_lt x
  refine ⟨⟨(phys + 8 - (x87TopOf x).toNat) % 8, Nat.mod_lt _ (by decide)⟩, ?_⟩
  rw [stPhys]
  dsimp only
  omega

/-- Two tag words agree if they tag every register of the stack alike. -/
theorem tagWord_ext_st {tagWord : BitVec 16} (x : X87State)
    (same : ∀ i, tagAt tagWord (stPhys x i) = x87TagOfSt x i) : tagWord = x.tagWord := by
  refine tagWord_ext fun phys inside => ?_
  obtain ⟨i, rfl⟩ := exists_stPhys x inside
  exact same i

/-- Every register in use carries the tag recreated from its contents. -/
def X87State.Canonical (x : X87State) : Prop :=
  ∀ i : Fin 8, x87TagOfSt x i ≠ 3#8 →
    x87TagOfSt x i = x87ClassifyTag (x.signexp i) (x.signif i)

instance (x : X87State) : Decidable x.Canonical :=
  inferInstanceAs (Decidable (∀ _, _))

end SevenFuzzer
