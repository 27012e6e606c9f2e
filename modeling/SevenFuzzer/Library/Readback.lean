import SevenFuzzer.Library.Numerals

/-! # Reading a text from its end

What a printer puts at the end of a text can be read back if the text tells where the printed
part begins and something about the value printed, its key (`ReadsBack`). A text of several
fields is read back one field at a time, last first (`ReadsBack.peel`,
`ReadsBack.peel_flatMap`). A printer of a fixed width reads back what it tells apart
(`readsBack_of_length`), and hexadecimal words that are padded with zeros read back in full
(`hexadecimal_readsBack`).
-/

namespace Readback

variable {Letter Value Value' Key Index : Type}

/-- A text tells where the printed part begins, and the key of the value printed. -/
def ReadsBack (print : Value → List Letter) (key : Value → Key) : Prop :=
  ∀ ⦃before before' value value'⦄, before ++ print value = before' ++ print value' →
    before = before' ∧ key value = key value'

variable {print : Value → List Letter} {key : Value → Key} {before before' back : List Letter}
  {value value' : Value}

/-- A print of fixed length reads back what it tells. -/
theorem readsBack_of_length {width : Nat} (length : ∀ value, (print value).length = width)
    (tells : ∀ value value', print value = print value' → key value = key value') :
    ReadsBack print key := fun _ _ value value' same =>
  (List.append_inj' same ((length value).trans (length value').symm)).imp_right (tells value value')

/-- The letter before what follows. -/
theorem last_eq {letter letter' : Letter}
    (same : before ++ [letter] ++ back = before' ++ [letter'] ++ back) : letter = letter' :=
  List.singleton_inj.mp (List.append_inj' (List.append_cancel_right same) rfl).2

/-- Values with different last letters are told apart. -/
theorem readsBack_of_last (last : Key → Letter) (distinct : Function.Injective last)
    (ends : ∀ value, ∃ front, print value = front ++ [last (key value)])
    (tells : ∀ value value', key value = key value' → print value = print value') :
    ReadsBack print key := by
  intro before before' value value' same
  obtain ⟨front, printed⟩ := ends value
  obtain ⟨front', printed'⟩ := ends value'
  have keys : key value = key value' := by
    rw [printed, printed', ← List.append_assoc, ← List.append_assoc] at same
    exact distinct (List.singleton_inj.mp (List.append_inj' same rfl).2)
  rw [tells value value' keys] at same
  exact ⟨List.append_cancel_right same, keys⟩

/-- A printer of a part of the value. -/
theorem ReadsBack.comp (reads : ReadsBack print key) (part : Value' → Value) :
    ReadsBack (fun value => print (part value)) fun value => key (part value) :=
  fun _ _ _ _ same => reads same

/-- The last field with what always stands behind it. -/
theorem ReadsBack.peel (reads : ReadsBack print key)
    (same : before ++ print value ++ back = before' ++ print value' ++ back) :
    before = before' ∧ key value = key value' :=
  reads (List.append_cancel_right same)

/-- Fields printed one after the other, each in its own way. -/
theorem ReadsBack.peel_flatMap {print : Index → Value → List Letter} {key : Index → Value → Key}
    (reads : ∀ i, ReadsBack (print i) (key i)) {indices : List Index}
    (same : before ++ (indices.flatMap fun i => print i value) =
      before' ++ (indices.flatMap fun i => print i value')) :
    before = before' ∧ ∀ i ∈ indices, key i value = key i value' := by
  induction indices using List.reverseRecOn with
  | nil => exact ⟨List.append_cancel_right same, nofun⟩
  | append_singleton indices last ih =>
      simp only [List.flatMap_append, List.flatMap_singleton, ← List.append_assoc] at same
      obtain ⟨same, told⟩ := reads last same
      obtain ⟨fronts, earlier⟩ := ih same
      refine ⟨fronts, fun i listed => ?_⟩
      rcases List.mem_append.mp listed with before | here
      · exact earlier i before
      · rw [List.mem_singleton.mp here]
        exact told

/-- Lists whose entries are printed one after the other in the same width. -/
theorem injective_flatMap {width : Nat} (positive : 0 < width)
    (length : ∀ value, (print value).length = width) (injective : Function.Injective print) :
    Function.Injective fun values : List Value => values.flatMap print := by
  have longer (value : Value) (values : List Value) : ((value :: values).flatMap print) ≠ [] := by
    intro empty
    have printed := length value
    rw [(List.append_eq_nil_iff.mp empty).1, List.length_nil] at printed
    omega
  intro values
  induction values with
  | nil =>
      intro values' same
      cases values' with
      | nil => rfl
      | cons value' values' => exact absurd same.symm (longer value' values')
  | cons value values ih =>
      intro values' same
      cases values' with
      | nil => exact absurd same (longer value values)
      | cons value' values' =>
          obtain ⟨head, tail⟩ := List.append_inj same ((length value).trans (length value').symm)
          rw [injective head, ih tail]

/-- The digits of a number, padded with zeros to a width. -/
def padded (width value : Nat) : List Char :=
  let digits := (Nat.toDigits 16 value).map Char.toUpper
  List.replicate (width - digits.length) '0' ++ digits

/-- Leading zeros count for nothing. -/
theorem readDigits_zeros (count : Nat) (digits : List Char) :
    Numeral.readDigits 16 0 (List.replicate count '0' ++ digits) =
      Numeral.readDigits 16 0 digits := by
  induction count with
  | zero => rfl
  | succ count ih => exact ih

/-- A padded number is read back. -/
theorem readDigits_padded (width value : Nat) :
    Numeral.readDigits 16 0 (padded width value) = value := by
  rw [padded, readDigits_zeros]
  exact Numeral.readDigits_toDigits (by decide) Numeral.digitValue_upper value

/-- A number that fits is padded to the width. -/
theorem length_padded {width value : Nat} (positive : 0 < width) (small : value < 16 ^ width) :
    (padded width value).length = width := by
  have fits := (Nat.length_toDigits_le_iff (b := 16) (by decide) positive).mpr small
  simp only [padded, List.length_append, List.length_replicate, List.length_map]
  omega

/-- Words with up to four bits to the digit. -/
theorem length_word {width bits : Nat} (positive : 0 < width) (fits : bits ≤ 4 * width)
    (word : BitVec bits) : (padded width word.toNat).length = width := by
  apply length_padded positive
  calc word.toNat < 2 ^ bits := word.isLt
    _ ≤ 2 ^ (4 * width) := Nat.pow_le_pow_right (by decide) fits
    _ = 16 ^ width := Nat.pow_mul 2 4 width

/-- Words with one print are one. -/
theorem word_of_padded {width bits : Nat} {word word' : BitVec bits}
    (same : padded width word.toNat = padded width word'.toNat) : word = word' := by
  apply BitVec.eq_of_toNat_eq
  calc word.toNat = Numeral.readDigits 16 0 (padded width word.toNat) :=
        (readDigits_padded width word.toNat).symm
    _ = Numeral.readDigits 16 0 (padded width word'.toNat) := congrArg _ same
    _ = word'.toNat := readDigits_padded width word'.toNat

/-- **A padded word reads back.** -/
theorem hexadecimal_readsBack {width bits : Nat} (positive : 0 < width) (fits : bits ≤ 4 * width) :
    ReadsBack (fun word : BitVec bits => padded width word.toNat) fun word => word :=
  readsBack_of_length (length_word positive fits) fun _ _ => word_of_padded

/-- A padded number ends with a digit. -/
theorem padded_ends (width value : Nat) :
    ∃ front, ∃ digit < 16, padded width value = front ++ [digit.digitChar.toUpper] := by
  rw [padded, Nat.toDigits_eq_if (by decide)]
  split
  · rename_i small
    exact ⟨_, value, small, rfl⟩
  · simp only [List.map_append, List.map_singleton, ← List.append_assoc]
    exact ⟨_, value % 16, Nat.mod_lt _ (by decide), rfl⟩

end Readback
