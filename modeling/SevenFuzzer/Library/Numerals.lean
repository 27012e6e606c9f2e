import Mathlib.Data.BitVec

/-! # Numerals

Reading an unsigned number from the front of a text as the C library does: blanks, a
sign, a prefix where the base is left open, and as many digits as there are, with
saturation at the width. What is printed in decimal, or in hexadecimal with its prefix,
reads back (`strtoul_decimal`, `strtoul_hexadecimal`).
-/

namespace Numeral

/-- The value of a digit or letter. -/
def digitValue (c : Char) : Option Nat :=
  if '0'.toNat ≤ c.toNat ∧ c.toNat ≤ '9'.toNat then some (c.toNat - '0'.toNat)
  else if 'a'.toNat ≤ c.toNat ∧ c.toNat ≤ 'z'.toNat then some (c.toNat - 'a'.toNat + 10)
  else if 'A'.toNat ≤ c.toNat ∧ c.toNat ≤ 'Z'.toNat then some (c.toNat - 'A'.toNat + 10)
  else none

/-- Takes digits of a base from the front of a text, after what has been read. -/
def readDigits (base : Nat) : Nat → List Char → Nat
  | value, [] => value
  | value, c :: text =>
      match digitValue c with
      | some digit => if digit < base then readDigits base (base * value + digit) text else value
      | none => value

/-- What may stand before a number. -/
def isSpace (c : Char) : Bool := c = ' ' ∨ (9 ≤ c.toNat ∧ c.toNat ≤ 13)

/-- An optional sign. -/
def readSign : List Char → Bool × List Char
  | '-' :: text => (true, text)
  | '+' :: text => (false, text)
  | text => (false, text)

/-- The base of a number; zero leaves it to the prefix. -/
def readBase : Nat → List Char → Nat × List Char
  | 0, '0' :: 'x' :: text | 0, '0' :: 'X' :: text => (16, text)
  | 0, '0' :: text => (8, text)
  | 0, text => (10, text)
  | base, text => (base, text)

/-- The number at the start of a text: it saturates at the width, and a minus sign negates what was
read. -/
def strtoul (width base : Nat) (text : List Char) : BitVec width :=
  let (negative, text) := readSign (text.dropWhile isSpace)
  let (base, text) := readBase base text
  let value := readDigits base 0 text
  if 2 ^ width ≤ value then BitVec.allOnes width
  else if negative then -BitVec.ofNat width value
  else BitVec.ofNat width value

/-- Reading goes on where the digits so far have led. -/
theorem readDigits_append {base : Nat} (value : Nat) {digits : List Char} (text : List Char)
    (known : ∀ c ∈ digits, ∃ digit < base, digitValue c = some digit) :
    readDigits base value (digits ++ text) =
      readDigits base (readDigits base value digits) text := by
  induction digits generalizing value with
  | nil => rfl
  | cons c digits ih =>
      obtain ⟨digit, small, read⟩ := known c List.mem_cons_self
      simp only [List.cons_append, readDigits, read, if_pos small]
      exact ih _ fun c' listed => known c' (List.mem_cons_of_mem _ listed)

section

variable {base : Nat} {letter : Char → Char}

/-- Every printed digit is one of the base. -/
theorem digits_of_toDigits (several : 1 < base)
    (shown : ∀ digit < base, digitValue (letter digit.digitChar) = some digit) (n : Nat) :
    ∀ c ∈ (Nat.toDigits base n).map letter, ∃ digit < base, digitValue c = some digit := by
  induction n using Nat.base_induction base several with
  | single n small =>
      rw [Nat.toDigits_of_lt_base small]
      intro c listed
      obtain rfl := List.mem_singleton.mp listed
      exact ⟨n, small, shown n small⟩
  | digit m k small positive ih =>
      rw [← Nat.toDigits_append_toDigits several positive small, List.map_append,
        Nat.toDigits_of_lt_base small]
      intro c listed
      rcases List.mem_append.mp listed with earlier | last
      · exact ih c earlier
      · obtain rfl := List.mem_singleton.mp last
        exact ⟨k, small, shown k small⟩

/-- **The digits of a number** are read back as the number. -/
theorem readDigits_toDigits (several : 1 < base)
    (shown : ∀ digit < base, digitValue (letter digit.digitChar) = some digit) (n : Nat) :
    readDigits base 0 ((Nat.toDigits base n).map letter) = n := by
  induction n using Nat.base_induction base several with
  | single n small =>
      rw [Nat.toDigits_of_lt_base small]
      simp only [List.map_cons, List.map_nil, readDigits, shown n small, if_pos small]
      omega
  | digit m k small positive ih =>
      rw [← Nat.toDigits_append_toDigits several positive small, List.map_append,
        readDigits_append _ _ (digits_of_toDigits several shown m), ih,
        Nat.toDigits_of_lt_base small]
      simp only [List.map_cons, List.map_nil, readDigits, shown k small, if_pos small]

end

/-- The decimal digits. -/
theorem digitValue_digitChar : ∀ digit < 10, digitValue (id digit.digitChar) = some digit := by
  decide

/-- The hexadecimal digits, in upper case. -/
theorem digitValue_upper : ∀ digit < 16, digitValue digit.digitChar.toUpper = some digit := by
  decide

/-- Blanks and signs come before the digits in the code table. -/
theorem digit_above {c : Char} {digit : Nat} (read : digitValue c = some digit) :
    '0'.toNat ≤ c.toNat := by
  unfold digitValue at read
  have order : '0'.toNat ≤ 'A'.toNat ∧ 'A'.toNat ≤ 'a'.toNat := by decide
  split at read
  · omega
  split at read
  · omega
  split at read
  · omega
  · cases read

/-- A digit is no sign and no blank. -/
theorem readSign_digit {c : Char} {digit : Nat} (read : digitValue c = some digit)
    (text : List Char) : readSign ((c :: text).dropWhile isSpace) = (false, c :: text) := by
  have above : 48 ≤ c.toNat := digit_above read
  have solid : isSpace c = false := by
    simp only [isSpace, decide_eq_false_iff_not, not_or, not_and]
    refine ⟨fun same => ?_, fun _ => by omega⟩
    rw [same] at above
    revert above
    decide
  rw [List.dropWhile_cons, solid, if_neg Bool.false_ne_true]
  unfold readSign
  split
  · rename_i same
    exact absurd (List.cons.inj same).1 fun minus => by simp [minus] at above
  · rename_i same
    exact absurd (List.cons.inj same).1 fun plus => by simp [plus] at above
  · rfl

/-- A word's digits are read back, in whatever base the prefix says. -/
theorem strtoul_digits {width base : Nat} (word : BitVec width) {c : Char} {digit : Nat}
    {text rest : List Char} {base' : Nat} (read : digitValue c = some digit)
    (prefix_ : readBase base (c :: text) = (base', rest))
    (value : readDigits base' 0 rest = word.toNat) : strtoul width base (c :: text) = word := by
  have small : ¬ 2 ^ width ≤ word.toNat := Nat.not_le.mpr word.isLt
  simp only [strtoul, readSign_digit read, prefix_, value, if_neg small, Bool.false_eq_true,
    ↓reduceIte]
  rw [BitVec.ofNat_toNat, BitVec.setWidth_eq]

/-- A decimal print is read back. -/
theorem strtoul_decimal {width : Nat} (word : BitVec width) :
    strtoul width 10 (Nat.toDigits 10 word.toNat) = word := by
  have several : 1 < 10 := by decide
  have known := digits_of_toDigits several digitValue_digitChar word.toNat
  have value := readDigits_toDigits several digitValue_digitChar word.toNat
  rw [List.map_id] at known value
  cases digits : Nat.toDigits 10 word.toNat with
  | nil => exact absurd digits Nat.toDigits_ne_nil
  | cons c text =>
      rw [digits] at known value
      obtain ⟨digit, -, read⟩ := known c List.mem_cons_self
      exact strtoul_digits word read rfl value

/-- So is a hexadecimal one with its prefix. -/
theorem strtoul_hexadecimal {width : Nat} (word : BitVec width) :
    strtoul width 0 ('0' :: 'x' :: (Nat.toDigits 16 word.toNat).map Char.toUpper) = word :=
  strtoul_digits word (show digitValue '0' = some 0 by decide) rfl
    (readDigits_toDigits (by decide) digitValue_upper word.toNat)

end Numeral
