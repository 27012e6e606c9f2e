import Mathlib.Data.BitVec
import Mathlib.Data.List.FinRange
import Mathlib.Data.Fintype.Basic
import Mathlib.Data.Nat.Digits.Defs

/-! # Words joined from bytes

A word is built from the bytes of its memory image, lowest first, by shifting each into
place. `Words.getLsbD_join` says where each of its bits comes from, and
`Words.getLsbD_fill` the same of cells of any size; the bytes of a number give it back
(`Words.ofDigits_bytes`). An array that is filled slot by slot ends as the function it was
filled from (`Words.foldl_update`).
-/

namespace Words

/-- The word of `count` bytes, low byte first. -/
def join (width count : Nat) (bytes : Nat → BitVec 8) : BitVec width :=
  (List.range count).foldl (fun word i => word ||| ((bytes i).setWidth width <<< (i * 8))) 0

/-- A single bit, tested by shift and mask. -/
theorem and_one_eq_zero_iff {width : Nat} (wide : 0 < width) (word : BitVec width) (i : Nat) :
    (word >>> i) &&& BitVec.ofNat width 1 = BitVec.ofNat width 0 ↔ word.getLsbD i = false := by
  have bit : (word >>> i) &&& BitVec.ofNat width 1 =
      if word.getLsbD i then BitVec.ofNat width 1 else BitVec.ofNat width 0 := by
    rw [BitVec.and_one_eq_setWidth_ofBool_getLsbD, BitVec.getLsbD_ushiftRight, Nat.add_zero]
    cases word.getLsbD i
    · simp
    · exact BitVec.eq_of_toNat_eq (by simp)
  have differ : BitVec.ofNat width 1 ≠ BitVec.ofNat width 0 := by simpa using wide.ne'
  rw [bit]
  cases word.getLsbD i <;> simp [differ]

/-- A word that is filled with cells of a few bits each, side by side. -/
def fill {width : Nat} (size count : Nat) (cells : Nat → BitVec width) : BitVec width :=
  (List.range count).foldl (fun word i => word ||| (cells i <<< (i * size))) 0

/-- One cell more. -/
theorem fill_succ {width : Nat} (size count : Nat) (cells : Nat → BitVec width) :
    fill size (count + 1) cells = fill size count cells ||| (cells count <<< (count * size)) := by
  rw [fill, List.range_succ, List.foldl_append]
  rfl

/-- Cells that have no bit above their size do not reach into each other. -/
theorem getLsbD_fill {width size count : Nat} (fits : count * size ≤ width)
    {cells : Nat → BitVec width} (narrow : ∀ i bit, size ≤ bit → (cells i).getLsbD bit = false)
    (bit : Nat) : (fill size count cells).getLsbD bit =
      (decide (bit < count * size) && (cells (bit / size)).getLsbD (bit % size)) := by
  induction count with
  | zero => simp [fill]
  | succ count ih =>
      have wider : (count + 1) * size = count * size + size := Nat.succ_mul ..
      rw [wider] at fits ⊢
      rw [fill_succ, BitVec.getLsbD_or, ih (by omega), BitVec.getLsbD_shiftLeft]
      rcases Nat.lt_or_ge bit (count * size) with lower | upper
      · simp [lower, Nat.lt_add_right]
      rcases Nat.lt_or_ge bit (count * size + size) with here | above
      · have slot : bit / size = count := Nat.div_eq_of_lt_le upper (wider ▸ here)
        have place : bit - count * size = bit % size := by
          rw [← slot, Nat.mod_eq_sub_div_mul]
        simp [upper.not_gt, here, show bit < width by omega, slot, place]
      · have beyond := narrow count (bit - count * size) (by omega)
        simp [upper.not_gt, above.not_gt, beyond]

/-- A bit of the word is a bit of its byte. -/
theorem getLsbD_join {width count : Nat} (fits : count * 8 ≤ width) (bytes : Nat → BitVec 8)
    (bit : Nat) : (join width count bytes).getLsbD bit =
      (decide (bit < count * 8) && (bytes (bit / 8)).getLsbD (bit % 8)) := by
  have filled : join width count bytes = fill 8 count fun i => (bytes i).setWidth width := rfl
  rw [filled, getLsbD_fill fits fun i bit wide => by simp [BitVec.getLsbD_of_ge _ _ wide],
    BitVec.getLsbD_setWidth]
  rcases Nat.lt_or_ge bit (count * 8) with inside | outside
  · have within : bit % 8 < width := by omega
    simp [inside, within]
  · simp [outside.not_gt]

/-- A word depends on its bytes only. -/
theorem join_congr {width count : Nat} {bytes bytes' : Nat → BitVec 8}
    (same : ∀ i < count, bytes i = bytes' i) :
    join width count bytes = join width count bytes' := by
  refine List.foldl_ext _ _ _ fun word i listed => ?_
  rw [same i (List.mem_range.mp listed)]

/-- The lowest digits of a number hold what it leaves when divided by their number. -/
theorem ofDigits_range (base value count : Nat) :
    Nat.ofDigits base ((List.range count).map fun i => value / base ^ i % base) =
      value % base ^ count := by
  induction count with
  | zero => simp [Nat.mod_one]
  | succ count ih =>
      rw [List.range_succ, List.map_append, Nat.ofDigits_append, ih, List.map_singleton,
        Nat.ofDigits_singleton, List.length_map, List.length_range, Nat.mod_pow_succ]

/-- Bytes that are those of a number, read as one. -/
theorem ofDigits_bytes {bytes : Nat → BitVec 8} {value count : Nat}
    (held : ∀ i < count, (bytes i).toNat = value / 2 ^ (8 * i) % 256) :
    Nat.ofDigits 256 ((List.range count).map fun i => (bytes i).toNat) =
      value % 2 ^ (8 * count) := by
  have digits : (List.range count).map (fun i => (bytes i).toNat) =
      (List.range count).map fun i => value / 256 ^ i % 256 := by
    refine List.map_congr_left fun i listed => ?_
    rw [held i (List.mem_range.mp listed), Nat.pow_mul]
  rw [digits, ofDigits_range, Nat.pow_mul]

/-- Updating each place once gives each place its value. -/
theorem foldl_update_apply {size : Nat} {Slot Value : Type} [DecidableEq Slot]
    {place : Fin size → Slot} (injective : Function.Injective place) (values : Fin size → Value)
    {slots : List (Fin size)} (start : Slot → Value) (i : Fin size) :
    slots.foldl (fun array i => Function.update array (place i) (values i)) start (place i) =
      if i ∈ slots then values i else start (place i) := by
  induction slots generalizing start with
  | nil => simp
  | cons slot slots ih =>
      rw [List.foldl_cons, ih]
      by_cases same : i = slot
      · subst same
        simp
      · simp [same, Function.update_of_ne (injective.ne same)]

/-- Every slot has been filled. -/
theorem foldl_update {size : Nat} {Slot Value : Type} [DecidableEq Slot] {place : Fin size → Slot}
    (injective : Function.Injective place) (values : Fin size → Value) (start : Slot → Value)
    (i : Fin size) :
    (List.finRange size).foldl (fun array i => Function.update array (place i) (values i)) start
      (place i) = values i := by
  rw [foldl_update_apply injective, if_pos (List.mem_finRange i)]

end Words
