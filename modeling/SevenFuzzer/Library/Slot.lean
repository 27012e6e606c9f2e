import Mathlib.Order.Basic

/-! # A place that is cleared, filled and emptied

Round after round a place may be cleared, a value may be put over what is there, and what is there
may be taken away. A round finds a value if it was put there, and no round from then on has taken,
cleared or covered it (`Slot.offered_eq_some_iff`).
-/

/-- What one round does, in this order. -/
structure Slot (Value : Type) where
  clears : Bool
  fills : Option Value
  takes : Bool

namespace Slot

variable {Value : Type}

/-- What there is to take in a round. -/
def offers (slot : Slot Value) (held : Option Value) : Option Value :=
  slot.fills.or (if slot.clears then none else held)

/-- What a round leaves. -/
def leaves (slot : Slot Value) (held : Option Value) : Option Value :=
  if slot.takes then none else slot.offers held

/-- A round neither clears the place nor puts anything over what is there. -/
def Spares (slot : Slot Value) : Prop := slot.clears = false ∧ slot.fills = none

/-- A round offers what it fills in, or what it spares. -/
theorem offers_eq_some_iff {slot : Slot Value} {held : Option Value} {value : Value} :
    slot.offers held = some value ↔
      slot.fills = some value ∨ slot.Spares ∧ held = some value := by
  rw [offers, Spares, Option.or_eq_some_iff]
  cases slot.clears with
  | false => simp only [Bool.false_eq_true, ↓reduceIte, true_and]
  | true => simp only [↓reduceIte, reduceCtorEq, and_false, false_and]

variable (rounds : Nat → Slot Value) (initial : Option Value)

/-- What is in the place after some rounds. -/
def held : Nat → Option Value
  | 0 => initial
  | n + 1 => (rounds n).leaves (held n)

/-- What there is to take in the round with a number. -/
def offered (n : Nat) : Option Value := (rounds n).offers (held rounds initial n)

/-- What one round can take is left until another. -/
def Carries (k n : Nat) : Prop :=
  ∀ l, k ≤ l → l < n → (rounds l).takes = false ∧ (rounds (l + 1)).Spares

variable {rounds initial} {k n : Nat} {value : Value}

/-- Nothing has to be carried over no rounds. -/
theorem carries_self (n : Nat) : Carries rounds n n :=
  fun _ from_ below => absurd below (Nat.not_lt.mpr from_)

/-- One round more. -/
theorem carries_succ (earlier : k ≤ n) :
    Carries rounds k (n + 1) ↔
      Carries rounds k n ∧ (rounds n).takes = false ∧ (rounds (n + 1)).Spares := by
  constructor
  · intro carries
    exact ⟨fun l from_ below => carries l from_ (Nat.lt_succ_of_lt below),
      carries n earlier n.lt_succ_self⟩
  · rintro ⟨carries, last⟩ l from_ below
    rcases Nat.lt_succ_iff_lt_or_eq.mp below with before | rfl
    · exact carries l from_ before
    · exact last

/-- What one round more offers. -/
theorem offered_succ :
    offered rounds initial (n + 1) = some value ↔
      (rounds (n + 1)).fills = some value ∨ (rounds (n + 1)).Spares ∧
        (rounds n).takes = false ∧ offered rounds initial n = some value := by
  rw [offered, offers_eq_some_iff, held, leaves, Option.ite_none_left_eq_some, Bool.not_eq_true,
    offered]

/-- **What a round finds.** It was put there in this round or in an earlier one, or was there
from the first, and has been carried until now. -/
theorem offered_eq_some_iff :
    offered rounds initial n = some value ↔
      (∃ k ≤ n, (rounds k).fills = some value ∧ Carries rounds k n) ∨
        initial = some value ∧ (rounds 0).Spares ∧ Carries rounds 0 n := by
  induction n with
  | zero =>
      rw [offered, offers_eq_some_iff, held]
      constructor
      · rintro (filled | ⟨spares, was⟩)
        · exact .inl ⟨0, Nat.le_refl 0, filled, carries_self 0⟩
        · exact .inr ⟨was, spares, carries_self 0⟩
      · rintro (⟨k, first, filled, -⟩ | ⟨was, spares, -⟩)
        · obtain rfl := Nat.le_zero.mp first
          exact .inl filled
        · exact .inr ⟨spares, was⟩
  | succ n ih =>
      rw [offered_succ, ih]
      constructor
      · rintro (filled | ⟨spares, kept, ⟨k, earlier, filled, carries⟩ | ⟨was, first, carries⟩⟩)
        · exact .inl ⟨n + 1, Nat.le_refl _, filled, carries_self _⟩
        · exact .inl ⟨k, Nat.le_succ_of_le earlier, filled,
            (carries_succ earlier).mpr ⟨carries, kept, spares⟩⟩
        · exact .inr ⟨was, first, (carries_succ n.zero_le).mpr ⟨carries, kept, spares⟩⟩
      · rintro (⟨k, earlier, filled, carries⟩ | ⟨was, first, carries⟩)
        · rcases Nat.lt_or_eq_of_le earlier with before | rfl
          · have before := Nat.le_of_lt_succ before
            obtain ⟨carries, kept, spares⟩ := (carries_succ before).mp carries
            exact .inr ⟨spares, kept, .inl ⟨k, before, filled, carries⟩⟩
          · exact .inl filled
        · obtain ⟨carries, kept, spares⟩ := (carries_succ n.zero_le).mp carries
          exact .inr ⟨spares, kept, .inr ⟨was, first, carries⟩⟩

end Slot
