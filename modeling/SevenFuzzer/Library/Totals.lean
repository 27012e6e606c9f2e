import Mathlib.Algebra.BigOperators.Fin
import Mathlib.Algebra.Order.BigOperators.Group.Finset
import Mathlib.Data.BitVec

/-! # Totals of many accounts

A total is kept beside the accounts it is the sum of, and one account moves at a time. The
total is right after the move if the move is balanced (`Totals.sum_of_balanced`). An amount
is split evenly when every account has its share and the first ones one more for the rest
(`Totals.sum_share`).
-/

namespace Totals

variable {Account Amount : Type*} [Fintype Account] [DecidableEq Account]

/-- One account changed. -/
theorem sum_update [AddCommMonoid Amount] (amounts : Account → Amount) (account : Account)
    (amount : Amount) :
    (∑ a, Function.update amounts account amount a) + amounts account =
      (∑ a, amounts a) + amount := by
  have member := Finset.mem_univ account
  rw [Finset.sum_update_of_mem member, ← Finset.add_sum_erase Finset.univ amounts member,
    Finset.sdiff_singleton_eq_erase]
  ac_rfl

/-- The total after a move in which it changes as the account does. -/
theorem sum_of_balanced [AddCancelCommMonoid Amount] {amounts : Account → Amount}
    {account : Account} {amount total total' : Amount} (kept : total = ∑ a, amounts a)
    (balanced : total' + amounts account = total + amount) :
    total' = ∑ a, Function.update amounts account amount a := by
  refine add_right_cancel (?_ : total' + amounts account = _)
  rw [balanced, kept, sum_update]

/-- The accounts that get one more are as many as the rest. -/
theorem sum_share {count : Nat} (some_ : 0 < count) (amount : Nat) :
    ∑ a : Fin count, (amount / count + if a.val < amount % count then 1 else 0) = amount := by
  have rest := Nat.mod_lt amount some_
  have first : (Finset.range count).filter (· < amount % count) =
      Finset.range (amount % count) := by
    ext a
    simp only [Finset.mem_filter, Finset.mem_range]
    omega
  have more : ∑ a : Fin count, (if a.val < amount % count then 1 else 0) = amount % count := by
    rw [Fin.sum_univ_eq_sum_range (fun a => if a < amount % count then 1 else 0), Finset.sum_boole,
      first, Finset.card_range, Nat.cast_id]
  rw [Finset.sum_add_distrib, more, Finset.sum_const, Finset.card_univ, Fintype.card_fin,
    smul_eq_mul]
  exact Nat.div_add_mod amount count

/-- What is counted in a list of accounts is counted among the accounts. -/
theorem countP_ofFn {count : Nat} {Entry : Type*} (entries : Fin count → Entry)
    (counted : Entry → Bool) :
    (List.ofFn entries).countP counted =
      (Finset.univ.filter fun a => counted (entries a) = true).card := by
  rw [Finset.card_filter]
  induction count with
  | zero => rfl
  | succ count ih =>
      rw [List.ofFn_succ, List.countP_cons, ih, Fin.sum_univ_succ, Nat.add_comm]

/-- A total of words is that of their values, in the range of the words. -/
theorem toNat_sum {width count : Nat} (words : Fin count → BitVec width) :
    (∑ i, words i).toNat = (∑ i, (words i).toNat) % 2 ^ width := by
  induction count with
  | zero => rfl
  | succ count ih =>
      rw [Fin.sum_univ_succ, Fin.sum_univ_succ, BitVec.toNat_add, ih, Nat.add_mod_mod]

end Totals
