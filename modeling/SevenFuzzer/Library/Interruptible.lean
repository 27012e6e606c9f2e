import Mathlib.Logic.Function.Iterate

/-! # Loops that can be interrupted

A counted loop that may also end early. It can be run to its end, or one round at a time
where each time either the loop goes on at the same place or is left. The first is the
second as often as needed (`Interruptible.run_eq_iterate`), and once if at most one round
is counted (`Interruptible.run_eq_step`).
-/

/-- A loop that counts its rounds down. -/
structure Interruptible (State : Type) where
  count : State → Nat
  round : State → State
  /-- after a round, whether another may follow -/
  again : State → Bool
  leave : State → State
  counts : ∀ state, count state ≠ 0 → count (round state) + 1 = count state

namespace Interruptible

variable {State : Type} (loop : Interruptible State)

/-- Another round follows. -/
def goesOn (state : State) : Bool := loop.count state ≠ 0 && loop.again state

/-- One round, if one is left, with the loop left behind it if it was the last. -/
def step (state : State) : State :=
  if loop.count state = 0 then loop.leave state
  else if loop.goesOn (loop.round state) then loop.round state
  else loop.leave (loop.round state)

/-- The rounds that are left, until the loop is interrupted. -/
def runFrom : Nat → State → State
  | 0, state => loop.leave state
  | rounds + 1, state =>
      if loop.goesOn (loop.round state) then runFrom rounds (loop.round state)
      else loop.leave (loop.round state)

/-- The whole loop. -/
def run (state : State) : State := loop.runFrom (loop.count state) state

/-- **Interruption.** The whole loop is as many steps as it takes, of which there are no more
than rounds counted, but at least one. -/
theorem run_eq_iterate (state : State) :
    ∃ steps, steps + 1 ≤ max 1 (loop.count state) ∧
      loop.run state = loop.step^[steps + 1] state := by
  suffices counting : ∀ rounds state, loop.count state = rounds → ∃ steps,
      steps + 1 ≤ max 1 rounds ∧ loop.runFrom rounds state = loop.step^[steps + 1] state from
    counting _ state rfl
  intro rounds
  induction rounds with
  | zero =>
      intro state empty
      refine ⟨0, Nat.le_max_left .., ?_⟩
      rw [runFrom, Function.iterate_one, step, if_pos empty]
  | succ rounds ih =>
      intro state counted
      have left : loop.count state ≠ 0 := by omega
      have fewer := loop.counts state left
      cases goesOn : loop.goesOn (loop.round state) with
      | false =>
          refine ⟨0, Nat.le_max_left .., ?_⟩
          simp only [runFrom, Nat.zero_add, Function.iterate_one, step, if_neg left, goesOn,
            Bool.false_eq_true, ↓reduceIte]
      | true =>
          obtain ⟨steps, bounded, same⟩ := ih (loop.round state) (by omega)
          have stepped : loop.step state = loop.round state := by
            rw [step, if_neg left, if_pos goesOn]
          have more : rounds ≠ 0 := by
            simp only [Interruptible.goesOn, Bool.and_eq_true, decide_eq_true_eq] at goesOn
            omega
          refine ⟨steps + 1, by omega, ?_⟩
          rw [runFrom, if_pos goesOn, same, Function.iterate_succ_apply loop.step (steps + 1),
            stepped]

/-- A loop with at most one round is one step. -/
theorem run_eq_step {state : State} (once : loop.count state ≤ 1) :
    loop.run state = loop.step state := by
  obtain ⟨steps, bounded, same⟩ := loop.run_eq_iterate state
  obtain rfl : steps = 0 := by omega
  exact same

end Interruptible
