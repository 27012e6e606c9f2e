import SevenFuzzer.Library.Run
import Mathlib.Order.WellFounded

/-! # Endless behaviours and fair scheduling

A behaviour goes on for ever: at each moment an event happens or nothing does. Each event
belongs to a thread or to none, and a scheduler is just if a thread that could move from
some moment on does move later. What a just scheduler brings about is shown by naming, in
each state, a thread that helps: it can move, it goes on helping until it does, and its move
lowers a rank that no other event raises (`Behaviour.eventually`). Where one kind of
event lowers a rank, every run has only so many of them
(`Run.count_add_rank_le`).
-/

namespace Transition

variable {State Event Thread Rank : Type*} {step : State → Event → Option State} {start : State}

/-- An infinite run that may also stand still. -/
structure Behaviour (step : State → Event → Option State) (start : State) where
  state : Nat → State
  event : Nat → Option Event
  initial : state 0 = start
  still : ∀ n, event n = none → state (n + 1) = state n
  moved : ∀ n e, event n = some e → step (state n) e = some (state (n + 1))

/-- A thread that can move. -/
def Enabled (thread : Event → Option Thread) (step : State → Event → Option State) (state : State)
    (t : Thread) : Prop :=
  ∃ event, thread event = some t ∧ (step state event).isSome = true

namespace Behaviour

/-- No thread could move from some moment on without ever moving. -/
def Just (behaviour : Behaviour step start) (thread : Event → Option Thread) : Prop :=
  ∀ t first, (∀ n, first ≤ n → Enabled thread step (behaviour.state n) t) →
    ∃ n event, first ≤ n ∧ behaviour.event n = some event ∧ thread event = some t

/-- Up to a moment, a behaviour is a run. -/
theorem run (behaviour : Behaviour step start) (n : Nat) :
    ∃ trace, Run step start trace (behaviour.state n) := by
  induction n with
  | zero =>
      rw [behaviour.initial]
      exact ⟨[], .nil⟩
  | succ n ih =>
      obtain ⟨trace, reached⟩ := ih
      cases happened : behaviour.event n with
      | none =>
          rw [behaviour.still n happened]
          exact ⟨trace, reached⟩
      | some event => exact ⟨_, reached.snoc (behaviour.moved n event happened)⟩

/-- What every step preserves that does not reach the goal holds from a moment on, if the goal
is never reached. -/
theorem preserved (behaviour : Behaviour step start) (kept goal : State → Prop)
    (each : ∀ state event next, kept state → step state event = some next →
      goal next ∨ kept next) {first : Nat} (holds : kept (behaviour.state first))
    (never : ¬ ∃ n, first ≤ n ∧ goal (behaviour.state n)) {n : Nat} (later : first ≤ n) :
    kept (behaviour.state n) := by
  induction n, later using Nat.le_induction with
  | base => exact holds
  | succ n later ih =>
      cases happened : behaviour.event n with
      | none =>
          rw [behaviour.still n happened]
          exact ih
      | some event =>
          rcases each _ event _ ih (behaviour.moved n event happened) with reached | still
          · exact absurd ⟨n + 1, later.trans (Nat.le_succ n), reached⟩ never
          · exact still

/-- **Progress under a just scheduler.** -/
theorem eventually [Preorder Rank] [WellFoundedLT Rank] (behaviour : Behaviour step start)
    {thread : Event → Option Thread} (just : behaviour.Just thread) (valid goal : State → Prop)
    (rank : State → Rank) (helpful : State → Thread → Prop) {first : Nat}
    (always : ∀ n, first ≤ n → valid (behaviour.state n))
    (helped : ∀ state, valid state → ¬ goal state → ∃ t, helpful state t)
    (enabled : ∀ state t, valid state → ¬ goal state → helpful state t →
      Enabled thread step state t)
    (progress : ∀ state event next t, valid state → valid next → ¬ goal state → helpful state t →
      step state event = some next → goal next ∨ rank next < rank state ∨
        (rank next = rank state ∧ helpful next t ∧ thread event ≠ some t)) :
    ∃ n, first ≤ n ∧ goal (behaviour.state n) := by
  induction ranked : rank (behaviour.state first) using WellFoundedLT.induction
    generalizing first with
  | ind r ih =>
      by_contra never
      have unmet (n : Nat) (later : first ≤ n) : ¬ goal (behaviour.state n) :=
        fun met => never ⟨n, later, met⟩
      have high (n : Nat) (later : first ≤ n) : ¬ rank (behaviour.state n) < r := by
        intro lower
        obtain ⟨m, after, met⟩ := ih _ lower (fun k follows => always k (later.trans follows)) rfl
        exact unmet m (later.trans after) met
      obtain ⟨t, helps⟩ := helped _ (always first le_rfl) (unmet first le_rfl)
      have waits (n : Nat) (later : first ≤ n) :
          rank (behaviour.state n) = r ∧ helpful (behaviour.state n) t := by
        induction n, later using Nat.le_induction with
        | base => exact ⟨ranked, helps⟩
        | succ n later before =>
            cases happened : behaviour.event n with
            | none =>
                rw [behaviour.still n happened]
                exact before
            | some event =>
                have after := later.trans (Nat.le_succ n)
                rcases progress _ event _ t (always n later) (always _ after) (unmet n later)
                  before.2 (behaviour.moved n event happened) with met | lower | ⟨same, helps', -⟩
                · exact absurd met (unmet _ after)
                · exact absurd (before.1 ▸ lower) (high _ after)
                · exact ⟨same.trans before.1, helps'⟩
      obtain ⟨n, event, later, happened, moves⟩ := just t first fun n later =>
        enabled _ t (always n later) (unmet n later) (waits n later).2
      have after := later.trans (Nat.le_succ n)
      rcases progress _ event _ t (always n later) (always _ after) (unmet n later)
        (waits n later).2 (behaviour.moved n event happened) with met | lower | ⟨-, -, other⟩
      · exact unmet _ after met
      · exact high _ after ((waits n later).1 ▸ lower)
      · exact other moves

/-- The event of a list at a moment, if it can happen then. -/
def following (step : State → Event → Option State) (events : List Event) (state : State)
    (n : Nat) : Option (Event × State) :=
  (events[n]?).bind fun event => (step state event).map fun next => (event, next)

/-- The state the events have led to; an event that is not possible is passed over. -/
def stateAfter (step : State → Event → Option State) (start : State) (events : List Event) :
    Nat → State
  | 0 => start
  | n + 1 =>
      let state := stateAfter step start events n
      ((following step events state n).map Prod.snd).getD state

/-- The behaviour that follows a list of events, without those that cannot happen. -/
def follow (step : State → Event → Option State) (start : State) (events : List Event) :
    Behaviour step start where
  state := stateAfter step start events
  event n := (following step events (stateAfter step start events n) n).map Prod.fst
  initial := by rw [stateAfter]
  still n none_ := by
    rw [stateAfter, Option.map_eq_none_iff.mp none_]
    rfl
  moved n event happened := by
    obtain ⟨⟨event', next⟩, followed, rfl⟩ := Option.map_eq_some_iff.mp happened
    obtain ⟨listed, _, moved⟩ := Option.bind_eq_some_iff.mp followed
    obtain ⟨next', stepped, same⟩ := Option.map_eq_some_iff.mp moved
    obtain ⟨rfl, rfl⟩ := Prod.mk.inj same
    rw [stateAfter, followed]
    exact stepped

/-- Once the events are used up, the state stays. -/
theorem stateAfter_of_length_le (events : List Event) {n : Nat} (past : events.length ≤ n) :
    stateAfter step start events n = stateAfter step start events events.length := by
  induction n, past using Nat.le_induction with
  | base => rfl
  | succ n past ih =>
      rw [stateAfter, following, List.getElem?_eq_none past]
      exact ih

/-- It is just if no thread can move at its end. -/
theorem just_follow {thread : Event → Option Thread} (events : List Event)
    (ended : ∀ t, ¬ Enabled thread step (stateAfter step start events events.length) t) :
    (follow step start events).Just thread := by
  intro t first waits
  have last := waits (max first events.length) (le_max_left _ _)
  have past : (follow step start events).state (max first events.length) =
      stateAfter step start events events.length :=
    stateAfter_of_length_le events (le_max_right _ _)
  exact absurd (past ▸ last) (ended t)

end Behaviour

/-- The events of a kind that lowers a rank nothing raises are at most as many as the rank. -/
theorem Run.count_add_rank_le (kind : Event → Bool) (rank : State → Nat)
    (lowered : ∀ state event next, step state event = some next →
      (if kind event then rank next < rank state else rank next ≤ rank state))
    {trace : List (State × Event)} {final : State} (run : Run step start trace final) :
    (trace.countP fun moment => kind moment.2) + rank final ≤ rank start := by
  induction run with
  | nil => simp
  | @snoc _ state event next _ moved ih =>
      have lower := lowered _ _ _ moved
      rw [List.countP_append, List.countP_singleton]
      cases counted : kind event
      · simp only [counted, Bool.false_eq_true, ↓reduceIte] at lower ⊢
        omega
      · simp only [counted, ↓reduceIte] at lower ⊢
        omega

end Transition
