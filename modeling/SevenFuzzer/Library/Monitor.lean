import Mathlib.Data.List.Basic

/-! # Monitors of histories

A monitor reads the events of a history one by one, keeps what it needs of the past,
and says of each event whether it fits. It accepts a history when every event fits
the past before it, which it decides while it reads (`Monitor.accepts_iff_acceptsFrom`).
-/

/-- An automaton that follows a history and says of each event whether it fits. -/
structure Monitor (State Event : Type) where
  start : State
  post : State → Event → State
  fits : State → Event → Bool

namespace Monitor

variable {State Event : Type} {monitor : Monitor State Event} {state : State}
  {history events : List Event}

/-- What the monitor has kept of a history. -/
def reach (monitor : Monitor State Event) (history : List Event) : State :=
  history.foldl monitor.post monitor.start

/-- Every event fitted where it came. -/
def Accepts (monitor : Monitor State Event) (history : List Event) : Prop :=
  ∀ before event after, history = before ++ event :: after →
    monitor.fits (monitor.reach before) event = true

/-- The same, read event by event. -/
def acceptsFrom (monitor : Monitor State Event) : State → List Event → Bool
  | _, [] => true
  | state, event :: events =>
      monitor.fits state event && monitor.acceptsFrom (monitor.post state event) events

/-- The state after more events. -/
theorem reach_append :
    monitor.reach (history ++ events) = events.foldl monitor.post (monitor.reach history) :=
  List.foldl_append

/-- The state after one event more. -/
theorem reach_snoc {event : Event} :
    monitor.reach (history ++ [event]) = monitor.post (monitor.reach history) event :=
  reach_append

/-- Nothing to judge. -/
theorem accepts_nil : monitor.Accepts [] := fun before _ _ split =>
  absurd (congrArg List.length split) (by simp)

/-- One event more: the history so far is accepted, and the event fits it. -/
theorem accepts_snoc {event : Event} : monitor.Accepts (history ++ [event]) ↔
    monitor.Accepts history ∧ monitor.fits (monitor.reach history) event = true := by
  constructor
  · intro accepted
    refine ⟨fun before earlier after split => ?_, accepted history event [] rfl⟩
    exact accepted before earlier (after ++ [event]) (by rw [split, List.append_assoc]; rfl)
  · rintro ⟨accepted, fits⟩ before last after split
    rcases List.eq_nil_or_concat after with rfl | ⟨after, final, rfl⟩
    · obtain ⟨rfl, same⟩ := List.append_inj' split rfl
      obtain rfl := List.singleton_inj.mp same
      exact fits
    · refine accepted before last after ?_
      rw [List.concat_eq_append, ← List.cons_append, ← List.append_assoc] at split
      exact (List.append_inj' split rfl).1

/-- What was accepted so far, and then the rest from the state reached. -/
theorem accepts_append : monitor.Accepts (history ++ events) ↔
    monitor.Accepts history ∧ monitor.acceptsFrom (monitor.reach history) events = true := by
  induction events generalizing history with
  | nil => simp [acceptsFrom]
  | cons event events ih =>
      rw [List.append_cons, ih, accepts_snoc, reach_snoc, acceptsFrom, Bool.and_eq_true, and_assoc]

/-- What is accepted was accepted all along. -/
theorem Accepts.of_prefix (accepted : monitor.Accepts events) (before : history <+: events) :
    monitor.Accepts history := by
  obtain ⟨rest, rfl⟩ := before
  exact (accepts_append.mp accepted).1

/-- **Acceptance can be computed.** -/
theorem accepts_iff_acceptsFrom :
    monitor.Accepts history ↔ monitor.acceptsFrom monitor.start history = true := by
  have whole : monitor.Accepts ([] ++ history) ↔ _ := accepts_append
  rwa [List.nil_append, and_iff_right accepts_nil] at whole

instance : Decidable (monitor.Accepts history) :=
  decidable_of_iff _ accepts_iff_acceptsFrom.symm

/-- Events that the monitor passes over. -/
def Ignores (monitor : Monitor State Event) (event : Event) : Prop :=
  ∀ state, monitor.post state event = state ∧ monitor.fits state event = true

/-- Events that are ignored do not change the state. -/
theorem reach_ignored (ignored : ∀ event ∈ events, monitor.Ignores event) :
    monitor.reach (history ++ events) = monitor.reach history := by
  induction events generalizing history with
  | nil => rw [List.append_nil]
  | cons event events ih =>
      rw [List.forall_mem_cons] at ignored
      rw [List.append_cons, ih ignored.2, reach_snoc, (ignored.1 _).1]

/-- Nor are they judged. -/
theorem accepts_ignored (ignored : ∀ event ∈ events, monitor.Ignores event) :
    monitor.Accepts (history ++ events) ↔ monitor.Accepts history := by
  induction events generalizing history with
  | nil => rw [List.append_nil]
  | cons event events ih =>
      rw [List.forall_mem_cons] at ignored
      rw [List.append_cons, ih ignored.2, accepts_snoc, and_iff_left (ignored.1 _).2]

end Monitor
