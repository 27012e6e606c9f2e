import Mathlib.Data.List.Basic

/-! # Runs of a partial step function

A step function says what an event does in a state, or that the event cannot
happen there. A run is a finite sequence of events that all could happen; its
trace keeps each event together with the state it happened in, so that a
property of a whole run can speak about the moments of the run, and about the last
one of a kind (`lastMoment`). What every step preserves holds along every run
(`Run.history_invariant`), and a system that sees each step as one of its own, or as
nothing, sees a run as one of its own (`Run.seen`).
-/

namespace Transition

variable {State Event : Type*}

/-- A run from `start`: its trace, oldest moment first, and the state it ends in. -/
inductive Run (step : State → Event → Option State) (start : State) :
    List (State × Event) → State → Prop where
  | nil : Run step start [] start
  | snoc {trace : List (State × Event)} {state : State} {event : Event} {next : State} :
      Run step start trace state → step state event = some next →
        Run step start (trace ++ [(state, event)]) next

variable {step : State → Event → Option State} {start : State}
  {trace : List (State × Event)} {final : State}

namespace Run

/-- An invariant of the state and of the trace that led to it. -/
theorem history_invariant (invariant : List (State × Event) → State → Prop)
    (initial : invariant [] start)
    (preserved : ∀ trace state event next, invariant trace state →
      step state event = some next → invariant (trace ++ [(state, event)]) next)
    (run : Run step start trace final) : invariant trace final := by
  induction run with
  | nil => exact initial
  | snoc _ moved ih => exact preserved _ _ _ _ ih moved

/-- **The rule of a run**: what holds at the start and is kept by every step holds at the end. -/
theorem invariant (valid : State → Prop) (initial : valid start)
    (preserved : ∀ state event next, valid state → step state event = some next → valid next)
    (run : Run step start trace final) : valid final :=
  run.history_invariant (fun _ state => valid state) initial
    fun _ _ _ _ held moved => preserved _ _ _ held moved

/-- A run comes to a moment of its trace by what its trace has before it, and the event of
the moment could happen there. -/
theorem before {earlier later : List (State × Event)} {state : State} {event : Event}
    (run : Run step start (earlier ++ (state, event) :: later) final) :
    Run step start earlier state ∧ ∃ next, step state event = some next := by
  generalize whole : earlier ++ (state, event) :: later = trace at run
  induction run generalizing later with
  | nil => exact absurd whole (by simp)
  | @snoc _ _ _ next reached moved ih =>
      rcases List.eq_nil_or_concat later with rfl | ⟨later, last, rfl⟩
      · obtain ⟨rfl, same⟩ := List.append_inj' whole rfl
        obtain ⟨rfl, rfl⟩ := Prod.mk.inj (List.singleton_inj.mp same)
        exact ⟨reached, next, moved⟩
      · rw [List.concat_eq_append, ← List.cons_append, ← List.append_assoc] at whole
        exact ih (List.append_inj' whole rfl).1

/-- Every moment of a trace was reached by a run, and its event could happen. -/
theorem moment (run : Run step start trace final) {state : State} {event : Event}
    (member : (state, event) ∈ trace) :
    ∃ earlier next, Run step start earlier state ∧ earlier ⊆ trace ∧
      step state event = some next := by
  obtain ⟨earlier, later, rfl⟩ := List.append_of_mem member
  obtain ⟨reached, next, moved⟩ := run.before
  exact ⟨earlier, next, reached, List.subset_append_left _ _, moved⟩

/-- And it holds at every moment on the way. -/
theorem moment_invariant (valid : State → Prop) (initial : valid start)
    (preserved : ∀ state event next, valid state → step state event = some next → valid next)
    (run : Run step start trace final) {state : State} {event : Event}
    (member : (state, event) ∈ trace) : valid state := by
  obtain ⟨_, _, reached, _⟩ := run.moment member
  exact reached.invariant valid initial preserved

/-- What relates the states before and after each step relates every moment to the end. -/
theorem moment_related (rel : State → State → Prop)
    (trans : ∀ first second third, rel first second → rel second third → rel first third)
    (related : ∀ state event next, step state event = some next → rel state next)
    (run : Run step start trace final) {state : State} {event : Event}
    (member : (state, event) ∈ trace) : rel state final := by
  induction run with
  | nil => cases member
  | snoc _ moved ih =>
      rcases List.mem_append.mp member with inside | last
      · exact trans _ _ _ (ih inside) (related _ _ _ moved)
      · obtain ⟨rfl, rfl⟩ := Prod.mk.inj (List.mem_singleton.mp last)
        exact related _ _ _ moved

/-- What comes to hold during a run comes to hold at a moment of its trace. -/
theorem exists_change (reached : State → Prop) (initial : ¬ reached start)
    (run : Run step start trace final) (holds : reached final) :
    ∃ state event next, (state, event) ∈ trace ∧ step state event = some next ∧
      ¬ reached state ∧ reached next := by
  induction run with
  | nil => exact absurd holds initial
  | @snoc earlier state event next _ moved ih =>
      by_cases before : reached state
      · obtain ⟨state', event', next', member, moved', change⟩ := ih before
        exact ⟨state', event', next', List.mem_append_left _ member, moved', change⟩
      · exact ⟨state, event, next, List.mem_append_right _ (List.mem_singleton.mpr rfl), moved,
          before, holds⟩

/-- A step before a run. -/
theorem cons {event : Event} {middle : State} (moved : step start event = some middle)
    (run : Run step middle trace final) : Run step start ((start, event) :: trace) final := by
  induction run with
  | nil => exact .snoc .nil moved
  | snoc _ moved' ih => exact .snoc ih moved'

/-- Where each step is seen as a step of another system, or as nothing, a run is seen as a run
of that system. -/
theorem seen {State' Event' : Type*} {step' : State' → Event' → Option State'}
    (view : State → State')
    (simulated : ∀ state event next, step state event = some next →
      view next = view state ∨ ∃ event', step' (view state) event' = some (view next))
    (run : Run step start trace final) :
    ∃ trace', Run step' (view start) trace' (view final) := by
  induction run with
  | nil => exact ⟨[], .nil⟩
  | snoc _ moved ih =>
      obtain ⟨trace', reached⟩ := ih
      rcases simulated _ _ _ moved with same | ⟨event', moved'⟩
      · rw [same]
        exact ⟨trace', reached⟩
      · exact ⟨_, reached.snoc moved'⟩

end Run

/-- The state at the last event of a kind. -/
def lastMoment (kind : Event → Bool) (trace : List (State × Event)) : Option State :=
  trace.foldl (fun last moment => if kind moment.2 then some moment.1 else last) none

@[simp] theorem lastMoment_nil (kind : Event → Bool) :
    lastMoment kind ([] : List (State × Event)) = none := rfl

/-- The last moment of a kind, after one event more. -/
theorem lastMoment_snoc (kind : Event → Bool) (trace : List (State × Event)) (state : State)
    (event : Event) : lastMoment kind (trace ++ [(state, event)]) =
      if kind event then some state else lastMoment kind trace :=
  List.foldl_append

/-- Plays a list of events: the trace and the last state, if all of them can happen. -/
def play (step : State → Event → Option State) (start : State) :
    List Event → Option (List (State × Event) × State)
  | [] => some ([], start)
  | event :: events =>
      (step start event).bind fun middle =>
        (play step middle events).map fun played => ((start, event) :: played.1, played.2)

/-- Events that can be played are a run. -/
theorem Run.of_play (start : State) (events : List Event)
    (played : play step start events = some (trace, final)) : Run step start trace final := by
  induction events generalizing start trace with
  | nil =>
      obtain ⟨rfl, rfl⟩ := Prod.mk.inj (Option.some.inj played)
      exact .nil
  | cons event events ih =>
      obtain ⟨middle, moved, continued⟩ := Option.bind_eq_some_iff.mp played
      obtain ⟨⟨trace', final'⟩, rest, same⟩ := Option.map_eq_some_iff.mp continued
      obtain ⟨rfl, rfl⟩ := Prod.mk.inj same
      exact .cons moved (ih _ rest)

/-- A list of events whose play passes a check is a run that passes it. -/
theorem Run.exists_of_play {start : State} {events : List Event}
    {check : List (State × Event) × State → Bool}
    (passes : (play step start events).any check = true) :
    ∃ trace final, Run step start trace final ∧ check (trace, final) = true := by
  obtain ⟨⟨trace, final⟩, played, passed⟩ := (Option.any_eq_true _ _).mp passes
  exact ⟨trace, final, .of_play start events played, passed⟩

/-- A run that is played has the events it was played from. -/
theorem play_events (start : State) (events : List Event)
    (played : play step start events = some (trace, final)) : trace.map Prod.snd = events := by
  induction events generalizing start trace with
  | nil =>
      obtain ⟨rfl, -⟩ := Prod.mk.inj (Option.some.inj played)
      rfl
  | cons event events ih =>
      obtain ⟨middle, -, continued⟩ := Option.bind_eq_some_iff.mp played
      obtain ⟨⟨trace', final'⟩, rest, same⟩ := Option.map_eq_some_iff.mp continued
      obtain ⟨rfl, rfl⟩ := Prod.mk.inj same
      rw [List.map_cons, ih _ rest]

end Transition
