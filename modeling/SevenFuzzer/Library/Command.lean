import Mathlib.Logic.Basic

/-! # Weakest preconditions of commands

A command works on a state and ends with a value, or early with an error; either
way it keeps what it has done to the state. `wp prog good bad` holds in a state
from which `prog` ends well in `good` or early in `bad`. The rules take a command
apart as it is written: each is an equivalence, so a specification obtained with
them loses nothing.
-/

namespace Command

variable {Error State Value Value' : Type}

/-- The weakest precondition: the program's outcome meets `good` when it returns and `bad` when it
throws. -/
def wp (prog : EStateM Error State Value) (good : Value → State → Prop)
    (bad : Error → State → Prop) (state : State) : Prop :=
  match prog state with
  | .ok value next => good value next
  | .error error next => bad error next

variable {good : Value → State → Prop} {bad : Error → State → Prop} {state : State}

/-- The outcome of a program that returns. -/
theorem wp_of_ok {prog : EStateM Error State Value} {value : Value} {next : State}
    (ended : prog state = .ok value next) : wp prog good bad state ↔ good value next := by
  rw [wp, ended]

/-- The outcome of a program that throws. -/
theorem wp_of_error {prog : EStateM Error State Value} {error : Error} {next : State}
    (ended : prog state = .error error next) : wp prog good bad state ↔ bad error next := by
  rw [wp, ended]

@[simp] theorem wp_pure (value : Value) :
    wp (pure value : EStateM Error State Value) good bad state ↔ good value state := Iff.rfl

@[simp] theorem wp_bind (prog : EStateM Error State Value')
    (next : Value' → EStateM Error State Value) :
    wp (prog >>= next) good bad state ↔
      wp prog (fun value => wp (next value) good bad) bad state := by
  cases ended : prog state with
  | ok value middle =>
      rw [wp_of_ok ended]
      simp only [wp, bind, EStateM.bind, ended]
  | error error middle =>
      rw [wp_of_error ended]
      simp only [wp, bind, EStateM.bind, ended]

@[simp] theorem wp_get {good : State → State → Prop} :
    wp (get : EStateM Error State State) good bad state ↔ good state state := Iff.rfl

@[simp] theorem wp_set {good : PUnit → State → Prop} (next : State) :
    wp (set next : EStateM Error State PUnit) good bad state ↔ good ⟨⟩ next := Iff.rfl

@[simp] theorem wp_modify {good : PUnit → State → Prop} (f : State → State) :
    wp (modify f : EStateM Error State PUnit) good bad state ↔ good ⟨⟩ (f state) := Iff.rfl

@[simp] theorem wp_throw (error : Error) :
    wp (throw error : EStateM Error State Value) good bad state ↔ bad error state := Iff.rfl

@[simp] theorem wp_map {good : Value' → State → Prop} (f : Value → Value')
    (prog : EStateM Error State Value) :
    wp (f <$> prog) good bad state ↔ wp prog (fun value => good (f value)) bad state := by
  cases ended : prog state with
  | ok value middle =>
      rw [wp_of_ok ended]
      simp only [wp, Functor.map, EStateM.map, ended]
  | error error middle =>
      rw [wp_of_error ended]
      simp only [wp, Functor.map, EStateM.map, ended]

@[simp] theorem wp_discard {good : PUnit → State → Prop} (prog : EStateM Error State Value') :
    wp (discard prog) good bad state ↔ wp prog (fun _ => good ⟨⟩) bad state :=
  wp_map (fun _ => PUnit.unit) prog

@[simp] theorem wp_ite {condition : Prop} [Decidable condition]
    (yes no : EStateM Error State Value) :
    wp (if condition then yes else no) good bad state ↔
      if condition then wp yes good bad state else wp no good bad state := by
  split <;> exact Iff.rfl

/-- The rule of consequence. -/
theorem wp_mono {prog : EStateM Error State Value} {good' : Value → State → Prop}
    {bad' : Error → State → Prop} (weaker : ∀ value next, good value next → good' value next)
    (weaker' : ∀ error next, bad error next → bad' error next)
    (held : wp prog good bad state) : wp prog good' bad' state := by
  cases ended : prog state with
  | ok value next => exact (wp_of_ok ended).mpr (weaker _ _ ((wp_of_ok ended).mp held))
  | error error next =>
      exact (wp_of_error ended).mpr (weaker' _ _ ((wp_of_error ended).mp held))

/-- The rule of sequence, with the condition between the two parts named. -/
theorem wp_seq {prog : EStateM Error State Value'} {next : Value' → EStateM Error State Value}
    {between : Value' → State → Prop} (first : wp prog between bad state)
    (second : ∀ value middle, between value middle → wp (next value) good bad middle) :
    wp (prog >>= next) good bad state :=
  (wp_bind prog next).mpr (wp_mono second (fun _ _ => id) first)

/-- What holds of every outcome holds of the program's. -/
theorem wp_of_forall {prog : EStateM Error State Value} (well : ∀ value next, good value next)
    (early : ∀ error next, bad error next) : wp prog good bad state := by
  cases ended : prog state with
  | ok value next => exact (wp_of_ok ended).mpr (well value next)
  | error error next => exact (wp_of_error ended).mpr (early error next)

/-- Two properties of the same outcome. -/
theorem wp_and {prog : EStateM Error State Value} {good' : Value → State → Prop}
    {bad' : Error → State → Prop} (left : wp prog good bad state)
    (right : wp prog good' bad' state) :
    wp prog (fun value next => good value next ∧ good' value next)
      (fun error next => bad error next ∧ bad' error next) state := by
  cases ended : prog state with
  | ok value next =>
      exact (wp_of_ok ended).mpr ⟨(wp_of_ok ended).mp left, (wp_of_ok ended).mp right⟩
  | error error next =>
      exact (wp_of_error ended).mpr ⟨(wp_of_error ended).mp left, (wp_of_error ended).mp right⟩

/-- The relation holds between the states before and after, however the command ends. -/
def Respects (rel : State → State → Prop) (prog : EStateM Error State Value) : Prop :=
  ∀ state, wp prog (fun _ next => rel state next) (fun _ next => rel state next) state

variable {rel : State → State → Prop}

theorem respects_pure (refl : ∀ state, rel state state) (value : Value) :
    Respects rel (pure value : EStateM Error State Value) := refl

theorem respects_throw (refl : ∀ state, rel state state) (error : Error) :
    Respects rel (throw error : EStateM Error State Value) := refl

theorem respects_get (refl : ∀ state, rel state state) :
    Respects rel (get : EStateM Error State State) := refl

theorem respects_modify {f : State → State} (related : ∀ state, rel state (f state)) :
    Respects rel (modify f : EStateM Error State PUnit) := related

/-- One program after another. -/
theorem respects_bind
    (trans : ∀ first second third, rel first second → rel second third → rel first third)
    {prog : EStateM Error State Value'} {next : Value' → EStateM Error State Value}
    (first : Respects rel prog) (second : ∀ value, Respects rel (next value)) :
    Respects rel (prog >>= next) := fun state =>
  wp_seq (wp_mono (fun _ _ => id) (fun _ _ => id) (first state)) fun value middle related =>
    wp_mono (fun _ _ => trans _ _ _ related) (fun _ _ => trans _ _ _ related) (second value middle)

/-- Either of two programs. -/
theorem respects_ite {condition : Prop} [Decidable condition]
    {yes no : EStateM Error State Value} (left : Respects rel yes) (right : Respects rel no) :
    Respects rel (if condition then yes else no) := by
  split
  · exact left
  · exact right

end Command
