import Mathlib.Data.Fin.Tuple.Basic
import Mathlib.Logic.Basic

/-! # Programs that draw

A program draws numbers, each up to a bound that may depend on what was drawn
before, and ends with a value. `run` plays it on a tape of draws. `Always` speaks
about every tape (`always_iff_run`) and `Sometimes` about one; the rules push both
through a program as it is written, also when the program works on a state besides
(`always`, `sometimes`). A range with its ends in the wrong order has a negative
bound, and `Ordered` says that none is drawn from. `Keeps` is for an invariant of
the state.
-/

/-- A program that draws numbers: a value, or a draw below a bound and the program for each
result. -/
inductive Draw (Value : Type) where
  | pure (value : Value)
  | draw (bound : Int) (next : Fin (bound.toNat + 1) → Draw Value)

namespace Draw

variable {Value Value' State : Type}

/-- One program after another. -/
protected def bind : Draw Value → (Value → Draw Value') → Draw Value'
  | .pure value, rest => rest value
  | .draw bound next, rest => .draw bound fun choice => (next choice).bind rest

instance : Monad Draw where
  pure := .pure
  bind := Draw.bind

/-- To return what was drawn is to draw it. -/
theorem bind_pure' (prog : Draw Value) : prog.bind .pure = prog := by
  induction prog with
  | pure value => rfl
  | draw bound next ih => exact congrArg (draw bound) (funext ih)

/-- Three programs in a row. -/
theorem bind_assoc' {Value'' : Type} (prog : Draw Value) (next : Value → Draw Value')
    (rest : Value' → Draw Value'') :
    (prog.bind next).bind rest = prog.bind fun value => (next value).bind rest := by
  induction prog with
  | pure value => rfl
  | draw bound continuation ih => exact congrArg (draw bound) (funext ih)

instance : LawfulMonad Draw :=
  LawfulMonad.mk' Draw bind_pure' (fun _ _ => rfl) bind_assoc'

/-- Plays a program on a tape: its value and what is left of the tape, unless the
tape is too short or a draw on it is out of bounds. -/
def run : Draw Value → List Nat → Option (Value × List Nat)
  | .pure value, tape => some (value, tape)
  | .draw _ _, [] => none
  | .draw bound next, drawn :: tape =>
      if inBounds : drawn < bound.toNat + 1 then (next ⟨drawn, inBounds⟩).run tape else none

/-- The value has the property, whatever is drawn. -/
def Always (post : Value → Prop) : Draw Value → Prop
  | .pure value => post value
  | .draw _ next => ∀ choice, (next choice).Always post

/-- No range drawn from has its ends in the wrong order. -/
def Ordered : Draw Value → Prop
  | .pure _ => True
  | .draw bound next => 0 ≤ bound ∧ ∀ choice, (next choice).Ordered

/-- The value has the property for some draws. -/
def Sometimes (post : Value → Prop) : Draw Value → Prop
  | .pure value => post value
  | .draw _ next => ∃ choice, (next choice).Sometimes post

variable {post post' : Value → Prop}

/-- What always holds is what holds at the end of every play. -/
theorem always_iff_run {prog : Draw Value} :
    prog.Always post ↔ ∀ tape value rest, prog.run tape = some (value, rest) → post value := by
  induction prog with
  | pure value =>
      constructor
      · intro held tape value' rest played
        obtain ⟨rfl, rfl⟩ := Prod.mk.inj (Option.some.inj played)
        exact held
      · exact fun held => held [] value [] rfl
  | draw bound next ih =>
      constructor
      · intro held tape value rest played
        cases tape with
        | nil => cases played
        | cons drawn tape =>
            rw [run] at played
            split at played
            · rename_i inBounds
              exact (ih ⟨drawn, inBounds⟩).mp (held _) _ _ _ played
            · cases played
      · intro held choice
        refine (ih choice).mpr fun tape value rest played => held (choice :: tape) value rest ?_
        rw [run, dif_pos choice.isLt]
        exact played

/-- Some outcome meets a property exactly if not every outcome fails it. -/
theorem sometimes_iff_not_always {prog : Draw Value} :
    prog.Sometimes post ↔ ¬ prog.Always fun value => ¬ post value := by
  induction prog with
  | pure value => exact not_not.symm
  | draw bound next ih =>
      rw [Sometimes, Always, not_forall]
      exact exists_congr ih

/-- A weaker property of every outcome. -/
theorem Always.mono {prog : Draw Value} (held : prog.Always post)
    (weaker : ∀ value, post value → post' value) : prog.Always post' := by
  induction prog with
  | pure value => exact weaker value held
  | draw bound next ih => exact fun choice => ih choice (held choice)

/-- Two properties of every outcome. -/
theorem Always.and {prog : Draw Value} (held : prog.Always post) (held' : prog.Always post') :
    prog.Always fun value => post value ∧ post' value := by
  induction prog with
  | pure value => exact ⟨held, held'⟩
  | draw bound next ih => exact fun choice => ih choice (held choice) (held' choice)

/-- A weaker property of some outcome. -/
theorem Sometimes.mono {prog : Draw Value} (held : prog.Sometimes post)
    (weaker : ∀ value, post value → post' value) : prog.Sometimes post' := by
  induction prog with
  | pure value => exact weaker value held
  | draw bound next ih =>
      obtain ⟨choice, held⟩ := held
      exact ⟨choice, ih choice held⟩

@[simp] theorem always_pure (value : Value) :
    (Pure.pure value : Draw Value).Always post ↔ post value :=
  Iff.rfl

@[simp] theorem sometimes_pure (value : Value) :
    (Pure.pure value : Draw Value).Sometimes post ↔ post value :=
  Iff.rfl

@[simp] theorem always_bind {post : Value' → Prop} (prog : Draw Value)
    (next : Value → Draw Value') :
    (prog >>= next).Always post ↔ prog.Always fun value => (next value).Always post := by
  induction prog with
  | pure value => exact Iff.rfl
  | draw bound continuation ih => exact forall_congr' ih

@[simp] theorem sometimes_bind {post : Value' → Prop} (prog : Draw Value)
    (next : Value → Draw Value') :
    (prog >>= next).Sometimes post ↔ prog.Sometimes fun value => (next value).Sometimes post := by
  induction prog with
  | pure value => exact Iff.rfl
  | draw bound continuation ih => exact exists_congr ih

@[simp] theorem always_map {post : Value' → Prop} (f : Value → Value') (prog : Draw Value) :
    (f <$> prog).Always post ↔ prog.Always fun value => post (f value) :=
  always_bind prog _

@[simp] theorem sometimes_map {post : Value' → Prop} (f : Value → Value') (prog : Draw Value) :
    (f <$> prog).Sometimes post ↔ prog.Sometimes fun value => post (f value) :=
  sometimes_bind prog _

/-- What is not about the outcome. -/
theorem always_const {proposition : Prop} (prog : Draw Value) :
    prog.Always (fun _ => proposition) ↔ proposition := by
  induction prog with
  | pure value => exact Iff.rfl
  | draw bound next ih => exact ⟨fun held => (ih 0).mp (held 0), fun held c => (ih c).mpr held⟩

/-- Every program has an outcome. -/
theorem sometimes_const {proposition : Prop} (prog : Draw Value) :
    prog.Sometimes (fun _ => proposition) ↔ proposition := by
  rw [sometimes_iff_not_always, always_const, not_not]

/-- What holds sometimes holds of some value that has what holds always. -/
theorem Sometimes.meets {prog : Draw Value} (some_ : prog.Sometimes post)
    (all : prog.Always post') :
    ∃ value, post value ∧ post' value := by
  induction prog with
  | pure value => exact ⟨value, some_, all⟩
  | draw bound next ih =>
      obtain ⟨choice, held⟩ := some_
      exact ih choice held (all choice)

/-- There is always something to draw. -/
theorem Always.sometimes {prog : Draw Value} (held : prog.Always post) : prog.Sometimes post := by
  induction prog with
  | pure value => exact held
  | draw bound next ih => exact ⟨0, ih 0 (held 0)⟩

/-- What holds of every value holds whatever is drawn. -/
theorem always_of_forall {prog : Draw Value} (held : ∀ value, post value) : prog.Always post :=
  ((always_const prog).mpr trivial).mono fun value _ => held value

/-- Whatever is drawn, the value is one that is drawn sometimes. -/
theorem always_reached (prog : Draw Value) :
    prog.Always fun value => prog.Sometimes fun value' => value' = value := by
  induction prog with
  | pure value => exact rfl
  | draw bound next ih =>
      exact fun choice => (ih choice).mono fun value reached => ⟨choice, reached⟩

/-- **The rule of a loop**: an invariant that each round keeps is kept by all. -/
theorem always_foldlM {Entry : Type} {step : Value → Entry → Draw Value} {inv : Value → Prop}
    {entries : List Entry}
    (each : ∀ entry ∈ entries, ∀ value, inv value → (step value entry).Always inv) {value : Value}
    (start : inv value) : (entries.foldlM step value).Always inv := by
  induction entries generalizing value with
  | nil => exact start
  | cons entry entries ih =>
      obtain ⟨first, rest⟩ := List.forall_mem_cons.mp each
      rw [List.foldlM_cons, always_bind]
      exact (first value start).mono fun value' held => ih rest held

/-- An invariant that depends on the number of rounds. -/
theorem always_foldlM_range {step : Value → Nat → Draw Value} {inv : Nat → Value → Prop}
    {count : Nat} (each : ∀ i < count, ∀ value, inv i value → (step value i).Always (inv (i + 1)))
    {value : Value} (start : inv 0 value) :
    ((List.range count).foldlM step value).Always (inv count) := by
  induction count with
  | zero => exact start
  | succ count ih =>
      rw [List.range_succ, List.foldlM_append, always_bind]
      refine (ih fun i below => each i (by omega)).mono fun value held => ?_
      rw [List.foldlM_cons, always_bind]
      exact each count (by omega) value held

/-- A number between two ends; the tape keeps its distance from the lower one. -/
def between (lo hi : Nat) : Draw Nat :=
  .draw (hi - lo) fun choice => .pure (lo + choice)

@[simp] theorem always_between {lo hi : Nat} {post : Nat → Prop} :
    (between lo hi).Always post ↔ ∀ number ≤ hi - lo, post (lo + number) :=
  ⟨fun held number inside => held ⟨number, by omega⟩, fun held choice => held choice (by omega)⟩

/-- Every number in range is drawn. -/
theorem sometimes_between {lo hi : Nat} {post : Nat → Prop} :
    (between lo hi).Sometimes post ↔ ∃ number ≤ hi - lo, post (lo + number) := by
  constructor
  · rintro ⟨choice, held⟩
    exact ⟨choice, by omega, held⟩
  · rintro ⟨number, inside, held⟩
    exact ⟨⟨number, by omega⟩, held⟩

/-- A number from zero to a bound that is computed, and may have become negative. -/
def upTo (bound : Int) : Draw Nat :=
  .draw bound fun choice => .pure choice

@[simp] theorem always_upTo {bound : Int} {post : Nat → Prop} :
    (upTo bound).Always post ↔ ∀ number ≤ bound.toNat, post number :=
  ⟨fun held number inside => held ⟨number, Nat.lt_succ_of_le inside⟩,
    fun held choice => held choice (Nat.le_of_lt_succ choice.isLt)⟩

/-- An index below a positive bound. -/
def index (count : Nat) : Draw (Fin (count + 1)) :=
  .draw count fun choice => .pure choice

@[simp] theorem always_index {count : Nat} {post : Fin (count + 1) → Prop} :
    (index count).Always post ↔ ∀ i, post i := Iff.rfl

@[simp] theorem sometimes_index {count : Nat} {post : Fin (count + 1) → Prop} :
    (index count).Sometimes post ↔ ∃ i, post i := Iff.rfl

/-- Whether a number below a bound is zero. -/
def oneIn (bound : Nat) : Draw Bool :=
  .draw (bound - 1) fun choice => .pure (choice.val == 0)

/-- Either answer is to be reckoned with. -/
theorem always_oneIn {bound : Nat} (several : 1 < bound) {post : Bool → Prop} :
    (oneIn bound).Always post ↔ ∀ hit, post hit := by
  constructor
  · intro held hit
    cases hit with
    | false => exact held ⟨1, by omega⟩
    | true => exact held ⟨0, by omega⟩
  · exact fun held choice => held _

/-- Either answer is drawn. -/
theorem sometimes_oneIn {bound : Nat} (several : 1 < bound) {post : Bool → Prop} :
    (oneIn bound).Sometimes post ↔ ∃ hit, post hit := by
  rw [sometimes_iff_not_always, always_oneIn several]
  simp only [not_forall, not_not]

/-- An entry of a table. -/
def pick (table : List Value) (nonempty : 0 < table.length := by decide) : Draw Value :=
  .draw (table.length - 1) fun choice =>
    .pure (table.get ⟨choice, by omega⟩)

@[simp] theorem always_pick {table : List Value} {nonempty : 0 < table.length} :
    (pick table nonempty).Always post ↔ ∀ entry ∈ table, post entry := by
  constructor
  · intro held entry listed
    obtain ⟨i, rfl⟩ := List.mem_iff_get.mp listed
    exact held ⟨i, by omega⟩
  · exact fun held choice => held _ (List.get_mem ..)

@[simp] theorem sometimes_pick {table : List Value} {nonempty : 0 < table.length} :
    (pick table nonempty).Sometimes post ↔ ∃ entry ∈ table, post entry := by
  rw [sometimes_iff_not_always, always_pick]
  simp only [not_forall, not_not, exists_prop]

/-- A fixed number of draws, one after the other. -/
def array (element : Draw Value) : (count : Nat) → Draw (Fin count → Value)
  | 0 => .pure Fin.elim0
  | count + 1 => do
      let first ← element
      let rest ← array element count
      return Fin.cons first rest

/-- Values that can be drawn one by one can be drawn together. -/
theorem sometimes_array {element : Draw Value} {count : Nat} (values : Fin count → Value)
    (each : ∀ i, element.Sometimes fun value => value = values i) :
    (array element count).Sometimes fun drawn => drawn = values := by
  induction count with
  | zero => exact funext fun i => i.elim0
  | succ count ih =>
      simp only [array, sometimes_bind]
      refine (each 0).mono fun first head => ?_
      refine (ih (fun i => values i.succ) fun i => each i.succ).mono fun rest tail => ?_
      rw [sometimes_pure, head, tail]
      exact Fin.cons_self_tail values

@[simp] theorem ordered_pure (value : Value) : (Pure.pure value : Draw Value).Ordered := trivial

/-- A program draws from proper ranges if its first part does and so does whatever follows. -/
theorem ordered_bind (prog : Draw Value) (next : Value → Draw Value') :
    (prog >>= next).Ordered ↔ prog.Ordered ∧ prog.Always fun value => (next value).Ordered := by
  induction prog with
  | pure value => exact (and_iff_right trivial).symm
  | draw bound continuation ih =>
      refine (and_congr_right fun _ => forall_congr' ih).trans ?_
      rw [forall_and, ← and_assoc]
      exact Iff.rfl

/-- The second part may use what always holds of the first's value. -/
theorem Ordered.bind {prog : Draw Value} {next : Value → Draw Value'} (first : prog.Ordered)
    (holds : prog.Always post) (second : ∀ value, post value → (next value).Ordered) :
    (prog >>= next).Ordered :=
  (ordered_bind prog next).mpr ⟨first, holds.mono second⟩

/-- In particular if every second part does. -/
theorem Ordered.seq {prog : Draw Value} {next : Value → Draw Value'} (first : prog.Ordered)
    (second : ∀ value, (next value).Ordered) : (prog >>= next).Ordered :=
  first.bind (always_of_forall fun _ => trivial) fun value _ => second value

@[simp] theorem ordered_map (f : Value → Value') (prog : Draw Value) :
    (f <$> prog).Ordered ↔ prog.Ordered :=
  (ordered_bind prog _).trans (and_iff_left (always_of_forall fun _ => trivial))

@[simp] theorem ordered_between {lo hi : Nat} : (between lo hi).Ordered ↔ lo ≤ hi := by
  refine (and_iff_left fun _ => trivial).trans ?_
  omega

@[simp] theorem ordered_upTo {bound : Int} : (upTo bound).Ordered ↔ 0 ≤ bound :=
  and_iff_left fun _ => trivial

@[simp] theorem ordered_index (count : Nat) : (index count).Ordered :=
  ⟨Int.natCast_nonneg count, fun _ => trivial⟩

@[simp] theorem ordered_oneIn {bound : Nat} : (oneIn bound).Ordered ↔ 0 < bound := by
  refine (and_iff_left fun _ => trivial).trans ?_
  omega

@[simp] theorem ordered_pick {table : List Value} {nonempty : 0 < table.length} :
    (pick table nonempty).Ordered :=
  ⟨by omega, fun _ => trivial⟩

@[simp] theorem ordered_array {element : Draw Value} (ordered : element.Ordered) (count : Nat) :
    (array element count).Ordered := by
  induction count with
  | zero => exact trivial
  | succ count ih => exact ordered.seq fun first => ih.seq fun rest => trivial

@[simp] theorem ordered_ite {condition : Prop} [Decidable condition] {yes no : Draw Value} :
    (if condition then yes else no).Ordered ↔
      if condition then yes.Ordered else no.Ordered := by
  split <;> exact Iff.rfl

/-- So does a loop whose rounds do. -/
theorem ordered_foldlM {Entry : Type} {step : Value → Entry → Draw Value}
    (each : ∀ value entry, (step value entry).Ordered) (entries : List Entry) (value : Value) :
    (entries.foldlM step value).Ordered := by
  induction entries generalizing value with
  | nil => exact trivial
  | cons entry entries ih =>
      rw [List.foldlM_cons]
      exact (each value entry).seq fun value' => ih value'

-- a long array is not to be unfolded draw by draw
attribute [irreducible] array

/-- Every outcome meets the postcondition. -/
def always (prog : StateT State Draw Value) (post : Value → State → Prop) (state : State) : Prop :=
  (prog.run state).Always fun ended => post ended.1 ended.2

/-- Some outcome meets the postcondition. -/
def sometimes (prog : StateT State Draw Value) (post : Value → State → Prop) (state : State) :
    Prop :=
  (prog.run state).Sometimes fun ended => post ended.1 ended.2

section

variable {post : Value → State → Prop} {post' : Value' → State → Prop} {state : State}

/-- A weaker postcondition of every outcome. -/
theorem always_mono {prog : StateT State Draw Value} {weaker : Value → State → Prop}
    (held : always prog post state)
    (implied : ∀ value state, post value state → weaker value state) :
    always prog weaker state :=
  Always.mono held fun ended => implied ended.1 ended.2

/-- A weaker postcondition of some outcome. -/
theorem sometimes_mono {prog : StateT State Draw Value} {weaker : Value → State → Prop}
    (held : sometimes prog post state)
    (implied : ∀ value state, post value state → weaker value state) :
    sometimes prog weaker state :=
  Sometimes.mono held fun ended => implied ended.1 ended.2

/-- What every outcome meets, some outcome does. -/
theorem sometimes_of_always {prog : StateT State Draw Value} (held : always prog post state) :
    sometimes prog post state := Always.sometimes held

@[simp] theorem always_return (value : Value) :
    always (Pure.pure value : StateT State Draw Value) post state ↔ post value state := Iff.rfl

@[simp] theorem sometimes_return (value : Value) :
    sometimes (Pure.pure value : StateT State Draw Value) post state ↔ post value state := Iff.rfl

@[simp] theorem always_seq (prog : StateT State Draw Value)
    (next : Value → StateT State Draw Value') :
    always (prog >>= next) post' state ↔
      always prog (fun value => always (next value) post') state :=
  always_bind (prog.run state) _

@[simp] theorem sometimes_seq (prog : StateT State Draw Value)
    (next : Value → StateT State Draw Value') :
    sometimes (prog >>= next) post' state ↔
      sometimes prog (fun value => sometimes (next value) post') state :=
  sometimes_bind (prog.run state) _

@[simp] theorem always_get {post : State → State → Prop} :
    always (get : StateT State Draw State) post state ↔ post state state := Iff.rfl

@[simp] theorem sometimes_get {post : State → State → Prop} :
    sometimes (get : StateT State Draw State) post state ↔ post state state := Iff.rfl

@[simp] theorem always_modify {post : PUnit → State → Prop} (f : State → State) :
    always (modify f : StateT State Draw PUnit) post state ↔ post ⟨⟩ (f state) := Iff.rfl

@[simp] theorem sometimes_modify {post : PUnit → State → Prop} (f : State → State) :
    sometimes (modify f : StateT State Draw PUnit) post state ↔ post ⟨⟩ (f state) := Iff.rfl

@[simp] theorem always_lift (prog : Draw Value) :
    always (liftM prog : StateT State Draw Value) post state ↔
      prog.Always fun value => post value state :=
  always_bind prog _

@[simp] theorem sometimes_lift (prog : Draw Value) :
    sometimes (liftM prog : StateT State Draw Value) post state ↔
      prog.Sometimes fun value => post value state :=
  sometimes_bind prog _

@[simp] theorem always_ite {condition : Prop} [Decidable condition]
    (yes no : StateT State Draw Value) :
    always (if condition then yes else no) post state ↔
      if condition then always yes post state else always no post state := by
  split <;> exact Iff.rfl

@[simp] theorem sometimes_ite {condition : Prop} [Decidable condition]
    (yes no : StateT State Draw Value) :
    sometimes (if condition then yes else no) post state ↔
      if condition then sometimes yes post state else sometimes no post state := by
  split <;> exact Iff.rfl

/-- From a state with the invariant the program ends in one with it, its value has the
property, and its draws are ordered. -/
def Keeps (inv : State → Prop) (post : Value → Prop) (prog : StateT State Draw Value) : Prop :=
  ∀ state, inv state → (prog.run state).Ordered ∧
    always prog (fun value state => inv state ∧ post value) state

variable {inv : State → Prop} {good : Value → Prop} {good' : Value' → Prop}

theorem keeps_return {value : Value} (held : good value) :
    Keeps inv good (Pure.pure value : StateT State Draw Value) :=
  fun _ kept => ⟨trivial, kept, held⟩

/-- A change of the state that keeps the invariant. -/
theorem keeps_modify {f : State → State} (kept : ∀ state, inv state → inv (f state)) :
    Keeps inv (fun _ => True) (modify f : StateT State Draw PUnit) :=
  fun state held => ⟨trivial, kept state held, trivial⟩

/-- **The rule of sequence**: what the first part returns may be used by the second. -/
theorem keeps_bind {prog : StateT State Draw Value} {next : Value → StateT State Draw Value'}
    (first : Keeps inv good prog) (second : ∀ value, good value → Keeps inv good' (next value)) :
    Keeps inv good' (prog >>= next) := fun state held =>
  ⟨(first state held).1.bind (first state held).2 fun ended kept =>
      (second ended.1 kept.2 ended.2 kept.1).1,
    (always_seq prog next).mpr (always_mono (first state held).2 fun value state ended =>
      (second value ended.2 state ended.1).2)⟩

/-- The same, where nothing is known of what is returned. -/
theorem keeps_seq {prog : StateT State Draw Value} {next : Value → StateT State Draw Value'}
    (first : Keeps inv (fun _ => True) prog) (second : ∀ value, Keeps inv good' (next value)) :
    Keeps inv good' (prog >>= next) :=
  keeps_bind first fun value _ => second value

/-- A draw keeps the state. -/
theorem keeps_lift {prog : Draw Value} (ordered : prog.Ordered) (held : prog.Always good) :
    Keeps inv good (liftM prog : StateT State Draw Value) := fun _ kept =>
  ⟨ordered.seq fun _ => trivial, (always_lift prog).mpr (held.mono fun _ good => ⟨kept, good⟩)⟩

/-- A draw, and then a program. -/
theorem keeps_draw {prog : Draw Value} {next : Value → StateT State Draw Value'}
    (ordered : prog.Ordered) (second : ∀ value, Keeps inv good' (next value)) :
    Keeps inv good' (liftM prog >>= next) :=
  keeps_seq (keeps_lift ordered (always_of_forall fun _ => trivial)) second

/-- An entry of a table, and then a program. -/
theorem keeps_pick {table : List Value} {nonempty : 0 < table.length}
    {next : Value → StateT State Draw Value'}
    (second : ∀ entry ∈ table, Keeps inv good' (next entry)) :
    Keeps inv good' (liftM (pick table nonempty) >>= next) :=
  keeps_bind (keeps_lift ordered_pick (always_pick.mpr fun _ listed => listed)) second

/-- Either of two programs. -/
theorem keeps_ite {condition : Prop} [Decidable condition] {yes no : StateT State Draw Value}
    (left : Keeps inv good yes) (right : Keeps inv good no) :
    Keeps inv good (if condition then yes else no) := by
  split
  · exact left
  · exact right

end

end Draw
