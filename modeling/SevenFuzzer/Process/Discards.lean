import Mathlib.Data.BitVec
import SevenFuzzer.Process.Accounting

/-! # The discarded attempts of a run

The generator of a worker counts the attempts it discards, and the worker adds this count to
the shared one when it leaves its loop. A worker that takes an exception path returns without
it: the value main prints is the sum over all workers exactly if no such worker had discarded
anything and the sum fits the counter (`SevenFuzzer.discards_exact_iff`).
-/

namespace SevenFuzzer

open Transition

variable {threads : Nat}

/-- The threads, and of the generator of each worker its `discarded_`. -/
structure GeneratorsState (threads : Nat) extends ThreadsState threads where
  discarded : Fin threads → BitVec 64

/-- `gen.next()` of a worker, with the attempts it discards, or another step of the threads. -/
inductive GeneratorsEvent (threads : Nat) where
  | next (w : Fin threads) (attempts : BitVec 64)
  | threads (event : ThreadsEvent threads)

/-- What a worker adds when it leaves its loop is its `gen.discarded_attempts()`. -/
def GeneratorsState.allows (s : GeneratorsState threads) : ThreadsEvent threads → Bool
  | .worker _ .generate => false
  | .worker w (.leaveLoop discards) => discards = s.discarded w
  | _ => true

/-- A step of the run that also follows how many attempts each generator has discarded. -/
def generatorsStep (cfg : ThreadsConfig threads) (s : GeneratorsState threads) :
    GeneratorsEvent threads → Option (GeneratorsState threads)
  | .next w attempts =>
      if attempts ≤ 200#64 then
        (threadsStep cfg s.toThreadsState (.worker w .generate)).map fun moved =>
          ⟨moved, Function.update s.discarded w (s.discarded w + attempts)⟩
      else none
  | .threads event =>
      if s.allows event then
        (threadsStep cfg s.toThreadsState event).map fun moved => ⟨moved, s.discarded⟩
      else none

/-- The generators of the workers have been made. -/
def GeneratorsState.initial (cfg : ThreadsConfig threads) (clock : BitVec 64) :
    GeneratorsState threads :=
  ⟨.initial cfg clock, fun _ => 0#64⟩

/-- The steps of the threads with their generators. -/
inductive GeneratorsMove (cfg : ThreadsConfig threads) (s : GeneratorsState threads) :
    GeneratorsEvent threads → GeneratorsState threads → Prop where
  | next {w : Fin threads} {attempts : BitVec 64} {moved : ThreadsState threads}
      (few : attempts ≤ 200#64)
      (stepped : threadsStep cfg s.toThreadsState (.worker w .generate) = some moved) :
      GeneratorsMove cfg s (.next w attempts)
        ⟨moved, Function.update s.discarded w (s.discarded w + attempts)⟩
  | threads {event : ThreadsEvent threads} {moved : ThreadsState threads}
      (allowed : s.allows event = true)
      (stepped : threadsStep cfg s.toThreadsState event = some moved) :
      GeneratorsMove cfg s (.threads event) ⟨moved, s.discarded⟩

variable {cfg : ThreadsConfig threads} {s next : GeneratorsState threads}
  {event : GeneratorsEvent threads}
  {trace : List (GeneratorsState threads × GeneratorsEvent threads)}

/-- A step is one of the listed moves. -/
theorem generatorsStep_move (moved : generatorsStep cfg s event = some next) :
    GeneratorsMove cfg s event next := by
  cases event with
  | next w attempts =>
      obtain ⟨few, moved⟩ := Option.ite_none_right_eq_some.mp moved
      obtain ⟨_, stepped, rfl⟩ := Option.map_eq_some_iff.mp moved
      exact .next few stepped
  | threads event =>
      obtain ⟨allowed, moved⟩ := Option.ite_none_right_eq_some.mp moved
      obtain ⟨_, stepped, rfl⟩ := Option.map_eq_some_iff.mp moved
      exact .threads allowed stepped

/-- A worker that has left its loop has added its count. -/
def WorkerPoint.merged : WorkerPoint → Bool
  | .returned none => true
  | _ => false

/-- A worker on an exception path, which ends without adding its count. -/
def WorkerPoint.caught : WorkerPoint → Bool
  | .handler _ _ _ | .returned (some _) => true
  | _ => false

section

variable {share : Nat} {verboseFrom : BitVec 64} {usesHw : Bool} {counters : SharedCounters}
  {point : WorkerPoint} {op : WorkerOp} {result : WorkerResult}

/-- A worker that moves has not yet added its discards. -/
theorem OpMove.unmerged (moves : OpMove share verboseFrom usesHw counters point op result) :
    point.merged = false := by
  cases moves <;> rfl

/-- The counter grows when a worker leaves its loop, and in no other step. -/
theorem OpMove.merge (moves : OpMove share verboseFrom usesHw counters point op result) :
    (∃ discards, op = .leaveLoop discards ∧ result.point.merged = true ∧
      result.counters.generatorDiscards = counters.generatorDiscards + discards) ∨
    (result.point.merged = false ∧
      result.counters.generatorDiscards = counters.generatorDiscards) := by
  cases moves with
  | leaveLoop => exact .inl ⟨_, rfl, rfl, rfl⟩
  | _ => exact .inr ⟨rfl, rfl⟩

/-- A worker that generates has caught nothing. -/
theorem OpMove.uncaught_of_generate
    (moves : OpMove share verboseFrom usesHw counters point .generate result) :
    point.caught = false := by
  cases moves
  rfl

/-- A worker has caught something exactly if an operation threw. -/
theorem OpMove.caught_iff (moves : OpMove share verboseFrom usesHw counters point op result) :
    result.point.caught = true ↔ point.caught = true ∨ ∃ thrown, op = .raise thrown := by
  cases moves <;> simp [WorkerPoint.caught]

end

/-- What a worker has added to the shared counter. -/
def GeneratorsState.added (s : GeneratorsState threads) (w : Fin threads) : BitVec 64 :=
  if (s.workers w).point.merged then s.discarded w else 0

/-- The shared counter is the sum of what the workers have added. -/
def Merged (s : GeneratorsState threads) : Prop :=
  s.counters.generatorDiscards = ∑ w, s.added w

/-- Nothing has been added before the start. -/
theorem merged_initial (cfg : ThreadsConfig threads) (clock : BitVec 64) :
    Merged (.initial cfg clock) := Finset.sum_const_zero.symm

/-- Only the worker that takes the step may add something. -/
theorem added_of_worker {w : Fin threads} {worker : Worker}
    (workers : next.workers = Function.update s.workers w worker)
    (others : ∀ v, v ≠ w → next.discarded v = s.discarded v) :
    next.added =
      Function.update s.added w (if worker.point.merged then next.discarded w else 0) := by
  funext v
  rw [GeneratorsState.added, workers]
  by_cases same : v = w
  · subst same
    simp only [Function.update_self]
  · simp only [Function.update_of_ne same, others v same, GeneratorsState.added]

/-- A worker that has not returned has added nothing. -/
theorem added_unmerged {w : Fin threads} (unmerged : (s.workers w).point.merged = false) :
    s.added w = 0 := by
  rw [GeneratorsState.added, unmerged]
  rfl

/-- A worker that has not left its loop adds nothing by its step. -/
theorem added_still {w : Fin threads} {worker : Worker}
    (workers : next.workers = Function.update s.workers w worker)
    (others : ∀ v, v ≠ w → next.discarded v = s.discarded v)
    (before : (s.workers w).point.merged = false) (after : worker.point.merged = false) :
    next.added = s.added := by
  rw [added_of_worker workers others, after]
  exact Function.update_eq_self_iff.mpr (added_unmerged before).symm

/-- What a step of a worker does to the workers and to the counters. -/
theorem threadsStep_worker {s moved : ThreadsState threads} {w : Fin threads} {op : WorkerOp}
    (stepped : threadsStep cfg s (.worker w op) = some moved) :
    ∃ result worker, OpMove (cfg.share w) cfg.verboseFrom (s.workers w).usesHw s.counters
        (s.workers w).point op result ∧ moved.counters = result.counters ∧
      worker.point = result.point ∧ moved.workers = Function.update s.workers w worker := by
  cases threadsStep_move stepped with
  | worker awake moves => exact ⟨_, _, moves, rfl, rfl, rfl⟩

/-- Other steps leave the workers where they stand. -/
theorem threadsStep_other {s moved : ThreadsState threads} {event : ThreadsEvent threads}
    (other : ∀ w op, event ≠ .worker w op) (stepped : threadsStep cfg s event = some moved) :
    moved.counters = s.counters ∧ ∀ v, (moved.workers v).point = (s.workers v).point := by
  cases threadsStep_move stepped with
  | worker => exact absurd rfl (other _ _)
  | @hang w =>
      refine ⟨rfl, fun v => ?_⟩
      by_cases same : v = w
      · subst same
        simp only [Function.update_self]
      · simp only [Function.update_of_ne same]
  | watchdogLock | report | process => exact ⟨rfl, fun _ => rfl⟩

/-- **Every step**: the total is what the workers have added. -/
theorem merged_step (merged : Merged s) (taken : generatorsStep cfg s event = some next) :
    Merged next := by
  cases generatorsStep_move taken with
  | @next w attempts moved few stepped =>
      obtain ⟨result, worker, moves, counters, point, workers⟩ := threadsStep_worker stepped
      rcases moves.merge with ⟨_, other, _⟩ | ⟨after, counter⟩
      · cases other
      · have added : GeneratorsState.added
            ⟨moved, Function.update s.discarded w (s.discarded w + attempts)⟩ = s.added :=
          added_still workers (fun v other => Function.update_of_ne other _ s.discarded)
            moves.unmerged (point ▸ after)
        rw [Merged, counters, counter, merged, added]
  | @threads event moved allowed stepped =>
      by_cases worker : ∃ w op, event = .worker w op
      · obtain ⟨w, op, rfl⟩ := worker
        obtain ⟨result, worker, moves, counters, point, workers⟩ := threadsStep_worker stepped
        rcases moves.merge with ⟨discards, rfl, after, counter⟩ | ⟨after, counter⟩
        · obtain rfl := of_decide_eq_true allowed
          have added : GeneratorsState.added ⟨moved, s.discarded⟩ =
              Function.update s.added w (if worker.point.merged then s.discarded w else 0) :=
            added_of_worker workers fun _ _ => rfl
          rw [Merged, counters, counter, added, point, if_pos after]
          refine Totals.sum_of_balanced merged ?_
          rw [added_unmerged moves.unmerged, add_zero]
        · have added : GeneratorsState.added ⟨moved, s.discarded⟩ = s.added :=
            added_still workers (fun _ _ => rfl) moves.unmerged (point ▸ after)
          rw [Merged, counters, counter, merged, added]
      · obtain ⟨counters, points⟩ :=
          threadsStep_other (fun w op same => worker ⟨w, op, same⟩) stepped
        rw [Merged, counters, merged]
        simp only [GeneratorsState.added, points]

/-- A worker takes an exception path when its generator has discarded something. -/
def LosesDiscards (w : Fin threads)
    (trace : List (GeneratorsState threads × GeneratorsEvent threads)) : Prop :=
  ∃ state thrown, (state, .threads (.worker w (.raise thrown))) ∈ trace ∧ state.discarded w ≠ 0#64

/-- A worker has lost something exactly if it is on an exception path with a count. -/
def LossesKept (trace : List (GeneratorsState threads × GeneratorsEvent threads))
    (s : GeneratorsState threads) : Prop :=
  ∀ w, LosesDiscards w trace ↔ (s.workers w).point.caught = true ∧ s.discarded w ≠ 0#64

/-- A worker loses its discards with an exception. -/
theorem losesDiscards_append {w : Fin threads} : LosesDiscards w (trace ++ [(s, event)]) ↔
    LosesDiscards w trace ∨
      (∃ thrown, event = .threads (.worker w (.raise thrown))) ∧ s.discarded w ≠ 0#64 := by
  simp only [LosesDiscards, List.mem_append, List.mem_singleton, Prod.mk.injEq]
  constructor
  · rintro ⟨state, thrown, earlier | ⟨rfl, rfl⟩, some_⟩
    · exact .inl ⟨state, thrown, earlier, some_⟩
    · exact .inr ⟨⟨thrown, rfl⟩, some_⟩
  · rintro (⟨state, thrown, earlier, some_⟩ | ⟨⟨thrown, rfl⟩, some_⟩)
    · exact ⟨state, thrown, .inl earlier, some_⟩
    · exact ⟨s, thrown, .inr ⟨rfl, rfl⟩, some_⟩

/-- Nothing is lost before the start. -/
theorem lossesKept_initial (cfg : ThreadsConfig threads) (clock : BitVec 64) :
    LossesKept [] (.initial cfg clock) := by
  intro w
  simp [LosesDiscards, GeneratorsState.initial, ThreadsState.initial, WorkerPoint.caught]

/-- A worker comes on an exception path by raising. -/
theorem caught_step {s moved : ThreadsState threads} {event : ThreadsEvent threads}
    (stepped : threadsStep cfg s event = some moved) (v : Fin threads) :
    (moved.workers v).point.caught = true ↔
      (s.workers v).point.caught = true ∨ ∃ thrown, event = .worker v (.raise thrown) := by
  by_cases worker : ∃ w op, event = .worker w op
  · obtain ⟨w, op, rfl⟩ := worker
    obtain ⟨result, worker, moves, _, point, workers⟩ := threadsStep_worker stepped
    rw [workers]
    by_cases same : v = w
    · subst same
      rw [Function.update_self, point, moves.caught_iff]
      simp only [ThreadsEvent.worker.injEq, true_and]
    · rw [Function.update_of_ne same]
      simp only [ThreadsEvent.worker.injEq, Ne.symm same, false_and, exists_false, or_false]
  · obtain ⟨_, points⟩ := threadsStep_other (fun w op same => worker ⟨w, op, same⟩) stepped
    rw [points v]
    exact (or_iff_left fun ⟨thrown, same⟩ => worker ⟨v, _, same⟩).symm

/-- **Every step**: a worker has lost its discards exactly if it caught something with some of
them. -/
theorem lossesKept_step (kept : LossesKept trace s)
    (taken : generatorsStep cfg s event = some next) :
    LossesKept (trace ++ [(s, event)]) next := by
  intro v
  rw [losesDiscards_append, kept v]
  cases generatorsStep_move taken with
  | @next w attempts moved few stepped =>
      have still := (caught_step stepped v).trans (or_iff_left (by rintro ⟨_, ⟨⟩⟩))
      dsimp only
      rw [still]
      by_cases same : v = w
      · subst same
        obtain ⟨_, _, moves, _⟩ := threadsStep_worker stepped
        simp [moves.uncaught_of_generate]
      · simp [Function.update_of_ne same]
  | @threads event moved allowed stepped =>
      dsimp only
      rw [caught_step stepped v, or_and_right]
      simp only [GeneratorsEvent.threads.injEq]

/-- **Every run** keeps both. -/
theorem generators_of_run {clock : BitVec 64}
    (run : Run (generatorsStep cfg) (.initial cfg clock) trace s) :
    Merged s ∧ LossesKept trace s :=
  run.history_invariant (fun trace s => Merged s ∧ LossesKept trace s)
    ⟨merged_initial cfg clock, lossesKept_initial cfg clock⟩
    fun _ _ _ _ held taken => ⟨merged_step held.1 taken, lossesKept_step held.2 taken⟩

/-- What main prints at the end. -/
def GeneratorsState.printed (s : GeneratorsState threads) : Nat :=
  s.counters.generatorDiscards.toNat

/-- What the generators of all workers have discarded. -/
def GeneratorsState.discards (s : GeneratorsState threads) : Nat := ∑ w, (s.discarded w).toNat

/-- A worker that has returned has added all it has, or nothing if it caught something. -/
theorem added_of_returned {w : Fin threads}
    (returned : (s.workers w).point.phase.hasReturned = true) :
    s.added w = if (s.workers w).point.caught then 0 else s.discarded w := by
  unfold GeneratorsState.added
  cases point : (s.workers w).point with
  | returned caught => cases caught <;> rfl
  | _ =>
      rw [point] at returned
      cases returned

/-- When all workers have returned, the value printed is the sum over all of them if and only
if none has taken an exception path after a discard, and the sum is in the counter's range. -/
theorem discards_exact_iff {clock : BitVec 64}
    (run : Run (generatorsStep cfg) (.initial cfg clock) trace s)
    (joined : ∀ w, (s.workers w).point.phase.hasReturned = true) :
    s.printed = s.discards ↔ (∀ w, ¬ LosesDiscards w trace) ∧ s.discards < 2 ^ 64 := by
  obtain ⟨merged, kept⟩ := generators_of_run run
  have total : s.printed = (∑ w, (s.added w).toNat) % 2 ^ 64 := by
    rw [GeneratorsState.printed, merged, Totals.toNat_sum]
  have part (w : Fin threads) : (s.added w).toNat ≤ (s.discarded w).toNat := by
    rw [added_of_returned (joined w)]
    split
    · exact Nat.zero_le _
    · exact le_rfl
  have whole (w : Fin threads) :
      (s.added w).toNat = (s.discarded w).toNat ↔ ¬ LosesDiscards w trace := by
    rw [kept w, added_of_returned (joined w)]
    split
    · rename_i caught
      simp only [caught, true_and, ne_eq, not_not, BitVec.toNat_inj]
      exact eq_comm
    · rename_i uncaught
      exact iff_of_true rfl fun lost => uncaught lost.1
  have least : ∑ w, (s.added w).toNat ≤ s.discards := Finset.sum_le_sum fun w _ => part w
  have equal : ∑ w, (s.added w).toNat = s.discards ↔ ∀ w, ¬ LosesDiscards w trace := by
    rw [GeneratorsState.discards, Finset.sum_eq_sum_iff_of_le fun w _ => part w]
    simp only [Finset.mem_univ, forall_const, whole]
  rw [← equal, total]
  omega

/-- The steps of the only worker in the only round of `oneIteration` to the comparison, with
one attempt discarded. -/
def oneDiscard : List (GeneratorsEvent 1) :=
  [.threads (.worker 0 .start), .threads (.worker 0 (.setUp false)),
    .threads (.worker 0 .beginCase), .next 0 1#64, .threads (.worker 0 .lockIo),
    .threads (.worker 0 .unlockIo), .threads (.worker 0 .lockCompute),
    .threads (.worker 0 .unlockCompute)]

/-- The round ends, and with it the loop. -/
def oneDiscardEnds : List (GeneratorsEvent 1) :=
  oneDiscard ++ [.threads (.worker 0 (.runHardware false)),
    .threads (.worker 0 (.compare ⟨[], [], []⟩)), .threads (.worker 0 .count),
    .threads (.worker 0 .endCase), .threads (.worker 0 (.leaveLoop 1#64))]

/-- An exception ends the worker. -/
def oneDiscardLost : List (GeneratorsEvent 1) :=
  oneDiscard ++ [.threads (.worker 0 (.raise .sehException)), .threads (.worker 0 .lockIo),
    .threads (.worker 0 .unlockIo)]

/-- A run of one iteration with one discard. -/
theorem discards_exact_one : ∃ trace s,
    Run (generatorsStep oneIteration) (.initial oneIteration 0#64) trace s ∧ s.discards = 1 ∧
      (s.printed = s.discards ↔ (∀ w, ¬ LosesDiscards w trace) ∧ s.discards < 2 ^ 64) := by
  have ends : (play (generatorsStep oneIteration) (.initial oneIteration 0#64)
      oneDiscardEnds).map (fun played => ((played.2.discarded 0).toNat,
        (played.2.workers 0).point.phase.hasReturned)) = some (1, true) := by
    decide +kernel
  obtain ⟨⟨trace, s⟩, played, same⟩ := Option.map_eq_some_iff.mp ends
  obtain ⟨discards, returned⟩ := by simpa only [Prod.mk.injEq] using same
  have joined (w : Fin 1) : (s.workers w).point.phase.hasReturned = true := by
    obtain rfl := Subsingleton.elim 0 w
    exact returned
  have run := Run.of_play _ oneDiscardEnds played
  exact ⟨trace, s, run, by rw [GeneratorsState.discards, Fin.sum_univ_one, discards],
    discards_exact_iff run joined⟩

/-- The only worker discards one attempt and then takes an access violation: main prints no
discards. -/
theorem discards_lost : ∃ trace s,
    Run (generatorsStep oneIteration) (.initial oneIteration 0#64) trace s ∧
      (∀ w, (s.workers w).point.phase.hasReturned = true) ∧ s.printed = 0 ∧ s.discards = 1 := by
  have ends : (play (generatorsStep oneIteration) (.initial oneIteration 0#64)
      oneDiscardLost).map (fun played => ((played.2.discarded 0).toNat, played.2.printed,
        (played.2.workers 0).point.phase.hasReturned)) = some (1, 0, true) := by
    decide +kernel
  obtain ⟨⟨trace, s⟩, played, same⟩ := Option.map_eq_some_iff.mp ends
  obtain ⟨discards, printed, returned⟩ := by simpa only [Prod.mk.injEq] using same
  refine ⟨trace, s, .of_play _ oneDiscardLost played, fun w => ?_, printed, ?_⟩
  · obtain rfl := Subsingleton.elim 0 w
    exact returned
  · rw [GeneratorsState.discards, Fin.sum_univ_one, discards]

end SevenFuzzer
