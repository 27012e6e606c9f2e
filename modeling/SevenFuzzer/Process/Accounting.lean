import SevenFuzzer.Library.Totals
import SevenFuzzer.Process.Threads

/-! # The accounts of a run

Main splits the iterations among the workers, and the workers count what they did and number
the files they write by shared counters. In whatever order their steps fall, a run in which
no worker takes an exception ends with every iteration counted, every divergence counted
once, and the files of each directory numbered from zero without a gap up to the limit, each
from a round of its own (`SevenFuzzer.exact_accounting`).
-/

namespace SevenFuzzer

open Transition

/-- The number of workers: what is asked for, or what the host suggests, but no more than there
are iterations, and at least one. -/
def clampThreads (iterations : BitVec 64) (threads hwConc : BitVec 32) : BitVec 32 :=
  let threads :=
    if threads = 0#32 then
      if hwConc = 0#32 then 4#32 else if 4#32 < hwConc then hwConc - 2#32 else hwConc
    else threads
  let threads :=
    if iterations < threads.setWidth 64 then
      (if iterations = 0#64 then 1#64 else iterations).setWidth 32
    else threads
  if threads = 0#32 then 1#32 else threads

/-- What main hands to a worker. -/
def shareOf (iterations : BitVec 64) (threads w : BitVec 32) : BitVec 64 :=
  let baseShare := iterations / threads.setWidth 64
  let remainder := iterations % threads.setWidth 64
  baseShare + if w.setWidth 64 < remainder then 1#64 else 0#64

theorem toNat_pos_of_ne_zero {width : Nat} {word : BitVec width} (nonzero : word ≠ 0) :
    0 < word.toNat :=
  Nat.pos_of_ne_zero fun zero => nonzero (BitVec.eq_of_toNat_eq zero)

/-- There is a worker. -/
theorem clampThreads_pos (iterations : BitVec 64) (threads hwConc : BitVec 32) :
    0 < (clampThreads iterations threads hwConc).toNat := by
  have last (word : BitVec 32) : 0 < (if word = 0#32 then 1#32 else word).toNat := by
    split
    · decide
    · rename_i nonzero
      exact toNat_pos_of_ne_zero nonzero
  exact last _

/-- There are no more workers than iterations. -/
theorem clampThreads_le {iterations : BitVec 64} (some_ : iterations ≠ 0#64)
    (threads hwConc : BitVec 32) :
    (clampThreads iterations threads hwConc).toNat ≤ iterations.toNat := by
  have positive := toNat_pos_of_ne_zero some_
  simp only [clampThreads, if_neg some_]
  generalize (if threads = 0#32 then
    if hwConc = 0#32 then 4#32 else if 4#32 < hwConc then hwConc - 2#32 else hwConc
    else threads) = wanted
  have wide : (wanted.setWidth 64).toNat = wanted.toNat := by
    have bound := wanted.isLt
    rw [BitVec.toNat_setWidth, Nat.mod_eq_of_lt (by omega)]
  by_cases fewer : iterations < wanted.setWidth 64
  · have narrow : (iterations.setWidth 32).toNat = iterations.toNat := by
      have below : iterations.toNat < wanted.toNat := wide ▸ fewer
      have bound := wanted.isLt
      rw [BitVec.toNat_setWidth, Nat.mod_eq_of_lt (by omega)]
    rw [if_pos fewer]
    split
    · exact positive
    · exact narrow.le
  · rw [if_neg fewer]
    split
    · exact positive
    · rw [← wide]
      exact Nat.le_of_not_lt fewer

/-- A share is the quotient, and one more for the first workers. -/
theorem toNat_shareOf (iterations : BitVec 64) {threads : BitVec 32} {w : Nat}
    (inside : w < threads.toNat) :
    (shareOf iterations threads (BitVec.ofNat 32 w)).toNat =
      iterations.toNat / threads.toNat + if w < iterations.toNat % threads.toNat then 1 else 0 := by
  have bound := threads.isLt
  have wide : (threads.setWidth 64).toNat = threads.toNat := by
    rw [BitVec.toNat_setWidth, Nat.mod_eq_of_lt (by omega)]
  have index : ((BitVec.ofNat 32 w).setWidth 64).toNat = w := by
    rw [BitVec.toNat_setWidth, BitVec.toNat_ofNat, Nat.mod_eq_of_lt (by omega),
      Nat.mod_eq_of_lt (by omega)]
  have first : (BitVec.ofNat 32 w).setWidth 64 < iterations % threads.setWidth 64 ↔
      w < iterations.toNat % threads.toNat := by
    rw [BitVec.lt_def, index, BitVec.toNat_umod, wide]
  have total := iterations.isLt
  simp only [shareOf]
  rw [BitVec.toNat_add, BitVec.toNat_udiv, wide]
  by_cases more : w < iterations.toNat % threads.toNat
  · have several : 1 < threads.toNat := by
      have rest := Nat.mod_lt iterations.toNat (show 0 < threads.toNat by omega)
      by_contra one
      obtain single : threads.toNat = 1 := by omega
      rw [single, Nat.mod_one] at more
      omega
    have half : iterations.toNat / threads.toNat ≤ iterations.toNat / 2 :=
      Nat.div_le_div_left several (by decide)
    rw [if_pos (first.mpr more), if_pos more, BitVec.toNat_ofNat, Nat.mod_eq_of_lt (by omega)]
  · have quotient := Nat.div_le_self iterations.toNat threads.toNat
    rw [if_neg (first.not.mpr more), if_neg more, BitVec.toNat_ofNat, Nat.zero_mod]
    exact Nat.mod_eq_of_lt (by omega)

variable {threads : Nat}

/-- Whether the lanes have been compared in the round. -/
def RoundPoint.compared : RoundPoint → Bool
  | .saving | .counting | .done => true
  | .io _ (.outlier _) | .io _ (.finding _) | .io _ .progress => true
  | _ => false

/-- Whether what the round writes has been written. -/
def RoundPoint.filed : RoundPoint → Bool
  | .counting | .done | .io _ .progress => true
  | _ => false

/-- The round has already counted its comparison. -/
def RoundPoint.counted : RoundPoint → Bool
  | .done | .io _ .progress => true
  | _ => false

/-- The rounds of a worker that are past some point of the round. -/
def roundsPast (past : RoundPoint → Bool) (share : Nat) : WorkerPoint → Nat
  | .loopTest i | .handler i _ _ => i
  | .inRound i point => i + (past point).toNat
  | .returned _ => share
  | _ => 0

/-- Whether an outlier is counted and its index not yet taken. -/
def saving : WorkerPoint → Nat
  | .inRound _ .saving => 1
  | _ => 0

/-- The number of a dump, if it is for this directory. -/
def numberIn (dir : OutputDir) : Option (OutputDir × BitVec 32) → Multiset Nat
  | some (dir', index) => if dir' = dir then {index.toNat} else 0
  | none => 0

/-- The number a worker has taken for a file that it has not written yet. -/
def pending (dir : OutputDir) : WorkerPoint → Multiset Nat
  | .inRound _ (.io _ work) => numberIn dir work.dump
  | _ => 0

/-- The numbers that have been given out in a directory. -/
def SharedCounters.issued (counters : SharedCounters) : OutputDir → Nat
  | .findings => counters.findingCount.toNat
  | .outliers => counters.unicornOutlierSaved.toNat

/-- A worker that has taken no exception is within its share. -/
def Within (share : Nat) : WorkerPoint → Prop
  | .loopTest i => i ≤ share
  | .inRound i _ => i < share
  | .handler _ _ _ | .returned (some _) => False
  | _ => True

/-- Nothing more will be written of a round. -/
def RoundFiled (i : Nat) : WorkerPoint → Prop
  | .loopTest j => i < j
  | .inRound j point => i < j ∨ i = j ∧ point.filed = true
  | .handler j _ _ => i ≤ j
  | .returned _ => True
  | _ => False

/-- The counters of rounds are far from the end of their range. -/
structure SharedCounters.Small (counters : SharedCounters) : Prop where
  findingCount : counters.findingCount.toNat < 2 ^ 31
  unicornOutlierSaved : counters.unicornOutlierSaved.toNat < 2 ^ 31
  unicornOutlierCount : counters.unicornOutlierCount.toNat < 2 ^ 31
  totalDone : counters.totalDone.toNat < 2 ^ 31

/-- What an operation adds to the completed comparisons. -/
def WorkerOp.comparisons : WorkerOp → Nat
  | .compare _ => 1
  | _ => 0

/-- A comparison that found something. -/
def WorkerOp.divergent : WorkerOp → Nat
  | .compare d => if d.divergences = [] then 0 else 1
  | _ => 0

/-- What a step of a worker adds to the counters and to the directories is what it adds to the
worker's own account. -/
structure Balanced (share : Nat) (point : WorkerPoint) (op : WorkerOp) (counters : SharedCounters)
    (result : WorkerResult) : Prop where
  within : Within share result.point
  done : result.counters.totalDone.toNat + roundsPast RoundPoint.counted share point =
    counters.totalDone.toNat + roundsPast RoundPoint.counted share result.point
  compared : roundsPast RoundPoint.compared share result.point =
    roundsPast RoundPoint.compared share point + op.comparisons
  divergent : result.counters.findingCount.toNat + result.counters.unicornOutlierCount.toNat =
    counters.findingCount.toNat + counters.unicornOutlierCount.toNat + op.divergent
  saved : result.counters.unicornOutlierSaved.toNat + saving result.point +
      counters.unicornOutlierCount.toNat =
    counters.unicornOutlierSaved.toNat + saving point + result.counters.unicornOutlierCount.toNat
  files : ∀ dir, numberIn dir result.dump + pending dir result.point +
      Multiset.range (min (counters.issued dir) 250) =
    pending dir point + Multiset.range (min (result.counters.issued dir) 250)
  filed : ∀ i, RoundFiled i point → RoundFiled i result.point
  wrote : result.dump ≠ none → RoundFiled point.localI result.point ∧
    ¬ RoundFiled point.localI point

/-- A step that changes no account. -/
theorem balanced_of_same {share : Nat} {point : WorkerPoint} {op : WorkerOp}
    {counters : SharedCounters} {result : WorkerResult} (within : Within share result.point)
    (dump : result.dump = none)
    (done : roundsPast RoundPoint.counted share result.point =
      roundsPast RoundPoint.counted share point)
    (compared : roundsPast RoundPoint.compared share result.point =
      roundsPast RoundPoint.compared share point)
    (comparisons : op.comparisons = 0 ∧ op.divergent = 0)
    (kept : result.counters.totalDone = counters.totalDone ∧
      result.counters.findingCount = counters.findingCount ∧
      result.counters.unicornOutlierCount = counters.unicornOutlierCount ∧
      result.counters.unicornOutlierSaved = counters.unicornOutlierSaved)
    (saved : saving result.point = saving point)
    (files : ∀ dir, pending dir result.point = pending dir point)
    (filed : ∀ i, RoundFiled i point → RoundFiled i result.point) :
    Balanced share point op counters result where
  within := within
  done := by rw [kept.1, done]
  compared := by rw [compared, comparisons.1, Nat.add_zero]
  divergent := by rw [kept.2.1, kept.2.2.1, comparisons.2, Nat.add_zero]
  saved := by rw [kept.2.2.1, kept.2.2.2, saved]
  files := fun dir => by
    have issued : result.counters.issued dir = counters.issued dir := by
      cases dir
      · exact congrArg BitVec.toNat kept.2.1
      · exact congrArg BitVec.toNat kept.2.2.2
    rw [dump, files, issued, numberIn, zero_add]
  filed := filed
  wrote := fun written => absurd dump written

/-- The signed comparison with the limit, below overflow. -/
theorem slt_limit {index : BitVec 32} (small : index.toNat < 2 ^ 31) :
    index.slt kMaxDumpFilesPerDir = decide (index.toNat < 250) := by
  have value : index.toInt = index.toNat := BitVec.toInt_eq_toNat_of_lt (by omega)
  have limit : kMaxDumpFilesPerDir.toInt = 250 := by decide
  rw [BitVec.slt, value, limit]
  exact decide_eq_decide.mpr (by omega)

/-- A counter with room counts. -/
theorem toNat_add_one {width : Nat} {word : BitVec width} (room : word.toNat + 1 < 2 ^ width) :
    (word + BitVec.ofNat width 1).toNat = word.toNat + 1 := by
  have one : 1 < 2 ^ width := by omega
  rw [BitVec.toNat_add, BitVec.toNat_ofNat, Nat.mod_eq_of_lt one, Nat.mod_eq_of_lt room]

/-- The number given out next, below the limit. -/
theorem range_limit_succ (issued : Nat) :
    (if issued < 250 then {issued} else 0) + Multiset.range (min issued 250) =
      Multiset.range (min (issued + 1) 250) := by
  split
  · rename_i below
    rw [Nat.min_eq_left below.le, Nat.min_eq_left below, Multiset.range_succ,
      Multiset.singleton_add]
  · rename_i above
    rw [Nat.min_eq_right (by omega), Nat.min_eq_right (by omega), zero_add]

/-- The end of a section: its file is written, and no longer pending. -/
theorem balanced_unlockSection {share i : Nat} {usesHw : Bool} {counters : SharedCounters}
    {work : RoundSection} (within : i < share) :
    Balanced share (.inRound i (.io true work)) .unlockIo counters
      { point := .inRound i work.next, usesHw, counters, dump := work.dump } where
  within := within
  done := by cases work <;> rfl
  compared := by cases work <;> rfl
  divergent := rfl
  saved := by cases work <;> rfl
  files := fun dir => by
    have next : pending dir (.inRound i work.next) = 0 := by cases work <;> rfl
    rw [next, add_zero]
    rfl
  filed := fun j filed => by
    refine filed.imp_right fun ⟨same, past⟩ => ⟨same, ?_⟩
    cases work <;> first | rfl | cases past
  wrote := fun written => by
    cases work with
    | outlier | finding =>
        exact ⟨.inr ⟨rfl, rfl⟩, fun filed => filed.elim (Nat.lt_irrefl i) fun past =>
          nomatch past.2⟩
    | running | harnessError | progress => exact absurd rfl written

section

variable {share i : Nat} {usesHw : Bool} {counters : SharedCounters}

/-- An outlier is counted, and its number not yet taken. -/
theorem balanced_outlier {hwOkThisRound : Bool} {d : RoundDivergences} (within : i < share)
    (diverged : d.divergences ≠ []) (small : counters.Small) :
    Balanced share (.inRound i (.comparing hwOkThisRound)) (.compare d) counters
      { point := .inRound i .saving
        usesHw
        counters :=
          { counters with unicornOutlierCount := counters.unicornOutlierCount + 1 } } := by
  have room := small.unicornOutlierCount
  have counted : (counters.unicornOutlierCount + 1#64).toNat =
      counters.unicornOutlierCount.toNat + 1 := toNat_add_one (by omega)
  refine ⟨within, rfl, rfl, ?_, ?_, ?_, ?_, fun written => absurd rfl written⟩
  · rw [WorkerOp.divergent, if_neg diverged, Nat.add_assoc, ← counted]
    rfl
  · simp only [saving]
    rw [Nat.add_zero, Nat.add_right_comm, Nat.add_assoc, ← counted]
    rfl
  · intro dir
    cases dir <;> rfl
  · exact fun _ filed => filed.imp_right fun past => nomatch past.2

/-- A finding is counted, and its number is pending if it is below the limit. -/
theorem balanced_finding {hwOkThisRound : Bool} {d : RoundDivergences} (within : i < share)
    (diverged : d.divergences ≠ []) (small : counters.Small) :
    Balanced share (.inRound i (.comparing hwOkThisRound)) (.compare d) counters
      { point := .inRound i (.io false (.finding counters.findingCount))
        usesHw
        counters := { counters with findingCount := counters.findingCount + 1 } } := by
  have room := small.findingCount
  have counted : (counters.findingCount + 1#32).toNat = counters.findingCount.toNat + 1 :=
    toNat_add_one (by omega)
  refine ⟨within, rfl, rfl, ?_, rfl, ?_, ?_, fun written => absurd rfl written⟩
  · rw [WorkerOp.divergent, if_neg diverged, Nat.add_right_comm, ← counted]
    rfl
  · intro dir
    simp only [numberIn, pending, RoundSection.dump, slt_limit room, zero_add]
    cases dir with
    | findings =>
        simp only [SharedCounters.issued]
        rw [show (counters.findingCount + 1).toNat = _ from counted, ← range_limit_succ]
        by_cases below : counters.findingCount.toNat < 250 <;> simp [below]
    | outliers =>
        by_cases below : counters.findingCount.toNat < 250 <;> simp [below, SharedCounters.issued]
  · exact fun _ filed => filed.imp_right fun past => nomatch past.2

/-- An outlier takes its number, which is pending if it is below the limit. -/
theorem balanced_save (within : i < share) (small : counters.Small) :
    Balanced share (.inRound i .saving) .save counters
      { point := .inRound i (if counters.unicornOutlierSaved.slt kMaxDumpFilesPerDir then
          .io false (.outlier counters.unicornOutlierSaved) else .counting)
        usesHw
        counters :=
          { counters with unicornOutlierSaved := counters.unicornOutlierSaved + 1 } } := by
  have room := small.unicornOutlierSaved
  have taken : (counters.unicornOutlierSaved + 1#32).toNat =
      counters.unicornOutlierSaved.toNat + 1 := toNat_add_one (by omega)
  have account (point : RoundPoint) (notSaving : saving (.inRound i point) = 0) :
      (counters.unicornOutlierSaved + 1).toNat + saving (.inRound i point) +
          counters.unicornOutlierCount.toNat =
        counters.unicornOutlierSaved.toNat + 1 + counters.unicornOutlierCount.toNat := by
    rw [notSaving, Nat.add_zero]
    exact congrArg (· + _) taken
  have given (dir : OutputDir) :
      (if counters.unicornOutlierSaved.toNat < 250 then
          numberIn dir (some (.outliers, counters.unicornOutlierSaved)) else 0) +
        Multiset.range (min (counters.issued dir) 250) =
      Multiset.range (min (SharedCounters.issued
        { counters with unicornOutlierSaved := counters.unicornOutlierSaved + 1 } dir) 250) := by
    cases dir with
    | findings => simp [numberIn, SharedCounters.issued]
    | outliers =>
        simp only [SharedCounters.issued]
        rw [show (counters.unicornOutlierSaved + 1).toNat = _ from taken, ← range_limit_succ]
        rfl
  rw [slt_limit room]
  by_cases below : counters.unicornOutlierSaved.toNat < 250
  · simp only [decide_eq_true below, ↓reduceIte]
    refine ⟨within, rfl, rfl, rfl, account _ rfl, fun dir => ?_, ?_, fun written =>
      absurd rfl written⟩
    · rw [← given dir, if_pos below]
      simp only [numberIn, pending, RoundSection.dump, zero_add]
    · exact fun _ filed => filed.imp_right fun past => nomatch past.2
  · simp only [decide_eq_false below, Bool.false_eq_true, ↓reduceIte]
    refine ⟨within, rfl, rfl, rfl, account _ rfl, fun dir => ?_, ?_, fun written =>
      absurd rfl written⟩
    · rw [← given dir, if_neg below]
      rfl
    · exact fun _ filed => filed.imp_right fun past => nomatch past.2

/-- A round is counted. -/
theorem balanced_count (within : i < share) (small : counters.Small) :
    Balanced share (.inRound i .counting) .count counters
      { point := .inRound i
          (if (counters.totalDone + 1) % 5000#64 = 0#64 then .io false .progress else .done)
        usesHw
        counters := { counters with totalDone := counters.totalDone + 1 } } := by
  have room := small.totalDone
  have counted : (counters.totalDone + 1#64).toNat = counters.totalDone.toNat + 1 :=
    toNat_add_one (by omega)
  split
  all_goals
    refine ⟨within, ?_, rfl, rfl, rfl, fun _ => rfl, ?_, fun written => absurd rfl written⟩
    · change (counters.totalDone + 1#64).toNat + i = counters.totalDone.toNat + (i + 1)
      rw [counted, Nat.add_right_comm, Nat.add_assoc]
    · exact fun _ filed => filed.imp_right fun past => ⟨past.1, rfl⟩

end

/-- **One operation** adds to each counter what it adds to its worker's place in the round. -/
theorem OpMove.balanced {share : Nat} {verboseFrom : BitVec 64} {usesHw : Bool}
    {counters : SharedCounters} {point : WorkerPoint} {op : WorkerOp} {result : WorkerResult}
    (moves : OpMove share verboseFrom usesHw counters point op result)
    (within : Within share point) (uncaught : ∀ thrown, op ≠ .raise thrown)
    (small : counters.Small) : Balanced share point op counters result := by
  cases moves with
  | start | openSession | skipSession | lockSession | unlockSession =>
      exact balanced_of_same (by simp [Within]) rfl rfl rfl ⟨rfl, rfl⟩ ⟨rfl, rfl, rfl, rfl⟩ rfl
        (fun _ => rfl) (fun _ filed => filed.elim)
  | beginCase inside =>
      exact balanced_of_same inside rfl rfl rfl ⟨rfl, rfl⟩ ⟨rfl, rfl, rfl, rfl⟩ rfl
        (fun _ => rfl) (fun _ filed => .inl filed)
  | leaveLoop spent =>
      obtain rfl := Nat.le_antisymm within spent
      exact balanced_of_same trivial rfl rfl rfl ⟨rfl, rfl⟩ ⟨rfl, rfl, rfl, rfl⟩ rfl
        (fun _ => rfl) (fun _ _ => trivial)
  | endCase =>
      exact balanced_of_same within rfl rfl rfl ⟨rfl, rfl⟩ ⟨rfl, rfl, rfl, rfl⟩ rfl
        (fun _ => rfl)
        (fun _ filed => filed.elim Nat.lt_succ_of_lt fun past => past.1 ▸ Nat.lt_succ_self _)
  | raise => exact absurd rfl (uncaught _)
  | generate =>
      split
      all_goals
        exact balanced_of_same within rfl rfl rfl ⟨rfl, rfl⟩ ⟨rfl, rfl, rfl, rfl⟩ rfl
          (fun _ => rfl) (fun _ filed => filed.imp_right fun past => nomatch past.2)
  | @lockSection i work =>
      exact balanced_of_same within rfl (by cases work <;> rfl) (by cases work <;> rfl) ⟨rfl, rfl⟩
        ⟨rfl, rfl, rfl, rfl⟩ rfl (fun _ => rfl) (fun _ filed => by cases work <;> exact filed)
  | unlockSection => exact balanced_unlockSection within
  | lockCompute | unlockCompute | harnessError | tested =>
      exact balanced_of_same within rfl rfl rfl ⟨rfl, rfl⟩ ⟨rfl, rfl, rfl, rfl⟩ rfl
        (fun _ => rfl) (fun _ filed => filed.imp_right fun past => nomatch past.2)
  | outlier only =>
      exact balanced_outlier within (RoundDivergences.divergences_ne_nil only) small
  | finding _ diverged => exact balanced_finding within diverged small
  | agree agreed =>
      refine ⟨within, rfl, rfl, ?_, rfl, fun _ => rfl, ?_, fun written => absurd rfl written⟩
      · rw [WorkerOp.divergent, if_pos agreed, Nat.add_zero]
      · exact fun _ filed => filed.imp_right fun past => nomatch past.2
  | save => exact balanced_save within small
  | count => exact balanced_count within small
  | lockHandler | unlockHandler => exact within.elim

/-! ## The books of a run -/

/-- What an event adds to the completed comparisons. -/
def ThreadsEvent.comparisons : ThreadsEvent threads → Nat
  | .worker _ op => op.comparisons
  | _ => 0

/-- What an event adds to the divergent rounds. -/
def ThreadsEvent.divergent : ThreadsEvent threads → Nat
  | .worker _ op => op.divergent
  | _ => 0

/-- The rounds of a run that were compared. -/
def comparedRounds (trace : List (ThreadsState threads × ThreadsEvent threads)) : Nat :=
  (trace.map fun moment => moment.2.comparisons).sum

/-- The rounds of a run with at least one divergence. -/
def divergentRounds (trace : List (ThreadsState threads × ThreadsEvent threads)) : Nat :=
  (trace.map fun moment => moment.2.divergent).sum

/-- The numbers of the files written to a directory. -/
def filesIn (dir : OutputDir) (dumps : List (DumpFile threads)) : List Nat :=
  (dumps.filter (·.dir = dir)).map (·.index.toNat)

/-- The round a file is about. -/
def DumpFile.round (dump : DumpFile threads) : Fin threads × Nat := (dump.worker, dump.localI)

/-- No worker took an exception path. -/
def Uncaught (trace : List (ThreadsState threads × ThreadsEvent threads)) : Prop :=
  ∀ state w thrown, (state, .worker w (.raise thrown)) ∉ trace

/-- A worker throws. -/
def ThreadsEvent.raises : ThreadsEvent threads → Bool
  | .worker _ (.raise _) => true
  | _ => false

/-- Whether a run is uncaught can be computed. -/
theorem uncaught_of_all {trace : List (ThreadsState threads × ThreadsEvent threads)}
    (all : (trace.all fun moment => !moment.2.raises) = true) : Uncaught trace := by
  intro state w thrown member
  exact Bool.false_ne_true (List.all_eq_true.mp all _ member)

/-- The shared counters and the directories agree with the accounts of the workers. -/
structure Accounts (cfg : ThreadsConfig threads)
    (trace : List (ThreadsState threads × ThreadsEvent threads)) (s : ThreadsState threads) :
    Prop where
  within : ∀ w, Within (cfg.share w) (s.workers w).point
  done : s.counters.totalDone.toNat =
    ∑ w, roundsPast RoundPoint.counted (cfg.share w) (s.workers w).point
  compared : comparedRounds trace =
    ∑ w, roundsPast RoundPoint.compared (cfg.share w) (s.workers w).point
  divergent : s.counters.findingCount.toNat + s.counters.unicornOutlierCount.toNat =
    divergentRounds trace
  saved : s.counters.unicornOutlierSaved.toNat + ∑ w, saving (s.workers w).point =
    s.counters.unicornOutlierCount.toNat
  files : ∀ dir, (filesIn dir s.dumps : Multiset Nat) + ∑ w, pending dir (s.workers w).point =
    Multiset.range (min (s.counters.issued dir) 250)
  filed : ∀ dump ∈ s.dumps, RoundFiled dump.localI (s.workers dump.worker).point
  distinct : (s.dumps.map DumpFile.round).Nodup

variable {cfg : ThreadsConfig threads} {s next : ThreadsState threads}
  {event : ThreadsEvent threads} {trace : List (ThreadsState threads × ThreadsEvent threads)}

/-- Nothing is counted before the start. -/
theorem accounts_initial (cfg : ThreadsConfig threads) (clock : BitVec 64) :
    Accounts cfg [] (.initial cfg clock) where
  within := fun _ => trivial
  done := by simp [ThreadsState.initial, roundsPast]
  compared := by simp [ThreadsState.initial, roundsPast, comparedRounds]
  divergent := rfl
  saved := by simp [ThreadsState.initial, saving]
  files := fun dir => by cases dir <;> simp [ThreadsState.initial, pending, filesIn,
    SharedCounters.issued]
  filed := fun _ listed => absurd listed List.not_mem_nil
  distinct := List.nodup_nil

/-- Only compared rounds diverge. -/
theorem divergentRounds_le (trace : List (ThreadsState threads × ThreadsEvent threads)) :
    divergentRounds trace ≤ comparedRounds trace := by
  refine List.sum_le_sum fun moment _ => ?_
  cases moment.2 with
  | worker w op =>
      cases op with
      | compare d =>
          simp only [ThreadsEvent.divergent, ThreadsEvent.comparisons, WorkerOp.divergent,
            WorkerOp.comparisons]
          split <;> omega
      | _ => exact Nat.le_refl 0
  | _ => exact Nat.le_refl 0

/-- A worker is past no more rounds than its share. -/
theorem roundsPast_le {share : Nat} {point : WorkerPoint} (within : Within share point)
    (past : RoundPoint → Bool) : roundsPast past share point ≤ share := by
  cases point with
  | inRound i at_ =>
      have below : i < share := within
      have one := Bool.toNat_le (past at_)
      simp only [roundsPast]
      omega
  | loopTest i => exact within
  | handler => exact within.elim
  | returned => exact Nat.le_refl share
  | _ => exact Nat.zero_le share

/-- The shares are all there is to do. -/
theorem sum_share_eq (some_ : 0 < threads) : ∑ w, cfg.share w = cfg.iterations.toNat :=
  Totals.sum_share some_ _

/-- No counter of the rounds exceeds the iterations. -/
theorem Accounts.small (accounts : Accounts cfg trace s) (some_ : 0 < threads)
    (few : cfg.iterations.toNat < 2 ^ 31) : s.counters.Small := by
  have rounds (past : RoundPoint → Bool) :
      ∑ w, roundsPast past (cfg.share w) (s.workers w).point ≤ cfg.iterations.toNat :=
    (Finset.sum_le_sum fun w _ => roundsPast_le (accounts.within w) past).trans
      (sum_share_eq some_).le
  have done := accounts.done.le.trans (rounds _)
  have compared := accounts.compared.le.trans (rounds _)
  have divergent := accounts.divergent
  have fewer := divergentRounds_le trace
  have saved := accounts.saved
  exact ⟨by omega, by omega, by omega, by omega⟩

/-- A step that no worker accounts for. -/
theorem Accounts.append (accounts : Accounts cfg trace s)
    (points : ∀ v, (next.workers v).point = (s.workers v).point)
    (counters : next.counters = s.counters) (dumps : next.dumps = s.dumps)
    (quiet : event.comparisons = 0 ∧ event.divergent = 0) :
    Accounts cfg (trace ++ [(s, event)]) next := by
  refine ⟨?_, ?_, ?_, ?_, ?_, ?_, ?_, ?_⟩
  all_goals simp only [points, counters, dumps]
  · exact accounts.within
  · exact accounts.done
  · rw [← accounts.compared, comparedRounds, List.map_append, List.sum_append]
    simp only [List.map_cons, List.map_nil, List.sum_singleton, quiet.1, Nat.add_zero]
    rfl
  · rw [accounts.divergent, divergentRounds, divergentRounds, List.map_append, List.sum_append]
    simp only [List.map_cons, List.map_nil, List.sum_singleton, quiet.2, Nat.add_zero]
  · exact accounts.saved
  · exact accounts.files
  · exact accounts.filed
  · exact accounts.distinct

/-- A file is added to its directory. -/
theorem filesIn_append (dir : OutputDir) (dumps : List (DumpFile threads))
    (dump : Option (OutputDir × BitVec 32)) (w : Fin threads) (i : Nat) :
    (filesIn dir
      (dumps ++ (dump.map fun dump => (⟨dump.1, dump.2, w, i⟩ : DumpFile threads)).toList) :
      Multiset Nat) = filesIn dir dumps + numberIn dir dump := by
  rw [filesIn, List.filter_append, List.map_append, ← Multiset.coe_add]
  congr 1
  cases dump with
  | none => rfl
  | some dump =>
      by_cases here : dump.1 = dir <;> simp [numberIn, here]

/-- An operation of a worker keeps the accounts. -/
theorem accounts_worker {w : Fin threads} {op : WorkerOp} {result : WorkerResult}
    (accounts : Accounts cfg trace s)
    (balanced : Balanced (cfg.share w) (s.workers w).point op s.counters result)
    {worker : Worker} (point : worker.point = result.point)
    (workers : next.workers = Function.update s.workers w worker)
    (counters : next.counters = result.counters)
    (dumps : next.dumps = s.dumps ++
      (result.dump.map fun dump => ⟨dump.1, dump.2, w, (s.workers w).point.localI⟩).toList) :
    Accounts cfg (trace ++ [(s, .worker w op)]) next := by
  have moved {Value : Type} (read : Fin threads → WorkerPoint → Value) :
      (fun v => read v (next.workers v).point) =
        Function.update (fun v => read v (s.workers v).point) w (read w result.point) := by
    rw [workers, ← point]
    exact point_update read s.workers w worker
  have own : (next.workers w).point = result.point := by
    rw [workers, Function.update_self, point]
  have others {v : Fin threads} (other : v ≠ w) : next.workers v = s.workers v := by
    rw [workers, Function.update_of_ne other]
  refine ⟨fun v => ?_, ?_, ?_, ?_, ?_, ?_, fun dump listed => ?_, ?_⟩
  · by_cases same : v = w
    · subst same
      rw [own]
      exact balanced.within
    · rw [others same]
      exact accounts.within v
  · rw [counters, moved fun v => roundsPast RoundPoint.counted (cfg.share v)]
    exact Totals.sum_of_balanced accounts.done balanced.done
  · rw [moved fun v => roundsPast RoundPoint.compared (cfg.share v)]
    refine Totals.sum_of_balanced accounts.compared ?_
    rw [balanced.compared, comparedRounds, List.map_append, List.sum_append]
    simp only [List.map_cons, List.map_nil, List.sum_singleton, comparedRounds,
      ThreadsEvent.comparisons]
    omega
  · rw [counters, balanced.divergent, accounts.divergent, divergentRounds, divergentRounds,
      List.map_append, List.sum_append]
    rfl
  · have total : Finset.univ.sum (Function.update (fun v => saving (s.workers v).point) w
          (saving result.point)) + saving (s.workers w).point =
        (∑ v, saving (s.workers v).point) + saving result.point := Totals.sum_update _ w _
    have before := accounts.saved
    have change := balanced.saved
    rw [counters, moved fun _ => saving]
    omega
  · intro dir
    have total := Totals.sum_update (fun v => pending dir (s.workers v).point) w
      (pending dir result.point)
    rw [counters, moved fun _ => pending dir, dumps, filesIn_append]
    refine add_right_cancel (?_ : _ + pending dir (s.workers w).point = _)
    calc _ = (filesIn dir s.dumps : Multiset Nat) + numberIn dir result.dump +
            ((∑ v, Function.update (fun v => pending dir (s.workers v).point) w
              (pending dir result.point) v) + pending dir (s.workers w).point) := add_assoc ..
      _ = (filesIn dir s.dumps : Multiset Nat) + numberIn dir result.dump +
            ((∑ v, pending dir (s.workers v).point) + pending dir result.point) := by rw [total]
      _ = numberIn dir result.dump + pending dir result.point +
            ((filesIn dir s.dumps : Multiset Nat) + ∑ v, pending dir (s.workers v).point) := by
          ac_rfl
      _ = Multiset.range (min (result.counters.issued dir) 250) +
            pending dir (s.workers w).point := by
          rw [accounts.files dir, balanced.files dir, add_comm]
  · rw [dumps] at listed
    rcases List.mem_append.mp listed with earlier | new
    · by_cases same : dump.worker = w
      · have filed := accounts.filed dump earlier
        rw [same] at filed ⊢
        rw [own]
        exact balanced.filed _ filed
      · rw [others same]
        exact accounts.filed dump earlier
    · obtain ⟨written, dumped, rfl⟩ := Option.map_eq_some_iff.mp (Option.mem_toList.mp new)
      dsimp only
      rw [own]
      exact (balanced.wrote (Option.ne_none_iff_exists'.mpr ⟨_, dumped⟩)).1
  · rw [dumps, List.map_append]
    cases dumped : result.dump with
    | none => simpa using accounts.distinct
    | some written =>
        have unfiled := (balanced.wrote (Option.ne_none_iff_exists'.mpr ⟨_, dumped⟩)).2
        refine List.nodup_append.mpr ⟨accounts.distinct, List.nodup_singleton _, ?_⟩
        rintro _ earlier _ new rfl
        obtain ⟨dump, listed, same⟩ := List.mem_map.mp earlier
        rw [List.mem_singleton.mp new] at same
        obtain ⟨worker, localI⟩ := Prod.mk.inj same
        have filed := accounts.filed dump listed
        rw [worker, localI] at filed
        exact unfiled filed

/-- **Every step** keeps the accounts. -/
theorem accounts_step (accounts : Accounts cfg trace s) (some_ : 0 < threads)
    (few : cfg.iterations.toNat < 2 ^ 31) (uncaught : ∀ w thrown, event ≠ .worker w (.raise thrown))
    (moved : threadsStep cfg s event = some next) :
    Accounts cfg (trace ++ [(s, event)]) next := by
  cases threadsStep_move moved with
  | worker awake moves =>
      have balanced := moves.balanced (accounts.within _)
        (fun thrown raised => uncaught _ thrown (congrArg _ raised)) (accounts.small some_ few)
      exact accounts_worker accounts balanced rfl rfl rfl rfl
  | @hang w =>
      refine accounts.append (fun v => ?_) rfl rfl ⟨rfl, rfl⟩
      by_cases same : v = w
      · subst same
        simp only [Function.update_self]
      · simp only [Function.update_of_ne same]
  | watchdogLock | report | process =>
      exact accounts.append (fun _ => rfl) rfl rfl ⟨rfl, rfl⟩

/-- **Every run** keeps the accounts. -/
theorem accounts_of_run {clock : BitVec 64} (some_ : 0 < threads)
    (few : cfg.iterations.toNat < 2 ^ 31)
    (run : Run (threadsStep cfg) (.initial cfg clock) trace s) (uncaught : Uncaught trace) :
    Accounts cfg trace s := by
  refine run.history_invariant (fun trace s => Uncaught trace → Accounts cfg trace s)
    (fun _ => accounts_initial cfg clock)
    (fun trace s event next kept moved uncaught => ?_) uncaught
  refine accounts_step (kept fun state w thrown member => ?_) some_ few
    (fun w thrown raised => ?_) moved
  · exact uncaught state w thrown (List.mem_append_left _ member)
  · exact uncaught s w thrown (List.mem_append_right _ (List.mem_singleton.mpr (raised ▸ rfl)))

/-! ## The result -/

/-- In a run without exceptions, a worker that has returned has caught nothing. -/
theorem Accounts.joined (accounts : Accounts cfg trace s)
    (joined : ∀ w, (s.workers w).point.phase.hasReturned = true) (w : Fin threads) :
    (s.workers w).point = .returned none := by
  have within := accounts.within w
  have returned := joined w
  cases point : (s.workers w).point with
  | returned caught =>
      rw [point] at within
      cases caught with
      | none => rfl
      | some thrown => exact within.elim
  | _ =>
      rw [point] at returned
      cases returned

/-- Every iteration is counted, every divergent round is counted once, as a finding or as an
outlier, and each directory has received the files from zero up to its count or the limit, once
each, every file in another round. -/
structure AccountsSettled (iterations : BitVec 64)
    (trace : List (ThreadsState threads × ThreadsEvent threads)) (s : ThreadsState threads) :
    Prop where
  done : s.counters.totalDone = iterations
  divergent : s.counters.findingCount.toNat + s.counters.unicornOutlierCount.toNat =
    divergentRounds trace
  findings : (filesIn .findings s.dumps).Perm
    (List.range (min s.counters.findingCount.toNat kMaxDumpFilesPerDir.toNat))
  outliers : (filesIn .outliers s.dumps).Perm
    (List.range (min s.counters.unicornOutlierCount.toNat kMaxDumpFilesPerDir.toNat))
  distinct : (s.dumps.map DumpFile.round).Nodup

/-- Once all workers have returned, the accounts are settled. -/
theorem Accounts.settled (accounts : Accounts cfg trace s) (some_ : 0 < threads)
    (joined : ∀ w, (s.workers w).point.phase.hasReturned = true) {iterations : BitVec 64}
    (same : cfg.iterations = iterations) : AccountsSettled iterations trace s := by
  subst same
  have returned := accounts.joined joined
  have files (dir : OutputDir) : (filesIn dir s.dumps : Multiset Nat) =
      Multiset.range (min (s.counters.issued dir) 250) := by
    rw [← accounts.files dir]
    simp only [returned, pending, Finset.sum_const_zero, add_zero]
  have saved : s.counters.unicornOutlierSaved.toNat = s.counters.unicornOutlierCount.toNat := by
    rw [← accounts.saved]
    simp only [returned, saving, Finset.sum_const_zero, Nat.add_zero]
  refine ⟨BitVec.eq_of_toNat_eq ?_, accounts.divergent, Multiset.coe_eq_coe.mp (files .findings),
    Multiset.coe_eq_coe.mp ?_, accounts.distinct⟩
  · rw [accounts.done, ← sum_share_eq some_]
    simp only [returned, roundsPast]
  · rw [← saved]
    exact files .outliers

/-- For every number of iterations below the range of the counters and every number of threads
asked for: each worker has something to do if there is anything, the shares add up to the
iterations, and a run in which no worker took an exception path is settled when all workers have
returned. -/
theorem exact_accounting {iterations : BitVec 64} (few : iterations.toNat < 2 ^ 31)
    (requested hwConc : BitVec 32) {threads : Nat}
    (clamped : (clampThreads iterations requested hwConc).toNat = threads) :
    (iterations ≠ 0#64 → ∀ w : Fin threads, 1 ≤
      (shareOf iterations (clampThreads iterations requested hwConc) (BitVec.ofNat 32 w)).toNat) ∧
    ∑ w : Fin threads,
      (shareOf iterations (clampThreads iterations requested hwConc) (BitVec.ofNat 32 w)).toNat =
        iterations.toNat ∧
    ∀ (cfg : ThreadsConfig threads) (clock : BitVec 64)
      (trace : List (ThreadsState threads × ThreadsEvent threads)) (s : ThreadsState threads),
      cfg.iterations = iterations → Run (threadsStep cfg) (.initial cfg clock) trace s →
      Uncaught trace → (∀ w, (s.workers w).point.phase.hasReturned = true) →
        (∀ w, cfg.share w = (shareOf iterations (clampThreads iterations requested hwConc)
          (BitVec.ofNat 32 w)).toNat) ∧ AccountsSettled iterations trace s := by
  subst clamped
  have some_ := clampThreads_pos iterations requested hwConc
  have shares (w : Fin (clampThreads iterations requested hwConc).toNat) :=
    toNat_shareOf iterations w.isLt
  refine ⟨fun nonzero w => ?_, ?_, fun cfg clock trace s same run uncaught joined => ⟨?_, ?_⟩⟩
  · rw [shares]
    exact Nat.le_add_right_of_le (Nat.div_pos (clampThreads_le nonzero requested hwConc) some_)
  · simp only [shares]
    exact Totals.sum_share some_ _
  · intro w
    rw [shares, RunConfig.share, same]
  · have few' : cfg.iterations.toNat < 2 ^ 31 := by
      rw [same]
      exact few
    exact (accounts_of_run some_ few' run uncaught).settled some_ joined same

/-- One worker and one iteration, without the hardware lane. -/
def oneIteration : ThreadsConfig 1 where
  iterations := 1#64
  watchdogSeconds := 0#32
  useHw := false
  verboseFrom := 0#64

/-- The steps of its only round, in which seven and Unicorn differ. -/
def oneFinding : List (ThreadsEvent 1) :=
  [.worker 0 .start, .worker 0 (.setUp false), .worker 0 .beginCase, .worker 0 .generate,
    .worker 0 .lockIo, .worker 0 .unlockIo, .worker 0 .lockCompute, .worker 0 .unlockCompute,
    .worker 0 (.runHardware false), .worker 0 (.compare ⟨[⟨"seven-vs-unicorn", []⟩], [], []⟩),
    .worker 0 .lockIo, .worker 0 .unlockIo, .worker 0 .count, .worker 0 .endCase,
    .worker 0 (.leaveLoop 0#64)]

/-- A run of one iteration with one finding. -/
theorem exact_accounting_one_finding :
    ∃ trace s, Run (threadsStep oneIteration) (.initial oneIteration 0#64) trace s ∧
      divergentRounds trace = 1 ∧ AccountsSettled 1#64 trace s := by
  have ends : (play (threadsStep oneIteration) (.initial oneIteration 0#64) oneFinding).map
      (fun played => (divergentRounds played.1, played.1.all fun moment => !moment.2.raises,
        (played.2.workers 0).point.phase.hasReturned)) = some (1, true, true) := by
    decide +kernel
  obtain ⟨⟨trace, s⟩, played, same⟩ := Option.map_eq_some_iff.mp ends
  obtain ⟨divergent, uncaught, returned⟩ := by simpa only [Prod.mk.injEq] using same
  have joined (w : Fin 1) : (s.workers w).point.phase.hasReturned = true := by
    obtain rfl := Subsingleton.elim 0 w
    exact returned
  have few : (1#64).toNat < 2 ^ 31 := by decide
  have clamped : (clampThreads 1#64 0#32 0#32).toNat = 1 := by decide
  exact ⟨trace, s, .of_play _ oneFinding played, divergent,
    ((exact_accounting few 0#32 0#32 clamped).2.2 oneIteration 0#64 trace s rfl
      (.of_play _ oneFinding played) (uncaught_of_all uncaught) joined).2⟩

end SevenFuzzer
