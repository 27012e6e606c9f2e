import SevenFuzzer.Process.Accounting
import Mathlib.Data.Nat.Count

/-! # What the schedule cannot change

The generators are seeded by worker, so what a round brings depends on its worker and its number
in that worker's loop and not on when it runs. Given what every round brings, every run in which
all workers return without an exception ends with the same counters, and with a file for the same
rounds while a directory is not full; only which number a file gets is left to the schedule
(`SevenFuzzer.schedule_independent`).
-/

namespace SevenFuzzer

open Transition

variable {threads : Nat}

/-- What the rounds bring, by worker and local iteration. -/
structure RoundTable (threads : Nat) where
  sessionStarted : Fin threads → Bool
  setupOk : Fin threads → Nat → Bool
  divergences : Fin threads → Nat → RoundDivergences
  discards : Fin threads → BitVec 64

section

variable (table : RoundTable threads) (cfg : ThreadsConfig threads)

/-- `worker_use_hw` after the set-up. -/
def RoundTable.usesHw (w : Fin threads) : Bool :=
  cfg.useHw && table.sessionStarted w

/-- The hardware lane is asked in this round and does not fail. -/
def RoundTable.hwOk (w : Fin threads) (i : Nat) : Bool :=
  table.usesHw cfg w && table.setupOk w i

/-- The hardware lane is asked in this round and fails. -/
def RoundTable.hwFails (w : Fin threads) (i : Nat) : Bool :=
  table.usesHw cfg w && !table.setupOk w i

/-- The rounds that count for a directory. -/
def RoundTable.filesTo (dir : OutputDir) (w : Fin threads) (i : Nat) : Bool :=
  let d := table.divergences w i
  let outlier := decide (d.unicornOnlyOutlier (table.hwOk cfg w i))
  match dir with
  | .outliers => outlier
  | .findings => !outlier && decide (d.divergences ≠ [])

/-- A step of a worker in a round brings what the table says, and is no exception. -/
def RoundTable.Brings (w : Fin threads) (localI : Nat) : WorkerOp → Prop
  | .setUp sessionStarted => sessionStarted = table.sessionStarted w
  | .runHardware setupOk => setupOk = table.setupOk w localI
  | .compare d => d = table.divergences w localI
  | .leaveLoop discards => discards = table.discards w
  | .raise _ => False
  | _ => True

/-- An event brings what the table says of its round. -/
def RoundTable.Allows (s : ThreadsState threads) : ThreadsEvent threads → Prop
  | .worker w op => table.Brings w (s.workers w).point.localI op
  | _ => True

/-- Every event of a trace brings what the table says. -/
def RoundTable.Follows (trace : List (ThreadsState threads × ThreadsEvent threads)) : Prop :=
  ∀ moment ∈ trace, table.Allows moment.1 moment.2

/-- How many rounds of a kind all workers have. -/
def totalRounds (kind : Fin threads → Nat → Bool) : Nat :=
  ∑ w, Nat.count (fun i => kind w i = true) (cfg.share w)

/-- What the counters come to. -/
def RoundTable.totals : SharedCounters where
  findingCount := totalRounds cfg (table.filesTo cfg .findings)
  unicornOutlierSaved := totalRounds cfg (table.filesTo cfg .outliers)
  unicornOutlierCount := totalRounds cfg (table.filesTo cfg .outliers)
  hwHarnessErrors := totalRounds cfg (table.hwFails cfg)
  generatorDiscards := ∑ w, table.discards w
  totalDone := totalRounds cfg fun _ _ => true

/-- Whether the hardware lane has run in the round. -/
def RoundPoint.tested : RoundPoint → Bool
  | .comparing _ | .io _ .harnessError => true
  | point => point.compared

/-- Whether an outlier of the round has its number. -/
def RoundPoint.numbered : RoundPoint → Bool
  | .saving => false
  | point => point.compared

/-- The rounds of a kind of a worker that are past some point. -/
def countPast (past : RoundPoint → Bool) (share : Nat) (kind : Nat → Bool) (point : WorkerPoint) :
    Nat :=
  Nat.count (fun i => kind i = true) (roundsPast past share point)

/-- What a worker has added to the counters. -/
def RoundTable.added (w : Fin threads) (point : WorkerPoint) : SharedCounters where
  findingCount := countPast RoundPoint.compared (cfg.share w) (table.filesTo cfg .findings w) point
  unicornOutlierSaved :=
    countPast RoundPoint.numbered (cfg.share w) (table.filesTo cfg .outliers w) point
  unicornOutlierCount :=
    countPast RoundPoint.compared (cfg.share w) (table.filesTo cfg .outliers w) point
  hwHarnessErrors := countPast RoundPoint.tested (cfg.share w) (table.hwFails cfg w) point
  generatorDiscards := if point = .returned none then table.discards w else 0
  totalDone := countPast RoundPoint.counted (cfg.share w) (fun _ => true) point

/-- What is known of a round at a point of it. -/
def RoundTable.KnownAt (w : Fin threads) (i : Nat) : RoundPoint → Prop
  | .io _ .harnessError => table.hwFails cfg w i = true
  | .comparing hwOkThisRound => hwOkThisRound = table.hwOk cfg w i
  | .saving | .io _ (.outlier _) => table.filesTo cfg .outliers w i = true
  | .io _ (.finding _) => table.filesTo cfg .findings w i = true
  | _ => True

/-- A worker that follows the table is where the table has it. -/
def RoundTable.Tracks (w : Fin threads) (usesHw : Bool) : WorkerPoint → Prop
  | .notStarted | .settingUp => usesHw = cfg.useHw
  | .session _ => usesHw = table.usesHw cfg w
  | .loopTest i => usesHw = table.usesHw cfg w ∧ i ≤ cfg.share w
  | .inRound i point => usesHw = table.usesHw cfg w ∧ i < cfg.share w ∧ table.KnownAt cfg w i point
  | .handler _ _ _ | .returned (some _) => False
  | .returned none => True

end

variable {table : RoundTable threads} {cfg : ThreadsConfig threads} {w : Fin threads}
  {verboseFrom : BitVec 64} {usesHw : Bool} {counters : SharedCounters} {point : WorkerPoint}
  {op : WorkerOp} {result : WorkerResult}

/-- A round is filed as an outlier exactly if triage says so. -/
theorem filesTo_outliers {d : RoundDivergences} {i : Nat} (brings : d = table.divergences w i) :
    table.filesTo cfg .outliers w i = true ↔ d.unicornOnlyOutlier (table.hwOk cfg w i) := by
  rw [brings]
  exact decide_eq_true_iff

/-- It is filed as a finding exactly if it diverges and is no outlier. -/
theorem filesTo_findings {d : RoundDivergences} {i : Nat} (brings : d = table.divergences w i) :
    table.filesTo cfg .findings w i = true ↔
      ¬ d.unicornOnlyOutlier (table.hwOk cfg w i) ∧ d.divergences ≠ [] := by
  rw [brings, RoundTable.filesTo]
  simp only [Bool.and_eq_true, Bool.not_eq_true', decide_eq_false_iff_not, decide_eq_true_iff]

/-- A worker that brings what the table says stays on the table's path. -/
theorem tracks_step (moves : OpMove (cfg.share w) verboseFrom usesHw counters point op result)
    (tracks : table.Tracks cfg w usesHw point) (brings : table.Brings w point.localI op) :
    table.Tracks cfg w result.usesHw result.point := by
  cases moves with
  | start => exact tracks
  | openSession wanted =>
      have asked : cfg.useHw = true := tracks.symm.trans wanted
      change _ = table.usesHw cfg w
      rw [RoundTable.usesHw, asked, Bool.true_and]
      exact brings
  | skipSession unwanted =>
      have unasked : cfg.useHw = false := tracks.symm.trans unwanted
      refine ⟨?_, Nat.zero_le _⟩
      rw [RoundTable.usesHw, unasked, Bool.false_and]
      exact unwanted
  | lockSession => exact tracks
  | unlockSession => exact ⟨tracks, Nat.zero_le _⟩
  | beginCase within => exact ⟨tracks.1, within, trivial⟩
  | leaveLoop => exact trivial
  | endCase => exact ⟨tracks.1, tracks.2.1⟩
  | raise => exact brings.elim
  | generate =>
      refine ⟨tracks.1, tracks.2.1, ?_⟩
      split
      · trivial
      · trivial
  | @lockSection i work => cases work <;> exact tracks
  | @unlockSection i work =>
      obtain ⟨uses, within, known⟩ := tracks
      refine ⟨uses, within, ?_⟩
      cases work with
      | harnessError =>
          obtain ⟨-, failed⟩ := Bool.and_eq_true_iff.mp known
          have failed : table.setupOk w i = false := by simpa only [Bool.not_eq_true'] using failed
          change false = (table.usesHw cfg w && table.setupOk w i)
          rw [failed, Bool.and_false]
      | _ => trivial
  | lockCompute | unlockCompute => exact ⟨tracks.1, tracks.2.1, trivial⟩
  | @harnessError i setupOk failed =>
      obtain ⟨uses, within, -⟩ := tracks
      have brings : setupOk = table.setupOk w i := brings
      refine ⟨uses, within, ?_⟩
      change (table.usesHw cfg w && !table.setupOk w i) = true
      rw [← uses, ← brings, failed.1, Bool.eq_false_iff.mpr failed.2]
      rfl
  | @tested i setupOk succeeded =>
      obtain ⟨uses, within, -⟩ := tracks
      have brings : setupOk = table.setupOk w i := brings
      refine ⟨uses, within, ?_⟩
      change usesHw = (table.usesHw cfg w && table.setupOk w i)
      rw [← uses, ← brings]
      cases usesHw with
      | false => rfl
      | true =>
          rw [Bool.true_and]
          exact (not_not.mp fun failed => succeeded ⟨rfl, failed⟩).symm
  | @outlier i _ d only =>
      obtain ⟨uses, within, known⟩ := tracks
      have brings : d = table.divergences w i := brings
      refine ⟨uses, within, (filesTo_outliers brings).mpr ?_⟩
      rw [← known]
      exact only
  | @finding i _ d other diverged =>
      obtain ⟨uses, within, known⟩ := tracks
      have brings : d = table.divergences w i := brings
      refine ⟨uses, within, (filesTo_findings brings).mpr ⟨?_, diverged⟩⟩
      rw [← known]
      exact other
  | agree => exact ⟨tracks.1, tracks.2.1, trivial⟩
  | save =>
      obtain ⟨uses, within, known⟩ := tracks
      refine ⟨uses, within, ?_⟩
      split
      · exact known
      · trivial
  | count =>
      refine ⟨tracks.1, tracks.2.1, ?_⟩
      split
      · trivial
      · trivial
  | lockHandler | unlockHandler => exact tracks.elim

/-- What a step of a worker adds to the counters is what it adds to the worker's own account. -/
structure Entered (table : RoundTable threads) (cfg : ThreadsConfig threads) (w : Fin threads)
    (point point' : WorkerPoint) (counters counters' : SharedCounters) : Prop where
  findingCount : counters'.findingCount + (table.added cfg w point).findingCount =
    counters.findingCount + (table.added cfg w point').findingCount
  unicornOutlierSaved :
    counters'.unicornOutlierSaved + (table.added cfg w point).unicornOutlierSaved =
      counters.unicornOutlierSaved + (table.added cfg w point').unicornOutlierSaved
  unicornOutlierCount :
    counters'.unicornOutlierCount + (table.added cfg w point).unicornOutlierCount =
      counters.unicornOutlierCount + (table.added cfg w point').unicornOutlierCount
  hwHarnessErrors : counters'.hwHarnessErrors + (table.added cfg w point).hwHarnessErrors =
    counters.hwHarnessErrors + (table.added cfg w point').hwHarnessErrors
  generatorDiscards : counters'.generatorDiscards + (table.added cfg w point).generatorDiscards =
    counters.generatorDiscards + (table.added cfg w point').generatorDiscards
  totalDone : counters'.totalDone + (table.added cfg w point).totalDone =
    counters.totalDone + (table.added cfg w point').totalDone

/-- A step that enters nothing. -/
theorem entered_of_same {point' : WorkerPoint}
    (same : table.added cfg w point' = table.added cfg w point) :
    Entered table cfg w point point' counters counters := by
  constructor <;> rw [same]

section

variable {past : RoundPoint → Bool} {kind : Nat → Bool} {share i : Nat}
  {before after : RoundPoint}

/-- A round of the kind that gets past the point is one more. -/
theorem countPast_passed (width : Nat) (waits : past before = false) (passes : past after = true)
    (counts : kind i = true) :
    (countPast past share kind (.inRound i after) : BitVec width) =
      countPast past share kind (.inRound i before) + 1 := by
  simp only [countPast, roundsPast, waits, passes, Bool.toNat_false, Bool.toNat_true, Nat.add_zero]
  rw [Nat.count_succ, if_pos counts, Nat.cast_add, Nat.cast_one]

/-- A round of another kind is not counted. -/
theorem countPast_other (other : kind i = false) :
    countPast past share kind (.inRound i before) =
      countPast past share kind (.inRound i after) := by
  have still (more : Bool) : Nat.count (fun i => kind i = true) (i + more.toNat) =
      Nat.count (fun i => kind i = true) i := by
    cases more with
    | false => rfl
    | true =>
        rw [Bool.toNat_true, Nat.count_succ, if_neg (Bool.eq_false_iff.mp other), Nat.add_zero]
  simp only [countPast, roundsPast, still]

/-- The entry of a round of the kind. -/
theorem countPast_entry {width : Nat} {counter : BitVec width} (waits : past before = false)
    (passes : past after = true) (counts : kind i = true) :
    counter + 1 + (countPast past share kind (.inRound i before) : BitVec width) =
      counter + (countPast past share kind (.inRound i after) : BitVec width) := by
  rw [countPast_passed width waits passes counts]
  ac_rfl

/-- A round of another kind has no entry. -/
theorem countPast_noEntry {width : Nat} {counter : BitVec width} (other : kind i = false) :
    counter + (countPast past share kind (.inRound i before) : BitVec width) =
      counter + (countPast past share kind (.inRound i after) : BitVec width) := by
  rw [countPast_other other]

end

section

variable {i : Nat}

/-- A failed hardware lane is entered in its count; so for each entry below. -/
theorem entered_harnessError (failed : table.hwFails cfg w i = true) :
    Entered table cfg w (.inRound i .testing) (.inRound i (.io false .harnessError)) counters
      { counters with hwHarnessErrors := counters.hwHarnessErrors + 1 } where
  findingCount := rfl
  unicornOutlierSaved := rfl
  unicornOutlierCount := rfl
  hwHarnessErrors := countPast_entry rfl rfl failed
  generatorDiscards := rfl
  totalDone := rfl

theorem entered_tested {hwOkThisRound : Bool} (succeeded : table.hwFails cfg w i = false) :
    Entered table cfg w (.inRound i .testing) (.inRound i (.comparing hwOkThisRound)) counters
      counters where
  findingCount := rfl
  unicornOutlierSaved := rfl
  unicornOutlierCount := rfl
  hwHarnessErrors := countPast_noEntry succeeded
  generatorDiscards := rfl
  totalDone := rfl

theorem entered_outlier {hwOkThisRound : Bool} (outlier : table.filesTo cfg .outliers w i = true)
    (other : table.filesTo cfg .findings w i = false) :
    Entered table cfg w (.inRound i (.comparing hwOkThisRound)) (.inRound i .saving) counters
      { counters with unicornOutlierCount := counters.unicornOutlierCount + 1 } where
  findingCount := countPast_noEntry other
  unicornOutlierSaved := rfl
  unicornOutlierCount := countPast_entry rfl rfl outlier
  hwHarnessErrors := rfl
  generatorDiscards := rfl
  totalDone := rfl

theorem entered_finding {hwOkThisRound : Bool} {idx : BitVec 32}
    (finding : table.filesTo cfg .findings w i = true)
    (other : table.filesTo cfg .outliers w i = false) :
    Entered table cfg w (.inRound i (.comparing hwOkThisRound))
      (.inRound i (.io false (.finding idx))) counters
      { counters with findingCount := counters.findingCount + 1 } where
  findingCount := countPast_entry rfl rfl finding
  unicornOutlierSaved := countPast_noEntry other
  unicornOutlierCount := countPast_noEntry other
  hwHarnessErrors := rfl
  generatorDiscards := rfl
  totalDone := rfl

theorem entered_agree {hwOkThisRound : Bool} (agreed : ∀ dir, table.filesTo cfg dir w i = false) :
    Entered table cfg w (.inRound i (.comparing hwOkThisRound)) (.inRound i .counting) counters
      counters where
  findingCount := countPast_noEntry (agreed .findings)
  unicornOutlierSaved := countPast_noEntry (agreed .outliers)
  unicornOutlierCount := countPast_noEntry (agreed .outliers)
  hwHarnessErrors := rfl
  generatorDiscards := rfl
  totalDone := rfl

/-- The number of an outlier is taken, whether its file is written or not. -/
theorem entered_save {oidx : BitVec 32} (written : Prop) [Decidable written]
    (outlier : table.filesTo cfg .outliers w i = true) :
    Entered table cfg w (.inRound i .saving)
      (.inRound i (if written then .io false (.outlier oidx) else .counting)) counters
      { counters with unicornOutlierSaved := counters.unicornOutlierSaved + 1 } := by
  split
  all_goals exact ⟨rfl, countPast_entry rfl rfl outlier, rfl, rfl, rfl, rfl⟩

theorem entered_count (progress : Prop) [Decidable progress] :
    Entered table cfg w (.inRound i .counting)
      (.inRound i (if progress then .io false .progress else .done)) counters
      { counters with totalDone := counters.totalDone + 1 } := by
  split
  all_goals exact ⟨rfl, rfl, rfl, rfl, rfl, countPast_entry rfl rfl rfl⟩

end

/-- No round counts for both directories. -/
theorem filesTo_excludes {dir dir' : OutputDir} {i : Nat} (different : dir ≠ dir')
    (files : table.filesTo cfg dir w i = true) : table.filesTo cfg dir' w i = false := by
  apply Bool.eq_false_iff.mpr
  intro files'
  cases dir with
  | findings =>
      cases dir' with
      | findings => exact different rfl
      | outliers => exact ((filesTo_findings rfl).mp files).1 ((filesTo_outliers rfl).mp files')
  | outliers =>
      cases dir' with
      | findings => exact ((filesTo_findings rfl).mp files').1 ((filesTo_outliers rfl).mp files)
      | outliers => exact different rfl

/-- **One operation** enters in the counters what it enters in its worker's round. -/
theorem entered_step (moves : OpMove (cfg.share w) verboseFrom usesHw counters point op result)
    (tracks : table.Tracks cfg w usesHw point) (brings : table.Brings w point.localI op) :
    Entered table cfg w point result.point counters result.counters := by
  have tracks' := tracks_step moves tracks brings
  cases moves with
  | start | openSession | skipSession | lockSession | unlockSession | beginCase | endCase =>
      exact entered_of_same rfl
  | @leaveLoop i discards spent =>
      obtain ⟨-, within⟩ := tracks
      obtain rfl := Nat.le_antisymm within spent
      have brings : discards = table.discards w := brings
      subst brings
      exact ⟨rfl, rfl, rfl, rfl, add_zero _, rfl⟩
  | raise => exact brings.elim
  | generate =>
      split
      all_goals exact entered_of_same rfl
  | @lockSection i work =>
      cases work
      all_goals exact entered_of_same rfl
  | @unlockSection i work =>
      cases work
      all_goals exact entered_of_same rfl
  | lockCompute | unlockCompute => exact entered_of_same rfl
  | harnessError => exact entered_harnessError tracks'.2.2
  | @tested i setupOk succeeded =>
      obtain ⟨uses, -, -⟩ := tracks
      have brings : setupOk = table.setupOk w i := brings
      apply entered_tested
      rw [RoundTable.hwFails, ← uses, ← brings]
      simpa using succeeded
  | outlier =>
      have outlier : table.filesTo cfg .outliers w _ = true := tracks'.2.2
      exact entered_outlier outlier (filesTo_excludes (by decide) outlier)
  | finding =>
      have finding : table.filesTo cfg .findings w _ = true := tracks'.2.2
      exact entered_finding finding (filesTo_excludes (by decide) finding)
  | agree agreed =>
      apply entered_agree
      intro dir
      apply Bool.eq_false_iff.mpr
      cases dir with
      | findings => exact fun finding => ((filesTo_findings brings).mp finding).2 agreed
      | outliers =>
          intro outlier
          exact RoundDivergences.divergences_ne_nil ((filesTo_outliers brings).mp outlier) agreed
  | save => exact entered_save _ tracks.2.2
  | count => exact entered_count _
  | lockHandler | unlockHandler => exact tracks.elim

/-- A file is written in a round that counts for its directory. -/
theorem dump_files {dump : OutputDir × BitVec 32}
    (moves : OpMove (cfg.share w) verboseFrom usesHw counters point op result)
    (tracks : table.Tracks cfg w usesHw point) (dumped : result.dump = some dump) :
    point.localI < cfg.share w ∧ table.filesTo cfg dump.1 w point.localI = true := by
  cases moves with
  | @unlockSection i work =>
      obtain ⟨-, within, known⟩ := tracks
      have dumped : work.dump = some dump := dumped
      refine ⟨within, ?_⟩
      cases work with
      | running | harnessError | progress => cases dumped
      | outlier oidx =>
          obtain rfl := Option.some.inj dumped
          exact known
      | finding idx =>
          obtain ⟨-, same⟩ := Option.ite_none_right_eq_some.mp dumped
          obtain rfl := Option.some.inj same
          exact known
  | _ => cases dumped

/-! ## Runs -/

/-- The threads are where the table has them, and what they share is what they have added. -/
structure Booked (table : RoundTable threads) (cfg : ThreadsConfig threads)
    (s : ThreadsState threads) : Prop where
  tracks : ∀ w, table.Tracks cfg w (s.workers w).usesHw (s.workers w).point
  findingCount :
    s.counters.findingCount = ∑ w, (table.added cfg w (s.workers w).point).findingCount
  unicornOutlierSaved :
    s.counters.unicornOutlierSaved =
      ∑ w, (table.added cfg w (s.workers w).point).unicornOutlierSaved
  unicornOutlierCount :
    s.counters.unicornOutlierCount =
      ∑ w, (table.added cfg w (s.workers w).point).unicornOutlierCount
  hwHarnessErrors :
    s.counters.hwHarnessErrors = ∑ w, (table.added cfg w (s.workers w).point).hwHarnessErrors
  generatorDiscards :
    s.counters.generatorDiscards = ∑ w, (table.added cfg w (s.workers w).point).generatorDiscards
  totalDone : s.counters.totalDone = ∑ w, (table.added cfg w (s.workers w).point).totalDone
  dumps : ∀ dump ∈ s.dumps, dump.localI < cfg.share dump.worker ∧
    table.filesTo cfg dump.dir dump.worker dump.localI = true

variable {s next : ThreadsState threads} {event : ThreadsEvent threads}
  {trace : List (ThreadsState threads × ThreadsEvent threads)}

/-- Nothing is booked before the start. -/
theorem booked_initial (table : RoundTable threads) (cfg : ThreadsConfig threads)
    (clock : BitVec 64) : Booked table cfg (.initial cfg clock) where
  tracks := fun _ => rfl
  findingCount := by simp [ThreadsState.initial, RoundTable.added, countPast, roundsPast]
  unicornOutlierSaved := by simp [ThreadsState.initial, RoundTable.added, countPast, roundsPast]
  unicornOutlierCount := by simp [ThreadsState.initial, RoundTable.added, countPast, roundsPast]
  hwHarnessErrors := by simp [ThreadsState.initial, RoundTable.added, countPast, roundsPast]
  generatorDiscards := by simp [ThreadsState.initial, RoundTable.added]
  totalDone := by simp [ThreadsState.initial, RoundTable.added, countPast, roundsPast]
  dumps := fun _ listed => absurd listed List.not_mem_nil

/-- An operation of a worker keeps the books. -/
theorem booked_worker {worker : Worker} (booked : Booked table cfg s)
    (moves : OpMove (cfg.share w) verboseFrom (s.workers w).usesHw s.counters (s.workers w).point op
      result)
    (brings : table.Brings w (s.workers w).point.localI op)
    (after : worker.point = result.point ∧ worker.usesHw = result.usesHw)
    (workers : next.workers = Function.update s.workers w worker)
    (counters : next.counters = result.counters)
    (dumps : next.dumps = s.dumps ++
      (result.dump.map fun dump => ⟨dump.1, dump.2, w, (s.workers w).point.localI⟩).toList) :
    Booked table cfg next := by
  have tracks := booked.tracks w
  have entered := entered_step moves tracks brings
  have moved {width : Nat} (read : SharedCounters → BitVec width) :
      (fun v => read (table.added cfg v (next.workers v).point)) =
        Function.update (fun v => read (table.added cfg v (s.workers v).point)) w
          (read (table.added cfg w result.point)) := by
    rw [workers, ← after.1]
    exact point_update (fun v point => read (table.added cfg v point)) s.workers w worker
  refine ⟨fun v => ?_, ?_, ?_, ?_, ?_, ?_, ?_, fun dump listed => ?_⟩
  · rw [workers]
    by_cases same : v = w
    · subst same
      rw [Function.update_self, after.1, after.2]
      exact tracks_step moves tracks brings
    · rw [Function.update_of_ne same]
      exact booked.tracks v
  · rw [counters, moved SharedCounters.findingCount]
    exact Totals.sum_of_balanced booked.findingCount entered.findingCount
  · rw [counters, moved SharedCounters.unicornOutlierSaved]
    exact Totals.sum_of_balanced booked.unicornOutlierSaved entered.unicornOutlierSaved
  · rw [counters, moved SharedCounters.unicornOutlierCount]
    exact Totals.sum_of_balanced booked.unicornOutlierCount entered.unicornOutlierCount
  · rw [counters, moved SharedCounters.hwHarnessErrors]
    exact Totals.sum_of_balanced booked.hwHarnessErrors entered.hwHarnessErrors
  · rw [counters, moved SharedCounters.generatorDiscards]
    exact Totals.sum_of_balanced booked.generatorDiscards entered.generatorDiscards
  · rw [counters, moved SharedCounters.totalDone]
    exact Totals.sum_of_balanced booked.totalDone entered.totalDone
  · rw [dumps] at listed
    rcases List.mem_append.mp listed with earlier | new
    · exact booked.dumps dump earlier
    · obtain ⟨written, dumped, rfl⟩ := Option.map_eq_some_iff.mp (Option.mem_toList.mp new)
      exact dump_files moves tracks dumped

/-- **Every step** keeps the books. -/
theorem booked_step (booked : Booked table cfg s) (allows : table.Allows s event)
    (moved : threadsStep cfg s event = some next) : Booked table cfg next := by
  cases threadsStep_move moved with
  | worker awake moves => exact booked_worker booked moves allows ⟨rfl, rfl⟩ rfl rfl rfl
  | @hang w =>
      have worker (v : Fin threads) :
          (Function.update s.workers w { s.workers w with hung := true } v).point =
              (s.workers v).point ∧
            (Function.update s.workers w { s.workers w with hung := true } v).usesHw =
              (s.workers v).usesHw := by
        by_cases same : v = w
        · subst same
          rw [Function.update_self]
          exact ⟨rfl, rfl⟩
        · rw [Function.update_of_ne same]
          exact ⟨rfl, rfl⟩
      obtain ⟨tracks, findingCount, saved, outlierCount, hwHarnessErrors, discards, totalDone,
        dumps⟩ := booked
      constructor
      all_goals simp only [worker]
      all_goals assumption
  | watchdogLock | report | process =>
      obtain ⟨tracks, findingCount, saved, outlierCount, hwHarnessErrors, discards, totalDone,
        dumps⟩ := booked
      constructor
      all_goals assumption

/-- **Every run** keeps the books. -/
theorem booked_of_run {clock : BitVec 64}
    (run : Run (threadsStep cfg) (.initial cfg clock) trace s) (follows : table.Follows trace) :
    Booked table cfg s := by
  refine run.history_invariant (fun trace s => table.Follows trace → Booked table cfg s)
    (fun _ => booked_initial table cfg clock)
    (fun trace s event next kept moved follows => ?_) follows
  apply booked_step (kept fun moment member => follows moment
    (List.mem_append_left _ member)) _ moved
  exact follows (s, event) (List.mem_append_right _ List.mem_cons_self)

/-- Runs that follow a table have no exceptions. -/
theorem RoundTable.Follows.uncaught (follows : table.Follows trace) : Uncaught trace :=
  fun state w thrown member => follows (state, .worker w (.raise thrown)) member

/-! ## The result -/

/-- The rounds that have a file in a directory. -/
def roundsIn (dir : OutputDir) (dumps : List (DumpFile threads)) : List (Fin threads × Nat) :=
  (dumps.filter (·.dir = dir)).map DumpFile.round

/-- The rounds of a kind of all workers. -/
def roundsOf (cfg : ThreadsConfig threads) (kind : Fin threads → Nat → Bool) :
    Finset (Fin threads × Nat) :=
  Finset.univ.biUnion fun w =>
    ((Finset.range (cfg.share w)).filter fun i => kind w i = true).image (w, ·)

/-- The rounds of a kind are those of the workers' shares. -/
theorem mem_roundsOf {kind : Fin threads → Nat → Bool} {w : Fin threads} {i : Nat} :
    (w, i) ∈ roundsOf cfg kind ↔ i < cfg.share w ∧ kind w i = true := by
  simp only [roundsOf, Finset.mem_biUnion, Finset.mem_univ, true_and, Finset.mem_image,
    Finset.mem_filter, Finset.mem_range, Prod.mk.injEq]
  constructor
  · rintro ⟨_, _, counts, rfl, rfl⟩
    exact counts
  · exact fun counts => ⟨w, i, counts, rfl, rfl⟩

/-- Counting them worker by worker or all together is the same. -/
theorem card_roundsOf (kind : Fin threads → Nat → Bool) :
    (roundsOf cfg kind).card = totalRounds cfg kind := by
  rw [roundsOf, Finset.card_biUnion, totalRounds]
  · apply Finset.sum_congr rfl
    intro w _
    rw [Finset.card_image_of_injective _ (Prod.mk_right_injective w),
      Nat.count_eq_card_filter_range]
  · intro w _ v _ other
    apply Finset.disjoint_left.mpr
    intro round inW inV
    obtain ⟨_, _, rfl⟩ := Finset.mem_image.mp inW
    obtain ⟨_, _, same⟩ := Finset.mem_image.mp inV
    exact other (Prod.mk.inj same).1.symm

/-- There are no more than iterations. -/
theorem totalRounds_le (some_ : 0 < threads) (kind : Fin threads → Nat → Bool) :
    totalRounds cfg kind ≤ cfg.iterations.toNat := by
  rw [← sum_share_eq some_]
  apply Finset.sum_le_sum
  intro w _
  exact Nat.count_le _

/-- When all workers have returned, every counter has come to its total. -/
theorem Booked.totals (booked : Booked table cfg s)
    (returned : ∀ w, (s.workers w).point = .returned none) : s.counters = table.totals cfg := by
  have findingCount := booked.findingCount
  have saved := booked.unicornOutlierSaved
  have outlierCount := booked.unicornOutlierCount
  have hwHarnessErrors := booked.hwHarnessErrors
  have discards := booked.generatorDiscards
  have totalDone := booked.totalDone
  simp only [returned, RoundTable.added, countPast, roundsPast, ↓reduceIte] at *
  rw [RoundTable.totals]
  simp only [totalRounds, Nat.cast_sum]
  rw [← findingCount, ← saved, ← outlierCount, ← hwHarnessErrors, ← discards, ← totalDone]

/-- A directory has a round for each of its files. -/
theorem length_roundsIn (dir : OutputDir) (dumps : List (DumpFile threads)) :
    (roundsIn dir dumps).length = (filesIn dir dumps).length := by
  rw [roundsIn, filesIn, List.length_map, List.length_map]

/-- What a directory has in the end: files numbered from zero, for as many rounds as count for
it or for the limit; a file for a round at most once, and only for rounds that count; and so for
all of them below the limit. -/
structure DirectorySettled (table : RoundTable threads) (cfg : ThreadsConfig threads)
    (dir : OutputDir) (dumps : List (DumpFile threads)) : Prop where
  once : (roundsIn dir dumps).Nodup
  counted : ∀ w i, (w, i) ∈ roundsIn dir dumps →
    i < cfg.share w ∧ table.filesTo cfg dir w i = true
  numbered : (filesIn dir dumps).Perm
    (List.range (min (totalRounds cfg (table.filesTo cfg dir)) kMaxDumpFilesPerDir.toNat))
  complete : totalRounds cfg (table.filesTo cfg dir) ≤ kMaxDumpFilesPerDir.toNat →
    ∀ w, ∀ i < cfg.share w, table.filesTo cfg dir w i = true → (w, i) ∈ roundsIn dir dumps

/-- A settled directory is full or has all rounds of its kind. -/
theorem DirectorySettled.length {dir : OutputDir} {dumps : List (DumpFile threads)}
    (settled : DirectorySettled table cfg dir dumps) : (roundsIn dir dumps).length =
      min (totalRounds cfg (table.filesTo cfg dir)) kMaxDumpFilesPerDir.toNat := by
  rw [length_roundsIn, settled.numbered.length_eq, List.length_range]

theorem toNat_natCast {width n : Nat} (room : n < 2 ^ width) : (n : BitVec width).toNat = n := by
  rw [BitVec.natCast_eq_ofNat, BitVec.toNat_ofNat, Nat.mod_eq_of_lt room]

/-- **The files**: once the accounts are settled, a directory has the rounds the table files in
it. -/
theorem Booked.directory (booked : Booked table cfg s) {iterations : BitVec 64}
    (settled : AccountsSettled iterations trace s) (counters : s.counters = table.totals cfg)
    (few : ∀ kind : Fin threads → Nat → Bool, totalRounds cfg kind < 2 ^ 31) (dir : OutputDir) :
    DirectorySettled table cfg dir s.dumps := by
  have once : (roundsIn dir s.dumps).Nodup :=
    settled.distinct.sublist (List.filter_sublist.map DumpFile.round)
  have counted : ∀ w i, (w, i) ∈ roundsIn dir s.dumps →
      i < cfg.share w ∧ table.filesTo cfg dir w i = true := by
    intro w i listed
    obtain ⟨dump, member, same⟩ := List.mem_map.mp listed
    obtain ⟨member, here⟩ := List.mem_filter.mp member
    obtain ⟨rfl, rfl⟩ := Prod.mk.inj same
    have filed := booked.dumps dump member
    rwa [of_decide_eq_true here] at filed
  have numbered : (filesIn dir s.dumps).Perm
      (List.range (min (totalRounds cfg (table.filesTo cfg dir)) kMaxDumpFilesPerDir.toNat)) := by
    have room := few (table.filesTo cfg dir)
    cases dir with
    | findings =>
        have count : s.counters.findingCount.toNat =
            totalRounds cfg (table.filesTo cfg .findings) := by
          rw [counters]
          exact toNat_natCast (by omega)
        rw [← count]
        exact settled.findings
    | outliers =>
        have count : s.counters.unicornOutlierCount.toNat =
            totalRounds cfg (table.filesTo cfg .outliers) := by
          rw [counters]
          exact toNat_natCast (by omega)
        rw [← count]
        exact settled.outliers
  have length : (roundsIn dir s.dumps).length =
      min (totalRounds cfg (table.filesTo cfg dir)) kMaxDumpFilesPerDir.toNat := by
    rw [length_roundsIn, numbered.length_eq, List.length_range]
  refine ⟨once, counted, numbered, fun below w i within files => ?_⟩
  have subset : (roundsIn dir s.dumps).toFinset ⊆ roundsOf cfg (table.filesTo cfg dir) := by
    intro round listed
    exact mem_roundsOf.mpr (counted _ _ (List.mem_toFinset.mp listed))
  have all : (roundsIn dir s.dumps).toFinset = roundsOf cfg (table.filesTo cfg dir) := by
    apply Finset.eq_of_subset_of_card_le subset
    rw [card_roundsOf, List.toFinset_card_of_nodup once, length, Nat.min_eq_left below]
  rw [← List.mem_toFinset, all]
  exact mem_roundsOf.mpr ⟨within, files⟩

/-- A worker of a run that follows a table has no other way to return. -/
theorem Booked.returned (booked : Booked table cfg s) {w : Fin threads}
    (joined : (s.workers w).point.phase.hasReturned = true) :
    (s.workers w).point = .returned none := by
  have tracks := booked.tracks w
  cases point : (s.workers w).point with
  | returned caught =>
      rw [point] at tracks
      cases caught with
      | none => rfl
      | some thrown => exact tracks.elim
  | _ =>
      rw [point] at joined
      cases joined

/-- **The counters** of a joined run are the table's totals. -/
theorem totals_of_run {clock : BitVec 64}
    (run : Run (threadsStep cfg) (.initial cfg clock) trace s) (follows : table.Follows trace)
    (joined : ∀ w, (s.workers w).point.phase.hasReturned = true) :
    s.counters = table.totals cfg := by
  have booked := booked_of_run run follows
  exact booked.totals fun w => booked.returned (joined w)

/-- **The directories** of a joined run are settled. -/
theorem directory_of_run {clock : BitVec 64} (some_ : 0 < threads)
    (few : cfg.iterations.toNat < 2 ^ 31)
    (run : Run (threadsStep cfg) (.initial cfg clock) trace s) (follows : table.Follows trace)
    (joined : ∀ w, (s.workers w).point.phase.hasReturned = true) (dir : OutputDir) :
    DirectorySettled table cfg dir s.dumps := by
  have accounts := accounts_of_run some_ few run follows.uncaught
  apply (booked_of_run run follows).directory (accounts.settled some_ joined rfl)
    (totals_of_run run follows joined)
  intro kind
  exact (totalRounds_le some_ kind).trans_lt few

/-- **What the rounds bring decides how a run ends, not how they are interleaved.** For every
table, every number of workers and every order of their steps: a run that follows the table ends
with the counters the table gives; and while the counters of rounds are in range, each directory
has files numbered from zero, for rounds that count for it, once each, for all of them if the limit
allows. -/
theorem schedule_independent {clock : BitVec 64} (some_ : 0 < threads)
    (run : Run (threadsStep cfg) (.initial cfg clock) trace s) (follows : table.Follows trace)
    (joined : ∀ w, (s.workers w).point.phase.hasReturned = true) :
    s.counters = table.totals cfg ∧
      (cfg.iterations.toNat < 2 ^ 31 → ∀ dir, DirectorySettled table cfg dir s.dumps) :=
  ⟨totals_of_run run follows joined,
    fun few => directory_of_run some_ few run follows joined⟩

/-- In the round of the worker, seven and Unicorn differ. -/
def oneDivergent : RoundTable 1 where
  sessionStarted := fun _ => false
  setupOk := fun _ _ => false
  divergences := fun _ _ => ⟨[⟨"seven-vs-unicorn", []⟩], [], []⟩
  discards := fun _ => 0#64

/-- The sample run brings what its table says. -/
theorem oneDivergent_allows (s : ThreadsState 1) :
    ∀ event ∈ oneFinding, oneDivergent.Allows s event := by
  intro event listed
  simp only [oneFinding, List.mem_cons, List.not_mem_nil, or_false] at listed
  rcases listed with rfl | rfl | rfl | rfl | rfl | rfl | rfl | rfl | rfl | rfl | rfl | rfl | rfl |
    rfl | rfl
  all_goals trivial

/-- A run of one iteration with one finding. -/
theorem schedule_independent_one_finding :
    ∃ trace s, Run (threadsStep oneIteration) (.initial oneIteration 0#64) trace s ∧
      s.counters = oneDivergent.totals oneIteration ∧
      DirectorySettled oneDivergent oneIteration .findings s.dumps := by
  have ends : (play (threadsStep oneIteration) (.initial oneIteration 0#64) oneFinding).map
      (fun played => (played.2.workers 0).point.phase.hasReturned) = some true := by
    decide +kernel
  obtain ⟨⟨trace, s⟩, played, returned⟩ := Option.map_eq_some_iff.mp ends
  have run := Run.of_play _ oneFinding played
  have joined (w : Fin 1) : (s.workers w).point.phase.hasReturned = true := by
    obtain rfl := Subsingleton.elim 0 w
    exact returned
  have follows : oneDivergent.Follows trace := by
    intro moment member
    apply oneDivergent_allows
    rw [← play_events _ oneFinding played]
    exact List.mem_map_of_mem member
  have few : oneIteration.iterations.toNat < 2 ^ 31 := by decide
  obtain ⟨counters, directories⟩ := schedule_independent (by decide) run follows joined
  exact ⟨trace, s, run, counters, directories few .findings⟩

end SevenFuzzer
