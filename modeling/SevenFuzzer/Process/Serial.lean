import SevenFuzzer.Library.Numbering
import SevenFuzzer.Process.Schedule

/-! # The rounds one after another

`round` computes what one round of a worker does when nothing runs beside it; the threads take
the same round in many steps, between those of others. Every run in which all workers return
without an exception ends as if the rounds of all workers had been run one after another in
some order: with the same counters, and with the same files, each from the same round under the
same number (`SevenFuzzer.interleaving_serializes`).
-/

namespace SevenFuzzer

open Transition

variable {threads : Nat}

/-- What the workers are handed, and what the lanes return in their rounds. -/
structure LaneTable (threads : Nat) where
  useJit : Bool := false
  findingsDir : String
  outliersDir : String
  sessionStarted : Fin threads → Bool
  testCase : Fin threads → Nat → TestCase
  seven : Fin threads → Nat → LaneOutcome
  unicorn : Fin threads → Nat → LaneOutcome
  hw : Fin threads → Nat → LaneOutcome
  discards : Fin threads → BitVec 64

section

variable (lanes : LaneTable threads) (cfg : ThreadsConfig threads)

/-- What a worker is started with. -/
def LaneTable.workerConfig (w : Fin threads) : WorkerConfig where
  workerId := w
  useJit := lanes.useJit
  workerUseHw := cfg.useHw && lanes.sessionStarted w
  totalIterations := cfg.iterations
  findingsDir := lanes.findingsDir
  outliersDir := lanes.outliersDir

/-- What the lanes return, as it is compared in the rounds. -/
def LaneTable.brought : RoundTable threads where
  sessionStarted := lanes.sessionStarted
  setupOk w i := (lanes.hw w i).setupOk
  divergences w i :=
    roundDivergences (lanes.workerConfig cfg w) (lanes.testCase w i) (lanes.seven w i)
      (lanes.unicorn w i) (lanes.hw w i)
      ((lanes.workerConfig cfg w).workerUseHw && (lanes.hw w i).setupOk)
  discards := lanes.discards

/-- The file of an effect, if it writes one. -/
def Effect.dump (r : Fin threads × Nat) : Effect → Option (DumpFile threads)
  | .print _ => none
  | .writeFinding dir index _ _ _ _ _ _ _ => some ⟨dir, index, r.1, r.2⟩

/-- What a serial run builds up: the shared counters and the files. -/
structure SerialState (threads : Nat) where
  counters : SharedCounters := {}
  dumps : List (DumpFile threads) := []

/-- One round as a whole. -/
def serialRound (s : SerialState threads) (r : Fin threads × Nat) : SerialState threads :=
  let (counters, effects) :=
    round (lanes.workerConfig cfg r.1) (lanes.testCase r.1 r.2) (lanes.seven r.1 r.2)
      (lanes.unicorn r.1 r.2) (lanes.hw r.1 r.2) s.counters
  { counters, dumps := s.dumps ++ effects.filterMap (Effect.dump r) }

/-- The rounds, one after another in the given order. -/
def serialRun (order : List (Fin threads × Nat)) : SerialState threads :=
  order.foldl (serialRound lanes cfg) {}

end

variable {lanes : LaneTable threads} {cfg : ThreadsConfig threads}

/-- The rounds that count for a directory. -/
def LaneTable.filesTo (lanes : LaneTable threads) (cfg : ThreadsConfig threads) (dir : OutputDir)
    (r : Fin threads × Nat) : Bool :=
  (lanes.brought cfg).filesTo cfg dir r.1 r.2

/-- What a round adds to the counters. -/
def LaneTable.adds (lanes : LaneTable threads) (cfg : ThreadsConfig threads)
    (counters : SharedCounters) (r : Fin threads × Nat) : SharedCounters where
  findingCount :=
    counters.findingCount + if lanes.filesTo cfg .findings r then 1 else 0
  unicornOutlierSaved :=
    counters.unicornOutlierSaved + if lanes.filesTo cfg .outliers r then 1 else 0
  unicornOutlierCount :=
    counters.unicornOutlierCount + if lanes.filesTo cfg .outliers r then 1 else 0
  hwHarnessErrors :=
    counters.hwHarnessErrors + if (lanes.brought cfg).hwFails cfg r.1 r.2 then 1 else 0
  generatorDiscards := counters.generatorDiscards
  totalDone := counters.totalDone + 1

/-- The files of a round that gets these numbers. -/
def LaneTable.writes (lanes : LaneTable threads) (cfg : ThreadsConfig threads)
    (counters : SharedCounters) (r : Fin threads × Nat) : List (DumpFile threads) :=
  if lanes.filesTo cfg .outliers r then
    if counters.unicornOutlierSaved.slt kMaxDumpFilesPerDir then
      [⟨.outliers, counters.unicornOutlierSaved, r.1, r.2⟩]
    else []
  else if lanes.filesTo cfg .findings r then
    if counters.findingCount.slt kMaxDumpFilesPerDir then
      [⟨.findings, counters.findingCount, r.1, r.2⟩]
    else []
  else []

/-- A failed hardware lane is counted. -/
theorem noteHarnessError_eq (cfg : WorkerConfig) (hw : LaneOutcome) (counters : SharedCounters)
    (r : Fin threads × Nat) :
    (noteHarnessError cfg hw counters).1 =
        { counters with
          hwHarnessErrors :=
            counters.hwHarnessErrors + if cfg.workerUseHw && !hw.setupOk then 1 else 0 } ∧
      (noteHarnessError cfg hw counters).2.filterMap (Effect.dump r) = [] := by
  rw [noteHarnessError]
  by_cases fails : cfg.workerUseHw = true ∧ ¬ hw.setupOk = true
  · have fails' : (cfg.workerUseHw && !hw.setupOk) = true := by simpa using fails
    rw [if_pos fails, if_pos fails']
    exact ⟨rfl, rfl⟩
  · have fails' : ¬ (cfg.workerUseHw && !hw.setupOk) = true := by simpa using fails
    rw [if_neg fails, if_neg fails', add_zero]
    exact ⟨rfl, rfl⟩

/-- Every round is counted. -/
theorem noteDone_eq (cfg : WorkerConfig) (counters : SharedCounters) (r : Fin threads × Nat) :
    (noteDone cfg counters).1 = { counters with totalDone := counters.totalDone + 1 } ∧
      (noteDone cfg counters).2.filterMap (Effect.dump r) = [] := by
  rw [noteDone]
  dsimp only
  split
  · exact ⟨rfl, rfl⟩
  · exact ⟨rfl, rfl⟩

/-- What filing a round adds to the counters, and the files it writes. -/
theorem triage_eq (lanes : LaneTable threads) (cfg : ThreadsConfig threads) (w : Fin threads)
    (i : Nat) (counters : SharedCounters) :
    let filed := triage (lanes.workerConfig cfg w) (lanes.testCase w i) (lanes.seven w i)
      (lanes.unicorn w i) (lanes.hw w i)
      ((lanes.workerConfig cfg w).workerUseHw && (lanes.hw w i).setupOk) counters
    filed.1 =
        { counters with
          findingCount :=
            counters.findingCount + if lanes.filesTo cfg .findings (w, i) then 1 else 0
          unicornOutlierSaved :=
            counters.unicornOutlierSaved + if lanes.filesTo cfg .outliers (w, i) then 1 else 0
          unicornOutlierCount :=
            counters.unicornOutlierCount + if lanes.filesTo cfg .outliers (w, i) then 1 else 0 } ∧
      filed.2.filterMap (Effect.dump (w, i)) = lanes.writes cfg counters (w, i) := by
  have outliers : lanes.filesTo cfg .outliers (w, i) = decide
      (((lanes.brought cfg).divergences w i).unicornOnlyOutlier
        ((lanes.brought cfg).hwOk cfg w i)) :=
    rfl
  have findings : lanes.filesTo cfg .findings (w, i) = (!lanes.filesTo cfg .outliers (w, i) &&
      decide (((lanes.brought cfg).divergences w i).divergences ≠ [])) := rfl
  intro filed
  by_cases only : ((lanes.brought cfg).divergences w i).unicornOnlyOutlier
      ((lanes.brought cfg).hwOk cfg w i)
  · have written : filed = ({ counters with
        unicornOutlierCount := counters.unicornOutlierCount + 1
        unicornOutlierSaved := counters.unicornOutlierSaved + 1 }, _) := if_pos only
    rw [decide_eq_true only] at outliers
    rw [outliers, Bool.not_true, Bool.false_and] at findings
    rw [written, LaneTable.writes, outliers, findings]
    constructor
    · simp
    · dsimp only
      split
      · simp [Effect.dump, *]
      · simp [*]
  · rw [decide_eq_false only] at outliers
    rw [outliers, Bool.not_false, Bool.true_and] at findings
    by_cases diverged : ((lanes.brought cfg).divergences w i).divergences ≠ []
    · have written : filed = ({ counters with findingCount := counters.findingCount + 1 }, _) :=
        (if_neg only).trans (if_pos diverged)
      rw [decide_eq_true diverged] at findings
      rw [written, LaneTable.writes, outliers, findings]
      constructor
      · simp
      · dsimp only
        split
        · simp [Effect.dump, WorkerConfig.printed, *]
        · split
          · simp [Effect.dump, WorkerConfig.printed, *]
          · simp [*]
    · have written : filed = (counters, []) := (if_neg only).trans (if_neg diverged)
      rw [decide_eq_false diverged] at findings
      rw [written, LaneTable.writes, outliers, findings]
      constructor
      · simp
      · rfl

/-- The round as a whole does what the table of the threads says of it. -/
theorem serialRound_eq (s : SerialState threads) (r : Fin threads × Nat) :
    serialRound lanes cfg s r =
      ⟨lanes.adds cfg s.counters r, s.dumps ++ lanes.writes cfg s.counters r⟩ := by
  obtain ⟨w, i⟩ := r
  have harness := noteHarnessError_eq (lanes.workerConfig cfg w) (lanes.hw w i) s.counters (w, i)
  have filed := triage_eq lanes cfg w i
    (noteHarnessError (lanes.workerConfig cfg w) (lanes.hw w i) s.counters).1
  dsimp only at filed
  have done := noteDone_eq (lanes.workerConfig cfg w) (triage (lanes.workerConfig cfg w)
    (lanes.testCase w i) (lanes.seven w i) (lanes.unicorn w i) (lanes.hw w i)
    ((lanes.workerConfig cfg w).workerUseHw && (lanes.hw w i).setupOk)
    (noteHarnessError (lanes.workerConfig cfg w) (lanes.hw w i) s.counters).1).1 (w, i)
  rw [serialRound, round]
  dsimp only
  rw [List.filterMap_append, List.filterMap_append, harness.2, filed.2, done.2, done.1, filed.1,
    harness.1, List.nil_append, List.append_nil]
  rfl

/-- The files for rounds that are numbered in their order. -/
def numberedDumps (dir : OutputDir) (rounds : List (Fin threads × Nat)) : List (DumpFile threads) :=
  rounds.mapIdx fun index r => ⟨dir, BitVec.ofNat 32 index, r.1, r.2⟩

/-- The next number of a directory. -/
def SharedCounters.nextIndex (counters : SharedCounters) : OutputDir → BitVec 32
  | .findings => counters.findingCount
  | .outliers => counters.unicornOutlierSaved

/-- What the serial run of some rounds comes to. -/
structure SerialBooks (lanes : LaneTable threads) (cfg : ThreadsConfig threads)
    (order : List (Fin threads × Nat)) (s : SerialState threads) : Prop where
  findingCount : s.counters.findingCount = (order.countP (lanes.filesTo cfg .findings) : Nat)
  unicornOutlierSaved :
    s.counters.unicornOutlierSaved = (order.countP (lanes.filesTo cfg .outliers) : Nat)
  unicornOutlierCount :
    s.counters.unicornOutlierCount = (order.countP (lanes.filesTo cfg .outliers) : Nat)
  hwHarnessErrors : s.counters.hwHarnessErrors =
    (order.countP fun r => (lanes.brought cfg).hwFails cfg r.1 r.2 : Nat)
  generatorDiscards : s.counters.generatorDiscards = 0
  totalDone : s.counters.totalDone = (order.length : Nat)
  dumps : ∀ dir, s.dumps.filter (·.dir = dir) =
    numberedDumps dir ((order.filter (lanes.filesTo cfg dir)).take kMaxDumpFilesPerDir.toNat)

/-- A round writes one file at most into a directory, and none beyond the limit. -/
theorem filter_writes (counters : SharedCounters) (r : Fin threads × Nat) (dir : OutputDir) :
    (lanes.writes cfg counters r).filter (·.dir = dir) =
      if lanes.filesTo cfg dir r && (counters.nextIndex dir).slt kMaxDumpFilesPerDir then
        [⟨dir, counters.nextIndex dir, r.1, r.2⟩]
      else [] := by
  have findings : lanes.filesTo cfg .findings r = (!lanes.filesTo cfg .outliers r &&
      decide (((lanes.brought cfg).divergences r.1 r.2).divergences ≠ [])) := rfl
  rw [LaneTable.writes]
  by_cases outlier : lanes.filesTo cfg .outliers r = true
  · rw [outlier, Bool.not_true, Bool.false_and] at findings
    rw [if_pos outlier]
    cases dir with
    | outliers =>
        rw [outlier, Bool.true_and, SharedCounters.nextIndex]
        split
        · rfl
        · rfl
    | findings =>
        rw [findings, Bool.false_and]
        split
        · rfl
        · rfl
  · rw [if_neg outlier]
    cases dir with
    | outliers =>
        rw [Bool.eq_false_iff.mpr outlier, Bool.false_and]
        split
        · split
          · rfl
          · rfl
        · rfl
    | findings =>
        by_cases finding : lanes.filesTo cfg .findings r = true
        · rw [if_pos finding, finding, Bool.true_and, SharedCounters.nextIndex]
          split
          · rfl
          · rfl
        · rw [if_neg finding, Bool.eq_false_iff.mpr finding, Bool.false_and]
          rfl

/-- Counting one round more. -/
theorem natCast_countP_concat (width : Nat) (kind : Fin threads × Nat → Bool)
    (order : List (Fin threads × Nat)) (r : Fin threads × Nat) :
    ((order ++ [r]).countP kind : BitVec width) =
      (order.countP kind : BitVec width) + if kind r then 1 else 0 := by
  rw [List.countP_append, List.countP_singleton, Nat.cast_add, Nat.cast_ite, Nat.cast_one,
    Nat.cast_zero]

/-- The next number of a directory is the number of rounds filed in it. -/
theorem SerialBooks.nextIndex {order : List (Fin threads × Nat)} {s : SerialState threads}
    (books : SerialBooks lanes cfg order s) (dir : OutputDir) :
    s.counters.nextIndex dir =
      BitVec.ofNat 32 (order.filter (lanes.filesTo cfg dir)).length := by
  rw [← List.countP_eq_length_filter, ← BitVec.natCast_eq_ofNat]
  cases dir with
  | findings => exact books.findingCount
  | outliers => exact books.unicornOutlierSaved

/-- **One round more** keeps the serial books. -/
theorem serialBooks_concat {order : List (Fin threads × Nat)} {s : SerialState threads}
    (books : SerialBooks lanes cfg order s) (few : order.length < 2 ^ 31)
    (r : Fin threads × Nat) :
    SerialBooks lanes cfg (order ++ [r]) (serialRound lanes cfg s r) := by
  rw [serialRound_eq]
  refine ⟨?_, ?_, ?_, ?_, books.generatorDiscards, ?_, fun dir => ?_⟩
  · rw [natCast_countP_concat, ← books.findingCount]
    rfl
  · rw [natCast_countP_concat, ← books.unicornOutlierSaved]
    rfl
  · rw [natCast_countP_concat, ← books.unicornOutlierCount]
    rfl
  · rw [natCast_countP_concat, ← books.hwHarnessErrors]
    rfl
  · rw [List.length_append, Nat.cast_add, ← books.totalDone]
    rfl
  · have next := books.nextIndex dir
    have room := (List.length_filter_le (lanes.filesTo cfg dir) order).trans_lt few
    have index : (s.counters.nextIndex dir).toNat =
        (order.filter (lanes.filesTo cfg dir)).length := by
      rw [next, BitVec.toNat_ofNat, Nat.mod_eq_of_lt (by omega)]
    have limit : (s.counters.nextIndex dir).slt kMaxDumpFilesPerDir =
        decide ((order.filter (lanes.filesTo cfg dir)).length < kMaxDumpFilesPerDir.toNat) := by
      rw [slt_limit (by omega), index]
      rfl
    rw [List.filter_append, books.dumps, filter_writes, List.filter_append, List.filter_singleton,
      limit]
    by_cases files : lanes.filesTo cfg dir r = true
    · rw [files, Bool.true_and, Bool.cond_true, Numbering.take_concat, next]
      by_cases below : (order.filter (lanes.filesTo cfg dir)).length < kMaxDumpFilesPerDir.toNat
      · rw [decide_eq_true below, if_pos rfl, if_pos below, numberedDumps, numberedDumps,
          List.mapIdx_concat, List.take_of_length_le (Nat.le_of_lt below)]
      · rw [decide_eq_false below, if_neg Bool.false_ne_true, if_neg below, List.append_nil,
          List.append_nil]
    · rw [Bool.eq_false_iff.mpr files, Bool.false_and, Bool.cond_false, List.append_nil,
        if_neg Bool.false_ne_true, List.append_nil]

/-- So do any number of rounds, by induction on the order. -/
theorem serialBooks_of_order (order : List (Fin threads × Nat)) (few : order.length < 2 ^ 31) :
    SerialBooks lanes cfg order (serialRun lanes cfg order) := by
  induction order using List.reverseRecOn with
  | nil => exact ⟨rfl, rfl, rfl, rfl, rfl, rfl, fun _ => rfl⟩
  | append_singleton order r ih =>
      rw [List.length_append, List.length_singleton] at few
      rw [serialRun, List.foldl_concat]
      exact serialBooks_concat (ih (by omega)) (by omega) r

/-! ## An order of all rounds -/

/-- An order in which each round of each worker stands once. -/
structure EachRoundOnce (cfg : ThreadsConfig threads) (order : List (Fin threads × Nat)) :
    Prop where
  once : order.Nodup
  mem_iff : ∀ w i, (w, i) ∈ order ↔ i < cfg.share w

variable {order : List (Fin threads × Nat)}

/-- In an order with each round once, a kind is met as often as there are rounds of it. -/
theorem EachRoundOnce.countP (each : EachRoundOnce cfg order)
    (kind : Fin threads → Nat → Bool) :
    order.countP (fun r => kind r.1 r.2) = totalRounds cfg kind := by
  rw [List.countP_eq_length_filter, ← card_roundsOf,
    ← List.toFinset_card_of_nodup (each.once.filter _)]
  congr 1
  ext ⟨w, i⟩
  rw [List.mem_toFinset, List.mem_filter, each.mem_iff, mem_roundsOf]

/-- The order is as long as there are rounds. -/
theorem EachRoundOnce.length (each : EachRoundOnce cfg order) :
    order.length = totalRounds cfg fun _ _ => true := by
  rw [← each.countP, List.countP_true]

/-- In any order, the rounds come to the totals of the table. -/
theorem serialRun_counters (each : EachRoundOnce cfg order) (few : order.length < 2 ^ 31) :
    { (serialRun lanes cfg order).counters with
        generatorDiscards := ∑ w, lanes.discards w } = (lanes.brought cfg).totals cfg := by
  have books : SerialBooks lanes cfg order (serialRun lanes cfg order) :=
    serialBooks_of_order order few
  have filed (dir : OutputDir) : order.countP (lanes.filesTo cfg dir) =
      totalRounds cfg ((lanes.brought cfg).filesTo cfg dir) := each.countP _
  rw [RoundTable.totals, ← filed, ← filed, ← each.countP, ← each.length]
  dsimp only
  rw [books.findingCount, books.unicornOutlierSaved, books.unicornOutlierCount,
    books.hwHarnessErrors, books.totalDone]
  rfl

variable {s : ThreadsState threads} {trace : List (ThreadsState threads × ThreadsEvent threads)}

/-- Files are the same in all if they are the same in each directory. -/
theorem perm_of_filters {dumps dumps' : List (DumpFile threads)}
    (each : ∀ dir, (dumps.filter (·.dir = dir)).Perm (dumps'.filter (·.dir = dir))) :
    dumps.Perm dumps' := by
  have split_ (dumps : List (DumpFile threads)) : (dumps.filter (·.dir = .findings) ++
      dumps.filter (·.dir = .outliers)).Perm dumps := by
    have other : (fun dump : DumpFile threads => decide (dump.dir = .outliers)) =
        fun dump => !decide (dump.dir = .findings) := by
      funext dump
      cases dump.dir <;> rfl
    rw [other]
    exact List.filter_append_perm _ _
  exact (split_ dumps).symm.trans (((each .findings).append (each .outliers)).trans (split_ dumps'))

/-- The rounds of a directory's files in the order of their numbers. -/
structure Sequenced (dir : OutputDir) (dumps : List (DumpFile threads))
    (rounds : List (Fin threads × Nat)) : Prop where
  files : (numberedDumps dir rounds).Perm (dumps.filter (·.dir = dir))
  perm : rounds.Perm (roundsIn dir dumps)

/-- The files of a directory can be put in the order of their numbers. -/
theorem exists_sequenced (settled : AccountsSettled cfg.iterations trace s) (dir : OutputDir) :
    ∃ rounds, Sequenced dir s.dumps rounds := by
  have numbered : ((s.dumps.filter (·.dir = dir)).map (·.index.toNat)).Perm
      (List.range (s.dumps.filter (·.dir = dir)).length) := by
    have files : ∃ count, (filesIn dir s.dumps).Perm (List.range count) := by
      cases dir with
      | findings => exact ⟨_, settled.findings⟩
      | outliers => exact ⟨_, settled.outliers⟩
    obtain ⟨count, perm⟩ := files
    have length := perm.length_eq
    rw [filesIn, List.length_map, List.length_range] at length
    rw [length]
    exact perm
  obtain ⟨sequence, perm, inOrder⟩ :=
    Numbering.exists_sequence (fun dump : DumpFile threads => dump.index.toNat) numbered
  refine ⟨sequence.map DumpFile.round, ?_, perm.map DumpFile.round⟩
  have same : numberedDumps dir (sequence.map DumpFile.round) = sequence := by
    apply Numbering.mapIdx_content (fun dump => dump.index.toNat) DumpFile.round _ inOrder
    intro dump listed
    have here := of_decide_eq_true (List.mem_filter.mp (perm.mem_iff.mp listed)).2
    rw [DumpFile.round, BitVec.ofNat_toNat, BitVec.setWidth_eq, ← here]
  rw [same]
  exact perm

section

variable {dir : OutputDir} {rounds : List (Fin threads × Nat)}

/-- Each of them is of a round that files there. -/
theorem Sequenced.counted (sequenced : Sequenced dir s.dumps rounds)
    (directory : DirectorySettled (lanes.brought cfg) cfg dir s.dumps) {r : Fin threads × Nat}
    (listed : r ∈ rounds) : r.2 < cfg.share r.1 ∧ lanes.filesTo cfg dir r = true :=
  directory.counted _ _ (sequenced.perm.mem_iff.mp listed)

/-- Rounds without a file count for the directory only when that is full. -/
theorem Sequenced.full (sequenced : Sequenced dir s.dumps rounds)
    (directory : DirectorySettled (lanes.brought cfg) cfg dir s.dumps)
    {others : List (Fin threads × Nat)}
    (without : ∀ r ∈ others, r.2 < cfg.share r.1 ∧ r ∉ rounds) :
    rounds.length = kMaxDumpFilesPerDir.toNat ∨ ∀ r ∈ others, lanes.filesTo cfg dir r = false := by
  have length := sequenced.perm.length_eq.trans directory.length
  rcases Nat.le_total kMaxDumpFilesPerDir.toNat
    (totalRounds cfg ((lanes.brought cfg).filesTo cfg dir)) with more | fewer
  · exact .inl (length.trans (Nat.min_eq_right more))
  · apply Or.inr
    intro r listed
    obtain ⟨within, outside⟩ := without r listed
    apply Bool.eq_false_iff.mpr
    intro files
    exact outside (sequenced.perm.mem_iff.mpr (directory.complete fewer _ _ within files))

end

/-- The rounds with a file in the order of its number, then all others. -/
theorem exists_order (settled : AccountsSettled cfg.iterations trace s)
    (directories : ∀ dir, DirectorySettled (lanes.brought cfg) cfg dir s.dumps) :
    ∃ order, EachRoundOnce cfg order ∧ ∀ dir, (numberedDumps dir
        ((order.filter (lanes.filesTo cfg dir)).take kMaxDumpFilesPerDir.toNat)).Perm
          (s.dumps.filter (·.dir = dir)) := by
  obtain ⟨findings, inFindings⟩ := exists_sequenced settled .findings
  obtain ⟨outliers, inOutliers⟩ := exists_sequenced settled .outliers
  have finding {r : Fin threads × Nat} := inFindings.counted (r := r) (directories .findings)
  have outlier {r : Fin threads × Nat} := inOutliers.counted (r := r) (directories .outliers)
  have noOutlier (r : Fin threads × Nat) (listed : r ∈ findings) :
      lanes.filesTo cfg .outliers r = false := filesTo_excludes (by decide) (finding listed).2
  have noFinding (r : Fin threads × Nat) (listed : r ∈ outliers) : r ∉ findings :=
    fun both => Bool.false_ne_true ((noOutlier r both).symm.trans (outlier listed).2)
  have few {dir : OutputDir} {rounds : List (Fin threads × Nat)}
      (sequenced : Sequenced dir s.dumps rounds) : rounds.length ≤ kMaxDumpFilesPerDir.toNat := by
    rw [sequenced.perm.length_eq, (directories dir).length]
    exact Nat.min_le_right _ _
  let others := (roundsOf cfg fun _ _ => true).toList.filter
    fun r => decide (r ∉ findings ∧ r ∉ outliers)
  have mem_others {r : Fin threads × Nat} :
      r ∈ others ↔ r.2 < cfg.share r.1 ∧ r ∉ findings ∧ r ∉ outliers := by
    rw [List.mem_filter, Finset.mem_toList, mem_roundsOf, decide_eq_true_eq, and_iff_left rfl]
  refine ⟨findings ++ (outliers ++ others), ⟨?_, fun w i => ?_⟩, fun dir => ?_⟩
  · have once : others.Nodup := (Finset.nodup_toList _).filter _
    have first := inFindings.perm.nodup_iff.mpr (directories .findings).once
    have second := inOutliers.perm.nodup_iff.mpr (directories .outliers).once
    simp only [List.nodup_append', first, second, once, List.disjoint_left, List.mem_append,
      true_and]
    constructor
    · intro r listed other
      exact (mem_others.mp other).2.2 listed
    · intro r listed other
      rcases other with other | other
      · exact noFinding r other listed
      · exact (mem_others.mp other).2.1 listed
  · simp only [List.mem_append, mem_others]
    constructor
    · intro listed
      rcases listed with listed | listed | listed
      · exact (finding listed).1
      · exact (outlier listed).1
      · exact listed.1
    · intro within
      by_cases first : (w, i) ∈ findings
      · exact .inl first
      · by_cases second : (w, i) ∈ outliers
        · exact .inr (.inl second)
        · exact .inr (.inr ⟨within, first, second⟩)
  · cases dir with
    | findings =>
        have without : ∀ r ∈ outliers ++ others, r.2 < cfg.share r.1 ∧ r ∉ findings := by
          intro r listed
          rcases List.mem_append.mp listed with listed | listed
          · exact ⟨(outlier listed).1, noFinding r listed⟩
          · obtain ⟨within, outside, _⟩ := mem_others.mp listed
            exact ⟨within, outside⟩
        have first := @Numbering.take_filter_of_first _ _ [] _ _ _
          (fun r listed => absurd listed List.not_mem_nil) (fun r listed => (finding listed).2)
          (few inFindings) (inFindings.full (directories .findings) without)
        rw [List.nil_append] at first
        rw [first]
        exact inFindings.files
    | outliers =>
        have without : ∀ r ∈ others, r.2 < cfg.share r.1 ∧ r ∉ outliers := by
          intro r listed
          obtain ⟨within, _, outside⟩ := mem_others.mp listed
          exact ⟨within, outside⟩
        rw [Numbering.take_filter_of_first noOutlier (fun r listed => (outlier listed).2)
          (few inOutliers) (inOutliers.full (directories .outliers) without)]
        exact inOutliers.files

/-- **Every interleaving is some serial order.** A run in which all workers have returned and no
step was an exception, whatever the lanes returned in its rounds, ends with the counters and the
files of running the rounds of all workers one after another in some order, each as a whole:
the same numbers of the same directories, for the same rounds. -/
theorem interleaving_serializes {clock : BitVec 64} (some_ : 0 < threads)
    (few : cfg.iterations.toNat < 2 ^ 31)
    (run : Run (threadsStep cfg) (.initial cfg clock) trace s)
    (follows : (lanes.brought cfg).Follows trace)
    (joined : ∀ w, (s.workers w).point.phase.hasReturned = true) :
    ∃ order, EachRoundOnce cfg order ∧
      s.counters = { (serialRun lanes cfg order).counters with
        generatorDiscards := ∑ w, lanes.discards w } ∧
      s.dumps.Perm (serialRun lanes cfg order).dumps := by
  have settled := (accounts_of_run some_ few run follows.uncaught).settled some_ joined rfl
  obtain ⟨order, each, files⟩ :=
    exists_order settled (directory_of_run some_ few run follows joined)
  have short : order.length < 2 ^ 31 := by
    rw [each.length]
    exact (totalRounds_le some_ _).trans_lt few
  refine ⟨order, each, ?_, perm_of_filters fun dir => ?_⟩
  · rw [serialRun_counters each short]
    exact totals_of_run run follows joined
  · rw [(serialBooks_of_order order short).dumps dir]
    exact (files dir).symm

/-- Lanes in which seven retires an empty test case that Unicorn takes for undefined. -/
def undefinedLanes : LaneTable 1 where
  findingsDir := "findings"
  outliersDir := "unicorn_outliers"
  sessionStarted := fun _ => false
  testCase := fun _ _ => {}
  seven := fun _ _ => {}
  unicorn := fun _ _ => { stop := .ud }
  hw := fun _ _ => {}
  discards := fun _ => 0#64

/-- The steps of the only round. -/
def undefinedRound : List (ThreadsEvent 1) :=
  [.worker 0 .start, .worker 0 (.setUp false), .worker 0 .beginCase, .worker 0 .generate,
    .worker 0 .lockIo, .worker 0 .unlockIo, .worker 0 .lockCompute, .worker 0 .unlockCompute,
    .worker 0 (.runHardware true),
    .worker 0 (.compare ((undefinedLanes.brought oneIteration).divergences 0 0)),
    .worker 0 .lockIo, .worker 0 .unlockIo, .worker 0 .count, .worker 0 .endCase,
    .worker 0 (.leaveLoop 0#64)]

/-- The sample run brings what its lanes do. -/
theorem undefinedLanes_allows (s : ThreadsState 1) :
    ∀ event ∈ undefinedRound, (undefinedLanes.brought oneIteration).Allows s event := by
  intro event listed
  simp only [undefinedRound, List.mem_cons, List.not_mem_nil, or_false] at listed
  rcases listed with rfl | rfl | rfl | rfl | rfl | rfl | rfl | rfl | rfl | rfl | rfl | rfl | rfl |
    rfl | rfl
  all_goals trivial

/-- A run of one iteration with one finding. -/
theorem interleaving_serializes_one_round :
    ∃ trace s, Run (threadsStep oneIteration) (.initial oneIteration 0#64) trace s ∧
      s.counters.findingCount = 1 ∧
      ∃ order, EachRoundOnce oneIteration order ∧
        s.counters = { (serialRun undefinedLanes oneIteration order).counters with
          generatorDiscards := ∑ w, undefinedLanes.discards w } ∧
        s.dumps.Perm (serialRun undefinedLanes oneIteration order).dumps := by
  have ends : (play (threadsStep oneIteration) (.initial oneIteration 0#64) undefinedRound).map
      (fun played => (played.2.counters.findingCount,
        (played.2.workers 0).point.phase.hasReturned)) = some (1, true) := by
    decide +kernel
  obtain ⟨⟨trace, s⟩, played, same⟩ := Option.map_eq_some_iff.mp ends
  obtain ⟨counted, returned⟩ := by simpa only [Prod.mk.injEq] using same
  have run := Run.of_play _ undefinedRound played
  have joined (w : Fin 1) : (s.workers w).point.phase.hasReturned = true := by
    obtain rfl := Subsingleton.elim 0 w
    exact returned
  have follows : (undefinedLanes.brought oneIteration).Follows trace := by
    intro moment member
    apply undefinedLanes_allows
    rw [← play_events _ undefinedRound played]
    exact List.mem_map_of_mem member
  exact ⟨trace, s, run, counted,
    interleaving_serializes Nat.zero_lt_one (by decide) run follows joined⟩

end SevenFuzzer
