import SevenFuzzer.Compare.DiffPair

/-! # The round of a worker and its triage

One round of `run_worker` runs a test case through the lanes, compares the three
pairs of outcomes and files the round as a finding, as an outlier of Unicorn, or
not at all. `triage_sound` states what is filed when every lane ran: the filing
of the code, which looks at three lists of divergences, is the one by agreement
of the two lanes seven and hardware, since agreement with Unicorn passes through
an agreement of those two (`SevenFuzzer.TestCase.agree_congr_of_agree`).
-/

namespace SevenFuzzer

/-- How many report files each directory may hold; the counts go on beyond it. -/
def kMaxDumpFilesPerDir : BitVec 32 := 250#32

/-- The atomic counters shared by the workers, in the widths of the source. -/
structure SharedCounters where
  findingCount : BitVec 32 := 0
  unicornOutlierSaved : BitVec 32 := 0
  unicornOutlierCount : BitVec 64 := 0
  hwHarnessErrors : BitVec 64 := 0
  generatorDiscards : BitVec 64 := 0
  totalDone : BitVec 64 := 0
  deriving DecidableEq

/-- The two directories a report may be filed in. -/
inductive OutputDir where
  | findings | outliers
  deriving DecidableEq

/-- What a round prints and writes, in order. -/
inductive Effect where
  | print (text : String)
  | writeFinding (dir : OutputDir) (index : BitVec 32) (tc : TestCase) (sevenLabel : String)
      (seven unicorn hw : LaneOutcome) (hwAvailable : Bool) (divergences : List Divergence)

/-- The parameters of a worker that its rounds read. -/
structure WorkerConfig where
  workerId : Nat
  useJit : Bool := false
  workerUseHw : Bool := true
  totalIterations : BitVec 64
  findingsDir : String
  outliersDir : String

/-- The name Seven has in a pairing, which says whether its compiler ran. -/
def WorkerConfig.sevenLabel (cfg : WorkerConfig) : String :=
  if cfg.useJit then "seven-jit" else "seven"

/-- A line of a worker, which names the worker. -/
def WorkerConfig.printed (cfg : WorkerConfig) (text : String) : Effect :=
  .print ("[worker " ++ toString cfg.workerId ++ "] " ++ text ++ "\n")

/-- What `%06d` prints. -/
def decPad6 (value : Int) : String :=
  let sign := if value < 0 then "-" else ""
  let digits := toString value.natAbs
  sign ++ String.ofList (List.replicate (6 - sign.length - digits.length) '0') ++ digits

/-- The path `write_finding` returns. -/
def findingPath (dir : String) (index : BitVec 32) : String :=
  dir ++ "/finding_" ++ decPad6 index.toInt ++ ".txt"

/-- The divergences of a round, one list for each pair of lanes. -/
structure RoundDivergences where
  sevenVsUnicorn : List Divergence
  sevenVsHw : List Divergence
  unicornVsHw : List Divergence

/-- The three comparisons of a round; the two against the hardware are left empty when it did not
run. -/
def roundDivergences (cfg : WorkerConfig) (tc : TestCase) (seven unicorn hw : LaneOutcome)
    (hwOkThisRound : Bool) : RoundDivergences where
  sevenVsUnicorn :=
    diffPair (cfg.sevenLabel ++ "-vs-unicorn") seven unicorn tc.flagsMask tc.gprCompareMask []
  sevenVsHw :=
    if hwOkThisRound then
      diffPair (cfg.sevenLabel ++ "-vs-hw") seven hw tc.flagsMask tc.gprCompareMask []
    else []
  unicornVsHw :=
    if hwOkThisRound then
      diffPair "unicorn-vs-hw" unicorn hw tc.flagsMask tc.gprCompareMask []
    else []

/-- Seven agrees with the hardware and Unicorn disagrees with one of the two. -/
def RoundDivergences.unicornOnlyOutlier (d : RoundDivergences) (hwOkThisRound : Bool) : Prop :=
  hwOkThisRound = true ∧ d.sevenVsHw = [] ∧ (d.sevenVsUnicorn ≠ [] ∨ d.unicornVsHw ≠ [])

instance (d : RoundDivergences) (hwOkThisRound : Bool) :
    Decidable (d.unicornOnlyOutlier hwOkThisRound) :=
  inferInstanceAs (Decidable (_ ∧ _))

/-- What an outlier's report lists: the pairings with Unicorn. -/
def RoundDivergences.outlierDivergences (d : RoundDivergences) : List Divergence :=
  d.sevenVsUnicorn ++ d.unicornVsHw

/-- All divergences of a round, in the order they are computed. -/
def RoundDivergences.divergences (d : RoundDivergences) : List Divergence :=
  d.sevenVsUnicorn ++ d.sevenVsHw ++ d.unicornVsHw

/-- Files a round: the counters, then the dump, which is written while the index
is below the limit of its directory. -/
def triage (cfg : WorkerConfig) (tc : TestCase) (seven unicorn hw : LaneOutcome)
    (hwOkThisRound : Bool) (counters : SharedCounters) : SharedCounters × List Effect :=
  let d := roundDivergences cfg tc seven unicorn hw hwOkThisRound
  if d.unicornOnlyOutlier hwOkThisRound then
    let oidx := counters.unicornOutlierSaved
    ({ counters with
        unicornOutlierCount := counters.unicornOutlierCount + 1
        unicornOutlierSaved := counters.unicornOutlierSaved + 1 },
      if oidx.slt kMaxDumpFilesPerDir then
        [.writeFinding .outliers oidx tc cfg.sevenLabel seven unicorn hw hwOkThisRound
          d.outlierDivergences]
      else [])
  else if d.divergences ≠ [] then
    let idx := counters.findingCount
    ({ counters with findingCount := counters.findingCount + 1 },
      if idx.slt kMaxDumpFilesPerDir then
        [.writeFinding .findings idx tc cfg.sevenLabel seven unicorn hw hwOkThisRound
            d.divergences,
          cfg.printed ("DIVERGENCE (" ++ tc.text ++ ") -> " ++ findingPath cfg.findingsDir idx)]
      else if idx = kMaxDumpFilesPerDir then
        [cfg.printed (toString kMaxDumpFilesPerDir.toInt ++
          " dumps written, still counting but no longer writing them")]
      else [])
  else (counters, [])

/-- The hardware lane's part of a round that comes before the comparison: a
harness error is counted and printed. -/
def noteHarnessError (cfg : WorkerConfig) (hw : LaneOutcome) (counters : SharedCounters) :
    SharedCounters × List Effect :=
  if cfg.workerUseHw ∧ ¬ hw.setupOk then
    ({ counters with hwHarnessErrors := counters.hwHarnessErrors + 1 },
      [cfg.printed ("hw harness error: " ++ hw.setupError)])
  else (counters, [])

/-- The end of a round: it is counted, and every 5000th round reports progress. -/
def noteDone (cfg : WorkerConfig) (counters : SharedCounters) : SharedCounters × List Effect :=
  let done := counters.totalDone + 1
  let counters := { counters with totalDone := done }
  (counters,
    if done % 5000#64 = 0#64 then
      [.print ("progress: " ++ toString done.toNat ++ "/" ++ toString cfg.totalIterations.toNat ++
        ", findings=" ++ toString counters.findingCount.toInt ++ ", unicorn_only_outliers=" ++
        toString counters.unicornOutlierCount.toNat ++ ", hw_harness_errors=" ++
        toString counters.hwHarnessErrors.toNat ++ "\n")]
    else [])

/-- The rest of a round of `run_worker`, once the lanes have run: `hw` is the
default outcome when the worker has no hardware session. -/
def round (cfg : WorkerConfig) (tc : TestCase) (seven unicorn hw : LaneOutcome)
    (counters : SharedCounters) : SharedCounters × List Effect :=
  let hwOkThisRound := cfg.workerUseHw && hw.setupOk
  let (counters, harness) := noteHarnessError cfg hw counters
  let (counters, filed) := triage cfg tc seven unicorn hw hwOkThisRound counters
  let (counters, done) := noteDone cfg counters
  (counters, harness ++ filed ++ done)

/-- Apart from the x87 state, an item differs from one outcome exactly when it
differs from another that agrees with it. -/
theorem comparedDiffers_congr (flagsMask : BitVec 64) (mask : BitVec 32) (a b c : LaneOutcome)
    (uncaptured : c.capturesX87 = false) (same : ¬ ComparedDiffers flagsMask mask a b) :
    ComparedDiffers flagsMask mask a c ↔ ComparedDiffers flagsMask mask b c := by
  simp only [ComparedDiffers, not_or, GprDiffers, not_exists, not_and, ne_eq, not_not] at same
  obtain ⟨gpr, rip, flags, data, _⟩ := same
  simp only [ComparedDiffers, GprDiffers, uncaptured, Bool.false_eq_true, false_and, and_false,
    or_false, rip, flags, data]
  refine or_congr_left (exists_congr fun i => and_congr_right fun selected => ?_)
  rw [gpr i selected]

/-- To differ does not depend on the order. -/
theorem comparedDiffers_comm (flagsMask : BitVec 64) (mask : BitVec 32) (a b : LaneOutcome) :
    ComparedDiffers flagsMask mask a b ↔ ComparedDiffers flagsMask mask b a := by
  have x87 : X87Differs a.after.x87 b.after.x87 ↔ X87Differs b.after.x87 a.after.x87 := by
    simp only [X87Differs, ne_comm (a := a.after.x87.controlWord),
      ne_comm (a := a.after.x87.statusWord), ne_comm (a := a.after.x87.tagWord),
      ne_comm (a := a.after.x87.signexp _), ne_comm (a := a.after.x87.signif _),
      and_left_comm (a := x87TagOfSt a.after.x87 _ ≠ 3#8)]
  simp only [ComparedDiffers, GprDiffers, x87, ne_comm (a := a.after.gpr _),
    ne_comm (a := a.after.rip), ne_comm (a := a.after.rflags &&& flagsMask),
    ne_comm (a := a.after.dataAfter), and_left_comm (a := a.capturesX87 = true)]

/-- Two outcomes agree under the masks of a test case. -/
abbrev TestCase.Agree (tc : TestCase) (a b : LaneOutcome) : Prop :=
  SevenFuzzer.Agree tc.flagsMask tc.gprCompareMask a b

/-- **Agreement passes through an agreement.** An outcome without x87 state
agrees with one of two agreeing outcomes exactly when it agrees with the other. -/
theorem TestCase.agree_congr_of_agree (tc : TestCase) (a b c : LaneOutcome)
    (left : a.setupOk = true) (middle : b.setupOk = true) (right : c.setupOk = true)
    (uncaptured : c.capturesX87 = false) (same : tc.Agree a b) :
    tc.Agree a c ↔ tc.Agree b c := by
  rw [TestCase.Agree, agree_iff _ _ _ _ left middle] at same
  rw [TestCase.Agree, TestCase.Agree, agree_iff _ _ _ _ left right,
    agree_iff _ _ _ _ middle right, same.1]
  refine and_congr_right fun _ => forall_congr' fun retired => not_congr ?_
  exact comparedDiffers_congr _ _ a b c uncaptured (same.2 (same.1.trans retired))

/-- Nor does to agree, where both lanes ran. -/
theorem TestCase.agree_comm (tc : TestCase) (a b : LaneOutcome)
    (left : a.setupOk = true) (right : b.setupOk = true) : tc.Agree a b ↔ tc.Agree b a := by
  rw [TestCase.Agree, TestCase.Agree, agree_iff _ _ _ _ left right,
    agree_iff _ _ _ _ right left, comparedDiffers_comm _ _ a b]
  constructor
  · rintro ⟨stops, equal⟩
    exact ⟨stops.symm, fun retired => equal (stops.trans retired)⟩
  · rintro ⟨stops, equal⟩
    exact ⟨stops.symm, fun retired => equal (stops.trans retired)⟩

/-- A comparison that starts with nothing ends with nothing exactly if the outcomes agree. -/
theorem diffPair_eq_nil_iff_agree (label : String) (tc : TestCase) (a b : LaneOutcome) :
    diffPair label a b tc.flagsMask tc.gprCompareMask [] = [] ↔ tc.Agree a b := by
  simp only [TestCase.Agree, Agree, diffPair]
  split_ifs <;> simp

/-- Where all three lanes ran, the three comparisons are those of the outcomes. -/
theorem roundDivergences_of_ran (cfg : WorkerConfig) (tc : TestCase)
    (seven unicorn hw : LaneOutcome) :
    let d := roundDivergences cfg tc seven unicorn hw true
    (d.sevenVsUnicorn = [] ↔ tc.Agree seven unicorn) ∧ (d.sevenVsHw = [] ↔ tc.Agree seven hw) ∧
      (d.unicornVsHw = [] ↔ tc.Agree unicorn hw) := by
  simp only [roundDivergences, ↓reduceIte, diffPair_eq_nil_iff_agree, and_self]

/-- What `triage` adds to the two verdict counters. -/
theorem triage_counts (cfg : WorkerConfig) (tc : TestCase) (seven unicorn hw : LaneOutcome)
    (hwOkThisRound : Bool) (counters : SharedCounters) :
    let after := (triage cfg tc seven unicorn hw hwOkThisRound counters).1
    let d := roundDivergences cfg tc seven unicorn hw hwOkThisRound
    let outlier := d.unicornOnlyOutlier hwOkThisRound
    after.unicornOutlierCount = counters.unicornOutlierCount + (if outlier then 1 else 0) ∧
      after.findingCount = counters.findingCount +
        (if ¬ outlier ∧ d.divergences ≠ [] then 1 else 0) := by
  simp only [triage]
  by_cases outlier : (roundDivergences cfg tc seven unicorn hw hwOkThisRound).unicornOnlyOutlier
      hwOkThisRound
  · simp only [outlier, ↓reduceIte, not_true_eq_false, false_and, add_zero, and_self]
  · by_cases clean : (roundDivergences cfg tc seven unicorn hw hwOkThisRound).divergences = []
    · simp only [outlier, clean, ↓reduceIte, ne_eq, not_true_eq_false, and_false,
        add_zero, and_self]
    · simp only [outlier, clean, ↓reduceIte, ne_eq, not_false_eq_true, and_self,
        add_zero]

/-- The rest of a round changes the two verdict counters only in `triage`. -/
theorem round_counts (cfg : WorkerConfig) (tc : TestCase) (seven unicorn hw : LaneOutcome)
    (counters : SharedCounters) :
    let after := (round cfg tc seven unicorn hw counters).1
    let d := roundDivergences cfg tc seven unicorn hw (cfg.workerUseHw && hw.setupOk)
    let outlier := d.unicornOnlyOutlier (cfg.workerUseHw && hw.setupOk)
    after.unicornOutlierCount = counters.unicornOutlierCount + (if outlier then 1 else 0) ∧
      after.findingCount = counters.findingCount +
        (if ¬ outlier ∧ d.divergences ≠ [] then 1 else 0) := by
  have noted : (noteHarnessError cfg hw counters).1.unicornOutlierCount =
        counters.unicornOutlierCount ∧
      (noteHarnessError cfg hw counters).1.findingCount = counters.findingCount := by
    unfold noteHarnessError
    split <;> exact ⟨rfl, rfl⟩
  have counted := triage_counts cfg tc seven unicorn hw (cfg.workerUseHw && hw.setupOk)
    (noteHarnessError cfg hw counters).1
  rw [noted.1, noted.2] at counted
  exact counted

/-- **Soundness of the triage.** When every lane ran and Unicorn captures no x87
state, a round counts a finding exactly when seven and hardware disagree, counts
an outlier exactly when these two agree and Unicorn disagrees with hardware, or
equivalently with seven, and an outlier carries a divergence of Unicorn with
each of the two. -/
theorem triage_sound (cfg : WorkerConfig) (tc : TestCase) (seven unicorn hw : LaneOutcome)
    (counters : SharedCounters) (useHw : cfg.workerUseHw = true)
    (sevenRan : seven.setupOk = true) (unicornRan : unicorn.setupOk = true)
    (hwRan : hw.setupOk = true) (uncaptured : unicorn.capturesX87 = false) :
    let after := (round cfg tc seven unicorn hw counters).1
    let d := roundDivergences cfg tc seven unicorn hw true
    after.findingCount = counters.findingCount + (if tc.Agree seven hw then 0 else 1) ∧
      after.unicornOutlierCount = counters.unicornOutlierCount +
        (if tc.Agree seven hw ∧ ¬ tc.Agree unicorn hw then 1 else 0) ∧
      (tc.Agree seven hw → (tc.Agree unicorn hw ↔ tc.Agree seven unicorn)) ∧
      (tc.Agree seven hw → ¬ tc.Agree unicorn hw → ∃ first second,
        d.sevenVsUnicorn = [first] ∧ d.unicornVsHw = [second] ∧
          d.outlierDivergences = [first, second]) := by
  intro after d
  have ran : (cfg.workerUseHw && hw.setupOk) = true := by rw [useHw, hwRan]; rfl
  obtain ⟨outliers, findings⟩ := round_counts cfg tc seven unicorn hw counters
  rw [ran] at outliers findings
  obtain ⟨su, sh, uh⟩ := roundDivergences_of_ran cfg tc seven unicorn hw
  have through : tc.Agree seven hw → (tc.Agree unicorn hw ↔ tc.Agree seven unicorn) := by
    intro same
    rw [tc.agree_comm unicorn hw unicornRan hwRan]
    exact (tc.agree_congr_of_agree seven hw unicorn sevenRan hwRan unicornRan uncaptured
      same).symm
  have outlier : d.unicornOnlyOutlier true ↔ tc.Agree seven hw ∧ ¬ tc.Agree unicorn hw := by
    simp only [RoundDivergences.unicornOnlyOutlier, d, su, sh, uh, ne_eq, true_and]
    refine and_congr_right fun same => ?_
    rw [through same, or_self]
  have finding : ¬ d.unicornOnlyOutlier true ∧ d.divergences ≠ [] ↔ ¬ tc.Agree seven hw := by
    rw [outlier]
    simp only [RoundDivergences.divergences, d, ne_eq, List.append_eq_nil_iff, su, sh, uh]
    by_cases same : tc.Agree seven hw
    · by_cases alone : tc.Agree seven unicorn
      · simp [same, alone, (through same).mpr alone]
      · simp [same, mt (through same).mp alone]
    · simp only [same, false_and, and_false, not_false_eq_true, and_self]
  refine ⟨?_, ?_, through, ?_⟩
  · simp only [after, findings]
    rw [if_congr finding rfl rfl, ite_not]
  · simp only [after, outliers]
    rw [if_congr outlier rfl rfl]
  · intro same apart
    rcases diffPair_eq_self_or (cfg.sevenLabel ++ "-vs-unicorn") seven unicorn tc.flagsMask
      tc.gprCompareMask [] with empty | one
    · exact (apart ((through same).mpr (su.mp empty))).elim
    · rcases diffPair_eq_self_or "unicorn-vs-hw" unicorn hw tc.flagsMask tc.gprCompareMask []
        with empty | two
      · exact (apart (uh.mp empty)).elim
      · exact ⟨_, _, one, two, congrArg₂ List.append one two⟩

/-- Seven and hardware agree and Unicorn alone differs in RAX: one outlier. -/
theorem triage_sound_outlier :
    (round ⟨0, false, true, 1, "findings", "outliers"⟩ {} {}
      { after := { gpr := fun i => if i = 0 then 1#64 else 0#64 } } {} {}).1.unicornOutlierCount =
      0 + (if TestCase.Agree {} {} {} ∧
        ¬ TestCase.Agree {} { after := { gpr := fun i => if i = 0 then 1#64 else 0#64 } } {}
          then 1 else 0) :=
  (triage_sound ⟨0, false, true, 1, "findings", "outliers"⟩ {} {}
    { after := { gpr := fun i => if i = 0 then 1#64 else 0#64 } } {} {} rfl rfl rfl rfl rfl).2.1

end SevenFuzzer
