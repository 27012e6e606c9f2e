import SevenFuzzer.Compare.Discrepancy

/-! # The verdict of a round

A round that the lanes answer is filed by the answers alone. With hardware it is a finding
exactly if seven and the silicon answer distinctly, and an outlier exactly if they do not and
Unicorn shows another answer (`SevenFuzzer.Answered.finding_iff`,
`SevenFuzzer.Answered.outlier_iff`); without, it is a finding exactly if seven and Unicorn show
different answers (`SevenFuzzer.Meets.finding_iff_seen`).
-/

namespace SevenFuzzer

/-- What a test case compares of a machine, but for the x87 state. -/
def TestCase.seenOf (tc : TestCase) (m : MachineStart (BitVec 16)) :
    (Fin 16 → BitVec 64) × BitVec 64 × BitVec 64 × (Fin kDataWindow → BitVec 8) :=
  (fun i => if tc.gprCompareMask.getLsbD i.val then m.gpr i else 0, m.rip,
    m.flags &&& tc.flagsMask, fun i => m.pages ⟨_, dataWindow_inPages i⟩)

/-- What every lane shows of an answer. -/
def TestCase.seen (tc : TestCase) (answer : Except Fault (MachineStart (BitVec 16))) :
    Except Fault
      ((Fin 16 → BitVec 64) × BitVec 64 × BitVec 64 × (Fin kDataWindow → BitVec 8)) :=
  answer.map tc.seenOf

variable {tc : TestCase} {answer answer' : Except Fault (MachineStart (BitVec 16))}
  {out out' : LaneOutcome}

/-- What a test case sees of two machines is the same exactly if the compared fields are. -/
theorem TestCase.seenOf_eq_iff {m m' : MachineStart (BitVec 16)} :
    tc.seenOf m = tc.seenOf m' ↔
      (∀ i : Fin 16, tc.gprCompareMask.getLsbD i.val = true → m.gpr i = m'.gpr i) ∧
        m.rip = m'.rip ∧ m.flags &&& tc.flagsMask = m'.flags &&& tc.flagsMask ∧
          ∀ i : Fin kDataWindow,
            m.pages ⟨_, dataWindow_inPages i⟩ = m'.pages ⟨_, dataWindow_inPages i⟩ := by
  have masked : ((fun i : Fin 16 => if tc.gprCompareMask.getLsbD i.val then m.gpr i else 0) =
      fun i => if tc.gprCompareMask.getLsbD i.val then m'.gpr i else 0) ↔
      ∀ i : Fin 16, tc.gprCompareMask.getLsbD i.val = true → m.gpr i = m'.gpr i := by
    rw [funext_iff]
    apply forall_congr'
    intro i
    split
    · rename_i compared
      exact ⟨fun same _ => same, fun same => same compared⟩
    · rename_i skipped
      exact iff_of_true rfl fun compared => absurd compared skipped
  simp only [seenOf, Prod.mk.injEq, masked, funext_iff]

/-- Where one of the x87 states is not captured, what differs is what is seen. -/
theorem comparedDiffers_iff_seenOf {m m' : MachineStart (BitVec 16)}
    (core : ShowsCore tc out.after m) (core' : ShowsCore tc out'.after m')
    (uncaptured : out'.capturesX87 = false) :
    ¬ ComparedDiffers tc.flagsMask tc.gprCompareMask out out' ↔ tc.seenOf m = tc.seenOf m' := by
  have gpr : ¬ GprDiffers tc.gprCompareMask out.after out'.after ↔
      ∀ i : Fin 16, tc.gprCompareMask.getLsbD i.val = true → m.gpr i = m'.gpr i := by
    simp only [GprDiffers, not_exists, not_and, not_not]
    apply forall_congr'
    intro i
    apply forall_congr'
    intro compared
    rw [core.gpr i compared, core'.gpr i compared]
  have window : out.after.dataAfter = out'.after.dataAfter ↔ ∀ i : Fin kDataWindow,
      m.pages ⟨_, dataWindow_inPages i⟩ = m'.pages ⟨_, dataWindow_inPages i⟩ := by
    simp only [funext_iff, core.window, core'.window]
  rw [TestCase.seenOf_eq_iff, ComparedDiffers]
  simp only [not_or, ne_eq, not_not, gpr, core.rip, core'.rip, core.flags, core'.flags, window,
    uncaptured, Bool.false_eq_true, false_and, and_false, not_false_eq_true, and_true]

/-- Outcomes agree exactly if their answers are seen alike, where one shows no x87 state. -/
theorem Meets.agree_iff_seen (meets : Meets tc answer out) (meets' : Meets tc answer' out')
    (uncaptured : out'.capturesX87 = false) :
    tc.Agree out out' ↔ tc.seen answer = tc.seen answer' := by
  rw [TestCase.Agree, SevenFuzzer.agree_iff _ _ _ _ meets.setupOk meets'.setupOk, meets.stop,
    meets'.stop, stopFor_injective.eq_iff]
  cases answer with
  | error fault =>
      cases answer' with
      | error fault' =>
          constructor
          · rintro ⟨same, -⟩
            obtain rfl := Option.some.inj same
            rfl
          · intro same
            obtain rfl := Except.error.inj same
            refine ⟨rfl, fun retired => ?_⟩
            cases stopFor_eq_ok retired
      | ok m' =>
          constructor
          · rintro ⟨same, -⟩
            cases same
          · intro same
            cases same
  | ok m =>
      cases answer' with
      | error fault' =>
          constructor
          · rintro ⟨same, -⟩
            cases same
          · intro same
            cases same
      | ok m' =>
          have alike :=
            comparedDiffers_iff_seenOf (meets.core m rfl) (meets'.core m' rfl) uncaptured
          constructor
          · rintro ⟨-, same⟩
            exact congrArg Except.ok (alike.mp (same rfl))
          · intro same
            exact ⟨rfl, fun _ => alike.mpr (Except.ok.inj same)⟩

/-- All three lanes answer a round: seven and the silicon with their x87 state, Unicorn without. -/
structure Answered (tc : TestCase) (ofSeven ofSilicon ofUnicorn :
    Except Fault (MachineStart (BitVec 16))) (seven unicorn hw : LaneOutcome) : Prop where
  bySeven : Meets tc ofSeven seven
  byHw : Meets tc ofSilicon hw
  byUnicorn : Meets tc ofUnicorn unicorn
  sevenCaptures : seven.capturesX87 = true
  hwCaptures : hw.capturesX87 = true
  uncaptured : unicorn.capturesX87 = false

variable {ofSeven ofSilicon ofUnicorn : Except Fault (MachineStart (BitVec 16))}
  {seven unicorn hw : LaneOutcome}

/-- A round is a finding exactly if seven and the silicon answer distinctly. -/
theorem Answered.finding_iff (answered : Answered tc ofSeven ofSilicon ofUnicorn seven unicorn hw)
    (cfg : WorkerConfig) :
    ¬ (roundDivergences cfg tc seven unicorn hw true).unicornOnlyOutlier true ∧
        (roundDivergences cfg tc seven unicorn hw true).divergences ≠ [] ↔
      Distinct tc ofSeven ofSilicon := by
  rw [finding_iff_disagree, answered.bySeven.agree_iff answered.byHw answered.sevenCaptures
    answered.hwCaptures, not_not]

/-- A round is an outlier exactly if seven and the silicon do not answer distinctly, and Unicorn
shows another answer. -/
theorem Answered.outlier_iff (answered : Answered tc ofSeven ofSilicon ofUnicorn seven unicorn hw)
    (cfg : WorkerConfig) :
    (roundDivergences cfg tc seven unicorn hw true).unicornOnlyOutlier true ↔
      ¬ Distinct tc ofSeven ofSilicon ∧ tc.seen ofSeven ≠ tc.seen ofUnicorn := by
  obtain ⟨sevenVsUnicorn, sevenVsHw, unicornVsHw⟩ :=
    roundDivergences_of_ran cfg tc seven unicorn hw
  have alone := answered.bySeven.agree_iff_seen answered.byUnicorn answered.uncaptured
  rw [RoundDivergences.unicornOnlyOutlier, and_iff_right rfl,
    ← answered.bySeven.agree_iff answered.byHw
    answered.sevenCaptures answered.hwCaptures, sevenVsHw]
  apply and_congr_right
  intro same
  have through := tc.agree_congr_of_agree seven hw unicorn answered.bySeven.setupOk
    answered.byHw.setupOk answered.byUnicorn.setupOk answered.uncaptured same
  have turned := tc.agree_comm unicorn hw answered.byUnicorn.setupOk answered.byHw.setupOk
  rw [ne_eq, ne_eq, sevenVsUnicorn, unicornVsHw, turned, ← through, or_self, alone]

/-- Without hardware a round is never an outlier, and a finding exactly if seven and Unicorn show
different answers. -/
theorem Meets.finding_iff_seen (bySeven : Meets tc ofSeven seven)
    (byUnicorn : Meets tc ofUnicorn unicorn) (uncaptured : unicorn.capturesX87 = false)
    (cfg : WorkerConfig) (hw : LaneOutcome) :
    ¬ (roundDivergences cfg tc seven unicorn hw false).unicornOnlyOutlier false ∧
        (roundDivergences cfg tc seven unicorn hw false).divergences ≠ [] ↔
      tc.seen ofSeven ≠ tc.seen ofUnicorn := by
  have never : ¬ (roundDivergences cfg tc seven unicorn hw false).unicornOnlyOutlier false :=
    fun outlier => Bool.false_ne_true outlier.1
  rw [and_iff_right never, ne_eq, ne_eq, ← bySeven.agree_iff_seen byUnicorn uncaptured,
    RoundDivergences.divergences, roundDivergences]
  simp only [Bool.false_eq_true, ↓reduceIte, List.append_nil]
  rw [diffPair_eq_nil_iff_agree]

end SevenFuzzer
