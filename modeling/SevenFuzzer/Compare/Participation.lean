import SevenFuzzer.Compare.Triage

/-! # Lanes that take no part in a round

A lane may be switched off, and a lane that is on may fail its set-up. The round
of a worker tells neither case from an outcome: the outcome of a lane that is off
is the default one, whose set-up succeeded, and a failed lane leaves its
comparisons as empty as an agreement does (`comparisons_eq_nil`).

`disabled_inert_iff` states when a lane that is off leaves no trace in what the
round files.
-/

namespace SevenFuzzer

/-- The switches that leave a lane out. -/
structure DisabledLanes where
  noSeven : Bool := false
  noUnicorn : Bool := false

/-- The three lanes of a round. -/
inductive Lane where
  | seven | unicorn | hw
  deriving DecidableEq

/-- What the lanes of a round return. -/
abbrev LaneOutcomes := Lane → LaneOutcome

/-- Whether the command line leaves a lane on; the hardware lane is also off where it cannot be
started. -/
def laneEnabled (cfg : WorkerConfig) (off : DisabledLanes) : Lane → Bool
  | .seven => !off.noSeven
  | .unicorn => !off.noUnicorn
  | .hw => cfg.workerUseHw

/-- The outcome of a lane that is off is `LaneOutcome{}`. -/
def handedOn (cfg : WorkerConfig) (off : DisabledLanes) (outs : LaneOutcomes) : LaneOutcomes :=
  fun lane => if laneEnabled cfg off lane then outs lane else {}

/-- A round with the lanes that are on. -/
def laneRound (cfg : WorkerConfig) (off : DisabledLanes) (tc : TestCase) (outs : LaneOutcomes)
    (counters : SharedCounters) : SharedCounters × List Effect :=
  let handed := handedOn cfg off outs
  round cfg tc (handed .seven) (handed .unicorn) (handed .hw) counters

/-- The hardware lane was asked and its harness did not fail. -/
def hwOkThisRound (cfg : WorkerConfig) (outs : LaneOutcomes) : Bool :=
  cfg.workerUseHw && (outs .hw).setupOk

/-- The comparisons of a round between three outcomes. -/
def comparisons (cfg : WorkerConfig) (tc : TestCase) (outs : LaneOutcomes) : RoundDivergences :=
  roundDivergences cfg tc (outs .seven) (outs .unicorn) (outs .hw) (hwOkThisRound cfg outs)

/-- What an effect prints to the console. -/
def Effect.console : Effect → Option String
  | .print text => some text
  | .writeFinding .. => none

/-- The report a round writes: its directory, its index and its divergences. -/
def Effect.report : Effect → Option (OutputDir × BitVec 32 × List Divergence)
  | .print _ => none
  | .writeFinding dir index _ _ _ _ _ _ divergences => some (dir, index, divergences)

/-- What a round counts, prints and writes. -/
def filings (result : SharedCounters × List Effect) :
    SharedCounters × List String × List (OutputDir × BitVec 32 × List Divergence) :=
  (result.1, result.2.filterMap Effect.console, result.2.filterMap Effect.report)

/-- A round is filed by its divergences, apart from the outcomes in its report. -/
theorem filings_round_congr {cfg : WorkerConfig} {tc : TestCase} {outs outs' : LaneOutcomes}
    (counters : SharedCounters) (sameHw : outs .hw = outs' .hw)
    (same : comparisons cfg tc outs = comparisons cfg tc outs') :
    filings (round cfg tc (outs .seven) (outs .unicorn) (outs .hw) counters) =
      filings (round cfg tc (outs' .seven) (outs' .unicorn) (outs' .hw) counters) := by
  simp only [comparisons, hwOkThisRound, ← sameHw] at same
  simp only [filings, round, triage, ← sameHw, same, List.filterMap_append]
  split_ifs <;> rfl

/-- A lane that failed is compared with nothing. -/
theorem diffPair_of_failed_left {a : LaneOutcome} (failed : a.setupOk = false) (label : String)
    (b : LaneOutcome) (flagsMask : BitVec 64) (mask : BitVec 32) (out : List Divergence) :
    diffPair label a b flagsMask mask out = out :=
  if_pos (.inl (by rw [failed]; exact Bool.false_ne_true))

theorem diffPair_of_failed_right {b : LaneOutcome} (failed : b.setupOk = false) (label : String)
    (a : LaneOutcome) (flagsMask : BitVec 64) (mask : BitVec 32) (out : List Divergence) :
    diffPair label a b flagsMask mask out = out :=
  if_pos (.inr (by rw [failed]; exact Bool.false_ne_true))

/-- A lane that failed agrees with anything. -/
theorem TestCase.agree_of_failed_left {a : LaneOutcome} (failed : a.setupOk = false) (tc : TestCase)
    (b : LaneOutcome) : tc.Agree a b :=
  diffPair_of_failed_left failed _ _ _ _ _

theorem TestCase.agree_of_failed_right {b : LaneOutcome} (failed : b.setupOk = false)
    (tc : TestCase)
    (a : LaneOutcome) : tc.Agree a b :=
  diffPair_of_failed_right failed _ _ _ _ _

/-- An outcome agrees with itself. -/
theorem TestCase.agree_refl (tc : TestCase) (a : LaneOutcome) : tc.Agree a a := by
  cases ran : a.setupOk with
  | false => exact tc.agree_of_failed_left ran a
  | true =>
      refine (agree_iff _ _ a a ran ran).mpr ⟨rfl, fun _ differs => ?_⟩
      rcases differs with ⟨_, _, differs⟩ | differs | differs | differs | ⟨_, _, differs⟩
      · exact differs rfl
      · exact differs rfl
      · exact differs rfl
      · exact differs rfl
      · rcases differs with differs | differs | differs | ⟨_, _, _, differs | differs⟩ <;>
          exact differs rfl

/-- To agree does not depend on the order. -/
theorem TestCase.agree_symm {tc : TestCase} {a b : LaneOutcome} (same : tc.Agree a b) :
    tc.Agree b a := by
  cases left : a.setupOk with
  | false => exact tc.agree_of_failed_right left b
  | true =>
      cases right : b.setupOk with
      | false => exact tc.agree_of_failed_left right a
      | true => exact (tc.agree_comm a b left right).mp same

/-- A comparison with hardware is empty when hardware has no result. -/
theorem comparisons_eq_nil (cfg : WorkerConfig) (tc : TestCase) (outs : LaneOutcomes) :
    ((comparisons cfg tc outs).sevenVsUnicorn = [] ↔ tc.Agree (outs .seven) (outs .unicorn)) ∧
    ((comparisons cfg tc outs).sevenVsHw = [] ↔
      (hwOkThisRound cfg outs = true → tc.Agree (outs .seven) (outs .hw))) ∧
    ((comparisons cfg tc outs).unicornVsHw = [] ↔
      (hwOkThisRound cfg outs = true → tc.Agree (outs .unicorn) (outs .hw))) := by
  simp only [comparisons, roundDivergences]
  cases hwOkThisRound cfg outs <;> simp [diffPair_eq_nil_iff_agree]

/-- A lane that did not run, for the comparator. -/
def notRun : LaneOutcome := { setupOk := false }

/-- The outcomes of a round that compares the lanes that are on alone. Whether hardware
is on, the worker knows without its outcome. -/
def ranAlone (cfg : WorkerConfig) (off : DisabledLanes) (outs : LaneOutcomes) : LaneOutcomes
  | .seven => if off.noSeven then notRun else outs .seven
  | .unicorn => if off.noUnicorn then notRun else outs .unicorn
  | .hw => handedOn cfg off outs .hw

/-- The divergences of a round that involve a lane. -/
def RoundDivergences.involving (d : RoundDivergences) : Lane → List Divergence
  | .seven => d.sevenVsUnicorn ++ d.sevenVsHw
  | .unicorn => d.sevenVsUnicorn ++ d.unicornVsHw
  | .hw => d.sevenVsHw ++ d.unicornVsHw

/-- A round counts, prints and writes what the comparison of the lanes that are on
alone makes of it, and no divergence involves a lane that is off. -/
def DisabledInert (cfg : WorkerConfig) (off : DisabledLanes) (tc : TestCase) (outs : LaneOutcomes)
    (counters : SharedCounters) : Prop :=
  filings (laneRound cfg off tc outs counters) =
      (let ran := ranAlone cfg off outs
       filings (round cfg tc (ran .seven) (ran .unicorn) (ran .hw) counters)) ∧
    ∀ lane, laneEnabled cfg off lane = false →
      (comparisons cfg tc (handedOn cfg off outs)).involving lane = []

/-- A result that the comparator cannot tell from the default outcome. -/
def LooksDefault (tc : TestCase) (out : LaneOutcome) : Prop :=
  out.setupOk = true → out.stop = .ok ∧
    (∀ i : Fin 16, tc.gprCompareMask.getLsbD i.val = true → out.after.gpr i = 0#64) ∧
    out.after.rip = 0#64 ∧ out.after.rflags &&& tc.flagsMask = 0x202#64 &&& tc.flagsMask ∧
    ∀ i, out.after.dataAfter i = 0#8

/-- What agrees with the outcome of a lane that is off looks like it. -/
theorem agree_default_iff (tc : TestCase) (out : LaneOutcome) :
    tc.Agree out {} ↔ LooksDefault tc out := by
  cases ran : out.setupOk with
  | false => exact iff_of_true (tc.agree_of_failed_left ran _) fun ok => by simp [ran] at ok
  | true =>
      rw [TestCase.Agree, agree_iff _ _ out {} ran rfl]
      simp only [LooksDefault, ran, true_implies]
      refine and_congr_right fun stopped => ?_
      simp only [stopped, true_implies, ComparedDiffers, GprDiffers, Bool.false_eq_true, false_and,
        and_false, or_false, not_or, not_exists, not_and, ne_eq, not_not, funext_iff]
      exact Iff.rfl

/-- The three comparisons are all there is. -/
theorem RoundDivergences.eq_of_fields {d d' : RoundDivergences}
    (sevenVsUnicorn : d.sevenVsUnicorn = d'.sevenVsUnicorn) (sevenVsHw : d.sevenVsHw = d'.sevenVsHw)
    (unicornVsHw : d.unicornVsHw = d'.unicornVsHw) : d = d' := by
  cases d
  cases d'
  cases sevenVsUnicorn
  cases sevenVsHw
  cases unicornVsHw
  rfl

/-- With every lane that is on like the default, the lanes that are off add nothing. -/
theorem comparisons_ranAlone {cfg : WorkerConfig} {off : DisabledLanes} {tc : TestCase}
    {outs : LaneOutcomes}
    (looks : off.noSeven = true ∨ off.noUnicorn = true →
      ∀ lane, laneEnabled cfg off lane = true → LooksDefault tc (outs lane)) :
    comparisons cfg tc (handedOn cfg off outs) = comparisons cfg tc (ranAlone cfg off outs) := by
  obtain ⟨su, sh, uh⟩ := comparisons_eq_nil cfg tc (handedOn cfg off outs)
  obtain ⟨su', sh', uh'⟩ := comparisons_eq_nil cfg tc (ranAlone cfg off outs)
  have like : off.noSeven = true ∨ off.noUnicorn = true →
      ∀ lane, tc.Agree (handedOn cfg off outs lane) {} := by
    intro some_off lane
    cases enabled : laneEnabled cfg off lane with
    | true =>
        simp only [handedOn, enabled, ↓reduceIte]
        exact (agree_default_iff tc _).mpr (looks some_off lane enabled)
    | false =>
        simp only [handedOn, enabled, Bool.false_eq_true, ↓reduceIte]
        exact tc.agree_refl _
  have sevenOff (off_seven : off.noSeven = true) :
      handedOn cfg off outs .seven = {} ∧ (ranAlone cfg off outs .seven).setupOk = false := by
    simp [handedOn, laneEnabled, ranAlone, notRun, off_seven]
  have unicornOff (off_unicorn : off.noUnicorn = true) :
      handedOn cfg off outs .unicorn = {} ∧ (ranAlone cfg off outs .unicorn).setupOk = false := by
    simp [handedOn, laneEnabled, ranAlone, notRun, off_unicorn]
  have sevenOn (on_seven : off.noSeven = false) :
      handedOn cfg off outs .seven = ranAlone cfg off outs .seven := by
    simp [handedOn, laneEnabled, ranAlone, on_seven]
  have unicornOn (on_unicorn : off.noUnicorn = false) :
      handedOn cfg off outs .unicorn = ranAlone cfg off outs .unicorn := by
    simp [handedOn, laneEnabled, ranAlone, on_unicorn]
  refine RoundDivergences.eq_of_fields ?_ ?_ ?_
  · cases off_seven : off.noSeven with
    | true =>
        rw [su.mpr, su'.mpr (tc.agree_of_failed_left (sevenOff off_seven).2 _)]
        rw [(sevenOff off_seven).1]
        exact TestCase.agree_symm (like (.inl off_seven) _)
    | false =>
        cases off_unicorn : off.noUnicorn with
        | true =>
            rw [su.mpr, su'.mpr (tc.agree_of_failed_right (unicornOff off_unicorn).2 _)]
            rw [(unicornOff off_unicorn).1]
            exact like (.inr off_unicorn) _
        | false =>
            simp only [comparisons, roundDivergences, sevenOn off_seven, unicornOn off_unicorn]
  · cases off_seven : off.noSeven with
    | true =>
        rw [sh.mpr, sh'.mpr fun _ => tc.agree_of_failed_left (sevenOff off_seven).2 _]
        rw [(sevenOff off_seven).1]
        exact fun _ => TestCase.agree_symm (like (.inl off_seven) _)
    | false =>
        simp only [comparisons, roundDivergences, sevenOn off_seven, hwOkThisRound]
        rfl
  · cases off_unicorn : off.noUnicorn with
    | true =>
        rw [uh.mpr, uh'.mpr fun _ => tc.agree_of_failed_left (unicornOff off_unicorn).2 _]
        rw [(unicornOff off_unicorn).1]
        exact fun _ => TestCase.agree_symm (like (.inr off_unicorn) _)
    | false =>
        simp only [comparisons, roundDivergences, unicornOn off_unicorn, hwOkThisRound]
        rfl

/-- A lane that is off is compared as the default outcome. -/
theorem looksDefault_of_inert {cfg : WorkerConfig} {off : DisabledLanes} {tc : TestCase}
    {outs : LaneOutcomes}
    (inert : ∀ lane, laneEnabled cfg off lane = false →
      (comparisons cfg tc (handedOn cfg off outs)).involving lane = [])
    (some_off : off.noSeven = true ∨ off.noUnicorn = true) (lane : Lane)
    (enabled : laneEnabled cfg off lane = true) : LooksDefault tc (outs lane) := by
  obtain ⟨su, sh, uh⟩ := comparisons_eq_nil cfg tc (handedOn cfg off outs)
  have on : handedOn cfg off outs lane = outs lane := if_pos enabled
  have hwOk (hw : lane = .hw) (ran : (outs lane).setupOk = true) :
      hwOkThisRound cfg (handedOn cfg off outs) = true := by
    subst hw
    rw [hwOkThisRound, on, ran, Bool.and_true]
    exact enabled
  rw [← agree_default_iff]
  rcases some_off with off_seven | off_unicorn
  · have disabled : laneEnabled cfg off .seven = false := by simp [laneEnabled, off_seven]
    have seven : handedOn cfg off outs .seven = {} := by simp [handedOn, disabled]
    obtain ⟨noUnicorn, noHw⟩ := List.append_eq_nil_iff.mp (inert .seven disabled)
    cases lane with
    | seven => exact absurd enabled (by simp [disabled])
    | unicorn => exact TestCase.agree_symm (seven ▸ on ▸ su.mp noUnicorn)
    | hw =>
        cases ran : (outs .hw).setupOk with
        | false => exact tc.agree_of_failed_left ran _
        | true => exact TestCase.agree_symm (seven ▸ on ▸ sh.mp noHw (hwOk rfl ran))
  · have disabled : laneEnabled cfg off .unicorn = false := by simp [laneEnabled, off_unicorn]
    have unicorn : handedOn cfg off outs .unicorn = {} := by simp [handedOn, disabled]
    obtain ⟨noSeven, noHw⟩ := List.append_eq_nil_iff.mp (inert .unicorn disabled)
    cases lane with
    | unicorn => exact absurd enabled (by simp [disabled])
    | seven => exact unicorn ▸ on ▸ su.mp noSeven
    | hw =>
        cases ran : (outs .hw).setupOk with
        | false => exact tc.agree_of_failed_left ran _
        | true => exact TestCase.agree_symm (unicorn ▸ on ▸ uh.mp noHw (hwOk rfl ran))

/-- **When a lane that is off is inert.** It leaves no trace exactly when each lane that
is on and ran ends like the default outcome: it retired, with the compared registers,
the instruction pointer and the data window zero and the compared flags those of an
untouched state. -/
theorem disabled_inert_iff (cfg : WorkerConfig) (off : DisabledLanes) (tc : TestCase)
    (outs : LaneOutcomes) (counters : SharedCounters) :
    DisabledInert cfg off tc outs counters ↔
      (off.noSeven = true ∨ off.noUnicorn = true →
        ∀ lane, laneEnabled cfg off lane = true → LooksDefault tc (outs lane)) := by
  constructor
  · rintro ⟨-, inert⟩
    exact looksDefault_of_inert inert
  · intro looks
    have same := comparisons_ranAlone looks
    refine ⟨filings_round_congr counters rfl same, fun lane disabled => ?_⟩
    obtain ⟨su, sh, uh⟩ := comparisons_eq_nil cfg tc (ranAlone cfg off outs)
    rw [same]
    cases lane with
    | seven =>
        have failed : (ranAlone cfg off outs .seven).setupOk = false := by
          simp only [laneEnabled, Bool.not_eq_eq_eq_not, Bool.not_false] at disabled
          simp [ranAlone, disabled, notRun]
        exact List.append_eq_nil_iff.mpr ⟨su.mpr (tc.agree_of_failed_left failed _),
          sh.mpr fun _ => tc.agree_of_failed_left failed _⟩
    | unicorn =>
        have failed : (ranAlone cfg off outs .unicorn).setupOk = false := by
          simp only [laneEnabled, Bool.not_eq_eq_eq_not, Bool.not_false] at disabled
          simp [ranAlone, disabled, notRun]
        exact List.append_eq_nil_iff.mpr ⟨su.mpr (tc.agree_of_failed_right failed _),
          uh.mpr fun _ => tc.agree_of_failed_left failed _⟩
    | hw =>
        have unused : ¬ hwOkThisRound cfg (ranAlone cfg off outs) = true := by
          rw [hwOkThisRound, show cfg.workerUseHw = false from disabled, Bool.false_and]
          exact Bool.false_ne_true
        exact List.append_eq_nil_iff.mpr ⟨sh.mpr (absurd · unused), uh.mpr (absurd · unused)⟩

/-- Seven and hardware execute a NOP alike. -/
def nopRetired : LaneOutcome := { after := { rip := kCodeBase + 1 } }

/-- With Unicorn off the round files a divergence of seven with Unicorn. -/
theorem disabled_unicorn_filed :
    ¬ DisabledInert ⟨0, false, true, 1, "findings", "outliers"⟩ { noUnicorn := true } {}
      (fun _ => nopRetired) {} := by
  rintro ⟨-, inert⟩
  have looks := looksDefault_of_inert inert (.inr rfl) .seven rfl rfl
  exact absurd looks.2.2.1 (by decide)

end SevenFuzzer
