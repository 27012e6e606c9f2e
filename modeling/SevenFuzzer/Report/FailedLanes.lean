import SevenFuzzer.Compare.Participation
import SevenFuzzer.Report.Visibility

/-! # Lanes that fail their set-up

A lane that fails its set-up leaves its comparisons empty, as an agreement does. The round counts
and prints a failure of hardware. It prints one of Unicorn only inside the report of a finding
that seven and hardware make between them, and one of seven only inside the report of an outlier
that holds seven to have matched hardware.

`oracles_kept_iff` states which failures a round lets pass in silence.
-/

namespace SevenFuzzer

/-- The text an effect prints, to the console or into a report. -/
def Effect.printed : Effect → String
  | .print text => text
  | .writeFinding _ _ tc sevenLabel seven unicorn hw hwAvailable divergences =>
      findingText tc sevenLabel seven unicorn hw hwAvailable divergences

/-- What a round counts and prints. -/
def shown (result : SharedCounters × List Effect) : SharedCounters × List String :=
  (result.1, result.2.map Effect.printed)

/-- No outcome of a lane whose set-up succeeds shows what the round shows. -/
def FailureNoticed (cfg : WorkerConfig) (off : DisabledLanes) (tc : TestCase) (outs : LaneOutcomes)
    (counters : SharedCounters) (lane : Lane) : Prop :=
  ∀ out : LaneOutcome, out.setupOk = true →
    shown (laneRound cfg off tc (Function.update outs lane out) counters) ≠
      shown (laneRound cfg off tc outs counters)

/-- Each lane that is on and failed its set-up is noticed in what the round counts
and prints, and the round is no outlier of Unicorn if seven failed. -/
def OraclesKept (cfg : WorkerConfig) (off : DisabledLanes) (tc : TestCase) (outs : LaneOutcomes)
    (counters : SharedCounters) : Prop :=
  (∀ lane, laneEnabled cfg off lane = true → (outs lane).setupOk = false →
    FailureNoticed cfg off tc outs counters lane) ∧
  ((handedOn cfg off outs .seven).setupOk = false →
    ¬ (comparisons cfg tc (handedOn cfg off outs)).unicornOnlyOutlier
      (hwOkThisRound cfg (handedOn cfg off outs)))

/-- Seven and hardware make a finding between them whose report is still written. -/
structure FindingReported (cfg : WorkerConfig) (tc : TestCase) (outs : LaneOutcomes)
    (counters : SharedCounters) : Prop where
  hwOk : hwOkThisRound cfg outs = true
  differ : ¬ tc.Agree (outs .seven) (outs .hw)
  below : counters.findingCount.slt kMaxDumpFilesPerDir = true

/-- Replacing the outcome of a lane that is on replaces what is handed on. -/
theorem handedOn_update {cfg : WorkerConfig} {off : DisabledLanes} {lane : Lane}
    (enabled : laneEnabled cfg off lane = true) (outs : LaneOutcomes) (out : LaneOutcome) :
    handedOn cfg off (Function.update outs lane out) =
      Function.update (handedOn cfg off outs) lane out := by
  funext other
  by_cases same : other = lane
  · subst same
    simp only [handedOn, enabled, ↓reduceIte, Function.update_self]
  · simp only [handedOn, Function.update_of_ne same]

/-- The hardware lane's part does not depend on the emulators. -/
theorem hwOkThisRound_update (cfg : WorkerConfig) (outs : LaneOutcomes) {lane : Lane}
    (emulator : lane ≠ .hw) (out : LaneOutcome) :
    hwOkThisRound cfg (Function.update outs lane out) = hwOkThisRound cfg outs := by
  rw [hwOkThisRound, Function.update_of_ne emulator.symm, hwOkThisRound]

/-- The third letter of an outcome tells whether the set-up failed. -/
theorem outcomeBody_front (o : LaneOutcome) : ∃ rest,
    (outcomeBody o).toList = "  ".toList ++ (if o.setupOk then 's' else 'h') :: rest := by
  cases ran : o.setupOk with
  | false =>
      refine ⟨"arness error: ".toList ++ (o.setupError.toList ++ "\n".toList), ?_⟩
      simp [outcomeBody, ran]
  | true =>
      have line : ∃ rest, (stopLine o).toList = "  ".toList ++ 's' :: rest := by
        refine ⟨"top=".toList ++ ((stopName o.stop).toList ++ stopTail o), ?_⟩
        rw [toList_stopLine]
        simp
      obtain ⟨rest, line⟩ := line
      cases captured : o.capturesX87 <;>
        simp [outcomeBody, ran, captured, toList_appendX87, line]

/-- The section of Unicorn stands behind what its outcome does not touch. -/
theorem findingText_split (tc : TestCase) (sevenLabel : String) (seven unicorn hw : LaneOutcome)
    (hwAvailable : Bool) (divergences : List Divergence) : ∃ tail,
    (findingText tc sevenLabel seven unicorn hw hwAvailable divergences).toList =
      (caseText tc ++ appendOutcome "" sevenLabel seven ++ "[unicorn]\n").toList ++
        ((outcomeBody unicorn).toList ++ tail) := by
  cases hwAvailable <;> simp [findingText, lanesText, appendOutcome]

/-- **A report tells a lane that failed from one that ran.** -/
theorem findingText_ne_of_failed {unicorn unicorn' : LaneOutcome} (ran : unicorn.setupOk = true)
    (failed : unicorn'.setupOk = false) (tc : TestCase) (sevenLabel : String)
    (seven hw : LaneOutcome) (hwAvailable : Bool) (divergences divergences' : List Divergence) :
    findingText tc sevenLabel seven unicorn hw hwAvailable divergences ≠
      findingText tc sevenLabel seven unicorn' hw hwAvailable divergences' := by
  intro same
  obtain ⟨tail, text⟩ := findingText_split tc sevenLabel seven unicorn hw hwAvailable divergences
  obtain ⟨tail', text'⟩ :=
    findingText_split tc sevenLabel seven unicorn' hw hwAvailable divergences'
  obtain ⟨rest, front⟩ := outcomeBody_front unicorn
  obtain ⟨rest', front'⟩ := outcomeBody_front unicorn'
  rw [← String.toList_inj, text, text', front, front', ran, failed, List.append_assoc,
    List.append_assoc] at same
  have letters := List.append_cancel_left (List.append_cancel_left same)
  exact absurd (List.cons.inj letters).1 (by decide)

/-- A round that is no outlier and writes no report shows nothing of the emulators but whether
they made a finding. -/
theorem shown_round_congr {cfg : WorkerConfig} {tc : TestCase} {outs outs' : LaneOutcomes}
    {counters : SharedCounters} (sameHw : outs .hw = outs' .hw)
    (lone : ¬ (comparisons cfg tc outs).unicornOnlyOutlier (hwOkThisRound cfg outs))
    (lone' : ¬ (comparisons cfg tc outs').unicornOnlyOutlier (hwOkThisRound cfg outs'))
    (divergent : (comparisons cfg tc outs).divergences = [] ↔
      (comparisons cfg tc outs').divergences = [])
    (unwritten : (comparisons cfg tc outs).divergences = [] ∨
      counters.findingCount.slt kMaxDumpFilesPerDir = false) :
    shown (round cfg tc (outs .seven) (outs .unicorn) (outs .hw) counters) =
      shown (round cfg tc (outs' .seven) (outs' .unicorn) (outs' .hw) counters) := by
  have noted : (noteHarnessError cfg (outs' .hw) counters).1.findingCount =
      counters.findingCount := by
    unfold noteHarnessError
    split <;> rfl
  simp only [comparisons, hwOkThisRound, sameHw] at lone lone' divergent unwritten
  simp only [shown, round, triage, sameHw, if_neg lone, if_neg lone', ne_eq, divergent, noted]
  rcases unwritten with quiet | full
  · rw [if_neg (not_not.mpr (divergent.mp quiet)), if_neg (not_not.mpr (divergent.mp quiet))]
  · simp only [full, Bool.false_eq_true, ↓reduceIte]

/-- A finding that is reported comes first in what its round prints. -/
theorem shown_round_of_reported {cfg : WorkerConfig} {tc : TestCase} {outs : LaneOutcomes}
    {counters : SharedCounters} (reported : FindingReported cfg tc outs counters) :
    (shown (round cfg tc (outs .seven) (outs .unicorn) (outs .hw) counters)).2.head? =
      some (findingText tc cfg.sevenLabel (outs .seven) (outs .unicorn) (outs .hw) true
        (comparisons cfg tc outs).divergences) := by
  obtain ⟨-, atHw, -⟩ := comparisons_eq_nil cfg tc outs
  have differ : (comparisons cfg tc outs).sevenVsHw ≠ [] :=
    fun empty => reported.differ (atHw.mp empty reported.hwOk)
  have lone : ¬ (comparisons cfg tc outs).unicornOnlyOutlier true :=
    fun outlier => differ outlier.2.1
  have divergent : (comparisons cfg tc outs).divergences ≠ [] := by
    intro empty
    exact differ (List.append_eq_nil_iff.mp (List.append_eq_nil_iff.mp empty).1).2
  have hwOk := reported.hwOk
  have quiet : noteHarnessError cfg (outs .hw) counters = (counters, []) :=
    if_neg fun noted => noted.2 (Bool.and_eq_true_iff.mp hwOk).2
  simp only [comparisons, hwOk] at lone divergent ⊢
  rw [hwOkThisRound] at hwOk
  simp only [shown, round, quiet, hwOk, triage, if_neg lone, if_pos divergent, reported.below,
    ↓reduceIte, List.nil_append, List.map_cons, List.cons_append, List.head?_cons, Effect.printed]

/-- An outcome of seven with which the round files nothing, if hardware and Unicorn do not
differ. -/
theorem exists_seven_standIn (cfg : WorkerConfig) (tc : TestCase) (outs : LaneOutcomes)
    (others : hwOkThisRound cfg outs = true → tc.Agree (outs .unicorn) (outs .hw)) :
    ∃ out : LaneOutcome, out.setupOk = true ∧
      (hwOkThisRound cfg outs = true → tc.Agree out (outs .hw)) ∧
      tc.Agree out (outs .unicorn) := by
  by_cases hwOk : hwOkThisRound cfg outs = true
  · exact ⟨outs .hw, (Bool.and_eq_true_iff.mp hwOk).2, fun _ => tc.agree_refl _,
      TestCase.agree_symm (others hwOk)⟩
  · cases ran : (outs .unicorn).setupOk with
    | false => exact ⟨{}, rfl, (absurd · hwOk), tc.agree_of_failed_right ran _⟩
    | true => exact ⟨outs .unicorn, ran, (absurd · hwOk), tc.agree_refl _⟩

/-- An outcome of Unicorn that agrees with both others if these agree. -/
theorem exists_unicorn_standIn (cfg : WorkerConfig) (tc : TestCase) (outs : LaneOutcomes) :
    ∃ out : LaneOutcome, out.setupOk = true ∧
      ((hwOkThisRound cfg outs = true → tc.Agree (outs .seven) (outs .hw)) →
        tc.Agree (outs .seven) out ∧
          (hwOkThisRound cfg outs = true → tc.Agree out (outs .hw))) := by
  cases ran : (outs .seven).setupOk with
  | true => exact ⟨outs .seven, ran, fun same => ⟨tc.agree_refl _, same⟩⟩
  | false =>
      by_cases hwOk : hwOkThisRound cfg outs = true
      · exact ⟨outs .hw, (Bool.and_eq_true_iff.mp hwOk).2,
          fun same => ⟨same hwOk, fun _ => tc.agree_refl _⟩⟩
      · exact ⟨{}, rfl, fun _ => ⟨tc.agree_of_failed_left ran _, (absurd · hwOk)⟩⟩

/-- A stand-in for a lane with which the round shows the same. -/
theorem not_noticed_of_standIn {cfg : WorkerConfig} {off : DisabledLanes} {tc : TestCase}
    {outs : LaneOutcomes} {counters : SharedCounters} {lane : Lane} (emulator : lane ≠ .hw)
    (enabled : laneEnabled cfg off lane = true) {out : LaneOutcome} (ran : out.setupOk = true)
    (lone : ¬ (comparisons cfg tc (handedOn cfg off outs)).unicornOnlyOutlier
      (hwOkThisRound cfg (handedOn cfg off outs)))
    (lone' : ¬ (comparisons cfg tc
      (Function.update (handedOn cfg off outs) lane out)).unicornOnlyOutlier
      (hwOkThisRound cfg (handedOn cfg off outs)))
    (divergent : (comparisons cfg tc (handedOn cfg off outs)).divergences = [] ↔
      (comparisons cfg tc (Function.update (handedOn cfg off outs) lane out)).divergences = [])
    (unwritten : (comparisons cfg tc (handedOn cfg off outs)).divergences = [] ∨
      counters.findingCount.slt kMaxDumpFilesPerDir = false) :
    ¬ FailureNoticed cfg off tc outs counters lane := by
  intro noticed
  refine noticed out ran ?_
  rw [laneRound, laneRound, handedOn_update enabled]
  refine (shown_round_congr (Function.update_of_ne emulator.symm _ _).symm lone ?_ divergent
    unwritten).symm
  rwa [hwOkThisRound_update cfg _ emulator]

/-- The divergences of a round are those of its three comparisons. -/
theorem RoundDivergences.divergences_eq_nil_iff (d : RoundDivergences) :
    d.divergences = [] ↔ d.sevenVsUnicorn = [] ∧ d.sevenVsHw = [] ∧ d.unicornVsHw = [] := by
  simp only [divergences, List.append_eq_nil_iff, and_assoc]

/-- A round without divergences is no outlier. -/
theorem RoundDivergences.not_outlier_of_nil {d : RoundDivergences} (empty : d.divergences = [])
    (hwOk : Bool) : ¬ d.unicornOnlyOutlier hwOk := by
  rintro ⟨-, -, some⟩
  obtain ⟨noUnicorn, -, noHw⟩ := d.divergences_eq_nil_iff.mp empty
  exact some.elim (· noUnicorn) (· noHw)

/-- Neither the failed set-up nor the stand-in makes a divergence: nobody notices. -/
theorem not_noticed_of_quiet {cfg : WorkerConfig} {off : DisabledLanes} {tc : TestCase}
    {outs : LaneOutcomes} {counters : SharedCounters} {lane : Lane} (emulator : lane ≠ .hw)
    (enabled : laneEnabled cfg off lane = true) {out : LaneOutcome} (ran : out.setupOk = true)
    (empty : (comparisons cfg tc (handedOn cfg off outs)).divergences = [])
    (empty' : (comparisons cfg tc
      (Function.update (handedOn cfg off outs) lane out)).divergences = []) :
    ¬ FailureNoticed cfg off tc outs counters lane :=
  not_noticed_of_standIn emulator enabled ran (RoundDivergences.not_outlier_of_nil empty _)
    (RoundDivergences.not_outlier_of_nil empty' _) (iff_of_true empty empty') (.inl empty)

/-- A failed set-up of seven makes an outlier of the round, or passes in silence. -/
theorem not_kept_of_seven_failed {cfg : WorkerConfig} {off : DisabledLanes} {tc : TestCase}
    {outs : LaneOutcomes} {counters : SharedCounters}
    (enabled : laneEnabled cfg off .seven = true) (failed : (outs .seven).setupOk = false) :
    ¬ OraclesKept cfg off tc outs counters := by
  rintro ⟨noticed, sound⟩
  have handed : (handedOn cfg off outs .seven).setupOk = false := by
    simpa only [handedOn, enabled, ↓reduceIte] using failed
  obtain ⟨su, sh, uh⟩ := comparisons_eq_nil cfg tc (handedOn cfg off outs)
  have noUnicorn := su.mpr (tc.agree_of_failed_left handed _)
  have noHw := sh.mpr fun _ => tc.agree_of_failed_left handed _
  by_cases others : (comparisons cfg tc (handedOn cfg off outs)).unicornVsHw = []
  · have empty := (RoundDivergences.divergences_eq_nil_iff _).mpr ⟨noUnicorn, noHw, others⟩
    obtain ⟨out, ran, atHw, atUnicorn⟩ :=
      exists_seven_standIn cfg tc (handedOn cfg off outs) (uh.mp others)
    obtain ⟨su', sh', uh'⟩ :=
      comparisons_eq_nil cfg tc (Function.update (handedOn cfg off outs) .seven out)
    rw [hwOkThisRound_update cfg _ (by decide)] at sh' uh'
    have empty' := (RoundDivergences.divergences_eq_nil_iff _).mpr
      ⟨su'.mpr atUnicorn, sh'.mpr atHw, uh'.mpr (uh.mp others)⟩
    exact not_noticed_of_quiet (by decide) enabled ran empty empty' (noticed _ enabled failed)
  · have hwOk : hwOkThisRound cfg (handedOn cfg off outs) = true := by
      by_contra unused
      exact others (uh.mpr (absurd · unused))
    exact sound handed ⟨hwOk, noHw, .inr others⟩

/-- A failed set-up of Unicorn that is noticed came in a round with a report. -/
theorem reported_of_unicorn_noticed {cfg : WorkerConfig} {off : DisabledLanes} {tc : TestCase}
    {outs : LaneOutcomes} {counters : SharedCounters}
    (enabled : laneEnabled cfg off .unicorn = true)
    (failed : (handedOn cfg off outs .unicorn).setupOk = false)
    (noticed : FailureNoticed cfg off tc outs counters .unicorn) :
    FindingReported cfg tc (handedOn cfg off outs) counters := by
  obtain ⟨su, sh, uh⟩ := comparisons_eq_nil cfg tc (handedOn cfg off outs)
  have noSeven := su.mpr (tc.agree_of_failed_right failed _)
  have noHw := uh.mpr fun _ => tc.agree_of_failed_left failed _
  obtain ⟨out, ran, agrees⟩ := exists_unicorn_standIn cfg tc (handedOn cfg off outs)
  obtain ⟨su', sh', uh'⟩ :=
    comparisons_eq_nil cfg tc (Function.update (handedOn cfg off outs) .unicorn out)
  rw [hwOkThisRound_update cfg _ (by decide)] at sh' uh'
  by_contra unreported
  by_cases same : (comparisons cfg tc (handedOn cfg off outs)).sevenVsHw = []
  · obtain ⟨atSeven, atHw⟩ := agrees (sh.mp same)
    have empty := (RoundDivergences.divergences_eq_nil_iff _).mpr ⟨noSeven, same, noHw⟩
    have empty' := (RoundDivergences.divergences_eq_nil_iff _).mpr
      ⟨su'.mpr atSeven, sh'.mpr (sh.mp same), uh'.mpr atHw⟩
    exact not_noticed_of_quiet (by decide) enabled ran empty empty' noticed
  · have hwOk : hwOkThisRound cfg (handedOn cfg off outs) = true := by
      by_contra unused
      exact same (sh.mpr (absurd · unused))
    have differ : ¬ tc.Agree (handedOn cfg off outs .seven) (handedOn cfg off outs .hw) :=
      fun agree => same (sh.mpr fun _ => agree)
    have full : counters.findingCount.slt kMaxDumpFilesPerDir = false :=
      Bool.of_not_eq_true fun below => unreported ⟨hwOk, differ, below⟩
    have same' : (comparisons cfg tc
        (Function.update (handedOn cfg off outs) .unicorn out)).sevenVsHw ≠ [] :=
      fun empty => differ (sh'.mp empty hwOk)
    exact not_noticed_of_standIn (by decide) enabled ran (fun outlier => same outlier.2.1)
      (fun outlier => same' outlier.2.1)
      (iff_of_false (fun empty => same ((RoundDivergences.divergences_eq_nil_iff _).mp empty).2.1)
        fun empty => same' ((RoundDivergences.divergences_eq_nil_iff _).mp empty).2.1)
      (.inr full) noticed

/-- The report of a finding tells the failed set-up of Unicorn from any that succeeded. -/
theorem unicorn_noticed_of_reported {cfg : WorkerConfig} {off : DisabledLanes} {tc : TestCase}
    {outs : LaneOutcomes} {counters : SharedCounters}
    (enabled : laneEnabled cfg off .unicorn = true)
    (failed : (handedOn cfg off outs .unicorn).setupOk = false)
    (reported : FindingReported cfg tc (handedOn cfg off outs) counters) :
    FailureNoticed cfg off tc outs counters .unicorn := by
  intro out ran same
  have reported' : FindingReported cfg tc
      (Function.update (handedOn cfg off outs) .unicorn out) counters :=
    ⟨(hwOkThisRound_update cfg _ (by decide) out).trans reported.hwOk, reported.differ,
      reported.below⟩
  have texts := congrArg (fun seen => seen.2.head?) same
  simp only [laneRound, handedOn_update enabled] at texts
  rw [shown_round_of_reported reported', shown_round_of_reported reported] at texts
  exact findingText_ne_of_failed ran failed tc cfg.sevenLabel _ _ true _ _ (Option.some.inj texts)

/-- **A failed set-up of Unicorn** is noticed in the report of a finding of seven alone. -/
theorem unicorn_noticed_iff {cfg : WorkerConfig} {off : DisabledLanes} {tc : TestCase}
    {outs : LaneOutcomes} {counters : SharedCounters}
    (enabled : laneEnabled cfg off .unicorn = true) (failed : (outs .unicorn).setupOk = false) :
    FailureNoticed cfg off tc outs counters .unicorn ↔
      FindingReported cfg tc (handedOn cfg off outs) counters := by
  have handed : (handedOn cfg off outs .unicorn).setupOk = false := by
    simpa only [handedOn, enabled, ↓reduceIte] using failed
  exact ⟨reported_of_unicorn_noticed enabled handed, unicorn_noticed_of_reported enabled handed⟩

/-- A round advances the count of harness errors for hardware alone. -/
theorem round_hwHarnessErrors (cfg : WorkerConfig) (tc : TestCase)
    (seven unicorn hw : LaneOutcome) (counters : SharedCounters) :
    (round cfg tc seven unicorn hw counters).1.hwHarnessErrors =
      counters.hwHarnessErrors + if cfg.workerUseHw ∧ ¬ hw.setupOk then 1 else 0 := by
  have noted : (noteHarnessError cfg hw counters).1.hwHarnessErrors =
      counters.hwHarnessErrors + if cfg.workerUseHw ∧ ¬ hw.setupOk then 1 else 0 := by
    simp only [noteHarnessError]
    split_ifs
    · rfl
    · exact (add_zero _).symm
  rw [← noted]
  simp only [round, noteDone, triage]
  split_ifs <;> rfl

/-- A failed set-up of hardware is counted. -/
theorem hw_noticed {cfg : WorkerConfig} {off : DisabledLanes} {tc : TestCase}
    {outs : LaneOutcomes} {counters : SharedCounters}
    (enabled : laneEnabled cfg off .hw = true) (failed : (outs .hw).setupOk = false) :
    FailureNoticed cfg off tc outs counters .hw := by
  have useHw : cfg.workerUseHw = true := enabled
  intro out ran same
  have counted := congrArg (fun seen => seen.1.hwHarnessErrors) same
  simp only [shown, laneRound, round_hwHarnessErrors, Function.update_self, ran, handedOn,
    enabled, failed, useHw, ↓reduceIte, not_true_eq_false, and_false, Bool.false_eq_true,
    not_false_eq_true, and_self, add_zero] at counted
  bv_omega

/-- **Which oracles are lost.** A round keeps its oracles exactly when seven, if it is on,
succeeded in its set-up, and Unicorn, if it is on and failed, failed in a round whose report of a
finding is written. -/
theorem oracles_kept_iff (cfg : WorkerConfig) (off : DisabledLanes) (tc : TestCase)
    (outs : LaneOutcomes) (counters : SharedCounters) :
    OraclesKept cfg off tc outs counters ↔
      (off.noSeven = false → (outs .seven).setupOk = true) ∧
        (off.noUnicorn = false → (outs .unicorn).setupOk = false →
          FindingReported cfg tc (handedOn cfg off outs) counters) := by
  have sevenOn : laneEnabled cfg off .seven = true ↔ off.noSeven = false := by simp [laneEnabled]
  have unicornOn : laneEnabled cfg off .unicorn = true ↔ off.noUnicorn = false := by
    simp [laneEnabled]
  constructor
  · intro kept
    refine ⟨fun on => Bool.of_not_eq_false fun failed =>
      not_kept_of_seven_failed (sevenOn.mpr on) failed kept, fun on failed => ?_⟩
    exact (unicorn_noticed_iff (unicornOn.mpr on) failed).mp (kept.1 _ (unicornOn.mpr on) failed)
  · rintro ⟨sevenRan, unicornRan⟩
    refine ⟨fun lane enabled failed => ?_, fun failed => ?_⟩
    · cases lane with
      | seven => exact absurd (sevenRan (sevenOn.mp enabled)) (by simp [failed])
      | unicorn =>
          exact (unicorn_noticed_iff enabled failed).mpr
            (unicornRan (unicornOn.mp enabled) failed)
      | hw => exact hw_noticed enabled failed
    · cases on : off.noSeven with
      | false =>
          have ran := sevenRan on
          simp only [handedOn, laneEnabled, on, Bool.not_false, ↓reduceIte, ran] at failed
          cases failed
      | true =>
          simp only [handedOn, laneEnabled, on, Bool.not_true, Bool.false_eq_true,
            ↓reduceIte] at failed
          cases failed

/-- Seven fails its set-up, hardware raises an exception that Unicorn does not. -/
def sevenFailed : LaneOutcomes
  | .seven => { setupOk := false, setupError := "failed to write test bytes to code page" }
  | .unicorn => {}
  | .hw => { stop := .ud }

/-- The round is filed as seven matching hardware. -/
theorem seven_failed_outlier :
    ¬ OraclesKept ⟨0, false, true, 1, "findings", "outliers"⟩ {} {} sevenFailed {} := by
  rintro ⟨-, sound⟩
  obtain ⟨-, sh, uh⟩ := comparisons_eq_nil ⟨0, false, true, 1, "findings", "outliers"⟩ {}
    (handedOn ⟨0, false, true, 1, "findings", "outliers"⟩ {} sevenFailed)
  refine sound rfl
    ⟨rfl, sh.mpr fun _ => TestCase.agree_of_failed_left rfl _ _, Or.inr fun empty => ?_⟩
  have stops := ((agree_iff _ _ _ _ rfl rfl).mp (uh.mp empty rfl)).1
  exact absurd (stops : Stop.ok = Stop.ud) (by decide)

end SevenFuzzer
