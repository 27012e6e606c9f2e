import SevenFuzzer.Process.Archive

/-! # What the results of a seed contain

Seeds are derived by a mixing function that never takes two seeds of a sweep to one
value, so each has a place of its own (`SevenFuzzer.seedTag_injective`). A sweep whose
calls all succeed leaves there what the seed's child wrote, and nothing else, except
that what an earlier run left in the output directories is filed under the first seed
where the first child does not write over it, and that a child that leaves nothing
behind leaves the seed's place as it was (`SevenFuzzer.sweep_attribution_iff`).
-/

namespace SevenFuzzer

/-- Mixing in the high bits loses nothing. -/
theorem xorShift_injective {w k : Nat} (shifts : 0 < k) :
    Function.Injective fun z : BitVec w => z ^^^ (z >>> k) := by
  intro z z' same
  have shifted : z ^^^ z' = (z ^^^ z') >>> k := by
    have regrouped : (z ^^^ z') ^^^ ((z ^^^ z') >>> k) = 0#w := by
      have parts : (z ^^^ z >>> k) ^^^ (z' ^^^ z' >>> k) = 0#w := BitVec.xor_eq_zero_iff.mpr same
      rw [BitVec.ushiftRight_xor_distrib, ← parts]
      ac_rfl
    exact BitVec.xor_eq_zero_iff.mp regrouped
  have small := congrArg BitVec.toNat shifted
  rw [BitVec.toNat_ushiftRight, Nat.shiftRight_eq_div_pow] at small
  refine BitVec.xor_eq_zero_iff.mp
    (BitVec.eq_of_toNat_eq (Nat.eq_zero_of_not_pos fun positive => ?_))
  exact absurd small (Nat.div_lt_self positive (Nat.one_lt_two_pow (Nat.ne_of_gt shifts))).ne'

/-- Nor does multiplying by what has an inverse. -/
theorem mul_injective {w : Nat} (factor inverse : BitVec w) (inverts : factor * inverse = 1#w) :
    Function.Injective fun z : BitVec w => z * factor := by
  intro z z' same
  have restored := congrArg (· * inverse) same
  simpa only [BitVec.mul_assoc, inverts, BitVec.mul_one] using restored

/-- Nor does extending. -/
theorem signExtend_injective {w v : Nat} (longer : w ≤ v) :
    Function.Injective fun z : BitVec w => z.signExtend v := by
  intro z z' same
  have read := congrArg BitVec.toInt same
  simp only [BitVec.toInt_signExtend_of_le longer] at read
  exact BitVec.eq_of_toInt_eq read

/-- **Different ids get different seeds.** -/
theorem mixSeed_injective (base : BitVec 64) : Function.Injective (mixSeed base) := by
  have golden := mul_injective 0x9E3779B97F4A7C15#64 0xF1DE83E19937733D#64 (by decide)
  have first := mul_injective 0xBF58476D1CE4E5B9#64 0x96DE1B173F119089#64 (by decide)
  have second := mul_injective 0x94D049BB133111EB#64 0x319642B2D24D8EC3#64 (by decide)
  intro i i' same
  have spread := xorShift_injective (by decide) (first (xorShift_injective (by decide) (second
    (xorShift_injective (by decide) same))))
  exact add_right_cancel (signExtend_injective (by decide) (golden (add_left_cancel spread)))

/-- Different seeds are printed differently. -/
theorem seedHex_injective : Function.Injective seedHex := by
  intro seed seed' same
  rw [← strtoull_seedHex seed, same, strtoull_seedHex]

/-- Two seeds of a sweep have different places. -/
theorem seedTag_injective (cfg : Config) {i j : Nat} (i_lt : i < 2 ^ 32) (j_lt : j < 2 ^ 32)
    (same : seedTag cfg i = seedTag cfg j) : i = j := by
  have worker := congrArg BitVec.toNat (mixSeed_injective cfg.seed (seedHex_injective same))
  rwa [BitVec.toNat_ofNat, BitVec.toNat_ofNat, Nat.mod_eq_of_lt i_lt, Nat.mod_eq_of_lt j_lt]
    at worker

/-- Different tags are different paths. -/
theorem Output.dst_injective (kind : Output) {tag tag' : String}
    (same : kind.dst tag = kind.dst tag') :
    tag = tag' := by
  have joined := congrArg String.toList (List.cons.inj (List.cons.inj same).2).1
  rw [String.toList_append, String.toList_append] at joined
  exact String.toList_inj.mp (List.append_cancel_left joined)

section Files

variable {Content : Type}

/-- A seed at which every call succeeds. -/
def succeeding (output : ChildOutput Content) : SeedRun Content := { output := output }

/-- A turn whose operations all succeed moves its outputs. -/
theorem succeeding_moves (output : ChildOutput Content) (kind : Output) (dst : DirPath)
    (vol : SweepVolume Content) : ((succeeding output).archive kind).Moves dst vol :=
  ⟨rfl, .inl rfl, rfl⟩

/-- A child wrote nothing where it could open none of its reports. -/
theorem wrote_eq_nil {output : ChildOutput Content} {i : Nat} {kind : Output}
    {vol : SweepVolume Content} : (succeeding output).wrote i kind vol = [] ↔
      vol.opened kind.src (reportFiles i (output.reports kind)) = [] :=
  Volume.overwriteAll_nil_eq_nil

/-- Nothing was opened exactly if no report could be written. -/
theorem opened_eq_nil {output : ChildOutput Content} {i : Nat} {kind : Output}
    {vol : SweepVolume Content} : vol.opened kind.src (reportFiles i (output.reports kind)) = [] ↔
      ∀ report ∈ output.reports kind, vol.writable kind.src (findingName report.1) = false := by
  rw [Volume.opened, List.map_eq_nil_iff, List.filter_eq_nil_iff, reportFiles, List.forall_mem_map]
  exact forall₂_congr fun report _ => iff_of_eq (Bool.not_eq_true _)

/-- An output path with nothing in it is only removed. -/
theorem processSeed_empty {output : ChildOutput Content} {i : Nat} {vol : SweepVolume Content}
    {kind : Output} (tag : String)
    (empty : (beforeArchiving i (succeeding output) vol).filled kind.src = false) :
    (processSeed tag i (succeeding output) vol).entry kind.src = none ∧
      (processSeed tag i (succeeding output) vol).entry (kind.dst tag) =
        vol.entry (kind.dst tag) := by
  obtain ⟨vol', ⟨sameSrc, sameDst⟩, atSrc, atDst⟩ :=
    archiveOutputs_alone tag (succeeding output) (beforeArchiving i (succeeding output) vol) kind
  rw [entry_beforeArchiving_of_ne (Output.dst_ne_src kind · tag)] at sameDst
  have untried :
      moveAside ((succeeding output).archive kind) kind.src (kind.dst tag) vol' = vol' := by
    refine if_neg fun tried => Bool.false_ne_true ?_
    rw [← empty, ← Volume.filled_congr sameSrc]
    exact tried
  have created : (succeeding output).created = true := rfl
  have gone (there : Option (Entry String (Written Content))) :
      there.bind (Entry.remains ((succeeding output).archive kind).removeSrc) = none := by
    cases there with
    | none => rfl
    | some found => exact Volume.remains_eq_none.mpr rfl
  rw [processSeed, if_pos created, entry_archiveDumps, atSrc, atDst, archiveDirectory, untried,
    Volume.entry_removeAll, gone, Volume.entry_removeAll_of_ne (Output.dst_ne_src _ _ _)]
  exact ⟨rfl, sameDst⟩

/-- The output directories are gone when the next child starts. -/
theorem processSeed_clears (tag : String) (i : Nat) (output : ChildOutput Content)
    (vol : SweepVolume Content) (kind : Output) :
    (processSeed tag i (succeeding output) vol).entry kind.src = none := by
  cases filled : (beforeArchiving i (succeeding output) vol).filled kind.src with
  | false => exact (processSeed_empty tag filled).1
  | true => exact (processSeed_moved tag rfl filled (succeeding_moves output kind _ vol)).1

/-- The seed's place holds what its child wrote and nothing else. -/
def Attributed (run : SeedRun Content) (i : Nat) (kind : Output) (tag : String)
    (vol after : SweepVolume Content) : Prop :=
  ∀ e, e ∈ after.contents (kind.dst tag) ↔ e ∈ run.wrote i kind vol

/-- The child writes over each file that an output path holds. -/
def Covered (output : ChildOutput Content) (i : Nat) (kind : Output) (vol : SweepVolume Content) :
    Prop :=
  ∀ e ∈ vol.contents kind.src,
    ∃ w ∈ vol.opened kind.src (reportFiles i (output.reports kind)), w.1 = e.1

/-- Where the child left nothing to archive, the place is its own exactly if it holds no file. -/
theorem attributed_unfilled_iff {i : Nat} {vol : SweepVolume Content} {output : ChildOutput Content}
    {kind : Output} (tag : String)
    (empty : (beforeArchiving i (succeeding output) vol).filled kind.src = false) :
    vol.opened kind.src (reportFiles i (output.reports kind)) = [] ∧
      (Attributed (succeeding output) i kind tag vol (processSeed tag i (succeeding output) vol) ↔
        vol.contents (kind.dst tag) = []) := by
  have silent : vol.opened kind.src (reportFiles i (output.reports kind)) = [] := by
    by_contra some_
    have written : (succeeding output).wrote i kind vol ≠ [] := mt wrote_eq_nil.mp some_
    obtain ⟨first, wrote⟩ := List.exists_mem_of_ne_nil _ written
    obtain ⟨-, there, files, folders, folder⟩ := wrote_created wrote
    rw [Volume.contents, folder] at there
    exact Bool.false_ne_true
      (empty.symm.trans (Volume.filled_of_folder folder (List.ne_nil_of_mem there)))
  refine ⟨silent, ?_⟩
  rw [Attributed, Volume.contents_congr (processSeed_empty tag empty).2, wrote_eq_nil.mpr silent]
  refine ⟨fun same => ?_, fun none_ e => by rw [none_]⟩
  exact List.eq_nil_iff_forall_not_mem.mpr fun e there => List.not_mem_nil ((same e).mp there)

/-- Where it left something, the place is its own exactly if it wrote over all it had found. -/
theorem attributed_filled_iff {i : Nat} {vol : SweepVolume Content} (before : WrittenBefore i vol)
    {output : ChildOutput Content} {kind : Output} (tag : String)
    (filled : (beforeArchiving i (succeeding output) vol).filled kind.src = true) :
    Attributed (succeeding output) i kind tag vol (processSeed tag i (succeeding output) vol) ↔
      Covered output i kind vol := by
  have foreign : ∀ e ∈ vol.contents kind.src, e ∉ (succeeding output).wrote i kind vol :=
    fun e there wrote => Nat.lt_irrefl i (before kind.src e there i (writer_wrote wrote))
  have arrived := (processSeed_moved tag rfl filled (succeeding_moves output kind _ vol)).2
  have mixed : ∀ e, e ∈ (beforeArchiving i (succeeding output) vol).contents kind.src ↔
      e ∈ (succeeding output).wrote i kind vol ∨ e ∈ vol.contents kind.src ∧
        ∀ w ∈ vol.opened kind.src (reportFiles i (output.reports kind)), w.1 ≠ e.1 := by
    intro e
    rw [contents_beforeArchiving]
    exact Volume.mem_overwriteAll
  rw [Attributed, arrived]
  constructor
  · intro same e there
    by_contra uncovered
    exact foreign e there ((same e).mp ((mixed e).mpr
      (.inr ⟨there, fun w written named => uncovered ⟨w, written, named⟩⟩)))
  · intro covered e
    rw [mixed e]
    refine or_iff_left ?_
    rintro ⟨there, unnamed⟩
    obtain ⟨w, written, named⟩ := covered e there
    exact unnamed w written named

/-- **One turn**: the archived files are the child's own exactly if it found no others there and its
own could be written. -/
theorem attributed_processSeed_iff {i : Nat} {vol : SweepVolume Content}
    (before : WrittenBefore i vol) (tag : String) (output : ChildOutput Content) (kind : Output) :
    Attributed (succeeding output) i kind tag vol (processSeed tag i (succeeding output) vol) ↔
      (vol.filled kind.src = true → Covered output i kind vol) ∧
        (vol.opened kind.src (reportFiles i (output.reports kind)) = [] →
          vol.filled kind.src = true ∨ vol.contents (kind.dst tag) = []) := by
  have unchanged (none_ : vol.opened kind.src (reportFiles i (output.reports kind)) = []) :
      (beforeArchiving i (succeeding output) vol).filled kind.src = vol.filled kind.src :=
    Volume.filled_congr (entry_beforeArchiving_of_nil none_)
  cases filled : (beforeArchiving i (succeeding output) vol).filled kind.src with
  | false =>
      obtain ⟨silent, own⟩ := attributed_unfilled_iff tag filled
      rw [own, (unchanged silent).symm.trans filled]
      exact ⟨fun none_ => ⟨fun full => absurd full Bool.false_ne_true, fun _ => .inr none_⟩,
        fun clear => (clear.2 silent).resolve_left Bool.false_ne_true⟩
  | true =>
      rw [attributed_filled_iff before tag filled]
      refine ⟨fun covered =>
        ⟨fun _ => covered, fun none_ => .inl ((unchanged none_).symm.trans filled)⟩, ?_⟩
      rintro ⟨covered, -⟩ e there
      cases full : vol.filled kind.src with
      | true => exact covered full e there
      | false =>
          -- the child wrote something, so what it found was no file
          have some_ : vol.opened kind.src (reportFiles i (output.reports kind)) ≠ [] :=
            fun none_ => Bool.false_ne_true
              (full.symm.trans ((unchanged none_).symm.trans filled))
          obtain ⟨w, written⟩ := List.exists_mem_of_ne_nil _ some_
          obtain ⟨report, listed, -⟩ := List.mem_map.mp written
          rw [Volume.contents_of_unfilled full (List.mem_filter.mp listed).2] at there
          exact absurd there List.not_mem_nil

/-- A seed leaves the places of the other seeds alone. -/
theorem processSeed_elsewhere {tag tag' : String} (differ : tag' ≠ tag) (kind : Output) (i : Nat)
    (run : SeedRun Content) (vol : SweepVolume Content) :
    (processSeed tag i run vol).entry (kind.dst tag') = vol.entry (kind.dst tag') := by
  have child := entry_beforeArchiving_of_ne (Output.dst_ne_src kind · tag') i run vol
  have place : ∀ other : Output, kind.dst tag' ≠ other.dst tag := by
    intro other same
    by_cases differs : kind = other
    · subst differs
      exact differ (kind.dst_injective same)
    · exact Output.dst_ne_dst differs _ _ same
  rw [processSeed]
  split
  · rw [entry_archiveDumps, archiveOutputs, List.foldl_cons, List.foldl_cons, List.foldl_nil,
      entry_archiveDirectory_of_ne (Output.dst_ne_src _ _ _) (place _),
      entry_archiveDirectory_of_ne (Output.dst_ne_src _ _ _) (place _), child]
  · rw [entry_removeStaleDumps]

variable (cfg : Config) (runs : Nat → SeedRun Content) (initial : Volume DirPath String Content)

/-- The turns of other seeds leave an archived path alone. -/
theorem sweepFiles_elsewhere {i j n : Nat} (i_lt : i < 2 ^ 32) (n_le : n ≤ 2 ^ 32) (kind : Output)
    (between : j ≤ n) (others : ∀ k, j ≤ k → k < n → k ≠ i) :
    (sweepFiles cfg runs initial n).entry (kind.dst (seedTag cfg i)) =
      (sweepFiles cfg runs initial j).entry (kind.dst (seedTag cfg i)) := by
  induction n, between using Nat.le_induction with
  | base => rfl
  | succ n between ih =>
      have differ : seedTag cfg i ≠ seedTag cfg n := fun same =>
        others n between (Nat.lt_succ_self n) (seedTag_injective cfg i_lt n_le same).symm
      rw [sweepFiles, processSeed_elsewhere differ]
      exact ih (Nat.le_of_succ_le n_le) fun k from_j below =>
        others k from_j (Nat.lt_succ_of_lt below)

/-- Before the sweep, the files are nobody's. -/
theorem contents_sweepStart (p : DirPath) :
    (sweepStart initial).contents p = (initial.contents p).map fun e => (e.1, ⟨none, e.2⟩) := by
  rw [sweepStart, Volume.contents_createDirectory, Volume.contents_map]

/-- The sweep starts on what was there, but for its own directory. -/
theorem entry_sweepStart {p : DirPath} (other : p ≠ ["sweep_results"]) :
    (sweepStart initial).entry p =
      (initial.map fun content => (⟨none, content⟩ : Written Content)).entry p :=
  Volume.entry_createDirectory_of_ne other _

/-- So a directory is filled exactly if it was. -/
theorem filled_sweepStart (kind : Output) :
    (sweepStart initial).filled kind.src = initial.filled kind.src := by
  rw [Volume.filled_congr (entry_sweepStart initial (by cases kind <;> decide)), Volume.filled_map]

/-- And a file can be written exactly if it could be. -/
theorem writable_sweepStart (kind : Output) (name : String) :
    (sweepStart initial).writable kind.src name = initial.writable kind.src name := by
  rw [Volume.writable_congr (entry_sweepStart initial (by cases kind <;> decide)),
    Volume.writable_map]

/-- **What the results hold.** In every sweep whose calls succeed, once seed `i` has been
processed its two results directories hold exactly what child `i` wrote if and only if
for each of them: at the first seed, if the output directory was there and not empty, the first
child wrote a report over every file in or below it; and if the child could write no report, the
first seed found the output directory not empty, or no earlier run left a file in the results
directory. Only at the first seed may something stand in the way of a report. -/
theorem sweep_attribution_iff (outputs : Nat → ChildOutput Content) {i n : Nat} (processed : i < n)
    (within : n ≤ cfg.sweepSeeds.toNat) :
    (∀ kind, ∀ e,
        e ∈ (sweepFiles cfg (fun j => succeeding (outputs j)) initial n).contents
            (kind.dst (seedTag cfg i)) ↔
          e ∈ (succeeding (outputs i)).wrote i kind
            (sweepFiles cfg (fun j => succeeding (outputs j)) initial i)) ↔
      ∀ kind,
        (i = 0 → initial.filled kind.src = true → ∀ e ∈ initial.contents kind.src,
          ∃ report ∈ (outputs 0).reports kind,
            initial.writable kind.src (findingName report.1) = true ∧
              [findingName report.1] = e.1) ∧
        ((∀ report ∈ (outputs i).reports kind,
            i = 0 ∧ initial.writable kind.src (findingName report.1) = false) →
          (i = 0 ∧ initial.filled kind.src = true) ∨
            initial.contents (kind.dst (seedTag cfg i)) = []) := by
  have n_le : n ≤ 2 ^ 32 := within.trans (Nat.le_of_lt cfg.sweepSeeds.isLt)
  have i_lt := Nat.lt_of_lt_of_le processed n_le
  refine forall_congr' fun kind => ?_
  have later := sweepFiles_elsewhere cfg (fun j => succeeding (outputs j)) initial i_lt n_le kind
    processed fun k above _ => Nat.ne_of_gt above
  have earlier := sweepFiles_elsewhere cfg (fun j => succeeding (outputs j)) initial i_lt
    (Nat.le_of_lt i_lt) kind (Nat.zero_le i) fun k _ below => Nat.ne_of_lt below
  rw [Volume.contents_congr later]
  refine (attributed_processSeed_iff (writtenBefore_sweepFiles cfg _ initial i) _ _ kind).trans ?_
  rw [Volume.contents_congr earlier, sweepFiles, contents_sweepStart, List.map_eq_nil_iff,
    opened_eq_nil]
  cases i with
  | zero =>
      simp only [sweepFiles, filled_sweepStart, writable_sweepStart, true_and, true_implies]
      refine and_congr_left' (imp_congr_right fun _ => ?_)
      rw [Covered, contents_sweepStart, List.forall_mem_map]
      refine forall₂_congr fun e _ => ?_
      constructor
      · rintro ⟨w, written, named⟩
        obtain ⟨file, listed, rfl⟩ := List.mem_map.mp written
        obtain ⟨listed, open_⟩ := List.mem_filter.mp listed
        obtain ⟨report, reported, rfl⟩ := List.mem_map.mp listed
        exact ⟨report, reported, writable_sweepStart initial kind _ ▸ open_, named⟩
      · rintro ⟨report, reported, open_, named⟩
        refine ⟨_, List.mem_map_of_mem (List.mem_filter.mpr
          ⟨List.mem_map_of_mem reported, ?_⟩), named⟩
        exact (writable_sweepStart initial kind _).trans open_
  | succ i =>
      have cleared : (sweepFiles cfg (fun j => succeeding (outputs j)) initial (i + 1)).entry
          kind.src = none := processSeed_clears ..
      have open_ (name : String) : (sweepFiles cfg (fun j => succeeding (outputs j)) initial
          (i + 1)).writable kind.src name = true := by
        rw [Volume.writable, cleared]
        rfl
      simp only [Volume.filled_of_none cleared, open_, Bool.false_eq_true, Bool.true_eq_false,
        Nat.succ_ne_zero, false_and, false_or, false_implies, true_and]

end Files

/-- The first of two children writes one report, over one of an earlier run. -/
def oneReport (j : Nat) : ChildOutput Bool where
  reports := fun kind => if j = 0 ∧ kind = .findings then [(0, true)] else []

/-- An earlier run left a report, beside a directory without files. -/
def earlierReport : Volume DirPath String Bool where
  entry p :=
    if p = Output.findings.src then some (.folder [(["finding_000000.txt"], false)] [["notes"]])
    else none
  file _ := none

/-- A report that takes the place of an earlier one is still the child's. -/
theorem sweep_attribution_overwritten :
    (∀ kind, ∀ e,
        e ∈ (sweepFiles { sweepSeeds := 2#32 } (fun j => succeeding (oneReport j))
            earlierReport 2).contents (kind.dst (seedTag { sweepSeeds := 2#32 } 0)) ↔
          e ∈ (succeeding (oneReport 0)).wrote 0 kind
            (sweepFiles { sweepSeeds := 2#32 } (fun j => succeeding (oneReport j))
              earlierReport 0)) ↔
      ∀ kind,
        (0 = 0 → earlierReport.filled kind.src = true → ∀ e ∈ earlierReport.contents kind.src,
          ∃ report ∈ (oneReport 0).reports kind,
            earlierReport.writable kind.src (findingName report.1) = true ∧
              [findingName report.1] = e.1) ∧
        ((∀ report ∈ (oneReport 0).reports kind,
            0 = 0 ∧ earlierReport.writable kind.src (findingName report.1) = false) →
          (0 = 0 ∧ earlierReport.filled kind.src = true) ∨
            earlierReport.contents (kind.dst (seedTag { sweepSeeds := 2#32 } 0)) = []) :=
  sweep_attribution_iff { sweepSeeds := 2#32 } earlierReport oneReport (by decide) (by decide)

/-- A sweep of one seed whose child writes nothing files the earlier report under it. -/
theorem earlier_report_filed :
    ∃ e ∈ (sweepFiles { sweepSeeds := 1#32 } (fun _ => succeeding {}) earlierReport 1).contents
        (Output.findings.dst (seedTag { sweepSeeds := 1#32 } 0)),
      e ∉ (succeeding ({} : ChildOutput Bool)).wrote 0 .findings (sweepStart earlierReport) := by
  have left : ([findingName 0], ⟨none, false⟩) ∈ (beforeArchiving 0 (succeeding {})
      (sweepStart earlierReport)).contents Output.findings.src := by
    rw [contents_beforeArchiving, contents_sweepStart]
    exact List.mem_singleton_self _
  have filled : (beforeArchiving 0 (succeeding {}) (sweepStart earlierReport)).filled
      Output.findings.src = true := by
    rw [Volume.filled_congr (entry_beforeArchiving_of_nil rfl), filled_sweepStart]
    rfl
  have arrived := (processSeed_moved (seedTag { sweepSeeds := 1#32 } 0) rfl filled
    (succeeding_moves _ .findings _ _)).2
  exact ⟨_, arrived ▸ left, List.not_mem_nil⟩

end SevenFuzzer
