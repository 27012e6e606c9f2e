import SevenFuzzer.Library.Slot
import SevenFuzzer.Process.Attribution

/-! # Whose dump a seed has

A child that crashes or hangs leaves a dump under a name that every child uses. The sweep removes
what lies there before it launches a child, and renames what lies there afterwards to a name of
the seed's own; each of these calls may fail, and the sweep goes on. The dump of a child is filed
under a later seed only if every call in between that would have removed or renamed it has failed
(`SevenFuzzer.dump_attribution_iff`).
-/

namespace SevenFuzzer

section Files

variable {Content : Type}

/-- The two dumps are written to two places. -/
theorem Dump.src_ne_src {dump other : Dump} (differ : dump ≠ other) : dump.src ≠ other.src := by
  cases dump with
  | crash =>
      cases other with
      | crash => exact absurd rfl differ
      | watchdogHang => decide
  | watchdogHang =>
      cases other with
      | crash => decide
      | watchdogHang => exact absurd rfl differ

/-- No dump is archived to where a child writes one. -/
theorem Dump.dst_ne_src (dump other : Dump) (tag : String) : dump.dst tag ≠ other.src :=
  fun same => absurd (congrArg List.length same) (by decide : ¬ 2 = 1)

/-- The name of an archived dump has its kind and its tag. -/
theorem Dump.dst_name {dump other : Dump} {tag tag' : String}
    (same : dump.dst tag = other.dst tag') :
    dump.stem.toList ++ "_".toList ++ tag.toList ++ ".dmp".toList =
      other.stem.toList ++ "_".toList ++ tag'.toList ++ ".dmp".toList := by
  have joined := congrArg String.toList (List.cons.inj (List.cons.inj same).2).1
  simpa only [String.toList_append] using joined

/-- The names of the two dumps differ in their first character. -/
theorem Dump.dst_ne_dst {dump other : Dump} (differ : dump ≠ other) (tag tag' : String) :
    dump.dst tag ≠ other.dst tag' := by
  intro same
  have heads := congrArg List.head? (Dump.dst_name same)
  cases dump with
  | crash =>
      cases other with
      | crash => exact differ rfl
      | watchdogHang => exact absurd heads (by simp [Dump.stem])
  | watchdogHang =>
      cases other with
      | crash => exact absurd heads (by simp [Dump.stem])
      | watchdogHang => exact differ rfl

/-- Different tags are different paths. -/
theorem Dump.dst_injective (dump : Dump) {tag tag' : String} (same : dump.dst tag = dump.dst tag') :
    tag = tag' :=
  String.toList_inj.mp (List.append_cancel_left (List.append_cancel_right (Dump.dst_name same)))

/-- The dump that the child of a seed leaves. -/
def SeedRun.leaves (run : SeedRun Content) (dump : Dump) : Option Content :=
  if run.created then run.output.dump dump else none

/-- The dump that lies there after the child is renamed to the seed's own name. -/
def SeedRun.archives (run : SeedRun Content) (dump : Dump) : Bool :=
  run.created && (run.archiveDump dump).existsAnswered && (run.archiveDump dump).rename

/-- What happens at a seed to the name that all children use. -/
def SeedRun.slot (run : SeedRun Content) (i : Nat) (dump : Dump) : Slot (Written Content) where
  clears := run.removeStale dump
  fills := (run.leaves dump).map fun content => ⟨some i, content⟩
  takes := run.archives dump

variable {run : SeedRun Content} {vol : SweepVolume Content}

/-- A dump that is left over is removed, where that succeeds. -/
theorem file_removeStaleDumps (dump : Dump) :
    (removeStaleDumps run vol).file dump.src =
      if run.removeStale dump then none else vol.file dump.src := by
  simp only [removeStaleDumps, List.foldl_cons, List.foldl_nil]
  cases dump with
  | crash =>
      rw [Volume.file_removeFile_of_ne (Dump.src_ne_src (by decide)), Volume.file_removeFile]
  | watchdogHang =>
      rw [Volume.file_removeFile, Volume.file_removeFile_of_ne (Dump.src_ne_src (by decide))]

/-- A child's dump takes the place of what was there. -/
theorem file_writeDump (i : Nat) (content : Option Content) (dump : Dump) :
    (writeDump i content dump vol).file dump.src =
      (content.map fun content => (⟨some i, content⟩ : Written Content)).or
        (vol.file dump.src) := by
  cases content with
  | none => rfl
  | some content => exact Function.update_self ..

/-- Writing a dump leaves the other paths alone. -/
theorem file_writeDump_of_ne {dump : Dump} {q : DirPath} (other : q ≠ dump.src) (i : Nat)
    (content : Option Content) : (writeDump i content dump vol).file q = vol.file q := by
  cases content with
  | none => rfl
  | some content => exact Volume.file_writeFile_of_ne other _

/-- What a child's turn offers for archiving. -/
theorem file_beforeArchiving (created : run.created = true) (i : Nat) (dump : Dump) :
    (beforeArchiving i run vol).file dump.src = (run.slot i dump).offers (vol.file dump.src) := by
  have filled : (run.slot i dump).fills =
      (run.output.dump dump).map fun content => ⟨some i, content⟩ := by
    rw [SeedRun.slot, SeedRun.leaves, if_pos created]
  simp only [beforeArchiving, runChild, List.foldl_cons, List.foldl_nil]
  rw [Slot.offers, filled, SeedRun.slot, ← file_removeStaleDumps]
  cases dump with
  | crash =>
      rw [file_writeDump_of_ne (Dump.src_ne_src (by decide)), file_writeDump, Volume.file_writeAll,
        Volume.file_writeAll]
  | watchdogHang =>
      rw [file_writeDump, file_writeDump_of_ne (Dump.src_ne_src (by decide)), Volume.file_writeAll,
        Volume.file_writeAll]

/-- A child writes no other dump. -/
theorem file_beforeArchiving_of_ne {q : DirPath} (other : ∀ dump : Dump, q ≠ dump.src) (i : Nat) :
    (beforeArchiving i run vol).file q = vol.file q := by
  simp only [beforeArchiving, runChild, removeStaleDumps, List.foldl_cons, List.foldl_nil]
  rw [file_writeDump_of_ne (other _), file_writeDump_of_ne (other _), Volume.file_writeAll,
    Volume.file_writeAll, Volume.file_removeFile_of_ne (other _),
    Volume.file_removeFile_of_ne (other _)]

/-- Archiving the directories leaves the dumps alone. -/
theorem file_archiveOutputs (tag : String) : (archiveOutputs tag run vol).file = vol.file := by
  have one (replies : ArchiveReplies) (src dst : DirPath) (vol : SweepVolume Content) :
      (archiveDirectory replies src dst vol).file = vol.file := by
    rw [archiveDirectory, moveAside]
    split
    · exact Volume.file_rename ..
    · rfl
  simp only [archiveOutputs, List.foldl_cons, List.foldl_nil, one]

section

variable {replies : DumpReplies} {src dst : DirPath}

/-- A dump that is archived is gone. -/
theorem file_archiveDump_src (apart : dst ≠ src) :
    (archiveDump replies src dst vol).file src =
      if replies.existsAnswered && replies.rename then none else vol.file src := by
  rw [archiveDump]
  cases answered : replies.existsAnswered with
  | false => rfl
  | true =>
      cases there : vol.file src with
      | none =>
          rw [Option.isSome_none, Bool.and_false, if_neg Bool.false_ne_true, there, ite_self]
      | some file =>
          rw [Option.isSome_some, Bool.and_true, if_pos rfl, Volume.file_renameFile_src,
            Volume.file_removeFile_of_ne apart.symm, there, Bool.true_and]

/-- Archiving a dump touches the two paths it names. -/
theorem file_archiveDump_of_ne {q : DirPath} (src_ne : q ≠ src) (dst_ne : q ≠ dst) :
    (archiveDump replies src dst vol).file q = vol.file q := by
  rw [archiveDump]
  split
  · rw [Volume.file_renameFile_of_ne src_ne dst_ne, Volume.file_removeFile_of_ne dst_ne]
  · rfl

/-- What a child wrote comes to the seed's own name by the renaming only. -/
theorem file_archiveDump_dst (apart : dst ≠ src) {file : Written Content}
    (fresh : vol.file dst ≠ some file) :
    (archiveDump replies src dst vol).file dst = some file ↔
      (replies.existsAnswered && replies.rename) = true ∧ vol.file src = some file := by
  rw [archiveDump]
  cases answered : replies.existsAnswered with
  | false => exact iff_of_false fresh fun moved => Bool.false_ne_true moved.1
  | true =>
      cases there : vol.file src with
      | none =>
          rw [Option.isSome_none, Bool.and_false, if_neg Bool.false_ne_true]
          refine iff_of_false fresh ?_
          rintro ⟨-, moved⟩
          cases moved
      | some found =>
          rw [Option.isSome_some, Bool.and_true, if_pos rfl, Volume.file_renameFile_dst apart,
            Volume.file_removeFile_of_ne apart.symm, there, Bool.true_and]
          cases renames : replies.rename with
          | true => simp
          | false =>
              rw [if_neg Bool.false_ne_true, Volume.file_removeFile]
              refine iff_of_false ?_ fun moved => Bool.false_ne_true moved.1
              split
              · exact Option.some_ne_none file |>.symm
              · exact fresh

end

/-- What lies under the common name when a seed has been processed. -/
theorem file_processSeed_src (tag : String) (i : Nat) (dump : Dump) :
    (processSeed tag i run vol).file dump.src = (run.slot i dump).leaves (vol.file dump.src) := by
  rw [processSeed]
  split
  · rename_i created
    have archives : (run.slot i dump).takes =
        ((run.archiveDump dump).existsAnswered && (run.archiveDump dump).rename) := by
      rw [SeedRun.slot, SeedRun.archives, created, Bool.true_and]
    have outputs : (archiveOutputs tag run (beforeArchiving i run vol)).file =
        (beforeArchiving i run vol).file := file_archiveOutputs tag
    rw [Slot.leaves, archives, ← file_beforeArchiving created, ← outputs]
    simp only [archiveDumps, List.foldl_cons, List.foldl_nil]
    cases dump with
    | crash =>
        rw [file_archiveDump_of_ne (Dump.src_ne_src (by decide)) (Dump.dst_ne_src _ _ _).symm,
          file_archiveDump_src (Dump.dst_ne_src _ _ _)]
    | watchdogHang =>
        rw [file_archiveDump_src (Dump.dst_ne_src _ _ _),
          file_archiveDump_of_ne (Dump.src_ne_src (by decide)) (Dump.dst_ne_src _ _ _).symm]
  · rename_i uncreated
    have uncreated := Bool.eq_false_iff.mpr uncreated
    have slot : run.slot i dump = ⟨run.removeStale dump, none, false⟩ := by
      rw [SeedRun.slot, SeedRun.leaves, SeedRun.archives, uncreated]
      rfl
    rw [file_removeStaleDumps, slot]
    rfl

/-- A file that a child wrote comes to the seed's own name out of the common one. -/
theorem file_processSeed_dst {tag : String} {i : Nat} {dump : Dump} {file : Written Content}
    (fresh : vol.file (dump.dst tag) ≠ some file) :
    (processSeed tag i run vol).file (dump.dst tag) = some file ↔
      run.archives dump = true ∧ (run.slot i dump).offers (vol.file dump.src) = some file := by
  rw [processSeed, SeedRun.archives]
  split
  · rename_i created
    have outputs : (archiveOutputs tag run (beforeArchiving i run vol)).file =
        (beforeArchiving i run vol).file := file_archiveOutputs tag
    have before : (archiveOutputs tag run (beforeArchiving i run vol)).file (dump.dst tag) =
        vol.file (dump.dst tag) := by
      rw [outputs, file_beforeArchiving_of_ne (Dump.dst_ne_src dump · tag)]
    rw [← before] at fresh
    rw [created, Bool.true_and, ← file_beforeArchiving created, ← outputs]
    simp only [archiveDumps, List.foldl_cons, List.foldl_nil]
    cases dump with
    | crash =>
        rw [file_archiveDump_of_ne (Dump.dst_ne_src _ _ _) (Dump.dst_ne_dst (by decide) _ _)]
        exact file_archiveDump_dst (Dump.dst_ne_src _ _ _) fresh
    | watchdogHang =>
        have differ : Dump.watchdogHang ≠ Dump.crash := by decide
        rw [← file_archiveDump_of_ne (Dump.dst_ne_src _ .crash _)
          (Dump.dst_ne_dst differ _ tag)] at fresh
        rw [file_archiveDump_dst (Dump.dst_ne_src _ _ _) fresh,
          file_archiveDump_of_ne (Dump.src_ne_src differ) (Dump.dst_ne_src _ _ _).symm]
  · rename_i uncreated
    have untouched : (removeStaleDumps run vol).file (dump.dst tag) = vol.file (dump.dst tag) := by
      simp only [removeStaleDumps, List.foldl_cons, List.foldl_nil]
      rw [Volume.file_removeFile_of_ne (Dump.dst_ne_src _ _ _),
        Volume.file_removeFile_of_ne (Dump.dst_ne_src _ _ _)]
    rw [untouched, Bool.eq_false_iff.mpr uncreated]
    exact iff_of_false fresh fun archived => Bool.false_ne_true archived.1

/-- The turns of other seeds leave an archived dump alone. -/
theorem file_processSeed_elsewhere {tag tag' : String} (differ : tag' ≠ tag) (dump : Dump)
    (i : Nat) :
    (processSeed tag i run vol).file (dump.dst tag') = vol.file (dump.dst tag') := by
  have place (other : Dump) : dump.dst tag' ≠ other.dst tag := by
    intro same
    by_cases differs : dump = other
    · subst differs
      exact differ (dump.dst_injective same)
    · exact Dump.dst_ne_dst differs _ _ same
  rw [processSeed]
  split
  · simp only [archiveDumps, List.foldl_cons, List.foldl_nil]
    rw [file_archiveDump_of_ne (Dump.dst_ne_src _ _ _) (place _),
      file_archiveDump_of_ne (Dump.dst_ne_src _ _ _) (place _), file_archiveOutputs,
      file_beforeArchiving_of_ne (Dump.dst_ne_src dump · tag')]
  · simp only [removeStaleDumps, List.foldl_cons, List.foldl_nil]
    rw [Volume.file_removeFile_of_ne (Dump.dst_ne_src _ _ _),
      Volume.file_removeFile_of_ne (Dump.dst_ne_src _ _ _)]

variable (cfg : Config) (runs : Nat → SeedRun Content) (initial : Volume DirPath String Content)

/-- The common name of a dump over the seeds. -/
def dumpSlots (dump : Dump) (i : Nat) : Slot (Written Content) := (runs i).slot i dump

/-- Before the sweep, the dumps are nobody's. -/
theorem file_sweepStart (p : DirPath) :
    (sweepStart initial).file p = (initial.file p).map fun content => ⟨none, content⟩ := rfl

/-- **The slot**: where a child writes its dumps holds what the turns so far leave in it. -/
theorem file_sweepFiles_src (dump : Dump) (n : Nat) :
    (sweepFiles cfg runs initial n).file dump.src =
      Slot.held (dumpSlots runs dump) ((sweepStart initial).file dump.src) n := by
  induction n with
  | zero => rfl
  | succ n ih =>
      rw [sweepFiles, file_processSeed_src, ih]
      rfl

/-- The name of a seed's own is written at that seed only. -/
theorem file_sweepFiles_elsewhere {i j n : Nat} (i_lt : i < 2 ^ 32) (n_le : n ≤ 2 ^ 32)
    (dump : Dump)
    (from_ : j ≤ n) (others : ∀ k, j ≤ k → k < n → k ≠ i) :
    (sweepFiles cfg runs initial n).file (dump.dst (seedTag cfg i)) =
      (sweepFiles cfg runs initial j).file (dump.dst (seedTag cfg i)) := by
  induction n, from_ using Nat.le_induction with
  | base => rfl
  | succ n from_ ih =>
      have differ : seedTag cfg i ≠ seedTag cfg n := fun same =>
        others n from_ (Nat.lt_succ_self n) (seedTag_injective cfg i_lt n_le same).symm
      rw [sweepFiles, file_processSeed_elsewhere differ]
      exact ih (Nat.le_of_succ_le n_le) fun k later below =>
        others k later (Nat.lt_succ_of_lt below)

variable {runs}

/-- The dump of the child of seed `k` lies under the common name when seed `i` has been run. -/
structure Lingers (runs : Nat → SeedRun Content) (dump : Dump) (k i : Nat) : Prop where
  earlier : k ≤ i
  unarchived : ∀ l, k ≤ l → l < i → (runs l).archives dump = false
  unremoved : ∀ l, k < l → l ≤ i → (runs l).removeStale dump = false
  uncovered : ∀ l, k < l → l ≤ i → (runs l).leaves dump = none

/-- A dump is carried through turns exactly if it lingers. -/
theorem carries_dumpSlots_iff {dump : Dump} {k i : Nat} (earlier : k ≤ i) :
    Slot.Carries (dumpSlots runs dump) k i ↔ Lingers runs dump k i := by
  have spares (l : Nat) : (dumpSlots runs dump l).Spares ↔
      (runs l).removeStale dump = false ∧ (runs l).leaves dump = none :=
    and_congr_right fun _ => Option.map_eq_none_iff
  constructor
  · intro carries
    refine ⟨earlier, fun l from_ below => (carries l from_ below).1, ?_, ?_⟩
    all_goals
      intro l after within
      obtain ⟨m, rfl⟩ := Nat.exists_eq_add_of_lt after
      have spared := (spares _).mp (carries (k + m) (Nat.le_add_right k m) within).2
    · exact spared.1
    · exact spared.2
  · intro lingers l from_ below
    exact ⟨lingers.unarchived l from_ below, (spares _).mpr
      ⟨lingers.unremoved _ (Nat.lt_succ_of_le from_) below,
        lingers.uncovered _ (Nat.lt_succ_of_le from_) below⟩⟩

/-- A turn fills the slot with its own child's dump. -/
theorem fills_dumpSlots_iff {dump : Dump} {j k : Nat} {content : Content} :
    (dumpSlots runs dump j).fills = some ⟨some k, content⟩ ↔
      j = k ∧ (runs j).leaves dump = some content := by
  rw [dumpSlots, SeedRun.slot, Option.map_eq_some_iff]
  constructor
  · rintro ⟨written, left, same⟩
    obtain ⟨writer, rfl⟩ := Written.mk.inj same
    exact ⟨Option.some.inj writer, left⟩
  · rintro ⟨rfl, left⟩
    exact ⟨content, left, rfl⟩

/-- **Whose dump it is.** In every sweep, whatever its calls on the dumps reply, when seed `i` has
been processed the dump of the child of seed `k` is filed under seed `i` if and only if that child
left one, the dump that lay there after child `i` was renamed to the name of seed `i`, and until
then none was renamed, none was removed, and no later child left one. -/
theorem dump_attribution_iff (runs : Nat → SeedRun Content) {i n : Nat} (processed : i < n)
    (within : n ≤ cfg.sweepSeeds.toNat) (dump : Dump) (k : Nat) (content : Content) :
    (sweepFiles cfg runs initial n).file (dump.dst (seedTag cfg i)) = some ⟨some k, content⟩ ↔
      (runs k).leaves dump = some content ∧ (runs i).archives dump = true ∧
        Lingers runs dump k i := by
  have n_le : n ≤ 2 ^ 32 := within.trans (Nat.le_of_lt cfg.sweepSeeds.isLt)
  have i_lt := Nat.lt_of_lt_of_le processed n_le
  have later := file_sweepFiles_elsewhere cfg runs initial i_lt n_le dump processed
    fun l after _ => Nat.ne_of_gt after
  have before := file_sweepFiles_elsewhere cfg runs initial i_lt (Nat.le_of_lt i_lt) dump
    (Nat.zero_le i) fun l _ below => Nat.ne_of_lt below
  have unwritten (p : DirPath) : (sweepStart initial).file p ≠ some ⟨some k, content⟩ := by
    rw [file_sweepStart]
    intro written
    obtain ⟨_, -, same⟩ := Option.map_eq_some_iff.mp written
    cases same
  have fresh : (sweepFiles cfg runs initial i).file (dump.dst (seedTag cfg i)) ≠
      some ⟨some k, content⟩ := by
    rw [before]
    exact unwritten _
  have found : ((runs i).slot i dump).offers ((sweepFiles cfg runs initial i).file dump.src) =
      Slot.offered (dumpSlots runs dump) ((sweepStart initial).file dump.src) i := by
    rw [file_sweepFiles_src]
    rfl
  rw [later, sweepFiles, file_processSeed_dst fresh, found, Slot.offered_eq_some_iff,
    or_iff_left fun there => unwritten _ there.1, and_left_comm]
  constructor
  · rintro ⟨archived, j, earlier, filled, carries⟩
    obtain ⟨rfl, left⟩ := fills_dumpSlots_iff.mp filled
    exact ⟨archived, left, (carries_dumpSlots_iff earlier).mp carries⟩
  · rintro ⟨archived, left, lingers⟩
    exact ⟨archived, k, lingers.earlier, fills_dumpSlots_iff.mpr ⟨rfl, left⟩,
      (carries_dumpSlots_iff lingers.earlier).mpr lingers⟩

end Files

/-- The first of two children crashes, and its dump is renamed and removed too late. -/
def lockedDump (i : Nat) : SeedRun Unit where
  output := { dump := fun dump => if i = 0 ∧ dump = .crash then some () else none }
  removeStale := fun _ => decide (i = 0)
  archiveDump := fun _ => { rename := decide (i ≠ 0) }

/-- It is filed under the second seed, whose child left none. -/
theorem dump_attribution_later :
    (sweepFiles { sweepSeeds := 2#32 } lockedDump ⟨fun _ => none, fun _ => none⟩ 2).file
        (Dump.dst .crash (seedTag { sweepSeeds := 2#32 } 1)) = some ⟨some 0, ()⟩ ∧
      (lockedDump 1).leaves .crash = none := by
  have only {l : Nat} (after : 0 < l) (within : l ≤ 1) : l = 1 := Nat.le_antisymm within after
  have lingers : Lingers lockedDump .crash 0 1 := by
    refine ⟨Nat.zero_le 1, fun l _ below => ?_, fun l after within => ?_, fun l after within => ?_⟩
    · obtain rfl := Nat.lt_one_iff.mp below
      rfl
    · obtain rfl := only after within
      rfl
    · obtain rfl := only after within
      rfl
  exact ⟨(dump_attribution_iff { sweepSeeds := 2#32 } ⟨fun _ => none, fun _ => none⟩ lockedDump
    (Nat.lt_succ_self 1) (by decide) .crash 0 ()).mpr ⟨rfl, rfl, lingers⟩, rfl⟩

end SevenFuzzer
