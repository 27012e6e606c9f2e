import SevenFuzzer.Library.Volume
import SevenFuzzer.Process.CommandLine

/-! # The results of a sweep

`run_seed_sweep` launches one child for each seed, and moves what the child left in
the directory of the executable to a place of the seed's own before it launches the
next one. Each file carries who wrote it, so that a results directory can be asked
for what does not belong there.

With calls that all succeed, the results of a seed are what its child wrote exactly
when the child had nothing in its way (`SevenFuzzer.sweep_attribution_iff`). With
calls that fail as they like, what the child wrote survives the archiving exactly
when it was renamed, or the removal that follows left it
(`SevenFuzzer.archiving_survives_iff`).
-/

namespace SevenFuzzer

/-- A file and its writer: the child with a number, or nobody the sweep knows of. -/
structure Written (Content : Type) where
  writer : Option Nat
  content : Content

/-- The components of a path, from the directory of the executable on. -/
abbrev DirPath := List String

/-- The volume a sweep works on: every file carries the seed whose child wrote it. -/
abbrev SweepVolume (Content : Type) := Volume DirPath String (Written Content)

/-- The two directories a child writes reports into. -/
inductive Output where
  | findings | outliers
  deriving DecidableEq

/-- Where a child writes an output. -/
def Output.srcName : Output → String
  | .findings => "findings"
  | .outliers => "unicorn_outliers"

/-- The name an archived output gets before its seed. -/
def Output.dstPrefix : Output → String
  | .findings => "findings_"
  | .outliers => "outliers_"

/-- The path a child writes to. -/
def Output.src (output : Output) : DirPath := [output.srcName]

/-- The path an output is archived to. -/
def Output.dst (output : Output) (seedTag : String) : DirPath :=
  ["sweep_results", output.dstPrefix ++ seedTag]

/-- The two dumps a child may leave. -/
inductive Dump where
  | crash | watchdogHang
  deriving DecidableEq

/-- The name of a dump without its extension. -/
def Dump.stem : Dump → String
  | .crash => "crash"
  | .watchdogHang => "watchdog_hang"

/-- The path a child writes a dump to. -/
def Dump.src (dump : Dump) : DirPath := [dump.stem ++ ".dmp"]

/-- The path a dump is archived to. -/
def Dump.dst (dump : Dump) (seedTag : String) : DirPath :=
  ["sweep_results", dump.stem ++ "_" ++ seedTag ++ ".dmp"]

/-- The name `write_finding` gives to the file with an index: `finding_%06d.txt`. -/
def findingName (index : Nat) : String :=
  let digits := Nat.toDigits 10 index
  "finding_" ++ String.ofList (List.replicate (6 - digits.length) '0' ++ digits) ++ ".txt"

/-- What a child leaves: its reports, each under the index of its counter in the order
of writing, and its dumps. -/
structure ChildOutput (Content : Type) where
  reports : Output → List (Nat × Content) := fun _ => []
  dump : Dump → Option Content := fun _ => none

/-- The outcomes of the calls that archive one directory. -/
structure ArchiveReplies where
  existsAnswered : Bool := true
  isEmptyAnswered : Bool := true
  removeDst : Removal String := .done
  rename : Bool := true
  removeSrc : Removal String := .done

/-- The outcomes of the calls that archive one dump. -/
structure DumpReplies where
  existsAnswered : Bool := true
  removeDst : Bool := true
  rename : Bool := true

/-- What happens at one seed: whether its child is launched, what the child leaves, and
the outcomes of the calls on files. Left out, they all succeed. -/
structure SeedRun (Content : Type) where
  created : Bool := true
  output : ChildOutput Content
  removeStale : Dump → Bool := fun _ => true
  archive : Output → ArchiveReplies := fun _ => {}
  archiveDump : Dump → DumpReplies := fun _ => {}

section Files

variable {Content : Type}

/-- The reports of child `i` as files under their names. -/
def reportFiles (i : Nat) (reports : List (Nat × Content)) : List (String × Written Content) :=
  reports.map fun report => (findingName report.1, ⟨some i, report.2⟩)

/-- The dump a child leaves, if it leaves one. -/
def writeDump (i : Nat) (content : Option Content) (dump : Dump) (vol : SweepVolume Content) :
    SweepVolume Content :=
  match content with
  | some content => vol.writeFile dump.src ⟨some i, content⟩
  | none => vol

/-- The run of child `i`, as far as it touches files. -/
def runChild (i : Nat) (output : ChildOutput Content) (vol : SweepVolume Content) :
    SweepVolume Content :=
  [Dump.crash, Dump.watchdogHang].foldl (fun vol dump => writeDump i (output.dump dump) dump vol)
    ([Output.findings, Output.outliers].foldl
      (fun vol kind => vol.writeAll kind.src (reportFiles i (output.reports kind))) vol)

/-- The directory is renamed if it exists and is not empty; a call that could not be
answered says that it does not exist, or that it is not empty. -/
def moveAside (replies : ArchiveReplies) (src dst : DirPath) (vol : SweepVolume Content) :
    SweepVolume Content :=
  if (replies.existsAnswered && vol.hasEntry src) &&
      !(replies.isEmptyAnswered && vol.isEmpty src) then
    (vol.removeAll replies.removeDst dst).rename replies.rename src dst
  else vol

/-- The removal at the end comes whatever became of the renaming. -/
def archiveDirectory (replies : ArchiveReplies) (src dst : DirPath) (vol : SweepVolume Content) :
    SweepVolume Content :=
  (moveAside replies src dst vol).removeAll replies.removeSrc src

/-- Moves a dump over the one that was archived under the same seed. -/
def archiveDump (replies : DumpReplies) (src dst : DirPath) (vol : SweepVolume Content) :
    SweepVolume Content :=
  if replies.existsAnswered && (vol.file src).isSome then
    (vol.removeFile replies.removeDst dst).renameFile replies.rename src dst
  else vol

/-- The two loops after the child. -/
def archiveOutputs (seedTag : String) (run : SeedRun Content) (vol : SweepVolume Content) :
    SweepVolume Content :=
  [Output.findings, Output.outliers].foldl
    (fun vol kind => archiveDirectory (run.archive kind) kind.src (kind.dst seedTag) vol) vol

/-- Moves both dumps. -/
def archiveDumps (seedTag : String) (run : SeedRun Content) (vol : SweepVolume Content) :
    SweepVolume Content :=
  [Dump.crash, Dump.watchdogHang].foldl
    (fun vol dump => archiveDump (run.archiveDump dump) dump.src (dump.dst seedTag) vol) vol

/-- The loop that clears the dumps before the child. -/
def removeStaleDumps (run : SeedRun Content) (vol : SweepVolume Content) : SweepVolume Content :=
  [Dump.crash, Dump.watchdogHang].foldl
    (fun vol dump => vol.removeFile (run.removeStale dump) dump.src) vol

/-- The files as the child of seed `i` leaves them. -/
def beforeArchiving (i : Nat) (run : SeedRun Content) (vol : SweepVolume Content) :
    SweepVolume Content :=
  runChild i run.output (removeStaleDumps run vol)

/-- One turn of the sweep: the child runs and its outputs are archived. Of a child that could not be
created nothing is archived. -/
def processSeed (seedTag : String) (i : Nat) (run : SeedRun Content) (vol : SweepVolume Content) :
    SweepVolume Content :=
  if run.created then
    archiveDumps seedTag run (archiveOutputs seedTag run (beforeArchiving i run vol))
  else removeStaleDumps run vol

/-- The name of the i-th seed, as its files are called. -/
def seedTag (cfg : Config) (i : Nat) : String := seedHex (mixSeed cfg.seed (BitVec.ofNat 32 i))

/-- Nobody in the sweep wrote what is there before it. -/
def sweepStart (initial : Volume DirPath String Content) : SweepVolume Content :=
  (initial.map fun content => ⟨none, content⟩).createDirectory ["sweep_results"]

/-- The files after the first seeds of a sweep have been processed. -/
def sweepFiles (cfg : Config) (runs : Nat → SeedRun Content)
    (initial : Volume DirPath String Content) :
    Nat → SweepVolume Content
  | 0 => sweepStart initial
  | i + 1 => processSeed (seedTag cfg i) i (runs i) (sweepFiles cfg runs initial i)

/-- The reports that child `i` itself wrote into what it found, if it was launched, as they are
in the end. -/
def SeedRun.wrote (run : SeedRun Content) (i : Nat) (kind : Output) (vol : SweepVolume Content) :
    List (DirPath × Written Content) :=
  if run.created then
    Volume.overwriteAll (vol.opened kind.src (reportFiles i (run.output.reports kind))) []
  else []

/-- The two outputs are written to two places. -/
theorem Output.src_ne_src {kind other : Output} (differ : kind ≠ other) : kind.src ≠ other.src := by
  cases kind <;> cases other <;> first | exact absurd rfl differ | decide

/-- Nothing is archived to where a child writes. -/
theorem Output.dst_ne_src (kind other : Output) (tag : String) : kind.dst tag ≠ other.src :=
  fun same => absurd (congrArg List.length same) (by decide : ¬ 2 = 1)

/-- The two prefixes differ in their first character. -/
theorem Output.dst_ne_dst {kind other : Output} (differ : kind ≠ other) (tag tag' : String) :
    kind.dst tag ≠ other.dst tag' := by
  have start : ∀ output : Output, (output.dstPrefix ++ tag).toList.head? ≠ none ∧
      ∀ tag : String, (output.dstPrefix ++ tag).toList.head? = output.dstPrefix.toList.head? := by
    intro output
    constructor
    · rw [String.toList_append]
      cases output <;> exact Option.some_ne_none _
    · intro tag
      rw [String.toList_append]
      cases output <;> rfl
  intro same
  have heads := congrArg (fun text : String => text.toList.head?)
    (List.cons.inj (List.cons.inj same).2).1
  simp only [(start _).2] at heads
  cases kind <;> cases other <;> first | exact differ rfl | exact absurd heads (by decide)

/-- Archiving touches the two paths it names. -/
theorem entry_archiveDirectory_of_ne {src dst q : DirPath} (src_ne : q ≠ src) (dst_ne : q ≠ dst)
    (replies : ArchiveReplies) (vol : SweepVolume Content) :
    (archiveDirectory replies src dst vol).entry q = vol.entry q := by
  rw [archiveDirectory, Volume.entry_removeAll_of_ne src_ne, moveAside]
  split
  · rw [Volume.entry_rename_of_ne src_ne dst_ne, Volume.entry_removeAll_of_ne dst_ne]
  · rfl

/-- The source is seen to exist, the place of the seed is free by then, and the renaming
is carried out. -/
def ArchiveReplies.Moves (replies : ArchiveReplies) (dst : DirPath) (vol : SweepVolume Content) :
    Prop :=
  replies.existsAnswered = true ∧
    (replies.removeDst = .done ∨ vol.entry dst = none) ∧ replies.rename = true

variable {replies : ArchiveReplies} {src dst : DirPath} (vol : SweepVolume Content)

/-- All that is there goes to its new place. -/
theorem archiveDirectory_moved (apart : dst ≠ src) (filled : vol.filled src = true)
    (moves : replies.Moves dst vol) :
    (archiveDirectory replies src dst vol).entry src = none ∧
      (archiveDirectory replies src dst vol).entry dst = vol.entry src := by
  obtain ⟨seen, free, renames⟩ := moves
  obtain ⟨there, full⟩ := Bool.and_eq_true_iff.mp filled
  have tried : (replies.existsAnswered && vol.hasEntry src) &&
      !(replies.isEmptyAnswered && vol.isEmpty src) := by
    simp only [seen, there, (Bool.not_eq_true' _).mp full, Bool.and_false, Bool.not_false,
      Bool.and_self]
  have moved :
      (replies.rename && (vol.removeAll replies.removeDst dst).freeFor src dst) = true := by
    rw [renames, Volume.freeFor_of_none (Volume.entry_removeAll_eq_none.mpr free)]
    rfl
  obtain ⟨gone, arrived⟩ := Volume.entry_rename apart moved
  rw [Volume.entry_removeAll_of_ne apart.symm] at arrived
  rw [archiveDirectory, Volume.entry_removeAll, Volume.entry_removeAll_of_ne apart,
    moveAside, if_pos tried, gone, arrived]
  exact ⟨rfl, rfl⟩

/-- Nothing of a directory goes to the new place, and the removal at the end takes what it can. -/
theorem archiveDirectory_stays (apart : dst ≠ src) {files : List (DirPath × Written Content)}
    {folders : List DirPath} (folder : vol.entry src = some (.folder files folders))
    (stays : ¬ replies.Moves dst vol) (e : DirPath × Written Content) :
    (e ∈ (archiveDirectory replies src dst vol).contents src ↔
      replies.removeSrc.leaves e.1 = true ∧ e ∈ vol.contents src) ∧
    (e ∈ (archiveDirectory replies src dst vol).contents dst → e ∈ vol.contents dst) := by
  have aside : (moveAside replies src dst vol).entry src = vol.entry src ∧
      (e ∈ (moveAside replies src dst vol).contents dst → e ∈ vol.contents dst) := by
    rw [moveAside]
    split
    · rename_i tried
      simp only [Bool.and_eq_true] at tried
      have kept : (vol.removeAll replies.removeDst dst).entry src = some (.folder files folders) :=
        (Volume.entry_removeAll_of_ne apart.symm _ _).trans folder
      have failed : ¬ (replies.rename &&
          (vol.removeAll replies.removeDst dst).freeFor src dst) = true := by
        intro renamed
        obtain ⟨renames, free⟩ := Bool.and_eq_true_iff.mp renamed
        exact stays ⟨tried.1.1,
          Volume.entry_removeAll_eq_none.mp ((Volume.freeFor_folder_iff kept).mp free), renames⟩
      rw [Volume.rename_failed failed]
      exact ⟨Volume.entry_removeAll_of_ne apart.symm _ _,
        fun left => (Volume.mem_contents_removeAll.mp left).2⟩
    · exact ⟨rfl, id⟩
  rw [archiveDirectory, Volume.mem_contents_removeAll, Volume.contents_congr aside.1,
    Volume.contents_congr (Volume.entry_removeAll_of_ne apart _ _)]
  exact ⟨Iff.rfl, aside.2⟩

/-- Dumps are loose files. -/
theorem entry_writeDump (i : Nat) (content : Option Content) (dump : Dump)
    (vol : SweepVolume Content) : (writeDump i content dump vol).entry = vol.entry := by
  cases content <;> rfl

/-- Removing them leaves the directories alone. -/
theorem entry_removeStaleDumps (run : SeedRun Content) (vol : SweepVolume Content) :
    (removeStaleDumps run vol).entry = vol.entry := by
  simp only [removeStaleDumps, List.foldl_cons, List.foldl_nil, Volume.entry_removeFile]

/-- So does archiving them. -/
theorem entry_archiveDumps (tag : String) (run : SeedRun Content) (vol : SweepVolume Content) :
    (archiveDumps tag run vol).entry = vol.entry := by
  have one : ∀ (replies : DumpReplies) (src dst : DirPath) (vol : SweepVolume Content),
      (archiveDump replies src dst vol).entry = vol.entry := by
    intro replies src dst vol
    rw [archiveDump]
    split
    · rw [Volume.entry_renameFile, Volume.entry_removeFile]
    · rfl
  simp only [archiveDumps, List.foldl_cons, List.foldl_nil, one]

/-- The directories a child leaves are those it wrote its reports into. -/
theorem entry_beforeArchiving (i : Nat) (run : SeedRun Content) (vol : SweepVolume Content) :
    (beforeArchiving i run vol).entry =
      (((removeStaleDumps run vol).writeAll Output.findings.src
        (reportFiles i (run.output.reports .findings))).writeAll Output.outliers.src
        (reportFiles i (run.output.reports .outliers))).entry := by
  simp only [beforeArchiving, runChild, List.foldl_cons, List.foldl_nil, entry_writeDump]

/-- What lies at the two output paths is what the writes to them make of it. -/
theorem entry_beforeArchiving_src (i : Nat) (run : SeedRun Content) (vol : SweepVolume Content)
    (kind : Output) : ∃ found : SweepVolume Content, found.entry kind.src = vol.entry kind.src ∧
    (beforeArchiving i run vol).entry kind.src =
      (found.writeAll kind.src (reportFiles i (run.output.reports kind))).entry kind.src := by
  have stale := congrFun (entry_removeStaleDumps run vol)
  rw [entry_beforeArchiving]
  cases kind with
  | findings => exact ⟨_, stale _, Volume.entry_writeAll_of_ne (by decide) _ _⟩
  | outliers =>
      exact ⟨_, (Volume.entry_writeAll_of_ne (by decide) _ _).trans (stale _), rfl⟩

/-- The child writes over what is in its two directories. -/
theorem contents_beforeArchiving (i : Nat) (run : SeedRun Content) (vol : SweepVolume Content)
    (kind : Output) :
    (beforeArchiving i run vol).contents kind.src =
      Volume.overwriteAll (vol.opened kind.src (reportFiles i (run.output.reports kind)))
        (vol.contents kind.src) := by
  obtain ⟨found, same, written⟩ := entry_beforeArchiving_src i run vol kind
  rw [Volume.contents_congr written, Volume.contents_writeAll, Volume.opened_congr same,
    Volume.contents_congr same]

/-- It leaves a directory where it wrote a report. -/
theorem isFolder_beforeArchiving {run : SeedRun Content} {i : Nat} {kind : Output}
    {vol : SweepVolume Content}
    (some_ : vol.opened kind.src (reportFiles i (run.output.reports kind)) ≠ []) :
    ∃ files folders, (beforeArchiving i run vol).entry kind.src = some (.folder files folders) := by
  obtain ⟨found, same, written⟩ := entry_beforeArchiving_src i run vol kind
  rw [written]
  exact Volume.isFolder_writeAll (by rwa [Volume.opened_congr same])

/-- Where it wrote none it leaves what it found. -/
theorem entry_beforeArchiving_of_nil {run : SeedRun Content} {i : Nat} {kind : Output}
    {vol : SweepVolume Content}
    (none_ : vol.opened kind.src (reportFiles i (run.output.reports kind)) = []) :
    (beforeArchiving i run vol).entry kind.src = vol.entry kind.src := by
  obtain ⟨found, same, written⟩ := entry_beforeArchiving_src i run vol kind
  rw [written, Volume.entry_writeAll_of_nil (by rwa [Volume.opened_congr same]), same]

/-- It touches no other directory. -/
theorem entry_beforeArchiving_of_ne {p : DirPath} (other : ∀ kind : Output, p ≠ kind.src)
    (i : Nat) (run : SeedRun Content) (vol : SweepVolume Content) :
    (beforeArchiving i run vol).entry p = vol.entry p := by
  rw [entry_beforeArchiving, Volume.entry_writeAll_of_ne (other _),
    Volume.entry_writeAll_of_ne (other _), entry_removeStaleDumps]

/-- Two volumes with the same directories at the paths that one archiving names. -/
def SameAt (kind : Output) (tag : String) (vol vol' : SweepVolume Content) : Prop :=
  vol.entry kind.src = vol'.entry kind.src ∧
    vol.entry (kind.dst tag) = vol'.entry (kind.dst tag)

/-- Archiving one output leaves the other alone. -/
theorem sameAt_archiveDirectory {kind other : Output} (differ : kind ≠ other) (tag : String)
    (replies : ArchiveReplies) (vol : SweepVolume Content) :
    SameAt kind tag (archiveDirectory replies other.src (other.dst tag) vol) vol :=
  ⟨entry_archiveDirectory_of_ne (Output.src_ne_src differ) (Output.dst_ne_src _ _ _).symm _ _,
    entry_archiveDirectory_of_ne (Output.dst_ne_src _ _ _) (Output.dst_ne_dst differ _ _) _ _⟩

/-- Each directory is archived as if it were alone. -/
theorem archiveOutputs_alone (tag : String) (run : SeedRun Content) (vol : SweepVolume Content)
    (kind : Output) : ∃ vol', SameAt kind tag vol' vol ∧
      SameAt kind tag (archiveOutputs tag run vol)
        (archiveDirectory (run.archive kind) kind.src (kind.dst tag) vol') := by
  cases kind with
  | findings => exact ⟨vol, ⟨rfl, rfl⟩, sameAt_archiveDirectory (by decide) tag _ _⟩
  | outliers =>
      exact ⟨_, sameAt_archiveDirectory (by decide) tag (run.archive .findings) vol, rfl, rfl⟩

/-- A child is launched at the seed and its directory goes to the seed's place. -/
theorem processSeed_moved {run : SeedRun Content} {i : Nat} {vol : SweepVolume Content}
    (tag : String) {kind : Output} (created : run.created = true)
    (filled : (beforeArchiving i run vol).filled kind.src = true)
    (moves : (run.archive kind).Moves (kind.dst tag) vol) :
    (processSeed tag i run vol).entry kind.src = none ∧
      (processSeed tag i run vol).contents (kind.dst tag) =
        (beforeArchiving i run vol).contents kind.src := by
  obtain ⟨vol', ⟨sameSrc, sameDst⟩, atSrc, atDst⟩ :=
    archiveOutputs_alone tag run (beforeArchiving i run vol) kind
  rw [entry_beforeArchiving_of_ne (Output.dst_ne_src kind · tag)] at sameDst
  have moved := archiveDirectory_moved vol' (Output.dst_ne_src kind kind tag)
    (by rwa [Volume.filled_congr sameSrc])
    (by rwa [ArchiveReplies.Moves, sameDst])
  rw [processSeed, if_pos created, entry_archiveDumps, atSrc, moved.1]
  refine ⟨rfl, Volume.contents_congr ?_⟩
  rw [entry_archiveDumps, atDst, moved.2, sameSrc]

/-- A child is launched, and its directory does not go there. -/
theorem processSeed_stays {run : SeedRun Content} {i : Nat} {vol : SweepVolume Content}
    (tag : String) {kind : Output} (created : run.created = true)
    {files : List (DirPath × Written Content)} {folders : List DirPath}
    (folder : (beforeArchiving i run vol).entry kind.src = some (.folder files folders))
    (stays : ¬ (run.archive kind).Moves (kind.dst tag) vol) (e : DirPath × Written Content) :
    (e ∈ (processSeed tag i run vol).contents kind.src ↔
      (run.archive kind).removeSrc.leaves e.1 = true ∧
        e ∈ (beforeArchiving i run vol).contents kind.src) ∧
    (e ∈ (processSeed tag i run vol).contents (kind.dst tag) →
      e ∈ vol.contents (kind.dst tag)) := by
  obtain ⟨vol', ⟨sameSrc, sameDst⟩, atSrc, atDst⟩ :=
    archiveOutputs_alone tag run (beforeArchiving i run vol) kind
  rw [entry_beforeArchiving_of_ne (Output.dst_ne_src kind · tag)] at sameDst
  have stayed := archiveDirectory_stays vol' (Output.dst_ne_src kind kind tag)
    (sameSrc.trans folder) (by rwa [ArchiveReplies.Moves, sameDst]) e
  rw [processSeed, if_pos created, Volume.contents_congr (congrFun (entry_archiveDumps ..) _),
    Volume.contents_congr (congrFun (entry_archiveDumps ..) _), Volume.contents_congr atSrc,
    Volume.contents_congr atDst, ← Volume.contents_congr sameSrc, ← Volume.contents_congr sameDst]
  exact stayed

/-- No child from a number on has written anything yet. -/
def WrittenBefore (i : Nat) (vol : SweepVolume Content) : Prop :=
  vol.Each fun file => ∀ k, file.writer = some k → k < i

/-- Before the sweep, no child has written. -/
theorem writtenBefore_start (initial : Volume DirPath String Content) :
    WrittenBefore 0 (sweepStart initial) := by
  refine Volume.Each.createDirectory (fun p e member => ?_) _
  rw [Volume.contents_map] at member
  obtain ⟨_, -, rfl⟩ := List.mem_map.mp member
  exact nofun

/-- The reports of a child are its own. -/
theorem writer_reportFiles {i : Nat} {reports : List (Nat × Content)} {e : String × Written Content}
    (listed : e ∈ reportFiles i reports) : e.2.writer = some i := by
  obtain ⟨_, -, rfl⟩ := List.mem_map.mp listed
  rfl

/-- So is everything it wrote. -/
theorem writer_wrote {run : SeedRun Content} {i : Nat} {kind : Output}
    {vol : SweepVolume Content} {e : DirPath × Written Content}
    (wrote : e ∈ run.wrote i kind vol) : e.2.writer = some i := by
  rw [SeedRun.wrote] at wrote
  split at wrote
  · obtain ⟨report, listed, rfl⟩ := List.mem_map.mp (Volume.written_of_mem wrote)
    exact writer_reportFiles (List.mem_filter.mp listed).1
  · exact absurd wrote List.not_mem_nil

/-- After a turn, one child more has written. -/
theorem writtenBefore_processSeed {i : Nat} {vol : SweepVolume Content}
    (before : WrittenBefore i vol) (tag : String) (run : SeedRun Content) :
    WrittenBefore (i + 1) (processSeed tag i run vol) := by
  have stale : (removeStaleDumps run vol).Each fun file => ∀ k, file.writer = some k → k < i + 1 :=
    (before.mono fun _ writers k writer => Nat.lt_succ_of_lt (writers k writer)).congr
      (entry_removeStaleDumps run vol)
  have own : ∀ kind, ∀ e ∈ reportFiles i (run.output.reports kind),
      ∀ k, e.2.writer = some k → k < i + 1 := by
    intro kind e listed k writer
    rw [writer_reportFiles listed] at writer
    obtain rfl := Option.some.inj writer
    exact Nat.lt_succ_self _
  have child := ((stale.writeAll Output.findings.src (own .findings)).writeAll
    Output.outliers.src (own .outliers)).congr (entry_beforeArchiving i run vol)
  have archived : ∀ (kind : Output) {vol : SweepVolume Content},
      (vol.Each fun file => ∀ k, file.writer = some k → k < i + 1) →
      (archiveDirectory (run.archive kind) kind.src (kind.dst tag) vol).Each fun file =>
        ∀ k, file.writer = some k → k < i + 1 := by
    intro kind vol each
    refine Volume.Each.removeAll ?_ _ _
    rw [moveAside]
    split
    · exact (each.removeAll _ _).rename _ (Output.dst_ne_src _ _ _)
    · exact each
  rw [processSeed]
  split
  · exact (archived .outliers (archived .findings child)).congr (entry_archiveDumps ..)
  · exact stale

/-- After so many turns, so many children have. -/
theorem writtenBefore_sweepFiles (cfg : Config) (runs : Nat → SeedRun Content)
    (initial : Volume DirPath String Content) (i : Nat) :
    WrittenBefore i (sweepFiles cfg runs initial i) := by
  induction i with
  | zero => exact writtenBefore_start initial
  | succ i ih => exact writtenBefore_processSeed ih _ _

/-- Of what child `i` wrote to one directory everything is kept, here or there. -/
def Kept (run : SeedRun Content) (i : Nat) (kind : Output) (tag : String)
    (vol after : SweepVolume Content) : Prop :=
  ∀ e ∈ run.wrote i kind vol, e ∈ after.contents kind.src ∨ e ∈ after.contents (kind.dst tag)

/-- The removal at the end leaves all that child `i` wrote. -/
def Spared (run : SeedRun Content) (i : Nat) (kind : Output) (vol : SweepVolume Content) : Prop :=
  ∀ e ∈ run.wrote i kind vol, (run.archive kind).removeSrc.leaves e.1 = true

/-- A child that wrote a report was launched and left a directory with what it wrote. -/
theorem wrote_created {run : SeedRun Content} {i : Nat} {kind : Output} {vol : SweepVolume Content}
    {e : DirPath × Written Content} (wrote : e ∈ run.wrote i kind vol) :
    run.created = true ∧ e ∈ (beforeArchiving i run vol).contents kind.src ∧
      ∃ files folders, (beforeArchiving i run vol).entry kind.src =
        some (.folder files folders) := by
  rw [SeedRun.wrote] at wrote
  split at wrote
  · rename_i created
    refine ⟨created, ?_, isFolder_beforeArchiving fun none_ => ?_⟩
    · rw [contents_beforeArchiving]
      exact Volume.mem_overwriteAll.mpr (.inl wrote)
    · rw [none_] at wrote
      exact absurd wrote List.not_mem_nil
  · exact absurd wrote List.not_mem_nil

/-- **One turn**: what a child wrote is kept exactly if it is moved, or there is nothing to move. -/
theorem kept_iff {run : SeedRun Content} {i : Nat} {vol : SweepVolume Content}
    (before : WrittenBefore i vol) (tag : String) (kind : Output) :
    Kept run i kind tag vol (processSeed tag i run vol) ↔
      run.wrote i kind vol = [] ∨ (run.archive kind).Moves (kind.dst tag) vol ∨
        Spared run i kind vol := by
  by_cases none : run.wrote i kind vol = []
  · refine iff_of_true (fun e wrote => ?_) (.inl none)
    rw [none] at wrote
    exact absurd wrote List.not_mem_nil
  obtain ⟨first, wroteFirst⟩ := List.exists_mem_of_ne_nil _ none
  obtain ⟨created, -, files, folders, folder⟩ := wrote_created wroteFirst
  rw [or_iff_right none]
  by_cases moves : (run.archive kind).Moves (kind.dst tag) vol
  · refine iff_of_true (fun e wrote => .inr ?_) (.inl moves)
    have there := (wrote_created wrote).2.1
    have some_file : files ≠ [] := by
      rintro rfl
      rw [Volume.contents, folder] at there
      exact List.not_mem_nil there
    rw [(processSeed_moved tag created (Volume.filled_of_folder folder some_file) moves).2]
    exact there
  rw [or_iff_right moves]
  have stays := processSeed_stays tag created folder moves
  -- what the child wrote was in no other place before
  have nowhere : ∀ e ∈ run.wrote i kind vol,
      e ∉ (processSeed tag i run vol).contents (kind.dst tag) :=
    fun e wrote there =>
      Nat.lt_irrefl i (before _ e ((stays e).2 there) i (writer_wrote wrote))
  constructor
  · intro kept e wrote
    exact ((stays e).1.mp ((kept e wrote).resolve_right (nowhere e wrote))).1
  · intro spared e wrote
    exact .inl ((stays e).1.mpr ⟨spared e wrote, (wrote_created wrote).2.1⟩)

/-- **What a child wrote.** Whatever the calls reply, at this seed and before it, every
report that child `i` wrote is still in its directory or in the seed's place after the
archiving if and only if for each of the two directories the child wrote nothing there,
or the renaming went through, or the removal that follows failed and left the reports. -/
theorem archiving_survives_iff (cfg : Config) (runs : Nat → SeedRun Content)
    (initial : Volume DirPath String Content) (i : Nat) :
    (∀ kind, ∀ e ∈ (runs i).wrote i kind (sweepFiles cfg runs initial i),
        e ∈ (sweepFiles cfg runs initial (i + 1)).contents kind.src ∨
          e ∈ (sweepFiles cfg runs initial (i + 1)).contents (kind.dst (seedTag cfg i))) ↔
      ∀ kind, (runs i).wrote i kind (sweepFiles cfg runs initial i) = [] ∨
        ((runs i).archive kind).Moves (kind.dst (seedTag cfg i)) (sweepFiles cfg runs initial i) ∨
        Spared (runs i) i kind (sweepFiles cfg runs initial i) :=
  forall_congr' fun kind => kept_iff (writtenBefore_sweepFiles cfg runs initial i) _ kind

end Files

/-- A child that wrote one report, and whose directory could not be renamed. -/
def lockedRun : SeedRun Unit where
  output := { reports := fun kind => match kind with | .findings => [(0, ())] | .outliers => [] }
  archive := fun _ => { rename := false }

/-- Its report is gone. -/
theorem locked_report_lost :
    ∃ e ∈ lockedRun.wrote 0 .findings (sweepStart ⟨fun _ => none, fun _ => none⟩),
      e ∉ (sweepFiles {} (fun _ => lockedRun) ⟨fun _ => none, fun _ => none⟩ 1).contents
          Output.findings.src ∧
        e ∉ (sweepFiles {} (fun _ => lockedRun) ⟨fun _ => none, fun _ => none⟩ 1).contents
          (Output.findings.dst (seedTag {} 0)) := by
  have wrote : ([findingName 0], ⟨some 0, ()⟩) ∈
      lockedRun.wrote 0 .findings (sweepStart ⟨fun _ => none, fun _ => none⟩) :=
    List.mem_singleton_self _
  obtain ⟨created, -, files, folders, folder⟩ := wrote_created wrote
  have stays := processSeed_stays (seedTag {} 0) created folder
    (fun moves => Bool.false_ne_true moves.2.2) ([findingName 0], ⟨some 0, ()⟩)
  refine ⟨_, wrote, fun there => ?_, fun there => ?_⟩
  · exact Bool.false_ne_true (stays.1.mp there).1
  · have empty := stays.2 there
    rw [sweepStart, Volume.contents_createDirectory, Volume.contents_map] at empty
    exact absurd empty List.not_mem_nil

end SevenFuzzer
