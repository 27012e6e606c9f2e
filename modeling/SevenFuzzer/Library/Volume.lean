import Mathlib.Logic.Function.Basic
import Mathlib.Data.List.Basic

/-! # Directories that are removed and renamed

A volume holds an entry at each of some paths, a file or a directory with all that is below it,
and loose files at others. An operation that may fail takes its outcome as an argument, and leaves
what a failed call leaves. The lemmas say what an operation does at the paths it names and that it
leaves the others alone (`Volume.entry_removeAll_of_ne`, `Volume.entry_rename_of_ne`), and that a
property of every file survives every removal and every renaming.
-/

namespace SevenFuzzer

/-- What is at a path: a file, with whether it has no bytes, or a directory with the files and
the directories below it, at any depth and by their paths relative to it. -/
inductive Entry (Name File : Type) where
  | regular (file : File) (blank : Bool)
  | folder (files : List (List Name × File)) (folders : List (List Name))

/-- A volume over paths, names and files. -/
structure Volume (Path Name File : Type) where
  entry : Path → Option (Entry Name File)
  file : Path → Option File

/-- The end of a removal: nothing is left, or it failed and left what has these paths, apart from
the entry itself. -/
inductive Removal (Name : Type) where
  | done
  | failed (left : List Name → Bool)

/-- What is left of an entry at a path relative to it. -/
def Removal.leaves {Name : Type} : Removal Name → List Name → Bool
  | .done, _ => false
  | .failed left, path => path.isEmpty || left path

namespace Entry

variable {Name File : Type}

/-- The files of an entry by their relative paths. -/
def files : Entry Name File → List (List Name × File)
  | .regular file _ => [([], file)]
  | .folder files _ => files

/-- A directory is empty if nothing is in it, a file if it has no bytes. -/
def isEmpty : Entry Name File → Bool
  | .regular _ blank => blank
  | .folder files folders => files.isEmpty && folders.isEmpty

/-- A file, not a folder. -/
def isRegular : Entry Name File → Bool
  | .regular .. => true
  | .folder .. => false

/-- A file of this name can be opened for writing: no directory has the name. -/
def writable [DecidableEq Name] (name : Name) : Entry Name File → Bool
  | .regular .. => false
  | .folder _ folders => decide ([name] ∉ folders)

/-- What a removal leaves of an entry. -/
def remains (removal : Removal Name) : Entry Name File → Option (Entry Name File)
  | .regular file blank => if removal.leaves [] then some (.regular file blank) else none
  | .folder files folders =>
      if removal.leaves [] then
        some (.folder (files.filter fun e => removal.leaves e.1) (folders.filter removal.leaves))
      else none

/-- The same entry with its files read through a function. -/
def map {File' : Type} (label : File → File') : Entry Name File → Entry Name File'
  | .regular file blank => .regular (label file) blank
  | .folder files folders => .folder (files.map fun e => (e.1, label e.2)) folders

end Entry

namespace Volume

variable {Path Name File : Type}

/-- The files at or below a path, none if nothing is there. -/
def contents (vol : Volume Path Name File) (p : Path) : List (List Name × File) :=
  (vol.entry p).elim [] Entry.files

/-- Something is there. -/
def hasEntry (vol : Volume Path Name File) (p : Path) : Bool := (vol.entry p).isSome

/-- Nothing is there, or an empty file or folder. -/
def isEmpty (vol : Volume Path Name File) (p : Path) : Bool := (vol.entry p).all Entry.isEmpty

/-- Something is there, and it is not empty. -/
def filled (vol : Volume Path Name File) (p : Path) : Bool := vol.hasEntry p && !vol.isEmpty p

/-- A file can be written into the directory, which is created if need be. -/
def writable [DecidableEq Name] (vol : Volume Path Name File) (p : Path) (name : Name) : Bool :=
  (vol.entry p).all (Entry.writable name)

/-- A file written over one of the same name. -/
def overwrite {Key : Type} [DecidableEq Key] (key : Key) (file : File) (files : List (Key × File)) :
    List (Key × File) :=
  (key, file) :: files.filter fun e => e.1 ≠ key

/-- Writes files over those of the same name, in order. -/
def overwriteAll {Key : Type} [DecidableEq Key] (written files : List (Key × File)) :
    List (Key × File) :=
  written.foldl (fun files e => overwrite e.1 e.2 files) files

/-- What is at a path after a file has been written there, or could not be opened. -/
def entryWritten [DecidableEq Name] (name : Name) (file : File) :
    Option (Entry Name File) → Entry Name File
  | none => .folder [([name], file)] []
  | some (.regular other blank) => .regular other blank
  | some (.folder files folders) =>
      if [name] ∈ folders then .folder files folders
      else .folder (overwrite [name] file files) folders

section Operations

variable [DecidableEq Path]

/-- Create a directory unless something is there. -/
def createDirectory (p : Path) (vol : Volume Path Name File) : Volume Path Name File :=
  { vol with entry := Function.update vol.entry p (some ((vol.entry p).getD (.folder [] []))) }

/-- Writes a file into the folder at a path. -/
def write [DecidableEq Name] (p : Path) (name : Name) (file : File) (vol : Volume Path Name File) :
    Volume Path Name File :=
  { vol with entry := Function.update vol.entry p (some (entryWritten name file (vol.entry p))) }

/-- Writes files into the folder at a path, in order. -/
def writeAll [DecidableEq Name] (p : Path) (written : List (Name × File))
    (vol : Volume Path Name File) : Volume Path Name File :=
  written.foldl (fun vol e => vol.write p e.1 e.2) vol

/-- Remove what is at a path with all that is below it. -/
def removeAll (removal : Removal Name) (p : Path) (vol : Volume Path Name File) :
    Volume Path Name File :=
  { vol with entry := Function.update vol.entry p ((vol.entry p).bind (Entry.remains removal)) }

/-- A name is free for an entry, or a file takes the place of a file. -/
def freeFor (src dst : Path) (vol : Volume Path Name File) : Bool :=
  (vol.entry dst).all fun there => there.isRegular && (vol.entry src).any Entry.isRegular

/-- Rename what is at a path. It fails where the new name is taken, and then nothing moves. -/
def rename (succeeds : Bool) (src dst : Path) (vol : Volume Path Name File) :
    Volume Path Name File :=
  if succeeds && vol.freeFor src dst then
    { vol with entry := Function.update (Function.update vol.entry dst (vol.entry src)) src none }
  else vol

/-- Writes the file at a path. -/
def writeFile (p : Path) (file : File) (vol : Volume Path Name File) : Volume Path Name File :=
  { vol with file := Function.update vol.file p (some file) }

/-- Removes the file at a path, where that succeeds. -/
def removeFile (succeeds : Bool) (p : Path) (vol : Volume Path Name File) : Volume Path Name File :=
  if succeeds then { vol with file := Function.update vol.file p none } else vol

/-- Rename a loose file over one that may be there. -/
def renameFile (succeeds : Bool) (src dst : Path) (vol : Volume Path Name File) :
    Volume Path Name File :=
  if succeeds then
    { vol with file := Function.update (Function.update vol.file dst (vol.file src)) src none }
  else vol

end Operations

/-- The files of a list that can be written into a directory, by their paths relative to it. -/
def opened [DecidableEq Name] (vol : Volume Path Name File) (p : Path)
    (written : List (Name × File)) : List (List Name × File) :=
  (written.filter fun e => vol.writable p e.1).map fun e => ([e.1], e.2)

/-- The same volume with its files read through a function. -/
def map {File' : Type} (label : File → File') (vol : Volume Path Name File) :
    Volume Path Name File' where
  entry p := (vol.entry p).map (Entry.map label)
  file p := (vol.file p).map label

section Entries

variable {vol vol' : Volume Path Name File} {p q : Path}

/-- What can be seen at a path depends on its entry alone; so for each view below. -/
theorem contents_congr (same : vol.entry p = vol'.entry q) : vol.contents p = vol'.contents q := by
  rw [contents, same, contents]

theorem filled_congr (same : vol.entry p = vol'.entry q) : vol.filled p = vol'.filled q := by
  simp only [filled, hasEntry, isEmpty, same]

theorem writable_congr [DecidableEq Name] (same : vol.entry p = vol'.entry q) (name : Name) :
    vol.writable p name = vol'.writable q name := by
  simp only [writable, same]

theorem opened_congr [DecidableEq Name] (same : vol.entry p = vol'.entry q)
    (written : List (Name × File)) : vol.opened p written = vol'.opened q written := by
  simp only [opened, writable_congr same]

/-- Where nothing is, there are no files. -/
theorem contents_of_none (missing : vol.entry p = none) : vol.contents p = [] := by
  rw [contents, missing]
  rfl

/-- And nothing is filled. -/
theorem filled_of_none (missing : vol.entry p = none) : vol.filled p = false := by
  rw [filled, hasEntry, missing]
  rfl

/-- A directory with a file in it is not empty. -/
theorem filled_of_folder {files : List (List Name × File)} {folders : List (List Name)}
    (there : vol.entry p = some (.folder files folders)) (some_file : files ≠ []) :
    vol.filled p = true := by
  have full : files.isEmpty = false := Bool.eq_false_iff.mpr (mt List.isEmpty_iff.mp some_file)
  simp only [filled, hasEntry, isEmpty, there, Option.isSome_some, Option.all_some, Entry.isEmpty,
    full, Bool.false_and, Bool.not_false, Bool.and_self]

/-- What can be written to holds no file if it is empty. -/
theorem contents_of_unfilled [DecidableEq Name] {name : Name} (unfilled : vol.filled p = false)
    (writable : vol.writable p name = true) : vol.contents p = [] := by
  cases there : vol.entry p with
  | none => exact contents_of_none there
  | some found =>
      cases found with
      | regular file blank =>
          rw [Volume.writable, there] at writable
          cases writable
      | folder files folders =>
          by_contra some_file
          rw [contents, there] at some_file
          exact Bool.false_ne_true (unfilled.symm.trans (filled_of_folder there some_file))

/-- The files seen through a function. -/
theorem contents_map {File' : Type} (label : File → File') (vol : Volume Path Name File)
    (p : Path) :
    (vol.map label).contents p = (vol.contents p).map fun e => (e.1, label e.2) := by
  change ((vol.entry p).map _).elim [] _ = ((vol.entry p).elim [] _).map _
  cases vol.entry p with
  | none => rfl
  | some there => cases there <;> rfl

/-- Which does not change whether a path is filled. -/
theorem filled_map {File' : Type} (label : File → File') (vol : Volume Path Name File) (p : Path) :
    (vol.map label).filled p = vol.filled p := by
  change (((vol.entry p).map _).isSome && !((vol.entry p).map _).all _) = _
  rw [filled, hasEntry, isEmpty]
  cases vol.entry p with
  | none => rfl
  | some there =>
      cases there with
      | regular file blank => rfl
      | folder files folders =>
          simp only [Option.map_some, Option.isSome_some, Option.all_some, Entry.map, Entry.isEmpty,
            List.isEmpty_map]

/-- Nor whether a file can be written there. -/
theorem writable_map [DecidableEq Name] {File' : Type} (label : File → File')
    (vol : Volume Path Name File) (p : Path) (name : Name) :
    (vol.map label).writable p name = vol.writable p name := by
  change ((vol.entry p).map _).all _ = (vol.entry p).all _
  cases vol.entry p with
  | none => rfl
  | some there => cases there <;> rfl

/-- An entry is left by a removal unless it is done. -/
theorem remains_eq_none {removal : Removal Name} {there : Entry Name File} :
    there.remains removal = none ↔ removal = .done := by
  cases removal with
  | done => cases there <;> exact iff_of_true rfl rfl
  | failed left =>
      have unlike : Removal.failed left ≠ .done := by
        intro same
        cases same
      cases there <;> exact iff_of_false (Option.some_ne_none _) unlike

/-- What is left of an entry's files. -/
theorem mem_files_remains {removal : Removal Name} {there : Option (Entry Name File)}
    {e : List Name × File} :
    e ∈ (there.bind (Entry.remains removal)).elim [] Entry.files ↔
      removal.leaves e.1 = true ∧ e ∈ there.elim [] Entry.files := by
  cases there with
  | none => exact iff_of_false List.not_mem_nil fun member => List.not_mem_nil member.2
  | some there =>
      cases removal with
      | done =>
          refine iff_of_false ?_ fun member => Bool.false_ne_true member.1
          cases there <;> exact List.not_mem_nil
      | failed left =>
          cases there with
          | regular file blank =>
              change e ∈ [([], file)] ↔ _ ∧ e ∈ [([], file)]
              refine (and_iff_right_of_imp fun member => ?_).symm
              rw [List.mem_singleton.mp member]
              rfl
          | folder files folders =>
              change e ∈ files.filter _ ↔ _ ∧ e ∈ files
              rw [List.mem_filter, and_comm]

end Entries

/-! ## Files written over files -/

/-- The files after one was written. -/
theorem mem_overwrite [DecidableEq Name] {name : Name} {file : File} {files : List (Name × File)}
    {e : Name × File} :
    e ∈ overwrite name file files ↔ e = (name, file) ∨ e ∈ files ∧ e.1 ≠ name := by
  rw [overwrite, List.mem_cons, List.mem_filter, decide_eq_true_eq]

section Written

variable [DecidableEq Name]

/-- The first file is written first. -/
theorem overwriteAll_cons (first : Name × File) (written files : List (Name × File)) :
    overwriteAll (first :: written) files =
      overwriteAll written (overwrite first.1 first.2 files) := rfl

/-- A file stays if none is written under its name. -/
theorem mem_overwriteAll {written files : List (Name × File)} {e : Name × File} :
    e ∈ overwriteAll written files ↔
      e ∈ overwriteAll written [] ∨ e ∈ files ∧ ∀ w ∈ written, w.1 ≠ e.1 := by
  induction written generalizing files with
  | nil =>
      refine ⟨fun member => .inr ⟨member, List.forall_mem_nil _⟩, ?_⟩
      rintro (none | ⟨member, -⟩)
      · exact absurd none List.not_mem_nil
      · exact member
  | cons first written ih =>
      rw [overwriteAll_cons, overwriteAll_cons, ih, @ih (overwrite first.1 first.2 []),
        mem_overwrite, mem_overwrite, List.forall_mem_cons, or_assoc]
      refine or_congr_right ⟨?_, ?_⟩
      · rintro ⟨rfl | ⟨member, kept⟩, unnamed⟩
        · exact .inl ⟨.inl rfl, unnamed⟩
        · exact .inr ⟨member, kept.symm, unnamed⟩
      · rintro (⟨rfl | ⟨member, -⟩, unnamed⟩ | ⟨member, kept, unnamed⟩)
        · exact ⟨.inl rfl, unnamed⟩
        · exact absurd member List.not_mem_nil
        · exact ⟨.inr ⟨member, kept.symm⟩, unnamed⟩

/-- Only what was written is there. -/
theorem written_of_mem {written : List (Name × File)} {e : Name × File}
    (member : e ∈ overwriteAll written []) : e ∈ written := by
  induction written with
  | nil => exact member
  | cons first written ih =>
      rw [overwriteAll_cons] at member
      rcases mem_overwriteAll.mp member with later | ⟨now, -⟩
      · exact List.mem_cons_of_mem _ (ih later)
      · rcases mem_overwrite.mp now with rfl | ⟨none, -⟩
        · exact List.mem_cons_self
        · exact absurd none List.not_mem_nil

/-- Every name that was written under is there in the end. -/
theorem exists_of_written {written : List (Name × File)} {w : Name × File} (listed : w ∈ written)
    (files : List (Name × File)) : ∃ e ∈ overwriteAll written files, e.1 = w.1 := by
  induction written generalizing files w with
  | nil => exact absurd listed List.not_mem_nil
  | cons first written ih =>
      rw [overwriteAll_cons]
      rcases List.mem_cons.mp listed with rfl | later
      · by_cases again : ∃ other ∈ written, other.1 = w.1
        · obtain ⟨other, member, same⟩ := again
          obtain ⟨e, there, named⟩ := ih member (overwrite w.1 w.2 files)
          exact ⟨e, there, named.trans same⟩
        · refine ⟨w, mem_overwriteAll.mpr (.inr ⟨mem_overwrite.mpr (.inl rfl), ?_⟩), rfl⟩
          exact fun other member same => again ⟨other, member, same⟩
      · exact ih later (overwrite first.1 first.2 files)

/-- Nothing is there exactly if nothing was written. -/
theorem overwriteAll_nil_eq_nil {written : List (Name × File)} :
    overwriteAll written [] = [] ↔ written = [] := by
  constructor
  · intro empty
    by_contra listed
    obtain ⟨w, member⟩ := List.exists_mem_of_ne_nil _ listed
    obtain ⟨e, there, -⟩ := exists_of_written member []
    rw [empty] at there
    exact List.not_mem_nil there
  · rintro rfl
    rfl

end Written

section Operations

variable [DecidableEq Path]

/-- Creating a directory leaves the other paths alone. -/
theorem entry_createDirectory_of_ne {p q : Path} (other : q ≠ p) (vol : Volume Path Name File) :
    (vol.createDirectory p).entry q = vol.entry q := Function.update_of_ne other _ _

/-- And it adds no file. -/
theorem contents_createDirectory (p q : Path) (vol : Volume Path Name File) :
    (vol.createDirectory p).contents q = vol.contents q := by
  by_cases same : q = p
  · subst same
    have there : (vol.createDirectory q).entry q = some ((vol.entry q).getD (.folder [] [])) :=
      Function.update_self ..
    rw [contents, there, contents]
    cases vol.entry q <;> rfl
  · exact contents_congr (entry_createDirectory_of_ne same vol)

section Writes

variable [DecidableEq Name]

/-- What is at a path after a file is written there. -/
theorem entry_write (p : Path) (name : Name) (file : File) (vol : Volume Path Name File) :
    (vol.write p name file).entry p = some (entryWritten name file (vol.entry p)) :=
  Function.update_self ..

/-- Writing a file leaves the other paths alone. -/
theorem entry_write_of_ne {p q : Path} (other : q ≠ p) (name : Name) (file : File)
    (vol : Volume Path Name File) : (vol.write p name file).entry q = vol.entry q :=
  Function.update_of_ne other _ _

/-- A file that cannot be opened is not written. -/
theorem entry_write_of_not_writable {p : Path} {name : Name} {vol : Volume Path Name File}
    (closed : vol.writable p name = false) (file : File) :
    (vol.write p name file).entry p = vol.entry p := by
  rw [entry_write]
  rw [writable] at closed
  cases there : vol.entry p with
  | none =>
      rw [there] at closed
      cases closed
  | some found =>
      cases found with
      | regular other blank => rfl
      | folder files folders =>
          rw [there] at closed
          exact congrArg some (if_pos (not_not.mp (of_decide_eq_false closed)))

/-- A file that can be opened is written over what had its name. -/
theorem entry_write_of_writable {p : Path} {name : Name} {vol : Volume Path Name File}
    (open_ : vol.writable p name = true) (file : File) : ∃ folders,
    (vol.write p name file).entry p =
      some (.folder (overwrite [name] file (vol.contents p)) folders) ∧
    ∀ other, vol.writable p other = decide ([other] ∉ folders) := by
  rw [entry_write, contents]
  simp only [writable] at open_ ⊢
  cases there : vol.entry p with
  | none => exact ⟨[], rfl, fun _ => (decide_eq_true List.not_mem_nil).symm⟩
  | some found =>
      rw [there] at open_
      cases found with
      | regular other blank => cases open_
      | folder files folders =>
          exact ⟨folders, congrArg some (if_neg (of_decide_eq_true open_)), fun _ => rfl⟩

/-- A write changes no answer to whether a file can be opened. -/
theorem writable_write (p q : Path) (name other : Name) (file : File)
    (vol : Volume Path Name File) :
    (vol.write p name file).writable q other = vol.writable q other := by
  by_cases same : q = p
  · subst same
    cases open_ : vol.writable q name with
    | false => exact writable_congr (entry_write_of_not_writable open_ file) other
    | true =>
        obtain ⟨folders, there, answers⟩ := entry_write_of_writable open_ file
        rw [writable, there, answers]
        rfl
  · exact writable_congr (entry_write_of_ne same name file vol) other

/-- The file is among the contents, if it could be opened. -/
theorem contents_write (p : Path) (name : Name) (file : File) (vol : Volume Path Name File) :
    (vol.write p name file).contents p =
      if vol.writable p name then overwrite [name] file (vol.contents p) else vol.contents p := by
  cases open_ : vol.writable p name with
  | false => exact contents_congr (entry_write_of_not_writable open_ file)
  | true =>
      obtain ⟨folders, there, -⟩ := entry_write_of_writable open_ file
      rw [contents, there]
      rfl

/-- Which files can be opened does not depend on those written before. -/
theorem opened_write (p : Path) (name : Name) (file : File) (written : List (Name × File))
    (vol : Volume Path Name File) :
    (vol.write p name file).opened p written = vol.opened p written := by
  simp only [opened, writable_write]

omit [DecidableEq Path] in
/-- The first file, if it can be opened, and the rest. -/
theorem opened_cons (p : Path) (first : Name × File) (written : List (Name × File))
    (vol : Volume Path Name File) :
    vol.opened p (first :: written) =
      if vol.writable p first.1 then ([first.1], first.2) :: vol.opened p written
      else vol.opened p written := by
  rw [opened, List.filter_cons]
  split <;> rfl

/-- **The contents after files are written**: those that could be opened, over what was there. -/
theorem contents_writeAll (p : Path) (written : List (Name × File)) (vol : Volume Path Name File) :
    (vol.writeAll p written).contents p =
      overwriteAll (vol.opened p written) (vol.contents p) := by
  induction written generalizing vol with
  | nil => rfl
  | cons first written ih =>
      change ((vol.write p first.1 first.2).writeAll p written).contents p = _
      rw [ih, contents_write, opened_write, opened_cons]
      split <;> rfl

/-- Writing files leaves the other paths alone. -/
theorem entry_writeAll_of_ne {p q : Path} (other : q ≠ p) (written : List (Name × File))
    (vol : Volume Path Name File) : (vol.writeAll p written).entry q = vol.entry q := by
  induction written generalizing vol with
  | nil => rfl
  | cons first written ih =>
      change ((vol.write p first.1 first.2).writeAll p written).entry q = _
      rw [ih, entry_write_of_ne other]

/-- Nothing changes where no file can be opened. -/
theorem entry_writeAll_of_nil {p : Path} {written : List (Name × File)}
    {vol : Volume Path Name File} (none_ : vol.opened p written = []) :
    (vol.writeAll p written).entry p = vol.entry p := by
  induction written generalizing vol with
  | nil => rfl
  | cons first written ih =>
      rw [opened_cons] at none_
      change ((vol.write p first.1 first.2).writeAll p written).entry p = _
      cases open_ : vol.writable p first.1 with
      | true =>
          rw [if_pos open_] at none_
          cases none_
      | false =>
          rw [if_neg (Bool.eq_false_iff.mp open_)] at none_
          rw [ih (by rwa [opened_write]), entry_write_of_not_writable open_]

/-- Where a file has been written there is a directory. -/
theorem isFolder_writeAll {p : Path} {written : List (Name × File)} {vol : Volume Path Name File}
    (some_ : vol.opened p written ≠ []) : ∃ files folders,
    (vol.writeAll p written).entry p = some (.folder files folders) := by
  have stays (vol : Volume Path Name File) (there : ∃ files folders,
      vol.entry p = some (.folder files folders)) (rest : List (Name × File)) :
      ∃ files folders, (vol.writeAll p rest).entry p = some (.folder files folders) := by
    induction rest generalizing vol with
    | nil => exact there
    | cons first rest ih =>
        refine ih (vol.write p first.1 first.2) ?_
        obtain ⟨files, folders, there⟩ := there
        rw [entry_write, there, entryWritten]
        split
        · exact ⟨_, _, rfl⟩
        · exact ⟨_, _, rfl⟩
  induction written generalizing vol with
  | nil => exact absurd rfl some_
  | cons first written ih =>
      change ∃ files folders,
        ((vol.write p first.1 first.2).writeAll p written).entry p = some (.folder files folders)
      cases open_ : vol.writable p first.1 with
      | true =>
          obtain ⟨folders, there, -⟩ := entry_write_of_writable open_ first.2
          exact stays _ ⟨_, _, there⟩ written
      | false =>
          rw [opened_cons, if_neg (Bool.eq_false_iff.mp open_)] at some_
          exact ih (by rwa [opened_write])

end Writes

/-- What a removal leaves. -/
theorem entry_removeAll (removal : Removal Name) (p : Path) (vol : Volume Path Name File) :
    (vol.removeAll removal p).entry p = (vol.entry p).bind (Entry.remains removal) :=
  Function.update_self ..

/-- It leaves the other paths alone. -/
theorem entry_removeAll_of_ne {p q : Path} (other : q ≠ p) (removal : Removal Name)
    (vol : Volume Path Name File) : (vol.removeAll removal p).entry q = vol.entry q :=
  Function.update_of_ne other _ _

/-- The files that are left. -/
theorem mem_contents_removeAll {removal : Removal Name} {p : Path} {vol : Volume Path Name File}
    {e : List Name × File} :
    e ∈ (vol.removeAll removal p).contents p ↔ removal.leaves e.1 = true ∧ e ∈ vol.contents p := by
  rw [contents, entry_removeAll]
  exact mem_files_remains

/-- The new name is free after a removal that is done, or where it was free before. -/
theorem entry_removeAll_eq_none {removal : Removal Name} {p : Path} {vol : Volume Path Name File} :
    (vol.removeAll removal p).entry p = none ↔ removal = .done ∨ vol.entry p = none := by
  rw [entry_removeAll]
  cases vol.entry p with
  | none => exact iff_of_true rfl (.inr rfl)
  | some there =>
      change there.remains removal = none ↔ _
      rw [remains_eq_none]
      exact (or_iff_left (Option.some_ne_none _)).symm

/-- Renaming touches the two paths it names. -/
theorem entry_rename_of_ne {src dst q : Path} (src_ne : q ≠ src) (dst_ne : q ≠ dst)
    (succeeds : Bool) (vol : Volume Path Name File) :
    (vol.rename succeeds src dst).entry q = vol.entry q := by
  rw [rename]
  split
  · exact (Function.update_of_ne src_ne _ _).trans (Function.update_of_ne dst_ne _ _)
  · rfl

/-- A renaming that goes through. -/
theorem entry_rename {succeeds : Bool} {src dst : Path} {vol : Volume Path Name File}
    (apart : dst ≠ src) (moved : (succeeds && vol.freeFor src dst) = true) :
    (vol.rename succeeds src dst).entry src = none ∧
      (vol.rename succeeds src dst).entry dst = vol.entry src := by
  rw [rename, if_pos moved]
  exact ⟨Function.update_self .., (Function.update_of_ne apart _ _).trans (Function.update_self ..)⟩

/-- A renaming that does not. -/
theorem rename_failed {succeeds : Bool} {src dst : Path} {vol : Volume Path Name File}
    (failed : ¬ (succeeds && vol.freeFor src dst) = true) : vol.rename succeeds src dst = vol :=
  if_neg failed

omit [DecidableEq Path] in
/-- A name that is not taken is free. -/
theorem freeFor_of_none {src dst : Path} {vol : Volume Path Name File}
    (free : vol.entry dst = none) : vol.freeFor src dst = true := by
  rw [freeFor, free]
  rfl

omit [DecidableEq Path] in
/-- A directory needs a free name. -/
theorem freeFor_folder_iff {src dst : Path} {vol : Volume Path Name File}
    {files : List (List Name × File)} {folders : List (List Name)}
    (folder : vol.entry src = some (.folder files folders)) :
    vol.freeFor src dst = true ↔ vol.entry dst = none := by
  rw [freeFor, folder]
  cases vol.entry dst with
  | none => exact iff_of_true rfl rfl
  | some there =>
      refine iff_of_false ?_ (Option.some_ne_none _)
      simp only [Option.all_some, Option.any_some, Entry.isRegular, Bool.and_false,
        Bool.false_eq_true,
        not_false_eq_true]

@[simp] theorem entry_writeFile (p : Path) (file : File) (vol : Volume Path Name File) :
    (vol.writeFile p file).entry = vol.entry := rfl

@[simp] theorem entry_removeFile (succeeds : Bool) (p : Path) (vol : Volume Path Name File) :
    (vol.removeFile succeeds p).entry = vol.entry := by
  rw [removeFile]
  split <;> rfl

@[simp] theorem entry_renameFile (succeeds : Bool) (src dst : Path)
    (vol : Volume Path Name File) : (vol.renameFile succeeds src dst).entry = vol.entry := by
  rw [renameFile]
  split <;> rfl

end Operations

section LooseFiles

variable [DecidableEq Path] {vol : Volume Path Name File}

/-- A file that is removed is gone. -/
theorem file_removeFile (succeeds : Bool) (p : Path) :
    (vol.removeFile succeeds p).file p = if succeeds then none else vol.file p := by
  cases succeeds with
  | false => rfl
  | true => exact Function.update_self ..

/-- The others stay. -/
theorem file_removeFile_of_ne {p q : Path} (other : q ≠ p) (succeeds : Bool) :
    (vol.removeFile succeeds p).file q = vol.file q := by
  cases succeeds with
  | false => rfl
  | true => exact Function.update_of_ne other _ _

/-- Writing a file leaves the others alone. -/
theorem file_writeFile_of_ne {p q : Path} (other : q ≠ p) (file : File) :
    (vol.writeFile p file).file q = vol.file q := Function.update_of_ne other _ _

/-- A file that is renamed is gone from where it was. -/
theorem file_renameFile_src (succeeds : Bool) (src dst : Path) :
    (vol.renameFile succeeds src dst).file src = if succeeds then none else vol.file src := by
  cases succeeds with
  | false => rfl
  | true => exact Function.update_self ..

/-- And takes the place of what was where it goes. -/
theorem file_renameFile_dst {src dst : Path} (apart : dst ≠ src) (succeeds : Bool) :
    (vol.renameFile succeeds src dst).file dst =
      if succeeds then vol.file src else vol.file dst := by
  cases succeeds with
  | false => rfl
  | true => exact (Function.update_of_ne apart _ _).trans (Function.update_self ..)

/-- The others stay. -/
theorem file_renameFile_of_ne {src dst q : Path} (src_ne : q ≠ src) (dst_ne : q ≠ dst)
    (succeeds : Bool) : (vol.renameFile succeeds src dst).file q = vol.file q := by
  cases succeeds with
  | false => rfl
  | true => exact (Function.update_of_ne src_ne _ _).trans (Function.update_of_ne dst_ne _ _)

/-- Loose files are apart from the directories. -/
theorem file_writeAll [DecidableEq Name] (p : Path) (written : List (Name × File)) :
    (vol.writeAll p written).file = vol.file := by
  induction written generalizing vol with
  | nil => rfl
  | cons first written ih => exact ih

/-- So they stay where a directory is renamed. -/
theorem file_rename (succeeds : Bool) (src dst : Path) :
    (vol.rename succeeds src dst).file = vol.file := by
  rw [rename]
  split
  · rfl
  · rfl

end LooseFiles

/-! ## A property of every file -/

/-- Every file at or below a path of the volume has the property. -/
def Each (holds : File → Prop) (vol : Volume Path Name File) : Prop :=
  ∀ p, ∀ e ∈ vol.contents p, holds e.2

variable {holds : File → Prop} {vol vol' : Volume Path Name File}

/-- A weaker property of every file. -/
theorem Each.mono {holds' : File → Prop} (each : vol.Each holds)
    (implies : ∀ file, holds file → holds' file) : vol.Each holds' :=
  fun p e member => implies _ (each p e member)

/-- It is a matter of the entries. -/
theorem Each.congr (each : vol.Each holds) (same : vol'.entry = vol.entry) : vol'.Each holds := by
  intro p e member
  rw [contents_congr (congrFun same p)] at member
  exact each p e member

section Operations

variable [DecidableEq Path]

/-- No operation makes a file up: so for creating a directory, and for each operation below. -/
theorem Each.createDirectory (each : vol.Each holds) (p : Path) :
    (vol.createDirectory p).Each holds := by
  intro q e member
  rw [contents_createDirectory] at member
  exact each q e member

/-- A file that is written has to have the property. -/
theorem Each.write [DecidableEq Name] (each : vol.Each holds) (p : Path) (name : Name) {file : File}
    (new : holds file) : (vol.write p name file).Each holds := by
  intro q e member
  by_cases same : q = p
  · subst same
    rw [contents_write] at member
    split at member
    · rcases mem_overwrite.mp member with rfl | ⟨old, -⟩
      · exact new
      · exact each q e old
    · exact each q e member
  · rw [contents_congr (entry_write_of_ne same name file vol)] at member
    exact each q e member

/-- So do all of them. -/
theorem Each.writeAll [DecidableEq Name] (each : vol.Each holds) (p : Path)
    {written : List (Name × File)} (new : ∀ w ∈ written, holds w.2) :
    (vol.writeAll p written).Each holds := by
  induction written generalizing vol with
  | nil => exact each
  | cons first written ih =>
      rw [List.forall_mem_cons] at new
      exact ih (each.write p first.1 new.1) new.2

theorem Each.removeAll (each : vol.Each holds) (removal : Removal Name) (p : Path) :
    (vol.removeAll removal p).Each holds := by
  intro q e member
  by_cases same : q = p
  · subst same
    exact each q e (mem_contents_removeAll.mp member).2
  · rw [contents_congr (entry_removeAll_of_ne same removal vol)] at member
    exact each q e member

theorem Each.rename (each : vol.Each holds) (succeeds : Bool) {src dst : Path} (apart : dst ≠ src) :
    (vol.rename succeeds src dst).Each holds := by
  by_cases moved : (succeeds && vol.freeFor src dst) = true
  · obtain ⟨gone, arrived⟩ := entry_rename apart moved
    intro q e member
    by_cases fromSrc : q = src
    · rw [fromSrc, contents_of_none gone] at member
      exact absurd member List.not_mem_nil
    by_cases toDst : q = dst
    · rw [toDst, contents, arrived] at member
      exact each src e member
    · rw [contents_congr (entry_rename_of_ne fromSrc toDst _ _)] at member
      exact each q e member
  · rw [rename_failed moved]
    exact each

end Operations

end Volume

end SevenFuzzer
