import SevenFuzzer.Gen.InitialX87
import SevenFuzzer.Gen.Produced
import SevenFuzzer.Gen.Recorded

/-! # What the lanes can compare

Whatever the generator draws, its test cases compare only flags that the lanes report, start
from a canonical x87 state, and have the bytes the encoder gave or those of the fallback
(`SevenFuzzer.next_comparable`). These are the conditions under which the lanes show what their
engines do.
-/

namespace SevenFuzzer

open Draw

/-- The context compares what the lanes report. -/
structure Comparing (c : Ctx) : Prop where
  flags : ComparedFlags c.flagsMask
  needs : c.x87Needs ≤ 8

/-- A family starts with a mask of compared flags. -/
theorem comparing_initial : Comparing {} := ⟨by decide, Nat.zero_le 8⟩

/-- No step of a family adds a flag the lanes do not report. -/
theorem comparing_forcing : ForcingSteps Comparing where
  touchesMemory _ kept := ⟨kept.flags, kept.needs⟩
  flagsMask _ _ compared kept := ⟨compared kept.flags, kept.needs⟩
  count _ _ kept := ⟨kept.flags, kept.needs⟩
  dataQword _ _ kept := ⟨kept.flags, kept.needs⟩
  dataBytes _ _ kept := ⟨kept.flags, kept.needs⟩
  x87 _ _ onStack kept := ⟨kept.flags, onStack⟩
  needs _ kept := kept.needs
  forced _ _ _ kept := ⟨kept.flags, kept.needs⟩

/-- Nor does a recorded bit scan. -/
theorem comparing_scanned : ScanSteps Comparing where
  toPlainSteps := comparing_forcing.toPlainSteps
  scanned _ _ _ _ _ kept := ⟨kept.flags, kept.needs⟩

/-- The rule for a family that keeps to the flags the lanes report. -/
theorem always_comparing {prog : Gen (Option Instruction)} {built : Option Instruction → Prop}
    (kept : Draw.Keeps Comparing built prog) :
    always prog (fun result c => ∀ instr, result = some instr → Comparing c) {} :=
  always_mono (kept {} comparing_initial).2 fun _ _ ended _ _ => ended.1

variable {caps : HostCaps}

/-- So every family ends with a mask of compared flags. -/
theorem family_comparing (f : Family) :
    always (f.gen caps) (fun result c => ∀ instr, result = some instr → Comparing c) {} := by
  by_cases plain : f.isPlain = true
  · exact always_comparing (family_kept comparing_forcing.toFamilySteps plain)
  by_cases forcing : f.isForcing = true
  · exact always_comparing (forcingFamily_kept comparing_forcing forcing)
  cases f with
  | gen_string_ops => exact always_comparing (genStringOps_kept comparing_forcing.toRegisterSteps)
  | gen_rmsrc => exact always_comparing (genRmsrc_kept comparing_scanned)
  | gen_x87_control => exact always_comparing (genX87Control_kept comparing_forcing.toFamilySteps)
  | _ => first | exact absurd rfl plain | exact absurd rfl forcing

/-- On a well-formed stack the registers in use are those that were planted. -/
theorem X87State.WellFormed.canonical {x : X87State} {depth : Nat} (formed : x.WellFormed depth) :
    x.Canonical := by
  intro i inUse
  rcases Nat.lt_or_ge i.val depth with below | above
  · exact formed.planted i below
  · exact absurd (formed.empty i above) inUse

/-- What the lanes can compare of a test case. -/
structure TestCase.Comparable (encode : Instruction → Option (List (BitVec 8))) (tc : TestCase) :
    Prop where
  flags : ComparedFlags tc.flagsMask
  canonical : tc.initial.x87.Canonical
  encoded : tc.bytes = fallback.testCase.bytes ∨ ∃ instr, encode instr = some tc.bytes

/-- The finished test case has the mask of its context. -/
theorem finishCase_compares (c : Ctx) (bytes : List (BitVec 8)) :
    (finishCase c bytes).Always fun tc => tc.bytes = bytes ∧ tc.flagsMask = c.flagsMask :=
  (finishCase_finished c bytes).mono fun _ finished => ⟨finished.bytes, finished.mask⟩

/-- The test cases of the generator start from a canonical state. -/
theorem next_canonical (encode : Instruction → Option (List (BitVec 8))) (caps : HostCaps)
    (discarded : Nat) : (next encode caps discarded).Always fun ended =>
      ended.1.testCase.initial.x87.Canonical := by
  rw [← erase_nextLogged encode caps discarded, always_map]
  exact (nextLogged_logged encode caps discarded).mono fun _ logged =>
    logged.wellFormed.canonical

/-- **The lanes can compare every test case.** -/
theorem next_comparable (encode : Instruction → Option (List (BitVec 8))) (caps : HostCaps)
    (discarded : Nat) : (next encode caps discarded).Always fun ended =>
      ended.1.testCase.Comparable encode := by
  have produced : (next encode caps discarded).Always _ :=
    next_from family_comparing finishCase_compares discarded
  refine (produced.and (next_canonical encode caps discarded)).mono fun ended both => ?_
  obtain ⟨returned | ⟨bytes, -, encoded, comparing, same, mask⟩, canonical⟩ := both
  · rw [returned] at canonical ⊢
    exact ⟨by decide, canonical, .inl rfl⟩
  · refine ⟨?_, canonical, .inr ⟨_, same ▸ encoded⟩⟩
    rw [mask]
    exact comparing.flags

end SevenFuzzer
