import SevenFuzzer.Gen.Produced
import SevenFuzzer.Report.Finding

/-! # What a report reproduces

The part of a report before the lane sections tells the whole test case: its bytes, the initial
state and, where it touches memory, the scratch bytes (`SevenFuzzer.report_full_repro`).
-/

namespace SevenFuzzer

open Draw Readback

/-- The digits of the bytes, with blanks between them. -/
theorem toList_hexDump (byte : BitVec 8) (bytes : List (BitVec 8)) :
    (hexDump (byte :: bytes)).toList =
      padded 2 byte.toNat ++ bytes.flatMap fun b => " ".toList ++ padded 2 b.toNat := by
  rw [hexDump, String.toList_intercalate]
  induction bytes generalizing byte with
  | nil => simp [toList_hexPad]
  | cons next bytes ih =>
      have rest := ih next
      simp only [List.map_cons, List.intercalate_cons_cons] at rest ⊢
      rw [rest, toList_hexPad, List.flatMap_cons, List.append_assoc, List.append_assoc]

/-- The bytes are read back from their digits. -/
theorem hexDump_injective : Function.Injective hexDump := by
  have width (b : BitVec 8) : (" ".toList ++ padded 2 b.toNat).length = 3 := by
    simp
  have cell : Function.Injective fun b : BitVec 8 => " ".toList ++ padded 2 b.toNat :=
    fun b b' same => word_of_padded (List.append_cancel_left same)
  have printed (byte : BitVec 8) (bytes : List (BitVec 8)) :
      hexDump (byte :: bytes) ≠ hexDump [] := by
    intro same
    have lengths := congrArg (fun text => text.toList.length) same
    rw [toList_hexDump] at lengths
    simp [hexDump] at lengths
  intro bytes bytes' same
  cases bytes with
  | nil =>
      cases bytes' with
      | nil => rfl
      | cons byte' bytes' => exact absurd same.symm (printed byte' bytes')
  | cons byte bytes =>
      cases bytes' with
      | nil => exact absurd same (printed byte bytes)
      | cons byte' bytes' =>
          rw [← String.toList_inj, toList_hexDump, toList_hexDump] at same
          obtain ⟨head, tail⟩ := List.append_inj same (by simp)
          rw [word_of_padded head, injective_flatMap (by decide) width cell tail]

/-- The test cases are one for a reader who runs them: they have the same bytes and start in the
same state, and in the same window if they touch memory. -/
structure SameRepro (tc tc' : TestCase) : Prop where
  bytes : tc.bytes = tc'.bytes
  touches : tc.touchesMemory = tc'.touchesMemory
  gpr : tc.initial.gpr = tc'.initial.gpr
  rflags : tc.initial.rflags = tc'.initial.rflags
  xmmLo : tc.initial.xmmLo = tc'.initial.xmmLo
  xmmHi : tc.initial.xmmHi = tc'.initial.xmmHi
  x87 : tc.initial.x87 = tc'.initial.x87
  seed : tc.touchesMemory = true → tc.dataSeed = tc'.dataSeed

/-- A case that touches memory is not printed like one that does not: its last row ends with a
digit, and the slots of the x87 state end with the name of a tag. -/
theorem seedText_apart {before before' : List Char} (x : X87State)
    (seed : Fin kDataWindow → BitVec 8) :
    before ++ (seedText seed).toList ≠ before' ++ (appendX87 "" "  " x).toList := by
  intro same
  obtain ⟨front, digit, small, row⟩ := seedText_ends seed
  obtain ⟨front', tag, slot⟩ := appendX87_ends "" x
  have letters : ∀ digit < 16, digit.digitChar.toUpper ∉ ['d', 'o', 'c', 'y'] := by decide
  rw [row, slot] at same
  simp only [← List.append_assoc] at same
  apply letters digit small
  rw [last_eq same, tagLetter]
  split <;> decide

/-- What is printed of a test case up to its x87 state. -/
def caseStart (tc : TestCase) : List Char :=
  "bytes: ".toList ++ tc.text.toList ++
    ("\ntouches_memory: " ++ (if tc.touchesMemory then "yes" else "no") ++ "\ninitial:\n").toList ++
    (gprText tc.initial.gpr).toList ++ "  rflags=".toList ++ padded 16 tc.initial.rflags.toNat ++
    "\n".toList ++ (xmmText tc.initial.xmmHi tc.initial.xmmLo).toList

/-- The parts of the text before the lanes' sections. -/
theorem toList_caseText (tc : TestCase) : (caseText tc).toList = caseStart tc ++
    (appendX87 "" "  " tc.initial.x87).toList ++
    (if tc.touchesMemory then (seedText tc.dataSeed).toList else []) ++ "\n".toList := by
  have flags : (snprintf 256 ("  rflags=" ++ hexPad 16 tc.initial.rflags.toNat ++ "\n")).toList =
      "  rflags=".toList ++ padded 16 tc.initial.rflags.toNat ++ "\n".toList := by
    rw [toList_snprintf] <;> simp [toList_hexPad]
  unfold caseText caseStart
  cases tc.touchesMemory <;>
    simp [flags, toList_appendX87]

/-- Equal texts are texts of the same test case, as far as it can be reproduced. -/
theorem sameRepro_of_caseText {tc tc' : TestCase} (text : tc.text = hexDump tc.bytes)
    (text' : tc'.text = hexDump tc'.bytes) (same : caseText tc = caseText tc') :
    SameRepro tc tc' := by
  rw [← String.toList_inj, toList_caseText, toList_caseText] at same
  have peeled : caseStart tc ++ (appendX87 "" "  " tc.initial.x87).toList =
        caseStart tc' ++ (appendX87 "" "  " tc'.initial.x87).toList ∧
      tc.touchesMemory = tc'.touchesMemory ∧
        (tc.touchesMemory = true → tc.dataSeed = tc'.dataSeed) := by
    have ended := List.append_cancel_right same
    cases left : tc.touchesMemory <;> cases right : tc'.touchesMemory <;>
      simp only [left, right, Bool.false_eq_true, ↓reduceIte, List.append_nil] at ended
    · exact ⟨ended, rfl, nofun⟩
    · exact absurd ended.symm (seedText_apart _ _)
    · exact absurd ended (seedText_apart _ _)
    · obtain ⟨ended, seed⟩ := seedText_readsBack ended
      exact ⟨ended, rfl, fun _ => seed⟩
  obtain ⟨same, touches, seed⟩ := peeled
  obtain ⟨same, x87⟩ := appendX87_readsBack same
  unfold caseStart at same
  obtain ⟨same, xmm⟩ := (xmmText_readsBack.comp TestCase.initial) same
  obtain ⟨same, rflags⟩ := (word64_readsBack.comp fun tc : TestCase => tc.initial.rflags).peel same
  obtain ⟨same, gpr⟩ := (gprText_readsBack.comp fun tc : TestCase => tc.initial.gpr).peel same
  obtain ⟨xmmHi, xmmLo⟩ := Prod.mk.inj xmm
  rw [touches] at same
  have bytes := List.append_cancel_left (List.append_cancel_right same)
  rw [String.toList_inj, text, text'] at bytes
  exact ⟨hexDump_injective bytes, touches, gpr, rflags, xmmLo, xmmHi, x87, seed⟩

/-- A generated test case is named by its bytes. -/
theorem finishCase_text (c : Ctx) (bytes : List (BitVec 8)) :
    (finishCase c bytes).Always fun tc => tc.text = hexDump tc.bytes := by
  simp only [finishCase, always_bind, always_pure]
  refine always_of_forall fun drawnGpr => always_of_forall fun drawnXmm => ?_
  refine always_of_forall fun x87 => always_of_forall fun fl => always_of_forall fun drawnSeed => ?_
  trivial

/-- The text of a test case is the dump of its bytes. -/
theorem next_text (encode : Instruction → Option (List (BitVec 8))) (caps : HostCaps)
    (discarded : Nat) : (next encode caps discarded).Always fun ended =>
      ended.1.testCase.text = hexDump ended.1.testCase.bytes := by
  refine (next_from family_built (fun c bytes => finishCase_text c bytes) discarded).mono ?_
  rintro ended (fell | ⟨bytes, -, -, -, text⟩)
  · rw [fell]
    decide
  · exact text

/-- **A report is a full repro.** Whatever is drawn for two test cases, if their reports agree
before the lane sections, the cases have the same bytes and start in the same state. -/
theorem report_full_repro (encode encode' : Instruction → Option (List (BitVec 8)))
    (caps caps' : HostCaps) (discarded discarded' : Nat) :
    (next encode caps discarded).Always fun ended =>
      (next encode' caps' discarded').Always fun ended' =>
        caseText ended.1.testCase = caseText ended'.1.testCase →
          SameRepro ended.1.testCase ended'.1.testCase := by
  refine (next_text encode caps discarded).mono fun ended text => ?_
  exact (next_text encode' caps' discarded').mono fun ended' text' =>
    sameRepro_of_caseText text text'

end SevenFuzzer
