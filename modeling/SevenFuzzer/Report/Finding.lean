import SevenFuzzer.Common.X87
import SevenFuzzer.Compare.DiffPair
import SevenFuzzer.Gen.Generator
import SevenFuzzer.Library.Readback

/-! # The report of a finding

The text that `write_finding` writes: the test case (`caseText`), the outcome of each lane
(`appendOutcome`) and the divergences. Every line is printed into a buffer of fixed size,
which only the detail of an outcome can overflow. Registers and words are printed at full
width, so that what is printed reads back from the end of the text.
-/

namespace SevenFuzzer

open Readback

/-- `snprintf` into a buffer of a size, of which the last byte is the terminator. -/
def snprintf (size : Nat) (text : String) : String := String.ofList (text.toList.take (size - 1))

/-- What `%s` prints of a text: up to the first zero byte. -/
def cString (text : String) : String :=
  String.ofList (text.toList.takeWhile fun c => c ≠ Char.ofNat 0)

/-- `%-2d` -/
def leftPad2 (i : Nat) : String :=
  toString i ++ String.ofList (List.replicate (2 - (toString i).length) ' ')

/-- The printed word for a tag. -/
def kTagName (tag : BitVec 8) : String :=
  match tag.toNat with
  | 0 => "valid"
  | 1 => "zero"
  | 2 => "spec"
  | _ => "empty"

/-- Words of the x87 state, then each slot with its tag. -/
def appendX87 (out indent : String) (x : X87State) : String :=
  out ++
    snprintf 192 (indent ++ "x87 cw=" ++ hexPad 4 x.controlWord.toNat ++ " sw=" ++
      hexPad 4 x.statusWord.toNat ++ " (top=" ++ toString (x87TopOf x).toNat ++ ") tw=" ++
      hexPad 4 x.tagWord.toNat ++ "\n") ++
    String.join ((List.finRange 8).map fun i =>
      snprintf 192 (indent ++ "  st" ++ toString i.val ++ "=" ++ hexPad 4 (x.signexp i).toNat ++
        ":" ++ hexPad 16 (x.signif i).toNat ++ " " ++ kTagName (x87TagOfSt x i) ++ "\n"))

/-- The general registers, in two rows. -/
def gprText (gpr : Fin 16 → BitVec 64) : String :=
  "  " ++
    String.join ((List.finRange 16).map fun i =>
      snprintf 256 (kNames i ++ "=" ++ hexPad 16 (gpr i).toNat ++ " ") ++
        (if i = 7 then "\n  " else "")) ++ "\n"

/-- The vector registers, high half first. -/
def xmmText (xmmHi xmmLo : Fin 16 → BitVec 64) : String :=
  String.join ((List.finRange 16).map fun i =>
    snprintf 256 ("  xmm" ++ leftPad2 i.val ++ "=" ++ hexPad 16 (xmmHi i).toNat ++
      hexPad 16 (xmmLo i).toNat ++ "\n"))

/-- The line of a stop and its detail. -/
def stopLine (o : LaneOutcome) : String :=
  snprintf 256 ("  stop=" ++ stopName o.stop ++ (if o.detail.isEmpty then "" else " detail=") ++
    cString o.detail ++ "\n")

/-- The line of the instruction pointer and the flags. -/
def ripLine (after : RegState) : String :=
  snprintf 256 ("  rip=" ++ hexPad 16 after.rip.toNat ++ " rflags=" ++
    hexPad 16 after.rflags.toNat ++ " (compare-masked=" ++
    hexPad 3 (after.rflags &&& kCompareFlagsMask).toNat ++ ")\n")

/-- What is printed of an outcome behind the line with its label. -/
def outcomeBody (o : LaneOutcome) : String :=
  if ¬ o.setupOk then "  harness error: " ++ o.setupError ++ "\n"
  else
    let out := stopLine o ++ gprText o.after.gpr ++ ripLine o.after ++
      xmmText o.after.xmmHi o.after.xmmLo
    if o.capturesX87 then appendX87 out "  " o.after.x87
    else out ++ "  x87 (not captured by this lane)\n"

/-- `append_outcome`: the section of a lane. -/
def appendOutcome (out label : String) (o : LaneOutcome) : String :=
  out ++ ("[" ++ label ++ "]\n") ++ outcomeBody o

/-- The scratch bytes, 32 to a row. -/
def seedText (seed : Fin kDataWindow → BitVec 8) : String :=
  "  data_seed:\n" ++
    String.join ((List.range ((kDataWindow + 31) / 32)).map fun row =>
      snprintf 256 ("    " ++ hexPad 3 (32 * row) ++ ":") ++
        String.join ((List.range (min 32 (kDataWindow - 32 * row))).map fun col =>
          snprintf 256 (" " ++ hexPad 2 (seedAt seed (32 * row + col)).toNat)) ++ "\n")

/-- What stands before the lane sections. -/
def caseText (tc : TestCase) : String :=
  let out := "bytes: " ++ tc.text ++ "\n" ++
    "touches_memory: " ++ (if tc.touchesMemory then "yes" else "no") ++ "\n" ++
    "initial:\n" ++ gprText tc.initial.gpr ++
    snprintf 256 ("  rflags=" ++ hexPad 16 tc.initial.rflags.toNat ++ "\n") ++
    xmmText tc.initial.xmmHi tc.initial.xmmLo
  let out := appendX87 out "  " tc.initial.x87
  let out := if tc.touchesMemory then out ++ seedText tc.dataSeed else out
  out ++ "\n"

/-- The lane sections and the divergences. -/
def lanesText (sevenLabel : String) (seven unicorn hw : LaneOutcome) (hwAvailable : Bool)
    (divergences : List Divergence) : String :=
  let out := appendOutcome (appendOutcome "" sevenLabel seven) "unicorn" unicorn
  let out := if hwAvailable then appendOutcome out "hardware" hw
    else out ++ "[hardware]\n  (not compared this round — harness unavailable)\n"
  out ++ "\ndivergences:\n" ++
    String.join (divergences.map fun d => "  " ++ d.pairing ++ ":\n" ++
      String.join (d.lines.map fun line => "    " ++ line ++ "\n"))

/-- The text `write_finding` writes. -/
def findingText (tc : TestCase) (sevenLabel : String) (seven unicorn hw : LaneOutcome)
    (hwAvailable : Bool) (divergences : List Divergence) : String :=
  caseText tc ++ lanesText sevenLabel seven unicorn hw hwAvailable divergences

/-- A text that fits is printed whole. -/
theorem toList_snprintf {size : Nat} {text : String} (fits : text.toList.length < size) :
    (snprintf size text).toList = text.toList := by
  rw [snprintf, String.toList_ofList, List.take_of_length_le (by omega)]

/-- The padded digits of a value. -/
theorem toList_hexPad (width value : Nat) : (hexPad width value).toList = padded width value :=
  String.toList_ofList

@[simp] theorem length_word64 (word : BitVec 64) : (padded 16 word.toNat).length = 16 :=
  length_word (by decide) (by decide) word

@[simp] theorem length_word16 (word : BitVec 16) : (padded 4 word.toNat).length = 4 :=
  length_word (by decide) (by decide) word

@[simp] theorem length_word8 (word : BitVec 8) : (padded 2 word.toNat).length = 2 :=
  length_word (by decide) (by decide) word

/-- A quadword is read back from its sixteen digits. -/
theorem word64_readsBack :
    ReadsBack (fun word : BitVec 64 => padded 16 word.toNat) fun word => word :=
  hexadecimal_readsBack (by decide) (by decide)

/-- A word is read back from its four. -/
theorem word16_readsBack :
    ReadsBack (fun word : BitVec 16 => padded 4 word.toNat) fun word => word :=
  hexadecimal_readsBack (by decide) (by decide)

/-- A byte is read back from its two. -/
theorem word8_readsBack :
    ReadsBack (fun word : BitVec 8 => padded 2 word.toNat) fun word => word :=
  hexadecimal_readsBack (by decide) (by decide)

/-- A text of constant length tells where it begins. -/
theorem constant_readsBack {Value : Type} {print : Value → List Char} {width : Nat}
    (length : ∀ value, (print value).length = width) : ReadsBack print fun _ => () :=
  readsBack_of_length length fun _ _ _ => rfl

/-- Register names are short. -/
theorem length_kNames (i : Fin 16) : (kNames i).toList.length ≤ 3 := by
  revert i
  decide

/-- The printed registers, character by character. -/
theorem toList_gprText (gpr : Fin 16 → BitVec 64) : (gprText gpr).toList =
    "  ".toList ++ ((List.finRange 16).flatMap fun i => (kNames i ++ "=").toList ++
      padded 16 (gpr i).toNat ++ (if i = 7 then " \n  " else " ").toList) ++ "\n".toList := by
  have field (i : Fin 16) :
      (snprintf 256 (kNames i ++ "=" ++ hexPad 16 (gpr i).toNat ++ " ")).toList =
        (kNames i ++ "=").toList ++ padded 16 (gpr i).toNat ++ " ".toList := by
    have name := length_kNames i
    rw [toList_snprintf] <;> simp [toList_hexPad]
    omega
  simp only [gprText, String.toList_append, String.toList_join, List.flatMap_map, field]
  congr 2
  refine List.flatMap_congr fun i _ => ?_
  split <;> simp

/-- The general registers. -/
theorem gprText_readsBack : ReadsBack (fun gpr => (gprText gpr).toList) fun gpr => gpr := by
  intro before before' gpr gpr' same
  simp only [toList_gprText, ← List.append_assoc] at same
  have field (i : Fin 16) : ReadsBack (fun gpr : Fin 16 → BitVec 64 => (kNames i ++ "=").toList ++
      padded 16 (gpr i).toNat ++ (if i = 7 then " \n  " else " ").toList) fun gpr => gpr i := by
    intro before before' gpr gpr' same
    simp only [← List.append_assoc] at same
    obtain ⟨same, value⟩ :=
      (word64_readsBack.comp fun gpr : Fin 16 → BitVec 64 => gpr i).peel same
    exact ⟨List.append_cancel_right same, value⟩
  obtain ⟨same, values⟩ := ReadsBack.peel_flatMap field (List.append_cancel_right same)
  exact ⟨List.append_cancel_right same, funext fun i => values i (List.mem_finRange i)⟩

/-- RIP and RFLAGS; the masked flags add nothing. -/
theorem ripLine_readsBack : ReadsBack (fun after => (ripLine after).toList) fun after : RegState =>
    (after.rip, after.rflags) := by
  have masked (after : RegState) :
      (padded 3 (after.rflags &&& kCompareFlagsMask).toNat).length = 3 := by
    apply length_padded (by decide)
    rw [BitVec.toNat_and]
    exact Nat.lt_of_le_of_lt Nat.and_le_right (by decide)
  have line (after : RegState) : (ripLine after).toList =
      "  rip=".toList ++ padded 16 after.rip.toNat ++ " rflags=".toList ++
        padded 16 after.rflags.toNat ++ " (compare-masked=".toList ++
        padded 3 (after.rflags &&& kCompareFlagsMask).toNat ++ ")\n".toList := by
    rw [ripLine, toList_snprintf] <;> simp [toList_hexPad, masked, -BitVec.toNat_and]
  intro before before' after after' same
  simp only [line, ← List.append_assoc] at same
  obtain ⟨same, -⟩ := (constant_readsBack masked).peel same
  obtain ⟨same, rflags⟩ := (word64_readsBack.comp RegState.rflags).peel same
  obtain ⟨same, rip⟩ := (word64_readsBack.comp RegState.rip).peel same
  exact ⟨List.append_cancel_right same, Prod.ext rip rflags⟩

/-- The XMM registers. -/
theorem xmmText_readsBack :
    ReadsBack (fun after : RegState => (xmmText after.xmmHi after.xmmLo).toList)
    fun after => (after.xmmHi, after.xmmLo) := by
  have index (i : Fin 16) : (leftPad2 i.val).toList.length = 2 := by
    revert i
    decide
  have line (after : RegState) (i : Fin 16) : (snprintf 256 ("  xmm" ++ leftPad2 i.val ++ "=" ++
      hexPad 16 (after.xmmHi i).toNat ++ hexPad 16 (after.xmmLo i).toNat ++ "\n")).toList =
      ("  xmm" ++ leftPad2 i.val ++ "=").toList ++ padded 16 (after.xmmHi i).toNat ++
        padded 16 (after.xmmLo i).toNat ++ "\n".toList := by
    rw [toList_snprintf] <;> simp [toList_hexPad, index i]
  have field (i : Fin 16) : ReadsBack (fun after : RegState =>
      ("  xmm" ++ leftPad2 i.val ++ "=").toList ++ padded 16 (after.xmmHi i).toNat ++
        padded 16 (after.xmmLo i).toNat ++ "\n".toList)
      fun after => (after.xmmHi i, after.xmmLo i) := by
    intro before before' after after' same
    simp only [← List.append_assoc] at same
    obtain ⟨same, lo⟩ := (word64_readsBack.comp fun after : RegState => after.xmmLo i).peel same
    obtain ⟨same, hi⟩ := (word64_readsBack.comp fun after : RegState => after.xmmHi i) same
    exact ⟨List.append_cancel_right same, Prod.ext hi lo⟩
  intro before before' after after' same
  simp only [xmmText, String.toList_join, List.flatMap_map, line] at same
  obtain ⟨same, values⟩ := ReadsBack.peel_flatMap field same
  refine ⟨same, Prod.ext (funext fun i => ?_) (funext fun i => ?_)⟩
  · exact congrArg Prod.fst (values i (List.mem_finRange i))
  · exact congrArg Prod.snd (values i (List.mem_finRange i))

/-- The last letters of the names of the tags. -/
def tagLetter (tag : BitVec 8) : Char :=
  match tag.toNat with
  | 0 => 'd'
  | 1 => 'o'
  | 2 => 'c'
  | _ => 'y'

/-- The tag's word can be told from its last letter. -/
theorem kTagName_ends (tag : BitVec 8) :
    ∃ front, (kTagName tag).toList = front ++ [tagLetter tag] := by
  unfold kTagName tagLetter
  generalize tag.toNat = number
  match number with
  | 0 => exact ⟨"vali".toList, by decide⟩
  | 1 => exact ⟨"zer".toList, by decide⟩
  | 2 => exact ⟨"spe".toList, by decide⟩
  | _ + 3 =>
      refine ⟨"empt".toList, ?_⟩
      change "empty".toList = "empt".toList ++ ['y']
      decide

/-- So tags with one letter have one word. -/
theorem kTagName_of_letter {tag tag' : BitVec 8} (same : tagLetter tag = tagLetter tag') :
    kTagName tag = kTagName tag' := by
  unfold tagLetter at same
  unfold kTagName
  generalize tag.toNat = number at same ⊢
  generalize tag'.toNat = number' at same ⊢
  rcases number with _ | _ | _ | number <;> rcases number' with _ | _ | _ | number' <;>
    first | rfl | cases same

/-- And the letter is read back from the word. -/
theorem kTagName_readsBack : ReadsBack (fun tag => (kTagName tag).toList) tagLetter :=
  readsBack_of_last id Function.injective_id kTagName_ends fun _ _ same =>
    congrArg String.toList (kTagName_of_letter same)

theorem length_digit {n : Nat} (small : n < 8) : (Nat.toDigits 10 n).length = 1 := by
  rw [Nat.toDigits_of_lt_base (by omega), List.length_singleton]

/-- The fields are all there is of an x87 state. -/
theorem X87State.eq_of_fields {x x' : X87State} (signif : x.signif = x'.signif)
    (signexp : x.signexp = x'.signexp) (controlWord : x.controlWord = x'.controlWord)
    (statusWord : x.statusWord = x'.statusWord) (tagWord : x.tagWord = x'.tagWord) : x = x' := by
  cases x
  cases x'
  cases signif
  cases signexp
  cases controlWord
  cases statusWord
  cases tagWord
  rfl

/-- The words, with TOP. -/
def wordsLine (x : X87State) : List Char :=
  "  x87 cw=".toList ++ padded 4 x.controlWord.toNat ++ " sw=".toList ++
    padded 4 x.statusWord.toNat ++ " (top=".toList ++ Nat.toDigits 10 (x87TopOf x).toNat ++
    ") tw=".toList ++ padded 4 x.tagWord.toNat ++ "\n".toList

/-- The three words are read back from their line. -/
theorem wordsLine_readsBack :
    ReadsBack wordsLine fun x => (x.controlWord, x.statusWord, x.tagWord) := by
  have top (x : X87State) : (Nat.toDigits 10 (x87TopOf x).toNat).length = 1 :=
    length_digit (x87TopOf_lt x)
  intro before before' x x' same
  unfold wordsLine at same
  simp only [← List.append_assoc] at same
  obtain ⟨same, tagWord⟩ := (word16_readsBack.comp X87State.tagWord).peel same
  obtain ⟨same, -⟩ := (constant_readsBack top).peel same
  obtain ⟨same, statusWord⟩ := (word16_readsBack.comp X87State.statusWord).peel same
  obtain ⟨same, controlWord⟩ := (word16_readsBack.comp X87State.controlWord).peel same
  exact ⟨List.append_cancel_right same, Prod.ext controlWord (Prod.ext statusWord tagWord)⟩

/-- A slot, with its tag. -/
def slotLine (x : X87State) (i : Fin 8) : List Char :=
  ("    st" ++ toString i.val ++ "=").toList ++ padded 4 (x.signexp i).toNat ++ ":".toList ++
    padded 16 (x.signif i).toNat ++ " ".toList ++ (kTagName (x87TagOfSt x i)).toList ++ "\n".toList

/-- A slot is read back from its line. -/
theorem slotLine_readsBack (i : Fin 8) :
    ReadsBack (fun x => slotLine x i) fun x => (x.signexp i, x.signif i) := by
  intro before before' x x' same
  unfold slotLine at same
  simp only [← List.append_assoc] at same
  obtain ⟨same, -⟩ := (kTagName_readsBack.comp fun x => x87TagOfSt x i).peel same
  obtain ⟨same, signif⟩ := (word64_readsBack.comp fun x : X87State => x.signif i).peel same
  obtain ⟨same, signexp⟩ := (word16_readsBack.comp fun x : X87State => x.signexp i).peel same
  exact ⟨List.append_cancel_right same, Prod.ext signexp signif⟩

/-- No line of words is cut short. -/
theorem toList_words (x : X87State) :
    (snprintf 192 ("  " ++ "x87 cw=" ++ hexPad 4 x.controlWord.toNat ++ " sw=" ++
      hexPad 4 x.statusWord.toNat ++ " (top=" ++ toString (x87TopOf x).toNat ++ ") tw=" ++
      hexPad 4 x.tagWord.toNat ++ "\n")).toList = wordsLine x := by
  have top := length_digit (x87TopOf_lt x)
  unfold wordsLine
  rw [toList_snprintf]
  · simp [toList_hexPad]
  · simp [toList_hexPad, top]

/-- Nor is the line of a slot. -/
theorem toList_slot (x : X87State) (i : Fin 8) :
    (snprintf 192 ("  " ++ "  st" ++ toString i.val ++ "=" ++ hexPad 4 (x.signexp i).toNat ++ ":" ++
      hexPad 16 (x.signif i).toNat ++ " " ++ kTagName (x87TagOfSt x i) ++ "\n")).toList =
      slotLine x i := by
  have index := length_digit i.isLt
  have name : (kTagName (x87TagOfSt x i)).toList.length ≤ 5 := by
    unfold kTagName
    split <;> decide
  unfold slotLine
  rw [toList_snprintf]
  · simp [toList_hexPad]
  · simp [toList_hexPad, index]
    omega

/-- The printed x87 state is its nine lines. -/
theorem toList_appendX87 (out : String) (x : X87State) : (appendX87 out "  " x).toList =
    out.toList ++ wordsLine x ++ (List.finRange 8).flatMap (slotLine x) := by
  rw [appendX87, String.toList_append, String.toList_append, toList_words, String.toList_join,
    List.flatMap_map]
  exact congrArg _ (List.flatMap_congr fun i _ => toList_slot x i)

/-- The x87 state. -/
theorem appendX87_readsBack : ReadsBack (fun x => (appendX87 "" "  " x).toList) fun x => x := by
  intro before before' x x' same
  simp only [toList_appendX87, ← List.append_assoc] at same
  obtain ⟨same, slots⟩ := ReadsBack.peel_flatMap slotLine_readsBack same
  obtain ⟨same, words⟩ := wordsLine_readsBack same
  refine ⟨List.append_cancel_right same, ?_⟩
  obtain ⟨controlWord, words⟩ := Prod.mk.inj words
  obtain ⟨statusWord, tagWord⟩ := Prod.mk.inj words
  apply X87State.eq_of_fields _ _ controlWord statusWord tagWord
  · exact funext fun i => congrArg Prod.snd (slots i (List.mem_finRange i))
  · exact funext fun i => congrArg Prod.fst (slots i (List.mem_finRange i))

/-- Behind the last tag there is only the end of the line. -/
theorem appendX87_ends (out : String) (x : X87State) : ∃ front tag,
    (appendX87 out "  " x).toList = front ++ [tagLetter tag] ++ "\n".toList := by
  obtain ⟨front, last⟩ := kTagName_ends (x87TagOfSt x (Fin.last 7))
  rw [toList_appendX87, List.finRange_succ_last, List.flatMap_append, List.flatMap_singleton]
  unfold slotLine
  rw [last]
  simp only [← List.append_assoc]
  exact ⟨_, _, rfl⟩

/-- The printed window, row by row. -/
theorem toList_seedText (seed : Fin kDataWindow → BitVec 8) : (seedText seed).toList =
    "  data_seed:\n".toList ++ (List.range ((kDataWindow + 31) / 32)).flatMap fun row =>
      (snprintf 256 ("    " ++ hexPad 3 (32 * row) ++ ":")).toList ++
        ((List.range (min 32 (kDataWindow - 32 * row))).flatMap fun col =>
          " ".toList ++ padded 2 (seedAt seed (32 * row + col)).toNat) ++ "\n".toList := by
  have byte (position : Nat) :
      (snprintf 256 (" " ++ hexPad 2 (seedAt seed position).toNat)).toList =
      " ".toList ++ padded 2 (seedAt seed position).toNat := by
    rw [toList_snprintf] <;> simp [toList_hexPad]
  simp only [seedText, String.toList_append, String.toList_join, List.flatMap_map, byte]

/-- The scratch bytes. -/
theorem seedText_readsBack : ReadsBack (fun seed => (seedText seed).toList) fun seed => seed := by
  have cell (position : Nat) : ReadsBack (fun seed : Fin kDataWindow → BitVec 8 =>
      " ".toList ++ padded 2 (seedAt seed position).toNat) fun seed => seedAt seed position := by
    intro before before' seed seed' same
    simp only [← List.append_assoc] at same
    obtain ⟨same, value⟩ :=
      (word8_readsBack.comp fun seed : Fin kDataWindow → BitVec 8 => seedAt seed position) same
    exact ⟨List.append_cancel_right same, value⟩
  have line (row : Nat) : ReadsBack (fun seed : Fin kDataWindow → BitVec 8 =>
      (snprintf 256 ("    " ++ hexPad 3 (32 * row) ++ ":")).toList ++
        ((List.range (min 32 (kDataWindow - 32 * row))).flatMap fun col =>
          " ".toList ++ padded 2 (seedAt seed (32 * row + col)).toNat) ++ "\n".toList)
      fun seed => (List.range (min 32 (kDataWindow - 32 * row))).map fun col =>
        seedAt seed (32 * row + col) := by
    intro before before' seed seed' same
    simp only [← List.append_assoc] at same
    obtain ⟨same, values⟩ :=
      ReadsBack.peel_flatMap (fun col => cell (32 * row + col)) (List.append_cancel_right same)
    exact ⟨List.append_cancel_right same, List.map_congr_left values⟩
  intro before before' seed seed' same
  simp only [toList_seedText] at same
  rw [← List.append_assoc, ← List.append_assoc] at same
  obtain ⟨same, rows⟩ := ReadsBack.peel_flatMap line same
  refine ⟨List.append_cancel_right same, funext fun position => ?_⟩
  have inside : position.val < 256 := position.isLt
  have row := rows (position.val / 32) (List.mem_range.mpr (by unfold kDataWindow; omega))
  have cells := List.map_inj_left.mp row (position.val % 32)
    (List.mem_range.mpr (by unfold kDataWindow; omega))
  rw [Nat.div_add_mod] at cells
  simpa only [seedAt, dif_pos position.isLt] using cells

/-- Behind the last byte there is only the end of the row. -/
theorem seedText_ends (seed : Fin kDataWindow → BitVec 8) : ∃ front, ∃ digit < 16,
    (seedText seed).toList = front ++ [digit.digitChar.toUpper] ++ "\n".toList := by
  obtain ⟨front, digit, small, last⟩ := padded_ends 2 (seedAt seed (32 * 7 + 31)).toNat
  have rows : List.range ((kDataWindow + 31) / 32) = List.range 7 ++ [7] := by decide
  have cols : List.range (min 32 (kDataWindow - 32 * 7)) = List.range 31 ++ [31] := by decide
  rw [toList_seedText, rows, List.flatMap_append, List.flatMap_singleton, cols, List.flatMap_append,
    List.flatMap_singleton, last]
  simp only [← List.append_assoc]
  exact ⟨_, digit, small, rfl⟩

end SevenFuzzer
