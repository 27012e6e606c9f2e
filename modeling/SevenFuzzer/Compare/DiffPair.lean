import SevenFuzzer.Common.Types
import SevenFuzzer.Library.Words
import Mathlib.Data.Fin.VecNotation

/-! # The comparator

`diffPair` compares two lane outcomes and appends one `Divergence` when a line of
differences results. The lines are grouped by the item they report. What the
comparator looks at is `ComparedDiffers`, and the XMM registers are not part of
it (`SevenFuzzer.diffPair_complete_iff`): two outcomes whose only difference is an
XMM register are accepted as agreeing, against the generator's comment that all
lanes are compared in XMM state in full.
-/

namespace SevenFuzzer

/-- Two lanes that disagree: their names, and one line for each field in which they do. -/
structure Divergence where
  pairing : String
  lines : List String
  deriving DecidableEq

/-- The register names of the printed lines. -/
def kNames : Fin 16 → String :=
  !["rax", "rcx", "rdx", "rbx", "rsp", "rbp", "rsi", "rdi",
    "r8", "r9", "r10", "r11", "r12", "r13", "r14", "r15"]

/-- `%0widthX vs %0widthX`. -/
def versus {n : Nat} (width : Nat) (a b : BitVec n) : String :=
  hexPad width a.toNat ++ " vs " ++ hexPad width b.toNat

/-- The line for two different stops. -/
def stopLines (a b : LaneOutcome) : List String :=
  if a.stop ≠ b.stop then ["stop: " ++ stopName a.stop ++ " vs " ++ stopName b.stop] else []

/-- One line for each compared general register that differs. -/
def gprLines (gprCompareMask : BitVec 32) (a b : RegState) : List String :=
  (List.finRange 16).filterMap fun i =>
    if (gprCompareMask >>> i.val) &&& 1#32 = 0#32 then none
    else if a.gpr i ≠ b.gpr i then some (kNames i ++ ": " ++ versus 16 (a.gpr i) (b.gpr i))
    else none

/-- The line for two different instruction pointers. -/
def ripLines (a b : RegState) : List String :=
  if a.rip ≠ b.rip then ["rip: " ++ versus 16 a.rip b.rip] else []

/-- The line for flags that differ under the mask. -/
def flagsLines (flagsMask : BitVec 64) (a b : RegState) : List String :=
  let fa := a.rflags &&& flagsMask
  let fb := b.rflags &&& flagsMask
  if fa ≠ fb then ["flags: " ++ versus 3 fa fb] else []

/-- The line for the data window, which names no address. -/
def dataLines (a b : RegState) : List String :=
  if a.dataAfter ≠ b.dataAfter then ["data window differs"] else []

/-- The words of the x87 state, then the slots neither side tags empty. -/
def x87Lines (xa xb : X87State) : List String :=
  let sa := xa.statusWord &&& kX87StatusMask
  let sb := xb.statusWord &&& kX87StatusMask
  (if xa.controlWord ≠ xb.controlWord then ["x87 cw: " ++ versus 4 xa.controlWord xb.controlWord]
    else []) ++
  (if sa ≠ sb then
    ["x87 sw: " ++ versus 4 sa sb ++ " (differing bits " ++ hexPad 4 (sa ^^^ sb).toNat ++ ")"]
    else []) ++
  (if xa.tagWord ≠ xb.tagWord then ["x87 tw: " ++ versus 4 xa.tagWord xb.tagWord] else []) ++
  (List.finRange 8).filterMap fun i =>
    -- The contents of an empty slot are undefined, so it is skipped on either side's tag.
    if x87TagOfSt xa i = 3#8 ∨ x87TagOfSt xb i = 3#8 then none
    else if xa.signexp i ≠ xb.signexp i ∨ xa.signif i ≠ xb.signif i then
      some ("st" ++ toString i.val ++ ": " ++
        hexPad 4 (xa.signexp i).toNat ++ ":" ++ hexPad 16 (xa.signif i).toNat ++ " vs " ++
        hexPad 4 (xb.signexp i).toNat ++ ":" ++ hexPad 16 (xb.signif i).toNat)
    else none

/-- The difference lines of two outcomes whose set-up succeeded. -/
def diffLines (a b : LaneOutcome) (flagsMask : BitVec 64) (gprCompareMask : BitVec 32) :
    List String :=
  stopLines a b ++
    if a.stop = .ok ∧ b.stop = .ok then
      gprLines gprCompareMask a.after b.after ++ ripLines a.after b.after ++
      flagsLines flagsMask a.after b.after ++ dataLines a.after b.after ++
      if a.capturesX87 = true ∧ b.capturesX87 = true then x87Lines a.after.x87 b.after.x87 else []
    else []

/-- `diff_pair`: appends a divergence when any compared field differs, and nothing when either lane
failed to run. -/
def diffPair (label : String) (a b : LaneOutcome) (flagsMask : BitVec 64)
    (gprCompareMask : BitVec 32) (out : List Divergence) : List Divergence :=
  if ¬ a.setupOk ∨ ¬ b.setupOk then out
  else
    let lines := diffLines a b flagsMask gprCompareMask
    if lines ≠ [] then out ++ [⟨label, lines⟩] else out

/-- Some general register the mask selects differs. -/
def GprDiffers (gprCompareMask : BitVec 32) (a b : RegState) : Prop :=
  ∃ i : Fin 16, gprCompareMask.getLsbD i.val = true ∧ a.gpr i ≠ b.gpr i

/-- Some half of some XMM register differs. -/
def XmmDiffers (a b : RegState) : Prop :=
  ∃ i : Fin 16, a.xmmLo i ≠ b.xmmLo i ∨ a.xmmHi i ≠ b.xmmHi i

/-- The x87 words or the 80 bits of a slot that neither side tags empty differ. -/
def X87Differs (xa xb : X87State) : Prop :=
  xa.controlWord ≠ xb.controlWord ∨ xa.statusWord ≠ xb.statusWord ∨ xa.tagWord ≠ xb.tagWord ∨
    ∃ i : Fin 8, x87TagOfSt xa i ≠ 3#8 ∧ x87TagOfSt xb i ≠ 3#8 ∧
      (xa.signexp i ≠ xb.signexp i ∨ xa.signif i ≠ xb.signif i)

/-- Some item the comparator looks at differs between two states. -/
def ComparedDiffers (flagsMask : BitVec 64) (gprCompareMask : BitVec 32) (a b : LaneOutcome) :
    Prop :=
  GprDiffers gprCompareMask a.after b.after ∨ a.after.rip ≠ b.after.rip ∨
    a.after.rflags &&& flagsMask ≠ b.after.rflags &&& flagsMask ∨
    a.after.dataAfter ≠ b.after.dataAfter ∨
    (a.capturesX87 = true ∧ b.capturesX87 = true ∧ X87Differs a.after.x87 b.after.x87)

/-- The outcomes are compared and no difference is found, or one of them is not
a result of the processor. -/
def Agree (flagsMask : BitVec 64) (gprCompareMask : BitVec 32) (a b : LaneOutcome) : Prop :=
  diffPair "" a b flagsMask gprCompareMask [] = []

instance (flagsMask : BitVec 64) (gprCompareMask : BitVec 32) (a b : LaneOutcome) :
    Decidable (Agree flagsMask gprCompareMask a b) :=
  inferInstanceAs (Decidable (_ = _))

/-- Each part of the comparison is silent exactly where its field agrees; so for each of the parts
below. -/
theorem stopLines_eq_nil_iff (a b : LaneOutcome) : stopLines a b = [] ↔ a.stop = b.stop := by
  unfold stopLines
  split <;> simp_all

/-- The general registers that are compared agree. -/
theorem gprLines_eq_nil_iff (mask : BitVec 32) (a b : RegState) :
    gprLines mask a b = [] ↔ ¬ GprDiffers mask a b := by
  simp only [gprLines, GprDiffers, List.filterMap_eq_nil_iff, List.mem_finRange, true_implies,
    Words.and_one_eq_zero_iff (show 0 < 32 by decide), not_exists, not_and]
  refine forall_congr' fun i => ?_
  cases mask.getLsbD i.val <;> by_cases same : a.gpr i = b.gpr i <;> simp [same]

theorem ripLines_eq_nil_iff (a b : RegState) : ripLines a b = [] ↔ a.rip = b.rip := by
  unfold ripLines
  split <;> simp_all

/-- The flags agree under the mask. -/
theorem flagsLines_eq_nil_iff (mask : BitVec 64) (a b : RegState) :
    flagsLines mask a b = [] ↔ a.rflags &&& mask = b.rflags &&& mask := by
  simp only [flagsLines]
  split <;> simp_all

theorem dataLines_eq_nil_iff (a b : RegState) :
    dataLines a b = [] ↔ a.dataAfter = b.dataAfter := by
  unfold dataLines
  split <;> simp_all

/-- The x87 states agree in what is compared of them. -/
theorem x87Lines_eq_nil_iff (xa xb : X87State) :
    x87Lines xa xb = [] ↔ ¬ X87Differs xa xb := by
  have full (word : BitVec 16) : word &&& kX87StatusMask = word :=
    BitVec.and_allOnes (x := word)
  have line (p : Prop) [Decidable p] (text : String) : (if p then [text] else []) = [] ↔ ¬ p := by
    split <;> simp_all
  simp only [x87Lines, X87Differs, full, List.append_eq_nil_iff, line, not_or, not_not,
    List.filterMap_eq_nil_iff, List.mem_finRange, true_implies, not_exists, not_and, and_assoc]
  refine and_congr_right fun _ => and_congr_right fun _ => and_congr_right fun _ =>
    forall_congr' fun i => ?_
  by_cases left : x87TagOfSt xa i = 3#8 <;> by_cases right : x87TagOfSt xb i = 3#8 <;>
    by_cases same : xa.signexp i = xb.signexp i ∧ xa.signif i = xb.signif i <;> simp_all

/-- The comparator finds no line exactly when the stops agree and, if both are
ok, no compared item differs. -/
theorem diffLines_eq_nil_iff (a b : LaneOutcome) (flagsMask : BitVec 64) (mask : BitVec 32) :
    diffLines a b flagsMask mask = [] ↔
      a.stop = b.stop ∧ (a.stop = .ok → ¬ ComparedDiffers flagsMask mask a b) := by
  unfold diffLines ComparedDiffers
  rw [List.append_eq_nil_iff, stopLines_eq_nil_iff]
  refine and_congr_right fun same => ?_
  by_cases retired : a.stop = .ok
  · have retired' : b.stop = .ok := same ▸ retired
    simp only [retired, retired', and_self, ↓reduceIte, List.append_eq_nil_iff, true_implies,
      gprLines_eq_nil_iff, ripLines_eq_nil_iff, flagsLines_eq_nil_iff, dataLines_eq_nil_iff,
      not_or, ne_eq, not_not, and_assoc]
    refine and_congr_right fun _ => and_congr_right fun _ => and_congr_right fun _ =>
      and_congr_right fun _ => ?_
    by_cases captured : a.capturesX87 = true ∧ b.capturesX87 = true
    · simp only [captured, and_self, ↓reduceIte, x87Lines_eq_nil_iff, true_and]
    · simp only [captured, ↓reduceIte, true_iff]
      rintro ⟨left, right, _⟩
      exact captured ⟨left, right⟩
  · simp only [retired, false_and, ↓reduceIte, false_implies]

/-- A comparison appends one divergence at most. -/
theorem diffPair_eq_self_or (label : String) (a b : LaneOutcome) (flagsMask : BitVec 64)
    (mask : BitVec 32) (out : List Divergence) :
    diffPair label a b flagsMask mask out = out ∨
      diffPair label a b flagsMask mask out =
        out ++ [⟨label, diffLines a b flagsMask mask⟩] := by
  simp only [diffPair]
  split
  · exact Or.inl rfl
  · split
    · exact Or.inr rfl
    · exact Or.inl rfl

/-- Where both lanes ran, it appends one exactly if there is a line for it. -/
theorem diffPair_eq_of_setupOk (label : String) (a b : LaneOutcome) (flagsMask : BitVec 64)
    (mask : BitVec 32) (out : List Divergence) (left : a.setupOk = true)
    (right : b.setupOk = true) :
    diffPair label a b flagsMask mask out =
      if diffLines a b flagsMask mask ≠ [] then out ++ [⟨label, diffLines a b flagsMask mask⟩]
      else out := by
  simp only [diffPair, left, right, not_true_eq_false, or_self, ↓reduceIte]

/-- **What makes a divergence.** Of two results of the processor, `diffPair`
reports those whose stops differ and those that both retired and differ in an
item it compares. -/
theorem diffPair_appends_iff (label : String) (a b : LaneOutcome) (flagsMask : BitVec 64)
    (mask : BitVec 32) (out : List Divergence) (left : a.setupOk = true)
    (right : b.setupOk = true) :
    (∃ d, diffPair label a b flagsMask mask out = out ++ [d]) ↔
      a.stop ≠ b.stop ∨
        (a.stop = .ok ∧ b.stop = .ok ∧ ComparedDiffers flagsMask mask a b) := by
  have lines : (∃ d, diffPair label a b flagsMask mask out = out ++ [d]) ↔
      diffLines a b flagsMask mask ≠ [] := by
    rw [diffPair_eq_of_setupOk label a b flagsMask mask out left right]
    by_cases empty : diffLines a b flagsMask mask = []
    · simp [empty]
    · simp [empty]
  rw [lines, Ne, diffLines_eq_nil_iff]
  by_cases stops : a.stop = b.stop
  · by_cases retired : a.stop = .ok
    · have retired' : b.stop = .ok := stops ▸ retired
      simp [retired, retired']
    · simp [stops, stops ▸ retired]
  · simp [stops]

/-- Two results of the processor agree when they stop alike and, if they
retired, no compared item differs. -/
theorem agree_iff (flagsMask : BitVec 64) (mask : BitVec 32) (a b : LaneOutcome)
    (left : a.setupOk = true) (right : b.setupOk = true) :
    Agree flagsMask mask a b ↔
      a.stop = b.stop ∧ (a.stop = .ok → ¬ ComparedDiffers flagsMask mask a b) := by
  rw [← diffLines_eq_nil_iff, Agree, diffPair_eq_of_setupOk "" a b flagsMask mask [] left right]
  by_cases empty : diffLines a b flagsMask mask = []
  · simp [empty]
  · simp [empty]

/-- An item of the state that the lanes promise to compare differs: the items the
comparator looks at, and either half of any XMM register. -/
def StateDiffers (flagsMask : BitVec 64) (gprCompareMask : BitVec 32) (a b : LaneOutcome) : Prop :=
  XmmDiffers a.after b.after ∨ ComparedDiffers flagsMask gprCompareMask a b

/-- `diffPair` appends a divergence for exactly the outcomes whose stops differ,
or that both retired and differ in their state. -/
def DiffPairComplete (flagsMask : BitVec 64) (gprCompareMask : BitVec 32) (a b : LaneOutcome) :
    Prop :=
  ∀ (label : String) (out : List Divergence),
    (∃ d, diffPair label a b flagsMask gprCompareMask out = out ++ [d]) ↔
      a.stop ≠ b.stop ∨
        (a.stop = .ok ∧ b.stop = .ok ∧ StateDiffers flagsMask gprCompareMask a b)

/-- **The comparator is complete except for the XMM registers.** It misses a
difference exactly when both outcomes retired, an XMM register differs, and
every item it does look at agrees. -/
theorem diffPair_complete_iff (flagsMask : BitVec 64) (gprCompareMask : BitVec 32)
    (a b : LaneOutcome) (left : a.setupOk = true) (right : b.setupOk = true) :
    DiffPairComplete flagsMask gprCompareMask a b ↔
      (a.stop = .ok → b.stop = .ok → XmmDiffers a.after b.after →
        ComparedDiffers flagsMask gprCompareMask a b) := by
  simp only [DiffPairComplete, StateDiffers,
    diffPair_appends_iff _ a b flagsMask gprCompareMask _ left right]
  constructor
  · intro complete first second xmm
    have reported := (complete "" []).mpr (Or.inr ⟨first, second, Or.inl xmm⟩)
    rcases reported with stops | ⟨_, _, differs⟩
    · exact (stops (first.trans second.symm)).elim
    · exact differs
  · intro seen _ _
    refine or_congr_right (and_congr_right fun first => and_congr_right fun second => ?_)
    exact ⟨Or.inr, fun differs => differs.elim (seen first second) id⟩

/-- Two outcomes that differ in RAX. -/
theorem diffPair_complete_rax :
    DiffPairComplete kCompareFlagsMask 0xFFFF#32 {}
      { after := { gpr := fun i => if i = 0 then 1#64 else 0#64 } } :=
  (diffPair_complete_iff kCompareFlagsMask 0xFFFF#32 {}
    { after := { gpr := fun i => if i = 0 then 1#64 else 0#64 } } rfl rfl).mpr
    fun _ _ _ => Or.inl ⟨0, by decide, by decide⟩

/-- Two retired outcomes that differ only in the low half of XMM0 are accepted
as agreeing. -/
theorem diffPair_xmm0_missed :
    ¬ DiffPairComplete kCompareFlagsMask 0xFFFF#32 {}
      { after := { xmmLo := fun i => if i = 0 then 1#64 else 0#64 } } := by
  intro complete
  have reported := (complete "seven-vs-hw" []).mpr
    (Or.inr ⟨rfl, rfl, Or.inl ⟨0, Or.inl (by decide)⟩⟩)
  rw [diffPair_appends_iff _ _ _ _ _ _ rfl rfl] at reported
  rcases reported with stops | ⟨_, _, ⟨i, _, differs⟩ | differs | differs | differs | ⟨live, _⟩⟩
  · exact stops rfl
  · exact differs rfl
  · exact differs rfl
  · exact differs rfl
  · exact differs rfl
  · exact Bool.false_ne_true live

end SevenFuzzer
