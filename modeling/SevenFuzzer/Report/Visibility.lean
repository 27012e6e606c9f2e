import SevenFuzzer.Report.Finding

/-! # Which divergences are visible

The comparator and the report writer go through the same record, and the writer prints every
item the comparator looks at but the data window. So the outcomes of a divergence are printed
alike exactly when they differ in nothing else (`SevenFuzzer.divergence_visible_iff`).
-/

namespace SevenFuzzer

open Readback

/-- What is left of the detail on its line: as a C string, ended by the newline, and cut where
the buffer ends. -/
def shownDetail (o : LaneOutcome) : List Char :=
  ((cString o.detail).toList ++ "\n".toList).take (240 - (stopName o.stop).toList.length)

/-- A stop is told from its first two letters. -/
theorem stopName_front {stop stop' : Stop}
    (same : (stopName stop).toList.take 2 = (stopName stop').toList.take 2) : stop = stop' := by
  revert same
  cases stop <;> cases stop' <;> decide

/-- The names of the stops are short. -/
theorem length_stopName (stop : Stop) :
    2 ≤ (stopName stop).toList.length ∧ (stopName stop).toList.length ≤ 6 := by
  cases stop <;> decide

/-- What stands behind the stop on its line. -/
def stopTail (o : LaneOutcome) : List Char :=
  if o.detail.isEmpty then "\n".toList else " detail=".toList ++ shownDetail o

/-- The line of a stop, character by character. -/
theorem toList_stopLine (o : LaneOutcome) :
    (stopLine o).toList = "  stop=".toList ++ (stopName o.stop).toList ++ stopTail o := by
  obtain ⟨-, short⟩ := length_stopName o.stop
  have label : "  stop=".toList.length = 7 := by decide
  have detail : " detail=".toList.length = 8 := by decide
  have newline : "\n".toList.length = 1 := by decide
  unfold stopLine snprintf stopTail
  rw [String.toList_ofList]
  split
  · rename_i empty
    have nothing : (cString o.detail).toList = [] := by
      rw [String.isEmpty_iff.mp empty]
      decide
    simp only [String.toList_append, nothing, String.toList_empty, List.append_nil]
    apply List.take_of_length_le
    simp only [List.length_append, label, newline]
    omega
  · simp only [String.toList_append, List.append_assoc]
    rw [← List.append_assoc, List.take_append, List.take_of_length_le, List.take_append,
      List.take_of_length_le, List.append_assoc, shownDetail]
    · simp only [List.length_append, label, detail]
      congr 4
      omega
    · simp only [List.length_append, label, detail]
      omega
    · simp only [List.length_append, label]
      omega

/-- Two such lines are the same exactly if stop and detail are printed the same. -/
theorem stopLine_eq_iff (a b : LaneOutcome) :
    stopLine a = stopLine b ↔ a.stop = b.stop ∧ stopTail a = stopTail b := by
  rw [← String.toList_inj, toList_stopLine, toList_stopLine]
  constructor
  · intro same
    have stops : a.stop = b.stop := by
      have tails := List.append_cancel_left (List.append_assoc .. ▸ List.append_assoc .. ▸ same)
      have fronts := congrArg (List.take 2) tails
      rw [List.take_append_of_le_length (length_stopName _).1,
        List.take_append_of_le_length (length_stopName _).1] at fronts
      exact stopName_front fronts
    rw [stops] at same
    exact ⟨stops, List.append_cancel_left same⟩
  · rintro ⟨stops, tails⟩
    rw [stops, tails]

/-- The details are printed the same exactly if what is shown of them is. -/
theorem stopTail_eq_iff {a b : LaneOutcome} (stops : a.stop = b.stop) :
    stopTail a = stopTail b ↔
      a.detail.isEmpty = b.detail.isEmpty ∧ shownDetail a = shownDetail b := by
  have apart (shown : List Char) : "\n".toList ≠ " detail=".toList ++ shown := by
    intro same
    have fronts := congrArg (List.take 1) same
    rw [List.take_append_of_le_length (by decide)] at fronts
    revert fronts
    decide
  have nothing {o : LaneOutcome} (empty : o.detail.isEmpty = true) :
      cString o.detail = cString "" := by
    rw [String.isEmpty_iff.mp empty]
  unfold stopTail
  cases left : a.detail.isEmpty with
  | false =>
      cases right : b.detail.isEmpty with
      | false => simp only [Bool.false_eq_true, ↓reduceIte, true_and, List.append_cancel_left_eq]
      | true => exact iff_of_false (fun same => apart _ same.symm) fun same => nomatch same.1
  | true =>
      cases right : b.detail.isEmpty with
      | false => exact iff_of_false (apart _) fun same => nomatch same.1
      | true =>
          refine iff_of_true rfl ⟨rfl, ?_⟩
          rw [shownDetail, shownDetail, nothing left, nothing right, stops]

/-- What is printed of the x87 state. -/
def x87Part (o : LaneOutcome) : String :=
  if o.capturesX87 then appendX87 "" "  " o.after.x87 else "  x87 (not captured by this lane)\n"

/-- The x87 state is read back where it is printed. -/
theorem x87Part_readsBack : ReadsBack (fun o => (x87Part o).toList) fun o : LaneOutcome =>
    if o.capturesX87 then some o.after.x87 else none := by
  have apart {before before' : List Char} (x : X87State) :
      before ++ (appendX87 "" "  " x).toList ≠
        before' ++ "  x87 (not captured by this lane)\n".toList := by
    intro same
    obtain ⟨front, tag, printed⟩ := appendX87_ends "" x
    have line : "  x87 (not captured by this lane)\n".toList =
        "  x87 (not captured by this lane".toList ++ [')'] ++ "\n".toList := by decide
    rw [printed, line] at same
    simp only [← List.append_assoc] at same
    have letter := last_eq same
    unfold tagLetter at letter
    split at letter <;> cases letter
  intro before before' a b same
  dsimp only [x87Part] at same
  cases left : a.capturesX87 <;> cases right : b.capturesX87 <;>
    simp only [left, right, Bool.false_eq_true, ↓reduceIte] at same ⊢
  · exact ⟨List.append_cancel_right same, trivial⟩
  · exact absurd same.symm (apart _)
  · exact absurd same (apart _)
  · obtain ⟨fronts, x87⟩ := appendX87_readsBack same
    exact ⟨fronts, congrArg some x87⟩

/-- The parts of a lane's section. -/
theorem toList_outcomeBody {o : LaneOutcome} (setup : o.setupOk = true) :
    (outcomeBody o).toList = (stopLine o).toList ++ (gprText o.after.gpr).toList ++
      (ripLine o.after).toList ++ (xmmText o.after.xmmHi o.after.xmmLo).toList ++
      (x87Part o).toList := by
  unfold outcomeBody x87Part
  rw [if_neg (not_not.mpr setup)]
  dsimp only
  split
  · simp only [toList_appendX87, String.toList_append, String.toList_empty, List.nil_append,
      List.append_assoc]
  · simp only [String.toList_append]

/-- The outcomes differ in the data window, and in nothing that is printed: all that is not are
the parts of the details behind a zero byte and behind the end of the buffer, and the x87 state
of a lane that does not capture it. -/
structure DiffersInDataOnly (a b : LaneOutcome) : Prop where
  stop : a.stop = b.stop
  detail : a.detail.isEmpty = b.detail.isEmpty ∧ shownDetail a = shownDetail b
  gpr : a.after.gpr = b.after.gpr
  rip : a.after.rip = b.after.rip
  rflags : a.after.rflags = b.after.rflags
  xmmHi : a.after.xmmHi = b.after.xmmHi
  xmmLo : a.after.xmmLo = b.after.xmmLo
  captures : a.capturesX87 = b.capturesX87
  x87 : a.capturesX87 = true → a.after.x87 = b.after.x87
  data : a.after.dataAfter ≠ b.after.dataAfter

/-- Where a divergence was appended, both lanes ran. -/
theorem setupOk_of_appended {label : String} {a b : LaneOutcome} {flagsMask : BitVec 64}
    {mask : BitVec 32} {out : List Divergence}
    (appended : diffPair label a b flagsMask mask out ≠ out) :
    a.setupOk = true ∧ b.setupOk = true := by
  by_contra failed
  apply appended
  rw [diffPair, if_pos (not_and_or.mp failed)]

/-- What is printed alike and still a divergence differs in the data window. -/
theorem data_of_appended {label : String} {a b : LaneOutcome} {flagsMask : BitVec 64}
    {mask : BitVec 32} {out : List Divergence}
    (appended : diffPair label a b flagsMask mask out ≠ out) (stop : a.stop = b.stop)
    (gpr : a.after.gpr = b.after.gpr) (rip : a.after.rip = b.after.rip)
    (rflags : a.after.rflags = b.after.rflags)
    (x87 : a.capturesX87 = true → a.after.x87 = b.after.x87) :
    a.after.dataAfter ≠ b.after.dataAfter := by
  intro data
  obtain ⟨left, right⟩ := setupOk_of_appended appended
  apply appended
  rw [diffPair_eq_of_setupOk label a b flagsMask mask out left right, if_neg]
  rw [not_not, diffLines_eq_nil_iff]
  refine ⟨stop, fun _ => ?_⟩
  rintro (⟨i, -, differs⟩ | differs | differs | differs | ⟨captured, -, differs⟩)
  · exact differs (congrFun gpr i)
  · exact differs rip
  · exact differs (congrArg (· &&& flagsMask) rflags)
  · exact differs data
  · rw [x87 captured] at differs
    rcases differs with differs | differs | differs | ⟨i, -, -, differs | differs⟩
    all_goals exact differs rfl

/-- **What is visible of a divergence.** Of two outcomes that the comparator reports, the bodies
that are printed differ exactly if the outcomes differ in something besides the data window. -/
theorem divergence_visible_iff {label : String} {a b : LaneOutcome} {flagsMask : BitVec 64}
    {mask : BitVec 32} {out : List Divergence}
    (appended : diffPair label a b flagsMask mask out ≠ out) :
    outcomeBody a ≠ outcomeBody b ↔ ¬ DiffersInDataOnly a b := by
  obtain ⟨left, right⟩ := setupOk_of_appended appended
  refine not_congr ?_
  rw [← String.toList_inj, toList_outcomeBody left, toList_outcomeBody right]
  constructor
  · intro same
    obtain ⟨same, x87⟩ := x87Part_readsBack same
    obtain ⟨same, xmm⟩ := (xmmText_readsBack.comp LaneOutcome.after) same
    obtain ⟨same, ended⟩ := (ripLine_readsBack.comp LaneOutcome.after) same
    obtain ⟨same, gpr⟩ := (gprText_readsBack.comp fun o : LaneOutcome => o.after.gpr) same
    obtain ⟨stop, tails⟩ := (stopLine_eq_iff a b).mp (String.toList_inj.mp same)
    obtain ⟨xmmHi, xmmLo⟩ := Prod.mk.inj xmm
    obtain ⟨rip, rflags⟩ := Prod.mk.inj ended
    have captured : a.capturesX87 = b.capturesX87 ∧
        (a.capturesX87 = true → a.after.x87 = b.after.x87) := by
      cases left : a.capturesX87 <;> cases right : b.capturesX87 <;>
        simp only [left, right, Bool.false_eq_true, ↓reduceIte, Option.some.injEq,
          reduceCtorEq] at x87
      · exact ⟨rfl, nofun⟩
      · exact ⟨rfl, fun _ => x87⟩
    exact ⟨stop, (stopTail_eq_iff stop).mp tails, gpr, rip, rflags, xmmHi, xmmLo, captured.1,
      captured.2, data_of_appended appended stop gpr rip rflags captured.2⟩
  · intro alike
    have lines := (stopLine_eq_iff a b).mpr
      ⟨alike.stop, (stopTail_eq_iff alike.stop).mpr alike.detail⟩
    have x87 : x87Part a = x87Part b := by
      unfold x87Part
      rw [← alike.captures]
      split
      · rename_i captured
        rw [alike.x87 captured]
      · rfl
    have ended : ripLine a.after = ripLine b.after := by
      rw [ripLine, ripLine, alike.rip, alike.rflags]
    rw [lines, alike.gpr, ended, alike.xmmHi, alike.xmmLo, x87]

/-- Two outcomes that differ in RIP are printed differently. -/
theorem divergence_visible_rip :
    outcomeBody {} ≠ outcomeBody { after := { rip := 1#64 } } ↔
      ¬ DiffersInDataOnly {} { after := { rip := 1#64 } } :=
  @divergence_visible_iff "seven-vs-hw" {} { after := { rip := 1#64 } } kCompareFlagsMask
    0xFFFF#32 [] (by decide +kernel)

/-- An outcome that has written to the window. -/
def wroteWindow : LaneOutcome where
  after := { dataAfter := fun i => if i.val = 0x80 then 1#8 else 0#8 }

/-- A divergence in the window is reported, and both outcomes are printed alike. -/
theorem divergence_hidden :
    diffPair "seven-vs-hw" {} wroteWindow kCompareFlagsMask 0xFFFF#32 [] =
        [⟨"seven-vs-hw", ["data window differs"]⟩] ∧
      outcomeBody {} = outcomeBody wroteWindow := by
  constructor
  · decide +kernel
  · rfl

end SevenFuzzer
