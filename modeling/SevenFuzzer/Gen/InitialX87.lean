import SevenFuzzer.Common.X87
import SevenFuzzer.Gen.Logged
import SevenFuzzer.Gen.Recorded

/-! # The initial x87 state

The generator writes values relative to the stack top and tags by physical register, one
slot at a time. What comes out is a stack of some depth in which every value has its tag and
the rest is empty; no range is drawn from with its ends in the wrong order; and where the
depth is not drawn freely, the instruction finds what it reads
(`SevenFuzzer.initial_x87_well_formed`).
-/

namespace SevenFuzzer

open Draw InstructionFactory

/-! ## The depth that is drawn

`nextLogged` is `next` that also returns the depth, and whether it took the branch of nine
in ten for it.
-/

/-- What was drawn for the stack: how many slots, and whether at least as many as the instruction
needs. -/
structure X87Log where
  depth : Nat := 0
  deep : Bool := false

/-- `randomDepth`, with the branch it takes. -/
def randomDepthLogged (needs : Nat) : Draw X87Log := do
  if (← between 0 99) < 10 then
    return { depth := ← between 0 8 }
  else
    return { depth := needs + (← upTo (8 - needs)), deep := true }

/-- `randomX87State`, with the depth that was drawn. -/
def randomX87StateLogged (needs : Nat) : Draw (X87State × X87Log) := do
  let rounding ← between 0 3
  let top ← between 0 7
  let log ← randomDepthLogged needs
  let sw ← addStaleBits (BitVec.ofNat 16 top <<< 11)
  let x : X87State :=
    { controlWord := 0x037F#16 ||| (BitVec.ofNat 16 rounding <<< 10), statusWord := sw }
  let x ← (List.range log.depth).foldlM (plantSlot top) x
  return (x, log)

/-- `initialX87`, with the depth that was drawn. -/
def initialX87Logged (c : Ctx) : Draw (X87State × X87Log) :=
  if c.usesX87 then randomX87StateLogged c.x87Needs else return ({}, {})

/-- The test case `next` finishes, with the depth of its stack. -/
def finishCaseLogged (c : Ctx) (bytes : List (BitVec 8)) : Draw (TestCase × X87Log) := do
  let drawnGpr ← array randomInterestingU64 16
  let gpr := pinGpr c drawnGpr
  let drawnXmm ← array (do
    let lo ← randomInterestingU64
    let hi ← randomInterestingU64
    return (lo, hi)) 16
  let x87 ← initialX87Logged c
  let fl ← randomFlags
  let drawnSeed ← array (BitVec.ofNat 8 <$> between 0 255) kDataWindow
  let seed := plantAll c drawnSeed
  let tc : TestCase :=
    { text := hexDump bytes
      bytes := bytes
      initial :=
        { gpr := gpr
          rflags := fl
          xmmLo := fun i => (drawnXmm i).1
          xmmHi := fun i => (drawnXmm i).2
          x87 := x87.1 }
      touchesMemory := c.touchesMemory
      flagsMask := c.flagsMask
      dataSeed := seed
      gprCompareMask := compareMask c gpr seed }
  return (tc, x87.2)

section

variable (encode : Instruction → Option (List (BitVec 8))) (caps : HostCaps)

/-- One attempt of `next`, with the depth of its stack. -/
def attemptLogged : Draw (Option (Generated × X87Log)) := do
  let fn ← pick kFamilies kFamilies_nonempty
  let (built, c) ← (fn.gen caps).run {}
  match built with
  | none => return none
  | some instr =>
      match encode instr with
      | none | some [] => return none
      | some (byte :: bytes) =>
          let finished ← finishCaseLogged c (byte :: bytes)
          return some (⟨finished.1, instr, c⟩, finished.2)

/-- The attempts of `next`, with the depth of the stack of the one that is taken. -/
def nextLoopLogged : Nat → Nat → Draw ((Generated × Nat) × X87Log)
  | 0, discarded => return ((fallback, discarded), {})
  | attempts + 1, discarded => do
      match ← attemptLogged encode caps with
      | some (generated, log) => return ((generated, discarded), log)
      | none => nextLoopLogged attempts (discarded + 1)

/-- `next`, with the depth of the stack of the test case. -/
def nextLogged (discarded : Nat) : Draw ((Generated × Nat) × X87Log) :=
  nextLoopLogged encode caps 200 discarded

end

/-- Leaving out the log gives the source's program back; so below up to `next`. -/
theorem erase_randomDepthLogged (needs : Nat) :
    X87Log.depth <$> randomDepthLogged needs = randomDepth needs := by
  rw [randomDepthLogged, randomDepth, map_bind]
  refine bind_congr fun roll => ?_
  split <;> simp only [map_bind, map_pure, bind_pure]

theorem erase_initialX87Logged (c : Ctx) : Prod.fst <$> initialX87Logged c = initialX87 c := by
  unfold initialX87Logged initialX87
  split
  · simp only [randomX87StateLogged, randomX87State, ← erase_randomDepthLogged, map_bind, map_pure,
      bind_pure, bind_map_left]
  · rfl

theorem erase_finishCaseLogged (c : Ctx) (bytes : List (BitVec 8)) :
    Prod.fst <$> finishCaseLogged c bytes = finishCase c bytes := by
  simp only [finishCaseLogged, finishCase, ← erase_initialX87Logged, map_bind, map_pure,
    bind_map_left]

theorem erase_attemptLogged (encode : Instruction → Option (List (BitVec 8))) (caps : HostCaps) :
    Option.map Prod.fst <$> attemptLogged encode caps = attempt encode caps := by
  simp only [attemptLogged, attempt, map_bind]
  refine bind_congr fun fn => bind_congr fun ended => ?_
  obtain ⟨built, c⟩ := ended
  cases built with
  | none => rfl
  | some instr =>
      dsimp only
      rcases encode instr with _ | _ | ⟨byte, bytes⟩
      · rfl
      · rfl
      · simp only [← erase_finishCaseLogged, map_bind, map_pure, bind_map_left, Option.map_some]

/-- The logged `next` is an instance of the general loop over logged attempts. -/
theorem nextLogged_eq (encode : Instruction → Option (List (BitVec 8))) (caps : HostCaps)
    (discarded : Nat) :
    nextLogged encode caps discarded = nextOf (attemptLogged encode caps) {} discarded := by
  rw [nextLogged, nextOf]
  generalize 200 = attempts
  induction attempts generalizing discarded with
  | zero => rfl
  | succ attempts ih =>
      rw [nextLoopLogged, nextLoopOf]
      refine bind_congr fun result => ?_
      cases result with
      | none => exact ih (discarded + 1)
      | some generated => rfl

/-- The log is no part of the program. -/
theorem erase_nextLogged (encode : Instruction → Option (List (BitVec 8))) (caps : HostCaps)
    (discarded : Nat) :
    Prod.fst <$> nextLogged encode caps discarded = next encode caps discarded := by
  rw [nextLogged_eq]
  exact erase_nextOf ({} : X87Log) (erase_attemptLogged encode caps) discarded

/-- TOP, and the bits that say that an exception is pending. -/
def kKeptBits : BitVec 16 := 0xB880#16

/-- Stale bits leave those alone. -/
theorem addStaleBits_kept (sw : BitVec 16) :
    (addStaleBits sw).Always fun result => result &&& kKeptBits = sw &&& kKeptBits := by
  have stale : ∀ bit ∈ kStaleBits, bit &&& kKeptBits = 0#16 := by
    simp [kStaleBits, kKeptBits]
  rw [addStaleBits, always_bind]
  refine always_of_forall fun hit => ?_
  split
  · refine always_foldlM (fun bit listed result kept => ?_) rfl
    rw [always_bind]
    refine always_of_forall fun hit => ?_
    split
    · rw [always_pure, BitVec.and_or_distrib_right, kept, stale bit listed, BitVec.or_zero]
    · exact kept
  · rfl

/-- What TOP and the exception bits are if only those of TOP were written. -/
theorem status_of_kept {sw : BitVec 16} {top : Nat} (small : top ≤ 7)
    (kept : sw &&& kKeptBits = (BitVec.ofNat 16 top <<< 11) &&& kKeptBits) :
    ((sw >>> 11) &&& 0x7#16).toNat = top ∧ sw &&& 0x8080#16 = 0#16 := by
  have tops : ∀ top : Fin 8,
      (((((BitVec.ofNat 16 top.val <<< 11) &&& kKeptBits) >>> 11) &&& 0x7#16).toNat = top.val) ∧
      ((BitVec.ofNat 16 top.val <<< 11) &&& kKeptBits) &&& 0x8080#16 = 0#16 := by decide
  obtain ⟨ofTop, exceptions⟩ := tops ⟨top, Nat.lt_succ_of_le small⟩
  rw [← kept] at ofTop exceptions
  have inside : (kKeptBits >>> 11) &&& 0x7#16 = 0x7#16 := by decide
  have below : kKeptBits &&& 0x8080#16 = 0x8080#16 := by decide
  rw [BitVec.ushiftRight_and_distrib, BitVec.and_assoc, inside] at ofTop
  rw [BitVec.and_assoc, below] at exceptions
  exact ⟨ofTop, exceptions⟩

/-- So many values are on a stack with this top, each with its tag, and no others. -/
structure Stacked (top : Nat) (sw : BitVec 16) (count : Nat) (x : X87State) : Prop where
  status : x.statusWord = sw
  planted : ∀ i : Fin 8, i.val < count →
    tagAt x.tagWord ((top + i.val) % 8) = x87ClassifyTag (x.signexp i) (x.signif i)
  empty : ∀ i : Fin 8, count ≤ i.val → tagAt x.tagWord ((top + i.val) % 8) = 3#8

/-- Planting the next slot makes the stack one deeper. -/
theorem plantSlot_stacked {top count : Nat} {sw : BitVec 16} (room : count < 8) {x : X87State}
    (stacked : Stacked top sw count x) :
    (plantSlot top x count).Always (Stacked top sw (count + 1)) := by
  have modulo : (top + count) &&& 7 = (top + count) % 8 := Nat.and_two_pow_sub_one_eq_mod _ 3
  have slot : (top + count) % 8 < 8 := Nat.mod_lt _ (by decide)
  have turns (i : Fin 8) : (top + i.val) % 8 = (top + count) % 8 ↔ i = Fin.ofNat 8 count := by
    rw [Fin.ext_iff, Fin.val_ofNat]
    omega
  have retagged (v : X87Raw) (i : Fin 8) := tagAt_retag x.tagWord
    (x87ClassifyTag_narrow v.signexp v.signif) slot (Nat.mod_lt (top + i.val) (by decide))
  rw [plantSlot, always_bind]
  simp only [modulo]
  refine always_of_forall fun v => ⟨stacked.status, fun i below => ?_, fun i above => ?_⟩
  · refine (retagged v i).trans ?_
    by_cases here : i = Fin.ofNat 8 count
    · rw [if_pos ((turns i).mpr here)]
      simp only [here, Function.update_self]
    · have before : i.val < count := by
        rw [Fin.ext_iff, Fin.val_ofNat] at here
        omega
      rw [if_neg ((turns i).not.mpr here), stacked.planted i before]
      simp only [Function.update_of_ne here]
  · have elsewhere : i ≠ Fin.ofNat 8 count := by
      rw [ne_eq, Fin.ext_iff, Fin.val_ofNat]
      omega
    refine (retagged v i).trans ?_
    rw [if_neg ((turns i).not.mpr elsewhere), stacked.empty i (by omega)]

/-- Before any slot is planted the stack is empty. -/
theorem stacked_empty (top : Nat) {x : X87State} (empty : x.tagWord = 0xFFFF#16) :
    Stacked top x.statusWord 0 x := by
  have tags : ∀ phys : Fin 8, tagAt 0xFFFF#16 phys.val = 3#8 := by decide
  refine ⟨rfl, fun i below => absurd below (Nat.not_lt_zero _), fun i _ => ?_⟩
  rw [empty]
  exact tags ⟨(top + i.val) % 8, Nat.mod_lt _ (by decide)⟩

/-- **The loop**: after so many slots the stack is so deep. -/
theorem plantAll_stacked {top depth : Nat} (onStack : depth ≤ 8) {x : X87State}
    (empty : x.tagWord = 0xFFFF#16) :
    ((List.range depth).foldlM (plantSlot top) x).Always (Stacked top x.statusWord depth) :=
  always_foldlM_range
    (fun _ below _ stacked => plantSlot_stacked (Nat.lt_of_lt_of_le below onStack) stacked)
    (stacked_empty top empty)

/-- A stack of so many values, each with the tag of its contents, over empty registers, and no
exception pending. -/
structure X87State.WellFormed (x : X87State) (depth : Nat) : Prop where
  onStack : depth ≤ 8
  planted : ∀ i : Fin 8, i.val < depth → x87TagOfSt x i = x87ClassifyTag (x.signexp i) (x.signif i)
  empty : ∀ i : Fin 8, depth ≤ i.val → x87TagOfSt x i = 3#8
  clear : x.statusWord &&& 0x8080#16 = 0#16

/-- A planted stack is a well-formed state of its depth. -/
theorem wellFormed_of_stacked {x : X87State} {sw : BitVec 16} {top depth : Nat} (small : top ≤ 7)
    (onStack : depth ≤ 8) (stacked : Stacked top sw depth x)
    (kept : sw &&& kKeptBits = (BitVec.ofNat 16 top <<< 11) &&& kKeptBits) :
    x.WellFormed depth := by
  rw [← stacked.status] at kept
  obtain ⟨ofTop, clear⟩ := status_of_kept small kept
  have phys (i : Fin 8) : stPhys x i = (top + i.val) % 8 := by
    rw [stPhys, toNat_x87TopOf, ofTop]
  refine ⟨onStack, fun i below => ?_, fun i above => ?_, clear⟩
  · rw [x87TagOfSt_eq, phys]
    exact stacked.planted i below
  · rw [x87TagOfSt_eq, phys]
    exact stacked.empty i above

/-- The state of a test case without x87 is well formed and empty. -/
theorem wellFormed_default : ({} : X87State).WellFormed 0 :=
  wellFormed_of_stacked (Nat.zero_le 7) (Nat.zero_le 8) (stacked_empty 0 rfl) rfl

/-- What the log says of the state of an instruction that reads so many values. -/
structure Logged (needs : Nat) (x : X87State) (log : X87Log) : Prop where
  wellFormed : x.WellFormed log.depth
  deep : log.deep = true → needs ≤ log.depth

/-- It is logged as such. -/
theorem logged_default (needs : Nat) : Logged needs {} {} :=
  ⟨wellFormed_default, fun deep => (Bool.false_ne_true deep).elim⟩

/-- The depth is at most eight, and deep enough where the log says so. -/
theorem randomDepthLogged_bounds {needs : Nat} (onStack : needs ≤ 8) :
    (randomDepthLogged needs).Always fun log =>
      log.depth ≤ 8 ∧ (log.deep = true → needs ≤ log.depth) := by
  rw [randomDepthLogged, always_bind]
  refine always_of_forall fun roll => ?_
  split
  · simp only [always_bind, always_pure, always_between, Nat.zero_add]
    exact fun depth shallow => ⟨shallow, fun deep => (Bool.false_ne_true deep).elim⟩
  · simp only [always_bind, always_pure, always_upTo]
    exact fun more fits => ⟨by omega, fun _ => Nat.le_add_right ..⟩

/-- The initial state is as deep as was drawn. -/
theorem initialX87Logged_logged {c : Ctx} (onStack : c.x87Needs ≤ 8) :
    (initialX87Logged c).Always fun drawn => Logged c.x87Needs drawn.1 drawn.2 := by
  unfold initialX87Logged
  split
  · rw [randomX87StateLogged, always_bind]
    refine always_of_forall fun rounding => ?_
    rw [always_bind, always_between]
    intro top small
    rw [Nat.zero_add, always_bind]
    refine (randomDepthLogged_bounds onStack).mono fun log bounds => ?_
    rw [always_bind]
    refine (addStaleBits_kept _).mono fun sw kept => ?_
    rw [always_bind]
    refine (plantAll_stacked bounds.1 rfl).mono fun x stacked => ?_
    exact ⟨wellFormed_of_stacked small bounds.1 stacked kept, bounds.2⟩
  · exact logged_default _

/-- So is that of the finished test case. -/
theorem finishCaseLogged_logged {c : Ctx} (onStack : c.x87Needs ≤ 8) (bytes : List (BitVec 8)) :
    (finishCaseLogged c bytes).Always fun finished =>
      Logged c.x87Needs finished.1.initial.x87 finished.2 := by
  simp only [finishCaseLogged, always_bind, always_pure]
  refine always_of_forall fun drawnGpr => always_of_forall fun drawnXmm => ?_
  refine (initialX87Logged_logged onStack).mono fun x87 logged => ?_
  exact always_of_forall fun fl => always_of_forall fun drawnSeed => logged

/-- So is that of every generated test case. -/
theorem nextLogged_logged (encode : Instruction → Option (List (BitVec 8))) (caps : HostCaps)
    (discarded : Nat) :
    (nextLogged encode caps discarded).Always fun ended =>
      Logged ended.1.1.ctx.x87Needs ended.1.1.testCase.initial.x87 ended.2 := by
  have attempted : (attemptLogged encode caps).Always fun attempted =>
      ∀ generated log, attempted = some (generated, log) →
        Logged generated.ctx.x87Needs generated.testCase.initial.x87 log := by
    simp only [attemptLogged, always_bind, always_pick]
    intro f _
    refine (family_recorded f).mono fun ended recorded => ?_
    obtain ⟨built, c⟩ := ended
    cases built with
    | none =>
        intro _ _ same
        cases same
    | some instr =>
        dsimp only
        rcases encode instr with _ | _ | ⟨byte, bytes⟩
        · intro _ _ same
          cases same
        · intro _ _ same
          cases same
        · simp only [always_bind]
          refine (finishCaseLogged_logged (recorded instr rfl).needs _).mono
            fun finished logged => ?_
          intro _ _ same
          cases same
          exact logged
  rw [nextLogged_eq]
  exact nextOf_from (fun g log => Logged g.ctx.x87Needs g.testCase.initial.x87 log)
    (logged_default _) attempted discarded

/-- No draw has its bounds the wrong way round, given at most eight slots are asked for. -/
theorem randomX87State_ordered {needs : Nat} (onStack : needs ≤ 8) :
    (randomX87State needs).Ordered := by
  have stale (sw : BitVec 16) : (addStaleBits sw).Ordered := by
    refine Ordered.seq (by simp) fun hit => ?_
    split
    · exact ordered_foldlM (fun _ _ => Ordered.seq (by simp) fun _ => ordered_pure _) _ _
    · trivial
  have depth : (randomDepth needs).Ordered := by
    refine Ordered.seq (by simp) fun roll => ?_
    split
    · simp
    · exact Ordered.seq (ordered_upTo.mpr (by omega)) fun _ => trivial
  refine Ordered.seq (by simp) fun rounding => Ordered.seq (by simp) fun top => ?_
  refine depth.seq fun depth => (stale _).seq fun sw => ?_
  exact ordered_foldlM (fun _ _ => ordered_randomX87Value.seq fun _ => ordered_pure _) _ _

/-- Finishing a test case draws from proper ranges only. -/
theorem finishCase_ordered {c : Ctx} (onStack : c.x87Needs ≤ 8) (bytes : List (BitVec 8)) :
    (finishCase c bytes).Ordered := by
  have x87 : (initialX87 c).Ordered := by
    unfold initialX87
    split
    · exact randomX87State_ordered onStack
    · trivial
  have flags : randomFlags.Ordered :=
    (ordered_foldlM (fun _ _ => Ordered.seq (by simp) fun _ => ordered_pure _) _ _).seq
      fun _ => trivial
  have word := ordered_randomInterestingU64
  refine (ordered_array word 16).seq fun drawnGpr => ?_
  refine (ordered_array (word.seq fun lo => word.seq fun hi => ordered_pure _) 16).seq
    fun drawnXmm => ?_
  refine x87.seq fun x87 => flags.seq fun fl => ?_
  exact (ordered_array (by simp) kDataWindow).seq fun drawnSeed => trivial

/-- No range that `next` draws from has its ends in the wrong order. -/
theorem next_ordered (encode : Instruction → Option (List (BitVec 8))) (caps : HostCaps)
    (discarded : Nat) : (next encode caps discarded).Ordered := by
  have attempted : (attempt encode caps).Ordered := by
    refine ordered_pick.seq fun f => ?_
    refine (family_ordered f).bind (family_recorded f) fun ended recorded => ?_
    obtain ⟨built, c⟩ := ended
    cases built with
    | none => trivial
    | some instr =>
        dsimp only
        rcases encode instr with _ | _ | ⟨byte, bytes⟩
        · trivial
        · trivial
        · exact (finishCase_ordered (recorded instr rfl).needs _).seq fun tc => trivial
  suffices loop : ∀ attempts discarded, (nextLoop encode caps attempts discarded).Ordered from
    loop 200 discarded
  intro attempts
  induction attempts with
  | zero => exact fun _ => trivial
  | succ attempts ih =>
      intro discarded
      rw [nextLoop]
      refine attempted.seq fun result => ?_
      cases result with
      | none => exact ih (discarded + 1)
      | some generated => trivial

/-- Whatever is drawn, the x87 state of a test case is well formed, with as many values as were
planted, which are as many as the family reads where the depth is drawn for it; every range is
in order. The log is of the same draws as the test case. -/
theorem initial_x87_well_formed (encode : Instruction → Option (List (BitVec 8))) (caps : HostCaps)
    (discarded : Nat) :
    (next encode caps discarded).Ordered ∧
      Prod.fst <$> nextLogged encode caps discarded = next encode caps discarded ∧
      (nextLogged encode caps discarded).Always fun ended =>
        ended.1.1.testCase.initial.x87.WellFormed ended.2.depth ∧
          (ended.2.deep = true → ∀ i : Fin 8, i.val < ended.1.1.ctx.x87Needs →
            x87TagOfSt ended.1.1.testCase.initial.x87 i ≠ 3#8) := by
  refine ⟨next_ordered encode caps discarded, erase_nextLogged encode caps discarded, ?_⟩
  refine (nextLogged_logged encode caps discarded).mono fun ended logged => ?_
  refine ⟨logged.wellFormed, fun deep i read => ?_⟩
  rw [logged.wellFormed.planted i (Nat.lt_of_lt_of_le read (logged.deep deep))]
  exact x87ClassifyTag_ne_empty _ _

end SevenFuzzer
