import SevenFuzzer.Common.X87
import SevenFuzzer.Compare.DiffPair
import SevenFuzzer.Hardware.HistoryIndependence
import SevenFuzzer.Lanes.JitRefinement

/-! # The register adapters

The emulator lanes rotate the x87 registers into physical order and back, the hardware
lane keeps them relative to the stack top and reduces a tag to a bit that it later expands
from the contents of the register. Through the emulator's state every register state comes
back as it was; through a thread context its tag word does exactly if it is canonical, and
then the two lanes agree on what an instruction leaves alone (`x87_adapters_agree`).
-/

namespace SevenFuzzer

open Command Transition

/-- The bits of a byte of a quadword. -/
theorem getLsbD_byteOf (value : BitVec 64) (i bit : Nat) :
    (byteOf value i).getLsbD bit = (decide (bit < 8) && value.getLsbD (8 * i + bit)) := by
  rw [byteOf, BitVec.getLsbD_setWidth, BitVec.getLsbD_ushiftRight]

/-- A quadword is the join of its bytes. -/
theorem join_byteOf (value : BitVec 64) : Words.join 64 8 (byteOf value) = value := by
  apply BitVec.eq_of_getLsbD_eq
  intro bit inside
  rw [Words.getLsbD_join (by decide), getLsbD_byteOf, Nat.div_add_mod]
  simp [inside, Nat.mod_lt]

/-- The bytes that `unpackXmm` takes out of a vector register. -/
theorem byte_packXmm {width : Nat} (wide : 128 ≤ width) (lo hi : BitVec 64) {i : Nat}
    (inside : i < 16) :
    ((packXmm width lo hi >>> (i * 8)) &&& 0xFF).setWidth 8 = pairByte lo hi i := by
  apply BitVec.eq_of_getLsbD_eq
  intro bit low
  have mask : (0xFF : BitVec width).getLsbD bit = true := by
    rw [show (0xFF : BitVec width) = BitVec.ofNat width (2 ^ 8 - 1) from rfl,
      BitVec.getLsbD_ofNat, Nat.testBit_two_pow_sub_one]
    simp [low, show bit < width by omega]
  rw [BitVec.getLsbD_setWidth, BitVec.getLsbD_and, BitVec.getLsbD_ushiftRight, mask, packXmm,
    Words.getLsbD_join (by omega)]
  simp [low, show (i * 8 + bit) / 8 = i by omega, show (i * 8 + bit) % 8 = bit by omega,
    show i * 8 + bit < 128 by omega]

/-- A vector register survives being packed and unpacked. -/
theorem unpackXmm_packXmm {width : Nat} (wide : 128 ≤ width) (lo hi : BitVec 64) :
    unpackXmm (packXmm width lo hi) = (lo, hi) := by
  have half {bytes : Nat → BitVec 8} {value : BitVec 64}
      (same : ∀ i < 8, bytes i = byteOf value i) : Words.join 64 8 bytes = value := by
    rw [← join_byteOf value]
    exact Words.join_congr same
  simp only [unpackXmm, Prod.mk.injEq]
  refine ⟨half fun i inside => ?_, half fun i inside => ?_⟩
  · rw [byte_packXmm wide lo hi (by omega), pairByte, if_pos inside]
  · rw [byte_packXmm wide lo hi (by omega), pairByte, if_neg (by omega), Nat.add_sub_cancel]

/-- The accessors of the emulator's x87 words round-trip, the stack top is bits 13 to 11 of
the status word, and the words lie apart from each other and from the registers. -/
structure X87Laws {width : Nat} {Rest Memory : Type} (core : SevenCore width Rest Memory) :
    Prop where
  controlWord (state : CpuState width Rest) (word : BitVec 16) :
    core.getX87ControlWord (core.setX87ControlWord state word) = word
  statusWord (state : CpuState width Rest) (word : BitVec 16) :
    core.getX87StatusWord (core.setX87StatusWord state word) = word
  controlWord_kept (state : CpuState width Rest) (word : BitVec 16) :
    core.getX87ControlWord (core.setX87StatusWord state word) = core.getX87ControlWord state
  top (state : CpuState width Rest) :
    core.getX87Top state = ((core.getX87StatusWord state >>> 11) &&& 0x7#16).toNat
  words_apart (state : CpuState width Rest) (stack : Fin 8 → X87Register)
    (tags : Fin 8 → BitVec 8) :
    let placed := { state with x87Stack := stack, x87Tags := tags }
    core.getX87ControlWord placed = core.getX87ControlWord state ∧
      core.getX87StatusWord placed = core.getX87StatusWord state

/-- Each slot has a register of its own. -/
theorem physOf_injective (top : Nat) : Function.Injective (physOf top) := by
  intro i j same
  have places : (top + i.val) % 8 = (top + j.val) % 8 := congrArg Fin.val same
  omega

variable {width : Nat} {Rest Memory : Type} {core : SevenCore width Rest Memory}

/-- The tags of a word, put back into one. -/
theorem foldl_tagAt (tagWord : BitVec 16) :
    (List.finRange 8).foldl (fun word phys =>
      word ||| ((tagAt tagWord phys.val &&& 0x3#8).setWidth 16 <<< (2 * phys.val))) 0 =
        tagWord := by
  have filled : (List.finRange 8).foldl (fun word phys =>
      word ||| ((tagAt tagWord phys.val &&& 0x3#8).setWidth 16 <<< (2 * phys.val))) 0 =
        Words.fill 2 8 fun i => (tagAt tagWord i).setWidth 16 := by
    simp only [Words.fill, ← List.map_coe_finRange_eq_range, List.foldl_map, Nat.mul_comm,
      tagAt_and_three]
  rw [filled]
  exact tagWord_ext fun phys inside => tagAt_fill (tagAt_narrow tagWord) inside

/-- **Seven** hands back the x87 state it was given. -/
theorem readX87_applyX87 (laws : X87Laws core) (state : CpuState width Rest) (x : X87State) :
    readX87 core (applyX87 core state x) = x := by
  have words := laws.words_apart
  have top (stack : Fin 8 → X87Register) (tags : Fin 8 → BitVec 8) (s : CpuState width Rest) :
      core.getX87Top { s with x87Stack := stack, x87Tags := tags } = core.getX87Top s := by
    rw [laws.top, laws.top, (words s stack tags).2]
  simp only [readX87, applyX87, words, top, laws.statusWord, laws.controlWord_kept,
    laws.controlWord, Words.foldl_update (physOf_injective _)]
  exact congrArg (fun word => { x with tagWord := word }) (foldl_tagAt x.tagWord)

/-- The bit of a register is set exactly if it is not empty. -/
theorem getLsbD_abridgedTag (tagWord : BitVec 16) {phys : Nat} (inside : phys < 8) :
    (abridgedTag tagWord).getLsbD phys = decide (tagAt tagWord phys ≠ 3#8) := by
  have filled : abridgedTag tagWord =
      Words.fill 1 8 fun i => if tagAt tagWord i ≠ 3#8 then 1#8 else 0#8 := by
    refine List.foldl_ext _ _ _ fun word i _ => ?_
    simp only [ne_eq, tagAt_eq_three_iff, Nat.mul_one]
    split <;> simp
  have narrow (i bit : Nat) (high : 1 ≤ bit) :
      (if tagAt tagWord i ≠ 3#8 then 1#8 else 0#8).getLsbD bit = false := by
    split
    · simp [Nat.one_le_iff_ne_zero.mp high]
    · simp
  rw [filled, Words.getLsbD_fill (by decide) narrow, Nat.mod_one, Nat.div_one]
  by_cases empty : tagAt tagWord phys = 3#8 <;> simp [empty, inside]

/-- The expanded tag of a physical register. -/
theorem tagAt_fullTag (tagWord : BitVec 8) (statusWord : BitVec 16) (signexp : Fin 8 → BitVec 16)
    (signif : Fin 8 → BitVec 64) {phys : Nat} (inside : phys < 8) :
    tagAt (fullTag tagWord statusWord signexp signif) phys =
      let st := Fin.ofNat 8 (phys + 8 - ((statusWord >>> 11) &&& 0x7#16).toNat)
      if tagWord.getLsbD phys then x87ClassifyTag (signexp st) (signif st) else 3#8 := by
  have filled : fullTag tagWord statusWord signexp signif = Words.fill 2 8 fun i =>
      (let st := Fin.ofNat 8 (i + 8 - ((statusWord >>> 11) &&& 0x7#16).toNat)
        if tagWord.getLsbD i then x87ClassifyTag (signexp st) (signif st)
          else 3#8).setWidth 16 := by
    refine List.foldl_ext _ _ _ fun word i _ => ?_
    simp only [Ne, Words.and_one_eq_zero_iff (show 0 < 8 by decide), Bool.not_eq_false,
      Nat.mul_comm 2 i]
  rw [filled]
  refine tagAt_fill (fun i bit high => ?_) inside
  dsimp only
  split
  · exact x87ClassifyTag_narrow _ _ bit high
  · exact tagAt_narrow 0x3#16 0 bit high

/-- The slot of a register, whose 80 bits are in its first ten bytes. -/
def floatRegister (signif : BitVec 64) (signexp : BitVec 16) : BitVec 128 :=
  (signexp.setWidth 128 <<< 64) ||| signif.setWidth 128

/-- The significand of an image of a register. -/
theorem floatRegister_signif (signif : BitVec 64) (signexp : BitVec 16) :
    (floatRegister signif signexp).extractLsb' 0 64 = signif := by
  apply BitVec.eq_of_getLsbD_eq
  intro bit inside
  simp [floatRegister, inside, show bit < 128 by omega]

/-- Its sign and exponent. -/
theorem floatRegister_signexp (signif : BitVec 64) (signexp : BitVec 16) :
    (floatRegister signif signexp).extractLsb' 64 16 = signexp := by
  apply BitVec.eq_of_getLsbD_eq
  intro bit inside
  simp [floatRegister, inside, show 64 + bit < 128 by omega]

/-- What comes back of an x87 state: its tag word is expanded from the contents. -/
def recreated (x : X87State) : X87State :=
  { x with tagWord := fullTag (abridgedTag x.tagWord) x.statusWord x.signexp x.signif }

/-- What is read from an untouched area is the state with its tags computed anew. -/
theorem readX87FromContext_of_fltSave {ctx ctx' : Context} (r r' : RegState)
    (same : ctx.fltSave = (applyContextToX87 ctx' r).fltSave) :
    (readX87FromContext ctx r').x87 = recreated r.x87 := by
  have signif (i : Fin 8) := floatRegister_signif (r.x87.signif i) (r.x87.signexp i)
  have signexp (i : Fin 8) := floatRegister_signexp (r.x87.signif i) (r.x87.signexp i)
  simp only [floatRegister] at signif signexp
  simp only [readX87FromContext, same, applyContextToX87, recreated, signif, signexp]

/-- A recreated tag is empty where the old one was, and otherwise the value's. -/
theorem tagAt_recreated (x : X87State) (i : Fin 8) :
    tagAt (recreated x).tagWord (stPhys x i) =
      if x87TagOfSt x i = 3#8 then 3#8 else x87ClassifyTag (x.signexp i) (x.signif i) := by
  rw [recreated, tagAt_fullTag _ _ _ _ (stPhys_lt x i), ← toNat_x87TopOf, stOf_stPhys,
    getLsbD_abridgedTag _ (stPhys_lt x i), ← x87TagOfSt_eq]
  by_cases empty : x87TagOfSt x i = 3#8 <;> simp [empty]

/-- The tags are recreated as they were exactly if they were the values'. -/
theorem recreated_tagWord_iff (x : X87State) : (recreated x).tagWord = x.tagWord ↔ x.Canonical := by
  constructor
  · intro same i used
    have tag := tagAt_recreated x i
    rwa [same, ← x87TagOfSt_eq, if_neg used] at tag
  · intro canonical
    refine tagWord_ext_st x fun i => ?_
    rw [tagAt_recreated]
    split
    · rename_i empty
      rw [empty]
    · rename_i used
      exact (canonical i used).symm

/-- Then the state is as it was. -/
theorem recreated_of_canonical {x : X87State} (canonical : x.Canonical) : recreated x = x := by
  have word := (recreated_tagWord_iff x).mpr canonical
  exact congrArg (fun word => { x with tagWord := word }) word

/-- The x87 lines of the comparison of two outcomes. -/
def x87Compared (a b : LaneOutcome) : List String :=
  if a.capturesX87 = true ∧ b.capturesX87 = true then x87Lines a.after.x87 b.after.x87 else []

/-- The lane captures the x87 state, and then it is the given one. -/
def Captures (x : X87State) (out : LaneOutcome) : Prop :=
  out.capturesX87 = true → out.after.x87 = x

/-- Two lanes that captured one state show no difference. -/
theorem x87Compared_of_captures {x : X87State} {a b : LaneOutcome} (left : Captures x a)
    (right : Captures x b) : x87Compared a b = [] := by
  rw [x87Compared]
  split
  · rename_i captured
    rw [left captured.1, right captured.2, x87Lines_eq_nil_iff]
    simp [X87Differs]
  · rfl

/-- The engine leaves the x87 state as it was set up. -/
def LeavesX87 (core : SevenCore width Rest Memory)
    (step : CpuState width Rest → Memory → ExecutionResult width Rest Memory) (tc : TestCase) :
    Prop :=
  ∀ memory, readX87 core (step (startState core tc) memory).state =
    readX87 core (startState core tc)

/-- Seven captures the state its step leaves. -/
theorem runSeven_captures (laws : X87Laws core) {tc : TestCase}
    {step : CpuState width Rest → Memory → ExecutionResult width Rest Memory}
    (leaves : LeavesX87 core step tc) : Captures tc.initial.x87 (runSeven core step tc) := by
  rw [Captures, runSeven]
  dsimp only
  split
  · exact fun captured => absurd captured Bool.false_ne_true
  · intro _
    exact (leaves _).trans (readX87_applyX87 laws _ _)

/-- The delivery brings an exception. -/
def Delivery.raises (delivery : Delivery) : Bool :=
  (delivery.event.bind fun de => de.info.exceptionRecord).isSome

/-- The x87 state of the victim as it is read at the first exception of a stream. -/
def Recreates (x : X87State) (stream : List Delivery) : Prop :=
  ∀ delivery, stream.find? Delivery.raises = some delivery →
    (readX87FromContext delivery.victim.context {}).x87 = x

/-- The victim raises its first exception with the x87 area it was set up with. -/
def LeavesFltSave (w : World) (tc : TestCase) : Prop :=
  ∀ delivery, w.stream.find? Delivery.raises = some delivery →
    delivery.victim.context.fltSave = (contextFor w.victim.context tc).fltSave

/-- The hardware lane captures the state its victim stopped with. -/
theorem wp_classify_captures (r : RunReplies) (de : DebugEvent) (rec : ExceptionRecord)
    {bad : String → World → Prop} {x : X87State} {w : World}
    (recreates : (readX87FromContext w.victim.context {}).x87 = x) :
    wp (classify r de rec) (fun out _ => Captures x out) bad w := by
  simp only [classify, getThreadContext, readProcessMemory, record, modifyImpl, wp_bind, wp_get,
    wp_modify, wp_pure]
  intro captured
  cases replied : r.getThreadContextAfter
  · simp [replied] at captured
  · exact recreates

/-- So does its pump, by induction on the deliveries. -/
theorem wp_pumpToException_captures (r : RunReplies) {x : X87State} {stream : List Delivery}
    (recreates : Recreates x stream) (n : Nat) (w : World) :
    wp (pumpToException r stream n) (fun out _ => Captures x out) (fun _ _ => True) w := by
  have gaveUp (reason : String) (w : World) : wp (tearDownWith reason : Session LaneOutcome)
      (fun out _ => Captures x out) (fun _ _ => True) w := by
    rw [tearDownWith, wp_bind]
    exact wp_of_forall (fun _ _ => trivial) fun _ _ => trivial
  induction stream generalizing n w with
  | nil => exact wp_seq (wp_of_forall (fun _ _ => trivial) fun _ _ => trivial) fun _ w' _ =>
      gaveUp _ w'
  | cons delivery rest ih =>
      simp only [pumpToException, waitForDebugEvent, record, wp_bind, wp_get, wp_set, wp_modify,
        wp_pure]
      cases arrived : delivery.event with
      | none => exact gaveUp _ _
      | some de =>
          simp only [Option.map_some]
          cases exception : de.info.exceptionRecord with
          | some rec =>
              have raises : delivery.raises = true := by
                rw [Delivery.raises, arrived, Option.bind_some, exception, Option.isSome_some]
              exact wp_classify_captures r _ rec
                (recreates delivery (List.find?_cons_of_pos raises))
          | none =>
              have passes : ¬ delivery.raises = true := by
                rw [Delivery.raises, arrived, Option.bind_some, exception]
                exact Bool.false_ne_true
              have later : Recreates x rest := by
                rwa [Recreates, List.find?_cons_of_neg passes] at recreates
              simp only [wp_ite, wp_bind]
              split
              · exact gaveUp _ _
              · exact wp_of_forall (fun _ w' => ih later (n + 1) w') fun _ _ => trivial

/-- So does a step. -/
theorem wp_stepVictim_captures (r : RunReplies) (tc : TestCase) {x : X87State} {w : World}
    (live : Live w) (recreates : Recreates x w.stream) :
    wp (stepVictim r tc) (fun out _ => Captures x out) (fun _ _ => True) w := by
  rw [stepVictim]
  refine wp_seq (wp_mono (fun _ _ => id) (fun _ _ _ => trivial) (wp_setUpContext r tc live))
    fun _ w₁ context => ?_
  have live₁ := live.unmoved context.2
  refine wp_seq (wp_mono (fun _ _ => id) (fun _ _ _ => trivial) (wp_setUpCode r tc live₁))
    fun _ w₂ code => ?_
  refine wp_seq (wp_mono (fun _ _ => id) (fun _ _ _ => trivial) (wp_setUpMemory r tc w₂))
    fun _ w₃ memory => ?_
  have live₃ := (live₁.unmoved code.2).unmoved memory
  refine wp_seq (wp_mono (fun _ _ => id) (fun _ _ _ => trivial) (wp_resume live₃))
    fun _ w₄ resumed => ?_
  have stream : w₄.stream = w.stream := by
    rw [resumed.stream, memory.stream, code.2.stream, context.2.stream]
  rw [wp_bind, wp_get, stream]
  refine wp_seq (wp_pumpToException_captures r recreates 0 w₄) fun out w₅ captures => ?_
  simp only [respawnHygiene, modifyImpl, wp_bind, wp_modify, wp_get, wp_ite]
  split
  · exact wp_of_forall (fun _ _ => captures) fun _ _ => trivial
  · exact captures

/-- So does a test case on a live victim. -/
theorem runOne_captures {r : RunReplies} {tc : TestCase} {x : X87State} {w : World} (live : Live w)
    (recreates : Recreates x w.stream) :
    Captures x (runOne r tc w).1 := by
  have held : wp (runSteps r tc) (fun out _ => Captures x out) (fun _ _ => True) w :=
    (wp_bind _ _).mpr ((wp_of_ok (ensureReady_of_ready live.ready)).mpr
      (wp_stepVictim_captures r tc live recreates))
  rw [runOne]
  split
  · rename_i ended
    exact (wp_of_ok ended).mp held
  · exact fun captured => absurd captured Bool.false_ne_true

/-- What is stored into the emulator's state is read back. -/
def SevenRoundTrip (core : SevenCore width Rest Memory) (r : RegState) : Prop :=
  (∀ state, readX87 core (applyX87 core state r.x87) = r.x87) ∧
    ∀ i, unpackXmm (packXmm width (r.xmmLo i) (r.xmmHi i)) = (r.xmmLo i, r.xmmHi i)

/-- What is set in a thread context is read back, its tag word exactly if it is canonical. -/
def ContextRoundTrip (r : RegState) : Prop :=
  ∀ (ctx : Context) (r' : RegState),
    let x := (readX87FromContext (applyContextToX87 ctx r) r').x87
    x.controlWord = r.x87.controlWord ∧ x.statusWord = r.x87.statusWord ∧
      x.signif = r.x87.signif ∧ x.signexp = r.x87.signexp ∧
      (x.tagWord = r.x87.tagWord ↔ r.x87.Canonical)

/-- On an instruction that changes no x87 state the comparison of the interpreter lane and
the hardware lane has no x87 line. -/
def AgreeUntouched (core : SevenCore width Rest Memory) (r : RegState) : Prop :=
  ∀ (tc : TestCase) (step : CpuState width Rest → Memory → ExecutionResult width Rest Memory)
    (replies : RunReplies) (w : World),
    tc.initial = r → Live w → LeavesX87 core step tc → LeavesFltSave w tc →
      x87Compared (runSeven core step tc) (runOne replies tc w).1 = []

/-- Every register state round-trips through the emulator's state, and through a thread
context but for a tag word that is not canonical; on canonical states the lanes agree. -/
theorem x87_adapters_agree (laws : X87Laws core) (wide : 128 ≤ width) (r : RegState) :
    SevenRoundTrip core r ∧ ContextRoundTrip r ∧ (r.x87.Canonical → AgreeUntouched core r) := by
  refine ⟨⟨fun state => readX87_applyX87 laws state r.x87,
    fun i => unpackXmm_packXmm wide (r.xmmLo i) (r.xmmHi i)⟩, fun ctx r' => ?_, ?_⟩
  · rw [readX87FromContext_of_fltSave r r' rfl]
    exact ⟨rfl, rfl, rfl, rfl, recreated_tagWord_iff r.x87⟩
  · rintro canonical tc step replies w rfl live leaves untouched
    refine x87Compared_of_captures (runSeven_captures laws leaves) (runOne_captures live ?_)
    intro delivery first
    rw [readX87FromContext_of_fltSave tc.initial {} (untouched delivery first),
      recreated_of_canonical canonical]

/-- The sample engine keeps the laws of the x87 unit. -/
theorem sampleX87Laws : X87Laws sampleCore where
  controlWord _ _ := rfl
  statusWord _ _ := rfl
  controlWord_kept _ _ := rfl
  top _ := rfl
  words_apart _ _ _ := ⟨rfl, rfl⟩

/-- ST(0) holds one and ST(1) zero; the stack top is the register with number five. -/
def twoOnStack : X87State where
  controlWord := 0x37F#16
  statusWord := 0x2800#16
  tagWord := 0xD3FF#16
  signif i := if i = 0 then 0x8000000000000000#64 else 0#64
  signexp i := if i = 0 then 0x3FFF#16 else 0#16

/-- FNOP, which leaves the stack as it is. -/
def fnop : TestCase where
  bytes := [0xD9#8, 0xD0#8]
  text := "FNOP"
  initial := { x87 := twoOnStack }

/-- The victim maps a file and then steps over the instruction. -/
def fnopWorld : World :=
  { startedWorld with
    stream :=
      [⟨some { processId := 100, threadId := 104, info := .loadDll 40 }, freshVictim⟩,
        ⟨some { processId := 100, threadId := 104,
                info := .exception ⟨EXCEPTION_SINGLE_STEP, 0, 0, fun _ => 0⟩ },
          preparedVictim startedWorld.victim fnop⟩] }

/-- A state with a value on its stack, its top not at zero, under `FNOP`. -/
theorem x87_adapters_agree_fnop :
    SevenRoundTrip sampleCore fnop.initial ∧ ContextRoundTrip fnop.initial ∧
      x87Compared (runSeven sampleCore (stopsFor .none) fnop)
        (runOne { spawn := .granted freshVictim } fnop fnopWorld).1 = [] := by
  obtain ⟨seven, context, agree⟩ := x87_adapters_agree sampleX87Laws (le_refl _) fnop.initial
  have untouched : LeavesFltSave fnopWorld fnop := by
    intro delivery first
    have found : fnopWorld.stream.find? Delivery.raises = some ⟨_, preparedVictim _ fnop⟩ := rfl
    obtain rfl := Option.some.inj (found.symm.trans first)
    rfl
  exact ⟨seven, context, agree (by decide) fnop _ _ _ rfl ⟨rfl, rfl⟩ (fun _ => rfl) untouched⟩

end SevenFuzzer
