import SevenFuzzer.Gen.BuiltSimd

/-! # Broadcast memory sources

A row of the VEX and EVEX table may allow its memory source to repeat one element, and
`gen_vex_simd` draws whether it does. `genVexSimdLogged` is `genVexSimd` with its draws beside
the instruction. The bit is set exactly as drawn except in the shape with a memory source and
an immediate but no register source, which never sets it (`SevenFuzzer.broadcast_as_drawn_iff`).
-/

namespace SevenFuzzer

open Draw InstructionFactory

/-- What is drawn before the instruction is built. -/
structure VexDraws where
  entry : VexEntry
  d : Fin 16
  s1 : Fin 16
  s2 : Fin 16
  useMem : Bool
  broadcast : Bool

/-- The draws `gen_vex_simd` makes for a row before it looks at the row's shape. -/
def vexDraws (entry : VexEntry) : Gen VexDraws := do
  let d ← pickXmmIndex
  let s1 ← pickXmmIndex
  let s2 ← pickXmmIndex
  let useMem ← oneIn 4
  let broadcast ← drawsBroadcast useMem entry
  return ⟨entry, d, s1, s2, useMem, broadcast⟩

/-- The instruction the row's shape makes of the draws. -/
def VexDraws.form (draws : VexDraws) : Gen (Option Instruction) :=
  vexForm draws.entry draws.d draws.s1 draws.s2 draws.useMem draws.broadcast

/-- `genVexSimd`, with the draws of the instruction. -/
def genVexSimdLogged (caps : HostCaps) : Gen (Option (Instruction × VexDraws)) := do
  if ¬ caps.avx ∨ ¬ caps.avx2 then
    return none
  else
    setFlagsMask 0
    match ← pickVexEntry caps.evexOk 8 with
    | none => return none
    | some entry =>
        let draws ← vexDraws entry
        let built ← draws.form
        return built.map fun instr => (instr, draws)

/-- Leaving out the logged draws gives the family back. -/
theorem erase_genVexSimdLogged (caps : HostCaps) :
    Option.map Prod.fst <$> genVexSimdLogged caps = genVexSimd caps := by
  unfold genVexSimdLogged genVexSimd
  split
  · simp only [map_pure, Option.map_none]
  · simp only [map_bind]
    refine congrArg _ (funext fun _ => congrArg _ (funext fun picked => ?_))
    cases picked with
    | none => simp only [map_pure, Option.map_none]
    | some entry =>
        simp only [vexDraws, genVexEntry, VexDraws.form, map_bind, map_pure, bind_assoc, pure_bind,
          Option.map_map]
        simp [Function.comp_def]

/-- The shape takes its source from memory, if memory is used. -/
def VexShape.readsMemory : VexShape → Bool
  | .kDstSrcRm | .kDstSrcRm64 | .kDstSrcRm32 | .kDstRm | .kDstRm64 | .kDstSrcRmImm | .kDstRmImm =>
      true
  | .kRmDst | .kDstSrcSrc | .kDstSrcImm => false

/-- A memory source is repeated: the row allows it, the shape took the source from memory, and
it was drawn. -/
def VexDraws.Repeats (draws : VexDraws) : Prop :=
  draws.entry.broadcast = true ∧ (draws.entry.shape.readsMemory = true ∧ draws.useMem = true) ∧
    draws.broadcast = true

/-- The shape sets the bit when it takes its source from memory. -/
def VexShape.finishes (shape : VexShape) : Bool := shape.readsMemory && shape != .kDstRmImm

/-- An instruction is built, and has the bit if it was drawn and the shape sets it. -/
theorem vexForm_broadcast (draws : VexDraws) (c : Ctx) :
    always draws.form (fun built _ => ∃ instr, built = some instr ∧
      instr.isBroadcast = (draws.entry.shape.finishes && draws.useMem && draws.broadcast)) c := by
  obtain ⟨⟨code, shape, evex, repeats⟩, d, s1, s2, useMem, broadcast⟩ := draws
  simp only [VexDraws.form, vexForm]
  cases shape with
  | kDstSrcRm | kDstSrcRm64 | kDstSrcRm32 | kDstRm | kDstRm64 =>
      simp only [touchMemory, always_seq, always_lift, always_ite, always_modify, always_return]
      cases useMem with
      | false => exact ⟨_, rfl, rfl⟩
      | true =>
          refine always_of_forall fun disp => ⟨_, rfl, ?_⟩
          cases broadcast <;> rfl
  | kRmDst =>
      simp only [touchMemory, always_seq, always_lift, always_ite, always_modify, always_return]
      cases useMem with
      | false => exact ⟨_, rfl, rfl⟩
      | true => exact always_of_forall fun disp => ⟨_, rfl, rfl⟩
  | kDstSrcSrc => exact ⟨_, rfl, rfl⟩
  | kDstSrcImm =>
      simp only [always_seq, always_lift, always_return]
      exact always_of_forall fun imm => ⟨_, rfl, rfl⟩
  | kDstSrcRmImm =>
      simp only [touchMemory, always_seq, always_lift, always_ite, always_modify, always_return]
      refine always_of_forall fun imm => ?_
      cases useMem with
      | false => exact ⟨_, rfl, rfl⟩
      | true =>
          refine always_of_forall fun disp => ⟨_, rfl, ?_⟩
          cases broadcast <;> rfl
  | kDstRmImm =>
      simp only [touchMemory, always_seq, always_lift, always_ite, always_modify, always_return]
      refine always_of_forall fun imm => ?_
      cases useMem with
      | false => exact ⟨_, rfl, rfl⟩
      | true => exact always_of_forall fun disp => ⟨_, rfl, rfl⟩

/-- Broadcast is drawn for rows that allow it, and if memory is used. -/
structure VexDraws.Of (draws : VexDraws) (e : VexEntry) : Prop where
  entry : draws.entry = e
  allowed : draws.broadcast = true → draws.useMem = true ∧ e.broadcast = true

/-- The draws of a row are of that row, and a broadcast is drawn only where there is memory. -/
theorem vexDraws_of (entry : VexEntry) (c : Ctx) :
    always (vexDraws entry) (fun draws _ => draws.Of entry) c := by
  simp only [vexDraws, drawsBroadcast, always_seq, always_lift, always_return]
  refine always_of_forall fun d => always_of_forall fun s1 => always_of_forall fun s2 =>
    always_of_forall fun useMem => ?_
  split
  · rename_i allowed
    exact always_of_forall fun broadcast => ⟨rfl, fun _ => allowed⟩
  · exact ⟨rfl, fun wrong => absurd wrong Bool.false_ne_true⟩

/-- Every row that admits a broadcast is drawn with one. -/
theorem vexDraws_sometimes {entry : VexEntry} (allowed : entry.broadcast = true) (c : Ctx) :
    sometimes (vexDraws entry)
      (fun draws _ => draws.entry = entry ∧ draws.useMem = true ∧ draws.broadcast = true) c := by
  simp only [vexDraws, drawsBroadcast, sometimes_seq, sometimes_lift, sometimes_return,
    pickXmmIndex, sometimes_index, sometimes_oneIn, Nat.reduceLT]
  refine ⟨0, 0, 0, true, ?_⟩
  rw [if_pos ⟨rfl, allowed⟩]
  exact (sometimes_oneIn (by decide)).mpr ⟨true, ⟨⟩, rfl, rfl⟩

/-- The rows that allow broadcast are of shapes with a memory source. -/
theorem kVexSimd_readsMemory : ∀ e ∈ kVexSimd, e.broadcast = true → e.shape.readsMemory = true := by
  decide +kernel

/-- What `gen_vex_simd` returns when it returns an instruction. -/
structure VexLogged (instr : Instruction) (draws : VexDraws) : Prop where
  listed : draws.entry ∈ kVexSimd
  repeats : draws.Repeats ↔ draws.broadcast = true
  bit : instr.isBroadcast = true ↔ draws.entry.shape ≠ .kDstRmImm ∧ draws.Repeats

/-- An instruction whose mark is the drawn one is logged as drawn. -/
theorem vexLogged_of {entry : VexEntry} (listed : entry ∈ kVexSimd) {draws : VexDraws}
    (drawn : draws.Of entry) {instr : Instruction}
    (bit : instr.isBroadcast = (draws.entry.shape.finishes && draws.useMem && draws.broadcast)) :
    VexLogged instr draws := by
  obtain ⟨rfl, broadcast⟩ := drawn
  have repeats : draws.Repeats ↔ draws.broadcast = true := by
    refine ⟨fun repeats => repeats.2.2, fun repeats => ?_⟩
    obtain ⟨useMem, allowed⟩ := broadcast repeats
    exact ⟨allowed, ⟨kVexSimd_readsMemory _ listed allowed, useMem⟩, repeats⟩
  refine ⟨listed, repeats, ?_⟩
  rw [bit, Bool.and_eq_true, Bool.and_eq_true, VexShape.finishes, Bool.and_eq_true, bne_iff_ne]
  exact ⟨fun ⟨⟨⟨_, other⟩, _⟩, drawn⟩ => ⟨other, repeats.mpr drawn⟩,
    fun ⟨other, _, ⟨reads, useMem⟩, drawn⟩ => ⟨⟨⟨reads, other⟩, useMem⟩, drawn⟩⟩

/-- Whatever the family builds, its mark is the drawn one where the shape finishes it, and unset
elsewhere. -/
theorem genVexSimdLogged_logged (caps : HostCaps) (c : Ctx) :
    always (genVexSimdLogged caps) (fun built _ =>
      ∀ instr draws, built = some (instr, draws) → VexLogged instr draws) c := by
  simp only [genVexSimdLogged, setFlagsMask, always_seq, always_lift, always_ite, always_modify,
    always_return]
  split
  · rintro _ _ ⟨⟩
  · apply always_pickVexEntry
    · rintro _ _ ⟨⟩
    · intro entry listed usable
      rw [always_seq]
      apply always_mono (vexDraws_of entry _)
      intro draws c drawn
      rw [always_seq]
      apply always_mono (vexForm_broadcast draws c)
      rintro _ _ ⟨instr, rfl, bit⟩ _ _ ⟨⟩
      exact vexLogged_of listed drawn bit

/-- A row the host supports can be picked at the first attempt. -/
theorem pickVexEntry_sometimes {e : VexEntry} (listed : e ∈ kVexSimd) {evexOk : Bool}
    (usable : e.evex = true → evexOk = true) (attempts : Nat) :
    (pickVexEntry evexOk (attempts + 1)).Sometimes fun picked => picked = some e := by
  simp only [pickVexEntry, sometimes_bind, sometimes_pick]
  refine ⟨e, listed, ?_⟩
  rw [if_neg fun unusable => unusable.2 (usable unusable.1)]
  exact rfl

/-- A row that allows broadcast is built with the bit if its shape sets it. -/
theorem genVexSimdLogged_sometimes {caps : HostCaps} {e : VexEntry} (listed : e ∈ kVexSimd)
    (host : caps.Supports e.code) (allowed : e.broadcast = true) (other : e.shape ≠ .kDstRmImm)
    (c : Ctx) : sometimes (genVexSimdLogged caps) (fun built _ => ∃ instr draws,
      built = some (instr, draws) ∧ draws.entry = e ∧ instr.isBroadcast = true) c := by
  obtain ⟨avx, avx2, form⟩ := host (kVexSimd_isVex e listed)
  have usable (evex : e.evex = true) : caps.evexOk = true := by
    refine form ?_
    rw [kVexSimd_form e listed, if_pos evex]
  have sets : e.shape.finishes = true := by
    rw [VexShape.finishes, kVexSimd_readsMemory e listed allowed, Bool.true_and]
    exact bne_iff_ne.mpr other
  have enabled : ¬ (¬ caps.avx = true ∨ ¬ caps.avx2 = true) := by
    simp only [avx, avx2, not_true_eq_false, or_self, not_false_eq_true]
  simp only [genVexSimdLogged, setFlagsMask, sometimes_seq, sometimes_lift, sometimes_ite,
    sometimes_modify, sometimes_return]
  rw [if_neg enabled]
  refine (pickVexEntry_sometimes listed usable 7).mono ?_
  rintro _ rfl
  rw [sometimes_seq]
  apply sometimes_mono (vexDraws_sometimes allowed _)
  rintro draws c ⟨rfl, useMem, broadcast⟩
  rw [sometimes_seq]
  apply sometimes_mono (sometimes_of_always (vexForm_broadcast draws c))
  rintro _ _ ⟨instr, rfl, bit⟩
  refine ⟨instr, draws, rfl, rfl, ?_⟩
  rw [bit, sets, useMem, broadcast]
  rfl

/-- The bit of an instruction is as it was drawn. -/
def AsDrawn (instr : Instruction) (draws : VexDraws) : Prop :=
  instr.isBroadcast = true ↔ draws.Repeats

/-- In every run of `gen_vex_simd` the bit is as it was drawn, unless a broadcast was drawn for
a row without a register source but with an immediate; and a row that allows broadcast
is built with the bit by some draws if and only if it is not such a row. -/
theorem broadcast_as_drawn_iff (caps : HostCaps) (c : Ctx) :
    Option.map Prod.fst <$> genVexSimdLogged caps = genVexSimd caps ∧
    always (genVexSimdLogged caps) (fun built _ =>
      ∀ instr draws, built = some (instr, draws) →
        (AsDrawn instr draws ↔ ¬ (draws.entry.shape = .kDstRmImm ∧ draws.Repeats))) c ∧
    ∀ e ∈ kVexSimd, caps.Supports e.code → e.broadcast = true →
      (sometimes (genVexSimdLogged caps) (fun built _ => ∃ instr draws,
        built = some (instr, draws) ∧ draws.entry = e ∧ instr.isBroadcast = true) c ↔
      e.shape ≠ .kDstRmImm) := by
  have logged := genVexSimdLogged_logged caps c
  refine ⟨erase_genVexSimdLogged caps, ?_, fun e listed host allowed => ⟨fun built => ?_, ?_⟩⟩
  · refine always_mono logged fun built c' logged instr draws same => ?_
    rw [AsDrawn, (logged instr draws same).bit]
    tauto
  · obtain ⟨ended, ⟨instr, draws, same, rfl, bit⟩, logged⟩ := built.meets logged
    exact ((logged instr draws same).bit.mp bit).1
  · exact fun other => genVexSimdLogged_sometimes listed host allowed other c

/-- A host with AVX-512. -/
def avx512Host : HostCaps where
  avx := true
  avx2 := true
  avx512f := true
  avx512vl := true
  avx512bw := true
  avx512dq := true

/-- Draws for VPSLLD by an immediate, from memory with broadcast. -/
def shiftBroadcast : List Nat := [48, 0, 0, 0, 0, 0, 50, 0, 0]

/-- Broadcast is drawn for the row, and the bit is not set. -/
theorem broadcast_dropped : ¬ always (genVexSimdLogged avx512Host) (fun built _ =>
    ∀ instr draws, built = some (instr, draws) → AsDrawn instr draws) {} := by
  intro asDrawn
  have ends : (((genVexSimdLogged avx512Host).run {}).run shiftBroadcast).map (fun ended =>
      (ended.1.1.map fun built => [built.1.isBroadcast, built.2.entry.broadcast,
        built.2.entry.shape.readsMemory, built.2.useMem, built.2.broadcast], ended.2)) =
      some (some [false, true, true, true, true], []) := by
    decide +kernel
  obtain ⟨⟨⟨built, c⟩, rest⟩, ran, same⟩ := Option.map_eq_some_iff.mp ends
  obtain ⟨logged, rfl⟩ := Prod.mk.inj same
  obtain ⟨⟨instr, draws⟩, rfl, bits⟩ := Option.map_eq_some_iff.mp logged
  simp only [List.cons.injEq, and_true] at bits
  obtain ⟨unset, allowed, reads, useMem, broadcast⟩ := bits
  have drawn := always_iff_run.mp asDrawn shiftBroadcast _ _ ran instr draws rfl
  rw [drawn.mpr ⟨allowed, ⟨reads, useMem⟩, broadcast⟩] at unset
  cases unset

end SevenFuzzer
