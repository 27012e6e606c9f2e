import SevenFuzzer.Gen.Containment

/-! # Divisions built from their results

On its biased path `gen_muldiv` draws a divisor, a quotient and a remainder and forces the
registers so that a DIV should find them again. The product is split at 64 bits whatever
the operand width is: the 16-bit and 32-bit forms read the high half of the dividend from
a register that is then always zero, and divide as drawn only if the dividend fits its low
half (`division_as_drawn_iff`).
-/

namespace SevenFuzzer

open Draw InstructionFactory

/-- What DIV divides: AX, DX:AX, EDX:EAX or RDX:RAX. -/
def dividendOf (w : Width) (gpr : Fin 16 → BitVec 64) : Nat :=
  match w with
  | .W8 => (Register.gpr .W16 0).value gpr
  | w => (Register.gpr w 2).value gpr * 2 ^ bitsOf w + (Register.gpr w 0).value gpr

/-- The value of the operand of a DIV by a register. -/
def Instruction.divisorOf (instr : Instruction) (gpr : Fin 16 → BitVec 64) : Nat :=
  match instr.operands with
  | [{ kind := .REGISTER, register := register }] => register.value gpr
  | _ => 0

/-- The quotient and the remainder, or #DE. -/
def divide (w : Width) (dividend divisor : Nat) : Option (Nat × Nat) :=
  if divisor = 0 ∨ 2 ^ bitsOf w ≤ dividend / divisor then none
  else some (dividend / divisor, dividend % divisor)

/-- The numbers the biased path draws: the divisor, the quotient the dividend is built for, and its
remainder. -/
structure DivisionDraw where
  mapped : Fin 16
  divisor : BitVec 64
  quotient : BitVec 64
  remainder : BitVec 64

/-- What the path draws. -/
def drawDivision (w : Width) : Draw DivisionDraw := do
  let mapped ← pick kNonAccumRegs kNonAccumRegs_nonempty
  let divisor ← randomImm (bitsOf w)
  let divisor := if divisor = 0 then 1#64 else divisor
  let quotient ← randomImm (bitsOf w)
  let remainder ← remainderBelow divisor
  return ⟨mapped, divisor, quotient, remainder⟩

/-- The low half of the product with the remainder. -/
def DivisionDraw.low (draw : DivisionDraw) : BitVec 64 :=
  draw.quotient * draw.divisor + draw.remainder

/-- The high half of the product with the carry of the remainder. -/
def DivisionDraw.high (draw : DivisionDraw) : BitVec 64 :=
  BitVec.ofNat 64 (draw.quotient.toNat * draw.divisor.toNat / 2 ^ 64) +
    if 2 ^ 64 ≤ (draw.quotient * draw.divisor).toNat + draw.remainder.toNat then 1#64 else 0#64

/-- What it builds from that. -/
def buildDivision (op : MulDivOp) (w : Width) (draw : DivisionDraw) : Gen (Option Instruction) := do
  force draw.mapped draw.divisor
  force 0 draw.low
  if w ≠ .W8 then
    force 2 draw.high
  return some (with1 (mulDivCode op w) (regOf w draw.mapped))

/-- The generator draws its numbers first and builds from them alone. -/
theorem genBiasedDiv_eq (op : MulDivOp) (w : Width) :
    genBiasedDiv op w = (do
      let draw ← (drawDivision w : Gen DivisionDraw)
      buildDivision op w draw) := by
  simp only [genBiasedDiv, drawDivision, buildDivision, DivisionDraw.low, DivisionDraw.high,
    liftM_bind, bind_assoc, liftM_pure, pure_bind]

/-- A biased draw together with the instruction and the test case `next` makes of it. -/
structure DivisionCase where
  draw : DivisionDraw
  instruction : Option Instruction
  testCase : TestCase

/-- A DIV of the biased path, finished as every instruction is. -/
def biasedDivision (w : Width) (bytes : List (BitVec 8)) : Draw DivisionCase := do
  let draw ← drawDivision w
  let (built, c) ← (buildDivision .DIV w draw).run { flagsMask := 0 }
  let testCase ← finishCase c bytes
  return ⟨draw, built, testCase⟩

/-- Without its draws it is what the family builds and `next` finishes. -/
theorem biasedDivision_case (w : Width) (bytes : List (BitVec 8)) :
    (fun case => (case.instruction, case.testCase)) <$> biasedDivision w bytes = (do
      let (built, c) ← (genBiasedDiv .DIV w).run { flagsMask := 0 }
      let testCase ← finishCase c bytes
      return (built, testCase)) := by
  simp only [biasedDivision, genBiasedDiv_eq, StateT.run_bind, liftM, monadLift,
    MonadLift.monadLift, StateT.run_lift, map_bind, map_pure, bind_assoc, pure_bind]

/-- The registers make DIV find the quotient and the remainder again. -/
structure DividesAsDrawn (w : Width) (case : DivisionCase) : Prop where
  divisor_pos : 0 < case.draw.divisor.toNat
  remainder_lt : case.draw.remainder.toNat < case.draw.divisor.toNat
  no_carry : case.draw.quotient.toNat * case.draw.divisor.toNat +
    case.draw.remainder.toNat < 2 ^ 128
  code : ∃ instr, case.instruction = some instr ∧ instr.code = mulDivCode .DIV w ∧
    instr.divisorOf case.testCase.initial.gpr = case.draw.divisor.toNat
  dividend : dividendOf w case.testCase.initial.gpr =
    case.draw.quotient.toNat * case.draw.divisor.toNat + case.draw.remainder.toNat
  divides : divide w (dividendOf w case.testCase.initial.gpr) case.draw.divisor.toNat =
    some (case.draw.quotient.toNat, case.draw.remainder.toNat)

/-- The operand is a byte or a qword, or the dividend has no high half. -/
def NeedsNoHighHalf (w : Width) (draw : DivisionDraw) : Prop :=
  w = .W8 ∨ w = .W64 ∨
    draw.quotient.toNat * draw.divisor.toNat + draw.remainder.toNat < 2 ^ bitsOf w

/-- The draws are in their ranges. -/
structure Drawn (w : Width) (draw : DivisionDraw) : Prop where
  mapped : draw.mapped ∈ kNonAccumRegs
  divisor_pos : 0 < draw.divisor.toNat
  divisor_lt : draw.divisor.toNat < 2 ^ bitsOf w
  quotient_lt : draw.quotient.toNat < 2 ^ bitsOf w
  remainder_lt : draw.remainder.toNat < draw.divisor.toNat

/-- A drawn immediate fits its width. -/
theorem randomImm_lt (w : Width) :
    (randomImm (bitsOf w)).Always fun value => value.toNat < 2 ^ bitsOf w := by
  simp only [randomImm, always_bind, always_pure]
  apply always_of_forall
  intro value
  have mask (bits : Nat) (narrow : bits < 64) :
      (value &&& ((1#64 <<< bits) - 1#64)).toNat < 2 ^ bits := by
    rw [toNat_and_lowMask value narrow]
    exact Nat.mod_lt _ (Nat.two_pow_pos bits)
  cases w with
  | W64 => exact value.isLt
  | _ => exact mask _ (by decide)

/-- The remainder is below the divisor. -/
theorem remainderBelow_lt {divisor : BitVec 64} (positive : 0 < divisor.toNat) :
    (remainderBelow divisor).Always fun remainder => remainder.toNat < divisor.toNat := by
  unfold remainderBelow
  split
  · simp only [always_map]
    apply always_of_forall
    intro value
    rw [BitVec.toNat_umod]
    exact Nat.mod_lt _ positive
  · exact positive

/-- What is drawn always has a divisor, a remainder below it, and a quotient within the width. -/
theorem drawDivision_drawn (w : Width) : (drawDivision w).Always (Drawn w) := by
  simp only [drawDivision, always_bind, always_pick, always_pure]
  intro mapped listed
  refine (randomImm_lt w).mono fun divisor divisorLt => ?_
  refine (randomImm_lt w).mono fun quotient quotientLt => ?_
  have positive : 0 < (if divisor = 0 then 1#64 else divisor).toNat := by
    split
    · decide
    · rename_i nonzero
      exact Nat.pos_of_ne_zero fun zero => nonzero (BitVec.eq_of_toNat_eq zero)
  have bounded : (if divisor = 0 then 1#64 else divisor).toNat < 2 ^ bitsOf w := by
    split
    · cases w <;> decide
    · exact divisorLt
  refine (remainderBelow_lt positive).mono fun remainder below => ?_
  exact ⟨listed, positive, bounded, quotientLt, below⟩

/-- The dividend stays below `2 ^ w` divisors, which is what keeps the quotient in range. -/
theorem product_le {w : Width} {draw : DivisionDraw} (drawn : Drawn w draw) :
    draw.quotient.toNat * draw.divisor.toNat + draw.remainder.toNat <
      2 ^ bitsOf w * draw.divisor.toNat := by
  have successor : (draw.quotient.toNat + 1) * draw.divisor.toNat ≤
      2 ^ bitsOf w * draw.divisor.toNat :=
    Nat.mul_le_mul_right _ drawn.quotient_lt
  rw [Nat.succ_mul] at successor
  exact lt_of_lt_of_le (Nat.add_lt_add_left drawn.remainder_lt _) successor

/-- The dividend fits the accumulator pair. -/
theorem product_lt {w : Width} {draw : DivisionDraw} (drawn : Drawn w draw) :
    draw.quotient.toNat * draw.divisor.toNat + draw.remainder.toNat <
      2 ^ bitsOf w * 2 ^ bitsOf w :=
  lt_of_lt_of_le (product_le drawn) (Nat.mul_le_mul_left _ drawn.divisor_lt.le)

/-- The two registers hold the dividend. -/
theorem toNat_split (draw : DivisionDraw)
    (fits : draw.quotient.toNat * draw.divisor.toNat + draw.remainder.toNat < 2 ^ 64 * 2 ^ 64) :
    draw.high.toNat * 2 ^ 64 + draw.low.toNat =
      draw.quotient.toNat * draw.divisor.toNat + draw.remainder.toNat := by
  have remainderLt := draw.remainder.isLt
  simp only [DivisionDraw.high, DivisionDraw.low, BitVec.toNat_add, BitVec.toNat_mul,
    BitVec.toNat_ofNat]
  split
  · rename_i carries
    generalize draw.quotient.toNat * draw.divisor.toNat = product at fits carries ⊢
    simp only [BitVec.toNat_ofNat]
    omega
  · rename_i stays
    generalize draw.quotient.toNat * draw.divisor.toNat = product at fits stays ⊢
    simp only [BitVec.toNat_ofNat]
    omega

/-- The registers a DIV of the biased path starts with. -/
structure Forced (w : Width) (draw : DivisionDraw) (gpr : Fin 16 → BitVec 64) : Prop where
  divisor : gpr draw.mapped = draw.divisor
  low : gpr 0 = draw.low
  high : w ≠ .W8 → gpr 2 = draw.high

/-- The divisor is in neither half of the dividend. -/
theorem mapped_apart {mapped : Fin 16} (listed : mapped ∈ kNonAccumRegs) :
    mapped ≠ 0 ∧ mapped ≠ 2 := by
  revert listed mapped
  decide

/-- The instruction and the registers of a division. -/
theorem buildDivision_forces {w : Width} {draw : DivisionDraw} (drawn : Drawn w draw) (c : Ctx) :
    always (buildDivision .DIV w draw) (fun built c' =>
      built = some (with1 (mulDivCode .DIV w) (regOf w draw.mapped)) ∧
        ∀ values, Forced w draw (pinGpr c' values)) c := by
  obtain ⟨notLow, notHigh⟩ := mapped_apart drawn.mapped
  simp only [buildDivision, force, always_seq, always_modify, always_ite, always_return]
  split
  · rename_i wide
    refine ⟨trivial, fun values => ⟨pinGpr_forced ?_ values, pinGpr_forced ?_ values,
      fun _ => pinGpr_forced ?_ values⟩⟩
    all_goals dsimp only
    · rw [Function.update_of_ne notHigh, Function.update_of_ne notLow, Function.update_self]
    · rw [Function.update_of_ne (by decide), Function.update_self]
    · rw [Function.update_self]
  · rename_i narrow
    refine ⟨trivial, fun values => ⟨pinGpr_forced ?_ values, pinGpr_forced ?_ values,
      fun wide => absurd wide narrow⟩⟩
    all_goals dsimp only
    · rw [Function.update_of_ne notLow, Function.update_self]
    · rw [Function.update_self]

/-- The dividend is the one drawn exactly if a high half of 16 or 32 bits is not needed. -/
theorem dividendOf_iff {w : Width} {draw : DivisionDraw} {gpr : Fin 16 → BitVec 64}
    (drawn : Drawn w draw) (forced : Forced w draw gpr) :
    dividendOf w gpr = draw.quotient.toNat * draw.divisor.toNat + draw.remainder.toNat ↔
      NeedsNoHighHalf w draw := by
  have fits := product_lt drawn
  have split := toNat_split draw
  have lowLt := draw.low.isLt
  have highLt := draw.high.isLt
  unfold NeedsNoHighHalf
  cases w with
  | W8 =>
      simp only [dividendOf, Register.value, forced.low, bitsOf, true_or, iff_true] at fits ⊢
      have := split (by omega)
      omega
  | W16 =>
      simp only [dividendOf, Register.value, forced.low, forced.high (by decide), bitsOf,
        reduceCtorEq,
        false_or] at fits ⊢
      have := split (by omega)
      omega
  | W32 =>
      simp only [dividendOf, Register.value, forced.low, forced.high (by decide), bitsOf,
        reduceCtorEq,
        false_or] at fits ⊢
      have := split (by omega)
      omega
  | W64 =>
      have dividend := split fits
      refine iff_of_true ?_ (.inr (.inl rfl))
      rw [dividendOf, Register.value, Register.value, forced.low, forced.high (by decide), bitsOf,
        Nat.mod_eq_of_lt lowLt, Nat.mod_eq_of_lt highLt]
      · exact dividend
      · decide

/-- Dividing the dividend gives back the quotient and the remainder it was built from. -/
theorem divide_drawn {w : Width} {draw : DivisionDraw} (drawn : Drawn w draw) :
    divide w (draw.quotient.toNat * draw.divisor.toNat + draw.remainder.toNat)
      draw.divisor.toNat = some (draw.quotient.toNat, draw.remainder.toNat) := by
  have quotient : (draw.quotient.toNat * draw.divisor.toNat + draw.remainder.toNat) /
      draw.divisor.toNat = draw.quotient.toNat := by
    rw [Nat.mul_comm, Nat.mul_add_div drawn.divisor_pos, Nat.div_eq_of_lt drawn.remainder_lt,
      Nat.add_zero]
  have remainder : (draw.quotient.toNat * draw.divisor.toNat + draw.remainder.toNat) %
      draw.divisor.toNat = draw.remainder.toNat := by
    rw [Nat.mul_comm, Nat.mul_add_mod, Nat.mod_eq_of_lt drawn.remainder_lt]
  have ends : ¬ (draw.divisor.toNat = 0 ∨ 2 ^ bitsOf w ≤ draw.quotient.toNat) :=
    not_or.mpr ⟨drawn.divisor_pos.ne', drawn.quotient_lt.not_ge⟩
  rw [divide, quotient, remainder, if_neg ends]

/-- With the drawn numbers forced, the division goes as drawn exactly where the dividend needs no
high half that the forcing leaves out. -/
theorem dividesAsDrawn_iff {w : Width} {case : DivisionCase} (drawn : Drawn w case.draw)
    (built : case.instruction = some (with1 (mulDivCode .DIV w) (regOf w case.draw.mapped)))
    (forced : Forced w case.draw case.testCase.initial.gpr) :
    DividesAsDrawn w case ↔ NeedsNoHighHalf w case.draw := by
  rw [← dividendOf_iff drawn forced]
  constructor
  · exact fun divides => divides.dividend
  · intro dividend
    have narrow : case.draw.divisor.toNat % 2 ^ bitsOf w = case.draw.divisor.toNat :=
      Nat.mod_eq_of_lt drawn.divisor_lt
    have wide : 2 ^ bitsOf w * 2 ^ bitsOf w ≤ 2 ^ 128 := by
      cases w <;> decide
    refine ⟨drawn.divisor_pos, drawn.remainder_lt, lt_of_lt_of_le (product_lt drawn) wide,
      ⟨_, built, rfl, ?_⟩, dividend, ?_⟩
    · rw [← narrow, ← forced.divisor]
      rfl
    · rw [dividend]
      exact divide_drawn drawn

/-- The biased path as a whole: what it draws, what it builds and what the test case starts with. -/
theorem biasedDivision_drawn (w : Width) (bytes : List (BitVec 8)) :
    (biasedDivision w bytes).Always fun case => Drawn w case.draw ∧
      case.instruction = some (with1 (mulDivCode .DIV w) (regOf w case.draw.mapped)) ∧
      Forced w case.draw case.testCase.initial.gpr := by
  simp only [biasedDivision, always_bind, always_pure]
  refine (drawDivision_drawn w).mono fun draw drawn => ?_
  refine (buildDivision_forces drawn _).mono fun ended forces => ?_
  refine (finishCase_finished _ bytes).mono fun tc finished => ?_
  obtain ⟨values, gpr⟩ := finished.gpr
  refine ⟨drawn, forces.1, ?_⟩
  rw [gpr]
  exact forces.2 values

/-- A DIV of the biased path, which without its draws is what the generator makes, divides as it
was drawn, unless it is one of 16 or 32 bits whose dividend has a high half. -/
theorem division_as_drawn_iff (w : Width) (bytes : List (BitVec 8)) :
    ((fun case => (case.instruction, case.testCase)) <$> biasedDivision w bytes = (do
      let (built, c) ← (genBiasedDiv .DIV w).run { flagsMask := 0 }
      let testCase ← finishCase c bytes
      return (built, testCase))) ∧
    (biasedDivision w bytes).Always fun case =>
      DividesAsDrawn w case ↔ NeedsNoHighHalf w case.draw :=
  ⟨biasedDivision_case w bytes, (biasedDivision_drawn w bytes).mono fun _ ⟨drawn, built, forced⟩ =>
    dividesAsDrawn_iff drawn built forced⟩

/-- The largest operands of 16 bits. -/
def largestDivision : DivisionDraw := ⟨1, 0xFFFF#64, 0xFFFF#64, 0#64⟩

/-- The largest dividend of a width is among the draws. -/
theorem sometimes_largestDivision :
    (drawDivision .W16).Sometimes fun draw => draw = largestDivision := by
  have largest {next : BitVec 64 → Draw DivisionDraw}
      (rest : (next 0xFFFF#64).Sometimes fun draw => draw = largestDivision) :
      (randomImm (bitsOf .W16) >>= next).Sometimes fun draw => draw = largestDivision := by
    simp only [randomImm, sometimes_bind, sometimes_pure]
    refine (sometimes_randomInterestingU64 0xFFFF#64).mono fun value same => ?_
    rw [same]
    exact rest
  rw [drawDivision, sometimes_bind, sometimes_pick]
  refine ⟨1, by decide, largest (largest ?_)⟩
  rw [if_neg (by decide), sometimes_bind, remainderBelow, if_pos (by decide), sometimes_map]
  refine (sometimes_randomInterestingU64 0#64).mono fun value same => ?_
  rw [same]
  rfl

/-- Their dividend is 0xFFFE0001, of which DIV divides 0x0001. -/
theorem division_high_half_lost :
    ¬ (biasedDivision .W16 [0x66#8, 0xF7#8, 0xF1#8]).Always (DividesAsDrawn .W16) := by
  intro divides
  have largest : (biasedDivision .W16 [0x66#8, 0xF7#8, 0xF1#8]).Sometimes fun case =>
      case.draw = largestDivision := by
    rw [biasedDivision, sometimes_bind]
    refine sometimes_largestDivision.mono fun draw same => ?_
    simp only [sometimes_bind, sometimes_pure, same, sometimes_const]
  obtain ⟨case, same, divided, drawn, built, forced⟩ :=
    largest.meets (divides.and (biasedDivision_drawn .W16 [0x66#8, 0xF7#8, 0xF1#8]))
  have low := (dividesAsDrawn_iff drawn built forced).mp divided
  rw [same] at low
  rcases low with byte | qword | small
  · cases byte
  · cases qword
  · exact absurd small (by decide)

end SevenFuzzer
