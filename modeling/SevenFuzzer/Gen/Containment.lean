import SevenFuzzer.Gen.Produced

/-! # Memory containment

Where a test case reads and writes data when it is executed from its initial state:
inside the compared window or the stack page, except for a bit test of memory whose
bit offset in a register leads elsewhere (`contained_iff`).
-/

namespace SevenFuzzer

open Draw InstructionFactory

/-- The address lies in the data window. -/
def InWindow (address : BitVec 64) : Prop :=
  kDataBase.toNat ≤ address.toNat ∧ address.toNat < kDataBase.toNat + kDataWindow

/-- The address lies on the stack page. -/
def InStackPage (address : BitVec 64) : Prop :=
  kStackBase.toNat ≤ address.toNat ∧ address.toNat < kStackBase.toNat + kPageSize

/-- Every byte of the access is in the window or in the stack page. -/
def Access.Contained (access : Access) : Prop :=
  ∀ i < access.size, InWindow (access.address + BitVec.ofNat 64 i) ∨
    InStackPage (access.address + BitVec.ofNat 64 i)

/-- Every byte the instruction accesses is. -/
def Instruction.Contained (instr : Instruction) (state : RegState) : Prop :=
  ∀ access ∈ instr.dataAccesses state, access.Contained

/-- A range of bytes at a distance from the start of the data page lies in the window
or in the stack page, which is the page after. -/
def RangeContained (position : Int) (size : Nat) : Prop :=
  (0 ≤ position ∧ position + size ≤ kDataWindow) ∨
    (kPageSize ≤ position ∧ position + size ≤ 2 * kPageSize)

/-- The bit offset in the register does not lead out of where the operand may be. -/
def Instruction.BitTestStays (instr : Instruction) (gpr : Fin 16 → BitVec 64) : Prop :=
  ∀ m, instr.memory = some m → ∀ w offset, instr.bitOffset gpr = some (w, offset) →
    RangeContained (m.displacement.toInt + bytesOf w * (offset / bitsOf w)) (bytesOf w)

/-- A position relative to the data window, as an address. -/
theorem toNat_position (position : Int) :
    ((kDataBase + BitVec.ofInt 64 position).toNat : Int) =
      (kDataBase.toNat + position) % 2 ^ 64 := by
  simp only [kDataBase, BitVec.toNat_add, BitVec.toNat_ofInt, BitVec.toNat_ofNat]
  omega

/-- The positions of the data window. -/
theorem inWindow_iff {position : Int} (inside : -(2 ^ 61) ≤ position ∧ position < 2 ^ 61) :
    InWindow (kDataBase + BitVec.ofInt 64 position) ↔ 0 ≤ position ∧ position < kDataWindow := by
  have address := toNat_position position
  have base : kDataBase.toNat = 0x100000001000 := rfl
  unfold InWindow kDataWindow
  omega

/-- The positions of the stack page, which follows the data page. -/
theorem inStackPage_iff {position : Int} (inside : -(2 ^ 61) ≤ position ∧ position < 2 ^ 61) :
    InStackPage (kDataBase + BitVec.ofInt 64 position) ↔
      kPageSize ≤ position ∧ position < 2 * kPageSize := by
  have address := toNat_position position
  have base : kDataBase.toNat = 0x100000001000 := rfl
  have stack : kStackBase.toNat = 0x100000002000 := rfl
  unfold InStackPage kPageSize
  omega

/-- An access that is not empty and not larger than the gap between the two places. -/
theorem access_contained_iff {position : Int}
    (inside : -(2 ^ 60) ≤ position ∧ position < 2 ^ 60 + 2 ^ 10) {size : Nat} (positive : 0 < size)
    (small : size ≤ 16) :
    Access.Contained ⟨kDataBase + BitVec.ofInt 64 position, size⟩ ↔
      RangeContained position size := by
  have byte : ∀ i < size,
      (InWindow (kDataBase + BitVec.ofInt 64 position + BitVec.ofNat 64 i) ∨
        InStackPage (kDataBase + BitVec.ofInt 64 position + BitVec.ofNat 64 i)) ↔
      ((0 ≤ position + i ∧ position + i < kDataWindow) ∨
        (kPageSize ≤ position + i ∧ position + i < 2 * kPageSize)) := by
    intro i below
    have moved : kDataBase + BitVec.ofInt 64 position + BitVec.ofNat 64 i =
        kDataBase + BitVec.ofInt 64 (position + i) := by
      rw [BitVec.ofInt_add, BitVec.add_assoc]
      rfl
    rw [moved, inWindow_iff (by omega), inStackPage_iff (by omega)]
  simp only [Access.Contained, RangeContained]
  unfold kDataWindow kPageSize at *
  constructor
  · intro contained
    have first := (byte 0 positive).mp (contained 0 positive)
    have last := (byte (size - 1) (by omega)).mp (contained (size - 1) (by omega))
    omega
  · intro range i below
    exact (byte i below).mpr (by omega)

/-- A forced register starts with its value. -/
theorem pinGpr_forced {c : Ctx} {i : Fin 16} {value : BitVec 64}
    (forced : c.forceGpr i = some value)
    (drawn : Fin 16 → BitVec 64) : pinGpr c drawn i = value := by
  simp only [pinGpr, forced, Option.getD_some]

/-- RSP is pinned unless a family forces it. -/
theorem pinGpr_rsp {c : Ctx} (free : c.forceGpr 4 = none) (drawn : Fin 16 → BitVec 64) :
    pinGpr c drawn 4 = kStackTop := by
  simp only [pinGpr, free, Option.getD_none]
  split
  · rw [Function.update_of_ne (by decide), Function.update_self]
  · rw [Function.update_self]

/-- RDI is pinned where memory is touched, unless a family forces it. -/
theorem pinGpr_rdi {c : Ctx} (touches : c.touchesMemory = true) (free : c.forceGpr 7 = none)
    (drawn : Fin 16 → BitVec 64) : pinGpr c drawn 7 = kDataBase := by
  simp only [pinGpr, free, touches, ↓reduceIte, Option.getD_none, Function.update_self]

/-- What the stack instructions touch is on the stack page. -/
theorem stack_contained {instr : Instruction} {gpr : Fin 16 → BitVec 64} (rsp : gpr 4 = kStackTop) :
    ∀ access ∈ instr.stackAccesses gpr, access.Contained := by
  have below : Access.Contained ⟨kDataBase + BitVec.ofInt 64 0x1EF8, 8⟩ :=
    (access_contained_iff (by omega) (by omega) (by omega)).mpr (.inr (by decide))
  have above : Access.Contained ⟨kDataBase + BitVec.ofInt 64 0x1F00, 8⟩ :=
    (access_contained_iff (by omega) (by omega) (by omega)).mpr (.inr (by decide))
  intro access listed
  unfold Instruction.stackAccesses at listed
  rw [rsp] at listed
  split at listed
  · rw [List.mem_singleton.mp listed]
    exact below
  · rw [List.mem_singleton.mp listed]
    exact below
  · rw [List.mem_singleton.mp listed]
    exact above
  · rw [List.mem_singleton.mp listed]
    exact above
  · cases listed

/-- Without string pointers there are no string accesses. -/
theorem stringAccesses_nil {instr : Instruction}
    (pointers : ∀ op ∈ instr.operands, op.kind.pointer = none) (state : RegState) :
    instr.stringAccesses state = [] := by
  have none : (instr.operands.filterMap fun op => op.kind.pointer) = [] :=
    List.filterMap_eq_nil_iff.mpr pointers
  simp only [Instruction.stringAccesses, none, List.map_nil, List.flatMap_eq_nil_iff, implies_true]

/-- An element on either side of the middle of the window is inside it. -/
theorem stringAccesses_contained {instr : Instruction} {state : RegState} {w : Width}
    (size : instr.code.operands.findSome? OpCodeOperandKind.stringSize = some (bytesOf w))
    (rsi : state.gpr 6 = kMidWindow) (rdi : state.gpr 7 = kMidWindow)
    (once : instr.iterations state.gpr ≤ 1) :
    ∀ access ∈ instr.stringAccesses state, access.Contained := by
  have middle : Access.Contained ⟨kDataBase + BitVec.ofInt 64 0x80, bytesOf w⟩ := by
    cases w <;> exact (access_contained_iff (by omega) (by decide) (by decide)).mpr
      (.inl (by decide))
  intro access listed
  simp only [Instruction.stringAccesses, List.mem_flatMap, List.mem_range, List.mem_map, size,
    Option.getD_some] at listed
  obtain ⟨k, below, pointer, found, rfl⟩ := listed
  obtain rfl : k = 0 := by omega
  have start : state.gpr pointer = kDataBase + BitVec.ofInt 64 0x80 := by
    obtain ⟨op, -, pointed⟩ := List.mem_filterMap.mp found
    unfold OpKind.pointer at pointed
    split at pointed
    · obtain rfl := Option.some.inj pointed
      exact rsi
    · obtain rfl := Option.some.inj pointed
      exact rdi
    · cases pointed
  rw [start, BitVec.zero_mul, BitVec.add_zero]
  exact middle

/-- The displacement is nonnegative. -/
theorem displacement_memOperand {disp : Nat} (small : disp ≤ 0x7F) :
    (memOperand (BitVec.ofNat 8 disp)).displacement = BitVec.ofInt 64 disp := by
  change (BitVec.ofNat 8 disp).signExtend 64 = BitVec.ofInt 64 disp
  have positive : (BitVec.ofNat 8 disp).msb = false := by
    rw [BitVec.msb_eq_decide, BitVec.toNat_ofNat]
    simp only [decide_eq_false_iff_not]
    omega
  rw [BitVec.signExtend_eq_setWidth_of_msb_false positive]
  apply BitVec.eq_of_toNat_eq
  simp only [BitVec.toNat_setWidth, BitVec.toNat_ofNat, BitVec.toNat_ofInt]
  omega

/-- The bounds of the displacement by a bit offset. -/
theorem bitDisplacement_bounds (w : Width) (word : BitVec 64) :
    -(2 ^ 60) ≤ bitDisplacement (some (w, (word.setWidth (bitsOf w)).toInt)) ∧
      bitDisplacement (some (w, (word.setWidth (bitsOf w)).toInt)) < 2 ^ 60 := by
  have low := BitVec.le_toInt (word.setWidth (bitsOf w))
  have high := BitVec.toInt_lt (x := word.setWidth (bitsOf w))
  simp only [bitDisplacement]
  generalize (word.setWidth (bitsOf w)).toInt = offset at low high ⊢
  cases w <;> simp only [bytesOf, bitsOf] at low high ⊢ <;> omega

/-- Only the memory operand is in question. -/
theorem contained_iff_memory {instr : Instruction} {state : RegState}
    (stack : ∀ access ∈ instr.stackAccesses state.gpr, access.Contained)
    (string : ∀ access ∈ instr.stringAccesses state, access.Contained) :
    instr.Contained state ↔ ∀ access ∈ instr.memoryAccesses state.gpr, access.Contained := by
  simp only [Instruction.Contained, Instruction.dataAccesses, List.mem_append]
  constructor
  · exact fun contained access listed => contained access (.inl (.inl listed))
  · rintro memory access ((listed | listed) | listed)
    · exact memory access listed
    · exact stack access listed
    · exact string access listed

/-- Without a memory operand nothing is in question. -/
theorem contained_of_memory_none {instr : Instruction} {state : RegState}
    (memory : instr.memory = none)
    (stack : ∀ access ∈ instr.stackAccesses state.gpr, access.Contained)
    (string : ∀ access ∈ instr.stringAccesses state, access.Contained) :
    instr.Contained state ↔ instr.BitTestStays state.gpr := by
  rw [contained_iff_memory stack string]
  simp only [Instruction.memoryAccesses, Instruction.BitTestStays, memory, List.not_mem_nil,
    reduceCtorEq, false_implies, implies_true]

/-- Without a bit offset a small operand near the start of the window is contained. -/
theorem contained_of_plain (position : Nat) {instr : Instruction} {state : RegState}
    {m : MemoryOperand} (memory : instr.memory = some m) (plain : instr.bitOffset state.gpr = none)
    (address : m.effectiveAddress state.gpr = kDataBase + BitVec.ofInt 64 position)
    (near : position + instr.memorySize ≤ kDataWindow) (size : instr.memorySize ≤ 16)
    (stack : ∀ access ∈ instr.stackAccesses state.gpr, access.Contained)
    (string : ∀ access ∈ instr.stringAccesses state, access.Contained) :
    instr.Contained state ↔ instr.BitTestStays state.gpr := by
  have stays : instr.BitTestStays state.gpr := by
    intro _ _ w offset found
    rw [plain] at found
    cases found
  rw [contained_iff_memory stack string]
  refine iff_of_true (fun access listed => ?_) stays
  simp only [Instruction.memoryAccesses, memory, plain, bitDisplacement, List.mem_singleton]
    at listed
  have still : BitVec.ofInt 64 0 = 0#64 := rfl
  rw [listed, address, still, BitVec.add_zero]
  rcases Nat.eq_zero_or_pos instr.memorySize with empty | positive
  · intro i below
    rw [empty] at below
    cases below
  · unfold kDataWindow at near
    refine (access_contained_iff (by omega) positive size).mpr (.inl ⟨by omega, ?_⟩)
    unfold kDataWindow
    omega

/-- Only a bit test by register adds to the address, and what it adds is the register's signed
value. -/
theorem bitOffset_eq {instr : Instruction} {gpr : Fin 16 → BitVec 64} {w : Width} {offset : Int}
    (found : instr.bitOffset gpr = some (w, offset)) :
    (∃ op entry, instr.code.mnemonic = .bt op ∧ instr.code.operands = [entry, .reg w]) ∧
      ∃ word : BitVec 64, offset = (word.setWidth (bitsOf w)).toInt := by
  unfold Instruction.bitOffset at found
  split at found
  · rename_i mnemonic operands _
    obtain ⟨rfl, rfl⟩ := Prod.mk.inj (Option.some.inj found)
    exact ⟨⟨_, _, mnemonic, operands⟩, _, rfl⟩
  · cases found

/-- A bit test of memory is contained exactly when its offset stays. -/
theorem contained_of_bitTest {instr : Instruction} {state : RegState} {disp : Nat}
    (small : disp ≤ 0x7F) (memory : instr.memory = some (memOperand (BitVec.ofNat 8 disp)))
    (rdi : state.gpr 7 = kDataBase) {w : Width} {offset : Int}
    (found : instr.bitOffset state.gpr = some (w, offset)) (size : instr.memorySize = bytesOf w)
    (stack : ∀ access ∈ instr.stackAccesses state.gpr, access.Contained)
    (string : ∀ access ∈ instr.stringAccesses state, access.Contained) :
    instr.Contained state ↔ instr.BitTestStays state.gpr := by
  obtain ⟨-, word, rfl⟩ := bitOffset_eq found
  obtain ⟨low, high⟩ := bitDisplacement_bounds w word
  have displacement := displacement_memOperand small
  have value : (memOperand (BitVec.ofNat 8 disp)).displacement.toInt = disp := by
    rw [displacement, BitVec.toInt_ofInt]
    exact Int.bmod_eq_of_le (by omega) (by omega)
  have address : (memOperand (BitVec.ofNat 8 disp)).effectiveAddress state.gpr =
      kDataBase + BitVec.ofInt 64 disp := by
    change state.gpr 7 + (memOperand (BitVec.ofNat 8 disp)).displacement = _
    rw [rdi, displacement]
  rw [contained_iff_memory stack string]
  simp only [Instruction.memoryAccesses, Instruction.BitTestStays, memory, found, size, address,
    List.mem_singleton, forall_eq, Option.some.injEq, Prod.mk.injEq, forall_eq', and_imp, value,
    BitVec.add_assoc, ← BitVec.ofInt_add]
  have bounded : 0 < bytesOf w ∧ bytesOf w ≤ 16 := by
    cases w <;> decide
  rw [access_contained_iff ?_ bounded.1 bounded.2]
  · constructor
    · rintro held _ _ rfl rfl
      exact held
    · exact fun held => held _ _ rfl rfl
  · omega

/-- Without a bit test there is no bit offset. -/
theorem bitOffset_none {instr : Instruction} (plain : ∀ op, instr.code.mnemonic ≠ .bt op)
    (gpr : Fin 16 → BitVec 64) : instr.bitOffset gpr = none := by
  cases found : instr.bitOffset gpr with
  | none => rfl
  | some offset =>
      obtain ⟨⟨op, entry, mnemonic, -⟩, -⟩ := bitOffset_eq found
      exact absurd mnemonic (plain op)

/-- What is pinned for an instruction keeps its accesses in place, up to bit offsets. -/
theorem addressed_contained {c : Ctx} {instr : Instruction} (addressed : Addressed c instr)
    {state : RegState} {drawn : Fin 16 → BitVec 64} (pinned : state.gpr = pinGpr c drawn) :
    instr.Contained state ↔ instr.BitTestStays state.gpr := by
  cases addressed with
  | nothing memory pointers stack =>
      apply contained_of_memory_none memory
      · rw [stack state.gpr]
        exact fun _ listed => absurd listed List.not_mem_nil
      · rw [stringAccesses_nil pointers]
        exact fun _ listed => absurd listed List.not_mem_nil
  | stack memory pointers rsp =>
      apply contained_of_memory_none memory
      · exact stack_contained (pinned ▸ pinGpr_rsp rsp drawn)
      · rw [stringAccesses_nil pointers]
        exact fun _ listed => absurd listed List.not_mem_nil
  | window disp small memory size bits pointers touches rdi rsp =>
      have stack : ∀ access ∈ instr.stackAccesses state.gpr, access.Contained :=
        stack_contained (pinned ▸ pinGpr_rsp rsp drawn)
      have string : ∀ access ∈ instr.stringAccesses state, access.Contained := by
        rw [stringAccesses_nil pointers]
        exact fun _ listed => absurd listed List.not_mem_nil
      have base : state.gpr 7 = kDataBase := pinned ▸ pinGpr_rdi touches rdi drawn
      cases found : instr.bitOffset state.gpr with
      | none =>
          refine contained_of_plain disp memory found ?_ ?_ size stack string
          · change state.gpr 7 + (memOperand (BitVec.ofNat 8 disp)).displacement = _
            rw [base, displacement_memOperand small]
          · unfold kDataWindow
            omega
      | some offset =>
          obtain ⟨w, offset⟩ := offset
          obtain ⟨⟨op, entry, mnemonic, operands⟩, -⟩ := bitOffset_eq found
          have width : instr.memorySize = bytesOf w := by
            unfold Instruction.bitTestFits at bits
            rw [mnemonic, operands] at bits
            exact of_decide_eq_true bits
          exact contained_of_bitTest small memory base found width stack string
  | absolute slot small memory code size pointers =>
      refine contained_of_plain (slot * 8) memory (bitOffset_none ?_ _) ?_ ?_ (by omega) ?_ ?_
      · intro op test
        rw [code] at test
        cases test
      · change kDataBase + BitVec.ofNat 64 (slot * 8) = _
        rfl
      · unfold kDataWindow
        omega
      · intro access listed
        simp only [Instruction.stackAccesses, code, List.not_mem_nil] at listed
      · rw [stringAccesses_nil pointers]
        exact fun _ listed => absurd listed List.not_mem_nil
  | string w op memory code size rsi rdi count =>
      apply contained_of_memory_none memory
      · intro access listed
        simp only [Instruction.stackAccesses, code, List.not_mem_nil] at listed
      · apply stringAccesses_contained size
        · rw [pinned]
          exact pinGpr_forced rsi drawn
        · rw [pinned]
          exact pinGpr_forced rdi drawn
        · unfold Instruction.iterations
          split
          · exact le_refl 1
          · rename_i repeated
            obtain ⟨n, small, forced⟩ := count repeated
            rw [pinned, pinGpr_forced forced drawn, BitVec.toNat_ofNat]
            omega

variable {encode : Instruction → Option (List (BitVec 8))} {caps : HostCaps}

/-- The fallback accesses nothing. -/
theorem fallback_contained : fallback.instruction.Contained fallback.testCase.initial ↔
    fallback.instruction.BitTestStays fallback.testCase.initial.gpr :=
  contained_of_memory_none rfl nofun nofun

/-- **Memory containment.** A test case accesses the compared window and the stack page
only, unless it is a bit test of memory whose bit offset in a register leads out. -/
theorem contained_iff (encode : Instruction → Option (List (BitVec 8))) (caps : HostCaps)
    (discarded : Nat) :
    (next encode caps discarded).Always fun ended =>
      ended.1.instruction.Contained ended.1.testCase.initial ↔
        ended.1.instruction.BitTestStays ended.1.testCase.initial.gpr := by
  refine (next_produced discarded).mono fun ended produced => ?_
  rcases produced with fell | accepted
  · rw [fell]
    exact fallback_contained
  · obtain ⟨drawn, pinned⟩ := accepted.finished.gpr
    exact addressed_contained accepted.built.addressed pinned

/-- `BT [RDI], EAX`. -/
def btRdiEax : Instruction := with2 (btRmR .BT .W32) (memOperand 0) (regOf .W32 0)

/-- An encoder that knows this instruction only. -/
def encodesBt (instr : Instruction) : Option (List (BitVec 8)) :=
  if instr = btRdiEax then some [0x0F#8, 0xA3#8, 0x47#8, 0x00#8] else none

/-- The draws of the family, BT, 32 bits, a register offset, memory, no displacement and
EAX; of all ones for RAX; and then whatever follows. -/
def btDraws : List Nat := [15, 0, 1, 1, 1, 0, 0] ++ [0, 18, 99] ++ List.replicate 500 0

/-- A bit offset of minus one leads to the four bytes before the window. -/
theorem bt_leaves_window :
    ((next encodesBt {} 0).run btDraws).map (fun ended =>
      (ended.1.1.testCase.bytes, ended.1.1.instruction.dataAccesses ended.1.1.testCase.initial)) =
      some ([0x0F#8, 0xA3#8, 0x47#8, 0x00#8], [⟨kDataBase + BitVec.ofInt 64 (-4), 4⟩]) ∧
    ¬ Access.Contained ⟨kDataBase + BitVec.ofInt 64 (-4), 4⟩ := by
  constructor
  · decide +kernel
  · intro contained
    have range := (access_contained_iff (by omega) (by omega) (by omega)).mp contained
    simp only [RangeContained, kDataWindow, kPageSize] at range
    omega

end SevenFuzzer
