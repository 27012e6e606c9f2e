import SevenFuzzer.Common.Types
import SevenFuzzer.Library.Words

/-! # The memory a test case starts in

Every lane gives its engine the same three pages: the code, the seed at the start of
the data page, and a return address at the top of the stack. `initialMemory` states
this once, independently of how a lane brings it about.
-/

namespace SevenFuzzer

/-- The bytes of the three pages; what is not written is zero. -/
def initialMemory (tc : TestCase) (address : BitVec 64) : BitVec 8 :=
  if inside : (address - kDataBase).toNat < kDataWindow then
    tc.dataSeed ⟨(address - kDataBase).toNat, inside⟩
  else if (address - kStackTop).toNat < 8 then byteOf kCodeBase (address - kStackTop).toNat
  else if (address - kCodeBase).toNat < kPageSize then
    tc.bytes.getD (address - kCodeBase).toNat 0
  else 0

/-- The qword at an address, lowest byte first. -/
def readQword (memory : BitVec 64 → BitVec 8) (address : BitVec 64) : BitVec 64 :=
  BitVec.ofNat 64 (Nat.ofDigits 256 ((List.range 8).map fun i =>
    (memory (address + BitVec.ofNat 64 i)).toNat))

/-- A byte of a quadword, as a number. -/
theorem toNat_byteOf (value : BitVec 64) (i : Nat) :
    (byteOf value i).toNat = value.toNat / 2 ^ (8 * i) % 256 := by
  rw [byteOf, BitVec.toNat_setWidth, BitVec.toNat_ushiftRight, Nat.shiftRight_eq_div_pow]

/-- A quadword is read back from its bytes. -/
theorem readQword_of_bytes {memory : BitVec 64 → BitVec 8} {address value : BitVec 64}
    (stored : ∀ i < 8, memory (address + BitVec.ofNat 64 i) = byteOf value i) :
    readQword memory address = value := by
  have read : Nat.ofDigits 256 ((List.range 8).map fun i =>
      (memory (address + BitVec.ofNat 64 i)).toNat) = value.toNat % 2 ^ (8 * 8) :=
    Words.ofDigits_bytes fun i below => by rw [stored i below, toNat_byteOf]
  apply BitVec.eq_of_toNat_eq
  rw [readQword, read, BitVec.toNat_ofNat, Nat.mod_mod, Nat.mod_eq_of_lt value.isLt]

/-- The distance from a base is what was added to it. -/
theorem offset_toNat (base : BitVec 64) {n : Nat} (small : n < 2 ^ 64) :
    (base + BitVec.ofNat 64 n - base).toNat = n := by
  rw [BitVec.add_comm, BitVec.add_sub_cancel, BitVec.toNat_ofNat, Nat.mod_eq_of_lt small]

/-- The return address lies at the top of the stack. -/
theorem readQword_stackTop (tc : TestCase) :
    readQword (initialMemory tc) kStackTop = kCodeBase := by
  apply readQword_of_bytes
  intro i below
  have outside : ¬ (kStackTop + BitVec.ofNat 64 i - kDataBase).toNat < kDataWindow := by
    have stack : kStackTop.toNat = 0x100000002F00 := by decide
    have data : kDataBase.toNat = 0x100000001000 := by decide
    rw [BitVec.toNat_sub, BitVec.toNat_add, BitVec.toNat_ofNat, stack, data, kDataWindow]
    omega
  have offset := offset_toNat kStackTop (show i < 2 ^ 64 by omega)
  rw [initialMemory, dif_neg outside, offset, if_pos below]

/-- A byte of the seed. -/
theorem initialMemory_seed (tc : TestCase) {offset i : Nat} (inside : offset + i < kDataWindow) :
    initialMemory tc (kDataBase + BitVec.ofNat 64 offset + BitVec.ofNat 64 i) =
      tc.dataSeed ⟨offset + i, inside⟩ := by
  have position : (kDataBase + BitVec.ofNat 64 offset + BitVec.ofNat 64 i - kDataBase).toNat =
      offset + i := by
    rw [BitVec.add_assoc, ← BitVec.ofNat_add]
    unfold kDataWindow at inside
    exact offset_toNat kDataBase (by omega)
  rw [initialMemory, dif_pos (position ▸ inside)]
  congr 2

/-- A qword of the seed. -/
theorem readQword_seed {tc : TestCase} {offset : Nat} {value : BitVec 64}
    (inside : offset + 8 ≤ kDataWindow)
    (seeded : ∀ i (below : i < 8), tc.dataSeed ⟨offset + i, by omega⟩ = byteOf value i) :
    readQword (initialMemory tc) (kDataBase + BitVec.ofNat 64 offset) = value := by
  apply readQword_of_bytes
  intro i below
  rw [initialMemory_seed tc (show offset + i < kDataWindow by omega)]
  exact seeded i below

end SevenFuzzer
