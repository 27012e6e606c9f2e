import Mathlib.Data.Option.Basic

/-! # Partially mapped memory

What a memory with mapped and unmapped addresses holds: mapping a region fills with
zeros what was not there, unmapping drops it, and a store reaches an address by its
offset. A memory that is unmapped wherever anything was mapped is empty
(`Mapped.eq_empty_of_within`).
-/

/-- The byte at each mapped address. -/
abbrev Mapped (Address Byte : Type*) := Address → Option Byte

namespace Mapped

variable {Address Byte : Type*} {memory memory' memory'' : Mapped Address Byte}

/-- Nothing is mapped. -/
def empty : Mapped Address Byte := fun _ => none

/-- Maps a region: what was there stays, and the rest of it is zero. -/
def map [Zero Byte] (region : Address → Prop) [DecidablePred region]
    (memory : Mapped Address Byte) :
    Mapped Address Byte :=
  fun address => if region address then some ((memory address).getD 0) else memory address

/-- Unmaps a region and forgets what was there. -/
def unmap (region : Address → Prop) [DecidablePred region] (memory : Mapped Address Byte) :
    Mapped Address Byte :=
  fun address => if region address then none else memory address

/-- Bytes are put where the offset of an address is within them. -/
def store (offset : Address → Nat) (bytes : List Byte) (memory : Mapped Address Byte) :
    Mapped Address Byte :=
  fun address => if inside : offset address < bytes.length then some (bytes.get ⟨_, inside⟩)
    else memory address

/-- Nothing is mapped outside of a region. -/
def Within (region : Address → Prop) (memory : Mapped Address Byte) : Prop :=
  ∀ address, (memory address).isSome → region address

/-- Nothing is mapped that was not mapped before. -/
def NoneAdded (memory memory' : Mapped Address Byte) : Prop :=
  ∀ address, (memory' address).isSome → (memory address).isSome

variable {region region' : Address → Prop}

/-- Nothing is within any region. -/
theorem within_empty : Within region (empty : Mapped Address Byte) :=
  fun _ mapped => absurd mapped Bool.false_ne_true

/-- What is within no region is empty. -/
theorem eq_empty_of_within (within : Within (fun _ => False) memory) : memory = empty :=
  funext fun address => Option.not_isSome_iff_eq_none.mp (within address)

/-- What remains after one of two regions is unmapped is within the other. -/
theorem within_unmap [DecidablePred region]
    (within : Within (fun address => region address ∨ region' address) memory) :
    Within region' (unmap region memory) := by
  intro address mapped
  rw [unmap] at mapped
  split at mapped
  · cases mapped
  · rename_i outside
    exact (within address mapped).resolve_left outside

/-- What is mapped after a region is. -/
theorem isSome_map [Zero Byte] [DecidablePred region] {address : Address} :
    (map region memory address).isSome ↔ region address ∨ (memory address).isSome := by
  rw [map]
  split <;> simp [*]

/-- Outside the region nothing changes. -/
theorem map_of_not [Zero Byte] [DecidablePred region] {address : Address}
    (outside : ¬ region address) : map region memory address = memory address :=
  if_neg outside

/-- What maps nothing more stays within the region. -/
theorem Within.mono (within : Within region memory) (noneAdded : NoneAdded memory memory') :
    Within region memory' :=
  fun address mapped => within address (noneAdded address mapped)

/-- Two operations that map nothing more. -/
theorem NoneAdded.trans (first : NoneAdded memory memory') (second : NoneAdded memory' memory'') :
    NoneAdded memory memory'' :=
  fun address mapped => first address (second address mapped)

/-- Storing into what is mapped maps nothing more. -/
theorem noneAdded_store {offset : Address → Nat} {bytes : List Byte}
    (mapped : ∀ address, offset address < bytes.length → (memory address).isSome) :
    NoneAdded memory (store offset bytes memory) := by
  intro address stored
  by_cases inside : offset address < bytes.length
  · exact mapped address inside
  · rwa [store, dif_neg inside] at stored

/-- And unmaps nothing. -/
theorem isSome_store {offset : Address → Nat} {bytes : List Byte} {address : Address}
    (mapped : (memory address).isSome) : (store offset bytes memory address).isSome := by
  rw [store]
  split
  · rfl
  · exact mapped

end Mapped
