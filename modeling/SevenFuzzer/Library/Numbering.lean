import Mathlib.Data.List.Nodup

/-! # Numbered entries

Entries that were given the numbers from zero on, once each, are one sequence in the order of
their numbers, in whatever order they are listed (`Numbering.exists_sequence`), and are what
its contents make at their places (`Numbering.mapIdx_content`). Of all entries of a kind, the
first ones up to a limit are those that were put first (`Numbering.take_filter_of_first`).
-/

namespace Numbering

variable {Entry : Type*}

/-- Entries with the numbers from zero can be put in their order. -/
theorem exists_sequence (number : Entry → Nat) {entries : List Entry}
    (numbered : (entries.map number).Perm (List.range entries.length)) :
    ∃ sequence : List Entry, sequence.Perm entries ∧
      sequence.map number = List.range sequence.length := by
  have permuted := entries.mergeSort_perm fun a b => decide (number a ≤ number b)
  have sorted : (entries.mergeSort fun a b => decide (number a ≤ number b)).Pairwise
      fun a b => decide (number a ≤ number b) = true := by
    apply List.pairwise_mergeSort
    · intro a b c first second
      exact decide_eq_true (Nat.le_trans (of_decide_eq_true first) (of_decide_eq_true second))
    · intro a b
      rcases Nat.le_total (number a) (number b) with below | below
      · simp [below]
      · simp [below]
  refine ⟨_, permuted, ?_⟩
  rw [permuted.length_eq]
  apply ((permuted.map number).trans numbered).eq_of_pairwise
  · intro a b _ _ below above
    exact Nat.le_antisymm below above
  · exact List.pairwise_map.mpr (sorted.imp of_decide_eq_true)
  · exact List.pairwise_le_range

/-- In that order they are rebuilt from their contents. -/
theorem mapIdx_content {Content : Type*} (number : Entry → Nat) (content : Entry → Content)
    (build : Nat → Content → Entry) {sequence : List Entry}
    (numbered : sequence.map number = List.range sequence.length)
    (rebuilt : ∀ entry ∈ sequence, build (number entry) (content entry) = entry) :
    (sequence.map content).mapIdx build = sequence := by
  apply List.ext_getElem
  · rw [List.length_mapIdx, List.length_map]
  · intro i _ inside
    have here : number sequence[i] = i := by
      have at_ := List.getElem_of_eq numbered (i := i) (by rwa [List.length_map])
      rwa [List.getElem_map, List.getElem_range] at at_
    rw [List.getElem_mapIdx, List.getElem_map]
    nth_rewrite 1 [← here]
    exact rebuilt _ (List.getElem_mem inside)

/-- Entries of a kind that only others come before are the ones up to the limit, if there are as
many, or if no others follow. -/
theorem take_filter_of_first {kind : Entry → Bool} {before first rest : List Entry} {limit : Nat}
    (none : ∀ entry ∈ before, kind entry = false) (all : ∀ entry ∈ first, kind entry = true)
    (below : first.length ≤ limit)
    (full : first.length = limit ∨ ∀ entry ∈ rest, kind entry = false) :
    ((before ++ (first ++ rest)).filter kind).take limit = first := by
  have others {entries : List Entry} (none : ∀ entry ∈ entries, kind entry = false) :
      entries.filter kind = [] := by
    apply List.filter_eq_nil_iff.mpr
    intro entry listed
    rw [none entry listed]
    exact Bool.false_ne_true
  rw [List.filter_append, List.filter_append, others none, List.filter_eq_self.mpr all,
    List.nil_append]
  rcases full with reached | none
  · exact List.take_left' reached
  · rw [others none, List.append_nil]
    exact List.take_of_length_le below

/-- One more of a kind is taken while there are fewer than the limit. -/
theorem take_concat {entries : List Entry} {entry : Entry} {limit : Nat} :
    (entries ++ [entry]).take limit =
      entries.take limit ++ if entries.length < limit then [entry] else [] := by
  split
  · rename_i below
    have one : (entries ++ [entry]).length ≤ limit := by
      rw [List.length_append, List.length_singleton]
      exact below
    rw [List.take_of_length_le one, List.take_of_length_le (Nat.le_of_lt below)]
  · rename_i above
    rw [List.append_nil, List.take_append_of_le_length (Nat.le_of_not_lt above)]

end Numbering
