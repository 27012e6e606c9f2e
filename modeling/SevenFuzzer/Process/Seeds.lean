import Mathlib.Data.BitVec
import SevenFuzzer.Process.Accounting
import SevenFuzzer.Process.Attribution

/-! # The seeds of workers and children

The mixing function is a chain of steps that can each be undone, so that neither two
workers of a run nor two children of a sweep share a seed (`SevenFuzzer.seeds_never_collide`).
A run on one thread therefore has the seed of the first worker only: the test cases of the
other workers are not among those it generates (`SevenFuzzer.rerun_reproduces_iff`).
-/

namespace SevenFuzzer

/-- With any worker the base can be recovered. -/
theorem mixSeed_bijective (workerId : BitVec 32) :
    Function.Bijective fun base => mixSeed base workerId := by
  have finite : Finite (BitVec 64) := Finite.of_equiv _ BitVec.equivFin.symm.toEquiv
  have first := mul_injective 0xBF58476D1CE4E5B9#64 0x96DE1B173F119089#64 (by decide)
  have second := mul_injective 0x94D049BB133111EB#64 0x319642B2D24D8EC3#64 (by decide)
  refine Finite.injective_iff_bijective.mp fun base base' same => ?_
  have spread := xorShift_injective (by decide) (first (xorShift_injective (by decide) (second
    (xorShift_injective (by decide) same))))
  exact add_right_cancel spread

/-- The generator of a worker is seeded with this. -/
def workerSeed (seed : BitVec 64) (w : Nat) : BitVec 64 := mixSeed seed (BitVec.ofNat 32 w)

/-- Different workers get different seeds. -/
theorem workerSeed_injective (seed : BitVec 64) {w w' : Nat} (w_lt : w < 2 ^ 32)
    (w'_lt : w' < 2 ^ 32) (same : workerSeed seed w = workerSeed seed w') : w = w' := by
  have worker := congrArg BitVec.toNat (mixSeed_injective seed same)
  rwa [BitVec.toNat_ofNat, BitVec.toNat_ofNat, Nat.mod_eq_of_lt w_lt, Nat.mod_eq_of_lt w'_lt]
    at worker

/-- The worker ids for which the mixing function's increment does not overflow. -/
def kWorkerIds : Set Nat := {id | id ≤ 2 ^ 31 - 2}

/-- No two workers of a run have the same seed, no two children of a sweep have the same
seed or the same place for one of their outputs, and every seed is mixed from one base. -/
theorem seeds_never_collide :
    (∀ base, Set.InjOn (fun id : Nat => mixSeed base (BitVec.ofNat 32 id)) kWorkerIds) ∧
      (∀ workerId, Function.Bijective fun base => mixSeed base workerId) ∧
      (∀ (iterations seed : BitVec 64) (requested hwConc : BitVec 32)
        (w w' : Fin (clampThreads iterations requested hwConc).toNat),
        workerSeed seed w = workerSeed seed w' → w = w') ∧
      ∀ (cfg : Config) (i j : Fin cfg.sweepSeeds.toNat),
        (mixSeed cfg.seed (BitVec.ofNat 32 i) = mixSeed cfg.seed (BitVec.ofNat 32 j) → i = j) ∧
          ∀ kind : Output, kind.dst (seedTag cfg i) = kind.dst (seedTag cfg j) → i = j := by
  have workers (threads : BitVec 32) (w : Fin threads.toNat) : w.val < 2 ^ 32 :=
    lt_trans w.isLt threads.isLt
  refine ⟨fun base id within id' within' same => ?_, mixSeed_bijective, ?_, ?_⟩
  · have small {id : Nat} (within : id ∈ kWorkerIds) : id < 2 ^ 32 :=
      lt_of_le_of_lt within (by decide)
    exact workerSeed_injective base (small within) (small within') same
  · intro iterations seed requested hwConc w w' same
    exact Fin.ext (workerSeed_injective seed (workers _ w) (workers _ w') same)
  · refine fun cfg i j => ⟨fun same => ?_, fun kind same => ?_⟩
    · exact Fin.ext (workerSeed_injective cfg.seed (workers _ i) (workers _ j) same)
    · exact Fin.ext (seedTag_injective cfg (workers _ i) (workers _ j) (kind.dst_injective same))

/-- What main asks for: the number given, or one the host suggests. -/
def wantedThreads (requested hwConc : BitVec 32) : BitVec 32 :=
  if requested = 0#32 then
    if hwConc = 0#32 then 4#32 else if 4#32 < hwConc then hwConc - 2#32 else hwConc
  else requested

/-- At least one thread is wanted. -/
theorem wantedThreads_pos (requested hwConc : BitVec 32) :
    0 < (wantedThreads requested hwConc).toNat := by
  unfold wantedThreads
  split
  · split
    · decide
    · split <;> bv_omega
  · bv_omega

/-- One is wanted exactly if one is asked for or the machine has one. -/
theorem wantedThreads_eq_one_iff {requested hwConc : BitVec 32} :
    (wantedThreads requested hwConc).toNat = 1 ↔
      requested = 1#32 ∨ (requested = 0#32 ∧ hwConc = 1#32) := by
  unfold wantedThreads
  split
  · split
    · bv_omega
    · split <;> bv_omega
  · bv_omega

/-- As many workers as are wanted, but no more than there are iterations, and at least one. -/
theorem toNat_clampThreads (iterations : BitVec 64) (requested hwConc : BitVec 32) :
    (clampThreads iterations requested hwConc).toNat =
      max 1 (min (wantedThreads requested hwConc).toNat iterations.toNat) := by
  have positive := wantedThreads_pos requested hwConc
  change (if (if iterations < (wantedThreads requested hwConc).setWidth 64 then
      (if iterations = 0#64 then 1#64 else iterations).setWidth 32
    else wantedThreads requested hwConc) = 0#32 then 1#32
      else if iterations < (wantedThreads requested hwConc).setWidth 64 then
        (if iterations = 0#64 then 1#64 else iterations).setWidth 32
      else wantedThreads requested hwConc).toNat = _
  generalize wantedThreads requested hwConc = wanted at positive ⊢
  have bound := wanted.isLt
  have wide : (wanted.setWidth 64).toNat = wanted.toNat := by
    rw [BitVec.toNat_setWidth, Nat.mod_eq_of_lt (by omega)]
  rcases eq_or_ne iterations 0#64 with rfl | some_
  · have fewer : 0#64 < wanted.setWidth 64 := by
      rw [BitVec.lt_def, wide]
      exact positive
    rw [if_pos fewer]
    exact (max_eq_left ((min_le_right _ _).trans (Nat.zero_le 1))).symm
  · have several := toNat_pos_of_ne_zero some_
    rw [if_neg some_]
    by_cases fewer : iterations < wanted.setWidth 64
    · have below : iterations.toNat < wanted.toNat := wide ▸ fewer
      have narrow : (iterations.setWidth 32).toNat = iterations.toNat := by
        rw [BitVec.toNat_setWidth, Nat.mod_eq_of_lt (by omega)]
      rw [if_pos fewer, if_neg (by bv_omega), narrow]
      omega
    · have enough : wanted.toNat ≤ iterations.toNat := wide ▸ Nat.le_of_not_lt fewer
      rw [if_neg fewer, if_neg (by bv_omega)]
      omega

/-- The test case of a worker in a round, for what a generator makes of its seed. -/
def workerCase (generate : BitVec 64 → Nat → TestCase) (seed : BitVec 64) (w i : Nat) : TestCase :=
  generate (workerSeed seed w) i

/-- A worker of the run on so many threads generates the test case in one of its rounds. -/
def GeneratedIn (generate : BitVec 64 → Nat → TestCase) (seed iterations : BitVec 64)
    (threads : BitVec 32) (tc : TestCase) : Prop :=
  ∃ w : Fin threads.toNat, ∃ i < (shareOf iterations threads (BitVec.ofNat 32 w)).toNat,
    workerCase generate seed w i = tc

/-- The run that the watchdog asks for, on one thread with the same seed, generates every
test case of the run, whatever the generator is. -/
def Reproduces (seed iterations : BitVec 64) (requested hwConc : BitVec 32) : Prop :=
  ∀ generate tc,
    GeneratedIn generate seed iterations (clampThreads iterations requested hwConc) tc →
      GeneratedIn generate seed iterations (clampThreads iterations 1#32 hwConc) tc

/-- One worker runs exactly if one is wanted or there is no more than one iteration. -/
theorem clampThreads_eq_one_iff {iterations : BitVec 64} {requested hwConc : BitVec 32} :
    clampThreads iterations requested hwConc = 1#32 ↔
      requested = 1#32 ∨ iterations ≤ 1#64 ∨ (requested = 0#32 ∧ hwConc = 1#32) := by
  have few : iterations ≤ 1#64 ↔ iterations.toNat ≤ 1 := Iff.rfl
  have single : clampThreads iterations requested hwConc = 1#32 ↔
      (clampThreads iterations requested hwConc).toNat = 1 := BitVec.toNat_inj.symm
  have positive := wantedThreads_pos requested hwConc
  rw [single, toNat_clampThreads, few, or_left_comm, ← wantedThreads_eq_one_iff]
  omega

/-- A generator that tells the second worker's seed from the others. -/
def marksSecond (seed : BitVec 64) (s : BitVec 64) (_ : Nat) : TestCase :=
  if s = workerSeed seed 1 then { bytes := [0x90#8] } else {}

/-- A run that is reproduced by one worker had one. -/
theorem single_of_reproduces {seed iterations : BitVec 64} {requested hwConc : BitVec 32}
    (reproduces : Reproduces seed iterations requested hwConc) :
    clampThreads iterations requested hwConc = 1#32 := by
  by_contra several
  have one : clampThreads iterations 1#32 hwConc = 1#32 := clampThreads_eq_one_iff.mpr (.inl rfl)
  have some_ := clampThreads_pos iterations requested hwConc
  have second : 1 < (clampThreads iterations requested hwConc).toNat :=
    Nat.lt_of_le_of_ne some_ fun same => several (BitVec.eq_of_toNat_eq same.symm)
  have nonzero : iterations ≠ 0#64 := by
    rintro rfl
    exact several (clampThreads_eq_one_iff.mpr (.inr (.inl (by decide))))
  have worked : 0 < (shareOf iterations (clampThreads iterations requested hwConc) 1#32).toNat := by
    rw [show (1#32) = BitVec.ofNat 32 1 from rfl, toNat_shareOf iterations second]
    exact Nat.add_pos_left (Nat.div_pos (clampThreads_le nonzero requested hwConc) some_) _
  obtain ⟨w, i, -, same⟩ := reproduces (marksSecond seed) _ ⟨⟨1, second⟩, 0, worked, rfl⟩
  have first : w.val = 0 :=
    Nat.lt_one_iff.mp (lt_of_lt_of_eq w.isLt (congrArg BitVec.toNat one))
  have apart : workerSeed seed 0 ≠ workerSeed seed 1 := fun collide =>
    Nat.zero_ne_one (workerSeed_injective seed (by decide) (by decide) collide)
  rw [first, workerCase, workerCase, marksSecond, marksSecond, if_neg apart, if_pos rfl] at same
  exact List.cons_ne_nil _ _ (congrArg TestCase.bytes same).symm

/-- The run on one thread generates what the run has generated if and only if that had one
worker too: it was asked for one, has one iteration at most, or the host has one thread. -/
theorem rerun_reproduces_iff (seed iterations : BitVec 64) (requested hwConc : BitVec 32) :
    Reproduces seed iterations requested hwConc ↔
      requested = 1#32 ∨ iterations ≤ 1#64 ∨ (requested = 0#32 ∧ hwConc = 1#32) := by
  rw [← clampThreads_eq_one_iff]
  refine ⟨single_of_reproduces, fun single generate tc generated => ?_⟩
  have one : clampThreads iterations 1#32 hwConc = 1#32 := clampThreads_eq_one_iff.mpr (.inl rfl)
  rwa [single, ← one] at generated

/-- Two iterations on two threads: the test case of the second worker is not generated by
the run on one thread. -/
theorem rerun_misses_second : ¬ Reproduces 0#64 2#64 2#32 8#32 := fun reproduces =>
  absurd (single_of_reproduces reproduces) (by decide)

end SevenFuzzer
