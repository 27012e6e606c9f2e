import SevenFuzzer.Process.Watchdog

/-! # The supervisor's wait for a child

`run_seed_sweep` waits for a child as long as the child's watchdog may take, a minute and
the time of its test cases more. It computes this in 32 bits, the watchdog its own timeout
in 64: the supervisor waits longer exactly if its sum has not wrapped
(`SevenFuzzer.supervisor_outlasts_iff`).
-/

namespace SevenFuzzer

variable {threads : Nat}

/-- `supervisor_timeout_ms` -/
def supervisorTimeoutMs (watchdogSeconds : BitVec 32) (iterationsPerSeed : BitVec 64) : BitVec 32 :=
  (watchdogSeconds + 60#32) * 1000#32 +
    (if iterationsPerSeed < 600000#64 then iterationsPerSeed else 600000#64).setWidth 32

/-- The milliseconds the supervisor means to wait. -/
def intendedWait (watchdogSeconds : BitVec 32) (iterationsPerSeed : BitVec 64) : Nat :=
  (watchdogSeconds.toNat + 60) * 1000 + min iterationsPerSeed.toNat 600000

/-- The computed wait is the intended one, cut to 32 bits. -/
theorem toNat_supervisorTimeoutMs (watchdogSeconds : BitVec 32) (iterationsPerSeed : BitVec 64) :
    (supervisorTimeoutMs watchdogSeconds iterationsPerSeed).toNat =
      intendedWait watchdogSeconds iterationsPerSeed % 2 ^ 32 := by
  have capped : ((if iterationsPerSeed < 600000#64 then iterationsPerSeed
      else 600000#64).setWidth 32).toNat = min iterationsPerSeed.toNat 600000 := by
    rw [BitVec.toNat_setWidth]
    split
    · rename_i fewer
      have small : iterationsPerSeed.toNat < 600000 := fewer
      omega
    · rename_i enough
      have large : 600000 ≤ iterationsPerSeed.toNat := Nat.le_of_not_lt enough
      rw [BitVec.toNat_ofNat]
      omega
  simp only [supervisorTimeoutMs, intendedWait, BitVec.toNat_add, BitVec.toNat_mul,
    BitVec.toNat_ofNat, capped]
  omega

/-- The supervisor of a child waits longer than the child's watchdog. -/
def SupervisorOutlasts (cfg : RunConfig threads) : Prop :=
  cfg.timeoutMs.toNat < (supervisorTimeoutMs cfg.watchdogSeconds cfg.iterations).toNat

/-- The supervisor waits longer than the watchdog of a child if and only if what it means to
wait fits into 32 bits. -/
theorem supervisor_outlasts_iff (cfg : RunConfig threads) :
    SupervisorOutlasts cfg ↔ intendedWait cfg.watchdogSeconds cfg.iterations < 2 ^ 32 := by
  have most : intendedWait cfg.watchdogSeconds cfg.iterations ≤
      cfg.watchdogSeconds.toNat * 1000 + 660000 := by
    unfold intendedWait
    omega
  have least : cfg.watchdogSeconds.toNat * 1000 <
      intendedWait cfg.watchdogSeconds cfg.iterations := by
    unfold intendedWait
    omega
  rw [SupervisorOutlasts, cfg.timeoutMs_toNat, toNat_supervisorTimeoutMs]
  omega

/-- A watchdog of fifty days and a hundred million test cases: the supervisor waits for eleven
minutes. -/
theorem supervisor_wraps : ¬ SupervisorOutlasts (⟨100000000#64, 4294967#32⟩ : RunConfig 1) := by
  unfold SupervisorOutlasts
  decide

end SevenFuzzer
