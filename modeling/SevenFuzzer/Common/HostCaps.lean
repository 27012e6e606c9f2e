import Mathlib.Data.BitVec

/-! # Host capabilities

What the processor the fuzzer runs on can execute, as the generator asks for it:
`probe` reads it off the answers to CPUID and XGETBV.
-/

namespace SevenFuzzer

/-- The instruction-set features of the machine, as the generator asks for them. -/
structure HostCaps where
  avx : Bool := false
  avx2 : Bool := false
  bmi1 : Bool := false
  bmi2 : Bool := false
  avx512f : Bool := false
  avx512vl : Bool := false
  avx512bw : Bool := false
  avx512dq : Bool := false

/-- The four registers `cpuid` writes. -/
structure CpuidRegs where
  eax : BitVec 32 := 0
  ebx : BitVec 32 := 0
  ecx : BitVec 32 := 0
  edx : BitVec 32 := 0

/-- What a processor answers to CPUID, by leaf and subleaf, and to XGETBV. -/
structure Cpu where
  cpuid : BitVec 32 → BitVec 32 → CpuidRegs
  xgetbv : BitVec 32 → BitVec 64

/-- One feature bit of a register. -/
def bit (value : BitVec 32) (index : Nat) : Bool := (value >>> index) &&& 1#32 ≠ 0#32

/-- `HostCaps::probe`: a vector feature counts only when the operating system saves its state. -/
def probe (cpu : Cpu) : HostCaps :=
  let leaf0 := cpu.cpuid 0 0
  if leaf0.eax < 1#32 then {}
  else
    let leaf1 := cpu.cpuid 1 0
    let osxsave := bit leaf1.ecx 27
    let cpuAvx := bit leaf1.ecx 28
    if osxsave = false then {}
    else
      let xcr0 := cpu.xgetbv 0
      let ymmState := xcr0 &&& 0x6#64 = 0x6#64
      let zmmState := xcr0 &&& 0xE6#64 = 0xE6#64
      let caps : HostCaps := { avx := cpuAvx && ymmState }
      if 7#32 ≤ leaf0.eax then
        let leaf7 := cpu.cpuid 7 0
        let caps := { caps with
          bmi1 := bit leaf7.ebx 3
          bmi2 := bit leaf7.ebx 8
          avx2 := caps.avx && bit leaf7.ebx 5 }
        if zmmState then
          let avx512f := bit leaf7.ebx 16
          { caps with
            avx512f := avx512f
            avx512dq := avx512f && bit leaf7.ebx 17
            avx512bw := avx512f && bit leaf7.ebx 30
            avx512vl := avx512f && bit leaf7.ebx 31 }
        else caps
      else caps

end SevenFuzzer
