import SevenFuzzer.Gen.Produced

/-! # The corpus and the host

Which encodings a processor can execute, by the bits of CPUID and XCR0, against
what `next` returns with the capabilities `probe` finds. The SIMD families ask for
them and the BMI family does not, so the corpus stays inside what the host can
execute exactly when the host has BMI1 and BMI2 (`SevenFuzzer.corpus_runs_iff`).
-/

namespace SevenFuzzer

open Draw InstructionFactory

/-- The instructions of BMI1. -/
def Mnemonic.isBmi1 : Mnemonic → Bool
  | .bmi .ANDN | .bmi .BEXTR | .bmi .BLSI | .bmi .BLSMSK | .bmi .BLSR => true
  | _ => false

/-- The instructions of BMI2. -/
def Mnemonic.isBmi2 : Mnemonic → Bool
  | .bmi .BZHI | .bmi .PDEP | .bmi .PEXT | .bmi .MULX | .bmi .RORX | .bmi .SARX | .bmi .SHLX
  | .bmi .SHRX => true
  | _ => false

/-- OSXSAVE, AVX and AVX2, and the SSE and YMM state enabled. -/
structure Cpu.RunsVex (cpu : Cpu) : Prop where
  osxsave : bit (cpu.cpuid 1 0).ecx 27 = true
  avx : bit (cpu.cpuid 1 0).ecx 28 = true
  avx2 : bit (cpu.cpuid 7 0).ebx 5 = true
  sseState : (cpu.xgetbv 0).getLsbD 1 = true
  ymmState : (cpu.xgetbv 0).getLsbD 2 = true

/-- AVX512F, VL, BW and DQ, and the opmask and both ZMM states enabled. -/
structure Cpu.RunsEvex (cpu : Cpu) : Prop where
  avx512f : bit (cpu.cpuid 7 0).ebx 16 = true
  avx512vl : bit (cpu.cpuid 7 0).ebx 31 = true
  avx512bw : bit (cpu.cpuid 7 0).ebx 30 = true
  avx512dq : bit (cpu.cpuid 7 0).ebx 17 = true
  opmaskState : (cpu.xgetbv 0).getLsbD 5 = true
  zmmHi256State : (cpu.xgetbv 0).getLsbD 6 = true
  hi16ZmmState : (cpu.xgetbv 0).getLsbD 7 = true

/-- The processor executes the SIMD encodings it is given. -/
structure Cpu.RunsSimd (cpu : Cpu) (code : Code) : Prop where
  vex : code.mnemonic.isVex = true → cpu.RunsVex
  evex : code.mnemonic.isVex = true → code.form = .EVEX → cpu.RunsEvex

/-- The processor executes what it is given. -/
structure Cpu.Runs (cpu : Cpu) (code : Code) : Prop where
  bmi1 : code.mnemonic.isBmi1 = true → (probe cpu).bmi1 = true
  bmi2 : code.mnemonic.isBmi2 = true → (probe cpu).bmi2 = true
  simd : cpu.RunsSimd code

/-- A bit of the mask is set in what contains the mask. -/
theorem getLsbD_of_mask {word mask : BitVec 64} (enabled : word &&& mask = mask) {index : Nat}
    (masked : mask.getLsbD index = true) : word.getLsbD index = true := by
  have both : (word &&& mask).getLsbD index = true := by rw [enabled, masked]
  rw [BitVec.getLsbD_and, Bool.and_eq_true] at both
  exact both.1

/-- AVX as the probe finds it: the bit, and the state it needs. -/
def Cpu.usableAvx (cpu : Cpu) : Bool :=
  bit (cpu.cpuid 1 0).ecx 28 && decide (cpu.xgetbv 0 &&& 0x6#64 = 0x6#64)

/-- What the probe can find: nothing; and with OSXSAVE AVX alone, or what does not need
the ZMM state, or everything there is. -/
inductive Probed (cpu : Cpu) : HostCaps → Prop where
  | nothing : Probed cpu {}
  | avx (osxsave : bit (cpu.cpuid 1 0).ecx 27 = true) : Probed cpu { avx := cpu.usableAvx }
  | narrow (osxsave : bit (cpu.cpuid 1 0).ecx 27 = true) (bmi1 bmi2 : Bool) :
      Probed cpu
        { avx := cpu.usableAvx
          avx2 := cpu.usableAvx && bit (cpu.cpuid 7 0).ebx 5
          bmi1 := bmi1
          bmi2 := bmi2 }
  | wide (osxsave : bit (cpu.cpuid 1 0).ecx 27 = true) (bmi1 bmi2 : Bool)
      (zmmState : cpu.xgetbv 0 &&& 0xE6#64 = 0xE6#64) :
      Probed cpu
        { avx := cpu.usableAvx
          avx2 := cpu.usableAvx && bit (cpu.cpuid 7 0).ebx 5
          bmi1 := bmi1
          bmi2 := bmi2
          avx512f := bit (cpu.cpuid 7 0).ebx 16
          avx512dq := bit (cpu.cpuid 7 0).ebx 16 && bit (cpu.cpuid 7 0).ebx 17
          avx512bw := bit (cpu.cpuid 7 0).ebx 16 && bit (cpu.cpuid 7 0).ebx 30
          avx512vl := bit (cpu.cpuid 7 0).ebx 16 && bit (cpu.cpuid 7 0).ebx 31 }

/-- What the probe says of the processor. -/
theorem probed (cpu : Cpu) : Probed cpu (probe cpu) := by
  unfold probe
  dsimp only
  split
  · exact .nothing
  split
  · exact .nothing
  rename_i osxsave
  rw [Bool.not_eq_false] at osxsave
  split
  · split
    · rename_i zmmState
      exact .wide osxsave _ _ zmmState
    · exact .narrow osxsave _ _
  · exact .avx osxsave

/-- A processor whose vector state is saved runs VEX. -/
theorem runsVex_of_usable {cpu : Cpu} (osxsave : bit (cpu.cpuid 1 0).ecx 27 = true)
    (usable : (cpu.usableAvx && bit (cpu.cpuid 7 0).ebx 5) = true) : cpu.RunsVex := by
  simp only [Cpu.usableAvx, Bool.and_eq_true, decide_eq_true_eq] at usable
  obtain ⟨⟨avx, state⟩, avx2⟩ := usable
  exact ⟨osxsave, avx, avx2, getLsbD_of_mask state rfl, getLsbD_of_mask state rfl⟩

/-- A host with AVX2, as probed, runs VEX. -/
theorem runsVex_of_probe {cpu : Cpu} (avx2 : (probe cpu).avx2 = true) : cpu.RunsVex := by
  have found := probed cpu
  generalize probe cpu = caps at found avx2
  cases found with
  | nothing => cases avx2
  | avx => cases avx2
  | narrow osxsave => exact runsVex_of_usable osxsave avx2
  | wide osxsave => exact runsVex_of_usable osxsave avx2

/-- A host with the four AVX-512 subsets, as probed, runs EVEX. -/
theorem runsEvex_of_probe {cpu : Cpu} (evexOk : (probe cpu).evexOk = true) : cpu.RunsEvex := by
  have found := probed cpu
  generalize probe cpu = caps at found evexOk
  cases found with
  | nothing => cases evexOk
  | avx => cases evexOk
  | narrow => cases evexOk
  | wide _ _ _ state =>
      simp only [HostCaps.evexOk, Bool.and_eq_true] at evexOk
      obtain ⟨⟨⟨avx512f, -, avx512vl⟩, -, avx512bw⟩, -, avx512dq⟩ := evexOk
      exact ⟨avx512f, avx512vl, avx512bw, avx512dq, getLsbD_of_mask state rfl,
        getLsbD_of_mask state rfl, getLsbD_of_mask state rfl⟩

/-- What the probed host is said to support, it runs. -/
theorem runsSimd_of_supports {cpu : Cpu} {code : Code} (supports : (probe cpu).Supports code) :
    cpu.RunsSimd code where
  vex vex := runsVex_of_probe (supports vex).2.1
  evex vex wide := runsEvex_of_probe ((supports vex).2.2 wide)

variable {encode : Instruction → Option (List (BitVec 8))} {cpu : Cpu}

/-- Every generated vector instruction runs on the host it was generated for. -/
theorem next_runsSimd (encode : Instruction → Option (List (BitVec 8))) (cpu : Cpu)
    (discarded : Nat) :
    (next encode (probe cpu) discarded).Always fun ended =>
      cpu.RunsSimd ended.1.instruction.code := by
  refine (next_produced discarded).mono fun ended produced => ?_
  rcases produced with fell | accepted
  · rw [fell]
    exact ⟨fun vex => absurd vex Bool.false_ne_true, fun vex => absurd vex Bool.false_ne_true⟩
  · exact runsSimd_of_supports accepted.built.host

/-- A row of the BMI table on EAX throughout. -/
def bmiEax (e : BmiEntry) : Instruction :=
  with3 (e.code .W32) (regOf .W32 0) (regOf .W32 0) (regOf .W32 0)

/-- `ANDN EAX, EAX, EAX`. -/
def andnEax : Instruction := bmiEax ⟨.ANDN, .kDstSrcRm, true⟩

/-- `PDEP EAX, EAX, EAX`. -/
def pdepEax : Instruction := bmiEax ⟨.PDEP, .kDstSrcRm, false⟩

/-- Every such row is built for 32-bit registers, whatever the host. -/
theorem sometimes_bmiEax (caps : HostCaps) {e : BmiEntry} (listed : e ∈ kBmi)
    (shape : e.shape = .kDstSrcRm) :
    ∃ c, sometimes (Family.gen caps .gen_bmi)
      (fun result c' => result = some (bmiEax e) ∧ c' = c) {} := by
  refine ⟨if e.writesFlags then { flagsMask := 0x001#64 ||| 0x040#64 ||| 0x080#64 ||| 0x800#64 }
    else {}, ?_⟩
  simp only [Family.gen, genBmi, genBmiEntry, setFlagsMask, touchMemory, sometimes_seq,
    sometimes_lift, sometimes_ite, sometimes_modify, sometimes_pick, sometimes_pickRegIndex,
    sometimes_oneIn Nat.one_lt_two]
  refine ⟨e, listed, false, ?_⟩
  split
  all_goals
    refine ⟨0, 0, (sometimes_oneIn (by decide)).mpr ⟨false, ?_⟩⟩
    simp only [Bool.false_eq_true, ↓reduceIte, bmiForm, shape, sometimes_seq, sometimes_lift,
      sometimes_return, sometimes_pickRegIndex, sometimes_const]
    exact ⟨0, rfl, trivial⟩

/-- An instruction of the family that the encoder accepts is returned for some draws. -/
theorem next_returns_bmiEax {caps : HostCaps} {e : BmiEntry} (listed : e ∈ kBmi)
    (shape : e.shape = .kDstSrcRm) {byte : BitVec 8} {bytes : List (BitVec 8)}
    (encoded : encode (bmiEax e) = some (byte :: bytes)) (discarded : Nat) :
    (next encode caps discarded).Sometimes fun ended => ended.1.instruction = bmiEax e := by
  obtain ⟨c, builds⟩ := sometimes_bmiEax caps listed shape
  refine (sometimes_next (by decide) builds encoded (fun _ => 0) discarded).mono ?_
  exact fun ended returned => returned.1

/-- **The corpus against the host.** On every processor a SIMD instruction is returned
only if the processor executes it; an instruction is returned only if the processor
executes it, for all draws, exactly when the probe finds BMI1 and BMI2. -/
theorem corpus_runs_iff (cpu : Cpu) (discarded : Nat)
    (andn : encode andnEax = some [0xC4#8, 0xE2#8, 0x78#8, 0xF2#8, 0xC0#8])
    (pdep : encode pdepEax = some [0xC4#8, 0xE2#8, 0x7B#8, 0xF5#8, 0xC0#8]) :
    ((next encode (probe cpu) discarded).Always fun ended =>
      cpu.RunsSimd ended.1.instruction.code) ∧
    (((next encode (probe cpu) discarded).Always fun ended =>
        cpu.Runs ended.1.instruction.code) ↔
      (probe cpu).bmi1 = true ∧ (probe cpu).bmi2 = true) := by
  have simd := next_runsSimd encode cpu discarded
  refine ⟨simd, ?_, ?_⟩
  · intro runs
    constructor
    · obtain ⟨ended, returned, runs⟩ :=
        (next_returns_bmiEax (by simp [kBmi]) rfl andn discarded).meets runs
      refine runs.bmi1 ?_
      rw [returned]
      rfl
    · obtain ⟨ended, returned, runs⟩ :=
        (next_returns_bmiEax (by simp [kBmi]) rfl pdep discarded).meets runs
      refine runs.bmi2 ?_
      rw [returned]
      rfl
  · rintro ⟨bmi1, bmi2⟩
    exact simd.mono fun _ runs => ⟨fun _ => bmi1, fun _ => bmi2, runs⟩

/-- An encoder that knows the two BMI instructions only. -/
def encodesBmi (instr : Instruction) : Option (List (BitVec 8)) :=
  if instr = andnEax then some [0xC4#8, 0xE2#8, 0x78#8, 0xF2#8, 0xC0#8]
  else if instr = pdepEax then some [0xC4#8, 0xE2#8, 0x7B#8, 0xF5#8, 0xC0#8]
  else none

/-- A processor with AVX and AVX2, their state enabled, and neither BMI1 nor BMI2. -/
def avxOnlyCpu : Cpu where
  cpuid leaf _ :=
    if leaf = 0 then { eax := 7 }
    else if leaf = 1 then { ecx := 0x18000000 }
    else { ebx := 0x20 }
  xgetbv _ := 0x7

/-- On a host with AVX2 but no BMI, the vector instructions run and the BMI ones decide. -/
theorem corpus_runs_avxOnly :
    ((next encodesBmi (probe avxOnlyCpu) 0).Always fun ended =>
      avxOnlyCpu.RunsSimd ended.1.instruction.code) ∧
    (((next encodesBmi (probe avxOnlyCpu) 0).Always fun ended =>
        avxOnlyCpu.Runs ended.1.instruction.code) ↔
      (probe avxOnlyCpu).bmi1 = true ∧ (probe avxOnlyCpu).bmi2 = true) :=
  corpus_runs_iff avxOnlyCpu 0 (by decide) (by decide)

/-- The draws of the family, ANDN, 32 bits, EAX and EAX, no memory, no displacement, an
immediate of zero, and EAX; and then whatever follows. -/
def andnDraws : List Nat := [25, 0, 1, 0, 0, 1, 0, 99, 0, 0] ++ List.replicate 500 0

/-- ANDN is returned on a processor without BMI1. -/
theorem andn_without_bmi1 :
    ((next encodesBmi (probe avxOnlyCpu) 0).run andnDraws).map (fun ended =>
      (ended.1.1.testCase.bytes, ended.1.1.instruction.code.mnemonic.isBmi1,
        (probe avxOnlyCpu).bmi1)) =
      some ([0xC4#8, 0xE2#8, 0x78#8, 0xF2#8, 0xC0#8], true, false) := by
  decide +kernel

end SevenFuzzer
