import SevenFuzzer.Gen.Produced

/-! # A log beside the test case

Some results are about the draws that led to a test case. Families that also return what they
drew, and a way to finish a test case that does so too, make an attempt with both logs
(`attemptOf`), and attempts with a log make a `next` with that log (`nextOf`). Where
forgetting the log gives back the program of the source, it does so for `next` as well
(`SevenFuzzer.erase_nextOf`).
-/

namespace SevenFuzzer

open Draw

variable {Drawn Filled Log : Type}

/-- One attempt, with the logs of the family and of the rest of the test case. -/
def attemptOf (encode : Instruction → Option (List (BitVec 8)))
    (families : Family → Gen (Option (Instruction × Drawn)))
    (finish : Ctx → List (BitVec 8) → Draw (TestCase × Filled)) :
    Draw (Option (Generated × (Drawn × Filled))) := do
  let fn ← pick kFamilies kFamilies_nonempty
  let (built, c) ← (families fn).run {}
  match built with
  | none => return none
  | some (instr, drawn) =>
      match encode instr with
      | none | some [] => return none
      | some (byte :: bytes) =>
          let (tc, filled) ← finish c (byte :: bytes)
          return some (⟨tc, instr, c⟩, drawn, filled)

/-- The loop of `next`, over attempts with a log. -/
def nextLoopOf (attempts : Draw (Option (Generated × Log))) (fell : Log) :
    Nat → Nat → Draw ((Generated × Nat) × Log)
  | 0, discarded => return ((fallback, discarded), fell)
  | left + 1, discarded => do
      match ← attempts with
      | some (generated, log) => return ((generated, discarded), log)
      | none => nextLoopOf attempts fell left (discarded + 1)

/-- `next` over attempts that carry a log. -/
def nextOf (attempts : Draw (Option (Generated × Log))) (fell : Log) (discarded : Nat) :
    Draw ((Generated × Nat) × Log) :=
  nextLoopOf attempts fell 200 discarded

variable {encode : Instruction → Option (List (BitVec 8))} {caps : HostCaps}

/-- Nothing is logged by a family that has nothing to log. -/
theorem erase_unlogged (prog : Gen (Option Instruction)) (drawn : Drawn) :
    Option.map Prod.fst <$> (Option.map (·, drawn) <$> prog) = prog := by
  rw [Functor.map_map]
  simp only [Option.map_map, Function.comp_def, Option.map_id_fun']
  exact id_map _

/-- An attempt without its log is the source's attempt, if the families and the finish are. -/
theorem erase_attemptOf {families : Family → Gen (Option (Instruction × Drawn))}
    {finish : Ctx → List (BitVec 8) → Draw (TestCase × Filled)}
    (families_erase : ∀ f, Option.map Prod.fst <$> families f = f.gen caps)
    (finish_erase : ∀ c bytes, Prod.fst <$> finish c bytes = finishCase c bytes) :
    Option.map Prod.fst <$> attemptOf encode families finish = attempt encode caps := by
  have run (f : Family) : (fun ended => (Option.map Prod.fst ended.1, ended.2)) <$>
      (families f).run {} = (f.gen caps).run {} := by
    rw [← families_erase, StateT.run_map]
  simp only [attemptOf, attempt, map_bind, ← run, bind_map_left]
  refine bind_congr fun fn => bind_congr fun ended => ?_
  obtain ⟨_ | ⟨instr, drawn⟩, c⟩ := ended
  · rfl
  · dsimp only [Option.map_some]
    rcases encode instr with _ | _ | ⟨byte, bytes⟩
    · rfl
    · rfl
    · simp only [← finish_erase, map_bind, map_pure, bind_map_left, Option.map_some]

/-- The loop without its log is the source's loop, if the attempts are. -/
theorem erase_nextLoopOf {attempts : Draw (Option (Generated × Log))} (fell : Log)
    (erased : Option.map Prod.fst <$> attempts = attempt encode caps) (left discarded : Nat) :
    Prod.fst <$> nextLoopOf attempts fell left discarded = nextLoop encode caps left discarded := by
  induction left generalizing discarded with
  | zero => rfl
  | succ left ih =>
      simp only [nextLoopOf, nextLoop, ← erased, map_bind, bind_map_left]
      refine bind_congr fun result => ?_
      cases result with
      | none => exact ih (discarded + 1)
      | some generated => rfl

/-- The log is no part of the program. -/
theorem erase_nextOf {attempts : Draw (Option (Generated × Log))} (fell : Log)
    (erased : Option.map Prod.fst <$> attempts = attempt encode caps) (discarded : Nat) :
    Prod.fst <$> nextOf attempts fell discarded = next encode caps discarded :=
  erase_nextLoopOf fell erased 200 discarded

/-- What holds of every logged instruction of a family with its context, and of every test case
finished from one, holds of an attempt. -/
theorem attemptOf_from {families : Family → Gen (Option (Instruction × Drawn))}
    {finish : Ctx → List (BitVec 8) → Draw (TestCase × Filled)}
    {family : Ctx → Instruction → Drawn → Prop} {finished : Ctx → TestCase → Filled → Prop}
    (built : ∀ f, always (families f)
      (fun result c => ∀ instr drawn, result = some (instr, drawn) → family c instr drawn) {})
    (finishing : ∀ c bytes, (finish c bytes).Always fun ended => finished c ended.1 ended.2) :
    (attemptOf encode families finish).Always fun ended => ∀ g log, ended = some (g, log) →
      family g.ctx g.instruction log.1 ∧ finished g.ctx g.testCase log.2 := by
  simp only [attemptOf, always_bind, always_pick]
  intro f _
  refine (built f).mono fun ended right => ?_
  obtain ⟨_ | ⟨instr, drawn⟩, c⟩ := ended
  · rintro _ _ ⟨⟩
  · dsimp only
    rcases encode instr with _ | _ | ⟨byte, bytes⟩
    · rintro _ _ ⟨⟩
    · rintro _ _ ⟨⟩
    · simp only [always_bind]
      refine (finishing c (byte :: bytes)).mono fun ended done => ?_
      rintro _ _ ⟨⟩
      exact ⟨right instr drawn rfl, done⟩

/-- What holds of the fallback and of every successful attempt holds of what the loop returns. -/
theorem nextLoopOf_from {attempts : Draw (Option (Generated × Log))} {fell : Log}
    {post : Generated → Log → Prop} (fallen : post fallback fell)
    (attempted : attempts.Always fun ended => ∀ g log, ended = some (g, log) → post g log)
    (left discarded : Nat) :
    (nextLoopOf attempts fell left discarded).Always fun ended => post ended.1.1 ended.2 := by
  induction left generalizing discarded with
  | zero => exact fallen
  | succ left ih =>
      simp only [nextLoopOf, always_bind]
      refine attempted.mono fun ended held => ?_
      cases ended with
      | none => exact ih (discarded + 1)
      | some found => exact held found.1 found.2 rfl

/-- What holds of the fallback and of every attempt holds of what `next` returns. -/
theorem nextOf_from {attempts : Draw (Option (Generated × Log))} {fell : Log}
    (post : Generated → Log → Prop) (fallen : post fallback fell)
    (attempted : attempts.Always fun ended => ∀ g log, ended = some (g, log) → post g log)
    (discarded : Nat) :
    (nextOf attempts fell discarded).Always fun ended => post ended.1.1 ended.2 :=
  nextLoopOf_from fallen attempted 200 discarded

end SevenFuzzer
