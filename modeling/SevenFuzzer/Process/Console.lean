import SevenFuzzer.Process.Schedule

/-! # What a run writes

A round is called to a section under `io_mutex` by what it draws from the shared counters: a
finding by its index, an outlier by one below the limit, a line of progress by every five
thousandth of `total_done`, an error of the hardware lane by its count, and from
`--verbose-from` on every round by its own number. Whatever the interleaving, at every moment
of a run without exceptions each section the counters call for has been left or is owed by
one worker (`SevenFuzzer.Console.balance`); when all workers have returned, each has been
written, once (`SevenFuzzer.console_complete`).
-/

namespace SevenFuzzer

open Transition

variable {threads : Nat}

/-- Whether a worker has been called to a section that it has not left. -/
def WorkerPoint.owes (work : RoundSection) : WorkerPoint → Nat
  | .inRound _ (.io _ work') => if work' = work then 1 else 0
  | _ => 0

/-- Whether a worker leaves a section by its step. -/
def WorkerPoint.leaves (work : RoundSection) : WorkerPoint → WorkerOp → Nat
  | .inRound _ (.io true work'), .unlockIo => if work' = work then 1 else 0
  | _, _ => 0

/-- Whether a section is left at a moment of a run. -/
def ThreadsState.leaves (work : RoundSection) (s : ThreadsState threads) :
    ThreadsEvent threads → Nat
  | .worker w op => (s.workers w).point.leaves work op
  | _ => 0

/-- How often a section has been written in a run. -/
def written (work : RoundSection) (trace : List (ThreadsState threads × ThreadsEvent threads)) :
    Nat :=
  (trace.map fun moment => moment.1.leaves work moment.2).sum

/-- How often the counters have called a worker to a section. -/
def SharedCounters.called (counters : SharedCounters) : RoundSection → Nat
  | .running => 0
  | .harnessError => counters.hwHarnessErrors.toNat
  | .outlier oidx =>
      if oidx.toNat < min counters.unicornOutlierSaved.toNat kMaxDumpFilesPerDir.toNat then 1 else 0
  | .finding idx => if idx.toNat < counters.findingCount.toNat then 1 else 0
  | .progress => counters.totalDone.toNat / 5000

/-- A round whose number is printed. -/
def verboseRound (verboseFrom : BitVec 64) (i : Nat) : Bool :=
  decide (verboseFrom ≤ BitVec.ofNat 64 i)

/-- The round's header has been printed. -/
def RoundPoint.begun : RoundPoint → Bool
  | .generated => false
  | _ => true

/-- How often a worker has been called to a section by the number of its round. -/
def WorkerPoint.called (verboseFrom : BitVec 64) (share : Nat) (work : RoundSection)
    (point : WorkerPoint) : Nat :=
  if work = .running then countPast RoundPoint.begun share (verboseRound verboseFrom) point else 0

section

variable {share i : Nat} {verboseFrom : BitVec 64} {usesHw : Bool}
  {counters counters' : SharedCounters}
  {point : WorkerPoint} {before after : RoundPoint} {op : WorkerOp} {result : WorkerResult}

/-- A step by which a worker is called to no section and leaves none. -/
def Silent (verboseFrom : BitVec 64) (share : Nat) (point point' : WorkerPoint) : Prop :=
  ∀ work, point'.owes work = point.owes work ∧
    point'.called verboseFrom share work = point.called verboseFrom share work

/-- A worker is called to sections and leaves them as the counters and its rounds go on. -/
def Called (verboseFrom : BitVec 64) (share : Nat) (point : WorkerPoint) (op : WorkerOp)
    (counters : SharedCounters) (result : WorkerResult) : Prop :=
  ∀ work, point.leaves work op + result.point.owes work +
      (counters.called work + point.called verboseFrom share work) =
    point.owes work + (result.counters.called work + result.point.called verboseFrom share work)

/-- An operation that prints nothing and counts nothing owes nothing. -/
theorem called_of_silent (silent : Silent verboseFrom share point result.point)
    (stays : ∀ work, point.leaves work op = 0)
    (kept : ∀ work, result.counters.called work = counters.called work) :
    Called verboseFrom share point op counters result := by
  intro work
  rw [stays, kept, (silent work).1, (silent work).2, Nat.zero_add]

/-- Once it has begun, a round is called to a section by the counters alone. -/
theorem called_begun (begun : before.begun = true) (begun' : after.begun = true)
    (work : RoundSection) :
    (WorkerPoint.inRound i after).called verboseFrom share work =
      (WorkerPoint.inRound i before).called verboseFrom share work := by
  simp only [WorkerPoint.called, countPast, roundsPast, begun, begun']

/-- Most operations of a round print nothing. -/
theorem silent_inRound (begun : before.begun = true) (begun' : after.begun = true)
    (owed : ∀ work, (WorkerPoint.inRound i after).owes work =
      (WorkerPoint.inRound i before).owes work) :
    Silent verboseFrom share (.inRound i before) (.inRound i after) :=
  fun work => ⟨owed work, called_begun begun begun' work⟩

/-- A round that begins owes its header. -/
theorem called_generate :
    Called verboseFrom share (.inRound i .generated) .generate counters
      { point := .inRound i
          (if verboseFrom ≤ BitVec.ofNat 64 i then .io false .running else .compute false)
        usesHw
        counters } := by
  intro work
  have next : Nat.count (fun i => verboseRound verboseFrom i = true) (i + 1) =
      Nat.count (fun i => verboseRound verboseFrom i = true) i +
        if verboseFrom ≤ BitVec.ofNat 64 i then 1 else 0 := by
    rw [Nat.count_succ]
    simp only [verboseRound, decide_eq_true_eq]
  by_cases verbose : verboseFrom ≤ BitVec.ofNat 64 i
  · rw [if_pos verbose] at next
    simp only [if_pos verbose, WorkerPoint.leaves, WorkerPoint.owes, WorkerPoint.called, countPast,
      roundsPast, RoundPoint.begun, Bool.toNat_false, Bool.toNat_true, Nat.add_zero, Nat.zero_add,
      next]
    by_cases running : work = .running
    · subst running
      simp only [↓reduceIte]
      omega
    · simp only [if_neg running, if_neg (Ne.symm running), Nat.zero_add, Nat.add_zero]
  · rw [if_neg verbose, Nat.add_zero] at next
    simp only [if_neg verbose, WorkerPoint.leaves, WorkerPoint.owes, WorkerPoint.called, countPast,
      roundsPast, RoundPoint.begun, Bool.toNat_false, Bool.toNat_true, Nat.add_zero, Nat.zero_add,
      next]

/-- A section that ends has printed what it owed. -/
theorem called_unlockSection {work' : RoundSection} :
    Called verboseFrom share (.inRound i (.io true work')) .unlockIo counters
      { point := .inRound i work'.next, usesHw, counters, dump := work'.dump } := by
  intro work
  have begun : work'.next.begun = true := by cases work' <;> rfl
  have left : (WorkerPoint.inRound i work'.next).owes work = 0 := by cases work' <;> rfl
  have same : (WorkerPoint.inRound i work'.next).called verboseFrom share work =
      (WorkerPoint.inRound i (.io true work')).called verboseFrom share work :=
    called_begun rfl begun work
  rw [same, left, Nat.add_zero]
  rfl

/-- A worker that goes on from one point of a round to another, as the counters call it. -/
theorem called_drawn (begun : before.begun = true) (begun' : after.begun = true)
    (owed : ∀ work, (WorkerPoint.inRound i before).owes work = 0)
    (stays : ∀ work, (WorkerPoint.inRound i before).leaves work op = 0)
    (drawn : ∀ work, counters'.called work =
      counters.called work + (WorkerPoint.inRound i after).owes work) :
    Called verboseFrom share (.inRound i before) op counters
      { point := .inRound i after, usesHw, counters := counters' } := by
  intro work
  dsimp only
  rw [called_begun begun begun' work, owed, stays, drawn]
  omega

/-- A counter that is drawn from has a line to come; so for each counter below. -/
theorem drawn_harnessError (room : counters.hwHarnessErrors.toNat + 1 < 2 ^ 64)
    (work : RoundSection) :
    { counters with hwHarnessErrors := counters.hwHarnessErrors + 1 }.called work =
      counters.called work + (WorkerPoint.inRound i (.io false .harnessError)).owes work := by
  cases work with
  | harnessError => exact toNat_add_one room
  | running | outlier | finding | progress => rfl

theorem drawn_finding (small : counters.Small) (work : RoundSection) :
    { counters with findingCount := counters.findingCount + 1 }.called work =
      counters.called work +
        (WorkerPoint.inRound i (.io false (.finding counters.findingCount))).owes work := by
  cases work with
  | finding idx =>
      have room := small.findingCount
      have next : (counters.findingCount + 1).toNat = counters.findingCount.toNat + 1 :=
        toNat_add_one (by omega)
      have same : counters.findingCount = idx ↔ idx.toNat = counters.findingCount.toNat := by
        rw [BitVec.toNat_inj, eq_comm]
      simp only [SharedCounters.called, WorkerPoint.owes, RoundSection.finding.injEq, same, next]
      split <;> split <;> split <;> omega
  | running | harnessError | outlier | progress => rfl

theorem drawn_save (small : counters.Small) (work : RoundSection) :
    { counters with unicornOutlierSaved := counters.unicornOutlierSaved + 1 }.called work =
      counters.called work + (WorkerPoint.inRound i
        (if counters.unicornOutlierSaved.slt kMaxDumpFilesPerDir then
          .io false (.outlier counters.unicornOutlierSaved) else .counting)).owes work := by
  have room := small.unicornOutlierSaved
  have next : (counters.unicornOutlierSaved + 1).toNat = counters.unicornOutlierSaved.toNat + 1 :=
    toNat_add_one (by omega)
  have limit : kMaxDumpFilesPerDir.toNat = 250 := by decide
  rw [slt_limit room]
  cases work with
  | outlier oidx =>
      have same : counters.unicornOutlierSaved = oidx ↔
          oidx.toNat = counters.unicornOutlierSaved.toNat := by
        rw [BitVec.toNat_inj, eq_comm]
      by_cases below : counters.unicornOutlierSaved.toNat < 250
      · simp only [below, decide_true, ↓reduceIte, SharedCounters.called, WorkerPoint.owes,
          RoundSection.outlier.injEq, same, next, limit]
        split <;> split <;> split <;> omega
      · simp only [below, decide_false, Bool.false_eq_true, ↓reduceIte, SharedCounters.called,
          WorkerPoint.owes, next, limit]
        split <;> split <;> omega
  | running | harnessError | finding | progress =>
      by_cases below : counters.unicornOutlierSaved.toNat < 250
      · simp only [below, decide_true, ↓reduceIte, SharedCounters.called, WorkerPoint.owes,
          reduceCtorEq, Nat.add_zero]
      · simp only [below, decide_false, Bool.false_eq_true, ↓reduceIte, SharedCounters.called,
          WorkerPoint.owes, Nat.add_zero]

theorem drawn_count (small : counters.Small) (work : RoundSection) :
    { counters with totalDone := counters.totalDone + 1 }.called work =
      counters.called work + (WorkerPoint.inRound i
        (if (counters.totalDone + 1) % 5000#64 = 0#64 then .io false .progress else .done)).owes
          work := by
  have room := small.totalDone
  have next : (counters.totalDone + 1).toNat = counters.totalDone.toNat + 1 :=
    toNat_add_one (by omega)
  have whole : (counters.totalDone + 1) % 5000#64 = 0#64 ↔
      (counters.totalDone.toNat + 1) % 5000 = 0 := by
    rw [← BitVec.toNat_inj, BitVec.toNat_umod, next]
    rfl
  by_cases due : (counters.totalDone + 1) % 5000#64 = 0#64
  · have due' := whole.mp due
    cases work with
    | progress =>
        simp only [due, ↓reduceIte, SharedCounters.called, WorkerPoint.owes, next]
        omega
    | running | harnessError | finding | outlier =>
        simp only [due, ↓reduceIte, SharedCounters.called, WorkerPoint.owes, reduceCtorEq,
          Nat.add_zero]
  · have due' := whole.not.mp due
    cases work with
    | progress =>
        simp only [due, ↓reduceIte, SharedCounters.called, WorkerPoint.owes, next, Nat.add_zero]
        omega
    | running | harnessError | finding | outlier =>
        simp only [due, ↓reduceIte, SharedCounters.called, WorkerPoint.owes, Nat.add_zero]

/-- **One operation**: what it prints and what it leaves owed is what it counts. -/
theorem OpMove.called (moves : OpMove share verboseFrom usesHw counters point op result)
    (within : Within share point) (uncaught : ∀ thrown, op ≠ .raise thrown)
    (small : counters.Small) (room : counters.hwHarnessErrors.toNat + 1 < 2 ^ 64) :
    Called verboseFrom share point op counters result := by
  cases moves with
  | start | openSession | skipSession | lockSession | unlockSession | beginCase | endCase =>
      exact called_of_silent (fun _ => ⟨rfl, rfl⟩) (fun _ => rfl) (fun _ => rfl)
  | leaveLoop spent =>
      obtain rfl := Nat.le_antisymm within spent
      exact called_of_silent (fun _ => ⟨rfl, rfl⟩) (fun _ => rfl) fun work => by cases work <;> rfl
  | raise => exact absurd rfl (uncaught _)
  | generate => exact called_generate
  | lockSection | lockCompute | unlockCompute | tested | agree =>
      exact called_of_silent (silent_inRound rfl rfl fun _ => rfl) (fun _ => rfl) (fun _ => rfl)
  | unlockSection => exact called_unlockSection
  | harnessError =>
      exact called_drawn rfl rfl (fun _ => rfl) (fun _ => rfl) (drawn_harnessError room)
  | outlier =>
      exact called_of_silent (silent_inRound rfl rfl fun _ => rfl) (fun _ => rfl)
        fun work => by cases work <;> rfl
  | finding => exact called_drawn rfl rfl (fun _ => rfl) (fun _ => rfl) (drawn_finding small)
  | save =>
      exact called_drawn rfl (by split <;> rfl) (fun _ => rfl) (fun _ => rfl) (drawn_save small)
  | count =>
      exact called_drawn rfl (by split <;> rfl) (fun _ => rfl) (fun _ => rfl) (drawn_count small)
  | lockHandler | unlockHandler => exact within.elim

/-- An error of the hardware lane is counted in a round that gets past the lane. -/
theorem OpMove.fails (moves : OpMove share verboseFrom usesHw counters point op result)
    (within : Within share point) (uncaught : ∀ thrown, op ≠ .raise thrown) :
    result.counters.hwHarnessErrors.toNat + roundsPast RoundPoint.tested share point ≤
      counters.hwHarnessErrors.toNat + roundsPast RoundPoint.tested share result.point := by
  cases moves with
  | leaveLoop spent =>
      obtain rfl := Nat.le_antisymm within spent
      exact Nat.le_refl _
  | raise => exact absurd rfl (uncaught _)
  | generate =>
      split
      all_goals exact Nat.le_refl _
  | @lockSection i work =>
      cases work
      all_goals exact Nat.le_refl _
  | @unlockSection i work =>
      cases work
      all_goals exact Nat.le_refl _
  | @harnessError i =>
      have next : (counters.hwHarnessErrors + 1).toNat ≤ counters.hwHarnessErrors.toNat + 1 := by
        rw [BitVec.toNat_add]
        exact Nat.mod_le _ _
      change (counters.hwHarnessErrors + 1).toNat + i ≤ counters.hwHarnessErrors.toNat + (i + 1)
      omega
  | tested => exact Nat.add_le_add_left (Nat.le_succ _) _
  | save =>
      split
      all_goals exact Nat.le_refl _
  | count =>
      split
      all_goals exact Nat.le_refl _
  | lockHandler | unlockHandler => exact within.elim
  | _ => exact Nat.le_refl _

end

variable {cfg : ThreadsConfig threads} {s next : ThreadsState threads}
  {event : ThreadsEvent threads} {trace : List (ThreadsState threads × ThreadsEvent threads)}

/-- What has been written and what is owed is what the counters and the rounds have called for. -/
structure Console (cfg : ThreadsConfig threads)
    (trace : List (ThreadsState threads × ThreadsEvent threads)) (s : ThreadsState threads) :
    Prop where
  balance : ∀ work, written work trace + ∑ w, (s.workers w).point.owes work =
    s.counters.called work +
      ∑ w, (s.workers w).point.called cfg.verboseFrom (cfg.share w) work
  fails : s.counters.hwHarnessErrors.toNat ≤
    ∑ w, roundsPast RoundPoint.tested (cfg.share w) (s.workers w).point

/-- Nothing is owed before the start. -/
theorem console_initial (cfg : ThreadsConfig threads) (clock : BitVec 64) :
    Console cfg [] (.initial cfg clock) where
  balance work := by
    have none : (WorkerPoint.notStarted).owes work = 0 := rfl
    have uncalled (w : Fin threads) :
        WorkerPoint.notStarted.called cfg.verboseFrom (cfg.share w) work = 0 := by
      simp [WorkerPoint.called, countPast, roundsPast]
    simp only [ThreadsState.initial, none, uncalled, Finset.sum_const_zero, written, List.map_nil,
      List.sum_nil]
    cases work <;> simp [SharedCounters.called]
  fails := Nat.zero_le _

/-- What has been printed after one event more. -/
theorem written_append (work : RoundSection) :
    written work (trace ++ [(s, event)]) = written work trace + s.leaves work event := by
  simp [written]

/-- A step of nobody owes nothing. -/
theorem Console.append (console : Console cfg trace s)
    (points : ∀ v, (next.workers v).point = (s.workers v).point)
    (counters : next.counters = s.counters) (stays : ∀ work, s.leaves work event = 0) :
    Console cfg (trace ++ [(s, event)]) next := by
  constructor
  · intro work
    simp only [written_append, points, counters, stays, Nat.add_zero]
    exact console.balance work
  · simp only [points, counters]
    exact console.fails

/-- An operation of a worker keeps the console's accounts. -/
theorem console_worker {w : Fin threads} {op : WorkerOp} {result : WorkerResult}
    (console : Console cfg trace s)
    (called : Called cfg.verboseFrom (cfg.share w) (s.workers w).point op s.counters result)
    (fails : result.counters.hwHarnessErrors.toNat +
        roundsPast RoundPoint.tested (cfg.share w) (s.workers w).point ≤
      s.counters.hwHarnessErrors.toNat + roundsPast RoundPoint.tested (cfg.share w) result.point)
    {worker : Worker} (point : worker.point = result.point)
    (workers : next.workers = Function.update s.workers w worker)
    (counters : next.counters = result.counters) :
    Console cfg (trace ++ [(s, .worker w op)]) next := by
  have total (read : Fin threads → WorkerPoint → Nat) :
      ∑ v, read v (next.workers v).point + read w (s.workers w).point =
        ∑ v, read v (s.workers v).point + read w result.point := by
    rw [workers, point_update read s.workers w worker, point]
    exact Totals.sum_update _ _ _
  constructor
  · intro work
    have owed := total fun _ point => point.owes work
    have due := total fun v point => point.called cfg.verboseFrom (cfg.share v) work
    have kept := console.balance work
    have moved := called work
    have left : s.leaves work (.worker w op) = (s.workers w).point.leaves work op := rfl
    rw [written_append, counters, left]
    omega
  · have tested := total fun v point => roundsPast RoundPoint.tested (cfg.share v) point
    have kept := console.fails
    rw [counters]
    omega

/-- **Every step** keeps them. -/
theorem console_step (console : Console cfg trace s) (accounts : Accounts cfg trace s)
    (some_ : 0 < threads) (few : cfg.iterations.toNat < 2 ^ 31)
    (uncaught : ∀ w thrown, event ≠ .worker w (.raise thrown))
    (moved : threadsStep cfg s event = some next) : Console cfg (trace ++ [(s, event)]) next := by
  have room : s.counters.hwHarnessErrors.toNat + 1 < 2 ^ 64 := by
    have rounds := Finset.sum_le_sum fun w (_ : w ∈ Finset.univ) =>
      roundsPast_le (accounts.within w) RoundPoint.tested
    have most := (console.fails.trans rounds).trans (sum_share_eq some_).le
    omega
  cases threadsStep_move moved with
  | @worker w op result _ _ _ awake moves =>
      have quiet (thrown : Thrown) (raised : op = .raise thrown) : False :=
        uncaught w thrown (congrArg _ raised)
      exact console_worker console
        (moves.called (accounts.within _) quiet (accounts.small some_ few) room)
        (moves.fails (accounts.within _) quiet) rfl rfl rfl
  | @hang w =>
      refine console.append (fun v => ?_) rfl fun _ => rfl
      by_cases same : v = w
      · subst same
        simp only [Function.update_self]
      · simp only [Function.update_of_ne same]
  | watchdogLock | report | process => exact console.append (fun _ => rfl) rfl (fun _ => rfl)

/-- **Every run** keeps them. -/
theorem console_of_run {clock : BitVec 64} (some_ : 0 < threads)
    (few : cfg.iterations.toNat < 2 ^ 31)
    (run : Run (threadsStep cfg) (.initial cfg clock) trace s) (uncaught : Uncaught trace) :
    Console cfg trace s ∧ Accounts cfg trace s := by
  apply run.history_invariant (fun trace s => Uncaught trace →
    Console cfg trace s ∧ Accounts cfg trace s) _ _ uncaught
  · exact fun _ => ⟨console_initial cfg clock, accounts_initial cfg clock⟩
  · intro trace s event next kept moved uncaught
    have before : Uncaught trace := fun state w thrown member =>
      uncaught state w thrown (List.mem_append_left _ member)
    have now (w : Fin threads) (thrown : Thrown) : event ≠ .worker w (.raise thrown) :=
      fun raised => uncaught s w thrown
        (List.mem_append_right _ (List.mem_singleton.mpr (raised ▸ rfl)))
    obtain ⟨console, accounts⟩ := kept before
    exact ⟨console_step console accounts some_ few now moved,
      accounts_step accounts some_ few now moved⟩

/-- Each section that the counters and the rounds call for has been written once. -/
structure ConsoleComplete (cfg : ThreadsConfig threads)
    (trace : List (ThreadsState threads × ThreadsEvent threads)) (s : ThreadsState threads) :
    Prop where
  running : written .running trace =
    totalRounds cfg fun _ i => verboseRound cfg.verboseFrom i
  harnessErrors : written .harnessError trace = s.counters.hwHarnessErrors.toNat
  findings : ∀ idx, written (.finding idx) trace =
    if idx.toNat < s.counters.findingCount.toNat then 1 else 0
  outliers : ∀ oidx, written (.outlier oidx) trace =
    if oidx.toNat < min s.counters.unicornOutlierCount.toNat kMaxDumpFilesPerDir.toNat then 1 else 0
  progress : written .progress trace = cfg.iterations.toNat / 5000

/-- Once all workers have returned, nothing is owed. -/
theorem Console.complete (console : Console cfg trace s) (accounts : Accounts cfg trace s)
    (some_ : 0 < threads) (joined : ∀ w, (s.workers w).point.phase.hasReturned = true) :
    ConsoleComplete cfg trace s := by
  have returned := accounts.joined joined
  have saved : s.counters.unicornOutlierSaved.toNat = s.counters.unicornOutlierCount.toNat := by
    rw [← accounts.saved]
    simp only [returned, saving, Finset.sum_const_zero, Nat.add_zero]
  have done := (accounts.settled some_ joined rfl).done
  have paid (work : RoundSection) : written work trace = s.counters.called work +
      ∑ w, (WorkerPoint.returned none).called cfg.verboseFrom (cfg.share w) work := by
    have balance := console.balance work
    simp only [returned] at balance
    rwa [show (WorkerPoint.returned none).owes work = 0 from rfl, Finset.sum_const_zero,
      Nat.add_zero] at balance
  have drawn {work : RoundSection} (other : work ≠ .running) :
      written work trace = s.counters.called work := by
    rw [paid]
    simp only [WorkerPoint.called, if_neg other, Finset.sum_const_zero, Nat.add_zero]
  refine ⟨?_, ?_, fun idx => ?_, fun oidx => ?_, ?_⟩
  · exact (paid .running).trans (Nat.zero_add _)
  · exact drawn (by decide)
  · exact drawn RoundSection.noConfusion
  · rw [drawn RoundSection.noConfusion, SharedCounters.called, saved]
  · rw [drawn (by decide), SharedCounters.called, done]

/-- **Nothing is lost and nothing is written twice.** When all workers of a run without
exceptions have returned, in whatever order they moved, each finding up to the count and each
outlier up to its count or the limit has had its section once, and so has every five
thousandth of the iterations, every error of the hardware lane and every verbose round. -/
theorem console_complete {clock : BitVec 64} (some_ : 0 < threads)
    (few : cfg.iterations.toNat < 2 ^ 31)
    (run : Run (threadsStep cfg) (.initial cfg clock) trace s) (uncaught : Uncaught trace)
    (joined : ∀ w, (s.workers w).point.phase.hasReturned = true) :
    ConsoleComplete cfg trace s := by
  obtain ⟨console, accounts⟩ := console_of_run some_ few run uncaught
  exact console.complete accounts some_ joined

/-- The only round of a run prints its number and writes its finding. -/
theorem console_complete_one_finding :
    ∃ trace s, Run (threadsStep oneIteration) (.initial oneIteration 0#64) trace s ∧
      written .running trace = 1 ∧ written (.finding 0#32) trace = 1 ∧
        ConsoleComplete oneIteration trace s := by
  have ends : (play (threadsStep oneIteration) (.initial oneIteration 0#64) oneFinding).map
      (fun played => (written .running played.1, written (.finding 0#32) played.1,
        played.1.all fun moment => !moment.2.raises,
        (played.2.workers 0).point.phase.hasReturned)) = some (1, 1, true, true) := by
    decide +kernel
  obtain ⟨⟨trace, s⟩, played, same⟩ := Option.map_eq_some_iff.mp ends
  obtain ⟨running, finding, uncaught, returned⟩ := by simpa only [Prod.mk.injEq] using same
  have run := Run.of_play _ oneFinding played
  have joined (w : Fin 1) : (s.workers w).point.phase.hasReturned = true := by
    obtain rfl := Subsingleton.elim 0 w
    exact returned
  exact ⟨trace, s, run, running, finding, console_complete Nat.zero_lt_one (by decide) run
    (uncaught_of_all uncaught) joined⟩

end SevenFuzzer
