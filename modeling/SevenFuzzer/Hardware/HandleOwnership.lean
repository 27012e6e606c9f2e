import SevenFuzzer.Hardware.EventProtocol
import SevenFuzzer.Hardware.Growth
import SevenFuzzer.Library.Monitor
import Mathlib.Data.Multiset.AddSub
import Mathlib.Tactic.Abel

/-! # Who closes a handle

The handles of a session come from the calls it makes and from its debug events. Those
of the process and of its threads in a creation event belong to the system, which closes
them when the exit of the process is continued; the session closes those of the process
and its first thread as well, and leaves the others to the system. One
monitor of the calls keeps which handles are open, another looks at the events that
are delivered and at where the session stands when they come. `handles_kept` says that
the events of the second kind are all that is needed: whatever the calls reply, each
handle is then closed once, and nothing is done to a handle that is closed.
-/

namespace SevenFuzzer

open Command Transition

/-- A handle that a reply or an event may leave out as null. -/
def given (handle : HANDLE) : Multiset HANDLE := if handle = 0 then 0 else {handle}

/-- The handles a call brings. -/
def Call.brings : Call → Multiset HANDLE
  | .openProcessToken (some token) | .duplicateTokenEx _ (some token) => {token}
  | .createRestrictedToken _ (some token) => {token}
  | .createJobObject job => given job
  | .createFile _ file => if file = INVALID_HANDLE_VALUE then 0 else given file
  | .createProcessAsUser _ _ _ (some pi) => {pi.hProcess, pi.hThread}
  | .waitForDebugEvent _ (some event) =>
      match event.info with
      | .loadDll hFile => given hFile
      | .createProcess hFile hProcess hThread => given hFile + given hProcess + given hThread
      | .createThread hThread => given hThread
      | _ => 0
  | _ => 0

/-- The handles of an event that the system closes with the exit of its process. -/
def DebugEvent.systemHandles (event : DebugEvent) : List (BitVec 32 × HANDLE) :=
  match event.info with
  | .createProcess _ hProcess hThread =>
      ([hProcess, hThread].filter (· ≠ 0)).map fun handle => (event.processId, handle)
  | .createThread hThread => ([hThread].filter (· ≠ 0)).map fun handle => (event.processId, handle)
  | _ => []

/-- Who has to close each handle the session has obtained: the session, or the system at the exit of
a process. -/
structure Custody where
  /-- obtained and not closed -/
  held : Multiset HANDLE := 0
  /-- what the system closes with the exit of a process -/
  system : List (BitVec 32 × HANDLE) := []

/-- The handles that the system closes with the exit of a process. -/
def Custody.closedWith (custody : Custody) (process : BitVec 32) : Multiset HANDLE :=
  ↑((custody.system.filter fun entry => entry.1 = process).map Prod.snd)

/-- A handle is entered when it is obtained, struck off when it is closed, and dropped with the
process whose exit closes it. -/
def Custody.post (custody : Custody) (call : Call) : Custody :=
  match call with
  | .closeHandle _ handle => { custody with held := custody.held.erase handle }
  | .continueDebugEvent event _ =>
      if event.info.isExitProcess then
        { held := custody.held - custody.closedWith event.processId
          system := custody.system.filter fun entry => entry.1 ≠ event.processId }
      else custody
  | .waitForDebugEvent _ (some event) =>
      { held := call.brings + custody.held, system := event.systemHandles ++ custody.system }
  | _ => { custody with held := call.brings + custody.held }

/-- Only an open handle is closed, by the session or by the system, and only the process
of an open handle is terminated. -/
def Custody.fits (custody : Custody) : Call → Bool
  | .closeHandle _ handle | .terminateProcess handle _ => decide (handle ∈ custody.held)
  | .continueDebugEvent event _ =>
      !event.info.isExitProcess || decide (custody.closedWith event.processId ≤ custody.held)
  | _ => true

/-- The monitor that fails when a handle is closed that is not held. -/
def custody : Monitor Custody Call := ⟨{}, Custody.post, Custody.fits⟩

/-- The custody after a log. -/
abbrev custodyOf (log : List Call) : Custody := custody.reach log

/-- Nothing was done to a closed handle. -/
def NoneClosedTwice (log : List Call) : Prop := custody.Accepts log

instance (log : List Call) : Decidable (NoneClosedTwice log) :=
  inferInstanceAs (Decidable (custody.Accepts log))

/-- Where the session waits for events. -/
inductive WaitPlace where
  | starting | stepping | draining
  deriving DecidableEq

/-- Where in the session an event arrives, which decides what becomes of its handles. -/
structure EventPlace where
  place : WaitPlace := .draining
  /-- the events other than exceptions in this pump -/
  others : Nat := 0
  /-- the handles stored by this pump -/
  process : HANDLE := 0
  thread : HANDLE := 0
  /-- the processes of which a creation event has brought handles -/
  known : List (BitVec 32) := []

/-- The session looks at the event: a pump does so up to its cap. -/
def EventPlace.looksAt (at_ : EventPlace) : Bool :=
  at_.place == .draining || decide (at_.others < kMaxUninterestingEvents)

/-- An event is counted, and the handles of a creation event are stored. -/
def EventPlace.receive (at_ : EventPlace) (event : DebugEvent) : EventPlace :=
  let at_ := { at_ with
    others := if event.info.exceptionRecord.isSome then at_.others else at_.others + 1
    known := event.systemHandles.map Prod.fst ++ at_.known }
  match event.info with
  | .createProcess _ hProcess hThread =>
      { at_ with
        process := if hProcess ≠ 0 then hProcess else at_.process
        thread := if hThread ≠ 0 then hThread else at_.thread }
  | _ => at_

/-- The calls that move the session from one pump to another. -/
def EventPlace.post (at_ : EventPlace) : Call → EventPlace
  | .createProcessAsUser _ _ _ (some _) =>
      { at_ with place := .starting, others := 0, process := 0, thread := 0 }
  | .writeProcessMemory .. => { at_ with place := .stepping, others := 0 }
  | .terminateProcess .. => { at_ with place := .draining }
  | .waitForDebugEvent _ (some event) => at_.receive event
  | _ => at_

/-- The session disposes of what the event brings: the file of a module comes while a pump
looks at it, the handles of a process come once and while the pump of a start looks at
them, and no handle comes with the creation of a thread. No exit is continued of a process
whose handles it has been given. -/
def EventPlace.fits (at_ : EventPlace) : Call → Bool
  | .waitForDebugEvent _ (some event) =>
      match event.info with
      | .loadDll hFile => hFile == 0 || (at_.place != .draining && at_.looksAt)
      | .createProcess hFile hProcess hThread =>
          (hFile == 0 && hProcess == 0 && hThread == 0) ||
            (at_.place == .starting && at_.looksAt && (hProcess == 0 || at_.process == 0) &&
              (hThread == 0 || at_.thread == 0))
      | .createThread hThread => hThread == 0
      | _ => true
  | .continueDebugEvent event _ => !event.info.isExitProcess || event.processId ∉ at_.known
  | _ => true

/-- The monitor that fails at an event whose handles nobody takes over. -/
def disposal : Monitor EventPlace Call := ⟨{}, EventPlace.post, EventPlace.fits⟩

/-- The place after a log. -/
abbrev placeOf (log : List Call) : EventPlace := disposal.reach log

/-- Every event came where the session disposes of what it brings. -/
def Disposed (log : List Call) : Prop := disposal.Accepts log

instance (log : List Call) : Decidable (Disposed log) :=
  inferInstanceAs (Decidable (disposal.Accepts log))

/-! ## What the session holds -/

variable {H H' : Multiset HANDLE} {log log' : List Call}

/-- The handles in a list are open, and those the system closes are of known processes. -/
structure Custodial (H : Multiset HANDLE) (log : List Call) : Prop where
  sound : NoneClosedTwice log
  held : (custodyOf log).held = H
  known : ∀ entry ∈ (custodyOf log).system, entry.1 ∈ (placeOf log).known

/-- If every event so far was disposed of, the open handles are those given. -/
def Holding (H : Multiset HANDLE) (log : List Call) : Prop := Disposed log → Custodial H log

/-- The place after one call more. -/
theorem placeOf_snoc (log : List Call) (call : Call) :
    placeOf (log ++ [call]) = (placeOf log).post call :=
  Monitor.reach_snoc

/-- The custody after one call more. -/
theorem custodyOf_snoc (log : List Call) (call : Call) :
    custodyOf (log ++ [call]) = (custodyOf log).post call :=
  Monitor.reach_snoc

/-- What was disposed of with one call more was disposed of before. -/
theorem Disposed.before {call : Call} (disposed : Disposed (log ++ [call])) :
    Disposed log ∧ (placeOf log).fits call = true :=
  Monitor.accepts_snoc.mp disposed

/-- A process whose handles were given is not forgotten. -/
theorem EventPlace.known_post (at_ : EventPlace) (call : Call) :
    at_.known ⊆ (at_.post call).known := by
  intro process known
  cases call with
  | createProcessAsUser token path commandLine created => cases created <;> exact known
  | waitForDebugEvent milliseconds obtained =>
      cases obtained with
      | none => exact known
      | some event =>
          have wider : process ∈ event.systemHandles.map Prod.fst ++ at_.known :=
            List.mem_append_right _ known
          simp only [EventPlace.post, EventPlace.receive]
          cases event.info <;> exact wider
  | _ => exact known

/-- A call whose effect on the open handles is known. -/
theorem Holding.call {call : Call} (holding : Holding H log)
    (fits : Custodial H log → (placeOf log).fits call = true → (custodyOf log).fits call = true)
    (held : Custodial H log → (placeOf log).fits call = true →
      ((custodyOf log).post call).held = H')
    (system : ∀ entry ∈ ((custodyOf log).post call).system,
      entry ∈ (custodyOf log).system ∨ entry.1 ∈ ((placeOf log).post call).known) :
    Holding H' (log ++ [call]) := by
  intro disposed
  obtain ⟨before, place⟩ := disposed.before
  have custodial := holding before
  refine ⟨Monitor.accepts_snoc.mpr ⟨custodial.sound, fits custodial place⟩, ?_, ?_⟩
  · rw [custodyOf_snoc]
    exact held custodial place
  · rw [custodyOf_snoc, placeOf_snoc]
    intro entry closed
    rcases system entry closed with old | new
    · exact EventPlace.known_post _ _ (custodial.known entry old)
    · exact new

/-- A call that neither closes a handle nor concerns an event. -/
def Call.isPlain : Call → Bool
  | .closeHandle .. | .terminateProcess .. | .continueDebugEvent .. => false
  | .waitForDebugEvent _ (some _) => false
  | _ => true

/-- A call that closes nothing adds what it brings. -/
theorem Holding.plain {call : Call} (holding : Holding H log) (plain : call.isPlain = true) :
    Holding (call.brings + H) (log ++ [call]) := by
  have post : (custodyOf log).post call =
      { custodyOf log with held := call.brings + (custodyOf log).held } := by
    cases call with
    | waitForDebugEvent milliseconds obtained =>
        cases obtained with
        | none => rfl
        | some event => exact absurd plain Bool.false_ne_true
    | closeHandle => exact absurd plain Bool.false_ne_true
    | terminateProcess => exact absurd plain Bool.false_ne_true
    | continueDebugEvent => exact absurd plain Bool.false_ne_true
    | _ => rfl
  refine holding.call (fun _ _ => ?_) (fun custodial _ => ?_) (fun entry old => ?_)
  · cases call <;> first | rfl | exact absurd plain Bool.false_ne_true
  · rw [post, custodial.held]
  · rw [post] at old
    exact .inl old

/-- A held handle is closed. -/
theorem Holding.close {handle : HANDLE} (holding : Holding ({handle} + H) log) (kind : HandleKind) :
    Holding H (log ++ [.closeHandle kind handle]) := by
  refine holding.call (fun custodial _ => ?_) (fun custodial _ => ?_) fun _ old => .inl old
  · refine decide_eq_true ?_
    rw [custodial.held]
    exact Multiset.mem_add.mpr (.inl (Multiset.mem_singleton_self handle))
  · simp only [Custody.post, custodial.held, Multiset.singleton_add, Multiset.erase_cons_head]

/-- A process whose handle is held is terminated. -/
theorem Holding.terminate {process : HANDLE} (holding : Holding H log) (member : process ∈ H)
    (exitCode : BitVec 32) : Holding H (log ++ [.terminateProcess process exitCode]) := by
  refine holding.call (fun custodial _ => ?_) (fun custodial _ => ?_) fun _ old => .inl old
  · exact decide_eq_true (custodial.held.symm ▸ member)
  · simp only [Custody.post, Call.brings, zero_add, custodial.held]

/-- The exit of an unknown process closes nothing. -/
theorem Holding.continue_ (holding : Holding H log) (event : DebugEvent) (victim : Victim) :
    Holding H (log ++ [.continueDebugEvent event victim]) := by
  have closesNone (custodial : Custodial H log)
      (place : (placeOf log).fits (.continueDebugEvent event victim) = true)
      (exits : event.info.isExitProcess = true) :
      (custodyOf log).system.filter (fun entry => entry.1 = event.processId) = [] := by
    simp only [EventPlace.fits, exits, Bool.not_true, Bool.false_or, decide_eq_true_eq] at place
    refine List.filter_eq_nil_iff.mpr fun entry listed same => place ?_
    rw [← of_decide_eq_true same]
    exact custodial.known entry listed
  refine holding.call (fun custodial place => ?_) (fun custodial place => ?_) fun entry old => ?_
  · cases exits : event.info.isExitProcess with
    | false => simp [Custody.fits, exits]
    | true =>
        simp only [Custody.fits, exits, Custody.closedWith, closesNone custodial place exits]
        exact decide_eq_true (Multiset.zero_le _)
  · cases exits : event.info.isExitProcess with
    | false => simpa [Custody.post, exits] using custodial.held
    | true =>
        simp [Custody.post, exits, Custody.closedWith, closesNone custodial place exits,
          custodial.held]
  · simp only [Custody.post] at old
    split at old
    · exact .inl (List.mem_filter.mp old).1
    · exact .inl old

/-- What an event brings is open until it is closed. -/
theorem Holding.obtain_ (holding : Holding H log) (milliseconds : Nat) (event : DebugEvent) :
    Holding (Call.brings (.waitForDebugEvent milliseconds (some event)) + H)
      (log ++ [.waitForDebugEvent milliseconds (some event)]) := by
  refine holding.call (fun _ _ => rfl) (fun custodial _ => ?_) fun entry listed => ?_
  · simp only [Custody.post, custodial.held]
  · rcases List.mem_append.mp listed with new | old
    · refine .inr ?_
      have known : entry.1 ∈ event.systemHandles.map Prod.fst ++ (placeOf log).known :=
        List.mem_append_left _ (List.mem_map_of_mem new)
      simp only [EventPlace.post, EventPlace.receive]
      cases event.info <;> exact known
    · exact .inl old

/-- What is known of an event, its disposal granted. -/
theorem Holding.of_eq (holding : Holding H log) (same : Disposed log → H = H') : Holding H' log :=
  fun disposed => same disposed ▸ holding disposed

/-- The handles in the fields of a session. -/
def storedHandles (impl : Impl) : Multiset HANDLE :=
  given impl.thread + (given impl.process + given impl.job)

/-- A null handle is nothing to hold. -/
theorem given_zero : given 0 = 0 := if_pos rfl

/-- Any other is one. -/
theorem given_of_ne {handle : HANDLE} (open_ : handle ≠ 0) : given handle = {handle} := if_neg open_

/-- Without a victim nothing is stored. -/
theorem storedHandles_tornDown {impl : Impl} (tornDown : TornDown impl) :
    storedHandles impl = 0 := by
  rw [storedHandles, tornDown.thread, tornDown.process, tornDown.job, given_zero]
  rfl

/-- The creation of a thread brings nothing where it is disposed of. -/
theorem brings_createThread {at_ : EventPlace} {milliseconds serial : Nat}
    {processId threadId : BitVec 32} {hThread : HANDLE}
    (fits : at_.fits (.waitForDebugEvent milliseconds
      (some ⟨serial, processId, threadId, .createThread hThread⟩)) = true) :
    Call.brings (.waitForDebugEvent milliseconds
      (some ⟨serial, processId, threadId, .createThread hThread⟩)) = 0 := by
  have null : hThread = 0 := by simpa only [EventPlace.fits, beq_iff_eq] using fits
  simp only [Call.brings, null, given_zero]

/-- An event that the session does not look at brings nothing. -/
theorem brings_of_unseen {at_ : EventPlace} {milliseconds : Nat} {event : DebugEvent}
    (unseen : at_.place = .draining ∨ at_.looksAt = false)
    (fits : at_.fits (.waitForDebugEvent milliseconds (some event)) = true) :
    Call.brings (.waitForDebugEvent milliseconds (some event)) = 0 := by
  obtain ⟨serial, processId, threadId, info⟩ := event
  cases info with
  | loadDll hFile =>
      have null : hFile = 0 := by
        rcases unseen with draining | unseen
        · simpa [EventPlace.fits, draining] using fits
        · simpa [EventPlace.fits, unseen] using fits
      simp only [Call.brings, null, given_zero]
  | createProcess hFile hProcess hThread =>
      have null : (hFile = 0 ∧ hProcess = 0) ∧ hThread = 0 := by
        rcases unseen with draining | unseen
        · simpa [EventPlace.fits, draining] using fits
        · simpa [EventPlace.fits, unseen] using fits
      simp only [Call.brings, null, given_zero, add_zero]
  | createThread hThread => exact brings_createThread fits
  | _ => rfl

/-- The drain holds what was held: no event it comes to brings a handle. -/
theorem wp_drainLoop_holding (count : Nat) (stream : List Delivery) {w : World}
    (draining : (placeOf w.log).place = .draining) (holding : Holding H w.log) :
    wp (drainLoop count stream) (fun _ w' => Holding H w'.log) (fun _ _ => False) w := by
  induction count generalizing stream w with
  | zero => exact holding
  | succ count ih =>
      have nothing : Holding H (w.log ++ [.waitForDebugEvent 200 none]) :=
        (holding.plain rfl).of_eq fun _ => zero_add H
      cases stream with
      | nil => exact nothing
      | cons delivery rest =>
          simp only [drainLoop, waitForDebugEvent, record, wp_bind, wp_get, wp_set, wp_modify,
            wp_pure]
          cases delivery.event with
          | none => exact nothing
          | some event =>
              simp only [Option.map_some, continueDebugEvent, record, wp_bind, wp_get, wp_modify,
                wp_ite, wp_pure]
              have obtained : Holding H (w.log ++
                  [.waitForDebugEvent 200 (some { event with serial := w.obtained })]) := by
                refine (holding.obtain_ 200 _).of_eq fun disposed => ?_
                rw [brings_of_unseen (.inl draining) disposed.before.2, zero_add]
              have continued :=
                obtained.continue_ { event with serial := w.obtained } delivery.victim
              split
              · exact continued
              · refine ih rest ?_ continued
                rw [placeOf_snoc, placeOf_snoc]
                simp only [EventPlace.post, EventPlace.receive]
                cases event.info <;> exact draining

/-- A handle that is held is closed and no longer held. -/
theorem wp_closeHandle_holding {kind : HandleKind} {handle : HANDLE} {w : World}
    (holding : Holding ({handle} + H) w.log) {bad : String → World → Prop} :
    wp (closeHandle kind handle)
      (fun _ w' => w'.impl = w.impl ∧ placeOf w'.log = placeOf w.log ∧ Holding H w'.log) bad w :=
  ⟨rfl, placeOf_snoc _ _, holding.close kind⟩

/-- A stored handle is closed, and a null handle is left out. -/
theorem wp_close_holding {kind : HandleKind} {handle : HANDLE} {w : World}
    (holding : Holding (given handle + H) w.log) {bad : String → World → Prop} :
    wp (whenOpen handle (closeHandle kind handle))
      (fun _ w' => w'.impl = w.impl ∧ placeOf w'.log = placeOf w.log ∧ Holding H w'.log) bad w := by
  rw [whenOpen, wp_ite]
  split
  · rename_i open_
    rw [given_of_ne open_] at holding
    exact wp_closeHandle_holding holding
  · rename_i null
    rw [not_not] at null
    rw [null, given_zero, zero_add] at holding
    exact ⟨rfl, rfl, holding⟩

/-- Terminating the victim needs its handle and keeps it. -/
theorem wp_drainToExit_holding {w : World} (holding : Holding H w.log)
    (stored : w.impl.process ≠ 0 → w.impl.process ∈ H) :
    wp drainToExit (fun _ w' => Holding H w'.log) (fun _ _ => False) w := by
  simp only [drainToExit, record, wp_bind, wp_get, wp_ite, wp_pure, wp_modify]
  split
  · exact holding
  · rename_i open_
    refine wp_drainLoop_holding 50 w.stream ?_ (holding.terminate (stored open_) 1#32)
    rw [placeOf_snoc]
    rfl

/-- A session whose open handles are those in its fields, and some more. -/
def Keeps (H : Multiset HANDLE) (w : World) : Prop := Holding (storedHandles w.impl + H) w.log

/-- **Giving the victim up** closes the handles of the session and no others. -/
theorem wp_teardown_keeps {w : World} (keeps : Keeps H w) :
    wp teardown (fun _ w' => TornDown w'.impl ∧ Holding H w'.log) (fun _ _ => False) w := by
  have holding :
      Holding (given w.impl.thread + (given w.impl.process + (given w.impl.job + H))) w.log :=
    keeps.of_eq fun _ => by rw [storedHandles, add_assoc, add_assoc]
  rw [teardown, wp_bind, wp_get]
  refine wp_seq (wp_whenOpen holding (wp_drainToExit_holding holding fun open_ => ?_))
    fun _ w₁ drained => ?_
  · rw [given_of_ne open_]
    simp
  refine wp_seq (wp_close_holding drained) fun _ w₂ closed => ?_
  obtain ⟨-, -, thread⟩ := closed
  refine wp_seq (wp_close_holding thread) fun _ w₃ closed => ?_
  obtain ⟨-, -, process⟩ := closed
  refine wp_seq (wp_close_holding process) fun _ w₄ closed => ?_
  obtain ⟨-, -, job⟩ := closed
  exact ⟨⟨rfl, rfl, rfl, rfl, rfl⟩, job⟩

/-- A victim has been given up, and nothing is left open. -/
structure NothingHeld (w : World) : Prop where
  tornDown : TornDown w.impl
  holding : Holding 0 w.log

/-- Where nothing is held, nothing is stored. -/
theorem NothingHeld.keeps {w : World} (nothing : NothingHeld w) : Keeps 0 w := by
  rw [Keeps, storedHandles_tornDown nothing.tornDown]
  exact nothing.holding

/-- Giving the victim up with an error leaves nothing held. -/
theorem wp_tearDownWith_keeps {α : Type} {good : α → World → Prop} (error : String) {w : World}
    (keeps : Keeps 0 w) : wp (tearDownWith error) good (fun _ w' => NothingHeld w') w :=
  wp_seq (wp_mono (fun _ _ => id) (fun _ _ => False.elim) (wp_teardown_keeps keeps))
    fun _ _ ⟨tornDown, holding⟩ => ⟨tornDown, holding⟩

/-- The pump of a start has seen a number of events, and stores the handles of a process
as they come. -/
structure Starting (impl : Impl) (others : Nat) (log : List Call) : Prop where
  place : (placeOf log).place = .starting
  others : (placeOf log).others = others
  process : (placeOf log).process = impl.process
  thread : (placeOf log).thread = impl.thread

variable {impl : Impl} {n : Nat}

/-- A start goes on while its place is the same. -/
theorem Starting.of_eq (starting : Starting impl n log) (same : placeOf log' = placeOf log) :
    Starting impl n log' := by
  obtain ⟨place, others, process, thread⟩ := starting
  rw [← same] at place others process thread
  exact ⟨place, others, process, thread⟩

/-- Of a field and a handle that replaces it unless it is null, one is null. -/
theorem given_replaced {handle old : HANDLE} (once : handle = 0 ∨ old = 0) :
    given (if handle ≠ 0 then handle else old) = given handle + given old := by
  rcases once with rfl | rfl
  · rw [if_neg (not_not_intro rfl), given_zero, zero_add]
  · rw [given_zero, add_zero]
    by_cases null : handle = 0
    · rw [if_neg (not_not_intro null), null]
    · rw [if_pos null]

/-- The handles of a process come once. -/
theorem Starting.once {hFile hProcess hThread : HANDLE} {serial milliseconds : Nat}
    {processId threadId : BitVec 32} (starting : Starting impl n log)
    (fits : (placeOf log).fits (.waitForDebugEvent milliseconds
      (some ⟨serial, processId, threadId, .createProcess hFile hProcess hThread⟩)) = true) :
    (hProcess = 0 ∨ impl.process = 0) ∧ (hThread = 0 ∨ impl.thread = 0) := by
  simp only [EventPlace.fits, starting.process, starting.thread, Bool.or_eq_true, Bool.and_eq_true,
    beq_iff_eq] at fits
  rcases fits with ⟨⟨_, process⟩, thread⟩ | ⟨⟨_, process⟩, thread⟩
  · exact ⟨.inl process, .inl thread⟩
  · exact ⟨process, thread⟩

/-- Continuing an event keeps what is held, since no known process exits. -/
theorem wp_continue_holding (de : DebugEvent) {w : World} (holding : Holding H w.log)
    {bad : String → World → Prop} :
    wp (continueDebugEvent de)
      (fun _ w' => w'.impl = w.impl ∧ placeOf w'.log = placeOf w.log ∧ Holding H w'.log) bad w :=
  ⟨rfl, placeOf_snoc _ _, holding.continue_ de w.victim⟩

/-- Storing a handle makes no call. -/
theorem wp_store_fields {handle : HANDLE} {f : Impl → Impl} {w : World}
    {bad : String → World → Prop} :
    wp (whenOpen handle (modifyImpl f))
      (fun _ w' => w'.log = w.log ∧ w'.impl = if handle ≠ 0 then f w.impl else w.impl) bad w := by
  rw [whenOpen, wp_ite]
  split
  · exact ⟨rfl, rfl⟩
  · exact ⟨rfl, rfl⟩

/-- The pump has seen one more event, and what it brought is stored. -/
theorem Starting.receive {impl' : Impl} (starting : Starting impl n log) {de : DebugEvent}
    (other : de.info.exceptionRecord = none) (milliseconds : Nat)
    (process : ((placeOf log).receive de).process = impl'.process)
    (thread : ((placeOf log).receive de).thread = impl'.thread) :
    Starting impl' (n + 1) (log ++ [.waitForDebugEvent milliseconds (some de)]) := by
  have received : placeOf (log ++ [.waitForDebugEvent milliseconds (some de)]) =
      (placeOf log).receive de := placeOf_snoc _ _
  have same : ((placeOf log).receive de).place = .starting ∧
      ((placeOf log).receive de).others = n + 1 := by
    simp only [EventPlace.receive, other, Option.isSome_none, Bool.false_eq_true, ↓reduceIte]
    cases de.info <;> exact ⟨starting.place, congrArg (· + 1) starting.others⟩
  rw [← received] at process thread same
  exact ⟨same.1, same.2, process, thread⟩

/-- An event that is continued once what it brought is closed. -/
theorem wp_continue_keeps (de : DebugEvent) {impl' : Impl} {w : World} {m : Nat}
    (started : Starting impl' m log) (fields : w.impl = impl') (place : placeOf w.log = placeOf log)
    (closed : Holding (storedHandles impl') w.log) {bad : String → World → Prop} :
    wp (continueDebugEvent de) (fun _ w' => Starting w'.impl m w'.log ∧ Keeps 0 w') bad w := by
  refine wp_mono (fun _ w₁ continued => ?_) (fun _ _ => id) (wp_continue_holding _ closed)
  obtain ⟨fields₁, place₁, kept⟩ := continued
  rw [Keeps, fields₁, fields, add_zero]
  exact ⟨started.of_eq (place₁.trans place), kept⟩

/-- The creation of a process: its file is closed, and its two handles are stored. -/
theorem wp_handleCreateProcess_keeps {serial : Nat} {processId threadId : BitVec 32}
    {hFile hProcess hThread : HANDLE} {w : World} (starting : Starting w.impl n log)
    (holding : Holding (storedHandles w.impl) log)
    (obtained : w.log = log ++ [.waitForDebugEvent kWaitTimeoutMs
      (some ⟨serial, processId, threadId, .createProcess hFile hProcess hThread⟩)])
    {bad : String → World → Prop} :
    wp (handleSpawnEvent ⟨serial, processId, threadId, .createProcess hFile hProcess hThread⟩)
      (fun _ w' => Starting w'.impl (n + 1) w'.log ∧ Keeps 0 w') bad w := by
  let storing : Impl := { w.impl with
    process := if hProcess ≠ 0 then hProcess else w.impl.process
    thread := if hThread ≠ 0 then hThread else w.impl.thread }
  have brought : Holding (given hFile + storedHandles storing) w.log := by
    rw [obtained]
    refine (holding.obtain_ kWaitTimeoutMs _).of_eq fun disposed => ?_
    obtain ⟨process, thread⟩ := starting.once disposed.before.2
    simp only [Call.brings, storedHandles, storing, given_replaced process, given_replaced thread]
    abel
  have started : Starting storing (n + 1) w.log := by
    rw [obtained]
    refine starting.receive rfl _ ?_ ?_
    all_goals simp only [EventPlace.receive, starting.process, starting.thread, storing]
  refine wp_seq (wp_close_holding brought) fun _ w₁ held => ?_
  obtain ⟨fields, place, closed⟩ := held
  refine wp_seq wp_store_fields fun _ w₂ stored => ?_
  obtain ⟨log₂, fields₂⟩ := stored
  refine wp_seq wp_store_fields fun _ w₃ stored => ?_
  obtain ⟨log₃, fields₃⟩ := stored
  rw [← log₂, ← log₃] at closed place
  have impl₃ : w₃.impl = storing := by
    rw [fields₃, fields₂, fields]
    simp only [storing]
    split_ifs <;> rfl
  exact wp_continue_keeps _ started impl₃ place closed

/-- An event on the way to the sync point: what it brings is closed or stored. -/
theorem wp_handleSpawnEvent_keeps (de : DebugEvent) {w : World}
    (other : de.info.exceptionRecord = none) (starting : Starting w.impl n log)
    (holding : Holding (storedHandles w.impl) log)
    (obtained : w.log = log ++ [.waitForDebugEvent kWaitTimeoutMs (some de)]) :
    wp (handleSpawnEvent de) (fun _ w' => Starting w'.impl (n + 1) w'.log ∧ Keeps 0 w')
      (fun _ w' => NothingHeld w') w := by
  have brought : Holding (Call.brings (.waitForDebugEvent kWaitTimeoutMs (some de)) +
      storedHandles w.impl) w.log := obtained ▸ holding.obtain_ kWaitTimeoutMs de
  have later (process : ((placeOf log).receive de).process = w.impl.process)
      (thread : ((placeOf log).receive de).thread = w.impl.thread) :
      Starting w.impl (n + 1) w.log := obtained ▸ starting.receive other _ process thread
  obtain ⟨serial, processId, threadId, info⟩ := de
  -- Events that bring nothing are continued.
  have passes (nothing : Disposed w.log → Call.brings (.waitForDebugEvent kWaitTimeoutMs
        (some ⟨serial, processId, threadId, info⟩)) = 0)
      (started : Starting w.impl (n + 1) w.log) :
      wp (continueDebugEvent ⟨serial, processId, threadId, info⟩)
        (fun _ w' => Starting w'.impl (n + 1) w'.log ∧ Keeps 0 w')
          (fun _ w' => NothingHeld w') w := by
    have kept : Holding (storedHandles w.impl) w.log :=
      brought.of_eq fun disposed => by rw [nothing disposed, zero_add]
    exact wp_continue_keeps _ started rfl rfl kept
  cases info with
  | loadDll hFile =>
      refine wp_seq (wp_close_holding brought) fun _ w₁ held => ?_
      obtain ⟨fields, place, closed⟩ := held
      exact wp_continue_keeps _ (later starting.process starting.thread) fields place closed
  | createProcess hFile hProcess hThread =>
      exact wp_handleCreateProcess_keeps starting holding obtained
  | exitProcess =>
      have brought : Holding (storedHandles w.impl) w.log := brought.of_eq fun _ => zero_add _
      refine wp_seq (wp_continue_holding _ brought) fun _ w₁ held => ?_
      obtain ⟨fields, _, kept⟩ := held
      refine wp_tearDownWith_keeps _ ?_
      rw [Keeps, fields, add_zero]
      exact kept
  | createThread hThread =>
      refine passes (fun disposed => ?_) (later starting.process starting.thread)
      exact brings_createThread (Disposed.before (obtained ▸ disposed)).2
  | exception record => cases other
  | _ => exact passes (fun _ => rfl) (later starting.process starting.thread)

/-- An exception event by its record. -/
theorem eq_exception {info : DebugEventInfo} {rec : ExceptionRecord}
    (raised : info.exceptionRecord = some rec) : info = .exception rec := by
  cases info with
  | exception record => exact congrArg _ (Option.some.inj raised)
  | _ => cases raised

/-- An exception brings no handle, and is not counted. -/
theorem Holding.exception (holding : Holding H log) (event : DebugEvent) {rec : ExceptionRecord}
    (raised : event.info.exceptionRecord = some rec) (milliseconds : Nat) :
    let log' := log ++ [.waitForDebugEvent milliseconds (some event)]
    Holding H log' ∧ placeOf log' = placeOf log := by
  obtain ⟨serial, processId, threadId, info⟩ := event
  obtain rfl := eq_exception raised
  exact ⟨(holding.obtain_ milliseconds _).of_eq fun _ => zero_add H, placeOf_snoc _ _⟩

/-- An event over the cap brings nothing. -/
theorem Holding.over_cap (holding : Holding H log) (milliseconds : Nat) (event : DebugEvent)
    (pumping : (placeOf log).place ≠ .draining)
    (full : kMaxUninterestingEvents ≤ (placeOf log).others) :
    Holding H (log ++ [.waitForDebugEvent milliseconds (some event)]) := by
  refine (holding.obtain_ milliseconds event).of_eq fun disposed => ?_
  have unseen : (placeOf log).looksAt = false := by
    simp only [EventPlace.looksAt, Bool.or_eq_false_iff, beq_eq_false_iff_ne,
      decide_eq_false_iff_not]
    exact ⟨pumping, not_lt.mpr full⟩
  rw [brings_of_unseen (.inr unseen) disposed.before.2, zero_add]

/-- A timeout brings nothing. -/
theorem Holding.waited (holding : Holding H log) (milliseconds : Nat) :
    Holding H (log ++ [.waitForDebugEvent milliseconds none]) :=
  (holding.plain rfl).of_eq fun _ => zero_add H

/-- The session holds what it has stored and nothing more. -/
theorem keeps_zero {w : World} : Keeps 0 w ↔ Holding (storedHandles w.impl) w.log := by
  rw [Keeps, add_zero]

/-- The pump of a start: what is open is stored. -/
theorem wp_pumpToBreakpoint_keeps (stream : List Delivery) (n : Nat) {w : World}
    (starting : Starting w.impl n w.log) (keeps : Keeps 0 w) :
    wp (pumpToBreakpoint stream n) (fun _ w' => Keeps 0 w') (fun _ w' => NothingHeld w') w := by
  induction stream generalizing n w with
  | nil => exact wp_tearDownWith_keeps _ (Holding.waited keeps _)
  | cons delivery rest ih =>
      rw [keeps_zero] at keeps
      simp only [pumpToBreakpoint, waitForDebugEvent, record, wp_bind, wp_get, wp_set, wp_modify,
        wp_pure]
      cases delivery.event with
      | none => exact wp_tearDownWith_keeps _ (keeps_zero.mpr (keeps.waited _))
      | some event =>
          simp only [Option.map_some]
          cases raised : event.info.exceptionRecord with
          | some rec =>
              obtain ⟨obtained, place⟩ := keeps.exception
                { event with serial := w.obtained } raised kWaitTimeoutMs
              simp only [continueDebugEvent, modifyImpl, record, wp_bind, wp_ite, wp_get, wp_modify]
              split
              · exact keeps_zero.mpr obtained
              · refine ih n (starting.of_eq ?_) (keeps_zero.mpr (obtained.continue_ _ _))
                rw [placeOf_snoc, place]
                rfl
          | none =>
              simp only [wp_ite]
              split
              · refine wp_tearDownWith_keeps _ (keeps_zero.mpr (keeps.over_cap _ _ ?_ ?_))
                · rw [starting.place]
                  decide
                · rw [starting.others]
                  omega
              · refine (wp_bind _ _).mpr
                  (wp_mono (fun _ w₁ handled => ih (n + 1) handled.1 handled.2)
                  (fun _ _ => id) (wp_handleSpawnEvent_keeps { event with serial := w.obtained }
                    raised starting keeps rfl))

/-! ## Starting a victim -/

/-- The token is open when it is built, and no other handle. -/
theorem wp_buildRestrictedToken_holding (r : SpawnReplies) {w : World} (holding : Holding 0 w.log) :
    wp (buildRestrictedToken r)
      (fun token w' => w'.impl = w.impl ∧ Holding {token} w'.log)
      (fun _ w' => w'.impl = w.impl ∧ Holding 0 w'.log) w := by
  simp only [buildRestrictedToken, record, closeHandle, wp_bind, wp_modify]
  cases r.openProcessToken with
  | none => exact ⟨rfl, holding.plain rfl⟩
  | some selfToken =>
      have opened : Holding {selfToken} (w.log ++ [.openProcessToken (some selfToken)]) :=
        (holding.plain rfl).of_eq fun _ => add_zero _
      simp only [wp_bind, wp_modify]
      cases r.duplicateTokenEx with
      | none =>
          have refused : Holding {selfToken} (_ ++ [.duplicateTokenEx selfToken none]) :=
            (opened.plain rfl).of_eq fun _ => zero_add _
          exact ⟨rfl, (refused.of_eq fun _ => (add_zero _).symm).close .token⟩
      | some dupToken =>
          have duplicated : Holding ({selfToken} + {dupToken})
              (_ ++ [.duplicateTokenEx selfToken (some dupToken)]) :=
            (opened.plain rfl).of_eq fun _ => add_comm _ _
          have dup := duplicated.close .token
          simp only [wp_bind, wp_modify]
          cases r.createRestrictedToken with
          | none =>
              have refused : Holding {dupToken} (_ ++ [.createRestrictedToken dupToken none]) :=
                (dup.plain rfl).of_eq fun _ => zero_add _
              exact ⟨rfl, (refused.of_eq fun _ => (add_zero _).symm).close .token⟩
          | some restrictedToken =>
              have restricted : Holding ({dupToken} + {restrictedToken})
                  (_ ++ [.createRestrictedToken dupToken (some restrictedToken)]) :=
                (dup.plain rfl).of_eq fun _ => add_comm _ _
              have token := restricted.close .token
              have converted : Holding {restrictedToken}
                  (_ ++ [.convertStringSidToSid lowIntegritySid r.convertStringSidToSid]) :=
                (token.plain rfl).of_eq fun _ => zero_add _
              have labelled : Holding {restrictedToken} (_ ++
                  [.setTokenInformation restrictedToken lowIntegritySid r.setTokenInformation]) :=
                (converted.plain rfl).of_eq fun _ => zero_add _
              simp only [wp_bind, wp_modify, wp_ite, wp_throw, wp_pure]
              split
              · exact ⟨trivial, (converted.of_eq fun _ => (add_zero _).symm).close .token⟩
              · split
                · exact ⟨trivial, (labelled.of_eq fun _ => (add_zero _).symm).close .token⟩
                · exact ⟨trivial, labelled⟩

/-- A call that brings nothing and closes nothing keeps what is held. -/
theorem Holding.quiet {call : Call} (holding : Holding H log) (plain : call.isPlain = true)
    (nothing : call.brings = 0) : Holding H (log ++ [call]) :=
  (holding.plain plain).of_eq fun _ => by rw [nothing, zero_add]

/-- The standard handle of the victim, if there is one. -/
def nulHandle (r : SpawnReplies) : HANDLE :=
  if r.createFile = INVALID_HANDLE_VALUE then 0 else r.createFile

/-- The file that was opened is held. -/
theorem Holding.nul (holding : Holding H log) (r : SpawnReplies) :
    Holding (given (nulHandle r) + H) (log ++ [.createFile "NUL" r.createFile]) := by
  refine (holding.plain rfl).of_eq fun _ => ?_
  simp only [Call.brings, nulHandle]
  split
  · rw [given_zero]
  · rfl

/-- The two handles of a creation are held. -/
theorem Holding.created (holding : Holding H log) (token : HANDLE) (path commandLine : String)
    (pi : ProcessInformation) :
    Holding ({pi.hThread} + ({pi.hProcess} + H))
      (log ++ [.createProcessAsUser token path commandLine (some pi)]) := by
  refine (holding.plain rfl).of_eq fun _ => ?_
  simp only [Call.brings, Multiset.insert_eq_cons, ← Multiset.singleton_add]
  abel

/-- The file is closed after the launch. -/
theorem wp_closeNul_holding (r : SpawnReplies) {w : World}
    (holding : Holding (given (nulHandle r) + H) w.log)
    {bad : String → World → Prop} :
    wp (whenOpen (nulHandle r) (closeHandle .file r.createFile))
      (fun _ w' => w'.impl = w.impl ∧ placeOf w'.log = placeOf w.log ∧ Holding H w'.log) bad w := by
  have same : nulHandle r ≠ 0 → r.createFile = nulHandle r := by
    intro open_
    rw [nulHandle] at open_ ⊢
    split at open_
    · exact absurd rfl open_
    · rename_i valid
      rw [if_neg valid]
  by_cases open_ : nulHandle r = 0
  · rw [open_, given_zero, zero_add] at holding
    rw [open_]
    exact ⟨rfl, rfl, holding⟩
  · rw [same open_]
    exact wp_close_holding holding

/-- Of the start of a process the job is left open, and stored. -/
theorem wp_launchVictim_keeps (r : SpawnReplies) (token : HANDLE) {w : World}
    (tornDown : TornDown w.impl) (holding : Holding {token} w.log) :
    wp (launchVictim r token) (fun _ w' => Starting w'.impl 0 w'.log ∧ Keeps 0 w')
      (fun _ w' => NothingHeld w') w := by
  have jobbed : Holding ({token} + given r.createJobObject)
      (w.log ++ [.createJobObject r.createJobObject]) :=
    (holding.plain rfl).of_eq fun _ => add_comm _ _
  rw [launchVictim]
  simp only [record, modifyImpl, wp_bind, wp_modify, wp_ite]
  split
  · rename_i failed
    rw [failed, given_zero] at jobbed
    refine ⟨⟨tornDown.ready, tornDown.pending, failed, tornDown.process, tornDown.thread⟩, ?_⟩
    rw [failed]
    exact jobbed.close .token
  · rename_i open_
    have limited : Holding ({token} + given r.createJobObject)
        (_ ++ [.setInformationJobObject r.createJobObject jobLimits r.setExtendedLimits]) :=
      jobbed.quiet rfl rfl
    have restricted : Holding ({token} + given r.createJobObject)
        (_ ++ [.setInformationJobObject r.createJobObject jobUiRestrictions r.setUiRestrictions]) :=
      limited.quiet rfl rfl
    have filed := restricted.nul r
    simp only [wp_get, wp_bind, wp_modify]
    have fields : storedHandles { w.impl with job := r.createJobObject } =
        given r.createJobObject := by
      rw [storedHandles, tornDown.thread, tornDown.process, given_zero, zero_add, zero_add]
    cases r.createProcessAsUser with
    | none =>
        have refused : Holding ({token} + (given (nulHandle r) + given r.createJobObject))
            (_ ++ [.createProcessAsUser token w.impl.victimPath ("\"" ++ w.impl.victimPath ++ "\"")
              none]) :=
          (filed.quiet rfl rfl).of_eq fun _ => add_left_comm _ _ _
        refine wp_mono (fun _ w₁ untokened => ?_) (fun _ _ => id) (wp_closeHandle_holding refused)
        obtain ⟨impl₁, -, untokened⟩ := untokened
        refine wp_seq (wp_closeNul_holding r untokened) fun _ w₂ closed => ?_
        obtain ⟨impl₂, -, closed⟩ := closed
        have jobHeld : Holding ({r.createJobObject} + 0) w₂.log :=
          closed.of_eq fun _ => by rw [given_of_ne open_, add_zero]
        refine wp_seq (wp_closeHandle_holding jobHeld) fun _ w₃ unjobbed => ?_
        obtain ⟨impl₃, -, unjobbed⟩ := unjobbed
        simp only [wp_bind, wp_modify, wp_throw]
        refine ⟨?_, unjobbed⟩
        rw [impl₃, impl₂, impl₁]
        exact ⟨tornDown.ready, tornDown.pending, rfl, tornDown.process, tornDown.thread⟩
    | some pi =>
        have created : Holding ({token} + (given (nulHandle r) +
              ({pi.hThread} + ({pi.hProcess} + given r.createJobObject))))
            (_ ++ [.createProcessAsUser token w.impl.victimPath ("\"" ++ w.impl.victimPath ++ "\"")
              (some pi)]) :=
          (filed.created _ _ _ pi).of_eq fun _ => by abel
        refine wp_mono (fun _ w₁ untokened => ?_) (fun _ _ => id) (wp_closeHandle_holding created)
        obtain ⟨impl₁, place₁, untokened⟩ := untokened
        refine wp_seq (wp_closeNul_holding r untokened) fun _ w₂ closed => ?_
        obtain ⟨impl₂, place₂, closed⟩ := closed
        simp only [modifyVictim, wp_bind, wp_modify]
        have assigned : Holding ({pi.hThread} + ({pi.hProcess} + given r.createJobObject)) (_ ++
            [.assignProcessToJobObject r.createJobObject pi.hProcess r.assignProcessToJobObject]) :=
          closed.quiet rfl rfl
        refine wp_mono (fun _ w₃ unthreaded => ?_) (fun _ _ => id) (wp_closeHandle_holding assigned)
        obtain ⟨impl₃, place₃, unthreaded⟩ := unthreaded
        refine wp_mono (fun _ w₄ kept => ?_) (fun _ _ => id) (wp_closeHandle_holding unthreaded)
        obtain ⟨impl₄, place₄, kept⟩ := kept
        have place₅ : placeOf w₄.log = { placeOf w.log with
            place := .starting, others := 0, process := 0, thread := 0 } := by
          rw [place₄, place₃]
          simp only [placeOf_snoc, place₂, place₁, EventPlace.post]
        have impl₅ : w₄.impl = { w.impl with job := r.createJobObject, pid := pi.processId } := by
          rw [impl₄, impl₃, impl₂, impl₁]
        rw [keeps_zero, impl₅]
        refine ⟨⟨?_, ?_, ?_, ?_⟩, kept.of_eq fun _ => fields.symm⟩
        · rw [place₅]
        · rw [place₅]
        · rw [place₅, tornDown.process]
        · rw [place₅, tornDown.thread]

/-- With the page mapped the session holds what it has stored; otherwise nothing. -/
theorem wp_mapScratch_keeps (r : SpawnReplies) {w : World} (keeps : Keeps 0 w) :
    wp (mapScratch r) (fun _ w' => Keeps 0 w') (fun _ w' => NothingHeld w') w := by
  have asked : Holding (storedHandles w.impl)
      (w.log ++ [.virtualAllocEx w.impl.process kCodeBase (3 * kPageSize) r.virtualAllocEx]) :=
    (keeps_zero.mp keeps).quiet rfl rfl
  simp only [mapScratch, record, modifyImpl, modifyVictim, wp_bind, wp_get, wp_modify, wp_ite]
  split
  · exact wp_tearDownWith_keeps _ (keeps_zero.mpr asked)
  · exact keeps_zero.mpr asked

/-- **A start** leaves the session with the handles it has stored, or with none. -/
theorem wp_spawnFresh_keeps (r : SpawnReplies) {w : World} (keeps : Keeps 0 w) :
    wp (spawnFresh r) (fun _ w' => Keeps 0 w') (fun _ w' => NothingHeld w') w := by
  rw [spawnFresh]
  refine wp_seq (wp_mono (fun _ _ => id) (fun _ _ => False.elim) (wp_teardown_keeps keeps))
    fun _ w₁ down => ?_
  obtain ⟨tornDown, holding⟩ := down
  refine wp_seq (wp_mono (fun _ _ => id) (fun _ w' failed => ?_)
    (wp_buildRestrictedToken_holding r holding)) fun token w₂ built => ?_
  · exact ⟨failed.1 ▸ tornDown, failed.2⟩
  obtain ⟨impl₂, built⟩ := built
  refine wp_seq (wp_launchVictim_keeps r token (impl₂ ▸ tornDown) built)
    fun _ w₃ launched => ?_
  obtain ⟨starting, launched⟩ := launched
  rw [wp_bind, wp_get]
  exact wp_seq (wp_pumpToBreakpoint_keeps w₃.stream 0 starting launched)
    fun _ w₄ pumped => wp_mapScratch_keeps r pumped

/-- The session between two calls: what is open is stored. -/
theorem wp_ensureReady_keeps (r : SpawnReplies) {w : World} (keeps : Keeps 0 w) :
    wp (ensureReady r) (fun _ w' => Keeps 0 w') (fun _ w' => Keeps 0 w') w := by
  rw [ensureReady, wp_bind, wp_get, wp_ite]
  split
  · exact keeps
  · exact wp_mono (fun _ _ => id) (fun _ _ nothing => nothing.keeps) (wp_spawnFresh_keeps r keeps)

/-- A call of a test case that concerns no handle. -/
theorem Keeps.quiet {w w' : World} (keeps : Keeps 0 w) (call : Call) (plain : call.isPlain = true)
    (nothing : call.brings = 0) (impl : w'.impl = w.impl) (made : w'.log = w.log ++ [call]) :
    Keeps 0 w' := by
  rw [keeps_zero, impl, made]
  exact (keeps_zero.mp keeps).quiet plain nothing

/-- Setting the context opens nothing; a failure gives the victim up. -/
theorem wp_setUpContext_keeps (r : RunReplies) (tc : TestCase) {w : World} (keeps : Keeps 0 w) :
    wp (setUpContext r tc) (fun _ w' => Keeps 0 w') (fun _ w' => NothingHeld w') w := by
  simp only [setUpContext, getThreadContext, setThreadContext, modifyVictim, record,
    wp_bind, wp_get,
    wp_modify, wp_pure]
  cases r.getThreadContext with
  | false => exact wp_tearDownWith_keeps _ (keeps.quiet (.getThreadContext _ _) rfl rfl rfl rfl)
  | true =>
      have got : Keeps 0 { w with log := w.log ++ [.getThreadContext w.impl.thread true] } :=
        keeps.quiet (.getThreadContext _ _) rfl rfl rfl rfl
      simp only [↓reduceIte, wp_bind, wp_modify, wp_ite, wp_pure]
      cases r.setThreadContext with
      | false =>
          exact wp_tearDownWith_keeps _ (got.quiet (.setThreadContext _ _ _) rfl rfl rfl rfl)
      | true => exact got.quiet (.setThreadContext _ _ _) rfl rfl rfl rfl

/-- The pump of a test case has seen a number of events. -/
structure Stepping (others : Nat) (log : List Call) : Prop where
  place : (placeOf log).place = .stepping
  others : (placeOf log).others = others

/-- A write opens nothing. -/
theorem wp_write_keeps (process : HANDLE) (address : BitVec 64) (bytes : List (BitVec 8))
    (ok : Bool)
    {w : World} (keeps : Keeps 0 w) {bad : String → World → Prop} :
    wp (writeProcessMemory process address bytes ok)
      (fun _ w' => Keeps 0 w' ∧ Stepping 0 w'.log) bad w := by
  have written (w' : World) (impl : w'.impl = w.impl)
      (made : w'.log = w.log ++ [.writeProcessMemory process address bytes ok]) :
      Keeps 0 w' ∧ Stepping 0 w'.log := by
    refine ⟨keeps.quiet _ rfl rfl impl made, ?_, ?_⟩
    · rw [made, placeOf_snoc]
      rfl
    · rw [made, placeOf_snoc]
      rfl
  simp only [writeProcessMemory, modifyVictim, record, wp_bind, wp_modify, wp_ite, wp_pure]
  split
  · exact written _ rfl rfl
  · exact written _ rfl rfl

/-- Nor does the write of the code. -/
theorem wp_setUpCode_keeps (r : RunReplies) (tc : TestCase) {w : World} (keeps : Keeps 0 w) :
    wp (setUpCode r tc) (fun _ w' => Keeps 0 w') (fun _ w' => NothingHeld w') w := by
  rw [setUpCode, wp_ite]
  split
  · exact keeps
  · rw [wp_bind, wp_get]
    refine wp_seq (wp_write_keeps _ _ _ _ keeps) fun ok w₁ written => ?_
    rw [wp_ite]
    split
    · exact wp_tearDownWith_keeps _ written.1
    · exact written.1

/-- Nor does a write whose reply is not looked at. -/
theorem wp_discardWrite_keeps (process : HANDLE) (address : BitVec 64) (bytes : List (BitVec 8))
    (ok : Bool) {w : World} (keeps : Keeps 0 w) {bad : String → World → Prop} :
    wp (discard (writeProcessMemory process address bytes ok))
      (fun _ w' => Keeps 0 w' ∧ Stepping 0 w'.log) bad w :=
  (wp_discard _).mpr (wp_write_keeps process address bytes ok keeps)

/-- Nor do the writes of data and stack. -/
theorem wp_setUpMemory_keeps (r : RunReplies) (tc : TestCase) {w : World} (keeps : Keeps 0 w)
    {bad : String → World → Prop} :
    wp (setUpMemory r tc) (fun _ w' => Keeps 0 w' ∧ Stepping 0 w'.log) bad w := by
  rw [setUpMemory, wp_bind, wp_get]
  refine wp_seq (wp_discardWrite_keeps _ _ _ _ keeps) fun _ w₁ data => ?_
  refine wp_seq (wp_discardWrite_keeps _ _ _ _ data.1) fun _ w₂ stack => ?_
  refine wp_seq (wp_discardWrite_keeps _ _ _ _ stack.1) fun _ w₃ seed => ?_
  exact wp_discardWrite_keeps _ _ _ _ seed.1

/-- Nor does resuming the victim. -/
theorem wp_resume_keeps {n : Nat} {w : World} (keeps : Keeps 0 w) (stepping : Stepping n w.log)
    {bad : String → World → Prop} :
    wp resume (fun _ w' => Keeps 0 w' ∧ Stepping n w'.log) bad w := by
  simp only [resume, modifyImpl, wp_bind, wp_get, wp_ite, wp_pure]
  split
  · refine wp_mono (fun _ w' continued => ?_) (fun _ _ => id)
      (wp_continue_holding w.impl.pendingEvent (keeps_zero.mp keeps))
    obtain ⟨impl, place, kept⟩ := continued
    rw [wp_modify, keeps_zero]
    refine ⟨?_, ?_, ?_⟩
    · simp only [impl]
      exact kept
    · exact place ▸ stepping.place
    · exact place ▸ stepping.others
  · exact ⟨keeps, stepping⟩

/-- An event during the step: a file it brings is closed. -/
theorem wp_handleRunEvent_keeps (de : DebugEvent) {w : World}
    (other : de.info.exceptionRecord = none) (stepping : Stepping n log)
    (holding : Holding (storedHandles w.impl) log)
    (obtained : w.log = log ++ [.waitForDebugEvent kWaitTimeoutMs (some de)]) :
    wp (handleRunEvent de) (fun _ w' => Keeps 0 w' ∧ Stepping (n + 1) w'.log)
      (fun _ w' => NothingHeld w') w := by
  have brought : Holding (Call.brings (.waitForDebugEvent kWaitTimeoutMs (some de)) +
      storedHandles w.impl) w.log := obtained ▸ holding.obtain_ kWaitTimeoutMs de
  have later : Stepping (n + 1) w.log := by
    have same : (placeOf w.log).place = .stepping ∧ (placeOf w.log).others = n + 1 := by
      rw [obtained, placeOf_snoc]
      simp only [EventPlace.post, EventPlace.receive, other, Option.isSome_none, Bool.false_eq_true,
        ↓reduceIte]
      cases de.info <;> exact ⟨stepping.place, congrArg (· + 1) stepping.others⟩
    exact ⟨same.1, same.2⟩
  obtain ⟨serial, processId, threadId, info⟩ := de
  have passes (nothing : Disposed w.log → Call.brings (.waitForDebugEvent kWaitTimeoutMs
        (some ⟨serial, processId, threadId, info⟩)) = 0) :
      wp (continueDebugEvent ⟨serial, processId, threadId, info⟩)
        (fun _ w' => Keeps 0 w' ∧ Stepping (n + 1) w'.log) (fun _ w' => NothingHeld w') w := by
    have kept : Holding (storedHandles w.impl) w.log :=
      brought.of_eq fun disposed => by rw [nothing disposed, zero_add]
    refine wp_mono (fun _ w' continued => ?_) (fun _ _ => id) (wp_continue_holding _ kept)
    obtain ⟨impl, place, kept⟩ := continued
    rw [keeps_zero, impl]
    exact ⟨kept, place ▸ later.place, place ▸ later.others⟩
  have gives (nothing : Call.brings (.waitForDebugEvent kWaitTimeoutMs
        (some ⟨serial, processId, threadId, info⟩)) = 0) (error : String) :
      wp (do
        continueDebugEvent ⟨serial, processId, threadId, info⟩
        tearDownWith error : Session Unit)
        (fun _ w' => Keeps 0 w' ∧ Stepping (n + 1) w'.log) (fun _ w' => NothingHeld w') w := by
    rw [nothing, zero_add] at brought
    refine wp_seq (wp_continue_holding _ brought) fun _ w₁ ⟨impl, _, kept⟩ => ?_
    exact wp_tearDownWith_keeps _ (keeps_zero.mpr (impl ▸ kept))
  cases info with
  | loadDll hFile =>
      refine wp_seq (wp_close_holding brought) fun _ w₁ ⟨impl₁, place₁, closed⟩ => ?_
      refine wp_mono (fun _ w₂ continued => ?_) (fun _ _ => id) (wp_continue_holding _ closed)
      obtain ⟨impl₂, place₂, kept⟩ := continued
      rw [keeps_zero, impl₂, impl₁]
      exact ⟨kept, (place₂.trans place₁) ▸ later.place, (place₂.trans place₁) ▸ later.others⟩
  | createProcess hFile hProcess hThread =>
      refine passes fun disposed => ?_
      have fits := (Disposed.before (obtained ▸ disposed)).2
      have null : (hFile = 0 ∧ hProcess = 0) ∧ hThread = 0 := by
        simpa [EventPlace.fits, stepping.place] using fits
      simp only [Call.brings, null, given_zero, add_zero]
  | createThread hThread =>
      exact passes fun disposed => brings_createThread (Disposed.before (obtained ▸ disposed)).2
  | exitProcess => exact gives rfl _
  | rip => exact gives rfl _
  | exception record => cases other
  | _ => exact passes fun _ => rfl

/-- Nor does the report of an exception. -/
theorem wp_classify_keeps (r : RunReplies) (de : DebugEvent) (rec : ExceptionRecord) {w : World}
    (keeps : Keeps 0 w) {bad : String → World → Prop} :
    wp (classify r de rec) (fun _ w' => Keeps 0 w') bad w := by
  simp only [classify, getThreadContext, readProcessMemory, record, modifyImpl, wp_bind, wp_get,
    wp_modify, wp_pure]
  have got : Holding (storedHandles w.impl)
      (w.log ++ [.getThreadContext w.impl.thread r.getThreadContextAfter]) :=
    (keeps_zero.mp keeps).quiet rfl rfl
  rw [keeps_zero]
  exact got.quiet rfl rfl

/-- The pump of a test case: what is open is stored. -/
theorem wp_pumpToException_keeps (r : RunReplies) (stream : List Delivery) (n : Nat) {w : World}
    (stepping : Stepping n w.log) (keeps : Keeps 0 w) :
    wp (pumpToException r stream n) (fun _ w' => Keeps 0 w') (fun _ w' => NothingHeld w') w := by
  induction stream generalizing n w with
  | nil => exact wp_tearDownWith_keeps _ (Holding.waited keeps _)
  | cons delivery rest ih =>
      rw [keeps_zero] at keeps
      simp only [pumpToException, waitForDebugEvent, record, wp_bind, wp_get, wp_set, wp_modify,
        wp_pure]
      cases delivery.event with
      | none => exact wp_tearDownWith_keeps _ (keeps_zero.mpr (keeps.waited _))
      | some event =>
          simp only [Option.map_some]
          cases raised : event.info.exceptionRecord with
          | some rec =>
              exact wp_classify_keeps r _ rec (keeps_zero.mpr
                (keeps.exception { event with serial := w.obtained } raised kWaitTimeoutMs).1)
          | none =>
              simp only [wp_ite]
              split
              · refine wp_tearDownWith_keeps _ (keeps_zero.mpr (keeps.over_cap _ _ ?_ ?_))
                · rw [stepping.place]
                  decide
                · rw [stepping.others]
                  omega
              · refine (wp_bind _ _).mpr
                  (wp_mono (fun _ w₁ handled => ih (n + 1) handled.2 handled.1)
                  (fun _ _ => id) (wp_handleRunEvent_keeps { event with serial := w.obtained }
                    raised stepping keeps rfl))

/-- Replacing the victim leaves nothing held. -/
theorem wp_respawnHygiene_keeps (out : LaneOutcome) {w : World} (keeps : Keeps 0 w) :
    wp (respawnHygiene out) (fun _ w' => Keeps 0 w') (fun _ _ => False) w := by
  simp only [respawnHygiene, modifyImpl, wp_bind, wp_modify, wp_get, wp_ite, wp_pure]
  split
  · refine wp_mono (fun _ w' down => ?_) (fun _ _ => id) (wp_teardown_keeps (H := 0) ?_)
    · exact NothingHeld.keeps ⟨down.1, down.2⟩
    · exact keeps
  · exact keeps

/-- **A step** leaves the session with the handles it has stored. -/
theorem wp_stepVictim_keeps (r : RunReplies) (tc : TestCase) {w : World} (keeps : Keeps 0 w) :
    wp (stepVictim r tc) (fun _ w' => Keeps 0 w') (fun _ w' => Keeps 0 w') w := by
  rw [stepVictim]
  refine wp_seq (wp_mono (fun _ _ => id) (fun _ _ => NothingHeld.keeps)
    (wp_setUpContext_keeps r tc keeps)) fun _ w₁ keeps₁ => ?_
  refine wp_seq (wp_mono (fun _ _ => id) (fun _ _ => NothingHeld.keeps)
    (wp_setUpCode_keeps r tc keeps₁)) fun _ w₂ keeps₂ => ?_
  refine wp_seq (wp_setUpMemory_keeps r tc keeps₂) fun _ w₃ stepping => ?_
  obtain ⟨keeps₃, stepping₃⟩ := stepping
  refine wp_seq (wp_resume_keeps keeps₃ stepping₃) fun _ w₄ resumed => ?_
  obtain ⟨keeps₄, stepping₄⟩ := resumed
  rw [wp_bind, wp_get]
  refine wp_seq (wp_mono (fun _ _ => id) (fun _ _ => NothingHeld.keeps)
    (wp_pumpToException_keeps r w₄.stream 0 stepping₄ keeps₄)) fun out w₅ keeps₅ => ?_
  exact wp_mono (fun _ _ => id) (fun _ _ => False.elim) (wp_respawnHygiene_keeps out keeps₅)

/-! ## Runs of a session -/

/-- What holds at the end of a program holds of what it leaves. -/
theorem keeps_worldAfter {α : Type} {prog : Session α} {w : World}
    (ends : wp prog (fun _ w' => Keeps 0 w') (fun _ w' => Keeps 0 w') w) :
    Keeps 0 (worldAfter prog w) := by
  rw [worldAfter]
  cases run : prog w with
  | ok value w' => exact (wp_of_ok run).mp ends
  | error error w' => exact (wp_of_error run).mp ends

/-- Between two calls on a session what is open is stored in it. -/
theorem keeps_perform {w : World} (keeps : Keeps 0 w) (call : SessionCall) :
    Keeps 0 (call.perform w) := by
  cases call with
  | start victimPath r =>
      refine keeps_worldAfter ?_
      simp only [start, modifyImpl, wp_bind, wp_modify]
      exact wp_ensureReady_keeps r keeps
  | runOne r tc =>
      have steps : (runOne r tc w).2 = worldAfter (runSteps r tc) w := by
        rw [runOne, worldAfter]
        cases runSteps r tc w <;> rfl
      rw [SessionCall.perform, steps]
      refine keeps_worldAfter ?_
      rw [runSteps]
      exact wp_seq (wp_ensureReady_keeps r.spawn keeps) fun _ _ => wp_stepVictim_keeps r tc
  | shutdown =>
      refine keeps_worldAfter (wp_mono (fun _ _ down => ?_) (fun _ _ => False.elim)
        (wp_teardown_keeps keeps))
      exact NothingHeld.keeps ⟨down.1, down.2⟩

/-- The end of a session: its destructor tears it down. -/
def World.destroyed (w : World) : World := SessionCall.shutdown.perform w

/-- Nothing was done to a closed handle, and the open ones are those in the session. -/
structure HandlesOwned (w : World) : Prop where
  sound : NoneClosedTwice w.log
  held : (custodyOf w.log).held = storedHandles w.impl

/-- **Handles are owned.** In every run of calls whose events come where the session
disposes of what they bring, whatever the calls reply, nothing is done to a closed handle
and what is open is stored in the session, in every state between two calls; and when the
session is destroyed no handle is open. -/
theorem handles_owned {victim : Victim} {stream : List Delivery}
    {trace : List (World × SessionCall)} {final : World}
    (run : Run sessionStep (.initial victim stream) trace final)
    (disposed : Disposed final.destroyed.log) :
    (∀ moment ∈ trace, HandlesOwned moment.1) ∧ HandlesOwned final ∧
      NoneClosedTwice final.destroyed.log ∧ (custodyOf final.destroyed.log).held = 0 := by
  have fresh : Keeps 0 (World.initial victim stream) :=
    fun _ => ⟨Monitor.accepts_nil, rfl, List.forall_mem_nil _⟩
  have preserved (w : World) (call : SessionCall) (next : World) (keeps : Keeps 0 w)
      (moved : sessionStep w call = some next) : Keeps 0 next :=
    Option.some.inj moved ▸ keeps_perform keeps call
  have grows (w : World) (call : SessionCall) (next : World)
      (moved : sessionStep w call = some next) :
      w.log <+: next.log := Option.some.inj moved ▸ log_perform w call
  have owned (w : World) (keeps : Keeps 0 w) (earlier : w.log <+: final.destroyed.log) :
      HandlesOwned w := by
    have custodial := keeps_zero.mp keeps (disposed.of_prefix earlier)
    exact ⟨custodial.sound, custodial.held⟩
  have ending : final.log <+: final.destroyed.log := log_perform final .shutdown
  have keepsFinal : Keeps 0 final := run.invariant (Keeps 0) fresh preserved
  refine ⟨fun moment member => ?_, owned final keepsFinal ending, ?_⟩
  · refine owned _ (run.moment_invariant (Keeps 0) fresh preserved member)
      (List.IsPrefix.trans ?_ ending)
    exact run.moment_related (fun w w' => w.log <+: w'.log)
      (fun _ _ _ => List.IsPrefix.trans) grows member
  · have down := wp_teardown_keeps keepsFinal
    have empty : Holding 0 final.destroyed.log := by
      rw [World.destroyed, SessionCall.perform, worldAfter, shutdown]
      cases ended : teardown final with
      | ok value w' => exact ((wp_of_ok ended).mp down).2
      | error error w' => exact ((wp_of_error ended).mp down).elim
    have custodial := empty disposed
    exact ⟨custodial.sound, custodial.held⟩

/-- A victim that starts and never exits: every wait after its initial breakpoint times
out. -/
def silentStream : List Delivery :=
  [.createProcess 20 32 36, .loadDll 40, .exception ⟨EXCEPTION_BREAKPOINT, 0, 0, fun _ => 0⟩].map
    fun info => ⟨some { processId := 100, threadId := 104, info := info }, freshVictim⟩

/-- A session whose victim never reports. -/
theorem handles_owned_silent :
    ∃ trace final, Run sessionStep (.initial freshVictim silentStream) trace final ∧
      (∀ moment ∈ trace, HandlesOwned moment.1) ∧ HandlesOwned final ∧
        NoneClosedTwice final.destroyed.log ∧ (custodyOf final.destroyed.log).held = 0 := by
  have run : Run sessionStep _ _ _ := .of_play (.initial freshVictim silentStream)
    [.start "victim.exe" (.granted freshVictim)] rfl
  exact ⟨_, _, run, handles_owned run (by decide)⟩

/-- The events of a victim that starts and, when it is terminated, exits. -/
def exitingStream : List Delivery :=
  [.createProcess 20 32 36, .exception ⟨EXCEPTION_BREAKPOINT, 0, 0, fun _ => 0⟩, .exitProcess].map
    fun info => ⟨some { processId := 100, threadId := 104, info := info }, freshVictim⟩

/-- The system closes the handles of the victim with its exit, and the session closes
them again. -/
theorem closed_twice_at_exit :
    ∃ trace final, Run sessionStep (.initial freshVictim exitingStream) trace final ∧
      ¬ NoneClosedTwice final.destroyed.log := by
  refine ⟨_, _, .of_play _ [.start "victim.exe" (.granted freshVictim)] rfl, ?_⟩
  decide

end SevenFuzzer
