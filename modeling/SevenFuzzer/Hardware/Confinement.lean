import SevenFuzzer.Hardware.EventProtocol
import SevenFuzzer.Hardware.Growth

/-! # The confinement of a victim

`spawn_fresh` is to leave a victim in its sandbox or none at all. Read off the calls it
makes: what it was given of the sandbox, and whether the victim it created may still be
running. `ready_confined_iff` says for which replies it keeps to this: three of the
calls that build the sandbox have replies that are not looked at.
-/

namespace SevenFuzzer

open Command

/-- The event is the exit of a process. -/
def DebugEvent.exits (de : DebugEvent) (pid : BitVec 32) : Bool :=
  de.info.isExitProcess && de.processId == pid

/-- The handles of a process, by the creation events that brought them: a handle is one of
the process whose event brought it last. -/
def DebugEvent.naming (de : DebugEvent) (pid : BitVec 32) (names : HANDLE → Bool) :
    HANDLE → Bool :=
  match de.info with
  | .createProcess _ hProcess _ => Function.update names hProcess (de.processId == pid)
  | _ => names

/-- What a list of calls has made of the victim: its process id, whether it runs, which
handles the events brought of it, whether it is in the job, and whether the job takes it
along when it is closed. -/
structure VictimFate where
  pid : BitVec 32 := 0
  alive : Bool := false
  names : HANDLE → Bool := fun _ => false
  assigned : Bool := false
  killOnClose : Bool := false

/-- An event of another process, such as a victim of before or a child, says nothing of this
one. -/
def VictimFate.hears (fate : VictimFate) (de : DebugEvent) : VictimFate :=
  { fate with
    alive := fate.alive && !de.exits fate.pid
    names := de.naming fate.pid fate.names }

/-- What each call changes in the victim's fate. Events count only when they are of its own
process. -/
def VictimFate.post (fate : VictimFate) : Call → VictimFate
  | .createJobObject _ => { fate with assigned := false, killOnClose := false }
  | .setInformationJobObject _ (.extended killOnJobClose ..) ok =>
      { fate with killOnClose := killOnJobClose && ok }
  | .createProcessAsUser _ _ _ (some pi) =>
      { fate with pid := pi.processId, alive := true, names := fun _ => false }
  | .assignProcessToJobObject _ _ ok => { fate with assigned := ok }
  | .waitForDebugEvent _ (some de) => fate.hears de
  | .terminateProcess process _ => { fate with alive := fate.alive && !fate.names process }
  | .closeHandle .job _ =>
      { fate with alive := fate.alive && !(fate.assigned && fate.killOnClose) }
  | _ => fate

/-- A step towards the sandbox or the victim in it that failed. -/
def Call.failsStep : Call → Bool
  | .openProcessToken none | .duplicateTokenEx _ none | .createRestrictedToken _ none => true
  | .convertStringSidToSid _ false | .setTokenInformation _ _ false => true
  | .createJobObject job => job == 0
  | .setInformationJobObject _ _ false | .createProcessAsUser _ _ _ none => true
  | .assignProcessToJobObject _ _ false => true
  | _ => false

/-- The victim was created under the restricted token of low integrity and put into the
job, which was given its limits: kill on close, one active process, a memory limit and
the UI restrictions. -/
def Confined (calls : List Call) (job : HANDLE) : Prop :=
  ∃ dupToken token path commandLine pi,
    .createRestrictedToken dupToken (some token) ∈ calls ∧
    .setTokenInformation token lowIntegritySid true ∈ calls ∧
    .createProcessAsUser token path commandLine (some pi) ∈ calls ∧
    .assignProcessToJobObject job pi.hProcess true ∈ calls ∧
    .setInformationJobObject job jobLimits true ∈ calls ∧
    .setInformationJobObject job jobUiRestrictions true ∈ calls

/-- What `spawn_fresh` is to do: if it returns true the victim is confined, and if a
step failed it returns false and leaves no victim alive. -/
def ReadyConfined (r : SpawnReplies) (w : World) : Prop :=
  match spawnFresh r w with
  | .ok _ w' => Confined (w'.log.drop w.log.length) w'.impl.job ∧
      ∀ call ∈ w'.log.drop w.log.length, call.failsStep = false
  | .error _ w' => (∃ call ∈ w'.log.drop w.log.length, call.failsStep = true) →
      ((w'.log.drop w.log.length).foldl VictimFate.post {}).alive = false

/-- The draining comes to the exit of the process before any other exit. -/
def drainSeesExit (pid : BitVec 32) : Nat → List Delivery → Bool
  | 0, _ => false
  | _ + 1, [] => false
  | i + 1, delivery :: rest =>
      match delivery.event with
      | none => false
      | some de => if de.info.isExitProcess then de.processId == pid else drainSeesExit pid i rest

/-- Giving up a victim, the job apart: where a process handle is known, what it stands for is
terminated and the events are drained. It ends the victim if the handle is one of the victim,
or if the draining sees it exit. -/
def givingUpEnds (pid : BitVec 32) (process : HANDLE) (names : HANDLE → Bool)
    (stream : List Delivery) : Bool :=
  process != 0 && (names process || drainSeesExit pid 50 stream)

/-- The process handle after an event of the pump. -/
def DebugEvent.storedProcess (de : DebugEvent) (process : HANDLE) : HANDLE :=
  match de.info with
  | .createProcess _ hProcess _ => if hProcess ≠ 0 then hProcess else process
  | _ => process

/-- Giving the victim up where the pump of `spawn_fresh` ends would end it, the job apart: the
pump has seen it exit, or giving it up does it. -/
def pumpEndsVictim (pid : BitVec 32) : List Delivery → Nat → HANDLE → (HANDLE → Bool) → Bool
  | [], _, process, names => givingUpEnds pid process names []
  | delivery :: rest, uninterestingEvents, process, names =>
      match delivery.event with
      | none => givingUpEnds pid process names rest
      | some de =>
          match de.info.exceptionRecord with
          | some rec =>
              if rec.exceptionCode = EXCEPTION_BREAKPOINT then givingUpEnds pid process names rest
              else pumpEndsVictim pid rest uninterestingEvents process names
          | none =>
              if uninterestingEvents + 1 > kMaxUninterestingEvents ∨
                de.info.isExitProcess = true then
                de.exits pid || givingUpEnds pid process (de.naming pid names) rest
              else
                pumpEndsVictim pid rest (uninterestingEvents + 1) (de.storedProcess process)
                  (de.naming pid names)

/-- The process id of the victim that is created, if one is. -/
def SpawnReplies.victimPid (r : SpawnReplies) : BitVec 32 :=
  (r.createProcessAsUser.map (·.processId)).getD 0#32

/-- The replies that are not looked at are good ones. -/
def Sandboxed (r : SpawnReplies) : Prop :=
  r.assignProcessToJobObject = true ∧ r.setExtendedLimits = true ∧ r.setUiRestrictions = true

/-! ## Calls made -/

/-- The calls made between two worlds. -/
def Makes (P : List Call → Prop) (w w' : World) : Prop := ∃ calls, w'.log = w.log ++ calls ∧ P calls

/-- The calls made in two parts are those of the one and then of the other. -/
theorem Makes.trans {P Q R : List Call → Prop} {w w' w'' : World} (first : Makes P w w')
    (second : Makes Q w' w'') (join : ∀ calls calls', P calls → Q calls' → R (calls ++ calls')) :
    Makes R w w'' := by
  obtain ⟨calls, grown, held⟩ := first
  obtain ⟨calls', grown', held'⟩ := second
  exact ⟨calls ++ calls', by rw [grown', grown, List.append_assoc], join _ _ held held'⟩

/-- A weaker property of the calls. -/
theorem Makes.mono {P Q : List Call → Prop} {w w' : World} (makes : Makes P w w')
    (weaker : ∀ calls, P calls → Q calls) : Makes Q w w' := by
  obtain ⟨calls, grown, held⟩ := makes
  exact ⟨calls, grown, weaker calls held⟩

/-- Two properties of the same calls. -/
theorem Makes.and {P Q : List Call → Prop} {w w' : World} (left : Makes P w w')
    (right : Makes Q w w') : Makes (fun calls => P calls ∧ Q calls) w w' := by
  obtain ⟨calls, grown, held⟩ := left
  obtain ⟨calls', grown', held'⟩ := right
  obtain rfl := List.append_cancel_left (grown.symm.trans grown')
  exact ⟨calls, grown, held, held'⟩

/-- A fate that no call of a list changes. -/
theorem VictimFate.foldl_eq {fate : VictimFate} {calls : List Call}
    (kept : ∀ call ∈ calls, fate.post call = fate) : calls.foldl VictimFate.post fate = fate := by
  induction calls with
  | nil => rfl
  | cons call calls ih =>
      rw [List.forall_mem_cons] at kept
      rw [List.foldl_cons, kept.1]
      exact ih kept.2

/-- What the calls made between two worlds do to the fate of a victim. -/
def Turns (turn : VictimFate → VictimFate) (w w' : World) : Prop :=
  Makes (fun calls => ∀ fate, calls.foldl VictimFate.post fate = turn fate) w w'

/-- Nothing was called. -/
theorem Turns.of_log {w w' : World} (same : w'.log = w.log) : Turns id w w' :=
  ⟨[], by rw [same, List.append_nil], fun _ => rfl⟩

/-- One turn after another. -/
theorem Turns.trans {turn turn' : VictimFate → VictimFate} {w w' w'' : World}
    (first : Turns turn w w') (second : Turns turn' w' w'') : Turns (turn' ∘ turn) w w'' := by
  refine Makes.trans first second fun calls calls' held held' fate => ?_
  rw [List.foldl_append, held, held']
  rfl

/-- A call that leaves the fate as it is. -/
theorem Turns.append {turn : VictimFate → VictimFate} {w w' w'' : World} {call : Call}
    (first : Turns turn w w') (grown : w''.log = w'.log ++ [call])
    (silent : ∀ fate : VictimFate, fate.post call = fate) : Turns turn w w'' :=
  (Turns.trans first (show Turns id w' w'' from ⟨[call], grown, silent⟩) :)

/-- Closing the job takes the victim along. -/
def VictimFate.inJob (fate : VictimFate) (impl : Impl) : Bool :=
  impl.job != 0 && (fate.assigned && fate.killOnClose)

/-- A fate after something that may have ended the victim and left it in its job. -/
structure VictimFate.After (ended : Bool) (fate fate' : VictimFate) : Prop where
  pid : fate'.pid = fate.pid
  alive : fate'.alive = (fate.alive && !ended)
  assigned : fate'.assigned = fate.assigned
  killOnClose : fate'.killOnClose = fate.killOnClose

/-- Nothing happened. -/
theorem VictimFate.After.refl (fate : VictimFate) : fate.After false fate :=
  ⟨rfl, (Bool.and_true _).symm, rfl, rfl⟩

/-- The victim has ended if it ended in either part. -/
theorem VictimFate.After.trans {ended ended' : Bool} {fate fate' fate'' : VictimFate}
    (first : fate.After ended fate') (second : fate'.After ended' fate'') :
    fate.After (ended || ended') fate'' := by
  refine ⟨second.pid.trans first.pid, ?_, second.assigned.trans first.assigned,
    second.killOnClose.trans first.killOnClose⟩
  rw [second.alive, first.alive, Bool.not_or, Bool.and_assoc]

/-- Hearing an event ends the victim exactly if it is the victim's own exit. -/
theorem VictimFate.after_hears (fate : VictimFate) (de : DebugEvent) :
    fate.After (de.exits fate.pid) (fate.hears de) := ⟨rfl, rfl, rfl, rfl⟩

/-- Whether closing the job would take the victim along does not change. -/
theorem VictimFate.After.inJob {ended : Bool} {fate fate' : VictimFate} {impl impl' : Impl}
    (after : fate.After ended fate') (job : impl'.job = impl.job) :
    fate'.inJob impl' = fate.inJob impl := by
  rw [VictimFate.inJob, VictimFate.inJob, job, after.assigned, after.killOnClose]

/-- The calls leave a fate as it is, but for what may have ended the victim. -/
def Passes (ended : VictimFate → Bool) (w w' : World) : Prop :=
  Makes (fun calls => ∀ fate : VictimFate,
    fate.After (ended fate) (calls.foldl VictimFate.post fate)) w w'

/-- The drain ends the victim exactly if it comes to the victim's exit. -/
theorem wp_drainLoop_fate (i : Nat) (stream : List Delivery) (w : World) :
    wp (drainLoop i stream) (fun _ w' => Passes (fun fate => drainSeesExit fate.pid i stream) w w')
      (fun _ _ => False) w := by
  induction i generalizing stream w with
  | zero => exact ⟨[], (List.append_nil _).symm, VictimFate.After.refl⟩
  | succ i ih =>
      cases stream with
      | nil => exact ⟨[.waitForDebugEvent 200 none], rfl, VictimFate.After.refl⟩
      | cons delivery rest =>
          simp only [drainLoop, waitForDebugEvent, continueDebugEvent, record, wp_bind, wp_get,
            wp_set, wp_modify, wp_pure, drainSeesExit]
          cases delivery.event with
          | none => exact ⟨[.waitForDebugEvent 200 none], rfl, VictimFate.After.refl⟩
          | some de =>
              simp only [Option.map_some, wp_bind, wp_get, wp_modify, wp_ite]
              have heard : ∀ fate : VictimFate, fate.After (de.exits fate.pid)
                  (fate.hears { de with serial := w.obtained }) := fun fate => fate.after_hears de
              split
              · rename_i exits
                refine ⟨[_, _], List.append_assoc .., fun fate => ?_⟩
                have own := heard fate
                rw [DebugEvent.exits, exits, Bool.true_and] at own
                exact own
              · rename_i other
                refine wp_mono (fun _ w' drained => ?_) (fun _ _ => id) (ih rest _)
                obtain ⟨calls, grown, passes⟩ := drained
                refine ⟨.waitForDebugEvent 200 (some { de with serial := w.obtained }) ::
                  .continueDebugEvent { de with serial := w.obtained } delivery.victim :: calls,
                  ?_, fun fate => ?_⟩
                · rw [grown]
                  simp
                · have own := (heard fate).trans (passes _)
                  rw [DebugEvent.exits, Bool.eq_false_iff.mpr other, Bool.false_and,
                    Bool.false_or] at own
                  exact own

/-- Terminating what the handle stands for and draining ends the victim as `givingUpEnds` says. -/
theorem wp_drainToExit_fate {w : World} :
    wp (whenOpen w.impl.process drainToExit)
      (fun _ w' => Passes (fun fate =>
        givingUpEnds fate.pid w.impl.process fate.names w.stream) w w')
      (fun _ _ => False) w := by
  rw [whenOpen, wp_ite]
  split
  · rename_i process
    simp only [drainToExit, record, wp_bind, wp_get, wp_modify, if_neg process]
    refine wp_mono (fun _ w' drained => ?_) (fun _ _ => id) (wp_drainLoop_fate 50 w.stream _)
    obtain ⟨calls, grown, passes⟩ := drained
    refine ⟨.terminateProcess w.impl.process 1#32 :: calls, ?_, fun fate => ?_⟩
    · rw [grown]
      exact List.append_assoc ..
    · have terminated : fate.After (fate.names w.impl.process)
          (fate.post (.terminateProcess w.impl.process 1#32)) := ⟨rfl, rfl, rfl, rfl⟩
      have known : givingUpEnds fate.pid w.impl.process fate.names w.stream =
          (fate.names w.impl.process || drainSeesExit fate.pid 50 w.stream) := by
        rw [givingUpEnds, bne_iff_ne.mpr process, Bool.true_and]
      have drained := terminated.trans (passes (fate.post (.terminateProcess w.impl.process 1#32)))
      simp only [known]
      exact drained
  · rename_i process
    refine ⟨[], (List.append_nil _).symm, fun fate => ?_⟩
    have unknown : givingUpEnds fate.pid w.impl.process fate.names w.stream = false := by
      rw [givingUpEnds, bne_eq_false_iff_eq.mpr (not_not.mp process), Bool.false_and]
    simp only [unknown]
    exact .refl fate

/-- Of the handles, only the job's can end a victim. -/
theorem wp_close_fate (kind : HandleKind) (handle : HANDLE) (w : World) :
    wp (whenOpen handle (closeHandle kind handle))
      (fun _ w' => Turns (fun fate =>
        if handle ≠ 0 then fate.post (.closeHandle kind handle) else fate) w w')
      (fun _ _ => False) w := by
  rw [whenOpen, wp_ite]
  split
  · exact ⟨[.closeHandle kind handle], rfl, fun _ => rfl⟩
  · exact .of_log rfl

/-- The victim has been given up: closing the job ends it, or what came before did. -/
def Ends (impl : Impl) (ended : VictimFate → Bool) (w w' : World) : Prop :=
  Makes (fun calls => ∀ fate, (calls.foldl VictimFate.post fate).alive =
    (fate.alive && !fate.inJob impl && !ended fate)) w w'

/-- **Giving a victim up** ends it through its job, through its handle, or not at all. -/
theorem wp_teardown_fate (w : World) :
    wp teardown
      (fun _ w' => TornDown w'.impl ∧ Ends w.impl (fun fate =>
        givingUpEnds fate.pid w.impl.process fate.names w.stream) w w')
      (fun _ _ => False) w := by
  have turned : wp teardown (fun _ w' => Ends w.impl (fun fate =>
      givingUpEnds fate.pid w.impl.process fate.names w.stream) w w') (fun _ _ => False) w := by
    rw [teardown, wp_bind, wp_get]
    refine wp_seq wp_drainToExit_fate fun _ w₁ drained => ?_
    refine wp_seq (wp_close_fate ..) fun _ w₂ thread => ?_
    refine wp_seq (wp_close_fate ..) fun _ w₃ process => ?_
    refine wp_seq (wp_close_fate ..) fun _ w₄ job => ?_
    refine Makes.trans (P := fun calls => ∀ fate : VictimFate, fate.After _ _) drained
      ((thread.trans process).trans job) fun calls calls' passes closed fate => ?_
    obtain ⟨_, alive, assigned, killOnClose⟩ := passes fate
    rw [List.foldl_append, closed, VictimFate.inJob]
    simp only [Function.comp_apply, VictimFate.post, ite_self]
    by_cases none : w.impl.job = 0
    · simp [none, alive]
    · have open_ : (w.impl.job != 0) = true := bne_iff_ne.mpr none
      rw [if_pos none, open_, Bool.true_and, alive, assigned, killOnClose]
      exact Bool.and_right_comm ..
  exact wp_mono (fun _ _ both => ⟨both.1.tornDown, both.2⟩) (fun _ _ both => both.1)
    (wp_and (wp_teardown w) turned)

/-! ## The pump -/

/-- What went before a victim was given up belongs to its end. -/
theorem Passes.then_ends {impl impl' : Impl} {passed ended ended' : VictimFate → Bool}
    {turn : VictimFate → VictimFate} {w w' w'' : World} (turns : Turns turn w w')
    (passes : ∀ fate : VictimFate, fate.After (passed fate) (turn fate))
    (job : impl'.job = impl.job)
    (ends : Ends impl' ended' w' w'')
    (join : ∀ fate, ended fate = (passed fate || ended' (turn fate))) : Ends impl ended w w'' := by
  refine Makes.trans turns ends fun calls calls' turned held fate => ?_
  rw [List.foldl_append, held, turned, (passes fate).alive, (passes fate).inJob job, join,
    Bool.not_or, ← Bool.and_assoc]
  exact congrArg (· && _) (Bool.and_right_comm ..)

/-- A call that no victim hears, before a session that ends. -/
theorem Ends.of_silent {impl impl' : Impl} {ended ended' : VictimFate → Bool} {w w' w'' : World}
    {call : Call} (ends : Ends impl' ended' w' w'') (grown : w'.log = w.log ++ [call])
    (silent : ∀ fate : VictimFate, fate.post call = fate) (job : impl'.job = impl.job)
    (same : ∀ fate, ended fate = ended' fate) : Ends impl ended w w'' :=
  Passes.then_ends (show Turns id w w' from ⟨[call], grown, silent⟩) VictimFate.After.refl job ends
    fun fate => (same fate).trans (Bool.false_or _).symm

/-- So does giving it up with an error. -/
theorem wp_tearDownWith_fate {α : Type} {good : α → World → Prop} {bad : String → World → Prop}
    (error : String) {w : World} (gaveUp : ∀ w', Ends w.impl (fun fate =>
      givingUpEnds fate.pid w.impl.process fate.names w.stream) w w' → bad error w') :
    wp (tearDownWith error) good bad w :=
  wp_seq (wp_mono (fun _ _ => id) (fun _ _ => False.elim) (wp_teardown_fate w)) fun _ w' down =>
    gaveUp w' down.2

/-- The pump has reached the breakpoint: giving the victim up from here would end it as `ended`
says. -/
structure ReachesSync (ended : VictimFate → Bool) (w w' : World) : Prop where
  job : w'.impl.job = w.impl.job
  makes : Makes (fun calls => ∀ fate : VictimFate,
    fate.After false (calls.foldl VictimFate.post fate) ∧
    givingUpEnds fate.pid w'.impl.process (calls.foldl VictimFate.post fate).names w'.stream =
      ended fate) w w'

/-- A victim that was brought to its sync point and then given up. -/
theorem ReachesSync.then_ends {ended : VictimFate → Bool} {w w' w'' : World}
    (reaches : ReachesSync ended w w')
    (ends : Ends w'.impl (fun fate =>
      givingUpEnds fate.pid w'.impl.process fate.names w'.stream) w' w'') :
    Ends w.impl ended w w'' := by
  refine Makes.trans reaches.makes ends fun calls calls' held ended fate => ?_
  obtain ⟨after, gives⟩ := held fate
  simp only [List.foldl_append, ended, after.alive, after.inJob reaches.job, after.pid, gives,
    Bool.not_false, Bool.and_true]

/-- An event that is handled and gone: the world it leaves, and its turn of a fate. -/
structure Handled (de : DebugEvent) (w w' : World) : Prop where
  turns : Turns (·.hears de) w w'
  job : w'.impl.job = w.impl.job
  process : w'.impl.process = de.storedProcess w.impl.process

/-- An event that was handled, and the sync point later. -/
theorem Handled.then_reaches {de : DebugEvent} {ended ended' : VictimFate → Bool} {w w' w'' : World}
    (handled : Handled de w w') (stays : de.info.isExitProcess = false)
    (reaches : ReachesSync ended' w' w'')
    (join : ∀ fate : VictimFate, ended fate = ended' (fate.hears de)) :
    ReachesSync ended w w'' := by
  refine ⟨reaches.job.trans handled.job, Makes.trans handled.turns reaches.makes ?_⟩
  intro calls calls' heard held fate
  obtain ⟨after, gives⟩ := held (fate.hears de)
  have own := (fate.after_hears de).trans after
  rw [DebugEvent.exits, stays, Bool.false_and, Bool.or_false] at own
  rw [List.foldl_append, heard, join]
  exact ⟨own, gives⟩

/-- An event that was handled, and the victim given up later. -/
theorem Handled.then_ends {de : DebugEvent} {ended ended' : VictimFate → Bool} {w w' w'' : World}
    (handled : Handled de w w') (ends : Ends w'.impl ended' w' w'')
    (join : ∀ fate : VictimFate, ended fate = (de.exits fate.pid || ended' (fate.hears de))) :
    Ends w.impl ended w w'' :=
  Passes.then_ends handled.turns (fun fate => fate.after_hears de) handled.job ends join

/-- What serves an event after the wait: files are closed and the event is continued, and the
handles of a creation are stored. -/
structure Serviced (de : DebugEvent) (w w' : World) : Prop where
  turns : Turns id w w'
  stream : w'.stream = w.stream
  job : w'.impl.job = w.impl.job
  process : w'.impl.process = de.storedProcess w.impl.process

/-- Continuing an event ends nothing. -/
theorem wp_continue_fate {de : DebugEvent} {w : World} {bad : String → World → Prop}
    (unstored : de.storedProcess w.impl.process = w.impl.process) :
    wp (continueDebugEvent de) (fun _ w' => Serviced de w w') bad w :=
  ⟨⟨[_], rfl, fun _ => rfl⟩, rfl, rfl, unstored.symm⟩

/-- Nor does closing a module's file. -/
theorem wp_closeFile_fate {hFile : HANDLE} {w : World}
    {good : Unit → World → Prop} {bad : String → World → Prop}
    (closed : ∀ w₁, Turns id w w₁ → w₁.stream = w.stream → w₁.impl = w.impl → good () w₁) :
    wp (whenOpen hFile (closeHandle .file hFile)) good bad w :=
  wp_whenOpen (closed _ (.of_log rfl) rfl rfl) (closed _ ⟨[_], rfl, fun _ => rfl⟩ rfl rfl)

/-- An exit gives the victim up, whoever's exit it is; any other event only stores handles. -/
theorem wp_handleSpawnEvent_fate (de : DebugEvent) (w : World) :
    wp (handleSpawnEvent de)
      (fun _ w' => de.info.isExitProcess = false ∧ Serviced de w w')
      (fun _ w' => de.info.isExitProcess = true ∧ Ends w.impl (fun fate =>
        givingUpEnds fate.pid w.impl.process fate.names w.stream) w w') w := by
  obtain ⟨serial, processId, threadId, info⟩ := de
  cases info with
  | loadDll hFile =>
      rw [handleSpawnEvent, wp_bind]
      refine wp_closeFile_fate fun w₁ turns stream impl => ?_
      exact ⟨rfl, turns.append rfl fun _ => rfl, stream, congrArg Impl.job impl,
        congrArg Impl.process impl⟩
  | createProcess hFile hProcess hThread =>
      rw [handleSpawnEvent, wp_bind]
      refine wp_closeFile_fate fun w₁ turns stream impl => ?_
      simp only [whenOpen, modifyImpl, continueDebugEvent, record, wp_bind, wp_ite, wp_modify,
        wp_pure, wp_get]
      have stored : ∀ impl' : Impl, impl'.job = w₁.impl.job →
          impl'.process = (if hProcess ≠ 0 then hProcess else w₁.impl.process) →
          Serviced ⟨serial, processId, threadId, .createProcess hFile hProcess hThread⟩ w { w₁ with
            impl := impl'
            log := w₁.log ++ [.continueDebugEvent ⟨serial, processId, threadId,
              .createProcess hFile hProcess hThread⟩ w₁.victim] } := by
        intro impl' job process
        refine ⟨turns.append rfl fun _ => rfl, stream, job.trans (congrArg Impl.job impl), ?_⟩
        rw [impl] at process
        exact process
      by_cases process : hProcess = 0
      · rw [if_neg (not_not_intro process), if_neg (not_not_intro process)]
        split <;> refine ⟨rfl, stored _ rfl ?_⟩
        all_goals rw [if_neg (not_not_intro process)]
      · rw [if_pos process, if_pos process]
        split <;> refine ⟨rfl, stored _ rfl ?_⟩
        all_goals rw [if_pos process]
  | exitProcess =>
      rw [handleSpawnEvent]
      refine wp_seq (wp_continue_fate rfl) fun _ w₁ serviced => ?_
      refine wp_tearDownWith_fate _ fun w' ends => ⟨rfl, ?_⟩
      refine Passes.then_ends serviced.turns VictimFate.After.refl serviced.job ends fun fate => ?_
      rw [serviced.process, serviced.stream, id, Bool.false_or]
      rfl
  | _ => exact wp_mono (fun _ _ serviced => ⟨rfl, serviced⟩) (fun _ _ => id) (wp_continue_fate rfl)

/-- An exception is no exit. -/
theorem exception_not_exit {info : DebugEventInfo} {rec : ExceptionRecord}
    (exception : info.exceptionRecord = some rec) : info.isExitProcess = false := by
  cases info <;> first | rfl | cases exception

/-- An exception brings no handle. -/
theorem naming_exception {de : DebugEvent} {rec : ExceptionRecord}
    (exception : de.info.exceptionRecord = some rec) (pid : BitVec 32) (names : HANDLE → Bool)
    (process : HANDLE) : de.naming pid names = names ∧ de.storedProcess process = process := by
  obtain ⟨serial, processId, threadId, info⟩ := de
  cases info <;> first | exact ⟨rfl, rfl⟩ | cases exception

/-- The world after an event has been waited for and serviced. -/
theorem Serviced.handled {de : DebugEvent} {serial : Nat} {w w₁ w₂ : World}
    (serviced : Serviced { de with serial := serial } w₁ w₂)
    (waited : Turns (·.hears de) w w₁) (impl : w₁.impl = w.impl) : Handled de w w₂ where
  turns := (Turns.trans waited serviced.turns :)
  job := serviced.job.trans (congrArg Impl.job impl)
  process := impl ▸ serviced.process

/-- An exception that is no breakpoint says nothing of the end. -/
theorem pumpEndsVictim_of_exception {delivery : Delivery} {de : DebugEvent} {rec : ExceptionRecord}
    (arrived : delivery.event = some de) (exception : de.info.exceptionRecord = some rec)
    (other : rec.exceptionCode ≠ EXCEPTION_BREAKPOINT) (rest : List Delivery) (n : Nat)
    (pid : BitVec 32) (process : HANDLE) (names : HANDLE → Bool) :
    pumpEndsVictim pid (delivery :: rest) n process names =
      pumpEndsVictim pid rest n (de.storedProcess process) (de.naming pid names) := by
  obtain ⟨named, kept⟩ := naming_exception exception pid names process
  simp only [pumpEndsVictim, arrived, exception, if_neg other, named, kept]

/-- Nor does an event below the cap that is no exit, but for its handles. -/
theorem pumpEndsVictim_of_served {delivery : Delivery} {de : DebugEvent} {n : Nat}
    (arrived : delivery.event = some de) (exception : de.info.exceptionRecord = none)
    (within : ¬ n + 1 > kMaxUninterestingEvents) (stays : de.info.isExitProcess = false)
    (rest : List Delivery) (pid : BitVec 32) (process : HANDLE) (names : HANDLE → Bool) :
    pumpEndsVictim pid (delivery :: rest) n process names =
      pumpEndsVictim pid rest (n + 1) (de.storedProcess process) (de.naming pid names) := by
  simp only [pumpEndsVictim, arrived, exception, within, stays, Bool.false_eq_true, or_self,
    ↓reduceIte]

/-- An exit, or an event above the cap, ends the pump. -/
theorem pumpEndsVictim_of_last {delivery : Delivery} {de : DebugEvent} {n : Nat}
    (arrived : delivery.event = some de) (exception : de.info.exceptionRecord = none)
    (last : n + 1 > kMaxUninterestingEvents ∨ de.info.isExitProcess = true)
    (rest : List Delivery) (pid : BitVec 32) (process : HANDLE) (names : HANDLE → Bool) :
    pumpEndsVictim pid (delivery :: rest) n process names =
      (de.exits pid || givingUpEnds pid process (de.naming pid names) rest) := by
  simp only [pumpEndsVictim, arrived, exception, if_pos last]

/-- The pump goes on after an event that was handled. -/
theorem Handled.then_pump {de : DebugEvent} {delivery : Delivery} {rest : List Delivery} {n m : Nat}
    {w w₂ : World} (handled : Handled de w w₂) (stays : de.info.isExitProcess = false)
    (goesOn : ∀ pid process names, pumpEndsVictim pid (delivery :: rest) n process names =
      pumpEndsVictim pid rest m (de.storedProcess process) (de.naming pid names))
    (pumped : wp (pumpToBreakpoint rest m)
      (fun _ w' => ReachesSync (fun fate =>
        pumpEndsVictim fate.pid rest m w₂.impl.process fate.names) w₂ w')
      (fun _ w' => Ends w₂.impl (fun fate =>
        pumpEndsVictim fate.pid rest m w₂.impl.process fate.names) w₂ w') w₂) :
    wp (pumpToBreakpoint rest m)
      (fun _ w' => ReachesSync (fun fate =>
        pumpEndsVictim fate.pid (delivery :: rest) n w.impl.process fate.names) w w')
      (fun _ w' => Ends w.impl (fun fate =>
        pumpEndsVictim fate.pid (delivery :: rest) n w.impl.process fate.names) w w') w₂ := by
  have join : ∀ fate : VictimFate,
      pumpEndsVictim fate.pid (delivery :: rest) n w.impl.process fate.names =
        pumpEndsVictim fate.pid rest m w₂.impl.process (de.naming fate.pid fate.names) := by
    intro fate
    rw [goesOn, handled.process]
  refine wp_mono (fun _ _ reaches => handled.then_reaches stays reaches join)
    (fun _ _ ends => handled.then_ends ends fun fate => ?_) pumped
  rw [join, DebugEvent.exits, stays, Bool.false_and, Bool.false_or]
  rfl

/-- Giving up on an event that ends the pump. -/
theorem Ends.of_last {de : DebugEvent} {delivery : Delivery} {rest : List Delivery} {n : Nat}
    {w w₁ w' : World} (waited : Turns (·.hears de) w w₁) (impl : w₁.impl = w.impl)
    (left : w₁.stream = rest) (arrived : delivery.event = some de)
    (exception : de.info.exceptionRecord = none)
    (last : n + 1 > kMaxUninterestingEvents ∨ de.info.isExitProcess = true)
    (ends : Ends w₁.impl (fun fate =>
      givingUpEnds fate.pid w₁.impl.process fate.names w₁.stream) w₁ w') :
    Ends w.impl (fun fate =>
      pumpEndsVictim fate.pid (delivery :: rest) n w.impl.process fate.names) w w' := by
  refine Passes.then_ends waited (fun fate => fate.after_hears de) (congrArg Impl.job impl) ends
    fun fate => ?_
  rw [pumpEndsVictim_of_last arrived exception last, impl, left]
  rfl

/-- The breakpoint leaves the victim as it was. -/
theorem ReachesSync.of_breakpoint {de : DebugEvent} {rec : ExceptionRecord} {delivery : Delivery}
    {rest : List Delivery} {n : Nat} {w w₁ : World} (waited : Turns (·.hears de) w w₁)
    (impl : w₁.impl = w.impl) (left : w₁.stream = rest) (arrived : delivery.event = some de)
    (exception : de.info.exceptionRecord = some rec)
    (breakpoint : rec.exceptionCode = EXCEPTION_BREAKPOINT) :
    ReachesSync (fun fate =>
      pumpEndsVictim fate.pid (delivery :: rest) n w.impl.process fate.names) w w₁ := by
  refine ⟨congrArg Impl.job impl, Makes.mono waited fun calls turned fate => ?_⟩
  have own := fate.after_hears de
  rw [DebugEvent.exits, exception_not_exit exception, Bool.false_and] at own
  rw [turned]
  refine ⟨own, ?_⟩
  simp only [pumpEndsVictim, arrived, exception, if_pos breakpoint, impl, left, VictimFate.hears,
    (naming_exception exception _ _ 0).1]

/-- A pump that reaches the breakpoint leaves the victim alive, and one that gives up ends it,
the job apart, as the events say. -/
theorem wp_pumpToBreakpoint_fate (stream : List Delivery) (n : Nat) {w : World}
    (delivers : w.stream = stream) :
    wp (pumpToBreakpoint stream n)
      (fun _ w' => ReachesSync (fun fate =>
        pumpEndsVictim fate.pid stream n w.impl.process fate.names) w w')
      (fun _ w' => Ends w.impl (fun fate =>
        pumpEndsVictim fate.pid stream n w.impl.process fate.names) w w') w := by
  induction stream generalizing n w with
  | nil =>
      simp only [pumpToBreakpoint, waitForNothing, record, wp_bind, wp_modify]
      refine wp_tearDownWith_fate _ fun w' ends => ?_
      refine ends.of_silent rfl (fun _ => rfl) rfl fun fate => ?_
      rw [pumpEndsVictim, ← delivers]
  | cons delivery rest ih =>
      simp only [pumpToBreakpoint, waitForDebugEvent, record, wp_bind, wp_get, wp_set, wp_modify,
        wp_pure]
      cases arrived : delivery.event with
      | none =>
          simp only [Option.map_none]
          refine wp_tearDownWith_fate _ fun w' ends => ?_
          refine ends.of_silent rfl (fun _ => rfl) rfl fun fate => ?_
          simp only [pumpEndsVictim, arrived]
      | some de =>
          simp only [Option.map_some]
          generalize heard : ({ w with
            victim := delivery.victim
            stream := rest
            obtained := w.obtained + 1
            log := w.log ++ [.waitForDebugEvent kWaitTimeoutMs
              (some { de with serial := w.obtained })] } : World) = w₁
          have impl : w₁.impl = w.impl := by rw [← heard]
          have left : w₁.stream = rest := by rw [← heard]
          have waited : Turns (·.hears de) w w₁ := by
            rw [← heard]
            exact ⟨[_], rfl, fun _ => rfl⟩
          cases exception : de.info.exceptionRecord with
          | some rec =>
              simp only [wp_ite, modifyImpl, wp_modify, wp_bind]
              split
              · rename_i breakpoint
                have sync := ReachesSync.of_breakpoint (n := n) waited impl left arrived exception
                  breakpoint
                exact ⟨sync.job, sync.makes⟩
              · rename_i other
                have unstored := (naming_exception exception 0 (fun _ => false) w₁.impl.process).2
                refine wp_mono (fun _ w₂ serviced => ?_) (fun _ _ => id) (wp_continue_fate unstored)
                exact (serviced.handled waited impl).then_pump (exception_not_exit exception)
                  (pumpEndsVictim_of_exception arrived exception other rest n)
                  (ih n (serviced.stream.trans left))
          | none =>
              simp only [wp_ite, wp_bind]
              split
              · rename_i capped
                exact wp_tearDownWith_fate _ fun w' ends =>
                  ends.of_last waited impl left arrived exception (.inl capped)
              · rename_i within
                refine wp_mono (fun _ w₂ served => ?_) (fun _ w' exited => ?_)
                  (wp_handleSpawnEvent_fate _ _)
                · obtain ⟨stays, serviced⟩ := served
                  exact (serviced.handled waited impl).then_pump stays
                    (pumpEndsVictim_of_served arrived exception within stays rest)
                    (ih (n + 1) (serviced.stream.trans left))
                · obtain ⟨exits, ends⟩ := exited
                  exact ends.of_last waited impl left arrived exception (.inr exits)

/-- A step among the calls has failed. -/
def StepFailed (calls : List Call) : Prop := ∃ call ∈ calls, call.failsStep = true

/-- A step failed in one of the two parts. -/
theorem stepFailed_append (calls calls' : List Call) :
    StepFailed (calls ++ calls') ↔ StepFailed calls ∨ StepFailed calls' := by
  simp only [StepFailed, List.mem_append, or_and_right, exists_or]

/-- Nothing fails that the way to a victim depends on. -/
abbrev Unfailing (w w' : World) : Prop := GrowsBy (fun call => call.failsStep = false) w w'

/-- No call that failed, no step that failed. -/
theorem not_stepFailed {calls : List Call} (unfailing : ∀ call ∈ calls, call.failsStep = false) :
    ¬ StepFailed calls := by
  rintro ⟨call, member, fails⟩
  exact Bool.false_ne_true ((unfailing call member).symm.trans fails)

/-- No call of a pump is a step towards the sandbox. -/
theorem unfailing_pump {α : Type} {prog : Session α} (serves : Respects (Serves .pump) prog) :
    Respects Unfailing prog := by
  refine respects_mono (fun _ _ grows => grows.mono fun call served => ?_) serves
  cases call <;> first | rfl | cases served

/-- The token of a victim: made from a restricted one, and labelled. -/
structure TokenCalls (token : HANDLE) (calls : List Call) : Prop where
  restricted : ∃ dupToken, .createRestrictedToken dupToken (some token) ∈ calls
  labelled : .setTokenInformation token lowIntegritySid true ∈ calls
  succeed : ¬ StepFailed calls

/-- The token's calls leave every victim alone, and a token that is built is a restricted one. -/
theorem wp_buildRestrictedToken_fate (r : SpawnReplies) (w : World) :
    wp (buildRestrictedToken r) (fun token w' => Turns id w w' ∧ Makes (TokenCalls token) w w')
      (fun _ w' => Turns id w w') w := by
  have kept : ∀ w', GrowsBy (fun call => call.buildsToken = true) w w' → Turns id w w' := by
    rintro w' ⟨calls, grown, builds⟩
    refine ⟨calls, grown, fun fate => VictimFate.foldl_eq fun call member => ?_⟩
    have built := builds call member
    cases call with
    | closeHandle kind handle => cases kind <;> first | rfl | cases built
    | _ => first | rfl | cases built
  refine wp_mono (fun token w' both => ⟨kept w' both.1, both.2⟩) (fun _ w' both => kept w' both.1)
    (wp_and (growsBy_buildRestrictedToken r w)
      (?_ : wp _ (fun token w' => Makes (TokenCalls token) w w') (fun _ _ => True) w))
  simp only [buildRestrictedToken, closeHandle, record, wp_bind, wp_modify]
  rcases r.openProcessToken with _ | selfToken
  · trivial
  rcases r.duplicateTokenEx with _ | dupToken
  · trivial
  rcases r.createRestrictedToken with _ | restrictedToken
  · trivial
  cases r.convertStringSidToSid
  · trivial
  cases r.setTokenInformation
  · trivial
  · simp only [wp_bind, wp_modify, wp_pure, not_true_eq_false, ↓reduceIte]
    refine ⟨[.openProcessToken (some selfToken), .duplicateTokenEx selfToken (some dupToken),
      .closeHandle .token selfToken, .createRestrictedToken dupToken (some restrictedToken),
      .closeHandle .token dupToken, .convertStringSidToSid lowIntegritySid true,
      .setTokenInformation restrictedToken lowIntegritySid true], by simp,
      ⟨⟨dupToken, by simp⟩, by simp, ?_⟩⟩
    simp [StepFailed, Call.failsStep]

/-- The job and the process in it. -/
structure LaunchCalls (r : SpawnReplies) (token : HANDLE) (calls : List Call) : Prop where
  created : ∃ path commandLine pi, .createProcessAsUser token path commandLine (some pi) ∈ calls ∧
    .assignProcessToJobObject r.createJobObject pi.hProcess r.assignProcessToJobObject ∈ calls
  limits : .setInformationJobObject r.createJobObject jobLimits r.setExtendedLimits ∈ calls
  restrictions : .setInformationJobObject r.createJobObject jobUiRestrictions
    r.setUiRestrictions ∈ calls
  failed : StepFailed calls ↔ ¬ Sandboxed r
  fate : ∀ fate : VictimFate, calls.foldl VictimFate.post fate =
    ⟨r.victimPid, true, fun _ => false, r.assignProcessToJobObject, r.setExtendedLimits⟩

/-- The calls up to the process, whether or not there is a file to close. -/
def startCalls (r : SpawnReplies) (token : HANDLE) (path : String) (closes : List Call) :
    List Call :=
  [.createJobObject r.createJobObject,
    .setInformationJobObject r.createJobObject jobLimits r.setExtendedLimits,
    .setInformationJobObject r.createJobObject jobUiRestrictions r.setUiRestrictions,
    .createFile "NUL" r.createFile,
    .createProcessAsUser token path ("\"" ++ path ++ "\"") r.createProcessAsUser,
    .closeHandle .token token] ++ closes

/-- The calls of a launch that created a victim. -/
theorem launchCalls_of_created {r : SpawnReplies} {token : HANDLE} (path : String)
    {closes : List Call} {pi : ProcessInformation} (job : ¬ r.createJobObject = 0#64)
    (created : r.createProcessAsUser = some pi)
    (file : closes = [] ∨ closes = [.closeHandle .file r.createFile]) :
    LaunchCalls r token (startCalls r token path closes ++
      [.assignProcessToJobObject r.createJobObject pi.hProcess r.assignProcessToJobObject,
        .closeHandle .createdThread pi.hThread, .closeHandle .createdProcess pi.hProcess]) := by
  have closing : ¬ StepFailed closes := by
    rcases file with rfl | rfl <;> simp [StepFailed, Call.failsStep]
  refine ⟨⟨path, "\"" ++ path ++ "\"", pi, by simp [startCalls, created], by simp⟩,
    by simp [startCalls], by simp [startCalls], ?_, fun fate => ?_⟩
  · rw [startCalls, stepFailed_append, stepFailed_append, or_iff_left closing, Sandboxed]
    cases r.assignProcessToJobObject <;> cases r.setExtendedLimits <;> cases r.setUiRestrictions <;>
      simp [StepFailed, Call.failsStep, created, job]
  · rw [startCalls, SpawnReplies.victimPid, created]
    rcases file with rfl | rfl <;> simp [VictimFate.post, jobLimits, jobUiRestrictions]

/-- **The launch** creates the victim and puts it into its job, or fails and brings none to life. -/
theorem wp_launchVictim_fate (r : SpawnReplies) (token : HANDLE) (w : World) :
    wp (launchVictim r token)
      (fun _ w' => w'.impl.job = r.createJobObject ∧ w'.impl.process = w.impl.process ∧
        Makes (LaunchCalls r token) w w')
      (fun _ w' => Makes (fun calls => ∀ fate : VictimFate, fate.alive = false →
        (calls.foldl VictimFate.post fate).alive = false) w w') w := by
  simp only [launchVictim, record, modifyImpl, modifyVictim, closeHandle, wp_bind, wp_get,
    wp_modify, wp_ite, wp_throw]
  by_cases noJob : r.createJobObject = 0
  · rw [if_pos noJob]
    exact ⟨[_, _], List.append_assoc .., fun _ dead => dead⟩
  rw [if_neg noJob]
  cases created : r.createProcessAsUser with
  | none =>
      have dies : ∀ closes : List Call, closes = [] ∨ closes = [.closeHandle .file r.createFile] →
          ∀ fate : VictimFate, fate.alive = false → ((startCalls r token w.impl.victimPath closes ++
            [Call.closeHandle .job r.createJobObject]).foldl VictimFate.post fate).alive
              = false := by
        intro closes file fate dead
        rw [startCalls, created]
        rcases file with rfl | rfl <;> simp [VictimFate.post, jobLimits, jobUiRestrictions, dead]
      refine wp_whenOpen ⟨_, ?_, dies _ (.inl rfl)⟩ ⟨_, ?_, dies _ (.inr rfl)⟩
      all_goals simp [startCalls, created]
  | some pi =>
      have launched : ∀ closes : List Call,
          closes = [] ∨ closes = [.closeHandle .file r.createFile] → LaunchCalls r token _ :=
        fun closes => launchCalls_of_created w.impl.victimPath noJob created
      refine wp_whenOpen ⟨rfl, rfl, _, ?_, launched _ (.inl rfl)⟩
        ⟨rfl, rfl, _, ?_, launched _ (.inr rfl)⟩
      all_goals
        simp only [startCalls, created, List.append_assoc, List.cons_append, List.nil_append]

/-- The calls of a start that created a victim: a step failed where a reply that is not
looked at was bad. -/
structure SpawnCalls (r : SpawnReplies) (calls : List Call) : Prop where
  failed : StepFailed calls ↔ ¬ Sandboxed r
  confined : Sandboxed r → Confined calls r.createJobObject

/-- The calls of a start, from those of its three parts. -/
theorem SpawnCalls.of_parts {r : SpawnReplies} {token : HANDLE} {first second third : List Call}
    (built : TokenCalls token first) (launched : LaunchCalls r token second)
    (pump : ¬ StepFailed third) : SpawnCalls r (first ++ second ++ third) where
  failed := by
    rw [stepFailed_append, stepFailed_append, or_iff_left pump, or_iff_right built.succeed,
      launched.failed]
  confined sandboxed := by
    obtain ⟨dupToken, restricted⟩ := built.restricted
    obtain ⟨path, commandLine, pi, created, assigned⟩ := launched.created
    obtain ⟨assign, limits, restrictions⟩ := sandboxed
    rw [assign] at assigned
    have limited := launched.limits
    have restrained := launched.restrictions
    rw [limits] at limited
    rw [restrictions] at restrained
    have inFirst : ∀ {call}, call ∈ first → call ∈ first ++ second ++ third := fun member =>
      List.mem_append_left _ (List.mem_append_left _ member)
    have inSecond : ∀ {call}, call ∈ second → call ∈ first ++ second ++ third := fun member =>
      List.mem_append_left _ (List.mem_append_right _ member)
    exact ⟨dupToken, token, path, commandLine, pi, inFirst restricted, inFirst built.labelled,
      inSecond created, inSecond assigned, inSecond limited, inSecond restrained⟩

/-- The calls of a start that gave up its victim, if it created one. -/
structure AbandonedCalls (r : SpawnReplies) (stream : List Delivery) (calls : List Call) :
    Prop where
  uncreated : ¬ CreatesVictim r → (calls.foldl VictimFate.post {}).alive = false
  created : CreatesVictim r → (StepFailed calls ↔ ¬ Sandboxed r) ∧
    (calls.foldl VictimFate.post {}).alive =
      (!(r.assignProcessToJobObject && r.setExtendedLimits) &&
        !pumpEndsVictim r.victimPid stream 0 0 fun _ => false)

/-- The calls of an abandoned start: the launch, and then the victim given up. -/
theorem AbandonedCalls.of_parts {r : SpawnReplies} {stream : List Delivery} {token : HANDLE}
    {impl : Impl} {first second third : List Call} (creates : CreatesVictim r)
    (job : impl.job = r.createJobObject) (built : TokenCalls token first)
    (silent : ∀ fate : VictimFate, first.foldl VictimFate.post fate = fate)
    (launched : LaunchCalls r token second) (fine : ¬ StepFailed third)
    (ended : ∀ fate : VictimFate, (third.foldl VictimFate.post fate).alive =
      (fate.alive && !fate.inJob impl && !pumpEndsVictim fate.pid stream 0 0 fate.names)) :
    AbandonedCalls r stream (first ++ second ++ third) where
  uncreated failed := absurd creates failed
  created _ := by
    refine ⟨(SpawnCalls.of_parts built launched fine).failed, ?_⟩
    have open_ : (r.createJobObject != 0) = true := bne_iff_ne.mpr creates.2.1
    rw [List.foldl_append, List.foldl_append, silent, launched.fate, ended, VictimFate.inJob, job,
      open_, Bool.true_and, Bool.true_and]

/-- Mapping the page is no step towards the sandbox. -/
theorem unfailing_mapScratch (r : SpawnReplies) : Respects Unfailing (mapScratch r) := by
  refine growsBy_bind growsBy_get fun _ => growsBy_bind (growsBy_record rfl) fun _ => ?_
  refine respects_ite (unfailing_pump (serves_tearDownWith _)) ?_
  exact growsBy_bind (growsBy_modifyVictim _) fun _ => growsBy_modifyImpl _

/-- The page is mapped, or the victim is given up. -/
theorem wp_mapScratch_fate (r : SpawnReplies) (w : World) :
    wp (mapScratch r) (fun _ w' => w'.impl.job = w.impl.job)
      (fun _ w' => Ends w.impl (fun fate =>
        givingUpEnds fate.pid w.impl.process fate.names w.stream) w w') w := by
  simp only [mapScratch, record, modifyImpl, modifyVictim, wp_bind, wp_get, wp_modify, wp_ite]
  split
  · refine wp_tearDownWith_fate _ fun w' ends => ?_
    exact ends.of_silent rfl (fun _ => rfl) rfl fun _ => rfl
  · trivial

/-- **A start** makes the calls of a confined victim, or abandons what it had. -/
theorem wp_spawnFresh_fate (r : SpawnReplies) {w : World} (tornDown : TornDown w.impl) :
    wp (spawnFresh r) (fun _ w' => w'.impl.job = r.createJobObject ∧ Makes (SpawnCalls r) w w')
      (fun _ w' => Makes (AbandonedCalls r w.stream) w w') w := by
  have uncreated : ∀ {w'}, ¬ CreatesVictim r → Makes (fun calls => ∀ fate : VictimFate,
      fate.alive = false → (calls.foldl VictimFate.post fate).alive = false) w w' →
      Makes (AbandonedCalls r w.stream) w w' := fun failed makes => makes.mono fun calls dies =>
    ⟨fun _ => dies {} rfl, fun creates => absurd creates failed⟩
  rw [spawnFresh]
  refine wp_seq (wp_mono (fun _ _ => id) (fun _ _ => False.elim) (wp_teardown_idle tornDown))
    fun _ w₁ down => ?_
  obtain ⟨tornDown₁, stream₁, log₁⟩ := down
  have start : ∀ {P w'}, Makes P w₁ w' → Makes P w w' := by
    intro P w' made
    obtain ⟨calls, grown, held⟩ := made
    exact ⟨calls, log₁ ▸ grown, held⟩
  refine wp_seq (wp_mono (fun _ _ => id) (fun _ w' built => ?_)
    (wp_and (wp_buildRestrictedToken r w₁) (wp_buildRestrictedToken_fate r w₁)))
    fun token w₂ built => ?_
  · refine uncreated (fun creates => built.1.1 creates.1) (start (Makes.mono built.2 ?_))
    intro calls kept fate dead
    rw [kept]
    exact dead
  obtain ⟨⟨built, same⟩, kept, tokenCalls⟩ := built
  refine wp_seq (wp_mono (fun _ _ => id) (fun _ w' failed => ?_)
    (wp_and (wp_launchVictim token built (same.impl ▸ tornDown₁))
      (wp_launchVictim_fate r token w₂)))
    fun _ w₃ launched => ?_
  · refine uncreated failed.1.1 (start (Makes.trans kept failed.2 ?_))
    intro calls calls' kept dies fate dead
    rw [List.foldl_append, kept]
    exact dies fate dead
  obtain ⟨⟨created, -, stream₃⟩, job₃, process₃, launchCalls⟩ := launched
  rw [same.impl, tornDown₁.process] at process₃
  have launchedFrom := Makes.trans (Makes.and kept tokenCalls) launchCalls
    (R := fun calls => ∃ first second, calls = first ++ second ∧ TokenCalls token first ∧
      (∀ fate : VictimFate, first.foldl VictimFate.post fate = id fate) ∧
        LaunchCalls r token second)
    fun first second built launched => ⟨first, second, rfl, built.2, built.1, launched⟩
  have abandoned : ∀ w', Ends w₃.impl (fun fate =>
      pumpEndsVictim fate.pid w₃.stream 0 w₃.impl.process fate.names) w₃ w' → Unfailing w₃ w' →
      Makes (AbandonedCalls r w.stream) w w' := by
    intro w' ends unfailing
    rw [process₃, stream₃, same.stream, stream₁] at ends
    refine start (Makes.trans launchedFrom (Makes.and ends unfailing) ?_)
    rintro _ third ⟨first, second, rfl, built, silent, launched⟩ ⟨ended, fine⟩
    exact .of_parts created job₃ built silent launched (not_stepFailed fine) ended
  rw [wp_bind, wp_get]
  refine wp_seq (wp_mono (fun _ _ => id) (fun _ w' gaveUp => abandoned w' gaveUp.1 gaveUp.2)
    (wp_and (wp_pumpToBreakpoint_fate w₃.stream 0 rfl)
      (unfailing_pump (serves_pumpToBreakpoint w₃.stream 0) w₃))) fun _ w₄ pumped => ?_
  obtain ⟨reaches, fine⟩ := pumped
  refine wp_mono (fun _ w' mapped => ?_) (fun _ w' failed => ?_)
    (wp_and (wp_mapScratch_fate r w₄) (unfailing_mapScratch r w₄))
  · refine ⟨mapped.1.trans (reaches.job.trans job₃), start ?_⟩
    refine Makes.trans launchedFrom (fine.trans mapped.2) ?_
    rintro _ third ⟨first, second, rfl, built, -, launched⟩ fine
    exact SpawnCalls.of_parts built launched (not_stepFailed fine)
  · exact abandoned w' (reaches.then_ends failed.1) (fine.trans failed.2)

/-- The calls made are what the log has gained. -/
theorem Makes.drop {P : List Call → Prop} {w w' : World} (makes : Makes P w w') :
    P (w'.log.drop w.log.length) := by
  obtain ⟨calls, grown, held⟩ := makes
  rwa [grown, List.drop_left]

/-- The assignment to the job fails. -/
def unassigned : SpawnReplies :=
  { SpawnReplies.granted freshVictim with assignProcessToJobObject := false }

end SevenFuzzer
