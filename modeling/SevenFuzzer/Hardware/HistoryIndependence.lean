import SevenFuzzer.Hardware.Quiet

/-! # Test cases that came before

One victim runs many test cases, and each may leave anything behind in it.
`history_independent_iff` compares the states in which the victim resumes for a
test case after two histories: the registers are the same, and so are the data and
the stack page; the code page is rewritten only where the test case has bytes, so
the states are the same if and only if the histories agree on the rest of it.
-/

namespace SevenFuzzer

open Command Transition

/-- After a write two memories agree where it reached and where they agreed before. -/
theorem writeBytes_congr_iff {memory memory' : BitVec 64 → BitVec 8} {address at_ : BitVec 64}
    {bytes : List (BitVec 8)} :
    writeBytes memory address bytes at_ = writeBytes memory' address bytes at_ ↔
      (at_ - address).toNat < bytes.length ∨ memory at_ = memory' at_ := by
  simp only [writeBytes, List.getD_eq_getElem?_getD]
  rcases Nat.lt_or_ge (at_ - address).toNat bytes.length with inside | outside
  · rw [List.getElem?_eq_getElem inside]
    exact iff_of_true rfl (.inl inside)
  · rw [List.getElem?_eq_none outside, Option.getD_none, Option.getD_none]
    exact (or_iff_right (Nat.not_lt.mpr outside)).symm

/-- An address in the three pages, by its distance from the first. -/
def pageByte (offset : Nat) : BitVec 64 := kCodeBase + BitVec.ofNat 64 offset

/-- Which addresses of the pages a write that starts in them reaches. -/
theorem pageByte_reached {offset start : Nat} (count : Nat) (inPages : offset < 3 * kPageSize)
    (startsInPages : start < 3 * kPageSize) (fits : start = 0 ∨ count ≤ kPageSize) :
    (pageByte offset - pageByte start).toNat < count ↔ start ≤ offset ∧ offset < start + count := by
  simp only [kPageSize] at inPages startsInPages fits
  simp only [pageByte, kCodeBase, BitVec.toNat_sub, BitVec.toNat_add, BitVec.toNat_ofNat]
  omega

/-- A victim set up for a test case. -/
def preparedVictim (v : Victim) (tc : TestCase) : Victim where
  context := contextFor v.context tc
  memory :=
    let zero := List.replicate kPageSize 0#8
    let memory := writeBytes v.memory kCodeBase tc.bytes
    let memory := writeBytes memory kDataBase zero
    let memory := writeBytes memory kStackBase zero
    let memory := writeBytes memory kDataBase (List.ofFn tc.dataSeed)
    writeBytes memory kStackTop (littleEndian 8 kCodeBase)

/-- Two prepared victims agree outside the code page, and in it where the test case
has bytes or they agreed before. -/
theorem preparedVictim_memory_iff {v v' : Victim} {tc : TestCase} {offset : Nat}
    (inPages : offset < 3 * kPageSize) :
    (preparedVictim v tc).memory (pageByte offset) =
        (preparedVictim v' tc).memory (pageByte offset) ↔
      kPageSize ≤ offset ∨ offset < tc.bytes.length ∨
        v.memory (pageByte offset) = v'.memory (pageByte offset) := by
  have code : kCodeBase = pageByte 0 := rfl
  have data : kDataBase = pageByte kPageSize := rfl
  have stack : kStackBase = pageByte (2 * kPageSize) := rfl
  have top : kStackTop = pageByte (2 * kPageSize + 0xF00) := rfl
  simp only [preparedVictim, writeBytes_congr_iff, littleEndian, List.length_map,
    List.length_range, List.length_ofFn, List.length_replicate]
  rw [top, data, stack, code, pageByte_reached _ inPages (by decide) (.inr (by decide)),
    pageByte_reached _ inPages (by decide) (.inr (by decide)),
    pageByte_reached _ inPages (by decide) (.inr (le_refl _)),
    pageByte_reached _ inPages (by decide) (.inr (le_refl _)),
    pageByte_reached _ inPages (by decide) (.inl rfl)]
  generalize (v.memory (pageByte offset) = v'.memory (pageByte offset)) = agreed
  simp only [kPageSize, kDataWindow] at inPages ⊢
  constructor
  · rintro (_ | _ | _ | _ | written | held)
    · omega
    · omega
    · omega
    · omega
    · exact .inr (.inl (by omega))
    · exact .inr (.inr held)
  · rintro (behind | written | held)
    · rcases Nat.lt_or_ge offset 0x2000 with inData | inStack
      · exact .inr (.inr (.inr (.inl (by omega))))
      · exact .inr (.inr (.inl (by omega)))
    · exact .inr (.inr (.inr (.inr (.inl (by omega)))))
    · exact .inr (.inr (.inr (.inr (.inr held))))

/-- The victim as it is when an event is continued. -/
def Call.resumed : Call → Option Victim
  | .continueDebugEvent _ resumed => some resumed
  | _ => none

/-- The state in which the victim is first resumed between two worlds. -/
def resumedVictim (before after : World) : Option Victim :=
  (after.log.drop before.log.length).findSome? Call.resumed

/-- A part of the session that ends well, prepares the victim and does not resume it. -/
structure Prepares (w : World) (victim : Victim) (w' : World) : Prop where
  impl : w'.impl = w.impl
  stream : w'.stream = w.stream
  victim : w'.victim = victim
  stopped : ∃ calls : List Call, w'.log = w.log ++ calls ∧ calls.findSome? Call.resumed = none

/-- One preparation after another. -/
theorem Prepares.trans {w w' w'' : World} {victim victim' : Victim}
    (first : Prepares w victim w') (second : Prepares w' victim' w'') : Prepares w victim' w'' := by
  obtain ⟨calls, grown, none_⟩ := first.stopped
  obtain ⟨calls', grown', none_'⟩ := second.stopped
  refine ⟨second.impl.trans first.impl, second.stream.trans first.stream, second.victim,
    calls ++ calls', ?_, ?_⟩
  · rw [grown', grown, List.append_assoc]
  · rw [List.findSome?_append, none_, none_']
    rfl

section

variable {spawn : SpawnReplies} {tc : TestCase}

/-- The context is the test case's. -/
theorem wp_setUpContext_prepares (w : World) :
    wp (setUpContext { spawn := spawn } tc)
      (fun _ w' => Prepares w { w.victim with context := contextFor w.victim.context tc } w')
      (fun _ _ => False) w := by
  simp only [setUpContext, getThreadContext, setThreadContext, modifyVictim, record,
    wp_bind, wp_get,
    wp_modify, wp_pure, ↓reduceIte, not_true_eq_false]
  exact ⟨rfl, rfl, rfl, [.getThreadContext w.impl.thread true,
    .setThreadContext w.impl.thread (contextFor w.victim.context tc) true],
    List.append_assoc .., rfl⟩

/-- A granted write changes the bytes it names and nothing else. -/
theorem wp_write_prepares (process : HANDLE) (address : BitVec 64) (bytes : List (BitVec 8))
    (w : World) :
    wp (writeProcessMemory process address bytes true)
      (fun ok w' => ok = true ∧
        Prepares w { w.victim with memory := writeBytes w.victim.memory address bytes } w')
      (fun _ _ => False) w := by
  simp only [writeProcessMemory, modifyVictim, record, wp_bind, wp_modify, wp_pure, ↓reduceIte]
  exact ⟨trivial, rfl, rfl, rfl, [_], rfl, rfl⟩

/-- The first bytes of the code page are the test case's. -/
theorem wp_setUpCode_prepares (w : World) :
    wp (setUpCode { spawn := spawn } tc)
      (fun _ w' => Prepares w
        { w.victim with memory := writeBytes w.victim.memory kCodeBase tc.bytes } w')
      (fun _ _ => False) w := by
  rw [setUpCode, wp_ite]
  split
  · rename_i empty
    rw [empty]
    exact ⟨rfl, rfl, rfl, [], (List.append_nil _).symm, rfl⟩
  · rw [wp_bind, wp_get]
    refine wp_seq (wp_write_prepares ..) fun ok w' written => ?_
    rw [wp_ite, if_neg (not_not_intro written.1)]
    exact written.2

/-- The data and stack pages are the test case's. -/
theorem wp_setUpMemory_prepares (w : World) :
    wp (setUpMemory { spawn := spawn } tc)
      (fun _ w' => Prepares w
        { w.victim with
          memory :=
            let zero := List.replicate kPageSize 0#8
            let memory := writeBytes w.victim.memory kDataBase zero
            let memory := writeBytes memory kStackBase zero
            let memory := writeBytes memory kDataBase (List.ofFn tc.dataSeed)
            writeBytes memory kStackTop (littleEndian 8 kCodeBase) } w')
      (fun _ _ => False) w := by
  have write : ∀ {process address bytes} (w₁ : World),
      wp (discard (writeProcessMemory process address bytes true))
        (fun _ w' => Prepares w₁
          { w₁.victim with memory := writeBytes w₁.victim.memory address bytes } w')
        (fun _ _ => False) w₁ := by
    intro process address bytes w₁
    rw [wp_discard]
    exact wp_mono (fun _ _ => And.right) (fun _ _ => id)
      (wp_write_prepares process address bytes w₁)
  rw [setUpMemory, wp_bind, wp_get]
  refine wp_seq (write w) fun _ w₁ zeroData => ?_
  refine wp_seq (write w₁) fun _ w₂ zeroStack => ?_
  refine wp_seq (write w₂) fun _ w₃ seed => ?_
  refine wp_mono (fun _ w₄ retaddr => ?_) (fun _ _ => id) (write w₃)
  rw [seed.victim, zeroStack.victim, zeroData.victim] at retaddr
  have all := ((zeroData.trans zeroStack).trans seed).trans retaddr
  exact all

end

/-- The log is only added to. -/
def Grows (w w' : World) : Prop := w.log <+: w'.log

/-- A program without transfers only adds to the log. -/
theorem grows_of_quiet {α : Type} {prog : Session α} (quiet : Respects Quiet prog) :
    Respects Grows prog := fun w =>
  wp_mono (fun _ _ => Quiet.grows) (fun _ _ => Quiet.grows) (quiet w)

/-- One program after another. -/
theorem grows_bind {α β : Type} {prog : Session α} {next : α → Session β}
    (first : Respects Grows prog) (second : ∀ value, Respects Grows (next value)) :
    Respects Grows (prog >>= next) := by
  refine respects_bind ?_ first second
  intro w w' w'' now later
  exact now.trans later

/-- A reading call only adds to the log. -/
theorem grows_read {α : Type} (call : Call) (value : World → α) :
    Respects Grows (do
      record call
      let w ← get
      return value w) := fun _ =>
  List.prefix_append ..

/-- So does the report of an exception. -/
theorem grows_classify (r : RunReplies) (de : DebugEvent) (rec : ExceptionRecord) :
    Respects Grows (classify r de rec) := by
  refine grows_bind (grows_of_quiet quiet_get) fun w => ?_
  refine grows_bind (grows_read _ _) fun context => ?_
  refine grows_bind (grows_read _ _) fun window => ?_
  exact grows_bind (grows_of_quiet (quiet_modifyImpl _)) fun _ => grows_of_quiet (quiet_pure _)

/-- So does the pump. -/
theorem grows_pumpToException (r : RunReplies) (stream : List Delivery) (n : Nat) :
    Respects Grows (pumpToException r stream n) := by
  induction stream generalizing n with
  | nil => exact grows_of_quiet (quiet_bind (quiet_record rfl) fun _ => quiet_tearDownWith _)
  | cons delivery rest ih =>
      refine grows_bind (grows_of_quiet (quiet_wait _ _ _)) fun obtained => ?_
      cases obtained with
      | none => exact grows_of_quiet (quiet_tearDownWith _)
      | some de =>
          dsimp only
          cases de.info.exceptionRecord with
          | some rec => exact grows_classify r de rec
          | none =>
              refine respects_ite (grows_of_quiet (quiet_tearDownWith _)) ?_
              exact grows_bind (grows_of_quiet (quiet_handleRunEvent de)) fun _ => ih (n + 1)

/-- The victim that is resumed first is the one that was prepared. -/
theorem resumedVictim_of_grows {w w₁ w₂ w' : World} {v : Victim} (de : DebugEvent)
    (prepared : Prepares w v w₁) (resumed : w₂.log = w₁.log ++ [.continueDebugEvent de v])
    (grows : Grows w₂ w') : resumedVictim w w' = some v := by
  obtain ⟨calls, log₁, none_⟩ := prepared.stopped
  obtain ⟨more, log'⟩ := grows
  rw [resumedVictim, ← log', resumed, log₁, List.append_assoc, List.append_assoc, List.drop_left,
    List.findSome?_append, none_]
  rfl

/-- A step resumes the victim it has prepared. -/
theorem wp_stepVictim_resumed (spawn : SpawnReplies) (tc : TestCase) {w : World} (live : Live w) :
    wp (stepVictim { spawn := spawn } tc)
      (fun _ w' => resumedVictim w w' = some (preparedVictim w.victim tc))
      (fun _ w' => resumedVictim w w' = some (preparedVictim w.victim tc)) w := by
  rw [stepVictim]
  refine wp_seq (wp_mono (fun _ _ => id) (fun _ _ => False.elim) (wp_setUpContext_prepares w))
    fun _ w₁ context => ?_
  refine wp_seq (wp_mono (fun _ _ => id) (fun _ _ => False.elim) (wp_setUpCode_prepares w₁))
    fun _ w₂ code => ?_
  refine wp_seq (wp_mono (fun _ _ => id) (fun _ _ => False.elim) (wp_setUpMemory_prepares w₂))
    fun _ w₃ memory => ?_
  rw [code.victim, context.victim] at memory
  have prepared : Prepares w (preparedVictim w.victim tc) w₃ := (context.trans code).trans memory
  have pending : w₃.impl.pendingValid = true := by rw [prepared.impl, live.pending]
  have finish : Respects Grows (do
      let out ← pumpToException { spawn := spawn } w₃.stream 0
      respawnHygiene out) :=
    grows_bind (grows_pumpToException _ _ _) fun out => grows_of_quiet (quiet_respawnHygiene out)
  simp only [resume, continueDebugEvent, record, modifyImpl, wp_bind, wp_get, pending, ↓reduceIte,
    wp_modify]
  rw [← wp_bind]
  have resumed : ∀ w', Grows { w₃ with
      impl := { w₃.impl with pendingValid := false }
      log := w₃.log ++ [.continueDebugEvent w₃.impl.pendingEvent w₃.victim] } w' →
      resumedVictim w w' = some (preparedVictim w.victim tc) := fun w' grows => by
    refine resumedVictim_of_grows w₃.impl.pendingEvent prepared ?_ grows
    rw [prepared.victim]
  exact wp_mono (fun _ _ => resumed _) (fun _ _ => resumed _) (finish _)

/-- So does every test case on a live victim. -/
theorem runOne_resumed (spawn : SpawnReplies) (tc : TestCase) {w : World} (live : Live w) :
    resumedVictim w (runOne { spawn := spawn } tc w).2 = some (preparedVictim w.victim tc) := by
  have held := wp_stepVictim_resumed spawn tc live
  rw [runOne_world, worldAfter, runSteps]
  have ready : wp (ensureReady spawn >>= fun _ => stepVictim { spawn := spawn } tc)
      (fun _ w' => resumedVictim w w' = some (preparedVictim w.victim tc))
      (fun _ w' => resumedVictim w w' = some (preparedVictim w.victim tc)) w :=
    (wp_bind _ _).mpr ((wp_of_ok (ensureReady_of_ready live.ready)).mpr held)
  split
  · rename_i ended
    exact (wp_of_ok ended).mp ready
  · rename_i ended
    exact (wp_of_error ended).mp ready

/-- One more test case on a victim, every call succeeding, that leaves the victim alive. -/
def victimStep (spawn : SpawnReplies) (w : World) (tc : TestCase) : Option World :=
  let next := (runOne { spawn := spawn } tc w).2
  if next.impl.ready then some next else none

/-- A run of granted steps keeps the victim live. -/
theorem live_of_run {spawn : SpawnReplies} {w w' : World} {trace : List (World × TestCase)}
    (live : Live w) (run : Run (victimStep spawn) w trace w') : Live w' := by
  apply run.invariant Live live
  intro before tc next live moved
  obtain ⟨ready, performed⟩ := Option.ite_none_right_eq_some.mp moved
  obtain rfl := Option.some.inj performed
  have bounded : Bounded before.impl := by
    rw [Bounded, if_pos live.ready]
    exact live.pending
  exact (perform_callEnd before (.runOne { spawn := spawn } tc) bounded).bounded.live ready

/-- The same registers and the same bytes in the three pages. -/
def SameStart (v v' : Victim) : Prop :=
  v.context = v'.context ∧
    ∀ offset < 3 * kPageSize, v.memory (pageByte offset) = v'.memory (pageByte offset)

/-- The victim resumes for a test case in the same state in two worlds. -/
def ResumesAlike (spawn : SpawnReplies) (tc : TestCase) (w w' : World) : Prop :=
  ∃ v v', resumedVictim w (runOne { spawn := spawn } tc w).2 = some v ∧
    resumedVictim w' (runOne { spawn := spawn } tc w').2 = some v' ∧ SameStart v v'

/-- The code page behind the bytes of a test case is the same in two worlds. -/
def SameCodeRest (tc : TestCase) (w w' : World) : Prop :=
  ∀ offset, tc.bytes.length ≤ offset → offset < kPageSize →
    w.victim.memory (pageByte offset) = w'.victim.memory (pageByte offset)

/-- **One test case**: two victims resume alike exactly if they agree on the rest of the code
page. -/
theorem resumesAlike_iff (spawn : SpawnReplies) (tc : TestCase) {w w' : World} (live : Live w)
    (live' : Live w') : ResumesAlike spawn tc w w' ↔ SameCodeRest tc w w' := by
  have same : ResumesAlike spawn tc w w' ↔
      SameStart (preparedVictim w.victim tc) (preparedVictim w'.victim tc) := by
    simp [ResumesAlike, runOne_resumed _ _ live, runOne_resumed _ _ live']
  rw [same]
  constructor
  · intro alike offset behind inCode
    have inPages : offset < 3 * kPageSize := by
      simp only [kPageSize] at inCode ⊢
      omega
    rcases (preparedVictim_memory_iff inPages).mp (alike.2 offset inPages) with other | bytes | kept
    · exact absurd inCode (Nat.not_lt.mpr other)
    · exact absurd bytes (Nat.not_lt.mpr behind)
    · exact kept
  · intro rest
    refine ⟨rfl, fun offset inPages => (preparedVictim_memory_iff inPages).mpr ?_⟩
    rcases Nat.lt_or_ge offset kPageSize with inCode | other
    · rcases Nat.lt_or_ge offset tc.bytes.length with bytes | behind
      · exact .inr (.inl bytes)
      · exact .inr (.inr (rest offset behind inCode))
    · exact .inl other

/-- After two histories of a live victim, it resumes for a test case in the same state
if and only if they have left the same bytes in the code page behind the test case. -/
theorem history_independent_iff (spawn : SpawnReplies) (tc : TestCase) {w w₁ w₂ : World}
    {stream₁ stream₂ : List Delivery} {trace₁ trace₂ : List (World × TestCase)} (live : Live w)
    (history₁ : Run (victimStep spawn) { w with stream := stream₁ } trace₁ w₁)
    (history₂ : Run (victimStep spawn) { w with stream := stream₂ } trace₂ w₂) :
    ResumesAlike spawn tc w₁ w₂ ↔ SameCodeRest tc w₁ w₂ := by
  have restreamed : ∀ stream, Live { w with stream := stream } :=
    fun _ => ⟨live.ready, live.pending⟩
  have live₁ := live_of_run (restreamed stream₁) history₁
  have live₂ := live_of_run (restreamed stream₂) history₂
  exact resumesAlike_iff spawn tc live₁ live₂

/-- A session whose victim has just been started. -/
def startedWorld : World :=
  (SessionCall.start "victim.exe" (.granted freshVictim)).perform
    (.initial freshVictim (firstStepStream EXCEPTION_SINGLE_STEP))

/-- A no-operation of two bytes. -/
def wideNop : TestCase := { bytes := [0x66#8, 0x90#8] }

/-- A wide NOP is stepped over and leaves its bytes in the code page. -/
def wideNopStream : List Delivery :=
  [⟨some { info := .exception ⟨EXCEPTION_SINGLE_STEP, kCodeBase + 2, 0, fun _ => 0⟩ },
    { freshVictim with memory := writeBytes freshVictim.memory kCodeBase wideNop.bytes }⟩]

/-- A test case after a wide NOP and after nothing. -/
theorem history_independent_started :
    ∃ w₁ trace₁ w₂ trace₂, Live startedWorld ∧
      Run (victimStep (.granted freshVictim)) { startedWorld with stream := [] } trace₁ w₁ ∧
      Run (victimStep (.granted freshVictim)) { startedWorld with stream := wideNopStream }
        trace₂ w₂ ∧
      (ResumesAlike (.granted freshVictim) {} w₁ w₂ ↔ SameCodeRest {} w₁ w₂) := by
  have live : Live startedWorld := ⟨rfl, rfl⟩
  have history₁ : Run (victimStep (.granted freshVictim)) { startedWorld with stream := [] } _ _ :=
    .of_play _ [] rfl
  have history₂ : Run (victimStep (.granted freshVictim))
      { startedWorld with stream := wideNopStream } _ _ := .of_play _ [wideNop] rfl
  exact ⟨_, _, _, _, live, history₁, history₂, history_independent_iff _ {} live history₁ history₂⟩

/-- A one-byte NOP after a wide NOP finds its second byte behind it in the code page. -/
theorem history_independent_wideNop :
    ∃ w₁ trace₁ w₂ trace₂, Live startedWorld ∧
      Run (victimStep (.granted freshVictim)) { startedWorld with stream := [] } trace₁ w₁ ∧
      Run (victimStep (.granted freshVictim)) { startedWorld with stream := wideNopStream }
        trace₂ w₂ ∧
      ¬ ResumesAlike (.granted freshVictim) { bytes := [0x90#8] } w₁ w₂ := by
  have live : Live startedWorld := ⟨rfl, rfl⟩
  refine ⟨_, _, _, _, live, .of_play _ [] rfl, .of_play _ [wideNop] rfl, ?_⟩
  rw [resumesAlike_iff]
  · intro rest
    have second := rest 1 (le_refl _) (by decide)
    exact absurd second (by decide)
  · exact ⟨live.ready, live.pending⟩
  · exact ⟨rfl, rfl⟩

end SevenFuzzer
