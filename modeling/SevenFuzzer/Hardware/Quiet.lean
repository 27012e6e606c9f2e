import SevenFuzzer.Hardware.EventProtocol
import SevenFuzzer.Hardware.Growth

/-! # The calls that transfer nothing

A few calls move the state of a test case to the victim or back. The rest of the
session's code makes none of them and only adds to the log (`SevenFuzzer.Quiet`):
ending a victim, starting one, resuming it and handling its events.
-/

namespace SevenFuzzer

open Command

/-- The calls that move state between the session and its victim. -/
def Call.isTransfer : Call → Bool
  | .getThreadContext .. | .setThreadContext .. => true
  | .writeProcessMemory .. | .readProcessMemory .. => true
  | _ => false

/-- The transfers made so far, in order. -/
def World.transfers (w : World) : List Call := w.log.filter Call.isTransfer

/-- The log has grown, and by no transfer. -/
def Quiet (w w' : World) : Prop :=
  ∃ calls : List Call, w'.log = w.log ++ calls ∧ ∀ call ∈ calls, call.isTransfer = false

/-- Nothing was called. -/
theorem Quiet.of_log {w w' : World} (same : w'.log = w.log) : Quiet w w' :=
  ⟨[], by rw [same, List.append_nil], List.forall_mem_nil _⟩

/-- Nothing was done. -/
theorem Quiet.refl (w : World) : Quiet w w := .of_log rfl

/-- The log was only added to. -/
theorem Quiet.grows {w w' : World} (quiet : Quiet w w') : w.log <+: w'.log :=
  GrowsBy.grows quiet

/-- The transfers are as they were. -/
theorem Quiet.transfers {w w' : World} (quiet : Quiet w w') : w'.transfers = w.transfers := by
  obtain ⟨calls, grown, silent⟩ := quiet
  have none_ : calls.filter Call.isTransfer = [] := by
    rw [List.filter_eq_nil_iff]
    intro call made
    rw [silent call made]
    exact Bool.false_ne_true
  rw [World.transfers, grown, List.filter_append, none_, List.append_nil]
  rfl

/-- A part whose calls serve other purposes transfers nothing. -/
theorem quiet_of_noTransfer {α : Type} {prog : Session α}
    (never : Respects (NeverServes .transfer) prog) : Respects Quiet prog := by
  refine respects_mono (fun _ _ grows => grows.mono fun call other => ?_) never
  cases call <;> first | rfl | exact absurd rfl other

theorem quiet_pure {α : Type} (value : α) : Respects Quiet (pure value : Session α) :=
  respects_pure Quiet.refl value

theorem quiet_get : Respects Quiet (get : Session World) := respects_get Quiet.refl

theorem quiet_bind {α β : Type} {prog : Session α} {next : α → Session β}
    (first : Respects Quiet prog) (second : ∀ value, Respects Quiet (next value)) :
    Respects Quiet (prog >>= next) :=
  growsBy_bind first second

/-- Logging another call transfers nothing. -/
theorem quiet_record {call : Call} (silent : call.isTransfer = false) :
    Respects Quiet (record call) :=
  growsBy_record silent

theorem quiet_modifyImpl (f : Impl → Impl) : Respects Quiet (modifyImpl f) :=
  growsBy_modifyImpl f

theorem quiet_wait (milliseconds : Nat) (delivery : Delivery) (rest : List Delivery) :
    Respects Quiet (waitForDebugEvent milliseconds delivery rest) :=
  quiet_of_noTransfer (noTransfer_pump (serves_wait milliseconds delivery rest))

/-- Nor does giving the victim up. -/
theorem quiet_tearDownWith {α : Type} (error : String) :
    Respects Quiet (tearDownWith error : Session α) :=
  quiet_of_noTransfer (noTransfer_pump (serves_tearDownWith error))

/-- Nor does starting a victim. -/
theorem quiet_spawnFresh (r : SpawnReplies) : Respects Quiet (spawnFresh r) :=
  quiet_of_noTransfer (noTransfer_spawnFresh r)

theorem quiet_resume : Respects Quiet resume :=
  quiet_of_noTransfer (noTransfer_pump serves_resume)

theorem quiet_handleRunEvent (de : DebugEvent) : Respects Quiet (handleRunEvent de) :=
  quiet_of_noTransfer (noTransfer_pump (serves_handleRunEvent de))

/-- Nor does replacing it. -/
theorem quiet_respawnHygiene (out : LaneOutcome) : Respects Quiet (respawnHygiene out) :=
  quiet_of_noTransfer (noTransfer_pump (serves_respawnHygiene out))

end SevenFuzzer
