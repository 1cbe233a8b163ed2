/-
  LivekitClient/RecoveryStages.lean
  =================================
  **The stages of a recovery.**

  The recovery thread of `Recovery.lean` has a place for every load and store.  For
  what the other threads and the room get to see of it a few stages are enough; this
  file says which of them can follow which, and what a step does to the state of the
  room and to the flags.
-/
import LivekitClient.Recovery

namespace LivekitClient.RecoveryStages

open LivekitClient.Recovery (Pc RoomState)

/-- `opening`: `StartRecovery` has won but the room does not know; `resuming`: up to the
    last look at the flag; `full`: the full reconnect, with its attempts; `failing` and
    `succeeded`: it is decided how that went; `closing`: the flags are being cleared. -/
inductive Stage where
  | opening
  | resuming
  | resumed
  | resumeClosing
  | full
  | failing
  | succeeded
  | reconnected
  | closing
  | done
deriving DecidableEq

def stage : Pc → Stage
  | .beginRecovering | .beginClearConnected | .beginReconnecting => .opening
  | .start | .checkForceFull | .checkStop | .readToken | .resumeSession | .resumeCreate
  | .resumeSwap | .resumeSignal | .resumeCheckStop | .resumeCheckForce | .resumeConfigure
  | .resumeClearConnected | .resumeClearAnswer | .resumeRestartIce | .resumeWait
  | .resumeEnd _ | .resumeEndForce | .resumed _ => .resuming
  | .resumedEvent => .resumed
  | .resumedClearRecovering | .resumedClearProgress => .resumeClosing
  | .setForceFull | .reconnectingCheckStop | .reconnectingEvent | .loopHead | .nextRetryDelay
  | .delayWait | .delayCheckStop | .clearConnected | .resetSignal | .resetSession
  | .fullReadToken | .connectCreate | .connectSignal | .connectJoin | .connectCheckStop
  | .connectSession | .connectWait => .full
  | .finished false | .exhaustedCheckStop | .exhaustedResetSignal | .exhaustedResetSession
  | .exhaustedDisallow | .exhaustedEvent => .failing
  | .finished true | .reconnectedCheck => .succeeded
  | .reconnectedSet => .reconnected
  | .clearForceFull | .clearRecovering | .clearProgress => .closing
  | .done => .done

theorem eq_reconnectedSet {pc : Pc} (hstage : stage pc = .reconnected) :
    pc = .reconnectedSet := by
  cases pc <;> first | rfl | cases hstage | (rename_i recovered; cases recovered <;> cases hstage)

/-- The room has failed or is being disconnected. -/
def closed : RoomState → Bool
  | .failed | .disconnecting | .disconnected => true
  | _ => false

section Step

/-- The stages that can follow. -/
def Leads (engine : Recovery.State) (next : Stage) : Stage → Prop
  | .opening => next = if engine.pc = .beginReconnecting then .resuming else .opening
  | .resuming =>
    next = .resuming ∨ next = .full ∨ (next = .resumed ∧ engine.forceFullReconnect = false)
  | .resumed => next = .resumeClosing
  | .resumeClosing => next = if engine.pc = .resumedClearProgress then .done else .resumeClosing
  | .full =>
    next = .full ∨ next = .failing ∨
      (next = .succeeded ∧ engine.pc = .connectWait ∧ engine.rtcConnected = true)
  | .failing =>
    if engine.pc = .exhaustedEvent then next = .closing
    else next = .failing ∨ (next = .closing ∧ engine.recoveryStop = true)
  | .succeeded =>
    next = .succeeded ∨ (next = .reconnected ∧ engine.roomState = .reconnecting) ∨
      (next = .closing ∧ engine.roomState ≠ .reconnecting)
  | .reconnected => next = .closing
  | .closing => next = if engine.pc = .clearProgress then .done else .closing
  | .done => next = .done

/-- What a step of the recovery makes of the state of the room. -/
def roomAfter (engine : Recovery.State) : RoomState :=
  match engine.pc with
  | .beginReconnecting | .reconnectingEvent =>
    if engine.roomState = .connected then .reconnecting else engine.roomState
  | .resumedEvent =>
    if engine.roomState = .reconnecting then .connected else engine.roomState
  | .reconnectedSet => .connected
  | .exhaustedEvent =>
    if engine.roomState = .disconnecting ∨ engine.roomState = .disconnected then engine.roomState
    else .failed
  | _ => engine.roomState

variable (engine : Recovery.State) (ok more : Bool)

theorem leads_recoveryStep :
    Leads engine (stage (engine.recoveryStep ok more).pc) (stage engine.pc) := by
  cases hpc : engine.pc <;>
    simp only [Recovery.State.recoveryStep, Recovery.State.resumeStep,
      Recovery.State.connectStep, Recovery.State.loopStep, Recovery.State.outerStep, hpc] <;>
    (repeat' split) <;>
    first
    | exact rfl
    | exact Or.inl rfl
    | exact Or.inr (Or.inl rfl)
    | simp_all [Leads, stage, Recovery.State.goto, Recovery.State.record]

theorem roomState_recoveryStep :
    (engine.recoveryStep ok more).roomState = roomAfter engine := by
  cases hpc : engine.pc <;>
    simp only [Recovery.State.recoveryStep, Recovery.State.resumeStep,
      Recovery.State.connectStep, Recovery.State.loopStep, Recovery.State.outerStep, hpc,
      roomAfter, Recovery.State.transition, Recovery.State.signalDisconnectedEvent] <;>
    (repeat' split) <;> rfl

/-- The flag is set on the way into the full reconnect and cleared at the end. -/
theorem forceFullReconnect_recoveryStep :
    (engine.recoveryStep ok more).forceFullReconnect =
      match engine.pc with
      | .setForceFull => true
      | .clearForceFull => false
      | _ => engine.forceFullReconnect := by
  cases hpc : engine.pc <;>
    simp only [Recovery.State.recoveryStep, Recovery.State.resumeStep,
      Recovery.State.connectStep, Recovery.State.loopStep, Recovery.State.outerStep, hpc,
      Recovery.State.transition, Recovery.State.signalDisconnectedEvent] <;>
    (repeat' split) <;> rfl

/-- Nothing but the end of the recovery takes the flag back. -/
theorem forceFullReconnect_kept (hstage : stage engine.pc ≠ .closing)
    (hforce : engine.forceFullReconnect = true) :
    (engine.recoveryStep ok more).forceFullReconnect = true := by
  rw [forceFullReconnect_recoveryStep]
  split
  · rfl
  · rename_i hpc
    exact absurd (by rw [hpc]; rfl) hstage
  · exact hforce

theorem recoveryInProgress_recoveryStep :
    (engine.recoveryStep ok more).recoveryInProgress =
      match engine.pc with
      | .resumedClearProgress | .clearProgress => false
      | _ => engine.recoveryInProgress := by
  cases hpc : engine.pc <;>
    simp only [Recovery.State.recoveryStep, Recovery.State.resumeStep,
      Recovery.State.connectStep, Recovery.State.loopStep, Recovery.State.outerStep, hpc,
      Recovery.State.transition, Recovery.State.signalDisconnectedEvent] <;>
    (repeat' split) <;> rfl

/-- A recovery is in progress until its last step. -/
theorem progress_recoveryStep
    (h : engine.recoveryInProgress = true ↔ stage engine.pc ≠ .done) :
    (engine.recoveryStep ok more).recoveryInProgress = true ↔
      stage (engine.recoveryStep ok more).pc ≠ .done := by
  have hleads := leads_recoveryStep engine ok more
  rw [recoveryInProgress_recoveryStep]
  split
  · rename_i hpc
    rw [show stage engine.pc = .resumeClosing by rw [hpc]; rfl, Leads, if_pos hpc] at hleads
    simp [hleads]
  · rename_i hpc
    rw [show stage engine.pc = .closing by rw [hpc]; rfl, Leads, if_pos hpc] at hleads
    simp [hleads]
  · rename_i hresumed hcleared
    rw [h]
    cases hstage : stage engine.pc <;> rw [hstage] at hleads <;> simp_all [Leads] <;> grind

end Step

end LivekitClient.RecoveryStages
