/-
  LivekitClient/ClosedRoom.lean
  =============================
  **A room that has failed or is closed** (`Room::Disconnect` and the engine's events in
  `src/core/room.cpp`, `RtcEngine::Disconnect` and `StopRecovery` in
  `src/core/detail/rtc_engine.cpp`).

  A room fails when the server orders it to leave or a recovery is exhausted, and closes
  when the application disconnects.  The engine goes on for a while: peer connections
  change their state, a recovery comes to its end.  Most of the room's handlers start
  from the state they expect; `ConnectedEvent` does not, and `ReconnectedEvent` has
  looked at it long before it stores the new one.  A handler tells the listener after it
  has stored the state, and the room may be closed in between.

  A run here is what happens until the application calls `Connect`.
-/
import LivekitClient.RecoveryStages

namespace LivekitClient.ClosedRoom

open Runs
open LivekitClient.Recovery (Pc)
open LivekitClient.RecoveryStages

/-! ## 1. The room and the engine -/

/-- Where `Room::Disconnect` is: `stop…` is inside the engine's `Disconnect`. -/
inductive DisconnectPc where
  | check
  | setDisconnecting
  | stopDisallow
  | stopSet
  | stopResetSignal
  | stopResetSession
  | stopJoin
  | stopClearProgress
  | stopClearRecovering
  | stopClearForce
  | stopResetSignalAgain
  | stopResetSessionAgain
  | stopClearParams
  | setDisconnected
  | done
deriving DecidableEq

inductive Notice where
  | connected
  | reconnecting
  | reconnected
deriving DecidableEq

/-- `pending` are the calls of the listener that the handlers are about to make. -/
structure State where
  engine : Recovery.State := {}
  disconnect : DisconnectPc := .done
  pending : List Notice := []
deriving DecidableEq

/-- `notify i` is the `i`-th of the pending calls. -/
inductive Act where
  | engine (act : Recovery.Act)
  | disconnect
  | disconnectStep
  | notify (i : Nat)

namespace State

/-- The thread of the recovery can be joined: it is at its end, or there is none yet. -/
def joinable (state : State) : Bool :=
  match stage state.engine.pc with
  | .opening | .done => true
  | _ => false

def goto (state : State) (pc : DisconnectPc) : State := { state with disconnect := pc }

/-- A step of `Room::Disconnect`. -/
def disconnectStep (state : State) : State :=
  let engine := state.engine
  match state.disconnect with
  | .check =>
    state.goto (if engine.roomState = .disconnecting ∨ engine.roomState = .disconnected then .done
      else .setDisconnecting)
  | .setDisconnecting =>
    { state with
      engine := { engine with roomState := .disconnecting }
      disconnect := .stopDisallow }
  | .stopDisallow =>
    { state with engine := { engine with recoveryAllowed := false }, disconnect := .stopSet }
  | .stopSet =>
    { state with engine := { engine with recoveryStop := true }, disconnect := .stopResetSignal }
  | .stopResetSignal =>
    { state with engine := { engine with signalClient := false }, disconnect := .stopResetSession }
  | .stopResetSession =>
    { state with engine := { engine with session := false }, disconnect := .stopJoin }
  | .stopJoin => if state.joinable then state.goto .stopClearProgress else state
  | .stopClearProgress =>
    { state with
      engine := { engine with recoveryInProgress := false }
      disconnect := .stopClearRecovering }
  | .stopClearRecovering =>
    { state with
      engine := { engine with recoveringConnection := false }
      disconnect := .stopClearForce }
  | .stopClearForce =>
    { state with
      engine := { engine with forceFullReconnect := false }
      disconnect := .stopResetSignalAgain }
  | .stopResetSignalAgain =>
    { state with
      engine := { engine with signalClient := false }
      disconnect := .stopResetSessionAgain }
  | .stopResetSessionAgain =>
    { state with engine := { engine with session := false }, disconnect := .stopClearParams }
  | .stopClearParams =>
    { state with
      engine := { engine with hasToken := false, hasUrl := false }
      disconnect := .setDisconnected }
  | .setDisconnected =>
    { state with engine := { engine with roomState := .disconnected }, disconnect := .done }
  | .done => state

/-- What the handler of a step is about to tell the listener. -/
def announced (engine : Recovery.State) : Recovery.Act → List Notice
  | .recovery _ _ =>
    match engine.pc with
    | .beginReconnecting | .reconnectingEvent =>
      if engine.roomState = .connected then [.reconnecting] else []
    | .resumedEvent => if engine.roomState = .reconnecting then [.reconnected] else []
    | .reconnectedSet => [.reconnected]
    | _ => []
  | .call i =>
    match engine.calls[i]? with
    | some .reconnectingEvent => if engine.roomState = .connected then [.reconnecting] else []
    | some .connectedEvent => [.connected]
    | _ => []
  | _ => []

def step (state : State) : Act → State
  | .engine act =>
    { state with
      engine := state.engine.step act
      pending := state.pending ++ announced state.engine act }
  | .disconnect => if state.disconnect = .done then state.goto .check else state
  | .disconnectStep => state.disconnectStep
  | .notify i => { state with pending := state.pending.eraseIdx i }

def closed (state : State) : Bool := RecoveryStages.closed state.engine.roomState

end State

/-- `ConnectedEvent` does not come to a closed room, and neither does the end of
    `ReconnectedEvent` or a call of the listener that was due before. -/
def Spares (state : State) : Act → Prop
  | .engine (.recovery _ _) => state.engine.pc ≠ .reconnectedSet
  | .engine (.call i) => state.engine.calls[i]? ≠ some .connectedEvent
  | .notify i => state.pending[i]? = none
  | _ => True

/-! ## 2. A closed room -/

section Steps

variable {state : State}

end Steps

/-! ## 3. Runs -/

/-- A room that the server has ordered to leave. -/
def ordered : State := [Act.engine .leave, .engine (.call 0)].foldl State.step {}

end LivekitClient.ClosedRoom
