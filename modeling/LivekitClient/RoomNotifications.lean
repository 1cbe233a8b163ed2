/-
  LivekitClient/RoomNotifications.lean
  ====================================
  **The state of a room and what its listener is told about it** (`Room::Connect`,
  `Disconnect`, the engine's events from `ConnectedEvent` to `SignalDisconnectedEvent`,
  `SetState`, `TransitionState` and `NotifyDisconnectedOnce` in `src/core/room.cpp`).

  The state changes in three ways: `SetState` stores it whatever it was,
  `TransitionState` needs the state that it starts from, and `SignalDisconnectedEvent`
  has a loop of its own.  Each tells the listener only if something has changed.  That
  the connection is over is told once, which a flag sees to that `Connect` clears.

  A listener is registered throughout, and each call and each event is one step.
-/
import Mathlib.Data.List.Chain
import LivekitClient.Runs
import LivekitClient.Traces
import LivekitClient.Recovery

namespace LivekitClient.RoomNotifications

open Runs Traces
open LivekitClient.Recovery (RoomState)

/-! ## 1. The connection of a room -/

inductive DisconnectReason where
  | unknown
  | clientInitiated
  | duplicateIdentity
  | serverShutdown
  | participantRemoved
  | roomDeleted
  | stateMismatch
  | joinFailure
  | migration
  | signalClose
  | roomClosed
  | userUnavailable
  | userRejected
  | sipTrunkFailure
  | connectionTimeout
  | mediaFailure
  | agentError
deriving DecidableEq

/-- The reasons in the order of their numbers. -/
def DisconnectReason.all : List DisconnectReason :=
  [.unknown, .clientInitiated, .duplicateIdentity, .serverShutdown, .participantRemoved,
   .roomDeleted, .stateMismatch, .joinFailure, .migration, .signalClose, .roomClosed,
   .userUnavailable, .userRejected, .sipTrunkFailure, .connectionTimeout, .mediaFailure,
   .agentError]

/-- The reason with the server's number; one that the client does not know is `unknown`. -/
def fromDisconnectReason (value : Int) : DisconnectReason :=
  if value < 0 ∨ 16 < value then .unknown else DisconnectReason.all.getD value.toNat .unknown

/-- What has happened: a `Connect` that was not refused, and the calls of the listener. -/
inductive Entry where
  | connect
  | connectionStateChanged (state : RoomState)
  | connected
  | reconnecting
  | reconnected
  | disconnected (reason : DisconnectReason)
deriving DecidableEq

/-- `fullReconnectPrepared` says that the local tracks have been taken off their
    transceivers for a full reconnect; `trace` is kept for the proofs. -/
structure Connection where
  state : RoomState := .disconnected
  disconnectedEventEmitted : Bool := false
  fullReconnectPrepared : Bool := false
  disconnectReason : DisconnectReason := .unknown
  trace : List Entry := []
deriving DecidableEq

/-- What comes of the engine's `Connect`: a join response with a room or without one, or
    an exception. -/
inductive ConnectResult where
  | joined
  | noRoom
  | threw
deriving DecidableEq

namespace Connection

def tell (room : Connection) (entry : Entry) : Connection :=
  { room with trace := room.trace ++ [entry] }

def setState (room : Connection) (state : RoomState) : Connection :=
  if room.state = state then room
  else { room with state := state }.tell (.connectionStateChanged state)

/-- `TransitionState`, and the call that follows if there was a transition. -/
def transitionState (room : Connection) (expected state : RoomState) (entry : Entry) :
    Connection :=
  if room.state = expected then
    ({ room with state := state }.tell (.connectionStateChanged state)).tell entry
  else room

def notifyDisconnectedOnce (room : Connection) (reason : DisconnectReason) : Connection :=
  if room.disconnectedEventEmitted then room
  else
    { room with disconnectedEventEmitted := true, disconnectReason := reason }.tell
      (.disconnected reason)

/-- `Connect` returns before it has done anything. -/
def refusesConnect (room : Connection) : Bool :=
  room.state != .disconnected && room.state != .failed

/-- `Connect` up to the call of the engine. -/
def beginConnect (room : Connection) : Connection :=
  { ({ room.tell .connect with state := .connecting }.tell
      (.connectionStateChanged .connecting)) with
    disconnectedEventEmitted := false
    fullReconnectPrepared := false
    disconnectReason := .unknown }

def connect (room : Connection) (result : ConnectResult) : Connection :=
  if room.refusesConnect then room
  else
    match result with
    | .joined => room.beginConnect
    | .noRoom | .threw =>
      { room.beginConnect.setState .failed with disconnectReason := .joinFailure }

def disconnect (room : Connection) : Connection :=
  if room.state = .disconnecting ∨ room.state = .disconnected then room
  else
    ((room.setState .disconnecting).setState .disconnected).notifyDisconnectedOnce
      .clientInitiated

def connectedEvent (room : Connection) : Connection :=
  (room.setState .connected).tell .connected

def reconnectingEvent (room : Connection) (fullReconnect : Bool) : Connection :=
  { room with
    fullReconnectPrepared := room.fullReconnectPrepared || fullReconnect }.transitionState
      .connected .reconnecting .reconnecting

def resumedEvent (room : Connection) : Connection :=
  room.transitionState .reconnecting .connected .reconnected

def reconnectedEvent (room : Connection) (hasRoom : Bool) : Connection :=
  if room.state ≠ .reconnecting ∨ !hasRoom then room
  else
    ({ room with fullReconnectPrepared := false }.setState .connected).tell .reconnected

def signalDisconnectedEvent (room : Connection) (reason : Int) : Connection :=
  if room.state = .disconnecting ∨ room.state = .disconnected then room
  else (room.setState .failed).notifyDisconnectedOnce (fromDisconnectReason reason)

end Connection

inductive Input where
  | connect (result : ConnectResult)
  | disconnect
  | connectedEvent
  | reconnectingEvent (fullReconnect : Bool)
  | resumedEvent
  | reconnectedEvent (hasRoom : Bool)
  | signalDisconnectedEvent (reason : Int)
deriving DecidableEq

def Connection.step (room : Connection) : Input → Connection
  | .connect result => room.connect result
  | .disconnect => room.disconnect
  | .connectedEvent => room.connectedEvent
  | .reconnectingEvent fullReconnect => room.reconnectingEvent fullReconnect
  | .resumedEvent => room.resumedEvent
  | .reconnectedEvent hasRoom => room.reconnectedEvent hasRoom
  | .signalDisconnectedEvent reason => room.signalDisconnectedEvent reason

/-- `ConnectedEvent` comes while the room is connecting or connected. -/
def InTime (room : Connection) (input : Input) : Prop :=
  input = .connectedEvent → room.state = .connecting ∨ room.state = .connected

instance (room : Connection) (input : Input) : Decidable (InTime room input) :=
  inferInstanceAs (Decidable (_ → _))

/-! ## 2. What the listener can rely on -/

def Entry.state? : Entry → Option RoomState
  | .connectionStateChanged state => some state
  | _ => none

/-- The state that a room starts in, and the arguments of `OnConnectionStateChanged`. -/
def statesOf (trace : List Entry) : List RoomState :=
  .disconnected :: trace.filterMap Entry.state?

/-- The end of a reconnect, in one way or another. -/
def EndsReconnect (entry : Entry) : Prop :=
  entry = .reconnected ∨ (∃ reason, entry = .disconnected reason) ∨ entry = .connect

/-- An `OnReconnecting` that nothing has ended. -/
def Reconnecting (trace : List Entry) : Prop := Open (· = .reconnecting) EndsReconnect trace

/-- An `OnDisconnected` since the last `Connect`. -/
def Told (trace : List Entry) : Prop :=
  Open (fun entry => ∃ reason, entry = .disconnected reason) (· = .connect) trace

/-- The notifications of a room follow its state. -/
structure Follows (room : Connection) : Prop where
  differ : (statesOf room.trace).IsChain (· ≠ ·)
  last : (statesOf room.trace).getLast? = some room.state
  reconnected : EachAt (fun before entry => entry = .reconnected → Reconnecting before) room.trace
  reconnecting :
    EachAt (fun before entry => entry = .reconnecting → ¬ Reconnecting before) room.trace
  disconnected :
    EachAt (fun before entry => (∃ reason, entry = .disconnected reason) → ¬ Told before)
      room.trace
  reason : ∀ reason, Open (· = .disconnected reason) (· = .connect) room.trace →
    room.disconnectReason = reason

/-! ## 3. One more entry -/

section Entries

variable {trace : List Entry} {state : RoomState} {entry : Entry}

theorem statesOf_append (hnone : entry.state? = none) :
    statesOf (trace ++ [entry]) = statesOf trace := by
  simp [statesOf, List.filterMap_append, hnone]

theorem statesOf_append_state :
    statesOf (trace ++ [.connectionStateChanged state]) = statesOf trace ++ [state] := by
  simp [statesOf, List.filterMap_append, Entry.state?]

variable {room : Connection}

theorem reconnecting_tell :
    Reconnecting (room.tell entry).trace ↔
      entry = .reconnecting ∨ (Reconnecting room.trace ∧ ¬ EndsReconnect entry) :=
  open_append_singleton

theorem told_tell :
    Told (room.tell entry).trace ↔
      (∃ reason, entry = .disconnected reason) ∨ (Told room.trace ∧ entry ≠ .connect) :=
  open_append_singleton

@[simp]
theorem state_tell : (room.tell entry).state = room.state := rfl

@[simp]
theorem emitted_tell :
    (room.tell entry).disconnectedEventEmitted = room.disconnectedEventEmitted := rfl

end Entries

/-- The laws hold, and the state and the flag say what is open. -/
structure Inv (room : Connection) : Prop extends Follows room where
  open_iff : Reconnecting room.trace ↔ room.state = .reconnecting
  told_iff : Told room.trace ↔ room.disconnectedEventEmitted = true
  live : room.state = .connecting ∨ room.state = .connected ∨ room.state = .reconnecting →
    room.disconnectedEventEmitted = false

/-- A call of the listener that is not about the state leaves the states. -/
theorem Follows.tell {room : Connection} (h : Follows room) {entry : Entry}
    (hnone : entry.state? = none) (hreconnected : entry = .reconnected → Reconnecting room.trace)
    (hreconnecting : entry = .reconnecting → ¬ Reconnecting room.trace)
    (hdisconnected : (∃ reason, entry = .disconnected reason) → ¬ Told room.trace)
    (hreason : ∀ reason, entry = .disconnected reason → room.disconnectReason = reason) :
    Follows (room.tell entry) where
  differ := by
    rw [Connection.tell, statesOf_append hnone]
    exact h.differ
  last := by
    rw [Connection.tell, statesOf_append hnone]
    exact h.last
  reconnected := eachAt_append_singleton.2 ⟨h.reconnected, hreconnected⟩
  reconnecting := eachAt_append_singleton.2 ⟨h.reconnecting, hreconnecting⟩
  disconnected := eachAt_append_singleton.2 ⟨h.disconnected, hdisconnected⟩
  reason := by
    intro reason hopen
    rcases open_append_singleton.1 hopen with heq | ⟨hbefore, -⟩
    · exact hreason reason heq
    · exact h.reason reason hbefore

/-- The state changes, and the listener hears of it. -/
theorem Follows.change {room : Connection} (h : Follows room) {state : RoomState}
    (hne : room.state ≠ state) :
    Follows ({ room with state := state }.tell (.connectionStateChanged state)) where
  differ := by
    rw [Connection.tell, statesOf_append_state, List.isChain_append]
    refine ⟨h.differ, by simp, ?_⟩
    intro last hlast other hother
    rw [h.last, Option.mem_some_iff] at hlast
    simp only [List.head?_cons, Option.mem_some_iff] at hother
    rw [← hlast, ← hother]
    exact hne
  last := by
    rw [Connection.tell, statesOf_append_state, List.getLast?_append]
    rfl
  reconnected := eachAt_append_singleton.2 ⟨h.reconnected, by simp⟩
  reconnecting := eachAt_append_singleton.2 ⟨h.reconnecting, by simp⟩
  disconnected := eachAt_append_singleton.2 ⟨h.disconnected, by simp⟩
  reason := by
    intro reason hopen
    rcases open_append_singleton.1 hopen with heq | ⟨hbefore, -⟩
    · simp at heq
    · exact h.reason reason hbefore

/-! ## 4. The helpers -/

section Helpers

variable (room : Connection) (state : RoomState) (reason : DisconnectReason)

@[simp]
theorem state_setState : (room.setState state).state = state := by
  rw [Connection.setState]
  split
  · assumption
  · rfl

@[simp]
theorem emitted_setState :
    (room.setState state).disconnectedEventEmitted = room.disconnectedEventEmitted := by
  rw [Connection.setState]
  split <;> rfl

@[simp]
theorem reconnecting_setState :
    Reconnecting (room.setState state).trace ↔ Reconnecting room.trace := by
  rw [Connection.setState]
  split
  · rfl
  · simp [reconnecting_tell, EndsReconnect]

@[simp]
theorem told_setState : Told (room.setState state).trace ↔ Told room.trace := by
  rw [Connection.setState]
  split
  · rfl
  · simp [told_tell]

variable {room}

theorem Follows.setState (h : Follows room) : Follows (room.setState state) := by
  rw [Connection.setState]
  split
  · exact h
  · rename_i hne
    exact h.change hne

/-- A transition that is told under another name as well. -/
theorem Follows.transitionState (h : Follows room) (expected : RoomState) {entry : Entry}
    (hne : expected ≠ state) (hnone : entry.state? = none)
    (hreconnected : room.state = expected → entry = .reconnected → Reconnecting room.trace)
    (hreconnecting : room.state = expected → entry = .reconnecting → ¬ Reconnecting room.trace)
    (hdisconnected : ∀ reason, entry ≠ .disconnected reason) :
    Follows (room.transitionState expected state entry) := by
  rw [Connection.transitionState]
  split
  · rename_i hstate
    apply (h.change (hstate ▸ hne)).tell hnone
    · intro heq
      exact reconnecting_tell.2 (Or.inr ⟨hreconnected hstate heq, by simp [EndsReconnect]⟩)
    · intro heq hopen
      rcases reconnecting_tell.1 hopen with hnow | ⟨hbefore, -⟩
      · simp at hnow
      · exact hreconnecting hstate heq hbefore
    · rintro ⟨reason, heq⟩
      exact absurd heq (hdisconnected reason)
    · intro reason heq
      exact absurd heq (hdisconnected reason)
  · exact h

/-- The end of the connection is told, unless it has been. -/
theorem inv_notifyDisconnectedOnce (h : Follows room)
    (htold : Told room.trace ↔ room.disconnectedEventEmitted = true)
    (hclosed : room.state = .disconnected ∨ room.state = .failed)
    (hopen : Reconnecting room.trace → room.disconnectedEventEmitted = false) :
    Inv (room.notifyDisconnectedOnce reason) := by
  rw [Connection.notifyDisconnectedOnce]
  split
  · rename_i hemitted
    refine ⟨h, ?_, htold, ?_⟩
    · rcases hclosed with hstate | hstate <;> simp_all
    · rcases hclosed with hstate | hstate <;> simp [hstate]
  · rename_i hemitted
    have hnot : ¬ Told room.trace := fun ht => hemitted (htold.1 ht)
    have hnow : Follows { room with disconnectedEventEmitted := true, disconnectReason := reason } :=
      { h with
        reason := by
          rintro other ⟨before, entry, after, heq, rfl, hlate⟩
          exact absurd ⟨before, _, after, heq, ⟨other, rfl⟩, hlate⟩ hnot }
    refine ⟨hnow.tell rfl (by simp) (by simp) (fun _ => hnot) (by simp), ?_, ?_, ?_⟩
    · rcases hclosed with hstate | hstate <;>
        simp [reconnecting_tell, EndsReconnect, hstate]
    · simp [told_tell]
    · rcases hclosed with hstate | hstate <;> simp [Connection.tell, hstate]

end Helpers

/-! ## 5. The steps -/

section Steps

variable {room : Connection}

theorem Inv.beginConnect (h : Inv room) (hne : room.state ≠ .connecting) :
    Inv room.beginConnect := by
  have hmarked : Follows (room.tell .connect) :=
    h.toFollows.tell rfl (by simp) (by simp) (by simp) (by simp)
  constructor
  · refine { hmarked.change hne with reason := ?_ }
    intro reason hopen
    rcases open_append_singleton.1 hopen with heq | ⟨hbefore, -⟩
    · simp at heq
    · simp [Connection.tell] at hbefore
  · simp [Connection.beginConnect, reconnecting_tell, EndsReconnect]
  · simp [Connection.beginConnect, told_tell]
  · exact fun _ => rfl

/-- A `Connect` that fails tells nobody why. -/
theorem Inv.joinFailed (h : Inv room) (hstate : room.state = .connecting) :
    Inv { room.setState .failed with disconnectReason := .joinFailure } := by
  have hemitted := h.live (Or.inl hstate)
  have hnotTold : ¬ Told (room.setState .failed).trace := by
    rw [told_setState, h.told_iff, hemitted]
    simp
  constructor
  · refine { h.toFollows.setState .failed with reason := ?_ }
    rintro other ⟨before, entry, after, heq, rfl, hlate⟩
    exact absurd ⟨before, _, after, heq, ⟨other, rfl⟩, hlate⟩ hnotTold
  · simpa [hstate] using h.open_iff
  · simpa using h.told_iff
  · simp

theorem Inv.connect (h : Inv room) (result : ConnectResult) : Inv (room.connect result) := by
  unfold Connection.connect
  split
  · exact h
  · rename_i haccepted
    have hbegin : Inv room.beginConnect := by
      apply h.beginConnect
      intro hstate
      simp [Connection.refusesConnect, hstate] at haccepted
    cases result with
    | joined => exact hbegin
    | noRoom => exact hbegin.joinFailed rfl
    | threw => exact hbegin.joinFailed rfl

theorem Inv.disconnect (h : Inv room) : Inv room.disconnect := by
  rw [Connection.disconnect]
  split
  · exact h
  · apply inv_notifyDisconnectedOnce
    · exact (h.toFollows.setState .disconnecting).setState .disconnected
    · simpa using h.told_iff
    · simp
    · intro hopen
      have hstate := h.open_iff.1 (by simpa using hopen)
      simpa using h.live (Or.inr (Or.inr hstate))

theorem Inv.signalDisconnectedEvent (h : Inv room) (reason : Int) :
    Inv (room.signalDisconnectedEvent reason) := by
  rw [Connection.signalDisconnectedEvent]
  split
  · exact h
  · apply inv_notifyDisconnectedOnce
    · exact h.toFollows.setState .failed
    · simpa using h.told_iff
    · simp
    · intro hopen
      have hstate := h.open_iff.1 (by simpa using hopen)
      simpa using h.live (Or.inr (Or.inr hstate))

theorem Inv.connectedEvent (h : Inv room)
    (hstate : room.state = .connecting ∨ room.state = .connected) : Inv room.connectedEvent := by
  have hnotOpen : ¬ Reconnecting room.trace := by
    rw [h.open_iff]
    rcases hstate with hstate | hstate <;> simp [hstate]
  refine ⟨?_, ?_, ?_, ?_⟩
  · exact (h.toFollows.setState .connected).tell rfl (by simp) (by simp) (by simp) (by simp)
  · simpa [Connection.connectedEvent, reconnecting_tell] using
      fun hopen => absurd hopen hnotOpen
  · simpa [Connection.connectedEvent, told_tell] using h.told_iff
  · intro _
    simpa [Connection.connectedEvent, Connection.tell] using
      h.live (hstate.elim Or.inl fun hconnected => Or.inr (Or.inl hconnected))

theorem Inv.reconnectingEvent (h : Inv room) (fullReconnect : Bool) :
    Inv (room.reconnectingEvent fullReconnect) := by
  constructor
  · have hsame : Follows { room with
        fullReconnectPrepared := room.fullReconnectPrepared || fullReconnect } :=
      { h.toFollows with }
    apply hsame.transitionState _ _ (by simp) rfl (by simp)
    · intro hstate _
      rw [h.open_iff]
      simp [show room.state = .connected from hstate]
    · simp
  · rw [Connection.reconnectingEvent, Connection.transitionState]
    split
    · simp [reconnecting_tell]
    · exact h.open_iff
  · rw [Connection.reconnectingEvent, Connection.transitionState]
    split
    · simpa [told_tell] using h.told_iff
    · exact h.told_iff
  · rw [Connection.reconnectingEvent, Connection.transitionState]
    split
    · rename_i hstate
      exact fun _ => h.live (Or.inr (Or.inl hstate))
    · exact h.live

theorem Inv.resumedEvent (h : Inv room) : Inv room.resumedEvent := by
  constructor
  · apply h.toFollows.transitionState _ _ (by simp) rfl
    · exact fun hstate _ => h.open_iff.2 hstate
    · simp
    · simp
  · rw [Connection.resumedEvent, Connection.transitionState]
    split
    · simp [reconnecting_tell, EndsReconnect]
    · exact h.open_iff
  · rw [Connection.resumedEvent, Connection.transitionState]
    split
    · simpa [told_tell] using h.told_iff
    · exact h.told_iff
  · rw [Connection.resumedEvent, Connection.transitionState]
    split
    · rename_i hstate
      exact fun _ => h.live (Or.inr (Or.inr hstate))
    · exact h.live

theorem Inv.reconnectedEvent (h : Inv room) (hasRoom : Bool) :
    Inv (room.reconnectedEvent hasRoom) := by
  rw [Connection.reconnectedEvent]
  split
  · exact h
  · rename_i haccepted
    have hstate : room.state = .reconnecting := by
      by_contra hother
      exact haccepted (Or.inl hother)
    have hsame : Follows { room with fullReconnectPrepared := false } := { h.toFollows with }
    constructor
    · apply (hsame.setState .connected).tell rfl
      · exact fun _ => (reconnecting_setState _ _).2 (h.open_iff.2 hstate)
      · simp
      · simp
      · simp
    · simp [reconnecting_tell, EndsReconnect]
    · simpa [told_tell] using h.told_iff
    · intro _
      simpa [Connection.tell] using h.live (Or.inr (Or.inr hstate))

theorem Inv.step (h : Inv room) {input : Input} (hintime : InTime room input) :
    Inv (room.step input) := by
  cases input with
  | connect result => exact h.connect result
  | disconnect => exact h.disconnect
  | connectedEvent => exact h.connectedEvent (hintime rfl)
  | reconnectingEvent fullReconnect => exact h.reconnectingEvent fullReconnect
  | resumedEvent => exact h.resumedEvent
  | reconnectedEvent hasRoom => exact h.reconnectedEvent hasRoom
  | signalDisconnectedEvent reason => exact h.signalDisconnectedEvent reason

end Steps

/-! ## 6. Runs -/

theorem inv_new : Inv {} := by
  constructor
  · constructor <;> simp [statesOf]
  · simp [Reconnecting]
  · simp [Told]
  · simp

/-- **The notifications of a room follow its state**, whatever becomes of it. -/
theorem notifications_follow {room : Connection} {inputs : List Input}
    (hrun : Exec (Guarded InTime fun before input after => after = before.step input)
      {} inputs room) : Follows room := by
  have hinv : Inv room := by
    refine hrun.invariant ?_ inv_new
    rintro before input after hbefore ⟨hintime, rfl⟩
    exact hbefore.step hintime
  exact hinv.toFollows

/-- A connection that is resumed, lost for good, and made again without success. -/
def lostInputs : List Input :=
  [.connect .joined, .connectedEvent, .reconnectingEvent false, .resumedEvent,
   .reconnectingEvent true, .signalDisconnectedEvent 3, .disconnect, .connect .noRoom,
   .signalDisconnectedEvent 99]

theorem notifications_follow_lostInputs :
    Follows (lostInputs.foldl Connection.step {}) :=
  @notifications_follow _ lostInputs (exec_guarded (by decide))

end LivekitClient.RoomNotifications
