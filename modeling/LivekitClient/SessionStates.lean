/-
  LivekitClient/SessionStates.lean
  ================================
  **The state of a session and the news that the room is connected**
  (`RtcSession::update_state` and `CreateSender` in `src/core/detail/rtc_session.cpp`,
  `RtcEngine::OnStateChange` and `StartRecovery` in `src/core/detail/rtc_engine.cpp`,
  `Room::ConnectedEvent` in `src/core/room.cpp`).

  A session has two peer connections and needs one of them at first; the first publish
  makes it need the publisher's as well.  Its own state is computed anew from those that
  it needs whenever one of them has something to say, and the engine tells the room each
  time that it becomes kConnected, except in a recovery.

  Everything here follows one `Connect`: each change of a peer connection, each publish
  and each stage of a recovery is one step.
-/
import LivekitClient.RoomNotifications

namespace LivekitClient.SessionStates

open Runs Traces
open LivekitClient.Recovery (RoomState)
open LivekitClient.RoomNotifications (Connection Entry)

/-! ## 1. Sessions -/

inductive PeerConnectionState where
  | new
  | connecting
  | connected
  | disconnected
  | failed
  | closed
deriving DecidableEq

inductive SessionState where
  | new
  | connecting
  | connected
  | closing
  | closed
  | failed
deriving DecidableEq

structure Session where
  publisher : PeerConnectionState := .new
  subscriber : PeerConnectionState := .new
  isPublisherConnectionRequired : Bool
  isSubscriberConnectionRequired : Bool
  state : SessionState := .new
deriving DecidableEq

namespace Session

def create (subscriberPrimary : Bool) : Session where
  isPublisherConnectionRequired := !subscriberPrimary
  isSubscriberConnectionRequired := subscriberPrimary

/-- The states that `update_state` looks at. -/
def states (session : Session) : List PeerConnectionState :=
  (if session.isPublisherConnectionRequired then [session.publisher] else []) ++
    (if session.isSubscriberConnectionRequired then [session.subscriber] else [])

/-- Every connection that the session needs is there. -/
def allConnected (session : Session) : Bool := session.states.all (· = .connected)

/-- The state that `update_state` stores. -/
def updatedState (session : Session) : SessionState :=
  if session.allConnected then .connected
  else if session.states.any (· = .failed) then .failed
  else if session.states.any (· = .connecting) then .connecting
  else if session.states.all (· = .closed) then .closed
  else if session.states.any (· = .closed) then .closing
  else if session.states.all (· = .new) then .new
  else session.state

end Session

/-! ## 2. The engine -/

/-- `recovering` is `recovering_connection_` and `recovery_in_progress_`, which are set
    together when a recovery starts and cleared together when it ends. -/
structure Engine where
  session : Session
  recoveryAllowed : Bool := false
  recovering : Bool := false
  forceFullReconnect : Bool := false
  rtcConnected : Bool := false
  room : Connection
deriving DecidableEq

/-- `otherChange` is a change of the signalling or the ICE state of a peer connection,
    `connectReturns` the end of `RtcEngine::Connect`, `newSession` an attempt of a full
    reconnect that has got a join response. -/
inductive Act where
  | publisherChange (state : PeerConnectionState)
  | subscriberChange (state : PeerConnectionState)
  | otherChange
  | createSender
  | connectReturns
  | startRecovery (force : Bool)
  | resumed
  | fullReconnect
  | newSession (subscriberPrimary : Bool)
  | reconnected
deriving DecidableEq

namespace Engine

def startRecovery (engine : Engine) (force : Bool) : Engine :=
  if !engine.recoveryAllowed then engine
  else if engine.recovering then
    if force then
      { engine with forceFullReconnect := true, room := engine.room.reconnectingEvent true }
    else engine
  else
    { engine with
      forceFullReconnect := engine.forceFullReconnect || force
      recovering := true
      rtcConnected := false
      room := engine.room.reconnectingEvent force }

def onStateChange (engine : Engine) (state : SessionState) : Engine :=
  if state = .connected then
    if engine.recovering then { engine with rtcConnected := true }
    else { engine with rtcConnected := true, room := engine.room.connectedEvent }
  else if state = .failed then engine.startRecovery true
  else engine

/-- `update_state`, when `session` is how the session is by now. -/
def updateState (engine : Engine) (session : Session) : Engine :=
  let after := { engine with session := { session with state := session.updatedState } }
  if session.updatedState = session.state then after else after.onStateChange session.updatedState

/-- How a change of a peer connection leaves the session that it belongs to. -/
def changed (engine : Engine) : Act → Option Session
  | .publisherChange state => some { engine.session with publisher := state }
  | .subscriberChange state => some { engine.session with subscriber := state }
  | .otherChange => some engine.session
  | _ => none

def step (engine : Engine) : Act → Engine
  | .publisherChange state => engine.updateState { engine.session with publisher := state }
  | .subscriberChange state => engine.updateState { engine.session with subscriber := state }
  | .otherChange => engine.updateState engine.session
  | .createSender =>
    { engine with session := { engine.session with isPublisherConnectionRequired := true } }
  | .connectReturns => { engine with recoveryAllowed := true }
  | .startRecovery force => engine.startRecovery force
  | .resumed =>
    -- `ResumeTransport` may have looked at the session, but that was before
    if engine.recovering && !engine.forceFullReconnect then
      { engine with recovering := false, room := engine.room.resumedEvent }
    else engine
  | .fullReconnect =>
    if engine.recovering then
      { engine with forceFullReconnect := true, room := engine.room.reconnectingEvent true }
    else engine
  | .newSession subscriberPrimary =>
    if engine.recovering && engine.forceFullReconnect then
      { engine with rtcConnected := false, session := .create subscriberPrimary }
    else engine
  | .reconnected =>
    if engine.recovering && engine.forceFullReconnect && engine.rtcConnected then
      { engine with
        recovering := false
        forceFullReconnect := false
        room := engine.room.reconnectedEvent true }
    else engine

/-- The room is connecting, and its session has just been made. -/
def connecting (subscriberPrimary : Bool) : Engine where
  session := .create subscriberPrimary
  room := { state := .connecting }

/-- The change completes the connections of a session that was not kConnected, and no
    recovery is under way. -/
def Completes (engine : Engine) (act : Act) : Prop :=
  engine.session.state ≠ .connected ∧ engine.recovering = false ∧
    ∃ session ∈ engine.changed act, session.allConnected = true

instance (engine : Engine) (act : Act) : Decidable (engine.Completes act) :=
  inferInstanceAs (Decidable (_ ∧ _ ∧ ∃ session ∈ engine.changed act, _))

end Engine

/-- `OnConnected` comes first of all, and so only once. -/
def ConnectedOnce (trace : List Entry) : Prop :=
  EachAt (fun before entry => entry = .connected → .connected ∉ before ∧ .reconnecting ∉ before)
    trace

/-- The connections are completed outside a recovery only while the room is connecting. -/
def CompletesFirst (engine : Engine) (act : Act) : Prop :=
  engine.Completes act → engine.room.state = .connecting

instance (engine : Engine) (act : Act) : Decidable (CompletesFirst engine act) :=
  inferInstanceAs (Decidable (_ → _))

/-! ## 3. What a step does to the room -/

/-- An event of the room that is not `ConnectedEvent`, or none. -/
def Quiet (room after : Connection) : Prop :=
  after = room ∨ (∃ full, after = room.reconnectingEvent full) ∨ after = room.resumedEvent ∨
    after = room.reconnectedEvent true

section Steps

variable (engine : Engine)

theorem quiet_startRecovery (force : Bool) : Quiet engine.room (engine.startRecovery force).room := by
  rw [Engine.startRecovery]
  split
  · exact Or.inl rfl
  · split
    · split
      · exact Or.inr (Or.inl ⟨true, rfl⟩)
      · exact Or.inl rfl
    · exact Or.inr (Or.inl ⟨force, rfl⟩)

theorem updatedState_eq_connected_iff (session : Session) (hstate : session.state ≠ .connected) :
    session.updatedState = .connected ↔ session.allConnected = true := by
  unfold Session.updatedState
  by_cases hall : session.allConnected = true
  · simp [hall]
  · simp only [hall, Bool.false_eq_true, if_false, iff_false]
    repeat' split
    all_goals simp_all

variable {engine}

/-- A change of a peer connection is for `update_state`. -/
theorem step_of_changed {act : Act} {session : Session} (hchanged : engine.changed act = some session) :
    engine.step act = engine.updateState session ∧ session.state = engine.session.state := by
  cases act <;> simp only [Engine.changed, Option.some.injEq, reduceCtorEq] at hchanged <;>
    subst hchanged <;> exact ⟨rfl, rfl⟩

/-- The other steps do not tell the room that it is connected. -/
theorem quiet_of_changed_eq_none {act : Act} (hchanged : engine.changed act = none) :
    Quiet engine.room (engine.step act).room := by
  cases act with
  | publisherChange state => simp [Engine.changed] at hchanged
  | subscriberChange state => simp [Engine.changed] at hchanged
  | otherChange => simp [Engine.changed] at hchanged
  | createSender => exact Or.inl rfl
  | connectReturns => exact Or.inl rfl
  | startRecovery force => exact quiet_startRecovery engine force
  | resumed =>
    rw [Engine.step]
    split
    · exact Or.inr (Or.inr (Or.inl rfl))
    · exact Or.inl rfl
  | fullReconnect =>
    rw [Engine.step]
    split
    · exact Or.inr (Or.inl ⟨true, rfl⟩)
    · exact Or.inl rfl
  | newSession subscriberPrimary =>
    rw [Engine.step]
    split <;> exact Or.inl rfl
  | reconnected =>
    rw [Engine.step]
    split
    · exact Or.inr (Or.inr (Or.inr rfl))
    · exact Or.inl rfl

/-- **What a step tells the room**: that it is connected, if it completes the session's
    connections, -/
theorem room_step_of_completes {act : Act} (hcompletes : engine.Completes act) :
    (engine.step act).room = engine.room.connectedEvent := by
  obtain ⟨hstate, hrecovering, session, hchanged, hall⟩ := hcompletes
  obtain ⟨hstep, hsame⟩ := step_of_changed (Option.mem_def.1 hchanged)
  rw [← hsame] at hstate
  have hconnected := (updatedState_eq_connected_iff session hstate).2 hall
  simp [hstep, Engine.updateState, Engine.onStateChange, hconnected, hstate.symm, hrecovering]

/-- and nothing of the kind if it does not. -/
theorem quiet_of_not_completes {act : Act} (hcompletes : ¬ engine.Completes act) :
    Quiet engine.room (engine.step act).room := by
  cases hchanged : engine.changed act with
  | none => exact quiet_of_changed_eq_none hchanged
  | some session =>
    obtain ⟨hstep, hsame⟩ := step_of_changed hchanged
    rw [hstep, Engine.updateState]
    by_cases hkept : session.updatedState = session.state
    · rw [if_pos hkept]
      exact Or.inl rfl
    · rw [if_neg hkept, Engine.onStateChange]
      split
      · rename_i hconnected
        have hstate : session.state ≠ .connected := fun heq => hkept (hconnected.trans heq.symm)
        have hall := (updatedState_eq_connected_iff session hstate).1 hconnected
        split
        · exact Or.inl rfl
        · rename_i hrecovering
          exact absurd ⟨hsame ▸ hstate, by simpa using hrecovering, session, hchanged, hall⟩
            hcompletes
      · split
        · exact quiet_startRecovery _ true
        · exact Or.inl rfl

end Steps

/-! ## 4. What the room has told -/

/-- `OnConnected` has been told exactly if the room is past connecting. -/
structure Inv (room : Connection) : Prop where
  once : ConnectedOnce room.trace
  live : room.state = .connecting ∨ room.state = .connected ∨ room.state = .reconnecting
  fresh : room.state = .connecting → .connected ∉ room.trace ∧ .reconnecting ∉ room.trace
  told : room.state ≠ .connecting → .connected ∈ room.trace

section Room

variable {room : Connection}

theorem connectedOnce_tell {entry : Entry} :
    ConnectedOnce (room.tell entry).trace ↔ ConnectedOnce room.trace ∧
      (entry = .connected → .connected ∉ room.trace ∧ .reconnecting ∉ room.trace) :=
  eachAt_append_singleton

theorem connectedOnce_setState (state : RoomState) :
    ConnectedOnce (room.setState state).trace ↔ ConnectedOnce room.trace := by
  rw [Connection.setState]
  split
  · exact Iff.rfl
  · simp [connectedOnce_tell]

theorem mem_setState_iff (state : RoomState) {entry : Entry} (hnone : entry.state? = none) :
    entry ∈ (room.setState state).trace ↔ entry ∈ room.trace := by
  rw [Connection.setState]
  split
  · exact Iff.rfl
  · simp only [Connection.tell, List.mem_append, List.mem_singleton, or_iff_left_iff_imp]
    rintro rfl
    simp [Entry.state?] at hnone

theorem Inv.connectedEvent (h : Inv room) (hstate : room.state = .connecting) :
    Inv room.connectedEvent := by
  constructor
  · rw [Connection.connectedEvent, connectedOnce_tell, connectedOnce_setState,
      mem_setState_iff _ rfl, mem_setState_iff _ rfl]
    exact ⟨h.once, fun _ => h.fresh hstate⟩
  · simp [Connection.connectedEvent]
  · simp [Connection.connectedEvent]
  · simp [Connection.connectedEvent, Connection.tell]

/-- A room that is past connecting hears of it a second time. -/
theorem Inv.not_once (h : Inv room) (hstate : room.state ≠ .connecting) :
    ¬ ConnectedOnce room.connectedEvent.trace := by
  intro honce
  have hfirst := (connectedOnce_tell.1 honce).2 rfl
  exact hfirst.1 ((mem_setState_iff _ rfl).2 (h.told hstate))

/-- A transition of a room that is past connecting, told under another name. -/
theorem Inv.transitionState (h : Inv room) {expected state : RoomState} {entry : Entry}
    (hexpected : expected ≠ .connecting) (hentry : entry ≠ .connected)
    (hstate : state = .connected ∨ state = .reconnecting) :
    Inv (room.transitionState expected state entry) := by
  rw [Connection.transitionState]
  split
  · rename_i heq
    have htold := h.told (heq ▸ hexpected)
    constructor
    · simp [connectedOnce_tell, h.once, hentry]
    · exact Or.inr hstate
    · intro hconnecting
      rcases hstate with rfl | rfl <;> simp at hconnecting
    · intro _
      simp [Connection.tell, htold]
  · exact h

theorem Inv.quiet (h : Inv room) {after : Connection} (hquiet : Quiet room after) : Inv after := by
  rcases hquiet with rfl | ⟨full, rfl⟩ | rfl | rfl
  · exact h
  · have hsame : Inv { room with fullReconnectPrepared := room.fullReconnectPrepared || full } :=
      { h with }
    exact hsame.transitionState (by simp) (by simp) (by simp)
  · exact h.transitionState (by simp) (by simp) (by simp)
  · rw [Connection.reconnectedEvent]
    split
    · exact h
    · rename_i haccepted
      have hstate : room.state = .reconnecting := by simpa using haccepted
      have htold := h.told (by simp [hstate])
      constructor
      · rw [connectedOnce_tell, connectedOnce_setState]
        exact ⟨h.once, by simp⟩
      · simp
      · simp
      · intro _
        simp only [Connection.tell, List.mem_append]
        exact Or.inl ((mem_setState_iff _ rfl).2 htold)

end Room

/-! ## 5. Runs -/

theorem inv_connecting (subscriberPrimary : Bool) : Inv (Engine.connecting subscriberPrimary).room where
  once := eachAt_nil
  live := Or.inl rfl
  fresh := by simp [Engine.connecting]
  told := by simp [Engine.connecting]

theorem Inv.step {engine : Engine} (h : Inv engine.room) {act : Act}
    (hfirst : CompletesFirst engine act) : Inv (engine.step act).room := by
  by_cases hcompletes : engine.Completes act
  · rw [room_step_of_completes hcompletes]
    exact h.connectedEvent (hfirst hcompletes)
  · exact h.quiet (quiet_of_not_completes hcompletes)

theorem prefix_tell {trace : List Entry} {room : Connection} {entry : Entry}
    (h : trace <+: room.trace) : trace <+: (room.tell entry).trace :=
  h.trans (List.prefix_append _ _)

theorem prefix_setState {trace : List Entry} {room : Connection} {state : RoomState}
    (h : trace <+: room.trace) : trace <+: (room.setState state).trace := by
  rw [Connection.setState]
  split
  · exact h
  · exact prefix_tell h

theorem prefix_transitionState {trace : List Entry} {room : Connection} {expected state : RoomState}
    {entry : Entry} (h : trace <+: room.trace) :
    trace <+: (room.transitionState expected state entry).trace := by
  rw [Connection.transitionState]
  split
  · exact prefix_tell (prefix_tell h)
  · exact h

/-- What has been told stays told. -/
theorem prefix_step (engine : Engine) (act : Act) :
    engine.room.trace <+: (engine.step act).room.trace := by
  by_cases hcompletes : engine.Completes act
  · rw [room_step_of_completes hcompletes]
    exact prefix_tell (prefix_setState (List.prefix_refl _))
  · have hquiet := quiet_of_not_completes hcompletes
    generalize (engine.step act).room = after at hquiet ⊢
    rcases hquiet with rfl | ⟨full, rfl⟩ | rfl | rfl
    · exact List.prefix_refl _
    · exact prefix_transitionState (List.prefix_refl engine.room.trace)
    · exact prefix_transitionState (List.prefix_refl _)
    · rw [Connection.reconnectedEvent]
      split
      · exact List.prefix_refl _
      · exact prefix_tell (prefix_setState (List.prefix_refl _))

theorem prefix_run (engine : Engine) (acts : List Act) :
    engine.room.trace <+: (acts.foldl Engine.step engine).room.trace := by
  induction acts generalizing engine with
  | nil => exact List.prefix_refl _
  | cons act rest ih => exact (prefix_step engine act).trans (ih (engine.step act))

theorem connectedOnce_iff_of_inv {engine : Engine} (h : Inv engine.room) (acts : List Act) :
    ConnectedOnce (acts.foldl Engine.step engine).room.trace ↔
      Along CompletesFirst Engine.step engine acts := by
  induction acts generalizing engine with
  | nil => exact iff_of_true h.once trivial
  | cons act rest ih =>
    by_cases hfirst : CompletesFirst engine act
    · rw [List.foldl_cons, ih (h.step hfirst), Along, and_iff_right hfirst]
    · -- the news has come a second time, and nothing takes it back
      refine iff_of_false ?_ (fun halong => hfirst halong.1)
      intro honce
      obtain ⟨hcompletes, hstate⟩ := Classical.not_imp.1 hfirst
      have hstep : ConnectedOnce (engine.step act).room.trace :=
        EachAt.of_prefix honce (prefix_run (engine.step act) rest)
      rw [room_step_of_completes hcompletes] at hstep
      exact h.not_once hstate hstep

/-- **`OnConnected` comes once, and before any loss,** exactly in the runs in which the
    connections are completed outside a recovery only while the room is connecting. -/
theorem connectedOnce_iff (subscriberPrimary : Bool) (acts : List Act) :
    ConnectedOnce (acts.foldl Engine.step (.connecting subscriberPrimary)).room.trace ↔
      Along CompletesFirst Engine.step (.connecting subscriberPrimary) acts :=
  connectedOnce_iff_of_inv (inv_connecting subscriberPrimary) acts

/-- The first publish makes the session need a second connection, which comes up. -/
def firstPublish : List Act :=
  [.connectReturns, .subscriberChange .connecting, .subscriberChange .connected, .createSender,
   .publisherChange .connecting, .publisherChange .connected]

theorem firstPublish_connected_twice :
    ¬ ConnectedOnce (firstPublish.foldl Engine.step (.connecting true)).room.trace ∧
      (firstPublish.foldl Engine.step (.connecting true)).room.trace.count .connected = 2 := by
  refine ⟨?_, by decide⟩
  intro honce
  have hfirst := honce
    [.connectionStateChanged .connected, .connected] .connected [] (by decide) rfl
  exact hfirst.1 (by decide)

/-! ## 6. Sessions that do not fall back -/

/-- Once the room has been connected, the session leaves kConnected only by failing,
    which starts a recovery, and a recovery ends with the session kConnected. -/
def Steady (engine : Engine) (act : Act) : Prop :=
  engine.room.state ≠ .connecting →
    (∀ session ∈ engine.changed act, engine.session.state = .connected →
      engine.recovering = false → session.updatedState = .connected ∨
        (session.updatedState = .failed ∧ engine.recoveryAllowed = true)) ∧
    (act = .resumed ∨ act = .reconnected → engine.session.state = .connected)

/-- The session is kConnected whenever there is no recovery and the room has been
    connected. -/
def Up (engine : Engine) : Prop :=
  engine.room.state ≠ .connecting → engine.recovering = false →
    engine.session.state = .connected

section Steady

variable {engine : Engine}

theorem state_transitionState {room : Connection} {expected state : RoomState} {entry : Entry}
    (hstate : room.state ≠ expected) : room.transitionState expected state entry = room :=
  if_neg hstate

/-- Only `ConnectedEvent` takes a room out of connecting. -/
theorem state_of_quiet {room after : Connection} (hquiet : Quiet room after)
    (hstate : room.state = .connecting) : after.state = .connecting := by
  rcases hquiet with rfl | ⟨full, rfl⟩ | rfl | rfl
  · exact hstate
  · rw [Connection.reconnectingEvent, state_transitionState (by simp [hstate])]
    exact hstate
  · rw [Connection.resumedEvent, state_transitionState (by simp [hstate])]
    exact hstate
  · simp [Connection.reconnectedEvent, hstate]

theorem recovering_startRecovery (force : Bool) (hallowed : engine.recoveryAllowed = true) :
    (engine.startRecovery force).recovering = true := by
  rw [Engine.startRecovery]
  simp only [hallowed, Bool.not_true, Bool.false_eq_true, if_false]
  split
  · rename_i hrecovering
    split <;> exact hrecovering
  · rfl

theorem session_startRecovery (force : Bool) :
    (engine.startRecovery force).session = engine.session := by
  rw [Engine.startRecovery]
  split
  · rfl
  · split
    · split <;> rfl
    · rfl

theorem recovering_of_startRecovery {force : Bool}
    (hafter : (engine.startRecovery force).recovering = false) : engine.recovering = false := by
  rw [Engine.startRecovery] at hafter
  split at hafter
  · exact hafter
  · split at hafter
    · split at hafter <;> exact hafter
    · simp at hafter

theorem session_updateState (session : Session) :
    (engine.updateState session).session = { session with state := session.updatedState } := by
  rw [Engine.updateState]
  split
  · rfl
  · rw [Engine.onStateChange]
    split
    · split <;> rfl
    · split
      · exact session_startRecovery true
      · rfl

theorem recovering_of_updateState {session : Session}
    (hafter : (engine.updateState session).recovering = false) : engine.recovering = false := by
  rw [Engine.updateState] at hafter
  split at hafter
  · exact hafter
  · rw [Engine.onStateChange] at hafter
    split at hafter
    · split at hafter <;> exact hafter
    · split at hafter
      · have hbefore := recovering_of_startRecovery hafter
        exact hbefore
      · exact hafter

/-- A session that fails is in a recovery. -/
theorem recovering_updateState {session : Session} (hfailed : session.updatedState = .failed)
    (hstate : session.state ≠ .failed) (hallowed : engine.recoveryAllowed = true) :
    (engine.updateState session).recovering = true := by
  simp only [Engine.updateState, Engine.onStateChange, hfailed, reduceCtorEq, if_false, if_true,
    hstate.symm]
  exact recovering_startRecovery true hallowed

/-- A change that does not bring the session down leaves it up. -/
theorem Up.of_changed (h : Up engine) {act : Act} {session : Session}
    (hchanged : engine.changed act = some session) (hsteady : Steady engine act)
    (hroom : engine.room.state ≠ .connecting)
    (hrecovering : (engine.step act).recovering = false) :
    (engine.step act).session.state = .connected := by
  obtain ⟨hstep, hsame⟩ := step_of_changed hchanged
  rw [hstep] at hrecovering
  rw [hstep, session_updateState]
  have hidle := recovering_of_updateState hrecovering
  have hup := h hroom hidle
  rcases (hsteady hroom).1 session hchanged hup hidle with hconnected | ⟨hfailed, hallowed⟩
  · exact hconnected
  · have hnow := recovering_updateState hfailed (by simp [hsame, hup]) hallowed
    rw [hnow] at hrecovering
    simp at hrecovering

theorem Up.of_changed_eq_none (h : Up engine) {act : Act} (hchanged : engine.changed act = none)
    (hsteady : Steady engine act) (hroom : engine.room.state ≠ .connecting)
    (hrecovering : (engine.step act).recovering = false) :
    (engine.step act).session.state = .connected := by
  obtain ⟨-, hended⟩ := hsteady hroom
  cases act with
  | publisherChange state => simp [Engine.changed] at hchanged
  | subscriberChange state => simp [Engine.changed] at hchanged
  | otherChange => simp [Engine.changed] at hchanged
  | createSender => exact h hroom hrecovering
  | connectReturns => exact h hroom hrecovering
  | startRecovery force =>
    rw [Engine.step, session_startRecovery]
    exact h hroom (recovering_of_startRecovery hrecovering)
  | resumed =>
    have hup := hended (Or.inl rfl)
    rw [Engine.step]
    split <;> exact hup
  | fullReconnect =>
    rw [Engine.step] at hrecovering ⊢
    split at hrecovering
    · rename_i hidle
      simp [hidle] at hrecovering
    · rename_i hidle
      rw [if_neg hidle]
      exact h hroom hrecovering
  | newSession subscriberPrimary =>
    rw [Engine.step] at hrecovering ⊢
    split at hrecovering
    · rename_i hidle
      simp only [Bool.and_eq_true] at hidle
      simp [hidle.1] at hrecovering
    · rename_i hidle
      rw [if_neg hidle]
      exact h hroom hrecovering
  | reconnected =>
    have hup := hended (Or.inr rfl)
    rw [Engine.step]
    split <;> exact hup

theorem Up.step (h : Up engine) {act : Act} (hsteady : Steady engine act) :
    Up (engine.step act) := by
  intro hroom hrecovering
  by_cases hcompletes : engine.Completes act
  · obtain ⟨hstate, -, session, hchanged, hall⟩ := hcompletes
    obtain ⟨hstep, hsame⟩ := step_of_changed (Option.mem_def.1 hchanged)
    rw [hstep, session_updateState]
    exact (updatedState_eq_connected_iff session (hsame ▸ hstate)).2 hall
  · have hbefore : engine.room.state ≠ .connecting := fun hstate =>
      hroom (state_of_quiet (quiet_of_not_completes hcompletes) hstate)
    cases hchanged : engine.changed act with
    | some session => exact h.of_changed hchanged hsteady hbefore hrecovering
    | none => exact h.of_changed_eq_none hchanged hsteady hbefore hrecovering

/-- **Where a second `OnConnected` comes from**: in the runs in which it comes, the session
    has fallen back outside a recovery or a recovery has ended without it. -/
theorem connectedOnce_of_steady {subscriberPrimary : Bool} {acts : List Act} {after : Engine}
    (hrun : Exec (Guarded Steady fun before act after => after = before.step act)
      (.connecting subscriberPrimary) acts after) : ConnectedOnce after.room.trace := by
  have hinv : Up after ∧ Inv after.room := by
    refine @Exec.invariant _ _ _ (fun engine => Up engine ∧ Inv engine.room) ?_ _ _ _ hrun ?_
    · rintro before act _ ⟨hup, hroom⟩ ⟨hsteady, rfl⟩
      refine ⟨hup.step hsteady, hroom.step ?_⟩
      rintro ⟨hstate, hrecovering, -⟩
      by_contra hconnecting
      exact hstate (hup hconnecting hrecovering)
    · exact ⟨fun hstate => absurd rfl hstate, inv_connecting subscriberPrimary⟩
  exact hinv.2.once

end Steady

end LivekitClient.SessionStates
