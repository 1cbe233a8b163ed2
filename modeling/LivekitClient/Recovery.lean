/-
  LivekitClient/Recovery.lean
  ===========================
  **The recovery of a connection** (`RtcEngine::StartRecovery`, `RunRecovery`,
  `ResumeTransport`, `ConnectTransport`, `OnLeave`, `OnClose` and `OnStateChange` in
  `src/core/detail/rtc_engine.cpp`).

  The recovery runs on a thread of its own, and what the server and the peer
  connection have to say comes in on other threads.  They meet in a handful of
  atomics, so every load and store of one of them is a step, and so is every section
  under a mutex.  What the world decides (the policy's answer, whether a connection
  comes about) is part of the label of the step.

  A DISCONNECT order of the server clears `recovery_allowed_`, which keeps a new
  recovery from starting.  The one that runs looks at `recovery_stop_` only.

  A call of the transport that throws ends the process, since nothing on the recovery
  thread catches it; `RecoveryRun` has that end.
-/
import LivekitClient.Runs
import LivekitClient.Traces

namespace LivekitClient.Recovery

open Runs

/-! ## 1. The engine -/

inductive RoomState where
  | disconnected
  | connecting
  | connected
  | reconnecting
  | disconnecting
  | failed
deriving DecidableEq

/-- Where the recovery is: `begin…` is the call of `StartRecovery` that won, `resume…`
    is inside `ResumeTransport`, `connect…` inside `ConnectTransport`. -/
inductive Pc where
  | beginRecovering
  | beginClearConnected
  | beginReconnecting
  | start
  | checkForceFull
  | checkStop
  | readToken
  | resumeSession
  | resumeCreate
  | resumeSwap
  | resumeSignal
  | resumeCheckStop
  | resumeCheckForce
  | resumeConfigure
  | resumeClearConnected
  | resumeClearAnswer
  | resumeRestartIce
  | resumeWait
  | resumeEnd (connected : Bool)
  | resumeEndForce
  | resumed (recovered : Bool)
  | resumedEvent
  | resumedClearRecovering
  | resumedClearProgress
  | setForceFull
  | reconnectingCheckStop
  | reconnectingEvent
  | loopHead
  | nextRetryDelay
  | delayWait
  | delayCheckStop
  | clearConnected
  | resetSignal
  | resetSession
  | fullReadToken
  | connectCreate
  | connectSignal
  | connectJoin
  | connectCheckStop
  | connectSession
  | connectWait
  | finished (recovered : Bool)
  | reconnectedCheck
  | reconnectedSet
  | exhaustedCheckStop
  | exhaustedResetSignal
  | exhaustedResetSession
  | exhaustedDisallow
  | exhaustedEvent
  | clearForceFull
  | clearRecovering
  | clearProgress
  | done
deriving DecidableEq

/-- What has happened, in its order. -/
inductive Event where
  | leave
  | resumeTransport
  | connectTransport
  | nextRetryDelay (retryCount : Nat)
  | resumedEvent
  | reconnectedEvent
  | signalDisconnectedEvent
deriving DecidableEq

/-- Where a call on another thread is: of `StartRecovery` once it has passed its first
    check, of `OnLeave` or `OnClose` about to tell the listener, of `OnStateChange` once
    `rtc_connected_` is set, of `OnAnswer` about to note the answer. -/
inductive Call where
  | storeForce
  | exchange (force : Bool)
  | reconnectingEvent
  | signalDisconnectedEvent
  | connectedCheck
  | connectedEvent
  | noteAnswer
deriving DecidableEq

/-- `signalClient` and `session` say that there is one, `calls` are the calls on the
    other threads.  The defaults are those of a room that is connected. -/
structure State where
  pc : Pc := .done
  recoveryAllowed : Bool := true
  recoveryStop : Bool := false
  forceFullReconnect : Bool := false
  recoveryInProgress : Bool := false
  recoveringConnection : Bool := false
  rtcConnected : Bool := true
  publisherAnswerReceived : Bool := false
  signalClient : Bool := true
  session : Bool := true
  hasUrl : Bool := true
  hasToken : Bool := true
  attempts : Nat := 1
  attempt : Nat := 0
  roomState : RoomState := .connected
  calls : List Call := []
  log : List Event := []
deriving DecidableEq

namespace State

@[grind =]
def goto (state : State) (pc : Pc) : State := { state with pc := pc }

@[grind =]
def record (state : State) (event : Event) : State := { state with log := state.log ++ [event] }

/-- `Room::TransitionState`. -/
@[grind =]
def transition (state : State) (expected roomState : RoomState) : State :=
  if state.roomState = expected then { state with roomState := roomState } else state

/-- `Room::SignalDisconnectedEvent`. -/
@[grind =]
def signalDisconnectedEvent (state : State) : State :=
  if state.roomState = .disconnecting ∨ state.roomState = .disconnected then state
  else { state with roomState := .failed }

/-- The end of an attempt that failed. -/
@[grind =]
def nextAttempt (state : State) : State :=
  { state with attempt := state.attempt + 1, pc := .loopHead }

/-! ## 2. The recovery thread -/

/-- A step of `ResumeTransport`; `ok` and `more` are what the world decides. -/
def resumeStep (state : State) (ok more : Bool) : State :=
  match state.pc with
  | .resumeSession =>
    state.goto (if state.session && ok then .resumeCreate else .resumed false)
  | .resumeCreate => state.goto (if ok then .resumeSwap else .resumed false)
  | .resumeSwap => { state with signalClient := true, pc := .resumeSignal }
  | .resumeSignal => state.goto (if ok then .resumeCheckStop else .resumed false)
  | .resumeCheckStop =>
    state.goto (if state.recoveryStop then .resumed false else .resumeCheckForce)
  | .resumeCheckForce =>
    state.goto (if state.forceFullReconnect then .resumed false else .resumeConfigure)
  | .resumeConfigure =>
    state.goto (if state.session && ok then .resumeClearConnected else .resumed false)
  | .resumeClearConnected => { state with rtcConnected := false, pc := .resumeClearAnswer }
  | .resumeClearAnswer => { state with publisherAnswerReceived := false, pc := .resumeRestartIce }
  | .resumeRestartIce =>
    -- `more` says that the publisher's ICE is to be restarted
    if state.session && ok then state.goto (if more then .resumeWait else .resumeEnd true)
    else state.goto (.resumed false)
  | .resumeWait =>
    -- the wait ends with its predicate, at the latest when the time is up
    state.goto (.resumeEnd (state.recoveryStop || state.forceFullReconnect ||
      (state.publisherAnswerReceived && state.session && ok)))
  | .resumeEnd connected =>
    state.goto (if connected && !state.recoveryStop then .resumeEndForce else .resumed false)
  | .resumeEndForce => state.goto (.resumed (!state.forceFullReconnect))
  | _ => state

/-- A step of `ConnectTransport`, or of the wait after it. -/
def connectStep (state : State) (ok : Bool) : State :=
  match state.pc with
  | .connectCreate => if ok then state.goto .connectSignal else state.nextAttempt
  | .connectSignal => { state with signalClient := true, pc := .connectJoin }
  | .connectJoin => if ok then state.goto .connectCheckStop else state.nextAttempt
  | .connectCheckStop =>
    if state.recoveryStop then state.nextAttempt else state.goto .connectSession
  | .connectSession =>
    if ok then { state with session := true, pc := .connectWait }
    else { state with session := false }.nextAttempt
  | .connectWait =>
    -- `rtc_connected_mutex_` is held from the wait on
    if state.rtcConnected && !state.recoveryStop then state.goto (.finished true)
    else state.nextAttempt
  | _ => state

/-- A step of the loop over the attempts, up to `ConnectTransport`. -/
def loopStep (state : State) (ok more : Bool) : State :=
  match state.pc with
  | .loopHead =>
    state.goto (if state.attempt < state.attempts && !state.recoveryStop then .nextRetryDelay
      else .finished false)
  | .nextRetryDelay =>
    -- `ok`: the policy grants a retry; `more`: after a delay
    (state.record (.nextRetryDelay state.attempt)).goto
      (if ok then (if more then .delayWait else .clearConnected) else .finished false)
  | .delayWait => state.goto .delayCheckStop
  | .delayCheckStop =>
    state.goto (if state.recoveryStop then .finished false else .clearConnected)
  | .clearConnected => { state with rtcConnected := false, pc := .resetSignal }
  | .resetSignal => { state with signalClient := false, pc := .resetSession }
  | .resetSession => { state with session := false, pc := .fullReadToken }
  | .fullReadToken =>
    if state.hasUrl && state.hasToken then
      (state.record .connectTransport).goto .connectCreate
    else state.goto (.finished false)
  | _ => state

/-- A step of `StartRecovery` once it has won, or of `RunRecovery` outside the loop. -/
def outerStep (state : State) : State :=
  match state.pc with
  | .beginRecovering => { state with recoveringConnection := true, pc := .beginClearConnected }
  | .beginClearConnected => { state with rtcConnected := false, pc := .beginReconnecting }
  | .beginReconnecting => (state.transition .connected .reconnecting).goto .start
  | .start => { state with attempt := 0, pc := .checkForceFull }
  | .checkForceFull =>
    state.goto (if state.forceFullReconnect then .setForceFull else .checkStop)
  | .checkStop => state.goto (if state.recoveryStop then .setForceFull else .readToken)
  | .readToken =>
    if state.hasUrl && state.hasToken then (state.record .resumeTransport).goto .resumeSession
    else state.goto (.resumed false)
  | .resumed recovered =>
    state.goto (if recovered && !state.forceFullReconnect then .resumedEvent else .setForceFull)
  | .resumedEvent =>
    ((state.transition .reconnecting .connected).record .resumedEvent).goto .resumedClearRecovering
  | .resumedClearRecovering =>
    { state with recoveringConnection := false, pc := .resumedClearProgress }
  | .resumedClearProgress => { state with recoveryInProgress := false, pc := .done }
  | .setForceFull => { state with forceFullReconnect := true, pc := .reconnectingCheckStop }
  | .reconnectingCheckStop =>
    state.goto (if state.recoveryStop then .loopHead else .reconnectingEvent)
  | .reconnectingEvent => (state.transition .connected .reconnecting).goto .loopHead
  | .finished recovered =>
    state.goto (if recovered then .reconnectedCheck else .exhaustedCheckStop)
  | .reconnectedCheck =>
    (state.record .reconnectedEvent).goto
      (if state.roomState = .reconnecting then .reconnectedSet else .clearForceFull)
  | .reconnectedSet => { state with roomState := .connected, pc := .clearForceFull }
  | .exhaustedCheckStop =>
    state.goto (if state.recoveryStop then .clearForceFull else .exhaustedResetSignal)
  | .exhaustedResetSignal => { state with signalClient := false, pc := .exhaustedResetSession }
  | .exhaustedResetSession => { state with session := false, pc := .exhaustedDisallow }
  | .exhaustedDisallow => { state with recoveryAllowed := false, pc := .exhaustedEvent }
  | .exhaustedEvent =>
    (state.signalDisconnectedEvent.record .signalDisconnectedEvent).goto .clearForceFull
  | .clearForceFull => { state with forceFullReconnect := false, pc := .clearRecovering }
  | .clearRecovering => { state with recoveringConnection := false, pc := .clearProgress }
  | .clearProgress => { state with recoveryInProgress := false, pc := .done }
  | _ => state

/-- A step of the recovery thread. -/
def recoveryStep (state : State) (ok more : Bool) : State :=
  match state.pc with
  | .resumeSession | .resumeCreate | .resumeSwap | .resumeSignal | .resumeCheckStop
  | .resumeCheckForce | .resumeConfigure | .resumeClearConnected | .resumeClearAnswer
  | .resumeRestartIce | .resumeWait | .resumeEnd _ | .resumeEndForce => state.resumeStep ok more
  | .connectCreate | .connectSignal | .connectJoin | .connectCheckStop | .connectSession
  | .connectWait => state.connectStep ok
  | .loopHead | .nextRetryDelay | .delayWait | .delayCheckStop | .clearConnected | .resetSignal
  | .resetSession | .fullReadToken => state.loopStep ok more
  | _ => state.outerStep

end State

/-! ## 3. The other threads -/

/-- `call i` is a step of the `i`-th call under way. -/
inductive Act where
  | recovery (ok more : Bool)
  | leave
  | close
  | startRecovery (force : Bool)
  | call (i : Nat)
  | rtcConnected
  | answer
  | tokenRefresh

namespace State

/-- A call goes under way, one is over. -/
@[grind =]
def enter (state : State) (call : Call) : State := { state with calls := state.calls ++ [call] }

@[grind =]
def leaveCall (state : State) (i : Nat) : State := { state with calls := state.calls.eraseIdx i }

/-- `OnLeave` with action DISCONNECT. -/
def onLeave (state : State) : State :=
  ({ state with recoveryAllowed := false }.record .leave).enter .signalDisconnectedEvent

/-- The first check of `StartRecovery`. -/
def startRecovery (state : State) (force : Bool) : State :=
  if !state.recoveryAllowed || state.recoveryStop then state
  else state.enter (if force then .storeForce else .exchange false)

/-- The checks of `OnClose`. -/
def onClose (state : State) : State :=
  if state.recoveryAllowed && !state.recoveryStop then state.startRecovery false
  else if !state.recoveryInProgress && !state.recoveryStop then
    state.enter .signalDisconnectedEvent
  else state

/-- `OnStateChange` of a session that is connected. -/
def onConnected (state : State) : State :=
  if state.session then { state with rtcConnected := true }.enter .connectedCheck else state

/-- `OnAnswer`. -/
def onAnswer (state : State) : State :=
  if state.recoveringConnection then state.enter .noteAnswer else state

/-- The `compare_exchange_strong` on `recovery_in_progress_`: who wins goes on as the
    recovery, who loses with a forced full reconnect tells the listener. -/
def exchange (state : State) (i : Nat) (force : Bool) : State :=
  if !state.recoveryInProgress then
    { state with recoveryInProgress := true, pc := .beginRecovering }.leaveCall i
  else if force then { state with calls := state.calls.set i .reconnectingEvent }
  else state.leaveCall i

/-- A step of the `i`-th call under way. -/
def callStep (state : State) (i : Nat) : State :=
  match state.calls[i]? with
  | none => state
  | some .storeForce =>
    { state with forceFullReconnect := true, calls := state.calls.set i (.exchange true) }
  | some (.exchange force) => state.exchange i force
  | some .reconnectingEvent => (state.leaveCall i).transition .connected .reconnecting
  | some .signalDisconnectedEvent =>
    (state.signalDisconnectedEvent.record .signalDisconnectedEvent).leaveCall i
  | some .connectedCheck =>
    if state.recoveringConnection then state.leaveCall i
    else { state with calls := state.calls.set i .connectedEvent }
  | some .connectedEvent => { state.leaveCall i with roomState := .connected }
  | some .noteAnswer => { state.leaveCall i with publisherAnswerReceived := true }

def step (state : State) : Act → State
  | .recovery ok more => state.recoveryStep ok more
  | .leave => state.onLeave
  | .close => state.onClose
  | .startRecovery force => state.startRecovery force
  | .call i => state.callStep i
  | .rtcConnected => state.onConnected
  | .answer => state.onAnswer
  | .tokenRefresh => { state with hasToken := true }

end State

def Step (state : State) (act : Act) (after : State) : Prop := after = state.step act

/-! ## 4. An order that is final -/

/-- The engine starts a transport. -/
@[grind =]
def Event.isStart : Event → Bool
  | .resumeTransport | .connectTransport => true
  | _ => false

/-- After the server's order no transport is started. -/
def Final (log : List Event) : Prop :=
  ∀ before after, log = before ++ .leave :: after → ∀ event ∈ after, event.isStart = false

theorem Final.append {log : List Event} (hfinal : Final log) {event : Event}
    (hevent : .leave ∈ log → event.isStart = false) : Final (log ++ [event]) := by
  intro before after heq
  rcases Traces.append_singleton_eq_iff.1 heq with ⟨-, -, rfl⟩ | ⟨front, rfl, hlog⟩
  · simp
  · intro late hlate
    rcases List.mem_append.1 hlate with hmid | hlast
    · exact hfinal before front hlog late hmid
    · rw [List.mem_singleton.1 hlast]
      apply hevent
      rw [hlog]
      simp

namespace State

/-- The server has ordered the engine to disconnect. -/
def left (state : State) : Prop := .leave ∈ state.log

/-- There is a signal client or a session. -/
@[grind =]
def live (state : State) : Bool := state.signalClient || state.session

/-- A recovery that is over and failed leaves nothing behind. -/
def Released (state : State) : Prop :=
  state.pc = .done → state.roomState = .failed → state.live = false

/-- Nothing the recovery still looks at keeps it from starting a transport, the url and
    the token apart. -/
@[grind =]
def startPending (state : State) : Bool :=
  match state.pc with
  | .beginRecovering | .beginClearConnected | .beginReconnecting | .start | .checkForceFull =>
    !state.forceFullReconnect
  | .checkStop | .readToken | .delayWait | .delayCheckStop | .clearConnected | .resetSignal
  | .resetSession | .fullReadToken => true
  | _ => false

@[grind =]
def aboutToStart (state : State) : Bool :=
  state.hasUrl && state.hasToken && state.startPending

/-- The recovery has got its connection, or is over with one. -/
@[grind =]
def succeeded (state : State) : Bool :=
  match state.pc with
  | .resumed true => !state.forceFullReconnect
  | .resumedEvent | .resumedClearRecovering | .resumedClearProgress | .finished true
  | .reconnectedCheck | .reconnectedSet => true
  | .clearForceFull | .clearRecovering | .clearProgress | .done => state.live
  | _ => false

end State

/-- The step leaves an order of the server what it is meant to be. -/
def Harmless (state : State) : Act → Prop
  | .leave => state.aboutToStart = false ∧ state.succeeded = false
  | .recovery ok _ => state.left →
      (state.pc = .nextRetryDelay → ok = true → (state.hasUrl && state.hasToken) = false) ∧
      (state.pc = .resumeEndForce → state.forceFullReconnect = true) ∧
      (state.pc = .connectWait → state.rtcConnected = false)
  | .call i => ∀ force, state.calls[i]? = some (.exchange force) →
      state.recoveryInProgress = false → state.recoveryAllowed = true
  | .tokenRefresh => state.left → (state.hasUrl && state.startPending) = false
  | _ => True

/-- The recovery has given up and there is nothing left of the connection. -/
@[grind =]
def State.givenUp (state : State) : Bool :=
  match state.pc with
  | .exhaustedEvent | .clearForceFull | .clearRecovering | .clearProgress | .done => !state.live
  | _ => false

/-- What holds in every state of a run of harmless steps. -/
structure Inv (state : State) : Prop where
  stop : state.recoveryStop = false
  final : Final state.log
  leftDisallowed : state.left → state.recoveryAllowed = false
  leftPending : state.left → state.aboutToStart = false
  leftSucceeded : state.left → state.succeeded = false
  failed : state.roomState = .failed → state.recoveryAllowed = false
  disallowed : state.recoveryAllowed = false → state.left ∨ state.givenUp = true
  called : .signalDisconnectedEvent ∈ state.calls → state.recoveryAllowed = false
  reset : state.pc = .exhaustedResetSession → state.signalClient = false
  released : state.pc = .exhaustedDisallow ∨ state.pc = .exhaustedEvent → state.live = false
  exhausted : state.pc = .exhaustedEvent → state.recoveryAllowed = false

/-! ## 5. A step of the recovery

The thread is at one of its places, so each of these is a look at every one of them. -/

namespace State

variable (state : State) (ok more : Bool)

theorem recoveryStep_frame :
    (state.recoveryStep ok more).recoveryStop = state.recoveryStop ∧
      (state.recoveryStep ok more).calls = state.calls := by
  constructor <;> cases hpc : state.pc <;>
    simp only [recoveryStep, resumeStep, connectStep, loopStep, outerStep, hpc, transition,
      signalDisconnectedEvent] <;>
    (repeat' split) <;> rfl

/-- A transport is started from the places before it only. -/
theorem recoveryStep_log :
    (state.recoveryStep ok more).log = state.log ∨
      ∃ event, (state.recoveryStep ok more).log = state.log ++ [event] ∧
        event ≠ .leave ∧ (event.isStart = true → state.aboutToStart = true) := by
  cases hpc : state.pc
  -- the places at which something is recorded, and the transitions of the room
  case readToken | fullReadToken | nextRetryDelay | resumedEvent | reconnectedCheck |
      exhaustedEvent | beginReconnecting | reconnectingEvent =>
    simp only [recoveryStep, loopStep, outerStep, hpc]
    grind
  all_goals
    left
    simp only [recoveryStep, resumeStep, connectStep, loopStep, outerStep, hpc] <;>
      (repeat' split) <;> rfl

/-- Nothing but the end of a failed recovery forbids the next one. -/
theorem recoveryStep_recoveryAllowed :
    (state.recoveryStep ok more).recoveryAllowed =
      match state.pc with
      | .exhaustedDisallow => false
      | _ => state.recoveryAllowed := by
  cases hpc : state.pc <;>
    simp only [recoveryStep, resumeStep, connectStep, loopStep, outerStep, hpc, transition,
      signalDisconnectedEvent] <;>
    (repeat' split) <;> rfl

/-- Nothing but a new connection allows a recovery again. -/
theorem recoveryStep_disallowed (hnot : state.recoveryAllowed = false) :
    (state.recoveryStep ok more).recoveryAllowed = false := by
  rw [recoveryStep_recoveryAllowed]
  split
  · rfl
  · exact hnot

theorem recoveryStep_allowed (hnot : (state.recoveryStep ok more).recoveryAllowed = false) :
    state.recoveryAllowed = false ∨ state.pc = .exhaustedDisallow := by
  rw [recoveryStep_recoveryAllowed] at hnot
  split at hnot
  · rename_i hpc
    exact Or.inr hpc
  · exact Or.inl hnot

theorem recoveryStep_failed
    (hfailed : (state.recoveryStep ok more).roomState = .failed) :
    state.roomState = .failed ∨ state.pc = .exhaustedEvent := by
  revert hfailed
  cases hpc : state.pc <;>
    simp only [recoveryStep, resumeStep, connectStep, loopStep, outerStep, hpc, transition,
      signalDisconnectedEvent] <;>
    (repeat' split) <;>
    first
    | exact fun _ => Or.inr trivial
    | exact Or.inl
    | exact fun hfailed => absurd hfailed (by simp [goto, record])

/-- The recovery gets to a place before a transport by the policy's answer only. -/
theorem recoveryStep_aboutToStart
    (hstart : (state.recoveryStep ok more).aboutToStart = true) :
    state.aboutToStart = true ∨
      (state.pc = .nextRetryDelay ∧ ok = true ∧ (state.hasUrl && state.hasToken) = true) := by
  revert hstart
  cases hpc : state.pc
  case beginReconnecting =>
    simp only [recoveryStep, outerStep, hpc]
    grind
  all_goals
    simp only [recoveryStep, resumeStep, connectStep, loopStep, outerStep, hpc]
    (repeat' split) <;>
      simp_all [aboutToStart, startPending, goto, record, nextAttempt, signalDisconnectedEvent]

/-- It succeeds at the end of a resume or of the wait for the connection. -/
theorem recoveryStep_succeeded (hstop : state.recoveryStop = false)
    (hsuccess : (state.recoveryStep ok more).succeeded = true) :
    state.succeeded = true ∨
      (state.pc = .resumeEndForce ∧ state.forceFullReconnect = false) ∨
      (state.pc = .connectWait ∧ state.rtcConnected = true) ∨
      (state.pc = .exhaustedEvent ∧ state.live = true) := by
  revert hsuccess
  cases hpc : state.pc
  case resumeEndForce | exhaustedEvent =>
    simp only [recoveryStep, resumeStep, outerStep, hpc]
    grind
  all_goals
    simp only [recoveryStep, resumeStep, connectStep, loopStep, outerStep, hpc]
    (repeat' split) <;> simp_all [succeeded, live, goto, record, nextAttempt, transition]

theorem recoveryStep_givenUp
    (hgiven : state.givenUp = true ∨ (state.pc = .exhaustedDisallow ∧ state.live = false)) :
    (state.recoveryStep ok more).givenUp = true := by
  rcases hgiven with hgiven | ⟨hpc, hlive⟩
  · -- the places at which it can have given up
    unfold givenUp at hgiven
    split at hgiven
    · rename_i hpc
      simp only [recoveryStep, outerStep, hpc, signalDisconnectedEvent]
      split <;> exact hgiven
    · rename_i hpc
      simp only [recoveryStep, outerStep, hpc]
      exact hgiven
    · rename_i hpc
      simp only [recoveryStep, outerStep, hpc]
      exact hgiven
    · rename_i hpc
      simp only [recoveryStep, outerStep, hpc]
      exact hgiven
    · rename_i hpc
      simpa only [recoveryStep, outerStep, hpc, givenUp] using hgiven
    · simp at hgiven
  · simp only [live] at hlive
    simp only [recoveryStep, outerStep, hpc, givenUp, live, hlive, Bool.not_false]

theorem recoveryStep_resetSignal
    (hat : (state.recoveryStep ok more).pc = .exhaustedResetSession) :
    (state.recoveryStep ok more).signalClient = false := by
  revert hat
  cases hpc : state.pc <;>
    simp only [recoveryStep, resumeStep, connectStep, loopStep, outerStep, hpc, goto,
      transition, record, nextAttempt] <;>
    (repeat' split) <;> simp

theorem recoveryStep_disallow
    (hat : (state.recoveryStep ok more).pc = .exhaustedDisallow) :
    state.pc = .exhaustedResetSession ∧
      (state.recoveryStep ok more).live = state.signalClient := by
  revert hat
  cases hpc : state.pc <;>
    simp only [recoveryStep, resumeStep, connectStep, loopStep, outerStep, hpc, goto,
      transition, record, nextAttempt] <;>
    (repeat' split) <;> simp [live]

theorem recoveryStep_exhausted
    (hat : (state.recoveryStep ok more).pc = .exhaustedEvent) :
    state.pc = .exhaustedDisallow ∧
      (state.recoveryStep ok more).live = state.live ∧
      (state.recoveryStep ok more).recoveryAllowed = false := by
  revert hat
  cases hpc : state.pc <;>
    simp only [recoveryStep, resumeStep, connectStep, loopStep, outerStep, hpc, goto,
      transition, record, nextAttempt] <;>
    (repeat' split) <;> simp [live]

end State

theorem Inv.recoveryStep {state : State} (hinv : Inv state) {ok more : Bool}
    (hharmless : Harmless state (.recovery ok more)) : Inv (state.recoveryStep ok more) := by
  have hleft : (state.recoveryStep ok more).left ↔ state.left := by
    unfold State.left
    rcases state.recoveryStep_log ok more with heq | ⟨event, heq, hne, -⟩
    · rw [heq]
    · rw [heq, List.mem_append, List.mem_singleton]
      constructor
      · rintro (hin | rfl)
        · exact hin
        · exact absurd rfl hne
      · exact Or.inl
  have hlive : state.pc = .exhaustedDisallow → state.live = false := fun hpc =>
    hinv.released (Or.inl hpc)
  constructor
  · rw [(state.recoveryStep_frame ok more).1]
    exact hinv.stop
  · rcases state.recoveryStep_log ok more with heq | ⟨event, heq, -, hstart⟩
    · rw [heq]
      exact hinv.final
    · rw [heq]
      apply hinv.final.append
      intro hl
      by_contra hevent
      rw [hinv.leftPending hl] at hstart
      simp only [Bool.not_eq_false] at hevent
      simp [hevent] at hstart
  · intro hl
    exact state.recoveryStep_disallowed ok more (hinv.leftDisallowed (hleft.1 hl))
  · intro hl
    by_contra hstart
    rw [Bool.not_eq_false] at hstart
    have hl := hleft.1 hl
    rcases state.recoveryStep_aboutToStart ok more hstart with habout | ⟨hpc, hok, hparams⟩
    · rw [hinv.leftPending hl] at habout
      exact absurd habout (by decide)
    · rw [(hharmless hl).1 hpc hok] at hparams
      exact absurd hparams (by decide)
  · intro hl
    by_contra hsuccess
    rw [Bool.not_eq_false] at hsuccess
    have hl := hleft.1 hl
    rcases state.recoveryStep_succeeded ok more hinv.stop hsuccess with
      hbefore | ⟨hpc, hforce⟩ | ⟨hpc, hconnected⟩ | ⟨hpc, hlive⟩
    · rw [hinv.leftSucceeded hl] at hbefore
      exact absurd hbefore (by decide)
    · rw [(hharmless hl).2.1 hpc] at hforce
      exact absurd hforce (by decide)
    · rw [(hharmless hl).2.2 hpc] at hconnected
      exact absurd hconnected (by decide)
    · rw [hinv.released (Or.inr hpc)] at hlive
      exact absurd hlive (by decide)
  · intro hfailed
    apply state.recoveryStep_disallowed
    rcases state.recoveryStep_failed ok more hfailed with hroom | hpc
    · exact hinv.failed hroom
    · exact hinv.exhausted hpc
  · intro hnot
    rw [hleft]
    rcases state.recoveryStep_allowed ok more hnot with hbefore | hpc
    · exact (hinv.disallowed hbefore).imp_right
        fun hgiven => state.recoveryStep_givenUp ok more (Or.inl hgiven)
    · exact Or.inr (state.recoveryStep_givenUp ok more (Or.inr ⟨hpc, hlive hpc⟩))
  · intro hcall
    rw [(state.recoveryStep_frame ok more).2] at hcall
    exact state.recoveryStep_disallowed ok more (hinv.called hcall)
  · exact state.recoveryStep_resetSignal ok more
  · rintro (hat | hat)
    · obtain ⟨hpc, heq⟩ := state.recoveryStep_disallow ok more hat
      rw [heq]
      exact hinv.reset hpc
    · obtain ⟨hpc, heq, -⟩ := state.recoveryStep_exhausted ok more hat
      rw [heq]
      exact hlive hpc
  · intro hat
    exact (state.recoveryStep_exhausted ok more hat).2.2

/-! ## 6. A step of another thread -/

/-- What a step of another thread leaves as it is, when it neither begins a recovery nor
    is the order itself. -/
structure Outside (state after : State) : Prop where
  pc : after.pc = state.pc
  stop : after.recoveryStop = state.recoveryStop
  allowed : after.recoveryAllowed = state.recoveryAllowed
  signalClient : after.signalClient = state.signalClient
  session : after.session = state.session
  hasUrl : after.hasUrl = state.hasUrl
  hasToken : after.hasToken = state.hasToken
  force : state.forceFullReconnect = true → after.forceFullReconnect = true
  failed : after.roomState = .failed → state.roomState = .failed ∨
    Call.signalDisconnectedEvent ∈ state.calls
  called : Call.signalDisconnectedEvent ∈ after.calls →
    Call.signalDisconnectedEvent ∈ state.calls ∨ state.recoveryAllowed = false
  log : after.log = state.log ∨ after.log = state.log ++ [Event.signalDisconnectedEvent]

namespace Outside

variable {state after : State}

theorem left_iff (hout : Outside state after) : after.left ↔ state.left := by
  unfold State.left
  rcases hout.log with heq | heq <;> simp [heq]

theorem live_eq (hout : Outside state after) : after.live = state.live := by
  simp only [State.live, hout.signalClient, hout.session]

/-- A full reconnect is asked for, never called off. -/
theorem aboutToStart (hout : Outside state after) (hno : state.aboutToStart = false) :
    after.aboutToStart = false := by
  have hforce := hout.force
  simp only [State.aboutToStart, State.startPending, hout.pc, hout.hasUrl, hout.hasToken] at hno ⊢
  grind

theorem succeeded (hout : Outside state after) (hno : state.succeeded = false) :
    after.succeeded = false := by
  have hforce := hout.force
  simp only [State.succeeded, hout.pc, hout.live_eq] at hno ⊢
  grind

theorem givenUp (hout : Outside state after) : after.givenUp = state.givenUp := by
  simp only [State.givenUp, hout.pc, hout.live_eq]

theorem inv (hout : Outside state after) (hinv : Inv state) : Inv after := by
  constructor
  · rw [hout.stop]
    exact hinv.stop
  · rcases hout.log with heq | heq
    · rw [heq]
      exact hinv.final
    · rw [heq]
      exact hinv.final.append fun _ => rfl
  · intro hl
    rw [hout.allowed]
    exact hinv.leftDisallowed (hout.left_iff.1 hl)
  · intro hl
    exact hout.aboutToStart (hinv.leftPending (hout.left_iff.1 hl))
  · intro hl
    exact hout.succeeded (hinv.leftSucceeded (hout.left_iff.1 hl))
  · intro hfailed
    rw [hout.allowed]
    rcases hout.failed hfailed with hroom | hcall
    · exact hinv.failed hroom
    · exact hinv.called hcall
  · rw [hout.allowed, hout.left_iff, hout.givenUp]
    exact hinv.disallowed
  · intro hcall
    rw [hout.allowed]
    rcases hout.called hcall with hbefore | hnot
    · exact hinv.called hbefore
    · exact hnot
  · rw [hout.pc, hout.signalClient]
    exact hinv.reset
  · rw [hout.pc, hout.live_eq]
    exact hinv.released
  · rw [hout.pc, hout.allowed]
    exact hinv.exhausted

end Outside

theorem outside_refl (state : State) : Outside state state :=
  ⟨rfl, rfl, rfl, rfl, rfl, rfl, rfl, id, Or.inl, Or.inl, Or.inl rfl⟩

theorem outside_calls (state : State) (calls : List Call)
    (hcalls : .signalDisconnectedEvent ∈ calls → .signalDisconnectedEvent ∈ state.calls ∨
      state.recoveryAllowed = false) : Outside state { state with calls := calls } :=
  { outside_refl state with called := hcalls }

theorem outside_enter (state : State) (call : Call)
    (hcall : call = .signalDisconnectedEvent → state.recoveryAllowed = false) :
    Outside state (state.enter call) := by
  apply outside_calls
  intro hin
  rcases List.mem_append.1 hin with hbefore | hnew
  · exact Or.inl hbefore
  · exact Or.inr (hcall (List.mem_singleton.1 hnew).symm)

theorem outside_leaveCall (state : State) (i : Nat) : Outside state (state.leaveCall i) :=
  outside_calls state _ fun hcall => Or.inl (List.mem_of_mem_eraseIdx hcall)

theorem outside_set (state : State) (i : Nat) (call : Call)
    (hcall : call ≠ .signalDisconnectedEvent) :
    Outside state { state with calls := state.calls.set i call } := by
  apply outside_calls
  intro hin
  rcases List.mem_or_eq_of_mem_set hin with hbefore | heq
  · exact Or.inl hbefore
  · exact absurd heq.symm hcall

theorem outside_room (state : State) (roomState : RoomState)
    (hfailed : roomState = .failed → state.roomState = .failed ∨
      .signalDisconnectedEvent ∈ state.calls) :
    Outside state { state with roomState := roomState } :=
  { outside_refl state with failed := hfailed }

theorem outside_transition (state : State) (expected : RoomState) {roomState : RoomState}
    (hroom : roomState ≠ .failed) : Outside state (state.transition expected roomState) := by
  unfold State.transition
  split
  · exact outside_room state roomState fun hfailed => absurd hfailed hroom
  · exact outside_refl state

theorem outside_startRecovery (state : State) (force : Bool) :
    Outside state (state.startRecovery force) := by
  unfold State.startRecovery
  split
  · exact outside_refl state
  · apply outside_enter
    cases force <;> simp

theorem Inv.onLeave {state : State} (hinv : Inv state) (hharmless : Harmless state .leave) :
    Inv state.onLeave := by
  obtain ⟨hstart, hsuccess⟩ := hharmless
  constructor
  · exact hinv.stop
  · exact hinv.final.append fun _ => rfl
  · intro _
    rfl
  · intro _
    exact hstart
  · intro _
    exact hsuccess
  · intro _
    rfl
  · intro _
    left
    simp [State.onLeave, State.left, State.record, State.enter]
  · intro _
    rfl
  · exact hinv.reset
  · exact hinv.released
  · intro _
    rfl

theorem Inv.onClose {state : State} (hinv : Inv state) : Inv state.onClose := by
  unfold State.onClose
  split
  · exact (outside_startRecovery state false).inv hinv
  · rename_i hnot
    rw [hinv.stop] at hnot ⊢
    split
    · apply (outside_enter state .signalDisconnectedEvent fun _ => by simpa using hnot).inv hinv
    · exact hinv

theorem Inv.onConnected {state : State} (hinv : Inv state) : Inv state.onConnected := by
  unfold State.onConnected
  split
  · have hout : Outside state { state with rtcConnected := true } := { outside_refl state with }
    exact (outside_enter _ _ (by simp)).inv (hout.inv hinv)
  · exact hinv

theorem Inv.onAnswer {state : State} (hinv : Inv state) : Inv state.onAnswer := by
  unfold State.onAnswer
  split
  · exact (outside_enter _ _ (by simp)).inv hinv
  · exact hinv

theorem Inv.tokenRefresh {state : State} (hinv : Inv state)
    (hharmless : Harmless state .tokenRefresh) : Inv { state with hasToken := true } := by
  refine ⟨hinv.stop, hinv.final, hinv.leftDisallowed, ?_, hinv.leftSucceeded, hinv.failed,
    hinv.disallowed, hinv.called, hinv.reset, hinv.released, hinv.exhausted⟩
  intro hl
  have hpending : (state.hasUrl && state.startPending) = false := hharmless hl
  simpa [State.aboutToStart, State.startPending] using hpending

/-- A recovery begins while it is allowed. -/
theorem Inv.begin {state : State} (hinv : Inv state) (hallowed : state.recoveryAllowed = true)
    (i : Nat) :
    Inv ({ state with recoveryInProgress := true, pc := .beginRecovering }.leaveCall i) := by
  have hnotLeft : ¬ state.left := by
    intro hl
    rw [hinv.leftDisallowed hl] at hallowed
    exact absurd hallowed (by decide)
  have hnot : ¬ state.recoveryAllowed = false := by simp [hallowed]
  constructor
  · exact hinv.stop
  · exact hinv.final
  · exact hinv.leftDisallowed
  · exact fun hl => absurd hl hnotLeft
  · exact fun hl => absurd hl hnotLeft
  · exact hinv.failed
  · exact fun hno => absurd hno hnot
  · exact fun hcall => hinv.called (List.mem_of_mem_eraseIdx hcall)
  · exact fun hpc => absurd hpc (by simp [State.leaveCall])
  · exact fun hpc => absurd hpc (by simp [State.leaveCall])
  · exact fun hpc => absurd hpc (by simp [State.leaveCall])

theorem Inv.exchange {state : State} (hinv : Inv state) (i : Nat) (force : Bool)
    (hallowed : state.recoveryInProgress = false → state.recoveryAllowed = true) :
    Inv (state.exchange i force) := by
  unfold State.exchange
  split
  · rename_i hnone
    exact hinv.begin (hallowed (by simpa using hnone)) i
  split
  · exact (outside_set state i _ (by simp)).inv hinv
  · exact (outside_leaveCall state i).inv hinv

/-- The listener hears of the end of the connection. -/
theorem Inv.signalDisconnectedCall {state : State} (hinv : Inv state) (i : Nat)
    (hcall : .signalDisconnectedEvent ∈ state.calls) :
    Inv ((state.signalDisconnectedEvent.record .signalDisconnectedEvent).leaveCall i) := by
  have hroom : Outside state state.signalDisconnectedEvent := by
    unfold State.signalDisconnectedEvent
    split
    · exact outside_refl state
    · exact outside_room state _ fun _ => Or.inr hcall
  have hlog : Outside state.signalDisconnectedEvent
      (state.signalDisconnectedEvent.record .signalDisconnectedEvent) :=
    { outside_refl _ with log := Or.inr rfl }
  exact (outside_leaveCall _ i).inv (hlog.inv (hroom.inv hinv))

theorem Inv.callStep {state : State} (hinv : Inv state) {i : Nat}
    (hharmless : Harmless state (.call i)) : Inv (state.callStep i) := by
  unfold State.callStep
  split
  · exact hinv
  · have hout : Outside state { state with forceFullReconnect := true } :=
      { outside_refl state with force := fun _ => rfl }
    exact (outside_set _ i _ (by simp)).inv (hout.inv hinv)
  · rename_i force hcall
    exact hinv.exchange i force (hharmless force hcall)
  · exact (outside_transition _ _ (by simp)).inv ((outside_leaveCall state i).inv hinv)
  · rename_i hcall
    exact hinv.signalDisconnectedCall i (List.mem_of_getElem? hcall)
  · split
    · exact (outside_leaveCall state i).inv hinv
    · exact (outside_set state i _ (by simp)).inv hinv
  · exact (outside_room _ _ (by simp)).inv ((outside_leaveCall state i).inv hinv)
  · have hout : Outside (state.leaveCall i)
        { state.leaveCall i with publisherAnswerReceived := true } := { outside_refl _ with }
    exact hout.inv ((outside_leaveCall state i).inv hinv)

/-! ## 7. Runs -/

theorem Inv.step {state after : State} {act : Act} (hinv : Inv state)
    (hstep : Guarded Harmless Step state act after) : Inv after := by
  obtain ⟨hharmless, rfl⟩ := hstep
  cases act with
  | recovery ok more => exact hinv.recoveryStep hharmless
  | leave => exact hinv.onLeave hharmless
  | close => exact hinv.onClose
  | startRecovery force => exact (outside_startRecovery state force).inv hinv
  | call i => exact hinv.callStep hharmless
  | rtcConnected => exact hinv.onConnected
  | answer => exact hinv.onAnswer
  | tokenRefresh => exact hinv.tokenRefresh hharmless

/-- A room that is connected, with no recovery under way. -/
structure Connected (state : State) : Prop where
  pc : state.pc = .done
  allowed : state.recoveryAllowed = true
  stop : state.recoveryStop = false
  roomState : state.roomState = .connected
  calls : state.calls = []
  log : state.log = []

theorem Connected.inv {state : State} (hconnected : Connected state) : Inv state := by
  have hnotLeft : ¬ state.left := by simp [State.left, hconnected.log]
  have hallowed : ¬ state.recoveryAllowed = false := by simp [hconnected.allowed]
  constructor
  · exact hconnected.stop
  · rw [hconnected.log]
    intro before after heq
    simp at heq
  · exact fun hl => absurd hl hnotLeft
  · exact fun hl => absurd hl hnotLeft
  · exact fun hl => absurd hl hnotLeft
  · simp [hconnected.roomState]
  · exact fun hnot => absurd hnot hallowed
  · simp [hconnected.calls]
  · simp [hconnected.pc]
  · simp [hconnected.pc]
  · simp [hconnected.pc]

/-- After an order no transport is started, and a room that failed has none, when every
    step of the run is harmless. -/
theorem order_is_final {start state : State} {acts : List Act} (hstart : Connected start)
    (hrun : Exec (Guarded Harmless Step) start acts state) :
    Final state.log ∧ state.Released := by
  have hinv : Inv state :=
    hrun.invariant (fun _ _ _ hbefore hstep => hbefore.step hstep) hstart.inv
  refine ⟨hinv.final, ?_⟩
  intro hdone hfailed
  rcases hinv.disallowed (hinv.failed hfailed) with hl | hgiven
  · simpa [State.succeeded, hdone] using hinv.leftSucceeded hl
  · simpa [State.givenUp, hdone] using hgiven

instance (state : State) : Decidable state.left :=
  inferInstanceAs (Decidable (Event.leave ∈ state.log))

instance (state : State) : ∀ act, Decidable (Harmless state act)
  | .leave =>
    inferInstanceAs (Decidable (state.aboutToStart = false ∧ state.succeeded = false))
  | .recovery ok _ => inferInstanceAs (Decidable (state.left →
      (state.pc = .nextRetryDelay → ok = true → (state.hasUrl && state.hasToken) = false) ∧
      (state.pc = .resumeEndForce → state.forceFullReconnect = true) ∧
      (state.pc = .connectWait → state.rtcConnected = false)))
  | .call i => inferInstanceAs (Decidable (∀ force, state.calls[i]? = some (.exchange force) →
      state.recoveryInProgress = false → state.recoveryAllowed = true))
  | .tokenRefresh => inferInstanceAs (Decidable (state.left →
      (state.hasUrl && state.startPending) = false))
  | .close | .startRecovery _ | .rtcConnected | .answer => .isTrue trivial

theorem exec_step (start : State) (acts : List Act) :
    Exec Step start acts (acts.foldl State.step start) :=
  exec_foldl State.step start acts

theorem exec_harmless (start : State) (acts : List Act)
    (hharmless : Along Harmless State.step start acts) :
    Exec (Guarded Harmless Step) start acts (acts.foldl State.step start) :=
  exec_guarded hharmless

/-- The signal connection closes, the order comes while it is being resumed, and the
    policy grants no retry. -/
def orderInResume : List Act :=
  [Act.close, Act.call 0] ++ List.replicate 11 (Act.recovery true true) ++
  [Act.leave, Act.call 0] ++ List.replicate 16 (Act.recovery false false)

theorem released_orderInResume :
    Final (orderInResume.foldl State.step {}).log ∧
      (orderInResume.foldl State.step {}).Released := by
  apply @order_is_final {} _ orderInResume
  · exact ⟨rfl, rfl, rfl, rfl, rfl, rfl⟩
  · exact exec_harmless {} orderInResume (by decide +kernel)

/-- The media fails and a full reconnect is asked for, the policy grants a retry after a
    delay, and the order comes while the recovery waits for it. -/
def orderInDelay : List Act :=
  [Act.startRecovery true, Act.call 0, Act.call 0] ++
  List.replicate 10 (Act.recovery true true) ++ [Act.leave, Act.call 0] ++
  List.replicate 11 (Act.recovery true true) ++ [Act.rtcConnected, Act.call 0] ++
  List.replicate 6 (Act.recovery true true)

/-- The recovery that waits connects after the order, and the room that failed keeps the
    connection. -/
theorem order_in_delay_is_missed :
    ¬ ∀ (start : State) (acts : List Act) (state : State), Connected start →
      Exec Step start acts state → Final state.log ∧ state.Released := by
  intro hall
  obtain ⟨hfinal, -⟩ := hall {} orderInDelay _ ⟨rfl, rfl, rfl, rfl, rfl, rfl⟩
    (exec_step {} orderInDelay)
  have hlog : (orderInDelay.foldl State.step {}).log = [.nextRetryDelay 0] ++
      .leave :: [.signalDisconnectedEvent, .connectTransport, .reconnectedEvent] := by
    decide +kernel
  have hlate := hfinal _ _ hlog .connectTransport (by decide)
  exact absurd hlate (by decide)

end LivekitClient.Recovery
