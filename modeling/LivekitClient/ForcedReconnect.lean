/-
  LivekitClient/ForcedReconnect.lean
  ==================================
  **Full reconnects that are asked for while a recovery runs** (`RtcEngine::StartRecovery`
  and `RunRecovery` in `src/core/detail/rtc_engine.cpp`, `Room::ReconnectingEvent` and
  `ReconnectedEvent` in `src/core/room.cpp`).

  Who asks for a full reconnect sets `force_full_reconnect_` and then finds out whether
  a recovery is in progress.  If one is, he leaves the rest to it and tells the room,
  which takes its local tracks off their transceivers until `ReconnectedEvent`.  The
  recovery looks at the flag for the last time before its `ResumedEvent`, and clears it
  at its end; a request can come after either.
-/
import LivekitClient.RecoveryStages

namespace LivekitClient.ForcedReconnect

open Runs
open LivekitClient.Recovery (Call)
open LivekitClient.RecoveryStages

/-! ## 1. The engine, and what became of a request -/

/-- How far a request that was left to the running recovery has come: it waits for a full
    attempt, or the policy has been asked about one. -/
inductive Request where
  | waiting
  | queried
deriving DecidableEq

/-- `forced` is the argument of the `StartRecovery` that began the recovery,
    `fullReconnectPrepared` says that the local tracks are off their transceivers, `ended`
    that the recovery has come to its `SignalDisconnectedEvent`. -/
structure State where
  engine : Recovery.State := {}
  forced : Bool := false
  fullReconnectPrepared : Bool := false
  request : Option Request := none
  ended : Bool := false
deriving DecidableEq

/-- A step of the engine, or the `Disconnect` of the application stops the recovery. -/
inductive Act where
  | engine (act : Recovery.Act)
  | stop

namespace State

/-- What the recovery's step does besides. -/
def recoveryStep (state : State) (ok more : Bool) : State :=
  let next := { state with engine := state.engine.recoveryStep ok more }
  match state.engine.pc with
  | .beginReconnecting =>
    { next with fullReconnectPrepared := state.fullReconnectPrepared || state.forced }
  | .reconnectingEvent => { next with fullReconnectPrepared := true }
  | .reconnectedSet => { next with fullReconnectPrepared := false }
  | .nextRetryDelay => { next with request := state.request.map fun _ => .queried }
  | .fullReadToken =>
    if state.engine.hasUrl && state.engine.hasToken && state.request == some .queried then
      { next with request := none }
    else next
  | .exhaustedEvent => { next with request := none, ended := true }
  | _ => next

/-- What the exchange on `recovery_in_progress_` makes of the argument `force`. -/
def exchange (state : State) (i : Nat) (force : Bool) : State :=
  let next := { state with engine := state.engine.exchange i force }
  if !state.engine.recoveryInProgress then { next with forced := force, ended := false }
  else if force && !state.ended then { next with request := some .waiting }
  else next

def callStep (state : State) (i : Nat) : State :=
  match state.engine.calls[i]? with
  | some (.exchange force) => state.exchange i force
  | some .reconnectingEvent =>
    { state with engine := state.engine.callStep i, fullReconnectPrepared := true }
  | _ => { state with engine := state.engine.callStep i }

def step (state : State) : Act → State
  | .engine (.recovery ok more) => state.recoveryStep ok more
  | .engine (.call i) => state.callStep i
  | .engine act => { state with engine := state.engine.step act }
  | .stop => { state with engine := { state.engine with recoveryStop := true } }

end State

/-! ## 2. Requests that are heard -/

/-- The recovery is still to begin a full attempt or to give up: it has not looked at the
    flag for the last time, or it has seen it. -/
def heeds (engine : Recovery.State) : Bool :=
  match stage engine.pc with
  | .opening | .resuming => engine.forceFullReconnect
  | .full | .failing => true
  | _ => false

/-- The recovery is still to publish the local tracks again, or to give up. -/
def reattaches (engine : Recovery.State) : Bool :=
  match stage engine.pc with
  | .opening | .resuming => engine.forceFullReconnect
  | .full | .failing | .succeeded | .reconnected => true
  | _ => false

/-- The room has been told that the connection is recovered, and not yet how that went. -/
def told (engine : Recovery.State) : Bool :=
  match stage engine.pc with
  | .opening | .resumeClosing | .closing | .done => false
  | _ => true

/-- The call that is under way does not come too late. -/
def CallHeard (state : State) : Call → Prop
  | .exchange true =>
    if state.engine.recoveryInProgress then state.ended = true ∨ heeds state.engine = true
    else state.engine.forceFullReconnect = true
  | .reconnectingEvent =>
    -- not between the two stores that `ReconnectedEvent` ends with
    state.engine.pc ≠ .reconnectedSet ∧
      (closed state.engine.roomState = true ∨ reattaches state.engine = true)
  | .connectedEvent =>
    told state.engine = false ∧
      (state.fullReconnectPrepared = true → state.engine.roomState = .connected)
  | _ => True

/-- No request comes too late for the recovery, and an attempt that had begun before a
    request does not succeed. -/
def Heard (state : State) : Act → Prop
  | .engine (.call i) => ∀ call ∈ state.engine.calls[i]?, CallHeard state call
  | .engine (.recovery _ _) =>
    state.engine.pc = .connectWait → state.request ≠ none → state.engine.rtcConnected = false
  | _ => True

/-- What holds while nobody has stopped the recovery. -/
structure Core (state : State) : Prop where
  progress : state.engine.recoveryInProgress = true ↔ stage state.engine.pc ≠ .done
  room : state.engine.roomState = .connected ∨ state.engine.roomState = .reconnecting ∨
    closed state.engine.roomState = true
  told : told state.engine = true →
    state.engine.roomState = .reconnecting ∨ closed state.engine.roomState = true
  forced : state.forced = true → stage state.engine.pc = .opening →
    state.engine.forceFullReconnect = true
  request : state.request ≠ none → heeds state.engine = true
  prepared : state.fullReconnectPrepared = true →
    closed state.engine.roomState = true ∨ reattaches state.engine = true

/-! ## 3. A step of the recovery -/

section Recovery

variable {engine : Recovery.State} (ok more : Bool)

theorem closed_roomAfter (hclosed : closed engine.roomState = true)
    (hset : engine.pc ≠ .reconnectedSet) : closed (roomAfter engine) = true := by
  unfold roomAfter
  split <;> grind [closed]

theorem room_roomAfter
    (hroom : engine.roomState = .connected ∨ engine.roomState = .reconnecting ∨
      closed engine.roomState = true) :
    roomAfter engine = .connected ∨ roomAfter engine = .reconnecting ∨
      closed (roomAfter engine) = true := by
  unfold roomAfter
  split <;> grind [closed]

/-- The room is told when the recovery begins. -/
theorem told_before (htold : told (engine.recoveryStep ok more) = true) :
    told engine = true ∨ engine.pc = .beginReconnecting := by
  have hleads := leads_recoveryStep engine ok more
  unfold told at htold ⊢
  cases hstage : stage engine.pc <;> rw [hstage] at hleads <;> simp only [Leads] at hleads <;>
    grind

theorem told_recoveryStep
    (hroom : engine.roomState = .connected ∨ engine.roomState = .reconnecting ∨
      closed engine.roomState = true)
    (htold : told engine = true →
      engine.roomState = .reconnecting ∨ closed engine.roomState = true)
    (hafter : told (engine.recoveryStep ok more) = true) :
    roomAfter engine = .reconnecting ∨ closed (roomAfter engine) = true := by
  have hleads := leads_recoveryStep engine ok more
  have hbefore := told_before ok more hafter
  unfold roomAfter
  split
  · grind
  · grind
  · rename_i hpc
    rw [show stage engine.pc = .resumed by rw [hpc]; rfl, Leads] at hleads
    simp [told, hleads] at hafter
  · rename_i hpc
    rw [show stage engine.pc = .reconnected by rw [hpc]; rfl, Leads] at hleads
    simp [told, hleads] at hafter
  · grind [closed]
  · rename_i hbegin _ _ _ _
    exact htold (hbefore.resolve_right hbegin)

/-- A recovery that nobody stops comes to its next attempt, or to its end. -/
theorem heeds_recoveryStep (hstop : engine.recoveryStop = false) (hheeds : heeds engine = true)
    (hfails : engine.pc = .connectWait → engine.rtcConnected = false)
    (hend : engine.pc ≠ .exhaustedEvent) : heeds (engine.recoveryStep ok more) = true := by
  have hleads := leads_recoveryStep engine ok more
  have hforce := forceFullReconnect_kept engine ok more
  unfold heeds at hheeds ⊢
  cases hstage : stage engine.pc <;> rw [hstage] at hleads hforce hheeds <;>
    simp only [Leads] at hleads <;> grind

theorem reattaches_recoveryStep (hstop : engine.recoveryStop = false)
    (htold : told engine = true →
      engine.roomState = .reconnecting ∨ closed engine.roomState = true)
    (hbefore : closed engine.roomState = true ∨ reattaches engine = true)
    (hset : engine.pc ≠ .reconnectedSet) :
    closed (roomAfter engine) = true ∨ reattaches (engine.recoveryStep ok more) = true := by
  rcases hbefore with hclosed | hbefore
  · exact Or.inl (closed_roomAfter hclosed hset)
  by_cases hend : engine.pc = .exhaustedEvent
  · left
    rw [roomAfter, hend]
    grind [closed]
  have hleads := leads_recoveryStep engine ok more
  have hforce := forceFullReconnect_kept engine ok more
  have hclosed : closed engine.roomState = true → closed (roomAfter engine) = true :=
    fun h => closed_roomAfter h hset
  have hnot : stage engine.pc ≠ .reconnected := fun h => hset (eq_reconnectedSet h)
  unfold reattaches at hbefore ⊢
  unfold told at htold
  cases hstage : stage engine.pc <;> rw [hstage] at hleads hforce hbefore htold <;>
    simp only [Leads] at hleads <;> grind

/-- Until the thread of the recovery starts, nobody takes the flag back. -/
theorem forced_recoveryStep
    (hforced : stage engine.pc = .opening → engine.forceFullReconnect = true)
    (hafter : stage (engine.recoveryStep ok more).pc = .opening) :
    (engine.recoveryStep ok more).forceFullReconnect = true := by
  have hleads := leads_recoveryStep engine ok more
  have hforce := forceFullReconnect_kept engine ok more
  rw [hafter] at hleads
  cases hstage : stage engine.pc <;> rw [hstage] at hleads hforce hforced <;>
    simp only [Leads] at hleads <;> grind

end Recovery

section Steps

variable {state : State}

theorem engine_recoveryStep (state : State) (ok more : Bool) :
    (state.recoveryStep ok more).engine = state.engine.recoveryStep ok more ∧
      (state.recoveryStep ok more).forced = state.forced := by
  unfold State.recoveryStep
  dsimp only
  split
  case h_5 => split <;> exact ⟨rfl, rfl⟩
  all_goals exact ⟨rfl, rfl⟩

theorem request_recoveryStep {ok more : Bool}
    (hrequest : (state.recoveryStep ok more).request ≠ none) :
    state.request ≠ none ∧ state.engine.pc ≠ .exhaustedEvent := by
  unfold State.recoveryStep at hrequest
  dsimp only at hrequest
  split at hrequest
  case h_4 =>
    rename_i hpc
    refine ⟨?_, by simp [hpc]⟩
    intro hnone
    simp [hnone] at hrequest
  case h_5 =>
    rename_i hpc
    refine ⟨?_, by simp [hpc]⟩
    intro hnone
    split at hrequest <;> simp [hnone] at hrequest
  case h_6 => simp at hrequest
  case h_7 => exact ⟨hrequest, by assumption⟩
  all_goals exact ⟨hrequest, by simp [*]⟩

theorem prepared_recoveryStep {ok more : Bool}
    (hprepared : (state.recoveryStep ok more).fullReconnectPrepared = true) :
    state.engine.pc ≠ .reconnectedSet ∧
      (state.fullReconnectPrepared = true ∨
        (state.engine.pc = .beginReconnecting ∧ state.forced = true) ∨
        state.engine.pc = .reconnectingEvent) := by
  unfold State.recoveryStep at hprepared
  dsimp only at hprepared
  split at hprepared
  case h_1 =>
    rename_i hpc
    refine ⟨by simp [hpc], ?_⟩
    rcases Bool.or_eq_true_iff.1 hprepared with hbefore | hforced
    · exact Or.inl hbefore
    · exact Or.inr (Or.inl ⟨hpc, hforced⟩)
  case h_2 =>
    rename_i hpc
    exact ⟨by simp [hpc], Or.inr (Or.inr hpc)⟩
  case h_3 => simp at hprepared
  case h_5 =>
    rename_i hpc
    refine ⟨by simp [hpc], Or.inl ?_⟩
    split at hprepared <;> exact hprepared
  case h_7 => exact ⟨by assumption, Or.inl hprepared⟩
  all_goals exact ⟨by simp [*], Or.inl hprepared⟩

theorem Core.recoveryStep (h : Core state) (hstop : state.engine.recoveryStop = false)
    {ok more : Bool} (hheard : Heard state (.engine (.recovery ok more))) :
    Core (state.recoveryStep ok more) := by
  obtain ⟨hengine, hforced⟩ := engine_recoveryStep state ok more
  have hroomState := roomState_recoveryStep state.engine ok more
  constructor
  · rw [hengine]
    exact progress_recoveryStep state.engine ok more h.progress
  · rw [hengine, hroomState]
    exact room_roomAfter h.room
  · rw [hengine, hroomState]
    exact told_recoveryStep ok more h.room h.told
  · rw [hengine, hforced]
    exact fun hf => forced_recoveryStep ok more (h.forced hf)
  · intro hrequest
    obtain ⟨hbefore, hend⟩ := request_recoveryStep hrequest
    rw [hengine]
    exact heeds_recoveryStep ok more hstop (h.request hbefore) (fun hpc => hheard hpc hbefore) hend
  · intro hprepared
    obtain ⟨hset, hcause⟩ := prepared_recoveryStep hprepared
    rw [hengine, hroomState]
    refine reattaches_recoveryStep ok more hstop h.told ?_ hset
    rcases hcause with hbefore | ⟨hpc, hf⟩ | hpc
    · exact h.prepared hbefore
    · right
      have hopening : stage state.engine.pc = .opening := by rw [hpc]; rfl
      rw [reattaches, hopening]
      exact h.forced hf hopening
    · right
      rw [reattaches, hpc]
      rfl

end Steps

/-! ## 4. A step of another thread -/

/-- What a step of another thread leaves of the recovery, unless it begins one or is
    `ConnectedEvent`. -/
structure Aside (engine after : Recovery.State) : Prop where
  pc : after.pc = engine.pc
  progress : after.recoveryInProgress = engine.recoveryInProgress
  stop : after.recoveryStop = engine.recoveryStop
  force : engine.forceFullReconnect = true → after.forceFullReconnect = true
  closed : closed engine.roomState = true → closed after.roomState = true
  room : after.roomState = engine.roomState ∨ after.roomState = .reconnecting ∨
    RecoveryStages.closed after.roomState = true

section Aside

variable {engine after : Recovery.State} {state : State}

theorem Aside.heeds (h : Aside engine after) (hheeds : heeds engine = true) :
    ForcedReconnect.heeds after = true := by
  unfold ForcedReconnect.heeds at hheeds ⊢
  rw [h.pc]
  split at hheeds
  · exact h.force hheeds
  · exact h.force hheeds
  · rfl
  · rfl
  · simp at hheeds

theorem Aside.reattaches (h : Aside engine after) (hbefore : reattaches engine = true) :
    ForcedReconnect.reattaches after = true := by
  unfold ForcedReconnect.reattaches at hbefore ⊢
  rw [h.pc]
  split at hbefore
  · exact h.force hbefore
  · exact h.force hbefore
  · rfl
  · rfl
  · rfl
  · rfl
  · simp at hbefore

theorem Core.aside (h : Core state) (haside : Aside state.engine after) :
    Core { state with engine := after } where
  progress := by
    rw [haside.progress, haside.pc]
    exact h.progress
  room := by
    rcases haside.room with hroom | hroom | hroom
    · rcases h.room with hbefore | hbefore | hbefore
      · exact Or.inl (hroom.trans hbefore)
      · exact Or.inr (Or.inl (hroom.trans hbefore))
      · exact Or.inr (Or.inr (haside.closed hbefore))
    · exact Or.inr (Or.inl hroom)
    · exact Or.inr (Or.inr hroom)
  told := by
    intro htold
    have hbefore : ForcedReconnect.told state.engine = true := by
      rwa [ForcedReconnect.told, haside.pc] at htold
    rcases haside.room with hroom | hroom | hroom
    · exact (h.told hbefore).imp hroom.trans haside.closed
    · exact Or.inl hroom
    · exact Or.inr hroom
  forced := by
    intro hforced hstage
    rw [haside.pc] at hstage
    exact haside.force (h.forced hforced hstage)
  request := fun hrequest => haside.heeds (h.request hrequest)
  prepared := fun hprepared => (h.prepared hprepared).imp haside.closed haside.reattaches

theorem Aside.refl (engine : Recovery.State) : Aside engine engine :=
  ⟨rfl, rfl, rfl, id, id, Or.inl rfl⟩

theorem aside_calls (engine : Recovery.State) (calls : List Call) :
    Aside engine { engine with calls := calls } := { Aside.refl engine with }

theorem aside_transition (engine : Recovery.State) (calls : List Call) :
    Aside engine
      ({ engine with calls := calls }.transition .connected .reconnecting) := by
  unfold Recovery.State.transition
  split
  · rename_i hconnected
    refine { Aside.refl engine with closed := ?_, room := Or.inr (Or.inl rfl) }
    intro hclosed
    rw [show engine.roomState = .connected from hconnected] at hclosed
    simp [RecoveryStages.closed] at hclosed
  · exact aside_calls engine calls

theorem aside_signalDisconnectedEvent (engine : Recovery.State) (i : Nat) :
    Aside engine
      ((engine.signalDisconnectedEvent.record .signalDisconnectedEvent).leaveCall i) := by
  have hroom : Aside engine engine.signalDisconnectedEvent := by
    unfold Recovery.State.signalDisconnectedEvent
    split
    · exact .refl engine
    · exact { Aside.refl engine with closed := fun _ => rfl, room := Or.inr (Or.inr rfl) }
  generalize engine.signalDisconnectedEvent = after at hroom ⊢
  exact ⟨hroom.pc, hroom.progress, hroom.stop, hroom.force, hroom.closed, hroom.room⟩

theorem aside_enter (engine : Recovery.State) (call : Call) : Aside engine (engine.enter call) :=
  aside_calls engine _

theorem aside_startRecovery (engine : Recovery.State) (force : Bool) :
    Aside engine (engine.startRecovery force) := by
  unfold Recovery.State.startRecovery
  split
  · exact .refl engine
  · exact aside_enter engine _

/-- Of the acts of the other threads only a call that is under way does anything to the
    recovery or to the room. -/
theorem aside_step (engine : Recovery.State) (act : Recovery.Act)
    (hrecovery : ∀ ok more, act ≠ .recovery ok more) (hcall : ∀ i, act ≠ .call i) :
    Aside engine (engine.step act) := by
  cases act with
  | recovery ok more => exact absurd rfl (hrecovery ok more)
  | call i => exact absurd rfl (hcall i)
  | leave => exact { Aside.refl engine with }
  | startRecovery force => exact aside_startRecovery engine force
  | tokenRefresh => exact { Aside.refl engine with }
  | close =>
    simp only [Recovery.State.step, Recovery.State.onClose]
    split
    · exact aside_startRecovery engine false
    · split
      · exact aside_enter engine _
      · exact .refl engine
  | rtcConnected =>
    simp only [Recovery.State.step, Recovery.State.onConnected]
    split
    · exact { Aside.refl engine with }
    · exact .refl engine
  | answer =>
    simp only [Recovery.State.step, Recovery.State.onAnswer]
    split
    · exact aside_enter engine _
    · exact .refl engine

end Aside

section Calls

variable {state : State}

/-- The exchange begins a recovery, or leaves the request to the one there is. -/
theorem Core.exchange (h : Core state) (i : Nat) {force : Bool}
    (hheard : CallHeard state (.exchange force)) : Core (state.exchange i force) := by
  unfold State.exchange
  dsimp only
  split
  · rename_i hidle
    have hdone : stage state.engine.pc = .done := by
      by_contra hother
      rw [h.progress.2 hother] at hidle
      simp at hidle
    have hengine : state.engine.exchange i force =
        { state.engine with recoveryInProgress := true, pc := .beginRecovering }.leaveCall i := by
      rw [Recovery.State.exchange, if_pos hidle]
    rw [hengine]
    constructor
    · exact ⟨fun _ => by simp [stage, Recovery.State.leaveCall], fun _ => rfl⟩
    · exact h.room
    · intro htold
      exact absurd htold (by simp [ForcedReconnect.told, stage, Recovery.State.leaveCall])
    · intro hforce _
      have hforce' : force = true := hforce
      subst hforce'
      rw [Bool.not_eq_true'] at hidle
      have hflag : state.engine.forceFullReconnect = true := by
        simpa [CallHeard, hidle] using hheard
      exact hflag
    · intro hrequest
      have hheeds := h.request hrequest
      simp [heeds, hdone] at hheeds
    · intro hprepared
      rcases h.prepared hprepared with hclosed | hbefore
      · exact Or.inl hclosed
      · simp [reattaches, hdone] at hbefore
  · rename_i hbusy
    have haside : Aside state.engine (state.engine.exchange i force) := by
      rw [Recovery.State.exchange, if_neg hbusy]
      split
      · exact aside_calls state.engine _
      · exact aside_calls state.engine _
    split
    · rename_i hrequest
      rw [Bool.and_eq_true, Bool.not_eq_true'] at hrequest
      obtain ⟨rfl, hended⟩ := hrequest
      have hbusy' : state.engine.recoveryInProgress = true := by simpa using hbusy
      have hheeds : heeds state.engine = true := by
        simpa [CallHeard, hbusy', hended] using hheard
      exact { h.aside haside with request := fun _ => haside.heeds hheeds }
    · exact h.aside haside

theorem Core.connectedEvent (h : Core state) (i : Nat) (hheard : CallHeard state .connectedEvent) :
    Core { state with engine := { state.engine.leaveCall i with roomState := .connected } } := by
  obtain ⟨htold, hprepared⟩ := hheard
  constructor
  · exact h.progress
  · exact Or.inl rfl
  · intro hnow
    have hnow' : ForcedReconnect.told state.engine = true := hnow
    rw [htold] at hnow'
    cases hnow'
  · exact h.forced
  · exact h.request
  · intro hnow
    rcases h.prepared hnow with hclosed | hbefore
    · rw [hprepared hnow] at hclosed
      simp [closed] at hclosed
    · exact Or.inr hbefore

theorem Core.callStep (h : Core state) {i : Nat} (hheard : Heard state (.engine (.call i))) :
    Core (state.callStep i) := by
  unfold State.callStep
  split
  · rename_i force hcall
    exact h.exchange i (hheard _ hcall)
  · rename_i hcall
    obtain ⟨-, hreattaches⟩ : CallHeard state .reconnectingEvent := hheard _ hcall
    have haside : Aside state.engine (state.engine.callStep i) := by
      rw [Recovery.State.callStep, hcall]
      exact aside_transition state.engine _
    exact { h.aside haside with
      prepared := fun _ => hreattaches.imp haside.closed haside.reattaches }
  · rename_i hexchange hreconnecting
    unfold Recovery.State.callStep
    split
    · exact h
    · exact h.aside { Aside.refl state.engine with force := fun _ => rfl }
    · rename_i force hcall
      exact absurd hcall (hexchange force)
    · rename_i hcall
      exact absurd hcall hreconnecting
    · exact h.aside (aside_signalDisconnectedEvent state.engine i)
    · split
      · exact h.aside (aside_calls state.engine _)
      · exact h.aside (aside_calls state.engine _)
    · rename_i hcall
      exact h.connectedEvent i (hheard _ hcall)
    · exact h.aside { Aside.refl state.engine with }

end Calls

/-! ## 5. Runs -/

def Step (state : State) (act : Act) (after : State) : Prop := after = state.step act

theorem engine_callStep (state : State) (i : Nat) :
    (state.callStep i).engine = state.engine.callStep i := by
  unfold State.callStep
  split
  · rename_i force hcall
    rw [Recovery.State.callStep, hcall, State.exchange]
    dsimp only
    split
    · rfl
    · split <;> rfl
  · rfl
  · rfl

theorem stop_callStep (engine : Recovery.State) (i : Nat) :
    (engine.callStep i).recoveryStop = engine.recoveryStop := by
  unfold Recovery.State.callStep
  split
  · rfl
  · rfl
  · unfold Recovery.State.exchange
    split
    · rfl
    · split <;> rfl
  · exact (aside_transition engine _).stop
  · exact (aside_signalDisconnectedEvent engine i).stop
  · split <;> rfl
  · rfl
  · rfl

/-- Nothing takes a stop back. -/
theorem stop_step {state : State} (hstop : state.engine.recoveryStop = true) (act : Act) :
    (state.step act).engine.recoveryStop = true := by
  cases act with
  | stop => rfl
  | engine act =>
    cases act with
    | recovery ok more =>
      rw [State.step, (engine_recoveryStep state ok more).1,
        (state.engine.recoveryStep_frame ok more).1]
      exact hstop
    | call i =>
      rw [State.step, engine_callStep, stop_callStep]
      exact hstop
    | _ => exact (aside_step state.engine _ (by simp) (by simp)).stop.trans hstop

theorem Core.step {state : State} (h : Core state) (hstop : state.engine.recoveryStop = false)
    {act : Act} (hheard : Heard state act) :
    (state.step act).engine.recoveryStop = true ∨ Core (state.step act) := by
  cases act with
  | stop => exact Or.inl rfl
  | engine act =>
    right
    cases act with
    | recovery ok more => exact h.recoveryStep hstop hheard
    | call i => exact h.callStep hheard
    | _ => exact h.aside (aside_step state.engine _ (by simp) (by simp))

def Inv (state : State) : Prop := state.engine.recoveryStop = true ∨ Core state

theorem Inv.step {state after : State} {act : Act} (h : Inv state)
    (hstep : Guarded Heard Step state act after) : Inv after := by
  obtain ⟨hheard, rfl⟩ := hstep
  cases hstop : state.engine.recoveryStop with
  | true => exact Or.inl (stop_step hstop act)
  | false =>
    have hcore : Core state := h.resolve_left (by simp [hstop])
    exact hcore.step hstop hheard

/-- A room that is connected, with no recovery under way. -/
structure Started (state : State) : Prop where
  pc : state.engine.pc = .done
  progress : state.engine.recoveryInProgress = false
  room : state.engine.roomState = .connected
  request : state.request = none
  prepared : state.fullReconnectPrepared = false

theorem Started.core {state : State} (hstart : Started state) : Core state := by
  have hdone : stage state.engine.pc = .done := by rw [hstart.pc]; rfl
  constructor
  · simp [hstart.progress, hdone]
  · exact Or.inl hstart.room
  · simp [ForcedReconnect.told, hdone]
  · simp [hdone]
  · simp [hstart.request]
  · simp [hstart.prepared]

/-- **A full reconnect that was asked for is not lost**: a request that was left to a
    recovery is dealt with while that is in progress, and the tracks of a room that
    is still open are off their transceivers only as long as it is; in every run in which
    each request is heard. -/
theorem request_not_lost {start state : State} {acts : List Act} (hstart : Started start)
    (hrun : Exec (Guarded Heard Step) start acts state) :
    (state.request ≠ none →
        state.engine.recoveryInProgress = true ∨ state.engine.recoveryStop = true) ∧
      (state.fullReconnectPrepared = true →
        state.engine.recoveryInProgress = true ∨ closed state.engine.roomState = true ∨
          state.engine.recoveryStop = true) := by
  have hinv : Inv state :=
    hrun.invariant (fun _ _ _ hbefore hstep => hbefore.step hstep) (Or.inr hstart.core)
  rcases hinv with hstop | hcore
  · exact ⟨fun _ => Or.inr hstop, fun _ => Or.inr (Or.inr hstop)⟩
  constructor
  · intro hrequest
    refine Or.inl (hcore.progress.2 ?_)
    intro hdone
    have hheeds := hcore.request hrequest
    simp [heeds, hdone] at hheeds
  · intro hprepared
    rcases hcore.prepared hprepared with hclosed | hbefore
    · exact Or.inr (Or.inl hclosed)
    · refine Or.inl (hcore.progress.2 ?_)
      intro hdone
      simp [reattaches, hdone] at hbefore

instance (state : State) : (call : Call) → Decidable (CallHeard state call)
  | .exchange true => inferInstanceAs (Decidable (if state.engine.recoveryInProgress then
      state.ended = true ∨ heeds state.engine = true else state.engine.forceFullReconnect = true))
  | .reconnectingEvent => inferInstanceAs (Decidable (state.engine.pc ≠ .reconnectedSet ∧
      (closed state.engine.roomState = true ∨ reattaches state.engine = true)))
  | .connectedEvent => inferInstanceAs (Decidable (told state.engine = false ∧
      (state.fullReconnectPrepared = true → state.engine.roomState = .connected)))
  | .storeForce | .exchange false | .signalDisconnectedEvent | .connectedCheck | .noteAnswer =>
    .isTrue trivial

instance (state : State) : (act : Act) → Decidable (Heard state act)
  | .engine (.call i) => inferInstanceAs (Decidable
      (∀ call ∈ state.engine.calls[i]?, CallHeard state call))
  | .engine (.recovery _ _) => inferInstanceAs (Decidable (state.engine.pc = .connectWait →
      state.request ≠ none → state.engine.rtcConnected = false))
  | .engine .leave | .engine .close | .engine (.startRecovery _) | .engine .rtcConnected
  | .engine .answer | .engine .tokenRefresh | .stop => .isTrue trivial

/-- The signal connection closes, and the media fails while it is being resumed. -/
def forcedInResume : List Act :=
  List.flatten [[.engine .close, .engine (.call 0)],
    List.replicate 12 (.engine (.recovery true true)),
    [.engine (.startRecovery true), .engine (.call 0), .engine (.call 0), .engine (.call 0)],
    List.replicate 18 (.engine (.recovery true true)), [.engine .rtcConnected, .engine (.call 0)],
    List.replicate 7 (.engine (.recovery true true))]

theorem request_not_lost_forcedInResume :
    ((forcedInResume.foldl State.step {}).request ≠ none →
        (forcedInResume.foldl State.step {}).engine.recoveryInProgress = true ∨
          (forcedInResume.foldl State.step {}).engine.recoveryStop = true) ∧
      ((forcedInResume.foldl State.step {}).fullReconnectPrepared = true →
        (forcedInResume.foldl State.step {}).engine.recoveryInProgress = true ∨
          closed (forcedInResume.foldl State.step {}).engine.roomState = true ∨
          (forcedInResume.foldl State.step {}).engine.recoveryStop = true) := by
  apply @request_not_lost {} _ forcedInResume
  · exact ⟨rfl, rfl, rfl, rfl, rfl⟩
  · exact exec_guarded (by decide +kernel)

/-- The media fails when the recovery has looked at the flag for the last time. -/
def forcedAfterResume : List Act :=
  List.flatten [[.engine .close, .engine (.call 0)],
    List.replicate 20 (.engine (.recovery true false)),
    [.engine (.startRecovery true), .engine (.call 0), .engine (.call 0)],
    List.replicate 3 (.engine (.recovery true false)), [.engine (.call 0)]]

/-- The recovery ends with `ResumedEvent`; then the room takes its tracks off their
    transceivers, and nobody is left to reconnect. -/
theorem forcedAfterResume_lost :
    ¬ ∀ (start : State) (acts : List Act) (state : State), Started start →
      Exec Step start acts state →
        (state.request ≠ none →
            state.engine.recoveryInProgress = true ∨ state.engine.recoveryStop = true) ∧
          (state.fullReconnectPrepared = true →
            state.engine.recoveryInProgress = true ∨ closed state.engine.roomState = true ∨
              state.engine.recoveryStop = true) := by
  intro hall
  obtain ⟨hrequest, hprepared⟩ := hall {} forcedAfterResume _ ⟨rfl, rfl, rfl, rfl, rfl⟩
    (exec_foldl State.step {} forcedAfterResume)
  have hlost : (forcedAfterResume.foldl State.step {}).request = some .waiting ∧
      (forcedAfterResume.foldl State.step {}).fullReconnectPrepared = true ∧
      (forcedAfterResume.foldl State.step {}).engine.recoveryInProgress = false ∧
      (forcedAfterResume.foldl State.step {}).engine.recoveryStop = false ∧
      (forcedAfterResume.foldl State.step {}).engine.roomState = .reconnecting := by
    decide +kernel
  obtain ⟨hwaiting, hdetached, hidle, hstop, hroom⟩ := hlost
  rcases hrequest (by simp [hwaiting]) with hbusy | hstopped
  · simp [hidle] at hbusy
  · simp [hstop] at hstopped

end LivekitClient.ForcedReconnect
