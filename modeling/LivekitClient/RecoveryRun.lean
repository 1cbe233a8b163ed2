/-
  LivekitClient/RecoveryRun.lean
  ==============================
  **One run of `RunRecovery`**, among whatever the other threads do meanwhile.

  The thread of `Recovery.lean` reads and writes a handful of fields that others write
  too.  Here the others may do anything with them between two steps of the thread.  The
  calls of the transport may throw: the only handler of `RunRecovery` is around the policy,
  so an exception is the end of the thread.  And `room_listener_` may be gone when there is
  something to tell.

  What the run does shows in a trace: the queries of the reconnect policy and how it
  answers, the calls of `ConnectTransport`, each look at the flag that finds it set, and
  the events for the room.
-/
import LivekitClient.Recovery
import LivekitClient.Traces

namespace LivekitClient.RecoveryRun

open Runs
open LivekitClient.Recovery (Pc State)

/-! ## 1. What a step does for all to see -/

/-- `refused` is an answer without a delay or an exception, `connected` an attempt that
    succeeded, `stopObserved` a look at `recovery_stop_` that finds it set. -/
inductive Entry where
  | resumeTransport
  | query (retryCount : Nat)
  | refused
  | connectTransport
  | connected
  | stopObserved
  | resumedEvent
  | reconnectedEvent
  | signalDisconnectedEvent
deriving DecidableEq

namespace Entry

/-- A query of the policy, or an attempt. -/
def isCall : Entry → Bool
  | .query _ | .connectTransport => true
  | _ => false

/-- An event that tells the room how the recovery went. -/
def isOutcome : Entry → Bool
  | .resumedEvent | .reconnectedEvent | .signalDisconnectedEvent => true
  | _ => false

/-- What no query and no attempt may follow. -/
def isFinal : Entry → Bool
  | .refused | .connected | .stopObserved => true
  | entry => entry.isOutcome

end Entry

/-- The next step of the thread looks at `recovery_stop_`. -/
def readsStop (state : State) : Bool :=
  match state.pc with
  | .checkStop | .resumeCheckStop | .resumeWait | .reconnectingCheckStop | .delayWait
  | .delayCheckStop | .connectCheckStop | .connectWait | .exhaustedCheckStop => true
  | .resumeEnd connected => connected
  | .loopHead => decide (state.attempt < state.attempts)
  | _ => false

def observed (state : State) : List Entry :=
  if readsStop state && state.recoveryStop then [.stopObserved] else []

/-- What the next step of the thread puts into the trace. -/
def entries (state : State) (ok : Bool) : List Entry :=
  match state.pc with
  | .readToken => if state.hasUrl && state.hasToken then [.resumeTransport] else []
  | .nextRetryDelay =>
    if ok then [.query state.attempt] else [.query state.attempt, .refused]
  | .fullReadToken => if state.hasUrl && state.hasToken then [.connectTransport] else []
  | .connectWait =>
    if state.rtcConnected && !state.recoveryStop then [.connected] else observed state
  | .resumedEvent => [.resumedEvent]
  | .reconnectedCheck => [.reconnectedEvent]
  | .exhaustedEvent => [.signalDisconnectedEvent]
  | _ => observed state

/-! ## 2. The phases of a run -/

/-- `opening` is `StartRecovery`, before the run; then `before` the loop, at its `head`,
    about to `query` the policy, `waiting` out a delay, `granted` an attempt, `connecting`,
    `deciding` how the run went, and `ended`. -/
inductive Phase where
  | opening
  | before
  | head
  | query
  | waiting
  | granted
  | connecting
  | deciding
  | ended
deriving DecidableEq

def phase : Pc → Phase
  | .beginRecovering | .beginClearConnected | .beginReconnecting => .opening
  | .loopHead => .head
  | .nextRetryDelay => .query
  | .delayWait | .delayCheckStop => .waiting
  | .clearConnected | .resetSignal | .resetSession | .fullReadToken => .granted
  | .connectCreate | .connectSignal | .connectJoin | .connectCheckStop | .connectSession
  | .connectWait => .connecting
  | .resumedEvent | .finished _ | .reconnectedCheck | .exhaustedCheckStop
  | .exhaustedResetSignal | .exhaustedResetSession | .exhaustedDisallow | .exhaustedEvent =>
    .deciding
  | .resumedClearRecovering | .resumedClearProgress | .reconnectedSet | .clearForceFull
  | .clearRecovering | .clearProgress | .done => .ended
  | _ => .before

/-- Neither a call nor an outcome. -/
def Silent (out : List Entry) : Prop :=
  ∀ entry ∈ out, entry.isCall = false ∧ entry.isOutcome = false

@[simp]
theorem silent_nil : Silent [] := fun _ hmem => absurd hmem List.not_mem_nil

theorem silent_observed (state : State) : Silent (observed state) := by
  unfold observed
  split
  · intro entry hmem
    rw [List.mem_singleton.1 hmem]
    exact ⟨rfl, rfl⟩
  · exact silent_nil

/-- What a step of the thread can do, with what it puts into the trace. -/
inductive Advance (state after : State) : List Entry → Prop where
  | stay {out : List Entry} : phase after.pc = phase state.pc →
      phase state.pc ∈ [.before, .waiting, .granted, .connecting, .deciding, .ended] →
      after.attempt = (if state.pc = .start then 0 else state.attempt) → Silent out →
      Advance state after out
  | enter {out : List Entry} : phase state.pc = .before → phase after.pc = .head →
      state.pc ≠ .start → after.attempt = state.attempt → Silent out →
      Advance state after out
  | resume {out : List Entry} : phase state.pc = .before → phase after.pc = .deciding →
      Silent out → Advance state after out
  | ask {out : List Entry} : phase state.pc = .head → phase after.pc = .query →
      after.attempt = state.attempt → state.attempt < state.attempts →
      state.recoveryStop = false → Silent out → Advance state after out
  | leave {out : List Entry} : phase state.pc ∈ [.head, .waiting, .granted, .connecting] →
      phase after.pc = .deciding → Silent out → Advance state after out
  | grant : phase state.pc = .query → phase after.pc ∈ [.waiting, .granted] →
      after.attempt = state.attempt → Advance state after [.query state.attempt]
  | refuse : phase state.pc = .query → phase after.pc = .deciding →
      Advance state after [.query state.attempt, .refused]
  | go {out : List Entry} : phase state.pc = .waiting → phase after.pc = .granted →
      after.attempt = state.attempt → state.recoveryStop = false → Silent out →
      Advance state after out
  | connect : phase state.pc = .granted → phase after.pc = .connecting →
      after.attempt = state.attempt → Advance state after [.connectTransport]
  | retry {out : List Entry} : phase state.pc = .connecting → phase after.pc = .head →
      after.attempt = state.attempt + 1 → Silent out → Advance state after out
  | report {outcome : Entry} : phase state.pc = .deciding → phase after.pc = .ended →
      outcome.isOutcome = true → outcome.isCall = false → Advance state after [outcome]
  | stopped {out : List Entry} : phase state.pc ∈ [.before, .connecting, .deciding] →
      phase after.pc = .ended → state.recoveryStop = true → Silent out → Advance state after out

theorem silent_singleton {entry : Entry} (hcall : entry.isCall = false)
    (houtcome : entry.isOutcome = false) : Silent [entry] := by
  intro other hmem
  rw [List.mem_singleton.1 hmem]
  exact ⟨hcall, houtcome⟩

theorem advance_recoveryStep {state : State} (hrun : phase state.pc ≠ .opening)
    (ok more : Bool) : Advance state (state.recoveryStep ok more) (entries state ok) := by
  have hobserved := silent_observed state
  cases hpc : state.pc <;>
    simp only [State.recoveryStep, State.resumeStep, State.connectStep, State.loopStep,
      State.outerStep, hpc, entries, State.goto, State.record,
      State.transition, State.signalDisconnectedEvent, State.nextAttempt] <;>
    (repeat' split) <;>
    try solve
    | exact absurd rfl (hpc ▸ hrun)
    | apply Advance.stay <;> simp [hpc, phase, hobserved]
    | apply Advance.leave <;> simp [hpc, phase, hobserved]
    | apply Advance.enter <;> simp [hpc, phase, hobserved]
    | apply Advance.resume <;> simp [hpc, phase, hobserved]
    | apply Advance.retry <;> simp [hpc, phase, hobserved]
    | apply Advance.connect <;> simp [hpc, phase]
    | apply Advance.report <;> simp [hpc, phase, Entry.isOutcome, Entry.isCall]
    | apply Advance.refuse <;> simp [hpc, phase]
    | apply Advance.grant <;> simp [hpc, phase]
  case readToken.isTrue =>
    exact .stay (by rw [hpc]; rfl) (by rw [hpc]; decide) (by rw [hpc]; rfl)
      (silent_singleton rfl rfl)
  case loopHead.isTrue hguard =>
    simp only [Bool.and_eq_true, decide_eq_true_eq, Bool.not_eq_true'] at hguard
    apply Advance.ask <;> simp [hpc, phase, hguard, hobserved]
  case delayCheckStop.isFalse hgoes =>
    apply Advance.go <;> simp [hpc, phase, hgoes, hobserved]
  case connectWait.isTrue =>
    exact .leave (by rw [hpc]; decide) rfl (silent_singleton rfl rfl)
  case exhaustedCheckStop.isTrue hstop =>
    apply Advance.stopped <;> simp [hpc, phase, hstop, hobserved]

/-- The number of attempts and the flag are not the thread's to change. -/
theorem recoveryStep_attempts (state : State) (ok more : Bool) :
    (state.recoveryStep ok more).attempts = state.attempts := by
  cases hpc : state.pc <;>
    simp only [State.recoveryStep, State.resumeStep, State.connectStep, State.loopStep,
      State.outerStep, hpc, State.transition, State.signalDisconnectedEvent] <;>
    (repeat' split) <;> rfl

/-! ## 3. Runs -/

/-- The thread is in a call of the transport that may throw: `SignalClient::Create`, `Resume`
    and `Connect`, the offer of `RestartPublisherIce`, or `RtcSession::Create`. -/
def mayThrow : Pc → Bool
  | .resumeCreate | .resumeSignal | .resumeRestartIce | .connectCreate | .connectJoin
  | .connectSession => true
  | _ => false

/-- The thread is about to tell the listener. -/
def tells : Pc → Bool
  | .reconnectingEvent | .resumedEvent | .reconnectedCheck | .exhaustedEvent => true
  | _ => false

/-- The thread finds `room_listener_` null. -/
def unheard (state : State) : State :=
  match state.pc with
  | .reconnectingEvent => state.goto .loopHead
  | .resumedEvent => state.goto .resumedClearRecovering
  | .reconnectedCheck | .exhaustedEvent => state.goto .clearForceFull
  | _ => state

/-- What the other threads may do between two steps of the thread. -/
def Interferes (state after : State) : Prop :=
  after.pc = state.pc ∧ after.attempts = state.attempts ∧ after.attempt = state.attempt

/-- A step of the thread, which may end in an exception or find no listener, or a step of
    the others. -/
inductive Act where
  | thread (ok more : Bool)
  | threw
  | unheard
  | others (after : State)

/-- How far a run has come; `steps` are those of the thread. -/
structure Progress where
  state : State
  trace : List Entry := []
  steps : Nat := 0

namespace Progress

def step (run : Progress) : Act → Progress
  | .thread ok more =>
    { state := run.state.recoveryStep ok more
      trace := run.trace ++ entries run.state ok
      steps := run.steps + 1 }
  | .threw => { run with state := run.state.goto .done, steps := run.steps + 1 }
  | .unheard => { run with state := RecoveryRun.unheard run.state, steps := run.steps + 1 }
  | .others after => { run with state := after }

def Enabled (run : Progress) : Act → Prop
  | .thread _ _ => True
  | .threw => mayThrow run.state.pc = true
  | .unheard => tells run.state.pc = true
  | .others after => Interferes run.state after

def Step : Progress → Act → Progress → Prop :=
  Guarded Enabled fun before act after => after = before.step act

/-- **The condition**: no call of the transport throws and no outcome finds the listener
    gone, unless the thread has been told to stop, and a request to stop is not taken back. -/
def Sound (run : Progress) : Act → Prop
  | .thread _ _ => True
  | .threw => run.state.recoveryStop = true
  | .unheard => run.state.pc ≠ .reconnectingEvent → run.state.recoveryStop = true
  | .others after => run.state.recoveryStop = true → after.recoveryStop = true

instance (run : Progress) : DecidablePred (Enabled run)
  | .thread _ _ => inferInstanceAs (Decidable True)
  | .threw => inferInstanceAs (Decidable (_ = _))
  | .unheard => inferInstanceAs (Decidable (_ = _))
  | .others _ => inferInstanceAs (Decidable (_ ∧ _ ∧ _))

instance (run : Progress) : DecidablePred (Sound run)
  | .thread _ _ => inferInstanceAs (Decidable True)
  | .threw => inferInstanceAs (Decidable (_ = _))
  | .unheard => inferInstanceAs (Decidable (_ → _))
  | .others _ => inferInstanceAs (Decidable (_ → _))

end Progress

/-- `RunRecovery` has read its options. -/
structure Starts (joinRetries : Nat) (state : State) : Prop where
  pc : state.pc = .start
  attempts : state.attempts = max 1 joinRetries

theorem advance_threw {state : State} (hthrows : mayThrow state.pc = true)
    (hstop : state.recoveryStop = true) : Advance state (state.goto .done) [] := by
  refine .stopped ?_ rfl hstop silent_nil
  cases hpc : state.pc <;> rw [hpc] at hthrows <;>
    first
    | exact absurd hthrows Bool.false_ne_true
    | exact of_decide_eq_true rfl

theorem advance_unheard {state : State} (htells : tells state.pc = true)
    (hstop : state.pc ≠ .reconnectingEvent → state.recoveryStop = true) :
    Advance state (unheard state) [] := by
  cases hpc : state.pc <;> rw [hpc] at htells <;> try exact absurd htells Bool.false_ne_true
  case reconnectingEvent =>
    apply Advance.enter <;> simp [unheard, hpc, phase, State.goto]
  all_goals
    have hset := hstop (by rw [hpc]; exact Pc.noConfusion)
    apply Advance.stopped <;> simp [unheard, hpc, phase, State.goto, hset]

/-! ## 4. Queries and attempts -/

/-- The calls of so many rounds that went as far as an attempt. -/
def rounds (count : Nat) : List Entry :=
  (List.range count).flatMap fun i => [.query i, .connectTransport]

def calls (trace : List Entry) : List Entry := trace.filter Entry.isCall

theorem rounds_succ (count : Nat) :
    rounds (count + 1) = rounds count ++ [.query count, .connectTransport] := by
  simp [rounds, List.range_succ]

theorem Silent.calls {out : List Entry} (h : Silent out) : calls out = [] := by
  unfold RecoveryRun.calls
  rw [List.filter_eq_nil_iff]
  intro entry hmem
  rw [(h entry hmem).1]
  exact Bool.false_ne_true

theorem calls_append (trace out : List Entry) :
    calls (trace ++ out) = calls trace ++ calls out := List.filter_append ..

/-- Whole rounds, and at the end perhaps a query that no attempt follows. -/
def Obeys (attempts : Nat) (trace : List Entry) : Prop :=
  ∃ count, (count ≤ attempts ∧ calls trace = rounds count) ∨
    (count < attempts ∧ calls trace = rounds count ++ [.query count])

/-- The calls so far, where the thread is. -/
def CallsAt (state : State) (trace : List Entry) : Prop :=
  match phase state.pc with
  | .opening => False
  | .before => calls trace = [] ∧ (state.pc = .start ∨ state.attempt = 0)
  | .head => calls trace = rounds state.attempt ∧ state.attempt ≤ state.attempts
  | .query => calls trace = rounds state.attempt ∧ state.attempt < state.attempts
  | .waiting | .granted =>
    calls trace = rounds state.attempt ++ [.query state.attempt] ∧
      state.attempt < state.attempts
  | .connecting => calls trace = rounds (state.attempt + 1) ∧ state.attempt < state.attempts
  | .deciding | .ended => Obeys state.attempts trace

theorem CallsAt.obeys {state : State} {trace : List Entry} (h : CallsAt state trace) :
    Obeys state.attempts trace := by
  unfold CallsAt at h
  cases hphase : phase state.pc <;> rw [hphase] at h
  case opening => exact h.elim
  case before => exact ⟨0, Or.inl ⟨Nat.zero_le _, h.1⟩⟩
  case head => exact ⟨_, Or.inl ⟨h.2, h.1⟩⟩
  case query => exact ⟨_, Or.inl ⟨Nat.le_of_lt h.2, h.1⟩⟩
  case waiting => exact ⟨_, Or.inr ⟨h.2, h.1⟩⟩
  case granted => exact ⟨_, Or.inr ⟨h.2, h.1⟩⟩
  case connecting => exact ⟨_, Or.inl ⟨h.2, h.1⟩⟩
  case deciding => exact h
  case ended => exact h

theorem Obeys.of_calls {attempts : Nat} {trace longer : List Entry} (h : Obeys attempts trace)
    (hcalls : calls longer = calls trace) : Obeys attempts longer := by
  obtain ⟨count, hcount⟩ := h
  exact ⟨count, by rw [hcalls]; exact hcount⟩

/-- A silent step within a phase. -/
theorem CallsAt.stay {state after : State} {trace out : List Entry} (h : CallsAt state trace)
    (hphase : phase after.pc = phase state.pc) (hattempts : after.attempts = state.attempts)
    (hstays : phase state.pc ∈
      [.before, .waiting, .granted, .connecting, .deciding, .ended])
    (hattempt : after.attempt = if state.pc = .start then 0 else state.attempt)
    (hsilent : Silent out) : CallsAt after (trace ++ out) := by
  have hcalls : calls (trace ++ out) = calls trace := by
    rw [calls_append, hsilent.calls, List.append_nil]
  have hsame : phase state.pc ≠ .before → after.attempt = state.attempt := by
    intro hne
    rw [hattempt, if_neg]
    intro hstart
    rw [hstart] at hne
    exact hne rfl
  unfold CallsAt at h ⊢
  rw [hphase, hattempts]
  cases hat : phase state.pc <;> rw [hat] at h hstays hsame
  case opening => exact h.elim
  case head => exact absurd hstays (by decide)
  case query => exact absurd hstays (by decide)
  case before =>
    refine ⟨hcalls.trans h.1, Or.inr ?_⟩
    rw [hattempt]
    split
    · rfl
    · next hbegun => exact h.2.resolve_left hbegun
  case deciding => exact h.of_calls hcalls
  case ended => exact h.of_calls hcalls
  all_goals
    rw [hsame (by decide)]
    dsimp only
    rw [hcalls]
    exact h

/-- Behind the last attempt only the calls so far count. -/
theorem CallsAt.of_obeys {state : State} {trace : List Entry}
    (h : Obeys state.attempts trace)
    (hphase : phase state.pc = .deciding ∨ phase state.pc = .ended) : CallsAt state trace := by
  unfold CallsAt
  rcases hphase with hphase | hphase
  · rw [hphase]
    exact h
  · rw [hphase]
    exact h

theorem CallsAt.advance {state after : State} {trace out : List Entry}
    (h : CallsAt state trace) (hadvance : Advance state after out)
    (hattempts : after.attempts = state.attempts) : CallsAt after (trace ++ out) := by
  have hsilent : Silent out → calls (trace ++ out) = calls trace := by
    intro hout
    rw [calls_append, hout.calls, List.append_nil]
  cases hadvance with
  | stay hphase hstays hattempt hout => exact h.stay hphase hattempts hstays hattempt hout
  | enter hstate hafter hbegun hattempt hout =>
    unfold CallsAt at h ⊢
    rw [hstate] at h
    rw [hafter]
    dsimp only at h ⊢
    rw [hsilent hout, hattempt, h.2.resolve_left hbegun]
    exact ⟨h.1, Nat.zero_le _⟩
  | resume hstate hafter hout =>
    refine CallsAt.of_obeys ?_ (Or.inl hafter)
    rw [hattempts]
    exact h.obeys.of_calls (hsilent hout)
  | ask hstate hafter hattempt hless hstop hout =>
    unfold CallsAt at h ⊢
    rw [hstate] at h
    rw [hafter]
    dsimp only at h ⊢
    rw [hsilent hout, hattempt, hattempts]
    exact ⟨h.1, hless⟩
  | leave hstate hafter hout =>
    refine CallsAt.of_obeys ?_ (Or.inl hafter)
    rw [hattempts]
    exact h.obeys.of_calls (hsilent hout)
  | grant hstate hafter hattempt =>
    unfold CallsAt at h ⊢
    rw [hstate] at h
    have hcalls : calls (trace ++ [.query state.attempt]) =
        rounds after.attempt ++ [.query after.attempt] := by
      rw [calls_append, h.1, hattempt]
      rfl
    have hless : after.attempt < after.attempts := by
      rw [hattempt, hattempts]
      exact h.2
    rcases List.mem_cons.1 hafter with hafter | hafter
    · rw [hafter]
      exact ⟨hcalls, hless⟩
    · rw [List.mem_singleton.1 hafter]
      exact ⟨hcalls, hless⟩
  | refuse hstate hafter =>
    unfold CallsAt at h ⊢
    rw [hstate] at h
    rw [hafter, hattempts]
    refine ⟨state.attempt, Or.inr ⟨h.2, ?_⟩⟩
    rw [calls_append, h.1]
    rfl
  | go hstate hafter hattempt hstop hout =>
    unfold CallsAt at h ⊢
    rw [hstate] at h
    rw [hafter]
    dsimp only at h ⊢
    rw [hsilent hout, hattempt, hattempts]
    exact h
  | connect hstate hafter hattempt =>
    unfold CallsAt at h ⊢
    rw [hstate] at h
    rw [hafter]
    dsimp only at h ⊢
    rw [calls_append, h.1, hattempt, hattempts, rounds_succ, List.append_assoc]
    exact ⟨rfl, h.2⟩
  | retry hstate hafter hattempt hout =>
    unfold CallsAt at h ⊢
    rw [hstate] at h
    rw [hafter]
    dsimp only at h ⊢
    rw [hsilent hout, hattempt, hattempts]
    exact h
  | report hstate hafter houtcome hcall =>
    unfold CallsAt at h ⊢
    rw [hstate] at h
    rw [hafter, hattempts]
    apply Obeys.of_calls h
    rw [calls_append]
    simp [calls, hcall]
  | stopped hstate hafter hstop hout =>
    refine CallsAt.of_obeys ?_ (Or.inr hafter)
    rw [hattempts]
    exact h.obeys.of_calls (hsilent hout)

/-! ## 5. The outcome -/

def outcomes (trace : List Entry) : List Entry := trace.filter Entry.isOutcome

theorem outcomes_append (trace out : List Entry) :
    outcomes (trace ++ out) = outcomes trace ++ outcomes out := List.filter_append ..

theorem Silent.outcomes {out : List Entry} (h : Silent out) : outcomes out = [] := by
  unfold RecoveryRun.outcomes
  rw [List.filter_eq_nil_iff]
  intro entry hmem
  rw [(h entry hmem).2]
  exact Bool.false_ne_true

/-- The room has been told once, or not at all for a request to stop. -/
def Told (state : State) (trace : List Entry) : Prop :=
  (∃ outcome, outcomes trace = [outcome]) ∨ (outcomes trace = [] ∧ state.recoveryStop = true)

/-- Only a run that is over has told the room. -/
def OutcomeAt (state : State) (trace : List Entry) : Prop :=
  if phase state.pc = .ended then Told state trace else outcomes trace = []

theorem OutcomeAt.quietly {state after : State} {trace out : List Entry}
    (h : OutcomeAt state trace) (hstate : phase state.pc ≠ .ended)
    (hafter : phase after.pc ≠ .ended) (hout : outcomes out = []) :
    OutcomeAt after (trace ++ out) := by
  unfold OutcomeAt at h ⊢
  rw [if_neg hstate] at h
  rw [if_neg hafter, outcomes_append, h, hout]
  rfl

theorem OutcomeAt.advance {state after : State} {trace out : List Entry}
    (h : OutcomeAt state trace) (hadvance : Advance state after out)
    (hstop : after.recoveryStop = state.recoveryStop) : OutcomeAt after (trace ++ out) := by
  cases hadvance with
  | stay hphase hstays hattempt hout =>
    unfold OutcomeAt Told at h ⊢
    rw [hphase, outcomes_append, hout.outcomes, List.append_nil, hstop]
    exact h
  | enter hstate hafter hbegun hattempt hout =>
    exact h.quietly (by rw [hstate]; decide) (by rw [hafter]; decide) hout.outcomes
  | resume hstate hafter hout =>
    exact h.quietly (by rw [hstate]; decide) (by rw [hafter]; decide) hout.outcomes
  | ask hstate hafter hattempt hless hstop hout =>
    exact h.quietly (by rw [hstate]; decide) (by rw [hafter]; decide) hout.outcomes
  | leave hstate hafter hout =>
    refine h.quietly ?_ (by rw [hafter]; decide) hout.outcomes
    intro hover
    rw [hover] at hstate
    exact absurd hstate (by decide)
  | grant hstate hafter hattempt =>
    refine h.quietly (by rw [hstate]; decide) ?_ rfl
    intro hover
    rw [hover] at hafter
    exact absurd hafter (by decide)
  | refuse hstate hafter =>
    exact h.quietly (by rw [hstate]; decide) (by rw [hafter]; decide) rfl
  | go hstate hafter hattempt hstop hout =>
    exact h.quietly (by rw [hstate]; decide) (by rw [hafter]; decide) hout.outcomes
  | connect hstate hafter hattempt =>
    exact h.quietly (by rw [hstate]; decide) (by rw [hafter]; decide) rfl
  | retry hstate hafter hattempt hout =>
    exact h.quietly (by rw [hstate]; decide) (by rw [hafter]; decide) hout.outcomes
  | @report outcome hstate hafter houtcome hcall =>
    unfold OutcomeAt at h ⊢
    rw [if_neg (by rw [hstate]; decide)] at h
    rw [if_pos hafter]
    refine Or.inl ⟨outcome, ?_⟩
    rw [outcomes_append, h, List.nil_append]
    exact List.filter_cons_of_pos houtcome
  | stopped hstate hafter hset hout =>
    have hnot : phase state.pc ≠ .ended := by
      intro hover
      rw [hover] at hstate
      exact absurd hstate (by decide)
    unfold OutcomeAt at h ⊢
    rw [if_neg hnot] at h
    rw [if_pos hafter]
    refine Or.inr ⟨?_, hstop.trans hset⟩
    rw [outcomes_append, h, hout.outcomes]
    rfl

/-! ## 6. What no call follows -/

/-- The thread makes no more calls: it has left the loop, or it will see the flag first. -/
def Quiet (state : State) : Prop :=
  phase state.pc = .deciding ∨ phase state.pc = .ended ∨
    (state.recoveryStop = true ∧ phase state.pc ∈ [.before, .head, .waiting, .connecting])

theorem Quiet.advance {state after : State} {out : List Entry} (h : Quiet state)
    (hadvance : Advance state after out) (hstop : after.recoveryStop = state.recoveryStop) :
    calls out = [] ∧ Quiet after := by
  have hnot : phase state.pc ≠ .query ∧ phase state.pc ≠ .granted := by
    rcases h with h | h | ⟨-, h⟩
    · rw [h]
      decide
    · rw [h]
      decide
    · constructor <;>
      · intro hphase
        rw [hphase] at h
        exact absurd h (by decide)
  have hset : phase state.pc ∈ [.before, .head, .waiting, .connecting] →
      after.recoveryStop = true := by
    intro hmem
    rw [hstop]
    rcases h with h | h | ⟨hset, -⟩
    · rw [h] at hmem
      exact absurd hmem (by decide)
    · rw [h] at hmem
      exact absurd hmem (by decide)
    · exact hset
  cases hadvance with
  | stay hphase hstays hattempt hout =>
    refine ⟨hout.calls, ?_⟩
    unfold Quiet at h ⊢
    rw [hphase, hstop]
    exact h
  | enter hstate hafter hbegun hattempt hout =>
    refine ⟨hout.calls, Or.inr (Or.inr ⟨hset (by rw [hstate]; decide), ?_⟩)⟩
    rw [hafter]
    decide
  | resume hstate hafter hout => exact ⟨hout.calls, Or.inl hafter⟩
  | ask hstate hafter hattempt hless hclear hout =>
    have htrue := hset (by rw [hstate]; decide)
    rw [hstop, hclear] at htrue
    exact absurd htrue Bool.false_ne_true
  | leave hstate hafter hout => exact ⟨hout.calls, Or.inl hafter⟩
  | grant hstate hafter hattempt => exact absurd hstate hnot.1
  | refuse hstate hafter => exact absurd hstate hnot.1
  | go hstate hafter hattempt hclear hout =>
    have htrue := hset (by rw [hstate]; decide)
    rw [hstop, hclear] at htrue
    exact absurd htrue Bool.false_ne_true
  | connect hstate hafter hattempt => exact absurd hstate hnot.2
  | retry hstate hafter hattempt hout =>
    refine ⟨hout.calls, Or.inr (Or.inr ⟨hset (by rw [hstate]; decide), ?_⟩)⟩
    rw [hafter]
    decide
  | report hstate hafter houtcome hcall =>
    refine ⟨?_, Or.inr (Or.inl hafter)⟩
    simp [calls, hcall]
  | stopped hstate hafter hclear hout => exact ⟨hout.calls, Or.inr (Or.inl hafter)⟩

/-- A look at the flag that finds it set comes before the next call. -/
theorem quiet_of_readsStop {state : State} (hreads : readsStop state = true)
    (hstop : state.recoveryStop = true) (ok more : Bool) :
    Quiet (state.recoveryStep ok more) := by
  cases hpc : state.pc <;> simp only [readsStop, hpc, Bool.false_eq_true] at hreads <;>
    simp only [State.recoveryStep, State.resumeStep, State.connectStep, State.loopStep,
      State.outerStep, hpc, State.goto, State.nextAttempt, hstop, Bool.not_true, Bool.and_false,
      Bool.false_eq_true, if_true, if_false] <;>
    simp [Quiet, phase]

theorem quiet_of_final {state : State} {ok : Bool} {entry : Entry}
    (hmem : entry ∈ entries state ok) (hfinal : entry.isFinal = true) (more : Bool) :
    Quiet (state.recoveryStep ok more) := by
  by_cases hobserved : entry ∈ observed state
  · unfold observed at hobserved
    split at hobserved
    · next hreads =>
      rw [Bool.and_eq_true] at hreads
      exact quiet_of_readsStop hreads.1 hreads.2 ok more
    · exact absurd hobserved List.not_mem_nil
  · cases hpc : state.pc <;> simp only [entries, hpc, hobserved] at hmem
    case readToken =>
      split at hmem
      · rw [List.mem_singleton.1 hmem] at hfinal
        exact absurd hfinal (by decide)
      · exact absurd hmem List.not_mem_nil
    case nextRetryDelay =>
      cases ok with
      | true =>
        rw [if_pos rfl] at hmem
        rw [List.mem_singleton.1 hmem] at hfinal
        exact absurd hfinal Bool.false_ne_true
      | false =>
        left
        simp [State.recoveryStep, State.loopStep, hpc, State.goto, phase]
    case fullReadToken =>
      split at hmem
      · rw [List.mem_singleton.1 hmem] at hfinal
        exact absurd hfinal (by decide)
      · exact absurd hmem List.not_mem_nil
    case connectWait =>
      split at hmem
      · next hconnected =>
        left
        simp only [State.recoveryStep, State.connectStep, hpc, hconnected, if_true]
        rfl
      · exact absurd hmem hobserved
    case resumedEvent =>
      right
      left
      simp only [State.recoveryStep, State.outerStep, hpc]
      rfl
    case reconnectedCheck =>
      right
      left
      simp only [State.recoveryStep, State.outerStep, hpc, State.goto]
      split <;> rfl
    case exhaustedEvent =>
      right
      left
      simp only [State.recoveryStep, State.outerStep, hpc]
      rfl

/-! ## 7. How long a run takes -/

/-- The steps from a place to the end, or to the end of the round. -/
def rank : Pc → Nat
  | .start | .beginRecovering | .beginClearConnected | .beginReconnecting => 60
  | .checkForceFull => 59
  | .checkStop => 58
  | .readToken => 57
  | .resumeSession => 56
  | .resumeCreate => 55
  | .resumeSwap => 54
  | .resumeSignal => 53
  | .resumeCheckStop => 52
  | .resumeCheckForce => 51
  | .resumeConfigure => 50
  | .resumeClearConnected => 49
  | .resumeClearAnswer => 48
  | .resumeRestartIce => 47
  | .resumeWait => 46
  | .resumeEnd _ => 45
  | .resumeEndForce => 44
  | .resumed _ => 43
  | .setForceFull => 42
  | .reconnectingCheckStop => 41
  | .reconnectingEvent => 40
  | .loopHead => 39
  | .nextRetryDelay => 38
  | .delayWait => 37
  | .delayCheckStop => 36
  | .clearConnected => 35
  | .resetSignal => 34
  | .resetSession => 33
  | .fullReadToken => 32
  | .connectCreate => 31
  | .connectSignal => 30
  | .connectJoin => 29
  | .connectCheckStop => 28
  | .connectSession => 27
  | .connectWait => 26
  | .finished _ => 12
  | .reconnectedCheck | .exhaustedCheckStop => 11
  | .reconnectedSet | .exhaustedResetSignal => 10
  | .exhaustedResetSession => 9
  | .exhaustedDisallow => 8
  | .exhaustedEvent => 7
  | .clearForceFull => 6
  | .clearRecovering => 5
  | .clearProgress => 4
  | .resumedEvent => 3
  | .resumedClearRecovering => 2
  | .resumedClearProgress => 1
  | .done => 0

/-- An upper bound for the steps that are left. -/
def remaining (state : State) : Nat :=
  rank state.pc + 20 * (state.attempts - if state.pc = .start then 0 else state.attempt)

/-- A step within a round. -/
theorem remaining_lt_of_rank {state after : State} (hattempts : after.attempts = state.attempts)
    (hattempt : after.attempt = state.attempt) (hstart : state.pc ≠ .start)
    (hafter : after.pc ≠ .start) (hrank : rank after.pc < rank state.pc) :
    remaining after < remaining state := by
  unfold remaining
  rw [if_neg hstart, if_neg hafter, hattempts, hattempt]
  omega

/-- The end of a round that failed. -/
theorem remaining_lt_of_retry {state after : State} (hattempts : after.attempts = state.attempts)
    (hattempt : after.attempt = state.attempt + 1) (hless : state.attempt < state.attempts)
    (hstart : state.pc ≠ .start) (hafter : after.pc ≠ .start)
    (hrank : rank after.pc < rank state.pc + 20) : remaining after < remaining state := by
  unfold remaining
  rw [if_neg hstart, if_neg hafter, hattempts, hattempt]
  omega

/-- Every step gets nearer to the end; the rounds are counted down by the attempts. -/
theorem remaining_recoveryStep {state : State} (hrun : phase state.pc ≠ .opening)
    (hless : phase state.pc = .connecting → state.attempt < state.attempts) (ok more : Bool)
    (hdone : state.pc ≠ .done) :
    remaining (state.recoveryStep ok more) < remaining state := by
  cases hpc : state.pc
  case done => exact absurd hpc hdone
  case beginRecovering => exact absurd rfl (hpc ▸ hrun)
  case beginClearConnected => exact absurd rfl (hpc ▸ hrun)
  case beginReconnecting => exact absurd rfl (hpc ▸ hrun)
  case start => simp [remaining, State.recoveryStep, State.outerStep, hpc, rank]
  all_goals
    simp only [State.recoveryStep, State.resumeStep, State.connectStep, State.loopStep,
      State.outerStep, hpc, State.goto, State.transition, State.signalDisconnectedEvent]
    repeat' split
    all_goals
      first
      | exact remaining_lt_of_rank rfl rfl (by rw [hpc]; exact Pc.noConfusion) Pc.noConfusion
          (by rw [hpc]; exact of_decide_eq_true rfl)
      | exact remaining_lt_of_retry rfl rfl (hless (hpc ▸ rfl))
          (by rw [hpc]; exact Pc.noConfusion) Pc.noConfusion
          (by rw [hpc]; exact of_decide_eq_true rfl)

theorem remaining_threw {state : State} (hthrows : mayThrow state.pc = true) :
    remaining (state.goto .done) < remaining state := by
  have hpositive : 0 < rank state.pc ∧ state.pc ≠ .start := by
    cases hpc : state.pc <;> rw [hpc] at hthrows <;>
      first
      | exact absurd hthrows Bool.false_ne_true
      | exact ⟨Nat.succ_pos _, Pc.noConfusion⟩
  exact remaining_lt_of_rank rfl rfl hpositive.2 Pc.noConfusion hpositive.1

theorem remaining_unheard {state : State} (htells : tells state.pc = true) :
    remaining (unheard state) < remaining state := by
  cases hpc : state.pc <;> rw [hpc] at htells <;>
    first
    | exact absurd htells Bool.false_ne_true
    | (simp only [unheard, hpc]
       exact remaining_lt_of_rank rfl rfl (by rw [hpc]; exact Pc.noConfusion) Pc.noConfusion
         (by rw [hpc]; exact of_decide_eq_true rfl))

/-! ## 8. What every run does -/

/-- No call after an entry that is final. -/
def NoCallAfterFinal (before : List Entry) (entry : Entry) : Prop :=
  entry.isCall = true → ∀ earlier ∈ before, earlier.isFinal = false

theorem eachAt_append {trace out : List Entry} (h : Traces.EachAt NoCallAfterFinal trace)
    (hcalls : calls out = []) : Traces.EachAt NoCallAfterFinal (trace ++ out) := by
  induction out using List.reverseRecOn with
  | nil =>
    rw [List.append_nil]
    exact h
  | append_singleton out entry ih =>
    rw [calls_append, List.append_eq_nil_iff] at hcalls
    rw [← List.append_assoc, Traces.eachAt_append_singleton]
    refine ⟨ih hcalls.1, ?_⟩
    intro hcall
    have hnone := hcalls.2
    unfold calls at hnone
    rw [List.filter_cons_of_pos hcall] at hnone
    exact absurd hnone (List.cons_ne_nil _ _)

theorem eachAt_append_call {trace : List Entry} {entry : Entry}
    (h : Traces.EachAt NoCallAfterFinal trace)
    (hfree : ∀ earlier ∈ trace, earlier.isFinal = false) :
    Traces.EachAt NoCallAfterFinal (trace ++ [entry]) :=
  Traces.eachAt_append_singleton.2 ⟨h, fun _ => hfree⟩

/-- What holds of every run so far. -/
structure Inv (attempts : Nat) (state : State) (trace : List Entry) : Prop where
  attempts_eq : state.attempts = attempts
  callsAt : CallsAt state trace
  outcomeAt : OutcomeAt state trace
  quiet : ∀ entry ∈ trace, entry.isFinal = true → Quiet state
  order : Traces.EachAt NoCallAfterFinal trace

theorem Inv.start {joinRetries : Nat} {state : State} (h : Starts joinRetries state) :
    Inv (max 1 joinRetries) state [] := by
  have hphase : phase state.pc = .before := by
    rw [h.pc]
    rfl
  constructor
  · exact h.attempts
  · unfold CallsAt
    rw [hphase]
    exact ⟨rfl, Or.inl h.pc⟩
  · unfold OutcomeAt
    rw [hphase, if_neg (by decide)]
    rfl
  · intro entry hmem
    exact absurd hmem List.not_mem_nil
  · exact Traces.eachAt_nil

/-- What a step keeps, whoever takes it for the thread. -/
theorem Inv.advance {attempts : Nat} {state after : State} {trace out : List Entry}
    (h : Inv attempts state trace) (hadvance : Advance state after out)
    (hattempts : after.attempts = state.attempts)
    (hstop : after.recoveryStop = state.recoveryStop)
    (hlast : ∀ entry ∈ out, entry.isFinal = true → Quiet after) :
    Inv attempts after (trace ++ out) := by
  constructor
  · exact hattempts.trans h.attempts_eq
  · exact h.callsAt.advance hadvance hattempts
  · exact h.outcomeAt.advance hadvance hstop
  · intro entry hmem hfinal
    rcases List.mem_append.1 hmem with hmem | hmem
    · exact ((h.quiet entry hmem hfinal).advance hadvance hstop).2
    · exact hlast entry hmem hfinal
  · by_cases hfinal : ∃ entry ∈ trace, entry.isFinal = true
    · obtain ⟨entry, hmem, hfinal⟩ := hfinal
      exact eachAt_append h.order ((h.quiet entry hmem hfinal).advance hadvance hstop).1
    · have hfree : ∀ earlier ∈ trace, earlier.isFinal = false := by
        intro earlier hmem
        rw [← Bool.not_eq_true]
        exact fun htrue => hfinal ⟨earlier, hmem, htrue⟩
      cases hadvance with
      | stay _ _ _ hout => exact eachAt_append h.order hout.calls
      | enter _ _ _ _ hout => exact eachAt_append h.order hout.calls
      | resume _ _ hout => exact eachAt_append h.order hout.calls
      | ask _ _ _ _ _ hout => exact eachAt_append h.order hout.calls
      | leave _ _ hout => exact eachAt_append h.order hout.calls
      | grant => exact eachAt_append_call h.order hfree
      | refuse =>
        have hquery := @eachAt_append_call trace (.query state.attempt) h.order hfree
        have hrefused := @eachAt_append _ [.refused] hquery rfl
        rw [List.append_assoc] at hrefused
        exact hrefused
      | go _ _ _ _ hout => exact eachAt_append h.order hout.calls
      | connect => exact eachAt_append_call h.order hfree
      | retry _ _ _ hout => exact eachAt_append h.order hout.calls
      | report _ _ _ hcall =>
        apply eachAt_append h.order
        simp [calls, hcall]
      | stopped _ _ _ hout => exact eachAt_append h.order hout.calls

theorem Inv.running {attempts : Nat} {state : State} {trace : List Entry}
    (h : Inv attempts state trace) : phase state.pc ≠ .opening := by
  intro hopening
  have hcalls := h.callsAt
  unfold CallsAt at hcalls
  rw [hopening] at hcalls
  exact hcalls

theorem Inv.thread {attempts : Nat} {state : State} {trace : List Entry}
    (h : Inv attempts state trace) (ok more : Bool) :
    Inv attempts (state.recoveryStep ok more) (trace ++ entries state ok) :=
  h.advance (advance_recoveryStep h.running ok more) (recoveryStep_attempts state ok more)
    (state.recoveryStep_frame ok more).1 fun _ hmem hfinal => quiet_of_final hmem hfinal more

theorem Inv.others {attempts : Nat} {state after : State} {trace : List Entry}
    (h : Inv attempts state trace) (hother : Interferes state after)
    (hstop : state.recoveryStop = true → after.recoveryStop = true) :
    Inv attempts after trace := by
  obtain ⟨hpc, hattempts, hattempt⟩ := hother
  constructor
  · exact hattempts.trans h.attempts_eq
  · have hcalls := h.callsAt
    unfold CallsAt at hcalls ⊢
    rw [hpc, hattempts, hattempt]
    exact hcalls
  · have houtcome := h.outcomeAt
    unfold OutcomeAt at houtcome ⊢
    rw [hpc]
    split at houtcome
    · next hover =>
      rw [if_pos hover]
      exact houtcome.imp_right fun hnone => ⟨hnone.1, hstop hnone.2⟩
    · next hover =>
      rw [if_neg hover]
      exact houtcome
  · intro entry hmem hfinal
    have hquiet := h.quiet entry hmem hfinal
    unfold Quiet at hquiet ⊢
    rw [hpc]
    exact hquiet.imp_right fun hquiet => hquiet.imp_right fun hset => ⟨hstop hset.1, hset.2⟩
  · exact h.order

/-- A run comes to its end. -/
def Ends (attempts : Nat) (run : Progress) : Prop :=
  run.state.pc = .done ∨ run.steps + remaining run.state ≤ 20 * attempts + 60

theorem Ends.thread {attempts : Nat} {run : Progress} (h : Ends attempts run)
    (hinv : Inv attempts run.state run.trace) (ok more : Bool) :
    Ends attempts (run.step (.thread ok more)) := by
  unfold Ends at h ⊢
  by_cases hdone : run.state.pc = .done
  · left
    simp only [Progress.step, State.recoveryStep, State.outerStep, hdone]
  · have hless : phase run.state.pc = .connecting →
        run.state.attempt < run.state.attempts := by
      intro hconnecting
      have hcalls := hinv.callsAt
      unfold CallsAt at hcalls
      rw [hconnecting] at hcalls
      exact hcalls.2
    have hnearer := remaining_recoveryStep hinv.running hless ok more hdone
    have hbound := h.resolve_left hdone
    right
    simp only [Progress.step]
    omega

/-- A shorter way to go on, and the thread is not at its end. -/
theorem Ends.shorter {attempts : Nat} {run after : Progress} (h : Ends attempts run)
    (hnot : run.state.pc ≠ .done) (hsteps : after.steps = run.steps + 1)
    (hnearer : remaining after.state < remaining run.state) : Ends attempts after := by
  have hbound := h.resolve_left hnot
  right
  omega

theorem Ends.others {attempts : Nat} {run : Progress} {after : State} (h : Ends attempts run)
    (hother : Interferes run.state after) : Ends attempts { run with state := after } := by
  obtain ⟨hpc, hattempts, hattempt⟩ := hother
  unfold Ends remaining at h ⊢
  simp only [hpc, hattempts, hattempt]
  exact h

theorem keeps_step {attempts : Nat} {run after : Progress} {act : Act}
    (h : Inv attempts run.state run.trace ∧ Ends attempts run)
    (hstep : Guarded Progress.Sound Progress.Step run act after) :
    Inv attempts after.state after.trace ∧ Ends attempts after := by
  obtain ⟨hinv, hends⟩ := h
  obtain ⟨hsound, henabled, rfl⟩ := hstep
  cases act with
  | thread ok more => exact ⟨hinv.thread ok more, hends.thread hinv ok more⟩
  | threw =>
    have hkept := hinv.advance (advance_threw henabled hsound) rfl rfl (by simp)
    rw [List.append_nil] at hkept
    refine ⟨hkept, hends.shorter ?_ rfl (remaining_threw henabled)⟩
    intro hdone
    have hthrows : mayThrow run.state.pc = true := henabled
    rw [hdone] at hthrows
    exact absurd hthrows Bool.false_ne_true
  | unheard =>
    have hframe : (unheard run.state).attempts = run.state.attempts ∧
        (unheard run.state).recoveryStop = run.state.recoveryStop := by
      unfold unheard
      split <;> exact ⟨rfl, rfl⟩
    have hkept := hinv.advance (advance_unheard henabled hsound) hframe.1 hframe.2 (by simp)
    rw [List.append_nil] at hkept
    refine ⟨hkept, hends.shorter ?_ rfl (remaining_unheard henabled)⟩
    intro hdone
    have htells : tells run.state.pc = true := henabled
    rw [hdone] at htells
    exact absurd htells Bool.false_ne_true
  | others after => exact ⟨hinv.others henabled hsound, hends.others henabled⟩

theorem count_rounds (count : Nat) : (rounds count).count .connectTransport = count := by
  induction count with
  | zero => rfl
  | succ count ih =>
    rw [rounds_succ, List.count_append, ih]
    simp

/-- The policy of a recovery is obeyed: the calls of a run are rounds of one query and one
    attempt, counted from zero and no more than there are attempts, with perhaps a last
    query that no attempt follows; none follows a refusal, an attempt that succeeded, a look
    at the flag that found it set, or an outcome; the run ends, and has then told the room
    exactly once, or not at all for a request to stop. -/
structure ObeysPolicy (joinRetries : Nat) (run : Progress) : Prop where
  calls : Obeys (max 1 joinRetries) run.trace
  attempts : run.trace.count .connectTransport ≤ max 1 joinRetries
  final : ∀ before entry after, run.trace = before ++ entry :: after → entry.isFinal = true →
    ∀ late ∈ after, late.isCall = false
  once : (outcomes run.trace).length ≤ 1
  told : run.state.pc = .done → Told run.state run.trace
  ends : 20 * max 1 joinRetries + 60 ≤ run.steps → run.state.pc = .done

/-- **Whatever the policy, the network and the other threads do**, the policy is obeyed, in
    every run whose steps all meet the condition. -/
theorem recovery_obeys_policy {joinRetries : Nat} {start : State} {acts : List Act}
    {run : Progress} (hstart : Starts joinRetries start)
    (hrun : Exec (Guarded Progress.Sound Progress.Step) { state := start } acts run) :
    ObeysPolicy joinRetries run := by
  have hbegins : Ends (max 1 joinRetries) { state := start } := by
    right
    unfold remaining
    simp only [hstart.pc, if_pos, hstart.attempts, rank]
    omega
  obtain ⟨hinv, hends⟩ := @Exec.invariant _ _ _
    (fun run => Inv (max 1 joinRetries) run.state run.trace ∧ Ends (max 1 joinRetries) run)
    (fun _ _ _ hbefore hstep => keeps_step hbefore hstep) _ _ _ hrun
    ⟨Inv.start hstart, hbegins⟩
  have hobeys := hinv.callsAt.obeys
  rw [hinv.attempts_eq] at hobeys
  have houtcome := hinv.outcomeAt
  refine ⟨hobeys, ?_, ?_, ?_, ?_, ?_⟩
  · have hcount : run.trace.count .connectTransport =
        (calls run.trace).count .connectTransport := (List.count_filter rfl).symm
    rw [hcount]
    obtain ⟨count, ⟨hle, hcalls⟩ | ⟨hlt, hcalls⟩⟩ := hobeys
    · rw [hcalls, count_rounds]
      exact hle
    · rw [hcalls, List.count_append, count_rounds]
      simpa using Nat.le_of_lt hlt
  · intro before entry after htrace hfinal late hmem
    obtain ⟨middle, rest, rfl⟩ := List.append_of_mem hmem
    have hlaw := hinv.order (before ++ entry :: middle) late rest (by simp [htrace])
    by_contra hcall
    rw [Bool.not_eq_false] at hcall
    have hnot := hlaw hcall entry (by simp)
    exact Bool.false_ne_true (hnot.symm.trans hfinal)
  · unfold OutcomeAt Told at houtcome
    split at houtcome
    · rcases houtcome with ⟨outcome, hone⟩ | ⟨hnone, -⟩
      · rw [hone]
        exact Nat.le_refl 1
      · rw [hnone]
        exact Nat.zero_le 1
    · rw [houtcome]
      exact Nat.zero_le 1
  · intro hdone
    unfold OutcomeAt at houtcome
    rw [if_pos (by rw [hdone]; rfl)] at houtcome
    exact houtcome
  · intro hsteps
    rcases hends with hdone | hbound
    · exact hdone
    · by_contra hdone
      have hpositive : 0 < rank run.state.pc := by
        cases hpc : run.state.pc <;> first | exact absurd hpc hdone | exact Nat.succ_pos _
      unfold remaining at hbound
      omega

theorem exec_sound {start : Progress} {acts : List Act}
    (hok : Along (fun run act => run.Sound act ∧ run.Enabled act) Progress.step start acts) :
    Exec (Guarded Progress.Sound Progress.Step) start acts (acts.foldl Progress.step start) := by
  induction acts generalizing start with
  | nil => exact .nil start
  | cons act acts ih => exact .cons ⟨hok.1.1, hok.1.2, rfl⟩ (ih hok.2)

/-- A full reconnect with one attempt. -/
def fullReconnect : Progress :=
  { state := { pc := .start, recoveryInProgress := true, forceFullReconnect := true } }

/-- The thread at the wait after `ConnectTransport`. -/
def connectedActs : List Act := List.replicate 16 (.thread true false)

/-- The media connect meanwhile. -/
def rtcConnectedActs : List Act :=
  connectedActs ++
    [.others { (connectedActs.foldl Progress.step fullReconnect).state with
      rtcConnected := true }] ++
    List.replicate 7 (.thread true false)

theorem recovery_obeys_policy_rtcConnectedActs :
    ObeysPolicy 1 (rtcConnectedActs.foldl Progress.step fullReconnect) ∧
      (rtcConnectedActs.foldl Progress.step fullReconnect).state.pc = .done ∧
      (rtcConnectedActs.foldl Progress.step fullReconnect).trace =
        [.query 0, .connectTransport, .connected, .reconnectedEvent] := by
  have hstart : Starts 1 fullReconnect.state := ⟨rfl, rfl⟩
  exact ⟨recovery_obeys_policy hstart (exec_sound (by decide +kernel)), by decide +kernel,
    by decide +kernel⟩

/-- The `SignalClient` of the only attempt cannot be made. -/
def threwActs : List Act := List.replicate 11 (.thread true false) ++ [.threw]

/-- The room is told nothing, and nobody has asked the thread to stop. -/
theorem threwActs_tell_nothing :
    Exec Progress.Step fullReconnect threwActs (threwActs.foldl Progress.step fullReconnect) ∧
      (threwActs.foldl Progress.step fullReconnect).trace = [.query 0, .connectTransport] ∧
      ¬ ObeysPolicy 1 (threwActs.foldl Progress.step fullReconnect) := by
  refine ⟨exec_guarded (by decide +kernel), by decide +kernel, ?_⟩
  intro hobeys
  rcases hobeys.told (by decide +kernel) with ⟨outcome, hone⟩ | ⟨-, hstop⟩
  · have hnone : outcomes (threwActs.foldl Progress.step fullReconnect).trace = [] := by
      decide +kernel
    rw [hnone] at hone
    cases hone
  · revert hstop
    decide +kernel

end LivekitClient.RecoveryRun
