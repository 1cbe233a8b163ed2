/-
  LivekitClient/ResumeAnswers.lean
  ================================
  **What a resume waits for** (`RtcEngine::ResumeTransport`, `OnAnswer`, `OnLocalOffer`
  and `negotiate` in `src/core/detail/rtc_engine.cpp`, with the session of
  `PublisherNegotiation`).

  `ResumeTransport` opens a new signal connection, restarts ICE and waits until the
  publisher's answer has come.  The offers of the session outlive the connection on which
  they were sent: one that is in flight when the connection is lost stays in flight, and
  then the request for a restart is only noted.

  The engine calls the session under `session_lock_`, so a call of it is one step here,
  where `PublisherNegotiation` has several.
-/
import LivekitClient.PublisherNegotiation

namespace LivekitClient.ResumeAnswers

open Runs
open PublisherNegotiation (Session Call Made)

/-! ## 1. The engine -/

/-- Where `ResumeTransport` is: in `Resume`, past it, past `UpdateConfiguration`, past the
    reset of `publisher_answer_received_`, past `RestartPublisherIce`, in the wait. -/
inductive Stage where
  | idle
  | connecting
  | resumed
  | configured
  | cleared
  | restarted
  | waiting
deriving DecidableEq

/-- `established` is `conn_established_` of the WebSocket of `signal_client_`; `sent` are
    the offers that went out on it since `Resume` succeeded, true for an ICE restart. -/
structure Engine where
  rtcSession : Option Session := none
  signalClient : Bool := false
  established : Bool := false
  recoveryStop : Bool := false
  forceFullReconnect : Bool := false
  recoveringConnection : Bool := false
  publisherAnswerReceived : Bool := false
  stage : Stage := .idle
  sent : List Bool := []
deriving DecidableEq

/-- WebRTC may reject the description of an answer. -/
inductive Act where
  | connect
  | connectTransport (isPublisherConnectionRequired : Bool)
  | createSender
  | publisherNegotiationNeeded (made : Made)
  | negotiate (made : Made)
  | onAnswer (accepted : Bool) (made : Made)
  | signalLost
  | startRecovery
  | startResume
  | signalEstablished
  | resume (ok : Bool)
  | updateConfiguration (ok : Bool)
  | clearAnswer
  | restartPublisherIce (made : Made)
  | startWait
  | endWait (isConnected timeout : Bool)
  | forceFullReconnect
  | disconnect
  | resetSignal
  | resetSession
deriving DecidableEq

namespace Engine

/-- `OnLocalOffer`: `WebsocketClient::send` drops what comes while it is not connected. -/
def onLocalOffer (engine : Engine) (iceRestart : Bool) : Engine :=
  if engine.signalClient && engine.established then
    { engine with sent := engine.sent ++ [iceRestart] }
  else engine

/-- The rest of a request of the session, whose call is the `i`-th. -/
def finishRequest (engine : Engine) (session : Session) (i : Nat) : Made → Engine
  | .offer =>
    match session.calls[i]? with
    | some (.negotiating iceRestart _) =>
      { engine.onLocalOffer iceRestart with rtcSession := some (session.negotiate i .offer) }
    | _ => { engine with rtcSession := some session }
  | .refused => { engine with rtcSession := some ((session.negotiate i .refused).release i) }
  | .threw => { engine with rtcSession := some (session.negotiate i .threw) }

def requestPublisherNegotiation (engine : Engine) (session : Session) (iceRestart : Bool)
    (made : Made) : Engine :=
  engine.finishRequest (session.requestPublisherNegotiation iceRestart false)
    session.calls.length made

/-- The end of `OnAnswer`. -/
def answerReceived (engine : Engine) : Engine :=
  if engine.recoveringConnection then { engine with publisherAnswerReceived := true } else engine

/-- `OnAnswer`, with the request that `PublisherNegotiationCompleted` makes on behalf of
    those that were noted.  A rejected description, or a rejected offer of that request,
    unwinds it. -/
def onAnswer (engine : Engine) (accepted : Bool) (made : Made) : Engine :=
  match engine.rtcSession with
  | none => engine.answerReceived
  | some session =>
    let answered := session.setPublisherAnswer accepted
    let requested := engine.finishRequest (answered.requestAgain session.calls.length)
      session.calls.length made
    if !accepted then { engine with rtcSession := some answered }
    else if session.pending && made == .threw then requested
    else requested.answerReceived

/-- The section of `ResumeTransport` under `session_lock_`. -/
def restartPublisherIce (engine : Engine) (made : Made) : Engine :=
  match engine.rtcSession with
  | none => { engine with stage := .idle }
  | some session =>
    if session.shouldRestartPublisherIce then
      { engine.requestPublisherNegotiation session true made with
        stage := if session.inFlight || made == .offer then .restarted else .idle }
    else
      { engine with
        stage := .idle
        recoveringConnection := engine.recoveryStop || engine.forceFullReconnect }

/-- The predicate of the wait. -/
def waitOver (engine : Engine) (isConnected : Bool) : Bool :=
  engine.recoveryStop || engine.forceFullReconnect ||
    (engine.publisherAnswerReceived && engine.rtcSession.isSome && isConnected)

def endWait (engine : Engine) (isConnected timeout : Bool) : Engine :=
  if engine.waitOver isConnected || timeout then
    { engine with
      stage := .idle
      recoveringConnection := !engine.waitOver isConnected || engine.recoveryStop ||
        engine.forceFullReconnect }
  else engine

def step (engine : Engine) : Act → Engine
  | .connect =>
    -- `Disconnect` has joined the recovery thread before
    if engine.stage = .idle then
      { engine with
        recoveryStop := false, recoveringConnection := false, forceFullReconnect := false }
    else engine
  | .connectTransport isPublisherConnectionRequired =>
    if engine.stage = .idle then
      { engine with
        signalClient := true
        established := true
        rtcSession :=
          if engine.recoveryStop then engine.rtcSession
          else some { isPublisherConnectionRequired := isPublisherConnectionRequired } }
    else engine
  | .createSender =>
    { engine with rtcSession := engine.rtcSession.map (Session.step · .createSender) }
  | .publisherNegotiationNeeded made =>
    match engine.rtcSession with
    | none => engine
    | some session =>
      engine.requestPublisherNegotiation { session with hasPublished := true } false made
  | .negotiate made =>
    match engine.rtcSession with
    | none => engine
    | some session => engine.requestPublisherNegotiation session false made
  | .onAnswer accepted made =>
    if engine.signalClient then engine.onAnswer accepted made else engine
  | .signalLost => { engine with established := false }
  | .startRecovery =>
    if engine.stage = .idle && !engine.recoveryStop then
      { engine with recoveringConnection := true }
    else engine
  | .startResume =>
    if engine.stage = .idle && engine.recoveringConnection && engine.rtcSession.isSome then
      { engine with signalClient := true, established := false, stage := .connecting }
    else engine
  | .signalEstablished =>
    if engine.stage = .connecting && engine.signalClient then { engine with established := true }
    else engine
  | .resume ok =>
    if engine.stage = .connecting then
      if ok && !engine.recoveryStop && !engine.forceFullReconnect then
        { engine with stage := .resumed, sent := [] }
      else { engine with stage := .idle }
    else engine
  | .updateConfiguration ok =>
    if engine.stage = .resumed then
      { engine with stage := if ok && engine.rtcSession.isSome then .configured else .idle }
    else engine
  | .clearAnswer =>
    if engine.stage = .configured then
      { engine with publisherAnswerReceived := false, stage := .cleared }
    else engine
  | .restartPublisherIce made =>
    if engine.stage = .cleared then engine.restartPublisherIce made else engine
  | .startWait =>
    if engine.stage = .restarted then
      { engine with
        stage := if engine.recoveryStop || engine.forceFullReconnect then .idle else .waiting }
    else engine
  | .endWait isConnected timeout =>
    if engine.stage = .waiting then engine.endWait isConnected timeout else engine
  | .forceFullReconnect => { engine with forceFullReconnect := true }
  | .disconnect => { engine with recoveryStop := true }
  | .resetSignal =>
    -- `Disconnect` sets `recovery_stop_` first; otherwise it is the recovery thread itself
    if engine.recoveryStop || engine.stage = .idle then
      { engine with signalClient := false, established := false }
    else engine
  | .resetSession =>
    if engine.recoveryStop || engine.stage = .idle then { engine with rtcSession := none }
    else engine

end Engine

/-! ## 2. What it waits for -/

/-- While it waits for the answer, an offer that restarts ICE has gone out on the resumed
    connection. -/
def AskedFor (engine : Engine) : Prop := engine.stage = .waiting → true ∈ engine.sent

/-- ICE is restarted, where the publisher has to, with no offer in flight and with the
    resumed connection still up, unless the recovery is to end anyway. -/
def Sound (engine : Engine) : Act → Prop
  | .restartPublisherIce _ =>
    engine.stage = .cleared → engine.recoveryStop = false → engine.forceFullReconnect = false →
      ∀ session ∈ engine.rtcSession, session.shouldRestartPublisherIce = true →
        session.inFlight = false ∧ engine.signalClient = true ∧ engine.established = true
  | _ => True

instance (engine : Engine) : DecidablePred (Sound engine)
  | .restartPublisherIce _ =>
    inferInstanceAs (Decidable (_ → _ → _ → ∀ session ∈ engine.rtcSession, _ → _ ∧ _ ∧ _))
  | .connect | .connectTransport _ | .createSender | .publisherNegotiationNeeded _
  | .negotiate _ | .onAnswer _ _ | .signalLost | .startRecovery | .startResume
  | .signalEstablished | .resume _ | .updateConfiguration _ | .clearAnswer | .startWait
  | .endWait _ _ | .forceFullReconnect | .disconnect | .resetSignal | .resetSession =>
    inferInstanceAs (Decidable True)

/-- Between the restart and the wait the recovery may still be told to end. -/
structure Inv (engine : Engine) : Prop where
  restarted : engine.stage = .restarted →
    true ∈ engine.sent ∨ engine.recoveryStop = true ∨ engine.forceFullReconnect = true
  waiting : engine.stage = .waiting → true ∈ engine.sent

/-! ## 3. The steps -/

section Steps

variable {engine : Engine}

/-- The step of another thread: it may send offers and tell the recovery to end. -/
structure Aside (before after : Engine) : Prop where
  stage : after.stage = before.stage
  sent : before.sent ⊆ after.sent
  recoveryStop : before.recoveryStop = true → after.recoveryStop = true
  forceFullReconnect : before.forceFullReconnect = true → after.forceFullReconnect = true

theorem Aside.rfl : Aside engine engine := ⟨.refl _, List.Subset.refl _, id, id⟩

theorem Inv.aside {after : Engine} (h : Inv engine) (haside : Aside engine after) : Inv after where
  restarted := by
    intro hstage
    rw [haside.stage] at hstage
    rcases h.restarted hstage with hsent | hstop | hforce
    · exact Or.inl (haside.sent hsent)
    · exact Or.inr (Or.inl (haside.recoveryStop hstop))
    · exact Or.inr (Or.inr (haside.forceFullReconnect hforce))
  waiting := by
    intro hstage
    rw [haside.stage] at hstage
    exact haside.sent (h.waiting hstage)

/-- At any other place there is nothing to keep. -/
theorem Inv.elsewhere (hrestarted : engine.stage ≠ .restarted)
    (hwaiting : engine.stage ≠ .waiting) : Inv engine :=
  ⟨fun hstage => absurd hstage hrestarted, fun hstage => absurd hstage hwaiting⟩

theorem inv_idle (hstage : engine.stage = .idle) : Inv engine :=
  .elsewhere (by simp [hstage]) (by simp [hstage])

theorem aside_onLocalOffer (iceRestart : Bool) : Aside engine (engine.onLocalOffer iceRestart) := by
  rw [Engine.onLocalOffer]
  split
  · exact ⟨rfl, List.subset_append_left _ _, id, id⟩
  · exact .rfl

theorem aside_finishRequest (session : Session) (i : Nat) (made : Made) :
    Aside engine (engine.finishRequest session i made) := by
  cases made with
  | offer =>
    simp only [Engine.finishRequest]
    split
    · rename_i iceRestart again hcall
      exact { @aside_onLocalOffer engine iceRestart with }
    · exact ⟨rfl, List.Subset.refl _, id, id⟩
  | refused => exact ⟨rfl, List.Subset.refl _, id, id⟩
  | threw => exact ⟨rfl, List.Subset.refl _, id, id⟩

theorem Aside.answerReceived {after : Engine} (haside : Aside engine after) :
    Aside engine after.answerReceived := by
  rw [Engine.answerReceived]
  split
  · exact { haside with }
  · exact haside

theorem aside_onAnswer (accepted : Bool) (made : Made) :
    Aside engine (engine.onAnswer accepted made) := by
  rw [Engine.onAnswer]
  split
  · exact Aside.rfl.answerReceived
  · split
    · exact ⟨rfl, List.Subset.refl _, id, id⟩
    · split
      · exact aside_finishRequest _ _ _
      · exact (aside_finishRequest _ _ _).answerReceived

/-- With no offer in flight and the connection up, an offer goes out. -/
theorem sent_requestPublisherNegotiation {session : Session} (iceRestart : Bool)
    (hfree : session.inFlight = false) (hsignal : engine.signalClient = true)
    (hup : engine.established = true) :
    iceRestart ∈ (engine.requestPublisherNegotiation session iceRestart .offer).sent := by
  have hrequested : session.requestPublisherNegotiation iceRestart false =
      { session with
        inFlight := true
        calls := session.calls ++ [.negotiating iceRestart false] } := by
    rw [Session.requestPublisherNegotiation, hfree]
    rfl
  have hcall : (session.requestPublisherNegotiation iceRestart false).calls[session.calls.length]? =
      some (.negotiating iceRestart false) := by
    simp [hrequested]
  rw [Engine.requestPublisherNegotiation, Engine.finishRequest, hcall]
  simp [Engine.onLocalOffer, hsignal, hup]

theorem Inv.restartPublisherIce {made : Made} (hstage : engine.stage = .cleared)
    (hsound : Sound engine (.restartPublisherIce made)) :
    Inv (engine.restartPublisherIce made) := by
  rw [Engine.restartPublisherIce]
  split
  · exact inv_idle rfl
  · rename_i session hsession
    split
    · rename_i hshould
      refine ⟨?_, ?_⟩
      · intro hafter
        have haside : Aside engine (engine.requestPublisherNegotiation session true made) :=
          aside_finishRequest _ _ _
        by_cases hends : engine.recoveryStop = true ∨ engine.forceFullReconnect = true
        · rcases hends with hstop | hforce
          · exact Or.inr (Or.inl (haside.recoveryStop hstop))
          · exact Or.inr (Or.inr (haside.forceFullReconnect hforce))
        · simp only [not_or, Bool.not_eq_true] at hends
          obtain ⟨hinFlight, hsignal, hup⟩ := hsound hstage hends.1 hends.2 session hsession hshould
          -- nothing is in flight, so the restart goes on only if there is an offer
          have hmade : made = .offer := by
            simp only [hinFlight, Bool.false_or] at hafter
            split at hafter
            · rename_i hoffer
              exact eq_of_beq hoffer
            · simp at hafter
          rw [hmade]
          exact Or.inl (sent_requestPublisherNegotiation true hinFlight hsignal hup)
      · intro hafter
        simp only at hafter
        split at hafter <;> simp at hafter
    · exact inv_idle rfl

theorem Inv.startWait (h : Inv engine) (hstage : engine.stage = .restarted) :
    Inv (engine.step .startWait) := by
  simp only [Engine.step, hstage, if_true]
  split
  · exact inv_idle rfl
  · rename_i hgoes
    simp only [Bool.or_eq_true, not_or] at hgoes
    refine ⟨fun hafter => by simp at hafter, fun _ => ?_⟩
    rcases h.restarted hstage with hsent | hstop | hforce
    · exact hsent
    · exact absurd hstop hgoes.1
    · exact absurd hforce hgoes.2

theorem Inv.step (h : Inv engine) {act : Act} (hsound : Sound engine act) :
    Inv (engine.step act) := by
  cases act with
  | connect =>
    rw [Engine.step]
    split
    · rename_i hstage
      exact inv_idle hstage
    · exact h
  | connectTransport isPublisherConnectionRequired =>
    rw [Engine.step]
    split
    · rename_i hstage
      exact inv_idle hstage
    · exact h
  | createSender => exact h.aside ⟨rfl, List.Subset.refl _, id, id⟩
  | publisherNegotiationNeeded made =>
    simp only [Engine.step]
    split
    · exact h
    · exact h.aside (aside_finishRequest _ _ _)
  | negotiate made =>
    simp only [Engine.step]
    split
    · exact h
    · exact h.aside (aside_finishRequest _ _ _)
  | onAnswer accepted made =>
    rw [Engine.step]
    split
    · exact h.aside (aside_onAnswer accepted made)
    · exact h
  | signalLost => exact h.aside ⟨rfl, List.Subset.refl _, id, id⟩
  | startRecovery =>
    rw [Engine.step]
    split
    · exact h.aside ⟨rfl, List.Subset.refl _, id, id⟩
    · exact h
  | startResume =>
    rw [Engine.step]
    split
    · exact .elsewhere (by simp) (by simp)
    · exact h
  | signalEstablished =>
    rw [Engine.step]
    split
    · exact h.aside ⟨rfl, List.Subset.refl _, id, id⟩
    · exact h
  | resume ok =>
    rw [Engine.step]
    split
    · split
      · exact .elsewhere (by simp) (by simp)
      · exact inv_idle rfl
    · exact h
  | updateConfiguration ok =>
    rw [Engine.step]
    split
    · split <;> exact .elsewhere (by simp) (by simp)
    · exact h
  | clearAnswer =>
    rw [Engine.step]
    split
    · exact .elsewhere (by simp) (by simp)
    · exact h
  | restartPublisherIce made =>
    rw [Engine.step]
    split
    · rename_i hstage
      exact Inv.restartPublisherIce hstage hsound
    · exact h
  | startWait =>
    by_cases hstage : engine.stage = .restarted
    · exact h.startWait hstage
    · simp only [Engine.step, hstage, if_false]
      exact h
  | endWait isConnected timeout =>
    rw [Engine.step]
    split
    · rw [Engine.endWait]
      split
      · exact inv_idle rfl
      · exact h
    · exact h
  | forceFullReconnect => exact h.aside ⟨rfl, List.Subset.refl _, id, fun _ => rfl⟩
  | disconnect => exact h.aside ⟨rfl, List.Subset.refl _, fun _ => rfl, id⟩
  | resetSignal =>
    rw [Engine.step]
    split
    · exact h.aside ⟨rfl, List.Subset.refl _, id, id⟩
    · exact h
  | resetSession =>
    rw [Engine.step]
    split
    · exact h.aside ⟨rfl, List.Subset.refl _, id, id⟩
    · exact h

end Steps

/-! ## 4. Runs -/

/-- **A resume waits only for an answer that was asked for**, in every run in which ICE
    is restarted, where the publisher has to, with no offer in flight and with the resumed
    connection still up. -/
theorem resume_askedFor {acts : List Act} {engine : Engine}
    (hrun : Exec (Guarded Sound fun before act after => after = before.step act) {} acts engine) :
    AskedFor engine := by
  have hinv : Inv engine := by
    refine hrun.invariant ?_ (inv_idle rfl)
    rintro before act after hbefore ⟨hsound, rfl⟩
    exact hbefore.step hsound
  exact hinv.waiting

/-- Two recoveries.  The first one resumes; in the second the server answers the offer
    that was in flight before ICE is restarted. -/
def answeredActs : List Act :=
  [.connect, .connectTransport false, .createSender, .publisherNegotiationNeeded .offer,
   .onAnswer true .offer, .signalLost, .startRecovery, .startResume, .signalEstablished,
   .resume true, .updateConfiguration true, .clearAnswer, .restartPublisherIce .offer, .startWait,
   .onAnswer true .offer, .endWait true false, .publisherNegotiationNeeded .offer, .signalLost,
   .startRecovery, .startResume, .signalEstablished, .resume true, .onAnswer true .offer,
   .updateConfiguration true, .clearAnswer, .restartPublisherIce .offer, .startWait]

theorem resume_askedFor_answeredActs :
    AskedFor (answeredActs.foldl Engine.step {}) ∧
      (answeredActs.foldl Engine.step {}).stage = .waiting ∧
      (answeredActs.foldl Engine.step {}).sent = [true] :=
  ⟨@resume_askedFor answeredActs _ (exec_guarded (by decide)), by decide, by decide⟩

/-- An offer is in flight when the connection is lost, and its answer is lost with it. -/
def lostAnswerActs : List Act :=
  [.connect, .connectTransport false, .createSender, .publisherNegotiationNeeded .offer,
   .signalLost, .startRecovery, .startResume, .signalEstablished, .resume true,
   .updateConfiguration true, .clearAnswer, .restartPublisherIce .offer, .startWait]

theorem lostAnswerActs_wait_for_nothing :
    (lostAnswerActs.foldl Engine.step {}).stage = .waiting ∧
      (lostAnswerActs.foldl Engine.step {}).sent = [] ∧
      ¬ AskedFor (lostAnswerActs.foldl Engine.step {}) := by
  refine ⟨by decide, by decide, ?_⟩
  intro hasked
  have hsent := hasked (by decide)
  revert hsent
  decide

end LivekitClient.ResumeAnswers
