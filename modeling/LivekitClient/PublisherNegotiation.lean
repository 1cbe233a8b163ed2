/-
  LivekitClient/PublisherNegotiation.lean
  =======================================
  **The offers of the publisher** (`RtcSession::RequestPublisherNegotiation`,
  `PublisherNegotiationCompleted`, `SetPublisherAnswer`, `PublisherNegotiationNeeded` and
  `RestartPublisherIce` in `src/core/detail/rtc_session.cpp`).

  One offer at a time goes to the server.  A request that comes while one is in flight
  is answered true and noted in two flags, and the answer to the offer in flight makes
  the session request again on behalf of all that were noted.

  The calls run on any thread and share a mutex that they do not hold while they make an
  offer, so each section under the mutex is a step, and so is `Negotiate`, which may
  fail.  The observers of WebRTC reject with a `const char*`, which no handler for a
  `std::exception` catches: it unwinds the call of the session as well.  A run ends when
  the session is closed.
-/
import LivekitClient.Runs
import LivekitClient.Traces

namespace LivekitClient.PublisherNegotiation

open Runs Traces

/-! ## 1. The session -/

/-- What becomes of `PeerTransport::Negotiate`: an offer, an error that it catches, or
    one that it does not catch (WebRTC rejects `CreateOffer` or `SetLocalDescription`). -/
inductive Made where
  | offer
  | refused
  | threw
deriving DecidableEq

/-- Where a call is: in `Negotiate`, past a `Negotiate` that failed, or in
    `PublisherNegotiationCompleted`, about to request again.  `again` says that it is that
    request, whose result nobody looks at. -/
inductive Call where
  | negotiating (iceRestart again : Bool)
  | failed
  | requestAgain (iceRestart : Bool)
deriving DecidableEq

/-- What has happened: a request that is answered true has come, an offer has been made. -/
inductive Entry where
  | accepted (iceRestart : Bool)
  | offer (iceRestart : Bool)
deriving DecidableEq

/-- `calls` are the calls under way, `unanswered` counts the offers that the server has
    not answered. -/
structure Session where
  inFlight : Bool := false
  pending : Bool := false
  iceRestartPending : Bool := false
  hasPublished : Bool := false
  isPublisherConnectionRequired : Bool := false
  calls : List Call := []
  unanswered : Nat := 0
  trace : List Entry := []
deriving DecidableEq

/-- `negotiate i made` ends the `Negotiate` of the `i`-th call, `release i` is the section
    at the end of one that failed, `requestAgain i` the request of the `i`-th call.  WebRTC
    may reject the description that the server answers with. -/
inductive Act where
  | request (iceRestart : Bool)
  | publisherNegotiationNeeded
  | restartPublisherIce
  | createSender
  | negotiate (i : Nat) (made : Made)
  | release (i : Nat)
  | setPublisherAnswer (accepted : Bool)
  | requestAgain (i : Nat)
deriving DecidableEq

namespace Session

/-- `RequestPublisherNegotiation` up to `Negotiate`. -/
def requestPublisherNegotiation (session : Session) (iceRestart again : Bool) : Session :=
  if session.inFlight then
    { session with
      pending := true
      iceRestartPending := session.iceRestartPending || iceRestart
      trace := session.trace ++ [.accepted iceRestart] }
  else
    { session with
      inFlight := true
      calls := session.calls ++ [.negotiating iceRestart again] }

def shouldRestartPublisherIce (session : Session) : Bool :=
  session.isPublisherConnectionRequired || session.hasPublished

/-- The section of `PublisherNegotiationCompleted`. -/
def publisherNegotiationCompleted (session : Session) : Session :=
  { session with
    inFlight := false
    pending := false
    iceRestartPending := false
    unanswered := session.unanswered - 1
    calls := session.calls ++
      (if session.pending then [.requestAgain session.iceRestartPending] else []) }

/-- `SetPublisherAnswer`: a rejected description unwinds it before its second call. -/
def setPublisherAnswer (session : Session) (accepted : Bool) : Session :=
  if accepted then session.publisherNegotiationCompleted
  else { session with unanswered := session.unanswered - 1 }

def negotiate (session : Session) (i : Nat) (made : Made) : Session :=
  match session.calls[i]? with
  | some (.negotiating iceRestart _) =>
    match made with
    | .offer =>
      { session with
        calls := session.calls.eraseIdx i
        unanswered := session.unanswered + 1
        trace := session.trace ++ [.accepted iceRestart, .offer iceRestart] }
    | .refused => { session with calls := session.calls.set i .failed }
    | .threw => { session with calls := session.calls.eraseIdx i }
  | _ => session

def release (session : Session) (i : Nat) : Session :=
  match session.calls[i]? with
  | some .failed => { session with inFlight := false, calls := session.calls.eraseIdx i }
  | _ => session

def requestAgain (session : Session) (i : Nat) : Session :=
  match session.calls[i]? with
  | some (.requestAgain iceRestart) =>
    { session with calls := session.calls.eraseIdx i }.requestPublisherNegotiation iceRestart true
  | _ => session

def step (session : Session) : Act → Session
  | .request iceRestart => session.requestPublisherNegotiation iceRestart false
  | .publisherNegotiationNeeded =>
    { session with hasPublished := true }.requestPublisherNegotiation false false
  | .restartPublisherIce =>
    if session.shouldRestartPublisherIce then session.requestPublisherNegotiation true false
    else session
  | .createSender => { session with isPublisherConnectionRequired := true }
  | .negotiate i made => session.negotiate i made
  | .release i => session.release i
  | .setPublisherAnswer accepted => session.setPublisherAnswer accepted
  | .requestAgain i => session.requestAgain i

end Session

/-! ## 2. What the session promises -/

/-- An offer that does for a request. -/
def Serves (iceRestart : Bool) (entry : Entry) : Prop :=
  ∃ restarts, entry = .offer restarts ∧ (iceRestart = true → restarts = true)

/-- A request was answered true, and no offer since then does for it. -/
def Owed (iceRestart : Bool) (trace : List Entry) : Prop :=
  Open (· = .accepted iceRestart) (Serves iceRestart) trace

/-- Nothing is under way any more. -/
def Session.Quiet (session : Session) : Prop := session.calls = [] ∧ session.unanswered = 0

/-- The call has set the flag and not cleared it. -/
def Call.holds : Call → Bool
  | .negotiating _ _ | .failed => true
  | .requestAgain _ => false

/-- At most one offer is in flight; a request is noted only while the flag is set, and
    that while somebody is at it; and no request is left over. -/
structure Keeps (session : Session) : Prop where
  one : session.unanswered ≤ 1
  held : session.inFlight = true →
    session.unanswered = 1 ∨ ∃ call ∈ session.calls, call.holds = true
  pending : session.pending = true → session.inFlight = true
  served : session.Quiet → ∀ iceRestart, ¬ Owed iceRestart session.trace

/-- WebRTC rejects no offer and no answer, an offer fails only where nothing hangs on it,
    and the server answers none that is still being made. -/
def Sound (session : Session) : Act → Prop
  | .negotiate i .refused => ∀ iceRestart, session.calls[i]? ≠ some (.negotiating iceRestart true)
  | .negotiate i .threw =>
    ∀ iceRestart again, session.calls[i]? ≠ some (.negotiating iceRestart again)
  | .release i => session.calls[i]? = some .failed → session.pending = false
  | .setPublisherAnswer accepted =>
    accepted = true ∧ (session.inFlight = true → 0 < session.unanswered)
  | _ => True

instance (session : Session) : DecidablePred (Sound session)
  | .negotiate _ .offer => inferInstanceAs (Decidable True)
  | .negotiate _ .refused => inferInstanceAs (Decidable (∀ _ : Bool, _))
  | .negotiate _ .threw => inferInstanceAs (Decidable (∀ _ _ : Bool, _))
  | .release _ => inferInstanceAs (Decidable (_ → _))
  | .setPublisherAnswer _ => inferInstanceAs (Decidable (_ ∧ (_ → _)))
  | .request _ => inferInstanceAs (Decidable True)
  | .publisherNegotiationNeeded => inferInstanceAs (Decidable True)
  | .restartPublisherIce => inferInstanceAs (Decidable True)
  | .createSender => inferInstanceAs (Decidable True)
  | .requestAgain _ => inferInstanceAs (Decidable True)

/-! ## 3. Who holds the flag, and who stands for a request -/

/-- The call requests on behalf of one that was noted. -/
def Call.StandsFor (iceRestart : Bool) : Call → Prop
  | .negotiating restarts again => again = true ∧ (iceRestart = true → restarts = true)
  | .failed => False
  | .requestAgain restarts => iceRestart = true → restarts = true

/-- Who holds the flag: calls, and offers in flight. -/
def Session.holders (session : Session) : Nat :=
  session.calls.countP Call.holds + session.unanswered

structure Inv (session : Session) : Prop where
  holders : session.holders = session.inFlight.toNat
  pending : session.pending = true → session.inFlight = true
  carried : ∀ iceRestart, Owed iceRestart session.trace →
    (session.pending = true ∧ (iceRestart = true → session.iceRestartPending = true)) ∨
      ∃ call ∈ session.calls, call.StandsFor iceRestart

theorem Inv.keeps {session : Session} (h : Inv session) : Keeps session := by
  have hholders : session.calls.countP Call.holds + session.unanswered = session.inFlight.toNat :=
    h.holders
  have hbound := Bool.toNat_le session.inFlight
  refine ⟨by omega, ?_, h.pending, ?_⟩
  · intro hflag
    by_cases hcall : ∃ call ∈ session.calls, call.holds = true
    · exact Or.inr hcall
    · have hnone : session.calls.countP Call.holds = 0 := by
        rw [List.countP_eq_zero]
        exact fun call hmem hholds => hcall ⟨call, hmem, hholds⟩
      rw [hnone, hflag] at hholders
      simp only [Nat.zero_add, Bool.toNat_true] at hholders
      exact Or.inl hholders
  · rintro ⟨hcalls, hunanswered⟩ iceRestart howed
    rcases h.carried iceRestart howed with ⟨hpending, -⟩ | ⟨call, hmem, -⟩
    · simp [hcalls, hunanswered, h.pending hpending] at hholders
    · simp [hcalls] at hmem

/-! ## 4. The steps -/

section Steps

variable {session : Session}

theorem owed_accepted {iceRestart other : Bool} {trace : List Entry} :
    Owed iceRestart (trace ++ [.accepted other]) ↔ other = iceRestart ∨ Owed iceRestart trace := by
  rw [Owed, open_append_singleton]
  simp [Serves, Owed]

/-- An offer does for the requests before it, unless one of them wants a restart that it
    does not bring. -/
theorem owed_offer {iceRestart other : Bool} {trace : List Entry} :
    Owed iceRestart (trace ++ [.offer other]) ↔
      Owed iceRestart trace ∧ ¬ (iceRestart = true → other = true) := by
  rw [Owed, open_append_singleton]
  simp [Serves, Owed]

/-- A request is noted or goes on to make an offer.  The request may stand for others. -/
theorem inv_requestPublisherNegotiation {iceRestart again : Bool}
    (hholders : session.holders = session.inFlight.toNat)
    (hpending : session.pending = true → session.inFlight = true)
    (hcarried : ∀ wanted, Owed wanted session.trace →
      (session.pending = true ∧ (wanted = true → session.iceRestartPending = true)) ∨
        (∃ call ∈ session.calls, call.StandsFor wanted) ∨
          (again = true ∧ (wanted = true → iceRestart = true))) :
    Inv (session.requestPublisherNegotiation iceRestart again) := by
  rw [Session.requestPublisherNegotiation]
  split
  · rename_i hflag
    refine ⟨hholders, fun _ => hflag, ?_⟩
    intro wanted howed
    rcases owed_accepted.1 howed with rfl | hbefore
    · exact Or.inl ⟨rfl, fun hwanted => by simp [hwanted]⟩
    · rcases hcarried wanted hbefore with ⟨-, hrestart⟩ | hcall | ⟨-, hrestart⟩
      · exact Or.inl ⟨rfl, fun hwanted => by simp [hrestart hwanted]⟩
      · exact Or.inr hcall
      · exact Or.inl ⟨rfl, fun hwanted => by simp [hrestart hwanted]⟩
  · rename_i hflag
    have hunset : session.inFlight = false := by simpa using hflag
    refine ⟨?_, fun _ => rfl, ?_⟩
    · rw [hunset, Session.holders] at hholders
      simp only [Session.holders, List.countP_append, List.countP_singleton, Call.holds,
        if_true, Bool.toNat_true]
      simp only [Bool.toNat_false] at hholders
      omega
    · intro wanted howed
      rcases hcarried wanted howed with ⟨hnoted, -⟩ | ⟨call, hmem, hstands⟩ | hagain
      · exact absurd (hpending hnoted) hflag
      · exact Or.inr ⟨call, List.mem_append_left _ hmem, hstands⟩
      · exact Or.inr ⟨_, List.mem_append_right _ (List.mem_singleton.2 rfl), hagain⟩

theorem Inv.request (h : Inv session) (iceRestart : Bool) :
    Inv (session.requestPublisherNegotiation iceRestart false) := by
  apply inv_requestPublisherNegotiation h.holders h.pending
  intro wanted howed
  rcases h.carried wanted howed with hnoted | hcall
  · exact Or.inl hnoted
  · exact Or.inr (Or.inl hcall)

theorem Inv.requestAgain (h : Inv session) (i : Nat) : Inv (session.requestAgain i) := by
  unfold Session.requestAgain
  split
  · rename_i iceRestart hcall
    obtain ⟨before, after, hcalls, herase, -⟩ := split_of_getElem? hcall
    apply inv_requestPublisherNegotiation
    · have hholders := h.holders
      rw [Session.holders, hcalls, List.countP_append,
        List.countP_cons_of_neg (by simp [Call.holds])] at hholders
      rw [Session.holders, herase, List.countP_append]
      exact hholders
    · exact h.pending
    · intro wanted howed
      rcases h.carried wanted howed with hnoted | hcarrier
      · exact Or.inl hnoted
      · rw [hcalls, exists_mem_split] at hcarrier
        rw [herase]
        rcases hcarrier with hstands | hother
        · exact Or.inr (Or.inr ⟨rfl, hstands⟩)
        · exact Or.inr (Or.inl hother)
  · exact h

/-- The offer does for whatever the call stands for. -/
theorem Inv.offered (h : Inv session) {i : Nat} {iceRestart again : Bool}
    (hcall : session.calls[i]? = some (.negotiating iceRestart again)) :
    Inv (session.negotiate i .offer) := by
  obtain ⟨before, after, hcalls, herase, -⟩ := split_of_getElem? hcall
  simp only [Session.negotiate, hcall]
  refine ⟨?_, h.pending, ?_⟩
  · have hholders := h.holders
    rw [Session.holders, hcalls, List.countP_append, List.countP_cons_of_pos rfl] at hholders
    rw [Session.holders, herase, List.countP_append]
    simp only at hholders ⊢
    omega
  · intro wanted howed
    rw [← List.singleton_append, ← List.append_assoc, owed_offer, owed_accepted] at howed
    obtain ⟨hbefore, hserves⟩ := howed
    rcases hbefore with rfl | hbefore
    · exact absurd id hserves
    · rcases h.carried wanted hbefore with hnoted | hcarrier
      · exact Or.inl hnoted
      · rw [hcalls, exists_mem_split] at hcarrier
        rw [herase]
        rcases hcarrier with hstands | hother
        · exact absurd hstands.2 hserves
        · exact Or.inr hother

/-- An offer that stands for nobody may fail. -/
theorem Inv.notOffered (h : Inv session) {i : Nat} {iceRestart : Bool}
    (hcall : session.calls[i]? = some (.negotiating iceRestart false)) :
    Inv (session.negotiate i .refused) := by
  obtain ⟨before, after, hcalls, -, hset⟩ := split_of_getElem? hcall
  simp only [Session.negotiate, hcall]
  refine ⟨?_, h.pending, ?_⟩
  · have hholders := h.holders
    rw [Session.holders, hcalls, List.countP_append, List.countP_cons_of_pos rfl] at hholders
    rw [Session.holders, hset, List.countP_append, List.countP_cons_of_pos rfl]
    exact hholders
  · intro wanted howed
    rcases h.carried wanted howed with hnoted | hcarrier
    · exact Or.inl hnoted
    · rw [hcalls, exists_mem_split] at hcarrier
      rw [hset, exists_mem_split]
      rcases hcarrier with hstands | hother
      · exact absurd hstands.1 (by simp)
      · exact Or.inr (Or.inr hother)

theorem Inv.negotiate (h : Inv session) {i : Nat} {made : Made}
    (hsound : Sound session (.negotiate i made)) : Inv (session.negotiate i made) := by
  by_cases hcall : ∃ iceRestart again, session.calls[i]? = some (.negotiating iceRestart again)
  · obtain ⟨iceRestart, again, hcall⟩ := hcall
    cases made with
    | offer => exact h.offered hcall
    | refused =>
      cases again with
      | true => exact absurd hcall (hsound iceRestart)
      | false => exact h.notOffered hcall
    | threw => exact absurd hcall (hsound iceRestart again)
  · unfold Session.negotiate
    split
    · rename_i iceRestart again heq
      exact absurd ⟨iceRestart, again, heq⟩ hcall
    · exact h

theorem Inv.release (h : Inv session) {i : Nat} (hsound : Sound session (.release i)) :
    Inv (session.release i) := by
  unfold Session.release
  split
  · rename_i hcall
    have hpending : session.pending = false := hsound hcall
    obtain ⟨before, after, hcalls, herase, -⟩ := split_of_getElem? hcall
    refine ⟨?_, fun hnoted => by simp [hpending] at hnoted, ?_⟩
    · -- the call was the only one to hold the flag
      have hholders := h.holders
      have hbound := Bool.toNat_le session.inFlight
      rw [Session.holders, hcalls, List.countP_append, List.countP_cons_of_pos rfl] at hholders
      rw [Session.holders, herase, List.countP_append]
      simp only [Bool.toNat_false]
      omega
    · intro wanted howed
      rcases h.carried wanted howed with ⟨hnoted, -⟩ | hcarrier
      · simp [hpending] at hnoted
      · rw [hcalls, exists_mem_split] at hcarrier
        rw [herase]
        exact Or.inr (hcarrier.resolve_left id)
  · exact h

/-- The answer to an offer hands on what was noted. -/
theorem Inv.publisherNegotiationCompleted (h : Inv session)
    (hoffered : session.inFlight = true → 0 < session.unanswered) :
    Inv session.publisherNegotiationCompleted := by
  have hholders : session.calls.countP Call.holds + session.unanswered = session.inFlight.toNat :=
    h.holders
  refine ⟨?_, fun hnoted => by simp [Session.publisherNegotiationCompleted] at hnoted, ?_⟩
  · have hnone : ∀ iceRestart, Call.holds (.requestAgain iceRestart) = false := fun _ => rfl
    have hadded : (if session.pending then [Call.requestAgain session.iceRestartPending]
        else []).countP Call.holds = 0 := by
      split <;> simp [hnone]
    rw [Session.publisherNegotiationCompleted, Session.holders, List.countP_append, hadded]
    simp only [Bool.toNat_false]
    cases hflag : session.inFlight with
    | false =>
      rw [hflag, Bool.toNat_false] at hholders
      omega
    | true =>
      have hunanswered : 0 < session.unanswered := hoffered hflag
      rw [hflag, Bool.toNat_true] at hholders
      omega
  · intro wanted howed
    right
    rcases h.carried wanted howed with ⟨hnoted, hrestart⟩ | ⟨call, hmem, hstands⟩
    · refine ⟨.requestAgain session.iceRestartPending, ?_, hrestart⟩
      simp [Session.publisherNegotiationCompleted, hnoted]
    · exact ⟨call, List.mem_append_left _ hmem, hstands⟩

theorem Inv.step (h : Inv session) {act : Act} (hsound : Sound session act) :
    Inv (session.step act) := by
  cases act with
  | request iceRestart => exact h.request iceRestart
  | publisherNegotiationNeeded =>
    have hsame : Inv { session with hasPublished := true } := { h with }
    exact hsame.request false
  | restartPublisherIce =>
    rw [Session.step]
    split
    · exact h.request true
    · exact h
  | createSender => exact { h with }
  | negotiate i made => exact h.negotiate hsound
  | release i => exact h.release hsound
  | setPublisherAnswer accepted =>
    obtain ⟨rfl, hoffered⟩ := hsound
    exact h.publisherNegotiationCompleted hoffered
  | requestAgain i => exact h.requestAgain i

end Steps

/-! ## 5. Runs -/

theorem inv_new (isPublisherConnectionRequired : Bool) :
    Inv { isPublisherConnectionRequired := isPublisherConnectionRequired } where
  holders := rfl
  pending := by simp
  carried := by simp [Owed]

/-- **Publisher negotiation loses no request**, in every run in which WebRTC rejects no
    offer and no answer, an offer fails only where nothing hangs on it, and the server
    answers none that is still being made. -/
theorem negotiation_keeps {isPublisherConnectionRequired : Bool} {acts : List Act}
    {session : Session}
    (hrun : Exec (Guarded Sound fun before act after => after = before.step act)
      { isPublisherConnectionRequired := isPublisherConnectionRequired } acts session) :
    Keeps session := by
  have hinv : Inv session := by
    refine hrun.invariant ?_ (inv_new isPublisherConnectionRequired)
    rintro before act after hbefore ⟨hsound, rfl⟩
    exact hbefore.step hsound
  exact hinv.keeps

/-- A first offer fails and the next one gets through; a publish and an ICE restart come
    meanwhile, and the answer makes the session request again for both. -/
def coalescedActs : List Act :=
  [.request false, .negotiate 0 .refused, .release 0, .publisherNegotiationNeeded,
   .negotiate 0 .offer, .publisherNegotiationNeeded, .restartPublisherIce,
   .setPublisherAnswer true, .requestAgain 0, .negotiate 0 .offer, .setPublisherAnswer true]

theorem negotiation_keeps_coalescedActs :
    Keeps (coalescedActs.foldl Session.step { isPublisherConnectionRequired := false }) ∧
      (coalescedActs.foldl Session.step { isPublisherConnectionRequired := false }).trace =
        [.accepted false, .offer false, .accepted false, .accepted true, .accepted true,
         .offer true] :=
  ⟨@negotiation_keeps _ coalescedActs _ (exec_guarded (by decide)), by decide⟩

/-- The request on behalf of one that was noted fails, and nobody looks. -/
def failedAgainActs : List Act :=
  [.publisherNegotiationNeeded, .negotiate 0 .offer, .restartPublisherIce,
   .setPublisherAnswer true, .requestAgain 0, .negotiate 0 .refused, .release 0]

theorem failedAgainActs_lose_request :
    (failedAgainActs.foldl Session.step {}).trace =
        [.accepted false, .offer false, .accepted true] ∧
      ¬ Keeps (failedAgainActs.foldl Session.step {}) := by
  refine ⟨by decide, ?_⟩
  intro hkeeps
  apply hkeeps.served ⟨by decide, by decide⟩ true
  exact ⟨[.accepted false, .offer false], .accepted true, [], by decide, rfl, by simp⟩

/-- After a rejected offer every request is noted, and none is offered. -/
example : ([.request false, .negotiate 0 .threw, .request true] : List Act).foldl Session.step {} =
    { inFlight := true, pending := true, iceRestartPending := true, trace := [.accepted true] } :=
  by decide

end LivekitClient.PublisherNegotiation
