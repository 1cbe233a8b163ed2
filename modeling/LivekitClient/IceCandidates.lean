/-
  LivekitClient/IceCandidates.lean
  ================================
  **ICE candidates that come before the remote description** (`deserialize_ice_candidate`,
  `PeerTransport::AddIceCandidate`, `SetRemoteDescription` and `Negotiate` in
  `src/core/detail/peer_transport.cpp`; their callers in `src/core/detail/rtc_session.cpp`).

  A peer connection takes candidates once it has a remote description.  Those that come before
  are kept, and are added with the first description that is accepted; during an ICE restart
  nothing is kept.  A candidate that is no JSON is skipped.  One that WebRTC cannot read, and
  a description that it rejects, is reported by throwing a literal, which no handler catches.
-/
import Mathlib.Data.List.Induction
import LivekitClient.Runs

namespace LivekitClient.IceCandidates

open Runs

/-! ## 1. Reading a candidate -/

structure CandidateJson where
  sdpMid : String
  sdpMLineIndex : Int
  candidate : String
deriving DecidableEq

/-- The JSON library and WebRTC. -/
structure Library (IceCandidate : Type) where
  /-- The three fields, unless the text or one of them makes the library throw. -/
  parse : String → Option CandidateJson
  createIceCandidate : String → Int → String → Option IceCandidate

/-- What is thrown: an exception of the JSON library, or the text of a literal. -/
inductive Thrown where
  | exception
  | literal
deriving DecidableEq

variable {IceCandidate : Type}

def deserializeIceCandidate (lib : Library IceCandidate) (candidateStr : String) :
    Except Thrown IceCandidate :=
  match lib.parse candidateStr with
  | none => .error .exception
  | some json =>
    match lib.createIceCandidate json.sdpMid json.sdpMLineIndex json.candidate with
    | none => .error .literal
    | some candidate => .ok candidate

/-! ## 2. A peer transport -/

/-- What `ToString` gives for a description. -/
structure Sdp where
  text : String
  nonempty : text ≠ ""
deriving DecidableEq

structure PeerTransport (IceCandidate : Type) where
  currentRemoteDescription : Option Sdp := none
  pendingCandidates : List String := []
  restartingIce : Bool := false
  /-- The candidates that the peer connection has been given. -/
  added : List IceCandidate := []
deriving DecidableEq

namespace PeerTransport

def getCurrentRemoteDescription (transport : PeerTransport IceCandidate) : String :=
  match transport.currentRemoteDescription with
  | none => ""
  | some description => description.text

/-- A candidate for the peer connection; `none` where the literal leaves the handler. -/
def give (lib : Library IceCandidate) (transport : PeerTransport IceCandidate)
    (candidateStr : String) : Option (PeerTransport IceCandidate) :=
  match deserializeIceCandidate lib candidateStr with
  | .ok candidate => some { transport with added := transport.added ++ [candidate] }
  | .error .exception => some transport
  | .error .literal => none

def addIceCandidate (lib : Library IceCandidate) (transport : PeerTransport IceCandidate)
    (candidateStr : String) : Option (PeerTransport IceCandidate) :=
  if transport.getCurrentRemoteDescription.isEmpty && !transport.restartingIce then
    some { transport with pendingCandidates := transport.pendingCandidates ++ [candidateStr] }
  else transport.give lib candidateStr

/-- The rest of `SetRemoteDescription` once the peer connection has accepted. -/
def flush (lib : Library IceCandidate) (transport : PeerTransport IceCandidate) :
    Option (PeerTransport IceCandidate) := do
  let given ← transport.pendingCandidates.foldlM (give lib) transport
  return { given with pendingCandidates := [], restartingIce := false }

/-- What `Negotiate` does to the transport, before it asks for the offer. -/
def negotiate (transport : PeerTransport IceCandidate) (iceRestart : Bool) :
    PeerTransport IceCandidate :=
  if iceRestart then { transport with restartingIce := true } else transport

end PeerTransport

/-! ## 3. A session -/

inductive SignalTarget where
  | publisher
  | subscriber
deriving DecidableEq

structure RtcSession (IceCandidate : Type) where
  publisherPc : PeerTransport IceCandidate := {}
  subscriberPc : PeerTransport IceCandidate := {}
deriving DecidableEq

namespace RtcSession

def transport (session : RtcSession IceCandidate) : SignalTarget → PeerTransport IceCandidate
  | .publisher => session.publisherPc
  | .subscriber => session.subscriberPc

def addIceCandidate (lib : Library IceCandidate) (session : RtcSession IceCandidate)
    (candidate : String) : SignalTarget → Option (RtcSession IceCandidate)
  | .publisher => do
    return { session with publisherPc := ← session.publisherPc.addIceCandidate lib candidate }
  | .subscriber => do
    return { session with subscriberPc := ← session.subscriberPc.addIceCandidate lib candidate }

/-- An answer that is accepted becomes the current description; one that is rejected leaves
    the handler as a literal. -/
def setPublisherAnswer (lib : Library IceCandidate) (session : RtcSession IceCandidate)
    (answer : Sdp) (accepted : Bool) : Option (RtcSession IceCandidate) :=
  if accepted then do
    let publisherPc := { session.publisherPc with currentRemoteDescription := some answer }
    return { session with publisherPc := ← publisherPc.flush lib }
  else none

/-- An offer becomes the current description with the answer to it.  `CreateAnswer` and
    `SetLocalDescription` reject as `SetRemoteDescription` does. -/
def createSubscriberAnswerFromOffer (lib : Library IceCandidate)
    (session : RtcSession IceCandidate) (offer : Sdp) (accepted answered : Bool) :
    Option (RtcSession IceCandidate) :=
  if accepted then do
    let flushed ← session.subscriberPc.flush lib
    if answered then
      return { session with
        subscriberPc := { flushed with currentRemoteDescription := some offer } }
    else none
  else none

end RtcSession

/-- What the server sends, and the offers that the session makes. -/
inductive Act where
  | trickle (candidate : String) (target : SignalTarget)
  | answer (answer : Sdp) (accepted : Bool)
  | offer (offer : Sdp) (accepted answered : Bool)
  | negotiate (iceRestart : Bool)
deriving DecidableEq

/-- WebRTC rejects a description. -/
def Act.rejected : Act → Bool
  | .answer _ accepted => !accepted
  | .offer _ accepted answered => !(accepted && answered)
  | .trickle _ _ | .negotiate _ => false

def RtcSession.step (lib : Library IceCandidate) (session : RtcSession IceCandidate) :
    Act → Option (RtcSession IceCandidate)
  | .trickle candidate target => session.addIceCandidate lib candidate target
  | .answer answer accepted => session.setPublisherAnswer lib answer accepted
  | .offer offer accepted answered =>
    session.createSubscriberAnswerFromOffer lib offer accepted answered
  | .negotiate iceRestart =>
    some { session with publisherPc := session.publisherPc.negotiate iceRestart }

def run (lib : Library IceCandidate) (acts : List Act) : Option (RtcSession IceCandidate) :=
  acts.foldlM (RtcSession.step lib) {}

/-! ## 4. What becomes of the candidates -/

def received (target : SignalTarget) (acts : List Act) : List String :=
  acts.filterMap fun
    | .trickle candidate sent => if sent = target then some candidate else none
    | _ => none

def readable (lib : Library IceCandidate) (candidateStr : String) : Option IceCandidate :=
  (deserializeIceCandidate lib candidateStr).toOption

/-- JSON with the three fields, but no candidate for WebRTC. -/
def Fatal (lib : Library IceCandidate) (candidateStr : String) : Prop :=
  deserializeIceCandidate lib candidateStr = .error .literal

/-- No candidate is lost or doubled, none waits beside a remote description, and a fatal one is
    still waiting. -/
structure Kept (lib : Library IceCandidate) (received : List String)
    (transport : PeerTransport IceCandidate) : Prop where
  all : (received.filterMap (readable lib)).Perm
    (transport.added ++ transport.pendingCandidates.filterMap (readable lib))
  waits : transport.pendingCandidates ≠ [] → transport.currentRemoteDescription = none
  known : ∀ candidate ∈ transport.pendingCandidates, candidate ∈ received
  fatal : ∀ candidate ∈ received, Fatal lib candidate →
    candidate ∈ transport.pendingCandidates

/-- The candidates are added in the order in which they came. -/
structure Ordered (lib : Library IceCandidate) (received : List String)
    (transport : PeerTransport IceCandidate) : Prop where
  all : received.filterMap (readable lib) =
    transport.added ++ transport.pendingCandidates.filterMap (readable lib)
  restarts : transport.restartingIce = true → transport.currentRemoteDescription ≠ none

/-- The session restarts ICE only where it has had an answer. -/
def RestartsLate (lib : Library IceCandidate) (acts : List Act) : Prop :=
  ∀ before after, acts = before ++ .negotiate true :: after →
    ∀ session, run lib before = some session →
      session.publisherPc.currentRemoteDescription ≠ none

section Transport

variable {lib : Library IceCandidate} {transport after : PeerTransport IceCandidate}
  {candidate : String} {before : List String}

theorem isEmpty_description (transport : PeerTransport IceCandidate) :
    transport.getCurrentRemoteDescription.isEmpty = true ↔
      transport.currentRemoteDescription = none := by
  unfold PeerTransport.getCurrentRemoteDescription
  split
  · rename_i hnone
    simp [hnone]
  · rename_i description hsome
    simp [hsome, description.nonempty]

/-- The peer connection is given what can be read; what cannot be read is not fatal. -/
theorem give_eq_some (h : transport.give lib candidate = some after) :
    after = { transport with added := transport.added ++ (readable lib candidate).toList } ∧
      ¬ Fatal lib candidate := by
  unfold PeerTransport.give at h
  unfold readable Fatal
  split at h
  · rename_i given hread
    simp only [hread]
    exact ⟨(Option.some.inj h).symm, by simp⟩
  · rename_i hread
    simp only [hread]
    obtain rfl := Option.some.inj h
    exact ⟨by simp [Except.toOption], by simp⟩
  · cases h

theorem give_isSome (h : ¬ Fatal lib candidate) : (transport.give lib candidate).isSome := by
  unfold PeerTransport.give
  split
  · rfl
  · rfl
  · rename_i hread
    exact absurd hread h

theorem foldlM_give {candidates : List String}
    (h : candidates.foldlM (PeerTransport.give lib) transport = some after) :
    after = { transport with
        added := transport.added ++ candidates.filterMap (readable lib) } ∧
      ∀ candidate ∈ candidates, ¬ Fatal lib candidate := by
  induction candidates generalizing transport with
  | nil =>
    obtain rfl := Option.some.inj h
    simp
  | cons first rest ih =>
    rw [List.foldlM_cons] at h
    obtain ⟨given, hgive, hrest⟩ := Option.bind_eq_some_iff.1 h
    obtain ⟨rfl, hfirst⟩ := give_eq_some hgive
    obtain ⟨rfl, hlater⟩ := ih hrest
    refine ⟨?_, List.forall_mem_cons.2 ⟨hfirst, hlater⟩⟩
    cases hread : readable lib first with
    | none => simp [hread]
    | some given => simp [hread]

theorem foldlM_give_isSome {candidates : List String}
    (h : ∀ candidate ∈ candidates, ¬ Fatal lib candidate) :
    (candidates.foldlM (PeerTransport.give lib) transport).isSome := by
  induction candidates generalizing transport with
  | nil => rfl
  | cons first rest ih =>
    obtain ⟨hfirst, hrest⟩ := List.forall_mem_cons.1 h
    obtain ⟨given, hgive⟩ := Option.isSome_iff_exists.1
      (@give_isSome _ lib transport first hfirst)
    rw [List.foldlM_cons, hgive]
    exact ih hrest

theorem flush_eq_some (h : transport.flush lib = some after) :
    after = { transport with
        pendingCandidates := [], restartingIce := false
        added := transport.added ++ transport.pendingCandidates.filterMap (readable lib) } ∧
      ∀ candidate ∈ transport.pendingCandidates, ¬ Fatal lib candidate := by
  obtain ⟨given, hgiven, hafter⟩ := Option.bind_eq_some_iff.1 h
  obtain ⟨rfl, hfatal⟩ := foldlM_give hgiven
  obtain rfl := Option.some.inj hafter
  exact ⟨rfl, hfatal⟩

theorem flush_isSome (h : ∀ candidate ∈ transport.pendingCandidates, ¬ Fatal lib candidate) :
    (transport.flush lib).isSome := by
  obtain ⟨given, hgiven⟩ := Option.isSome_iff_exists.1 (foldlM_give_isSome h)
  rw [PeerTransport.flush, hgiven]
  rfl

theorem addIceCandidate_isSome (h : ¬ Fatal lib candidate) :
    (transport.addIceCandidate lib candidate).isSome := by
  unfold PeerTransport.addIceCandidate
  split
  · rfl
  · exact give_isSome h

theorem Kept.addIceCandidate (h : Kept lib before transport)
    (hadd : transport.addIceCandidate lib candidate = some after) :
    Kept lib (before ++ [candidate]) after := by
  unfold PeerTransport.addIceCandidate at hadd
  split at hadd
  · rename_i hpending
    rw [Bool.and_eq_true, isEmpty_description] at hpending
    obtain rfl := Option.some.inj hadd
    constructor
    · rw [List.filterMap_append, List.filterMap_append, ← List.append_assoc]
      exact h.all.append_right _
    · exact fun _ => hpending.1
    · intro other hmem
      rcases List.mem_append.1 hmem with hmem | hmem
      · exact List.mem_append_left _ (h.known other hmem)
      · exact List.mem_append_right _ hmem
    · intro other hmem hfatal
      rcases List.mem_append.1 hmem with hmem | hmem
      · exact List.mem_append_left _ (h.fatal other hmem hfatal)
      · exact List.mem_append_right _ hmem
  · obtain ⟨rfl, hnot⟩ := give_eq_some hadd
    constructor
    · have hlast : [candidate].filterMap (readable lib) = (readable lib candidate).toList := by
        cases hread : readable lib candidate <;> simp [hread]
      -- what is given now comes before what waits
      have hswap : ((transport.added ++ transport.pendingCandidates.filterMap (readable lib)) ++
          (readable lib candidate).toList).Perm
          ((transport.added ++ (readable lib candidate).toList) ++
            transport.pendingCandidates.filterMap (readable lib)) := by
        simp only [List.append_assoc]
        exact List.perm_append_comm.append_left _
      simp only [List.filterMap_append, hlast]
      exact (h.all.append_right _).trans hswap
    · exact h.waits
    · exact fun other hmem => List.mem_append_left _ (h.known other hmem)
    · intro other hmem hfatal
      rcases List.mem_append.1 hmem with hmem | hmem
      · exact h.fatal other hmem hfatal
      · obtain rfl := List.mem_singleton.1 hmem
        exact absurd hfatal hnot

theorem Kept.flush (h : Kept lib before transport) (hflush : transport.flush lib = some after)
    (description : Option Sdp) :
    Kept lib before { after with currentRemoteDescription := description } := by
  obtain ⟨rfl, hnot⟩ := flush_eq_some hflush
  constructor
  · simpa using h.all
  · intro hpending
    exact absurd rfl hpending
  · intro other hmem
    cases hmem
  · intro other hmem hfatal
    exact absurd hfatal (hnot other (h.fatal other hmem hfatal))

theorem Ordered.addIceCandidate (h : Ordered lib before transport)
    (hkept : Kept lib before transport)
    (hadd : transport.addIceCandidate lib candidate = some after) :
    Ordered lib (before ++ [candidate]) after := by
  unfold PeerTransport.addIceCandidate at hadd
  split at hadd
  · obtain rfl := Option.some.inj hadd
    refine ⟨?_, h.restarts⟩
    rw [List.filterMap_append, List.filterMap_append, h.all, List.append_assoc]
  · rename_i hready
    obtain ⟨rfl, -⟩ := give_eq_some hadd
    refine ⟨?_, h.restarts⟩
    have hnone : transport.pendingCandidates = [] := by
      by_contra hpending
      have hdescription := hkept.waits hpending
      apply hready
      rw [Bool.and_eq_true, isEmpty_description, Bool.not_eq_true', ← Bool.not_eq_true]
      exact ⟨hdescription, fun hrestarts => h.restarts hrestarts hdescription⟩
    have hall := h.all
    rw [hnone, List.filterMap_nil, List.append_nil] at hall
    rw [List.filterMap_append, hall, hnone]
    cases hread : readable lib candidate <;> simp [hread]

theorem Ordered.flush (h : Ordered lib before transport)
    (hflush : transport.flush lib = some after) (description : Option Sdp) :
    Ordered lib before { after with currentRemoteDescription := description } := by
  obtain ⟨rfl, -⟩ := flush_eq_some hflush
  refine ⟨?_, fun hrestarts => Bool.noConfusion hrestarts⟩
  simpa using h.all

end Transport

/-! ## 5. A session -/

section Session

variable {lib : Library IceCandidate} {session after : RtcSession IceCandidate}

/-- What a step does to one transport. -/
inductive Moves (lib : Library IceCandidate) (target : SignalTarget)
    (transport : PeerTransport IceCandidate) : Act → PeerTransport IceCandidate → Prop where
  | stays (act : Act) (hnone : received target [act] = []) :
      Moves lib target transport act transport
  | adds (candidate : String) (next : PeerTransport IceCandidate)
      (hadd : transport.addIceCandidate lib candidate = some next) :
      Moves lib target transport (.trickle candidate target) next
  | flushes (act : Act) (next : PeerTransport IceCandidate) (description : Option Sdp)
      (hnone : received target [act] = []) (hflush : transport.flush lib = some next) :
      Moves lib target transport act { next with currentRemoteDescription := description }
  | restarts (htarget : target = .publisher) :
      Moves lib target transport (.negotiate true) { transport with restartingIce := true }

/-- What is added does not depend on the description. -/
theorem flush_description {transport after : PeerTransport IceCandidate}
    {description : Option Sdp}
    (h : ({ transport with currentRemoteDescription := description }).flush lib = some after) :
    ∃ next, transport.flush lib = some next ∧
      after = { next with currentRemoteDescription := description } := by
  obtain ⟨rfl, hnot⟩ := flush_eq_some h
  have hsame : ∀ candidate ∈ transport.pendingCandidates, ¬ Fatal lib candidate := hnot
  obtain ⟨next, hnext⟩ := Option.isSome_iff_exists.1 (flush_isSome hsame)
  refine ⟨next, hnext, ?_⟩
  obtain ⟨rfl, -⟩ := flush_eq_some hnext
  rfl

theorem moves_of_step {act : Act} (hstep : session.step lib act = some after)
    (target : SignalTarget) :
    Moves lib target (session.transport target) act (after.transport target) := by
  cases act with
  | trickle candidate sent =>
    cases sent with
    | publisher =>
      obtain ⟨publisherPc, hadd, hafter⟩ := Option.bind_eq_some_iff.1 hstep
      obtain rfl := Option.some.inj hafter
      cases target with
      | publisher => exact .adds candidate publisherPc hadd
      | subscriber => exact .stays _ rfl
    | subscriber =>
      obtain ⟨subscriberPc, hadd, hafter⟩ := Option.bind_eq_some_iff.1 hstep
      obtain rfl := Option.some.inj hafter
      cases target with
      | publisher => exact .stays _ rfl
      | subscriber => exact .adds candidate subscriberPc hadd
  | answer answer accepted =>
    cases accepted with
    | false => cases hstep
    | true =>
      obtain ⟨publisherPc, hflush, hafter⟩ := Option.bind_eq_some_iff.1 hstep
      obtain rfl := Option.some.inj hafter
      cases target with
      | publisher =>
        obtain ⟨next, hnext, rfl⟩ := flush_description hflush
        exact .flushes _ next _ rfl hnext
      | subscriber => exact .stays _ rfl
  | offer offer accepted answered =>
    cases accepted with
    | false => cases hstep
    | true =>
      obtain ⟨flushed, hflush, hafter⟩ := Option.bind_eq_some_iff.1 hstep
      cases answered with
      | false => cases hafter
      | true =>
        obtain rfl := Option.some.inj hafter
        cases target with
        | publisher => exact .stays _ rfl
        | subscriber => exact .flushes _ flushed (some offer) rfl hflush
  | negotiate iceRestart =>
    obtain rfl := Option.some.inj hstep
    cases target with
    | publisher =>
      cases iceRestart with
      | false => exact .stays _ rfl
      | true => exact .restarts rfl
    | subscriber => exact .stays _ rfl

theorem received_append (target : SignalTarget) (acts more : List Act) :
    received target (acts ++ more) = received target acts ++ received target more :=
  List.filterMap_append

variable {target : SignalTarget} {transport next : PeerTransport IceCandidate} {act : Act}
  {acts : List Act}

theorem Kept.moves (h : Kept lib (received target acts) transport)
    (hmoves : Moves lib target transport act next) :
    Kept lib (received target (acts ++ [act])) next := by
  simp only [received_append]
  cases hmoves with
  | stays _ hnone =>
    simpa only [hnone, List.append_nil] using h
  | adds candidate _ hadd =>
    have hone : received target [.trickle candidate target] = [candidate] := by simp [received]
    simpa only [hone] using h.addIceCandidate hadd
  | flushes _ flushed description hnone hflush =>
    simpa only [hnone, List.append_nil] using h.flush hflush description
  | restarts =>
    have hnone : received target [.negotiate true] = [] := rfl
    simp only [hnone, List.append_nil]
    exact ⟨h.all, h.waits, h.known, h.fatal⟩

theorem Ordered.moves (h : Ordered lib (received target acts) transport)
    (hkept : Kept lib (received target acts) transport)
    (hlate : target = .publisher → act = .negotiate true →
      transport.currentRemoteDescription ≠ none)
    (hmoves : Moves lib target transport act next) :
    Ordered lib (received target (acts ++ [act])) next := by
  simp only [received_append]
  cases hmoves with
  | stays _ hnone =>
    simpa only [hnone, List.append_nil] using h
  | adds candidate _ hadd =>
    have hone : received target [.trickle candidate target] = [candidate] := by simp [received]
    simpa only [hone] using h.addIceCandidate hkept hadd
  | flushes _ flushed description hnone hflush =>
    simpa only [hnone, List.append_nil] using h.flush hflush description
  | restarts htarget =>
    have hnone : received target [.negotiate true] = [] := rfl
    simp only [hnone, List.append_nil]
    exact ⟨h.all, fun _ => hlate htarget rfl⟩

theorem kept_new (lib : Library IceCandidate) : Kept lib [] ({} : PeerTransport IceCandidate) :=
  ⟨.refl _, fun h => absurd rfl h, fun _ hmem => absurd hmem List.not_mem_nil,
    fun _ hmem => absurd hmem List.not_mem_nil⟩

theorem run_append_singleton (acts : List Act) (act : Act) :
    run lib (acts ++ [act]) = (run lib acts).bind fun session => session.step lib act := by
  simp [run, List.foldlM_append]

theorem kept_run (target : SignalTarget) (acts : List Act)
    (hrun : run lib acts = some session) :
    Kept lib (received target acts) (session.transport target) := by
  induction acts using List.reverseRecOn generalizing session with
  | nil =>
    obtain rfl := Option.some.inj hrun
    cases target <;> exact kept_new lib
  | append_singleton acts act ih =>
    simp only [run_append_singleton] at hrun
    obtain ⟨before, hbefore, hstep⟩ := Option.bind_eq_some_iff.1 hrun
    exact (ih hbefore).moves (moves_of_step hstep target)

theorem ordered_run (target : SignalTarget) (acts : List Act)
    (hrun : run lib acts = some session)
    (hlate : target = .publisher → RestartsLate lib acts) :
    Ordered lib (received target acts) (session.transport target) := by
  induction acts using List.reverseRecOn generalizing session with
  | nil =>
    obtain rfl := Option.some.inj hrun
    cases target <;> exact ⟨rfl, fun h => Bool.noConfusion h⟩
  | append_singleton acts act ih =>
    simp only [run_append_singleton] at hrun
    obtain ⟨before, hbefore, hstep⟩ := Option.bind_eq_some_iff.1 hrun
    have hearlier : target = .publisher → RestartsLate lib acts := by
      intro htarget first later hsplit
      exact hlate htarget first (later ++ [act]) (by rw [hsplit]; simp)
    refine (ih hbefore hearlier).moves (kept_run target acts hbefore) ?_
      (moves_of_step hstep target)
    rintro rfl rfl
    exact hlate rfl acts [] rfl before hbefore

/-- A step fails only on a rejected description, or on a fatal candidate, received now or
    before. -/
theorem step_isSome (haccepted : act.rejected = false)
    (hkept : ∀ target, Kept lib (received target acts) (session.transport target))
    (hreadable : ∀ target, ∀ candidate ∈ received target (acts ++ [act]),
      ¬ Fatal lib candidate) :
    (session.step lib act).isSome := by
  have hpending : ∀ target, ∀ candidate ∈ (session.transport target).pendingCandidates,
      ¬ Fatal lib candidate := by
    intro target candidate hmem
    apply hreadable target
    simp only [received_append]
    exact List.mem_append_left _ ((hkept target).known candidate hmem)
  cases act with
  | trickle candidate target =>
    have hcandidate : ¬ Fatal lib candidate := by
      apply hreadable target
      simp only [received_append]
      exact List.mem_append_right _ (by simp [received])
    cases target with
    | publisher =>
      obtain ⟨added, hadded⟩ := Option.isSome_iff_exists.1
        (@addIceCandidate_isSome _ lib session.publisherPc candidate hcandidate)
      simp [RtcSession.step, RtcSession.addIceCandidate, hadded]
    | subscriber =>
      obtain ⟨added, hadded⟩ := Option.isSome_iff_exists.1
        (@addIceCandidate_isSome _ lib session.subscriberPc candidate hcandidate)
      simp [RtcSession.step, RtcSession.addIceCandidate, hadded]
  | answer answer accepted =>
    cases accepted with
    | false => cases haccepted
    | true =>
      let publisherPc : PeerTransport IceCandidate :=
        { session.publisherPc with currentRemoteDescription := some answer }
      have hflush : (publisherPc.flush lib).isSome := flush_isSome (hpending .publisher)
      obtain ⟨flushed, hflushed⟩ := Option.isSome_iff_exists.1 hflush
      have hpublisher : ({ session.publisherPc with currentRemoteDescription := some answer } :
          PeerTransport IceCandidate).flush lib = some flushed := hflushed
      simp [RtcSession.step, RtcSession.setPublisherAnswer, hpublisher]
  | offer offer accepted answered =>
    simp only [Act.rejected, Bool.not_eq_false', Bool.and_eq_true] at haccepted
    obtain ⟨rfl, rfl⟩ := haccepted
    obtain ⟨flushed, hflushed⟩ :=
      Option.isSome_iff_exists.1 (flush_isSome (hpending .subscriber))
    have hsubscriber : session.subscriberPc.flush lib = some flushed := hflushed
    simp [RtcSession.step, RtcSession.createSubscriberAnswerFromOffer, hsubscriber]
  | negotiate iceRestart => rfl

theorem run_isSome (acts : List Act) (haccepted : ∀ act ∈ acts, act.rejected = false)
    (hreadable : ∀ target, ∀ candidate ∈ received target acts, ¬ Fatal lib candidate) :
    (run lib acts).isSome := by
  induction acts using List.reverseRecOn with
  | nil => rfl
  | append_singleton acts act ih =>
    have hearlier : ∀ target, ∀ candidate ∈ received target acts, ¬ Fatal lib candidate := by
      intro target candidate hmem
      apply hreadable target
      simp only [received_append]
      exact List.mem_append_left _ hmem
    have hbefore : ∀ act ∈ acts, act.rejected = false :=
      fun other hmem => haccepted other (List.mem_append_left _ hmem)
    have hlast : act.rejected = false :=
      haccepted act (List.mem_append_right _ (List.mem_singleton.2 rfl))
    obtain ⟨session, hsession⟩ := Option.isSome_iff_exists.1 (ih hbefore hearlier)
    simp only [run_append_singleton, hsession]
    exact step_isSome hlast (fun target => kept_run target acts hsession) hreadable

end Session

/-- **No candidate is lost.**  A run goes through if WebRTC rejects no description and the
    server sends no candidate that it cannot read.  Where it went through, the candidates of
    each connection are those that were added and those that wait for the first remote
    description, in the order in which they came unless ICE was restarted before it; and no
    candidate that was taken up was fatal. -/
theorem candidates_kept (lib : Library IceCandidate) (acts : List Act) :
    ((∀ act ∈ acts, act.rejected = false) →
      (∀ target, ∀ candidate ∈ received target acts, ¬ Fatal lib candidate) →
        ∃ session, run lib acts = some session) ∧
    ∀ session, run lib acts = some session → ∀ target,
      Kept lib (received target acts) (session.transport target) ∧
      ((target = .publisher → RestartsLate lib acts) →
        (received target acts).filterMap (readable lib) =
          (session.transport target).added ++
            (session.transport target).pendingCandidates.filterMap (readable lib)) := by
  constructor
  · intro haccepted hreadable
    exact Option.isSome_iff_exists.1 (run_isSome acts haccepted hreadable)
  · intro session hrun target
    exact ⟨kept_run target acts hrun, fun hlate => (ordered_run target acts hrun hlate).all⟩

end LivekitClient.IceCandidates
