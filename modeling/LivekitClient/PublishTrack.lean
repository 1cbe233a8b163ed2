/-
  LivekitClient/PublishTrack.lean
  ===============================
  **Publishing a track, and what a failure leaves behind** (`LocalParticipant::PublishTrack`
  in `src/core/participant/local_participant.cpp`, `RtcEngine::CreateSender` and
  `RemoveSender` in `src/core/detail/rtc_engine.cpp`, their counterparts in
  `rtc_session.cpp`, `AddTransceiver` and `RemoveTrack` in `peer_transport.cpp`).

  The sender of a track is a transceiver that is added to the publisher connection
  before anything is known about its encryption.  Two places take it out again: the
  session, when the codec preferences are refused, has the new transceiver in its hands;
  the participant, when the E2EE manager refuses the sender, asks for the sender of the
  track, and the track has the transceiver of an earlier publish or none.
-/
import LivekitClient.E2eeManager
import LivekitClient.DataPacket

namespace LivekitClient.PublishTrack

open Std
open LivekitClient.DataPacket (EncryptionType)
open LivekitClient.E2eeManager

/-! ## 1. Tracks, options and requests -/

inductive VideoCodec where
  | vp8
  | h264
  | vp9
  | av1
deriving DecidableEq

def videoCodecName : VideoCodec → String
  | .h264 => "H264"
  | .vp9 => "VP9"
  | .av1 => "AV1"
  | .vp8 => "VP8"

/-- The options that `PublishTrack` itself reads; the others go into the encoding plan. -/
structure TrackPublishOptions where
  videoCodec : VideoCodec := .vp8
  dtx : Bool := true
  red : Bool := true
  source : TrackSource := .unknown
  stream : String := ""
deriving DecidableEq

/-- `BuildVideoEncodingPlan` is not modelled; a layer is a width, a height and a bitrate,
    an encoding its rid and its bitrate. -/
structure VideoEncodingPlan where
  encodings : List (String × Nat) := []
  layers : List (Nat × Nat × Nat) := []
deriving DecidableEq

structure AddTrackRequest where
  cid : String
  name : String
  type : TrackKind
  source : TrackSource
  muted : Bool
  disableDtx : Bool
  disableRed : Bool
  encryption : EncryptionType
  stream : String
  width : Nat := 0
  height : Nat := 0
  layers : List (Nat × Nat × Nat) := []
  /-- The codec and the cid. -/
  simulcastCodecs : List (String × String) := []
deriving DecidableEq

/-- What the server answers to an `AddTrackRequest`. -/
structure TrackInfo where
  sid : String
  name : String
  type : TrackKind
  source : TrackSource
deriving DecidableEq

/-- `cid` is the id of the media track, if the track has one, and `videoSource` the width
    and height of the source of a `LocalVideoTrack`.  Transceivers are named by numbers. -/
structure LocalTrack where
  cid : Option String
  kind : TrackKind
  name : String := ""
  source : TrackSource := .unknown
  muted : Bool := false
  enabled : Bool := true
  videoSource : Option (Nat × Nat) := none
  sid : String := ""
  transceiver : Option Nat := none
  statsProvider : Option Nat := none
deriving DecidableEq

def LocalTrack.updateInfo (track : LocalTrack) (info : TrackInfo) : LocalTrack :=
  { track with kind := info.type, source := info.source, name := info.name, sid := info.sid }

structure LocalTrackPublication where
  info : TrackInfo
  options : TrackPublishOptions
deriving DecidableEq

/-! ## 2. The publisher connection -/

inductive RtpTransceiverDirection where
  | sendOnly
  | inactive
deriving DecidableEq

structure Transceiver where
  id : Nat
  cid : String
  direction : RtpTransceiverDirection
deriving DecidableEq

/-- What the outside says in the course of one call: the server to the request, WebRTC to
    what it is asked, and whether the listener's callbacks throw. -/
structure Answers where
  /-- `none`: the time is over; `error`: `AddTrack` throws. -/
  addTrack : AddTrackRequest → Except Unit (Option TrackInfo)
  buildVideoEncodingPlan : Nat → Nat → Bool → TrackPublishOptions → VideoEncodingPlan
  addTransceiver : String → List (String × Nat) → Bool
  setCodecPreferences : List String → Bool
  setDirectionWithError : Nat → Bool
  removeTrackOrError : Nat → Bool
  onLocalTrackPublishedThrows : Bool
  onLocalTrackSubscribedThrows : Bool

structure PeerTransport where
  transceivers : List Transceiver := []
deriving DecidableEq

namespace PeerTransport

def addTransceiver (pc : PeerTransport) (id : Nat) (cid : String) : PeerTransport :=
  { pc with transceivers := pc.transceivers ++ [⟨id, cid, .sendOnly⟩] }

def setInactive (pc : PeerTransport) (id : Nat) : PeerTransport :=
  { pc with
    transceivers := pc.transceivers.map fun transceiver =>
      if transceiver.id = id then { transceiver with direction := .inactive } else transceiver }

/-- A transceiver of an earlier connection is not among `transceivers`. -/
def removeTrack (pc : PeerTransport) (answers : Answers) : Option Nat → Bool × PeerTransport
  | none => (false, pc)
  | some id =>
    if answers.setDirectionWithError id then (answers.removeTrackOrError id, pc.setInactive id)
    else (false, pc)

def sending (pc : PeerTransport) : List Transceiver :=
  pc.transceivers.filter fun transceiver => transceiver.direction = .sendOnly

end PeerTransport

structure RtcSession where
  publisherPc : PeerTransport := {}
  /-- The names of the video codecs that the factory can send. -/
  capabilities : List String := []
  isPublisherConnectionRequired : Bool := false
  hasPublished : Bool := false

def codecNameEquals (left right : String) : Bool :=
  left.toList.map Char.toLower = right.toList.map Char.toLower

namespace RtcSession

def supportsVideoCodec (session : RtcSession) (codec : VideoCodec) : Bool :=
  session.capabilities.any (codecNameEquals · (videoCodecName codec))

def preferred (session : RtcSession) (codec : VideoCodec) : List String :=
  session.capabilities.filter (codecNameEquals · (videoCodecName codec))

/-- `id` is the name of the transceiver that a success makes. -/
def createSender (session : RtcSession) (answers : Answers) (id : Nat) (cid : String)
    (kind : TrackKind) (options : TrackPublishOptions) (encodings : List (String × Nat)) :
    Option Nat × RtcSession :=
  let session := { session with isPublisherConnectionRequired := true }
  if answers.addTransceiver cid encodings = false then (none, session)
  else
    let session := { session with publisherPc := session.publisherPc.addTransceiver id cid }
    if kind ≠ .video then (some id, session)
    else
      let preferred := session.preferred options.videoCodec
      if preferred.isEmpty || !answers.setCodecPreferences preferred then
        (none, { session with
          publisherPc := (session.publisherPc.removeTrack answers (some id)).2 })
      else (some id, session)

def removeSender (session : RtcSession) (answers : Answers) (track : LocalTrack) :
    Bool × RtcSession :=
  let (removed, publisherPc) := session.publisherPc.removeTrack answers track.transceiver
  (removed, { session with publisherPc := publisherPc })

end RtcSession

/-! ## 3. The participant -/

/-- The local participant with its engine, and the track that the call is about.
    `nextTransceiver` is the name of the next transceiver that WebRTC makes. -/
structure State where
  identity : String
  encryptionType : EncryptionType := .none
  e2eeManager : Option Manager := none
  eventListener : Bool := false
  trackPublications : ExtTreeMap String LocalTrackPublication := ∅
  subscribedLocalTrackSids : List String := []
  emittedLocalTrackSubscriptions : List String := []
  rtcSession : Option RtcSession := none
  track : LocalTrack
  nextTransceiver : Nat := 0

namespace State

def supportsVideoCodec (s : State) (codec : VideoCodec) : Bool :=
  match s.rtcSession with
  | none => false
  | some session => session.supportsVideoCodec codec

/-- `PublishTrack` before its `try`: the request and the plan, unless a check fails. -/
def addTrackRequest (s : State) (answers : Answers) (options : TrackPublishOptions) :
    Option (AddTrackRequest × VideoEncodingPlan) :=
  match s.track.cid with
  | none => none
  | some cid =>
    let req : AddTrackRequest :=
      { cid, name := s.track.name, type := s.track.kind, source := options.source,
        muted := s.track.muted, disableDtx := !options.dtx, disableRed := !options.red,
        encryption := s.encryptionType, stream := options.stream }
    if s.track.kind = .video then
      match s.track.videoSource with
      | none => none
      | some (width, height) =>
        if width = 0 ∨ height = 0 then none
        else if s.supportsVideoCodec options.videoCodec = false then none
        else
          let plan := answers.buildVideoEncodingPlan width height
            (options.source = .screenShare) options
          some ({ req with
            width, height, layers := plan.layers,
            simulcastCodecs := [(videoCodecName options.videoCodec, cid)] }, plan)
    else some (req, {})

/-- `RtcEngine::CreateSender`.  The session reads the kind that the server has given. -/
def createSender (s : State) (answers : Answers) (cid : String) (options : TrackPublishOptions)
    (encodings : List (String × Nat)) : Option Nat × State :=
  match s.rtcSession with
  | none => (none, s)
  | some session =>
    let (transceiver, session) :=
      session.createSender answers s.nextTransceiver cid s.track.kind options encodings
    let s := { s with rtcSession := some session, nextTransceiver := s.nextTransceiver + 1 }
    match transceiver with
    | none => (none, s)
    | some id => (some id, { s with track := { s.track with statsProvider := some id } })

/-- `RtcEngine::RemoveSender`. -/
def removeSender (s : State) (answers : Answers) : Bool × State :=
  match s.rtcSession with
  | none => (false, s)
  | some session =>
    let (removed, session) := session.removeSender answers s.track
    let s := { s with rtcSession := some session }
    if removed then (true, { s with track := { s.track with statsProvider := none } })
    else (false, s)

/-- `AttachSender`, when there is a manager. -/
def attachSender (s : State) (kind : TrackKind) (transceiver : Nat) : Bool × State :=
  match s.e2eeManager with
  | none => (true, s)
  | some manager =>
    let (attached, manager) :=
      manager.attach ⟨.sender, s.track.sid⟩ s.identity kind (.sender transceiver)
    (attached, { s with e2eeManager := some manager })

def setTransceiver (s : State) (transceiver : Nat) : State :=
  { s with track := { s.track with transceiver := some transceiver } }

/-- What follows of it in the session is a matter of its negotiations. -/
def publisherNegotiationNeeded (s : State) : State :=
  { s with rtcSession := s.rtcSession.map fun session => { session with hasPublished := true } }

def addTrackPublication (s : State) (publication : LocalTrackPublication) : State :=
  { s with trackPublications := s.trackPublications.insert publication.info.sid publication }

def setEnabled (s : State) (enabled : Bool) : State :=
  { s with track := { s.track with enabled := enabled } }

/-- The section under `local_track_subscriptions_mutex_`: whether the subscription is to be
    reported here. -/
def emitSubscribed (s : State) (sid : String) : Bool × State :=
  if sid ∈ s.subscribedLocalTrackSids ∧ sid ∉ s.emittedLocalTrackSubscriptions then
    (true, { s with emittedLocalTrackSubscriptions := sid :: s.emittedLocalTrackSubscriptions })
  else (false, s)

/-- The listener's callbacks; what they throw is caught and makes the call fail. -/
def notify (s : State) (answers : Answers) (sid : String) : Bool × State :=
  if s.eventListener = false then (true, s)
  else if answers.onLocalTrackPublishedThrows then (false, s)
  else
    let (emit, s) := s.emitSubscribed sid
    (!(emit && answers.onLocalTrackSubscribedThrows), s)

/-- The part of `PublishTrack` behind `AttachSender`. -/
def completePublish (s : State) (answers : Answers) (options : TrackPublishOptions)
    (info : TrackInfo) (transceiver : Nat) : Bool × State :=
  let s := (s.setTransceiver transceiver).publisherNegotiationNeeded
  let s := (s.addTrackPublication ⟨info, options⟩).setEnabled true
  s.notify answers info.sid

/-- The part of `PublishTrack` behind `AddTrack`. -/
def publishAnswered (s : State) (answers : Answers) (options : TrackPublishOptions)
    (cid : String) (encodings : List (String × Nat)) (info : TrackInfo) : Bool × State :=
  let kind := s.track.kind
  let s := { s with track := s.track.updateInfo info }
  match s.createSender answers cid options encodings with
  | (none, s) => (false, s)
  | (some transceiver, s) =>
    match s.attachSender kind transceiver with
    | (false, s) => (false, (s.removeSender answers).2)
    | (true, s) => s.completePublish answers options info transceiver

def publishTrack (s : State) (answers : Answers) (options : TrackPublishOptions) :
    Bool × State :=
  match s.addTrackRequest answers options with
  | none => (false, s)
  | some (req, plan) =>
    match answers.addTrack req with
    | .error _ => (false, s)
    | .ok none => (false, s)
    | .ok (some info) => s.publishAnswered answers options req.cid plan.encodings info

end State

/-! ## 4. Names of transceivers

A participant is a state in which every name of a transceiver is one that WebRTC has
already given. -/

structure State.WellFormed (s : State) : Prop where
  transceivers : ∀ session ∈ s.rtcSession, ∀ transceiver ∈ session.publisherPc.transceivers,
    transceiver.id < s.nextTransceiver
  track : ∀ id ∈ s.track.transceiver, id < s.nextTransceiver

theorem PeerTransport.mem_setInactive {pc : PeerTransport} {id : Nat} {transceiver : Transceiver}
    (h : transceiver ∈ (pc.setInactive id).transceivers) :
    ∃ old ∈ pc.transceivers, transceiver.id = old.id := by
  obtain ⟨old, hold, heq⟩ := List.mem_map.mp h
  refine ⟨old, hold, ?_⟩
  rw [← heq]
  split <;> rfl

theorem PeerTransport.mem_removeTrack {pc : PeerTransport} {answers : Answers} {id : Option Nat}
    {transceiver : Transceiver} (h : transceiver ∈ (pc.removeTrack answers id).2.transceivers) :
    ∃ old ∈ pc.transceivers, transceiver.id = old.id := by
  cases id with
  | none => exact ⟨transceiver, h, rfl⟩
  | some id =>
    simp only [PeerTransport.removeTrack] at h
    split at h
    · exact mem_setInactive h
    · exact ⟨transceiver, h, rfl⟩

/-- The codec preferences of a video track are refused, or there are none to set. -/
def RtcSession.codecRefused (session : RtcSession) (answers : Answers) (kind : TrackKind)
    (options : TrackPublishOptions) : Bool :=
  kind = .video ∧ ((session.preferred options.videoCodec).isEmpty ||
    !answers.setCodecPreferences (session.preferred options.videoCodec))

/-- What `CreateSender` may do to the publisher connection. -/
theorem RtcSession.createSender_cases (session : RtcSession) (answers : Answers) (id : Nat)
    (cid : String) (kind : TrackKind) (options : TrackPublishOptions)
    (encodings : List (String × Nat)) :
    let created := session.createSender answers id cid kind options encodings
    (answers.addTransceiver cid encodings = false ∧ created.1 = none ∧
      created.2.publisherPc = session.publisherPc) ∨
    (answers.addTransceiver cid encodings = true ∧
      session.codecRefused answers kind options = true ∧ created.1 = none ∧
      created.2.publisherPc =
        ((session.publisherPc.addTransceiver id cid).removeTrack answers (some id)).2) ∨
    (answers.addTransceiver cid encodings = true ∧
      session.codecRefused answers kind options = false ∧ created.1 = some id ∧
      created.2.publisherPc = session.publisherPc.addTransceiver id cid) := by
  intro created
  cases hadd : answers.addTransceiver cid encodings with
  | false => exact .inl ⟨rfl, by simp [created, createSender, hadd]⟩
  | true =>
    right
    by_cases hkind : kind = .video
    · cases hrefused : (session.preferred options.videoCodec).isEmpty ||
          !answers.setCodecPreferences (session.preferred options.videoCodec) with
      | true =>
        refine .inl ⟨rfl, by simpa [codecRefused, hkind] using hrefused, ?_⟩
        simp only [created, createSender, hadd, hkind]
        simp only [preferred] at hrefused ⊢
        simp [hrefused]
      | false =>
        refine .inr ⟨rfl, by simpa [codecRefused, hkind] using hrefused, ?_⟩
        simp only [created, createSender, hadd, hkind]
        simp only [preferred] at hrefused ⊢
        simp [hrefused]
    · exact .inr ⟨rfl, by simp [codecRefused, hkind], by simp [created, createSender, hadd, hkind]⟩

theorem RtcSession.createSender_names {session : RtcSession} {answers : Answers} {id : Nat}
    {cid : String} {kind : TrackKind} {options : TrackPublishOptions}
    {encodings : List (String × Nat)} {transceiver : Transceiver}
    (h : transceiver ∈
      (session.createSender answers id cid kind options encodings).2.publisherPc.transceivers) :
    transceiver.id = id ∨ ∃ old ∈ session.publisherPc.transceivers, transceiver.id = old.id := by
  have hadded : ∀ old ∈ (session.publisherPc.addTransceiver id cid).transceivers,
      old.id = id ∨ ∃ old' ∈ session.publisherPc.transceivers, old.id = old'.id := by
    intro old hold
    rcases List.mem_append.mp hold with hold | hnew
    · exact .inr ⟨old, hold, rfl⟩
    · rw [List.mem_singleton.mp hnew]
      exact .inl rfl
  rcases session.createSender_cases answers id cid kind options encodings with
    ⟨-, -, hpc⟩ | ⟨-, -, -, hpc⟩ | ⟨-, -, -, hpc⟩
  · rw [hpc] at h
    exact .inr ⟨transceiver, h, rfl⟩
  · rw [hpc] at h
    obtain ⟨old, hold, heq⟩ := PeerTransport.mem_removeTrack h
    rw [heq]
    exact hadded old hold
  · rw [hpc] at h
    exact hadded _ h

theorem RtcSession.createSender_fst {session : RtcSession} {answers : Answers} {id : Nat}
    {cid : String} {kind : TrackKind} {options : TrackPublishOptions}
    {encodings : List (String × Nat)} {id' : Nat}
    (h : (session.createSender answers id cid kind options encodings).1 = some id') : id' = id := by
  rcases session.createSender_cases answers id cid kind options encodings with
    ⟨-, hnone, -⟩ | ⟨-, -, hnone, -⟩ | ⟨-, -, hsome, -⟩
  · rw [hnone] at h
    cases h
  · rw [hnone] at h
    cases h
  · rw [hsome] at h
    exact (Option.some.inj h).symm

namespace State

variable {s : State} {session : RtcSession} {answers : Answers} {options : TrackPublishOptions}

theorem WellFormed.updateInfo (h : s.WellFormed) (info : TrackInfo) :
    WellFormed { s with track := s.track.updateInfo info } :=
  ⟨h.transceivers, h.track⟩

theorem WellFormed.createSender (h : s.WellFormed) (answers : Answers) (cid : String)
    (options : TrackPublishOptions) (encodings : List (String × Nat)) :
    (s.createSender answers cid options encodings).2.WellFormed ∧
      ∀ id ∈ (s.createSender answers cid options encodings).1,
        id < (s.createSender answers cid options encodings).2.nextTransceiver := by
  unfold State.createSender
  split
  · exact ⟨h, by simp⟩
  · rename_i session hsession
    have hnames : ∀ transceiver ∈ (session.createSender answers s.nextTransceiver cid s.track.kind
        options encodings).2.publisherPc.transceivers, transceiver.id < s.nextTransceiver + 1 := by
      intro transceiver hmem
      rcases RtcSession.createSender_names hmem with heq | ⟨old, hold, heq⟩
      · omega
      · have := h.transceivers session hsession old hold
        omega
    have hstate : WellFormed { s with
        rtcSession := some (session.createSender answers s.nextTransceiver cid s.track.kind
          options encodings).2
        nextTransceiver := s.nextTransceiver + 1 } := by
      refine ⟨?_, fun id hid => Nat.lt_succ_of_lt (h.track id hid)⟩
      intro session' hsession'
      cases hsession'
      exact hnames
    cases hid : (session.createSender answers s.nextTransceiver cid s.track.kind options
        encodings).1 with
    | none => simpa [hid] using hstate
    | some id =>
      have hlt := RtcSession.createSender_fst hid
      simp only [hid]
      refine ⟨⟨hstate.transceivers, hstate.track⟩, ?_⟩
      intro id' hid'
      cases hid'
      omega

theorem WellFormed.attachSender (h : s.WellFormed) (kind : TrackKind) (transceiver : Nat) :
    (s.attachSender kind transceiver).2.WellFormed := by
  unfold State.attachSender
  split
  · exact h
  · exact ⟨h.transceivers, h.track⟩

theorem attachSender_nextTransceiver (s : State) (kind : TrackKind) (transceiver : Nat) :
    (s.attachSender kind transceiver).2.nextTransceiver = s.nextTransceiver := by
  unfold State.attachSender
  split <;> rfl

theorem removeSender_snd (hsession : s.rtcSession = some session) (answers : Answers) :
    ∃ statsProvider, (s.removeSender answers).2 = { s with
      rtcSession := some (session.removeSender answers s.track).2
      track := { s.track with statsProvider := statsProvider } } := by
  unfold State.removeSender
  rw [hsession]
  dsimp only
  split
  · exact ⟨_, rfl⟩
  · exact ⟨_, rfl⟩

theorem WellFormed.removeSender (h : s.WellFormed) : (s.removeSender answers).2.WellFormed := by
  cases hsession : s.rtcSession with
  | none =>
    simp only [State.removeSender, hsession]
    exact h
  | some session =>
    obtain ⟨statsProvider, hremoved⟩ := removeSender_snd hsession answers
    rw [hremoved]
    refine ⟨?_, h.track⟩
    intro session' hsession' transceiver hmem
    cases hsession'
    obtain ⟨old, hold, heq⟩ := PeerTransport.mem_removeTrack hmem
    rw [heq]
    exact h.transceivers session hsession old hold

/-- The callbacks change the set of reported subscriptions only. -/
theorem notify_snd (s : State) (answers : Answers) (sid : String) :
    ∃ emitted, (s.notify answers sid).2 = { s with emittedLocalTrackSubscriptions := emitted } := by
  have hemit : ∃ emitted, (s.emitSubscribed sid).2 =
      { s with emittedLocalTrackSubscriptions := emitted } := by
    unfold emitSubscribed
    split
    · exact ⟨_, rfl⟩
    · exact ⟨_, rfl⟩
  unfold notify
  split
  · exact ⟨_, rfl⟩
  · split
    · exact ⟨_, rfl⟩
    · exact hemit

theorem WellFormed.completePublish (h : s.WellFormed) {info : TrackInfo} {transceiver : Nat}
    (hlt : transceiver < s.nextTransceiver) :
    (s.completePublish answers options info transceiver).2.WellFormed := by
  obtain ⟨emitted, hnotify⟩ := notify_snd
    ((((s.setTransceiver transceiver).publisherNegotiationNeeded).addTrackPublication
      ⟨info, options⟩).setEnabled true) answers info.sid
  unfold State.completePublish
  dsimp only
  rw [hnotify]
  refine ⟨?_, ?_⟩
  · intro session hsession old hold
    obtain ⟨session', hsession', heq⟩ := Option.map_eq_some_iff.mp hsession
    rw [← heq] at hold
    exact h.transceivers session' hsession' old hold
  · intro id hid
    cases hid
    exact hlt

theorem WellFormed.publishAnswered (h : s.WellFormed) (cid : String)
    (encodings : List (String × Nat)) (info : TrackInfo) :
    (s.publishAnswered answers options cid encodings info).2.WellFormed := by
  obtain ⟨hcreated, hlt⟩ := (h.updateInfo info).createSender answers cid options encodings
  unfold State.publishAnswered
  dsimp only
  split
  · rename_i created heq
    rw [heq] at hcreated
    exact hcreated
  · rename_i transceiver created heq
    rw [heq] at hcreated hlt
    have hattached := hcreated.attachSender s.track.kind transceiver
    have hnext := created.attachSender_nextTransceiver s.track.kind transceiver
    split
    · rename_i attached heq'
      rw [heq'] at hattached
      exact hattached.removeSender
    · rename_i attached heq'
      rw [heq'] at hattached hnext
      apply hattached.completePublish
      rw [hnext]
      exact hlt transceiver rfl

theorem WellFormed.publishTrack (h : s.WellFormed) :
    (s.publishTrack answers options).2.WellFormed := by
  unfold State.publishTrack
  split
  · exact h
  · split
    · exact h
    · exact h
    · exact h.publishAnswered _ _ _

end State

/-- A state in which the names of transceivers are used up in order. -/
structure Participant where
  state : State
  wellFormed : state.WellFormed

def Participant.publishTrack (participant : Participant) (answers : Answers)
    (options : TrackPublishOptions) : Bool × Participant :=
  ((participant.state.publishTrack answers options).1,
   ⟨(participant.state.publishTrack answers options).2, participant.wellFormed.publishTrack⟩)

/-! ## 5. What a failed publish leaves behind -/

def State.sending (s : State) : List Transceiver :=
  match s.rtcSession with
  | none => []
  | some session => session.publisherPc.sending

/-- A sender of the track in the publisher connection that has no frame transformer though
    E2EE is configured. -/
def State.Bare (s : State) (transceiver : Transceiver) : Prop :=
  transceiver ∈ s.sending ∧ s.track.cid = some transceiver.cid ∧
    ∃ manager ∈ s.e2eeManager, manager.installed (.sender transceiver.id) = none

structure LeavesNothing (before after : State) : Prop where
  sending : ∀ transceiver, transceiver ∈ after.sending ↔ transceiver ∈ before.sending
  trackPublications : after.trackPublications = before.trackPublications
  bare : ∀ transceiver, after.Bare transceiver → before.Bare transceiver

namespace State

/-- The call gets as far as to add a transceiver to the publisher connection. -/
def TransceiverAdded (s : State) (answers : Answers) (options : TrackPublishOptions)
    (session : RtcSession) (info : TrackInfo) : Prop :=
  ∃ req plan, s.addTrackRequest answers options = some (req, plan) ∧
    answers.addTrack req = .ok (some info) ∧ s.rtcSession = some session ∧
    answers.addTransceiver req.cid plan.encodings = true

/-- What `Attach` refuses. -/
def SenderRefused (s : State) (info : TrackInfo) : Prop :=
  s.e2eeManager.isSome ∧ (info.sid = "" ∨ s.identity = "" ∨ s.track.kind = .unknown)

def ListenerThrows (s : State) (answers : Answers) (info : TrackInfo) : Prop :=
  s.eventListener = true ∧ (answers.onLocalTrackPublishedThrows = true ∨
    info.sid ∈ s.subscribedLocalTrackSids ∧ info.sid ∉ s.emittedLocalTrackSubscriptions ∧
      answers.onLocalTrackSubscribedThrows = true)

/-- Once the transceiver is there: either the codec is refused and the transceiver lets
    itself be made inactive, or neither the E2EE manager refuses nor the listener throws. -/
def Undone (s : State) (answers : Answers) (options : TrackPublishOptions) : Prop :=
  ∀ session info, s.TransceiverAdded answers options session info →
    if session.codecRefused answers info.type options then
      answers.setDirectionWithError s.nextTransceiver = true
    else ¬ s.SenderRefused info ∧ ¬ s.ListenerThrows answers info

end State

/-! ### The sending transceivers, layer by layer -/

namespace PeerTransport

theorem sending_addTransceiver (pc : PeerTransport) (id : Nat) (cid : String) :
    (pc.addTransceiver id cid).sending = pc.sending ++ [⟨id, cid, .sendOnly⟩] := by
  simp [sending, addTransceiver, List.filter_append]

/-- A transceiver that is made inactive stops sending, and only that one. -/
theorem mem_sending_setInactive {pc : PeerTransport} {id : Nat} {transceiver : Transceiver} :
    transceiver ∈ (pc.setInactive id).sending ↔
      transceiver ∈ pc.sending ∧ transceiver.id ≠ id := by
  simp only [sending, setInactive, List.mem_filter, List.mem_map, decide_eq_true_eq]
  constructor
  · rintro ⟨⟨old, hold, heq⟩, hsend⟩
    by_cases hid : old.id = id
    · rw [if_pos hid] at heq
      rw [← heq] at hsend
      cases hsend
    · rw [if_neg hid] at heq
      rw [← heq] at hsend ⊢
      exact ⟨⟨hold, hsend⟩, hid⟩
  · rintro ⟨⟨hmem, hsend⟩, hid⟩
    exact ⟨⟨transceiver, hmem, if_neg hid⟩, hsend⟩

/-- The session's way to undo: the new transceiver itself is made inactive. -/
theorem mem_sending_undo {pc : PeerTransport} {id : Nat} (cid : String)
    (hfresh : ∀ transceiver ∈ pc.transceivers, transceiver.id < id) (transceiver : Transceiver) :
    transceiver ∈ ((pc.addTransceiver id cid).setInactive id).sending ↔
      transceiver ∈ pc.sending := by
  rw [mem_sending_setInactive, sending_addTransceiver, List.mem_append, List.mem_singleton]
  constructor
  · rintro ⟨hold | hnew, hid⟩
    · exact hold
    · rw [hnew] at hid
      exact absurd rfl hid
  · intro hmem
    have := hfresh transceiver (List.mem_filter.mp hmem).1
    exact ⟨.inl hmem, by omega⟩

theorem mem_sending_removeTrack {pc : PeerTransport} (answers : Answers) {id : Option Nat}
    {transceiver : Transceiver} (hmem : transceiver ∈ pc.sending)
    (hid : id ≠ some transceiver.id) :
    transceiver ∈ (pc.removeTrack answers id).2.sending := by
  cases id with
  | none => exact hmem
  | some id =>
    simp only [removeTrack]
    split
    · refine mem_sending_setInactive.mpr ⟨hmem, ?_⟩
      intro heq
      exact hid (by rw [heq])
    · exact hmem

end PeerTransport

/-- The new transceiver is among those that send. -/
def Strays (before after : State) : Prop :=
  ∃ transceiver ∈ after.sending, transceiver.id = before.nextTransceiver

/-- Nothing that `LeavesNothing` looks at has changed. -/
structure Same (before after : State) : Prop where
  sending : ∀ transceiver, transceiver ∈ after.sending ↔ transceiver ∈ before.sending
  trackPublications : after.trackPublications = before.trackPublications
  e2eeManager : after.e2eeManager = before.e2eeManager
  cid : after.track.cid = before.track.cid

theorem Same.refl (s : State) : Same s s := ⟨fun _ => Iff.rfl, rfl, rfl, rfl⟩

theorem Same.leavesNothing {before after : State} (h : Same before after) :
    LeavesNothing before after := by
  refine ⟨h.sending, h.trackPublications, ?_⟩
  rintro transceiver ⟨hmem, hcid, hbare⟩
  rw [h.cid] at hcid
  rw [h.e2eeManager] at hbare
  exact ⟨(h.sending transceiver).mp hmem, hcid, hbare⟩

theorem State.WellFormed.not_leavesNothing {before after : State} (h : before.WellFormed)
    (hstrays : Strays before after) : ¬ LeavesNothing before after := by
  rintro ⟨hsending, -, -⟩
  obtain ⟨transceiver, hmem, hid⟩ := hstrays
  have hbefore := (hsending transceiver).mp hmem
  unfold State.sending at hbefore
  split at hbefore
  · cases hbefore
  · rename_i session hsession
    have := h.transceivers session hsession transceiver (List.mem_filter.mp hbefore).1
    omega

namespace State

section CreateSender

variable {s : State} {session : RtcSession} (hsession : s.rtcSession = some session)
  {answers : Answers} {cid : String} {options : TrackPublishOptions}
  {encodings : List (String × Nat)}

include hsession

theorem createSender_of_none
    (hnone : (session.createSender answers s.nextTransceiver cid s.track.kind options
      encodings).1 = none) :
    s.createSender answers cid options encodings = (none, { s with
      rtcSession := some (session.createSender answers s.nextTransceiver cid s.track.kind options
        encodings).2
      nextTransceiver := s.nextTransceiver + 1 }) := by
  simp only [createSender, hsession, hnone]

theorem createSender_of_some {id : Nat}
    (hsome : (session.createSender answers s.nextTransceiver cid s.track.kind options
      encodings).1 = some id) :
    s.createSender answers cid options encodings = (some id, { s with
      rtcSession := some (session.createSender answers s.nextTransceiver cid s.track.kind options
        encodings).2
      nextTransceiver := s.nextTransceiver + 1
      track := { s.track with statsProvider := some id } }) := by
  simp only [createSender, hsession, hsome]

/-- `CreateSender` of the engine, for the publisher connection of its session. -/
theorem createSender_cases (h : s.WellFormed) (answers : Answers) (cid : String)
    (options : TrackPublishOptions) (encodings : List (String × Nat)) :
    let created := s.createSender answers cid options encodings
    (answers.addTransceiver cid encodings = false ∧ created.1 = none ∧ Same s created.2) ∨
    (answers.addTransceiver cid encodings = true ∧
      session.codecRefused answers s.track.kind options = true ∧ created.1 = none ∧
      (if answers.setDirectionWithError s.nextTransceiver then Same s created.2
       else Strays s created.2)) ∨
    (answers.addTransceiver cid encodings = true ∧
      session.codecRefused answers s.track.kind options = false ∧
      ∃ session', ⟨s.nextTransceiver, cid, .sendOnly⟩ ∈ session'.publisherPc.sending ∧
        created = (some s.nextTransceiver, { s with
          rtcSession := some session', nextTransceiver := s.nextTransceiver + 1,
          track := { s.track with statsProvider := some s.nextTransceiver } })) := by
  have hnew : (⟨s.nextTransceiver, cid, .sendOnly⟩ : Transceiver) ∈
      (session.publisherPc.addTransceiver s.nextTransceiver cid).sending := by
    rw [PeerTransport.sending_addTransceiver]
    exact List.mem_append_right _ (List.mem_singleton_self _)
  have hsending : s.sending = session.publisherPc.sending := by
    unfold State.sending
    rw [hsession]
  rcases session.createSender_cases answers s.nextTransceiver cid s.track.kind options encodings
    with ⟨hadd, hnone, hpc⟩ | ⟨hadd, hrefused, hnone, hpc⟩ | ⟨hadd, hrefused, hsome, hpc⟩
  · rw [createSender_of_none hsession hnone]
    refine .inl ⟨hadd, rfl, ?_, rfl, rfl, rfl⟩
    intro transceiver
    rw [hsending, ← hpc]
    rfl
  · rw [createSender_of_none hsession hnone]
    refine .inr (.inl ⟨hadd, hrefused, rfl, ?_⟩)
    by_cases hdirection : answers.setDirectionWithError s.nextTransceiver = true
    · simp only [PeerTransport.removeTrack, if_pos hdirection] at hpc ⊢
      refine ⟨?_, rfl, rfl, rfl⟩
      intro transceiver
      rw [hsending, ← PeerTransport.mem_sending_undo cid (h.transceivers session hsession), ← hpc]
      rfl
    · simp only [PeerTransport.removeTrack, if_neg hdirection] at hpc ⊢
      rw [← hpc] at hnew
      exact ⟨_, hnew, rfl⟩
  · rw [createSender_of_some hsession hsome]
    rw [← hpc] at hnew
    exact .inr (.inr ⟨hadd, hrefused, _, hnew, rfl⟩)

end CreateSender

/-- The manager refuses a track without a sid, a participant without an identity and a
    track of unknown kind, and then does nothing. -/
theorem attachSender_cases (s : State) (kind : TrackKind) (transceiver : Nat) :
    (s.attachSender kind transceiver = (false, s) ∧ s.e2eeManager.isSome ∧
      (s.track.sid = "" ∨ s.identity = "" ∨ kind = .unknown)) ∨
    (¬ (s.e2eeManager.isSome ∧ (s.track.sid = "" ∨ s.identity = "" ∨ kind = .unknown)) ∧
      ∃ manager, s.attachSender kind transceiver = (true, { s with e2eeManager := manager })) := by
  cases hmanager : s.e2eeManager with
  | none =>
    refine .inr ⟨by simp, none, ?_⟩
    simp only [attachSender, hmanager]
    rw [← hmanager]
  | some manager =>
    by_cases hrefused : s.track.sid = "" ∨ s.identity = "" ∨ kind = .unknown
    · refine .inl ⟨?_, rfl, hrefused⟩
      have hattach : manager.attach ⟨.sender, s.track.sid⟩ s.identity kind (.sender transceiver) =
          (false, manager) := by
        unfold Manager.attach
        rw [if_pos]
        simpa [or_assoc] using hrefused
      simp only [attachSender, hmanager, hattach]
      rw [← hmanager]
    · refine .inr ⟨by simpa using hrefused, ?_⟩
      have hattach : (manager.attach ⟨.sender, s.track.sid⟩ s.identity kind
          (.sender transceiver)).1 = true := by
        unfold Manager.attach
        rw [if_neg]
        simpa [or_assoc] using hrefused
      simp only [attachSender, hmanager, hattach]
      exact ⟨_, rfl⟩

/-- What the participant undoes is the transceiver of the track, whatever that is. -/
theorem mem_sending_removeSender {s : State} {answers : Answers} {transceiver : Transceiver}
    (hmem : transceiver ∈ s.sending) (hid : s.track.transceiver ≠ some transceiver.id) :
    transceiver ∈ (s.removeSender answers).2.sending := by
  unfold State.sending at hmem
  split at hmem
  · cases hmem
  · rename_i session hsession
    have hkept := PeerTransport.mem_sending_removeTrack answers hmem hid
    obtain ⟨statsProvider, hremoved⟩ := removeSender_snd hsession answers
    rw [hremoved]
    exact hkept

theorem sending_publisherNegotiationNeeded (s : State) :
    s.publisherNegotiationNeeded.sending = s.sending := by
  unfold State.sending publisherNegotiationNeeded
  cases s.rtcSession <;> rfl

theorem notify_fst (s : State) (answers : Answers) (info : TrackInfo) :
    (s.notify answers info.sid).1 = false ↔ s.ListenerThrows answers info := by
  unfold notify ListenerThrows emitSubscribed
  by_cases hlistener : s.eventListener = false
  · simp [hlistener]
  · simp only [Bool.not_eq_false] at hlistener
    by_cases hthrows : answers.onLocalTrackPublishedThrows = true
    · simp [hlistener, hthrows]
    · by_cases hemit : info.sid ∈ s.subscribedLocalTrackSids ∧
          info.sid ∉ s.emittedLocalTrackSubscriptions
      · simp [hlistener, hthrows, hemit]
      · rw [if_neg hemit]
        simp only [hlistener, hthrows]
        simp only [Bool.false_and, Bool.not_false, Bool.true_eq_false, if_false, Bool.false_eq_true,
          false_or, true_and, false_iff]
        rintro ⟨hsub, hemitted, -⟩
        exact hemit ⟨hsub, hemitted⟩

theorem completePublish_fst (s : State) (answers : Answers) (options : TrackPublishOptions)
    (info : TrackInfo) (transceiver : Nat) :
    (s.completePublish answers options info transceiver).1 = false ↔
      s.ListenerThrows answers info :=
  notify_fst _ answers info

theorem sending_completePublish (s : State) (answers : Answers) (options : TrackPublishOptions)
    (info : TrackInfo) (transceiver : Nat) :
    (s.completePublish answers options info transceiver).2.sending = s.sending := by
  obtain ⟨emitted, hnotify⟩ := notify_snd
    ((((s.setTransceiver transceiver).publisherNegotiationNeeded).addTrackPublication
      ⟨info, options⟩).setEnabled true) answers info.sid
  unfold completePublish
  dsimp only
  rw [hnotify]
  exact sending_publisherNegotiationNeeded (s.setTransceiver transceiver)

end State

/-! ### The whole call -/

namespace State

variable {s : State} {answers : Answers} {options : TrackPublishOptions} {session : RtcSession}
  {info : TrackInfo}

/-- The call behind `AddTrack`, for the publisher connection of the session. -/
theorem publishAnswered_cases (h : s.WellFormed) (hsession : s.rtcSession = some session)
    (answers : Answers) (options : TrackPublishOptions) (cid : String)
    (encodings : List (String × Nat)) (info : TrackInfo) :
    let published := s.publishAnswered answers options cid encodings info
    (answers.addTransceiver cid encodings = false ∧ Same s published.2) ∨
    (answers.addTransceiver cid encodings = true ∧
      session.codecRefused answers info.type options = true ∧ published.1 = false ∧
      (if answers.setDirectionWithError s.nextTransceiver then Same s published.2
       else Strays s published.2)) ∨
    (answers.addTransceiver cid encodings = true ∧
      session.codecRefused answers info.type options = false ∧
      (published.1 = false ↔ s.SenderRefused info ∨ s.ListenerThrows answers info) ∧
      Strays s published.2) := by
  unfold publishAnswered
  dsimp only
  have hcreated := createSender_cases (s := { s with track := s.track.updateInfo info }) hsession
    (h.updateInfo info) answers cid options encodings
  rcases hcreated with
    ⟨hadd, hnone, hsame⟩ | ⟨hadd, hrefused, hnone, hundone⟩ | ⟨hadd, hrefused, session', hnew, heq⟩
  · rw [show State.createSender _ answers cid options encodings = (none, _) from
      Prod.ext hnone rfl]
    exact .inl ⟨hadd, hsame.sending, hsame.trackPublications, hsame.e2eeManager, hsame.cid⟩
  · rw [show State.createSender _ answers cid options encodings = (none, _) from
      Prod.ext hnone rfl]
    refine .inr (.inl ⟨hadd, hrefused, rfl, ?_⟩)
    by_cases hdirection : answers.setDirectionWithError s.nextTransceiver = true
    · rw [if_pos hdirection] at hundone ⊢
      exact ⟨hundone.sending, hundone.trackPublications, hundone.e2eeManager, hundone.cid⟩
    · rw [if_neg hdirection] at hundone ⊢
      exact hundone
  · rw [heq]
    refine .inr (.inr ⟨hadd, hrefused, ?_⟩)
    dsimp only
    -- the state with the new transceiver in the connection and the track as it was
    generalize hstate : (State.mk _ _ _ _ _ _ _ _ _ _ : State) = created
    have hstrays : (⟨s.nextTransceiver, cid, .sendOnly⟩ : Transceiver) ∈ created.sending := by
      rw [← hstate]
      exact hnew
    rcases created.attachSender_cases s.track.kind s.nextTransceiver with
      ⟨hattach, hrefuses⟩ | ⟨hattached, manager, hattach⟩
    · rw [hattach]
      have hold : created.track.transceiver ≠ some s.nextTransceiver := by
        rw [← hstate]
        intro hname
        exact Nat.lt_irrefl _ (h.track _ hname)
      refine ⟨iff_of_true rfl (.inl ?_), _, mem_sending_removeSender hstrays hold, rfl⟩
      rw [← hstate] at hrefuses
      exact hrefuses
    · rw [hattach]
      dsimp only
      refine ⟨?_, ⟨s.nextTransceiver, cid, .sendOnly⟩, ?_, rfl⟩
      · rw [completePublish_fst]
        rw [← hstate] at hattached ⊢
        constructor
        · exact .inr
        · rintro (hrefuses | hthrows)
          · exact absurd hrefuses hattached
          · exact hthrows
      · rw [sending_completePublish]
        exact hstrays

theorem publishAnswered_of_no_session (hsession : s.rtcSession = none) (answers : Answers)
    (options : TrackPublishOptions) (cid : String) (encodings : List (String × Nat))
    (info : TrackInfo) :
    Same s (s.publishAnswered answers options cid encodings info).2 := by
  simp only [publishAnswered, createSender, hsession]
  exact ⟨fun _ => by simp only [sending, hsession], rfl, rfl, rfl⟩

/-- A call that adds no transceiver changes nothing that counts. -/
theorem publishTrack_of_not_added (h : s.WellFormed)
    (hnot : ∀ session info, ¬ s.TransceiverAdded answers options session info) :
    Same s (s.publishTrack answers options).2 := by
  unfold publishTrack
  split
  · exact Same.refl s
  · rename_i req plan hreq
    split
    · exact Same.refl s
    · exact Same.refl s
    · rename_i info hinfo
      cases hsession : s.rtcSession with
      | none => exact publishAnswered_of_no_session hsession _ _ _ _ _
      | some session =>
        rcases publishAnswered_cases h hsession answers options req.cid plan.encodings info with
          ⟨-, hsame⟩ | ⟨hadd, -⟩ | ⟨hadd, -⟩
        · exact hsame
        · exact absurd ⟨req, plan, hreq, hinfo, hsession, hadd⟩ (hnot session info)
        · exact absurd ⟨req, plan, hreq, hinfo, hsession, hadd⟩ (hnot session info)

theorem publishTrack_of_added (h : s.WellFormed)
    (hadded : s.TransceiverAdded answers options session info) :
    let published := s.publishTrack answers options
    (session.codecRefused answers info.type options = true ∧ published.1 = false ∧
      (if answers.setDirectionWithError s.nextTransceiver then Same s published.2
       else Strays s published.2)) ∨
    (session.codecRefused answers info.type options = false ∧
      (published.1 = false ↔ s.SenderRefused info ∨ s.ListenerThrows answers info) ∧
      Strays s published.2) := by
  obtain ⟨req, plan, hreq, hinfo, hsession, hadd⟩ := hadded
  simp only [publishTrack, hreq, hinfo]
  rcases publishAnswered_cases h hsession answers options req.cid plan.encodings info with
    ⟨hadd', -⟩ | ⟨-, hrefused⟩ | ⟨-, hpublished⟩
  · rw [hadd] at hadd'
    cases hadd'
  · exact .inl hrefused
  · exact .inr hpublished

end State

/-- A failed publish leaves nothing behind exactly if it had nothing to undo or undid it:
    no transceiver was added, or its codec was refused and it could be made inactive. -/
theorem publishTrack_leavesNothing_iff (participant : Participant) (answers : Answers)
    (options : TrackPublishOptions) :
    ((participant.publishTrack answers options).1 = false →
      LeavesNothing participant.state (participant.publishTrack answers options).2.state) ↔
    participant.state.Undone answers options := by
  obtain ⟨s, h⟩ := participant
  constructor
  · intro hleaves session info hadded
    rcases State.publishTrack_of_added h hadded with
      ⟨hrefused, hfailed, hundone⟩ | ⟨hrefused, hfailed, hstrays⟩
    · rw [if_pos hrefused]
      by_contra hdirection
      rw [if_neg hdirection] at hundone
      exact h.not_leavesNothing hundone (hleaves hfailed)
    · rw [hrefused, if_neg Bool.false_ne_true, ← not_or]
      intro hwhy
      exact h.not_leavesNothing hstrays (hleaves (hfailed.mpr hwhy))
  · intro hundone hfalse
    by_cases hadded : ∃ session info, s.TransceiverAdded answers options session info
    · obtain ⟨session, info, hadded⟩ := hadded
      have hcondition := hundone session info hadded
      rcases State.publishTrack_of_added h hadded with
        ⟨hrefused, -, hsame⟩ | ⟨hrefused, hfailed, -⟩
      · rw [if_pos hrefused] at hcondition
        rw [if_pos hcondition] at hsame
        exact hsame.leavesNothing
      · rw [hrefused, if_neg Bool.false_ne_true, ← not_or] at hcondition
        exact absurd (hfailed.mp hfalse) hcondition
    · refine (State.publishTrack_of_not_added h ?_).leavesNothing
      intro session info hadded'
      exact hadded ⟨session, info, hadded'⟩

/-- A microphone of a participant with E2EE, before its first publish. -/
def microphone : Participant where
  state :=
    { identity := "alice", encryptionType := .gcm, e2eeManager := some (.new true)
      rtcSession := some {}, track := { cid := some "mic", kind := .audio } }
  wellFormed := by
    refine ⟨?_, ?_⟩
    · intro session hsession transceiver hmem
      cases hsession
      cases hmem
    · intro id hid
      cases hid

/-- Everything goes well but that the server's answer has no sid. -/
def noSidAnswers : Answers where
  addTrack := fun req => .ok (some ⟨"", req.name, req.type, req.source⟩)
  buildVideoEncodingPlan := fun _ _ _ _ => {}
  addTransceiver := fun _ _ => true
  setCodecPreferences := fun _ => true
  setDirectionWithError := fun _ => true
  removeTrackOrError := fun _ => true
  onLocalTrackPublishedThrows := false
  onLocalTrackSubscribedThrows := false

/-- The E2EE manager refuses the sender, the publish fails, and the sender stays in the
    publisher connection without a frame transformer. -/
theorem refused_sender_stays :
    (microphone.publishTrack noSidAnswers { source := .microphone }).1 = false ∧
    (microphone.publishTrack noSidAnswers { source := .microphone }).2.state.Bare
      ⟨0, "mic", .sendOnly⟩ ∧
    ¬ LeavesNothing microphone.state
      (microphone.publishTrack noSidAnswers { source := .microphone }).2.state := by
  have hsending : (⟨0, "mic", .sendOnly⟩ : Transceiver) ∈
      (microphone.publishTrack noSidAnswers { source := .microphone }).2.state.sending := by
    decide
  refine ⟨by decide, ⟨hsending, by decide, _, rfl, rfl⟩, ?_⟩
  intro hleaves
  have hbefore := (hleaves.sending _).mp hsending
  revert hbefore
  decide

end LivekitClient.PublishTrack
