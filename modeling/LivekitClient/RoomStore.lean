/-
  LivekitClient/RoomStore.lean
  ============================
  **Participants, publications and tracks of a room** (`src/core/room.cpp`,
  `src/core/participant/participant.cpp`, `remote_participant.cpp` and the
  publications under `src/core/track`).

  Snapshots of participants come from the server, media tracks from the peer
  connection, on different threads.  Whatever `participants_mutex_` protects is one
  step here; what a function does after it has let go of the mutex (the listener's
  calls, the tracks that it found ready) is returned.

  A remote participant carries that its publications are those its snapshot lists,
  and the map of participants that each is stored under its own sid.
-/
import Mathlib.Data.Nat.Basic
import LivekitClient.VersionedSlot
import LivekitClient.DataPacket
import LivekitClient.Types

namespace LivekitClient.RoomStore

open Std
open LivekitClient.DataPacket (Attributes EncryptionType)

/-! ## 1. Snapshots -/

structure TrackInfo where
  sid : String
  name : String := ""
  muted : Bool := false
  encryption : EncryptionType := .none
deriving DecidableEq

inductive ParticipantState where
  | joining
  | joined
  | active
  | disconnected
deriving DecidableEq

structure ParticipantPermissions where
  canSubscribe : Bool := false
  canPublish : Bool := false
  canPublishData : Bool := false
  canPublishSources : List Nat := []
  hidden : Bool := false
  recorder : Bool := false
  canUpdateMetadata : Bool := false
  agent : Bool := false
  canSubscribeMetrics : Bool := false
  canManageAgentSession : Bool := false
deriving DecidableEq

structure ParticipantInfo where
  sid : String
  identity : String := ""
  state : ParticipantState := .active
  version : UInt32 := 0
  name : String := ""
  metadata : String := ""
  attributes : Attributes := ∅
  permission : ParticipantPermissions := {}
  tracks : List TrackInfo := []
deriving DecidableEq

structure JoinResponse where
  participant : Option ParticipantInfo
  otherParticipants : List ParticipantInfo

/-- A publication of this sid is listed; one without a sid does not count. -/
def listsTrack (tracks : List TrackInfo) (sid : String) : Bool :=
  decide (sid ≠ "") && tracks.any fun track => track.sid == sid

/-! ## 2. Tracks and publications -/

inductive TrackKind where
  | audio
  | video
deriving DecidableEq

/-- A track of a subscriber connection; `connection` numbers the connections. -/
structure MediaTrack where
  id : String
  kind : TrackKind
  connection : Nat
deriving DecidableEq

structure RemoteTrack where
  sid : String
  name : String
  participantSid : String
  media : MediaTrack
deriving DecidableEq

structure RemoteTrackPublication where
  info : TrackInfo
  subscriptionDesired : Bool
  trackAttached : Bool := false
  track : Option RemoteTrack := none
deriving DecidableEq

namespace RemoteTrackPublication

def new (autoSubscribe : Bool) (info : TrackInfo) : RemoteTrackPublication :=
  { info := info, subscriptionDesired := autoSubscribe }

def updateInfo (publication : RemoteTrackPublication) (info : TrackInfo) :
    RemoteTrackPublication :=
  { publication with info := info }

def subscriptionStatus (publication : RemoteTrackPublication) : TrackSubscriptionStatus :=
  .of publication.subscriptionDesired publication.trackAttached

/-- `SetTrackAttached` and `SetTrack`. -/
def attach (publication : RemoteTrackPublication) (track : Option RemoteTrack) :
    RemoteTrackPublication :=
  { publication with trackAttached := track.isSome, track := track }

end RemoteTrackPublication

/-- A publication of the local participant; `owned` marks the client's own ones. -/
structure LocalPublication where
  info : TrackInfo
  owned : Bool
deriving DecidableEq

/-! ## 3. Participants -/

/-- `UpdateInfoFields` refuses the snapshot. -/
def isStale (held info : ParticipantInfo) : Bool :=
  decide (held.sid ≠ "") && decide (held.sid = info.sid) && decide (info.version < held.version)

section Publications

variable {P : Type} (create : TrackInfo → P) (update : P → TrackInfo → P)

def updateTrack (publications : ExtTreeMap String P) (track : TrackInfo) : ExtTreeMap String P :=
  if track.sid = "" then publications
  else
    match publications[track.sid]? with
    | none => publications.insert track.sid (create track)
    | some publication => publications.insert track.sid (update publication track)

/-- The publications of an accepted snapshot. -/
def updateTracks (publications : ExtTreeMap String P) (tracks : List TrackInfo) :
    ExtTreeMap String P :=
  (tracks.foldl (updateTrack create update) publications).filter fun sid _ =>
    listsTrack tracks sid

theorem mem_updateTrack {publications : ExtTreeMap String P} {track : TrackInfo} {sid : String} :
    sid ∈ updateTrack create update publications track ↔
      (sid ≠ "" ∧ track.sid = sid) ∨ sid ∈ publications := by
  unfold updateTrack
  by_cases hempty : track.sid = ""
  · rw [if_pos hempty]
    constructor
    · exact .inr
    · rintro (⟨hne, rfl⟩ | hmem)
      · exact absurd hempty hne
      · exact hmem
  · rw [if_neg hempty]
    have hinsert : ∀ publication : P,
        sid ∈ publications.insert track.sid publication ↔
          (sid ≠ "" ∧ track.sid = sid) ∨ sid ∈ publications := by
      intro publication
      rw [ExtTreeMap.mem_insert, LawfulEqOrd.compare_eq_iff_eq]
      constructor
      · rintro (rfl | hmem)
        · exact .inl ⟨hempty, rfl⟩
        · exact .inr hmem
      · rintro (⟨-, rfl⟩ | hmem)
        · exact .inl rfl
        · exact .inr hmem
    cases publications[track.sid]? <;> exact hinsert _

theorem mem_foldl_updateTrack {publications : ExtTreeMap String P} {tracks : List TrackInfo}
    {sid : String} :
    sid ∈ tracks.foldl (updateTrack create update) publications ↔
      listsTrack tracks sid = true ∨ sid ∈ publications := by
  induction tracks generalizing publications with
  | nil => simp [listsTrack]
  | cons track rest ih =>
    rw [List.foldl_cons, ih, mem_updateTrack]
    simp only [listsTrack, List.any_cons, Bool.and_eq_true, decide_eq_true_eq, Bool.or_eq_true,
      beq_iff_eq]
    tauto

theorem mem_updateTracks {publications : ExtTreeMap String P} {tracks : List TrackInfo}
    {sid : String} :
    sid ∈ updateTracks create update publications tracks ↔ listsTrack tracks sid = true := by
  unfold updateTracks
  rw [ExtTreeMap.mem_filter]
  constructor
  · rintro ⟨hmem, hlists⟩
    rwa [ExtTreeMap.getKey_eq] at hlists
  · intro hlists
    refine ⟨(mem_foldl_updateTrack create update).mpr (.inl hlists), ?_⟩
    rwa [ExtTreeMap.getKey_eq]

end Publications

/-- A remote participant: its publications are those that its snapshot lists. -/
structure RemoteParticipant where
  info : ParticipantInfo
  autoSubscribe : Bool
  trackPublications : ExtTreeMap String RemoteTrackPublication
  mem_trackPublications : ∀ sid, sid ∈ trackPublications ↔ listsTrack info.tracks sid = true

namespace RemoteParticipant

def accept (info : ParticipantInfo) (autoSubscribe : Bool)
    (publications : ExtTreeMap String RemoteTrackPublication) : RemoteParticipant where
  info := info
  autoSubscribe := autoSubscribe
  trackPublications :=
    updateTracks (.new autoSubscribe) RemoteTrackPublication.updateInfo publications info.tracks
  mem_trackPublications := fun _ => mem_updateTracks _ _

def new (info : ParticipantInfo) (autoSubscribe : Bool) : RemoteParticipant :=
  accept info autoSubscribe ∅

def updateFromInfo (participant : RemoteParticipant) (info : ParticipantInfo) :
    RemoteParticipant :=
  if isStale participant.info info then participant
  else accept info participant.autoSubscribe participant.trackPublications

def hasTrackSid (participant : RemoteParticipant) (sid : String) : Bool :=
  participant.info.tracks.any fun track => track.sid == sid

/-- The publication of `sid`, if there is one, gets or loses its track. -/
def attach (participant : RemoteParticipant) (sid : String) (track : Option RemoteTrack) :
    RemoteParticipant :=
  { participant with
    trackPublications := participant.trackPublications.modify sid (·.attach track)
    mem_trackPublications := by
      intro other
      rw [ExtTreeMap.mem_modify]
      exact participant.mem_trackPublications other }

@[simp]
theorem info_attach (participant : RemoteParticipant) (sid : String)
    (track : Option RemoteTrack) : (participant.attach sid track).info = participant.info := rfl

end RemoteParticipant

structure LocalParticipant where
  info : ParticipantInfo
  trackPublications : ExtTreeMap String LocalPublication

namespace LocalParticipant

def updateInfoFields (participant : LocalParticipant) (info : ParticipantInfo) :
    LocalParticipant :=
  if isStale participant.info info then participant else { participant with info := info }

/-- Client-owned publications stay when the snapshot leaves them out. -/
def updateFromInfo (participant : LocalParticipant) (info : ParticipantInfo) : LocalParticipant :=
  if isStale participant.info info then participant
  else
    { info := info
      trackPublications :=
        (participant.trackPublications.filter fun _ publication => publication.owned).foldl
          (fun publications sid publication => publications.insertIfNew sid publication)
          (updateTracks (fun info => ⟨info, false⟩)
            (fun publication info => { publication with info := info })
            participant.trackPublications info.tracks) }

/-- The snapshot is taken for the local participant. -/
def isNamedBy (participant : LocalParticipant) (info : ParticipantInfo) : Bool :=
  decide (info.sid = participant.info.sid) ||
    (decide (info.identity ≠ "") && decide (info.identity = participant.info.identity))

end LocalParticipant

/-- `remote_participants_`: each under its own sid. -/
structure Participants where
  map : ExtTreeMap String RemoteParticipant
  keyed : ∀ (sid : String) (participant : RemoteParticipant),
    map[sid]? = some participant → participant.info.sid = sid

namespace Participants

def empty : Participants := ⟨∅, by simp⟩

def get? (participants : Participants) (sid : String) : Option RemoteParticipant :=
  participants.map[sid]?

def insert (participants : Participants) (participant : RemoteParticipant) : Participants where
  map := participants.map.insert participant.info.sid participant
  keyed := by
    intro sid found hfound
    rw [ExtTreeMap.getElem?_insert] at hfound
    split at hfound
    · rename_i heq
      cases hfound
      exact LawfulEqOrd.compare_eq_iff_eq.mp heq
    · exact participants.keyed sid found hfound

def erase (participants : Participants) (sid : String) : Participants where
  map := participants.map.erase sid
  keyed := by
    intro other found hfound
    rw [ExtTreeMap.getElem?_erase] at hfound
    split at hfound
    · simp at hfound
    · exact participants.keyed other found hfound

/-- Only the participants with these sids. -/
def keep (participants : Participants) (sids : List String) : Participants where
  map := participants.map.filter fun sid _ => sids.contains sid
  keyed := by
    intro other found hfound
    rw [ExtTreeMap.getElem?_filter'] at hfound
    exact participants.keyed other found (Option.filter_eq_some_iff.mp hfound).1

@[simp]
theorem get?_empty (sid : String) : empty.get? sid = none := by simp [empty, get?]

theorem get?_insert (participants : Participants) (participant : RemoteParticipant)
    (sid : String) :
    (participants.insert participant).get? sid =
      if participant.info.sid = sid then some participant else participants.get? sid := by
  simp only [insert, get?, ExtTreeMap.getElem?_insert, LawfulEqOrd.compare_eq_iff_eq]

theorem get?_erase (participants : Participants) (sid other : String) :
    (participants.erase sid).get? other =
      if sid = other then none else participants.get? other := by
  simp only [erase, get?, ExtTreeMap.getElem?_erase, LawfulEqOrd.compare_eq_iff_eq]

theorem get?_keep (participants : Participants) (sids : List String) (sid : String) :
    (participants.keep sids).get? sid = if sid ∈ sids then participants.get? sid else none := by
  simp only [keep, get?, ExtTreeMap.getElem?_filter', List.contains_eq_mem]
  by_cases hmem : sid ∈ sids
  · cases participants.map[sid]? <;> simp [hmem]
  · cases participants.map[sid]? <;> simp [hmem]

theorem sid_of_get? {participants : Participants} {sid : String} {participant : RemoteParticipant}
    (hget : participants.get? sid = some participant) : participant.info.sid = sid :=
  participants.keyed sid participant hget

end Participants

/-! ## 4. The room -/

structure Room where
  hasListener : Bool := false
  hasE2ee : Bool := false
  autoSubscribe : Bool := true
  localParticipant : LocalParticipant := ⟨{ sid := "" }, ∅⟩
  remoteParticipants : Participants := .empty
  remoteTracks : ExtTreeMap String RemoteTrack := ∅
  pendingMediaTracks : ExtTreeMap String MediaTrack := ∅

/-- Whom a call of the listener is about, where it can be either. -/
inductive Subject where
  | localParticipant
  | remote (sid : String)
deriving DecidableEq

/-- What a step hands to the listener and to the E2EE manager.  Participants and
    publications are named by their sids; `muted` is what the listener finds the
    publication to be. -/
inductive RoomEvent where
  | participantConnected (participant : String)
  | participantDisconnected (participant : String)
  | trackPublished (publication participant : String) (muted : Bool)
  | trackUnpublished (publication participant : String)
  | trackMuted (publication : String) (participant : Subject)
  | trackUnmuted (publication : String) (participant : Subject)
  | trackSubscribed (track participant : String)
  | trackUnsubscribed (track participant : String)
  | trackSubscriptionStatusChanged (publication participant : String)
      (status : TrackSubscriptionStatus)
  | participantMetadataChanged (previous : String) (participant : Subject)
  | participantNameChanged (name : String) (participant : Subject)
  | participantAttributesChanged (changes : Attributes) (participant : Subject)
  | participantPermissionsChanged (previous : ParticipantPermissions) (participant : Subject)
  | receiverAttached (track identity : String) (kind : TrackKind)
  | receiverDetached (track : String)
deriving DecidableEq

structure UnsubscriptionEvent where
  track : String
  participant : String
  statusChanged : Bool
  status : TrackSubscriptionStatus

structure MuteEvent where
  publication : String
  participant : Subject
  muted : Bool

/-- The vectors that `ApplyParticipantUpdates` collects under the mutex. -/
structure Changes where
  connected : List String := []
  disconnected : List String := []
  published : List (String × String) := []
  unpublished : List (String × String) := []
  unsubscribed : List UnsubscriptionEvent := []
  metadataChanged : List (String × Subject) := []
  nameChanged : List (String × Subject) := []
  attributesChanged : List (Attributes × Subject) := []
  permissionsChanged : List (ParticipantPermissions × Subject) := []
  muteChanged : List MuteEvent := []
  removedCryptors : List String := []

def MuteEvent.event (event : MuteEvent) : RoomEvent :=
  if event.muted then .trackMuted event.publication event.participant
  else .trackUnmuted event.publication event.participant

def UnsubscriptionEvent.events (event : UnsubscriptionEvent) : List RoomEvent :=
  .trackUnsubscribed event.track event.participant ::
    if event.statusChanged then
      [.trackSubscriptionStatusChanged event.track event.participant event.status]
    else []

/-- `IsMuted` of a publication when the mutex has been let go.  One that is gone by then,
    as can be if an update names its participant twice, is not looked for. -/
def Room.isMuted (room : Room) (publication participant : String) : Bool :=
  ((room.remoteParticipants.get? participant).bind (·.trackPublications[publication]?)).any
    (·.info.muted)

/-- The calls of the listener that follow, in their order. -/
def Changes.listenerEvents (changes : Changes) (room : Room) : List (List RoomEvent) :=
  [changes.connected.map .participantConnected,
   changes.published.map fun (publication, participant) =>
     .trackPublished publication participant (room.isMuted publication participant),
   changes.muteChanged.map MuteEvent.event,
   changes.unsubscribed.flatMap UnsubscriptionEvent.events,
   changes.unpublished.map (Function.uncurry .trackUnpublished),
   changes.metadataChanged.map (Function.uncurry .participantMetadataChanged),
   changes.nameChanged.map (Function.uncurry .participantNameChanged),
   changes.attributesChanged.map (Function.uncurry .participantAttributesChanged),
   changes.permissionsChanged.map (Function.uncurry .participantPermissionsChanged),
   changes.disconnected.map .participantDisconnected]

def Changes.events (changes : Changes) (room : Room) : List RoomEvent :=
  (if room.hasE2ee then changes.removedCryptors.map .receiverDetached else []) ++
    (if room.hasListener then (changes.listenerEvents room).flatten else [])

/-- `attribute_changes`: new and changed values, and an empty one for a removed key. -/
def attributeChanges (old new : Attributes) : Attributes :=
  old.foldl
    (fun changes key _ => if new.contains key then changes else changes.insert key "")
    (new.filter fun key value => old[key]? != some value)

/-- The changes of the fields of a participant. -/
def Changes.addFields (changes : Changes) (participant : Subject) (old new : ParticipantInfo) :
    Changes :=
  { changes with
    metadataChanged :=
      changes.metadataChanged ++
        (if old.metadata ≠ new.metadata then [(old.metadata, participant)] else [])
    nameChanged :=
      changes.nameChanged ++ (if old.name ≠ new.name then [(new.name, participant)] else [])
    attributesChanged :=
      changes.attributesChanged ++
        (if (attributeChanges old.attributes new.attributes).isEmpty then []
         else [(attributeChanges old.attributes new.attributes, participant)])
    permissionsChanged :=
      changes.permissionsChanged ++
        (if old.permission ≠ new.permission then [(old.permission, participant)] else []) }

/-- The publications that are there before and after and whose mute state differs. -/
def muteChanges {P : Type} (isMuted : P → Bool) (participant : Subject)
    (old new : ExtTreeMap String P) : List MuteEvent :=
  new.toList.filterMap fun (sid, publication) =>
    match old[sid]? with
    | none => none
    | some before =>
      if isMuted before = isMuted publication then none
      else some ⟨sid, participant, isMuted publication⟩

namespace Room

def findRemoteParticipantForTrack (room : Room) (trackSid : String) : Option RemoteParticipant :=
  (room.remoteParticipants.map.toList.find? fun (_, participant) =>
    participant.hasTrackSid trackSid).map (·.2)

/-! ### Participant updates -/

def updateLocal (emitEvents : Bool) (room : Room) (changes : Changes) (info : ParticipantInfo) :
    Room × Changes :=
  let old := room.localParticipant
  let new := old.updateFromInfo info
  ({ room with localParticipant := new },
   if emitEvents then
     { changes.addFields .localParticipant old.info new.info with
       muteChanged := changes.muteChanged ++
         muteChanges (·.info.muted) .localParticipant old.trackPublications
           new.trackPublications }
   else changes)

/-- A publication goes, and its track with it. -/
def dropTrack (emitEvents : Bool) (participant : String) (room : Room) (changes : Changes)
    (sid : String) (publication : RemoteTrackPublication) : Room × Changes :=
  let status := { publication with trackAttached := false }.subscriptionStatus
  ({ room with
      remoteTracks := room.remoteTracks.erase sid
      pendingMediaTracks := room.pendingMediaTracks.erase sid },
   { changes with
      unsubscribed := changes.unsubscribed ++
        (if room.remoteTracks.contains sid && emitEvents then
           [⟨sid, participant, status != publication.subscriptionStatus, status⟩]
         else [])
      removedCryptors := changes.removedCryptors ++ [sid]
      unpublished := changes.unpublished ++ (if emitEvents then [(sid, participant)] else []) })

def dropTracks (emitEvents : Bool) (participant : String) (room : Room) (changes : Changes)
    (publications : List (String × RemoteTrackPublication)) : Room × Changes :=
  publications.foldl
    (fun (room, changes) (sid, publication) =>
      dropTrack emitEvents participant room changes sid publication)
    (room, changes)

def disconnectParticipant (emitEvents : Bool) (room : Room) (changes : Changes)
    (participant : RemoteParticipant) : Room × Changes :=
  let sid := participant.info.sid
  let (room, changes) :=
    room.dropTracks emitEvents sid changes participant.trackPublications.toList
  ({ room with remoteParticipants := room.remoteParticipants.erase sid },
   { changes with
     disconnected := changes.disconnected ++ (if emitEvents then [sid] else []) })

def addParticipant (emitEvents : Bool) (room : Room) (changes : Changes)
    (info : ParticipantInfo) : Room × Changes :=
  let added := RemoteParticipant.new info room.autoSubscribe
  ({ room with remoteParticipants := room.remoteParticipants.insert added },
   if emitEvents then
     { changes with
       connected := changes.connected ++ [info.sid]
       published := changes.published ++
         added.trackPublications.keys.map fun publication => (publication, info.sid) }
   else changes)

def updateParticipant (emitEvents : Bool) (room : Room) (changes : Changes)
    (participant : RemoteParticipant) (info : ParticipantInfo) : Room × Changes :=
  let updated := participant.updateFromInfo info
  let room := { room with remoteParticipants := room.remoteParticipants.insert updated }
  if !emitEvents then (room, changes)
  else
    let old := participant.trackPublications
    let new := updated.trackPublications
    let sid := updated.info.sid
    let fields := changes.addFields (.remote sid) participant.info updated.info
    room.dropTracks emitEvents sid
      { fields with
        published := fields.published ++
          (new.keys.filter fun publication => !old.contains publication).map fun publication =>
            (publication, sid)
        muteChanged := fields.muteChanged ++ muteChanges (·.info.muted) (.remote sid) old new }
      (old.toList.filter fun (publication, _) => !new.contains publication)

/-- One snapshot of an update. -/
def applyInfo (emitEvents : Bool) (room : Room) (changes : Changes) (info : ParticipantInfo) :
    Room × Changes :=
  if info.sid = "" then (room, changes)
  else if room.localParticipant.isNamedBy info then room.updateLocal emitEvents changes info
  else
    match room.remoteParticipants.get? info.sid with
    | none =>
      if info.state = .disconnected then (room, changes)
      else room.addParticipant emitEvents changes info
    | some participant =>
      if info.state = .disconnected then
        room.disconnectParticipant emitEvents changes participant
      else room.updateParticipant emitEvents changes participant info

def applyInfos (emitEvents : Bool) (room : Room) (changes : Changes)
    (updates : List ParticipantInfo) : Room × Changes :=
  updates.foldl (fun (room, changes) info => room.applyInfo emitEvents changes info)
    (room, changes)

/-- The tracks that waited for their participant. -/
def takeReady (room : Room) : Room × List MediaTrack :=
  ({ room with
      pendingMediaTracks := room.pendingMediaTracks.filter fun sid _ =>
        (room.findRemoteParticipantForTrack sid).isNone },
   ((room.pendingMediaTracks.filter fun sid _ =>
      (room.findRemoteParticipantForTrack sid).isSome).toList.map (·.2)))

/-- `ApplyParticipantUpdates`: the room when the mutex is let go, the calls that
    follow, and the tracks for which `MediaTrackEvent` is called again. -/
def applyParticipantUpdates (emitEvents : Bool) (room : Room) (updates : List ParticipantInfo) :
    Room × List RoomEvent × List MediaTrack :=
  let (room, changes) := room.applyInfos emitEvents {} updates
  let (room, ready) := room.takeReady
  (room, changes.events room, ready)

/-! ### Media tracks -/

/-- `MediaTrackEvent`. -/
def mediaTrackEvent (room : Room) (track : MediaTrack) : Room × List RoomEvent :=
  match room.findRemoteParticipantForTrack track.id with
  | none =>
    ({ room with pendingMediaTracks := room.pendingMediaTracks.insert track.id track }, [])
  | some participant =>
    if room.remoteTracks.contains track.id then (room, [])
    else
      let publication := participant.trackPublications[track.id]?
      let remote : RemoteTrack :=
        { sid := track.id
          name := (publication.map (·.info.name)).getD track.id
          participantSid := participant.info.sid
          media := track }
      ({ room with
          remoteTracks := room.remoteTracks.insert track.id remote
          remoteParticipants :=
            room.remoteParticipants.insert (participant.attach track.id (some remote)) },
       (match publication with
        | some publication =>
          if room.hasE2ee && publication.info.encryption == .gcm then
            [.receiverAttached track.id participant.info.identity track.kind]
          else []
        | none => []) ++
       if room.hasListener then
         .trackSubscribed track.id participant.info.sid ::
           match publication with
           | some publication =>
             let status := (publication.attach (some remote)).subscriptionStatus
             if status = publication.subscriptionStatus then []
             else [.trackSubscriptionStatusChanged track.id participant.info.sid status]
           | none => []
       else [])

/-- `MediaTrackRemovedEvent`. -/
def mediaTrackRemovedEvent (room : Room) (trackSid : String) : Room × List RoomEvent :=
  let detached := if room.hasE2ee then [RoomEvent.receiverDetached trackSid] else []
  match room.findRemoteParticipantForTrack trackSid, room.remoteTracks[trackSid]? with
  | some participant, some _ =>
    match participant.trackPublications[trackSid]? with
    | none => (room, detached)
    | some publication =>
      let status := (publication.attach none).subscriptionStatus
      ({ room with
          remoteTracks := room.remoteTracks.erase trackSid
          remoteParticipants := room.remoteParticipants.insert (participant.attach trackSid none) },
       detached ++
       if room.hasListener then
         .trackUnsubscribed trackSid participant.info.sid ::
           if status = publication.subscriptionStatus then []
           else [.trackSubscriptionStatusChanged trackSid participant.info.sid status]
       else [])
  | _, _ => (room, detached)

/-! ### The join response

`ApplyJoinResponse` in its steps: the local participant; in a full reconnect, the old
tracks and participants; and the snapshots of the others, as an update that emits
nothing. -/

def joinLocal (reconnecting : Bool) (room : Room) (join : JoinResponse) : Room :=
  match join.participant with
  | none => room
  | some info =>
    { room with
      localParticipant :=
        if reconnecting then room.localParticipant.updateInfoFields info
        else room.localParticipant.updateFromInfo info }

/-- The publications lose their tracks. -/
def detachTracks (room : Room) : Participants :=
  room.remoteTracks.foldl
    (fun participants sid _ =>
      match { room with remoteParticipants := participants }.findRemoteParticipantForTrack sid with
      | none => participants
      | some participant => participants.insert (participant.attach sid none))
    room.remoteParticipants

def joinClear (room : Room) (join : JoinResponse) : Room :=
  { room with
    remoteParticipants := room.detachTracks.keep (join.otherParticipants.map (·.sid))
    remoteTracks := ∅
    pendingMediaTracks := ∅ }

def joinUpdate (room : Room) (join : JoinResponse) : Room × List RoomEvent × List MediaTrack :=
  room.applyParticipantUpdates false join.otherParticipants

/-! ### Whole events

Each with all that it does, as if no other thread came between. -/

/-- `MediaTrackEvent` for the tracks that were found ready. -/
def replayReady (room : Room) : List MediaTrack → Room × List RoomEvent
  | [] => (room, [])
  | track :: rest =>
    let (room, events) := room.mediaTrackEvent track
    let (room, more) := room.replayReady rest
    (room, events ++ more)

def participantUpdateEvent (room : Room) (updates : List ParticipantInfo) :
    Room × List RoomEvent :=
  let (room, events, ready) := room.applyParticipantUpdates true updates
  let (room, more) := room.replayReady ready
  (room, events ++ more)

/-- `ApplyJoinResponse`. -/
def applyJoinResponse (reconnecting : Bool) (room : Room) (join : JoinResponse) :
    Room × List RoomEvent :=
  let room := room.joinLocal reconnecting join
  let room := if reconnecting then room.joinClear join else room
  let (room, events, ready) := room.joinUpdate join
  let (room, more) := room.replayReady ready
  (room, events ++ more)

/-- `ReconnectedEvent`; it is ignored unless the room is reconnecting and the response
    has a room. -/
def reconnectedEvent (accepted : Bool) (room : Room) (join : JoinResponse) :
    Room × List RoomEvent :=
  if accepted then room.applyJoinResponse true join else (room, [])

/-- `Disconnect`; it does nothing if the room is disconnected or about to be. -/
def disconnect (accepted : Bool) (room : Room) : Room :=
  if accepted then
    { room with remoteTracks := ∅, pendingMediaTracks := ∅, remoteParticipants := .empty }
  else room

end Room

/-- What reaches a room: from the server, from the peer connection and from the
    application. -/
inductive Input where
  | participantUpdate (updates : List ParticipantInfo)
  | mediaTrack (track : MediaTrack)
  | mediaTrackRemoved (trackSid : String)
  | reconnected (accepted : Bool) (join : JoinResponse)
  | disconnect (accepted : Bool)

def Input.infos : Input → List ParticipantInfo
  | .participantUpdate updates => updates
  | .reconnected _ join => join.otherParticipants
  | _ => []

def Room.handle (room : Room) : Input → Room × List RoomEvent
  | .participantUpdate updates => room.participantUpdateEvent updates
  | .mediaTrack track => room.mediaTrackEvent track
  | .mediaTrackRemoved trackSid => room.mediaTrackRemovedEvent trackSid
  | .reconnected accepted join => room.reconnectedEvent accepted join
  | .disconnect accepted => (room.disconnect accepted, [])

/-! ## 5. The snapshot held of a participant

Of all that a step changes, the snapshots follow a simple rule: a slot for each sid
that keeps the newest snapshot and is emptied by a DISCONNECTED one. -/

open LivekitClient.VersionedSlot

def versionOf (info : ParticipantInfo) : Nat := info.version.toNat

def snapshotWrite (info : ParticipantInfo) : Write ParticipantInfo :=
  if info.state = .disconnected then .drop else .put info

def Participants.snapshot (participants : Participants) (sid : String) :
    Option ParticipantInfo :=
  (participants.get? sid).map (·.info)

def Room.snapshot (room : Room) (sid : String) : Option ParticipantInfo :=
  room.remoteParticipants.snapshot sid

theorem isStale_eq {held info : ParticipantInfo} (hsid : held.sid = info.sid)
    (hne : info.sid ≠ "") : isStale held info = decide (versionOf info < versionOf held) := by
  unfold isStale versionOf
  simp only [hsid, hne, ne_eq, not_false_eq_true, decide_true, Bool.true_and,
    UInt32.lt_iff_toNat_lt]

theorem info_updateFromInfo {participant : RemoteParticipant} {info : ParticipantInfo}
    (hsid : participant.info.sid = info.sid) (hne : info.sid ≠ "") :
    some (participant.updateFromInfo info).info =
      write versionOf (some participant.info) (.put info) := by
  unfold RemoteParticipant.updateFromInfo
  rw [isStale_eq hsid hne]
  by_cases hlt : versionOf info < versionOf participant.info <;>
    simp [hlt, write, RemoteParticipant.accept]

theorem Participants.snapshot_insert (participants : Participants)
    (participant : RemoteParticipant) (sid : String) :
    (participants.insert participant).snapshot sid =
      if participant.info.sid = sid then some participant.info else participants.snapshot sid := by
  unfold snapshot
  rw [get?_insert]
  split <;> rfl

theorem Participants.snapshot_erase (participants : Participants) (sid other : String) :
    (participants.erase sid).snapshot other =
      if sid = other then none else participants.snapshot other := by
  unfold snapshot
  rw [get?_erase]
  split <;> rfl

theorem Participants.snapshot_keep (participants : Participants) (sids : List String)
    (sid : String) :
    (participants.keep sids).snapshot sid =
      if sid ∈ sids then participants.snapshot sid else none := by
  unfold snapshot
  rw [get?_keep]
  split <;> rfl

/-- Attaching a track changes no snapshot. -/
theorem Participants.snapshot_attach {participants : Participants}
    {participant : RemoteParticipant}
    (hget : participants.get? participant.info.sid = some participant) (trackSid : String)
    (track : Option RemoteTrack) :
    (participants.insert (participant.attach trackSid track)).snapshot = participants.snapshot := by
  funext sid
  rw [snapshot_insert]
  split
  · rename_i heq
    rw [← heq]
    unfold snapshot
    rw [show (participant.attach trackSid track).info.sid = participant.info.sid from rfl, hget]
    rfl
  · rfl

theorem Room.findRemoteParticipantForTrack_eq_some {room : Room} {trackSid : String}
    {participant : RemoteParticipant}
    (hfind : room.findRemoteParticipantForTrack trackSid = some participant) :
    room.remoteParticipants.get? participant.info.sid = some participant ∧
      participant.hasTrackSid trackSid = true := by
  unfold Room.findRemoteParticipantForTrack at hfind
  obtain ⟨⟨sid, found⟩, hfound, rfl⟩ := Option.map_eq_some_iff.mp hfind
  have hget : room.remoteParticipants.get? sid = some found :=
    ExtTreeMap.mem_toList_iff_getElem?_eq_some.mp (List.mem_of_find?_eq_some hfound)
  have hhas := List.find?_some hfound
  dsimp only at hhas ⊢
  refine ⟨?_, hhas⟩
  rw [Participants.sid_of_get? hget, hget]

theorem Room.isSome_findRemoteParticipantForTrack {room : Room} {trackSid sid : String}
    {participant : RemoteParticipant} (hget : room.remoteParticipants.get? sid = some participant)
    (hhas : participant.hasTrackSid trackSid = true) :
    (room.findRemoteParticipantForTrack trackSid).isSome = true := by
  unfold Room.findRemoteParticipantForTrack
  rw [Option.isSome_map, List.find?_isSome]
  exact ⟨(sid, participant), ExtTreeMap.mem_toList_iff_getElem?_eq_some.mpr hget, hhas⟩

/-! ### Updates -/

theorem Room.dropTracks_frame (emitEvents : Bool) (participant : String) (room : Room)
    (changes : Changes) (publications : List (String × RemoteTrackPublication)) :
    (room.dropTracks emitEvents participant changes publications).1.remoteParticipants =
        room.remoteParticipants ∧
      (room.dropTracks emitEvents participant changes publications).1.localParticipant =
        room.localParticipant := by
  unfold Room.dropTracks
  induction publications generalizing room changes with
  | nil => exact ⟨rfl, rfl⟩
  | cons publication rest ih => exact ih _ _

theorem Room.snapshot_updateParticipant (emitEvents : Bool) {room : Room} (changes : Changes)
    {participant : RemoteParticipant} {info : ParticipantInfo}
    (hget : room.remoteParticipants.get? info.sid = some participant) (hne : info.sid ≠ "")
    (sid : String) :
    (room.updateParticipant emitEvents changes participant info).1.snapshot sid =
      if info.sid = sid then write versionOf (room.snapshot sid) (.put info)
      else room.snapshot sid := by
  have hsid := Participants.sid_of_get? hget
  have hupdated : (participant.updateFromInfo info).info.sid = info.sid := by
    unfold RemoteParticipant.updateFromInfo
    split
    · exact hsid
    · rfl
  have hinsert : (room.remoteParticipants.insert (participant.updateFromInfo info)).snapshot sid =
      if info.sid = sid then write versionOf (room.snapshot sid) (.put info)
      else room.snapshot sid := by
    rw [Participants.snapshot_insert, hupdated]
    by_cases heq : info.sid = sid
    · rw [if_pos heq, if_pos heq, info_updateFromInfo hsid hne, Room.snapshot,
        Participants.snapshot, ← heq, hget]
      rfl
    · rw [if_neg heq, if_neg heq]
      rfl
  unfold Room.updateParticipant Room.snapshot
  dsimp only
  split
  · exact hinsert
  · rw [(Room.dropTracks_frame ..).1]
    exact hinsert

/-- A snapshot of a remote participant, in the slots. -/
theorem Room.snapshot_applyInfo (emitEvents : Bool) {room : Room} (changes : Changes)
    {info : ParticipantInfo} (hne : info.sid ≠ "")
    (hremote : room.localParticipant.isNamedBy info = false) (sid : String) :
    (room.applyInfo emitEvents changes info).1.snapshot sid =
      if info.sid = sid then write versionOf (room.snapshot sid) (snapshotWrite info)
      else room.snapshot sid := by
  unfold Room.applyInfo snapshotWrite
  rw [if_neg hne, if_neg (by simp [hremote])]
  cases hget : room.remoteParticipants.get? info.sid with
  | none =>
    dsimp only
    have hempty : room.snapshot info.sid = none := by
      rw [Room.snapshot, Participants.snapshot, hget]
      rfl
    by_cases hstate : info.state = .disconnected
    · rw [if_pos hstate, if_pos hstate]
      split
      · rename_i heq
        rw [← heq]
        exact hempty
      · rfl
    · rw [if_neg hstate, if_neg hstate]
      unfold Room.addParticipant Room.snapshot
      rw [Participants.snapshot_insert]
      by_cases heq : info.sid = sid
      · rw [← heq, show room.remoteParticipants.snapshot info.sid = none from hempty]
        simp [RemoteParticipant.new, RemoteParticipant.accept, write]
      · rw [if_neg heq, if_neg (show ¬ (RemoteParticipant.new info _).info.sid = sid from heq)]
  | some participant =>
    dsimp only
    by_cases hstate : info.state = .disconnected
    · rw [if_pos hstate, if_pos hstate]
      unfold Room.disconnectParticipant Room.snapshot
      dsimp only
      rw [(Room.dropTracks_frame ..).1, Participants.snapshot_erase,
        Participants.sid_of_get? hget]
      rfl
    · rw [if_neg hstate, if_neg hstate]
      exact room.snapshot_updateParticipant emitEvents changes hget hne sid

theorem Room.localParticipant_applyInfo (emitEvents : Bool) (room : Room) (changes : Changes)
    (info : ParticipantInfo) :
    (room.applyInfo emitEvents changes info).1.localParticipant =
      if info.sid ≠ "" ∧ room.localParticipant.isNamedBy info then
        room.localParticipant.updateFromInfo info
      else room.localParticipant := by
  unfold Room.applyInfo
  by_cases hempty : info.sid = ""
  · simp [hempty]
  · rw [if_neg hempty]
    by_cases hlocal : room.localParticipant.isNamedBy info
    · rw [if_pos hlocal, if_pos ⟨hempty, hlocal⟩]
      rfl
    · rw [if_neg hlocal]
      refine Eq.trans ?_ (if_neg fun h => hlocal h.2).symm
      split <;> split
      · rfl
      · rfl
      · exact (Room.dropTracks_frame ..).2
      · unfold Room.updateParticipant
        dsimp only
        split
        · rfl
        · exact (Room.dropTracks_frame ..).2

namespace LocalParticipant

/-- The local participant after an update. -/
def afterInfos (participant : LocalParticipant) (infos : List ParticipantInfo) :
    LocalParticipant :=
  infos.foldl
    (fun participant info =>
      if info.sid ≠ "" ∧ participant.isNamedBy info then participant.updateFromInfo info
      else participant)
    participant

/-- The snapshots of an update that are taken for those of remote participants. -/
def remoteInfos : LocalParticipant → List ParticipantInfo → List ParticipantInfo
  | _, [] => []
  | participant, info :: rest =>
    if info.sid = "" then remoteInfos participant rest
    else if participant.isNamedBy info then remoteInfos (participant.updateFromInfo info) rest
    else info :: remoteInfos participant rest

end LocalParticipant

/-- What the snapshots say about one participant. -/
def writesFor (sid : String) (infos : List ParticipantInfo) : List (Write ParticipantInfo) :=
  (infos.filter fun info => info.sid = sid).map snapshotWrite

theorem writesFor_append (sid : String) (infos more : List ParticipantInfo) :
    writesFor sid (infos ++ more) = writesFor sid infos ++ writesFor sid more := by
  simp [writesFor]

theorem Room.localParticipant_applyInfos (emitEvents : Bool) (room : Room) (changes : Changes)
    (infos : List ParticipantInfo) :
    (room.applyInfos emitEvents changes infos).1.localParticipant =
      room.localParticipant.afterInfos infos := by
  induction infos generalizing room changes with
  | nil => rfl
  | cons info rest ih =>
    rw [Room.applyInfos, List.foldl_cons, ← Room.applyInfos, ih, Room.localParticipant_applyInfo]
    rfl

theorem Room.snapshot_applyInfos (emitEvents : Bool) (room : Room) (changes : Changes)
    (infos : List ParticipantInfo) (sid : String) :
    (room.applyInfos emitEvents changes infos).1.snapshot sid =
      writes versionOf (room.snapshot sid)
        (writesFor sid (room.localParticipant.remoteInfos infos)) := by
  induction infos generalizing room changes with
  | nil => rfl
  | cons info rest ih =>
    have hlocal := room.localParticipant_applyInfo emitEvents changes info
    rw [Room.applyInfos, List.foldl_cons, ← Room.applyInfos, ih, LocalParticipant.remoteInfos]
    by_cases hempty : info.sid = ""
    · rw [if_pos hempty]
      simp only [Room.applyInfo, hempty, if_true]
    · by_cases hnamed : room.localParticipant.isNamedBy info
      · rw [if_pos ⟨hempty, hnamed⟩] at hlocal
        rw [if_neg hempty, if_pos hnamed, hlocal]
        simp only [Room.applyInfo, hempty, hnamed, if_false, if_true]
        rfl
      · rw [if_neg fun h => hnamed h.2] at hlocal
        rw [if_neg hempty, if_neg hnamed, hlocal,
          Room.snapshot_applyInfo emitEvents changes hempty (by simpa using hnamed)]
        by_cases heq : info.sid = sid
        · rw [if_pos heq]
          simp [writesFor, heq]
        · rw [if_neg heq]
          simp [writesFor, heq]

/-- An update of participants, in the slots. -/
theorem Room.snapshot_applyParticipantUpdates (emitEvents : Bool) (room : Room)
    (updates : List ParticipantInfo) (sid : String) :
    (room.applyParticipantUpdates emitEvents updates).1.snapshot sid =
      writes versionOf (room.snapshot sid)
        (writesFor sid (room.localParticipant.remoteInfos updates)) :=
  room.snapshot_applyInfos emitEvents {} updates sid

theorem Room.localParticipant_applyParticipantUpdates (emitEvents : Bool) (room : Room)
    (updates : List ParticipantInfo) :
    (room.applyParticipantUpdates emitEvents updates).1.localParticipant =
      room.localParticipant.afterInfos updates :=
  room.localParticipant_applyInfos emitEvents {} updates

/-- Without events and without a DISCONNECTED snapshot, an update leaves the tracks. -/
theorem Room.applyInfo_silent {room : Room} (changes : Changes) {info : ParticipantInfo}
    (hstate : info.state ≠ .disconnected) :
    (room.applyInfo false changes info).1.remoteTracks = room.remoteTracks ∧
      (room.applyInfo false changes info).1.pendingMediaTracks = room.pendingMediaTracks := by
  unfold Room.applyInfo
  split
  · exact ⟨rfl, rfl⟩
  split
  · exact ⟨rfl, rfl⟩
  split <;> exact ⟨rfl, rfl⟩

theorem Room.applyInfos_silent {room : Room} (changes : Changes) {infos : List ParticipantInfo}
    (hstate : ∀ info ∈ infos, info.state ≠ .disconnected) :
    (room.applyInfos false changes infos).1.remoteTracks = room.remoteTracks ∧
      (room.applyInfos false changes infos).1.pendingMediaTracks = room.pendingMediaTracks := by
  induction infos generalizing room changes with
  | nil => exact ⟨rfl, rfl⟩
  | cons info rest ih =>
    obtain ⟨hremote, hpending⟩ :=
      @Room.applyInfo_silent room changes info (hstate info List.mem_cons_self)
    obtain ⟨hremote', hpending'⟩ := ih (room.applyInfo false changes info).2
      fun other hmem => hstate other (List.mem_cons_of_mem _ hmem)
    exact ⟨hremote'.trans hremote, hpending'.trans hpending⟩

/-! ### Media tracks and the join response -/

/-- Media tracks change no snapshot. -/
theorem Room.mediaTrackEvent_frame (room : Room) (track : MediaTrack) :
    (room.mediaTrackEvent track).1.snapshot = room.snapshot ∧
      (room.mediaTrackEvent track).1.localParticipant = room.localParticipant := by
  unfold Room.mediaTrackEvent
  split
  · exact ⟨rfl, rfl⟩
  · rename_i participant hfind
    split
    · exact ⟨rfl, rfl⟩
    · have hget := (Room.findRemoteParticipantForTrack_eq_some hfind).1
      exact ⟨Participants.snapshot_attach hget _ _, rfl⟩

theorem Room.mediaTrackRemovedEvent_frame (room : Room) (trackSid : String) :
    (room.mediaTrackRemovedEvent trackSid).1.snapshot = room.snapshot ∧
      (room.mediaTrackRemovedEvent trackSid).1.localParticipant = room.localParticipant := by
  unfold Room.mediaTrackRemovedEvent
  dsimp only
  split
  · rename_i participant track hfind htrack
    split
    · exact ⟨rfl, rfl⟩
    · have hget := (Room.findRemoteParticipantForTrack_eq_some hfind).1
      exact ⟨Participants.snapshot_attach hget _ _, rfl⟩
  · exact ⟨rfl, rfl⟩

theorem Room.joinLocal_frame (reconnecting : Bool) (room : Room) (join : JoinResponse) :
    (room.joinLocal reconnecting join).snapshot = room.snapshot := by
  unfold Room.joinLocal
  split <;> rfl

theorem Room.snapshot_detachTracks (room : Room) : room.detachTracks.snapshot = room.snapshot := by
  unfold Room.detachTracks
  rw [ExtTreeMap.foldl_eq_foldl_toList]
  generalize room.remoteTracks.toList = tracks
  suffices h : ∀ participants : Participants,
      participants.snapshot = room.snapshot →
        (tracks.foldl
          (fun participants track =>
            match { room with remoteParticipants := participants }.findRemoteParticipantForTrack
                track.1 with
            | none => participants
            | some participant => participants.insert (participant.attach track.1 none))
          participants).snapshot = room.snapshot from h _ rfl
  induction tracks with
  | nil => exact fun _ h => h
  | cons track rest ih =>
    intro participants hsame
    rw [List.foldl_cons]
    apply ih _
    split
    · exact hsame
    · rename_i participant hfind
      have hget := (Room.findRemoteParticipantForTrack_eq_some hfind).1
      exact (Participants.snapshot_attach hget _ _).trans hsame

/-- Only the participants that the join response lists stay. -/
theorem Room.snapshot_joinClear (room : Room) (join : JoinResponse) (sid : String) :
    (room.joinClear join).snapshot sid =
      if sid ∈ join.otherParticipants.map (·.sid) then room.snapshot sid else none := by
  unfold Room.joinClear Room.snapshot
  dsimp only
  rw [Participants.snapshot_keep, Room.snapshot_detachTracks]
  rfl

/-! ## 6. Participants and tracks after one snapshot -/

section Lookups

variable {V W : Type}

theorem mem_of_getElem?_eq_some {map : ExtTreeMap String V} {key : String} {value : V}
    (hsome : map[key]? = some value) : key ∈ map := by
  rw [ExtTreeMap.mem_iff_isSome_getElem?, hsome]
  rfl

theorem exists_getElem?_of_mem {map : ExtTreeMap String V} {key : String} (hmem : key ∈ map) :
    ∃ value, map[key]? = some value :=
  Option.isSome_iff_exists.mp (ExtTreeMap.mem_iff_isSome_getElem?.mp hmem)

/-- The keys that one map has and the other has not. -/
theorem mem_map_toList_filter_not_contains {old : ExtTreeMap String V}
    {new : ExtTreeMap String W} {key : String} :
    key ∈ (old.toList.filter fun (other, _) => !new.contains other).map (·.1) ↔
      key ∈ old ∧ key ∉ new := by
  constructor
  · intro hmem
    obtain ⟨⟨other, value⟩, hfiltered, rfl⟩ := List.mem_map.mp hmem
    obtain ⟨hold, hgone⟩ := List.mem_filter.mp hfiltered
    refine ⟨?_, by simpa [← ExtTreeMap.contains_iff_mem] using hgone⟩
    exact mem_of_getElem?_eq_some (ExtTreeMap.mem_toList_iff_getElem?_eq_some.mp hold)
  · rintro ⟨hmem, hgone⟩
    obtain ⟨value, hold⟩ := exists_getElem?_of_mem hmem
    refine List.mem_map.mpr ⟨(key, value), List.mem_filter.mpr ⟨?_, ?_⟩, rfl⟩
    · exact ExtTreeMap.mem_toList_iff_getElem?_eq_some.mpr hold
    · simpa [← ExtTreeMap.contains_iff_mem] using hgone

theorem getElem?_foldl_erase (entries : List (String × W)) (map : ExtTreeMap String V)
    (key : String) :
    (entries.foldl (fun map entry => map.erase entry.1) map)[key]? =
      if key ∈ entries.map (·.1) then none else map[key]? := by
  induction entries generalizing map with
  | nil => rfl
  | cons entry rest ih =>
    rw [List.foldl_cons, ih, List.map_cons]
    by_cases hrest : key ∈ rest.map (·.1)
    · rw [if_pos hrest, if_pos (List.mem_cons_of_mem _ hrest)]
    · by_cases heq : entry.1 = key
      · rw [if_neg hrest, heq, ExtTreeMap.getElem?_erase_self, if_pos List.mem_cons_self]
      · simp [hrest, ExtTreeMap.getElem?_erase, heq, Ne.symm heq]

end Lookups

theorem sid_updateFromInfo {participant : RemoteParticipant} {info : ParticipantInfo}
    (hsid : participant.info.sid = info.sid) :
    (participant.updateFromInfo info).info.sid = info.sid := by
  unfold RemoteParticipant.updateFromInfo
  split
  · exact hsid
  · rfl

namespace Room

theorem remoteTracks_dropTracks (emitEvents : Bool) (participant : String) (room : Room)
    (changes : Changes) (publications : List (String × RemoteTrackPublication)) :
    (room.dropTracks emitEvents participant changes publications).1.remoteTracks =
      publications.foldl (fun tracks entry => tracks.erase entry.1) room.remoteTracks := by
  rw [dropTracks]
  induction publications generalizing room changes with
  | nil => rfl
  | cons publication rest ih =>
    rw [List.foldl_cons, List.foldl_cons, ih]
    rfl

theorem get?_addParticipant (emitEvents : Bool) (room : Room) (changes : Changes)
    (info : ParticipantInfo) (sid : String) :
    (room.addParticipant emitEvents changes info).1.remoteParticipants.get? sid =
      if info.sid = sid then some (.new info room.autoSubscribe)
      else room.remoteParticipants.get? sid := by
  simp only [addParticipant, Participants.get?_insert]
  rfl

theorem get?_disconnectParticipant (emitEvents : Bool) (room : Room) (changes : Changes)
    (participant : RemoteParticipant) (sid : String) :
    (room.disconnectParticipant emitEvents changes participant).1.remoteParticipants.get? sid =
      if participant.info.sid = sid then none else room.remoteParticipants.get? sid := by
  simp only [disconnectParticipant, Participants.get?_erase, (Room.dropTracks_frame ..).1]

theorem remoteTracks_disconnectParticipant (emitEvents : Bool) (room : Room) (changes : Changes)
    (participant : RemoteParticipant) (track : String) :
    (room.disconnectParticipant emitEvents changes participant).1.remoteTracks[track]? =
      if track ∈ participant.trackPublications then none else room.remoteTracks[track]? := by
  simp only [disconnectParticipant, remoteTracks_dropTracks, getElem?_foldl_erase,
    ExtTreeMap.map_fst_toList_eq_keys,
    ExtTreeMap.mem_keys]

theorem get?_updateParticipant (emitEvents : Bool) (room : Room) (changes : Changes)
    {participant : RemoteParticipant} {info : ParticipantInfo}
    (hsid : participant.info.sid = info.sid) (sid : String) :
    (room.updateParticipant emitEvents changes participant info).1.remoteParticipants.get? sid =
      if info.sid = sid then some (participant.updateFromInfo info)
      else room.remoteParticipants.get? sid := by
  unfold updateParticipant
  dsimp only
  split
  · simp only [Participants.get?_insert, sid_updateFromInfo hsid]
  · simp only [(Room.dropTracks_frame ..).1, Participants.get?_insert, sid_updateFromInfo hsid]

theorem remoteTracks_updateParticipant (room : Room) (changes : Changes)
    (participant : RemoteParticipant) (info : ParticipantInfo) (track : String) :
    (room.updateParticipant true changes participant info).1.remoteTracks[track]? =
      if track ∈ participant.trackPublications ∧
          track ∉ (participant.updateFromInfo info).trackPublications then none
      else room.remoteTracks[track]? := by
  simp only [updateParticipant, Bool.not_true, Bool.false_eq_true, if_false,
    remoteTracks_dropTracks, getElem?_foldl_erase]
  exact if_congr mem_map_toList_filter_not_contains rfl rfl

theorem remoteTracks_updateParticipant_silent (room : Room) (changes : Changes)
    (participant : RemoteParticipant) (info : ParticipantInfo) :
    (room.updateParticipant false changes participant info).1.remoteTracks =
      room.remoteTracks := rfl

end Room

/-! ## 7. Tracks that go and tracks that come -/

section Within

variable {V : Type}

/-- Nothing has been added to a map. -/
def Within (after before : ExtTreeMap String V) : Prop :=
  ∀ (key : String) (value : V), after[key]? = some value → before[key]? = some value

theorem Within.refl (map : ExtTreeMap String V) : Within map map := fun _ _ h => h

theorem Within.trans {map after before : ExtTreeMap String V} (h : Within after before)
    (h' : Within map after) : Within map before :=
  fun key value hsome => h key value (h' key value hsome)

theorem within_erase (map : ExtTreeMap String V) (key : String) : Within (map.erase key) map := by
  intro other value hsome
  rw [ExtTreeMap.getElem?_erase] at hsome
  split at hsome
  · cases hsome
  · exact hsome

theorem within_filter (map : ExtTreeMap String V) (keep : String → V → Bool) :
    Within (map.filter keep) map := by
  intro key value hsome
  rw [ExtTreeMap.getElem?_filter'] at hsome
  exact (Option.filter_eq_some_iff.mp hsome).1

theorem Within.eq_none {after before : ExtTreeMap String V} (h : Within after before)
    {key : String} (hnone : before[key]? = none) : after[key]? = none := by
  cases hafter : after[key]? with
  | none => rfl
  | some value => exact (h key value hafter).symm.trans hnone

theorem Within.eq_empty {after before : ExtTreeMap String V} (h : Within after before)
    (hempty : before = ∅) : after = ∅ := by
  apply ExtTreeMap.ext_getElem?
  intro key
  rw [h.eq_none (by simp [hempty])]
  simp

end Within

/-- A room has got no track, and none that waits. -/
structure NoneNew (after before : Room) : Prop where
  remoteTracks : Within after.remoteTracks before.remoteTracks
  pendingMediaTracks : Within after.pendingMediaTracks before.pendingMediaTracks

theorem NoneNew.refl (room : Room) : NoneNew room room := ⟨.refl _, .refl _⟩

theorem NoneNew.trans {room after before : Room} (h : NoneNew after before)
    (h' : NoneNew room after) : NoneNew room before :=
  ⟨h.remoteTracks.trans h'.remoteTracks, h.pendingMediaTracks.trans h'.pendingMediaTracks⟩

namespace Room

theorem noneNew_dropTracks (emitEvents : Bool) (participant : String) (room : Room)
    (changes : Changes) (publications : List (String × RemoteTrackPublication)) :
    NoneNew (room.dropTracks emitEvents participant changes publications).1 room := by
  rw [dropTracks]
  induction publications generalizing room changes with
  | nil => exact .refl room
  | cons publication rest ih =>
    rw [List.foldl_cons]
    refine NoneNew.trans ⟨?_, ?_⟩ (ih _ _)
    · exact within_erase _ _
    · exact within_erase _ _

/-- A snapshot brings no track. -/
theorem noneNew_applyInfo (emitEvents : Bool) (room : Room) (changes : Changes)
    (info : ParticipantInfo) : NoneNew (room.applyInfo emitEvents changes info).1 room := by
  unfold applyInfo
  split
  · exact .refl room
  split
  · exact ⟨.refl _, .refl _⟩
  split <;> split
  · exact .refl room
  · exact ⟨.refl _, .refl _⟩
  · rename_i participant _ _
    obtain ⟨htracks, hpending⟩ := room.noneNew_dropTracks emitEvents participant.info.sid changes
      participant.trackPublications.toList
    exact ⟨htracks, hpending⟩
  · unfold updateParticipant
    dsimp only
    split
    · exact ⟨.refl _, .refl _⟩
    · obtain ⟨htracks, hpending⟩ := noneNew_dropTracks emitEvents _ _ _ _
      exact ⟨htracks, hpending⟩

theorem noneNew_applyInfos (emitEvents : Bool) (room : Room) (changes : Changes)
    (infos : List ParticipantInfo) :
    NoneNew (room.applyInfos emitEvents changes infos).1 room := by
  induction infos generalizing room changes with
  | nil => exact .refl room
  | cons info rest ih => exact (room.noneNew_applyInfo emitEvents changes info).trans (ih _ _)

theorem noneNew_applyParticipantUpdates (emitEvents : Bool) (room : Room)
    (updates : List ParticipantInfo) :
    NoneNew (room.applyParticipantUpdates emitEvents updates).1 room :=
  (room.noneNew_applyInfos emitEvents {} updates).trans ⟨.refl _, within_filter _ _⟩

/-- A track that is ready has waited. -/
theorem exists_of_mem_ready {emitEvents : Bool} {room : Room} {updates : List ParticipantInfo}
    {track : MediaTrack} (hmem : track ∈ (room.applyParticipantUpdates emitEvents updates).2.2) :
    ∃ sid : String, room.pendingMediaTracks[sid]? = some track := by
  obtain ⟨⟨sid, found⟩, hfound, rfl⟩ := List.mem_map.mp hmem
  rw [ExtTreeMap.mem_toList_iff_getElem?_eq_some] at hfound
  exact ⟨sid, (room.noneNew_applyInfos emitEvents {} updates).pendingMediaTracks sid _
    (within_filter _ _ sid _ hfound)⟩

end Room

/-- What `MediaTrackEvent` does to the two maps. -/
theorem mediaTrackEvent_cases (room : Room) (track : MediaTrack) :
    ((room.findRemoteParticipantForTrack track.id = none ∧
        (room.mediaTrackEvent track).1.remoteTracks = room.remoteTracks ∧
        (room.mediaTrackEvent track).1.pendingMediaTracks =
          room.pendingMediaTracks.insert track.id track) ∨
      ((room.findRemoteParticipantForTrack track.id).isSome = true ∧
        (room.mediaTrackEvent track).1.pendingMediaTracks = room.pendingMediaTracks ∧
        ((track.id ∈ room.remoteTracks ∧
            (room.mediaTrackEvent track).1.remoteTracks = room.remoteTracks) ∨
          ∃ remote, remote.media = track ∧ (room.mediaTrackEvent track).1.remoteTracks =
            room.remoteTracks.insert track.id remote))) := by
  unfold Room.mediaTrackEvent
  cases hfind : room.findRemoteParticipantForTrack track.id with
  | none => exact .inl ⟨rfl, rfl, rfl⟩
  | some participant =>
    right
    dsimp only
    split
    · rename_i hmem
      exact ⟨rfl, rfl, .inl ⟨hmem, rfl⟩⟩
    · exact ⟨rfl, rfl, .inr ⟨_, rfl, rfl⟩⟩

theorem mediaTrackRemovedEvent_cases (room : Room) (sid : String) :
    (room.mediaTrackRemovedEvent sid).1.pendingMediaTracks = room.pendingMediaTracks ∧
      ((room.mediaTrackRemovedEvent sid).1.remoteTracks = room.remoteTracks ∨
        (room.mediaTrackRemovedEvent sid).1.remoteTracks = room.remoteTracks.erase sid) := by
  unfold Room.mediaTrackRemovedEvent
  dsimp only
  split
  · split
    · exact ⟨rfl, .inl rfl⟩
    · exact ⟨rfl, .inr rfl⟩
  · exact ⟨rfl, .inl rfl⟩

end LivekitClient.RoomStore
