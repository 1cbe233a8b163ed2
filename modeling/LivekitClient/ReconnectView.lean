/-
  LivekitClient/ReconnectView.lean
  ================================
  **An application's own list, across full reconnects** (`src/core/room.cpp`:
  `ReconnectedEvent`, `ApplyJoinResponse`).

  Beside the participants and publications of `RoomView`, the list has the subscribed
  tracks.  It follows the calls of updates and of media tracks, in any order.

  A full reconnect is different.  `ApplyJoinResponse` drops the tracks and the
  participants that are gone by itself, and applies the snapshots of the others with
  `emit_events` off: it calls the listener for none of these changes.  So a list stays
  true if it is read anew there.
-/
import Mathlib.Tactic.Common
import LivekitClient.RoomView

namespace LivekitClient.ReconnectView

open Std KeyedFold LivekitClient.RoomStore LivekitClient.RoomView

/-! ## 1. The list -/

/-- A track that is subscribed (`true`) or no longer so. -/
def trackChange? : RoomEvent → Option (String × Bool)
  | .trackSubscribed track _ => some (track, true)
  | .trackUnsubscribed track _ => some (track, false)
  | _ => none

def applyToTrack : Bool → Bool → Option Bool
  | false, true => some true
  | true, false => some false
  | _, _ => none

abbrev Tracks := String → Bool

def tracksOf (room : Room) : Tracks := fun track => room.remoteTracks.contains track

structure Listing where
  participants : View
  tracks : Tracks

def listingOf (room : Room) : Listing := ⟨viewOf room, tracksOf room⟩

def followTracks (tracks : Tracks) (events : List RoomEvent) : Option Tracks :=
  (events.filterMap trackChange?).foldlM (applyAt applyToTrack) tracks

def Listing.follow (listing : Listing) (events : List RoomEvent) : Option Listing :=
  (listing.participants.follow events).bind fun participants =>
    (followTracks listing.tracks events).map fun tracks => ⟨participants, tracks⟩

theorem followTracks_cons {tracks : Tracks} {event : RoomEvent} {change : String × Bool}
    (hchange : trackChange? event = some change) (events : List RoomEvent) :
    followTracks tracks (event :: events) =
      (applyAt applyToTrack tracks change).bind fun tracks => followTracks tracks events := by
  rw [followTracks, List.filterMap_cons_some hchange, List.foldlM_cons]
  rfl

theorem followTracks_eq_self {events : List RoomEvent} (hnone : events.filterMap trackChange? = [])
    (tracks : Tracks) : followTracks tracks events = some tracks := by
  rw [followTracks, hnone]
  rfl

theorem followTracks_append (tracks : Tracks) (events more : List RoomEvent) :
    followTracks tracks (events ++ more) =
      (followTracks tracks events).bind fun tracks => followTracks tracks more := by
  rw [followTracks, List.filterMap_append, List.foldlM_append]
  rfl

theorem followTracks_filter_notLocal (tracks : Tracks) (events : List RoomEvent) :
    followTracks tracks (events.filter notLocal) = followTracks tracks events := by
  rw [followTracks, followTracks, List.filterMap_filter]
  congr 1
  refine List.filterMap_congr fun event _ => ?_
  cases event <;> simp [trackChange?, notLocal, aboutLocal, participantChange?]

/-! ## 2. Tracks that come and go -/

theorem applyAt_insert {tracks : ExtTreeMap String RemoteTrack} {sid : String}
    (hnone : tracks.contains sid = false) (remote : RemoteTrack) :
    applyAt applyToTrack (fun track => tracks.contains track) (sid, true) =
      some fun track => (tracks.insert sid remote).contains track := by
  simp only [applyAt, hnone]
  refine congrArg some (funext fun track => ?_)
  by_cases heq : sid = track
  · rw [← heq, Function.update_self]
    simp
  · rw [Function.update_of_ne (Ne.symm heq), ExtTreeMap.contains_insert]
    simp [heq]

theorem applyAt_erase {tracks : ExtTreeMap String RemoteTrack} {sid : String}
    (hsome : tracks.contains sid = true) :
    applyAt applyToTrack (fun track => tracks.contains track) (sid, false) =
      some fun track => (tracks.erase sid).contains track := by
  simp only [applyAt, hsome]
  refine congrArg some (funext fun track => ?_)
  by_cases heq : sid = track
  · rw [← heq, Function.update_self]
    simp
  · rw [Function.update_of_ne (Ne.symm heq), ExtTreeMap.contains_erase]
    simp [heq]

theorem followTracks_mediaTrackEvent {room : Room} (hlistener : room.hasListener = true)
    (track : MediaTrack) :
    followTracks (tracksOf room) (room.mediaTrackEvent track).2 =
      some (tracksOf (room.mediaTrackEvent track).1) := by
  rw [Room.mediaTrackEvent]
  split
  · rfl
  · rename_i participant hfind
    split
    · rfl
    · rename_i hnone
      dsimp only
      generalize hremote : RemoteTrack.mk .. = remote
      have hcomes : applyAt applyToTrack (tracksOf room) (track.id, true) = _ :=
        applyAt_insert ((Bool.not_eq_true _).mp hnone) remote
      rw [followTracks_append, followTracks_eq_self, Option.bind_some, followTracks_cons rfl,
        hcomes, Option.bind_some, followTracks_eq_self]
      · rfl
      · split
        · split <;> rfl
        · rfl
      · split
        · split <;> rfl
        · rfl

theorem followTracks_replayReady {room : Room} (hlistener : room.hasListener = true)
    (ready : List MediaTrack) :
    followTracks (tracksOf room) (room.replayReady ready).2 =
      some (tracksOf (room.replayReady ready).1) := by
  induction ready generalizing room with
  | nil => rfl
  | cons track rest ih =>
    rw [Room.replayReady]
    dsimp only
    rw [followTracks_append, followTracks_mediaTrackEvent hlistener]
    exact ih ((hasListener_mediaTrackEvent room track).trans hlistener)

theorem followTracks_mediaTrackRemovedEvent {room : Room} (hlistener : room.hasListener = true)
    (trackSid : String) :
    followTracks (tracksOf room) (room.mediaTrackRemovedEvent trackSid).2 =
      some (tracksOf (room.mediaTrackRemovedEvent trackSid).1) := by
  have hnothing : followTracks (tracksOf room)
      (if room.hasE2ee then [RoomEvent.receiverDetached trackSid] else []) =
        some (tracksOf room) := by
    refine followTracks_eq_self ?_ _
    split <;> rfl
  rw [Room.mediaTrackRemovedEvent]
  dsimp only
  split
  · rename_i participant remote hfind htrack
    split
    · exact hnothing
    · have hsome : room.remoteTracks.contains trackSid = true := by
        rw [ExtTreeMap.contains_eq_isSome_getElem?, htrack]
        rfl
      have hgoes : applyAt applyToTrack (tracksOf room) (trackSid, false) = _ :=
        applyAt_erase hsome
      rw [if_pos hlistener, followTracks_append, hnothing, Option.bind_some,
        followTracks_cons rfl, hgoes, Option.bind_some, followTracks_eq_self]
      · rfl
      · split <;> rfl
  · exact hnothing

/-! ## 3. The tracks of a batch -/

/-- The unsubscriptions collected so far lead from `tracks` to the room's. -/
def UnsubscribedFrom (tracks : Tracks) (state : Room × Changes) : Prop :=
  (state.2.unsubscribed.map fun event => (event.track, false)).foldlM (applyAt applyToTrack)
    tracks = some (tracksOf state.1)

theorem UnsubscribedFrom.dropTrack {tracks : Tracks} {room : Room} {changes : Changes}
    (hfrom : UnsubscribedFrom tracks (room, changes)) (participant sid : String)
    (publication : RemoteTrackPublication) :
    UnsubscribedFrom tracks (room.dropTrack true participant changes sid publication) := by
  rw [UnsubscribedFrom] at hfrom ⊢
  simp only [Room.dropTrack, Bool.and_true]
  by_cases hheld : room.remoteTracks.contains sid = true
  · rw [if_pos hheld, List.map_append, List.foldlM_append, hfrom]
    have hgoes : applyAt applyToTrack (tracksOf room) (sid, false) = _ := applyAt_erase hheld
    simp only [Option.bind_eq_bind, Option.bind_some, List.map_cons, List.map_nil,
      List.foldlM_cons]
    rw [hgoes]
    rfl
  · rw [if_neg hheld, List.append_nil, hfrom]
    refine congrArg some (funext fun track => ?_)
    rw [tracksOf, tracksOf, ExtTreeMap.contains_erase]
    by_cases heq : sid = track
    · rw [← heq, (Bool.not_eq_true _).mp hheld]
      simp
    · simp [heq]

theorem UnsubscribedFrom.dropTracks {tracks : Tracks} {room : Room} {changes : Changes}
    (hfrom : UnsubscribedFrom tracks (room, changes)) (participant : String)
    (publications : List (String × RemoteTrackPublication)) :
    UnsubscribedFrom tracks (room.dropTracks true participant changes publications) := by
  rw [Room.dropTracks]
  induction publications generalizing room changes with
  | nil => exact hfrom
  | cons publication rest ih => exact ih (hfrom.dropTrack participant _ _)

theorem UnsubscribedFrom.applyInfo {tracks : Tracks} {room : Room} {changes : Changes}
    (hfrom : UnsubscribedFrom tracks (room, changes)) (info : ParticipantInfo) :
    UnsubscribedFrom tracks (room.applyInfo true changes info) := by
  rw [Room.applyInfo]
  split
  · exact hfrom
  split
  · exact hfrom
  split <;> split
  · exact hfrom
  · exact hfrom
  · exact hfrom.dropTracks _ _
  · rw [Room.updateParticipant]
    refine UnsubscribedFrom.dropTracks ?_ _ _
    exact hfrom

theorem UnsubscribedFrom.applyInfos {tracks : Tracks} {room : Room} {changes : Changes}
    (hfrom : UnsubscribedFrom tracks (room, changes)) (infos : List ParticipantInfo) :
    UnsubscribedFrom tracks (room.applyInfos true changes infos) := by
  induction infos generalizing room changes with
  | nil => exact hfrom
  | cons info rest ih => exact ih (hfrom.applyInfo info)

theorem filterMap_trackChange?_events {room : Room} (hlistener : room.hasListener = true)
    (changes : Changes) :
    (changes.events room).filterMap trackChange? =
      changes.unsubscribed.map fun event => (event.track, false) := by
  have hunsubscribed : (changes.unsubscribed.flatMap UnsubscriptionEvent.events).filterMap
      trackChange? = changes.unsubscribed.map fun event => (event.track, false) := by
    rw [List.filterMap_flatMap, List.map_eq_flatMap]
    refine List.flatMap_congr fun event _ => ?_
    rw [UnsubscriptionEvent.events]
    split <;> rfl
  have hmute : ∀ event : MuteEvent, trackChange? event.event = none := by
    intro event
    rw [MuteEvent.event]
    split <;> rfl
  rw [filterMap_events hlistener fun _ => rfl, Changes.listenerEvents]
  simp only [List.map_cons, List.map_nil, List.flatten_cons, List.flatten_nil, hunsubscribed]
  rw [filterMap_map_eq_nil (fun _ => rfl) changes.connected,
    filterMap_map_eq_nil (fun _ => rfl) changes.published,
    filterMap_map_eq_nil hmute changes.muteChanged,
    filterMap_map_eq_nil (fun _ => rfl) changes.unpublished,
    filterMap_map_eq_nil (fun _ => rfl) changes.metadataChanged,
    filterMap_map_eq_nil (fun _ => rfl) changes.nameChanged,
    filterMap_map_eq_nil (fun _ => rfl) changes.attributesChanged,
    filterMap_map_eq_nil (fun _ => rfl) changes.permissionsChanged,
    filterMap_map_eq_nil (fun _ => rfl) changes.disconnected]
  simp only [List.nil_append, List.append_nil]

/-- The calls of a batch lead from the tracks before to the tracks after. -/
theorem followTracks_participantUpdateEvent {room : Room} (hlistener : room.hasListener = true)
    (updates : List ParticipantInfo) :
    followTracks (tracksOf room) (room.participantUpdateEvent updates).2 =
      some (tracksOf (room.participantUpdateEvent updates).1) := by
  have hlistener' : (room.applyInfos true {} updates).1.takeReady.1.hasListener = true :=
    (hasListener_applyInfos true room {} updates).trans hlistener
  have hstart : UnsubscribedFrom (tracksOf room) (room, {}) := rfl
  have hbatch := hstart.applyInfos updates
  rw [Room.participantUpdateEvent, Room.applyParticipantUpdates]
  dsimp only
  rw [followTracks_append, followTracks, filterMap_trackChange?_events hlistener', hbatch]
  exact followTracks_replayReady hlistener' _

/-! ## 4. A full reconnect is silent -/

theorem changes_dropTracks_silent (participant : String) (room : Room) (changes : Changes)
    (publications : List (String × RemoteTrackPublication)) :
    ∃ removedCryptors, (room.dropTracks false participant changes publications).2 =
      { changes with removedCryptors := removedCryptors } := by
  induction publications generalizing room changes with
  | nil => exact ⟨changes.removedCryptors, rfl⟩
  | cons publication rest ih =>
    rw [Room.dropTracks, List.foldl_cons, ← Room.dropTracks]
    obtain ⟨removedCryptors, heq⟩ :=
      ih (room.dropTrack false participant changes publication.1 publication.2).1
        (room.dropTrack false participant changes publication.1 publication.2).2
    refine ⟨removedCryptors, heq.trans ?_⟩
    simp [Room.dropTrack]

/-- With events off, an update collects cryptors only. -/
theorem changes_applyInfo_silent (room : Room) (changes : Changes) (info : ParticipantInfo) :
    ∃ removedCryptors, (room.applyInfo false changes info).2 =
      { changes with removedCryptors := removedCryptors } := by
  rw [Room.applyInfo]
  split
  · exact ⟨changes.removedCryptors, rfl⟩
  split
  · exact ⟨changes.removedCryptors, rfl⟩
  split <;> split
  · exact ⟨changes.removedCryptors, rfl⟩
  · exact ⟨changes.removedCryptors, rfl⟩
  · rename_i held _ _
    obtain ⟨removedCryptors, heq⟩ := changes_dropTracks_silent held.info.sid room changes
      held.trackPublications.toList
    refine ⟨removedCryptors, ?_⟩
    rw [Room.disconnectParticipant]
    simp [heq]
  · exact ⟨changes.removedCryptors, rfl⟩

theorem changes_applyInfos_silent (room : Room) (changes : Changes)
    (infos : List ParticipantInfo) :
    ∃ removedCryptors, (room.applyInfos false changes infos).2 =
      { changes with removedCryptors := removedCryptors } := by
  induction infos generalizing room changes with
  | nil => exact ⟨changes.removedCryptors, rfl⟩
  | cons info rest ih =>
    rw [Room.applyInfos, List.foldl_cons, ← Room.applyInfos]
    obtain ⟨first, hfirst⟩ := changes_applyInfo_silent room changes info
    obtain ⟨removedCryptors, heq⟩ := ih (room.applyInfo false changes info).1
      (room.applyInfo false changes info).2
    refine ⟨removedCryptors, heq.trans ?_⟩
    rw [hfirst]

theorem events_cryptors (removedCryptors : List String) (room : Room) :
    ∀ event ∈ ({ removedCryptors := removedCryptors } : Changes).events room,
      ∃ track, event = .receiverDetached track := by
  intro event hmem
  rw [Changes.events, List.mem_append] at hmem
  rcases hmem with hmem | hmem
  · split at hmem
    · obtain ⟨track, -, rfl⟩ := List.mem_map.mp hmem
      exact ⟨track, rfl⟩
    · cases hmem
  · split at hmem
    · simp [Changes.listenerEvents] at hmem
    · cases hmem

/-- **A full reconnect calls the listener for none of its changes**: what is left goes to
    the E2EE manager. -/
theorem reconnectedEvent_silent (accepted : Bool) (room : Room) (join : JoinResponse) :
    ∀ event ∈ (room.reconnectedEvent accepted join).2,
      ∃ track, event = .receiverDetached track := by
  rw [Room.reconnectedEvent]
  split
  · rw [Room.applyJoinResponse]
    simp only [if_true, Room.joinUpdate, Room.applyParticipantUpdates]
    generalize hcleared : (room.joinLocal true join).joinClear join = cleared
    have hpending : cleared.pendingMediaTracks = ∅ := by
      rw [← hcleared]
      rfl
    obtain ⟨removedCryptors, hchanges⟩ :=
      changes_applyInfos_silent cleared {} join.otherParticipants
    have hready : (cleared.applyInfos false {} join.otherParticipants).1.takeReady.2 = [] := by
      have hstill := (cleared.noneNew_applyInfos false {} join.otherParticipants).pendingMediaTracks
      simp only [Room.takeReady, hstill.eq_empty hpending]
      rfl
    rw [hchanges, hready, Room.replayReady, List.append_nil]
    exact events_cryptors removedCryptors _
  · simp

/-! ## 5. Runs -/

/-- What the list is kept for: no update names a participant twice, and the room is not
    left. -/
def Followable : Input → Prop
  | .participantUpdate updates => (updates.map (·.sid)).Nodup
  | .disconnect _ => False
  | _ => True

/-- The room, and the list of a listener that follows the calls it minds; `anew` says
    whether it reads the room anew after a full reconnect. -/
def observe (minds : RoomEvent → Bool) (anew : Bool) (state : Room × Option Listing)
    (input : Input) : Room × Option Listing :=
  ((state.1.handle input).1,
   match input, anew with
   | .reconnected true _, true => some (listingOf (state.1.handle input).1)
   | _, _ => state.2.bind (·.follow ((state.1.handle input).2.filter minds)))

theorem follow_listing {room after : Room} {events : List RoomEvent}
    (hview : (viewOf room).follow (events.filter notLocal) = some (viewOf after))
    (htracks : followTracks (tracksOf room) events = some (tracksOf after)) :
    (listingOf room).follow (events.filter notLocal) = some (listingOf after) := by
  rw [Listing.follow, listingOf, hview, followTracks_filter_notLocal, htracks]
  rfl

theorem follow_of_no_change {room after : Room} {events : List RoomEvent}
    (hnone : events.filterMap remoteChange? = []) (hsame : viewOf after = viewOf room) :
    (viewOf room).follow (events.filter notLocal) = some (viewOf after) := by
  have hfollow := follow_filter_not_aboutLocal (viewOf room) events
  rw [hnone] at hfollow
  rw [hsame]
  exact hfollow

theorem viewOf_mediaTrackRemovedEvent (room : Room) (trackSid : String) :
    viewOf (room.mediaTrackRemovedEvent trackSid).1 = viewOf room := by
  rw [Room.mediaTrackRemovedEvent]
  dsimp only
  split
  · rename_i participant track hfind htrack
    split
    · rfl
    · have hget := (Room.findRemoteParticipantForTrack_eq_some hfind).1
      exact funext (cellOf_insert_attach hget _ _)
  · rfl

theorem remoteChange?_mediaTrackRemovedEvent (room : Room) (trackSid : String) :
    (room.mediaTrackRemovedEvent trackSid).2.filterMap remoteChange? = [] := by
  have hdetached : (if room.hasE2ee then [RoomEvent.receiverDetached trackSid] else []).filterMap
      remoteChange? = [] := by
    split <;> rfl
  rw [Room.mediaTrackRemovedEvent]
  dsimp only
  split
  · split
    · exact hdetached
    · rw [List.filterMap_append, hdetached, List.nil_append]
      split
      · split <;> rfl
      · rfl
  · exact hdetached

theorem hasListener_handle (room : Room) (input : Input) :
    (room.handle input).1.hasListener = room.hasListener := by
  cases input with
  | participantUpdate updates => exact hasListener_participantUpdateEvent room updates
  | mediaTrack track => exact hasListener_mediaTrackEvent room track
  | mediaTrackRemoved trackSid =>
    rw [Room.handle, Room.mediaTrackRemovedEvent]
    dsimp only
    split
    · split <;> rfl
    · rfl
  | reconnected accepted join =>
    rw [Room.handle, Room.reconnectedEvent]
    split
    · have hlocal : (room.joinLocal true join).hasListener = room.hasListener := by
        rw [Room.joinLocal]
        split <;> rfl
      exact (replayReady_frame _ _).2.1.trans
        ((hasListener_applyInfos false _ {} join.otherParticipants).trans hlocal)
    · rfl
  | disconnect accepted =>
    rw [Room.handle, Room.disconnect]
    split <;> rfl

/-- One step: the list of the room before becomes the list of the room after. -/
theorem observe_listingOf {room : Room} (hlistener : room.hasListener = true) {input : Input}
    (hinput : Followable input) :
    observe notLocal true (room, some (listingOf room)) input =
      ((room.handle input).1, some (listingOf (room.handle input).1)) := by
  refine Prod.ext rfl ?_
  cases input with
  | participantUpdate updates =>
    exact follow_listing (follow_participantUpdateEvent hlistener hinput)
      (followTracks_participantUpdateEvent hlistener updates)
  | mediaTrack track =>
    refine follow_listing ?_ (followTracks_mediaTrackEvent hlistener track)
    exact follow_of_no_change (remoteChange?_mediaTrackEvent room track)
      (viewOf_mediaTrackEvent room track)
  | mediaTrackRemoved trackSid =>
    refine follow_listing ?_ (followTracks_mediaTrackRemovedEvent hlistener trackSid)
    exact follow_of_no_change (remoteChange?_mediaTrackRemovedEvent room trackSid)
      (viewOf_mediaTrackRemovedEvent room trackSid)
  | reconnected accepted join =>
    cases accepted with
    | true => rfl
    | false => rfl
  | disconnect accepted => exact hinput.elim

/-- **A list that is read anew after each full reconnect stays true**: after every run of
    updates, media tracks and full reconnects it holds the participants, the publications
    with their mute flags and the tracks of the room.  A full reconnect itself calls
    the listener for none of them. -/
theorem listing_eq_listingOf {room : Room} (hlistener : room.hasListener = true)
    {inputs : List Input} (hinputs : ∀ input ∈ inputs, Followable input) :
    (inputs.foldl (observe notLocal true) (room, some (listingOf room))).2 =
        some (listingOf (inputs.foldl (observe notLocal true) (room, some (listingOf room))).1) ∧
      ∀ (before : Room) (accepted : Bool) (join : JoinResponse),
        ∀ event ∈ (before.reconnectedEvent accepted join).2,
          participantChange? event = none ∧ trackChange? event = none := by
  refine ⟨?_, ?_⟩
  · induction inputs generalizing room with
    | nil => rfl
    | cons input rest ih =>
      rw [List.foldl_cons, observe_listingOf hlistener (hinputs input List.mem_cons_self)]
      apply ih
      · exact (hasListener_handle room input).trans hlistener
      · exact fun other hmem => hinputs other (List.mem_cons_of_mem _ hmem)
  · intro before accepted join event hmem
    obtain ⟨track, rfl⟩ := reconnectedEvent_silent accepted before join event hmem
    exact ⟨rfl, rfl⟩

/-- A participant with a track is gone after a full reconnect, another one has come. -/
def awayInputs : List Input :=
  [.participantUpdate [{ sid := "PA", tracks := [{ sid := "TR" }] }],
   .mediaTrack ⟨"TR", .audio, 0⟩,
   .reconnected true ⟨none, [{ sid := "PB" }]⟩]

/-- And then the other one publishes a track that is subscribed, and a third comes. -/
def awayAndOnInputs : List Input :=
  awayInputs ++
    [.participantUpdate [{ sid := "PB", tracks := [{ sid := "TB" }] }, { sid := "PC" }],
     .mediaTrack ⟨"TB", .audio, 0⟩]

theorem listing_after_awayInputs :
    (∀ input ∈ awayAndOnInputs, Followable input) ∧
      (awayAndOnInputs.foldl (observe notLocal true)
          ({ hasListener := true }, some (listingOf { hasListener := true }))).2 =
        some (listingOf (awayAndOnInputs.foldl (observe notLocal true)
          ({ hasListener := true }, some (listingOf { hasListener := true }))).1) ∧
      tracksOf (awayAndOnInputs.foldl (observe notLocal true)
          ({ hasListener := true }, some (listingOf { hasListener := true }))).1 "TB" = true := by
  have hinputs : ∀ input ∈ awayAndOnInputs, Followable input := by
    simp [awayAndOnInputs, awayInputs, Followable]
  exact ⟨hinputs, (listing_eq_listingOf rfl hinputs).1, by decide +kernel⟩

/-- A participant leaves and comes back in one update. -/
def backInputs : List Input :=
  [.participantUpdate [{ sid := "PA" }],
   .participantUpdate [{ sid := "PA", state := .disconnected }, { sid := "PA" }]]

/-- A listener that follows all calls and never reads the room anew. -/
def followAll (room : Room) (inputs : List Input) : Room × Option Listing :=
  inputs.foldl (observe (fun _ => true) false) (room, some (listingOf room))

/-- Three such lists.  After the full reconnect the first still has the participant and
    its track, and lacks the new one; the second is told that the participant connects
    while it holds it; the third, that a track of the local participant is muted. -/
theorem followAll_fails :
    (followAll { hasListener := true } awayInputs).2.map (fun listing =>
        ((listing.participants "PA").isSome, (listing.participants "PB").isSome,
          listing.tracks "TR")) = some (true, false, true) ∧
      (viewOf (followAll { hasListener := true } awayInputs).1 "PA").isSome = false ∧
      (viewOf (followAll { hasListener := true } awayInputs).1 "PB").isSome = true ∧
      tracksOf (followAll { hasListener := true } awayInputs).1 "TR" = false ∧
      (followAll { hasListener := true } backInputs).2 = none ∧
      (followAll localRoom (localMute.map Input.participantUpdate)).2 = none :=
  ⟨by decide +kernel, by decide +kernel, by decide +kernel, by decide +kernel,
    Option.isNone_iff_eq_none.mp (by decide +kernel),
    Option.isNone_iff_eq_none.mp (by decide +kernel)⟩

end LivekitClient.ReconnectView
