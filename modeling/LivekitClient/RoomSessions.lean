/-
  LivekitClient/RoomSessions.lean
  ===============================
  **What a room holds from one session to the next** (`Room::Connect`, `Disconnect`,
  `SignalDisconnectedEvent`, `ApplyJoinResponse`, `ApplyParticipantUpdates`,
  `MediaTrackEvent` and `MediaTrackRemovedEvent` in `src/core/room.cpp`).

  Who is in the room, which tracks it has and which it keeps for later are three maps.
  An update that says DISCONNECTED takes a participant out whatever its version, and
  his version goes with him.  A media track that comes before its participant is kept
  until he is there.  A full reconnect and `Disconnect` empty the maps; `Connect` does
  not.
-/
import LivekitClient.JoinInterleaving
import LivekitClient.RoomNotifications
import LivekitClient.TrackStore

namespace LivekitClient.RoomSessions

open Std Runs
open LivekitClient.RoomStore LivekitClient.VersionedSlot
open LivekitClient.JoinInterleaving (After after_update)

/-! ## 1. Presence -/

/-- Snapshots that the server has published of one participant, no two with one
    version. -/
structure Published where
  sid : String
  snapshots : List ParticipantInfo
  newest : ParticipantInfo
  versions : (snapshots.map versionOf).Nodup
  newest_mem : newest ∈ snapshots
  le_newest : ∀ info ∈ snapshots, versionOf info ≤ versionOf newest

/-- The room after a number of `ParticipantUpdateEvent`s. -/
def afterUpdates (room : Room) (updates : List (List ParticipantInfo)) : Room :=
  updates.foldl (fun room update => (room.participantUpdateEvent update).1) room

/-- The snapshots of `sid` among the updates, in their order; those that are taken for
    the local participant are not among them. -/
def delivered (room : Room) (updates : List (List ParticipantInfo)) (sid : String) :
    List ParticipantInfo :=
  (room.localParticipant.remoteInfos updates.flatten).filter fun info => info.sid = sid

theorem after_replayReady (room : Room) (ready : List MediaTrack) :
    After room [] (room.replayReady ready).1 := by
  induction ready generalizing room with
  | nil => exact .refl room
  | cons track rest ih =>
    obtain ⟨hsnapshot, hlocal⟩ := room.mediaTrackEvent_frame track
    exact (After.of_frame hsnapshot hlocal).trans (ih (room.mediaTrackEvent track).1)

theorem after_participantUpdateEvent (room : Room) (update : List ParticipantInfo) :
    After room update (room.participantUpdateEvent update).1 := by
  have h := (after_update true room update).trans
    (after_replayReady _ (room.applyParticipantUpdates true update).2.2)
  rwa [List.append_nil] at h

theorem after_afterUpdates (room : Room) (updates : List (List ParticipantInfo)) :
    After room updates.flatten (afterUpdates room updates) := by
  induction updates generalizing room with
  | nil => exact .refl room
  | cons update rest ih =>
    rw [List.flatten_cons, afterUpdates, List.foldl_cons]
    exact (after_participantUpdateEvent room update).trans (ih _)

theorem snapshotWrite_eq_drop_iff {info : ParticipantInfo} :
    snapshotWrite info = .drop ↔ info.state = .disconnected := by
  rw [snapshotWrite]
  split <;> simp [*]

/-- Whether a participant is there is up to his snapshot that came last. -/
theorem present_iff_last {room : Room} {updates : List (List ParticipantInfo)} {sid : String}
    {last : ParticipantInfo} (hlast : (delivered room updates sid).getLast? = some last) :
    ((afterUpdates room updates).remoteParticipants.get? sid).isSome ↔
      last.state ≠ .disconnected := by
  have hsnapshot := (after_afterUpdates room updates).snapshot sid
  have hwrites : (writesFor sid (room.localParticipant.remoteInfos updates.flatten)).getLast? =
      some (snapshotWrite last) := by
    rw [writesFor, List.getLast?_map]
    exact congrArg (Option.map snapshotWrite) hlast
  have hpresent := isSome_writes_iff_of_getLast? versionOf hwrites (room.snapshot sid)
  rw [← hsnapshot, Room.snapshot, Participants.snapshot, Option.isSome_map] at hpresent
  rw [hpresent, Ne, snapshotWrite_eq_drop_iff]

/-- **Presence follows the newest snapshot** exactly if the one that comes last says the
    same about it. -/
theorem present_iff_newest (published : Published) {room : Room}
    {updates : List (List ParticipantInfo)}
    (horder : (delivered room updates published.sid).Perm published.snapshots) :
    ((((afterUpdates room updates).remoteParticipants.get? published.sid).isSome ↔
        published.newest.state ≠ .disconnected) ↔
      ∀ last, (delivered room updates published.sid).getLast? = some last →
        (last.state = .disconnected ↔ published.newest.state = .disconnected)) := by
  obtain ⟨last, hlast⟩ : ∃ last, (delivered room updates published.sid).getLast? = some last := by
    rw [← Option.isSome_iff_exists, List.getLast?_isSome]
    exact List.ne_nil_of_mem (horder.mem_iff.2 published.newest_mem)
  rw [present_iff_last hlast]
  constructor
  · intro hsame other hother
    rw [hlast, Option.some.injEq] at hother
    rw [← hother]
    exact not_iff_not.1 hsame
  · intro hsame
    exact not_congr (hsame last hlast)

/-- A participant who has come, changed his name and gone. -/
def leaving : Published where
  sid := "PA"
  snapshots :=
    [{ sid := "PA", version := 1 }, { sid := "PA", version := 2, name := "A" },
     { sid := "PA", version := 3, state := .disconnected }]
  newest := { sid := "PA", version := 3, state := .disconnected }
  versions := by decide
  newest_mem := by decide
  le_newest := by decide

/-- The change of the name comes late, but before he is gone. -/
def leavingInOrder : List (List ParticipantInfo) :=
  [[{ sid := "PA", version := 2, name := "A" }, { sid := "PA", version := 1 }],
   [{ sid := "PA", version := 3, state := .disconnected }]]

theorem present_iff_newest_leaving :
    ((((afterUpdates {} leavingInOrder).remoteParticipants.get? "PA").isSome ↔
        leaving.newest.state ≠ .disconnected) ↔
      ∀ last, (delivered {} leavingInOrder "PA").getLast? = some last →
        (last.state = .disconnected ↔ leaving.newest.state = .disconnected)) :=
  present_iff_newest leaving (by decide +kernel)

/-- The change of the name comes when he is gone. -/
def leavingLate : List (List ParticipantInfo) :=
  [[{ sid := "PA", version := 1 }], [{ sid := "PA", version := 3, state := .disconnected }],
   [{ sid := "PA", version := 2, name := "A" }]]

/-- A snapshot that is out of date brings back a participant who has gone. -/
theorem leavingLate_recreates :
    (delivered {} leavingLate "PA").Perm leaving.snapshots ∧
      ¬ (((afterUpdates {} leavingLate).remoteParticipants.get? "PA").isSome ↔
        leaving.newest.state ≠ .disconnected) := by
  decide +kernel

/-! ## 2. Tracks that are removed while they wait -/

/-- A track that waits does so under its own id. -/
def Keyed (room : Room) : Prop :=
  ∀ (sid : String) (track : MediaTrack),
    room.pendingMediaTracks[sid]? = some track → track.id = sid

theorem Keyed.noneNew {room after : Room} (h : Keyed room) (hnone : NoneNew after room) :
    Keyed after :=
  fun sid track hsome => h sid track (hnone.pendingMediaTracks sid track hsome)

theorem Keyed.mediaTrackEvent {room : Room} (h : Keyed room) (track : MediaTrack) :
    Keyed (room.mediaTrackEvent track).1 := by
  intro sid other hsome
  rcases mediaTrackEvent_cases room track with ⟨-, -, hpending⟩ | ⟨-, hpending, -⟩
  · rw [hpending, ExtTreeMap.getElem?_insert] at hsome
    split at hsome
    · rename_i heq
      cases hsome
      exact LawfulEqOrd.compare_eq_iff_eq.mp heq
    · exact h sid other hsome
  · rw [hpending] at hsome
    exact h sid other hsome

theorem Keyed.replayReady {room : Room} (h : Keyed room) (ready : List MediaTrack) :
    Keyed (room.replayReady ready).1 := by
  induction ready generalizing room with
  | nil => exact h
  | cons track rest ih => exact ih (h.mediaTrackEvent track)

/-- The event tells that the track is there. -/
def subscribes (sid : String) : RoomEvent → Bool
  | .trackSubscribed track _ => track == sid
  | _ => false

/-- What a step leaves of one track when it is not about it: the track does not come, it
    does not begin to wait, and the listener does not hear of it. -/
structure Unheard (sid : String) (room : Room) (result : Room × List RoomEvent) : Prop where
  remoteTracks : ∀ track, result.1.remoteTracks[sid]? = some track →
    room.remoteTracks[sid]? = some track
  pendingMediaTracks : sid ∉ room.pendingMediaTracks → sid ∉ result.1.pendingMediaTracks
  events : ∀ event ∈ result.2, subscribes sid event = false

section Unheard

variable {sid : String} {room : Room}

theorem Unheard.of_noneNew {after : Room} {events : List RoomEvent} (hnone : NoneNew after room)
    (hevents : ∀ event ∈ events, subscribes sid event = false) :
    Unheard sid room (after, events) where
  remoteTracks := hnone.remoteTracks sid
  pendingMediaTracks := by
    intro hout hin
    obtain ⟨track, hsome⟩ := exists_getElem?_of_mem hin
    exact hout (mem_of_getElem?_eq_some (hnone.pendingMediaTracks sid track hsome))
  events := hevents

theorem Unheard.trans {after : Room} {events : List RoomEvent} {result : Room × List RoomEvent}
    (h : Unheard sid room (after, events)) (h' : Unheard sid after result) :
    Unheard sid room (result.1, events ++ result.2) where
  remoteTracks := fun track hsome => h.remoteTracks track (h'.remoteTracks track hsome)
  pendingMediaTracks := fun hout => h'.pendingMediaTracks (h.pendingMediaTracks hout)
  events := by
    intro event hmem
    rcases List.mem_append.1 hmem with hmem | hmem
    · exact h.events event hmem
    · exact h'.events event hmem

theorem unheard_mediaTrackEvent {track : MediaTrack} (hne : track.id ≠ sid) :
    Unheard sid room (room.mediaTrackEvent track) := by
  have hcompare : ¬ compare track.id sid = .eq := by
    rw [LawfulEqOrd.compare_eq_iff_eq]
    exact hne
  constructor
  · intro remote hsome
    rcases mediaTrackEvent_cases room track with ⟨-, htracks, -⟩ | ⟨-, -, hcome⟩
    · rwa [htracks] at hsome
    · rcases hcome with ⟨-, htracks⟩ | ⟨added, -, htracks⟩
      · rwa [htracks] at hsome
      · rwa [htracks, ExtTreeMap.getElem?_insert, if_neg hcompare] at hsome
  · intro hout hin
    rcases mediaTrackEvent_cases room track with ⟨-, -, hpending⟩ | ⟨-, hpending, -⟩
    · rw [hpending, ExtTreeMap.mem_insert] at hin
      exact hin.elim hcompare hout
    · rw [hpending] at hin
      exact hout hin
  · intro event hmem
    unfold Room.mediaTrackEvent at hmem
    split at hmem
    · cases hmem
    split at hmem
    · cases hmem
    · simp only [List.mem_append] at hmem
      rcases hmem with hmem | hmem <;> grind [subscribes]

theorem unheard_replayReady {ready : List MediaTrack}
    (hready : ∀ track ∈ ready, track.id ≠ sid) :
    Unheard sid room (room.replayReady ready) := by
  induction ready generalizing room with
  | nil => exact .of_noneNew (.refl room) (by simp)
  | cons track rest ih =>
    have hfirst : Unheard sid room (room.mediaTrackEvent track) :=
      unheard_mediaTrackEvent (hready track List.mem_cons_self)
    exact hfirst.trans (ih fun other hmem => hready other (List.mem_cons_of_mem _ hmem))

theorem subscribes_events (changes : Changes) (after : Room) :
    ∀ event ∈ changes.events after, subscribes sid event = false := by
  intro event hmem
  rw [Changes.events, List.mem_append] at hmem
  rcases hmem with hmem | hmem
  · split at hmem
    · obtain ⟨track, -, rfl⟩ := List.mem_map.mp hmem
      rfl
    · cases hmem
  · split at hmem
    · simp only [Changes.listenerEvents, List.flatten_cons, List.flatten_nil, List.mem_append,
        List.mem_map, List.mem_flatMap, List.not_mem_nil, or_false] at hmem
      rcases hmem with ⟨_, -, rfl⟩ | ⟨_, -, rfl⟩ | ⟨mute, -, rfl⟩ | ⟨gone, -, hmem⟩ | ⟨_, -, rfl⟩ |
        ⟨_, -, rfl⟩ | ⟨_, -, rfl⟩ | ⟨_, -, rfl⟩ | ⟨_, -, rfl⟩ | ⟨_, -, rfl⟩
      case inr.inr.inl =>
        rw [MuteEvent.event]
        split <;> rfl
      case inr.inr.inr.inl =>
        rw [UnsubscriptionEvent.events] at hmem
        grind [subscribes]
      all_goals rfl
    · cases hmem

/-- An update calls `MediaTrackEvent` for tracks that have waited only. -/
theorem unheard_applyParticipantUpdates (emitEvents : Bool) (hkeyed : Keyed room)
    (hout : sid ∉ room.pendingMediaTracks) (updates : List ParticipantInfo) :
    Unheard sid room
      (((room.applyParticipantUpdates emitEvents updates).1.replayReady
          (room.applyParticipantUpdates emitEvents updates).2.2).1,
       (room.applyParticipantUpdates emitEvents updates).2.1 ++
        ((room.applyParticipantUpdates emitEvents updates).1.replayReady
          (room.applyParticipantUpdates emitEvents updates).2.2).2) := by
  have hupdated : Unheard sid room ((room.applyParticipantUpdates emitEvents updates).1,
      (room.applyParticipantUpdates emitEvents updates).2.1) :=
    .of_noneNew (room.noneNew_applyParticipantUpdates emitEvents updates) (subscribes_events _ _)
  apply hupdated.trans
  apply unheard_replayReady
  rintro track hmem rfl
  obtain ⟨other, hsome⟩ := Room.exists_of_mem_ready hmem
  obtain rfl := hkeyed other track hsome
  exact hout (mem_of_getElem?_eq_some hsome)

theorem unheard_mediaTrackRemovedEvent (other : String) :
    Unheard sid room (room.mediaTrackRemovedEvent other) := by
  obtain ⟨hpending, htracks⟩ := mediaTrackRemovedEvent_cases room other
  have hnone : NoneNew (room.mediaTrackRemovedEvent other).1 room := by
    constructor
    · rcases htracks with htracks | htracks
      · rw [htracks]
        exact .refl _
      · rw [htracks]
        exact within_erase _ _
    · rw [hpending]
      exact .refl _
  refine .of_noneNew hnone ?_
  intro event hmem
  grind [subscribes, Room.mediaTrackRemovedEvent]

theorem noneNew_joinLocal (reconnecting : Bool) (room : Room) (join : JoinResponse) :
    NoneNew (room.joinLocal reconnecting join) room := by
  unfold Room.joinLocal
  split
  · exact .refl room
  · exact ⟨.refl _, .refl _⟩

theorem noneNew_joined (reconnecting : Bool) (room : Room) (join : JoinResponse) :
    NoneNew (TrackStore.joined reconnecting room join) room := by
  rw [TrackStore.joined]
  split
  · constructor
    · exact fun other track hsome => by simp [Room.joinClear] at hsome
    · exact fun other track hsome => by simp [Room.joinClear] at hsome
  · exact noneNew_joinLocal reconnecting room join

theorem unheard_applyJoinResponse (reconnecting : Bool) (hkeyed : Keyed room)
    (hout : sid ∉ room.pendingMediaTracks) (join : JoinResponse) :
    Unheard sid room (room.applyJoinResponse reconnecting join) := by
  have hjoined : Unheard sid room (TrackStore.joined reconnecting room join, []) :=
    .of_noneNew (noneNew_joined reconnecting room join) (by simp)
  exact hjoined.trans (unheard_applyParticipantUpdates false
    (hkeyed.noneNew (noneNew_joined reconnecting room join)) (hjoined.pendingMediaTracks hout)
    join.otherParticipants)

/-- Only the media track itself makes it heard of. -/
theorem unheard_handle (hkeyed : Keyed room) (hout : sid ∉ room.pendingMediaTracks) {input : Input}
    (hother : ∀ track, input = .mediaTrack track → track.id ≠ sid) :
    Unheard sid room (room.handle input) := by
  cases input with
  | participantUpdate updates => exact unheard_applyParticipantUpdates true hkeyed hout updates
  | mediaTrack track => exact unheard_mediaTrackEvent (hother track rfl)
  | mediaTrackRemoved other => exact unheard_mediaTrackRemovedEvent other
  | reconnected accepted join =>
    rw [Room.handle, Room.reconnectedEvent]
    split
    · exact unheard_applyJoinResponse true hkeyed hout join
    · exact .of_noneNew (.refl room) (by simp)
  | disconnect accepted =>
    refine .of_noneNew ?_ (by simp)
    rw [Room.disconnect]
    split
    · constructor
      · exact fun other track hsome => by simp at hsome
      · exact fun other track hsome => by simp at hsome
    · exact .refl room

end Unheard

theorem Keyed.handle {room : Room} (h : Keyed room) (input : Input) :
    Keyed (room.handle input).1 := by
  cases input with
  | participantUpdate updates =>
    exact (h.noneNew (room.noneNew_applyParticipantUpdates true updates)).replayReady _
  | mediaTrack track => exact h.mediaTrackEvent track
  | mediaTrackRemoved trackSid =>
    intro sid track hsome
    rw [Room.handle, (mediaTrackRemovedEvent_cases room trackSid).1] at hsome
    exact h sid track hsome
  | reconnected accepted join =>
    rw [Room.handle, Room.reconnectedEvent]
    split
    · have hjoined := h.noneNew (noneNew_joined true room join)
      exact (hjoined.noneNew (Room.noneNew_applyParticipantUpdates false _ _)).replayReady _
    · exact h
  | disconnect accepted =>
    rw [Room.handle, Room.disconnect]
    split
    · exact fun sid track hsome => by simp at hsome
    · exact h

/-- The room after a run. -/
def afterInputs (room : Room) (inputs : List Input) : Room :=
  inputs.foldl (fun room input => (room.handle input).1) room

theorem keyed_afterInputs {room : Room} (h : Keyed room) (inputs : List Input) :
    Keyed (afterInputs room inputs) := by
  induction inputs generalizing room with
  | nil => exact h
  | cons input rest ih => exact ih (h.handle input)

theorem unparked_afterInputs {room : Room} {sid : String} {inputs : List Input}
    (hkeyed : Keyed room) (hout : sid ∉ room.pendingMediaTracks)
    (hother : ∀ track, .mediaTrack track ∈ inputs → track.id ≠ sid) :
    sid ∉ (afterInputs room inputs).pendingMediaTracks := by
  induction inputs generalizing room with
  | nil => exact hout
  | cons input rest ih =>
    rw [afterInputs, List.foldl_cons]
    apply ih (hkeyed.handle input)
    · apply (unheard_handle hkeyed hout ?_).pendingMediaTracks hout
      rintro track rfl
      exact hother track List.mem_cons_self
    · exact fun track hmem => hother track (List.mem_cons_of_mem _ hmem)

/-- A track that is removed does not wait. -/
def RemovesUnparked (room : Room) : Input → Prop
  | .mediaTrackRemoved sid => sid ∉ room.pendingMediaTracks
  | _ => True

instance (room : Room) : (input : Input) → Decidable (RemovesUnparked room input)
  | .mediaTrackRemoved sid => inferInstanceAs (Decidable (sid ∉ room.pendingMediaTracks))
  | .participantUpdate _ | .mediaTrack _ | .reconnected _ _ | .disconnect _ => .isTrue trivial

/-- An update puts the track into `remote_tracks_`, or tells the listener that it is
    there. -/
def Subscribes (room : Room) (updates : List ParticipantInfo) (sid : String) : Prop :=
  (∃ participant, .trackSubscribed sid participant ∈ (room.participantUpdateEvent updates).2) ∨
    ∃ track, (room.participantUpdateEvent updates).1.remoteTracks[sid]? = some track ∧
      room.remoteTracks[sid]? ≠ some track

/-- **A track that was removed is not subscribed by an update**, until it comes anew, in
    every run in which no track is removed while it waits. -/
theorem removed_not_subscribed {start : Room} {before between : List Input} {sid : String}
    (hstart : start.pendingMediaTracks = ∅)
    (hrun : Along RemovesUnparked (fun room input => (room.handle input).1) start
      (before ++ .mediaTrackRemoved sid :: between))
    (hlast : ∀ track, .mediaTrack track ∈ between → track.id ≠ sid)
    (updates : List ParticipantInfo) :
    ¬ Subscribes (afterInputs start (before ++ .mediaTrackRemoved sid :: between)) updates sid := by
  have hkeyed : Keyed start := by
    intro other track hsome
    simp [hstart] at hsome
  have hout : sid ∉ (afterInputs start before).pendingMediaTracks := (along_append.1 hrun).2.1
  have hfinal : sid ∉
      (afterInputs start (before ++ .mediaTrackRemoved sid :: between)).pendingMediaTracks := by
    rw [afterInputs, List.foldl_append]
    apply unparked_afterInputs (keyed_afterInputs hkeyed before) hout
    intro track hmem
    rcases List.mem_cons.1 hmem with heq | hmem
    · cases heq
    · exact hlast track hmem
  have hunheard := unheard_applyParticipantUpdates true (keyed_afterInputs hkeyed _) hfinal updates
  rintro (⟨participant, hmem⟩ | ⟨track, hsome, hnew⟩)
  · have hquiet := hunheard.events _ hmem
    simp [subscribes] at hquiet
  · exact hnew (hunheard.remoteTracks track hsome)

/-- A track comes before its participant and is removed when he is there. -/
def removedInTime : List Input :=
  [.mediaTrack ⟨"TR_1", .audio, 0⟩,
   .participantUpdate [{ sid := "PA", tracks := [{ sid := "TR_1" }] }]]

theorem removed_not_subscribed_removedInTime :
    ¬ Subscribes
      (afterInputs { hasListener := true } (removedInTime ++ [.mediaTrackRemoved "TR_1"]))
      [{ sid := "PA", version := 1, tracks := [{ sid := "TR_1" }] }] "TR_1" :=
  @removed_not_subscribed { hasListener := true } removedInTime [] "TR_1" rfl (by decide +kernel)
    (by simp) _

/-- A track that is removed before its participant is there is still subscribed when he
    comes. -/
theorem removed_while_waiting_subscribed :
    Subscribes
      (afterInputs { hasListener := true }
        ([.mediaTrack ⟨"TR_1", .audio, 0⟩] ++ .mediaTrackRemoved "TR_1" :: []))
      [{ sid := "PA", tracks := [{ sid := "TR_1" }] }] "TR_1" := by
  left
  refine ⟨"PA", ?_⟩
  decide +kernel

/-! ## 3. One session after another -/

open LivekitClient.RoomNotifications (Connection)

structure Session where
  connection : Connection := {}
  store : Room := {}

structure ConnectOptions where
  autoSubscribe : Bool := true
  e2ee : Bool := false

/-- What the engine's `Connect` comes back with. -/
inductive JoinResult where
  | joined (join : JoinResponse)
  | noRoom
  | threw

def JoinResult.connectResult : JoinResult → RoomNotifications.ConnectResult
  | .joined _ => .joined
  | .noRoom => .noRoom
  | .threw => .threw

/-- A call of the application, or an event of the engine. -/
inductive Occurrence where
  | connect (options : ConnectOptions) (result : JoinResult)
  | disconnect
  | connectedEvent
  | reconnectingEvent (fullReconnect : Bool)
  | resumedEvent
  | reconnectedEvent (hasRoom : Bool) (join : JoinResponse)
  | signalDisconnectedEvent (reason : Int)
  | participantUpdate (updates : List ParticipantInfo)
  | mediaTrack (track : MediaTrack)
  | mediaTrackRemoved (trackSid : String)

namespace Session

/-- `Connect` with what the engine has come back with: the options are taken over, and
    the join response is applied to what the room holds. -/
def connectStore (store : Room) (options : ConnectOptions) : JoinResult → Room
  | .joined join =>
    ({ store with autoSubscribe := options.autoSubscribe, hasE2ee := options.e2ee
       }.applyJoinResponse false join).1
  | .noRoom | .threw =>
    { store with autoSubscribe := options.autoSubscribe, hasE2ee := options.e2ee }

def connect (session : Session) (options : ConnectOptions) (result : JoinResult) : Session :=
  if session.connection.refusesConnect then session
  else
    { connection := session.connection.connect result.connectResult
      store := connectStore session.store options result }

def disconnect (session : Session) : Session :=
  { connection := session.connection.disconnect
    store := session.store.disconnect
      (session.connection.state != .disconnecting && session.connection.state != .disconnected) }

def reconnectedEvent (session : Session) (hasRoom : Bool) (join : JoinResponse) : Session :=
  { connection := session.connection.reconnectedEvent hasRoom
    store := (session.store.reconnectedEvent
      (session.connection.state == .reconnecting && hasRoom) join).1 }

def step (session : Session) : Occurrence → Session
  | .connect options result => session.connect options result
  | .disconnect => session.disconnect
  | .connectedEvent => { session with connection := session.connection.connectedEvent }
  | .reconnectingEvent fullReconnect =>
    { session with connection := session.connection.reconnectingEvent fullReconnect }
  | .resumedEvent => { session with connection := session.connection.resumedEvent }
  | .reconnectedEvent hasRoom join => session.reconnectedEvent hasRoom join
  | .signalDisconnectedEvent reason =>
    { session with connection := session.connection.signalDisconnectedEvent reason }
  | .participantUpdate updates =>
    { session with store := (session.store.participantUpdateEvent updates).1 }
  | .mediaTrack track => { session with store := (session.store.mediaTrackEvent track).1 }
  | .mediaTrackRemoved trackSid =>
    { session with store := (session.store.mediaTrackRemovedEvent trackSid).1 }

def run (session : Session) (occurrences : List Occurrence) : Session :=
  occurrences.foldl step session

end Session

/-- The snapshots of the other participants in a join response, those apart that are
    taken for the local participant. -/
def others (store : Room) (join : JoinResponse) : List ParticipantInfo :=
  (store.joinLocal false join).localParticipant.remoteInfos join.otherParticipants

/-- The room holds the participants of the join response, and tracks that are publications
    of theirs. -/
structure StartsFrom (infos : List ParticipantInfo) (store : Room) : Prop where
  participants : ∀ sid, (store.remoteParticipants.get? sid).isSome ↔
    ∃ info ∈ infos, info.sid = sid ∧ info.state ≠ .disconnected
  tracks : ∀ track ∈ store.remoteTracks, ∃ sid participant,
    store.remoteParticipants.get? sid = some participant ∧
      track ∈ participant.trackPublications

/-- Every track that the snapshot lists has a sid. -/
def Named (info : ParticipantInfo) : Prop := ∀ track ∈ info.tracks, track.sid ≠ ""

instance (info : ParticipantInfo) : Decidable (Named info) :=
  inferInstanceAs (Decidable (∀ track ∈ info.tracks, _))

/-- What an earlier session has left goes with the join response, and that lists nobody
    as DISCONNECTED whom it has listed otherwise before; and nobody has a track without
    a sid. -/
structure Clean (store : Room) (infos : List ParticipantInfo) : Prop where
  participants : ∀ sid ∈ store.remoteParticipants.map.keys, ∃ info ∈ infos, info.sid = sid
  tracks : store.remoteTracks.isEmpty = true
  states : infos.Pairwise fun info late =>
    late.sid = info.sid → info.state ≠ .disconnected → late.state ≠ .disconnected
  named : ∀ info ∈ infos, Named info
  heldNamed : ∀ sid ∈ store.remoteParticipants.map.keys, ∀ info ∈ store.snapshot sid, Named info

/-- A `Connect` that is to succeed finds the room clean. -/
def ConnectsClean (session : Session) : Occurrence → Prop
  | .connect _ (.joined join) => session.connection.refusesConnect = false →
      Clean session.store (others session.store join)
  | _ => True

/-- Somebody is listed as present at all exactly if he is the last time. -/
theorem exists_present_iff_last {infos : List ParticipantInfo} {sid : String}
    {last : ParticipantInfo}
    (hstates : infos.Pairwise fun info late =>
      late.sid = info.sid → info.state ≠ .disconnected → late.state ≠ .disconnected)
    (hlast : (infos.filter fun info => info.sid = sid).getLast? = some last) :
    (∃ info ∈ infos, info.sid = sid ∧ info.state ≠ .disconnected) ↔
      last.state ≠ .disconnected := by
  obtain ⟨front, hfilter⟩ := List.getLast?_eq_some_iff.1 hlast
  have hmem : ∀ info, info ∈ front ++ [last] ↔ info ∈ infos ∧ info.sid = sid := by
    intro info
    rw [← hfilter, List.mem_filter, decide_eq_true_eq]
  have hpairs := hstates.filter fun info => info.sid = sid
  rw [hfilter, List.pairwise_append] at hpairs
  obtain ⟨hin, hsid⟩ := (hmem last).1 (by simp)
  constructor
  · rintro ⟨info, hinfo, hinfoSid, hpresent⟩
    rcases List.mem_append.1 ((hmem info).2 ⟨hinfo, hinfoSid⟩) with hfront | heq
    · exact hpairs.2.2 info hfront last (by simp) (hsid.trans hinfoSid.symm) hpresent
    · rwa [← List.mem_singleton.1 heq]
  · intro hpresent
    exact ⟨last, hin, hsid, hpresent⟩

/-- The tracks of a room are listed by participants of it. -/
def Listed (room : Room) : Prop :=
  ∀ track ∈ room.remoteTracks, ∃ sid info, room.snapshot sid = some info ∧
    (info.tracks.any fun listed => listed.sid == track) = true

theorem Listed.mediaTrackEvent {room : Room} (h : Listed room) (media : MediaTrack) :
    Listed (room.mediaTrackEvent media).1 := by
  intro track hmem
  rw [(room.mediaTrackEvent_frame media).1]
  rcases mediaTrackEvent_cases room media with ⟨-, htracks, -⟩ | ⟨hfound, -, hcome⟩
  · exact h track (htracks ▸ hmem)
  · rcases hcome with ⟨-, htracks⟩ | ⟨added, -, htracks⟩
    · exact h track (htracks ▸ hmem)
    · rw [htracks, ExtTreeMap.mem_insert, LawfulEqOrd.compare_eq_iff_eq] at hmem
      rcases hmem with rfl | hmem
      · obtain ⟨participant, hfind⟩ := Option.isSome_iff_exists.1 hfound
        obtain ⟨hget, hhas⟩ := Room.findRemoteParticipantForTrack_eq_some hfind
        refine ⟨participant.info.sid, participant.info, ?_, hhas⟩
        rw [Room.snapshot, Participants.snapshot, hget]
        rfl
      · exact h track hmem

theorem Listed.replayReady {room : Room} (h : Listed room) (ready : List MediaTrack) :
    Listed (room.replayReady ready).1 := by
  induction ready generalizing room with
  | nil => exact h
  | cons track rest ih => exact ih (h.mediaTrackEvent track)

/-- Where every track has a sid, what is listed is published. -/
theorem Listed.exists_participant {room : Room} (h : Listed room)
    (hnamed : ∀ sid info, room.snapshot sid = some info → Named info) {track : String}
    (hmem : track ∈ room.remoteTracks) : ∃ sid participant,
      room.remoteParticipants.get? sid = some participant ∧
        track ∈ participant.trackPublications := by
  obtain ⟨sid, info, hsnapshot, hlists⟩ := h track hmem
  have hsid : track ≠ "" := by
    obtain ⟨listed, hlisted, hsame⟩ := List.any_eq_true.1 hlists
    exact (beq_iff_eq.1 hsame) ▸ hnamed sid info hsnapshot listed hlisted
  obtain ⟨participant, hget, rfl⟩ := Option.map_eq_some_iff.1 hsnapshot
  refine ⟨sid, participant, hget, (participant.mem_trackPublications track).2 ?_⟩
  simp only [listsTrack, hlists, hsid, ne_eq, not_false_eq_true, decide_true, Bool.and_self]

section Connect

variable {store : Room} {join : JoinResponse}

/-- The snapshots after the first join response. -/
theorem snapshot_applyJoinResponse (store : Room) (join : JoinResponse) (sid : String) :
    (store.applyJoinResponse false join).1.snapshot sid =
      writes versionOf (store.snapshot sid) (writesFor sid (others store join)) := by
  have hupdate := (after_update false (store.joinLocal false join) join.otherParticipants).trans
    (after_replayReady _ ((store.joinLocal false join).joinUpdate join).2.2)
  have hsnapshot := hupdate.snapshot sid
  rw [List.append_nil, Room.joinLocal_frame] at hsnapshot
  exact hsnapshot

theorem startsFrom_applyJoinResponse (hclean : Clean store (others store join)) :
    StartsFrom (others store join) (store.applyJoinResponse false join).1 := by
  constructor
  · intro sid
    have hsnapshot := snapshot_applyJoinResponse store join sid
    rw [Room.snapshot, Participants.snapshot] at hsnapshot
    rw [← Option.isSome_map, hsnapshot]
    cases hlast : ((others store join).filter fun info => info.sid = sid).getLast? with
    | none =>
      -- nobody of that sid is listed, so nobody is held either
      have hnone : ¬ ∃ info ∈ others store join, info.sid = sid := by
        rintro ⟨info, hmem, hsid⟩
        rw [List.getLast?_eq_none_iff, List.filter_eq_nil_iff] at hlast
        exact hlast info hmem (by simpa using hsid)
      have hwrites : writesFor sid (others store join) = [] := by
        rw [writesFor, List.getLast?_eq_none_iff.1 hlast]
        rfl
      rw [hwrites, writes_nil, Room.snapshot, Participants.snapshot, Option.isSome_map]
      constructor
      · intro hheld
        refine absurd (hclean.participants sid ?_) hnone
        rw [ExtTreeMap.mem_keys, ExtTreeMap.mem_iff_isSome_getElem?]
        exact hheld
      · rintro ⟨info, hmem, hsid, -⟩
        exact absurd ⟨info, hmem, hsid⟩ hnone
    | some last =>
      have hwrites : (writesFor sid (others store join)).getLast? = some (snapshotWrite last) := by
        rw [writesFor, List.getLast?_map, hlast]
        rfl
      rw [isSome_writes_iff_of_getLast? versionOf hwrites, Ne, snapshotWrite_eq_drop_iff,
        exists_present_iff_last hclean.states hlast]
  · have hnone : NoneNew ((store.joinLocal false join).joinUpdate join).1 store :=
      (noneNew_joinLocal false store join).trans (Room.noneNew_applyParticipantUpdates false _ _)
    have hlisted : Listed ((store.joinLocal false join).joinUpdate join).1 := by
      intro track hmem
      rw [hnone.remoteTracks.eq_empty (ExtTreeMap.isEmpty_iff.1 hclean.tracks)] at hmem
      simp at hmem
    intro track hmem
    refine (hlisted.replayReady _).exists_participant ?_ hmem
    intro sid info hinfo
    have hwritten := (snapshot_applyJoinResponse store join sid).symm.trans hinfo
    rcases mem_of_writes_eq_some versionOf hwritten with hheld | hput
    · refine hclean.heldNamed sid ?_ info hheld
      obtain ⟨participant, hget, -⟩ := Option.map_eq_some_iff.1 hheld
      exact ExtTreeMap.mem_keys.2 (ExtTreeMap.mem_iff_isSome_getElem?.2
        (Option.isSome_iff_exists.2 ⟨participant, hget⟩))
    · obtain ⟨other, hother, hsnapshot⟩ := List.mem_map.1 hput
      have hsame : other = info := by
        unfold snapshotWrite at hsnapshot
        split at hsnapshot
        · cases hsnapshot
        · exact Write.put.inj hsnapshot
      exact hsame ▸ hclean.named other (List.mem_filter.1 hother).1

theorem others_options (options : ConnectOptions) :
    others { store with autoSubscribe := options.autoSubscribe, hasE2ee := options.e2ee } join =
      others store join := by
  rw [others, others, Room.joinLocal, Room.joinLocal]
  cases join.participant <;> rfl

end Connect

/-- **A room that connects starts from the join response**, in every run in which each
    `Connect` that succeeds finds it clean. -/
theorem connect_startsFrom {start : Session} {before : List Occurrence} {options : ConnectOptions}
    {join : JoinResponse}
    (hrun : Along ConnectsClean Session.step start (before ++ [.connect options (.joined join)]))
    (haccepted : (start.run before).connection.refusesConnect = false) :
    StartsFrom (others (start.run before).store join)
      (start.run (before ++ [.connect options (.joined join)])).store := by
  have hclean : Clean (start.run before).store (others (start.run before).store join) :=
    (along_append.1 hrun).2.1 haccepted
  have hstep : start.run (before ++ [.connect options (.joined join)]) =
      (start.run before).connect options (.joined join) :=
    List.foldl_append
  rw [hstep, Session.connect, if_neg (by simp [haccepted]), ← others_options options]
  rw [← others_options options] at hclean
  obtain ⟨hparticipants, htracks, hstates, hnamed, hheld⟩ := hclean
  exact startsFrom_applyJoinResponse ⟨hparticipants, htracks, hstates, hnamed, hheld⟩

/-- A session that ends with its connection lost. -/
def lostSession : List Occurrence :=
  [.connect {} (.joined ⟨some { sid := "PL_1" }, [{ sid := "PA" }]⟩), .connectedEvent,
   .signalDisconnectedEvent 3]

/-- The application disconnects before it connects again; a track comes in between. -/
def leftSession : List Occurrence := lostSession ++ [.disconnect, .mediaTrack ⟨"TB", .audio, 0⟩]

/-- The join response lists that track. -/
def joinWithTrack : JoinResponse :=
  ⟨some { sid := "PL_2" }, [{ sid := "PB", tracks := [{ sid := "TB" }] }]⟩

theorem connect_startsFrom_lostSession :
    StartsFrom (others (Session.run {} leftSession).store joinWithTrack)
        (Session.run {} (leftSession ++ [.connect {} (.joined joinWithTrack)])).store ∧
      "TB" ∈ (Session.run {} (leftSession ++
        [.connect {} (.joined joinWithTrack)])).store.remoteTracks := by
  constructor
  · apply connect_startsFrom
    · refine ⟨fun _ => ⟨?_, ?_, ?_, ?_, ?_⟩, trivial, trivial, trivial, trivial,
        fun _ => ⟨?_, ?_, ?_, ?_, ?_⟩, trivial⟩ <;> decide +kernel
    · decide +kernel
  · decide +kernel

/-- Who was there when the connection was lost is still there after the next `Connect`,
    although the join response does not name him. -/
theorem lostSession_leaves_participants :
    (Session.run {} lostSession).connection.refusesConnect = false ∧
      ¬ StartsFrom (others (Session.run {} lostSession).store ⟨some { sid := "PL_2" }, []⟩)
        (Session.run {} (lostSession ++
          [.connect {} (.joined ⟨some { sid := "PL_2" }, []⟩)])).store := by
  refine ⟨by decide +kernel, ?_⟩
  intro hstarts
  have hheld : ((Session.run {} (lostSession ++
      [.connect {} (.joined ⟨some { sid := "PL_2" }, []⟩)])).store.remoteParticipants.get?
        "PA").isSome = true := by
    decide +kernel
  obtain ⟨info, hmem, -⟩ := (hstarts.participants "PA").1 hheld
  have hnobody : others (Session.run {} lostSession).store ⟨some { sid := "PL_2" }, []⟩ = [] := by
    decide +kernel
  rw [hnobody] at hmem
  cases hmem

end LivekitClient.RoomSessions
