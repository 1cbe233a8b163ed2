/-
  LivekitClient/MediaReconnect.lean
  =================================
  **The media tracks of a new connection** (`Room::MediaTrackEvent`,
  `Room::ApplyJoinResponse`).

  In a full reconnect the tracks of the new connection are delivered while the
  recovery thread is on its way to `ReconnectedEvent`.  `ApplyJoinResponse` then
  clears `remote_tracks_` and `pending_media_tracks_`, which is meant for the tracks
  of the old connection and hits those of the new one that came early.  A track that
  comes after that is in one of three places: the store, the tracks that wait for
  their participant, or those that a thread is about to call `MediaTrackEvent` for.
-/
import LivekitClient.JoinInterleaving

namespace LivekitClient.MediaReconnect

open Std
open LivekitClient.RoomStore
open LivekitClient.VersionedSlot
open LivekitClient.JoinInterleaving

/-! ## 1. What was delivered -/

/-- The tracks that were delivered and not removed. -/
def aliveAfter (alive : List MediaTrack) : Step → List MediaTrack
  | .mediaTrack track => alive ++ [track]
  | .mediaTrackRemoved sid => alive.filter fun track => track.id ≠ sid
  | _ => alive

def alive (steps : List Step) : List MediaTrack := steps.foldl aliveAfter []

/-- The join response lists the publication. -/
def Lists (join : JoinResponse) (sid : String) : Prop :=
  ∃ info ∈ join.otherParticipants, listsTrack info.tracks sid = true

/-- The track is in the store, and is one of the new connection. -/
def Wraps (new : Nat) (room : Room) (sid : String) : Prop :=
  ∃ remote, room.remoteTracks[sid]? = some remote ∧ remote.media.connection = new

/-! ## 2. Where a track is -/

/-- After the old tracks were cleared: all tracks are of the new connection, and none
    that was delivered is lost. -/
structure Kept (new : Nat) (alive : List MediaTrack) (state : State) : Prop where
  remote : ∀ (sid : String) (remote : RemoteTrack),
    state.room.remoteTracks[sid]? = some remote → remote.media.connection = new
  pending : ∀ (sid : String) (track : MediaTrack),
    state.room.pendingMediaTracks[sid]? = some track → track.id = sid ∧ track.connection = new
  ready : ∀ track ∈ state.ready, track.connection = new
  kept : ∀ track ∈ alive, track.id ∈ state.room.remoteTracks ∨
    track.id ∈ state.room.pendingMediaTracks ∨ ∃ other ∈ state.ready, other.id = track.id

section Steps

variable {new : Nat} {alive : List MediaTrack} {state : State}

/-- A track of the new connection that comes in is kept, and so are the others. -/
theorem Kept.mediaTrackEvent (h : Kept new alive state) {track : MediaTrack}
    (hnew : track.connection = new) {ready : List MediaTrack}
    (hready : ∀ other ∈ state.ready, other ∈ ready ∨ other = track)
    (hold : ∀ other ∈ ready, other ∈ state.ready) :
    Kept new (alive ++ [track]) ⟨(state.room.mediaTrackEvent track).1, ready⟩ := by
  have hready' : ∀ other ∈ ready, other.connection = new :=
    fun other hmem => h.ready other (hold other hmem)
  have hkept : ∀ other ∈ alive ++ [track], other.id = track.id ∨
      other.id ∈ state.room.remoteTracks ∨ other.id ∈ state.room.pendingMediaTracks ∨
        ∃ waiting ∈ ready, waiting.id = other.id := by
    intro other hmem
    rcases List.mem_append.mp hmem with hmem | hmem
    · rcases h.kept other hmem with hremote | hpending | ⟨waiting, hwaiting, hid⟩
      · exact .inr (.inl hremote)
      · exact .inr (.inr (.inl hpending))
      · rcases hready waiting hwaiting with hwaiting | rfl
        · exact .inr (.inr (.inr ⟨waiting, hwaiting, hid⟩))
        · exact .inl hid.symm
    · exact .inl (congrArg MediaTrack.id (List.mem_singleton.mp hmem))
  rcases mediaTrackEvent_cases state.room track with
    ⟨-, hremote, hpending⟩ | ⟨-, hpending, ⟨hmem, hremote⟩ | ⟨remote, hmedia, hremote⟩⟩
  · refine ⟨?_, ?_, hready', ?_⟩
    · rw [hremote]
      exact h.remote
    · intro sid found hfound
      rw [hpending, ExtTreeMap.getElem?_insert] at hfound
      split at hfound
      · rename_i heq
        cases hfound
        exact ⟨LawfulEqOrd.compare_eq_iff_eq.mp heq, hnew⟩
      · exact h.pending sid found hfound
    · intro other hother
      rw [hremote, hpending, ExtTreeMap.mem_insert, LawfulEqOrd.compare_eq_iff_eq]
      rcases hkept other hother with hid | hmem | hmem | hmem
      · exact .inr (.inl (.inl hid.symm))
      · exact .inl hmem
      · exact .inr (.inl (.inr hmem))
      · exact .inr (.inr hmem)
  · refine ⟨?_, ?_, hready', ?_⟩
    · rw [hremote]
      exact h.remote
    · rw [hpending]
      exact h.pending
    · intro other hother
      rw [hremote, hpending]
      rcases hkept other hother with hid | hkept
      · exact .inl (hid ▸ hmem)
      · exact hkept
  · refine ⟨?_, ?_, hready', ?_⟩
    · intro sid found hfound
      rw [hremote, ExtTreeMap.getElem?_insert] at hfound
      split at hfound
      · cases hfound
        rw [hmedia]
        exact hnew
      · exact h.remote sid found hfound
    · rw [hpending]
      exact h.pending
    · intro other hother
      rw [hremote, hpending, ExtTreeMap.mem_insert, LawfulEqOrd.compare_eq_iff_eq]
      rcases hkept other hother with hid | hmem | hkept
      · exact .inl (.inl hid.symm)
      · exact .inl (.inr hmem)
      · exact .inr hkept

/-- Fewer tracks are asked for. -/
theorem Kept.mono (h : Kept new alive state) {fewer : List MediaTrack}
    (hsub : ∀ track ∈ fewer, track ∈ alive) : Kept new fewer state :=
  ⟨h.remote, h.pending, h.ready, fun track hmem => h.kept track (hsub track hmem)⟩

theorem Kept.mediaTrackRemovedEvent (h : Kept new alive state) (sid : String) :
    Kept new (alive.filter fun track => track.id ≠ sid)
      { state with room := (state.room.mediaTrackRemovedEvent sid).1 } := by
  obtain ⟨hpending, hremote⟩ := mediaTrackRemovedEvent_cases state.room sid
  have hlookup : ∀ (other : String) (remote : RemoteTrack),
      (state.room.mediaTrackRemovedEvent sid).1.remoteTracks[other]? = some remote →
        state.room.remoteTracks[other]? = some remote := by
    intro other remote hfound
    rcases hremote with hremote | hremote
    · rwa [hremote] at hfound
    · rw [hremote, ExtTreeMap.getElem?_erase] at hfound
      split at hfound
      · cases hfound
      · exact hfound
  refine ⟨fun other remote hfound => h.remote other remote (hlookup other remote hfound), ?_,
    h.ready, ?_⟩
  · dsimp only
    rw [hpending]
    exact h.pending
  · intro track hmem
    obtain ⟨hmem, hne⟩ := List.mem_filter.mp hmem
    dsimp only
    rw [hpending]
    rcases h.kept track hmem with hmem | hmem
    · left
      rcases hremote with hremote | hremote
      · rwa [hremote]
      · rw [hremote, ExtTreeMap.mem_erase, ne_eq, LawfulEqOrd.compare_eq_iff_eq]
        exact ⟨fun heq => by simp [heq] at hne, hmem⟩
    · exact .inr hmem

/-- A step after the old tracks were cleared, other than an update. -/
def Quiet (new : Nat) (step : Step) : Prop :=
  step.appliesJoin = false ∧
    match step with
    | .update _ => False
    | .mediaTrack track => track.connection = new
    | _ => True

theorem Kept.step (h : Kept new alive state) {step : Step} (hquiet : Quiet new step)
    (join : JoinResponse) :
    Kept new (aliveAfter alive step) (state.step true join step) := by
  obtain ⟨hidle, hstep⟩ := hquiet
  cases step with
  | update => exact hstep.elim
  | mediaTrack track =>
    exact h.mediaTrackEvent hstep (fun other hmem => .inl hmem) fun other hmem => hmem
  | mediaTrackRemoved sid => exact h.mediaTrackRemovedEvent sid
  | replay track =>
    simp only [State.step]
    split
    · rename_i hmem
      have hnext := @Kept.mediaTrackEvent new alive state h track (h.ready track hmem)
        (state.ready.erase track)
        (fun other hother => by
          by_cases heq : other = track
          · exact .inr heq
          · exact .inl ((List.mem_erase_of_ne heq).mpr hother))
        fun other hother => List.mem_of_mem_erase hother
      exact hnext.mono fun other hother => List.mem_append_left _ hother
    · exact h
  | resetTransport => exact h
  | connectTransport => exact h
  | rtcConnected => exact h
  | _ => cases hidle

theorem Kept.run (h : Kept new alive state) {steps : List Step}
    (hquiet : ∀ step ∈ steps, Quiet new step) (join : JoinResponse) :
    Kept new (steps.foldl aliveAfter alive) (state.run true join steps) := by
  induction steps generalizing alive state with
  | nil => exact h
  | cons step rest ih =>
    exact ih (h.step (hquiet step List.mem_cons_self) join) fun other hmem =>
      hquiet other (List.mem_cons_of_mem _ hmem)

/-- The update of the join response takes up the tracks that waited. -/
theorem Kept.joinUpdate (h : Kept new alive state) {join : JoinResponse}
    (hstate : ∀ info ∈ join.otherParticipants, info.state ≠ .disconnected) :
    Kept new alive (state.step true join .joinUpdate) := by
  obtain ⟨hremote, hpending⟩ := @Room.applyInfos_silent state.room {} _ hstate
  let room := (state.room.applyInfos false {} join.otherParticipants).1
  have hstep : state.step true join .joinUpdate =
      ⟨room.takeReady.1, state.ready ++ room.takeReady.2⟩ := rfl
  have htaken : ∀ track, track ∈ room.takeReady.2 →
      ∃ sid : String, state.room.pendingMediaTracks[sid]? = some track :=
    fun track hmem => Room.exists_of_mem_ready hmem
  have hleft : Within room.takeReady.1.pendingMediaTracks state.room.pendingMediaTracks :=
    (state.room.noneNew_applyParticipantUpdates false join.otherParticipants).pendingMediaTracks
  rw [hstep]
  refine ⟨?_, fun sid track hfound => h.pending sid track (hleft sid track hfound), ?_, ?_⟩
  · intro sid remote hfound
    apply h.remote sid remote
    rw [← hremote]
    exact hfound
  · intro track hmem
    rcases List.mem_append.mp hmem with hmem | hmem
    · exact h.ready track hmem
    · obtain ⟨sid, hsid⟩ := htaken track hmem
      exact (h.pending sid track hsid).2
  · intro track hmem
    rcases h.kept track hmem with hmem | hmem | ⟨waiting, hwaiting, hid⟩
    · left
      rw [← hremote] at hmem
      exact hmem
    · right
      obtain ⟨found, hfound⟩ := exists_getElem?_of_mem hmem
      have hfound' : room.pendingMediaTracks[track.id]? = some found := by
        rw [← hfound]
        rw [← hpending]
      cases hfind : (room.findRemoteParticipantForTrack track.id).isSome with
      | true =>
        right
        refine ⟨found, List.mem_append_right _ (List.mem_map.mpr ⟨(track.id, found), ?_, rfl⟩),
          (h.pending _ _ hfound).1⟩
        rw [ExtTreeMap.mem_toList_iff_getElem?_eq_some, ExtTreeMap.getElem?_filter']
        exact Option.filter_eq_some_iff.mpr ⟨hfound', hfind⟩
      | false =>
        left
        rw [ExtTreeMap.mem_iff_isSome_getElem?]
        simp only [Room.takeReady]
        rw [ExtTreeMap.getElem?_filter', hfound']
        have hnone : (room.findRemoteParticipantForTrack track.id).isNone = true := by
          simpa using hfind
        simp [hnone]
    · exact .inr (.inr ⟨waiting, List.mem_append_left _ hwaiting, hid⟩)

end Steps

/-! ## 3. Tracks whose participant is known

From the update of the join response on, the participant of a listed publication is
found, and its track does not wait. -/

/-- The participant is found, and the track does not wait for it. -/
structure Found (sid : String) (room : Room) : Prop where
  participant : ∃ participantSid info, room.snapshot participantSid = some info ∧
    info.tracks.any (fun track => track.sid == sid) = true
  notPending : sid ∉ room.pendingMediaTracks

theorem isSome_find_of_snapshot {room : Room} {participantSid sid : String}
    {info : ParticipantInfo} (hsnapshot : room.snapshot participantSid = some info)
    (hhas : info.tracks.any (fun track => track.sid == sid) = true) :
    (room.findRemoteParticipantForTrack sid).isSome = true := by
  obtain ⟨participant, hget, rfl⟩ := Option.map_eq_some_iff.mp hsnapshot
  exact Room.isSome_findRemoteParticipantForTrack hget hhas

theorem Found.mediaTrackEvent {sid : String} {room : Room} (h : Found sid room)
    (track : MediaTrack) : Found sid (room.mediaTrackEvent track).1 := by
  obtain ⟨participantSid, info, hsnapshot, hhas⟩ := h.participant
  refine ⟨⟨participantSid, info, ?_, hhas⟩, ?_⟩
  · rw [(room.mediaTrackEvent_frame track).1]
    exact hsnapshot
  · rcases mediaTrackEvent_cases room track with ⟨hnone, -, hpending⟩ | ⟨-, hpending, -⟩
    · rw [hpending, ExtTreeMap.mem_insert, LawfulEqOrd.compare_eq_iff_eq]
      rintro (heq | hmem)
      · have hsome := isSome_find_of_snapshot hsnapshot hhas
        rw [← heq, hnone] at hsome
        cases hsome
      · exact h.notPending hmem
    · rw [hpending]
      exact h.notPending

theorem Found.step {sid : String} {new : Nat} {state : State} (h : Found sid state.room)
    {step : Step} (hquiet : Quiet new step) (join : JoinResponse) :
    Found sid (state.step true join step).room := by
  obtain ⟨hidle, hstep⟩ := hquiet
  cases step with
  | update => exact hstep.elim
  | mediaTrack track => exact h.mediaTrackEvent track
  | mediaTrackRemoved removed =>
    obtain ⟨participantSid, info, hsnapshot, hhas⟩ := h.participant
    refine ⟨⟨participantSid, info, ?_, hhas⟩, ?_⟩
    · exact (congrFun (state.room.mediaTrackRemovedEvent_frame removed).1 _).trans hsnapshot
    · simp only [State.step, (mediaTrackRemovedEvent_cases state.room removed).1]
      exact h.notPending
  | replay track =>
    simp only [State.step]
    split
    · exact h.mediaTrackEvent track
    · exact h
  | resetTransport => exact h
  | connectTransport => exact h
  | rtcConnected => exact h
  | _ => cases hidle

theorem Found.run {sid : String} {new : Nat} {state : State} (h : Found sid state.room)
    {steps : List Step} (hquiet : ∀ step ∈ steps, Quiet new step) (join : JoinResponse) :
    Found sid (state.run true join steps).room := by
  induction steps generalizing state with
  | nil => exact h
  | cons step rest ih =>
    exact ih (h.step (hquiet step List.mem_cons_self) join) fun other hmem =>
      hquiet other (List.mem_cons_of_mem _ hmem)

/-- The update of the join response makes the participant known. -/
theorem found_joinUpdate {room : Room} {join : JoinResponse} {info : ParticipantInfo}
    (hsnapshot : (room.joinUpdate join).1.snapshot info.sid = some info) {sid : String}
    (hlists : listsTrack info.tracks sid = true) : Found sid (room.joinUpdate join).1 := by
  have hhas : info.tracks.any (fun track => track.sid == sid) = true :=
    (Bool.and_eq_true _ _ ▸ hlists).2
  refine ⟨⟨info.sid, info, hsnapshot, hhas⟩, ?_⟩
  have hsome := isSome_find_of_snapshot hsnapshot hhas
  let updated := (room.applyInfos false {} join.otherParticipants).1
  have hsame : (room.joinUpdate join).1 = updated.takeReady.1 := rfl
  have hfind : (updated.findRemoteParticipantForTrack sid).isSome = true := hsome
  rw [hsame, ExtTreeMap.mem_iff_isSome_getElem?]
  simp only [Room.takeReady]
  rw [ExtTreeMap.getElem?_filter']
  have hnotNone : (updated.findRemoteParticipantForTrack sid).isNone = false := by
    simpa using hfind
  cases updated.pendingMediaTracks[sid]? <;> simp [hnotNone]

/-! ## 4. Full reconnects -/

/-- No track of the new connection comes before the old ones are cleared, and the join
    response names participants that the room takes its word for. -/
structure NothingEarly (room : Room) (join : JoinResponse) (steps : List Step) : Prop where
  late : ∀ track, .mediaTrack track ∉ steps.takeWhile (· ≠ .joinClear)
  listed : ∀ info ∈ join.otherParticipants, info.sid ≠ "" ∧ info.state ≠ .disconnected ∧
    (room.joinLocal true join).localParticipant.isNamedBy info = false
  nodup : (join.otherParticipants.map (·.sid)).Nodup
  held : ∀ info ∈ join.otherParticipants, Older versionOf info (room.snapshot info.sid)

theorem infosOf_eq_nil {steps : List Step} (hnone : ∀ updates, .update updates ∉ steps) :
    infosOf steps = [] := by
  induction steps with
  | nil => rfl
  | cons step rest ih =>
    have hrest := ih fun updates hmem => hnone updates (List.mem_cons_of_mem _ hmem)
    cases step with
    | update updates => exact absurd List.mem_cons_self (hnone updates)
    | _ => exact hrest

/-- Without deliveries no track is alive. -/
theorem alive_eq_nil {steps : List Step} (hnone : ∀ track, .mediaTrack track ∉ steps) :
    alive steps = [] := by
  unfold alive
  induction steps with
  | nil => rfl
  | cons step rest ih =>
    have hrest := ih fun track hmem => hnone track (List.mem_cons_of_mem _ hmem)
    cases step with
    | mediaTrack track => exact absurd List.mem_cons_self (hnone track)
    | _ => exact hrest

theorem remoteInfos_of_unnamed {participant : LocalParticipant} {infos : List ParticipantInfo}
    (hunnamed : ∀ info ∈ infos, info.sid ≠ "" ∧ participant.isNamedBy info = false) :
    participant.remoteInfos infos = infos := by
  induction infos with
  | nil => rfl
  | cons info rest ih =>
    obtain ⟨hne, hnamed⟩ := hunnamed info List.mem_cons_self
    rw [LocalParticipant.remoteInfos, if_neg hne, if_neg (by simp [hnamed]),
      ih fun other hmem => hunnamed other (List.mem_cons_of_mem _ hmem)]

/-- What the room holds of the listed participants after the join response. -/
theorem NothingEarly.snapshot_joinUpdate {room : Room} {join : JoinResponse} {steps : List Step}
    (h : NothingEarly room join steps) {room' : Room}
    (hlocal : room'.localParticipant = (room.joinLocal true join).localParticipant)
    (hsnapshot : ∀ info ∈ join.otherParticipants,
      room'.snapshot info.sid = room.snapshot info.sid)
    {info : ParticipantInfo} (hmem : info ∈ join.otherParticipants) :
    (room'.joinUpdate join).1.snapshot info.sid = some info := by
  have hremote : room'.localParticipant.remoteInfos join.otherParticipants =
      join.otherParticipants := by
    refine remoteInfos_of_unnamed fun other hother => ?_
    obtain ⟨hne, -, hnamed⟩ := h.listed other hother
    rw [hlocal]
    exact ⟨hne, hnamed⟩
  rw [Room.joinUpdate, Room.snapshot_applyParticipantUpdates, hremote,
    writesFor_listed h.nodup hmem, snapshotWrite, if_neg (h.listed info hmem).2.1,
    hsnapshot info hmem]
  exact (h.held info hmem).write_put

theorem joinLocal_congr {room room' : Room} (h : room'.localParticipant = room.localParticipant)
    (join : JoinResponse) :
    (room'.joinLocal true join).localParticipant =
      (room.joinLocal true join).localParticipant := by
  unfold Room.joinLocal
  cases join.participant with
  | none => exact h
  | some info => simp only [h]

theorem ready_run {state : State} (hready : state.ready = []) {steps : List Step}
    (hidle : ∀ step ∈ steps, step.appliesJoin = false)
    (hnone : ∀ updates, .update updates ∉ steps) (join : JoinResponse) :
    (state.run true join steps).ready = [] := by
  induction steps generalizing state with
  | nil => exact hready
  | cons step rest ih =>
    refine ih ?_ (fun other hmem => hidle other (List.mem_cons_of_mem _ hmem))
      fun updates hmem => hnone updates (List.mem_cons_of_mem _ hmem)
    have hfirst := hidle step List.mem_cons_self
    cases step with
    | update updates => exact absurd List.mem_cons_self (hnone updates)
    | replay track => simp [State.step, hready]
    | joinUpdate => cases hfirst
    | _ => exact hready

/-- The room when the old tracks have been cleared. -/
structure Cleared (new : Nat) (room : Room) (join : JoinResponse) (state : State) : Prop where
  kept : Kept new [] state
  localParticipant : state.room.localParticipant = (room.joinLocal true join).localParticipant
  snapshot : ∀ info ∈ join.otherParticipants,
    state.room.snapshot info.sid = room.snapshot info.sid

def clearedState (room : Room) (join : JoinResponse) (s0 s1 : List Step) : State :=
  ((((⟨room, []⟩ : State).run true join s0).step true join .joinLocal).run true join s1).step
    true join .joinClear

/-- Whatever happens before that, apart from updates. -/
theorem cleared_run (new : Nat) {room : Room} {join : JoinResponse} {s0 s1 : List Step}
    (hidle0 : ∀ step ∈ s0, step.appliesJoin = false)
    (hidle1 : ∀ step ∈ s1, step.appliesJoin = false)
    (hnone0 : ∀ updates, .update updates ∉ s0) (hnone1 : ∀ updates, .update updates ∉ s1) :
    Cleared new room join (clearedState room join s0 s1) := by
  let start : State := ⟨room, []⟩
  let state := (start.run true join s0).step true join .joinLocal
  have hafter0 := after_run true join start hidle0
  have hafter1 := after_run true join state hidle1
  rw [infosOf_eq_nil hnone0] at hafter0
  rw [infosOf_eq_nil hnone1] at hafter1
  have hready0 : state.ready = [] := @ready_run start rfl s0 hidle0 hnone0 join
  have hready : (clearedState room join s0 s1).ready = [] := ready_run hready0 hidle1 hnone1 join
  refine ⟨⟨?_, ?_, ?_, ?_⟩, ?_, ?_⟩
  · intro sid remote hfound
    simp [clearedState, State.step, Room.joinClear] at hfound
  · intro sid track hfound
    simp [clearedState, State.step, Room.joinClear] at hfound
  · intro track hin
    rw [hready] at hin
    cases hin
  · intro track hin
    cases hin
  · apply hafter1.localParticipant.trans
    exact joinLocal_congr hafter0.localParticipant join
  · intro info hin
    have hclear := (state.run true join s1).room.snapshot_joinClear join info.sid
    rw [if_pos (List.mem_map_of_mem hin)] at hclear
    have hjoined : state.room.snapshot = _ := Room.joinLocal_frame true _ join
    refine hclear.trans ((hafter1.snapshot info.sid).trans ?_)
    exact (congrFun hjoined info.sid).trans (hafter0.snapshot info.sid)

/-- **No track of the new connection is lost** in a full reconnect in which none comes
    before the old ones are cleared. -/
theorem delivered_tracks_kept {new : Nat} {room : Room} {join : JoinResponse}
    {steps : List Step} (hthread : steps.filter Step.ofJoinThread = joinThread true)
    (hupdates : ∀ updates, .update updates ∉ steps)
    (hnew : ∀ track, .mediaTrack track ∈ steps → track.connection = new)
    (h : NothingEarly room join steps)
    (hdone : ((⟨room, []⟩ : State).run true join steps).ready = []) :
    ∀ track ∈ alive steps, Lists join track.id →
      Wraps new ((⟨room, []⟩ : State).run true join steps).room track.id := by
  obtain ⟨s0, s1, s2, s3, hsteps, hidle0, hidle1, hidle2, hidle3⟩ :=
    exists_reconnect_split hthread
  have hmem : ∀ step ∈ s0 ++ s1 ++ s2 ++ s3, step ∈ steps := by
    intro step hstep
    rw [hsteps]
    simp only [List.mem_append, List.mem_cons] at hstep ⊢
    tauto
  have hidle : ∀ {part : List Step}, (∀ step ∈ part, ¬ step.appliesJoin = true) →
      ∀ step ∈ part, step.appliesJoin = false :=
    fun hidle step hstep => by simpa using hidle step hstep
  have hquiet : ∀ step ∈ s2 ++ s3, Quiet new step := by
    intro step hstep
    have hin : step ∈ steps := hmem step (by
      simp only [List.mem_append] at hstep ⊢
      tauto)
    refine ⟨?_, ?_⟩
    · rcases List.mem_append.mp hstep with hstep | hstep
      · exact hidle hidle2 step hstep
      · exact hidle hidle3 step hstep
    · cases step with
      | update updates => exact hupdates updates hin
      | mediaTrack track => exact hnew track hin
      | _ => trivial
  have hquiet2 : ∀ step ∈ s2, Quiet new step :=
    fun step hstep => hquiet step (List.mem_append_left _ hstep)
  have hquiet3 : ∀ step ∈ s3, Quiet new step :=
    fun step hstep => hquiet step (List.mem_append_right _ hstep)
  -- the tracks that are alive came after the old ones were cleared
  have halive : alive steps = s3.foldl aliveAfter (s2.foldl aliveAfter []) := by
    have hnone : alive (s0 ++ .joinLocal :: s1) = [] := by
      refine alive_eq_nil fun track hin => h.late track ?_
      rw [hsteps, takeWhile_joinClear hidle0 hidle1]
      exact hin
    unfold alive at hnone ⊢
    rw [hsteps, ← List.cons_append, ← List.append_assoc, List.foldl_append, hnone]
    simp [aliveAfter]
  have hcleared := @cleared_run new room join s0 s1 (hidle hidle0) (hidle hidle1)
    (fun updates hin => hupdates updates (hmem _ (by simp [hin])))
    (fun updates hin => hupdates updates (hmem _ (by simp [hin])))
  have hrun : (⟨room, []⟩ : State).run true join steps =
      (((clearedState room join s0 s1).run true join s2).step true join .joinUpdate).run
        true join s3 := by
    rw [hsteps, State.run_append, State.run_cons, State.run_append, State.run_cons,
      State.run_append, State.run_cons]
    rfl
  rw [hrun] at hdone ⊢
  generalize clearedState room join s0 s1 = state at hcleared hdone ⊢
  have hafter := after_run true join state (hidle hidle2)
  rw [infosOf_eq_nil fun updates hin => hupdates updates (hmem _ (by simp [hin]))] at hafter
  have hkept := ((hcleared.kept.run hquiet2 join).joinUpdate
    fun info hin => (h.listed info hin).2.1).run hquiet3 join
  rw [← halive] at hkept
  rintro track hin ⟨info, hinfo, hlists⟩
  have hsnapshot := h.snapshot_joinUpdate
    (hafter.localParticipant.trans hcleared.localParticipant)
    (fun other hother => (hafter.snapshot other.sid).trans (hcleared.snapshot other hother)) hinfo
  have hfound := @Found.run track.id new
    ((state.run true join s2).step true join .joinUpdate) (found_joinUpdate hsnapshot hlists) s3
    hquiet3 join
  rcases hkept.kept track hin with hremote | hpending | ⟨waiting, hwaiting, -⟩
  · obtain ⟨remote, hsome⟩ := Option.isSome_iff_exists.mp
      (ExtTreeMap.mem_iff_isSome_getElem?.mp hremote)
    exact ⟨remote, hsome, hkept.remote _ _ hsome⟩
  · exact absurd hpending hfound.notPending
  · rw [hdone] at hwaiting
    cases hwaiting

/-! ### A run of each kind -/

def alice : ParticipantInfo :=
  { sid := "PA_alice", identity := "alice", version := 1, tracks := [{ sid := "TR_a" }] }

/-- A room with a track of the first connection. -/
def subscribedRoom : Room :=
  ((({ localParticipant := ⟨{ sid := "PA_me1", identity := "me" }, ∅⟩ } :
    Room).applyParticipantUpdates true [alice]).1.mediaTrackEvent ⟨"TR_a", .audio, 1⟩).1

def rejoinWithAlice : JoinResponse where
  participant := some { sid := "PA_me2", identity := "me" }
  otherParticipants := [alice]

/-- The track of the second connection comes when the old one has been cleared. -/
def lateTrack : List Step :=
  [.resetTransport, .connectTransport, .rtcConnected, .joinLocal, .joinClear,
   .mediaTrack ⟨"TR_a", .audio, 2⟩, .joinUpdate]

theorem wraps_lateTrack :
    Wraps 2 ((⟨subscribedRoom, []⟩ : State).run true rejoinWithAlice lateTrack).room "TR_a" := by
  have hsnapshot : subscribedRoom.snapshot "PA_alice" = some alice := by decide +kernel
  refine @delivered_tracks_kept 2 subscribedRoom rejoinWithAlice lateTrack (by decide)
    (by simp [lateTrack]) ?_ ⟨?_, ?_, by decide, ?_⟩ (by decide +kernel) ⟨"TR_a", .audio, 2⟩
    (by decide) ⟨alice, List.mem_cons_self, by decide⟩
  · intro track hmem
    simp only [lateTrack, List.mem_cons, reduceCtorEq, Step.mediaTrack.injEq, List.not_mem_nil,
      or_false, false_or] at hmem
    rw [hmem]
  · simp [lateTrack]
  · decide +kernel
  · intro info hmem
    rw [List.mem_singleton.mp hmem, show alice.sid = "PA_alice" from rfl, hsnapshot]
    intro held hheld
    cases hheld
    exact Nat.le_refl _

/-- The track of the second connection comes while the client still waits. -/
def earlyTrack : List Step :=
  [.resetTransport, .connectTransport, .mediaTrack ⟨"TR_a", .audio, 2⟩, .rtcConnected, .joinLocal,
   .joinClear, .joinUpdate]

/-- A track that comes early is not taken over the old one, which is then cleared. -/
theorem early_track_is_lost :
    ¬ ∀ (new : Nat) (room : Room) (join : JoinResponse) (steps : List Step),
      steps.filter Step.ofJoinThread = joinThread true →
        (∀ updates, .update updates ∉ steps) →
          (∀ track, .mediaTrack track ∈ steps → track.connection = new) →
            ((⟨room, []⟩ : State).run true join steps).ready = [] →
              ∀ track ∈ alive steps, Lists join track.id →
                Wraps new ((⟨room, []⟩ : State).run true join steps).room track.id := by
  intro hall
  have hwraps := hall 2 subscribedRoom rejoinWithAlice earlyTrack (by decide)
    (by simp [earlyTrack])
    (by
      intro track hmem
      simp only [earlyTrack, List.mem_cons, reduceCtorEq, Step.mediaTrack.injEq,
        List.not_mem_nil, or_false, false_or] at hmem
      rw [hmem])
    (by decide +kernel) ⟨"TR_a", .audio, 2⟩ (by decide) ⟨alice, List.mem_cons_self, by decide⟩
  obtain ⟨remote, hsome, -⟩ := hwraps
  have hnone : ((⟨subscribedRoom, []⟩ : State).run true rejoinWithAlice
      earlyTrack).room.remoteTracks["TR_a"]? = none := by decide +kernel
  rw [hnone] at hsome
  cases hsome

end LivekitClient.MediaReconnect
