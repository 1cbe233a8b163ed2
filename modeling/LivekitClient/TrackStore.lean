/-
  LivekitClient/TrackStore.lean
  =============================
  **The room's tracks and the publications they are attached to**
  (`src/core/room.cpp`: `ApplyParticipantUpdates`, `ApplyJoinResponse`,
  `MediaTrackEvent`, `MediaTrackRemovedEvent`, `Disconnect`).

  `remote_tracks_` owns the tracks; a publication of a participant points to its track
  and is marked attached.  No step may leave one without the other, over all runs of
  the five events.

  The argument goes participant by participant.  As the server lists a track under one
  participant only, every track sid has an owner, and a step that is about one
  participant leaves the tracks of the others alone (`Kept.replace`).

  `UpdateFromInfo` makes no publication for a track without a sid, but
  `HasTrackSid` finds it.  So a snapshot that lists such a track, once it is taken over,
  has `HasTrackSid` and the publications disagree, and a media track without an id then
  gets an entry in `remote_tracks_` that no publication points to.
-/
import Mathlib.Tactic.Common
import LivekitClient.Runs
import LivekitClient.RoomStore

namespace LivekitClient.TrackStore

open Std Runs LivekitClient.RoomStore

/-! ## 1. Whose track it is -/

/-- No track of the snapshot is without a sid. -/
def NamesTracks (info : ParticipantInfo) : Prop := ∀ track ∈ info.tracks, track.sid ≠ ""

instance (info : ParticipantInfo) : Decidable (NamesTracks info) :=
  inferInstanceAs (Decidable (∀ track ∈ info.tracks, track.sid ≠ ""))

/-- No track sid is listed under two participants. -/
def OneOwner (infos : List ParticipantInfo) : Prop :=
  ∀ info ∈ infos, ∀ other ∈ infos, ∀ track ∈ info.tracks, ∀ again ∈ other.tracks,
    track.sid ≠ "" → track.sid = again.sid → info.sid = other.sid

instance (infos : List ParticipantInfo) : Decidable (OneOwner infos) :=
  inferInstanceAs (Decidable (∀ info ∈ infos, ∀ other ∈ infos, ∀ track ∈ info.tracks,
    ∀ again ∈ other.tracks, track.sid ≠ "" → track.sid = again.sid → info.sid = other.sid))

def OwnedBy (owner : String → String) (info : ParticipantInfo) : Prop :=
  ∀ sid, listsTrack info.tracks sid = true → owner sid = info.sid

theorem listsTrack_iff {tracks : List TrackInfo} {sid : String} :
    listsTrack tracks sid = true ↔ sid ≠ "" ∧ ∃ track ∈ tracks, track.sid = sid := by
  simp [listsTrack]

theorem OneOwner.exists_owner {infos : List ParticipantInfo} (hone : OneOwner infos) :
    ∃ owner : String → String, ∀ info ∈ infos, OwnedBy owner info := by
  have hchoose : ∀ sid, ∃ participant, ∀ info ∈ infos,
      listsTrack info.tracks sid = true → participant = info.sid := by
    intro sid
    by_cases hlisted : ∃ info ∈ infos, listsTrack info.tracks sid = true
    · obtain ⟨first, hfirst, hlists⟩ := hlisted
      obtain ⟨hne, track, htrack, rfl⟩ := listsTrack_iff.mp hlists
      refine ⟨first.sid, fun info hinfo hagain => ?_⟩
      obtain ⟨-, again, hmem, heq⟩ := listsTrack_iff.mp hagain
      exact hone first hfirst info hinfo track htrack again hmem hne heq.symm
    · exact ⟨"", fun info hinfo hlists => absurd ⟨info, hinfo, hlists⟩ hlisted⟩
  choose owner howner using hchoose
  exact ⟨owner, fun info hinfo sid hlists => howner sid info hinfo hlists⟩

/-! ## 2. What a publication is attached to -/

def attachment (publication : RemoteTrackPublication) : Bool × Option RemoteTrack :=
  (publication.trackAttached, publication.track)

section Publications

variable {P β : Type} {create : TrackInfo → P} {update : P → TrackInfo → P} {f : P → β} {b : β}

/-- What an update of a publication leaves alone, an update of them all does. -/
theorem getD_updateTrack (hcreate : ∀ info, f (create info) = b)
    (hupdate : ∀ publication info, f (update publication info) = f publication)
    (publications : ExtTreeMap String P) (track : TrackInfo) (sid : String) :
    ((updateTrack create update publications track)[sid]?.map f).getD b =
      (publications[sid]?.map f).getD b := by
  unfold updateTrack
  by_cases hempty : track.sid = ""
  · rw [if_pos hempty]
  · rw [if_neg hempty]
    by_cases heq : track.sid = sid
    · subst heq
      cases hheld : publications[track.sid]? with
      | none => simp [hcreate]
      | some publication => simp [hupdate]
    · cases hheld : publications[track.sid]? with
      | none => simp [ExtTreeMap.getElem?_insert, heq]
      | some publication => simp [ExtTreeMap.getElem?_insert, heq]

theorem getD_updateTracks (hcreate : ∀ info, f (create info) = b)
    (hupdate : ∀ publication info, f (update publication info) = f publication)
    {publications : ExtTreeMap String P} {tracks : List TrackInfo} {sid : String}
    {publication : P}
    (hfound : (updateTracks create update publications tracks)[sid]? = some publication) :
    f publication = (publications[sid]?.map f).getD b := by
  have hfold : ∀ held : ExtTreeMap String P,
      ((tracks.foldl (updateTrack create update) held)[sid]?.map f).getD b =
        (held[sid]?.map f).getD b := by
    clear hfound
    induction tracks with
    | nil => exact fun _ => rfl
    | cons track rest ih =>
      intro held
      rw [List.foldl_cons, ih, getD_updateTrack hcreate hupdate]
  rw [updateTracks, ExtTreeMap.getElem?_filter'] at hfound
  rw [← hfold, (Option.filter_eq_some_iff.mp hfound).1]
  rfl

end Publications

theorem attachment_accept {info : ParticipantInfo} {autoSubscribe : Bool}
    {publications : ExtTreeMap String RemoteTrackPublication} {sid : String}
    {publication : RemoteTrackPublication}
    (hfound : (RemoteParticipant.accept info autoSubscribe publications).trackPublications[sid]? =
      some publication) :
    attachment publication = (publications[sid]?.map attachment).getD (false, none) := by
  rw [RemoteParticipant.accept] at hfound
  refine getD_updateTracks ?_ ?_ hfound
  · exact fun _ => rfl
  · exact fun _ _ => rfl

theorem attachment_updateFromInfo {participant : RemoteParticipant} {info : ParticipantInfo}
    {sid : String} {publication : RemoteTrackPublication}
    (hfound : (participant.updateFromInfo info).trackPublications[sid]? = some publication) :
    attachment publication =
      (participant.trackPublications[sid]?.map attachment).getD (false, none) := by
  unfold RemoteParticipant.updateFromInfo at hfound
  split at hfound
  · rw [hfound]
    rfl
  · exact attachment_accept hfound

theorem attachment_new {info : ParticipantInfo} {autoSubscribe : Bool} {sid : String}
    {publication : RemoteTrackPublication}
    (hfound : (RemoteParticipant.new info autoSubscribe).trackPublications[sid]? =
      some publication) :
    attachment publication = (false, none) := by
  have hkept := attachment_accept hfound
  simpa using hkept

theorem getElem?_attach (participant : RemoteParticipant) (trackSid : String)
    (track : Option RemoteTrack) (sid : String) :
    (participant.attach trackSid track).trackPublications[sid]? =
      if trackSid = sid then participant.trackPublications[sid]?.map (·.attach track)
      else participant.trackPublications[sid]? := by
  simp only [RemoteParticipant.attach, ExtTreeMap.getElem?_modify, LawfulEqOrd.compare_eq_iff_eq]
  split
  · rename_i heq
    rw [heq]
  · rfl

theorem mem_attach {participant : RemoteParticipant} {trackSid : String}
    {track : Option RemoteTrack} {sid : String} :
    sid ∈ (participant.attach trackSid track).trackPublications ↔
      sid ∈ participant.trackPublications :=
  ExtTreeMap.mem_modify

/-! ## 3. One participant and its tracks -/

/-- The participant held under `sid`, if any, and the tracks it owns. -/
structure CellKept (owner : String → String) (tracks : ExtTreeMap String RemoteTrack)
    (sid : String) (held : Option RemoteParticipant) : Prop where
  named : ∀ participant, held = some participant → NamesTracks participant.info
  owned : ∀ participant, held = some participant →
    ∀ track ∈ participant.trackPublications, owner track = sid
  attached : ∀ participant, held = some participant →
    ∀ (track : String) (publication : RemoteTrackPublication),
    participant.trackPublications[track]? = some publication →
      attachment publication = (tracks[track]?.isSome, tracks[track]?)
  published : ∀ track ∈ tracks, owner track = sid →
    ∃ participant, held = some participant ∧ track ∈ participant.trackPublications

/-- Every participant's publications are in step with the tracks. -/
def Kept (owner : String → String) (participants : Participants)
    (tracks : ExtTreeMap String RemoteTrack) : Prop :=
  ∀ sid, CellKept owner tracks sid (participants.get? sid)

section Cells

variable {owner : String → String} {tracks after : ExtTreeMap String RemoteTrack} {sid : String}
  {held : Option RemoteParticipant} {participant : RemoteParticipant} {info : ParticipantInfo}

/-- The tracks of the others may come and go. -/
theorem CellKept.frame (hcell : CellKept owner tracks sid held)
    (hsame : ∀ track, owner track = sid → after[track]? = tracks[track]?) :
    CellKept owner after sid held where
  named := hcell.named
  owned := hcell.owned
  attached := by
    intro participant hheld track publication hfound
    have hmem : track ∈ participant.trackPublications := mem_of_getElem?_eq_some hfound
    rw [hsame track (hcell.owned participant hheld track hmem)]
    exact hcell.attached participant hheld track publication hfound
  published := by
    intro track hmem howner
    refine hcell.published track ?_ howner
    rw [ExtTreeMap.mem_iff_isSome_getElem?, hsame track howner] at hmem
    rwa [ExtTreeMap.mem_iff_isSome_getElem?]

/-- A step about one participant. -/
theorem Kept.replace {participants changed : Participants} (hkept : Kept owner participants tracks)
    (sid : String)
    (hframe : ∀ other, sid ≠ other → changed.get? other = participants.get? other)
    (htracks : ∀ track, owner track ≠ sid → after[track]? = tracks[track]?)
    (hcell : CellKept owner after sid (changed.get? sid)) : Kept owner changed after := by
  intro other
  by_cases heq : sid = other
  · rw [← heq]
    exact hcell
  · rw [hframe other heq]
    refine (hkept other).frame fun track howner => htracks track ?_
    rw [howner]
    exact Ne.symm heq

/-- What is not published has no track. -/
theorem CellKept.untracked (hcell : CellKept owner tracks sid held) {track : String}
    (howner : owner track = sid)
    (hnone : ∀ participant, held = some participant → track ∉ participant.trackPublications) :
    tracks[track]? = none := by
  rw [getElem?_eq_none_iff]
  intro hmem
  obtain ⟨participant, hheld, hpublished⟩ := hcell.published track hmem howner
  exact hnone participant hheld hpublished

theorem OwnedBy.owner_eq (howned : OwnedBy owner info) {participant : RemoteParticipant}
    (hinfo : participant.info = info) {track : String}
    (hmem : track ∈ participant.trackPublications) : owner track = info.sid := by
  apply howned track
  rw [← hinfo]
  exact (participant.mem_trackPublications track).mp hmem

theorem CellKept.add (hcell : CellKept owner tracks info.sid none) (howned : OwnedBy owner info)
    (hnamed : NamesTracks info) (autoSubscribe : Bool) :
    CellKept owner tracks info.sid (some (.new info autoSubscribe)) where
  named := by
    rintro participant ⟨⟩
    exact hnamed
  owned := by
    rintro participant ⟨⟩ track hmem
    exact howned.owner_eq rfl hmem
  attached := by
    rintro participant ⟨⟩ track publication hfound
    have hmem : track ∈ (RemoteParticipant.new info autoSubscribe).trackPublications :=
      mem_of_getElem?_eq_some hfound
    rw [attachment_new hfound, hcell.untracked (howned.owner_eq rfl hmem) (by simp)]
    rfl
  published := by
    intro track hmem howner
    obtain ⟨participant, hheld, -⟩ := hcell.published track hmem howner
    cases hheld

/-- The tracks of the publications that an update leaves out go with them. -/
theorem CellKept.update (hcell : CellKept owner tracks sid (some participant))
    (howned : OwnedBy owner info) (hsid : info.sid = sid)
    (hnamed : isStale participant.info info = false → NamesTracks info)
    (hafter : ∀ track, after[track]? =
      if track ∈ participant.trackPublications ∧
          track ∉ (participant.updateFromInfo info).trackPublications then none
      else tracks[track]?) :
    CellKept owner after sid (some (participant.updateFromInfo info)) where
  named := by
    rintro updated ⟨⟩
    unfold RemoteParticipant.updateFromInfo
    split
    · exact hcell.named participant rfl
    · rename_i hfresh
      exact hnamed (by simpa using hfresh)
  owned := by
    rintro updated ⟨⟩
    unfold RemoteParticipant.updateFromInfo
    split
    · exact hcell.owned participant rfl
    · intro track hmem
      rw [howned.owner_eq rfl hmem, hsid]
  attached := by
    rintro updated ⟨⟩ track publication hfound
    have hmem : track ∈ (participant.updateFromInfo info).trackPublications :=
      mem_of_getElem?_eq_some hfound
    rw [hafter, if_neg fun h => h.2 hmem, attachment_updateFromInfo hfound]
    cases hold : participant.trackPublications[track]? with
    | some old => exact hcell.attached participant rfl track old hold
    | none =>
      have howner : owner track = sid := by
        unfold RemoteParticipant.updateFromInfo at hmem
        split at hmem
        · exact hcell.owned participant rfl track hmem
        · rw [howned.owner_eq rfl hmem, hsid]
      rw [hcell.untracked howner]
      · rfl
      · rintro held ⟨⟩
        rw [ExtTreeMap.mem_iff_isSome_getElem?, hold]
        simp
  published := by
    intro track hmem howner
    rw [ExtTreeMap.mem_iff_isSome_getElem?, hafter] at hmem
    split at hmem
    · cases hmem
    · rename_i hkeeps
      rw [← ExtTreeMap.mem_iff_isSome_getElem?] at hmem
      obtain ⟨held, ⟨⟩, hpublished⟩ := hcell.published track hmem howner
      exact ⟨_, rfl, by_contra fun hgone => hkeeps ⟨hpublished, hgone⟩⟩

theorem CellKept.disconnect (hcell : CellKept owner tracks sid (some participant))
    (hafter : ∀ track, after[track]? =
      if track ∈ participant.trackPublications then none else tracks[track]?) :
    CellKept owner after sid none where
  named := by simp
  owned := by simp
  attached := by simp
  published := by
    intro track hmem howner
    rw [ExtTreeMap.mem_iff_isSome_getElem?, hafter] at hmem
    split at hmem
    · cases hmem
    · rename_i hkeeps
      rw [← ExtTreeMap.mem_iff_isSome_getElem?] at hmem
      obtain ⟨held, ⟨⟩, hpublished⟩ := hcell.published track hmem howner
      exact absurd hpublished hkeeps

/-- A track comes or goes, and its publication is told. -/
theorem CellKept.attach (hcell : CellKept owner tracks sid (some participant)) {trackSid : String}
    (hmem : trackSid ∈ participant.trackPublications)
    (hsame : ∀ track, trackSid ≠ track → after[track]? = tracks[track]?) :
    CellKept owner after sid (some (participant.attach trackSid after[trackSid]?)) where
  named := by
    rintro attached ⟨⟩
    exact hcell.named participant rfl
  owned := by
    rintro attached ⟨⟩ track htrack
    exact hcell.owned participant rfl track (mem_attach.mp htrack)
  attached := by
    rintro attached ⟨⟩ track publication hfound
    rw [getElem?_attach] at hfound
    split at hfound
    · rename_i heq
      subst heq
      obtain ⟨old, -, rfl⟩ := Option.map_eq_some_iff.mp hfound
      rfl
    · rename_i hne
      rw [hsame track hne]
      exact hcell.attached participant rfl track publication hfound
  published := by
    intro track htrack howner
    refine ⟨_, rfl, mem_attach.mpr ?_⟩
    by_cases heq : trackSid = track
    · rw [← heq]
      exact hmem
    · rw [ExtTreeMap.mem_iff_isSome_getElem?, hsame track heq,
        ← ExtTreeMap.mem_iff_isSome_getElem?] at htrack
      obtain ⟨held, ⟨⟩, hpublished⟩ := hcell.published track htrack howner
      exact hpublished

end Cells

/-! ## 4. Updates of participants -/

/-- A snapshot is taken over for a remote participant. -/
def takes (room : Room) (info : ParticipantInfo) : Bool :=
  decide (info.sid ≠ "") && !room.localParticipant.isNamedBy info &&
    decide (info.state ≠ .disconnected) &&
    match room.remoteParticipants.get? info.sid with
    | none => true
    | some participant => !isStale participant.info info

section Updates

variable {owner : String → String} {room : Room} {info : ParticipantInfo} {emitEvents : Bool}
  {participant : RemoteParticipant}

theorem kept_addParticipant (hkept : Kept owner room.remoteParticipants room.remoteTracks)
    (howned : OwnedBy owner info) (hnamed : NamesTracks info)
    (hget : room.remoteParticipants.get? info.sid = none) (changes : Changes) :
    Kept owner (room.addParticipant emitEvents changes info).1.remoteParticipants
      (room.addParticipant emitEvents changes info).1.remoteTracks := by
  have hcell := hkept info.sid
  rw [hget] at hcell
  refine hkept.replace info.sid ?_ (fun _ _ => rfl) ?_
  · intro other hne
    rw [Room.get?_addParticipant, if_neg hne]
  · rw [Room.get?_addParticipant, if_pos rfl]
    exact hcell.add howned hnamed _

theorem kept_disconnectParticipant
    (hkept : Kept owner room.remoteParticipants room.remoteTracks)
    (hget : room.remoteParticipants.get? info.sid = some participant) (changes : Changes) :
    Kept owner (room.disconnectParticipant emitEvents changes participant).1.remoteParticipants
      (room.disconnectParticipant emitEvents changes participant).1.remoteTracks := by
  have hsid := Participants.sid_of_get? hget
  have hcell := hkept info.sid
  rw [hget] at hcell
  have hafter :=
    Room.remoteTracks_disconnectParticipant emitEvents room changes participant
  refine hkept.replace info.sid ?_ ?_ ?_
  · intro other hne
    rw [Room.get?_disconnectParticipant, hsid, if_neg hne]
  · intro track howner
    rw [hafter, if_neg fun hmem => howner (hcell.owned participant rfl track hmem)]
  · rw [Room.get?_disconnectParticipant, hsid, if_pos rfl]
    exact hcell.disconnect hafter

/-- Without events the tracks of publications that go would stay, so there may be none. -/
theorem kept_updateParticipant (hkept : Kept owner room.remoteParticipants room.remoteTracks)
    (howned : OwnedBy owner info)
    (hnamed : isStale participant.info info = false → NamesTracks info)
    (hemit : emitEvents = true ∨ room.remoteTracks = ∅)
    (hget : room.remoteParticipants.get? info.sid = some participant) (changes : Changes) :
    Kept owner (room.updateParticipant emitEvents changes participant info).1.remoteParticipants
      (room.updateParticipant emitEvents changes participant info).1.remoteTracks := by
  have hsid := Participants.sid_of_get? hget
  have hcell := hkept info.sid
  rw [hget] at hcell
  have hafter : ∀ track,
      (room.updateParticipant emitEvents changes participant info).1.remoteTracks[track]? =
        if track ∈ participant.trackPublications ∧
            track ∉ (participant.updateFromInfo info).trackPublications then none
        else room.remoteTracks[track]? := by
    intro track
    cases emitEvents with
    | true => exact room.remoteTracks_updateParticipant changes participant info track
    | false =>
      have hempty : room.remoteTracks = ∅ := by simpa using hemit
      rw [Room.remoteTracks_updateParticipant_silent, hempty]
      simp
  refine hkept.replace info.sid ?_ ?_ ?_
  · intro other hne
    rw [Room.get?_updateParticipant _ _ _ hsid, if_neg hne]
  · intro track howner
    rw [hafter, if_neg fun hmem => howner (hcell.owned participant rfl track hmem.1)]
  · rw [Room.get?_updateParticipant _ _ _ hsid, if_pos rfl]
    exact hcell.update howned rfl hnamed hafter

/-- One snapshot of an update. -/
theorem kept_applyInfo (hkept : Kept owner room.remoteParticipants room.remoteTracks)
    (howned : OwnedBy owner info) (hnamed : takes room info = true → NamesTracks info)
    (hemit : emitEvents = true ∨ room.remoteTracks = ∅) (changes : Changes) :
    Kept owner (room.applyInfo emitEvents changes info).1.remoteParticipants
      (room.applyInfo emitEvents changes info).1.remoteTracks := by
  unfold Room.applyInfo
  by_cases hempty : info.sid = ""
  · rw [if_pos hempty]
    exact hkept
  rw [if_neg hempty]
  by_cases hlocal : room.localParticipant.isNamedBy info = true
  · rw [if_pos hlocal]
    exact hkept
  rw [if_neg hlocal]
  cases hget : room.remoteParticipants.get? info.sid with
  | none =>
    by_cases hstate : info.state = .disconnected
    · simp only [hstate, if_true]
      exact hkept
    · simp only [hstate, if_false]
      refine kept_addParticipant hkept howned (hnamed ?_) hget changes
      simp [takes, hempty, hlocal, hstate, hget]
  | some participant =>
    by_cases hstate : info.state = .disconnected
    · simp only [hstate, if_true]
      exact kept_disconnectParticipant hkept hget changes
    · simp only [hstate, if_false]
      refine kept_updateParticipant hkept howned (fun hfresh => hnamed ?_) hemit hget changes
      simp [takes, hempty, hlocal, hstate, hget, hfresh]

end Updates

/-- Every snapshot that is taken over names its tracks. -/
def TakenNamed (emitEvents : Bool) (state : Room × Changes) (infos : List ParticipantInfo) :
    Prop :=
  Along (fun state info => takes state.1 info = true → NamesTracks info)
    (fun state info => state.1.applyInfo emitEvents state.2 info) state infos

instance (emitEvents : Bool) (state : Room × Changes) (infos : List ParticipantInfo) :
    Decidable (TakenNamed emitEvents state infos) :=
  decidableAlong _ _ _ _

theorem kept_applyInfos {owner : String → String} {emitEvents : Bool} {room : Room}
    {changes : Changes} {infos : List ParticipantInfo}
    (hkept : Kept owner room.remoteParticipants room.remoteTracks)
    (howned : ∀ info ∈ infos, OwnedBy owner info)
    (hnamed : TakenNamed emitEvents (room, changes) infos)
    (hemit : emitEvents = true ∨ room.remoteTracks = ∅) :
    Kept owner (room.applyInfos emitEvents changes infos).1.remoteParticipants
      (room.applyInfos emitEvents changes infos).1.remoteTracks := by
  induction infos generalizing room changes with
  | nil => exact hkept
  | cons info rest ih =>
    obtain ⟨hfirst, hrest⟩ := hnamed
    rw [Room.applyInfos, List.foldl_cons, ← Room.applyInfos]
    apply ih
    · exact kept_applyInfo hkept (howned info List.mem_cons_self) hfirst hemit changes
    · exact fun other hmem => howned other (List.mem_cons_of_mem _ hmem)
    · exact hrest
    · rcases hemit with hemit | hempty
      · exact .inl hemit
      · exact .inr ((room.noneNew_applyInfo emitEvents changes info).remoteTracks.eq_empty hempty)

/-! ## 5. Media tracks -/

/-- No track waits that a known participant lists. -/
def PendingApart (room : Room) : Prop :=
  ∀ track ∈ room.pendingMediaTracks, ∀ sid participant,
    room.remoteParticipants.get? sid = some participant → participant.hasTrackSid track = false

theorem findRemoteParticipantForTrack_eq_none {room : Room} {track : String} :
    room.findRemoteParticipantForTrack track = none ↔
      ∀ sid participant, room.remoteParticipants.get? sid = some participant →
        participant.hasTrackSid track = false := by
  constructor
  · intro hnone sid participant hget
    by_contra hhas
    have hsome := Room.isSome_findRemoteParticipantForTrack hget (by simpa using hhas)
    rw [hnone] at hsome
    cases hsome
  · intro hall
    by_contra hsome
    obtain ⟨participant, hfind⟩ := Option.ne_none_iff_exists'.mp hsome
    obtain ⟨hget, hhas⟩ := Room.findRemoteParticipantForTrack_eq_some hfind
    rw [hall _ participant hget] at hhas
    cases hhas

theorem pendingApart_takeReady (room : Room) : PendingApart room.takeReady.1 := by
  intro track hmem
  rw [Room.takeReady, ExtTreeMap.mem_filter] at hmem
  obtain ⟨_, hnone⟩ := hmem
  rw [ExtTreeMap.getKey_eq] at hnone
  have hnone' : room.findRemoteParticipantForTrack track = none := by simpa using hnone
  exact findRemoteParticipantForTrack_eq_none.mp hnone'

/-- Attaching changes no snapshot, so what waits still waits for somebody else. -/
theorem hasTrackSid_insert_attach {participants : Participants} {participant : RemoteParticipant}
    (hget : participants.get? participant.info.sid = some participant) {trackSid track : String}
    {remote : Option RemoteTrack}
    (hapart : ∀ sid held, participants.get? sid = some held → held.hasTrackSid track = false) :
    ∀ sid held, (participants.insert (participant.attach trackSid remote)).get? sid = some held →
      held.hasTrackSid track = false := by
  intro sid held hheld
  rw [Participants.get?_insert] at hheld
  split at hheld
  · cases hheld
    exact hapart _ participant hget
  · exact hapart sid held hheld

section Tracks

variable {owner : String → String} {participants : Participants}
  {tracks after : ExtTreeMap String RemoteTrack} {participant : RemoteParticipant}

theorem hasTrackSid_of_mem {track : String} (hmem : track ∈ participant.trackPublications) :
    participant.hasTrackSid track = true := by
  obtain ⟨-, info, hinfo, heq⟩ :=
    listsTrack_iff.mp ((participant.mem_trackPublications track).mp hmem)
  exact List.any_eq_true.mpr ⟨info, hinfo, by simp [heq]⟩

/-- Every listed track is published, as none is without a sid. -/
theorem CellKept.mem_of_hasTrackSid {sid track : String}
    (hcell : CellKept owner tracks sid (some participant))
    (hhas : participant.hasTrackSid track = true) : track ∈ participant.trackPublications := by
  obtain ⟨info, hinfo, heq⟩ := List.any_eq_true.mp hhas
  rw [beq_iff_eq] at heq
  rw [participant.mem_trackPublications, listsTrack_iff, ← heq]
  exact ⟨hcell.named participant rfl info hinfo, info, hinfo, rfl⟩

theorem Kept.attach (hkept : Kept owner participants tracks)
    (hget : participants.get? participant.info.sid = some participant) {trackSid : String}
    (hhas : participant.hasTrackSid trackSid = true) {remote : Option RemoteTrack}
    (hremote : after[trackSid]? = remote)
    (hsame : ∀ track, trackSid ≠ track → after[track]? = tracks[track]?) :
    Kept owner (participants.insert (participant.attach trackSid remote)) after := by
  have hcell := hkept participant.info.sid
  rw [hget] at hcell
  have hmem := hcell.mem_of_hasTrackSid hhas
  refine hkept.replace participant.info.sid ?_ ?_ ?_
  · intro other hne
    rw [Participants.get?_insert, RemoteParticipant.info_attach, if_neg hne]
  · intro track howner
    apply hsame track
    rintro rfl
    exact howner (hcell.owned participant rfl trackSid hmem)
  · rw [Participants.get?_insert, RemoteParticipant.info_attach, if_pos rfl, ← hremote]
    exact hcell.attach hmem hsame

end Tracks

/-- The room between two steps. -/
structure Settled (owner : String → String) (room : Room) : Prop where
  kept : Kept owner room.remoteParticipants room.remoteTracks
  pending : PendingApart room

theorem settled_mediaTrackEvent {owner : String → String} {room : Room}
    (hsettled : Settled owner room) (track : MediaTrack) :
    Settled owner (room.mediaTrackEvent track).1 := by
  rw [Room.mediaTrackEvent]
  split
  · rename_i hfind
    refine ⟨hsettled.kept, ?_⟩
    intro other hmem
    rw [ExtTreeMap.mem_insert, LawfulEqOrd.compare_eq_iff_eq] at hmem
    rcases hmem with rfl | hmem
    · exact findRemoteParticipantForTrack_eq_none.mp hfind
    · exact hsettled.pending other hmem
  · rename_i participant hfind
    obtain ⟨hget, hhas⟩ := Room.findRemoteParticipantForTrack_eq_some hfind
    split
    · exact hsettled
    · constructor
      · refine hsettled.kept.attach hget hhas ?_ ?_
        · simp
        · intro other hne
          simp [ExtTreeMap.getElem?_insert, hne]
      · intro other hmem
        exact hasTrackSid_insert_attach hget (hsettled.pending other hmem)

theorem settled_replayReady {owner : String → String} {room : Room}
    (hsettled : Settled owner room) (ready : List MediaTrack) :
    Settled owner (room.replayReady ready).1 := by
  induction ready generalizing room with
  | nil => exact hsettled
  | cons track rest ih => exact ih (settled_mediaTrackEvent hsettled track)

theorem settled_mediaTrackRemovedEvent {owner : String → String} {room : Room}
    (hsettled : Settled owner room) (trackSid : String) :
    Settled owner (room.mediaTrackRemovedEvent trackSid).1 := by
  rw [Room.mediaTrackRemovedEvent]
  dsimp only
  split
  · rename_i participant track hfind htrack
    obtain ⟨hget, hhas⟩ := Room.findRemoteParticipantForTrack_eq_some hfind
    split
    · exact hsettled
    · constructor
      · refine hsettled.kept.attach hget hhas ?_ ?_
        · simp
        · intro other hne
          simp [ExtTreeMap.getElem?_erase, hne]
      · intro other hmem
        exact hasTrackSid_insert_attach hget (hsettled.pending other hmem)
  · exact hsettled

/-! ## 6. The join response -/

theorem kept_empty (owner : String → String) : Kept owner .empty ∅ := by
  intro sid
  rw [Participants.get?_empty]
  constructor <;> simp

/-- Whatever the tracks are replaced by, if it looks the same. -/
theorem Kept.congr {owner : String → String} {participants : Participants}
    {tracks after : ExtTreeMap String RemoteTrack} (hkept : Kept owner participants tracks)
    (hsame : ∀ track : String, after[track]? = tracks[track]?) : Kept owner participants after :=
  fun sid => (hkept sid).frame fun track _ => hsame track

/-- One round of the loop of `ApplyJoinResponse` over `remote_tracks_`. -/
theorem kept_detach {owner : String → String} {room : Room} {participants : Participants}
    {tracks : ExtTreeMap String RemoteTrack} (hkept : Kept owner participants tracks)
    (sid : String) :
    Kept owner
      (match { room with remoteParticipants := participants }.findRemoteParticipantForTrack sid with
        | none => participants
        | some participant => participants.insert (participant.attach sid none))
      (tracks.erase sid) := by
  split
  · rename_i hfind
    rw [findRemoteParticipantForTrack_eq_none] at hfind
    refine hkept.congr fun track => ?_
    by_cases heq : sid = track
    · rw [← heq, ExtTreeMap.getElem?_erase_self]
      refine ((hkept (owner sid)).untracked rfl ?_).symm
      intro participant hget hmem
      have hhas := hasTrackSid_of_mem hmem
      rw [hfind _ participant hget] at hhas
      cases hhas
    · simp [ExtTreeMap.getElem?_erase, heq]
  · rename_i participant hfind
    obtain ⟨hget, hhas⟩ := Room.findRemoteParticipantForTrack_eq_some hfind
    refine hkept.attach hget hhas ?_ ?_
    · simp
    · intro other hne
      simp [ExtTreeMap.getElem?_erase, hne]

theorem kept_detachTracks {owner : String → String} {room : Room}
    (hkept : Kept owner room.remoteParticipants room.remoteTracks) :
    Kept owner room.detachTracks ∅ := by
  rw [Room.detachTracks, ExtTreeMap.foldl_eq_foldl_toList]
  have hgone : ∀ track : String,
      (room.remoteTracks.toList.foldl (fun tracks entry => tracks.erase entry.1)
        room.remoteTracks)[track]? = none := by
    intro track
    rw [getElem?_foldl_erase, ExtTreeMap.map_fst_toList_eq_keys]
    split
    · rfl
    · rename_i hmem
      rw [ExtTreeMap.mem_keys] at hmem
      rwa [getElem?_eq_none_iff]
  refine Kept.congr ?_ fun track => (by simpa using (hgone track).symm)
  clear hgone
  generalize room.remoteTracks.toList = entries
  suffices hfold : ∀ participants tracks, Kept owner participants tracks →
      Kept owner
        (entries.foldl
          (fun participants entry =>
            match { room with remoteParticipants := participants }.findRemoteParticipantForTrack
                entry.1 with
            | none => participants
            | some participant => participants.insert (participant.attach entry.1 none))
          participants)
        (entries.foldl (fun tracks entry => tracks.erase entry.1) tracks) from
    hfold _ _ hkept
  induction entries with
  | nil => exact fun _ _ h => h
  | cons entry rest ih =>
    intro participants tracks h
    exact ih _ _ (kept_detach h entry.1)

theorem kept_joinClear {owner : String → String} {room : Room}
    (hkept : Kept owner room.remoteParticipants room.remoteTracks) (join : JoinResponse) :
    Kept owner (room.joinClear join).remoteParticipants (room.joinClear join).remoteTracks := by
  intro sid
  rw [Room.joinClear]
  dsimp only
  rw [Participants.get?_keep]
  split
  · exact kept_detachTracks hkept sid
  · constructor <;> simp

theorem settled_applyParticipantUpdates {owner : String → String} {emitEvents : Bool} {room : Room}
    {infos : List ParticipantInfo} (hkept : Kept owner room.remoteParticipants room.remoteTracks)
    (howned : ∀ info ∈ infos, OwnedBy owner info)
    (hnamed : TakenNamed emitEvents (room, {}) infos)
    (hemit : emitEvents = true ∨ room.remoteTracks = ∅) :
    Settled owner (room.applyParticipantUpdates emitEvents infos).1 where
  kept := kept_applyInfos hkept howned hnamed hemit
  pending := pendingApart_takeReady _

theorem settled_participantUpdateEvent {owner : String → String} {room : Room}
    {updates : List ParticipantInfo} (hsettled : Settled owner room)
    (howned : ∀ info ∈ updates, OwnedBy owner info)
    (hnamed : TakenNamed true (room, {}) updates) :
    Settled owner (room.participantUpdateEvent updates).1 :=
  settled_replayReady
    (settled_applyParticipantUpdates hsettled.kept howned hnamed (.inl rfl)) _

/-- The room in which the snapshots of a join response are applied. -/
def joined (reconnecting : Bool) (room : Room) (join : JoinResponse) : Room :=
  if reconnecting then (room.joinLocal reconnecting join).joinClear join
  else room.joinLocal reconnecting join

theorem joinLocal_tracks (reconnecting : Bool) (room : Room) (join : JoinResponse) :
    (room.joinLocal reconnecting join).remoteParticipants = room.remoteParticipants ∧
      (room.joinLocal reconnecting join).remoteTracks = room.remoteTracks := by
  rw [Room.joinLocal]
  split <;> exact ⟨rfl, rfl⟩

theorem kept_joined {owner : String → String} {room : Room} {reconnecting : Bool}
    (hkept : Kept owner room.remoteParticipants room.remoteTracks) (join : JoinResponse) :
    Kept owner (joined reconnecting room join).remoteParticipants
      (joined reconnecting room join).remoteTracks := by
  obtain ⟨hparticipants, htracks⟩ := joinLocal_tracks reconnecting room join
  have hlocal : Kept owner (room.joinLocal reconnecting join).remoteParticipants
      (room.joinLocal reconnecting join).remoteTracks := by
    rwa [hparticipants, htracks]
  rw [joined]
  split
  · exact kept_joinClear hlocal join
  · exact hlocal

theorem settled_applyJoinResponse {owner : String → String} {room : Room} {reconnecting : Bool}
    {join : JoinResponse} (hkept : Kept owner room.remoteParticipants room.remoteTracks)
    (hready : reconnecting = true ∨ room.remoteTracks = ∅)
    (howned : ∀ info ∈ join.otherParticipants, OwnedBy owner info)
    (hnamed : TakenNamed false (joined reconnecting room join, {}) join.otherParticipants) :
    Settled owner (room.applyJoinResponse reconnecting join).1 := by
  refine settled_replayReady ?_ _
  refine settled_applyParticipantUpdates (kept_joined hkept join) howned hnamed (.inr ?_)
  cases reconnecting with
  | true => rfl
  | false =>
    have hempty : room.remoteTracks = ∅ := by simpa using hready
    exact (joinLocal_tracks false room join).2.trans hempty

/-! ## 7. Runs -/

/-- A room that holds nothing yet. -/
def Fresh (room : Room) : Prop :=
  room.remoteParticipants = .empty ∧ room.remoteTracks = ∅ ∧ room.pendingMediaTracks = ∅

/-- The snapshots of this step that are taken over name their tracks. -/
def StepNamed (room : Room) : Input → Prop
  | .participantUpdate updates => TakenNamed true (room, {}) updates
  | .reconnected accepted join =>
    accepted = true → TakenNamed false (joined true room join, {}) join.otherParticipants
  | _ => True

instance (room : Room) : (input : Input) → Decidable (StepNamed room input)
  | .participantUpdate updates =>
    inferInstanceAs (Decidable (TakenNamed true (room, {}) updates))
  | .reconnected accepted join =>
    inferInstanceAs (Decidable (accepted = true →
      TakenNamed false (joined true room join, {}) join.otherParticipants))
  | .mediaTrack _ | .mediaTrackRemoved _ | .disconnect _ => .isTrue trivial

theorem settled_handle {owner : String → String} {room : Room} {input : Input}
    (hsettled : Settled owner room) (howned : ∀ info ∈ input.infos, OwnedBy owner info)
    (hnamed : StepNamed room input) : Settled owner (room.handle input).1 := by
  cases input with
  | participantUpdate updates => exact settled_participantUpdateEvent hsettled howned hnamed
  | mediaTrack track => exact settled_mediaTrackEvent hsettled track
  | mediaTrackRemoved trackSid => exact settled_mediaTrackRemovedEvent hsettled trackSid
  | reconnected accepted join =>
    rw [Room.handle, Room.reconnectedEvent]
    split
    · rename_i haccepted
      exact settled_applyJoinResponse hsettled.kept (.inl rfl) howned (hnamed haccepted)
    · exact hsettled
  | disconnect accepted =>
    rw [Room.handle, Room.disconnect]
    split
    · refine ⟨kept_empty owner, ?_⟩
      intro track hmem
      simp at hmem
    · exact hsettled

/-- The participant `sid` has a publication of `track` that is attached to `remote`. -/
def Attached (room : Room) (track : String) (remote : RemoteTrack) (sid : String) : Prop :=
  ∃ participant publication, room.remoteParticipants.get? sid = some participant ∧
    participant.trackPublications[track]? = some publication ∧
    publication.trackAttached = true ∧ publication.track = some remote

/-- The four maps of the room are in step. -/
structure InStep (room : Room) : Prop where
  tracks : ∀ (track : String) (remote : RemoteTrack),
    room.remoteTracks[track]? = some remote ↔ ∃! sid, Attached room track remote sid
  pending : ∀ track ∈ room.pendingMediaTracks, track ∉ room.remoteTracks ∧
    ∀ sid participant, room.remoteParticipants.get? sid = some participant →
      track ∉ participant.trackPublications
  hasTrackSid : ∀ sid participant, room.remoteParticipants.get? sid = some participant →
    ∀ track, participant.hasTrackSid track = true ↔
      track ≠ "" ∧ track ∈ participant.trackPublications

theorem Kept.attached_iff {owner : String → String} {room : Room}
    (hkept : Kept owner room.remoteParticipants room.remoteTracks) {track : String}
    {remote : RemoteTrack} {sid : String} :
    Attached room track remote sid ↔
      room.remoteTracks[track]? = some remote ∧ owner track = sid := by
  constructor
  · rintro ⟨participant, publication, hget, hfound, -, htrack⟩
    have hmem : track ∈ participant.trackPublications := mem_of_getElem?_eq_some hfound
    have hattached := (hkept sid).attached participant hget track publication hfound
    refine ⟨?_, (hkept sid).owned participant hget track hmem⟩
    rw [← htrack]
    exact (congrArg Prod.snd hattached).symm
  · rintro ⟨htrack, rfl⟩
    obtain ⟨participant, hget, hmem⟩ :=
      (hkept (owner track)).published track (mem_of_getElem?_eq_some htrack) rfl
    obtain ⟨publication, hfound⟩ := exists_getElem?_of_mem hmem
    have hattached := (hkept (owner track)).attached participant hget track publication hfound
    rw [htrack] at hattached
    exact ⟨participant, publication, hget, hfound, congrArg Prod.fst hattached,
      congrArg Prod.snd hattached⟩

theorem Settled.inStep {owner : String → String} {room : Room} (hsettled : Settled owner room) :
    InStep room where
  tracks := by
    intro track remote
    constructor
    · intro htrack
      refine ⟨owner track, hsettled.kept.attached_iff.mpr ⟨htrack, rfl⟩, ?_⟩
      intro other hother
      exact (hsettled.kept.attached_iff.mp hother).2.symm
    · rintro ⟨sid, hattached, -⟩
      exact (hsettled.kept.attached_iff.mp hattached).1
  pending := by
    intro track hpending
    have hapart : ∀ sid participant, room.remoteParticipants.get? sid = some participant →
        track ∉ participant.trackPublications := by
      intro sid participant hget hmem
      have hhas := hasTrackSid_of_mem hmem
      rw [hsettled.pending track hpending sid participant hget] at hhas
      cases hhas
    refine ⟨fun hheld => ?_, hapart⟩
    obtain ⟨participant, hget, hmem⟩ := (hsettled.kept (owner track)).published track hheld rfl
    exact hapart _ participant hget hmem
  hasTrackSid := by
    intro sid participant hget track
    have hcell := hsettled.kept sid
    rw [hget] at hcell
    constructor
    · intro hhas
      have hmem := hcell.mem_of_hasTrackSid hhas
      refine ⟨?_, hmem⟩
      exact (listsTrack_iff.mp ((participant.mem_trackPublications track).mp hmem)).1
    · exact fun h => hasTrackSid_of_mem h.2

/-- The room after a run from the first join response. -/
def afterRun (room : Room) (join : JoinResponse) (inputs : List Input) : Room :=
  inputs.foldl (fun room input => (room.handle input).1) (room.applyJoinResponse false join).1

theorem settled_run {owner : String → String} {room : Room} {inputs : List Input}
    (hsettled : Settled owner room)
    (howned : ∀ input ∈ inputs, ∀ info ∈ input.infos, OwnedBy owner info)
    (hnamed : Along StepNamed (fun room input => (room.handle input).1) room inputs) :
    Settled owner (inputs.foldl (fun room input => (room.handle input).1) room) := by
  induction inputs generalizing room with
  | nil => exact hsettled
  | cons input rest ih =>
    rw [List.foldl_cons]
    apply ih
    · exact settled_handle hsettled (howned input List.mem_cons_self) hnamed.1
    · exact fun other hmem => howned other (List.mem_cons_of_mem _ hmem)
    · exact hnamed.2

/-- **The tracks, their publications and the waiting tracks stay in step** in every run
    from a room that has just joined, if no track has two owners and every
    snapshot that is taken over for a remote participant names its tracks. -/
theorem inStep_run {room : Room} {join : JoinResponse} {inputs : List Input}
    (hfresh : Fresh room)
    (hone : OneOwner (join.otherParticipants ++ inputs.flatMap Input.infos))
    (hjoin : TakenNamed false (joined false room join, {}) join.otherParticipants)
    (hnamed : Along StepNamed (fun room input => (room.handle input).1)
      (room.applyJoinResponse false join).1 inputs) :
    InStep (afterRun room join inputs) := by
  obtain ⟨owner, howner⟩ := hone.exists_owner
  obtain ⟨hparticipants, htracks, -⟩ := hfresh
  have hstart : Settled owner (room.applyJoinResponse false join).1 := by
    refine settled_applyJoinResponse ?_ (.inr htracks) ?_ hjoin
    · rw [hparticipants, htracks]
      exact kept_empty owner
    · exact fun info hmem => howner info (List.mem_append_left _ hmem)
  refine (settled_run hstart ?_ hnamed).inStep
  intro input hinput info hinfo
  exact howner info (List.mem_append_right _ (List.mem_flatMap.mpr ⟨input, hinput, hinfo⟩))

/-- A track that comes before its participant, one that comes after, and a reconnect. -/
def namedInputs : List Input :=
  [.mediaTrack ⟨"TR_early", .audio, 0⟩,
   .participantUpdate [{ sid := "PA", tracks := [{ sid := "TR_early" }, { sid := "TR_late" }] }],
   .mediaTrack ⟨"TR_late", .video, 0⟩,
   .reconnected true ⟨none, [{ sid := "PA", version := 1, tracks := [{ sid := "TR_late" }] }]⟩,
   .mediaTrack ⟨"TR_late", .video, 1⟩]

theorem namedInputs_inStep :
    InStep (afterRun {} ⟨none, []⟩ namedInputs) ∧
      (afterRun {} ⟨none, []⟩ namedInputs).remoteTracks.keys = ["TR_late"] :=
  ⟨inStep_run ⟨rfl, rfl, rfl⟩ (by decide) (by decide) (by decide +kernel), by decide +kernel⟩

/-- A snapshot that lists a track without a sid, and a media track without an id. -/
def unnamedInputs : List Input :=
  [.participantUpdate [{ sid := "PA", tracks := [{ sid := "" }] }], .mediaTrack ⟨"", .audio, 0⟩]

/-- `HasTrackSid` finds the track, so `remote_tracks_` gets it; no publication has it. -/
theorem unnamedInputs_out_of_step :
    Fresh {} ∧ OneOwner (unnamedInputs.flatMap Input.infos) ∧
      ¬ InStep (afterRun {} ⟨none, []⟩ unnamedInputs) ∧
      (afterRun {} ⟨none, []⟩ unnamedInputs).remoteTracks.keys = [""] := by
  refine ⟨⟨rfl, rfl, rfl⟩, by decide, ?_, by decide +kernel⟩
  intro hstep
  have hany : ((afterRun {} ⟨none, []⟩ unnamedInputs).remoteParticipants.get? "PA").any
      (·.hasTrackSid "") = true := by
    decide +kernel
  obtain ⟨participant, hget, hhas⟩ := (Option.any_eq_true _ _).mp hany
  exact absurd rfl ((hstep.hasTrackSid "PA" participant hget "").mp hhas).1

end LivekitClient.TrackStore
