/-
  LivekitClient/ParticipantSnapshots.lean
  =======================================
  **Snapshots of one participant in any order** (`Participant::UpdateFromInfo` and
  `UpdateInfoFields` of `participant.cpp`, for a `RemoteParticipant`).

  A snapshot that is older than the one a participant holds is refused.  One that is
  accepted overwrites the fields, and then the publications are brought in line with it:
  listed tracks are added or updated in place, the others are pruned.  `RoomStore.lean`
  keeps of a participant what the room reads of it; here are the fields themselves, and the
  last section says that the two agree.

  A participant without a sid holds no snapshot yet, so nothing is older than what it
  holds.
-/
import LivekitClient.DataPacket
import LivekitClient.RoomStore
import Mathlib.Data.List.Induction
import Mathlib.Data.List.Nodup
import Mathlib.Data.List.Perm.Basic

namespace LivekitClient.ParticipantSnapshots

open Std
open LivekitClient.DataPacket (Attributes)

/-! ## 1. Snapshots -/

/-- The sources of the protocol; it may name ones that the client does not know. -/
inductive ProtoTrackSource where
  | unknown
  | camera
  | microphone
  | screenShare
  | screenShareAudio
  | other (value : Int)
deriving DecidableEq

def fromProto : ProtoTrackSource → TrackSource
  | .microphone => .microphone
  | .camera => .camera
  | .screenShare => .screenShare
  | .screenShareAudio => .screenShareAudio
  | _ => .unknown

/-- `livekit::ParticipantPermission`. -/
structure ParticipantPermission where
  canSubscribe : Bool := false
  canPublish : Bool := false
  canPublishData : Bool := false
  canPublishSources : List ProtoTrackSource := []
  hidden : Bool := false
  recorder : Bool := false
  canUpdateMetadata : Bool := false
  agent : Bool := false
  canSubscribeMetrics : Bool := false
  canManageAgentSession : Bool := false

/-- What `TrackPublication::UpdateInfo` reads of `livekit::TrackInfo`. -/
structure TrackInfo where
  sid : String
  name : String := ""
  type : Int := 0
  source : ProtoTrackSource := .unknown
  width : UInt32 := 0
  height : UInt32 := 0
  simulcast : Bool := false
  mimeType : String := ""
  muted : Bool := false
  encryption : Int := 0
deriving DecidableEq

/-- `livekit::ParticipantInfo`; `kind` is its number, which need not be a known one. -/
structure ParticipantInfo where
  sid : String := ""
  identity : String := ""
  version : UInt32 := 0
  name : String := ""
  metadata : String := ""
  attributes : Attributes := ∅
  permission : ParticipantPermission := {}
  kind : Int := 0
  tracks : List TrackInfo := []

/-! ## 2. A remote participant -/

/-- `core::ParticipantPermissions`. -/
structure ParticipantPermissions where
  canSubscribe : Bool := false
  canPublish : Bool := false
  canPublishData : Bool := false
  canPublishSources : List TrackSource := []
  hidden : Bool := false
  recorder : Bool := false
  canUpdateMetadata : Bool := false
  agent : Bool := false
  canSubscribeMetrics : Bool := false
  canManageAgentSession : Bool := false

def permissionsFromProto (permission : ParticipantPermission) : ParticipantPermissions where
  canSubscribe := permission.canSubscribe
  canPublish := permission.canPublish
  canPublishData := permission.canPublishData
  canPublishSources := permission.canPublishSources.map fromProto
  hidden := permission.hidden
  recorder := permission.recorder
  canUpdateMetadata := permission.canUpdateMetadata
  agent := permission.agent
  canSubscribeMetrics := permission.canSubscribeMetrics
  canManageAgentSession := permission.canManageAgentSession

/-- The other fields of a publication that come from a snapshot are copies out of `info`. -/
structure RemoteTrackPublication where
  info : TrackInfo
  subscriptionDesired : Bool
deriving DecidableEq

namespace RemoteTrackPublication

def new (autoSubscribe : Bool) (info : TrackInfo) : RemoteTrackPublication :=
  { info := info, subscriptionDesired := autoSubscribe }

def updateInfo (publication : RemoteTrackPublication) (info : TrackInfo) :
    RemoteTrackPublication :=
  { publication with info := info }

end RemoteTrackPublication

structure RemoteParticipant where
  autoSubscribe : Bool
  info : ParticipantInfo := {}
  sid : String := ""
  identity : String := ""
  name : String := ""
  metadata : String := ""
  attributes : Attributes := ∅
  permissions : ParticipantPermissions := {}
  kind : Int := 0
  trackPublications : ExtTreeMap String RemoteTrackPublication := ∅

namespace RemoteParticipant

/-- The snapshot is refused. -/
def isStale (participant : RemoteParticipant) (info : ParticipantInfo) : Bool :=
  decide (participant.info.sid ≠ "") && decide (participant.info.sid = info.sid) &&
    decide (info.version < participant.info.version)

/-- The fields that `UpdateInfoFields` sets. -/
def setInfoFields (participant : RemoteParticipant) (info : ParticipantInfo) :
    RemoteParticipant :=
  { participant with
    info := info
    sid := info.sid
    identity := info.identity
    name := info.name
    metadata := info.metadata
    attributes := info.attributes
    permissions := permissionsFromProto info.permission
    kind := info.kind }

/-- The publications and `current_sids` while the tracks are gone through. -/
structure Reconciled where
  trackPublications : ExtTreeMap String RemoteTrackPublication
  currentSids : List String

def reconcileTrack (autoSubscribe : Bool) (state : Reconciled) (track : TrackInfo) :
    Reconciled :=
  if track.sid = "" then state
  else
    { trackPublications :=
        match state.trackPublications[track.sid]? with
        | none => state.trackPublications.insert track.sid (.new autoSubscribe track)
        | some publication =>
          state.trackPublications.insert track.sid (publication.updateInfo track)
      currentSids := track.sid :: state.currentSids }

/-- The second critical section of `UpdateFromInfo`. -/
def reconcileTracks (participant : RemoteParticipant) (tracks : List TrackInfo) :
    RemoteParticipant :=
  let state := tracks.foldl (reconcileTrack participant.autoSubscribe)
    ⟨participant.trackPublications, []⟩
  { participant with
    trackPublications := state.trackPublications.filter fun sid _ =>
      state.currentSids.contains sid }

def updateFromInfo (participant : RemoteParticipant) (info : ParticipantInfo) :
    RemoteParticipant :=
  if participant.isStale info then participant
  else (participant.setInfoFields info).reconcileTracks info.tracks

/-- The constructor: a participant without a sid takes its first snapshot. -/
def new (info : ParticipantInfo) (autoSubscribe : Bool) : RemoteParticipant :=
  updateFromInfo { autoSubscribe := autoSubscribe } info

end RemoteParticipant

/-! ## 3. The publications of an accepted snapshot -/

open RemoteParticipant

/-- The last track that is listed under a sid. -/
def lastListed (tracks : List TrackInfo) (sid : String) : Option TrackInfo :=
  (tracks.filter fun track => track.sid == sid).getLast?

theorem lastListed_append_singleton (tracks : List TrackInfo) (track : TrackInfo)
    (sid : String) :
    lastListed (tracks ++ [track]) sid =
      if track.sid = sid then some track else lastListed tracks sid := by
  unfold lastListed
  rw [List.filter_append]
  by_cases hsid : track.sid = sid
  · rw [if_pos hsid, List.filter_cons_of_pos (by simpa using hsid), List.filter_nil,
      List.getLast?_concat]
  · rw [if_neg hsid, List.filter_cons_of_neg (by simpa using hsid), List.filter_nil,
      List.append_nil]

theorem lastListed_mem {tracks : List TrackInfo} {sid : String} {track : TrackInfo}
    (h : lastListed tracks sid = some track) : track ∈ tracks ∧ track.sid = sid := by
  have hmem := List.mem_filter.1 (List.mem_of_getLast? h)
  exact ⟨hmem.1, beq_iff_eq.1 hmem.2⟩

theorem lastListed_isSome_iff {tracks : List TrackInfo} {sid : String} :
    (lastListed tracks sid).isSome = true ↔ ∃ track ∈ tracks, track.sid = sid := by
  unfold lastListed
  rw [List.getLast?_isSome, ne_eq, List.filter_eq_nil_iff]
  simp only [beq_iff_eq, not_forall, not_not, exists_prop]

/-- Where the loop stands after some tracks. -/
structure Reconciling (before : ExtTreeMap String RemoteTrackPublication)
    (tracks : List TrackInfo) (state : Reconciled) : Prop where
  info : ∀ sid, sid ≠ "" → (state.trackPublications[sid]?).map (·.info) =
    (lastListed tracks sid).or ((before[sid]?).map (·.info))
  currentSids : ∀ sid, sid ∈ state.currentSids ↔
    sid ≠ "" ∧ ∃ track ∈ tracks, track.sid = sid

/-- An update in place and a new publication show the same track. -/
theorem reconcileTrack_info (autoSubscribe : Bool) (state : Reconciled) {track : TrackInfo}
    (hsid : track.sid ≠ "") (sid : String) :
    ((reconcileTrack autoSubscribe state track).trackPublications[sid]?).map (·.info) =
      if track.sid = sid then some track
      else (state.trackPublications[sid]?).map (·.info) := by
  unfold reconcileTrack
  rw [if_neg hsid]
  dsimp only
  cases state.trackPublications[track.sid]? <;>
    · dsimp only
      rw [ExtTreeMap.getElem?_insert]
      simp only [LawfulEqOrd.compare_eq_iff_eq]
      split <;> rfl

theorem Reconciling.step {autoSubscribe : Bool}
    {before : ExtTreeMap String RemoteTrackPublication} {tracks : List TrackInfo}
    {state : Reconciled} (h : Reconciling before tracks state) (track : TrackInfo) :
    Reconciling before (tracks ++ [track]) (reconcileTrack autoSubscribe state track) := by
  by_cases hempty : track.sid = ""
  · have hsame : reconcileTrack autoSubscribe state track = state := if_pos hempty
    rw [hsame]
    constructor
    · intro sid hsid
      have hne : track.sid ≠ sid := fun heq => hsid (heq.symm.trans hempty)
      rw [lastListed_append_singleton, if_neg hne]
      exact h.info sid hsid
    · intro sid
      rw [h.currentSids]
      apply and_congr_right
      intro hsid
      have hne : track.sid ≠ sid := fun heq => hsid (heq.symm.trans hempty)
      simp [hne]
  · constructor
    · intro sid hsid
      rw [reconcileTrack_info autoSubscribe state hempty, lastListed_append_singleton]
      split
      · rfl
      · exact h.info sid hsid
    · intro sid
      have hsids : (reconcileTrack autoSubscribe state track).currentSids =
          track.sid :: state.currentSids := by
        unfold reconcileTrack
        rw [if_neg hempty]
      rw [hsids, List.mem_cons, h.currentSids]
      constructor
      · rintro (rfl | ⟨hsid, listed, hmem, heq⟩)
        · exact ⟨hempty, track, by simp, rfl⟩
        · exact ⟨hsid, listed, List.mem_append_left _ hmem, heq⟩
      · rintro ⟨hsid, listed, hmem, heq⟩
        rcases List.mem_append.1 hmem with hmem | hmem
        · exact Or.inr ⟨hsid, listed, hmem, heq⟩
        · rw [List.mem_singleton.1 hmem] at heq
          exact Or.inl heq.symm

theorem reconciling_foldl (autoSubscribe : Bool)
    (before : ExtTreeMap String RemoteTrackPublication) (tracks : List TrackInfo) :
    Reconciling before tracks (tracks.foldl (reconcileTrack autoSubscribe) ⟨before, []⟩) := by
  induction tracks using List.reverseRecOn with
  | nil =>
    constructor
    · intro sid _
      rfl
    · intro sid
      simp
  | append_singleton tracks track ih =>
    rw [List.foldl_append, List.foldl_cons, List.foldl_nil]
    exact ih.step track

/-- After the update the publications are the listed ones, whatever was there before. -/
theorem info_reconcileTracks (participant : RemoteParticipant) (tracks : List TrackInfo)
    (sid : String) :
    ((participant.reconcileTracks tracks).trackPublications[sid]?).map (·.info) =
      if sid = "" then none else lastListed tracks sid := by
  have hloop := reconciling_foldl participant.autoSubscribe participant.trackPublications tracks
  have hfilter : ∀ (kept : Bool) (found : Option RemoteTrackPublication),
      found.filter (fun _ => kept) = if kept then found else none := by
    intro kept found
    cases kept <;> cases found <;> rfl
  unfold reconcileTracks
  dsimp only
  rw [ExtTreeMap.getElem?_filter', hfilter]
  by_cases hlisted : sid ≠ "" ∧ ∃ track ∈ tracks, track.sid = sid
  · have hcontains := List.contains_iff_mem.2 ((hloop.currentSids sid).2 hlisted)
    obtain ⟨track, hlast⟩ := Option.isSome_iff_exists.1 (lastListed_isSome_iff.2 hlisted.2)
    have hinfo := hloop.info sid hlisted.1
    rw [hlast, Option.some_or] at hinfo
    rw [if_neg hlisted.1, hlast, ← hinfo]
    rw [if_pos hcontains]
  · have hcontains : (tracks.foldl (reconcileTrack participant.autoSubscribe)
        ⟨participant.trackPublications, []⟩).currentSids.contains sid = false := by
      rw [Bool.eq_false_iff]
      intro hcontains
      exact hlisted ((hloop.currentSids sid).1 (List.contains_iff_mem.1 hcontains))
    rw [hcontains, if_neg Bool.false_ne_true]
    split
    · rfl
    · next hsid =>
      cases hlast : lastListed tracks sid with
      | none => rfl
      | some track =>
        have hsome := lastListed_isSome_iff.1 (Option.isSome_iff_exists.2 ⟨track, hlast⟩)
        exact absurd ⟨hsid, hsome⟩ hlisted

/-! ## 4. Which snapshot is held -/

/-- A participant shows a snapshot: its fields, and a publication for each listed sid that
    is not empty, with what the snapshot (in its last entry for the sid) says of it. -/
structure Shows (participant : RemoteParticipant) (info : ParticipantInfo) : Prop where
  name : participant.name = info.name
  metadata : participant.metadata = info.metadata
  attributes : participant.attributes = info.attributes
  permissions : participant.permissions = permissionsFromProto info.permission
  kind : participant.kind = info.kind
  keys : ∀ sid, sid ∈ participant.trackPublications ↔
    sid ≠ "" ∧ ∃ track ∈ info.tracks, track.sid = sid
  publications : ∀ sid publication, participant.trackPublications[sid]? = some publication →
    publication.info ∈ info.tracks ∧ lastListed info.tracks sid = some publication.info

theorem shows_accepted (participant : RemoteParticipant) (info : ParticipantInfo) :
    Shows ((participant.setInfoFields info).reconcileTracks info.tracks) info := by
  have hinfo := info_reconcileTracks (participant.setInfoFields info) info.tracks
  constructor
  · rfl
  · rfl
  · rfl
  · rfl
  · rfl
  · intro sid
    rw [← ExtTreeMap.isSome_getElem?_iff_mem, ← Option.isSome_map, hinfo sid]
    split
    · next hempty => simp [hempty]
    · next hsid =>
      rw [lastListed_isSome_iff]
      exact (and_iff_right hsid).symm
  · intro sid publication hfound
    have hlast := hinfo sid
    rw [hfound] at hlast
    split at hlast
    · exact absurd hlast (Option.some_ne_none _)
    · exact ⟨(lastListed_mem hlast.symm).1, hlast.symm⟩

theorem updateFromInfo_stale {participant : RemoteParticipant} {info : ParticipantInfo}
    (hsid : participant.info.sid ≠ "") (hsame : participant.info.sid = info.sid)
    (hless : info.version < participant.info.version) :
    participant.updateFromInfo info = participant := by
  unfold updateFromInfo isStale
  rw [decide_eq_true hsid, decide_eq_true hsame, decide_eq_true hless]
  rfl

theorem updateFromInfo_accepted {participant : RemoteParticipant} {info : ParticipantInfo}
    (hnewer : participant.info.sid = "" ∨ participant.info.version ≤ info.version) :
    participant.updateFromInfo info =
      (participant.setInfoFields info).reconcileTracks info.tracks := by
  unfold updateFromInfo
  rw [if_neg]
  unfold isStale
  simp only [Bool.and_eq_true, decide_eq_true_eq]
  rintro ⟨⟨hsid, -⟩, hless⟩
  rcases hnewer with hempty | hle
  · exact hsid hempty
  · exact absurd hless (UInt32.not_lt.2 hle)

/-- The held snapshot is one of those that were applied. -/
theorem info_updateFromInfo (participant : RemoteParticipant) (info : ParticipantInfo) :
    (participant.updateFromInfo info).info = participant.info ∨
      (participant.updateFromInfo info).info = info := by
  unfold updateFromInfo
  split
  · exact Or.inl rfl
  · exact Or.inr rfl

theorem info_foldl (participant : RemoteParticipant) (infos : List ParticipantInfo) :
    (infos.foldl updateFromInfo participant).info = participant.info ∨
      (infos.foldl updateFromInfo participant).info ∈ infos := by
  induction infos generalizing participant with
  | nil => exact Or.inl rfl
  | cons info rest ih =>
    rw [List.foldl_cons]
    rcases ih (participant.updateFromInfo info) with hheld | hmem
    · rcases info_updateFromInfo participant info with hkept | htaken
      · exact Or.inl (hheld.trans hkept)
      · right
        rw [hheld, htaken]
        exact List.mem_cons_self
    · exact Or.inr (List.mem_cons_of_mem _ hmem)

/-- Older snapshots are refused, however many there are. -/
theorem foldl_stale {participant : RemoteParticipant} {infos : List ParticipantInfo}
    (hsid : participant.info.sid ≠ "")
    (hstale : ∀ info ∈ infos,
      participant.info.sid = info.sid ∧ info.version < participant.info.version) :
    infos.foldl updateFromInfo participant = participant := by
  induction infos with
  | nil => rfl
  | cons info rest ih =>
    obtain ⟨hsame, hless⟩ := hstale info List.mem_cons_self
    rw [List.foldl_cons, updateFromInfo_stale hsid hsame hless]
    exact ih fun other hmem => hstale other (List.mem_cons_of_mem _ hmem)

/-- The newest snapshot is accepted when its turn comes, and kept. -/
theorem foldl_newest {participant : RemoteParticipant} (hempty : participant.info.sid = "")
    {before after : List ParticipantInfo} {newest : ParticipantInfo}
    (hsid : newest.sid ≠ "") (hbefore : ∀ info ∈ before, info.version ≤ newest.version)
    (hafter : ∀ info ∈ after, info.sid = newest.sid ∧ info.version < newest.version) :
    Shows ((before ++ newest :: after).foldl updateFromInfo participant) newest := by
  rw [List.foldl_append, List.foldl_cons]
  have hheld : (before.foldl updateFromInfo participant).info.sid = "" ∨
      (before.foldl updateFromInfo participant).info.version ≤ newest.version := by
    rcases info_foldl participant before with hsame | hmem
    · left
      rw [hsame]
      exact hempty
    · exact Or.inr (hbefore _ hmem)
  rw [updateFromInfo_accepted hheld, foldl_stale]
  · exact shows_accepted _ newest
  · exact hsid
  · intro info hmem
    obtain ⟨hsame, hless⟩ := hafter info hmem
    exact ⟨hsame.symm, hless⟩

/-! ## 5. Any order -/

/-- **Snapshots of a participant commute.**  Whatever the order, the participant that the
    first one creates ends up showing the newest. -/
theorem snapshots_commute (autoSubscribe : Bool) {snapshots : List ParticipantInfo}
    {sid : String} (hnonempty : sid ≠ "") (hsids : ∀ info ∈ snapshots, info.sid = sid)
    (hversions : (snapshots.map (·.version)).Nodup) {newest : ParticipantInfo}
    (hmem : newest ∈ snapshots) (hnewest : ∀ info ∈ snapshots, info.version ≤ newest.version)
    {first : ParticipantInfo} {rest : List ParticipantInfo}
    (horder : (first :: rest).Perm snapshots) :
    Shows (rest.foldl updateFromInfo (new first autoSubscribe)) newest := by
  have hnodup : ((first :: rest).map (·.version)).Nodup :=
    (horder.map (·.version)).nodup_iff.2 hversions
  obtain ⟨before, after, hsplit⟩ := List.append_of_mem (horder.mem_iff.2 hmem)
  have hold : rest.foldl updateFromInfo (new first autoSubscribe) =
      (before ++ newest :: after).foldl updateFromInfo { autoSubscribe := autoSubscribe } := by
    rw [← hsplit]
    rfl
  rw [hsplit] at horder hnodup
  rw [hold]
  apply foldl_newest rfl
  · rw [hsids newest hmem]
    exact hnonempty
  · intro info hinfo
    exact hnewest info (horder.mem_iff.1 (List.mem_append_left _ hinfo))
  · intro info hinfo
    have hin := horder.mem_iff.1 (List.mem_append_right before (List.mem_cons_of_mem _ hinfo))
    refine ⟨(hsids info hin).trans (hsids newest hmem).symm, ?_⟩
    apply UInt32.lt_of_le_of_ne (hnewest info hin)
    intro heq
    rw [List.map_append, List.map_cons] at hnodup
    have htail := (List.nodup_cons.1 (List.nodup_append.1 hnodup).2.1).1
    exact htail (List.mem_map.2 ⟨info, hinfo, heq⟩)

/-- Two snapshots of one participant, and the track of the newer one. -/
def olderSnapshot : ParticipantInfo := { sid := "PA", version := 1, name := "old" }

def newerSnapshot : ParticipantInfo :=
  { sid := "PA", version := 2, name := "new", tracks := [{ sid := "TR" }] }

theorem snapshots_commute_stale :
    (∀ info ∈ [olderSnapshot, newerSnapshot], info.version ≤ newerSnapshot.version) ∧
      Shows ([olderSnapshot].foldl updateFromInfo (new newerSnapshot true)) newerSnapshot := by
  refine ⟨by decide, ?_⟩
  apply @snapshots_commute true [olderSnapshot, newerSnapshot] "PA"
  · decide
  · decide
  · decide
  · exact List.mem_cons_of_mem _ List.mem_cons_self
  · decide
  · exact List.Perm.swap _ _ _

/-- Snapshots without a sid are never older than what is held: the last one counts. -/
theorem unnamed_snapshots_do_not_commute :
    ¬ ∀ (snapshots : List ParticipantInfo) (sid : String) (newest first : ParticipantInfo)
      (rest : List ParticipantInfo), (∀ info ∈ snapshots, info.sid = sid) →
      (snapshots.map (·.version)).Nodup → newest ∈ snapshots →
      (∀ info ∈ snapshots, info.version ≤ newest.version) →
      (first :: rest).Perm snapshots →
      Shows (rest.foldl updateFromInfo (new first true)) newest := by
  intro hall
  have hshows := hall [{ version := 2, name := "new" }, { version := 1, name := "old" }] ""
    { version := 2, name := "new" } { version := 2, name := "new" }
    [{ version := 1, name := "old" }] (by decide) (by decide) List.mem_cons_self (by decide)
    (List.Perm.refl _)
  exact absurd hshows.name (by decide)

/-! ## 6. What the room keeps -/

/-- The info of a track in `RoomStore` and here. -/
structure KeepsTrack (kept : RoomStore.TrackInfo) (track : TrackInfo) : Prop where
  sid : kept.sid = track.sid
  name : kept.name = track.name
  muted : kept.muted = track.muted

structure KeepsInfo (kept : RoomStore.ParticipantInfo) (info : ParticipantInfo) : Prop where
  sid : kept.sid = info.sid
  identity : kept.identity = info.identity
  version : kept.version = info.version
  name : kept.name = info.name
  metadata : kept.metadata = info.metadata
  attributes : kept.attributes = info.attributes
  tracks : List.Forall₂ KeepsTrack kept.tracks info.tracks

structure KeepsPublication (kept : RoomStore.RemoteTrackPublication)
    (publication : RemoteTrackPublication) : Prop where
  info : KeepsTrack kept.info publication.info
  subscriptionDesired : kept.subscriptionDesired = publication.subscriptionDesired

def KeepsPublications (kept : ExtTreeMap String RoomStore.RemoteTrackPublication)
    (publications : ExtTreeMap String RemoteTrackPublication) : Prop :=
  ∀ sid : String, Option.Rel KeepsPublication kept[sid]? publications[sid]?

/-- The participant of the room shows the fields that are here, out of its info. -/
structure Keeps (kept : RoomStore.RemoteParticipant) (participant : RemoteParticipant) :
    Prop where
  info : KeepsInfo kept.info participant.info
  sid : kept.info.sid = participant.sid
  identity : kept.info.identity = participant.identity
  name : kept.info.name = participant.name
  metadata : kept.info.metadata = participant.metadata
  attributes : kept.info.attributes = participant.attributes
  autoSubscribe : kept.autoSubscribe = participant.autoSubscribe
  publications : KeepsPublications kept.trackPublications participant.trackPublications

theorem isStale_of_keeps {kept : RoomStore.ParticipantInfo} {participant : RemoteParticipant}
    (h : KeepsInfo kept participant.info) {keptInfo : RoomStore.ParticipantInfo}
    {info : ParticipantInfo} (hinfo : KeepsInfo keptInfo info) :
    RoomStore.isStale kept keptInfo = participant.isStale info := by
  unfold RoomStore.isStale isStale
  rw [h.sid, h.version, hinfo.sid, hinfo.version]

theorem listsTrack_of_keeps {kept : List RoomStore.TrackInfo} {tracks : List TrackInfo}
    (h : List.Forall₂ KeepsTrack kept tracks) (sid : String) :
    RoomStore.listsTrack kept sid = true ↔ sid ≠ "" ∧ ∃ track ∈ tracks, track.sid = sid := by
  have hany : (kept.any fun track => track.sid == sid) = true ↔
      ∃ track ∈ tracks, track.sid = sid := by
    induction h with
    | nil => simp
    | cons htrack _ ih => simp [htrack.sid, ih]
  unfold RoomStore.listsTrack
  rw [Bool.and_eq_true, decide_eq_true_eq, hany]

theorem KeepsPublications.insert {kept : ExtTreeMap String RoomStore.RemoteTrackPublication}
    {publications : ExtTreeMap String RemoteTrackPublication}
    (h : KeepsPublications kept publications) (sid : String)
    {keptPublication : RoomStore.RemoteTrackPublication} {publication : RemoteTrackPublication}
    (hpublication : KeepsPublication keptPublication publication) :
    KeepsPublications (kept.insert sid keptPublication) (publications.insert sid publication) := by
  intro other
  rw [ExtTreeMap.getElem?_insert, ExtTreeMap.getElem?_insert]
  split
  · exact .some hpublication
  · exact h other

/-- Both add a listed track, or update it in place. -/
theorem KeepsPublications.step {autoSubscribe : Bool}
    {kept : ExtTreeMap String RoomStore.RemoteTrackPublication} {state : Reconciled}
    (h : KeepsPublications kept state.trackPublications) {keptTrack : RoomStore.TrackInfo}
    {track : TrackInfo} (htrack : KeepsTrack keptTrack track) :
    KeepsPublications
      (RoomStore.updateTrack (.new autoSubscribe) .updateInfo kept keptTrack)
      (reconcileTrack autoSubscribe state track).trackPublications := by
  unfold RoomStore.updateTrack reconcileTrack
  rw [htrack.sid]
  by_cases hempty : track.sid = ""
  · rw [if_pos hempty, if_pos hempty]
    exact h
  · rw [if_neg hempty, if_neg hempty]
    have hfound := h track.sid
    revert hfound
    cases kept[track.sid]? <;> cases state.trackPublications[track.sid]? <;>
      intro hfound
    · exact h.insert _ ⟨htrack, rfl⟩
    · cases hfound
    · cases hfound
    · cases hfound with
      | some hpublication => exact h.insert _ ⟨htrack, hpublication.subscriptionDesired⟩

theorem KeepsPublications.foldl {autoSubscribe : Bool}
    {kept : ExtTreeMap String RoomStore.RemoteTrackPublication} {state : Reconciled}
    (h : KeepsPublications kept state.trackPublications) {keptTracks : List RoomStore.TrackInfo}
    {tracks : List TrackInfo} (htracks : List.Forall₂ KeepsTrack keptTracks tracks) :
    KeepsPublications
      (keptTracks.foldl (RoomStore.updateTrack (.new autoSubscribe) .updateInfo) kept)
      (tracks.foldl (reconcileTrack autoSubscribe) state).trackPublications := by
  induction htracks generalizing kept state with
  | nil => exact h
  | cons htrack _ ih => exact ih (h.step htrack)

theorem rel_filter {A B : Type} {R : A → B → Prop} {a : Option A} {b : Option B}
    (h : Option.Rel R a b) (kept : Bool) :
    Option.Rel R (a.filter fun _ => kept) (b.filter fun _ => kept) := by
  cases h with
  | none => exact .none
  | some hrel =>
    cases kept
    · exact .none
    · exact .some hrel

/-- Both prune the same publications. -/
theorem KeepsPublications.reconcileTracks
    {kept : ExtTreeMap String RoomStore.RemoteTrackPublication} {participant : RemoteParticipant}
    (h : KeepsPublications kept participant.trackPublications)
    {keptTracks : List RoomStore.TrackInfo} {tracks : List TrackInfo}
    (htracks : List.Forall₂ KeepsTrack keptTracks tracks) :
    KeepsPublications
      (RoomStore.updateTracks (.new participant.autoSubscribe) .updateInfo kept keptTracks)
      (participant.reconcileTracks tracks).trackPublications := by
  intro sid
  have hloop := reconciling_foldl participant.autoSubscribe participant.trackPublications tracks
  have hlisted : RoomStore.listsTrack keptTracks sid =
      (tracks.foldl (reconcileTrack participant.autoSubscribe)
        ⟨participant.trackPublications, []⟩).currentSids.contains sid := by
    rw [Bool.eq_iff_iff, List.contains_iff_mem, hloop.currentSids, listsTrack_of_keeps htracks]
  have hfold : KeepsPublications
      (keptTracks.foldl
        (RoomStore.updateTrack (.new participant.autoSubscribe) .updateInfo) kept)
      (tracks.foldl (reconcileTrack participant.autoSubscribe)
        ⟨participant.trackPublications, []⟩).trackPublications :=
    KeepsPublications.foldl h htracks
  unfold RoomStore.updateTracks RemoteParticipant.reconcileTracks
  rw [ExtTreeMap.getElem?_filter', ExtTreeMap.getElem?_filter', hlisted]
  exact rel_filter (hfold sid) _

/-- **The room's participant follows the snapshots.**  What `RoomStore` keeps of a participant
    it keeps through an update. -/
theorem Keeps.updateFromInfo {kept : RoomStore.RemoteParticipant}
    {participant : RemoteParticipant} (h : Keeps kept participant)
    {keptInfo : RoomStore.ParticipantInfo} {info : ParticipantInfo}
    (hinfo : KeepsInfo keptInfo info) :
    Keeps (kept.updateFromInfo keptInfo) (participant.updateFromInfo info) := by
  unfold RoomStore.RemoteParticipant.updateFromInfo RemoteParticipant.updateFromInfo
  rw [isStale_of_keeps h.info hinfo]
  split
  · exact h
  · refine ⟨hinfo, hinfo.sid, hinfo.identity, hinfo.name, hinfo.metadata, hinfo.attributes,
      h.autoSubscribe, ?_⟩
    unfold RoomStore.RemoteParticipant.accept
    rw [h.autoSubscribe]
    exact h.publications.reconcileTracks hinfo.tracks

theorem keeps_new (autoSubscribe : Bool) {kept : RoomStore.ParticipantInfo}
    {info : ParticipantInfo} (hinfo : KeepsInfo kept info) :
    Keeps (.new kept autoSubscribe) (new info autoSubscribe) := by
  have hempty : KeepsPublications ∅ (∅ : ExtTreeMap String RemoteTrackPublication) := by
    intro sid
    rw [ExtTreeMap.getElem?_empty, ExtTreeMap.getElem?_empty]
    exact .none
  let empty : RemoteParticipant := { autoSubscribe := autoSubscribe }
  have hupdated : new info autoSubscribe =
      (empty.setInfoFields info).reconcileTracks info.tracks :=
    updateFromInfo_accepted (.inl rfl)
  rw [hupdated]
  exact ⟨hinfo, hinfo.sid, hinfo.identity, hinfo.name, hinfo.metadata, hinfo.attributes, rfl,
    @KeepsPublications.reconcileTracks ∅ (empty.setInfoFields info) hempty _ _ hinfo.tracks⟩

/-- The participant that a first snapshot creates, after any others. -/
theorem keeps_foldl (autoSubscribe : Bool) {keptFirst : RoomStore.ParticipantInfo}
    {first : ParticipantInfo} (hfirst : KeepsInfo keptFirst first)
    {keptInfos : List RoomStore.ParticipantInfo} {infos : List ParticipantInfo}
    (hinfos : List.Forall₂ KeepsInfo keptInfos infos) :
    Keeps
      (keptInfos.foldl RoomStore.RemoteParticipant.updateFromInfo (.new keptFirst autoSubscribe))
      (infos.foldl updateFromInfo (new first autoSubscribe)) := by
  have hnew := keeps_new autoSubscribe hfirst
  revert hnew
  generalize RoomStore.RemoteParticipant.new keptFirst autoSubscribe = kept
  generalize new first autoSubscribe = participant
  intro hnew
  induction hinfos generalizing kept participant with
  | nil => exact hnew
  | cons hinfo _ ih => exact ih _ _ (hnew.updateFromInfo hinfo)

end LivekitClient.ParticipantSnapshots
