/-
  LivekitClient/SourceReferences.lean
  ===================================
  **Sources, tracks and rooms of the C API** (`lk_room_create`, `lk_room_destroy`,
  `lk_room_create_audio_track`, `lk_room_create_video_track`, `lk_local_track_destroy`,
  `lk_audio_source_destroy` and `lk_video_source_destroy` in `src/capi/livekit.cpp`).

  A track captures from a source and is listed by the room that created it.  Neither owns
  it: the source counts the tracks on it, and refuses to go while there are any; the room
  takes itself out of its tracks when it goes.  The tracks of a room that is gone keep its
  `RoomHandleState`, which says so.
-/
import LivekitClient.CApi
import LivekitClient.CellHeap

namespace LivekitClient.SourceReferences

open CellHeap
open LivekitClient.CApi (Result)

/-! ## 1. The objects -/

inductive SourceKind where
  | audio
  | video
deriving DecidableEq

/-- `lk_audio_source` or `lk_video_source`. -/
structure Source where
  trackReferences : Nat := 0
  destroyed : Bool := false
deriving DecidableEq

/-- `lk_room` with its `RoomHandleState`, which outlives it. -/
structure Room where
  alive : Bool := true
  connected : Bool := false
  localTracks : List Nat := []
  deleted : Bool := false
deriving DecidableEq

/-- `lk_local_track`; `roomState` is the room whose `RoomHandleState` it shares. -/
structure LocalTrack where
  owner : Option Nat
  audioSource : Option Nat
  videoSource : Option Nat
  roomState : Nat
  published : Bool := false
  destroyed : Bool := false
deriving DecidableEq

/-- `track_references.fetch_add(1)`. -/
def Source.reference (source : Source) : Source :=
  { source with trackReferences := source.trackReferences + 1 }

/-- `track_references.fetch_sub(1)`. -/
def Source.release (source : Source) : Source :=
  { source with trackReferences := source.trackReferences - 1 }

/-- `room->local_tracks.push_back(track)`. -/
def Room.list (room : Room) (track : Nat) : Room :=
  { room with localTracks := room.localTracks ++ [track] }

/-- `std::remove` and `erase`. -/
def Room.unlist (room : Room) (track : Nat) : Room :=
  { room with localTracks := room.localTracks.filter (· != track) }

/-- `lk_room_destroy` at its end. -/
def Room.delete (room : Room) : Room :=
  { room with connected := false, localTracks := [], deleted := true }

/-- `track->owner = nullptr`. -/
def LocalTrack.disown (track : LocalTrack) : LocalTrack := { track with owner := none }

def LocalTrack.destroy (track : LocalTrack) : LocalTrack := { track with destroyed := true }

/-- Every object that has been made, by its place.  A place without an object that is still
    there stands for a null pointer. -/
structure Objects where
  rooms : List Room := []
  audioSources : List Source := []
  videoSources : List Source := []
  tracks : List LocalTrack := []
deriving DecidableEq

/-- What the caller passes to the calls that create a track, whether the output is there, and
    whether the participant creates it. -/
structure TrackRequest where
  room : Nat
  label : Option String
  source : Nat
  output : Bool := true
  created : Bool := true
deriving DecidableEq

namespace Objects

def sources (objects : Objects) : SourceKind → List Source
  | .audio => objects.audioSources
  | .video => objects.videoSources

def setSources (objects : Objects) (sources : List Source) : SourceKind → Objects
  | .audio => { objects with audioSources := sources }
  | .video => { objects with videoSources := sources }

def modifySource (objects : Objects) (kind : SourceKind) (i : Nat) (f : Source → Source) :
    Objects :=
  objects.setSources ((objects.sources kind).modify i f) kind

/-- The source, if the application has not destroyed it. -/
def source? (objects : Objects) (kind : SourceKind) (i : Nat) : Option Source :=
  (objects.sources kind)[i]?.filter fun source => !source.destroyed

def room? (objects : Objects) (i : Nat) : Option Room :=
  objects.rooms[i]?.filter fun room => room.alive

def track? (objects : Objects) (i : Nat) : Option LocalTrack :=
  objects.tracks[i]?.filter fun track => !track.destroyed

/-! ## 2. The calls -/

/-- `lk_room_create`. -/
def roomCreate (objects : Objects) (created : Bool) : Result × Objects :=
  if !created then (.failure .operationFailed "failed to create room", objects)
  else (.ok, { objects with rooms := objects.rooms ++ [{}] })

/-- `lk_room_destroy` returns nothing; what is first here is the error it sets.  `threw`: the
    room throws when it is disconnected. -/
def roomDestroy (objects : Objects) (i : Nat) (threw : Bool) : Option String × Objects :=
  match objects.room? i with
  | none => (none, objects)
  | some room =>
    let objects := { objects with
      rooms := objects.rooms.modify i fun room => { room with alive := false } }
    if threw then (some "exception while destroying room", objects)
    else
      (none, { objects with
        rooms := objects.rooms.modify i Room.delete
        tracks := updateAll LocalTrack.disown room.localTracks objects.tracks })

/-- The calls that make a source, when they succeed. -/
def sourceCreate (objects : Objects) (kind : SourceKind) : Objects :=
  objects.setSources (objects.sources kind ++ [({} : Source)]) kind

def sourceDestroy (objects : Objects) (kind : SourceKind) (i : Nat) (inUse : String) :
    Result × Objects :=
  match objects.source? kind i with
  | none => (.ok, objects)
  | some source =>
    if source.trackReferences ≠ 0 then (.failure .invalidState inUse, objects)
    else (.ok, objects.modifySource kind i fun source => { source with destroyed := true })

/-- `lk_audio_source_destroy`. -/
def audioSourceDestroy (objects : Objects) (i : Nat) : Result × Objects :=
  objects.sourceDestroy .audio i "audio source is still used by a track"

/-- `lk_video_source_destroy`. -/
def videoSourceDestroy (objects : Objects) (i : Nat) : Result × Objects :=
  objects.sourceDestroy .video i "video source is still used by a track"

/-- The handle goes to the room's list and to the caller. -/
def addTrack (objects : Objects) (room : Nat) (new : LocalTrack) : Objects :=
  { objects with
    rooms := objects.rooms.modify room fun room => room.list objects.tracks.length
    tracks := objects.tracks ++ [new] }

/-- `new` is the handle with the source in it. -/
def roomCreateTrack (objects : Objects) (kind : SourceKind) (request : TrackRequest)
    (new : LocalTrack) (failed : String) : Result × Objects :=
  if !request.output then (.failure .invalidArgument "track output is null", objects)
  else if (objects.room? request.room).isNone || request.label.isNone ||
      (objects.source? kind request.source).isNone then
    (.failure .invalidArgument "room, label, and source are required", objects)
  else if !request.created then (.failure .operationFailed failed, objects)
  else
    let objects := objects.modifySource kind request.source Source.reference
    (.ok, objects.addTrack request.room new)

/-- `lk_room_create_audio_track`. -/
def roomCreateAudioTrack (objects : Objects) (request : TrackRequest) : Result × Objects :=
  objects.roomCreateTrack .audio request
    { owner := some request.room, audioSource := some request.source, videoSource := none
      roomState := request.room }
    "failed to create audio track"

/-- `lk_room_create_video_track`. -/
def roomCreateVideoTrack (objects : Objects) (request : TrackRequest) : Result × Objects :=
  objects.roomCreateTrack .video request
    { owner := some request.room, audioSource := none, videoSource := some request.source
      roomState := request.room }
    "failed to create video track"

/-- The source of this kind loses a reference, if the track has one. -/
def release (objects : Objects) (kind : SourceKind) : Option Nat → Objects
  | none => objects
  | some i => objects.modifySource kind i Source.release

/-- The track's owner forgets it, unless the owner is gone. -/
def unlist (objects : Objects) (i : Nat) (track : LocalTrack) : Objects :=
  match track.owner, objects.rooms[track.roomState]? with
  | some owner, some state =>
    if state.alive then { objects with rooms := objects.rooms.modify owner (·.unlist i) }
    else objects
  | _, _ => objects

/-- `lk_local_track_destroy`. -/
def localTrackDestroy (objects : Objects) (i : Nat) : Result × Objects :=
  match objects.track? i with
  | none => (.ok, objects)
  | some track =>
    if track.published && objects.rooms[track.roomState]?.any (·.alive) &&
        objects.rooms[track.roomState]?.any (·.connected) then
      (.failure .invalidState "disconnect the room before destroying a published track", objects)
    else
      let objects := objects.unlist i track
      let objects := objects.release .audio track.audioSource
      let objects := objects.release .video track.videoSource
      (.ok, { objects with tracks := objects.tracks.modify i LocalTrack.destroy })

end Objects

/-- A call, or what the other calls and the events of a room leave in the flags. -/
inductive Act where
  | roomCreate (created : Bool)
  | roomDestroy (i : Nat) (threw : Bool)
  | sourceCreate (kind : SourceKind)
  | audioSourceDestroy (i : Nat)
  | videoSourceDestroy (i : Nat)
  | roomCreateAudioTrack (request : TrackRequest)
  | roomCreateVideoTrack (request : TrackRequest)
  | localTrackDestroy (i : Nat)
  | published (i : Nat) (value : Bool)
  | connected (i : Nat) (value : Bool)
deriving DecidableEq

def Objects.step (objects : Objects) : Act → Objects
  | .roomCreate created => (objects.roomCreate created).2
  | .roomDestroy i threw => (objects.roomDestroy i threw).2
  | .sourceCreate kind => objects.sourceCreate kind
  | .audioSourceDestroy i => (objects.audioSourceDestroy i).2
  | .videoSourceDestroy i => (objects.videoSourceDestroy i).2
  | .roomCreateAudioTrack request => (objects.roomCreateAudioTrack request).2
  | .roomCreateVideoTrack request => (objects.roomCreateVideoTrack request).2
  | .localTrackDestroy i => (objects.localTrackDestroy i).2
  | .published i value => { objects with
      tracks := objects.tracks.modify i fun track => { track with published := value } }
  | .connected i value => { objects with
      rooms := objects.rooms.modify i fun room => { room with connected := value } }

/-! ## 3. Who is counted, and who is listed -/

/-- The source that a track captures from. -/
def LocalTrack.source (track : LocalTrack) : SourceKind → Option Nat
  | .audio => track.audioSource
  | .video => track.videoSource

/-- A track of this source that the application still has. -/
def LocalTrack.onSource (kind : SourceKind) (i : Nat) (track : LocalTrack) : Bool :=
  !track.destroyed && track.source kind == some i

def LocalTrack.ofRoom (i : Nat) (track : LocalTrack) : Bool :=
  !track.destroyed && track.roomState == i

/-- The live track handles that were created on a source. -/
def Objects.tracksOnSource (objects : Objects) (kind : SourceKind) (i : Nat) : List Nat :=
  names (LocalTrack.onSource kind i) objects.tracks

/-- The live track handles that were created on a room. -/
def Objects.tracksOfRoom (objects : Objects) (i : Nat) : List Nat :=
  names (LocalTrack.ofRoom i) objects.tracks

/-- The destroying calls that return a status. -/
inductive DestroyCall where
  | audioSource (i : Nat)
  | videoSource (i : Nat)
  | localTrack (i : Nat)

def DestroyCall.run (objects : Objects) : DestroyCall → Result × Objects
  | .audioSource i => objects.audioSourceDestroy i
  | .videoSource i => objects.videoSourceDestroy i
  | .localTrack i => objects.localTrackDestroy i

/-- What the counts and the lists say about the objects that are there. -/
structure Exact (objects : Objects) : Prop where
  trackReferences : ∀ kind i source, objects.source? kind i = some source →
    source.trackReferences = (objects.tracksOnSource kind i).length
  localTracks : ∀ i room, objects.room? i = some room →
    room.localTracks = objects.tracksOfRoom i
  audioSourceDestroy : ∀ i source, objects.source? .audio i = some source →
    (objects.audioSourceDestroy i).1.status = .ok → source.trackReferences = 0
  videoSourceDestroy : ∀ i source, objects.source? .video i = some source →
    (objects.videoSourceDestroy i).1.status = .ok → source.trackReferences = 0
  refused : ∀ call : DestroyCall, (call.run objects).1.status ≠ .ok →
    (call.run objects).2 = objects

/-- The invariant, of the objects that are gone as well. -/
structure Inv (objects : Objects) : Prop where
  trackReferences : ∀ kind i source, (objects.sources kind)[i]? = some source →
    source.trackReferences = (objects.tracksOnSource kind i).length
  released : ∀ kind (i : Nat) source, (objects.sources kind)[i]? = some source →
    source.destroyed = true → source.trackReferences = 0
  source : ∀ i track, objects.track? i = some track → ∀ kind j, track.source kind = some j →
    j < (objects.sources kind).length
  localTracks : ∀ i room, objects.room? i = some room →
    room.localTracks = objects.tracksOfRoom i
  deleted : ∀ i room, objects.room? i = some room → room.deleted = false
  owner : ∀ i track, objects.track? i = some track →
    ∃ room, objects.rooms[track.roomState]? = some room ∧
      track.owner = if room.deleted then none else some track.roomState

/-! ### What a change leaves -/

section Frame

variable {objects : Objects} {kind : SourceKind} {i : Nat}

@[simp] theorem Objects.sources_setSources (sources : List Source) (other : SourceKind) :
    (objects.setSources sources kind).sources other =
      if other = kind then sources else objects.sources other := by
  cases kind <;> cases other <;> rfl

@[simp] theorem Objects.tracks_setSources (sources : List Source) :
    (objects.setSources sources kind).tracks = objects.tracks := by
  cases kind <;> rfl

@[simp] theorem Objects.rooms_setSources (sources : List Source) :
    (objects.setSources sources kind).rooms = objects.rooms := by
  cases kind <;> rfl

@[simp] theorem Objects.rooms_modifySource (f : Source → Source) :
    (objects.modifySource kind i f).rooms = objects.rooms :=
  rooms_setSources _

@[simp] theorem Objects.tracks_modifySource (f : Source → Source) :
    (objects.modifySource kind i f).tracks = objects.tracks :=
  tracks_setSources _

theorem Objects.modifySource_cell {f : Source → Source} {other : SourceKind} {j : Nat}
    {source : Source}
    (hsource : ((objects.modifySource kind i f).sources other)[j]? = some source) :
    ∃ old, (objects.sources other)[j]? = some old ∧
      source = if other = kind ∧ i = j then f old else old := by
  rw [modifySource, sources_setSources] at hsource
  by_cases hkind : other = kind
  · subst hkind
    rw [if_pos rfl] at hsource
    obtain ⟨old, hold, heq⟩ := getElem?_modify_eq_some.mp hsource
    exact ⟨old, hold, by simpa using heq⟩
  · rw [if_neg hkind] at hsource
    exact ⟨source, hsource, (if_neg fun h => hkind h.1).symm⟩

@[simp] theorem Objects.length_modifySource (f : Source → Source) (other : SourceKind) :
    ((objects.modifySource kind i f).sources other).length = (objects.sources other).length := by
  rw [modifySource, sources_setSources]
  by_cases hkind : other = kind
  · rw [if_pos hkind, hkind, List.length_modify]
  · rw [if_neg hkind]

@[simp] theorem Objects.rooms_release (source : Option Nat) :
    (objects.release kind source).rooms = objects.rooms := by
  cases source with
  | none => rfl
  | some i => exact rooms_modifySource _

@[simp] theorem Objects.tracks_release (source : Option Nat) :
    (objects.release kind source).tracks = objects.tracks := by
  cases source with
  | none => rfl
  | some i => exact tracks_modifySource _

@[simp] theorem Objects.length_release (source : Option Nat) (other : SourceKind) :
    ((objects.release kind source).sources other).length = (objects.sources other).length := by
  cases source with
  | none => rfl
  | some i => exact length_modifySource _ _

theorem Objects.release_cell {used : Option Nat} {other : SourceKind} {j : Nat} {source : Source}
    (hsource : ((objects.release kind used).sources other)[j]? = some source) :
    ∃ old, (objects.sources other)[j]? = some old ∧ source.destroyed = old.destroyed ∧
      source.trackReferences =
        old.trackReferences - if other = kind ∧ used = some j then 1 else 0 := by
  cases used with
  | none => exact ⟨source, hsource, rfl, by simp⟩
  | some i =>
    obtain ⟨old, hold, rfl⟩ := modifySource_cell hsource
    refine ⟨old, hold, ?_⟩
    by_cases hi : other = kind ∧ i = j
    · rw [if_pos hi, hi.1, hi.2, if_pos ⟨rfl, rfl⟩]
      exact ⟨rfl, rfl⟩
    · rw [if_neg hi, if_neg fun h => hi ⟨h.1, Option.some.inj h.2⟩]
      exact ⟨rfl, rfl⟩

@[simp] theorem Objects.sources_unlist (track : LocalTrack) :
    (objects.unlist i track).sources kind = objects.sources kind := by
  rw [unlist]
  split
  · split <;> rfl
  · rfl

@[simp] theorem Objects.tracks_unlist (track : LocalTrack) :
    (objects.unlist i track).tracks = objects.tracks := by
  rw [unlist]
  split
  · split <;> rfl
  · rfl

theorem Objects.unlist_deleted (track : LocalTrack) {j : Nat} {room : Room}
    (hroom : objects.rooms[j]? = some room) :
    ∃ after, (objects.unlist i track).rooms[j]? = some after ∧ after.deleted = room.deleted := by
  rw [unlist]
  split
  · split
    · refine ⟨_, getElem?_modify_of_some _ hroom, ?_⟩
      split <;> rfl
    · exact ⟨room, hroom, rfl⟩
  · exact ⟨room, hroom, rfl⟩

/-- The call is refused, or the room and the source are there. -/
theorem Objects.roomCreateTrack_cases (request : TrackRequest) (new : LocalTrack)
    (failed : String) :
    (objects.roomCreateTrack kind request new failed).2 = objects ∨
    ∃ room source, objects.room? request.room = some room ∧
      objects.source? kind request.source = some source ∧
      (objects.roomCreateTrack kind request new failed).2 =
        (objects.modifySource kind request.source Source.reference).addTrack request.room new := by
  rw [roomCreateTrack]
  split
  · exact .inl rfl
  split
  · exact .inl rfl
  rename_i hargs
  split
  · exact .inl rfl
  right
  cases hroom : objects.room? request.room with
  | none => simp [hroom] at hargs
  | some room =>
    cases hsource : objects.source? kind request.source with
    | none => simp [hsource] at hargs
    | some source => exact ⟨room, source, rfl, rfl, rfl⟩

theorem Objects.source?_eq_some {source : Source} :
    objects.source? kind i = some source ↔
      (objects.sources kind)[i]? = some source ∧ source.destroyed = false := by
  simp [source?, Option.filter_eq_some_iff]

theorem Objects.room?_eq_some {room : Room} :
    objects.room? i = some room ↔ objects.rooms[i]? = some room ∧ room.alive = true := by
  simp [room?, Option.filter_eq_some_iff]

theorem Objects.track?_eq_some {track : LocalTrack} :
    objects.track? i = some track ↔ objects.tracks[i]? = some track ∧ track.destroyed = false := by
  simp [track?, Option.filter_eq_some_iff]

theorem Objects.mem_tracksOnSource {t : Nat} :
    t ∈ objects.tracksOnSource kind i ↔
      ∃ track, objects.track? t = some track ∧ track.source kind = some i := by
  simp only [tracksOnSource, mem_names, LocalTrack.onSource, track?_eq_some, Bool.and_eq_true,
    Bool.not_eq_true', beq_iff_eq, and_assoc]

theorem Objects.mem_tracksOfRoom {t : Nat} :
    t ∈ objects.tracksOfRoom i ↔ ∃ track, objects.track? t = some track ∧ track.roomState = i := by
  simp only [tracksOfRoom, mem_names, LocalTrack.ofRoom, track?_eq_some, Bool.and_eq_true,
    Bool.not_eq_true', beq_iff_eq, and_assoc]

end Frame

/-! ## 4. The invariant -/

namespace Inv

variable {objects : Objects}

theorem init : Inv {} := by
  constructor
  · intro kind i source hsource
    cases kind <;> cases hsource
  · intro kind i source hsource
    cases kind <;> cases hsource
  · intro i track htrack
    cases htrack
  · intro i room hroom
    cases hroom
  · intro i room hroom
    cases hroom
  · intro i track htrack
    cases htrack

/-- A place where nothing has been made yet is used by no track. -/
theorem tracksOnSource_length (h : Inv objects) (kind : SourceKind) :
    objects.tracksOnSource kind (objects.sources kind).length = [] := by
  rw [List.eq_nil_iff_forall_not_mem]
  intro t hmem
  obtain ⟨track, htrack, hsource⟩ := Objects.mem_tracksOnSource.mp hmem
  exact Nat.lt_irrefl _ (h.source t track htrack kind _ hsource)

theorem tracksOfRoom_length (h : Inv objects) :
    objects.tracksOfRoom objects.rooms.length = [] := by
  rw [List.eq_nil_iff_forall_not_mem]
  intro t hmem
  obtain ⟨track, htrack, hstate⟩ := Objects.mem_tracksOfRoom.mp hmem
  obtain ⟨room, hroom, -⟩ := h.owner t track htrack
  rw [hstate, List.getElem?_eq_none (Nat.le_refl _)] at hroom
  cases hroom

/-! ### Rooms and flags -/

/-- What happens to a room that keeps its list and does not come to life again. -/
theorem modifyRoom (h : Inv objects) (i : Nat) {f : Room → Room}
    (halive : ∀ room, (f room).alive = true → room.alive = true)
    (hlist : ∀ room, (f room).localTracks = room.localTracks)
    (hdeleted : ∀ room, (f room).deleted = room.deleted) :
    Inv { objects with rooms := objects.rooms.modify i f } := by
  have hroom? : ∀ j room', Objects.room? { objects with rooms := objects.rooms.modify i f } j =
      some room' → ∃ room, objects.room? j = some room ∧
        room'.localTracks = room.localTracks ∧ room'.deleted = room.deleted := by
    intro j room' hroom'
    obtain ⟨hcell', hlive⟩ := Objects.room?_eq_some.mp hroom'
    obtain ⟨room, hcell, rfl⟩ := getElem?_modify_eq_some.mp hcell'
    refine ⟨room, Objects.room?_eq_some.mpr ⟨hcell, ?_⟩, ?_⟩
    · split at hlive
      · exact halive room hlive
      · exact hlive
    · split
      · exact ⟨hlist room, hdeleted room⟩
      · exact ⟨rfl, rfl⟩
  constructor
  · exact h.trackReferences
  · exact h.released
  · exact h.source
  · intro j room' hroom'
    obtain ⟨room, hroom, hsame, -⟩ := hroom? j room' hroom'
    rw [hsame]
    exact h.localTracks j room hroom
  · intro j room' hroom'
    obtain ⟨room, hroom, -, hsame⟩ := hroom? j room' hroom'
    rw [hsame]
    exact h.deleted j room hroom
  · intro t track htrack
    obtain ⟨room, hcell, howner⟩ := h.owner t track htrack
    refine ⟨_, getElem?_modify_of_some f hcell, ?_⟩
    rw [howner]
    by_cases hi : i = track.roomState
    · rw [if_pos hi, hdeleted]
    · rw [if_neg hi]

theorem published (h : Inv objects) (i : Nat) (value : Bool) :
    Inv { objects with
      tracks := objects.tracks.modify i fun track => { track with published := value } } := by
  have hnames : ∀ p : LocalTrack → Bool, (∀ track, p { track with published := value } = p track) →
      names p (objects.tracks.modify i fun track => { track with published := value }) =
        names p objects.tracks := by
    intro p hp
    exact names_modify_of_same fun track _ => hp track
  have htrack? : ∀ t track', Objects.track? { objects with
      tracks := objects.tracks.modify i fun track => { track with published := value } } t =
        some track' → ∃ track, objects.track? t = some track ∧ track'.source = track.source ∧
          track'.roomState = track.roomState ∧ track'.owner = track.owner := by
    intro t track' htrack'
    obtain ⟨hcell', hlive⟩ := Objects.track?_eq_some.mp htrack'
    obtain ⟨track, hcell, rfl⟩ := getElem?_modify_eq_some.mp hcell'
    refine ⟨track, Objects.track?_eq_some.mpr ⟨hcell, ?_⟩, ?_⟩
    · split at hlive <;> exact hlive
    · split <;> exact ⟨rfl, rfl, rfl⟩
  constructor
  · intro kind j source hsource
    rw [h.trackReferences kind j source hsource, Objects.tracksOnSource, Objects.tracksOnSource,
      hnames _ fun _ => rfl]
  · exact h.released
  · intro t track' htrack' kind j hsource
    obtain ⟨track, htrack, hsame, -, -⟩ := htrack? t track' htrack'
    exact h.source t track htrack kind j (hsame ▸ hsource)
  · intro j room hroom
    rw [h.localTracks j room hroom, Objects.tracksOfRoom, Objects.tracksOfRoom,
      hnames _ fun _ => rfl]
  · exact h.deleted
  · intro t track' htrack'
    obtain ⟨track, htrack, -, hstate, howner⟩ := htrack? t track' htrack'
    rw [hstate, howner]
    exact h.owner t track htrack

theorem roomCreate (h : Inv objects) (created : Bool) : Inv (objects.roomCreate created).2 := by
  cases created with
  | false => exact h
  | true =>
    have hroom? : ∀ j room, Objects.room? (objects.roomCreate true).2 j = some room →
        objects.room? j = some room ∨ j = objects.rooms.length ∧ room = {} := by
      intro j room hroom
      obtain ⟨hcell, halive⟩ := Objects.room?_eq_some.mp hroom
      rcases getElem?_append_singleton_eq_some.mp hcell with hold | hnew
      · exact .inl (Objects.room?_eq_some.mpr ⟨hold, halive⟩)
      · exact .inr hnew
    constructor
    · exact h.trackReferences
    · exact h.released
    · exact h.source
    · intro j room hroom
      rcases hroom? j room hroom with hroom | ⟨rfl, rfl⟩
      · exact h.localTracks j room hroom
      · exact h.tracksOfRoom_length.symm
    · intro j room hroom
      rcases hroom? j room hroom with hroom | ⟨rfl, rfl⟩
      · exact h.deleted j room hroom
      · rfl
    · intro t track htrack
      obtain ⟨room, hcell, howner⟩ := h.owner t track htrack
      exact ⟨room, getElem?_append_singleton_eq_some.mpr (.inl hcell), howner⟩

/-- A room that is no longer alive is deleted, and taken out of the tracks of its list. -/
theorem deleteRoom (h : Inv objects) {i : Nat} (list : List Nat)
    (hdead : ∀ room, objects.rooms[i]? = some room → room.alive = false)
    (hlist : list = objects.tracksOfRoom i) :
    Inv { objects with
      rooms := objects.rooms.modify i Room.delete
      tracks := updateAll LocalTrack.disown list objects.tracks } := by
  have hnames : ∀ p : LocalTrack → Bool, (∀ track, p (LocalTrack.disown track) = p track) →
      names p (updateAll LocalTrack.disown list objects.tracks) = names p objects.tracks := by
    intro p hp
    exact names_updateAll_of_same hp list
  have hrooms : ∀ (j : Nat) room', (objects.rooms.modify i Room.delete)[j]? = some room' →
      room'.alive = true → objects.room? j = some room' := by
    intro j room' hcell' halive
    obtain ⟨room, hcell, rfl⟩ := getElem?_modify_eq_some.mp hcell'
    by_cases hi : i = j
    · subst hi
      rw [if_pos rfl, Room.delete, hdead room hcell] at halive
      cases halive
    · rw [if_neg hi] at halive ⊢
      exact Objects.room?_eq_some.mpr ⟨hcell, halive⟩
  have htracks : ∀ (t : Nat) track',
      (updateAll LocalTrack.disown list objects.tracks)[t]? = some track' →
      ∃ track, objects.tracks[t]? = some track ∧
        track' = if t ∈ list then track.disown else track := by
    intro t track' hcell'
    have hidem : ∀ track : LocalTrack, track.disown.disown = track.disown := fun _ => rfl
    rw [getElem?_updateAll hidem] at hcell'
    by_cases ht : t ∈ list
    · rw [if_pos ht] at hcell'
      obtain ⟨track, hcell, rfl⟩ := Option.map_eq_some_iff.mp hcell'
      exact ⟨track, hcell, (if_pos ht).symm⟩
    · rw [if_neg ht] at hcell'
      exact ⟨track', hcell', (if_neg ht).symm⟩
  constructor
  · intro kind j source hsource
    rw [h.trackReferences kind j source hsource, Objects.tracksOnSource, Objects.tracksOnSource,
      hnames _ fun _ => rfl]
  · exact h.released
  · intro t track' htrack' kind j hsource
    obtain ⟨hcell', hlive⟩ := Objects.track?_eq_some.mp htrack'
    obtain ⟨track, hcell, rfl⟩ := htracks t track' hcell'
    apply h.source t track _ kind j
    · split at hsource <;> exact hsource
    · apply Objects.track?_eq_some.mpr
      refine ⟨hcell, ?_⟩
      split at hlive <;> exact hlive
  · intro j room hroom
    obtain ⟨hcell, halive⟩ := Objects.room?_eq_some.mp hroom
    rw [h.localTracks j room (hrooms j room hcell halive), Objects.tracksOfRoom,
      Objects.tracksOfRoom, hnames _ fun _ => rfl]
  · intro j room hroom
    obtain ⟨hcell, halive⟩ := Objects.room?_eq_some.mp hroom
    exact h.deleted j room (hrooms j room hcell halive)
  · intro t track' htrack'
    obtain ⟨hcell', hlive⟩ := Objects.track?_eq_some.mp htrack'
    obtain ⟨track, hcell, rfl⟩ := htracks t track' hcell'
    have htrack : objects.track? t = some track := by
      apply Objects.track?_eq_some.mpr
      refine ⟨hcell, ?_⟩
      split at hlive <;> exact hlive
    obtain ⟨room, hroom, howner⟩ := h.owner t track htrack
    -- the list has exactly the tracks that share the state of this room
    have hmem : t ∈ list ↔ i = track.roomState := by
      rw [hlist, Objects.mem_tracksOfRoom]
      constructor
      · rintro ⟨other, hother, rfl⟩
        rw [htrack] at hother
        cases hother
        rfl
      · intro hi
        exact ⟨track, htrack, hi.symm⟩
    by_cases hi : i = track.roomState
    · rw [if_pos (hmem.mpr hi)]
      exact ⟨room.delete, (getElem?_modify_of_some _ hroom).trans (by rw [if_pos hi]), rfl⟩
    · rw [if_neg fun ht => hi (hmem.mp ht)]
      exact ⟨room, (getElem?_modify_of_some _ hroom).trans (by rw [if_neg hi]), howner⟩

/-- The room takes itself out of its tracks, which are those that its list has. -/
theorem roomDestroy (h : Inv objects) (i : Nat) (threw : Bool) :
    Inv (objects.roomDestroy i threw).2 := by
  rw [Objects.roomDestroy]
  cases hroom : objects.room? i with
  | none => exact h
  | some room =>
    have hdead : Inv { objects with
        rooms := objects.rooms.modify i fun room => { room with alive := false } } := by
      apply h.modifyRoom i
      · intro room halive
        cases halive
      · exact fun _ => rfl
      · exact fun _ => rfl
    cases threw with
    | true => exact hdead
    | false => exact hdead.deleteRoom room.localTracks (by simp) (h.localTracks i room hroom)

/-! ### Sources -/

/-- What happens to sources only. -/
theorem of_sources (h : Inv objects) {objects' : Objects} (hrooms : objects'.rooms = objects.rooms)
    (htracks : objects'.tracks = objects.tracks)
    (hsources : ∀ kind (j : Nat) source, (objects'.sources kind)[j]? = some source →
      source.trackReferences = (objects.tracksOnSource kind j).length ∧
        (source.destroyed = true → source.trackReferences = 0))
    (hlength : ∀ kind, (objects.sources kind).length ≤ (objects'.sources kind).length) :
    Inv objects' := by
  constructor
  · intro kind j source hsource
    rw [(hsources kind j source hsource).1, Objects.tracksOnSource, Objects.tracksOnSource, htracks]
  · intro kind j source hsource
    exact (hsources kind j source hsource).2
  · intro t track htrack kind j hsource
    rw [Objects.track?, htracks] at htrack
    exact Nat.lt_of_lt_of_le (h.source t track htrack kind j hsource) (hlength kind)
  · intro j room hroom
    rw [Objects.room?, hrooms] at hroom
    rw [Objects.tracksOfRoom, htracks]
    exact h.localTracks j room hroom
  · intro j room hroom
    rw [Objects.room?, hrooms] at hroom
    exact h.deleted j room hroom
  · intro t track htrack
    rw [Objects.track?, htracks] at htrack
    rw [hrooms]
    exact h.owner t track htrack

theorem sourceCreate (h : Inv objects) (kind : SourceKind) : Inv (objects.sourceCreate kind) := by
  apply h.of_sources
  · exact Objects.rooms_setSources _
  · exact Objects.tracks_setSources _
  · intro other j source hsource
    have hcases : (objects.sources other)[j]? = some source ∨
        j = (objects.sources other).length ∧ source = {} := by
      rw [Objects.sourceCreate, Objects.sources_setSources] at hsource
      by_cases hkind : other = kind
      · rw [if_pos hkind, ← hkind] at hsource
        exact getElem?_append_singleton_eq_some.mp hsource
      · rw [if_neg hkind] at hsource
        exact .inl hsource
    rcases hcases with hold | ⟨rfl, rfl⟩
    · exact ⟨h.trackReferences other j source hold, h.released other j source hold⟩
    · rw [h.tracksOnSource_length]
      exact ⟨rfl, fun _ => rfl⟩
  · intro other
    rw [Objects.sourceCreate, Objects.sources_setSources]
    by_cases hkind : other = kind
    · rw [if_pos hkind, hkind, List.length_append]
      exact Nat.le_add_right _ _
    · apply Nat.le_of_eq
      rw [if_neg hkind]

theorem sourceDestroy (h : Inv objects) (kind : SourceKind) (i : Nat) (inUse : String) :
    Inv (objects.sourceDestroy kind i inUse).2 := by
  rw [Objects.sourceDestroy]
  cases hsource? : objects.source? kind i with
  | none => exact h
  | some source =>
    obtain ⟨hcell, -⟩ := Objects.source?_eq_some.mp hsource?
    dsimp only
    split
    · exact h
    · rename_i hzero
      rw [not_not] at hzero
      apply h.of_sources
      · exact Objects.rooms_modifySource _
      · exact Objects.tracks_modifySource _
      · intro other j source' hsource'
        obtain ⟨old, hold, rfl⟩ := Objects.modifySource_cell hsource'
        split
        · rename_i hi
          obtain ⟨rfl, rfl⟩ := hi
          cases hcell.symm.trans hold
          exact ⟨h.trackReferences other i source hcell, fun _ => hzero⟩
        · exact ⟨h.trackReferences other j old hold, h.released other j old hold⟩
      · intro other
        exact Nat.le_of_eq (Objects.length_modifySource _ other).symm

/-! ### Tracks -/

theorem roomCreateTrack (h : Inv objects) {kind : SourceKind} {request : TrackRequest}
    {new : LocalTrack} {failed : String} (hdestroyed : new.destroyed = false)
    (hstate : new.roomState = request.room) (howner : new.owner = some request.room)
    (hsource : ∀ other, new.source other = if other = kind then some request.source else none) :
    Inv (objects.roomCreateTrack kind request new failed).2 := by
  rcases Objects.roomCreateTrack_cases request new failed with hsame | ⟨room, source, hroom,
    hsource?, heq⟩
  · rw [hsame]
    exact h
  rw [heq]
  obtain ⟨hcell, halive⟩ := Objects.room?_eq_some.mp hroom
  obtain ⟨hsourceCell, hlive⟩ := Objects.source?_eq_some.mp hsource?
  have hrooms : ((objects.modifySource kind request.source Source.reference).addTrack
      request.room new).rooms =
        objects.rooms.modify request.room fun room => room.list objects.tracks.length := by
    rw [Objects.addTrack, Objects.rooms_modifySource, Objects.tracks_modifySource]
  have htracks : ((objects.modifySource kind request.source Source.reference).addTrack
      request.room new).tracks = objects.tracks ++ [new] := by
    rw [Objects.addTrack, Objects.tracks_modifySource]
  have hroom? : ∀ j room', ((objects.modifySource kind request.source
      Source.reference).addTrack request.room new).room? j = some room' →
      ∃ old, objects.room? j = some old ∧ room'.deleted = old.deleted ∧
        room'.localTracks =
          old.localTracks ++ if request.room = j then [objects.tracks.length] else [] := by
    intro j room' hroom'
    obtain ⟨hcell', halive'⟩ := Objects.room?_eq_some.mp hroom'
    rw [hrooms] at hcell'
    obtain ⟨old, hold, rfl⟩ := getElem?_modify_eq_some.mp hcell'
    refine ⟨old, Objects.room?_eq_some.mpr ⟨hold, ?_⟩, ?_⟩
    · split at halive' <;> exact halive'
    · by_cases hj : request.room = j
      · rw [if_pos hj, if_pos hj]
        exact ⟨rfl, rfl⟩
      · rw [if_neg hj, if_neg hj, List.append_nil]
        exact ⟨rfl, rfl⟩
  have htrack? : ∀ t track, ((objects.modifySource kind request.source
      Source.reference).addTrack request.room new).track? t = some track →
      objects.track? t = some track ∨ track = new := by
    intro t track htrack
    obtain ⟨hcellT, hliveT⟩ := Objects.track?_eq_some.mp htrack
    rw [htracks] at hcellT
    rcases getElem?_append_singleton_eq_some.mp hcellT with hold | ⟨-, hnew⟩
    · exact .inl (Objects.track?_eq_some.mpr ⟨hold, hliveT⟩)
    · exact .inr hnew
  constructor
  · intro other j source' hsource'
    obtain ⟨old, hold, rfl⟩ := Objects.modifySource_cell hsource'
    have hcount := h.trackReferences other j old hold
    have hnew : LocalTrack.onSource other j new = true ↔ other = kind ∧ request.source = j := by
      rw [LocalTrack.onSource, hdestroyed, hsource]
      by_cases hkind : other = kind <;> simp [hkind]
    rw [Objects.tracksOnSource, htracks, names_append_singleton, List.length_append]
    by_cases hi : other = kind ∧ request.source = j
    · rw [if_pos hi, if_pos (hnew.mpr hi)]
      exact congrArg (· + 1) hcount
    · rw [if_neg hi, if_neg fun h => hi (hnew.mp h)]
      exact hcount
  · intro other j source' hsource' hgone
    obtain ⟨old, hold, rfl⟩ := Objects.modifySource_cell hsource'
    by_cases hi : other = kind ∧ request.source = j
    · obtain ⟨rfl, rfl⟩ := hi
      rw [if_pos ⟨rfl, rfl⟩] at hgone
      cases hsourceCell.symm.trans hold
      rw [Source.reference, hlive] at hgone
      cases hgone
    · rw [if_neg hi] at hgone ⊢
      exact h.released other j old hold hgone
  · intro t track htrack other j hj
    apply Nat.lt_of_lt_of_eq _ (Objects.length_modifySource Source.reference other).symm
    rcases htrack? t track htrack with hold | rfl
    · exact h.source t track hold other j hj
    · rw [hsource] at hj
      split at hj
      · rename_i hkind
        cases hj
        rw [hkind]
        exact (List.getElem?_eq_some_iff.mp hsourceCell).1
      · cases hj
  · intro j room' hroom'
    obtain ⟨old, hold, -, hlist⟩ := hroom? j room' hroom'
    have hnew : LocalTrack.ofRoom j new = true ↔ request.room = j := by
      rw [LocalTrack.ofRoom, hdestroyed, hstate]
      simp
    rw [hlist, h.localTracks j old hold, Objects.tracksOfRoom, Objects.tracksOfRoom, htracks,
      names_append_singleton]
    simp only [hnew]
  · intro j room' hroom'
    obtain ⟨old, hold, hdeleted, -⟩ := hroom? j room' hroom'
    rw [hdeleted]
    exact h.deleted j old hold
  · intro t track htrack
    rw [hrooms]
    rcases htrack? t track htrack with hold | rfl
    · obtain ⟨state, hstateT, hownerT⟩ := h.owner t track hold
      refine ⟨_, getElem?_modify_of_some _ hstateT, ?_⟩
      rw [hownerT]
      by_cases hj : request.room = track.roomState
      · rw [if_pos hj]
        rfl
      · rw [if_neg hj]
    · rw [hstate, howner]
      refine ⟨_, getElem?_modify_of_some _ hcell, ?_⟩
      have hkept : (room.list objects.tracks.length).deleted = false := h.deleted _ room hroom
      rw [if_pos rfl, hkept]
      rfl

/-- The list of a room that is alive after a track has been taken from it. -/
theorem unlist_room (h : Inv objects) {i : Nat} {track : LocalTrack}
    (htrack : objects.track? i = some track) {j : Nat} {room : Room}
    (hroom : (objects.unlist i track).room? j = some room) :
    room.localTracks = (objects.tracksOfRoom j).filter (· != i) ∧ room.deleted = false := by
  obtain ⟨state, hstate, howner⟩ := h.owner i track htrack
  -- the track is in the list of its room, if at all
  have hother : j ≠ track.roomState → i ∉ objects.tracksOfRoom j := by
    intro hne hmem
    obtain ⟨other, hother, rfl⟩ := Objects.mem_tracksOfRoom.mp hmem
    rw [htrack] at hother
    cases hother
    exact hne rfl
  have hsame : j ≠ track.roomState → objects.room? j = some room →
      room.localTracks = (objects.tracksOfRoom j).filter (· != i) ∧ room.deleted = false := by
    intro hne hold
    refine ⟨?_, h.deleted j room hold⟩
    rw [h.localTracks j room hold]
    exact (filter_names_of_notMem (hother hne)).symm
  by_cases halive : state.alive = true
  · have hkept : state.deleted = false :=
      h.deleted _ state (Objects.room?_eq_some.mpr ⟨hstate, halive⟩)
    rw [hkept, if_neg Bool.false_ne_true] at howner
    rw [Objects.unlist, howner, hstate] at hroom
    dsimp only at hroom
    rw [if_pos halive] at hroom
    obtain ⟨hcell, hlive⟩ := Objects.room?_eq_some.mp hroom
    obtain ⟨old, hold, rfl⟩ := getElem?_modify_eq_some.mp hcell
    by_cases hj : track.roomState = j
    · subst hj
      rw [if_pos rfl] at hlive ⊢
      have hroom? := Objects.room?_eq_some.mpr ⟨hold, hlive⟩
      exact ⟨congrArg (List.filter _) (h.localTracks _ old hroom?), h.deleted _ old hroom?⟩
    · rw [if_neg hj] at hlive ⊢ hsame
      exact hsame (fun h => hj h.symm) (Objects.room?_eq_some.mpr ⟨hold, hlive⟩)
  · have hunlist : objects.unlist i track = objects := by
      rw [Objects.unlist, hstate]
      cases track.owner with
      | none => rfl
      | some owner => exact if_neg halive
    rw [hunlist] at hroom
    apply hsame _ hroom
    rintro rfl
    obtain ⟨hcell, hlive⟩ := Objects.room?_eq_some.mp hroom
    cases hstate.symm.trans hcell
    exact halive hlive

theorem localTrackDestroy (h : Inv objects) (i : Nat) : Inv (objects.localTrackDestroy i).2 := by
  rw [Objects.localTrackDestroy]
  cases htrack : objects.track? i with
  | none => exact h
  | some track =>
    dsimp only
    split
    · exact h
    obtain ⟨hcell, hlive⟩ := Objects.track?_eq_some.mp htrack
    have htracks : ((((objects.unlist i track).release .audio track.audioSource).release .video
        track.videoSource).tracks.modify i LocalTrack.destroy) =
          objects.tracks.modify i LocalTrack.destroy := by
      rw [Objects.tracks_release, Objects.tracks_release, Objects.tracks_unlist]
    have hrooms : ((((objects.unlist i track).release .audio track.audioSource).release .video
        track.videoSource)).rooms = (objects.unlist i track).rooms := by
      rw [Objects.rooms_release, Objects.rooms_release]
    have htrack? : ∀ t other, Objects.track? { objects with
        tracks := objects.tracks.modify i LocalTrack.destroy } t = some other →
        objects.track? t = some other := by
      intro t other hother
      obtain ⟨hcellT, hliveT⟩ := Objects.track?_eq_some.mp hother
      obtain ⟨old, hold, rfl⟩ := getElem?_modify_eq_some.mp hcellT
      by_cases hi : i = t
      · rw [if_pos hi] at hliveT
        cases hliveT
      · rw [if_neg hi] at hliveT ⊢
        exact Objects.track?_eq_some.mpr ⟨hold, hliveT⟩
    rw [htracks]
    constructor
    · intro kind j source hsource
      obtain ⟨mid, hmid, -, hvideo⟩ := Objects.release_cell hsource
      obtain ⟨old, hold, -, haudio⟩ := Objects.release_cell hmid
      rw [Objects.sources_unlist] at hold
      have hcount : source.trackReferences =
          old.trackReferences - if track.source kind = some j then 1 else 0 := by
        rw [hvideo, haudio]
        cases kind with
        | audio => by_cases hj : track.audioSource = some j <;> simp [LocalTrack.source, hj]
        | video => by_cases hj : track.videoSource = some j <;> simp [LocalTrack.source, hj]
      rw [hcount, h.trackReferences kind j old hold, Objects.tracksOnSource,
        Objects.tracksOnSource, names_modify_of_false fun _ _ => rfl]
      have hmem : i ∈ objects.tracksOnSource kind j ↔ track.source kind = some j := by
        rw [Objects.mem_tracksOnSource, htrack]
        simp
      by_cases hj : track.source kind = some j
      · rw [if_pos hj]
        exact (length_filter_names (hmem.mpr hj)).symm
      · rw [if_neg hj]
        exact congrArg List.length (filter_names_of_notMem fun hi => hj (hmem.mp hi)).symm
    · intro kind j source hsource hgone
      obtain ⟨mid, hmid, hdestroyed', hvideo⟩ := Objects.release_cell hsource
      obtain ⟨old, hold, hdestroyed, haudio⟩ := Objects.release_cell hmid
      rw [Objects.sources_unlist] at hold
      have hzero := h.released kind j old hold (hdestroyed ▸ hdestroyed' ▸ hgone)
      omega
    · intro t other hother kind j hj
      have hlt := h.source t other (htrack? t other hother) kind j hj
      have hlength : (objects.sources kind).length =
          ((((objects.unlist i track).release .audio track.audioSource).release .video
            track.videoSource).sources kind).length := by
        rw [Objects.length_release, Objects.length_release, Objects.sources_unlist]
      exact hlength ▸ hlt
    · intro j room hroom
      rw [Objects.room?, hrooms] at hroom
      rw [(h.unlist_room htrack hroom).1, Objects.tracksOfRoom, Objects.tracksOfRoom,
        names_modify_of_false fun _ _ => rfl]
    · intro j room hroom
      rw [Objects.room?, hrooms] at hroom
      exact (h.unlist_room htrack hroom).2
    · intro t other hother
      obtain ⟨room, hroom, howner⟩ := h.owner t other (htrack? t other hother)
      obtain ⟨after, hafter, hdeleted⟩ := Objects.unlist_deleted (i := i) track hroom
      rw [hrooms]
      exact ⟨after, hafter, by rw [hdeleted, howner]⟩

/-- Every act keeps the invariant. -/
theorem step (h : Inv objects) (act : Act) : Inv (objects.step act) := by
  cases act with
  | roomCreate created => exact h.roomCreate created
  | roomDestroy i threw => exact h.roomDestroy i threw
  | sourceCreate kind => exact h.sourceCreate kind
  | audioSourceDestroy i => exact h.sourceDestroy .audio i _
  | videoSourceDestroy i => exact h.sourceDestroy .video i _
  | roomCreateAudioTrack request =>
    apply h.roomCreateTrack rfl rfl rfl
    intro other
    cases other <;> rfl
  | roomCreateVideoTrack request =>
    apply h.roomCreateTrack rfl rfl rfl
    intro other
    cases other <;> rfl
  | localTrackDestroy i => exact h.localTrackDestroy i
  | published i value => exact h.published i value
  | connected i value =>
    apply h.modifyRoom i
    · exact fun room halive => halive
    · exact fun _ => rfl
    · exact fun _ => rfl

theorem run (h : Inv objects) (acts : List Act) : Inv (acts.foldl Objects.step objects) := by
  induction acts generalizing objects with
  | nil => exact h
  | cons act acts ih => exact ih (h.step act)

end Inv

/-! ## 5. The calls that destroy -/

section Destroy

variable {objects : Objects} {kind : SourceKind} {i : Nat}

theorem sourceDestroy_of_ok {source : Source} {inUse : String}
    (hsource : objects.source? kind i = some source)
    (hok : (objects.sourceDestroy kind i inUse).1.status = .ok) : source.trackReferences = 0 := by
  rw [Objects.sourceDestroy, hsource] at hok
  by_contra hne
  dsimp only at hok
  rw [if_pos hne] at hok
  cases hok

theorem sourceDestroy_of_refused {inUse : String}
    (hrefused : (objects.sourceDestroy kind i inUse).1.status ≠ .ok) :
    (objects.sourceDestroy kind i inUse).2 = objects := by
  rw [Objects.sourceDestroy] at hrefused ⊢
  cases hsource : objects.source? kind i with
  | none => rfl
  | some source =>
    rw [hsource] at hrefused
    dsimp only at hrefused ⊢
    split
    · rfl
    · rename_i hzero
      rw [if_neg hzero] at hrefused
      exact absurd rfl hrefused

theorem localTrackDestroy_of_refused
    (hrefused : (objects.localTrackDestroy i).1.status ≠ .ok) :
    (objects.localTrackDestroy i).2 = objects := by
  rw [Objects.localTrackDestroy] at hrefused ⊢
  cases htrack : objects.track? i with
  | none => rfl
  | some track =>
    rw [htrack] at hrefused
    dsimp only at hrefused ⊢
    split
    · rfl
    · rename_i hfree
      rw [if_neg hfree] at hrefused
      exact absurd rfl hrefused

end Destroy

/-- **Counts and lists are exact** after any calls. -/
theorem exact_of_acts (acts : List Act) : Exact (acts.foldl Objects.step {}) := by
  have h := Inv.init.run acts
  constructor
  · intro kind i source hsource
    exact h.trackReferences kind i source (Objects.source?_eq_some.mp hsource).1
  · exact h.localTracks
  · intro i source hsource hok
    exact sourceDestroy_of_ok hsource hok
  · intro i source hsource hok
    exact sourceDestroy_of_ok hsource hok
  · intro call hrefused
    cases call with
    | audioSource i => exact sourceDestroy_of_refused hrefused
    | videoSource i => exact sourceDestroy_of_refused hrefused
    | localTrack i => exact localTrackDestroy_of_refused hrefused

end LivekitClient.SourceReferences
