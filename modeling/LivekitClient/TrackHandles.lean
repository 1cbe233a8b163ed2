/-
  LivekitClient/TrackHandles.lean
  ===============================
  **Track handles of the C API** (`lk_local_track_publish`, `lk_local_track_unpublish`,
  `lk_local_track_destroy`, `lk_room_connect`, `lk_room_disconnect` and `CRoomEvents` in
  `src/capi/livekit.cpp`; `Room::Connect`, `Disconnect` and the events of the room in
  `src/core/room.cpp`; `PublishTrack`, `UnpublishTrack` and the republishing in
  `src/core/participant/local_participant.cpp`).

  A handle owns its track, and a publication of the local participant points at the track
  without owning it.  Whether a track may be destroyed is decided by two flags of the C
  layer: the handle is published, and the room is connected.  The first goes with the map
  of publications.  The second drops when the room reconnects and when it disconnects,
  and at neither does the core give up its publications.

  Publishing and unpublishing make an offer.  WebRTC rejects one with a `const char*`, which
  no handler of the core catches; `Guard` of the C layer turns it into a status.
-/
import Mathlib.Data.List.Nodup
import LivekitClient.CellHeap
import LivekitClient.Runs
import LivekitClient.Recovery

namespace LivekitClient.TrackHandles

open Std Runs CellHeap
open Recovery (RoomState)

/-! ## 1. The room and its handles -/

/-- A `lk_local_track` with the track it owns.  `transceiver` says whether the track has
    one, `destroyed` whether the handle has been deleted. -/
structure Handle where
  published : Bool := false
  sid : String := ""
  transceiver : Bool := false
  destroyed : Bool := false
deriving DecidableEq

/-- `lk_room` with its `RoomHandleState` and the core behind it.  Handles are named by
    their place in `handles`, and `trackPublications` has the track under a sid. -/
structure Room where
  alive : Bool := true
  connected : Bool := false
  state : RoomState := .disconnected
  disconnectedEventEmitted : Bool := false
  fullReconnectPrepared : Bool := false
  trackPublications : ExtTreeMap String Nat := ∅
  handles : List Handle := []

/-- How `PublishTrack` of the core goes: it fails before or after the track has got the
    sid of the server's answer, WebRTC rejects the offer that it makes, or it publishes. -/
inductive PublishAnswer where
  | failed
  | refused (sid : String)
  | threw (sid : String)
  | published (sid : String)
deriving DecidableEq

/-- How `UnpublishTrack` goes on: `RemoveSender` refuses, WebRTC rejects the offer that
    follows it, or both go well. -/
inductive Removal where
  | refused
  | threw
  | removed
deriving DecidableEq

/-- How a call of the core ends: it returns, or the `const char*` with which WebRTC rejects
    an offer unwinds it. -/
inductive Ending where
  | returned (result : Bool)
  | unwound
deriving DecidableEq

/-- The result of a loop that goes on after a failure. -/
def Ending.and : Ending → Bool → Ending
  | .returned others, result => .returned (result && others)
  | .unwound, _ => .unwound

inductive Status where
  | ok
  | invalidArgument
  | invalidState
  | operationFailed
  | exception
deriving DecidableEq

namespace Room

def modifyHandle (room : Room) (i : Nat) (f : Handle → Handle) : Room :=
  { room with handles := room.handles.modify i f }

/-- `CRoomEvents::MarkLocalTrackPublished`: `local_tracks` has the handles that are not
    deleted, as long as the room is there. -/
def markLocalTrackPublished (room : Room) (i : Nat) (published : Bool) : Room :=
  room.modifyHandle i fun handle =>
    if handle.destroyed then handle else { handle with published := published }

/-! ### The core -/

/-- `LocalParticipant::PublishTrack`, and the event of the listener. -/
def publishTrack (room : Room) (i : Nat) : PublishAnswer → Ending × Room
  | .failed => (.returned false, room)
  | .refused sid =>
    (.returned false, room.modifyHandle i fun handle => { handle with sid := sid })
  | .threw sid =>
    (.unwound, room.modifyHandle i fun handle => { handle with sid := sid, transceiver := true })
  | .published sid =>
    let room := room.modifyHandle i fun handle => { handle with sid := sid, transceiver := true }
    let room := { room with trackPublications := room.trackPublications.insert sid i }
    (.returned true, room.markLocalTrackPublished i true)

/-- The track loses its transceiver and the map the publication. -/
def forgetPublication (room : Room) (i : Nat) (sid : String) : Room :=
  let room := room.modifyHandle i fun handle => { handle with transceiver := false }
  { room with trackPublications := room.trackPublications.erase sid }

/-- The listener is told as well. -/
def dropPublication (room : Room) (i : Nat) (sid : String) : Room :=
  (room.forgetPublication i sid).markLocalTrackPublished i false

/-- `LocalParticipant::UnpublishTrack`. -/
def unpublishTrack (room : Room) (i : Nat) (removal : Removal) : Ending × Room :=
  match room.handles[i]? with
  | none => (.returned false, room)
  | some handle =>
    if handle.sid.isEmpty || !handle.transceiver then (.returned false, room)
    else if room.trackPublications[handle.sid]? ≠ some i then (.returned false, room)
    else
      match removal with
      | .refused => (.returned false, room)
      | .threw => (.unwound, room.forgetPublication i handle.sid)
      | .removed => (.returned true, room.dropPublication i handle.sid)

/-- `Room::LocalTrackUnpublishedEvent`. -/
def localTrackUnpublishedEvent (room : Room) (sid : String) (removal : Removal) : Room :=
  match room.trackPublications[sid]? with
  | none => room
  | some i =>
    match room.unpublishTrack i removal with
    | (.returned false, room) => room.dropPublication i sid
    | (.returned true, room) | (.unwound, room) => room

/-- Publish the tracks one after the other; an answer that is missing is a failure. -/
def publishTracks (room : Room) : List Nat → List PublishAnswer → Ending × Room
  | [], _ => (.returned true, room)
  | i :: rest, answers =>
    match room.publishTrack i (answers.headD .failed) with
    | (.unwound, room) => (.unwound, room)
    | (.returned published, room) =>
      let others := publishTracks room rest answers.tail
      (others.1.and published, others.2)

/-- `RepublishAllTracksAfterReconnect`: what the snapshot lists is removed, then published
    again. -/
def republishAllTracksAfterReconnect (room : Room) (answers : List PublishAnswer) :
    Ending × Room :=
  let tracks := room.trackPublications.toList
  let room := { room with
    trackPublications := (tracks.map Prod.fst).foldl ExtTreeMap.erase room.trackPublications }
  room.publishTracks (tracks.map Prod.snd) answers

/-- `DetachTrackTransceiversForReconnect`. -/
def detachTrackTransceiversForReconnect (room : Room) : Room :=
  room.trackPublications.toList.foldl
    (fun room entry => room.modifyHandle entry.2 fun handle => { handle with transceiver := false })
    room

/-- `NotifyDisconnectedOnce`; the listener drops the flag. -/
def notifyDisconnectedOnce (room : Room) : Room :=
  if room.disconnectedEventEmitted then room
  else { room with disconnectedEventEmitted := true, connected := false }

def reconnectingEvent (room : Room) (fullReconnect : Bool) : Room :=
  let room :=
    if fullReconnect && !room.fullReconnectPrepared then
      { room.detachTrackTransceiversForReconnect with fullReconnectPrepared := true }
    else room
  if room.state = .connected then { room with state := .reconnecting, connected := false }
  else room

def resumedEvent (room : Room) : Room :=
  if room.state = .reconnecting then { room with state := .connected, connected := true }
  else room

def reconnectedEvent (room : Room) (hasRoom : Bool) (answers : List PublishAnswer) : Room :=
  if room.state ≠ .reconnecting || !hasRoom then room
  else
    match room.republishAllTracksAfterReconnect answers with
    | (.unwound, room) => room
    | (.returned _, room) =>
      { room with fullReconnectPrepared := false, state := .connected, connected := true }

def signalDisconnectedEvent (room : Room) : Room :=
  if room.state = .disconnecting ∨ room.state = .disconnected then room
  else { room with state := .failed }.notifyDisconnectedOnce

/-! ### The C API -/

/-- `lk_room_create_audio_track` and `lk_room_create_video_track`. -/
def createTrack (room : Room) : Room :=
  { room with handles := room.handles ++ [{}] }

/-- `PublishLocalTrack` and the three calls that use it. -/
def localTrackPublish (room : Room) (i : Nat) (answer : PublishAnswer) : Status × Room :=
  match room.handles[i]? with
  | none => (.invalidArgument, room)
  | some handle =>
    if handle.published then (.invalidState, room)
    else
      match room.publishTrack i answer with
      | (.unwound, room) => (.exception, room)
      | (.returned false, room) => (.operationFailed, room)
      | (.returned true, room) =>
        (.ok, room.modifyHandle i fun handle => { handle with published := true })

def localTrackUnpublish (room : Room) (i : Nat) (removal : Removal) : Status × Room :=
  match room.handles[i]? with
  | none => (.invalidArgument, room)
  | some handle =>
    if !handle.published then (.invalidState, room)
    else
      match room.unpublishTrack i removal with
      | (.unwound, room) => (.exception, room)
      | (.returned false, room) => (.operationFailed, room)
      | (.returned true, room) =>
        (.ok, room.modifyHandle i fun handle => { handle with published := false })

/-- The room the handle asks is gone when `alive` is false. -/
def localTrackDestroy (room : Room) (i : Nat) : Status × Room :=
  match room.handles[i]? with
  | none => (.ok, room)
  | some handle =>
    if handle.published && room.alive && room.connected then (.invalidState, room)
    else (.ok, room.modifyHandle i fun handle => { handle with destroyed := true })

/-- `Room::Connect` brings the room to `Connecting`; `ConnectedEvent` follows. -/
def roomConnect (room : Room) (hasRoom : Bool) : Status × Room :=
  if room.state ≠ .disconnected ∧ room.state ≠ .failed then (.operationFailed, room)
  else
    let room := { room with
      state := .connecting, disconnectedEventEmitted := false, fullReconnectPrepared := false }
    if hasRoom then (.ok, { room with connected := true })
    else (.operationFailed, { room with state := .failed })

def roomDisconnect (room : Room) : Status × Room :=
  if room.state = .disconnecting ∨ room.state = .disconnected then (.invalidState, room)
  else
    let room := { room with state := .disconnected }.notifyDisconnectedOnce
    (.ok, { room with connected := false })

/-- The core goes with the room. -/
def roomDestroy (room : Room) : Room :=
  { room with
    alive := false, connected := false, state := .disconnected, trackPublications := ∅ }

end Room

inductive Act where
  | createTrack
  | localTrackPublish (i : Nat) (answer : PublishAnswer)
  | localTrackUnpublish (i : Nat) (removal : Removal)
  | localTrackDestroy (i : Nat)
  | roomConnect (hasRoom : Bool)
  | roomDisconnect
  | roomDestroy
  | connectedEvent
  | reconnectingEvent (fullReconnect : Bool)
  | resumedEvent
  | reconnectedEvent (hasRoom : Bool) (answers : List PublishAnswer)
  | signalDisconnectedEvent
  | localTrackUnpublishedEvent (sid : String) (removal : Removal)
deriving DecidableEq

/-- A handle that the application may still use. -/
def Room.Usable (room : Room) (i : Nat) : Prop :=
  ∃ handle ∈ room.handles[i]?, handle.destroyed = false

instance (room : Room) (i : Nat) : Decidable (room.Usable i) :=
  inferInstanceAs (Decidable (∃ handle ∈ room.handles[i]?, handle.destroyed = false))

/-- A step while the room is there.  A handle that is destroyed is not used any more. -/
def Room.liveStep (room : Room) : Act → Room
  | .createTrack => room.createTrack
  | .localTrackPublish i answer =>
    if room.Usable i then (room.localTrackPublish i answer).2 else room
  | .localTrackUnpublish i removal =>
    if room.Usable i then (room.localTrackUnpublish i removal).2 else room
  | .localTrackDestroy i => if room.Usable i then (room.localTrackDestroy i).2 else room
  | .roomConnect hasRoom => (room.roomConnect hasRoom).2
  | .roomDisconnect => room.roomDisconnect.2
  | .roomDestroy => room.roomDestroy
  | .connectedEvent => { room with state := .connected }
  | .reconnectingEvent fullReconnect => room.reconnectingEvent fullReconnect
  | .resumedEvent => room.resumedEvent
  | .reconnectedEvent hasRoom answers => room.reconnectedEvent hasRoom answers
  | .signalDisconnectedEvent => room.signalDisconnectedEvent
  | .localTrackUnpublishedEvent sid removal => room.localTrackUnpublishedEvent sid removal

/-- After the room is gone its handles can only be destroyed. -/
def Room.step (room : Room) (act : Act) : Room :=
  if room.alive then room.liveStep act
  else
    match act with
    | .localTrackDestroy i => if room.Usable i then (room.localTrackDestroy i).2 else room
    | _ => room

/-! ## 2. Publications and their tracks -/

/-- The local participant has a publication of the track. -/
def Room.Listed (room : Room) (i : Nat) : Prop :=
  ∃ sid : String, room.trackPublications[sid]? = some i

/-- A track that has a publication is destroyed only while the room counts as connected. -/
def Sound (room : Room) : Act → Prop
  | .localTrackDestroy i => room.Usable i → room.Listed i → room.connected = true
  | _ => True

/-- What the map has is published and under its own sid. -/
structure Inv (room : Room) : Prop where
  entry : ∀ (sid : String) (i : Nat), room.trackPublications[sid]? = some i →
    ∃ handle, room.handles[i]? = some handle ∧ handle.destroyed = false ∧
      handle.published = true ∧ handle.sid = sid
  gone : room.alive = false → room.trackPublications = ∅

/-- `UnpublishTrack` comes to `RemoveSender`. -/
def Room.Unpublishable (room : Room) (i : Nat) : Prop :=
  ∃ handle, room.handles[i]? = some handle ∧ handle.sid.isEmpty = false ∧
    handle.transceiver = true ∧ room.trackPublications[handle.sid]? = some i

/-- `UnpublishTrack` fails and changes nothing, or it drops the publication, or it is
    unwound and the listener is not told. -/
theorem Room.unpublishTrack_cases (room : Room) (i : Nat) (removal : Removal) :
    (room.unpublishTrack i removal = (.returned false, room) ∧
      (removal = .threw → ¬ room.Unpublishable i)) ∨
    ∃ sid : String, room.trackPublications[sid]? = some i ∧
      ((room.unpublishTrack i removal = (.returned true, room.dropPublication i sid) ∧
          removal ≠ .threw) ∨
        (room.unpublishTrack i removal = (.unwound, room.forgetPublication i sid) ∧
          removal = .threw ∧ room.Unpublishable i)) := by
  unfold unpublishTrack Room.Unpublishable
  cases hhandle : room.handles[i]? with
  | none => exact .inl ⟨rfl, fun _ => by simp⟩
  | some handle =>
    dsimp only
    split
    · rename_i hearly
      refine .inl ⟨rfl, ?_⟩
      rintro - ⟨_, ⟨⟩, hsid, htransceiver, -⟩
      simp [hsid, htransceiver] at hearly
    · rename_i hready
      split
      · rename_i hother
        refine .inl ⟨rfl, ?_⟩
        rintro - ⟨_, ⟨⟩, -, -, hlisted⟩
        exact hother hlisted
      · rename_i hlisted
        have hlisted := not_not.mp hlisted
        cases removal with
        | refused => exact .inl ⟨rfl, fun hthrew => by cases hthrew⟩
        | removed => exact .inr ⟨handle.sid, hlisted, .inl ⟨rfl, fun hthrew => by cases hthrew⟩⟩
        | threw =>
          simp only [Bool.or_eq_true, Bool.not_eq_true', not_or, Bool.not_eq_true,
            Bool.not_eq_false] at hready
          exact .inr ⟨handle.sid, hlisted, .inr ⟨rfl, rfl, handle, rfl, hready.1, hready.2,
            hlisted⟩⟩

namespace Inv

variable {room : Room} {i : Nat}

/-- A track has one publication at most. -/
theorem unique (h : Inv room) {sid sid' : String} (hsid : room.trackPublications[sid]? = some i)
    (hsid' : room.trackPublications[sid']? = some i) : sid = sid' := by
  obtain ⟨handle, hhandle, -, -, heq⟩ := h.entry sid i hsid
  obtain ⟨handle', hhandle', -, -, heq'⟩ := h.entry sid' i hsid'
  rw [hhandle] at hhandle'
  cases hhandle'
  rw [← heq, heq']

/-- What happens to a handle without a publication does not matter. -/
theorem modifyHandle_of_not_listed (h : Inv room) (hnot : ¬ room.Listed i)
    (f : Handle → Handle) : Inv (room.modifyHandle i f) := by
  refine ⟨?_, h.gone⟩
  intro sid j hj
  obtain ⟨handle, hhandle, hrest⟩ := h.entry sid j hj
  have hne : i ≠ j := by
    rintro rfl
    exact hnot ⟨sid, hj⟩
  refine ⟨handle, ?_, hrest⟩
  rw [Room.modifyHandle, getElem?_modify_of_some _ hhandle, if_neg hne]

/-- Nor does a change that leaves a published handle published and under its sid. -/
theorem modifyHandle_of_keeps (h : Inv room) {f : Handle → Handle}
    (hf : ∀ handle, (f handle).destroyed = handle.destroyed ∧ (f handle).sid = handle.sid ∧
      (handle.published = true → (f handle).published = true)) :
    Inv (room.modifyHandle i f) := by
  refine ⟨?_, h.gone⟩
  intro sid j hj
  obtain ⟨handle, hhandle, hdestroyed, hpublished, hsid⟩ := h.entry sid j hj
  obtain ⟨hdestroyed', hsid', hpublished'⟩ := hf handle
  refine ⟨_, getElem?_modify_of_some _ hhandle, ?_⟩
  split
  · exact ⟨hdestroyed'.trans hdestroyed, hpublished' hpublished, hsid'.trans hsid⟩
  · exact ⟨hdestroyed, hpublished, hsid⟩

theorem detach (h : Inv room) (i : Nat) :
    Inv (room.modifyHandle i fun handle => { handle with transceiver := false }) :=
  h.modifyHandle_of_keeps fun _ => ⟨rfl, rfl, id⟩

theorem erase (h : Inv room) (sid : String) :
    Inv { room with trackPublications := room.trackPublications.erase sid } := by
  refine ⟨?_, ?_⟩
  · intro other j hj
    simp only [ExtTreeMap.getElem?_erase, LawfulEqOrd.compare_eq_iff_eq] at hj
    split at hj
    · cases hj
    · exact h.entry other j hj
  · intro hgone
    simp only [h.gone hgone]
    ext
    simp

theorem not_listed_erase (h : Inv room) {sid : String}
    (hsid : room.trackPublications[sid]? = some i) :
    ¬ { room with trackPublications := room.trackPublications.erase sid }.Listed i := by
  rintro ⟨other, hother⟩
  simp only [ExtTreeMap.getElem?_erase, LawfulEqOrd.compare_eq_iff_eq] at hother
  split at hother
  · cases hother
  · rename_i hne
    exact hne (h.unique hsid hother)

/-- A track without a publication gets one. -/
theorem publishTrack (h : Inv room) (halive : room.alive = true) (husable : room.Usable i)
    (hnot : ¬ room.Listed i) (answer : PublishAnswer) : Inv (room.publishTrack i answer).2 := by
  cases answer with
  | failed => exact h
  | refused sid => exact h.modifyHandle_of_not_listed hnot _
  | threw sid => exact h.modifyHandle_of_not_listed hnot _
  | published sid =>
    obtain ⟨handle, hhandle, hdestroyed⟩ := husable
    refine ⟨?_, fun hgone => Bool.noConfusion (halive.symm.trans hgone)⟩
    intro other j hj
    simp only [Room.publishTrack, Room.modifyHandle, Room.markLocalTrackPublished,
      ExtTreeMap.getElem?_insert, LawfulEqOrd.compare_eq_iff_eq] at hj ⊢
    split at hj
    · rename_i heq
      cases hj
      refine ⟨_, getElem?_modify_of_some _ (getElem?_modify_of_some _ hhandle), ?_⟩
      simp [hdestroyed, heq]
    · obtain ⟨old, hold, hrest⟩ := h.entry other j hj
      have hne : i ≠ j := by
        rintro rfl
        exact hnot ⟨other, hj⟩
      refine ⟨old, ?_, hrest⟩
      rw [getElem?_modify_of_some _ (getElem?_modify_of_some _ hold), if_neg hne, if_neg hne]

theorem forgetPublication (h : Inv room) (sid : String) : Inv (room.forgetPublication i sid) :=
  (h.detach i).erase sid

/-- A track loses its publication, and its handle the mark. -/
theorem dropPublication (h : Inv room) {sid : String}
    (hsid : room.trackPublications[sid]? = some i) : Inv (room.dropPublication i sid) :=
  (h.forgetPublication sid).modifyHandle_of_not_listed ((h.detach i).not_listed_erase hsid) _

theorem localTrackUnpublishedEvent (h : Inv room) (sid : String) (removal : Removal) :
    Inv (room.localTrackUnpublishedEvent sid removal) := by
  unfold Room.localTrackUnpublishedEvent
  split
  · exact h
  · rename_i i hi
    rcases room.unpublishTrack_cases i removal with ⟨heq, -⟩ | ⟨other, hother, ⟨heq, -⟩ | ⟨heq, -⟩⟩
    · rw [heq]
      exact h.dropPublication hi
    · rw [heq]
      exact h.dropPublication hother
    · rw [heq]
      exact h.forgetPublication other

theorem localTrackPublish (h : Inv room) (halive : room.alive = true) (husable : room.Usable i)
    (answer : PublishAnswer) : Inv (room.localTrackPublish i answer).2 := by
  obtain ⟨handle, hhandle, hdestroyed⟩ := husable
  unfold Room.localTrackPublish
  rw [hhandle]
  dsimp only
  split
  · exact h
  · rename_i hpublished
    have hnot : ¬ room.Listed i := by
      rintro ⟨sid, hsid⟩
      obtain ⟨handle', hhandle', -, hmark, -⟩ := h.entry sid i hsid
      rw [hhandle] at hhandle'
      cases hhandle'
      exact hpublished hmark
    have hinv := h.publishTrack halive ⟨handle, hhandle, hdestroyed⟩ hnot answer
    split
    · rename_i after heq
      rw [heq] at hinv
      exact hinv
    · rename_i after heq
      rw [heq] at hinv
      exact hinv
    · rename_i after heq
      rw [heq] at hinv
      exact hinv.modifyHandle_of_keeps fun _ => ⟨rfl, rfl, fun _ => rfl⟩

theorem localTrackUnpublish (h : Inv room) (removal : Removal) :
    Inv (room.localTrackUnpublish i removal).2 := by
  unfold Room.localTrackUnpublish
  split
  · exact h
  · split
    · exact h
    · rcases room.unpublishTrack_cases i removal with ⟨heq, -⟩ | ⟨sid, hsid, ⟨heq, -⟩ | ⟨heq, -⟩⟩
      · rw [heq]
        exact h
      · rw [heq]
        exact (h.dropPublication hsid).modifyHandle_of_not_listed
          (h.not_listed_erase hsid) _
      · rw [heq]
        exact h.forgetPublication sid

theorem detachTrackTransceiversForReconnect (h : Inv room) :
    Inv room.detachTrackTransceiversForReconnect := by
  unfold Room.detachTrackTransceiversForReconnect
  generalize room.trackPublications.toList = entries
  induction entries generalizing room with
  | nil => exact h
  | cons entry entries ih => exact ih (h.detach entry.2)

end Inv

/-! ### Republishing -/

section Republish

variable {room : Room} {i : Nat}

theorem publishTrack_alive (answer : PublishAnswer) :
    (room.publishTrack i answer).2.alive = room.alive := by
  cases answer <;> rfl

theorem usable_modifyHandle {j : Nat} {f : Handle → Handle} (hj : room.Usable j)
    (hf : ∀ handle, (f handle).destroyed = handle.destroyed) :
    (room.modifyHandle i f).Usable j := by
  obtain ⟨handle, hhandle, hdestroyed⟩ := hj
  refine ⟨_, getElem?_modify_of_some _ hhandle, ?_⟩
  split
  · rw [hf]
    exact hdestroyed
  · exact hdestroyed

theorem usable_markLocalTrackPublished {j : Nat} (hj : room.Usable j) (published : Bool) :
    (room.markLocalTrackPublished i published).Usable j := by
  apply usable_modifyHandle hj
  intro handle
  split <;> rfl

theorem usable_publishTrack {j : Nat} (hj : room.Usable j) (answer : PublishAnswer) :
    (room.publishTrack i answer).2.Usable j := by
  cases answer with
  | failed => exact hj
  | refused sid => exact usable_modifyHandle hj fun _ => rfl
  | threw sid => exact usable_modifyHandle hj fun _ => rfl
  | published sid =>
    have hmodified := usable_modifyHandle (i := i) (f := fun handle : Handle =>
      { handle with sid := sid, transceiver := true }) hj fun _ => rfl
    have hinserted : Room.Usable { room.modifyHandle i fun handle =>
        { handle with sid := sid, transceiver := true } with
        trackPublications := room.trackPublications.insert sid i } j := hmodified
    exact usable_markLocalTrackPublished hinserted true

/-- A publish gives no other track a publication. -/
theorem listed_publishTrack {j : Nat} {answer : PublishAnswer} (hne : j ≠ i)
    (hlisted : (room.publishTrack i answer).2.Listed j) : room.Listed j := by
  cases answer with
  | failed => exact hlisted
  | refused sid => exact hlisted
  | threw sid => exact hlisted
  | published sid =>
    obtain ⟨other, hother⟩ := hlisted
    simp only [Room.publishTrack, Room.modifyHandle, Room.markLocalTrackPublished,
      ExtTreeMap.getElem?_insert, LawfulEqOrd.compare_eq_iff_eq] at hother
    split at hother
    · cases hother
      exact absurd rfl hne
    · exact ⟨other, hother⟩

theorem publishTracks_cons (rest : List Nat) (answers : List PublishAnswer) :
    (room.publishTracks (i :: rest) answers).2 =
      if (room.publishTrack i (answers.headD .failed)).1 = .unwound then
        (room.publishTrack i (answers.headD .failed)).2
      else ((room.publishTrack i (answers.headD .failed)).2.publishTracks rest answers.tail).2 := by
  rw [Room.publishTracks]
  rcases room.publishTrack i (answers.headD .failed) with ⟨_ | _, after⟩
  · rfl
  · rfl

theorem Inv.publishTracks (h : Inv room) (halive : room.alive = true) {tracks : List Nat}
    (hnodup : tracks.Nodup) (husable : ∀ j ∈ tracks, room.Usable j)
    (hnot : ∀ j ∈ tracks, ¬ room.Listed j) (answers : List PublishAnswer) :
    Inv (room.publishTracks tracks answers).2 := by
  induction tracks generalizing room answers with
  | nil => exact h
  | cons i rest ih =>
    obtain ⟨hfresh, hrest⟩ := List.nodup_cons.mp hnodup
    have hpublished := h.publishTrack halive (husable i List.mem_cons_self)
      (hnot i List.mem_cons_self) (answers.headD .failed)
    rw [publishTracks_cons]
    split
    · exact hpublished
    · apply ih hpublished
      · rw [publishTrack_alive]
        exact halive
      · exact hrest
      · intro j hj
        exact usable_publishTrack (husable j (List.mem_cons_of_mem _ hj)) _
      · intro j hj hlisted
        have hne : j ≠ i := by
          rintro rfl
          exact hfresh hj
        exact hnot j (List.mem_cons_of_mem _ hj) (listed_publishTrack hne hlisted)

theorem getElem?_foldl_erase (sids : List String) (map : ExtTreeMap String Nat) (sid : String) :
    (sids.foldl ExtTreeMap.erase map)[sid]? = if sid ∈ sids then none else map[sid]? := by
  induction sids generalizing map with
  | nil => simp
  | cons other sids ih =>
    rw [List.foldl_cons, ih, ExtTreeMap.getElem?_erase]
    simp only [LawfulEqOrd.compare_eq_iff_eq]
    by_cases hmem : sid ∈ sids
    · simp [hmem]
    · by_cases heq : other = sid
      · simp [heq]
      · simp [hmem, heq, Ne.symm heq]

/-- What the snapshot lists is all there is. -/
theorem erase_snapshot (map : ExtTreeMap String Nat) (sid : String) :
    ((map.toList.map Prod.fst).foldl ExtTreeMap.erase map)[sid]? = none := by
  rw [getElem?_foldl_erase]
  split
  · rfl
  · rename_i hnot
    cases hsid : map[sid]? with
    | none => rfl
    | some i =>
      refine absurd (List.mem_map.mpr ⟨(sid, i), ?_, rfl⟩) hnot
      exact ExtTreeMap.mem_toList_iff_getElem?_eq_some.mpr hsid

theorem Inv.nodup_tracks (h : Inv room) : (room.trackPublications.toList.map Prod.snd).Nodup := by
  have hdistinct : room.trackPublications.toList.Nodup := by
    apply (ExtTreeMap.distinct_keys_toList (t := room.trackPublications)).imp
    intro entry entry' hne heq
    exact hne (by rw [heq]; exact ReflCmp.compare_self)
  refine List.Nodup.map_on ?_ hdistinct
  rintro ⟨sid, i⟩ hmem ⟨sid', i'⟩ hmem' heq
  simp only at heq
  subst heq
  rw [ExtTreeMap.mem_toList_iff_getElem?_eq_some] at hmem hmem'
  rw [h.unique hmem hmem']

theorem Inv.republishAllTracksAfterReconnect (h : Inv room) (halive : room.alive = true)
    (answers : List PublishAnswer) : Inv (room.republishAllTracksAfterReconnect answers).2 := by
  have hempty : ∀ sid : String, ((room.trackPublications.toList.map Prod.fst).foldl
      ExtTreeMap.erase room.trackPublications)[sid]? = none := erase_snapshot _
  unfold Room.republishAllTracksAfterReconnect
  dsimp only
  apply Inv.publishTracks
  · refine ⟨?_, fun hgone => Bool.noConfusion (halive.symm.trans hgone)⟩
    intro sid i hi
    rw [hempty] at hi
    cases hi
  · exact halive
  · exact h.nodup_tracks
  · intro j hj
    obtain ⟨⟨sid, i⟩, hmem, rfl⟩ := List.mem_map.mp hj
    obtain ⟨handle, hhandle, hdestroyed, -⟩ :=
      h.entry sid i (ExtTreeMap.mem_toList_iff_getElem?_eq_some.mp hmem)
    exact ⟨handle, hhandle, hdestroyed⟩
  · rintro j - ⟨sid, hsid⟩
    rw [hempty] at hsid
    cases hsid

end Republish

/-! ## 3. Steps -/

section Steps

variable {room : Room} {i : Nat}

/-- The flags and states of the room do not touch the map and the handles. -/
theorem Inv.of_same (h : Inv room) {after : Room}
    (hmap : after.trackPublications = room.trackPublications)
    (hhandles : after.handles = room.handles)
    (halive : after.alive = room.alive) : Inv after := by
  refine ⟨?_, ?_⟩
  · rw [hmap, hhandles]
    exact h.entry
  · rw [hmap, halive]
    exact h.gone

theorem Inv.reconnectingEvent (h : Inv room) (fullReconnect : Bool) :
    Inv (room.reconnectingEvent fullReconnect) := by
  have hdetached : Inv (if fullReconnect && !room.fullReconnectPrepared then
      { room.detachTrackTransceiversForReconnect with fullReconnectPrepared := true }
      else room) := by
    split
    · exact h.detachTrackTransceiversForReconnect.of_same rfl rfl rfl
    · exact h
  unfold Room.reconnectingEvent
  dsimp only
  generalize (if fullReconnect && !room.fullReconnectPrepared then
    { room.detachTrackTransceiversForReconnect with fullReconnectPrepared := true }
    else room) = detached at hdetached
  split
  · exact hdetached.of_same rfl rfl rfl
  · exact hdetached

theorem Inv.notifyDisconnectedOnce (h : Inv room) : Inv room.notifyDisconnectedOnce := by
  unfold Room.notifyDisconnectedOnce
  split
  · exact h
  · exact h.of_same rfl rfl rfl

theorem Inv.signalDisconnectedEvent (h : Inv room) : Inv room.signalDisconnectedEvent := by
  unfold Room.signalDisconnectedEvent
  split
  · exact h
  · apply Inv.notifyDisconnectedOnce
    exact h.of_same rfl rfl rfl

theorem Inv.roomDisconnect (h : Inv room) : Inv room.roomDisconnect.2 := by
  unfold Room.roomDisconnect
  split
  · exact h
  · have hnotified : Inv { room with state := .disconnected }.notifyDisconnectedOnce := by
      apply Inv.notifyDisconnectedOnce
      exact h.of_same rfl rfl rfl
    exact hnotified.of_same rfl rfl rfl

theorem Inv.roomConnect (h : Inv room) (hasRoom : Bool) : Inv (room.roomConnect hasRoom).2 := by
  unfold Room.roomConnect
  split
  · exact h
  · dsimp only
    split
    · exact h.of_same rfl rfl rfl
    · exact h.of_same rfl rfl rfl

theorem Inv.createTrack (h : Inv room) : Inv room.createTrack := by
  refine ⟨?_, h.gone⟩
  intro sid i hi
  obtain ⟨handle, hhandle, hrest⟩ := h.entry sid i hi
  refine ⟨handle, ?_, hrest⟩
  rw [Room.createTrack, List.getElem?_append_left (List.getElem?_eq_some_iff.mp hhandle).1]
  exact hhandle

theorem Inv.alive_of_listed (h : Inv room) (hlisted : room.Listed i) : room.alive = true := by
  obtain ⟨sid, hsid⟩ := hlisted
  by_contra hgone
  rw [h.gone (Bool.not_eq_true _ ▸ hgone)] at hsid
  simp at hsid

/-- A track with a publication has the mark, so the flag of the room decides. -/
theorem Inv.localTrackDestroy_of_listed (h : Inv room) (hlisted : room.Listed i) :
    room.localTrackDestroy i =
      if room.connected then (.invalidState, room)
      else (.ok, room.modifyHandle i fun handle => { handle with destroyed := true }) := by
  have halive := h.alive_of_listed hlisted
  obtain ⟨sid, hsid⟩ := hlisted
  obtain ⟨handle, hhandle, -, hpublished, -⟩ := h.entry sid i hsid
  simp only [Room.localTrackDestroy, hhandle, hpublished, halive, Bool.true_and]

theorem Inv.localTrackDestroy (h : Inv room) (hsound : room.Listed i → room.connected = true) :
    Inv (room.localTrackDestroy i).2 := by
  by_cases hlisted : room.Listed i
  · rw [h.localTrackDestroy_of_listed hlisted, if_pos (hsound hlisted)]
    exact h
  · unfold Room.localTrackDestroy
    split
    · exact h
    · split
      · exact h
      · exact h.modifyHandle_of_not_listed hlisted _

theorem Inv.liveStep (h : Inv room) (halive : room.alive = true) {act : Act}
    (hsound : Sound room act) : Inv (room.liveStep act) := by
  cases act with
  | createTrack => exact h.createTrack
  | localTrackPublish i answer =>
    simp only [Room.liveStep]
    split
    · rename_i husable
      exact h.localTrackPublish halive husable answer
    · exact h
  | localTrackUnpublish i removal =>
    simp only [Room.liveStep]
    split
    · exact h.localTrackUnpublish removal
    · exact h
  | localTrackDestroy i =>
    simp only [Room.liveStep]
    split
    · rename_i husable
      exact h.localTrackDestroy (hsound husable)
    · exact h
  | roomConnect hasRoom => exact h.roomConnect hasRoom
  | roomDisconnect => exact h.roomDisconnect
  | roomDestroy => exact ⟨by simp [Room.liveStep, Room.roomDestroy], fun _ => rfl⟩
  | connectedEvent => exact h.of_same rfl rfl rfl
  | reconnectingEvent fullReconnect => exact h.reconnectingEvent fullReconnect
  | resumedEvent =>
    simp only [Room.liveStep, Room.resumedEvent]
    split
    · exact h.of_same rfl rfl rfl
    · exact h
  | reconnectedEvent hasRoom answers =>
    have hrepublished := h.republishAllTracksAfterReconnect halive answers
    simp only [Room.liveStep, Room.reconnectedEvent]
    split
    · exact h
    · split
      · rename_i after heq
        rw [heq] at hrepublished
        exact hrepublished
      · rename_i success after heq
        rw [heq] at hrepublished
        exact hrepublished.of_same rfl rfl rfl
  | signalDisconnectedEvent => exact h.signalDisconnectedEvent
  | localTrackUnpublishedEvent sid removal => exact h.localTrackUnpublishedEvent sid removal

theorem Inv.step (h : Inv room) {act : Act} (hsound : Sound room act) : Inv (room.step act) := by
  unfold Room.step
  split
  · rename_i halive
    exact h.liveStep halive hsound
  · split
    · split
      · rename_i husable
        exact h.localTrackDestroy (hsound husable)
      · exact h
    · exact h

end Steps

/-! ## 4. Runs -/

theorem inv_new : Inv {} := by
  refine ⟨?_, ?_⟩
  · simp
  · simp

/-- A track is published. -/
def publishActs : List Act :=
  [.roomConnect true, .connectedEvent, .createTrack, .localTrackPublish 0 (.published "TR_1")]

end LivekitClient.TrackHandles
