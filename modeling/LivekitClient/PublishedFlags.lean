/-
  LivekitClient/PublishedFlags.lean
  =================================
  **The published flag of a track handle** (`lk_local_track_publish`,
  `lk_local_track_unpublish`, `lk_room_republish_all_tracks` and `CRoomEvents` in
  `src/capi/livekit.cpp`; `RepublishAllTracks` and `RepublishAllTracksAfterReconnect` in
  `src/core/participant/local_participant.cpp`).

  The C layer keeps a flag beside the map of publications.  It learns of a change from the
  result of its own calls and from the events of the core.  After a full reconnect the core
  takes every publication out of the map without an event, and puts back those that the
  server accepts again.
-/
import LivekitClient.TrackHandles

namespace LivekitClient.PublishedFlags

open Std Runs CellHeap TrackHandles

/-! ## 1. The calls -/

/-- `LocalParticipant::RepublishAllTracks` after its snapshot.  Each track comes with the
    way its unpublish goes and the answer to its publish; those that are missing fail. -/
def republishTracks (room : Room) : List Nat → List (Removal × PublishAnswer) → Ending × Room
  | [], _ => (.returned true, room)
  | i :: rest, answers =>
    let answer := answers.headD (.refused, .failed)
    match room.unpublishTrack i answer.1 with
    | (.unwound, room) => (.unwound, room)
    | (.returned false, room) =>
      let others := republishTracks room rest answers.tail
      (others.1.and false, others.2)
    | (.returned true, room) =>
      match room.publishTrack i answer.2 with
      | (.unwound, room) => (.unwound, room)
      | (.returned published, room) =>
        let others := republishTracks room rest answers.tail
        (others.1.and published, others.2)

/-- The tracks of the publications, in the order of their sids. -/
def tracks (room : Room) : List Nat :=
  room.trackPublications.toList.map Prod.snd

/-- `lk_room_republish_all_tracks`. -/
def roomRepublishAllTracks (room : Room) (answers : List (Removal × PublishAnswer)) :
    Status × Room :=
  match republishTracks room (tracks room) answers with
  | (.returned true, room) => (.ok, room)
  | (.returned false, room) => (.operationFailed, room)
  | (.unwound, room) => (.exception, room)

inductive Act where
  | createTrack
  | localTrackPublish (i : Nat) (answer : PublishAnswer)
  | localTrackUnpublish (i : Nat) (removal : Removal)
  | roomRepublishAllTracks (answers : List (Removal × PublishAnswer))
  | roomConnect (hasRoom : Bool)
  | roomDisconnect
  | connectedEvent
  | reconnectingEvent (fullReconnect : Bool)
  | resumedEvent
  | reconnectedEvent (hasRoom : Bool) (answers : List PublishAnswer)
  | signalDisconnectedEvent
  | localTrackUnpublishedEvent (sid : String) (removal : Removal)
deriving DecidableEq

def step (room : Room) : Act → Room
  | .createTrack => room.createTrack
  | .localTrackPublish i answer => (room.localTrackPublish i answer).2
  | .localTrackUnpublish i removal => (room.localTrackUnpublish i removal).2
  | .roomRepublishAllTracks answers => (roomRepublishAllTracks room answers).2
  | .roomConnect hasRoom => (room.roomConnect hasRoom).2
  | .roomDisconnect => room.roomDisconnect.2
  | .connectedEvent => { room with state := .connected }
  | .reconnectingEvent fullReconnect => room.reconnectingEvent fullReconnect
  | .resumedEvent => room.resumedEvent
  | .reconnectedEvent hasRoom answers => room.reconnectedEvent hasRoom answers
  | .signalDisconnectedEvent => room.signalDisconnectedEvent
  | .localTrackUnpublishedEvent sid removal => room.localTrackUnpublishedEvent sid removal

/-! ## 2. When the flag can be trusted -/

def Marked (room : Room) (i : Nat) : Prop :=
  ∃ handle, room.handles[i]? = some handle ∧ handle.published = true

/-- The server does not answer with the sid of a publication. -/
def Fresh (room : Room) (answer : PublishAnswer) : Prop :=
  ∀ sid, answer = .published sid → room.trackPublications[sid]? = none

/-- `UnpublishTrack` makes no offer that WebRTC rejects. -/
def Removes (room : Room) (i : Nat) (removal : Removal) : Prop :=
  removal = .threw → ¬ room.Unpublishable i

/-- So it is for each track that `RepublishAllTracks` takes back and publishes. -/
def FreshAnswers (room : Room) : List Nat → List (Removal × PublishAnswer) → Prop
  | [], _ => True
  | i :: rest, answers =>
    let answer := answers.headD (.refused, .failed)
    Removes room i answer.1 ∧
      match room.unpublishTrack i answer.1 with
      | (.unwound, _) => True
      | (.returned false, room) => FreshAnswers room rest answers.tail
      | (.returned true, room) =>
        Fresh room answer.2 ∧
          match room.publishTrack i answer.2 with
          | (.unwound, _) => True
          | (.returned _, room) => FreshAnswers room rest answers.tail

/-- `count` publishes succeed, each with a sid that is not taken. -/
def Granted : List String → Nat → List PublishAnswer → Prop
  | _, 0, _ => True
  | taken, count + 1, answers =>
    ∃ sid, answers.headD .failed = .published sid ∧ sid ∉ taken ∧
      Granted (sid :: taken) count answers.tail

/-- **The condition**: the server gives no track the sid of another one, WebRTC rejects no
    offer of an unpublish, and after a full reconnect the server accepts every track again. -/
def Truthful (room : Room) : Act → Prop
  | .localTrackPublish i answer =>
    (∃ handle, room.handles[i]? = some handle ∧ handle.published = false) → Fresh room answer
  | .localTrackUnpublish i removal => Removes room i removal
  | .localTrackUnpublishedEvent sid removal =>
    ∀ i, room.trackPublications[sid]? = some i → Removes room i removal
  | .roomRepublishAllTracks answers => FreshAnswers room (tracks room) answers
  | .reconnectedEvent hasRoom answers =>
    room.state = .reconnecting → hasRoom = true → Granted [] (tracks room).length answers
  | _ => True

/-- The invariant: a flag has its publication, unless the track still waits to be published
    again.  No handle is gone. -/
structure Backed (pending : List Nat) (room : Room) : Prop extends Inv room where
  alive : room.alive = true
  live : ∀ (i : Nat) handle, room.handles[i]? = some handle → handle.destroyed = false
  listed : ∀ i, Marked room i → room.Listed i ∨ i ∈ pending

/-- A track has the flag and no publication. -/
def Lost (room : Room) (i : Nat) : Prop :=
  ∃ handle, room.handles[i]? = some handle ∧ handle.destroyed = false ∧
    handle.published = true ∧ ¬ room.Listed i

section Flags

variable {room : Room} {i j : Nat}

theorem marked_of_listed (h : Inv room) (hlisted : room.Listed i) : Marked room i := by
  obtain ⟨sid, hsid⟩ := hlisted
  obtain ⟨handle, hhandle, -, hpublished, -⟩ := h.entry sid i hsid
  exact ⟨handle, hhandle, hpublished⟩

theorem Backed.of_same {pending : List Nat} (h : Backed pending room) {after : Room}
    (hmap : after.trackPublications = room.trackPublications)
    (hhandles : after.handles = room.handles) (halive : after.alive = room.alive) :
    Backed pending after := by
  refine ⟨h.toInv.of_same hmap hhandles halive, halive.trans h.alive, ?_, ?_⟩
  · rw [hhandles]
    exact h.live
  · intro j hmarked
    rw [Room.Listed, hmap]
    apply h.listed j
    rw [Marked, ← hhandles]
    exact hmarked

/-! ### One track -/

theorem handle_modifyHandle_of_ne {f : Handle → Handle} (hne : i ≠ j) :
    (room.modifyHandle i f).handles[j]? = room.handles[j]? :=
  List.getElem?_modify_ne f room.handles hne

theorem handle_publishTrack_of_ne (hne : i ≠ j) (answer : PublishAnswer) :
    (room.publishTrack i answer).2.handles[j]? = room.handles[j]? := by
  cases answer with
  | failed => rfl
  | refused sid => exact handle_modifyHandle_of_ne hne
  | threw sid => exact handle_modifyHandle_of_ne hne
  | published sid => exact (handle_modifyHandle_of_ne hne).trans (handle_modifyHandle_of_ne hne)

theorem handle_forgetPublication_of_ne (hne : i ≠ j) (sid : String) :
    (room.forgetPublication i sid).handles[j]? = room.handles[j]? :=
  handle_modifyHandle_of_ne hne

theorem handle_dropPublication_of_ne (hne : i ≠ j) (sid : String) :
    (room.dropPublication i sid).handles[j]? = room.handles[j]? :=
  (handle_modifyHandle_of_ne hne).trans (handle_forgetPublication_of_ne hne sid)

theorem listed_forgetPublication {sid : String} (hsid : room.trackPublications[sid]? = some i)
    (hne : i ≠ j) : (room.forgetPublication i sid).Listed j ↔ room.Listed j := by
  constructor
  · rintro ⟨other, hother⟩
    refine ⟨other, ?_⟩
    have hmap : (room.trackPublications.erase sid)[other]? = some j := hother
    rw [ExtTreeMap.getElem?_erase] at hmap
    split at hmap
    · cases hmap
    · exact hmap
  · rintro ⟨other, hother⟩
    refine ⟨other, ?_⟩
    have hmap : (room.trackPublications.erase sid)[other]? = some j := by
      rw [ExtTreeMap.getElem?_erase]
      split
      · rename_i heq
        rw [LawfulEqOrd.compare_eq_iff_eq] at heq
        subst heq
        rw [hsid] at hother
        cases hother
        exact absurd rfl hne
      · exact hother
    exact hmap

theorem listed_publishTrack_self (sid : String) :
    (room.publishTrack i (.published sid)).2.Listed i := by
  refine ⟨sid, ?_⟩
  simp only [Room.publishTrack, Room.modifyHandle, Room.markLocalTrackPublished,
    ExtTreeMap.getElem?_insert_self]

theorem Lost.publishTrack (h : Lost room j) (hne : i ≠ j) (answer : PublishAnswer) :
    Lost (room.publishTrack i answer).2 j := by
  obtain ⟨handle, hhandle, hlive, hpublished, hnot⟩ := h
  refine ⟨handle, ?_, hlive, hpublished, ?_⟩
  · rw [handle_publishTrack_of_ne hne, hhandle]
  · intro hlisted
    exact hnot (listed_publishTrack hne.symm hlisted)

/-- A change of a handle that does not take the mark away. -/
theorem Lost.modifyHandle (h : Lost room j) {f : Handle → Handle}
    (hf : ∀ handle, (f handle).destroyed = handle.destroyed ∧
      (handle.published = true → (f handle).published = true)) :
    Lost (room.modifyHandle i f) j := by
  obtain ⟨handle, hhandle, hlive, hpublished, hnot⟩ := h
  refine ⟨_, getElem?_modify_of_some _ hhandle, ?_, ?_, hnot⟩
  · split
    · rw [(hf handle).1]
      exact hlive
    · exact hlive
  · split
    · exact (hf handle).2 hpublished
    · exact hpublished

theorem Lost.forgetPublication (h : Lost room j) {sid : String}
    (hsid : room.trackPublications[sid]? = some i) :
    i ≠ j ∧ Lost (room.forgetPublication i sid) j := by
  obtain ⟨handle, hhandle, hlive, hpublished, hnot⟩ := h
  have hne : i ≠ j := by
    rintro rfl
    exact hnot ⟨sid, hsid⟩
  refine ⟨hne, handle, ?_, hlive, hpublished, ?_⟩
  · rw [handle_forgetPublication_of_ne hne, hhandle]
  · rw [listed_forgetPublication hsid hne]
    exact hnot

theorem Lost.unpublishTrack (h : Lost room j) (removal : Removal) :
    Lost (room.unpublishTrack i removal).2 j ∧
      ((room.unpublishTrack i removal).1 = .returned true → i ≠ j) := by
  rcases room.unpublishTrack_cases i removal with ⟨heq, -⟩ | ⟨sid, hsid, ⟨heq, -⟩ | ⟨heq, -⟩⟩
  · rw [heq]
    exact ⟨h, fun htrue => by cases htrue⟩
  · rw [heq]
    obtain ⟨hne, handle, hhandle, hlive, hpublished, hnot⟩ := h.forgetPublication hsid
    refine ⟨⟨handle, ?_, hlive, hpublished, hnot⟩, fun _ => hne⟩
    rw [Room.dropPublication, Room.markLocalTrackPublished, handle_modifyHandle_of_ne hne, hhandle]
  · rw [heq]
    exact ⟨(h.forgetPublication hsid).2, fun htrue => by cases htrue⟩

/-- No handle goes away when one of them is changed. -/
theorem live_modifyHandle {f : Handle → Handle}
    (hf : ∀ handle, (f handle).destroyed = handle.destroyed)
    (hlive : ∀ (j : Nat) handle, room.handles[j]? = some handle → handle.destroyed = false)
    (j : Nat) (handle : Handle) (hhandle : (room.modifyHandle i f).handles[j]? = some handle) :
    handle.destroyed = false := by
  obtain ⟨old, hold, rfl⟩ := getElem?_modify_eq_some.mp hhandle
  split
  · rw [hf]
    exact hlive j old hold
  · exact hlive j old hold

theorem live_markLocalTrackPublished {published : Bool}
    (hlive : ∀ (j : Nat) handle, room.handles[j]? = some handle → handle.destroyed = false) :
    ∀ (j : Nat) handle, (room.markLocalTrackPublished i published).handles[j]? = some handle →
      handle.destroyed = false := by
  apply live_modifyHandle _ hlive
  intro handle
  split <;> rfl

theorem live_publishTrack (answer : PublishAnswer)
    (hlive : ∀ (j : Nat) handle, room.handles[j]? = some handle → handle.destroyed = false) :
    ∀ (j : Nat) handle, (room.publishTrack i answer).2.handles[j]? = some handle →
      handle.destroyed = false := by
  cases answer with
  | failed => exact hlive
  | refused sid => exact live_modifyHandle (fun _ => rfl) hlive
  | threw sid => exact live_modifyHandle (fun _ => rfl) hlive
  | published sid =>
    apply live_markLocalTrackPublished
    exact live_modifyHandle (i := i)
      (f := fun handle => { handle with sid := sid, transceiver := true }) (fun _ => rfl) hlive

namespace Backed

variable {pending : List Nat} {handle : Handle}

theorem weaken (h : Backed [] room) : Backed pending room := by
  refine ⟨h.toInv, h.alive, h.live, ?_⟩
  intro j hmarked
  rcases h.listed j hmarked with hlisted | hnil
  · exact .inl hlisted
  · cases hnil

/-- A track without a publication gets one under a sid that is not taken. -/
theorem publishTrack (h : Backed (i :: pending) room) (hhandle : room.handles[i]? = some handle)
    (hnot : ¬ room.Listed i) {sid : String} (hfresh : room.trackPublications[sid]? = none) :
    Backed pending (room.publishTrack i (.published sid)).2 := by
  have hmap : ∀ other : String, (room.publishTrack i (.published sid)).2.trackPublications[other]? =
      if sid = other then some i else room.trackPublications[other]? := by
    intro other
    simp only [Room.publishTrack, Room.modifyHandle, Room.markLocalTrackPublished,
      ExtTreeMap.getElem?_insert, LawfulEqOrd.compare_eq_iff_eq]
  refine ⟨?_, ?_, live_publishTrack _ h.live, ?_⟩
  · exact h.toInv.publishTrack h.alive ⟨handle, hhandle, h.live i handle hhandle⟩ hnot _
  · exact (publishTrack_alive _).trans h.alive
  · intro j hmarked
    by_cases hne : i = j
    · subst hne
      exact .inl ⟨sid, (hmap sid).trans (if_pos rfl)⟩
    · obtain ⟨handle', hhandle', hpublished⟩ := hmarked
      rw [handle_publishTrack_of_ne hne] at hhandle'
      rcases h.listed j ⟨handle', hhandle', hpublished⟩ with ⟨other, hother⟩ | hpending
      · refine .inl ⟨other, (hmap other).trans ?_⟩
        rw [if_neg]
        · exact hother
        · rintro rfl
          rw [hfresh] at hother
          cases hother
      · rcases List.mem_cons.mp hpending with rfl | hpending
        · exact absurd rfl hne
        · exact .inr hpending

theorem mark (h : Backed pending room) (hlisted : room.Listed i) :
    Backed pending (room.modifyHandle i fun handle => { handle with published := true }) := by
  refine ⟨h.toInv.modifyHandle_of_keeps fun _ => ⟨rfl, rfl, fun _ => rfl⟩, h.alive, ?_, ?_⟩
  · exact live_modifyHandle (fun _ => rfl) h.live
  · intro j hmarked
    by_cases hne : i = j
    · subst hne
      exact .inl hlisted
    · obtain ⟨handle', hhandle', hpublished⟩ := hmarked
      rw [handle_modifyHandle_of_ne hne] at hhandle'
      exact h.listed j ⟨handle', hhandle', hpublished⟩

/-- A change that does not set the mark, of a track without a publication. -/
theorem modifyHandle (h : Backed pending room) (hnot : ¬ room.Listed i) {f : Handle → Handle}
    (hf : ∀ handle, (f handle).destroyed = handle.destroyed ∧
      ((f handle).published = true → handle.published = true)) :
    Backed pending (room.modifyHandle i f) := by
  refine ⟨h.toInv.modifyHandle_of_not_listed hnot f, h.alive, ?_, ?_⟩
  · exact live_modifyHandle (fun handle => (hf handle).1) h.live
  · rintro j ⟨handle', hhandle', hpublished⟩
    obtain ⟨old, hold, rfl⟩ := getElem?_modify_eq_some.mp hhandle'
    apply h.listed j
    refine ⟨old, hold, ?_⟩
    split at hpublished
    · exact (hf old).2 hpublished
    · exact hpublished

theorem detach (h : Backed pending room) :
    Backed pending (room.modifyHandle i fun handle => { handle with transceiver := false }) := by
  refine ⟨h.toInv.detach i, h.alive, live_modifyHandle (fun _ => rfl) h.live, ?_⟩
  rintro j ⟨handle', hhandle', hpublished⟩
  obtain ⟨old, hold, rfl⟩ := getElem?_modify_eq_some.mp hhandle'
  apply h.listed j
  refine ⟨old, hold, ?_⟩
  split at hpublished <;> exact hpublished

/-- A publish that the server does not accept. -/
theorem publishTrack_of_not_published (h : Backed pending room) (hnot : ¬ room.Listed i)
    {answer : PublishAnswer} (hanswer : ∀ sid, answer ≠ .published sid) :
    Backed pending (room.publishTrack i answer).2 := by
  cases answer with
  | failed => exact h
  | published sid => exact absurd rfl (hanswer sid)
  | refused sid => exact h.modifyHandle hnot fun _ => ⟨rfl, id⟩
  | threw sid => exact h.modifyHandle hnot fun _ => ⟨rfl, id⟩

theorem dropPublication (h : Backed pending room) {sid : String}
    (hsid : room.trackPublications[sid]? = some i) :
    Backed pending (room.dropPublication i sid) := by
  refine ⟨h.toInv.dropPublication hsid, h.alive, ?_, ?_⟩
  · apply live_markLocalTrackPublished
    exact live_modifyHandle (i := i) (f := fun handle => { handle with transceiver := false })
      (fun _ => rfl) h.live
  · intro j hmarked
    by_cases hne : i = j
    · subst hne
      obtain ⟨handle', hhandle', hpublished⟩ := hmarked
      obtain ⟨mid, hmid, rfl⟩ := getElem?_modify_eq_some.mp hhandle'
      obtain ⟨old, hold, rfl⟩ := getElem?_modify_eq_some.mp hmid
      simp [h.live i old hold] at hpublished
    · obtain ⟨handle', hhandle', hpublished⟩ := hmarked
      rw [handle_dropPublication_of_ne hne] at hhandle'
      have hlisted : (room.dropPublication i sid).Listed j ↔ room.Listed j :=
        listed_forgetPublication hsid hne
      rw [hlisted]
      exact h.listed j ⟨handle', hhandle', hpublished⟩

/-- The track whose unpublish is unwound keeps the flag. -/
theorem lost_of_forgotten (h : Backed pending room) {sid : String}
    (hsid : room.trackPublications[sid]? = some i) : Lost (room.forgetPublication i sid) i := by
  obtain ⟨handle, hhandle, hlive, hpublished, -⟩ := h.entry sid i hsid
  refine ⟨_, getElem?_modify_of_some _ hhandle, ?_, ?_, ?_⟩
  · rw [if_pos rfl]
    exact hlive
  · rw [if_pos rfl]
    exact hpublished
  · exact (h.toInv.detach i).not_listed_erase hsid

/-- `UnpublishTrack` keeps the flags right unless it is unwound. -/
theorem unpublishTrack_cases (h : Backed pending room) (removal : Removal) :
    (∃ result after, room.unpublishTrack i removal = (.returned result, after) ∧
        Removes room i removal ∧ Backed pending after ∧
        (result = true → ¬ after.Listed i ∧ ∃ handle, after.handles[i]? = some handle)) ∨
      ∃ after, room.unpublishTrack i removal = (.unwound, after) ∧
        ¬ Removes room i removal ∧ Lost after i := by
  rcases room.unpublishTrack_cases i removal with
    ⟨heq, hremoves⟩ | ⟨sid, hsid, ⟨heq, hnot⟩ | ⟨heq, rfl, hreaches⟩⟩
  · exact .inl ⟨false, room, heq, hremoves, h, fun htrue => Bool.noConfusion htrue⟩
  · refine .inl ⟨true, _, heq, fun hthrew => absurd hthrew hnot, h.dropPublication hsid, ?_⟩
    intro _
    obtain ⟨old, hold, -⟩ := h.entry sid i hsid
    exact ⟨h.toInv.not_listed_erase hsid, _,
      getElem?_modify_of_some _ (getElem?_modify_of_some _ hold)⟩
  · exact .inr ⟨_, heq, fun hremoves => hremoves rfl hreaches, h.lost_of_forgotten hsid⟩

end Backed

/-- The track whose sid the server gives away keeps the flag. -/
theorem Backed.lost_of_taken {pending : List Nat} (h : Backed pending room) {sid : String}
    (hsid : room.trackPublications[sid]? = some j) (hne : i ≠ j) :
    Lost (room.publishTrack i (.published sid)).2 j := by
  obtain ⟨handle, hhandle, hlive, hpublished, -⟩ := h.entry sid j hsid
  refine ⟨handle, ?_, hlive, hpublished, ?_⟩
  · rw [handle_publishTrack_of_ne hne, hhandle]
  · rintro ⟨other, hother⟩
    simp only [Room.publishTrack, Room.modifyHandle, Room.markLocalTrackPublished,
      ExtTreeMap.getElem?_insert, LawfulEqOrd.compare_eq_iff_eq] at hother
    split at hother
    · cases hother
      exact hne rfl
    · rename_i hdiff
      exact hdiff (h.toInv.unique hsid hother)

/-- A track that is not published again keeps the flag. -/
theorem Lost.publishTrack_self (h : Lost room i) {answer : PublishAnswer}
    (hanswer : ∀ sid, answer ≠ .published sid) : Lost (room.publishTrack i answer).2 i := by
  cases answer with
  | failed => exact h
  | published sid => exact absurd rfl (hanswer sid)
  | refused sid => exact h.modifyHandle fun _ => ⟨rfl, id⟩
  | threw sid => exact h.modifyHandle fun _ => ⟨rfl, id⟩

/-! ### All tracks -/

theorem Lost.publishTracks (h : Lost room j) {tracks : List Nat} (hnot : j ∉ tracks)
    (answers : List PublishAnswer) : Lost (room.publishTracks tracks answers).2 j := by
  induction tracks generalizing room answers with
  | nil => exact h
  | cons i rest ih =>
    rw [List.mem_cons, not_or] at hnot
    have hpublished := h.publishTrack (Ne.symm hnot.1) (answers.headD .failed)
    rw [publishTracks_cons]
    split
    · exact hpublished
    · exact ih hpublished hnot.2 _

theorem Lost.republishTracks (h : Lost room j) (tracks : List Nat)
    (answers : List (Removal × PublishAnswer)) :
    Lost (republishTracks room tracks answers).2 j := by
  induction tracks generalizing room answers with
  | nil => exact h
  | cons i rest ih =>
    obtain ⟨hlost, hne⟩ := h.unpublishTrack (i := i) (answers.headD (.refused, .failed)).1
    rw [PublishedFlags.republishTracks]
    dsimp only
    rcases hunpublish : room.unpublishTrack i (answers.headD (.refused, .failed)).1 with
      ⟨⟨_ | _⟩ | _, after⟩
    · rw [hunpublish] at hlost
      exact ih hlost _
    · rw [hunpublish] at hlost hne
      have hpublished := hlost.publishTrack (hne rfl) (answers.headD (.refused, .failed)).2
      dsimp only at hpublished ⊢
      rcases hpublish : after.publishTrack i (answers.headD (.refused, .failed)).2 with
        ⟨_ | _, published⟩
      · rw [hpublish] at hpublished
        exact ih hpublished _
      · rw [hpublish] at hpublished
        exact hpublished
    · rw [hunpublish] at hlost
      exact hlost

/-- The second loop of `RepublishAllTracksAfterReconnect`: either every track gets its
    publication back, or a flag stays without one. -/
theorem publishTracks_cases {tracks : List Nat} (h : Backed tracks room) (hnodup : tracks.Nodup)
    (hnot : ∀ j ∈ tracks, ¬ room.Listed j) (hmarked : ∀ j ∈ tracks, Marked room j)
    {taken : List String} (htaken : ∀ sid, sid ∈ taken ↔ ∃ j, room.trackPublications[sid]? = some j)
    (answers : List PublishAnswer) :
    (Granted taken tracks.length answers ∧ Backed [] (room.publishTracks tracks answers).2) ∨
      (¬ Granted taken tracks.length answers ∧
        ∃ j, Lost (room.publishTracks tracks answers).2 j) := by
  induction tracks generalizing room taken answers with
  | nil => exact .inl ⟨trivial, h⟩
  | cons i rest ih =>
    obtain ⟨hi, hrest⟩ := List.nodup_cons.mp hnodup
    obtain ⟨handle, hhandle, hpublished⟩ := hmarked i List.mem_cons_self
    have hnoti := hnot i List.mem_cons_self
    have hlost : Lost room i := ⟨handle, hhandle, h.live i handle hhandle, hpublished, hnoti⟩
    rw [publishTracks_cons, List.length_cons, Granted]
    by_cases hanswer : ∃ sid, answers.headD .failed = .published sid ∧ sid ∉ taken
    · obtain ⟨sid, hsid, hfresh⟩ := hanswer
      have hnone : room.trackPublications[sid]? = none := by
        rw [Option.eq_none_iff_forall_ne_some]
        intro j hj
        exact hfresh ((htaken sid).mpr ⟨j, hj⟩)
      have hgranted : (∃ sid, answers.headD .failed = .published sid ∧ sid ∉ taken ∧
          Granted (sid :: taken) rest.length answers.tail) ↔
            Granted (sid :: taken) rest.length answers.tail := by
        constructor
        · rintro ⟨other, hother, -, hgranted⟩
          rw [hsid] at hother
          cases hother
          exact hgranted
        · intro hgranted
          exact ⟨sid, hsid, hfresh, hgranted⟩
      have hreturned : (room.publishTrack i (.published sid)).1 ≠ .unwound := by
        intro hunwound
        cases hunwound
      rw [hgranted, hsid, if_neg hreturned]
      apply ih (h.publishTrack hhandle hnoti hnone) hrest
      · intro j hj hlisted
        have hne : j ≠ i := by
          rintro rfl
          exact hi hj
        exact hnot j (List.mem_cons_of_mem _ hj) (listed_publishTrack hne hlisted)
      · intro j hj
        have hne : i ≠ j := by
          rintro rfl
          exact hi hj
        rw [Marked, handle_publishTrack_of_ne hne]
        exact hmarked j (List.mem_cons_of_mem _ hj)
      · intro other
        simp only [Room.publishTrack, Room.modifyHandle, Room.markLocalTrackPublished,
          ExtTreeMap.getElem?_insert, LawfulEqOrd.compare_eq_iff_eq, List.mem_cons]
        by_cases heq : sid = other
        · simp [heq]
        · rw [if_neg heq, htaken other]
          simp [Ne.symm heq]
    · right
      constructor
      · rintro ⟨sid, hsid, hfresh, -⟩
        exact hanswer ⟨sid, hsid, hfresh⟩
      · by_cases hsid : ∃ sid, answers.headD .failed = .published sid
        · obtain ⟨sid, hsid⟩ := hsid
          have hmem : sid ∈ taken := by
            by_contra hfresh
            exact hanswer ⟨sid, hsid, hfresh⟩
          obtain ⟨j, hj⟩ := (htaken sid).mp hmem
          have hlisted : room.Listed j := ⟨sid, hj⟩
          have hne : i ≠ j := by
            rintro rfl
            exact hnoti hlisted
          refine ⟨j, ?_⟩
          rw [hsid, if_neg (by exact fun hunwound => by cases hunwound)]
          apply (h.lost_of_taken hj hne).publishTracks
          intro hmemj
          exact hnot j (List.mem_cons_of_mem _ hmemj) hlisted
        · have hkept : Lost (room.publishTrack i (answers.headD .failed)).2 i :=
            hlost.publishTrack_self fun sid heq => hsid ⟨sid, heq⟩
          refine ⟨i, ?_⟩
          split
          · exact hkept
          · exact hkept.publishTracks hi _

/-- The loop of `RepublishAllTracks`. -/
theorem republishTracks_cases (h : Backed [] room) (tracks : List Nat)
    (answers : List (Removal × PublishAnswer)) :
    (FreshAnswers room tracks answers ∧ Backed [] (republishTracks room tracks answers).2) ∨
      (¬ FreshAnswers room tracks answers ∧
        ∃ j, Lost (republishTracks room tracks answers).2 j) := by
  induction tracks generalizing room answers with
  | nil => exact .inl ⟨trivial, h⟩
  | cons i rest ih =>
    rw [PublishedFlags.republishTracks, FreshAnswers]
    dsimp only
    rcases h.unpublishTrack_cases (i := i) (answers.headD (.refused, .failed)).1 with
      ⟨result, after, heq, hremoves, hafter, hfree⟩ | ⟨after, heq, hnot, hlost⟩
    · rw [heq, and_iff_right hremoves]
      cases result with
      | false => exact ih hafter _
      | true =>
        obtain ⟨hnot, handle, hhandle⟩ := hfree rfl
        dsimp only
        by_cases hfresh : Fresh after (answers.headD (.refused, .failed)).2
        · rw [and_iff_right hfresh]
          have hpublished :
              Backed [] (after.publishTrack i (answers.headD (.refused, .failed)).2).2 := by
            by_cases hsid : ∃ sid, (answers.headD (.refused, .failed)).2 = .published sid
            · obtain ⟨sid, hsid⟩ := hsid
              rw [hsid]
              exact hafter.weaken.publishTrack hhandle hnot (hfresh sid hsid)
            · exact hafter.publishTrack_of_not_published hnot fun sid heq => hsid ⟨sid, heq⟩
          rcases hpublish : after.publishTrack i (answers.headD (.refused, .failed)).2 with
            ⟨_ | _, published⟩
          · rw [hpublish] at hpublished
            exact ih hpublished _
          · rw [hpublish] at hpublished
            exact .inl ⟨trivial, hpublished⟩
        · right
          constructor
          · exact fun hall => hfresh hall.1
          · simp only [Fresh, not_forall] at hfresh
            obtain ⟨sid, hsid, htaken⟩ := hfresh
            obtain ⟨j, hj⟩ := Option.ne_none_iff_exists'.mp htaken
            have hne : i ≠ j := by
              rintro rfl
              exact hnot ⟨sid, hj⟩
            refine ⟨j, ?_⟩
            rw [hsid]
            exact (hafter.lost_of_taken hj hne).republishTracks _ _
    · rw [heq]
      exact .inr ⟨fun hall => hnot hall.1, i, hlost⟩

end Flags

/-! ## 3. Steps -/

section Steps

variable {room : Room}

theorem Backed.createTrack (h : Backed [] room) : Backed [] room.createTrack := by
  refine ⟨h.toInv.createTrack, h.alive, ?_, ?_⟩
  · intro i handle hhandle
    rcases getElem?_append_singleton_eq_some.mp hhandle with hold | ⟨-, rfl⟩
    · exact h.live i handle hold
    · rfl
  · rintro i ⟨handle, hhandle, hpublished⟩
    rcases getElem?_append_singleton_eq_some.mp hhandle with hold | ⟨-, rfl⟩
    · exact h.listed i ⟨handle, hold, hpublished⟩
    · cases hpublished

/-- A publish of the C API keeps the flags right if and only if the sid is not taken. -/
theorem Backed.localTrackPublish_cases (h : Backed [] room) (i : Nat) (answer : PublishAnswer) :
    (Truthful room (.localTrackPublish i answer) ∧
        Backed [] (room.localTrackPublish i answer).2) ∨
      (¬ Truthful room (.localTrackPublish i answer) ∧
        ∃ j, Lost (room.localTrackPublish i answer).2 j) := by
  rw [Truthful, Room.localTrackPublish]
  cases hhandle : room.handles[i]? with
  | none =>
    refine .inl ⟨?_, h⟩
    rintro ⟨handle, hsome, -⟩
    cases hsome
  | some handle =>
    dsimp only
    by_cases hpublished : handle.published = true
    · rw [if_pos hpublished]
      refine .inl ⟨?_, h⟩
      rintro ⟨handle', hhandle', hfree⟩
      cases hhandle'
      rw [hpublished] at hfree
      cases hfree
    · rw [if_neg hpublished]
      have hfree : ∃ handle', some handle = some handle' ∧ handle'.published = false :=
        ⟨handle, rfl, Bool.not_eq_true _ ▸ hpublished⟩
      have hnot : ¬ room.Listed i := by
        intro hlisted
        obtain ⟨handle', hhandle', hmark⟩ := marked_of_listed h.toInv hlisted
        rw [hhandle] at hhandle'
        cases hhandle'
        exact hpublished hmark
      cases answer with
      | failed =>
        exact .inl ⟨fun _ _ heq => PublishAnswer.noConfusion heq, h⟩
      | refused sid | threw sid =>
        left
        constructor
        · intro _ other heq
          cases heq
        · dsimp only [Room.publishTrack]
          exact h.modifyHandle hnot fun _ => ⟨rfl, id⟩
      | published sid =>
        dsimp only [Room.publishTrack]
        cases hsid : room.trackPublications[sid]? with
        | none =>
          left
          constructor
          · intro _ other heq
            cases heq
            exact hsid
          · exact (h.weaken.publishTrack hhandle hnot hsid).mark (listed_publishTrack_self sid)
        | some j =>
          right
          constructor
          · intro htruthful
            have hnone := htruthful hfree sid rfl
            rw [hsid] at hnone
            cases hnone
          · have hne : i ≠ j := by
              rintro rfl
              exact hnot ⟨sid, hsid⟩
            exact ⟨j, (h.lost_of_taken hsid hne).modifyHandle fun _ => ⟨rfl, fun _ => rfl⟩⟩

theorem Backed.localTrackUnpublish_cases (h : Backed [] room) (i : Nat) (removal : Removal) :
    (Removes room i removal ∧ Backed [] (room.localTrackUnpublish i removal).2) ∨
      (¬ Removes room i removal ∧ ∃ j, Lost (room.localTrackUnpublish i removal).2 j) := by
  have hcases := h.unpublishTrack_cases (i := i) removal
  rw [Room.localTrackUnpublish]
  cases hhandle : room.handles[i]? with
  | none =>
    refine .inl ⟨?_, h⟩
    rintro - ⟨handle, hsome, -⟩
    rw [hhandle] at hsome
    cases hsome
  | some handle =>
    dsimp only
    by_cases hpublished : handle.published = true
    · rw [if_neg (by simp [hpublished])]
      rcases hcases with ⟨result, after, heq, hremoves, hafter, hfree⟩ | ⟨after, heq, hnot, hlost⟩
      · rw [heq]
        cases result with
        | false => exact .inl ⟨hremoves, hafter⟩
        | true =>
          refine .inl ⟨hremoves, hafter.modifyHandle (hfree rfl).1 ?_⟩
          intro handle
          exact ⟨rfl, fun hfalse => Bool.noConfusion hfalse⟩
      · rw [heq]
        exact .inr ⟨hnot, i, hlost⟩
    · -- a track without the mark has no publication
      rw [if_pos (by simp [hpublished])]
      refine .inl ⟨?_, h⟩
      rintro - ⟨_, -, -, -, hlisted⟩
      obtain ⟨handle', hhandle', hmark⟩ := marked_of_listed h.toInv ⟨_, hlisted⟩
      rw [hhandle] at hhandle'
      cases hhandle'
      exact hpublished hmark

theorem Backed.localTrackUnpublishedEvent_cases (h : Backed [] room) (sid : String)
    (removal : Removal) :
    (Truthful room (.localTrackUnpublishedEvent sid removal) ∧
        Backed [] (room.localTrackUnpublishedEvent sid removal)) ∨
      (¬ Truthful room (.localTrackUnpublishedEvent sid removal) ∧
        ∃ j, Lost (room.localTrackUnpublishedEvent sid removal) j) := by
  rw [Truthful, Room.localTrackUnpublishedEvent]
  cases hi : room.trackPublications[sid]? with
  | none =>
    refine .inl ⟨?_, h⟩
    intro _ hsome
    cases hsome
  | some i =>
    dsimp only
    have honly : (∀ j, some i = some j → Removes room j removal) ↔ Removes room i removal := by
      simp
    rw [honly]
    rcases room.unpublishTrack_cases i removal with
      ⟨heq, hremoves⟩ | ⟨other, hother, ⟨heq, hnot⟩ | ⟨heq, rfl, hreaches⟩⟩
    · rw [heq]
      exact .inl ⟨hremoves, h.dropPublication hi⟩
    · rw [heq]
      exact .inl ⟨fun hthrew => absurd hthrew hnot, h.dropPublication hother⟩
    · rw [heq]
      exact .inr ⟨fun hremoves => hremoves rfl hreaches, i, h.lost_of_forgotten hother⟩

theorem Backed.roomRepublishAllTracks_cases (h : Backed [] room)
    (answers : List (Removal × PublishAnswer)) :
    (Truthful room (.roomRepublishAllTracks answers) ∧
        Backed [] (roomRepublishAllTracks room answers).2) ∨
      (¬ Truthful room (.roomRepublishAllTracks answers) ∧
        ∃ j, Lost (roomRepublishAllTracks room answers).2 j) := by
  have hcases := republishTracks_cases h (tracks room) answers
  have hsame : (roomRepublishAllTracks room answers).2 =
      (republishTracks room (tracks room) answers).2 := by
    rw [roomRepublishAllTracks]
    rcases republishTracks room (tracks room) answers with ⟨⟨_ | _⟩ | _, after⟩
    · rfl
    · rfl
    · rfl
  rw [Truthful, hsame]
  exact hcases

theorem Backed.detachTrackTransceiversForReconnect (h : Backed [] room) :
    Backed [] room.detachTrackTransceiversForReconnect := by
  unfold Room.detachTrackTransceiversForReconnect
  generalize room.trackPublications.toList = entries
  induction entries generalizing room with
  | nil => exact h
  | cons entry entries ih => exact ih h.detach

theorem Backed.reconnectingEvent (h : Backed [] room) (fullReconnect : Bool) :
    Backed [] (room.reconnectingEvent fullReconnect) := by
  have hdetached : Backed [] (if fullReconnect && !room.fullReconnectPrepared then
      { room.detachTrackTransceiversForReconnect with fullReconnectPrepared := true }
      else room) := by
    split
    · exact h.detachTrackTransceiversForReconnect.of_same rfl rfl rfl
    · exact h
  unfold Room.reconnectingEvent
  dsimp only
  generalize (if fullReconnect && !room.fullReconnectPrepared then
    { room.detachTrackTransceiversForReconnect with fullReconnectPrepared := true }
    else room) = detached at hdetached
  split
  · exact hdetached.of_same rfl rfl rfl
  · exact hdetached

/-- After a full reconnect every listed track is published again, or one of them keeps its
    flag without a publication. -/
theorem Backed.republishAllTracksAfterReconnect_cases (h : Backed [] room)
    (answers : List PublishAnswer) :
    (Granted [] (tracks room).length answers ∧
        Backed [] (room.republishAllTracksAfterReconnect answers).2) ∨
      (¬ Granted [] (tracks room).length answers ∧
        ∃ j, Lost (room.republishAllTracksAfterReconnect answers).2 j) := by
  have hempty : ∀ sid : String, ((room.trackPublications.toList.map Prod.fst).foldl
      ExtTreeMap.erase room.trackPublications)[sid]? = none := erase_snapshot _
  have hlisted : ∀ j, j ∈ tracks room ↔ room.Listed j := by
    intro j
    rw [tracks, List.mem_map]
    constructor
    · rintro ⟨⟨sid, i⟩, hmem, rfl⟩
      exact ⟨sid, ExtTreeMap.mem_toList_iff_getElem?_eq_some.mp hmem⟩
    · rintro ⟨sid, hsid⟩
      exact ⟨(sid, j), ExtTreeMap.mem_toList_iff_getElem?_eq_some.mpr hsid, rfl⟩
  rw [Room.republishAllTracksAfterReconnect]
  apply publishTracks_cases
  · refine ⟨⟨?_, ?_⟩, h.alive, h.live, ?_⟩
    · intro sid i hi
      rw [hempty] at hi
      cases hi
    · exact fun hgone => Bool.noConfusion (h.alive.symm.trans hgone)
    · intro j hmarked
      right
      rcases h.listed j hmarked with hj | hnil
      · exact (hlisted j).mpr hj
      · cases hnil
  · exact h.toInv.nodup_tracks
  · rintro j - ⟨sid, hsid⟩
    rw [hempty] at hsid
    cases hsid
  · intro j hj
    have hmarked := marked_of_listed h.toInv ((hlisted j).mp hj)
    exact hmarked
  · intro sid
    constructor
    · intro hnil
      cases hnil
    · rintro ⟨j, hj⟩
      rw [hempty] at hj
      cases hj

theorem Backed.reconnectedEvent_cases (h : Backed [] room) (hasRoom : Bool)
    (answers : List PublishAnswer) :
    (Truthful room (.reconnectedEvent hasRoom answers) ∧
        Backed [] (room.reconnectedEvent hasRoom answers)) ∨
      (¬ Truthful room (.reconnectedEvent hasRoom answers) ∧
        ∃ j, Lost (room.reconnectedEvent hasRoom answers) j) := by
  rw [Truthful, Room.reconnectedEvent]
  by_cases hmoves : room.state = .reconnecting ∧ hasRoom = true
  · obtain ⟨hstate, hroom⟩ := hmoves
    rw [if_neg (by simp [hstate, hroom])]
    have hcases := h.republishAllTracksAfterReconnect_cases answers
    rcases hrepublish : room.republishAllTracksAfterReconnect answers with ⟨_ | _, after⟩
    · rw [hrepublish] at hcases
      rcases hcases with ⟨hgranted, hafter⟩ | ⟨hnot, j, hlost⟩
      · exact .inl ⟨fun _ _ => hgranted, hafter.of_same rfl rfl rfl⟩
      · exact .inr ⟨fun hall => hnot (hall hstate hroom), j, hlost⟩
    · rw [hrepublish] at hcases
      rcases hcases with ⟨hgranted, hafter⟩ | ⟨hnot, j, hlost⟩
      · exact .inl ⟨fun _ _ => hgranted, hafter⟩
      · exact .inr ⟨fun hall => hnot (hall hstate hroom), j, hlost⟩
  · rw [if_pos]
    · exact .inl ⟨fun hstate hroom => absurd ⟨hstate, hroom⟩ hmoves, h⟩
    · by_contra hnot
      apply hmoves
      simpa using hnot

/-- A step keeps every flag right, or it leaves one without a publication. -/
theorem Backed.step_cases (h : Backed [] room) (act : Act) :
    (Truthful room act ∧ Backed [] (step room act)) ∨
      (¬ Truthful room act ∧ ∃ j, Lost (step room act) j) := by
  cases act with
  | createTrack => exact .inl ⟨trivial, h.createTrack⟩
  | localTrackPublish i answer => exact h.localTrackPublish_cases i answer
  | localTrackUnpublish i removal => exact h.localTrackUnpublish_cases i removal
  | roomRepublishAllTracks answers => exact h.roomRepublishAllTracks_cases answers
  | roomConnect hasRoom =>
    refine .inl ⟨trivial, ?_⟩
    rw [step, Room.roomConnect]
    split
    · exact h
    · dsimp only
      split <;> exact h.of_same rfl rfl rfl
  | roomDisconnect =>
    refine .inl ⟨trivial, ?_⟩
    rw [step, Room.roomDisconnect]
    split
    · exact h
    · dsimp only [Room.notifyDisconnectedOnce]
      split <;> exact h.of_same rfl rfl rfl
  | connectedEvent => exact .inl ⟨trivial, h.of_same rfl rfl rfl⟩
  | reconnectingEvent fullReconnect => exact .inl ⟨trivial, h.reconnectingEvent fullReconnect⟩
  | resumedEvent =>
    refine .inl ⟨trivial, ?_⟩
    rw [step, Room.resumedEvent]
    split
    · exact h.of_same rfl rfl rfl
    · exact h
  | reconnectedEvent hasRoom answers => exact h.reconnectedEvent_cases hasRoom answers
  | signalDisconnectedEvent =>
    refine .inl ⟨trivial, ?_⟩
    rw [step, Room.signalDisconnectedEvent]
    split
    · exact h
    · rw [Room.notifyDisconnectedOnce]
      split <;> exact h.of_same rfl rfl rfl
  | localTrackUnpublishedEvent sid removal => exact h.localTrackUnpublishedEvent_cases sid removal

end Steps

/-! ## 4. Runs -/

end LivekitClient.PublishedFlags
