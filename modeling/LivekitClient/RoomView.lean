/-
  LivekitClient/RoomView.lean
  ===========================
  **What a listener makes of the room's events** (`src/core/room.cpp`:
  `ApplyParticipantUpdates`, `MediaTrackEvent`, `MediaTrackRemovedEvent`,
  `ReconnectedEvent`).

  An application that keeps its own list of the remote participants, of their
  publications and of the subscribed tracks follows the listener's calls.  Its list is
  a `View`; a call that does not fit what the list holds has it fail.

  `ApplyParticipantUpdates` collects the changes of a batch by kind and calls the
  listener kind by kind, so the calls stand in another order than the changes.  A
  batch that names no participant twice has the changes of one participant
  come from one snapshot, and these are in an order that the list can follow
  (`follow_applyInfo`); the participants are cells of their own (`KeyedFold`).
-/
import Mathlib.Tactic.Common
import LivekitClient.KeyedFold
import LivekitClient.Runs
import LivekitClient.RoomStore

namespace LivekitClient.RoomView

open Std KeyedFold LivekitClient.RoomStore

/-! ## 1. The view -/

inductive PublicationChange where
  | published (muted : Bool)
  | unpublished
  | muted (muted : Bool)
deriving DecidableEq

inductive Change where
  | connected
  | disconnected
  | publication (sid : String) (change : PublicationChange)
deriving DecidableEq

/-- What a call says about participants and publications, and whom it is about. -/
def participantChange? : RoomEvent → Option (Subject × Change)
  | .participantConnected participant => some (.remote participant, .connected)
  | .participantDisconnected participant => some (.remote participant, .disconnected)
  | .trackPublished publication participant muted =>
    some (.remote participant, .publication publication (.published muted))
  | .trackUnpublished publication participant =>
    some (.remote participant, .publication publication .unpublished)
  | .trackMuted publication participant =>
    some (participant, .publication publication (.muted true))
  | .trackUnmuted publication participant =>
    some (participant, .publication publication (.muted false))
  | _ => none

/-- The publications of a participant, each with its mute flag. -/
abbrev Publications := String → Option Bool

/-- The remote participants. -/
abbrev View := String → Option Publications

def applyToPublication : Option Bool → PublicationChange → Option (Option Bool)
  | none, .published muted => some (some muted)
  | some _, .unpublished => some none
  | some _, .muted muted => some (some muted)
  | _, _ => none

def applyToParticipant : Option Publications → Change → Option (Option Publications)
  | none, .connected => some (some fun _ => none)
  | some _, .disconnected => some none
  | some publications, .publication sid change =>
    (applyAt applyToPublication publications (sid, change)).map some
  | _, _ => none

/-- A change is refused if the view does not hold what it is about, or already holds
    what it brings.  The local participant is not in the view. -/
def View.apply (view : View) : Subject × Change → Option View
  | (.localParticipant, _) => none
  | (.remote participant, change) => applyAt applyToParticipant view (participant, change)

def View.follow (view : View) (events : List RoomEvent) : Option View :=
  (events.filterMap participantChange?).foldlM View.apply view

def aboutLocal (event : RoomEvent) : Bool :=
  (participantChange? event).any fun change => change.1 == .localParticipant

/-- The view that the room would give. -/
def cellOf (held : Option RemoteParticipant) : Option Publications :=
  held.map fun participant sid => participant.trackPublications[sid]?.map (·.info.muted)

def viewOf (room : Room) : View := fun sid => cellOf (room.remoteParticipants.get? sid)

/-! ## 2. The calls about one participant -/

/-- What a call says about a remote participant. -/
def remoteChange? (event : RoomEvent) : Option (String × Change) :=
  match participantChange? event with
  | some (.remote participant, change) => some (participant, change)
  | _ => none

theorem follow_filter_not_aboutLocal (view : View) (events : List RoomEvent) :
    view.follow (events.filter fun event => !aboutLocal event) =
      (events.filterMap remoteChange?).foldlM (applyAt applyToParticipant) view := by
  induction events generalizing view with
  | nil => rfl
  | cons event rest ih =>
    simp only [View.follow] at ih ⊢
    cases hchange : participantChange? event with
    | none =>
      have hlocal : aboutLocal event = false := by simp [aboutLocal, hchange]
      have hremote : remoteChange? event = none := by simp [remoteChange?, hchange]
      rw [List.filter_cons_of_pos (by simp [hlocal]),
        List.filterMap_cons_none hchange, List.filterMap_cons_none hremote]
      exact ih view
    | some change =>
      obtain ⟨subject, change⟩ := change
      cases subject with
      | localParticipant =>
        have hlocal : aboutLocal event = true := by simp [aboutLocal, hchange]
        have hremote : remoteChange? event = none := by simp [remoteChange?, hchange]
        rw [List.filter_cons_of_neg (by simp [hlocal]), List.filterMap_cons_none hremote]
        exact ih view
      | remote participant =>
        have hlocal : aboutLocal event = false := by simp [aboutLocal, hchange]
        have hremote : remoteChange? event = some (participant, change) := by
          simp [remoteChange?, hchange]
        rw [List.filter_cons_of_pos (by simp [hlocal]),
          List.filterMap_cons_some hchange, List.filterMap_cons_some hremote, List.foldlM_cons,
          List.foldlM_cons]
        exact congrArg _ (funext ih)

/-- What a call says about this participant. -/
def changeOf? (participant : String) (event : RoomEvent) : Option Change :=
  (remoteChange? event).bind fun change =>
    if change.1 = participant then some change.2 else none

theorem changesOf_filterMap_remoteChange? (participant : String) (events : List RoomEvent) :
    changesOf participant (events.filterMap remoteChange?) =
      events.filterMap (changeOf? participant) := by
  rw [changesOf, List.filterMap_filterMap]
  rfl

/-- The changes collected that are about one participant. -/
def about (participant : String) (changes : Changes) : Changes where
  connected := changes.connected.filter (· = participant)
  disconnected := changes.disconnected.filter (· = participant)
  published := changes.published.filter (·.2 = participant)
  unpublished := changes.unpublished.filter (·.2 = participant)
  muteChanged := changes.muteChanged.filter (·.participant = .remote participant)

theorem filterMap_ite {α β : Type} (p : α → Prop) [DecidablePred p] (f : α → β) (l : List α) :
    (l.filterMap fun a => if p a then some (f a) else none) =
      (l.filter fun a => decide (p a)).map f := by
  induction l with
  | nil => rfl
  | cons a rest ih =>
    by_cases hp : p a
    · simp [hp, ih]
    · simp [hp, ih]

/-- What a batch's calls say about one participant, in their order. -/
def calls (participant : String) (changes : Changes) (room : Room) : List Change :=
  (about participant changes).connected.map (fun _ => Change.connected) ++
    (about participant changes).published.map (fun event =>
      Change.publication event.1 (.published (room.isMuted event.1 event.2))) ++
    (about participant changes).muteChanged.map (fun event =>
      Change.publication event.publication (.muted event.muted)) ++
    (about participant changes).unpublished.map (fun event =>
      Change.publication event.1 .unpublished) ++
    (about participant changes).disconnected.map (fun _ => Change.disconnected)

theorem changeOf?_muteEvent (participant : String) (event : MuteEvent) :
    changeOf? participant event.event =
      if event.participant = .remote participant then
        some (.publication event.publication (.muted event.muted))
      else none := by
  obtain ⟨publication, subject, muted⟩ := event
  cases subject <;> cases muted <;>
    simp [changeOf?, remoteChange?, participantChange?, MuteEvent.event]

theorem changeOf?_unsubscription (participant : String) (event : UnsubscriptionEvent) :
    event.events.filterMap (changeOf? participant) = [] := by
  rw [UnsubscriptionEvent.events]
  split <;> rfl

section Calls

variable {α β : Type} {f : RoomEvent → Option β}

/-- What a listener makes of the calls of a batch, kind by kind. -/
theorem filterMap_events {room : Room} (hlistener : room.hasListener = true)
    (hdetached : ∀ track, f (.receiverDetached track) = none) (changes : Changes) :
    (changes.events room).filterMap f =
      ((changes.listenerEvents room).map fun events => events.filterMap f).flatten := by
  rw [Changes.events, List.filterMap_append, if_pos hlistener, List.filterMap_flatten]
  have hcryptors : (if room.hasE2ee then changes.removedCryptors.map RoomEvent.receiverDetached
      else []).filterMap f = [] := by
    split
    · rw [List.filterMap_map, List.filterMap_eq_nil_iff]
      exact fun track _ => hdetached track
    · rfl
  rw [hcryptors, List.nil_append]

theorem filterMap_map_eq_nil {g : α → RoomEvent} (hnone : ∀ a, f (g a) = none) (l : List α) :
    (l.map g).filterMap f = [] := by
  rw [List.filterMap_map, List.filterMap_eq_nil_iff]
  exact fun a _ => hnone a

theorem filterMap_map_eq {g : α → RoomEvent} {p : α → Prop} [DecidablePred p] {h : α → β}
    (heq : ∀ a, f (g a) = if p a then some (h a) else none) (l : List α) :
    (l.map g).filterMap f = (l.filter fun a => decide (p a)).map h := by
  rw [List.filterMap_map, ← filterMap_ite]
  exact congrArg (fun k => l.filterMap k) (funext heq)

end Calls

theorem filterMap_changeOf?_events {room : Room} (hlistener : room.hasListener = true)
    (participant : String) (changes : Changes) :
    (changes.events room).filterMap (changeOf? participant) = calls participant changes room := by
  have hunsubscribed : (changes.unsubscribed.flatMap UnsubscriptionEvent.events).filterMap
      (changeOf? participant) = [] := by
    rw [List.filterMap_flatMap]
    simp [changeOf?_unsubscription]
  rw [filterMap_events hlistener fun _ => rfl, Changes.listenerEvents, calls]
  simp only [List.map_cons, List.map_nil, List.flatten_cons, List.flatten_nil, hunsubscribed,
    about]
  rw [filterMap_map_eq_nil (fun _ => rfl) changes.metadataChanged,
    filterMap_map_eq_nil (fun _ => rfl) changes.nameChanged,
    filterMap_map_eq_nil (fun _ => rfl) changes.attributesChanged,
    filterMap_map_eq_nil (fun _ => rfl) changes.permissionsChanged,
    filterMap_map_eq (fun _ => rfl) changes.connected,
    filterMap_map_eq (fun _ => rfl) changes.published,
    filterMap_map_eq (changeOf?_muteEvent participant) changes.muteChanged,
    filterMap_map_eq (fun _ => rfl) changes.unpublished,
    filterMap_map_eq (fun _ => rfl) changes.disconnected]
  simp only [List.nil_append, List.append_nil, List.append_assoc]

/-! ## 3. What a snapshot adds to them -/

theorem filter_map_prodMk {α : Type} (f : α → String) (sid participant : String) (l : List α) :
    (l.map fun a => (f a, sid)).filter (·.2 = participant) =
      if sid = participant then l.map fun a => (f a, sid) else [] := by
  by_cases heq : sid = participant
  · rw [if_pos heq, List.filter_eq_self]
    intro entry hmem
    obtain ⟨a, -, rfl⟩ := List.mem_map.mp hmem
    simpa using heq
  · rw [if_neg heq, List.filter_eq_nil_iff]
    intro entry hmem
    obtain ⟨a, -, rfl⟩ := List.mem_map.mp hmem
    simpa using heq

theorem filter_muteChanges {P : Type} (isMuted : P → Bool) (subject : Subject)
    (old new : ExtTreeMap String P) (participant : String) :
    (muteChanges isMuted subject old new).filter (·.participant = .remote participant) =
      if subject = .remote participant then muteChanges isMuted subject old new else [] := by
  have hsubject : ∀ event ∈ muteChanges isMuted subject old new, event.participant = subject := by
    intro event hmem
    rw [muteChanges] at hmem
    obtain ⟨⟨sid, publication⟩, -, hevent⟩ := List.mem_filterMap.mp hmem
    dsimp only at hevent
    split at hevent
    · cases hevent
    · split at hevent
      · cases hevent
      · cases hevent
        rfl
  by_cases heq : subject = .remote participant
  · rw [if_pos heq, List.filter_eq_self]
    intro event hmem
    simpa [hsubject event hmem] using heq
  · rw [if_neg heq, List.filter_eq_nil_iff]
    intro event hmem
    simpa [hsubject event hmem] using heq

/-- Apart from the unsubscribed tracks and the cryptors, publications go. -/
theorem changes_dropTracks (sid : String) (room : Room) (changes : Changes)
    (publications : List (String × RemoteTrackPublication)) :
    ∃ unsubscribed removedCryptors, (room.dropTracks true sid changes publications).2 =
      { changes with
        unsubscribed := unsubscribed
        removedCryptors := removedCryptors
        unpublished := changes.unpublished ++ publications.map fun entry => (entry.1, sid) } := by
  induction publications generalizing room changes with
  | nil => exact ⟨changes.unsubscribed, changes.removedCryptors, by simp [Room.dropTracks]⟩
  | cons publication rest ih =>
    rw [Room.dropTracks, List.foldl_cons, ← Room.dropTracks]
    obtain ⟨unsubscribed, removedCryptors, heq⟩ :=
      ih (room.dropTrack true sid changes publication.1 publication.2).1
        (room.dropTrack true sid changes publication.1 publication.2).2
    refine ⟨unsubscribed, removedCryptors, heq.trans ?_⟩
    simp [Room.dropTrack]

theorem filter_singleton_eq (sid participant : String) :
    [sid].filter (· = participant) = if sid = participant then [sid] else [] := by
  by_cases heq : sid = participant <;> simp [heq]

theorem about_updateLocal (participant : String) (room : Room) (changes : Changes)
    (info : ParticipantInfo) :
    about participant (room.updateLocal true changes info).2 = about participant changes := by
  simp [Room.updateLocal, about, Changes.addFields, filter_muteChanges]

theorem about_addParticipant (participant : String) (room : Room) (changes : Changes)
    (info : ParticipantInfo) :
    about participant (room.addParticipant true changes info).2 =
      { about participant changes with
        connected := (about participant changes).connected ++
          if info.sid = participant then [info.sid] else []
        published := (about participant changes).published ++
          if info.sid = participant then
            (RemoteParticipant.new info room.autoSubscribe).trackPublications.keys.map
              fun publication => (publication, info.sid)
          else [] } := by
  simp only [Room.addParticipant, if_true, about, List.filter_append, filter_singleton_eq]
  rw [filter_map_prodMk (fun publication => publication)]

theorem about_disconnectParticipant (participant : String) (room : Room) (changes : Changes)
    (held : RemoteParticipant) :
    about participant (room.disconnectParticipant true changes held).2 =
      { about participant changes with
        unpublished := (about participant changes).unpublished ++
          if held.info.sid = participant then
            held.trackPublications.toList.map fun entry => (entry.1, held.info.sid)
          else []
        disconnected := (about participant changes).disconnected ++
          if held.info.sid = participant then [held.info.sid] else [] } := by
  obtain ⟨unsubscribed, removedCryptors, heq⟩ :=
    changes_dropTracks held.info.sid room changes held.trackPublications.toList
  simp only [Room.disconnectParticipant, heq, about, List.filter_append, filter_map_prodMk,
    filter_singleton_eq, if_true]

theorem about_updateParticipant (participant : String) (room : Room) (changes : Changes)
    {held : RemoteParticipant} {info : ParticipantInfo} (hsid : held.info.sid = info.sid) :
    about participant (room.updateParticipant true changes held info).2 =
      { about participant changes with
        published := (about participant changes).published ++
          if info.sid = participant then
            ((held.updateFromInfo info).trackPublications.keys.filter fun publication =>
              !held.trackPublications.contains publication).map
                fun publication => (publication, info.sid)
          else []
        muteChanged := (about participant changes).muteChanged ++
          if Subject.remote info.sid = .remote participant then
            muteChanges (·.info.muted) (.remote info.sid) held.trackPublications
              (held.updateFromInfo info).trackPublications
          else []
        unpublished := (about participant changes).unpublished ++
          if info.sid = participant then
            (held.trackPublications.toList.filter fun entry =>
              !(held.updateFromInfo info).trackPublications.contains entry.1).map
                fun entry => (entry.1, info.sid)
          else [] } := by
  rw [Room.updateParticipant]
  simp only [Bool.not_true, Bool.false_eq_true, if_false, sid_updateFromInfo hsid]
  generalize hroom : ({ room with remoteParticipants := _ } : Room) = after
  generalize hlist : held.trackPublications.toList.filter _ = gone
  generalize hchanges : ({ changes.addFields _ _ _ with published := _, muteChanged := _ } : Changes)
    = collected
  obtain ⟨unsubscribed, removedCryptors, heq⟩ := changes_dropTracks info.sid after collected gone
  rw [heq, ← hchanges]
  simp only [about, List.filter_append, filter_map_prodMk, filter_muteChanges, Changes.addFields]

/-! ## 4. The publications of one participant -/

section Publications

variable {P : Type} {muted : P → Bool} {old new : ExtTreeMap String P}

theorem mem_muteChanges {subject : Subject} {event : MuteEvent} :
    event ∈ muteChanges muted subject old new ↔
      ∃ before now, old[event.publication]? = some before ∧ new[event.publication]? = some now ∧
        muted before ≠ muted now ∧ event = ⟨event.publication, subject, muted now⟩ := by
  rw [muteChanges, List.mem_filterMap]
  constructor
  · rintro ⟨⟨sid, now⟩, hmem, hevent⟩
    have hnow := ExtTreeMap.mem_toList_iff_getElem?_eq_some.mp hmem
    dsimp only at hevent
    split at hevent
    · cases hevent
    · rename_i before hbefore
      split at hevent
      · cases hevent
      · rename_i hne
        cases hevent
        exact ⟨before, now, hbefore, hnow, hne, rfl⟩
  · rintro ⟨before, now, hbefore, hnow, hne, hevent⟩
    refine ⟨(event.publication, now), ExtTreeMap.mem_toList_iff_getElem?_eq_some.mpr hnow, ?_⟩
    dsimp only
    rw [hbefore]
    dsimp only
    rw [if_neg hne, ← hevent]

theorem publication_of_muteChange {subject : Subject} {entry : String × P} {event : MuteEvent}
    (hevent : (match old[entry.1]? with
      | none => none
      | some before =>
        if muted before = muted entry.2 then none
        else some (⟨entry.1, subject, muted entry.2⟩ : MuteEvent)) = some event) :
    event.publication = entry.1 := by
  split at hevent
  · cases hevent
  · split at hevent
    · cases hevent
    · cases hevent
      rfl

theorem nodup_muteChanges (subject : Subject) :
    ((muteChanges muted subject old new).map (·.publication)).Nodup := by
  rw [muteChanges, List.Nodup, List.pairwise_map]
  refine List.Pairwise.filterMap _ ?_ ExtTreeMap.distinct_keys_toList
  intro first second hne event hevent other hother
  rw [publication_of_muteChange hevent, publication_of_muteChange hother]
  intro heq
  exact hne (LawfulEqOrd.compare_eq_iff_eq.mpr heq)

/-- The calls for the publications that come, that change and that go. -/
def publicationCalls (muted : P → Bool) (isMuted : String → Bool) (subject : Subject)
    (old new : ExtTreeMap String P) : List (String × PublicationChange) :=
  (new.keys.filter fun sid => !old.contains sid).map (fun sid =>
      (sid, PublicationChange.published (isMuted sid))) ++
    (muteChanges muted subject old new).map (fun event =>
      (event.publication, PublicationChange.muted event.muted)) ++
    (old.toList.filter fun entry => !new.contains entry.1).map fun entry =>
      (entry.1, PublicationChange.unpublished)

theorem mem_keys_published {sid : String} :
    sid ∈ new.keys.filter (fun sid => !old.contains sid) ↔ sid ∈ new ∧ sid ∉ old := by
  rw [List.mem_filter, ExtTreeMap.mem_keys]
  simp [← ExtTreeMap.contains_iff_mem]

theorem keys_publicationCalls (isMuted : String → Bool) (subject : Subject) :
    (publicationCalls muted isMuted subject old new).map (·.1) =
      new.keys.filter (fun sid => !old.contains sid) ++
        (muteChanges muted subject old new).map (·.publication) ++
        (old.toList.filter fun entry => !new.contains entry.1).map (·.1) := by
  simp only [publicationCalls, List.map_append, List.map_map]
  congr 2
  exact (List.map_congr_left fun _ _ => rfl).trans (List.map_id _)

/-- No publication has two calls. -/
theorem nodup_publicationCalls (isMuted : String → Bool) (subject : Subject) :
    ((publicationCalls muted isMuted subject old new).map (·.1)).Nodup := by
  rw [keys_publicationCalls, List.nodup_append', List.nodup_append']
  have hchanged : ∀ sid ∈ (muteChanges muted subject old new).map (·.publication),
      sid ∈ old ∧ sid ∈ new := by
    intro sid hmem
    obtain ⟨event, hevent, rfl⟩ := List.mem_map.mp hmem
    obtain ⟨before, now, hbefore, hnow, -⟩ := mem_muteChanges.mp hevent
    exact ⟨mem_of_getElem?_eq_some hbefore, mem_of_getElem?_eq_some hnow⟩
  refine ⟨⟨?_, nodup_muteChanges subject, ?_⟩, ?_, ?_⟩
  · exact ExtTreeMap.nodup_keys.filter _
  · intro sid hcomes hchanges
    exact (mem_keys_published.mp hcomes).2 (hchanged sid hchanges).1
  · have hsublist : ((old.toList.filter fun entry => !new.contains entry.1).map (·.1)).Sublist
        (old.toList.map (·.1)) := List.filter_sublist.map _
    rw [ExtTreeMap.map_fst_toList_eq_keys] at hsublist
    exact hsublist.nodup ExtTreeMap.nodup_keys
  · intro sid hfirst hgoes
    have hgone := mem_map_toList_filter_not_contains.mp hgoes
    rcases List.mem_append.mp hfirst with hcomes | hchanges
    · exact hgone.2 (mem_keys_published.mp hcomes).1
    · exact hgone.2 (hchanged sid hchanges).2

theorem foldlM_publicationCalls (muted : P → Bool) (old : ExtTreeMap String P) (subject : Subject)
    {isMuted : String → Bool}
    (hmuted : ∀ (sid : String) (publication : P),
      new[sid]? = some publication → isMuted sid = muted publication) :
    (publicationCalls muted isMuted subject old new).foldlM (applyAt applyToPublication)
      (fun sid => old[sid]?.map muted) = some fun sid => new[sid]?.map muted := by
  apply foldlM_applyAt_of_nodup (nodup_publicationCalls isMuted subject)
  · intro change hmem
    rw [publicationCalls, List.mem_append, List.mem_append] at hmem
    rcases hmem with (hmem | hmem) | hmem
    · obtain ⟨sid, hcomes, rfl⟩ := List.mem_map.mp hmem
      obtain ⟨hnew, hold⟩ := mem_keys_published.mp hcomes
      obtain ⟨publication, hnew⟩ := exists_getElem?_of_mem hnew
      rw [← getElem?_eq_none_iff] at hold
      simp only [hold, hnew, Option.map_none, Option.map_some, hmuted sid publication hnew]
      rfl
    · obtain ⟨event, hevent, rfl⟩ := List.mem_map.mp hmem
      obtain ⟨before, now, hbefore, hnow, -, heq⟩ := mem_muteChanges.mp hevent
      have hflag : event.muted = muted now := by rw [heq]
      simp only [hbefore, hnow, Option.map_some, hflag]
      rfl
    · obtain ⟨entry, hgoes, rfl⟩ := List.mem_map.mp hmem
      obtain ⟨hold, hnew⟩ :=
        mem_map_toList_filter_not_contains.mp (List.mem_map_of_mem hgoes)
      obtain ⟨publication, hold⟩ := exists_getElem?_of_mem hold
      rw [← getElem?_eq_none_iff] at hnew
      simp only [hold, hnew, Option.map_none, Option.map_some]
      rfl
  · intro sid hmem
    rw [keys_publicationCalls, List.mem_append, List.mem_append, mem_keys_published,
      mem_map_toList_filter_not_contains] at hmem
    cases hold : old[sid]? with
    | none =>
      cases hnew : new[sid]? with
      | none => rfl
      | some now =>
        refine absurd (.inl (.inl ⟨?_, ?_⟩)) hmem
        · exact mem_of_getElem?_eq_some hnew
        · rwa [← getElem?_eq_none_iff]
    | some before =>
      cases hnew : new[sid]? with
      | none =>
        refine absurd (.inr ⟨?_, ?_⟩) hmem
        · exact mem_of_getElem?_eq_some hold
        · rwa [← getElem?_eq_none_iff]
      | some now =>
        by_cases hflag : muted before = muted now
        · rw [Option.map_some, Option.map_some, hflag]
        · refine absurd (.inl (.inr (List.mem_map.mpr ?_))) hmem
          exact ⟨⟨sid, subject, muted now⟩,
            mem_muteChanges.mpr ⟨before, now, hold, hnew, hflag, rfl⟩, rfl⟩

end Publications

/-! ## 5. One snapshot -/

/-- A snapshot of somebody else. -/
theorem applyInfo_other (room : Room) (changes : Changes) {info : ParticipantInfo}
    {participant : String} (hne : info.sid ≠ participant) :
    about participant (room.applyInfo true changes info).2 = about participant changes ∧
      (room.applyInfo true changes info).1.remoteParticipants.get? participant =
        room.remoteParticipants.get? participant := by
  rw [Room.applyInfo]
  split
  · exact ⟨rfl, rfl⟩
  split
  · exact ⟨about_updateLocal participant room changes info, rfl⟩
  split <;> split
  · exact ⟨rfl, rfl⟩
  · rw [about_addParticipant, Room.get?_addParticipant]
    simp [hne]
  · rename_i held hget _
    have hsid := Participants.sid_of_get? hget
    rw [about_disconnectParticipant, Room.get?_disconnectParticipant, hsid]
    simp [hne]
  · rename_i held hget _
    have hsid := Participants.sid_of_get? hget
    rw [about_updateParticipant participant room changes hsid,
      Room.get?_updateParticipant _ _ _ hsid]
    simp [hne]

theorem foldlM_applyToParticipant {publications after : Publications}
    {changes : List (String × PublicationChange)}
    (hfollow : changes.foldlM (applyAt applyToPublication) publications = some after) :
    (changes.map fun change => Change.publication change.1 change.2).foldlM applyToParticipant
      (some publications) = some (some after) := by
  induction changes generalizing publications with
  | nil =>
    cases hfollow
    rfl
  | cons change rest ih =>
    rw [List.foldlM_cons] at hfollow
    obtain ⟨next, hnext, hrest⟩ := Option.bind_eq_some_iff.mp hfollow
    have hstep : applyToParticipant (some publications) (.publication change.1 change.2) =
        some (some next) := by
      rw [applyToParticipant, hnext]
      rfl
    rw [List.map_cons, List.foldlM_cons, hstep]
    exact ih hrest

theorem isMuted_eq {room : Room} {participant sid : String} {held : RemoteParticipant}
    (hget : room.remoteParticipants.get? participant = some held)
    {publication : RemoteTrackPublication}
    (hfound : held.trackPublications[sid]? = some publication) :
    room.isMuted sid participant = publication.info.muted := by
  simp [Room.isMuted, hget, hfound]

section Snapshot

variable {room after : Room} {changes : Changes} {info : ParticipantInfo}
  {held : RemoteParticipant}

theorem calls_eq {participant : String} {collected : Changes}
    (habout : about participant changes = collected) (room : Room) :
    calls participant changes room =
      collected.connected.map (fun _ => Change.connected) ++
        collected.published.map (fun event =>
          Change.publication event.1 (.published (room.isMuted event.1 event.2))) ++
        collected.muteChanged.map (fun event =>
          Change.publication event.publication (.muted event.muted)) ++
        collected.unpublished.map (fun event => Change.publication event.1 .unpublished) ++
        collected.disconnected.map (fun _ => Change.disconnected) := by
  rw [calls, habout]

theorem publicationCalls_empty_left {P : Type} (muted : P → Bool) (isMuted : String → Bool)
    (subject : Subject) (new : ExtTreeMap String P) :
    publicationCalls muted isMuted subject ∅ new =
      new.keys.map fun sid => (sid, .published (isMuted sid)) := by
  simp [publicationCalls, muteChanges]

theorem publicationCalls_empty_right {P : Type} (muted : P → Bool) (isMuted : String → Bool)
    (subject : Subject) (old : ExtTreeMap String P) :
    publicationCalls muted isMuted subject old ∅ =
      old.toList.map fun entry => (entry.1, .unpublished) := by
  have hkeys : (∅ : ExtTreeMap String P).keys = [] := rfl
  have htoList : (∅ : ExtTreeMap String P).toList = [] := rfl
  simp [publicationCalls, muteChanges, hkeys, htoList]

theorem follow_addParticipant (hquiet : about info.sid changes = {})
    (hget : after.remoteParticipants.get? info.sid = some (.new info room.autoSubscribe)) :
    (calls info.sid (room.addParticipant true changes info).2 after).foldlM applyToParticipant
      none = some (viewOf after info.sid) := by
  have habout := about_addParticipant info.sid room changes info
  rw [hquiet] at habout
  have hfollow := foldlM_publicationCalls (fun p : RemoteTrackPublication => p.info.muted) ∅
    (.remote info.sid) fun sid publication hfound => isMuted_eq hget hfound
  rw [publicationCalls_empty_left] at hfollow
  rw [calls_eq habout, viewOf, hget]
  simp only [if_true, List.nil_append, List.map_cons, List.map_nil, List.append_nil,
    List.map_map, List.cons_append, List.foldlM_cons]
  have hmap := foldlM_applyToParticipant hfollow
  simp only [List.map_map] at hmap
  exact hmap

theorem follow_disconnectParticipant (hquiet : about held.info.sid changes = {}) :
    (calls held.info.sid (room.disconnectParticipant true changes held).2 after).foldlM
      applyToParticipant (cellOf (some held)) = some none := by
  have habout := about_disconnectParticipant held.info.sid room changes held
  rw [hquiet] at habout
  have hnone : ∀ (sid : String) (publication : RemoteTrackPublication),
      (∅ : ExtTreeMap String RemoteTrackPublication)[sid]? = some publication →
        false = publication.info.muted := by
    simp
  have hfollow := foldlM_publicationCalls (fun p : RemoteTrackPublication => p.info.muted)
    held.trackPublications (.remote held.info.sid) hnone
  rw [publicationCalls_empty_right] at hfollow
  have hmap := foldlM_applyToParticipant hfollow
  rw [calls_eq habout]
  simp only [if_true, List.nil_append, List.map_nil, List.map_map, List.map_cons] at hmap ⊢
  rw [List.foldlM_append]
  exact congrArg (· >>= _) hmap

theorem follow_updateParticipant (hquiet : about info.sid changes = {})
    (hsid : held.info.sid = info.sid)
    (hget : after.remoteParticipants.get? info.sid = some (held.updateFromInfo info)) :
    (calls info.sid (room.updateParticipant true changes held info).2 after).foldlM
      applyToParticipant (cellOf (some held)) = some (viewOf after info.sid) := by
  have habout := about_updateParticipant info.sid room changes hsid
  rw [hquiet] at habout
  have hfollow := foldlM_publicationCalls (fun p : RemoteTrackPublication => p.info.muted)
    held.trackPublications (.remote info.sid)
    fun sid publication hfound => isMuted_eq hget hfound
  have hmap := foldlM_applyToParticipant hfollow
  rw [calls_eq habout, viewOf, hget]
  simp only [publicationCalls, if_true, List.nil_append, List.map_nil, List.map_map,
    List.map_append, List.append_nil] at hmap ⊢
  exact hmap

/-- **A snapshot's calls about its participant** lead from what the view holds of it to
    what the room holds afterwards, if nothing was collected about it before. -/
theorem follow_applyInfo (hquiet : about info.sid changes = {})
    (hafter : after.remoteParticipants.get? info.sid =
      (room.applyInfo true changes info).1.remoteParticipants.get? info.sid) :
    (calls info.sid (room.applyInfo true changes info).2 after).foldlM applyToParticipant
      (viewOf room info.sid) = some (viewOf after info.sid) := by
  have hnothing : ∀ collected, about info.sid collected = {} →
      after.remoteParticipants.get? info.sid = room.remoteParticipants.get? info.sid →
        (calls info.sid collected after).foldlM applyToParticipant (viewOf room info.sid) =
          some (viewOf after info.sid) := by
    intro collected hempty hsame
    rw [calls_eq hempty, viewOf, viewOf, hsame]
    rfl
  rw [Room.applyInfo] at hafter ⊢
  by_cases hempty : info.sid = ""
  · rw [if_pos hempty] at hafter ⊢
    exact hnothing changes hquiet hafter
  rw [if_neg hempty] at hafter ⊢
  by_cases hlocal : room.localParticipant.isNamedBy info = true
  · rw [if_pos hlocal] at hafter ⊢
    refine hnothing _ ?_ hafter
    rw [about_updateLocal, hquiet]
  rw [if_neg hlocal] at hafter ⊢
  cases hget : room.remoteParticipants.get? info.sid with
  | none =>
    rw [hget] at hafter
    have hview : viewOf room info.sid = none := by rw [viewOf, hget]; rfl
    by_cases hstate : info.state = .disconnected
    · simp only [hstate, if_true] at hafter ⊢
      exact hnothing changes hquiet hafter
    · simp only [hstate, if_false] at hafter ⊢
      rw [Room.get?_addParticipant, if_pos rfl] at hafter
      rw [hview]
      exact follow_addParticipant hquiet hafter
  | some held =>
    rw [hget] at hafter
    have hsid := Participants.sid_of_get? hget
    have hview : viewOf room info.sid = cellOf (some held) := by rw [viewOf, hget]
    by_cases hstate : info.state = .disconnected
    · simp only [hstate, if_true] at hafter ⊢
      rw [Room.get?_disconnectParticipant, if_pos hsid] at hafter
      have hgone : viewOf after info.sid = none := by rw [viewOf, hafter]; rfl
      rw [hview, hgone, ← hsid]
      exact follow_disconnectParticipant (by rw [hsid, hquiet])
    · simp only [hstate, if_false] at hafter ⊢
      rw [Room.get?_updateParticipant _ _ _ hsid, if_pos rfl] at hafter
      rw [hview]
      exact follow_updateParticipant hquiet hsid hafter

end Snapshot

/-! ## 6. A batch -/

theorem applyInfos_others (room : Room) (changes : Changes) {infos : List ParticipantInfo}
    {participant : String} (hnone : participant ∉ infos.map (·.sid)) :
    about participant (room.applyInfos true changes infos).2 = about participant changes ∧
      (room.applyInfos true changes infos).1.remoteParticipants.get? participant =
        room.remoteParticipants.get? participant := by
  induction infos generalizing room changes with
  | nil => exact ⟨rfl, rfl⟩
  | cons info rest ih =>
    rw [List.map_cons, List.mem_cons, not_or] at hnone
    obtain ⟨habout, hget⟩ := applyInfo_other room changes (Ne.symm hnone.1)
    obtain ⟨habout', hget'⟩ := ih (room.applyInfo true changes info).1
      (room.applyInfo true changes info).2 hnone.2
    exact ⟨habout'.trans habout, hget'.trans hget⟩

/-- In a batch that names nobody twice, one snapshot speaks for a participant. -/
theorem follow_applyInfos {room after : Room} {changes : Changes} {infos : List ParticipantInfo}
    {participant : String} (hnodup : (infos.map (·.sid)).Nodup)
    (hquiet : about participant changes = {})
    (hafter : after.remoteParticipants.get? participant =
      (room.applyInfos true changes infos).1.remoteParticipants.get? participant) :
    (calls participant (room.applyInfos true changes infos).2 after).foldlM applyToParticipant
      (viewOf room participant) = some (viewOf after participant) := by
  induction infos generalizing room changes with
  | nil =>
    rw [Room.applyInfos, List.foldl_nil] at hafter ⊢
    rw [calls_eq hquiet, viewOf, viewOf, hafter]
    rfl
  | cons info rest ih =>
    rw [List.map_cons, List.nodup_cons] at hnodup
    rw [Room.applyInfos, List.foldl_cons, ← Room.applyInfos] at hafter ⊢
    by_cases heq : info.sid = participant
    · subst heq
      obtain ⟨habout, hget⟩ := applyInfos_others (room.applyInfo true changes info).1
        (room.applyInfo true changes info).2 hnodup.1
      rw [hget] at hafter
      rw [calls, habout, ← calls]
      exact follow_applyInfo hquiet hafter
    · obtain ⟨habout, hget⟩ := applyInfo_other room changes heq
      have hview : viewOf room participant =
          viewOf (room.applyInfo true changes info).1 participant := by
        rw [viewOf, viewOf, hget]
      rw [hview]
      exact ih hnodup.2 (habout.trans hquiet) hafter

theorem hasListener_dropTracks (emitEvents : Bool) (sid : String) (room : Room)
    (changes : Changes) (publications : List (String × RemoteTrackPublication)) :
    (room.dropTracks emitEvents sid changes publications).1.hasListener = room.hasListener := by
  rw [Room.dropTracks]
  induction publications generalizing room changes with
  | nil => rfl
  | cons publication rest ih => exact ih _ _

theorem hasListener_applyInfo (emitEvents : Bool) (room : Room) (changes : Changes)
    (info : ParticipantInfo) :
    (room.applyInfo emitEvents changes info).1.hasListener = room.hasListener := by
  rw [Room.applyInfo]
  split
  · rfl
  split
  · rfl
  split <;> split
  · rfl
  · rfl
  · exact hasListener_dropTracks ..
  · rw [Room.updateParticipant]
    dsimp only
    split
    · rfl
    · exact hasListener_dropTracks ..

theorem hasListener_applyInfos (emitEvents : Bool) (room : Room) (changes : Changes)
    (infos : List ParticipantInfo) :
    (room.applyInfos emitEvents changes infos).1.hasListener = room.hasListener := by
  induction infos generalizing room changes with
  | nil => rfl
  | cons info rest ih => exact (ih _ _).trans (hasListener_applyInfo emitEvents room changes info)

/-! ### Media tracks -/

theorem cellOf_attach (participant : RemoteParticipant) (trackSid : String)
    (track : Option RemoteTrack) :
    cellOf (some (participant.attach trackSid track)) = cellOf (some participant) := by
  rw [cellOf, cellOf, Option.map_some, Option.map_some]
  refine congrArg some (funext fun sid => ?_)
  rw [RemoteParticipant.attach, ExtTreeMap.getElem?_modify]
  split
  · rename_i heq
    rw [LawfulEqOrd.compare_eq_iff_eq.mp heq, Option.map_map]
    rfl
  · rfl

/-- Attaching a track changes nothing that the view shows. -/
theorem cellOf_insert_attach {participants : Participants} {participant : RemoteParticipant}
    (hget : participants.get? participant.info.sid = some participant) (trackSid : String)
    (track : Option RemoteTrack) (sid : String) :
    cellOf ((participants.insert (participant.attach trackSid track)).get? sid) =
      cellOf (participants.get? sid) := by
  rw [Participants.get?_insert, RemoteParticipant.info_attach]
  split
  · rename_i heq
    rw [← heq, hget, cellOf_attach]
  · rfl

theorem viewOf_mediaTrackEvent (room : Room) (track : MediaTrack) :
    viewOf (room.mediaTrackEvent track).1 = viewOf room := by
  rw [Room.mediaTrackEvent]
  split
  · rfl
  · rename_i participant hfind
    split
    · rfl
    · have hget := (Room.findRemoteParticipantForTrack_eq_some hfind).1
      exact funext (cellOf_insert_attach hget _ _)

theorem hasListener_mediaTrackEvent (room : Room) (track : MediaTrack) :
    (room.mediaTrackEvent track).1.hasListener = room.hasListener := by
  rw [Room.mediaTrackEvent]
  split
  · rfl
  · split <;> rfl

theorem remoteChange?_mediaTrackEvent (room : Room) (track : MediaTrack) :
    (room.mediaTrackEvent track).2.filterMap remoteChange? = [] := by
  rw [Room.mediaTrackEvent]
  split
  · rfl
  · rename_i participant hfind
    split
    · rfl
    · dsimp only
      cases participant.trackPublications[track.id]? with
      | none =>
        dsimp only
        split <;> rfl
      | some publication =>
        dsimp only
        split <;> split <;> try split
        all_goals rfl

theorem replayReady_frame (room : Room) (ready : List MediaTrack) :
    viewOf (room.replayReady ready).1 = viewOf room ∧
      (room.replayReady ready).1.hasListener = room.hasListener ∧
      (room.replayReady ready).2.filterMap remoteChange? = [] := by
  induction ready generalizing room with
  | nil => exact ⟨rfl, rfl, rfl⟩
  | cons track rest ih =>
    obtain ⟨hview, hlistener, hevents⟩ := ih (room.mediaTrackEvent track).1
    rw [Room.replayReady]
    refine ⟨hview.trans (viewOf_mediaTrackEvent room track),
      hlistener.trans (hasListener_mediaTrackEvent room track), ?_⟩
    dsimp only
    rw [List.filterMap_append, remoteChange?_mediaTrackEvent, hevents]
    rfl

/-- **A batch**: the calls lead from the view of the room before to that of the room after. -/
theorem follow_participantUpdateEvent {room : Room} {updates : List ParticipantInfo}
    (hlistener : room.hasListener = true) (hnodup : (updates.map (·.sid)).Nodup) :
    (viewOf room).follow
        ((room.participantUpdateEvent updates).2.filter fun event => !aboutLocal event) =
      some (viewOf (room.participantUpdateEvent updates).1) := by
  rw [follow_filter_not_aboutLocal]
  rw [Room.participantUpdateEvent, Room.applyParticipantUpdates]
  dsimp only
  obtain ⟨hview, -, hevents⟩ :=
    replayReady_frame (room.applyInfos true {} updates).1.takeReady.1
      (room.applyInfos true {} updates).1.takeReady.2
  rw [List.filterMap_append, hevents, List.append_nil, hview]
  refine foldlM_applyAt fun participant => ?_
  have hlistener' : (room.applyInfos true {} updates).1.takeReady.1.hasListener = true :=
    (hasListener_applyInfos true room {} updates).trans hlistener
  rw [changesOf_filterMap_remoteChange?, filterMap_changeOf?_events hlistener']
  exact follow_applyInfos hnodup rfl rfl

theorem hasListener_participantUpdateEvent (room : Room) (updates : List ParticipantInfo) :
    (room.participantUpdateEvent updates).1.hasListener = room.hasListener :=
  (replayReady_frame _ _).2.1.trans (hasListener_applyInfos true room {} updates)

/-! ## 7. Batch after batch -/

/-- The room, and the view of a listener that follows the calls it minds. -/
def batch (minds : RoomEvent → Bool) (state : Room × Option View)
    (updates : List ParticipantInfo) : Room × Option View :=
  ((state.1.participantUpdateEvent updates).1,
   state.2.bind fun view => view.follow ((state.1.participantUpdateEvent updates).2.filter minds))

/-- The calls about remote participants, and those of the other kinds. -/
def notLocal (event : RoomEvent) : Bool := !aboutLocal event

theorem follow_batches {room : Room} (hlistener : room.hasListener = true)
    {batches : List (List ParticipantInfo)}
    (hnodup : ∀ updates ∈ batches, (updates.map (·.sid)).Nodup) :
    (batches.foldl (batch notLocal) (room, some (viewOf room))).2 =
      some (viewOf (batches.foldl (batch notLocal) (room, some (viewOf room))).1) := by
  induction batches generalizing room with
  | nil => rfl
  | cons updates rest ih =>
    have hfollow : batch notLocal (room, some (viewOf room)) updates =
        ((room.participantUpdateEvent updates).1,
          some (viewOf (room.participantUpdateEvent updates).1)) :=
      Prod.ext rfl (follow_participantUpdateEvent hlistener (hnodup updates List.mem_cons_self))
    rw [List.foldl_cons, hfollow]
    apply ih
    · exact (hasListener_participantUpdateEvent room updates).trans hlistener
    · exact fun other hmem => hnodup other (List.mem_cons_of_mem _ hmem)

/-- **Events describe the state**: after every sequence of batches that name nobody twice,
    a view that follows the calls about the remote participants from the start holds what
    the room holds, and could follow each of them. -/
theorem view_eq_viewOf {room : Room} (hlistener : room.hasListener = true)
    (hempty : room.remoteParticipants = .empty) {batches : List (List ParticipantInfo)}
    (hnodup : ∀ updates ∈ batches, (updates.map (·.sid)).Nodup) :
    (batches.foldl (batch notLocal) (room, some fun _ => none)).2 =
      some (viewOf (batches.foldl (batch notLocal) (room, some fun _ => none)).1) := by
  have hview : viewOf room = fun _ => none := by
    funext sid
    rw [viewOf, hempty, Participants.get?_empty]
    rfl
  rw [← hview]
  exact follow_batches hlistener hnodup

/-- A participant comes with a track and leaves, another mutes a track and drops it. -/
def comings : List (List ParticipantInfo) :=
  [[{ sid := "PA", tracks := [{ sid := "TR_a" }] }, { sid := "PB", tracks := [{ sid := "TR_b" }] }],
   [{ sid := "PA", state := .disconnected },
    { sid := "PB", version := 1, tracks := [{ sid := "TR_b", muted := true }] }],
   [{ sid := "PB", version := 2, tracks := [{ sid := "TR_c" }] }]]

theorem view_after_comings :
    (comings.foldl (batch notLocal) ({ hasListener := true }, some fun _ => none)).2 =
      some (viewOf (comings.foldl (batch notLocal)
        ({ hasListener := true }, some fun _ => none)).1) :=
  view_eq_viewOf rfl rfl (by decide)

/-- The local participant publishes a track and is then muted by the server. -/
def localMute : List (List ParticipantInfo) :=
  [[{ sid := "PL", version := 1, tracks := [{ sid := "TR" }] }],
   [{ sid := "PL", version := 2, tracks := [{ sid := "TR", muted := true }] }]]

def localRoom : Room :=
  { hasListener := true, localParticipant := ⟨{ sid := "PL" }, ∅⟩ }

/-- `OnTrackMuted` also comes for the local participant, which the view does not hold. -/
theorem localMute_not_followed :
    localRoom.hasListener = true ∧ localRoom.remoteParticipants = .empty ∧
      (∀ updates ∈ localMute, (updates.map (·.sid)).Nodup) ∧
      (localMute.foldl (batch fun _ => true) (localRoom, some fun _ => none)).2 = none :=
  ⟨rfl, rfl, by decide, Option.isNone_iff_eq_none.mp (by decide +kernel)⟩

end LivekitClient.RoomView
