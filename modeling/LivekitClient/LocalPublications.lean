/-
  LivekitClient/LocalPublications.lean
  ====================================
  **The publications of the local participant** (`LocalParticipant::UpdateFromInfo`,
  `PublishTrack` and `UnpublishTrack` in `src/core/participant/local_participant.cpp`,
  `Participant::UpdateFromInfo` in `participant.cpp`, `Room::LocalTrackUnpublishedEvent`
  in `src/core/room.cpp`).

  The map holds publications that the client has made and others that it knows from
  snapshots of the server only.  A snapshot makes the base class drop whatever it does
  not list; the local participant has noted its own publications before and puts them
  back, one after the other.  Each of these is a section of its own under the mutex of
  the map, and the application publishes and unpublishes on threads of its own.
-/
import LivekitClient.Runs
import LivekitClient.RoomStore

namespace LivekitClient.LocalPublications

open Std Runs
open LivekitClient.RoomStore

/-! ## 1. The participant -/

/-- A publication of the client, or one that only the server has told of. -/
inductive Publication where
  | owned (id : Nat)
  | listed (info : TrackInfo)
deriving DecidableEq

def Publication.owned? : Publication → Option Nat
  | .owned id => some id
  | .listed _ => none

def Publication.updateInfo : Publication → TrackInfo → Publication
  | .owned id, _ => .owned id
  | .listed _, info => .listed info

/-- Where a call is: a snapshot of the server before `UpdateInfoFields`, before the base
    class touches the map, or putting back what is left of `owned`; or an unpublish about
    to remove. -/
inductive Call where
  | fields (info : ParticipantInfo) (owned : List (String × Nat))
  | tracks (info : ParticipantInfo) (owned : List (String × Nat))
  | addBack (owned : List (String × Nat))
  | remove (sid : String)
deriving DecidableEq

/-- `expected` is what the map should hold of the client's publications: what was
    published and not unpublished since. -/
structure Participant where
  info : ParticipantInfo
  trackPublications : ExtTreeMap String Publication := ∅
  calls : List Call := []
  expected : ExtTreeMap String Nat := ∅

/-- `publish` is the end of a `PublishTrack` that succeeds, `unpublishTrack` and
    `localTrackUnpublished` are the looks at the map before it removes, and `call i` is
    a step of the `i`-th call under way. -/
inductive Act where
  | publish (sid : String) (id : Nat)
  | unpublishTrack (sid : String) (id : Nat)
  | localTrackUnpublished (sid : String)
  | updateFromInfo (info : ParticipantInfo)
  | call (i : Nat)

/-- The client's publications in a map, by their sids. -/
def ownedPublications (publications : ExtTreeMap String Publication) : List (String × Nat) :=
  publications.toList.filterMap fun (sid, publication) =>
    publication.owned?.map fun id => (sid, id)

def ownedAt (publications : ExtTreeMap String Publication) (sid : String) : Option Nat :=
  publications[sid]?.bind Publication.owned?

namespace Participant

def addTrackPublication (participant : Participant) (sid : String) (id : Nat) : Participant :=
  { participant with
    trackPublications := participant.trackPublications.insert sid (.owned id) }

def setCall (participant : Participant) (i : Nat) (call : Call) : Participant :=
  { participant with calls := participant.calls.set i call }

def endCall (participant : Participant) (i : Nat) : Participant :=
  { participant with calls := participant.calls.eraseIdx i }

def callStep (participant : Participant) (i : Nat) : Participant :=
  match participant.calls[i]? with
  | some (.fields info owned) =>
    -- the publications are put back even if the snapshot is stale
    if isStale participant.info info then participant.setCall i (.addBack owned)
    else { participant with info := info }.setCall i (.tracks info owned)
  | some (.tracks info owned) =>
    { participant with
      trackPublications := updateTracks .listed Publication.updateInfo
        participant.trackPublications info.tracks }.setCall i (.addBack owned)
  | some (.addBack []) => participant.endCall i
  | some (.addBack ((sid, id) :: owned)) =>
    (participant.addTrackPublication sid id).setCall i (.addBack owned)
  | some (.remove sid) =>
    { participant with
      trackPublications := participant.trackPublications.erase sid
      expected := participant.expected.erase sid }.endCall i
  | none => participant

def step (participant : Participant) : Act → Participant
  | .publish sid id =>
    { participant.addTrackPublication sid id with expected := participant.expected.insert sid id }
  | .unpublishTrack sid id =>
    if participant.trackPublications[sid]? = some (.owned id) then
      { participant with calls := participant.calls ++ [.remove sid] }
    else participant
  | .localTrackUnpublished sid =>
    if participant.trackPublications.contains sid then
      { participant with calls := participant.calls ++ [.remove sid] }
    else participant
  | .updateFromInfo info =>
    { participant with
      calls := participant.calls ++
        [.fields info (ownedPublications participant.trackPublications)] }
  | .call i => participant.callStep i

/-- The map holds the client's publications that it should, and no others. -/
def Right (participant : Participant) : Prop :=
  ∀ sid, ownedAt participant.trackPublications sid = participant.expected[sid]?

end Participant

/-- The publications that a call has noted and not yet put back. -/
def Call.noted : Call → List (String × Nat)
  | .fields _ owned | .tracks _ owned | .addBack owned => owned
  | .remove _ => []

/-- Nobody has noted the publication. -/
def Unnoted (participant : Participant) (sid : String) : Prop :=
  ∀ call ∈ participant.calls, ∀ entry ∈ call.noted, entry.1 ≠ sid

/-- The step of the call comes at the right moment: it removes what no snapshot of the
    server has noted, or it drops nothing of the client's but what it has noted. -/
def UndisturbedCall (participant : Participant) : Call → Prop
  | .remove sid => Unnoted participant sid
  | .tracks info owned =>
    ∀ entry ∈ ownedPublications participant.trackPublications,
      listsTrack info.tracks entry.1 = true ∨ entry ∈ owned
  | _ => True

def Undisturbed (participant : Participant) : Act → Prop
  | .publish sid _ => Unnoted participant sid
  | .call i => ∀ call ∈ participant.calls[i]?, UndisturbedCall participant call
  | _ => True

instance (participant : Participant) (sid : String) : Decidable (Unnoted participant sid) :=
  inferInstanceAs (Decidable (∀ call ∈ participant.calls, ∀ entry ∈ call.noted, entry.1 ≠ sid))

instance (participant : Participant) : DecidablePred (UndisturbedCall participant)
  | .remove sid => inferInstanceAs (Decidable (Unnoted participant sid))
  | .tracks info owned =>
    inferInstanceAs (Decidable (∀ entry ∈ ownedPublications participant.trackPublications,
      listsTrack info.tracks entry.1 = true ∨ entry ∈ owned))
  | .fields _ _ => inferInstanceAs (Decidable True)
  | .addBack _ => inferInstanceAs (Decidable True)

instance (participant : Participant) : DecidablePred (Undisturbed participant)
  | .publish sid _ => inferInstanceAs (Decidable (Unnoted participant sid))
  | .call i =>
    inferInstanceAs (Decidable (∀ call ∈ participant.calls[i]?, UndisturbedCall participant call))
  | .unpublishTrack _ _ => inferInstanceAs (Decidable True)
  | .localTrackUnpublished _ => inferInstanceAs (Decidable True)
  | .updateFromInfo _ => inferInstanceAs (Decidable True)

/-! ## 2. The client's publications in a map -/

section Maps

variable {publications : ExtTreeMap String Publication} {sid : String} {id : Nat}

theorem mem_ownedPublications :
    (sid, id) ∈ ownedPublications publications ↔ ownedAt publications sid = some id := by
  simp only [ownedPublications, ownedAt, List.mem_filterMap, Option.map_eq_some_iff, Prod.mk.injEq,
    Option.bind_eq_some_iff]
  constructor
  · rintro ⟨⟨other, publication⟩, hmem, id', howned, rfl, rfl⟩
    exact ⟨publication, ExtTreeMap.mem_toList_iff_getElem?_eq_some.1 hmem, howned⟩
  · rintro ⟨publication, hget, howned⟩
    refine ⟨(sid, publication), ExtTreeMap.mem_toList_iff_getElem?_eq_some.2 hget, id, howned, ?_⟩
    exact ⟨rfl, rfl⟩

theorem ownedAt_insert (other : String) (publication : Publication) :
    ownedAt (publications.insert other publication) sid =
      if other = sid then publication.owned? else ownedAt publications sid := by
  rw [ownedAt, ExtTreeMap.getElem?_insert]
  simp only [LawfulEqOrd.compare_eq_iff_eq]
  split <;> rfl

theorem ownedAt_erase (other : String) :
    ownedAt (publications.erase other) sid =
      if other = sid then none else ownedAt publications sid := by
  rw [ownedAt, ExtTreeMap.getElem?_erase]
  simp only [LawfulEqOrd.compare_eq_iff_eq]
  split <;> rfl

/-- What the server tells of a track does not change whose publication it is. -/
theorem ownedAt_updateTrack (track : TrackInfo) :
    ownedAt (updateTrack .listed Publication.updateInfo publications track) sid =
      ownedAt publications sid := by
  unfold updateTrack
  split
  · rfl
  · split
    · rename_i hnone
      rw [ownedAt_insert]
      split
      · rename_i heq
        rw [ownedAt, ← heq, hnone]
        rfl
      · rfl
    · rename_i publication hget
      rw [ownedAt_insert]
      split
      · rename_i heq
        rw [ownedAt, ← heq, hget]
        cases publication <;> rfl
      · rfl

/-- A snapshot drops the client's publications that it does not list. -/
theorem ownedAt_updateTracks (tracks : List TrackInfo) :
    ownedAt (updateTracks .listed Publication.updateInfo publications tracks) sid =
      if listsTrack tracks sid = true then ownedAt publications sid else none := by
  have hfold :
      ownedAt (tracks.foldl (updateTrack .listed Publication.updateInfo) publications) sid =
        ownedAt publications sid := by
    generalize tracks = listed
    induction listed generalizing publications with
    | nil => rfl
    | cons track rest ih => rw [List.foldl_cons, ih, ownedAt_updateTrack]
  rw [updateTracks, ownedAt, ExtTreeMap.getElem?_filter']
  split
  · rename_i hlists
    rw [← hfold, ownedAt]
    cases (tracks.foldl (updateTrack .listed Publication.updateInfo) publications)[sid]? with
    | none => rfl
    | some publication => simp [Option.filter, hlists]
  · rename_i hlists
    simp [hlists]

end Maps

/-! ## 3. The steps -/

/-- The call is about to put the publication back. -/
def Call.Restores (entry : String × Nat) : Call → Prop
  | .addBack owned => entry ∈ owned
  | _ => False

/-- What is noted is what should be there, and what should be there is there or about to
    be put back. -/
structure Inv (participant : Participant) : Prop where
  right : ∀ sid id, ownedAt participant.trackPublications sid = some id →
    participant.expected[sid]? = some id
  noted : ∀ call ∈ participant.calls, ∀ entry ∈ call.noted,
    participant.expected[entry.1]? = some entry.2
  kept : ∀ sid id, participant.expected[sid]? = some id →
    ownedAt participant.trackPublications sid = some id ∨
      ∃ call ∈ participant.calls, call.Restores (sid, id)

theorem Inv.right_of_done {participant : Participant} (h : Inv participant)
    (hdone : participant.calls = []) : participant.Right := by
  intro sid
  apply Option.ext
  intro id
  constructor
  · exact h.right sid id
  · intro hexpected
    rcases h.kept sid id hexpected with howned | ⟨call, hmem, -⟩
    · exact howned
    · simp [hdone] at hmem

section Steps

variable {participant : Participant}

/-- A call comes under way. -/
theorem Inv.enter (h : Inv participant) {call : Call}
    (hnoted : ∀ entry ∈ call.noted, participant.expected[entry.1]? = some entry.2) :
    Inv { participant with calls := participant.calls ++ [call] } where
  right := h.right
  noted := by
    intro other hmem
    rcases List.mem_append.1 hmem with hmem | hmem
    · exact h.noted other hmem
    · obtain rfl := List.mem_singleton.1 hmem
      exact hnoted
  kept := by
    intro sid id hexpected
    rcases h.kept sid id hexpected with howned | ⟨other, hmem, hrestores⟩
    · exact Or.inl howned
    · exact Or.inr ⟨other, List.mem_append_left _ hmem, hrestores⟩

/-- A call moves on and leaves the map alone. -/
theorem Inv.setCall (h : Inv participant) {i : Nat} {call : Call} (next : Call)
    (hcall : participant.calls[i]? = some call) (hnoted : next.noted = call.noted)
    (hrestores : ∀ entry, ¬ call.Restores entry) : Inv (participant.setCall i next) := by
  obtain ⟨before, after, hcalls, -, hset⟩ := split_of_getElem? hcall
  refine ⟨h.right, ?_, ?_⟩
  · have hall := h.noted
    rw [hcalls, forall_mem_split] at hall
    simp only [Participant.setCall, hset]
    rw [forall_mem_split, hnoted]
    exact hall
  · intro sid id hexpected
    rcases h.kept sid id hexpected with howned | hcarrier
    · exact Or.inl howned
    · rw [hcalls, exists_mem_split] at hcarrier
      apply Or.inr
      rw [Participant.setCall, hset, exists_mem_split]
      exact Or.inr (hcarrier.resolve_left (hrestores (sid, id)))

theorem Inv.tracks (h : Inv participant) {i : Nat} {info : ParticipantInfo}
    {owned : List (String × Nat)} (hcall : participant.calls[i]? = some (.tracks info owned))
    (hundisturbed : ∀ entry ∈ ownedPublications participant.trackPublications,
      listsTrack info.tracks entry.1 = true ∨ entry ∈ owned) :
    Inv (participant.callStep i) := by
  obtain ⟨before, after, hcalls, -, hset⟩ := split_of_getElem? hcall
  simp only [Participant.callStep, hcall]
  refine ⟨?_, ?_, ?_⟩
  · intro sid id howned
    simp only [Participant.setCall, ownedAt_updateTracks] at howned
    split at howned
    · exact h.right sid id howned
    · simp at howned
  · have hmoved := h.setCall (.addBack owned) hcall rfl (by simp [Call.Restores])
    exact hmoved.noted
  · intro sid id hexpected
    simp only [Participant.setCall, ownedAt_updateTracks]
    rw [hset, exists_mem_split]
    rcases h.kept sid id hexpected with howned | hcarrier
    · -- what the snapshot does not list has been noted
      rcases hundisturbed (sid, id) (mem_ownedPublications.2 howned) with hlists | hmem
      · exact Or.inl (by rw [if_pos hlists, howned])
      · exact Or.inr (Or.inl hmem)
    · rw [hcalls, exists_mem_split] at hcarrier
      exact Or.inr (Or.inr (hcarrier.resolve_left (by simp [Call.Restores])))

theorem Inv.addBack (h : Inv participant) {i : Nat} {sid : String} {id : Nat}
    {owned : List (String × Nat)}
    (hcall : participant.calls[i]? = some (.addBack ((sid, id) :: owned))) :
    Inv (participant.callStep i) := by
  obtain ⟨before, after, hcalls, -, hset⟩ := split_of_getElem? hcall
  have hexpected : participant.expected[sid]? = some id :=
    h.noted (.addBack ((sid, id) :: owned)) (by simp [hcalls]) (sid, id) (by simp [Call.noted])
  simp only [Participant.callStep, hcall, Participant.setCall, Participant.addTrackPublication]
  refine ⟨?_, ?_, ?_⟩
  · intro other id' howned
    simp only [ownedAt_insert] at howned
    split at howned
    · rename_i heq
      rw [← howned, ← heq]
      exact hexpected
    · exact h.right other id' howned
  · have hall := h.noted
    rw [hcalls, forall_mem_split] at hall
    rw [hset, forall_mem_split]
    refine ⟨?_, hall.2⟩
    intro entry hentry
    exact hall.1 entry (List.mem_cons_of_mem _ hentry)
  · intro other id' hother
    simp only [ownedAt_insert, hset, exists_mem_split]
    by_cases heq : sid = other
    · left
      rw [if_pos heq]
      rw [← heq, hexpected] at hother
      exact hother
    · rw [if_neg heq]
      rcases h.kept other id' hother with howned | hcarrier
      · exact Or.inl howned
      · rw [hcalls, exists_mem_split] at hcarrier
        rcases hcarrier with hrestores | hcarrier
        · rcases List.mem_cons.1 hrestores with hhead | hmem
          · exact absurd (congrArg Prod.fst hhead).symm heq
          · exact Or.inr (Or.inl hmem)
        · exact Or.inr (Or.inr hcarrier)

/-- A call that has nothing to put back ends. -/
theorem Inv.endCall (h : Inv participant) {i : Nat} {call : Call}
    (hcall : participant.calls[i]? = some call) (hrestores : ∀ entry, ¬ call.Restores entry) :
    Inv (participant.endCall i) := by
  obtain ⟨before, after, hcalls, herase, -⟩ := split_of_getElem? hcall
  refine ⟨h.right, ?_, ?_⟩
  · intro other hmem
    exact h.noted other (List.mem_of_mem_eraseIdx hmem)
  · intro sid id hexpected
    rcases h.kept sid id hexpected with howned | hcarrier
    · exact Or.inl howned
    · rw [hcalls, exists_mem_split] at hcarrier
      apply Or.inr
      rw [Participant.endCall, herase]
      exact hcarrier.resolve_left (hrestores (sid, id))

/-- A publication that nobody has noted is put in or taken out of both maps. -/
theorem Inv.change (h : Inv participant) {sid : String} (hunnoted : Unnoted participant sid)
    {publications : ExtTreeMap String Publication} {expected : ExtTreeMap String Nat}
    (hsame : ownedAt publications sid = expected[sid]?)
    (hothers : ∀ other, sid ≠ other →
      ownedAt publications other = ownedAt participant.trackPublications other ∧
        expected[other]? = participant.expected[other]?) :
    Inv { participant with trackPublications := publications, expected := expected } := by
  refine ⟨?_, ?_, ?_⟩
  · intro other id howned
    by_cases heq : sid = other
    · subst heq
      exact hsame ▸ howned
    · obtain ⟨hpublications, hexpected⟩ := hothers other heq
      rw [hexpected]
      exact h.right other id (hpublications ▸ howned)
  · intro call hmem entry hentry
    rw [(hothers entry.1 (hunnoted call hmem entry hentry).symm).2]
    exact h.noted call hmem entry hentry
  · intro other id hexpected
    by_cases heq : sid = other
    · subst heq
      exact Or.inl (hsame ▸ hexpected)
    · obtain ⟨hpublications, hother⟩ := hothers other heq
      rw [hother] at hexpected
      rw [hpublications]
      exact h.kept other id hexpected

theorem Inv.publish (h : Inv participant) {sid : String} (hunnoted : Unnoted participant sid)
    (id : Nat) : Inv (participant.step (.publish sid id)) := by
  apply h.change hunnoted
  · simp [Participant.addTrackPublication, ownedAt_insert, Publication.owned?]
  · intro other hne
    simp [Participant.addTrackPublication, ownedAt_insert, ExtTreeMap.getElem?_insert, hne]

theorem Inv.remove (h : Inv participant) {i : Nat} {sid : String}
    (hcall : participant.calls[i]? = some (.remove sid)) (hunnoted : Unnoted participant sid) :
    Inv (participant.callStep i) := by
  have hchanged : Inv { participant with
      trackPublications := participant.trackPublications.erase sid
      expected := participant.expected.erase sid } := by
    apply h.change hunnoted
    · simp [ownedAt_erase]
    · intro other hne
      simp [ownedAt_erase, ExtTreeMap.getElem?_erase, hne]
  simp only [Participant.callStep, hcall]
  exact hchanged.endCall hcall (by simp [Call.Restores])

theorem Inv.callStep (h : Inv participant) {i : Nat}
    (hundisturbed : Undisturbed participant (.call i)) : Inv (participant.callStep i) := by
  cases hcall : participant.calls[i]? with
  | none => simpa [Participant.callStep, hcall] using h
  | some call =>
    replace hundisturbed : UndisturbedCall participant call := hundisturbed call hcall
    cases call with
    | fields info owned =>
      simp only [Participant.callStep, hcall]
      split
      · exact h.setCall _ hcall rfl (by simp [Call.Restores])
      · have hsame : Inv { participant with info := info } := { h with }
        exact hsame.setCall _ hcall rfl (by simp [Call.Restores])
    | tracks info owned => exact h.tracks hcall hundisturbed
    | addBack owned =>
      cases owned with
      | nil =>
        simp only [Participant.callStep, hcall]
        exact h.endCall hcall (by simp [Call.Restores])
      | cons entry owned => exact h.addBack hcall
    | remove sid => exact h.remove hcall hundisturbed

theorem Inv.step (h : Inv participant) {act : Act} (hundisturbed : Undisturbed participant act) :
    Inv (participant.step act) := by
  cases act with
  | publish sid id => exact h.publish hundisturbed id
  | unpublishTrack sid id =>
    rw [Participant.step]
    split
    · exact h.enter (by simp [Call.noted])
    · exact h
  | localTrackUnpublished sid =>
    rw [Participant.step]
    split
    · exact h.enter (by simp [Call.noted])
    · exact h
  | updateFromInfo info =>
    apply h.enter
    intro entry hmem
    exact h.right entry.1 entry.2 (mem_ownedPublications.1 hmem)
  | call i => exact h.callStep hundisturbed

end Steps

/-! ## 4. Runs -/

theorem inv_new (info : ParticipantInfo) : Inv { info := info } where
  right := by simp [ownedAt]
  noted := by simp
  kept := by simp

/-- **The client's publications are neither lost nor resurrected**, in every run in which
    none comes or goes at the wrong moment. -/
theorem publications_right {info : ParticipantInfo} {acts : List Act} {participant : Participant}
    (hrun : Exec (Guarded Undisturbed fun before act after => after = before.step act)
      { info := info } acts participant)
    (hdone : participant.calls = []) : participant.Right := by
  have hinv : Inv participant := by
    refine hrun.invariant ?_ (inv_new info)
    rintro before act after hbefore ⟨hundisturbed, rfl⟩
    exact hbefore.step hundisturbed
  exact hinv.right_of_done hdone

/-- The steps of a snapshot of the server in which `owned` publications were noted, as
    the only call under way. -/
def updateSteps (owned : Nat) : List Act := List.replicate (owned + 3) (.call 0)

/-- Two snapshots list none of the publications.  A track is published while the first one
    puts two others back, and one of these is unpublished when the second one has put it
    back. -/
def publishActs : List Act :=
  List.flatten
    [[.publish "TR_a" 1, .publish "TR_b" 2, .updateFromInfo { sid := "PA_me", version := 1 }],
     [.call 0, .call 0, .publish "TR_c" 3, .call 0, .call 0, .call 0],
     [.updateFromInfo { sid := "PA_me", version := 2 }, .call 0, .call 0, .call 0],
     [.unpublishTrack "TR_a" 1, .call 1, .call 0, .call 0, .call 0]]

theorem publications_right_publishActs :
    (publishActs.foldl Participant.step { info := { sid := "PA_me" } }).Right ∧
      ownedPublications (publishActs.foldl Participant.step
        { info := { sid := "PA_me" } }).trackPublications = [("TR_b", 2), ("TR_c", 3)] :=
  ⟨@publications_right _ publishActs _ (exec_guarded (by decide +kernel)) (by decide +kernel),
    by decide +kernel⟩

/-- A track is published after the snapshot was noted and before the map is gone through. -/
def publishedBetween : List Act :=
  List.flatten
    [[.updateFromInfo { sid := "PA_me", version := 1 }, .publish "TR_a" 1], updateSteps 0]

/-- A track is unpublished before it is put back. -/
def unpublishedBetween : List Act :=
  List.flatten
    [[.publish "TR_a" 1, .updateFromInfo { sid := "PA_me", version := 1 },
      .unpublishTrack "TR_a" 1, .call 1], updateSteps 1]

theorem publications_lost_and_resurrected :
    (publishedBetween.foldl Participant.step { info := { sid := "PA_me" } }).calls = [] ∧
      ¬ (publishedBetween.foldl Participant.step { info := { sid := "PA_me" } }).Right ∧
      (unpublishedBetween.foldl Participant.step { info := { sid := "PA_me" } }).calls = [] ∧
      ¬ (unpublishedBetween.foldl Participant.step { info := { sid := "PA_me" } }).Right := by
  refine ⟨by decide +kernel, ?_, by decide +kernel, ?_⟩
  · intro hright
    exact absurd (hright "TR_a") (by decide +kernel)
  · intro hright
    exact absurd (hright "TR_a") (by decide +kernel)

end LivekitClient.LocalPublications
