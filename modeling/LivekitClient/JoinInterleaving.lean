/-
  LivekitClient/JoinInterleaving.lean
  ===================================
  **A join response and the participant updates that follow it**
  (`Room::ApplyJoinResponse`, `Room::ParticipantUpdateEvent`).

  The join response is applied by the thread that connects, in up to three steps and
  possibly long after it was received; the updates of the same signal connection come
  in on the thread of the websocket.  What the store should hold in the end is the
  join response and after it the updates in their order.  An update that overtakes the
  join response is undone by it in several ways; what is proved is that in all other
  runs the two orders agree.
-/
import LivekitClient.RoomStore

namespace LivekitClient.JoinInterleaving

open LivekitClient.RoomStore
open LivekitClient.VersionedSlot

/-! ## 1. The threads -/

/-- A step of one of the threads.  The first six are those of the thread that
    connects; a media track is delivered or removed by the peer connection, or called
    again by a thread that found it ready. -/
inductive Step where
  | resetTransport
  | connectTransport
  | rtcConnected
  | joinLocal
  | joinClear
  | joinUpdate
  | update (updates : List ParticipantInfo)
  | mediaTrack (track : MediaTrack)
  | mediaTrackRemoved (sid : String)
  | replay (track : MediaTrack)
deriving DecidableEq

/-- The room, and the tracks that some thread is about to call `MediaTrackEvent` for. -/
structure State where
  room : Room
  ready : List MediaTrack := []

section Steps

variable (reconnecting : Bool) (join : JoinResponse)

def State.step (state : State) : Step → State
  | .resetTransport => state
  | .connectTransport => state
  | .rtcConnected => state
  | .joinLocal => { state with room := state.room.joinLocal reconnecting join }
  | .joinClear => { state with room := state.room.joinClear join }
  | .joinUpdate =>
    ⟨(state.room.joinUpdate join).1, state.ready ++ (state.room.joinUpdate join).2.2⟩
  | .update updates =>
    ⟨(state.room.applyParticipantUpdates true updates).1,
     state.ready ++ (state.room.applyParticipantUpdates true updates).2.2⟩
  | .mediaTrack track => { state with room := (state.room.mediaTrackEvent track).1 }
  | .mediaTrackRemoved sid => { state with room := (state.room.mediaTrackRemovedEvent sid).1 }
  | .replay track =>
    if track ∈ state.ready then
      ⟨(state.room.mediaTrackEvent track).1, state.ready.erase track⟩
    else state

def State.run (state : State) (steps : List Step) : State :=
  steps.foldl (State.step reconnecting join) state

theorem State.run_append (state : State) (steps more : List Step) :
    state.run reconnecting join (steps ++ more) =
      (state.run reconnecting join steps).run reconnecting join more :=
  List.foldl_append

theorem State.run_cons (state : State) (step : Step) (steps : List Step) :
    state.run reconnecting join (step :: steps) =
      (state.step reconnecting join step).run reconnecting join steps :=
  rfl

end Steps

def Step.ofJoinThread : Step → Bool
  | .resetTransport | .connectTransport | .rtcConnected => true
  | .joinLocal | .joinClear | .joinUpdate => true
  | _ => false

/-- `Room::Connect`, or `RunRecovery` with `ReconnectedEvent`. -/
def joinThread (reconnecting : Bool) : List Step :=
  if reconnecting then
    [.resetTransport, .connectTransport, .rtcConnected, .joinLocal, .joinClear, .joinUpdate]
  else [.connectTransport, .joinLocal, .joinUpdate]

/-- The updates of a run, in their order. -/
def updatesOf : List Step → List (List ParticipantInfo)
  | [] => []
  | .update updates :: rest => updates :: updatesOf rest
  | _ :: rest => updatesOf rest

/-- The join response first, then the updates; a full reconnect starts from the
    participants of the join response only. -/
def reference (reconnecting : Bool) (room : Room) (join : JoinResponse)
    (updates : List (List ParticipantInfo)) : Room :=
  let start := if reconnecting then { room with remoteParticipants := .empty } else room
  updates.foldl (fun room updates => (room.applyParticipantUpdates true updates).1)
    ((start.joinLocal reconnecting join).joinUpdate join).1

/-- The same participants with the same publications. -/
def SameParticipants (room room' : Room) : Prop :=
  ∀ sid, ((room.remoteParticipants.get? sid).isSome = (room'.remoteParticipants.get? sid).isSome) ∧
    ∀ participant participant', room.remoteParticipants.get? sid = some participant →
      room'.remoteParticipants.get? sid = some participant' →
        ∀ track, track ∈ participant.trackPublications ↔ track ∈ participant'.trackPublications

/-- The snapshots say who is there and with which publications. -/
theorem sameParticipants_of_snapshot {room room' : Room} (h : room.snapshot = room'.snapshot) :
    SameParticipants room room' := by
  intro sid
  have hsid : (room.remoteParticipants.get? sid).map (·.info) =
      (room'.remoteParticipants.get? sid).map (·.info) := congrFun h sid
  constructor
  · have hsome := congrArg Option.isSome hsid
    rwa [Option.isSome_map, Option.isSome_map] at hsome
  · intro participant participant' hget hget' track
    rw [hget, hget'] at hsid
    have hinfo : participant.info = participant'.info := Option.some.inj hsid
    rw [participant.mem_trackPublications, participant'.mem_trackPublications, hinfo]

/-! ## 2. Whose snapshots they are

The client tells its own snapshots by sid and identity, and both change when a
snapshot of its own comes in.  With one identity throughout, the snapshots of the
others are those with another identity. -/

/-- The snapshots of other participants. -/
def foreign (own : String) (infos : List ParticipantInfo) : List ParticipantInfo :=
  infos.filter fun info => info.sid ≠ "" ∧ info.identity ≠ own

theorem foreign_append (own : String) (infos more : List ParticipantInfo) :
    foreign own (infos ++ more) = foreign own infos ++ foreign own more := by
  simp [foreign]

/-- The local participant goes by `own`, and under none of the sids of the others. -/
structure Goes (own : String) (infos : List ParticipantInfo) (participant : LocalParticipant) :
    Prop where
  identity : participant.info.identity = own
  sid : ∀ info ∈ infos, info.identity ≠ own → info.sid ≠ participant.info.sid

/-- Own snapshots and those of others never share a sid. -/
def Apart (own : String) (infos : List ParticipantInfo) : Prop :=
  ∀ mine ∈ infos, mine.identity = own → ∀ info ∈ infos, info.identity ≠ own → info.sid ≠ mine.sid

section Naming

variable {own : String} {infos : List ParticipantInfo} (hown : own ≠ "") (hapart : Apart own infos)
include hown

theorem Goes.isNamedBy {participant : LocalParticipant} (h : Goes own infos participant)
    {info : ParticipantInfo} (hmem : info ∈ infos) :
    participant.isNamedBy info = decide (info.identity = own) := by
  unfold LocalParticipant.isNamedBy
  rw [h.identity]
  by_cases hmine : info.identity = own
  · simp [hmine, hown]
  · simp [hmine, h.sid info hmem hmine]

include hapart

omit hown in
theorem Goes.updateFromInfo {participant : LocalParticipant} (h : Goes own infos participant)
    {info : ParticipantInfo} (hmem : info ∈ infos) (hmine : info.identity = own) :
    Goes own infos (participant.updateFromInfo info) := by
  unfold LocalParticipant.updateFromInfo
  split
  · exact h
  · exact ⟨hmine, hapart info hmem hmine⟩

theorem Goes.afterInfos {participant : LocalParticipant} (h : Goes own infos participant)
    {more : List ParticipantInfo} (hsub : ∀ info ∈ more, info ∈ infos) :
    Goes own infos (participant.afterInfos more) ∧
      participant.remoteInfos more = foreign own more := by
  induction more generalizing participant with
  | nil => exact ⟨h, rfl⟩
  | cons info rest ih =>
    have hmem := hsub info List.mem_cons_self
    have hrest : ∀ other ∈ rest, other ∈ infos := fun other hother =>
      hsub other (List.mem_cons_of_mem _ hother)
    have hnamed := h.isNamedBy hown hmem
    rw [LocalParticipant.afterInfos, List.foldl_cons, ← LocalParticipant.afterInfos,
      LocalParticipant.remoteInfos, hnamed]
    by_cases hempty : info.sid = ""
    · rw [if_neg fun h => h.1 hempty, if_pos hempty]
      obtain ⟨hgoes, hremote⟩ := ih h hrest
      exact ⟨hgoes, by simp [hremote, foreign, hempty]⟩
    · by_cases hmine : info.identity = own
      · rw [if_pos ⟨hempty, by simp [hmine]⟩, if_neg hempty, if_pos (by simp [hmine])]
        obtain ⟨hgoes, hremote⟩ := ih (h.updateFromInfo hapart hmem hmine) hrest
        exact ⟨hgoes, by simp [hremote, foreign, hmine]⟩
      · rw [if_neg (by simp [hmine]), if_neg hempty, if_neg (by simp [hmine])]
        obtain ⟨hgoes, hremote⟩ := ih h hrest
        exact ⟨hgoes, by simp [hremote, foreign, hempty, hmine]⟩

end Naming

/-- A local participant that none of the snapshots is for. -/
theorem afterInfos_of_unnamed {participant : LocalParticipant} {own : String}
    {infos : List ParticipantInfo}
    (hunnamed : ∀ info ∈ infos, participant.isNamedBy info = false ∧ info.identity ≠ own) :
    participant.afterInfos infos = participant ∧
      participant.remoteInfos infos = foreign own infos := by
  induction infos with
  | nil => exact ⟨rfl, rfl⟩
  | cons info rest ih =>
    obtain ⟨hnamed, hmine⟩ := hunnamed info List.mem_cons_self
    obtain ⟨hafter, hremote⟩ := ih fun other hmem => hunnamed other (List.mem_cons_of_mem _ hmem)
    rw [LocalParticipant.afterInfos, List.foldl_cons, ← LocalParticipant.afterInfos,
      LocalParticipant.remoteInfos, if_neg (by simp [hnamed])]
    refine ⟨hafter, ?_⟩
    by_cases hempty : info.sid = ""
    · simp [hempty, hremote, foreign]
    · simp [hempty, hnamed, hmine, hremote, foreign]

/-! ## 3. Between the steps of the join thread -/

theorem afterInfos_append (participant : LocalParticipant) (infos more : List ParticipantInfo) :
    participant.afterInfos (infos ++ more) = (participant.afterInfos infos).afterInfos more :=
  List.foldl_append

theorem remoteInfos_append (participant : LocalParticipant) (infos more : List ParticipantInfo) :
    participant.remoteInfos (infos ++ more) =
      participant.remoteInfos infos ++ (participant.afterInfos infos).remoteInfos more := by
  induction infos generalizing participant with
  | nil => rfl
  | cons info rest ih =>
    rw [List.cons_append, LocalParticipant.remoteInfos, LocalParticipant.remoteInfos,
      LocalParticipant.afterInfos, List.foldl_cons, ← LocalParticipant.afterInfos]
    by_cases hempty : info.sid = ""
    · rw [if_pos hempty, if_pos hempty, if_neg fun h => h.1 hempty, ih]
    · by_cases hnamed : participant.isNamedBy info
      · rw [if_neg hempty, if_neg hempty, if_pos hnamed, if_pos hnamed,
          if_pos ⟨hempty, hnamed⟩, ih]
      · rw [if_neg hempty, if_neg hempty, if_neg hnamed, if_neg hnamed,
          if_neg fun h => hnamed h.2, ih, List.cons_append]

/-- All snapshots of the updates. -/
def infosOf (steps : List Step) : List ParticipantInfo := (updatesOf steps).flatten

theorem updatesOf_append (steps more : List Step) :
    updatesOf (steps ++ more) = updatesOf steps ++ updatesOf more := by
  induction steps with
  | nil => rfl
  | cons step rest ih =>
    cases step <;> simp [updatesOf, ih]

theorem infosOf_append (steps more : List Step) :
    infosOf (steps ++ more) = infosOf steps ++ infosOf more := by
  simp [infosOf, updatesOf_append]

/-- The steps in which the join response is applied. -/
def Step.appliesJoin : Step → Bool
  | .joinLocal | .joinClear | .joinUpdate => true
  | _ => false

/-- The local participant and the snapshots after a number of updates. -/
structure After (room : Room) (infos : List ParticipantInfo) (room' : Room) : Prop where
  localParticipant : room'.localParticipant = room.localParticipant.afterInfos infos
  snapshot : ∀ sid, room'.snapshot sid = writes versionOf (room.snapshot sid)
    (writesFor sid (room.localParticipant.remoteInfos infos))

theorem After.of_frame {room room' : Room} (hsnapshot : room'.snapshot = room.snapshot)
    (hlocal : room'.localParticipant = room.localParticipant) : After room [] room' :=
  ⟨hlocal, fun sid => congrFun hsnapshot sid⟩

theorem After.refl (room : Room) : After room [] room := .of_frame rfl rfl

theorem After.trans {room room' room'' : Room} {infos more : List ParticipantInfo}
    (h : After room infos room') (h' : After room' more room'') :
    After room (infos ++ more) room'' where
  localParticipant := by
    rw [h'.localParticipant, h.localParticipant, afterInfos_append]
  snapshot := by
    intro sid
    rw [h'.snapshot, h.snapshot, h.localParticipant, remoteInfos_append, writesFor_append,
      writes_append]

theorem after_update (emitEvents : Bool) (room : Room) (updates : List ParticipantInfo) :
    After room updates (room.applyParticipantUpdates emitEvents updates).1 :=
  ⟨room.localParticipant_applyParticipantUpdates emitEvents updates,
   room.snapshot_applyParticipantUpdates emitEvents updates⟩

theorem after_foldl_updates (room : Room) (updates : List (List ParticipantInfo)) :
    After room updates.flatten
      (updates.foldl (fun room updates => (room.applyParticipantUpdates true updates).1) room) := by
  induction updates generalizing room with
  | nil => exact .refl room
  | cons first rest ih => exact (after_update true room first).trans (ih _)

section Runs

variable (reconnecting : Bool) (join : JoinResponse)

theorem after_step (state : State) {step : Step} (hidle : step.appliesJoin = false) :
    After state.room (infosOf [step]) (state.step reconnecting join step).room := by
  cases step with
  | update updates =>
    rw [show infosOf [.update updates] = updates from List.append_nil updates]
    exact after_update true state.room updates
  | mediaTrack track =>
    exact .of_frame (state.room.mediaTrackEvent_frame track).1
      (state.room.mediaTrackEvent_frame track).2
  | mediaTrackRemoved sid =>
    exact .of_frame (state.room.mediaTrackRemovedEvent_frame sid).1
      (state.room.mediaTrackRemovedEvent_frame sid).2
  | replay track =>
    simp only [State.step]
    split
    · exact .of_frame (state.room.mediaTrackEvent_frame track).1
        (state.room.mediaTrackEvent_frame track).2
    · exact .refl _
  | resetTransport => exact .refl _
  | connectTransport => exact .refl _
  | rtcConnected => exact .refl _
  | _ => cases hidle

theorem after_run (state : State) {steps : List Step}
    (hidle : ∀ step ∈ steps, step.appliesJoin = false) :
    After state.room (infosOf steps) (state.run reconnecting join steps).room := by
  induction steps generalizing state with
  | nil => exact .refl _
  | cons step rest ih =>
    have hfirst := after_step reconnecting join state (hidle step List.mem_cons_self)
    have hrest := ih (state.step reconnecting join step) fun other hmem =>
      hidle other (List.mem_cons_of_mem _ hmem)
    rw [← List.singleton_append, infosOf_append]
    exact hfirst.trans hrest

end Runs

/-! ## 4. Updates that do no harm -/

/-- The snapshots that are processed before a step of the join thread. -/
def infosBefore (step : Step) (steps : List Step) : List ParticipantInfo :=
  infosOf (steps.takeWhile (· ≠ step))

/-- The snapshots of the join response and of the updates. -/
def allInfos (join : JoinResponse) (steps : List Step) : List ParticipantInfo :=
  join.otherParticipants ++ infosOf steps

/-- The client is known by one identity, before and after it has joined. -/
structure OneIdentity (own : String) (room : Room) (join : JoinResponse) (steps : List Step) :
    Prop where
  ne_empty : own ≠ ""
  apart : Apart own (allInfos join steps)
  joined : ∀ info ∈ join.participant, info.identity = own ∧
    ∀ other ∈ allInfos join steps, other.identity ≠ own → other.sid ≠ info.sid
  before : Goes own (allInfos join steps) room.localParticipant ∨
    ((∃ info ∈ join.participant, isStale room.localParticipant.info info = false) ∧
      ∀ info ∈ infosBefore .joinLocal steps,
        room.localParticipant.isNamedBy info = false ∧ info.identity ≠ own)

/-- What the updates that overtake the join response may say.  Of a participant that
    it lists: nothing with the version that it lists, and no DISCONNECTED without a
    newer snapshot after it.  Of one that it does not list, before a full reconnect
    has cleared the store: in the end, that it is DISCONNECTED. -/
structure InOrder (own : String) (reconnecting : Bool) (room : Room) (join : JoinResponse)
    (steps : List Step) : Prop where
  identity : OneIdentity own room join steps
  listed : ∀ info ∈ join.otherParticipants,
    info.sid ≠ "" ∧ info.identity ≠ own ∧ info.state ≠ .disconnected
  nodup : (join.otherParticipants.map (·.sid)).Nodup
  held : reconnecting = true → ∀ info ∈ join.otherParticipants,
    Older versionOf info (room.snapshot info.sid)
  version_ne : ∀ info ∈ join.otherParticipants,
    ∀ early ∈ foreign own (infosBefore .joinUpdate steps),
      early.sid = info.sid → early.state ≠ .disconnected → versionOf early ≠ versionOf info
  restored : ∀ info ∈ join.otherParticipants, Restored versionOf info
    (writesFor info.sid (foreign own (infosBefore .joinUpdate steps)))
  unlisted : reconnecting = true → ∀ sid ∉ join.otherParticipants.map (·.sid),
    writesFor sid (foreign own (infosBefore .joinClear steps)) = [] ∨
      (writesFor sid (foreign own (infosBefore .joinClear steps))).getLast? = some .drop

theorem Goes.joinLocal {own : String} {infos : List ParticipantInfo} {room : Room}
    (h : Goes own infos room.localParticipant) (reconnecting : Bool) {join : JoinResponse}
    (hjoin : ∀ info ∈ join.participant, info.identity = own ∧
      ∀ other ∈ infos, other.identity ≠ own → other.sid ≠ info.sid) :
    Goes own infos (room.joinLocal reconnecting join).localParticipant := by
  unfold Room.joinLocal
  split
  · exact h
  · rename_i info hsome
    obtain ⟨hmine, hapart⟩ := hjoin info hsome
    unfold LocalParticipant.updateInfoFields LocalParticipant.updateFromInfo
    dsimp only
    split <;> split
    · exact h
    · exact ⟨hmine, hapart⟩
    · exact h
    · exact ⟨hmine, hapart⟩

theorem goes_joinLocal_of_fresh {own : String} {infos : List ParticipantInfo} {room : Room}
    (reconnecting : Bool) {join : JoinResponse}
    (hfresh : ∃ info ∈ join.participant, isStale room.localParticipant.info info = false)
    (hjoin : ∀ info ∈ join.participant, info.identity = own ∧
      ∀ other ∈ infos, other.identity ≠ own → other.sid ≠ info.sid) :
    Goes own infos (room.joinLocal reconnecting join).localParticipant := by
  obtain ⟨info, hsome, hstale⟩ := hfresh
  obtain ⟨hmine, hapart⟩ := hjoin info hsome
  have hsome' : join.participant = some info := hsome
  unfold Room.joinLocal
  rw [hsome']
  unfold LocalParticipant.updateInfoFields LocalParticipant.updateFromInfo
  dsimp only
  rw [hstale]
  cases reconnecting <;> exact ⟨hmine, hapart⟩

/-- A participant that is listed once. -/
theorem writesFor_listed {infos : List ParticipantInfo} (hnodup : (infos.map (·.sid)).Nodup)
    {info : ParticipantInfo} (hmem : info ∈ infos) :
    writesFor info.sid infos = [snapshotWrite info] := by
  induction infos with
  | nil => cases hmem
  | cons first rest ih =>
    rw [List.map_cons, List.nodup_cons] at hnodup
    rcases List.mem_cons.mp hmem with rfl | hrest
    · have hnone : rest.filter (fun other => other.sid = info.sid) = [] := by
        refine List.filter_eq_nil_iff.mpr fun other hother => ?_
        simp only [decide_eq_true_eq]
        exact fun heq => hnodup.1 (heq ▸ List.mem_map_of_mem hother)
      simp [writesFor, hnone]
    · have hne : first.sid ≠ info.sid := fun heq =>
        hnodup.1 (heq ▸ List.mem_map_of_mem hrest)
      have htail := ih hnodup.2 hrest
      unfold writesFor at htail ⊢
      rw [List.filter_cons_of_neg (by simpa using hne), htail]

section Listed

variable {own : String} {reconnecting : Bool} {room : Room} {join : JoinResponse}
  {steps : List Step} (h : InOrder own reconnecting room join steps)
include h

theorem InOrder.foreign_others :
    foreign own join.otherParticipants = join.otherParticipants := by
  refine List.filter_eq_self.mpr fun info hmem => ?_
  obtain ⟨hne, hforeign, -⟩ := h.listed info hmem
  simp [hne, hforeign]

theorem InOrder.writesFor_listed {info : ParticipantInfo}
    (hmem : info ∈ join.otherParticipants) :
    writesFor info.sid join.otherParticipants = [.put info] := by
  rw [JoinInterleaving.writesFor_listed h.nodup hmem, snapshotWrite,
    if_neg (h.listed info hmem).2.2]

omit h in
theorem writesFor_unlisted {sid : String} (hunlisted : sid ∉ join.otherParticipants.map (·.sid)) :
    writesFor sid join.otherParticipants = [] := by
  rw [writesFor, List.map_eq_nil_iff, List.filter_eq_nil_iff]
  intro info hmem
  simp only [decide_eq_true_eq]
  exact fun heq => hunlisted (heq ▸ List.mem_map_of_mem hmem)

/-- The snapshot of the join response can be put in after the early ones. -/
theorem InOrder.write_early {info : ParticipantInfo} (hmem : info ∈ join.otherParticipants)
    (slot : Option ParticipantInfo) :
    write versionOf
        (writes versionOf slot
          (writesFor info.sid (foreign own (infosBefore .joinUpdate steps)))) (.put info) =
      writes versionOf (write versionOf slot (.put info))
        (writesFor info.sid (foreign own (infosBefore .joinUpdate steps))) := by
  refine write_writes ?_ (h.restored info hmem) slot
  intro early hput
  obtain ⟨found, hfound, hwrite⟩ := List.mem_map.mp hput
  obtain ⟨hfound, hsid⟩ := List.mem_filter.mp hfound
  unfold snapshotWrite at hwrite
  split at hwrite
  · cases hwrite
  · rename_i hstate
    rw [← Write.put.inj hwrite]
    exact h.version_ne info hmem found hfound (by simpa using hsid) hstate

end Listed

/-! ## 5. The two orders agree -/

section Agree

variable {own : String} {reconnecting : Bool} {room : Room} {join : JoinResponse}

/-- The room from the time on when the local participant has joined. -/
theorem After.foreign {infos more : List ParticipantInfo} {room' : Room}
    (hafter : After room more room') (hown : own ≠ "") (hapart : Apart own infos)
    (hgoes : Goes own infos room.localParticipant) (hsub : ∀ info ∈ more, info ∈ infos) :
    Goes own infos room'.localParticipant ∧
      ∀ sid, room'.snapshot sid =
        writes versionOf (room.snapshot sid) (writesFor sid (foreign own more)) := by
  obtain ⟨hnext, hremote⟩ := hgoes.afterInfos hown hapart hsub
  refine ⟨?_, ?_⟩
  · rw [hafter.localParticipant]
    exact hnext
  · intro sid
    rw [hafter.snapshot, hremote]

/-- The reference, in the slots. -/
theorem InOrder.snapshot_reference {steps : List Step}
    (h : InOrder own reconnecting room join steps) (sid : String) :
    (reference reconnecting room join (updatesOf steps)).snapshot sid =
      writes versionOf
        (writes versionOf (if reconnecting then none else room.snapshot sid)
          (writesFor sid join.otherParticipants))
        (writesFor sid (foreign own (infosOf steps))) := by
  have hown := h.identity.ne_empty
  have hapart := h.identity.apart
  have hothers : ∀ info ∈ join.otherParticipants, info ∈ allInfos join steps := by
    intro info hmem
    exact List.mem_append_left _ hmem
  have hsteps : ∀ info ∈ infosOf steps, info ∈ allInfos join steps := by
    intro info hmem
    exact List.mem_append_right _ hmem
  unfold reference
  dsimp only
  generalize hstart : (if reconnecting then { room with remoteParticipants := Participants.empty }
    else room) = start
  have hlocal : start.localParticipant = room.localParticipant := by
    rw [← hstart]
    split <;> rfl
  have hsnapshot : start.snapshot sid = if reconnecting then none else room.snapshot sid := by
    rw [← hstart]
    split
    · simp [Room.snapshot, Participants.snapshot]
    · rfl
  have hgoes : Goes own (allInfos join steps)
      (start.joinLocal reconnecting join).localParticipant := by
    rcases h.identity.before with hbefore | ⟨hfresh, -⟩
    · rw [← hlocal] at hbefore
      exact hbefore.joinLocal reconnecting h.identity.joined
    · rw [← hlocal] at hfresh
      exact goes_joinLocal_of_fresh reconnecting hfresh h.identity.joined
  obtain ⟨hgoes', hjoined⟩ := (after_update false (start.joinLocal reconnecting join)
    join.otherParticipants).foreign hown hapart hgoes hothers
  obtain ⟨-, hupdated⟩ := (after_foldl_updates
    ((start.joinLocal reconnecting join).joinUpdate join).1 (updatesOf steps)).foreign hown hapart
      hgoes' hsteps
  rw [hupdated, show (updatesOf steps).flatten = infosOf steps from rfl]
  rw [show ((start.joinLocal reconnecting join).joinUpdate join).1.snapshot sid = _ from hjoined sid,
    h.foreign_others, Room.joinLocal_frame, hsnapshot]

/-- Up to the time when the local participant joins. -/
theorem OneIdentity.joinLocal {steps : List Step} (h : OneIdentity own room join steps)
    {before : List ParticipantInfo} (hbefore : before = infosBefore .joinLocal steps)
    (hsub : ∀ info ∈ before, info ∈ allInfos join steps) {room' : Room}
    (hafter : After room before room') (reconnecting : Bool) :
    Goes own (allInfos join steps) (room'.joinLocal reconnecting join).localParticipant ∧
      ∀ sid, (room'.joinLocal reconnecting join).snapshot sid =
        writes versionOf (room.snapshot sid) (writesFor sid (foreign own before)) := by
  rw [Room.joinLocal_frame]
  rcases h.before with hgoes | ⟨hfresh, hunnamed⟩
  · obtain ⟨hgoes', hsnapshot⟩ := hafter.foreign h.ne_empty h.apart hgoes hsub
    exact ⟨hgoes'.joinLocal reconnecting h.joined, hsnapshot⟩
  · rw [← hbefore] at hunnamed
    obtain ⟨hsame, hremote⟩ := afterInfos_of_unnamed hunnamed
    refine ⟨?_, ?_⟩
    · refine goes_joinLocal_of_fresh reconnecting ?_ h.joined
      rw [hafter.localParticipant, hsame]
      exact hfresh
    · intro sid
      rw [hafter.snapshot, hremote]

end Agree

theorem infosBefore_append {step : Step} {before rest : List Step} (hbefore : step ∉ before) :
    infosBefore step (before ++ step :: rest) = infosOf before := by
  unfold infosBefore
  rw [List.takeWhile_append_of_pos, List.takeWhile_cons_of_neg (by simp), List.append_nil]
  intro other hmem
  simp only [decide_eq_true_eq]
  rintro rfl
  exact hbefore hmem

theorem not_mem_of_idle {steps : List Step} (hidle : ∀ step ∈ steps, ¬ step.appliesJoin = true)
    {step : Step} (hstep : step.appliesJoin = true) : step ∉ steps :=
  fun hmem => hidle step hmem hstep

theorem filter_appliesJoin {reconnecting : Bool} {steps : List Step}
    (hthread : steps.filter Step.ofJoinThread = joinThread reconnecting) :
    steps.filter Step.appliesJoin =
      if reconnecting then [.joinLocal, .joinClear, .joinUpdate] else [.joinLocal, .joinUpdate] := by
  have hsame : (fun step : Step => step.appliesJoin && step.ofJoinThread) = Step.appliesJoin := by
    funext step
    cases step <;> rfl
  rw [← hsame, ← List.filter_filter, hthread]
  cases reconnecting <;> rfl

/-- A full reconnect, cut at the steps in which the join response is applied. -/
theorem exists_reconnect_split {steps : List Step}
    (hthread : steps.filter Step.ofJoinThread = joinThread true) :
    ∃ s0 s1 s2 s3,
      steps = s0 ++ Step.joinLocal :: (s1 ++ Step.joinClear :: (s2 ++ Step.joinUpdate :: s3)) ∧
      (∀ step ∈ s0, ¬ step.appliesJoin = true) ∧ (∀ step ∈ s1, ¬ step.appliesJoin = true) ∧
      (∀ step ∈ s2, ¬ step.appliesJoin = true) ∧ ∀ step ∈ s3, ¬ step.appliesJoin = true := by
  have hfilter := filter_appliesJoin hthread
  obtain ⟨s0, rest, rfl, hidle0, -, hfilter⟩ := List.filter_eq_cons_iff.mp hfilter
  obtain ⟨s1, rest, rfl, hidle1, -, hfilter⟩ := List.filter_eq_cons_iff.mp hfilter
  obtain ⟨s2, s3, rfl, hidle2, -, hfilter⟩ := List.filter_eq_cons_iff.mp hfilter
  exact ⟨s0, s1, s2, s3, rfl, hidle0, hidle1, hidle2, List.filter_eq_nil_iff.mp hfilter⟩

/-- What comes before the old participants are cleared. -/
theorem takeWhile_joinClear {s0 s1 rest : List Step}
    (hidle0 : ∀ step ∈ s0, ¬ step.appliesJoin = true)
    (hidle1 : ∀ step ∈ s1, ¬ step.appliesJoin = true) :
    (s0 ++ .joinLocal :: (s1 ++ .joinClear :: rest)).takeWhile (· ≠ .joinClear) =
      s0 ++ .joinLocal :: s1 := by
  rw [← List.cons_append, ← List.append_assoc, List.takeWhile_append_of_pos,
    List.takeWhile_cons_of_neg (by simp), List.append_nil]
  intro step hmem
  simp only [decide_eq_true_eq]
  rintro rfl
  rcases List.mem_append.mp hmem with hmem | hmem
  · exact hidle0 _ hmem rfl
  · rcases List.mem_cons.mp hmem with heq | hmem
    · cases heq
    · exact hidle1 _ hmem rfl

section Run

variable {own : String} {reconnecting : Bool} {room : Room} {join : JoinResponse}
  {steps : List Step}

theorem writes_foreign_append (own sid : String) (slot : Option ParticipantInfo)
    (infos more : List ParticipantInfo) :
    writes versionOf (writes versionOf slot (writesFor sid (foreign own infos)))
        (writesFor sid (foreign own more)) =
      writes versionOf slot (writesFor sid (foreign own (infos ++ more))) := by
  rw [foreign_append, writesFor_append, writes_append]

/-- From the update of the join response on. -/
theorem InOrder.finish (h : InOrder own reconnecting room join steps) {state : State}
    (hgoes : Goes own (allInfos join steps) state.room.localParticipant) {rest : List Step}
    (hidle : ∀ step ∈ rest, ¬ step.appliesJoin = true)
    (hinfos : infosOf steps = infosBefore .joinUpdate steps ++ infosOf rest)
    (hslot : ∀ sid,
      writes versionOf (state.room.snapshot sid) (writesFor sid join.otherParticipants) =
        writes versionOf
          (writes versionOf (if reconnecting then none else room.snapshot sid)
            (writesFor sid join.otherParticipants))
          (writesFor sid (foreign own (infosBefore .joinUpdate steps)))) :
    (state.run reconnecting join (.joinUpdate :: rest)).room.snapshot =
      (reference reconnecting room join (updatesOf steps)).snapshot := by
  have hown := h.identity.ne_empty
  have hapart := h.identity.apart
  have hothers : ∀ info ∈ join.otherParticipants, info ∈ allInfos join steps :=
    fun info hmem => List.mem_append_left _ hmem
  have hrest : ∀ info ∈ infosOf rest, info ∈ allInfos join steps := by
    intro info hmem
    rw [allInfos, hinfos]
    exact List.mem_append_right _ (List.mem_append_right _ hmem)
  obtain ⟨hgoes', hjoined⟩ :=
    (after_update false state.room join.otherParticipants).foreign hown hapart hgoes hothers
  obtain ⟨-, hlast⟩ := (after_run reconnecting join
    ⟨(state.room.joinUpdate join).1, state.ready ++ (state.room.joinUpdate join).2.2⟩
    fun step hmem => by simpa using hidle step hmem).foreign hown hapart hgoes' hrest
  funext sid
  rw [State.run_cons, State.step, hlast, h.snapshot_reference, hinfos, foreign_append,
    writesFor_append, writes_append, ← hslot, ← h.foreign_others]
  exact congrArg (writes versionOf · _) (hjoined sid)

/-- A first connection: nothing is cleared. -/
theorem InOrder.snapshot_connect (h : InOrder own false room join steps)
    (hthread : steps.filter Step.ofJoinThread = joinThread false) (ready : List MediaTrack) :
    ((⟨room, ready⟩ : State).run false join steps).room.snapshot =
      (reference false room join (updatesOf steps)).snapshot := by
  have hfilter := filter_appliesJoin hthread
  obtain ⟨s0, rest, hsteps, hidle0, -, hfilter⟩ := List.filter_eq_cons_iff.mp hfilter
  obtain ⟨s1, s2, hrest, hidle1, -, hfilter⟩ := List.filter_eq_cons_iff.mp hfilter
  have hidle2 := List.filter_eq_nil_iff.mp hfilter
  have hsplit : steps = (s0 ++ .joinLocal :: s1) ++ .joinUpdate :: s2 := by
    rw [hsteps, hrest, List.append_assoc, List.cons_append]
  have hbefore : infosBefore .joinLocal steps = infosOf s0 := by
    rw [hsteps]
    exact infosBefore_append (not_mem_of_idle hidle0 rfl)
  have hearly : infosBefore .joinUpdate steps = infosOf s0 ++ infosOf s1 := by
    rw [hsplit, infosBefore_append, infosOf_append]
    · rfl
    · simp [@not_mem_of_idle _ hidle0 .joinUpdate rfl, @not_mem_of_idle _ hidle1 .joinUpdate rfl]
  have hinfos : infosOf steps = infosBefore .joinUpdate steps ++ infosOf s2 := by
    rw [hearly, hsplit, infosOf_append, infosOf_append]
    rfl
  have hmem0 : ∀ info ∈ infosOf s0, info ∈ allInfos join steps := by
    intro info hmem
    rw [allInfos, hinfos, hearly]
    simp [hmem]
  have hmem1 : ∀ info ∈ infosOf s1, info ∈ allInfos join steps := by
    intro info hmem
    rw [allInfos, hinfos, hearly]
    simp [hmem]
  let state0 := ((⟨room, ready⟩ : State).run false join s0).step false join .joinLocal
  obtain ⟨hgoes0, hsnapshot0⟩ := h.identity.joinLocal hbefore.symm hmem0
    (after_run false join ⟨room, ready⟩ fun step hmem => by simpa using hidle0 step hmem) false
  obtain ⟨hgoes1, hsnapshot1⟩ := (after_run false join state0
    fun step hmem => by simpa using hidle1 step hmem).foreign h.identity.ne_empty h.identity.apart
      hgoes0 hmem1
  have hrun : (⟨room, ready⟩ : State).run false join steps =
      (state0.run false join s1).run false join (.joinUpdate :: s2) := by
    rw [hsteps, hrest, State.run_append, State.run_cons, State.run_append]
  rw [hrun]
  refine h.finish hgoes1 hidle2 hinfos fun sid => ?_
  have hslot : state0.room.snapshot sid = _ := hsnapshot0 sid
  rw [hsnapshot1, hslot, writes_foreign_append, ← hearly]
  by_cases hlisted : sid ∈ join.otherParticipants.map (·.sid)
  · obtain ⟨info, hmem, rfl⟩ := List.mem_map.mp hlisted
    rw [h.writesFor_listed hmem]
    exact h.write_early hmem _
  · rw [writesFor_unlisted hlisted]
    rfl

/-- A full reconnect: what is not listed is cleared in between. -/
theorem InOrder.snapshot_reconnect (h : InOrder own true room join steps)
    (hthread : steps.filter Step.ofJoinThread = joinThread true) (ready : List MediaTrack) :
    ((⟨room, ready⟩ : State).run true join steps).room.snapshot =
      (reference true room join (updatesOf steps)).snapshot := by
  obtain ⟨s0, s1, s2, s3, hsteps, hidle0, hidle1, hidle2, hidle3⟩ :=
    exists_reconnect_split hthread
  have hsplit : steps =
      ((s0 ++ .joinLocal :: s1) ++ .joinClear :: s2) ++ .joinUpdate :: s3 := by
    rw [hsteps]
    simp only [List.append_assoc, List.cons_append]
  have hbefore : infosBefore .joinLocal steps = infosOf s0 := by
    rw [hsteps]
    exact infosBefore_append (not_mem_of_idle hidle0 rfl)
  have hcleared : infosBefore .joinClear steps = infosOf s0 ++ infosOf s1 := by
    rw [infosBefore, hsteps, takeWhile_joinClear hidle0 hidle1, infosOf_append]
    rfl
  have hearly : infosBefore .joinUpdate steps = infosBefore .joinClear steps ++ infosOf s2 := by
    rw [hcleared, hsplit, infosBefore_append, infosOf_append, infosOf_append]
    · rfl
    · simp [@not_mem_of_idle _ hidle0 .joinUpdate rfl, @not_mem_of_idle _ hidle1 .joinUpdate rfl,
        @not_mem_of_idle _ hidle2 .joinUpdate rfl]
  have hinfos : infosOf steps = infosBefore .joinUpdate steps ++ infosOf s3 := by
    rw [hearly, hcleared, hsplit, infosOf_append, infosOf_append, infosOf_append]
    rfl
  have hmem : ∀ info ∈ infosOf s0 ++ infosOf s1 ++ infosOf s2, info ∈ allInfos join steps := by
    intro info hmem
    rw [allInfos, hinfos, hearly, hcleared]
    exact List.mem_append_right _ (List.mem_append_left _ hmem)
  have hmem0 : ∀ info ∈ infosOf s0, info ∈ allInfos join steps :=
    fun info hinfo => hmem info (by simp [hinfo])
  have hmem1 : ∀ info ∈ infosOf s1, info ∈ allInfos join steps :=
    fun info hinfo => hmem info (by simp [hinfo])
  have hmem2 : ∀ info ∈ infosOf s2, info ∈ allInfos join steps :=
    fun info hinfo => hmem info (by simp [hinfo])
  have hown := h.identity.ne_empty
  have hapart := h.identity.apart
  let state0 := ((⟨room, ready⟩ : State).run true join s0).step true join .joinLocal
  obtain ⟨hgoes0, hsnapshot0⟩ := h.identity.joinLocal hbefore.symm hmem0
    (after_run true join ⟨room, ready⟩ fun step hmem => by simpa using hidle0 step hmem) true
  obtain ⟨hgoes1, hsnapshot1⟩ := (after_run true join state0
    fun step hmem => by simpa using hidle1 step hmem).foreign hown hapart hgoes0 hmem1
  let state1 := (state0.run true join s1).step true join .joinClear
  obtain ⟨hgoes2, hsnapshot2⟩ := (after_run true join state1
    fun step hmem => by simpa using hidle2 step hmem).foreign hown hapart hgoes1 hmem2
  have hrun : (⟨room, ready⟩ : State).run true join steps =
      (state1.run true join s2).run true join (.joinUpdate :: s3) := by
    rw [hsteps, State.run_append, State.run_cons, State.run_append, State.run_cons,
      State.run_append]
  rw [hrun]
  refine h.finish hgoes2 hidle3 hinfos fun sid => ?_
  have hclear : state1.room.snapshot sid =
      if sid ∈ join.otherParticipants.map (·.sid) then
        writes versionOf (room.snapshot sid)
          (writesFor sid (foreign own (infosBefore .joinClear steps)))
      else none := by
    have hslot : state0.room.snapshot sid = _ := hsnapshot0 sid
    have hcut' : state1.room.snapshot sid = _ := Room.snapshot_joinClear _ join sid
    rw [hcut', hsnapshot1, hslot, writes_foreign_append, ← hcleared]
  rw [hsnapshot2, hclear, if_pos rfl]
  by_cases hlisted : sid ∈ join.otherParticipants.map (·.sid)
  · obtain ⟨info, hmem, rfl⟩ := List.mem_map.mp hlisted
    rw [if_pos hlisted, h.writesFor_listed hmem, writes_foreign_append, ← hearly]
    apply (h.write_early hmem _).trans
    rw [(h.held rfl info hmem).write_put]
    rfl
  · rw [if_neg hlisted, writesFor_unlisted hlisted, hearly, ← writes_foreign_append]
    rcases h.unlisted rfl sid hlisted with hnone | hlast
    · rw [hnone]
      rfl
    · rw [writes_eq_none_of_getLast? versionOf hlast]
      rfl

end Run

/-- **The join response and the updates agree** with the join response first, in every
    interleaving whose early updates do no harm. -/
theorem join_then_updates {own : String} {reconnecting : Bool} {room : Room}
    {join : JoinResponse} {steps : List Step}
    (hthread : steps.filter Step.ofJoinThread = joinThread reconnecting)
    (h : InOrder own reconnecting room join steps) (ready : List MediaTrack) :
    SameParticipants ((⟨room, ready⟩ : State).run reconnecting join steps).room
      (reference reconnecting room join (updatesOf steps)) := by
  apply sameParticipants_of_snapshot
  cases reconnecting with
  | false => exact h.snapshot_connect hthread ready
  | true => exact h.snapshot_reconnect hthread ready

/-! ### A run of each kind -/

/-- A room in a full reconnect, and the join response of the new connection. -/
def rejoining : Room :=
  { localParticipant := ⟨{ sid := "PA_me1", identity := "me" }, ∅⟩ }

def rejoin : JoinResponse where
  participant := some { sid := "PA_me2", identity := "me" }
  otherParticipants := [{ sid := "PA_alice", identity := "alice", version := 1 }]

def aliceUpdate : List ParticipantInfo :=
  [{ sid := "PA_alice", identity := "alice", version := 2, tracks := [{ sid := "TR_a" }] }]

def bobUpdate : List ParticipantInfo := [{ sid := "PA_bob", identity := "bob", version := 1 }]

/-- A publication of a listed participant is announced while the client still waits. -/
def earlyPublication : List Step :=
  [.resetTransport, .connectTransport, .update aliceUpdate, .rtcConnected, .joinLocal, .joinClear,
   .joinUpdate, .update bobUpdate]

theorem sameParticipants_earlyPublication :
    SameParticipants ((⟨rejoining, []⟩ : State).run true rejoin earlyPublication).room
      (reference true rejoining rejoin (updatesOf earlyPublication)) := by
  have hwrites : writesFor "PA_alice" (foreign "me" (infosBefore .joinUpdate earlyPublication)) =
      aliceUpdate.map .put := by decide
  have hclear : infosBefore .joinClear earlyPublication = aliceUpdate := by decide
  have hsnapshot : rejoining.snapshot "PA_alice" = none := by
    simp [rejoining, Room.snapshot, Participants.snapshot]
  refine @join_then_updates "me" true rejoining rejoin earlyPublication (by decide) ?_ []
  refine ⟨⟨by decide, ?_, ?_, .inl ⟨rfl, by decide⟩⟩, by decide, by decide, ?_, by decide, ?_, ?_⟩
  · unfold Apart
    decide
  · rintro _ ⟨⟩
    decide
  · intro _ info hmem
    rw [List.mem_singleton.mp hmem, hsnapshot]
    intro held hheld
    cases hheld
  · intro info hmem
    rw [List.mem_singleton.mp hmem, hwrites]
    intro before after heq
    cases before with
    | nil => cases heq
    | cons first rest => cases rest <;> simp [aliceUpdate] at heq
  · intro _ sid hunlisted
    left
    rw [hclear]
    have hne : "PA_alice" ≠ sid := by
      rintro rfl
      exact hunlisted (by decide)
    simp [writesFor, foreign, aliceUpdate, hne]

/-- Someone joins while the client still waits, and is cleared with the old store. -/
def earlyJoin : List Step :=
  [.resetTransport, .connectTransport, .update bobUpdate, .rtcConnected, .joinLocal, .joinClear,
   .joinUpdate]

/-- The updates of the connection do not always survive its own join response. -/
theorem early_update_is_lost :
    ¬ ∀ (reconnecting : Bool) (room : Room) (join : JoinResponse) (steps : List Step),
      steps.filter Step.ofJoinThread = joinThread reconnecting →
        infosBefore .connectTransport steps = [] →
          SameParticipants ((⟨room, []⟩ : State).run reconnecting join steps).room
            (reference reconnecting room join (updatesOf steps)) := by
  intro hall
  have hsame := (hall true rejoining rejoin earlyJoin (by decide) (by decide) "PA_bob").1
  exact absurd hsame (by decide +kernel)

end LivekitClient.JoinInterleaving
