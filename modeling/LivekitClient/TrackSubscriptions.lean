/-
  LivekitClient/TrackSubscriptions.lean
  =====================================
  **Reporting that a local track is subscribed** (`LocalParticipant::PublishTrack`,
  `LocalTrackSubscribed` and `UnpublishTrack` in
  `src/core/participant/local_participant.cpp`).

  The server's signal may come before the publication is in the map, while it is put
  there, or later, and more than once.  A signal notes the sid first and looks for the
  publication then; the publish puts the publication into the map first and looks for the
  sid then.  Whoever finds the other's mark reports, if nobody has: the second set, under
  the same mutex as the first, says who.

  The sections under the two mutexes and the calls of the listener are the steps, and the
  threads take them in any order.
-/
import LivekitClient.Runs

namespace LivekitClient.TrackSubscriptions

open Std Runs

/-! ## 1. The participant -/

/-- What the listener is told, of the publication with a number. -/
inductive Event where
  | onLocalTrackPublished (sid : String) (publication : Nat)
  | onLocalTrackSubscribed (sid : String) (publication : Nat)
  | onLocalTrackUnpublished (sid : String)
deriving DecidableEq

inductive Caller where
  | publishTrack
  | localTrackSubscribed
  | unpublishTrack
deriving DecidableEq

/-- Where a call is.  `PublishTrack`: before `AddTrackPublication`, before it tells of the
    publication, before its section.  `LocalTrackSubscribed`: before its first section,
    before the snapshot of the map, before its second section.  Both: about to tell of the
    subscription.  `UnpublishTrack`: before `RemoveTrackPublication`, before its section,
    before it tells. -/
inductive Call where
  | add (sid : String) (publication : Nat)
  | notify (sid : String) (publication : Nat)
  | check (sid : String) (publication : Nat)
  | insert (sid : String)
  | find (sid : String)
  | claim (sid : String) (publication : Nat)
  | emit (caller : Caller) (sid : String) (publication : Nat)
  | remove (sid : String)
  | erase (sid : String)
  | tell (sid : String)
  | done (caller : Caller) (sid : String)
deriving DecidableEq

structure Participant where
  eventListener : Bool := true
  trackPublications : ExtTreeMap String Nat := ∅
  subscribedLocalTrackSids : ExtTreeSet String := ∅
  emittedLocalTrackSubscriptions : ExtTreeSet String := ∅
  calls : List Call := []
  events : List Event := []

/-- The calls begin, for any sid, or the `i`-th call takes its next step. -/
inductive Act where
  | publishTrack (sid : String) (publication : Nat)
  | localTrackSubscribed (sid : String)
  | unpublishTrack (sid : String)
  | call (i : Nat)
deriving DecidableEq

namespace Participant

def start (participant : Participant) (call : Call) : Participant :=
  { participant with calls := participant.calls ++ [call] }

def setCall (participant : Participant) (i : Nat) (call : Call) : Participant :=
  { participant with calls := participant.calls.set i call }

def tell (participant : Participant) (event : Event) : Participant :=
  { participant with
    events := participant.events ++ if participant.eventListener then [event] else [] }

/-- `emitted_local_track_subscriptions_.insert`; the caller has made sure that it is new. -/
def markEmitted (participant : Participant) (sid : String) : Participant :=
  { participant with
    emittedLocalTrackSubscriptions := participant.emittedLocalTrackSubscriptions.insert sid }

def callStep (participant : Participant) (i : Nat) : Participant :=
  match participant.calls[i]? with
  | some (.add sid publication) =>
    { participant with
      trackPublications := participant.trackPublications.insert sid publication
      calls := participant.calls.set i (.notify sid publication) }
  | some (.notify sid publication) =>
    if participant.eventListener then
      (participant.tell (.onLocalTrackPublished sid publication)).setCall i (.check sid publication)
    else participant.setCall i (.done .publishTrack sid)
  | some (.check sid publication) =>
    if sid ∈ participant.subscribedLocalTrackSids ∧
        sid ∉ participant.emittedLocalTrackSubscriptions then
      (participant.markEmitted sid).setCall i (.emit .publishTrack sid publication)
    else participant.setCall i (.done .publishTrack sid)
  | some (.insert sid) =>
    if sid.isEmpty then participant.setCall i (.done .localTrackSubscribed sid)
    else
      { participant with
        subscribedLocalTrackSids := participant.subscribedLocalTrackSids.insert sid
        calls := participant.calls.set i (.find sid) }
  | some (.find sid) =>
    match participant.trackPublications[sid]? with
    | none => participant.setCall i (.done .localTrackSubscribed sid)
    | some publication => participant.setCall i (.claim sid publication)
  | some (.claim sid publication) =>
    if sid ∈ participant.emittedLocalTrackSubscriptions then
      participant.setCall i (.done .localTrackSubscribed sid)
    else (participant.markEmitted sid).setCall i (.emit .localTrackSubscribed sid publication)
  | some (.emit caller sid publication) =>
    (participant.tell (.onLocalTrackSubscribed sid publication)).setCall i (.done caller sid)
  | some (.remove sid) =>
    { participant with
      trackPublications := participant.trackPublications.erase sid
      calls := participant.calls.set i (.erase sid) }
  | some (.erase sid) =>
    { participant with
      subscribedLocalTrackSids := participant.subscribedLocalTrackSids.erase sid
      emittedLocalTrackSubscriptions := participant.emittedLocalTrackSubscriptions.erase sid
      calls := participant.calls.set i (.tell sid) }
  | some (.tell sid) =>
    (participant.tell (.onLocalTrackUnpublished sid)).setCall i (.done .unpublishTrack sid)
  | some (.done _ _) => participant
  | none => participant

def step (participant : Participant) : Act → Participant
  | .publishTrack sid publication => participant.start (.add sid publication)
  | .localTrackSubscribed sid => participant.start (.insert sid)
  | .unpublishTrack sid => participant.start (.remove sid)
  | .call i => participant.callStep i

end Participant

/-! ## 2. How often a subscription is reported -/

def Event.isSubscribed (sid : String) : Event → Bool
  | .onLocalTrackSubscribed sid' _ => sid' = sid
  | _ => false

/-- How often the listener has been told that the track with the sid is subscribed. -/
def emissions (participant : Participant) (sid : String) : Nat :=
  participant.events.countP (Event.isSubscribed sid)

/-- The call has decided to tell the listener and is about to do so. -/
def Call.emits (sid : String) : Call → Bool
  | .emit _ sid' _ => sid' = sid
  | _ => false

def emitting (participant : Participant) (sid : String) : Nat :=
  participant.calls.countP (Call.emits sid)

/-- `PublishTrack` has put the publication into the map. -/
def Call.added (sid : String) : Call → Bool
  | .notify sid' _ | .check sid' _ | .emit .publishTrack sid' _ | .done .publishTrack sid' =>
    sid' = sid
  | _ => false

/-- `PublishTrack` is past its section. -/
def Call.checked (sid : String) : Call → Bool
  | .emit .publishTrack sid' _ | .done .publishTrack sid' => sid' = sid
  | _ => false

/-- The signal has noted the sid. -/
def Call.noted (sid : String) : Call → Bool
  | .find sid' | .claim sid' _ | .emit .localTrackSubscribed sid' _
  | .done .localTrackSubscribed sid' => sid' = sid
  | _ => false

/-- The call is about to take the publication or the marks away. -/
def Call.removes (sid : String) : Call → Bool
  | .remove sid' | .erase sid' => sid' = sid
  | _ => false

/-- The subscription counts as emitted once a call has decided to report it, which is what
    `once` says.  A publish that is past its section and a signal that is through cannot
    have missed each other. -/
structure Inv (sid : String) (participant : Participant) : Prop where
  listener : participant.eventListener = true
  once : emissions participant sid + emitting participant sid =
    if sid ∈ participant.emittedLocalTrackSubscriptions then 1 else 0
  added : ∀ call ∈ participant.calls, call.added sid = true → sid ∈ participant.trackPublications
  noted : ∀ call ∈ participant.calls, call.noted sid = true →
    sid ∈ participant.subscribedLocalTrackSids
  settled : ∀ call ∈ participant.calls, call.checked sid = true →
    .done .localTrackSubscribed sid ∈ participant.calls →
    sid ∈ participant.emittedLocalTrackSubscriptions
  kept : ∀ call ∈ participant.calls, call.removes sid = false

/-! ## 3. Steps -/

section Steps

variable {sid : String} {participant : Participant}

theorem mem_insert_of_mem {sids : ExtTreeSet String} {other : String} (h : sid ∈ sids) :
    sid ∈ sids.insert other := by
  simp [ExtTreeSet.mem_insert, h]

/-- A new mark stands for the one report that it announces. -/
theorem once_insert (sid : String) {sids : ExtTreeSet String} {sid' : String}
    (hnew : sid' ∉ sids) :
    (if sid' = sid then 1 else 0) + (if sid ∈ sids then 1 else 0) =
      if sid ∈ sids.insert sid' then 1 else 0 := by
  by_cases heq : sid' = sid
  · subst heq
    simp [hnew]
  · simp [ExtTreeSet.mem_insert, heq]

theorem Call.added_of_checked {call : Call} (h : call.checked sid = true) :
    call.added sid = true := by
  unfold Call.checked at h
  split at h
  · exact h
  · exact h
  · cases h

theorem emissions_tell (hlistener : participant.eventListener = true) (event : Event)
    (i : Nat) (next : Call) :
    emissions ((participant.tell event).setCall i next) sid =
      emissions participant sid + if event.isSubscribed sid then 1 else 0 := by
  simp only [emissions, Participant.tell, Participant.setCall, hlistener, if_true,
    List.countP_append, List.countP_singleton]

/-- A call moves on: the marks of the sid only become more, the count of reports keeps up
    with them, and where the call comes to, its own mark is there. -/
theorem Inv.advance (h : Inv sid participant) {i : Nat} {call next : Call} {after : Participant}
    (hcall : participant.calls[i]? = some call)
    (hcalls : after.calls = participant.calls.set i next)
    (hlistener : after.eventListener = participant.eventListener)
    (hpublications : sid ∈ participant.trackPublications → sid ∈ after.trackPublications)
    (hsubscribed : sid ∈ participant.subscribedLocalTrackSids →
      sid ∈ after.subscribedLocalTrackSids)
    (hemitted : sid ∈ participant.emittedLocalTrackSubscriptions →
      sid ∈ after.emittedLocalTrackSubscriptions)
    (honce : emissions after sid + (if next.emits sid then 1 else 0) +
        (if sid ∈ participant.emittedLocalTrackSubscriptions then 1 else 0) =
      emissions participant sid + (if call.emits sid then 1 else 0) +
        (if sid ∈ after.emittedLocalTrackSubscriptions then 1 else 0))
    (hadded : next.added sid = true → call.added sid = true ∨ sid ∈ after.trackPublications)
    (hnoted : next.noted sid = true → call.noted sid = true ∨ sid ∈ after.subscribedLocalTrackSids)
    (hchecked : next.checked sid = true → call.checked sid = true ∨
      (sid ∈ after.subscribedLocalTrackSids → sid ∈ after.emittedLocalTrackSubscriptions))
    (hdone : next = .done .localTrackSubscribed sid → call = .done .localTrackSubscribed sid ∨
      sid ∈ after.emittedLocalTrackSubscriptions ∨ sid ∉ after.trackPublications)
    (hkept : next.removes sid = false) : Inv sid after := by
  obtain ⟨before, rest, hsplit, -, hset⟩ := split_of_getElem? hcall
  rw [hset next] at hcalls
  have hold : ∀ other ∈ before ++ rest, other ∈ participant.calls := by
    intro other hmem
    rw [hsplit]
    exact List.mem_append.mpr ((List.mem_append.mp hmem).imp_right (List.mem_cons_of_mem _))
  have hmem : call ∈ participant.calls := List.mem_of_getElem? hcall
  have hcases : ∀ other ∈ after.calls, other = next ∨ other ∈ before ++ rest := by
    intro other hother
    rw [hcalls] at hother
    simpa [or_left_comm] using hother
  have hadded' : ∀ other ∈ after.calls, other.added sid = true → sid ∈ after.trackPublications := by
    intro other hother hmark
    rcases hcases other hother with rfl | hother
    · rcases hadded hmark with hmark | hthere
      · exact hpublications (h.added call hmem hmark)
      · exact hthere
    · exact hpublications (h.added other (hold other hother) hmark)
  have hnoted' : ∀ other ∈ after.calls, other.noted sid = true →
      sid ∈ after.subscribedLocalTrackSids := by
    intro other hother hmark
    rcases hcases other hother with rfl | hother
    · rcases hnoted hmark with hmark | hthere
      · exact hsubscribed (h.noted call hmem hmark)
      · exact hthere
    · exact hsubscribed (h.noted other (hold other hother) hmark)
  refine ⟨by rw [hlistener, h.listener], ?_, hadded', hnoted', ?_, ?_⟩
  · have hbefore := h.once
    simp only [emitting, hsplit, hcalls, List.countP_append, List.countP_cons] at hbefore ⊢
    omega
  · intro checked hin hmark hsignal
    -- the call past its section and the signal that is through, each the one that moves or not
    have hchecked' : (∃ other ∈ participant.calls, other.checked sid = true) ∨
        (sid ∈ after.subscribedLocalTrackSids → sid ∈ after.emittedLocalTrackSubscriptions) := by
      rcases hcases checked hin with rfl | hin
      · exact (hchecked hmark).imp_left fun hmark => ⟨call, hmem, hmark⟩
      · exact .inl ⟨checked, hold checked hin, hmark⟩
    have hsignal' : .done .localTrackSubscribed sid ∈ participant.calls ∨
        sid ∈ after.emittedLocalTrackSubscriptions ∨ sid ∉ after.trackPublications := by
      rcases hcases _ hsignal with heq | hsignal
      · apply (hdone heq.symm).imp_left
        intro heq
        rw [← heq]
        exact hmem
      · exact .inl (hold _ hsignal)
    rcases hchecked' with ⟨other, hother, hmark'⟩ | hmarks
    · rcases hsignal' with hsignal' | hmarks | hnone
      · exact hemitted (h.settled other hother hmark' hsignal')
      · exact hmarks
      · exact absurd (hadded' checked hin (Call.added_of_checked hmark)) hnone
    · exact hmarks (hnoted' _ hsignal (by simp [Call.noted]))
  · intro other hother
    rcases hcases other hother with rfl | hother
    · exact hkept
    · exact h.kept other (hold other hother)

/-- The sections of `PublishTrack`. -/
theorem Inv.add (h : Inv sid participant) {i : Nat} {sid' : String} {publication : Nat}
    (hcall : participant.calls[i]? = some (.add sid' publication)) :
    Inv sid (participant.callStep i) := by
  simp only [Participant.callStep, hcall]
  refine h.advance hcall rfl rfl ?_ id id rfl ?_ (by simp [Call.noted]) (by simp [Call.checked])
    (by simp) rfl
  · intro hmem
    simp [ExtTreeMap.mem_insert, hmem]
  · intro hadded
    have heq : sid' = sid := by simpa [Call.added] using hadded
    exact .inr (by simp [heq])

theorem Inv.notify (h : Inv sid participant) {i : Nat} {sid' : String} {publication : Nat}
    (hcall : participant.calls[i]? = some (.notify sid' publication)) :
    Inv sid (participant.callStep i) := by
  simp only [Participant.callStep, hcall]
  rw [if_pos h.listener]
  refine h.advance hcall rfl rfl id id id ?_ (fun hadded => .inl hadded) (by simp [Call.noted])
    (by simp [Call.checked]) (by simp) rfl
  rw [emissions_tell h.listener]
  rfl

theorem Inv.check (h : Inv sid participant) {i : Nat} {sid' : String} {publication : Nat}
    (hcall : participant.calls[i]? = some (.check sid' publication)) :
    Inv sid (participant.callStep i) := by
  simp only [Participant.callStep, hcall]
  split
  · rename_i hnew
    refine h.advance hcall rfl rfl id id mem_insert_of_mem ?_ (fun hadded => .inl hadded)
      (by simp [Call.noted]) ?_ (by simp) rfl
    · have honce := once_insert sid hnew.2
      simp only [Call.emits, decide_eq_true_eq, Bool.false_eq_true, if_false, Nat.add_zero,
        Nat.add_assoc]
      exact congrArg (emissions participant sid + ·) honce
    · intro hchecked
      have heq : sid' = sid := by simpa [Call.checked] using hchecked
      exact .inr fun _ => by simp [Participant.setCall, Participant.markEmitted, heq]
  · rename_i hold
    refine h.advance hcall rfl rfl id id id rfl (fun hadded => .inl hadded) (by simp [Call.noted])
      ?_ (by simp) rfl
    intro hchecked
    have heq : sid' = sid := by simpa [Call.checked] using hchecked
    subst heq
    exact .inr fun hsub => by_contra fun hnot => hold ⟨hsub, hnot⟩

/-- The sections of `LocalTrackSubscribed`. -/
theorem Inv.insert (h : Inv sid participant) (hsid : sid ≠ "") {i : Nat} {sid' : String}
    (hcall : participant.calls[i]? = some (.insert sid')) :
    Inv sid (participant.callStep i) := by
  simp only [Participant.callStep, hcall]
  split
  · rename_i hempty
    have hne : sid' ≠ sid := by
      rintro rfl
      exact hsid (String.isEmpty_iff.mp hempty)
    refine h.advance hcall rfl rfl id id id rfl (by simp [Call.added]) ?_ (by simp [Call.checked])
      ?_ rfl
    · simp [Call.noted, hne]
    · simp [hne]
  · refine h.advance hcall rfl rfl id mem_insert_of_mem id rfl (by simp [Call.added]) ?_
      (by simp [Call.checked]) (by simp) rfl
    intro hnoted
    have heq : sid' = sid := by simpa [Call.noted] using hnoted
    exact .inr (by simp [heq])

theorem Inv.find (h : Inv sid participant) {i : Nat} {sid' : String}
    (hcall : participant.calls[i]? = some (.find sid')) :
    Inv sid (participant.callStep i) := by
  simp only [Participant.callStep, hcall]
  split
  · rename_i hnone
    refine h.advance hcall rfl rfl id id id rfl (by simp [Call.added]) (fun hnoted => .inl hnoted)
      (by simp [Call.checked]) ?_ rfl
    intro hdone
    cases hdone
    refine .inr (.inr ?_)
    intro hmem
    simp only [Participant.setCall] at hmem
    rw [ExtTreeMap.mem_iff_isSome_getElem?, hnone] at hmem
    cases hmem
  · exact h.advance hcall rfl rfl id id id rfl (by simp [Call.added]) (fun hnoted => .inl hnoted)
      (by simp [Call.checked]) (by simp) rfl

theorem Inv.claim (h : Inv sid participant) {i : Nat} {sid' : String} {publication : Nat}
    (hcall : participant.calls[i]? = some (.claim sid' publication)) :
    Inv sid (participant.callStep i) := by
  simp only [Participant.callStep, hcall]
  split
  · rename_i hmarked
    refine h.advance hcall rfl rfl id id id rfl (by simp [Call.added]) (fun hnoted => .inl hnoted)
      (by simp [Call.checked]) ?_ rfl
    intro hdone
    cases hdone
    exact .inr (.inl hmarked)
  · rename_i hnew
    refine h.advance hcall rfl rfl id id mem_insert_of_mem ?_ (by simp [Call.added])
      (fun hnoted => .inl hnoted) (by simp [Call.checked]) (by simp) rfl
    have honce := once_insert sid hnew
    simp only [Call.emits, decide_eq_true_eq, Bool.false_eq_true, if_false, Nat.add_zero,
      Nat.add_assoc]
    exact congrArg (emissions participant sid + ·) honce

theorem Inv.emitted_of_emits (h : Inv sid participant) {call : Call}
    (hmem : call ∈ participant.calls) (hemits : call.emits sid = true) :
    sid ∈ participant.emittedLocalTrackSubscriptions := by
  have hpos : 0 < emitting participant sid := List.countP_pos_iff.mpr ⟨call, hmem, hemits⟩
  have honce := h.once
  by_contra hnot
  rw [if_neg hnot] at honce
  omega

theorem Inv.emit (h : Inv sid participant) {i : Nat} {caller : Caller} {sid' : String}
    {publication : Nat} (hcall : participant.calls[i]? = some (.emit caller sid' publication)) :
    Inv sid (participant.callStep i) := by
  simp only [Participant.callStep, hcall]
  refine h.advance hcall rfl rfl id id id ?_ ?_ ?_ ?_ ?_ rfl
  · rw [emissions_tell h.listener]
    rfl
  · intro hadded
    cases caller <;> exact .inl hadded
  · intro hnoted
    cases caller <;> exact .inl hnoted
  · intro hchecked
    cases caller <;> exact .inl hchecked
  · intro hdone
    cases hdone
    exact .inr (.inl (h.emitted_of_emits (List.mem_of_getElem? hcall) (by simp [Call.emits])))

/-- `UnpublishTrack` of another track takes nothing of this one. -/
theorem Inv.remove (h : Inv sid participant) {i : Nat} {sid' : String}
    (hcall : participant.calls[i]? = some (.remove sid')) :
    Inv sid (participant.callStep i) := by
  have hne : sid' ≠ sid := by simpa [Call.removes] using h.kept _ (List.mem_of_getElem? hcall)
  simp only [Participant.callStep, hcall]
  refine h.advance hcall rfl rfl ?_ id id rfl (by simp [Call.added]) (by simp [Call.noted])
    (by simp [Call.checked]) (by simp) (by simpa [Call.removes] using hne)
  intro hmem
  simp [ExtTreeMap.mem_erase, hne, hmem]

theorem Inv.erase (h : Inv sid participant) {i : Nat} {sid' : String}
    (hcall : participant.calls[i]? = some (.erase sid')) :
    Inv sid (participant.callStep i) := by
  have hne : sid' ≠ sid := by simpa [Call.removes] using h.kept _ (List.mem_of_getElem? hcall)
  have herase (sids : ExtTreeSet String) : sid ∈ sids.erase sid' ↔ sid ∈ sids := by
    simp [ExtTreeSet.mem_erase, hne]
  simp only [Participant.callStep, hcall]
  refine h.advance hcall rfl rfl id (herase _).mpr (herase _).mpr ?_ (by simp [Call.added])
    (by simp [Call.noted]) (by simp [Call.checked]) (by simp) rfl
  simp only [herase]
  rfl

theorem Inv.tell (h : Inv sid participant) {i : Nat} {sid' : String}
    (hcall : participant.calls[i]? = some (.tell sid')) :
    Inv sid (participant.callStep i) := by
  simp only [Participant.callStep, hcall]
  refine h.advance hcall rfl rfl id id id ?_ (by simp [Call.added]) (by simp [Call.noted])
    (by simp [Call.checked]) (by simp) rfl
  rw [emissions_tell h.listener]
  rfl

theorem Inv.callStep (h : Inv sid participant) (hsid : sid ≠ "") (i : Nat) :
    Inv sid (participant.callStep i) := by
  cases hcall : participant.calls[i]? with
  | none =>
    simp only [Participant.callStep, hcall]
    exact h
  | some call =>
    cases call with
    | add sid' publication => exact h.add hcall
    | notify sid' publication => exact h.notify hcall
    | check sid' publication => exact h.check hcall
    | insert sid' => exact h.insert hsid hcall
    | find sid' => exact h.find hcall
    | claim sid' publication => exact h.claim hcall
    | emit caller sid' publication => exact h.emit hcall
    | remove sid' => exact h.remove hcall
    | erase sid' => exact h.erase hcall
    | tell sid' => exact h.tell hcall
    | done caller sid' =>
      simp only [Participant.callStep, hcall]
      exact h

/-- A call that begins has left no mark. -/
theorem Inv.start (h : Inv sid participant) {call : Call} (hemits : call.emits sid = false)
    (hadded : call.added sid = false) (hnoted : call.noted sid = false)
    (hremoves : call.removes sid = false) : Inv sid (participant.start call) := by
  have hcases : ∀ other ∈ (participant.start call).calls,
      other ∈ participant.calls ∨ other = call := by
    intro other hother
    simpa [Participant.start] using hother
  refine ⟨h.listener, ?_, ?_, ?_, ?_, ?_⟩
  · have hemitting : emitting (participant.start call) sid = emitting participant sid := by
      simp [emitting, Participant.start, List.countP_append, hemits]
    rw [hemitting]
    exact h.once
  · intro other hother hmark
    rcases hcases other hother with hother | rfl
    · exact h.added other hother hmark
    · rw [hadded] at hmark
      cases hmark
  · intro other hother hmark
    rcases hcases other hother with hother | rfl
    · exact h.noted other hother hmark
    · rw [hnoted] at hmark
      cases hmark
  · intro other hother hmark hsignal
    rcases hcases other hother with hother | rfl
    · rcases hcases _ hsignal with hsignal | heq
      · exact h.settled other hother hmark hsignal
      · rw [← heq] at hnoted
        simp [Call.noted] at hnoted
    · rw [Call.added_of_checked hmark] at hadded
      cases hadded
  · intro other hother
    rcases hcases other hother with hother | rfl
    · exact h.kept other hother
    · exact hremoves

theorem Inv.step (h : Inv sid participant) (hsid : sid ≠ "") {act : Act}
    (hact : act ≠ .unpublishTrack sid) : Inv sid (participant.step act) := by
  cases act with
  | publishTrack sid' publication => exact h.start rfl rfl rfl rfl
  | localTrackSubscribed sid' => exact h.start rfl rfl rfl rfl
  | unpublishTrack sid' =>
    apply h.start rfl rfl rfl
    have hne : sid' ≠ sid := fun heq => hact (by rw [heq])
    simpa [Call.removes] using hne
  | call i => exact h.callStep hsid i

end Steps

/-! ## 4. Runs -/

theorem inv_new (sid : String) (publications : ExtTreeMap String Nat) :
    Inv sid { trackPublications := publications } where
  listener := rfl
  once := by simp [emissions, emitting]
  added := by simp
  noted := by simp
  settled := by simp
  kept := by simp

theorem inv_run {sid : String} (hsid : sid ≠ "") (publications : ExtTreeMap String Nat)
    {acts : List Act} (hacts : .unpublishTrack sid ∉ acts) :
    Inv sid (acts.foldl Participant.step { trackPublications := publications }) := by
  have hgeneral : ∀ participant, Inv sid participant →
      Inv sid (acts.foldl Participant.step participant) := by
    induction acts with
    | nil =>
      intro participant h
      exact h
    | cons act acts ih =>
      intro participant h
      have hact : act ≠ .unpublishTrack sid := fun heq => hacts (heq ▸ List.mem_cons_self)
      exact ih (fun hmem => hacts (List.mem_cons_of_mem _ hmem)) _ (h.step hsid hact)
  exact hgeneral _ (inv_new sid publications)

/-- Once a publish of the sid and a signal for it are through, in whatever order their
    steps and those of other calls were taken, the subscription has been reported once, or
    one other call is just about to. -/
theorem subscribed_once {sid : String} (hsid : sid ≠ "") (publications : ExtTreeMap String Nat)
    {acts : List Act} (hacts : .unpublishTrack sid ∉ acts) {participant : Participant}
    (hrun : participant = acts.foldl Participant.step { trackPublications := publications })
    (hpublished : .done .publishTrack sid ∈ participant.calls)
    (hsignalled : .done .localTrackSubscribed sid ∈ participant.calls) :
    emissions participant sid + emitting participant sid = 1 := by
  have h : Inv sid participant := by
    rw [hrun]
    exact inv_run hsid publications hacts
  rw [h.once, if_pos]
  exact h.settled _ hpublished (by simp [Call.checked]) hsignalled

/-- Two signals around the snapshot of a publish: the first is through before the
    publication is there, the second finds it and comes to its second section before the
    publish comes to its own. -/
def aroundActs : List Act :=
  [.localTrackSubscribed "TR_1", .call 0, .call 0,
   .publishTrack "TR_1" 7, .call 1, .localTrackSubscribed "TR_1", .call 2, .call 2, .call 2,
   .call 1, .call 1]

/-- With one more step the second signal reports. -/
theorem subscribed_once_aroundActs :
    emissions ((aroundActs ++ [Act.call 2]).foldl Participant.step {}) "TR_1" +
      emitting ((aroundActs ++ [Act.call 2]).foldl Participant.step {}) "TR_1" = 1 ∧
    emissions ((aroundActs ++ [Act.call 2]).foldl Participant.step {}) "TR_1" = 1 :=
  ⟨@subscribed_once "TR_1" (by decide) ∅ (aroundActs ++ [Act.call 2]) (by decide) _ rfl
    (by decide +kernel) (by decide +kernel), by decide +kernel⟩

/-- The publish and the first signal are through, and the listener knows nothing yet. -/
theorem aroundActs_not_reported :
    .done .publishTrack "TR_1" ∈ (aroundActs.foldl Participant.step {}).calls ∧
    .done .localTrackSubscribed "TR_1" ∈ (aroundActs.foldl Participant.step {}).calls ∧
    emissions (aroundActs.foldl Participant.step {}) "TR_1" = 0 := by
  decide +kernel

end LivekitClient.TrackSubscriptions
