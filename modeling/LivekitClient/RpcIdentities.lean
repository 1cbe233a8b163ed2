/-
  LivekitClient/RpcIdentities.lean
  ================================
  **Whom a method may be called on** (`rpc_participant_identities_`, which
  `RtcEngine::ConnectTransport`, `OnParticipantUpdate` and `ResetTransport` in
  `src/core/detail/rtc_engine.cpp` keep and `PerformRpc` reads).

  The set holds identities, while participants come and go by their sids: one that joins
  again has the same identity under a new sid, and the last news of the old sid may come
  after the first of the new one.

  Every round of the loop of `OnParticipantUpdate` takes the mutex anew, so it is a step.
-/
import Mathlib.Data.Finset.Insert
import Mathlib.Data.Finset.Erase
import LivekitClient.Runs
import LivekitClient.RoomStore

namespace LivekitClient.RpcIdentities

open Runs
open RoomStore (ParticipantInfo ParticipantState JoinResponse)

/-! ## 1. The set -/

/-- A round of `OnParticipantUpdate`. -/
def updateIdentities (identities : Finset String) (participant : ParticipantInfo) :
    Finset String :=
  if participant.identity = "" then identities
  else if participant.state = .disconnected then identities.erase participant.identity
  else insert participant.identity identities

def localIdentity (response : JoinResponse) : String :=
  (response.participant.map (·.identity)).getD ""

/-- The set that `ConnectTransport` makes of the join response. -/
def joinIdentities (response : JoinResponse) : Finset String :=
  response.otherParticipants.foldl
    (fun identities participant =>
      if participant.identity ≠ "" ∧ participant.state ≠ .disconnected then
        insert participant.identity identities
      else identities)
    (if localIdentity response = "" then ∅ else {localIdentity response})

/-- `history` is what came about the other participants, `localParticipant` the identity of
    the local one. -/
structure Engine where
  rpcParticipantIdentities : Finset String := ∅
  localParticipant : String := ""
  history : List ParticipantInfo := []

inductive Act where
  | connectTransport (response : JoinResponse)
  | participantUpdate (participant : ParticipantInfo)
  | resetTransport

def Engine.step (engine : Engine) : Act → Engine
  | .connectTransport response =>
    { rpcParticipantIdentities := joinIdentities response
      localParticipant := localIdentity response
      history := response.otherParticipants }
  | .participantUpdate participant =>
    { engine with
      rpcParticipantIdentities := updateIdentities engine.rpcParticipantIdentities participant
      history := engine.history ++ [participant] }
  | .resetTransport => {}

/-! ## 2. Who is there -/

/-- The last that came of a sid. -/
def latest (history : List ParticipantInfo) (sid : String) : Option ParticipantInfo :=
  history.reverse.find? fun participant => participant.sid = sid

/-- Some sid of this kind, whose latest state is not `DISCONNECTED`, has the identity. -/
def Present (history : List ParticipantInfo) (kind : String → Prop) (identity : String) : Prop :=
  ∃ participant ∈ history, kind participant.sid ∧
    latest history participant.sid = some participant ∧
    participant.state ≠ .disconnected ∧ participant.identity = identity

instance (history : List ParticipantInfo) (kind : String → Prop) [DecidablePred kind]
    (identity : String) : Decidable (Present history kind identity) :=
  inferInstanceAs (Decidable (∃ _ ∈ history, _))

/-- The set is exact. -/
def Exact (engine : Engine) : Prop :=
  ∀ identity, identity ≠ "" →
    (identity ∈ engine.rpcParticipantIdentities ↔
      identity = engine.localParticipant ∨ Present engine.history (fun _ => True) identity)

/-- Somebody else than the sid has the identity: the local participant, or another sid. -/
def Elsewhere (engine : Engine) (sid identity : String) : Prop :=
  identity = engine.localParticipant ∨ Present engine.history (· ≠ sid) identity

instance (engine : Engine) (sid identity : String) : Decidable (Elsewhere engine sid identity) :=
  inferInstanceAs (Decidable (_ ∨ _))

/-- A sid leaves only an identity that nobody else has, and gives up its identity for
    another one only where somebody else has it; and whom the join response lists, it lists
    to the end. -/
def Sound (engine : Engine) : Act → Prop
  | .connectTransport response =>
    ∀ participant ∈ response.otherParticipants, participant.state ≠ .disconnected →
      participant.identity ≠ "" → participant.identity = localIdentity response ∨
        Present response.otherParticipants (fun _ => True) participant.identity
  | .participantUpdate participant =>
    (participant.state = .disconnected → participant.identity ≠ "" →
      ¬ Elsewhere engine participant.sid participant.identity) ∧
    ∀ before ∈ latest engine.history participant.sid, before.state ≠ .disconnected →
      before.identity ≠ "" → before.identity ≠ participant.identity →
        Elsewhere engine participant.sid before.identity
  | .resetTransport => True

instance (engine : Engine) : DecidablePred (Sound engine)
  | .connectTransport response =>
    inferInstanceAs (Decidable (∀ participant ∈ response.otherParticipants, _ → _ → _))
  | .participantUpdate participant =>
    inferInstanceAs (Decidable
      (_ ∧ ∀ before ∈ latest engine.history participant.sid, _ → _ → _ → _))
  | .resetTransport => inferInstanceAs (Decidable True)

/-! ## 3. What news does to who is there -/

section Latest

variable {history : List ParticipantInfo} {participant : ParticipantInfo}

theorem latest_append_singleton (sid : String) :
    latest (history ++ [participant]) sid =
      if participant.sid = sid then some participant else latest history sid := by
  simp only [latest, List.reverse_append, List.reverse_singleton, List.singleton_append,
    List.find?_cons]
  by_cases hsid : participant.sid = sid
  · simp [hsid]
  · simp [hsid]

theorem mem_of_latest {sid : String} (h : latest history sid = some participant) :
    participant ∈ history ∧ participant.sid = sid := by
  refine ⟨List.mem_reverse.1 (List.mem_of_find?_eq_some h), ?_⟩
  simpa using List.find?_some h

/-- Someone is there under the sid or under another one. -/
theorem present_iff (sid identity : String) :
    Present history (fun _ => True) identity ↔
      Present history (· ≠ sid) identity ∨
        ∃ before, latest history sid = some before ∧ before.state ≠ .disconnected ∧
          before.identity = identity := by
  constructor
  · rintro ⟨other, hmem, -, hlatest, hstate, hidentity⟩
    by_cases hsid : other.sid = sid
    · exact Or.inr ⟨other, hsid ▸ hlatest, hstate, hidentity⟩
    · exact Or.inl ⟨other, hmem, hsid, hlatest, hstate, hidentity⟩
  · rintro (⟨other, hmem, -, hlatest, hstate, hidentity⟩ | ⟨before, hlatest, hstate, hidentity⟩)
    · exact ⟨other, hmem, trivial, hlatest, hstate, hidentity⟩
    · obtain ⟨hmem, rfl⟩ := mem_of_latest hlatest
      exact ⟨before, hmem, trivial, hlatest, hstate, hidentity⟩

/-- News of a sid changes nothing for the others. -/
theorem present_others_append (identity : String) :
    Present (history ++ [participant]) (· ≠ participant.sid) identity ↔
      Present history (· ≠ participant.sid) identity := by
  constructor
  · rintro ⟨other, hmem, hsid, hlatest, hstate, hidentity⟩
    rw [latest_append_singleton, if_neg (Ne.symm hsid)] at hlatest
    exact ⟨other, (mem_of_latest hlatest).1, hsid, hlatest, hstate, hidentity⟩
  · rintro ⟨other, hmem, hsid, hlatest, hstate, hidentity⟩
    refine ⟨other, List.mem_append_left _ hmem, hsid, ?_, hstate, hidentity⟩
    rw [latest_append_singleton, if_neg (Ne.symm hsid)]
    exact hlatest

theorem present_append (identity : String) :
    Present (history ++ [participant]) (fun _ => True) identity ↔
      Present history (· ≠ participant.sid) identity ∨
        (participant.state ≠ .disconnected ∧ participant.identity = identity) := by
  rw [present_iff participant.sid, present_others_append, latest_append_singleton, if_pos rfl]
  simp

end Latest

theorem mem_updateIdentities {identities : Finset String} {participant : ParticipantInfo}
    {identity : String} (hidentity : identity ≠ "") :
    identity ∈ updateIdentities identities participant ↔
      if participant.identity = identity then participant.state ≠ .disconnected
      else identity ∈ identities := by
  rw [updateIdentities]
  by_cases hsame : participant.identity = identity
  · subst hsame
    rw [if_neg hidentity, if_pos rfl]
    split <;> simp [*]
  · have hother : identity ≠ participant.identity := Ne.symm hsame
    rw [if_neg hsame]
    split
    · rfl
    · split <;> simp [hother]

theorem mem_joinIdentities {response : JoinResponse} {identity : String}
    (hidentity : identity ≠ "") :
    identity ∈ joinIdentities response ↔ identity = localIdentity response ∨
      ∃ participant ∈ response.otherParticipants,
        participant.state ≠ .disconnected ∧ participant.identity = identity := by
  have hfold : ∀ (participants : List ParticipantInfo) (identities : Finset String),
      identity ∈ participants.foldl (fun identities participant =>
        if participant.identity ≠ "" ∧ participant.state ≠ .disconnected then
          insert participant.identity identities
        else identities) identities ↔
      identity ∈ identities ∨ ∃ participant ∈ participants,
        participant.state ≠ .disconnected ∧ participant.identity = identity := by
    intro participants
    induction participants with
    | nil => simp
    | cons participant rest ih =>
      intro identities
      rw [List.foldl_cons, ih]
      split
      · rename_i hlisted
        simp only [Finset.mem_insert, List.mem_cons, exists_eq_or_imp, hlisted.2, true_and,
          ne_eq, not_false_eq_true]
        rw [eq_comm (a := identity), or_comm (a := participant.identity = identity), or_assoc]
      · rename_i hlisted
        have hnot : ¬ (participant.state ≠ .disconnected ∧ participant.identity = identity) := by
          rintro ⟨hstate, rfl⟩
          exact hlisted ⟨hidentity, hstate⟩
        simp only [List.mem_cons, exists_eq_or_imp, hnot, false_or]
  rw [joinIdentities, hfold]
  apply or_congr_left
  split
  · rename_i hempty
    simp [hempty, hidentity]
  · rw [Finset.mem_singleton]

/-! ## 4. The steps -/

section Steps

variable {engine : Engine}

theorem exact_connectTransport_iff (response : JoinResponse) :
    Exact (engine.step (.connectTransport response)) ↔
      Sound engine (.connectTransport response) := by
  constructor
  · intro h participant hmem hstate hidentity
    apply (h participant.identity hidentity).1
    exact (mem_joinIdentities hidentity).2 (Or.inr ⟨participant, hmem, hstate, rfl⟩)
  · intro hsound identity hidentity
    simp only [Engine.step]
    rw [mem_joinIdentities hidentity]
    constructor
    · rintro (hlocal | ⟨participant, hmem, hstate, rfl⟩)
      · exact Or.inl hlocal
      · exact hsound participant hmem hstate hidentity
    · rintro (hlocal | ⟨participant, hmem, -, -, hstate, hsame⟩)
      · exact Or.inl hlocal
      · exact Or.inr ⟨participant, hmem, hstate, hsame⟩

theorem exact_participantUpdate_iff (h : Exact engine) (participant : ParticipantInfo) :
    Exact (engine.step (.participantUpdate participant)) ↔
      Sound engine (.participantUpdate participant) := by
  have hafter : Exact (engine.step (.participantUpdate participant)) ↔
      ∀ identity, identity ≠ "" →
        ((if participant.identity = identity then participant.state ≠ .disconnected
            else identity ∈ engine.rpcParticipantIdentities) ↔
          Elsewhere engine participant.sid identity ∨
            (participant.state ≠ .disconnected ∧ participant.identity = identity)) := by
    refine forall_congr' fun identity => ?_
    refine imp_congr_right fun hidentity => ?_
    simp only [Engine.step, mem_updateIdentities hidentity, present_append, Elsewhere, or_assoc]
  have hbefore : ∀ identity, identity ≠ "" → (identity ∈ engine.rpcParticipantIdentities ↔
      Elsewhere engine participant.sid identity ∨
        ∃ before, latest engine.history participant.sid = some before ∧
          before.state ≠ .disconnected ∧ before.identity = identity) := by
    intro identity hidentity
    rw [h identity hidentity, present_iff participant.sid, Elsewhere, or_assoc]
  rw [hafter]
  constructor
  · intro hexact
    refine ⟨?_, ?_⟩
    · intro hstate hidentity helsewhere
      have hmem := (hexact participant.identity hidentity).2 (Or.inl helsewhere)
      rw [if_pos rfl] at hmem
      exact hmem hstate
    · intro before hlatest hstate hidentity hother
      have hmem := (hbefore before.identity hidentity).2 (Or.inr ⟨before, hlatest, hstate, rfl⟩)
      have hkept := hexact before.identity hidentity
      rw [if_neg (Ne.symm hother)] at hkept
      rcases hkept.1 hmem with helsewhere | ⟨-, hsame⟩
      · exact helsewhere
      · exact absurd hsame (Ne.symm hother)
  · rintro ⟨hleaves, hkeeps⟩ identity hidentity
    by_cases hsame : participant.identity = identity
    · subst hsame
      rw [if_pos rfl]
      constructor
      · exact fun hstate => Or.inr ⟨hstate, rfl⟩
      · rintro (helsewhere | ⟨hstate, -⟩)
        · exact fun hstate => hleaves hstate hidentity helsewhere
        · exact hstate
    · rw [if_neg hsame, hbefore identity hidentity]
      constructor
      · rintro (helsewhere | ⟨before, hlatest, hstate, rfl⟩)
        · exact Or.inl helsewhere
        · exact Or.inl (hkeeps before hlatest hstate hidentity (Ne.symm hsame))
      · rintro (helsewhere | ⟨-, hother⟩)
        · exact Or.inl helsewhere
        · exact absurd hother hsame

theorem exact_new : Exact {} := by
  intro identity hidentity
  simp [Present, hidentity]

theorem exact_step_iff (h : Exact engine) (act : Act) :
    Exact (engine.step act) ↔ Sound engine act := by
  cases act with
  | connectTransport response => exact exact_connectTransport_iff response
  | participantUpdate participant => exact exact_participantUpdate_iff h participant
  | resetTransport => exact ⟨fun _ => trivial, fun _ => exact_new⟩

end Steps

/-! ## 5. Runs -/

/-- **The set is exact throughout a run** exactly if a sid leaves only an identity that
    nobody else has, keeps its identity unless somebody else has it, and the join response
    lists to the end whom it lists. -/
theorem identities_exact_iff (acts : List Act) :
    (∀ n, Exact ((acts.take n).foldl Engine.step {})) ↔ Along Sound Engine.step {} acts := by
  have hstep : ∀ engine act, Exact engine → (Exact (engine.step act) ↔ Sound engine act) :=
    fun _ act h => exact_step_iff h act
  exact forall_take_iff_along (fun _ hexact => hexact) (fun s a hexact => (hstep s a hexact).2)
    (fun s a hexact => (hstep s a hexact).1) exact_new acts

/-- Bob joins again under a new sid, and then the old sid is reported to have left. -/
def rejoinActs : List Act :=
  [.connectTransport ⟨some { sid := "PA_a", identity := "alice" },
      [{ sid := "PA_b1", identity := "bob" }]⟩,
   .participantUpdate { sid := "PA_b2", identity := "bob" },
   .participantUpdate { sid := "PA_b1", identity := "bob", state := .disconnected }]

theorem rejoinActs_lose_bob :
    "bob" ∉ (rejoinActs.foldl Engine.step {}).rpcParticipantIdentities ∧
      Present (rejoinActs.foldl Engine.step {}).history (fun _ => True) "bob" ∧
      ¬ Exact (rejoinActs.foldl Engine.step {}) := by
  have hlost : "bob" ∉ (rejoinActs.foldl Engine.step {}).rpcParticipantIdentities := by
    decide +kernel
  have hpresent : Present (rejoinActs.foldl Engine.step {}).history (fun _ => True) "bob" := by
    decide +kernel
  refine ⟨hlost, hpresent, ?_⟩
  intro hexact
  exact hlost ((hexact "bob" (by decide)).2 (Or.inr hpresent))

example : ¬ Along Sound Engine.step {} rejoinActs := by decide +kernel

end LivekitClient.RpcIdentities
