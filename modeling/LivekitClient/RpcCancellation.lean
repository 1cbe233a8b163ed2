/-
  LivekitClient/RpcCancellation.lean
  ==================================
  **Calls whose recipient leaves** (`RtcEngine::PerformRpc`, `CancelPendingRpc`,
  `OnParticipantUpdate` and `Disconnect` in `src/core/detail/rtc_engine.cpp`, in the model of
  `RpcCalls`).

  The look at the participants and the making of the entry are sections under different
  mutexes.  A sweep of the map that falls between them does not see the call, which then
  waits for its deadline.  Nor does a cancellation help that comes to an entry after the
  deadline.
-/
import LivekitClient.RpcCalls

namespace LivekitClient.RpcCancellation

open Runs RpcCalls
open RpcResponses (RpcResult)
open RpcResponses.RpcErrorCode
open RoomStore (ParticipantInfo ParticipantState)

/-! ## 1. What the caller is promised -/

/-- A response was taken for the entry. -/
def Responded (engine : Engine) (entry : Nat) : Prop :=
  ∃ pending, engine.entries[entry]? = some pending ∧
    ∃ participantIdentity result, .response participantIdentity result ∈ pending.completions

/-- A call during which its recipient left comes back with that, unless the request could
    not be sent or a response was received. -/
def Cancelled (engine : Engine) : Prop :=
  ∀ k ∈ engine.recipientLeft, ∀ (entry : Option Nat) (result : RpcResult),
    engine.stage? k = some (.returned entry result) →
      match entry with
      | none => result = .builtIn sendFailed
      | some entry => result = .builtIn recipientDisconnected ∨ Responded engine entry

/-! ## 2. Where it is kept -/

def timedOut (pending : PendingRpcCall) : Bool :=
  pending.completions.head?.any fun completion =>
    completion = .ackTimeout || completion = .responseTimeout

/-- A deadline of the call was the first to complete it. -/
def callTimedOut (engine : Engine) (k : Nat) : Bool :=
  (engine.stage? k).any fun stage =>
    stage.entry.any fun entry => engine.entries[entry]?.any timedOut

/-- The entry that a section of the call completes because the deadline has passed. -/
def timesOut (engine : Engine) (k : Nat) : Section → Option Nat
  | .awaitAck true =>
    match engine.stage? k with
    | some (.awaitAck entry) =>
      if engine.entries[entry]?.any fun pending => !pending.completed && !pending.acknowledged
      then some entry else none
    | _ => none
  | .awaitResponse true =>
    match engine.stage? k with
    | some (.awaitResponse entry) =>
      if engine.entries[entry]?.any fun pending => !pending.completed then some entry else none
    | _ => none
  | _ => none

/-- The calls that a canceller has to reach. -/
def during : Canceller → List Nat
  | .update _ => []
  | .reset _ during | .sweep _ _ during | .complete _ _ during => during

/-- The entries that it is about to complete. -/
def claims : Canceller → List Nat
  | .complete entries _ _ => entries
  | _ => []

/-- The id of a new entry is new. -/
def NewId (engine : Engine) : Section → Prop
  | .register requestId => ∀ call ∈ engine.calls, call.requestId ≠ requestId
  | _ => True

/-- What the step of a canceller has to find: no call that it has to reach is past its
    deadline and not back when it begins, and none is between the look at the participants
    and its entry when it sweeps the map. -/
def InTime (engine : Engine) : Canceller → Prop
  | .update (participant :: _) =>
    participant.state = .disconnected →
      ∀ k ∈ engine.underWay (some participant.identity), callTimedOut engine k = false
  | .sweep _ _ during => ∀ k ∈ during, engine.stage? k ≠ some .register
  | _ => True

/-- Cancellations are in time, a call passes its deadline while no canceller has to reach
    it, and the ids of calls are all different. -/
def Sound (engine : Engine) : Act → Prop
  | .call k next =>
    (∀ entry ∈ timesOut engine k next, ∀ canceller ∈ engine.cancellers,
      k ∉ during canceller ∧ entry ∉ claims canceller) ∧ NewId engine next
  | .disconnect => ∀ k ∈ engine.underWay none, callTimedOut engine k = false
  | .cancel i => ∀ canceller ∈ engine.cancellers[i]?, InTime engine canceller
  | _ => True

instance (engine : Engine) : DecidablePred (NewId engine)
  | .register _ => inferInstanceAs (Decidable (∀ call ∈ engine.calls, _))
  | .check | .send _ | .unregister | .awaitAck _ | .awaitResponse _ | .remove =>
    inferInstanceAs (Decidable True)

instance (engine : Engine) : DecidablePred (InTime engine)
  | .update (participant :: _) =>
    inferInstanceAs (Decidable (_ → ∀ k ∈ engine.underWay (some participant.identity), _))
  | .sweep _ _ during => inferInstanceAs (Decidable (∀ k ∈ during, _))
  | .update [] | .reset _ _ | .complete _ _ _ => inferInstanceAs (Decidable True)

instance (engine : Engine) : DecidablePred (Sound engine)
  | .call k next =>
    inferInstanceAs (Decidable
      ((∀ entry ∈ timesOut engine k next, ∀ canceller ∈ engine.cancellers, _ ∧ _) ∧ _))
  | .disconnect => inferInstanceAs (Decidable (∀ k ∈ engine.underWay none, _))
  | .cancel i => inferInstanceAs (Decidable (∀ canceller ∈ engine.cancellers[i]?, _))
  | .performRpc _ | .receive _ | .handle _ | .onParticipantUpdate _ | .connectTransport _
  | .resetTransport => inferInstanceAs (Decidable True)

/-! ## 3. The invariant -/

section Inv

variable {engine : Engine}

/-- The call is past the look at the participants, and if it is back without an entry then
    its request could not be sent. -/
def Past (stage : Stage) : Prop :=
  stage ≠ .check ∧ ∀ result, stage = .returned none result → result = .builtIn sendFailed

def Completed (engine : Engine) (entry : Nat) : Prop :=
  ∃ pending, engine.entries[entry]? = some pending ∧ pending.completions ≠ []

/-- No deadline was the first to complete the entry. -/
def Calm (engine : Engine) (entry : Nat) : Prop :=
  ∀ pending, engine.entries[entry]? = some pending → timedOut pending = false

def Claimed (engine : Engine) (entry : Nat) : Prop :=
  entry < engine.entries.length ∧ ∃ canceller ∈ engine.cancellers, entry ∈ claims canceller

/-- The call is to the participant, or to any. -/
def IsTo (call : Call) (participantIdentity : Option String) : Prop :=
  ∀ identity ∈ participantIdentity, call.params.destinationIdentity = identity

/-- A canceller has to reach the call, and no deadline has got ahead of it. -/
def Expected (engine : Engine) (participantIdentity : Option String) (k : Nat) : Prop :=
  ∃ call, engine.calls[k]? = some call ∧ Past call.stage ∧ IsTo call participantIdentity ∧
    ∀ entry, call.stage.entry = some entry → Calm engine entry

/-- A canceller has reached the call, or is about to. -/
def Bound (engine : Engine) (k : Nat) : Prop :=
  ∃ call, engine.calls[k]? = some call ∧ Past call.stage ∧ call.stage ≠ .register ∧
    ∀ entry, call.stage.entry = some entry → Calm engine entry ∧
      (call.stage = .unregister entry ∨ Completed engine entry ∨ Claimed engine entry)

/-- The entry at which the call may have to be reached. -/
def awaited : Stage → Option Nat
  | .send entry | .awaitAck entry | .awaitResponse entry => some entry
  | _ => none

/-- What a canceller owes to the calls that it has to reach. -/
def Owes (engine : Engine) : Canceller → Prop
  | .update _ => True
  | .reset _ during => ∀ k ∈ during, Expected engine none k
  | .sweep participantIdentity _ during => ∀ k ∈ during, Expected engine participantIdentity k
  | .complete _ _ during => ∀ k ∈ during, Bound engine k

structure Watch (engine : Engine) : Prop extends Inv engine where
  codes : ∀ pending ∈ engine.entries, ∀ code, .cancelled code ∈ pending.completions →
    code = recipientDisconnected
  ids : ∀ (j k : Nat) (one other : Call), engine.calls[j]? = some one →
    engine.calls[k]? = some other → one.stage.entry ≠ none → other.stage.entry ≠ none →
      one.requestId = other.requestId → j = k
  reach : ∀ (k : Nat) (call : Call) (entry : Nat), engine.calls[k]? = some call →
    awaited call.stage = some entry → (call.requestId, entry) ∈ engine.pendingRpcCalls ∨
      Completed engine entry ∨ Claimed engine entry
  owes : ∀ canceller ∈ engine.cancellers, Owes engine canceller
  left : ∀ k ∈ engine.recipientLeft, Bound engine k

/-- A call that is back, and was bound to be reached, was reached. -/
theorem Watch.cancelled (h : Watch engine) : Cancelled engine := by
  intro k hleft entry result hstage
  obtain ⟨call, hcall, hpast, -, hreached⟩ := h.left k hleft
  have hcallStage : call.stage = .returned entry result := by
    simpa [Engine.stage?, hcall] using hstage
  cases entry with
  | none => exact hpast.2 result hcallStage
  | some entry =>
    obtain ⟨hcalm, -⟩ := hreached entry (by rw [hcallStage]; rfl)
    obtain ⟨pending, hpending, first, hfirst, rfl⟩ :=
      h.done k call entry result hcall (by rw [hcallStage]; rfl)
    have hmem : first ∈ pending.completions := List.mem_of_head? hfirst
    have hnot := hcalm pending hpending
    rw [timedOut, hfirst] at hnot
    cases first with
    | response participantIdentity result =>
      exact Or.inr ⟨pending, hpending, participantIdentity, result, hmem⟩
    | cancelled code =>
      rw [h.codes pending (List.mem_of_getElem? hpending) code hmem]
      exact Or.inl rfl
    | ackTimeout => simp at hnot
    | responseTimeout => simp at hnot

theorem entry_of_awaited {stage : Stage} {entry : Nat} (h : awaited stage = some entry) :
    stage.entry = some entry := by
  cases stage <;> first | exact h | simp [awaited] at h

/-- A call that has an entry waits at it, gives it up, or has read its result. -/
theorem exists_done {stage : Stage} {entry : Nat} (hentry : stage.entry = some entry)
    (hawaited : awaited stage ≠ some entry) (hunregister : stage ≠ .unregister entry) :
    ∃ result, stage.done = some (entry, result) := by
  cases stage with
  | check => simp [Stage.entry] at hentry
  | register => simp [Stage.entry] at hentry
  | send other => exact absurd hentry hawaited
  | unregister other =>
    simp only [Stage.entry, Option.some.injEq] at hentry
    exact absurd (by rw [hentry]) hunregister
  | awaitAck other => exact absurd hentry hawaited
  | awaitResponse other => exact absurd hentry hawaited
  | remove other result =>
    simp only [Stage.entry, Option.some.injEq] at hentry
    exact ⟨result, by rw [← hentry]; rfl⟩
  | returned other result =>
    simp only [Stage.entry] at hentry
    exact ⟨result, by rw [hentry]; rfl⟩

/-! ## 4. What the steps keep -/

theorem Completed.grow {after : Engine} {entry : Nat} (h : Completed engine entry)
    (hgrow : GrowInto engine.entries after.entries) : Completed after entry := by
  obtain ⟨pending, hpending, hsome⟩ := h
  obtain ⟨grown, hgrown, hgrows⟩ := hgrow entry pending hpending
  refine ⟨grown, hgrown, ?_⟩
  intro hnone
  have hsame := hgrows.completions
  rw [hnone, List.prefix_nil] at hsame
  exact hsome hsame

/-- What goes on apart from a call. -/
structure Kept (before after : Engine) : Prop where
  grow : GrowInto before.entries after.entries
  calm : ∀ entry, Calm before entry → Calm after entry
  claimed : ∀ entry, Claimed before entry → Completed after entry ∨ Claimed after entry

theorem Kept.of_eq {after : Engine} (hentries : after.entries = engine.entries)
    (hcancellers : after.cancellers = engine.cancellers) : Kept engine after := by
  refine ⟨?_, ?_, ?_⟩
  · rw [hentries]
    exact .rfl
  · intro entry hcalm pending hpending
    rw [hentries] at hpending
    exact hcalm pending hpending
  · intro entry hclaimed
    rw [Claimed, hcancellers, hentries]
    exact Or.inr hclaimed

theorem Kept.reached {after : Engine} (h : Kept engine after) {entry : Nat}
    (hreached : Completed engine entry ∨ Claimed engine entry) :
    Completed after entry ∨ Claimed after entry := by
  rcases hreached with hcompleted | hclaimed
  · exact Or.inl (hcompleted.grow h.grow)
  · exact h.claimed entry hclaimed

theorem Expected.kept {after : Engine} {participantIdentity : Option String} {k : Nat}
    (h : Expected engine participantIdentity k) (hkept : Kept engine after)
    (hcalls : after.calls[k]? = engine.calls[k]?) : Expected after participantIdentity k := by
  obtain ⟨call, hcall, hpast, hto, hcalm⟩ := h
  refine ⟨call, hcalls.trans hcall, hpast, hto, ?_⟩
  intro entry hentry
  exact hkept.calm entry (hcalm entry hentry)

theorem Bound.kept {after : Engine} {k : Nat} (h : Bound engine k) (hkept : Kept engine after)
    (hcalls : after.calls[k]? = engine.calls[k]?) : Bound after k := by
  obtain ⟨call, hcall, hpast, hregistered, hreached⟩ := h
  refine ⟨call, hcalls.trans hcall, hpast, hregistered, ?_⟩
  intro entry hentry
  obtain ⟨hcalm, hunregister | hreached⟩ := hreached entry hentry
  · exact ⟨hkept.calm entry hcalm, Or.inl hunregister⟩
  · exact ⟨hkept.calm entry hcalm, Or.inr (hkept.reached hreached)⟩

theorem Owes.kept {after : Engine} {canceller : Canceller} (h : Owes engine canceller)
    (hkept : Kept engine after)
    (hcalls : ∀ k ∈ during canceller, after.calls[k]? = engine.calls[k]?) :
    Owes after canceller := by
  cases canceller with
  | update updates => trivial
  | reset again during => exact fun k hk => (h k hk).kept hkept (hcalls k hk)
  | sweep participantIdentity updates during =>
    exact fun k hk => (h k hk).kept hkept (hcalls k hk)
  | complete entries updates during => exact fun k hk => (h k hk).kept hkept (hcalls k hk)

/-- A step that leaves the calls alone. -/
theorem Watch.frame (h : Watch engine) {after : Engine} (hinv : Inv after)
    (hcalls : after.calls = engine.calls) (hkept : Kept engine after)
    (hcodes : ∀ pending ∈ after.entries, ∀ code, .cancelled code ∈ pending.completions →
      code = recipientDisconnected)
    (hmap : ∀ item ∈ engine.pendingRpcCalls, item ∈ after.pendingRpcCalls ∨ Claimed after item.2)
    (howes : ∀ canceller ∈ after.cancellers, canceller ∈ engine.cancellers ∨ Owes after canceller)
    (hleft : ∀ k ∈ after.recipientLeft, k ∈ engine.recipientLeft ∨ Bound engine k) :
    Watch after where
  toInv := hinv
  codes := hcodes
  ids := by
    rw [hcalls]
    exact h.ids
  reach := by
    intro k call entry hcall hawaited
    rw [hcalls] at hcall
    rcases h.reach k call entry hcall hawaited with hmem | hreached
    · rcases hmap _ hmem with hmem | hclaimed
      · exact Or.inl hmem
      · exact Or.inr (Or.inr hclaimed)
    · exact Or.inr (hkept.reached hreached)
  owes := by
    intro canceller hmem
    rcases howes canceller hmem with hold | hnew
    · exact (h.owes canceller hold).kept hkept fun k _ => by rw [hcalls]
    · exact hnew
  left := by
    intro k hk
    have hbound : Bound engine k := (hleft k hk).elim (h.left k) id
    exact hbound.kept hkept (by rw [hcalls])

/-! ### Packets and cancellations -/

/-- What a section brings to an entry: nothing, or something that is not a deadline and
    reports the recipient as disconnected if it is a cancellation. -/
def Brings (f : PendingRpcCall → PendingRpcCall) : Prop :=
  ∀ pending, (f pending).completions = pending.completions ∨
    ∃ completion, (f pending).completions = pending.completions ++ [completion] ∧
      completion ≠ .ackTimeout ∧ completion ≠ .responseTimeout ∧
      ∀ code, completion = .cancelled code → code = recipientDisconnected

theorem completions_complete (pending : PendingRpcCall) (completion : Completion) :
    (pending.complete completion).completions = pending.completions ++ [completion] := by
  rw [PendingRpcCall.complete]
  split <;> rfl

theorem brings_cancelled : Brings (·.complete (.cancelled recipientDisconnected)) := by
  intro pending
  exact Or.inr ⟨_, completions_complete _ _, by simp, by simp, by simp⟩

theorem brings_takePacket (packet : RpcPacket) : Brings (·.takePacket packet) := by
  intro pending
  simp only [PendingRpcCall.takePacket]
  split
  · exact Or.inl rfl
  · split
    · exact Or.inl rfl
    · rw [PendingRpcCall.respond]
      split <;> exact Or.inr ⟨_, completions_complete _ _, by simp, by simp, by simp⟩

theorem Brings.timedOut {f : PendingRpcCall → PendingRpcCall} (hf : Brings f)
    {pending : PendingRpcCall} (h : timedOut pending = false) : timedOut (f pending) = false := by
  rcases hf pending with hsame | ⟨completion, hnew, hack, hresponse, -⟩
  · rw [RpcCancellation.timedOut, hsame]
    exact h
  · rw [RpcCancellation.timedOut, hnew]
    cases hcompletions : pending.completions with
    | nil => simp [hack, hresponse]
    | cons first rest =>
      rw [RpcCancellation.timedOut, hcompletions] at h
      exact h

theorem Brings.calm {f : PendingRpcCall → PendingRpcCall} (hf : Brings f) {i entry : Nat}
    (h : Calm engine entry) : Calm (engine.modifyEntry i f) entry := by
  intro pending hpending
  obtain ⟨before, hbefore, rfl⟩ := CellHeap.getElem?_modify_eq_some.mp hpending
  split
  · exact hf.timedOut (h before hbefore)
  · exact h before hbefore

/-- A section that brings no cancellation but the recipient's disconnecting. -/
theorem Watch.codes_modify (h : Watch engine) {f : PendingRpcCall → PendingRpcCall}
    (hf : ∀ pending code, .cancelled code ∈ (f pending).completions →
      .cancelled code ∈ pending.completions ∨ code = recipientDisconnected) (i : Nat) :
    ∀ pending ∈ (engine.modifyEntry i f).entries, ∀ code,
      .cancelled code ∈ pending.completions → code = recipientDisconnected := by
  intro pending hmem code hcode
  obtain ⟨entry, hentry⟩ := List.mem_iff_getElem?.1 hmem
  obtain ⟨before, hbefore, rfl⟩ := CellHeap.getElem?_modify_eq_some.mp hentry
  have hold := h.codes before (List.mem_of_getElem? hbefore) code
  split at hcode
  · rcases hf before code hcode with hcode | hcode
    · exact hold hcode
    · exact hcode
  · exact hold hcode

theorem Brings.codes {f : PendingRpcCall → PendingRpcCall} (hf : Brings f) (h : Watch engine)
    (i : Nat) : ∀ pending ∈ (engine.modifyEntry i f).entries, ∀ code,
      .cancelled code ∈ pending.completions → code = recipientDisconnected := by
  apply h.codes_modify
  intro pending code hcode
  rcases hf pending with hsame | ⟨completion, hnew, -, -, hcodes⟩
  · rw [hsame] at hcode
    exact .inl hcode
  · rw [hnew, List.mem_append, List.mem_singleton] at hcode
    exact hcode.imp_right fun hlast => hcodes code hlast.symm

theorem Watch.handle (h : Watch engine) (i : Nat) : Watch (engine.handle i) := by
  have hinv := h.toInv.handle i
  rcases hhandler : engine.handlers[i]? with _ | ⟨entry, packet⟩
  · simp only [Engine.handle, hhandler]
    exact h
  · simp only [Engine.handle, hhandler] at hinv ⊢
    have hbrings := brings_takePacket packet
    refine h.frame hinv rfl ⟨?_, fun _ => hbrings.calm, ?_⟩
      (hbrings.codes h entry) (fun _ => Or.inl) (fun _ => Or.inl) fun _ => Or.inl
    · exact growInto_modify (fun pending => pending.grows_takePacket packet) _ _
    · intro other hclaimed
      exact Or.inr ⟨by simpa [Engine.modifyEntry] using hclaimed.1, hclaimed.2⟩

section Cancellers

variable {i : Nat} {canceller : Canceller}

/-- The claims of the other cancellers stay. -/
theorem claimed_setCanceller (hcanceller : engine.cancellers[i]? = some canceller)
    (next : Canceller) {entry : Nat} (h : Claimed engine entry) :
    entry ∈ claims canceller ∨
      ∃ other ∈ engine.cancellers.set i next, entry ∈ claims other := by
  obtain ⟨-, other, hmem, hclaims⟩ := h
  obtain ⟨j, hj⟩ := List.mem_iff_getElem?.1 hmem
  by_cases hij : i = j
  · subst hij
    rw [hcanceller, Option.some.injEq] at hj
    rw [hj]
    exact Or.inl hclaims
  · exact Or.inr ⟨other, List.mem_of_getElem? ((List.getElem?_set_ne hij).trans hj), hclaims⟩

theorem mem_setCanceller {next other : Canceller} {after : Engine}
    (hmem : other ∈ engine.cancellers.set i next) (hnext : Owes after next) :
    other ∈ engine.cancellers ∨ Owes after other := by
  rcases List.mem_or_eq_of_mem_set hmem with hold | rfl
  · exact Or.inl hold
  · exact Or.inr hnext

/-- A canceller that claims nothing goes on, and the entries stay as they are. -/
theorem kept_setCanceller (hcanceller : engine.cancellers[i]? = some canceller)
    (hnone : claims canceller = []) (next : Canceller) {after : Engine}
    (hentries : after.entries = engine.entries)
    (hcancellers : after.cancellers = engine.cancellers.set i next) : Kept engine after := by
  refine ⟨hentries ▸ .rfl, ?_, ?_⟩
  · intro entry hcalm pending hpending
    rw [hentries] at hpending
    exact hcalm pending hpending
  · intro entry hclaimed
    right
    rcases claimed_setCanceller hcanceller next hclaimed with hclaims | hother
    · simp [hnone] at hclaims
    · rw [Claimed, hcancellers, hentries]
      exact ⟨hclaimed.1, hother⟩

/-- The calls that are under way are those that a canceller has to reach. -/
theorem expected_of_underWay {participantIdentity : Option String} {k : Nat}
    (hmem : k ∈ engine.underWay participantIdentity) (hcalm : callTimedOut engine k = false) :
    Expected engine participantIdentity k := by
  simp only [Engine.underWay, List.mem_filter, Option.any_eq_true, Bool.and_eq_true] at hmem
  obtain ⟨-, call, hcall, hway, hto⟩ := hmem
  refine ⟨call, hcall, ⟨?_, ?_⟩, ?_, ?_⟩
  · intro hcheck
    simp [hcheck, Stage.underWay] at hway
  · intro result hreturned
    simp [hreturned, Stage.underWay] at hway
  · intro identity hidentity
    rw [Option.mem_def] at hidentity
    simpa [hidentity] using hto
  · intro entry hentry pending hpending
    simpa [callTimedOut, Engine.stage?, hcall, hentry, hpending] using hcalm

theorem Watch.update (h : Watch engine) {updates : List ParticipantInfo}
    (hcanceller : engine.cancellers[i]? = some (.update updates))
    (hsound : Sound engine (.cancel i)) : Watch (engine.cancellerStep i (.update updates)) := by
  have hinv := h.toInv.cancellerStep i (.update updates)
  cases updates with
  | nil => exact h
  | cons participant updates =>
    have hsound := hsound _ hcanceller
    simp only [Engine.cancellerStep] at hinv ⊢
    split at hinv
    · rename_i hempty
      simp only [if_pos hempty]
      refine h.frame hinv rfl (kept_setCanceller hcanceller rfl _ rfl rfl) h.codes
        (fun _ => Or.inl) ?_ fun _ => Or.inl
      exact fun other hmem => mem_setCanceller hmem trivial
    · rename_i hnamed
      simp only [if_neg hnamed]
      refine h.frame hinv rfl (kept_setCanceller hcanceller rfl _ rfl rfl) h.codes
        (fun _ => Or.inl) ?_ fun _ => Or.inl
      intro other hmem
      apply mem_setCanceller hmem
      split
      · rename_i hdisconnected
        intro k hk
        have hexpected := expected_of_underWay hk (hsound hdisconnected k hk)
        exact hexpected.kept (kept_setCanceller hcanceller rfl _ rfl rfl) rfl
      · trivial

theorem Watch.reset (h : Watch engine) {again : Bool} {during : List Nat}
    (hcanceller : engine.cancellers[i]? = some (.reset again during)) :
    Watch (engine.cancellerStep i (.reset again during)) := by
  have hinv := h.toInv.cancellerStep i (.reset again during)
  have howes := h.owes _ (List.mem_of_getElem? hcanceller)
  have hkept : Kept engine (engine.cancellerStep i (.reset again during)) :=
    kept_setCanceller hcanceller rfl _ rfl rfl
  refine h.frame hinv rfl hkept h.codes (fun _ => Or.inl) ?_ fun _ => Or.inl
  intro other hmem
  apply mem_setCanceller hmem
  cases again with
  | true => exact fun k hk => (howes k hk).kept hkept rfl
  | false => exact fun k hk => (howes k hk).kept hkept rfl

/-- The sweep claims the entries of the calls that it has to reach, and of others. -/
theorem Watch.sweep (h : Watch engine) {participantIdentity : Option String}
    {updates : List ParticipantInfo} {during : List Nat}
    (hcanceller : engine.cancellers[i]? = some (.sweep participantIdentity updates during))
    (hsound : Sound engine (.cancel i)) :
    Watch (engine.cancellerStep i (.sweep participantIdentity updates during)) := by
  have hinv := h.toInv.cancellerStep i (.sweep participantIdentity updates during)
  have howes := h.owes _ (List.mem_of_getElem? hcanceller)
  have hlt := (List.getElem?_eq_some_iff.1 hcanceller).1
  have hsound := hsound _ hcanceller
  have hkept : Kept engine
      (engine.cancellerStep i (.sweep participantIdentity updates during)) :=
    kept_setCanceller hcanceller rfl _ rfl rfl
  have hswept : ∀ item ∈ engine.pendingRpcCalls, engine.sweeps participantIdentity item = true →
      Claimed (engine.cancellerStep i (.sweep participantIdentity updates during)) item.2 := by
    intro item hmem hsweeps
    obtain ⟨k, call, hcall, -, hentry, -⟩ := h.held item hmem
    refine ⟨h.entry_lt hcall hentry, _, List.mem_set hlt _, ?_⟩
    simp only [claims, List.partition_eq_filter_filter, List.mem_map, List.mem_filter]
    exact ⟨item, ⟨hmem, hsweeps⟩, rfl⟩
  refine h.frame hinv rfl hkept h.codes ?_ ?_ fun _ => Or.inl
  · intro item hmem
    by_cases hsweeps : engine.sweeps participantIdentity item = true
    · exact Or.inr (hswept item hmem hsweeps)
    · left
      simp only [Engine.cancellerStep, Engine.setCanceller, List.partition_eq_filter_filter,
        List.mem_filter, Function.comp_apply]
      exact ⟨hmem, by simpa using hsweeps⟩
  · intro other hmem
    apply mem_setCanceller hmem
    intro k hk
    obtain ⟨call, hcall, hpast, hto, hcalm⟩ := howes k hk
    have hstage? : engine.stage? k = some call.stage := by rw [Engine.stage?, hcall]; rfl
    have hregistered : call.stage ≠ .register := by
      intro hregister
      exact hsound k hk (hstage?.trans (by rw [hregister]))
    refine ⟨call, hcall, hpast, hregistered, ?_⟩
    intro entry hentry
    refine ⟨hkept.calm entry (hcalm entry hentry), ?_⟩
    by_cases hawaited : awaited call.stage = some entry
    · right
      rcases h.reach k call entry hcall hawaited with hmem | hreached
      · -- the entry is in the map, and its call is to the participant
        right
        apply hswept _ hmem
        obtain ⟨pending, hpending, hdestination⟩ := h.owned k call entry hcall hentry
        cases participantIdentity with
        | none => rfl
        | some identity =>
          have hsame := hto identity rfl
          simp [Engine.sweeps, hpending, hdestination, hsame]
      · exact hkept.reached hreached
    · by_cases hunregister : call.stage = .unregister entry
      · exact Or.inl hunregister
      · obtain ⟨result, hdone⟩ := exists_done hentry hawaited hunregister
        obtain ⟨pending, hpending, first, hfirst, -⟩ := h.done k call entry result hcall hdone
        have hcompleted : Completed engine entry :=
          ⟨pending, hpending, fun hnone => by simp [hnone] at hfirst⟩
        exact Or.inr (Or.inl (hcompleted.grow hkept.grow))

theorem Watch.complete (h : Watch engine) {entries : List Nat} {updates : List ParticipantInfo}
    {during : List Nat}
    (hcanceller : engine.cancellers[i]? = some (.complete entries updates during)) :
    Watch (engine.cancellerStep i (.complete entries updates during)) := by
  have hinv := h.toInv.cancellerStep i (.complete entries updates during)
  have howes := h.owes _ (List.mem_of_getElem? hcanceller)
  cases entries with
  | nil =>
    have hkept : Kept engine (engine.cancellerStep i (.complete [] updates during)) :=
      kept_setCanceller hcanceller rfl _ rfl rfl
    refine h.frame hinv rfl hkept h.codes (fun _ => Or.inl) ?_ ?_
    · exact fun other hmem => mem_setCanceller hmem trivial
    · intro k hk
      rcases List.mem_append.1 hk with hold | hnew
      · exact Or.inl hold
      · exact Or.inr (howes k (List.mem_of_mem_filter hnew))
  | cons entry entries =>
    have hbrings := brings_cancelled
    have hgrow := growInto_modify
      (fun pending => pending.grows_complete (.cancelled recipientDisconnected))
      engine.entries entry
    have hkept : Kept engine
        (engine.cancellerStep i (.complete (entry :: entries) updates during)) := by
      refine ⟨hgrow, fun _ => hbrings.calm, ?_⟩
      intro other hclaimed
      have hlength : other < (engine.entries.modify entry
          (·.complete (.cancelled recipientDisconnected))).length := by
        simpa using hclaimed.1
      rcases claimed_setCanceller hcanceller (.complete entries updates during) hclaimed
        with hclaims | hother
      · rcases List.mem_cons.1 hclaims with rfl | hlater
        · left
          have hexists : other < engine.entries.length := hclaimed.1
          refine ⟨engine.entries[other].complete (.cancelled recipientDisconnected), ?_, ?_⟩
          · simp [Engine.cancellerStep, Engine.setCanceller, Engine.modifyEntry, hexists]
          · simp [completions_complete]
        · have hlt := (List.getElem?_eq_some_iff.1 hcanceller).1
          exact Or.inr ⟨hlength, _, List.mem_set hlt _, hlater⟩
      · exact Or.inr ⟨hlength, hother⟩
    refine h.frame hinv rfl hkept (hbrings.codes h entry) (fun _ => Or.inl) ?_ fun _ => Or.inl
    intro other hmem
    apply mem_setCanceller hmem
    exact fun k hk => (howes k hk).kept hkept rfl

end Cancellers

/-! ### Calls -/

section Calls

variable {after : Engine} {k : Nat} {call : Call}

/-- A call goes on.  It may do what it likes to its own entry as long as no canceller has
    to reach it. -/
theorem Watch.setCall (h : Watch engine) (next : Call) (hinv : Inv after)
    (hcall : engine.calls[k]? = some call) (hat : after.calls[k]? = some next)
    (hothers : ∀ j, j ≠ k → after.calls[j]? = engine.calls[j]?)
    (hcancellers : after.cancellers = engine.cancellers)
    (hleft : after.recipientLeft = engine.recipientLeft)
    (hcodes : ∀ pending ∈ after.entries, ∀ code, .cancelled code ∈ pending.completions →
      code = recipientDisconnected)
    (hgrow : GrowInto engine.entries after.entries)
    (hcalm : ∀ entry, call.stage.entry ≠ some entry → Calm engine entry → Calm after entry)
    (hids : next.stage.entry ≠ none →
      (call.stage.entry ≠ none ∧ next.requestId = call.requestId) ∨
        ∀ other ∈ engine.calls, other.requestId ≠ next.requestId)
    (hmap : ∀ item ∈ engine.pendingRpcCalls, item ∈ after.pendingRpcCalls ∨
      (call.requestId = item.1 ∧ call.stage.entry ≠ none))
    (hreach : ∀ entry, awaited next.stage = some entry →
      (next.requestId, entry) ∈ after.pendingRpcCalls ∨ Completed after entry ∨
        Claimed after entry)
    (hexpected : ∀ canceller ∈ engine.cancellers, k ∈ during canceller →
      ∀ participantIdentity, Expected engine participantIdentity k →
        Expected after participantIdentity k)
    (hbound : ((∃ canceller ∈ engine.cancellers, k ∈ during canceller) ∨
      k ∈ engine.recipientLeft) → Bound engine k → Bound after k) : Watch after := by
  have hclaimed : ∀ entry, Claimed engine entry → Claimed after entry := by
    rintro entry ⟨hlt, hclaims⟩
    obtain ⟨grown, hgrown, -⟩ := hgrow entry _ (List.getElem?_eq_getElem hlt)
    exact ⟨(List.getElem?_eq_some_iff.1 hgrown).1, hcancellers ▸ hclaims⟩
  -- another call has another entry
  have hother : ∀ (j : Nat) (other : Call) (entry : Nat), j ≠ k →
      engine.calls[j]? = some other → other.stage.entry = some entry →
        call.stage.entry ≠ some entry := by
    intro j other entry hjk hj hhas hsame
    exact hjk (h.distinct j k other call entry hj hcall hhas hsame)
  have hexpectedOther : ∀ j, j ≠ k → ∀ participantIdentity,
      Expected engine participantIdentity j → Expected after participantIdentity j := by
    rintro j hjk participantIdentity ⟨other, hj, hpast, hto, hcalms⟩
    refine ⟨other, (hothers j hjk).trans hj, hpast, hto, ?_⟩
    intro entry hentry
    exact hcalm entry (hother j other entry hjk hj hentry) (hcalms entry hentry)
  have hboundOther : ∀ j, j ≠ k → Bound engine j → Bound after j := by
    rintro j hjk ⟨other, hj, hpast, hregistered, hreached⟩
    refine ⟨other, (hothers j hjk).trans hj, hpast, hregistered, ?_⟩
    intro entry hentry
    obtain ⟨hcalms, hunregister | hcompleted | hclaims⟩ := hreached entry hentry
    · exact ⟨hcalm entry (hother j other entry hjk hj hentry) hcalms, Or.inl hunregister⟩
    · exact ⟨hcalm entry (hother j other entry hjk hj hentry) hcalms,
        Or.inr (Or.inl (hcompleted.grow hgrow))⟩
    · exact ⟨hcalm entry (hother j other entry hjk hj hentry) hcalms,
        Or.inr (Or.inr (hclaimed entry hclaims))⟩
  have hexpectedAll : ∀ canceller ∈ engine.cancellers, ∀ j ∈ during canceller,
      ∀ participantIdentity, Expected engine participantIdentity j →
        Expected after participantIdentity j := by
    intro canceller hmem j hj participantIdentity hbefore
    by_cases hjk : j = k
    · subst hjk
      exact hexpected canceller hmem hj participantIdentity hbefore
    · exact hexpectedOther j hjk participantIdentity hbefore
  have hboundAll : ∀ j, ((∃ canceller ∈ engine.cancellers, j ∈ during canceller) ∨
      j ∈ engine.recipientLeft) → Bound engine j → Bound after j := by
    intro j hj hbefore
    by_cases hjk : j = k
    · subst hjk
      exact hbound hj hbefore
    · exact hboundOther j hjk hbefore
  refine ⟨hinv, hcodes, ?_, ?_, ?_, ?_⟩
  · -- the ids
    have hfresh : ∀ (j : Nat) (other : Call), j ≠ k → engine.calls[j]? = some other →
        other.stage.entry ≠ none → next.stage.entry ≠ none →
          other.requestId ≠ next.requestId := by
      intro j other hjk hj hhas hnext hsame
      rcases hids hnext with ⟨hhad, hid⟩ | hnew
      · exact hjk (h.ids j k other call hj hcall hhas hhad (hsame.trans hid))
      · exact hnew other (List.mem_of_getElem? hj) hsame
    intro i j one other hi hj hone hhas hsame
    by_cases hik : i = k
    · by_cases hjk : j = k
      · rw [hik, hjk]
      · subst hik
        rw [hothers j hjk] at hj
        rw [hat, Option.some.injEq] at hi
        subst hi
        exact absurd hsame.symm (hfresh j other hjk hj hhas hone)
    · rw [hothers i hik] at hi
      by_cases hjk : j = k
      · subst hjk
        rw [hat, Option.some.injEq] at hj
        subst hj
        exact absurd hsame (hfresh i one hik hi hone hhas)
      · rw [hothers j hjk] at hj
        exact h.ids i j one other hi hj hone hhas hsame
  · -- the map
    intro j other entry hj hawaited
    by_cases hjk : j = k
    · subst hjk
      rw [hat, Option.some.injEq] at hj
      subst hj
      exact hreach entry hawaited
    · rw [hothers j hjk] at hj
      rcases h.reach j other entry hj hawaited with hmem | hcompleted | hclaims
      · rcases hmap _ hmem with hmem | ⟨hsame, hhad⟩
        · exact Or.inl hmem
        · have hhas : other.stage.entry ≠ none := by
            rw [entry_of_awaited hawaited]
            simp
          exact absurd (h.ids j k other call hj hcall hhas hhad hsame.symm) hjk
      · exact Or.inr (Or.inl (hcompleted.grow hgrow))
      · exact Or.inr (Or.inr (hclaimed entry hclaims))
  · intro canceller hmem
    rw [hcancellers] at hmem
    have howes := h.owes canceller hmem
    cases canceller with
    | update updates => trivial
    | reset again during => exact fun j hj => hexpectedAll _ hmem j hj _ (howes j hj)
    | sweep participantIdentity updates during =>
      exact fun j hj => hexpectedAll _ hmem j hj _ (howes j hj)
    | complete entries updates during =>
      exact fun j hj => hboundAll j (Or.inl ⟨_, hmem, hj⟩) (howes j hj)
  · intro j hj
    rw [hleft] at hj
    exact hboundAll j (Or.inr hj) (h.left j hj)

/-- A call goes on with its entry as it is, or gives it up. -/
theorem Watch.setStage (h : Watch engine) {stage : Stage} {items : List (String × Nat)}
    (hinv : Inv { engine.setStage k call stage with pendingRpcCalls := items })
    (hcall : engine.calls[k]? = some call)
    (hentry : stage.entry = none ∨ stage.entry = call.stage.entry)
    (hpast : Past call.stage → Past stage ∧ stage ≠ .register)
    (hunregister : ∀ entry, call.stage = .unregister entry → stage.entry = none)
    (hmap : ∀ item ∈ engine.pendingRpcCalls, item ∈ items ∨
      (call.requestId = item.1 ∧ call.stage.entry ≠ none))
    (hawaited : ∀ entry, awaited stage = some entry → awaited call.stage = some entry)
    (hitems : awaited stage ≠ none → items = engine.pendingRpcCalls) :
    Watch { engine.setStage k call stage with pendingRpcCalls := items } := by
  have hlt : k < engine.calls.length := (List.getElem?_eq_some_iff.1 hcall).1
  have hkept : Kept engine { engine.setStage k call stage with pendingRpcCalls := items } :=
    .of_eq rfl rfl
  have hfrom : ∀ entry, stage.entry = some entry → call.stage.entry = some entry := by
    intro entry hhas
    rcases hentry with hnone | hsame
    · simp [hnone] at hhas
    · exact hsame ▸ hhas
  refine h.setCall { call with stage := stage } hinv hcall
    (List.getElem?_set_self hlt) (fun j hjk => List.getElem?_set_ne (Ne.symm hjk)) rfl rfl h.codes
    hkept.grow (fun entry _ => hkept.calm entry) ?_ hmap ?_ ?_ ?_
  · intro hhas
    left
    obtain ⟨entry, hhas⟩ := Option.ne_none_iff_exists'.1 hhas
    rw [hfrom entry hhas]
    exact ⟨by simp, rfl⟩
  · intro entry hwaits
    rw [hitems (by simp [hwaits])]
    exact h.reach k call entry hcall (hawaited entry hwaits)
  · rintro _ _ _ participantIdentity ⟨other, hother, hpastBefore, hto, hcalm⟩
    rw [hcall, Option.some.injEq] at hother
    subst hother
    refine ⟨_, List.getElem?_set_self hlt, (hpast hpastBefore).1, hto, ?_⟩
    intro entry hhas
    exact hcalm entry (hfrom entry hhas)
  · rintro _ ⟨other, hother, hpastBefore, -, hreached⟩
    rw [hcall, Option.some.injEq] at hother
    subst hother
    refine ⟨_, List.getElem?_set_self hlt, (hpast hpastBefore).1, (hpast hpastBefore).2, ?_⟩
    intro entry hhas
    obtain ⟨hcalm, hgives | hreached⟩ := hreached entry (hfrom entry hhas)
    · rw [hunregister entry hgives] at hhas
      simp at hhas
    · exact ⟨hcalm, Or.inr hreached⟩

theorem Watch.register (h : Watch engine) {requestId : String}
    (hcall : engine.calls[k]? = some call) (hstage : call.stage = .register)
    (hfresh : ∀ other ∈ engine.calls, other.requestId ≠ requestId) :
    Watch (engine.register k call requestId) := by
  have hlt : k < engine.calls.length := (List.getElem?_eq_some_iff.1 hcall).1
  have hgrow : GrowInto engine.entries (engine.register k call requestId).entries := by
    intro entry pending hpending
    have hentry := (List.getElem?_eq_some_iff.1 hpending).1
    exact ⟨pending, (List.getElem?_append_left hentry).trans hpending, .rfl⟩
  -- nothing has come to the new entry
  have hcalm : ∀ entry, Calm engine entry → Calm (engine.register k call requestId) entry := by
    intro entry hbefore pending hpending
    simp only [Engine.register, List.getElem?_append] at hpending
    split at hpending
    · exact hbefore pending hpending
    · rw [List.getElem?_singleton] at hpending
      split at hpending
      · rw [← Option.some.inj hpending]
        rfl
      · simp at hpending
  refine h.setCall { call with requestId := requestId, stage := .send engine.entries.length }
    (h.toInv.register requestId hcall hstage) hcall
    (List.getElem?_set_self hlt) (fun j hjk => List.getElem?_set_ne (Ne.symm hjk)) rfl rfl ?_
    hgrow (fun entry _ => hcalm entry) (fun _ => Or.inr hfresh) ?_ ?_ ?_ ?_
  · intro pending hmem code hcode
    rcases List.mem_append.1 hmem with hold | hnew
    · exact h.codes pending hold code hcode
    · rw [List.mem_singleton.1 hnew] at hcode
      simp at hcode
  · intro item hmem
    left
    simp only [Engine.register]
    split
    · exact hmem
    · exact List.mem_append_left _ hmem
  · -- nobody has the id, so `emplace` takes the new entry
    intro entry hwaits
    left
    have hnobody : engine.pendingRpcCalls.lookup requestId = none := by
      rw [List.lookup_eq_none_iff]
      intro item hmem
      obtain ⟨j, owner, howner, hid, -, -⟩ := h.held item hmem
      have hother := hfresh owner (List.mem_of_getElem? howner)
      rw [hid] at hother
      simpa using Ne.symm hother
    have hentry : engine.entries.length = entry := by simpa [awaited] using hwaits
    simp [Engine.register, hnobody, hentry]
  · rintro _ _ _ participantIdentity ⟨other, hother, hpast, hto, -⟩
    rw [hcall, Option.some.injEq] at hother
    subst hother
    refine ⟨_, List.getElem?_set_self hlt, ⟨by simp, by simp⟩, hto, ?_⟩
    intro entry hhas
    apply hcalm
    intro pending hpending
    have hentry : engine.entries.length = entry := by simpa [Stage.entry] using hhas
    simp [← hentry] at hpending
  · rintro _ ⟨other, hother, -, hregistered, -⟩
    rw [hcall, Option.some.injEq] at hother
    exact absurd (hother ▸ hstage) hregistered

/-- A call passes its deadline while no canceller has to reach it. -/
theorem Watch.timeout (h : Watch engine) {entry : Nat} (completion : Completion)
    (hcompletion : ∀ code, completion ≠ .cancelled code)
    (hcall : engine.calls[k]? = some call) (hentry : call.stage.entry = some entry)
    (hwaits : ∀ other, call.stage ≠ .unregister other)
    {pending : PendingRpcCall} (hpending : engine.entries[entry]? = some pending)
    (hopen : pending.completed = false)
    (hnobody : ∀ canceller ∈ engine.cancellers, k ∉ during canceller ∧ entry ∉ claims canceller) :
    Watch ((engine.modifyEntry entry (·.complete completion)).leave k call entry) := by
  have hinv := h.toInv.timeout completion hcall hentry
  have hlt : k < engine.calls.length := (List.getElem?_eq_some_iff.1 hcall).1
  have hafter : (engine.modifyEntry entry (·.complete completion)).entries[entry]? =
      some (pending.complete completion) := by simp [Engine.modifyEntry, hpending]
  -- the entry is not completed and nobody is about to do it, so nobody waits for that
  have hnot : ¬ Bound engine k := by
    rintro ⟨other, hother, -, -, hreached⟩
    rw [hcall, Option.some.injEq] at hother
    subst hother
    rcases (hreached entry hentry).2 with
      hgives | ⟨other, hother, hsome⟩ | ⟨-, canceller, hmem, hclaims⟩
    · exact hwaits entry hgives
    · have hcompleted := (h.ok other (List.mem_of_getElem? hother)).completed.2 hsome
      rw [hpending, Option.some.injEq] at hother
      rw [← hother, hopen] at hcompleted
      simp at hcompleted
    · exact (hnobody canceller hmem).2 hclaims
  rw [Engine.leave, hafter] at hinv ⊢
  refine h.setCall { call with stage := .remove entry (pending.complete completion).result }
    hinv hcall
    (List.getElem?_set_self hlt) (fun j hjk => List.getElem?_set_ne (Ne.symm hjk)) rfl rfl ?_
    (growInto_modify (fun pending => pending.grows_complete completion) _ _) ?_ ?_
    (fun _ => Or.inl) ?_ ?_ ?_
  · apply h.codes_modify
    intro pending code hcode
    rw [completions_complete, List.mem_append, List.mem_singleton] at hcode
    exact hcode.imp_right fun hlast => absurd hlast.symm (hcompletion code)
  · intro other hother hcalm grown hgrown
    have hne : entry ≠ other := by
      rintro rfl
      exact hother hentry
    simp only [Engine.setStage, Engine.modifyEntry, List.getElem?_modify_ne _ _ hne] at hgrown
    exact hcalm grown hgrown
  · intro _
    left
    rw [hentry]
    exact ⟨by simp, rfl⟩
  · simp [awaited]
  · intro canceller hmem hduring
    exact absurd hduring (hnobody canceller hmem).1
  · exact fun _ hbound => absurd hbound hnot

/-- The call reads the result of an entry that is completed. -/
theorem Watch.leave (h : Watch engine) {entry : Nat} (hinv : Inv (engine.leave k call entry))
    (hcall : engine.calls[k]? = some call) (hentry : call.stage.entry = some entry)
    (hwaits : ∀ other, call.stage ≠ .unregister other) :
    Watch (engine.leave k call entry) := by
  unfold Engine.leave at hinv ⊢
  cases hpending : engine.entries[entry]? with
  | none => exact h
  | some pending =>
    simp only [hpending] at hinv
    refine h.setStage hinv hcall (Or.inr hentry.symm) (fun _ => ⟨⟨by simp, by simp⟩, by simp⟩) ?_
      (fun _ => Or.inl) (by simp [awaited]) (fun _ => rfl)
    exact fun other hgives => absurd hgives (hwaits other)

theorem Watch.awaitAck (h : Watch engine) {entry : Nat} {deadline : Bool}
    (hcall : engine.calls[k]? = some call) (hstage : call.stage = .awaitAck entry)
    (hsound : Sound engine (.call k (.awaitAck deadline))) :
    Watch (engine.awaitAck k call entry deadline) := by
  have hinv := h.toInv.awaitAck deadline hcall hstage
  have hentry : call.stage.entry = some entry := by rw [hstage]; rfl
  have hwaits : ∀ other, call.stage ≠ .unregister other := by simp [hstage]
  obtain ⟨pending, hpending, -⟩ := h.owned k call entry hcall hentry
  have hstage? : engine.stage? k = some (.awaitAck entry) := by
    rw [Engine.stage?, hcall, ← hstage]
    rfl
  simp only [Engine.awaitAck, hpending] at hinv ⊢
  by_cases hcompleted : pending.completed = true
  · simp only [hcompleted, if_true] at hinv ⊢
    exact h.leave hinv hcall hentry hwaits
  · by_cases hacknowledged : pending.acknowledged = true
    · simp only [hcompleted, hacknowledged, if_true, Bool.false_eq_true, if_false] at hinv ⊢
      refine h.setStage hinv hcall (Or.inr hentry.symm)
        (fun _ => ⟨⟨by simp, by simp⟩, by simp⟩) ?_ (fun _ => Or.inl) ?_ (fun _ => rfl)
      · exact fun other hgives => absurd hgives (hwaits other)
      · intro other hother
        rw [hstage]
        exact hother
    · cases deadline with
      | false => simpa [hcompleted, hacknowledged] using h
      | true =>
        simp only [hcompleted, hacknowledged, if_true, Bool.false_eq_true, if_false]
        have htimesOut : timesOut engine k (.awaitAck true) = some entry := by
          simp [timesOut, hstage?, hpending, hcompleted, hacknowledged]
        exact h.timeout .ackTimeout (by simp) hcall hentry hwaits hpending
          (Bool.not_eq_true _ ▸ hcompleted) (hsound.1 entry htimesOut)

theorem Watch.awaitResponse (h : Watch engine) {entry : Nat} {deadline : Bool}
    (hcall : engine.calls[k]? = some call) (hstage : call.stage = .awaitResponse entry)
    (hsound : Sound engine (.call k (.awaitResponse deadline))) :
    Watch (engine.awaitResponse k call entry deadline) := by
  have hinv := h.toInv.awaitResponse deadline hcall hstage
  have hentry : call.stage.entry = some entry := by rw [hstage]; rfl
  have hwaits : ∀ other, call.stage ≠ .unregister other := by simp [hstage]
  obtain ⟨pending, hpending, -⟩ := h.owned k call entry hcall hentry
  have hstage? : engine.stage? k = some (.awaitResponse entry) := by
    rw [Engine.stage?, hcall, ← hstage]
    rfl
  simp only [Engine.awaitResponse, hpending] at hinv ⊢
  by_cases hcompleted : pending.completed = true
  · simp only [hcompleted, if_true] at hinv ⊢
    exact h.leave hinv hcall hentry hwaits
  · cases deadline with
    | false => simpa [hcompleted] using h
    | true =>
      simp only [hcompleted, if_true, Bool.false_eq_true, if_false]
      have htimesOut : timesOut engine k (.awaitResponse true) = some entry := by
        simp [timesOut, hstage?, hpending, hcompleted]
      exact h.timeout .responseTimeout (by simp) hcall hentry hwaits hpending
        (Bool.not_eq_true _ ▸ hcompleted) (hsound.1 entry htimesOut)

theorem Watch.callStep (h : Watch engine) {next : Section}
    (hcall : engine.calls[k]? = some call) (hsound : Sound engine (.call k next)) :
    Watch (engine.callStep k call next) := by
  have hinv := h.toInv.callStep next hcall
  unfold Engine.callStep at hinv ⊢
  split
  · rename_i hstage
    simp only [hstage] at hinv
    have hcheck : ¬ Past call.stage := fun hpast => hpast.1 hstage
    split
    · rename_i hmem
      simp only [hmem, if_true] at hinv
      exact h.setStage hinv hcall (Or.inl rfl) (fun hpast => absurd hpast hcheck)
        (by simp [hstage]) (fun _ => Or.inl) (by simp [awaited]) (fun _ => rfl)
    · rename_i hmem
      simp only [hmem, if_false] at hinv
      exact h.setStage hinv hcall (Or.inl rfl) (fun hpast => absurd hpast hcheck)
        (by simp [hstage]) (fun _ => Or.inl) (by simp [awaited]) (fun _ => rfl)
  · rename_i requestId hstage
    exact h.register hcall hstage hsound.2
  · rename_i entry ok hstage
    simp only [hstage] at hinv
    cases ok with
    | true =>
      have hnext : Watch (engine.setStage k call (.awaitAck entry)) := by
        refine h.setStage { hinv with } hcall (Or.inr (by rw [hstage]; rfl))
          (fun _ => ⟨⟨by simp, by simp⟩, by simp⟩) (by simp [hstage]) (fun _ => Or.inl)
          ?_ (fun _ => rfl)
        intro other hother
        rw [hstage]
        exact hother
      exact { hnext with }
    | false =>
      exact h.setStage hinv hcall (Or.inr (by rw [hstage]; rfl))
        (fun _ => ⟨⟨by simp, by simp⟩, by simp⟩) (by simp [hstage]) (fun _ => Or.inl)
        (by simp [awaited]) (fun _ => rfl)
  · rename_i entry hstage
    simp only [hstage] at hinv
    refine h.setStage hinv hcall (Or.inl rfl) (fun _ => ⟨⟨by simp, ?_⟩, by simp⟩)
      (fun _ _ => rfl) ?_ (by simp [awaited]) (by simp [awaited])
    · intro result hsame
      simpa using hsame.symm
    · intro item hmem
      by_cases hid : item.1 = call.requestId
      · exact Or.inr ⟨hid.symm, by simp [hstage, Stage.entry]⟩
      · exact Or.inl (List.mem_filter.2 ⟨hmem, by simpa using hid⟩)
  · rename_i entry deadline hstage
    exact h.awaitAck hcall hstage hsound
  · rename_i entry deadline hstage
    exact h.awaitResponse hcall hstage hsound
  · rename_i entry result hstage
    simp only [hstage] at hinv
    refine h.setStage hinv hcall (Or.inr (by rw [hstage]; rfl))
      (fun _ => ⟨⟨by simp, by simp⟩, by simp⟩) (by simp [hstage]) ?_ (by simp [awaited])
      (by simp [awaited])
    intro item hmem
    by_cases hitem : item = (call.requestId, entry)
    · exact Or.inr ⟨by rw [hitem], by simp [hstage, Stage.entry]⟩
    · exact Or.inl (List.mem_filter.2 ⟨hmem, by simpa using hitem⟩)
  · exact h

end Calls

theorem Watch.performRpc (h : Watch engine) (params : PerformRpcParams) :
    Watch (engine.performRpc params) := by
  have hinv := h.toInv.performRpc params
  have hkept : Kept engine (engine.performRpc params) := .of_eq rfl rfl
  have hold : ∀ (k : Nat) (call : Call), engine.calls[k]? = some call →
      (engine.performRpc params).calls[k]? = engine.calls[k]? := by
    intro k call hcall
    exact List.getElem?_append_left (List.getElem?_eq_some_iff.1 hcall).1
  refine ⟨hinv, h.codes, ?_, ?_, ?_, ?_⟩
  · intro j k one other hj hk hone hother
    exact h.ids j k one other (calls_of_performRpc hj hone) (calls_of_performRpc hk hother) hone
      hother
  · intro k call entry hcall hawaited
    have hhas : call.stage.entry ≠ none := by simp [entry_of_awaited hawaited]
    exact h.reach k call entry (calls_of_performRpc hcall hhas) hawaited
  · intro canceller hmem
    have howes := h.owes canceller hmem
    apply howes.kept hkept
    intro k hk
    have hcall : ∃ call, engine.calls[k]? = some call := by
      cases canceller with
      | update updates => simp [during] at hk
      | reset again during => exact (howes k hk).imp fun _ hcall => hcall.1
      | sweep participantIdentity updates during => exact (howes k hk).imp fun _ hcall => hcall.1
      | complete entries updates during => exact (howes k hk).imp fun _ hcall => hcall.1
    obtain ⟨call, hcall⟩ := hcall
    exact hold k call hcall
  · intro k hk
    obtain ⟨call, hcall, -⟩ := h.left k hk
    exact (h.left k hk).kept hkept (hold k call hcall)

/-- A new canceller that claims nothing. -/
theorem Watch.addCanceller (h : Watch engine) {canceller : Canceller}
    (howes : Owes engine canceller) :
    Watch { engine with cancellers := engine.cancellers ++ [canceller] } := by
  have hkept : Kept engine { engine with cancellers := engine.cancellers ++ [canceller] } := by
    refine ⟨.rfl, fun _ => id, ?_⟩
    rintro entry ⟨hlt, other, hmem, hclaims⟩
    exact Or.inr ⟨hlt, other, List.mem_append_left _ hmem, hclaims⟩
  refine h.frame { h.toInv with } rfl hkept h.codes (fun _ => Or.inl) ?_ fun _ => Or.inl
  intro other hmem
  rcases List.mem_append.1 hmem with hold | hnew
  · exact Or.inl hold
  · rw [List.mem_singleton.1 hnew]
    exact Or.inr (howes.kept hkept fun _ _ => rfl)

theorem Watch.step (h : Watch engine) {act : Act} (hsound : Sound engine act) :
    Watch (engine.step act) := by
  cases act with
  | performRpc params => exact h.performRpc params
  | call k next =>
    simp only [Engine.step]
    split
    · rename_i call hcall
      exact h.callStep hcall hsound
    · exact h
  | receive packet =>
    simp only [Engine.step, Engine.receive]
    split
    · exact h
    · exact { h with }
  | handle i => exact h.handle i
  | onParticipantUpdate updates => exact h.addCanceller trivial
  | disconnect =>
    apply h.addCanceller
    intro k hk
    exact expected_of_underWay hk (hsound k hk)
  | cancel i =>
    simp only [Engine.step]
    split
    · rename_i canceller hcanceller
      cases canceller with
      | update updates => exact h.update hcanceller hsound
      | reset again during => exact h.reset hcanceller
      | sweep participantIdentity updates during => exact h.sweep hcanceller hsound
      | complete entries updates during => exact h.complete hcanceller
    · exact h
  | connectTransport response => exact { h with }
  | resetTransport => exact { h with }

theorem watch_new : Watch {} where
  toInv := inv_new
  codes := by simp
  ids := by simp
  reach := by simp
  owes := by simp
  left := by simp

end Inv

/-! ## 5. Runs -/

/-- **A call is cancelled when its recipient leaves**, in every run in which the sweep of
    the map finds the calls that it has to reach, and finds them before their deadlines. -/
theorem rpc_cancelled {acts : List Act} {engine : Engine}
    (hrun : Exec (Guarded Sound fun before act after => after = before.step act) {} acts engine) :
    Cancelled engine := by
  have hwatch : Watch engine := by
    refine hrun.invariant ?_ watch_new
    rintro before act after hbefore ⟨hsound, rfl⟩
    exact hbefore.step hsound
  exact hwatch.cancelled

/-- A call to bob, up to the look at the participants. -/
def callBob : List Act :=
  [.connectTransport ⟨some { sid := "PA_a", identity := "alice" },
      [{ sid := "PA_b", identity := "bob" }]⟩,
   .performRpc { destinationIdentity := "bob", method := "ping" }, .call 0 .check]

/-- Bob leaves: the identity, the sweep, the entry if the sweep finds it, and the end. -/
def bobLeaves (found : Bool) : List Act :=
  .onParticipantUpdate [{ sid := "PA_b", identity := "bob", state := .disconnected }] ::
    List.replicate (if found then 4 else 3) (.cancel 0)

/-- Bob leaves while the call waits. -/
def leavesLateActs : List Act :=
  List.flatten
    [callBob, [.call 0 (.register "r1"), .call 0 (.send true), .call 0 (.awaitAck false)],
     bobLeaves true, [.call 0 (.awaitAck true), .call 0 .remove]]

/-- Bob leaves between the look at the participants and the making of the entry. -/
def leavesEarlyActs : List Act :=
  List.flatten
    [callBob, bobLeaves false,
     [.call 0 (.register "r1"), .call 0 (.send true), .call 0 (.awaitAck true), .call 0 .remove]]

theorem rpc_cancelled_leavesLateActs :
    Cancelled (leavesLateActs.foldl Engine.step {}) ∧
      0 ∈ (leavesLateActs.foldl Engine.step {}).recipientLeft ∧
      (leavesLateActs.foldl Engine.step {}).stage? 0 =
        some (.returned (some 0) (.builtIn recipientDisconnected)) :=
  ⟨@rpc_cancelled leavesLateActs _ (exec_guarded (by decide +kernel)), by decide +kernel,
    by decide +kernel⟩

theorem leavesEarlyActs_time_out :
    0 ∈ (leavesEarlyActs.foldl Engine.step {}).recipientLeft ∧
      (leavesEarlyActs.foldl Engine.step {}).stage? 0 =
        some (.returned (some 0) (.builtIn connectionTimeout)) ∧
      ¬ Cancelled (leavesEarlyActs.foldl Engine.step {}) := by
  have hleft : 0 ∈ (leavesEarlyActs.foldl Engine.step {}).recipientLeft := by decide +kernel
  have hstage : (leavesEarlyActs.foldl Engine.step {}).stage? 0 =
      some (.returned (some 0) (.builtIn connectionTimeout)) := by decide +kernel
  refine ⟨hleft, hstage, ?_⟩
  intro hcancelled
  rcases hcancelled 0 hleft _ _ hstage with hwrong | ⟨pending, hpending, identity, result, hmem⟩
  · revert hwrong
    decide
  · have hentry : (leavesEarlyActs.foldl Engine.step {}).entries[0]?.map (·.completions) =
        some [.ackTimeout] := by decide +kernel
    rw [hpending, Option.map_some, Option.some.injEq] at hentry
    rw [hentry] at hmem
    simp at hmem

end LivekitClient.RpcCancellation
