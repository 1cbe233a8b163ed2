/-
  LivekitClient/RpcCalls.lean
  ===========================
  **Calls of remote methods** (`RtcEngine::PerformRpc`, `HandleRpcAck`,
  `HandleRpcResponse`, `CancelPendingRpc`, `OnParticipantUpdate` and `Disconnect` in
  `src/core/detail/rtc_engine.cpp`).

  A call puts an entry into the map of pending calls and waits at it, first for an ack
  and then for a result.  Whoever completes it looks the entry up under the mutex of the
  map and completes it later under its own mutex, if nobody else has: the call itself at
  a deadline, a response, or the participant's leaving.

  Each section under a mutex is a step, and the threads take them in any order.  Entries
  are shared, so they are cells that the map and the threads name by their position.
  What came to complete an entry is kept with it, in the order in which it had the mutex.
-/
import LivekitClient.CellHeap
import LivekitClient.Runs
import LivekitClient.RpcResponses
import LivekitClient.RpcIdentities

namespace LivekitClient.RpcCalls

open Runs
open RpcResponses (RpcResult RpcErrorCode RpcRequest RpcResponse kMaximumRpcPayloadBytes
  kRpcVersion)
open RpcResponses.RpcErrorCode
open RpcIdentities (updateIdentities joinIdentities)
open RoomStore (ParticipantInfo ParticipantState JoinResponse)

/-! ## 1. Entries -/

/-- What comes to complete a call. -/
inductive Completion where
  | response (participantIdentity : String) (result : RpcResult)
  | cancelled (code : RpcErrorCode)
  | ackTimeout
  | responseTimeout
deriving DecidableEq

def Completion.result : Completion → RpcResult
  | .response _ result => result
  | .cancelled code => .builtIn code
  | .ackTimeout => .builtIn connectionTimeout
  | .responseTimeout => .builtIn RpcErrorCode.responseTimeout

/-- `completions` is the record of what came to complete the call. -/
structure PendingRpcCall where
  destinationIdentity : String
  acknowledged : Bool := false
  completed : Bool := false
  result : RpcResult := {}
  completions : List Completion := []
deriving DecidableEq

namespace PendingRpcCall

/-- Complete the call, unless something has. -/
def complete (pending : PendingRpcCall) (completion : Completion) : PendingRpcCall :=
  if pending.completed then
    { pending with completions := pending.completions ++ [completion] }
  else
    { pending with
      completed := true
      result := completion.result
      completions := pending.completions ++ [completion] }

def acknowledge (pending : PendingRpcCall) : PendingRpcCall :=
  { pending with acknowledged := true }

/-- The section of `HandleRpcResponse`. -/
def respond (pending : PendingRpcCall) (participantIdentity : String) (result : RpcResult) :
    PendingRpcCall :=
  if pending.completed then pending.complete (.response participantIdentity result)
  else pending.acknowledge.complete (.response participantIdentity result)

end PendingRpcCall

/-! ## 2. The engine -/

structure PerformRpcParams where
  destinationIdentity : String
  method : String
  payload : Bytes := []
  responseTimeout : Int := 15000
deriving DecidableEq

def kMinimumRpcTimeout : Int := 8000

/-- The request that `PerformRpc` sends. -/
def PerformRpcParams.request (params : PerformRpcParams) (requestId : String) : RpcRequest where
  id := requestId
  method := params.method
  payload := params.payload
  responseTimeoutMs :=
    UInt32.ofNat (min (max params.responseTimeout kMinimumRpcTimeout) 4294967295).toNat
  version := kRpcVersion

/-- Where `PerformRpc` is: before the look at the participants, before it has an entry,
    before the request is sent, before it gives up the entry again, in the two waits,
    before it removes the entry, and back.  A call that has sent its request keeps the
    entry to the end. -/
inductive Stage where
  | check
  | register
  | send (entry : Nat)
  | unregister (entry : Nat)
  | awaitAck (entry : Nat)
  | awaitResponse (entry : Nat)
  | remove (entry : Nat) (result : RpcResult)
  | returned (entry : Option Nat) (result : RpcResult)
deriving DecidableEq

structure Call where
  params : PerformRpcParams
  requestId : String := ""
  stage : Stage := .check
deriving DecidableEq

/-- An ack or a response. -/
inductive RpcPacketBody where
  | ack (requestId : String)
  | response (response : RpcResponse)
deriving DecidableEq

def RpcPacketBody.requestId : RpcPacketBody → String
  | .ack requestId => requestId
  | .response packet => packet.requestId

structure RpcPacket where
  participantIdentity : String := ""
  body : RpcPacketBody
deriving DecidableEq

/-- A packet is for an entry if it names no sender, or the right one. -/
def PendingRpcCall.takePacket (pending : PendingRpcCall) (packet : RpcPacket) : PendingRpcCall :=
  if packet.participantIdentity ≠ "" ∧
      packet.participantIdentity ≠ pending.destinationIdentity then pending
  else
    match packet.body with
    | .ack _ => pending.acknowledge
    | .response response => pending.respond packet.participantIdentity response.result

/-- Where a thread is that may cancel calls: in the loop of `OnParticipantUpdate`, in a
    `ResetTransport` of `Disconnect`, or in `CancelPendingRpc`, before the sweep of the
    map and at the entries that it took out.  `during` are the calls that were between
    the look at the participants and their return when it began. -/
inductive Canceller where
  | update (updates : List ParticipantInfo)
  | reset (again : Bool) (during : List Nat)
  | sweep (participantIdentity : Option String) (updates : List ParticipantInfo)
      (during : List Nat)
  | complete (entries : List Nat) (updates : List ParticipantInfo) (during : List Nat)
deriving DecidableEq

/-- `handlers` are the packets whose entry was found, `requests` what was sent.
    `recipientLeft` are the calls during which, between the look at the participants and
    the return, a `Disconnect` or an update that reports their destination as disconnected
    was processed from its beginning to its end. -/
structure Engine where
  rpcParticipantIdentities : Finset String := ∅
  pendingRpcCalls : List (String × Nat) := []
  entries : List PendingRpcCall := []
  calls : List Call := []
  handlers : List (Nat × RpcPacket) := []
  cancellers : List Canceller := []
  requests : List (String × RpcRequest) := []
  recipientLeft : List Nat := []
deriving DecidableEq

/-- The sections of `PerformRpc`; `deadline` says whether the deadline of a wait has
    passed. -/
inductive Section where
  | check
  | register (requestId : String)
  | send (ok : Bool)
  | unregister
  | awaitAck (deadline : Bool)
  | awaitResponse (deadline : Bool)
  | remove
deriving DecidableEq

inductive Act where
  | performRpc (params : PerformRpcParams)
  | call (k : Nat) (next : Section)
  | receive (packet : RpcPacket)
  | handle (i : Nat)
  | onParticipantUpdate (updates : List ParticipantInfo)
  | disconnect
  | cancel (i : Nat)
  | connectTransport (response : JoinResponse)
  | resetTransport

/-- The arguments that `PerformRpc` refuses. -/
def PerformRpcParams.invalid (params : PerformRpcParams) : Option RpcErrorCode :=
  if params.destinationIdentity = "" then some recipientNotFound
  else if params.method = "" then some unsupportedMethod
  else if kMaximumRpcPayloadBytes < params.payload.length then some requestPayloadTooLarge
  else none

/-- The call is past the look at the participants and not back. -/
def Stage.underWay : Stage → Bool
  | .check | .returned _ _ => false
  | _ => true

/-- The entry of the call. -/
def Stage.entry : Stage → Option Nat
  | .check | .register => none
  | .send entry | .unregister entry | .awaitAck entry | .awaitResponse entry
  | .remove entry _ => some entry
  | .returned entry _ => entry

namespace Engine

def setStage (engine : Engine) (k : Nat) (call : Call) (stage : Stage) : Engine :=
  { engine with calls := engine.calls.set k { call with stage := stage } }

/-- A section under the mutex of an entry. -/
def modifyEntry (engine : Engine) (entry : Nat) (f : PendingRpcCall → PendingRpcCall) : Engine :=
  { engine with entries := engine.entries.modify entry f }

def stage? (engine : Engine) (k : Nat) : Option Stage :=
  (engine.calls[k]?).map (·.stage)

/-- The section that makes the entry; `emplace` keeps what is there under the id. -/
def register (engine : Engine) (k : Nat) (call : Call) (requestId : String) : Engine :=
  { engine with
    entries := engine.entries ++ [{ destinationIdentity := call.params.destinationIdentity }]
    pendingRpcCalls :=
      if (engine.pendingRpcCalls.lookup requestId).isSome then engine.pendingRpcCalls
      else engine.pendingRpcCalls ++ [(requestId, engine.entries.length)]
    calls := engine.calls.set k
      { call with requestId := requestId, stage := .send engine.entries.length } }

/-- A wait ends with the entry completed: the result is read and the mutex released. -/
def leave (engine : Engine) (k : Nat) (call : Call) (entry : Nat) : Engine :=
  match engine.entries[entry]? with
  | some pending => engine.setStage k call (.remove entry pending.result)
  | none => engine

/-- A look at the predicate of the first wait, after its deadline or before. -/
def awaitAck (engine : Engine) (k : Nat) (call : Call) (entry : Nat) (deadline : Bool) : Engine :=
  match engine.entries[entry]? with
  | none => engine
  | some pending =>
    if pending.completed then engine.leave k call entry
    else if pending.acknowledged then engine.setStage k call (.awaitResponse entry)
    else if deadline then (engine.modifyEntry entry (·.complete .ackTimeout)).leave k call entry
    else engine

/-- A look at the predicate of the second wait. -/
def awaitResponse (engine : Engine) (k : Nat) (call : Call) (entry : Nat) (deadline : Bool) :
    Engine :=
  match engine.entries[entry]? with
  | none => engine
  | some pending =>
    if pending.completed then engine.leave k call entry
    else if deadline then
      (engine.modifyEntry entry (·.complete .responseTimeout)).leave k call entry
    else engine

/-- A step of a call. -/
def callStep (engine : Engine) (k : Nat) (call : Call) (next : Section) : Engine :=
  match call.stage, next with
  | .check, .check =>
    if call.params.destinationIdentity ∈ engine.rpcParticipantIdentities then
      engine.setStage k call .register
    else engine.setStage k call (.returned none (.builtIn recipientNotFound))
  | .register, .register requestId => engine.register k call requestId
  | .send entry, .send ok =>
    if ok then
      { engine.setStage k call (.awaitAck entry) with
        requests := engine.requests ++
          [(call.params.destinationIdentity, call.params.request call.requestId)] }
    else engine.setStage k call (.unregister entry)
  | .unregister _, .unregister =>
    { engine.setStage k call (.returned none (.builtIn sendFailed)) with
      pendingRpcCalls := engine.pendingRpcCalls.filter fun item => item.1 != call.requestId }
  | .awaitAck entry, .awaitAck deadline => engine.awaitAck k call entry deadline
  | .awaitResponse entry, .awaitResponse deadline => engine.awaitResponse k call entry deadline
  | .remove entry result, .remove =>
    { engine.setStage k call (.returned (some entry) result) with
      pendingRpcCalls := engine.pendingRpcCalls.filter fun item => item != (call.requestId, entry) }
  | _, _ => engine

/-- The lookup of a packet's entry. -/
def receive (engine : Engine) (packet : RpcPacket) : Engine :=
  match engine.pendingRpcCalls.lookup packet.body.requestId with
  | none => engine
  | some entry => { engine with handlers := engine.handlers ++ [(entry, packet)] }

/-- The rest of `HandleRpcAck` or `HandleRpcResponse`. -/
def handle (engine : Engine) (i : Nat) : Engine :=
  match engine.handlers[i]? with
  | none => engine
  | some (entry, packet) =>
    { engine with handlers := engine.handlers.eraseIdx i }.modifyEntry entry
      (·.takePacket packet)

/-- The calls that are under way to a participant, or to any. -/
def underWay (engine : Engine) (participantIdentity : Option String) : List Nat :=
  (List.range engine.calls.length).filter fun k =>
    engine.calls[k]?.any fun call =>
      call.stage.underWay &&
        participantIdentity.all fun identity => call.params.destinationIdentity = identity

/-- The entry is of a call to the participant, or to any. -/
def sweeps (engine : Engine) (participantIdentity : Option String) (item : String × Nat) : Bool :=
  participantIdentity.all fun identity =>
    engine.entries[item.2]?.any fun pending => pending.destinationIdentity = identity

/-- The calls of `during` that are not back have seen their recipient leave. -/
def noteLeft (engine : Engine) (during : List Nat) : Engine :=
  { engine with
    recipientLeft := engine.recipientLeft ++
      during.filter fun k => (engine.stage? k).any Stage.underWay }

def setCanceller (engine : Engine) (i : Nat) (canceller : Canceller) : Engine :=
  { engine with cancellers := engine.cancellers.set i canceller }

def cancellerStep (engine : Engine) (i : Nat) : Canceller → Engine
  | .update [] => engine
  | .update (participant :: updates) =>
    if participant.identity = "" then engine.setCanceller i (.update updates)
    else
      { engine with
        rpcParticipantIdentities :=
          updateIdentities engine.rpcParticipantIdentities participant }.setCanceller i
        (if participant.state = ParticipantState.disconnected then
          .sweep (some participant.identity) updates (engine.underWay (some participant.identity))
        else .update updates)
  | .reset again during =>
    { engine with rpcParticipantIdentities := ∅ }.setCanceller i
      (if again then .reset false during else .sweep none [] during)
  | .sweep participantIdentity updates during =>
    let swept := engine.pendingRpcCalls.partition (engine.sweeps participantIdentity)
    { engine with pendingRpcCalls := swept.2 }.setCanceller i
      (.complete (swept.1.map Prod.snd) updates during)
  | .complete [] updates during =>
    (engine.noteLeft during).setCanceller i (.update updates)
  | .complete (entry :: entries) updates during =>
    (engine.modifyEntry entry (·.complete (.cancelled recipientDisconnected))).setCanceller i
      (.complete entries updates during)

def performRpc (engine : Engine) (params : PerformRpcParams) : Engine :=
  { engine with
    calls := engine.calls ++ [{
      params := params
      stage :=
        match params.invalid with
        | some code => .returned none (.builtIn code)
        | none => .check }] }

def step (engine : Engine) : Act → Engine
  | .performRpc params => engine.performRpc params
  | .call k next =>
    match engine.calls[k]? with
    | some call => engine.callStep k call next
    | none => engine
  | .receive packet => engine.receive packet
  | .handle i => engine.handle i
  | .onParticipantUpdate updates =>
    { engine with cancellers := engine.cancellers ++ [.update updates] }
  | .disconnect =>
    { engine with cancellers := engine.cancellers ++ [.reset true (engine.underWay none)] }
  | .cancel i =>
    match engine.cancellers[i]? with
    | some canceller => engine.cancellerStep i canceller
    | none => engine
  | .connectTransport response =>
    { engine with rpcParticipantIdentities := joinIdentities response }
  | .resetTransport => { engine with rpcParticipantIdentities := ∅ }

end Engine

/-! ## 3. One outcome -/

/-- What is true of a call that has sent its request, and is back or on its way. -/
structure OneOutcome (engine : Engine) : Prop where
  /-- The result is that of what came first to complete the call. -/
  first : ∀ (k : Nat) (call : Call) (entry : Nat) (result : RpcResult),
    engine.calls[k]? = some call → call.stage = .returned (some entry) result →
      ∃ pending : PendingRpcCall, engine.entries[entry]? = some pending ∧
        ∃ completion : Completion, pending.completions.head? = some completion ∧
          result = completion.result
  /-- Nothing takes the result back. -/
  final : ∀ (k : Nat) (entry : Option Nat) (result : RpcResult),
    engine.stage? k = some (.returned entry result) →
      ∀ act, (engine.step act).stage? k = some (.returned entry result)
  /-- Once its deadlines have passed, the call comes back. -/
  returns : ∀ (k : Nat) (call : Call) (entry : Nat), engine.calls[k]? = some call →
    (call.stage = .awaitAck entry ∨ call.stage = .awaitResponse entry ∨
      ∃ result, call.stage = .remove entry result) →
    ∃ result, ([.call k (.awaitAck true), .call k (.awaitResponse true), .call k .remove].foldl
      Engine.step engine).stage? k = some (.returned (some entry) result)
  /-- A packet of another sender changes nothing. -/
  foreign : ∀ (i entry : Nat) (packet : RpcPacket) (pending : PendingRpcCall),
    engine.handlers[i]? = some (entry, packet) → engine.entries[entry]? = some pending →
      packet.participantIdentity ≠ "" →
      packet.participantIdentity ≠ pending.destinationIdentity →
        engine.step (.handle i) = { engine with handlers := engine.handlers.eraseIdx i }
  /-- The map has no entry of a call that is back. -/
  gone : ∀ (k : Nat) (call : Call) (entry : Nat) (result : RpcResult),
    engine.calls[k]? = some call → call.stage = .returned (some entry) result →
      ∀ requestId, (requestId, entry) ∉ engine.pendingRpcCalls
  /-- So a packet for its id is for nobody, unless another call under way has the id. -/
  late : ∀ (k : Nat) (call : Call) (entry : Nat) (result : RpcResult),
    engine.calls[k]? = some call → call.stage = .returned (some entry) result →
      (∀ other ∈ engine.calls, other.requestId = call.requestId → other.stage.underWay = false) →
        ∀ packet : RpcPacket, packet.body.requestId = call.requestId →
          engine.step (.receive packet) = engine

/-! ## 4. Entries and their calls -/

namespace PendingRpcCall

/-- The entry is completed exactly if something came to complete it, and with what came
    first. -/
structure Ok (pending : PendingRpcCall) : Prop where
  completed : pending.completed = true ↔ pending.completions ≠ []
  result : ∀ completion, pending.completions.head? = some completion →
    pending.result = completion.result

/-- What happens to an entry over time. -/
structure Grows (before after : PendingRpcCall) : Prop where
  destination : after.destinationIdentity = before.destinationIdentity
  completions : before.completions <+: after.completions
  ok : before.Ok → after.Ok

theorem Grows.rfl {pending : PendingRpcCall} : pending.Grows pending :=
  ⟨.refl _, List.prefix_rfl, id⟩

theorem grows_acknowledge (pending : PendingRpcCall) : pending.Grows pending.acknowledge :=
  ⟨.refl _, List.prefix_rfl, fun h => ⟨h.completed, h.result⟩⟩

theorem grows_complete (pending : PendingRpcCall) (completion : Completion) :
    pending.Grows (pending.complete completion) := by
  rw [complete]
  split
  · rename_i hcompleted
    refine ⟨rfl, List.prefix_append _ _, fun h => ⟨?_, ?_⟩⟩
    · simp [hcompleted]
    · intro first hfirst
      -- something came before, and it stays the first
      have hbefore := h.completed.1 hcompleted
      rw [List.head?_append_of_ne_nil _ hbefore] at hfirst
      exact h.result first hfirst
  · rename_i hopen
    refine ⟨rfl, List.prefix_append _ _, fun h => ⟨by simp, ?_⟩⟩
    intro first hfirst
    have hnone : pending.completions = [] := by
      by_contra hbefore
      exact hopen (h.completed.2 hbefore)
    simp only [hnone, List.nil_append, List.head?_cons, Option.some.injEq] at hfirst
    rw [hfirst]

theorem Grows.trans {p q r : PendingRpcCall} (hpq : p.Grows q) (hqr : q.Grows r) : p.Grows r :=
  ⟨hqr.destination.trans hpq.destination, hpq.completions.trans hqr.completions,
    fun h => hqr.ok (hpq.ok h)⟩

theorem grows_respond (pending : PendingRpcCall) (participantIdentity : String)
    (result : RpcResult) : pending.Grows (pending.respond participantIdentity result) := by
  rw [respond]
  split
  · exact grows_complete _ _
  · exact (grows_acknowledge pending).trans (grows_complete _ _)

theorem grows_takePacket (pending : PendingRpcCall) (packet : RpcPacket) :
    pending.Grows (pending.takePacket packet) := by
  unfold takePacket
  split
  · exact .rfl
  · split
    · exact pending.grows_acknowledge
    · exact pending.grows_respond _ _

/-- Once something has come first, it stays so. -/
theorem Grows.head? {before after : PendingRpcCall} (h : before.Grows after)
    {completion : Completion} (hfirst : before.completions.head? = some completion) :
    after.completions.head? = some completion := by
  rw [← List.singleton_prefix_iff_head?_eq_some] at hfirst ⊢
  exact hfirst.trans h.completions

end PendingRpcCall

/-- The entries of one engine grow into those of another. -/
def GrowInto (before after : List PendingRpcCall) : Prop :=
  ∀ (entry : Nat) (pending : PendingRpcCall), before[entry]? = some pending →
    ∃ grown, after[entry]? = some grown ∧ pending.Grows grown

theorem GrowInto.rfl {entries : List PendingRpcCall} : GrowInto entries entries :=
  fun _ pending h => ⟨pending, h, .rfl⟩

theorem growInto_modify {f : PendingRpcCall → PendingRpcCall}
    (hf : ∀ pending : PendingRpcCall, pending.Grows (f pending))
    (entries : List PendingRpcCall) (i : Nat) : GrowInto entries (entries.modify i f) := by
  intro entry pending hpending
  refine ⟨_, CellHeap.getElem?_modify_of_some f hpending, ?_⟩
  split
  · exact hf pending
  · exact .rfl

theorem ok_modify {f : PendingRpcCall → PendingRpcCall}
    (hf : ∀ pending : PendingRpcCall, pending.Grows (f pending))
    {entries : List PendingRpcCall} (hok : ∀ pending ∈ entries, pending.Ok) (i : Nat) :
    ∀ pending ∈ entries.modify i f, pending.Ok := by
  intro pending hmem
  obtain ⟨entry, hentry⟩ := List.mem_iff_getElem?.1 hmem
  obtain ⟨before, hbefore, rfl⟩ := CellHeap.getElem?_modify_eq_some.mp hentry
  have hbeforeOk := hok before (List.mem_of_getElem? hbefore)
  split
  · exact (hf before).ok hbeforeOk
  · exact hbeforeOk

/-- The result of a call that has read it. -/
def Stage.done : Stage → Option (Nat × RpcResult)
  | .remove entry result | .returned (some entry) result => some (entry, result)
  | _ => none

theorem entry_of_done {stage : Stage} {entry : Nat} {result : RpcResult}
    (h : stage.done = some (entry, result)) : stage.entry = some entry := by
  cases stage with
  | remove other value =>
    simp only [Stage.done, Option.some.injEq, Prod.mk.injEq] at h
    rw [Stage.entry, h.1]
  | returned other value =>
    cases other with
    | none => simp [Stage.done] at h
    | some other =>
      simp only [Stage.done, Option.some.injEq, Prod.mk.injEq] at h
      rw [Stage.entry, h.1]
  | _ => simp [Stage.done] at h

/-- The result is that of what came first. -/
def FirstWins (entries : List PendingRpcCall) (entry : Nat) (result : RpcResult) : Prop :=
  ∃ pending, entries[entry]? = some pending ∧
    ∃ completion, pending.completions.head? = some completion ∧ result = completion.result

structure Inv (engine : Engine) : Prop where
  ok : ∀ pending ∈ engine.entries, pending.Ok
  owned : ∀ (k : Nat) (call : Call) (entry : Nat), engine.calls[k]? = some call →
    call.stage.entry = some entry → ∃ pending, engine.entries[entry]? = some pending ∧
      pending.destinationIdentity = call.params.destinationIdentity
  done : ∀ (k : Nat) (call : Call) (entry : Nat) (result : RpcResult),
    engine.calls[k]? = some call → call.stage.done = some (entry, result) →
      FirstWins engine.entries entry result
  distinct : ∀ (j k : Nat) (one other : Call) (entry : Nat), engine.calls[j]? = some one →
    engine.calls[k]? = some other → one.stage.entry = some entry →
      other.stage.entry = some entry → j = k
  held : ∀ item ∈ engine.pendingRpcCalls, ∃ (k : Nat) (call : Call),
    engine.calls[k]? = some call ∧ call.requestId = item.1 ∧
      call.stage.entry = some item.2 ∧ call.stage.underWay = true

section Steps

variable {engine : Engine}

theorem FirstWins.grow {before after : List PendingRpcCall} {entry : Nat} {result : RpcResult}
    (h : FirstWins before entry result) (hgrow : GrowInto before after) :
    FirstWins after entry result := by
  obtain ⟨pending, hpending, completion, hfirst, hresult⟩ := h
  obtain ⟨grown, hgrown, hgrows⟩ := hgrow entry pending hpending
  exact ⟨grown, hgrown, completion, hgrows.head? hfirst, hresult⟩

/-- A step that leaves the calls alone. -/
theorem Inv.frame (h : Inv engine) {after : Engine} (hcalls : after.calls = engine.calls)
    (hmap : after.pendingRpcCalls ⊆ engine.pendingRpcCalls)
    (hgrow : GrowInto engine.entries after.entries) (hok : ∀ pending ∈ after.entries, pending.Ok) :
    Inv after where
  ok := hok
  owned := by
    intro k call entry hcall hentry
    rw [hcalls] at hcall
    obtain ⟨pending, hpending, hdestination⟩ := h.owned k call entry hcall hentry
    obtain ⟨grown, hgrown, hgrows⟩ := hgrow entry pending hpending
    exact ⟨grown, hgrown, hgrows.destination.trans hdestination⟩
  done := by
    intro k call entry result hcall hdone
    rw [hcalls] at hcall
    exact (h.done k call entry result hcall hdone).grow hgrow
  distinct := by
    rw [hcalls]
    exact h.distinct
  held := by
    rw [hcalls]
    exact fun item hmem => h.held item (hmap hmem)

/-- A section under the mutex of an entry. -/
theorem Inv.modifyEntry (h : Inv engine) {f : PendingRpcCall → PendingRpcCall}
    (hf : ∀ pending : PendingRpcCall, pending.Grows (f pending)) (entry : Nat) :
    Inv (engine.modifyEntry entry f) :=
  h.frame rfl (List.Subset.refl _) (growInto_modify hf _ _) (ok_modify hf h.ok _)

/-- A call goes on: it keeps its entry or gives it up, and the map then has none of it. -/
theorem Inv.setStage (h : Inv engine) {k : Nat} {call : Call} {stage : Stage}
    {items : List (String × Nat)} (hcall : engine.calls[k]? = some call)
    (hentry : ∀ entry, stage.entry = some entry → call.stage.entry = some entry)
    (hdone : ∀ entry result, stage.done = some (entry, result) →
      FirstWins engine.entries entry result)
    (hitems : items ⊆ engine.pendingRpcCalls)
    (hheld : ∀ item ∈ items, call.requestId = item.1 → call.stage.entry = some item.2 →
      stage.entry = some item.2 ∧ stage.underWay = true) :
    Inv { engine.setStage k call stage with pendingRpcCalls := items } := by
  have hlt : k < engine.calls.length := (List.getElem?_eq_some_iff.1 hcall).1
  have hat : (engine.calls.set k { call with stage := stage })[k]? =
      some { call with stage := stage } := by simp [hlt]
  have hother : ∀ j, j ≠ k → (engine.calls.set k { call with stage := stage })[j]? =
      engine.calls[j]? := fun j hj => List.getElem?_set_ne (Ne.symm hj)
  -- where an entry of a call comes from
  have hfrom : ∀ (j : Nat) (other : Call) (entry : Nat),
      (engine.calls.set k { call with stage := stage })[j]? = some other →
        other.stage.entry = some entry → ∃ before : Call, engine.calls[j]? = some before ∧
          before.stage.entry = some entry ∧ before.params = other.params := by
    intro j other entry hj hhas
    by_cases hjk : j = k
    · subst hjk
      rw [hat, Option.some.injEq] at hj
      subst hj
      exact ⟨call, hcall, hentry entry hhas, rfl⟩
    · rw [hother j hjk] at hj
      exact ⟨other, hj, hhas, rfl⟩
  refine ⟨h.ok, ?_, ?_, ?_, ?_⟩
  · intro j other entry hj hhas
    obtain ⟨before, hbefore, hhad, hparams⟩ := hfrom j other entry hj hhas
    rw [← hparams]
    exact h.owned j before entry hbefore hhad
  · intro j other entry result hj hresult
    by_cases hjk : j = k
    · subst hjk
      simp only [Engine.setStage] at hj
      rw [hat, Option.some.injEq] at hj
      subst hj
      exact hdone entry result hresult
    · simp only [Engine.setStage] at hj
      rw [hother j hjk] at hj
      exact h.done j other entry result hj hresult
  · intro i j one other entry hi hj hone hhas
    obtain ⟨before, hbefore, hhad, -⟩ := hfrom i one entry hi hone
    obtain ⟨earlier, hearlier, hhad', -⟩ := hfrom j other entry hj hhas
    exact h.distinct i j before earlier entry hbefore hearlier hhad hhad'
  · intro item hitem
    obtain ⟨j, owner, howner, hid, hhas, hway⟩ := h.held item (hitems hitem)
    by_cases hjk : j = k
    · subst hjk
      rw [hcall, Option.some.injEq] at howner
      subst howner
      obtain ⟨hkeeps, hway'⟩ := hheld item hitem hid hhas
      exact ⟨j, _, hat, hid, hkeeps, hway'⟩
    · exact ⟨j, owner, (hother j hjk).trans howner, hid, hhas, hway⟩

/-- A call goes on with its entry. -/
theorem Inv.advance (h : Inv engine) {k : Nat} {call : Call} {stage : Stage}
    (hcall : engine.calls[k]? = some call) (hentry : stage.entry = call.stage.entry)
    (hway : stage.underWay = true)
    (hdone : ∀ entry result, stage.done = some (entry, result) →
      FirstWins engine.entries entry result) :
    Inv (engine.setStage k call stage) := by
  refine h.setStage hcall ?_ hdone (List.Subset.refl _) ?_
  · intro entry hhas
    rw [← hentry]
    exact hhas
  · intro item _ _ hhas
    exact ⟨hentry.trans hhas, hway⟩

theorem Inv.register (h : Inv engine) {k : Nat} {call : Call} (requestId : String)
    (hcall : engine.calls[k]? = some call) (hstage : call.stage = .register) :
    Inv (engine.register k call requestId) := by
  have hlt : k < engine.calls.length := (List.getElem?_eq_some_iff.1 hcall).1
  have hgrow : GrowInto engine.entries
      (engine.entries ++ [{ destinationIdentity := call.params.destinationIdentity }]) := by
    intro entry pending hpending
    have hentry := (List.getElem?_eq_some_iff.1 hpending).1
    exact ⟨pending, (List.getElem?_append_left hentry).trans hpending, .rfl⟩
  have hat : ∀ other, (engine.register k call requestId).calls[k]? = some other →
      other = { call with requestId := requestId, stage := .send engine.entries.length } := by
    intro other hother
    simp only [Engine.register, List.getElem?_set_self hlt, Option.some.injEq] at hother
    exact hother.symm
  have hothers : ∀ j, j ≠ k → (engine.register k call requestId).calls[j]? = engine.calls[j]? :=
    fun j hj => List.getElem?_set_ne (Ne.symm hj)
  -- the entries of the other calls are older
  have holder : ∀ (j : Nat) (other : Call) (entry : Nat), engine.calls[j]? = some other →
      other.stage.entry = some entry → entry < engine.entries.length := by
    intro j other entry hother hhas
    obtain ⟨pending, hpending, -⟩ := h.owned j other entry hother hhas
    exact (List.getElem?_eq_some_iff.1 hpending).1
  refine ⟨?_, ?_, ?_, ?_, ?_⟩
  · intro pending hmem
    rcases List.mem_append.1 hmem with hold | hnew
    · exact h.ok pending hold
    · rw [List.mem_singleton.1 hnew]
      exact ⟨by simp, by simp⟩
  · intro j other entry hother hhas
    by_cases hjk : j = k
    · subst hjk
      obtain rfl := hat other hother
      obtain rfl : engine.entries.length = entry := by simpa [Stage.entry] using hhas
      exact ⟨{ destinationIdentity := call.params.destinationIdentity },
        by simp [Engine.register], rfl⟩
    · rw [hothers j hjk] at hother
      obtain ⟨pending, hpending, hdestination⟩ := h.owned j other entry hother hhas
      obtain ⟨grown, hgrown, hgrows⟩ := hgrow entry pending hpending
      exact ⟨grown, hgrown, hgrows.destination.trans hdestination⟩
  · intro j other entry result hother hdone
    by_cases hjk : j = k
    · subst hjk
      obtain rfl := hat other hother
      simp [Stage.done] at hdone
    · rw [hothers j hjk] at hother
      exact (h.done j other entry result hother hdone).grow hgrow
  · intro i j one other entry hone hother hhas hhas'
    by_cases hik : i = k
    · by_cases hjk : j = k
      · rw [hik, hjk]
      · subst hik
        obtain rfl := hat one hone
        obtain rfl : engine.entries.length = entry := by simpa [Stage.entry] using hhas
        rw [hothers j hjk] at hother
        exact absurd (holder j other _ hother hhas') (Nat.lt_irrefl _)
    · rw [hothers i hik] at hone
      by_cases hjk : j = k
      · subst hjk
        obtain rfl := hat other hother
        obtain rfl : engine.entries.length = entry := by simpa [Stage.entry] using hhas'
        exact absurd (holder i one _ hone hhas) (Nat.lt_irrefl _)
      · rw [hothers j hjk] at hother
        exact h.distinct i j one other entry hone hother hhas hhas'
  · -- the caller had no entry, so the old items are of other calls
    have hold : ∀ item ∈ engine.pendingRpcCalls, ∃ (j : Nat) (owner : Call),
        (engine.register k call requestId).calls[j]? = some owner ∧ owner.requestId = item.1 ∧
          owner.stage.entry = some item.2 ∧ owner.stage.underWay = true := by
      intro item hmem
      obtain ⟨j, owner, howner, hid, hhas, hway⟩ := h.held item hmem
      refine ⟨j, owner, ?_, hid, hhas, hway⟩
      rw [hothers j ?_]
      · exact howner
      · rintro rfl
        rw [hcall, Option.some.injEq] at howner
        rw [← howner, hstage] at hhas
        simp [Stage.entry] at hhas
    intro item hmem
    simp only [Engine.register] at hmem
    split at hmem
    · exact hold item hmem
    · rcases List.mem_append.1 hmem with hmem | hnew
      · exact hold item hmem
      · rw [List.mem_singleton.1 hnew]
        exact ⟨k, { call with requestId := requestId, stage := .send engine.entries.length },
          by simp [Engine.register, hlt], rfl, rfl, rfl⟩

/-- The call reads the result of an entry that is completed. -/
theorem Inv.leave (h : Inv engine) {k entry : Nat} {call : Call} {pending : PendingRpcCall}
    (hcall : engine.calls[k]? = some call) (hentry : call.stage.entry = some entry)
    (hpending : engine.entries[entry]? = some pending) (hcompleted : pending.completed = true) :
    Inv (engine.leave k call entry) := by
  unfold Engine.leave
  rw [hpending]
  apply h.advance hcall (hentry.symm ▸ rfl) rfl
  intro other result hdone
  simp only [Stage.done, Option.some.injEq, Prod.mk.injEq] at hdone
  obtain ⟨rfl, rfl⟩ := hdone
  have hok := h.ok pending (List.mem_of_getElem? hpending)
  have hsome := hok.completed.1 hcompleted
  obtain ⟨completion, rest, hcompletions⟩ := List.exists_cons_of_ne_nil hsome
  have hfirst : pending.completions.head? = some completion := by rw [hcompletions]; rfl
  exact ⟨pending, hpending, completion, hfirst, hok.result completion hfirst⟩

theorem completed_complete (pending : PendingRpcCall) (completion : Completion) :
    (pending.complete completion).completed = true := by
  rw [PendingRpcCall.complete]
  split
  · assumption
  · rfl

/-- At a deadline the call completes its own entry. -/
theorem Inv.timeout (h : Inv engine) {k entry : Nat} {call : Call} (completion : Completion)
    (hcall : engine.calls[k]? = some call) (hentry : call.stage.entry = some entry) :
    Inv ((engine.modifyEntry entry (·.complete completion)).leave k call entry) := by
  have hnext : Inv (engine.modifyEntry entry (·.complete completion)) :=
    h.modifyEntry (fun pending => pending.grows_complete completion) entry
  obtain ⟨pending, hpending, -⟩ := h.owned k call entry hcall hentry
  apply hnext.leave hcall hentry (CellHeap.getElem?_modify_of_some _ hpending)
  rw [if_pos rfl]
  exact completed_complete pending completion

theorem Inv.awaitAck (h : Inv engine) {k entry : Nat} {call : Call} (deadline : Bool)
    (hcall : engine.calls[k]? = some call) (hstage : call.stage = .awaitAck entry) :
    Inv (engine.awaitAck k call entry deadline) := by
  have hentry : call.stage.entry = some entry := by rw [hstage]; rfl
  unfold Engine.awaitAck
  split
  · exact h
  · rename_i pending hpending
    split
    · rename_i hcompleted
      exact h.leave hcall hentry hpending hcompleted
    · split
      · apply h.advance hcall (hentry.symm ▸ rfl) rfl
        simp [Stage.done]
      · split
        · exact h.timeout .ackTimeout hcall hentry
        · exact h

theorem Inv.awaitResponse (h : Inv engine) {k entry : Nat} {call : Call} (deadline : Bool)
    (hcall : engine.calls[k]? = some call) (hstage : call.stage = .awaitResponse entry) :
    Inv (engine.awaitResponse k call entry deadline) := by
  have hentry : call.stage.entry = some entry := by rw [hstage]; rfl
  unfold Engine.awaitResponse
  split
  · exact h
  · rename_i pending hpending
    split
    · rename_i hcompleted
      exact h.leave hcall hentry hpending hcompleted
    · split
      · exact h.timeout .responseTimeout hcall hentry
      · exact h

theorem Inv.callStep (h : Inv engine) {k : Nat} {call : Call} (next : Section)
    (hcall : engine.calls[k]? = some call) : Inv (engine.callStep k call next) := by
  unfold Engine.callStep
  split
  · rename_i hstage
    split
    · apply h.advance hcall (by rw [hstage]; rfl) rfl
      simp [Stage.done]
    · refine h.setStage hcall (by simp [Stage.entry]) (by simp [Stage.done])
        (List.Subset.refl _) ?_
      rw [hstage]
      simp [Stage.entry]
  · rename_i requestId hstage
    exact h.register requestId hcall hstage
  · rename_i entry ok hstage
    split
    · have hnext : Inv (engine.setStage k call (.awaitAck entry)) := by
        apply h.advance hcall (by rw [hstage]; rfl) rfl
        simp [Stage.done]
      exact { hnext with }
    · apply h.advance hcall (by rw [hstage]; rfl) rfl
      simp [Stage.done]
  · refine h.setStage hcall (by simp [Stage.entry]) (by simp [Stage.done])
      (List.filter_subset_self _) ?_
    intro item hmem hid _
    simp [hid] at hmem
  · rename_i entry deadline hstage
    exact h.awaitAck deadline hcall hstage
  · rename_i entry deadline hstage
    exact h.awaitResponse deadline hcall hstage
  · rename_i entry result hstage
    refine h.setStage hcall ?_ ?_ (List.filter_subset_self _) ?_
    · intro other hother
      rw [hstage]
      exact hother
    · intro other value hdone
      apply h.done k call other value hcall
      rw [hstage]
      exact hdone
    · intro item hmem hid hhas
      rw [hstage] at hhas
      obtain rfl : entry = item.2 := by simpa [Stage.entry] using hhas
      rw [hid] at hmem
      simp at hmem
  · exact h

theorem Inv.handle (h : Inv engine) (i : Nat) : Inv (engine.handle i) := by
  unfold Engine.handle
  split
  · exact h
  · rename_i entry packet _
    have hnext : Inv { engine with handlers := engine.handlers.eraseIdx i } := { h with }
    exact hnext.modifyEntry (fun pending => pending.grows_takePacket packet) entry

theorem Inv.cancellerStep (h : Inv engine) (i : Nat) (canceller : Canceller) :
    Inv (engine.cancellerStep i canceller) := by
  cases canceller with
  | update updates =>
    cases updates with
    | nil => exact h
    | cons participant updates =>
      simp only [Engine.cancellerStep]
      split <;> exact { h with }
  | reset again during => exact { h with }
  | sweep participantIdentity updates during =>
    refine h.frame rfl ?_ .rfl h.ok
    intro item hmem
    simp only [Engine.cancellerStep, Engine.setCanceller, List.partition_eq_filter_filter] at hmem
    exact List.mem_of_mem_filter hmem
  | complete entries updates during =>
    cases entries with
    | nil => exact { h with }
    | cons entry entries =>
      have hnext := h.modifyEntry
        (fun pending => pending.grows_complete (.cancelled recipientDisconnected)) entry
      exact { hnext with }

/-- The new call has no entry and no result of one. -/
theorem calls_of_performRpc {params : PerformRpcParams} {k : Nat} {call : Call}
    (hcall : (engine.performRpc params).calls[k]? = some call) (hhas : call.stage.entry ≠ none) :
    engine.calls[k]? = some call := by
  simp only [Engine.performRpc, List.getElem?_append] at hcall
  split at hcall
  · exact hcall
  · rw [List.getElem?_singleton] at hcall
    split at hcall
    · obtain rfl := Option.some.inj hcall
      simp only at hhas
      split at hhas <;> simp [Stage.entry] at hhas
    · simp at hcall

theorem Inv.performRpc (h : Inv engine) (params : PerformRpcParams) :
    Inv (engine.performRpc params) := by
  have hnew : ∀ (k : Nat) (call : Call) (entry : Nat),
      (engine.performRpc params).calls[k]? = some call → call.stage.entry = some entry →
        engine.calls[k]? = some call := by
    intro k call entry hcall hhas
    exact calls_of_performRpc hcall (by simp [hhas])
  refine ⟨h.ok, ?_, ?_, ?_, ?_⟩
  · intro k call entry hcall hhas
    exact h.owned k call entry (hnew k call entry hcall hhas) hhas
  · intro k call entry result hcall hdone
    have hhas : call.stage.entry = some entry := entry_of_done hdone
    exact h.done k call entry result (hnew k call entry hcall hhas) hdone
  · intro j k one other entry hone hother hhas hhas'
    exact h.distinct j k one other entry (hnew j one entry hone hhas)
      (hnew k other entry hother hhas') hhas hhas'
  · intro item hmem
    obtain ⟨k, call, hcall, hrest⟩ := h.held item hmem
    have hlt := (List.getElem?_eq_some_iff.1 hcall).1
    exact ⟨k, call, (List.getElem?_append_left hlt).trans hcall, hrest⟩

theorem Inv.step (h : Inv engine) (act : Act) : Inv (engine.step act) := by
  cases act with
  | performRpc params => exact h.performRpc params
  | call k next =>
    simp only [Engine.step]
    split
    · rename_i call hcall
      exact h.callStep next hcall
    · exact h
  | receive packet =>
    simp only [Engine.step, Engine.receive]
    split
    · exact h
    · exact { h with }
  | handle i => exact h.handle i
  | onParticipantUpdate updates => exact { h with }
  | disconnect => exact { h with }
  | cancel i =>
    simp only [Engine.step]
    split
    · exact h.cancellerStep i _
    · exact h
  | connectTransport response => exact { h with }
  | resetTransport => exact { h with }

theorem inv_new : Inv {} where
  ok := by simp
  owned := by simp
  done := by simp
  distinct := by simp
  held := by simp

/-! ## 5. Calls that are back, and calls on their way -/

theorem stage?_setStage {k : Nat} {call : Call} (stage : Stage)
    (hcall : engine.calls[k]? = some call) :
    (engine.setStage k call stage).stage? k = some stage := by
  have hlt := (List.getElem?_eq_some_iff.1 hcall).1
  simp [Engine.stage?, Engine.setStage, hlt]

/-- A call changes no other call. -/
theorem calls_callStep_ne {j k : Nat} (hjk : j ≠ k) (call : Call) (next : Section) :
    (engine.callStep j call next).calls[k]? = engine.calls[k]? := by
  have hset : ∀ (calls : List Call) (other : Call), (calls.set j other)[k]? = calls[k]? :=
    fun calls other => List.getElem?_set_ne hjk
  have hleave : ∀ (before : Engine) (entry : Nat),
      (before.leave j call entry).calls[k]? = before.calls[k]? := by
    intro before entry
    unfold Engine.leave
    split
    · exact hset _ _
    · rfl
  unfold Engine.callStep
  split
  · split <;> exact hset _ _
  · exact hset _ _
  · split <;> exact hset _ _
  · exact hset _ _
  · unfold Engine.awaitAck
    split
    · rfl
    · split
      · exact hleave _ _
      · split
        · exact hset _ _
        · split
          · exact hleave _ _
          · rfl
  · unfold Engine.awaitResponse
    split
    · rfl
    · split
      · exact hleave _ _
      · split
        · exact hleave _ _
        · rfl
  · exact hset _ _
  · rfl

theorem calls_cancellerStep (i : Nat) (canceller : Canceller) :
    (engine.cancellerStep i canceller).calls = engine.calls := by
  cases canceller with
  | update updates =>
    cases updates with
    | nil => rfl
    | cons participant updates =>
      simp only [Engine.cancellerStep]
      split <;> rfl
  | reset again during => rfl
  | sweep participantIdentity updates during => rfl
  | complete entries updates during =>
    cases entries with
    | nil => rfl
    | cons entry entries => rfl

theorem stage?_step_of_returned {k : Nat} {entry : Option Nat} {result : RpcResult}
    (h : engine.stage? k = some (.returned entry result)) (act : Act) :
    (engine.step act).stage? k = some (.returned entry result) := by
  obtain ⟨call, hcall, hstage⟩ := Option.map_eq_some_iff.1 h
  have hlt := (List.getElem?_eq_some_iff.1 hcall).1
  cases act with
  | performRpc params =>
    simp only [Engine.step, Engine.performRpc, Engine.stage?, List.getElem?_append_left hlt]
    exact h
  | call j next =>
    simp only [Engine.step]
    split
    · rename_i other hother
      by_cases hjk : j = k
      · subst hjk
        rw [hcall, Option.some.injEq] at hother
        have hsame : engine.callStep j other next = engine := by
          rw [← hother]
          cases next <;> simp only [Engine.callStep, hstage]
        rw [hsame]
        exact h
      · rw [Engine.stage?, calls_callStep_ne hjk]
        exact h
    · exact h
  | receive packet =>
    simp only [Engine.step, Engine.receive]
    split <;> exact h
  | handle i =>
    simp only [Engine.step, Engine.handle]
    split <;> exact h
  | onParticipantUpdate updates => exact h
  | disconnect => exact h
  | cancel i =>
    simp only [Engine.step]
    split
    · rw [Engine.stage?, calls_cancellerStep]
      exact h
    · exact h
  | connectTransport response => exact h
  | resetTransport => exact h

theorem stage?_leave {k entry : Nat} {call : Call} (hcall : engine.calls[k]? = some call)
    (hentry : entry < engine.entries.length) :
    ∃ result, (engine.leave k call entry).stage? k = some (.remove entry result) := by
  rw [Engine.leave, List.getElem?_eq_getElem hentry]
  exact ⟨_, stage?_setStage _ hcall⟩

/-- At its deadline the first wait ends. -/
theorem stage?_awaitAck {k entry : Nat} {call : Call} (hcall : engine.calls[k]? = some call)
    (hentry : entry < engine.entries.length) :
    (engine.awaitAck k call entry true).stage? k = some (.awaitResponse entry) ∨
      ∃ result, (engine.awaitAck k call entry true).stage? k = some (.remove entry result) := by
  rw [Engine.awaitAck, List.getElem?_eq_getElem hentry]
  simp only
  split
  · exact Or.inr (stage?_leave hcall hentry)
  · split
    · exact Or.inl (stage?_setStage _ hcall)
    · exact Or.inr (@stage?_leave (engine.modifyEntry entry _) _ _ _ hcall
        (by simpa [Engine.modifyEntry] using hentry))

/-- And so does the second. -/
theorem stage?_awaitResponse {k entry : Nat} {call : Call} (hcall : engine.calls[k]? = some call)
    (hentry : entry < engine.entries.length) :
    ∃ result, (engine.awaitResponse k call entry true).stage? k = some (.remove entry result) := by
  rw [Engine.awaitResponse, List.getElem?_eq_getElem hentry]
  simp only
  split
  · exact stage?_leave hcall hentry
  · exact @stage?_leave (engine.modifyEntry entry _) _ _ _ hcall
      (by simpa [Engine.modifyEntry] using hentry)

/-- What a section does that is the next one of the call, and what another one does. -/
theorem step_call {k : Nat} {stage : Stage} (h : engine.stage? k = some stage) (next : Section) :
    ∃ call, engine.calls[k]? = some call ∧ call.stage = stage ∧
      engine.step (.call k next) = engine.callStep k call next := by
  obtain ⟨call, hcall, hstage⟩ := Option.map_eq_some_iff.1 h
  refine ⟨call, hcall, hstage, ?_⟩
  simp only [Engine.step, hcall]

theorem stage?_remove {k entry : Nat} {result : RpcResult}
    (h : engine.stage? k = some (.remove entry result)) :
    (engine.step (.call k .remove)).stage? k = some (.returned (some entry) result) := by
  obtain ⟨call, hcall, hstage, hstep⟩ := step_call h .remove
  simp only [hstep, Engine.callStep, hstage]
  exact stage?_setStage _ hcall

theorem Inv.entry_lt (h : Inv engine) {k entry : Nat} {call : Call}
    (hcall : engine.calls[k]? = some call) (hentry : call.stage.entry = some entry) :
    entry < engine.entries.length := by
  obtain ⟨pending, hpending, -⟩ := h.owned k call entry hcall hentry
  exact (List.getElem?_eq_some_iff.1 hpending).1

theorem Inv.awaitResponse_removes (h : Inv engine) {k entry : Nat}
    (hstage : engine.stage? k = some (.awaitResponse entry) ∨
      ∃ result, engine.stage? k = some (.remove entry result)) :
    ∃ result, (engine.step (.call k (.awaitResponse true))).stage? k =
      some (.remove entry result) := by
  rcases hstage with hwaits | ⟨result, hdone⟩
  · obtain ⟨call, hcall, hcallStage, hstep⟩ := step_call hwaits (.awaitResponse true)
    have hentry := h.entry_lt hcall (by rw [hcallStage]; rfl)
    simp only [hstep, Engine.callStep, hcallStage]
    exact stage?_awaitResponse hcall hentry
  · obtain ⟨call, hcall, hcallStage, hstep⟩ := step_call hdone (.awaitResponse true)
    simp only [hstep, Engine.callStep, hcallStage]
    exact ⟨result, hdone⟩

theorem Inv.awaitAck_passes (h : Inv engine) {k entry : Nat} {call : Call}
    (hcall : engine.calls[k]? = some call)
    (hstage : call.stage = .awaitAck entry ∨ call.stage = .awaitResponse entry ∨
      ∃ result, call.stage = .remove entry result) :
    (engine.step (.call k (.awaitAck true))).stage? k = some (.awaitResponse entry) ∨
      ∃ result,
        (engine.step (.call k (.awaitAck true))).stage? k = some (.remove entry result) := by
  have hstage? : engine.stage? k = some call.stage := by rw [Engine.stage?, hcall]; rfl
  rcases hstage with hwaits | hwaits | ⟨result, hdone⟩
  · have hentry := h.entry_lt hcall (by rw [hwaits]; rfl)
    simp only [Engine.step, hcall, Engine.callStep, hwaits]
    exact stage?_awaitAck hcall hentry
  · simp only [Engine.step, hcall, Engine.callStep, hwaits]
    exact Or.inl (hstage?.trans (by rw [hwaits]))
  · simp only [Engine.step, hcall, Engine.callStep, hdone]
    exact Or.inr ⟨result, hstage?.trans (by rw [hdone])⟩

/-- A packet of another sender leaves the entry as it is. -/
theorem handle_foreign {i entry : Nat} {packet : RpcPacket} {pending : PendingRpcCall}
    (hhandler : engine.handlers[i]? = some (entry, packet))
    (hpending : engine.entries[entry]? = some pending) (hnamed : packet.participantIdentity ≠ "")
    (hforeign : packet.participantIdentity ≠ pending.destinationIdentity) :
    engine.handle i = { engine with handlers := engine.handlers.eraseIdx i } := by
  have hsame : engine.entries.modify entry (·.takePacket packet) = engine.entries := by
    apply List.ext_getElem?
    intro j
    rw [List.getElem?_modify]
    by_cases hj : entry = j
    · subst hj
      rw [hpending]
      simp [PendingRpcCall.takePacket, hnamed, hforeign]
    · simp [hj]
  rw [Engine.handle, hhandler]
  simp only [Engine.modifyEntry, hsame]

theorem Inv.not_mem_of_returned (h : Inv engine) {k entry : Nat} {call : Call} {result : RpcResult}
    (hcall : engine.calls[k]? = some call) (hstage : call.stage = .returned (some entry) result)
    (requestId : String) : (requestId, entry) ∉ engine.pendingRpcCalls := by
  intro hmem
  obtain ⟨j, owner, howner, -, hhas, hway⟩ := h.held _ hmem
  obtain rfl := h.distinct j k owner call entry howner hcall hhas (by rw [hstage]; rfl)
  rw [hcall, Option.some.injEq] at howner
  rw [← howner, hstage] at hway
  simp [Stage.underWay] at hway

/-- A packet whose id no call under way has is for nobody. -/
theorem Inv.receive_eq (h : Inv engine) {packet : RpcPacket}
    (hnone : ∀ call ∈ engine.calls, call.requestId = packet.body.requestId →
      call.stage.underWay = false) : engine.receive packet = engine := by
  unfold Engine.receive
  split
  · rfl
  · rename_i entry hlookup
    obtain ⟨before, after, hsplit, -⟩ := List.lookup_eq_some_iff.1 hlookup
    have hmem : (packet.body.requestId, entry) ∈ engine.pendingRpcCalls := by simp [hsplit]
    obtain ⟨k, owner, howner, hid, -, hway⟩ := h.held _ hmem
    rw [hnone owner (List.mem_of_getElem? howner) hid] at hway
    simp at hway

theorem Inv.oneOutcome (h : Inv engine) : OneOutcome engine where
  first := by
    intro k call entry result hcall hstage
    exact h.done k call entry result hcall (by rw [hstage]; rfl)
  final := fun k entry result hstage act => stage?_step_of_returned hstage act
  returns := by
    intro k call entry hcall hstage
    have hack := h.awaitAck_passes hcall hstage
    obtain ⟨result, hresponse⟩ :=
      (h.step (.call k (.awaitAck true))).awaitResponse_removes hack
    exact ⟨result, stage?_remove hresponse⟩
  foreign := fun _ _ _ _ => handle_foreign
  gone := fun _ _ _ _ => h.not_mem_of_returned
  late := by
    intro k call entry result hcall hstage hnone packet hid
    apply h.receive_eq
    rw [hid]
    exact hnone

end Steps

/-! ## 6. Runs -/

theorem inv_run (acts : List Act) : Inv (acts.foldl Engine.step {}) := by
  refine (exec_foldl Engine.step {} acts).invariant ?_ inv_new
  rintro before act after hbefore rfl
  exact hbefore.step act

/-- **A call has one outcome**: that of what came first to complete it, in every run. -/
theorem rpc_oneOutcome (acts : List Act) : OneOutcome (acts.foldl Engine.step {}) :=
  (inv_run acts).oneOutcome

end LivekitClient.RpcCalls
