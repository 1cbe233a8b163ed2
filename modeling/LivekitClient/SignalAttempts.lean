/-
  LivekitClient/SignalAttempts.lean
  =================================
  **The attempts of a signal client to connect** (`SignalClient::Connect`, `Resume`,
  `Close`, `handleWsBinaryMessage`, `handleOnClose` and the `resolve…` helpers in
  `src/core/detail/signal_client.cpp`).

  `Connect` waits for a join response and `Resume` for a reconnect response, each on a
  promise that the handlers of the socket resolve.  A handler goes by the state in which
  it finds the client, and holds `lock_` until it is through.  `Close` holds no lock and
  resolves nothing: it stores one state before it closes the socket and another after.
-/
import LivekitClient.Runs

namespace LivekitClient.SignalAttempts

open Runs

/-! ## 1. A promise and its flag -/

/-- A promise that is made anew once it has been resolved; `id` counts how often, and
    `values` are the calls of `set_value` with the promise that they went to. -/
structure Promise (β : Type*) where
  id : Nat := 0
  resolved : Bool := false
  values : List (Nat × β) := []
deriving DecidableEq

namespace Promise

variable {β : Type*}

def renew (promise : Promise β) : Promise β :=
  if promise.resolved then { promise with id := promise.id + 1, resolved := false } else promise

def resolve (promise : Promise β) (value : β) : Promise β :=
  if promise.resolved then promise
  else { promise with resolved := true, values := promise.values ++ [(promise.id, value)] }

/-- The promise that is there now has got its value. -/
def HasValue (promise : Promise β) : Prop := promise.id ∈ promise.values.map Prod.fst

instance (promise : Promise β) : Decidable promise.HasValue :=
  inferInstanceAs (Decidable (_ ∈ _))

/-- No promise has got two values. -/
def Once (promise : Promise β) : Prop := (promise.values.map Prod.fst).Nodup

/-- The flag says whether the promise has got its value, and those to come have none. -/
structure Inv (promise : Promise β) : Prop where
  once : promise.Once
  hasValue_iff : promise.HasValue ↔ promise.resolved = true
  none_yet : ∀ later, promise.id < later → later ∉ promise.values.map Prod.fst

variable {promise : Promise β}

theorem inv_new : ({} : Promise β).Inv where
  once := List.nodup_nil
  hasValue_iff := by simp [HasValue]
  none_yet := by simp

theorem Inv.renew (h : promise.Inv) : promise.renew.Inv := by
  rw [Promise.renew]
  split
  · refine ⟨h.once, ?_, ?_⟩
    · have hnone := h.none_yet (promise.id + 1) (Nat.lt_succ_self _)
      simpa [HasValue] using hnone
    · intro later hlater
      exact h.none_yet later (Nat.lt_of_succ_lt hlater)
  · exact h

theorem Inv.resolve (h : promise.Inv) (value : β) : (promise.resolve value).Inv := by
  rw [Promise.resolve]
  split
  · exact h
  · rename_i hunresolved
    have hnone : ¬ promise.HasValue := fun hvalue => hunresolved (h.hasValue_iff.1 hvalue)
    refine ⟨?_, ?_, ?_⟩
    · rw [Once, List.map_append, List.nodup_append]
      refine ⟨h.once, by simp, ?_⟩
      intro earlier hearlier new hnew
      obtain rfl : new = promise.id := by simpa using hnew
      rintro rfl
      exact hnone hearlier
    · simp [HasValue]
    · intro later hlater
      rw [List.map_append, List.mem_append]
      rintro (hmem | hmem)
      · exact h.none_yet later hlater hmem
      · obtain rfl : later = promise.id := by simpa using hmem
        exact Nat.lt_irrefl _ hlater

@[simp]
theorem resolved_resolve (value : β) : (promise.resolve value).resolved = true := by
  rw [Promise.resolve]
  split
  · assumption
  · rfl

end Promise

/-! ## 2. The client -/

inductive SignalConnectionState where
  | connecting
  | connected
  | reconnecting
  | disconnecting
  | disconnected
deriving DecidableEq

/-- The cases of a `SignalResponse` that make a difference to a client that is not yet
    connected. -/
inductive Message where
  | join
  | leave
  | reconnect
  | other
deriving DecidableEq

inductive Attempt where
  | connect
  | resume
deriving DecidableEq

/-- The value of `promise` says whether it is the server's join response or an empty one.
    `closing` counts the calls of `Close` between their two stores, and `latest` is the
    attempt that was started last. -/
structure Client where
  state : SignalConnectionState := .disconnected
  promise : Promise Bool := {}
  resumePromise : Promise Bool := {}
  closing : Nat := 0
  latest : Option Attempt := none
deriving DecidableEq

/-- `message none` is one that is too large or cannot be parsed, `onClose` the socket's
    close or the ping timeout, `close` and `closed` are the stores of `Close`. -/
inductive Act where
  | connect
  | resume
  | message (message : Option Message)
  | onClose
  | close
  | closed
deriving DecidableEq

namespace Client

def connect (client : Client) : Client :=
  { client with promise := client.promise.renew, state := .connecting, latest := some .connect }

def resume (client : Client) : Client :=
  { client with
    resumePromise := client.resumePromise.renew
    state := .reconnecting
    latest := some .resume }

def resolveJoinResponse (client : Client) (response : Bool) : Client :=
  { client with promise := client.promise.resolve response }

def resolveResume (client : Client) (connected : Bool) : Client :=
  { client with resumePromise := client.resumePromise.resolve connected }

def isEstablishingConnection (client : Client) : Bool :=
  client.state = .connecting || client.state = .reconnecting

def handleWsBinaryMessage (client : Client) (message : Message) : Client :=
  if client.state = .connected then client
  else
    match message with
    | .join => { client with state := .connected }.resolveJoinResponse true
    | .leave =>
      -- the client stays in the state it is in
      if client.isEstablishingConnection then
        if client.state = .reconnecting then client.resolveResume false
        else client.resolveJoinResponse false
      else client
    | .reconnect =>
      if client.state = .reconnecting then
        { client with state := .connected }.resolveResume true
      else client
    | .other =>
      if client.state = .reconnecting then
        { client with state := .connected }.resolveResume false
      else client

def handleOnClose (client : Client) : Client :=
  let after := { client with state := .disconnected }
  if client.state = .connecting ∨ client.state = .reconnecting then
    if client.state = .reconnecting then after.resolveResume false
    else after.resolveJoinResponse false
  else after

def step (client : Client) : Act → Client
  | .connect => client.connect
  | .resume => client.resume
  | .message none => client
  | .message (some message) => client.handleWsBinaryMessage message
  | .onClose => client.handleOnClose
  | .close => { client with state := .disconnecting, closing := client.closing + 1 }
  | .closed =>
    if client.closing = 0 then client
    else { client with state := .disconnected, closing := client.closing - 1 }

/-- The promise of the attempt that was started last. -/
def latestPromise (client : Client) : Option (Promise Bool) :=
  client.latest.map fun
    | .connect => client.promise
    | .resume => client.resumePromise

def LatestResolved (client : Client) : Prop :=
  ∀ promise ∈ client.latestPromise, promise.resolved = true

/-- Nobody waits for an attempt that is over. -/
def NoneHangs (client : Client) : Prop :=
  client.isEstablishingConnection = false → ∀ promise ∈ client.latestPromise, promise.HasValue

/-- No promise gets two values. -/
def ResolvesOnce (client : Client) : Prop := client.promise.Once ∧ client.resumePromise.Once

end Client

/-- `Close` waits until the last attempt is resolved, and no join response answers a
    `Resume`. -/
def Waits (client : Client) : Act → Prop
  | .close => client.LatestResolved
  | .closed => client.closing ≠ 0 → client.LatestResolved
  | .message (some .join) =>
    client.state = .reconnecting → client.resumePromise.resolved = true
  | _ => True

/-! ## 3. The steps -/

/-- The flags are right, and the state says which attempt it is about. -/
structure Inv (client : Client) : Prop where
  promise : client.promise.Inv
  resumePromise : client.resumePromise.Inv
  connecting : client.state = .connecting → client.latest = some .connect
  reconnecting : client.state = .reconnecting → client.latest = some .resume

section Steps

variable {client : Client}

theorem Inv.setState (h : Inv client) (state : SignalConnectionState)
    (hconnecting : state ≠ .connecting) (hreconnecting : state ≠ .reconnecting) :
    Inv { client with state := state } where
  promise := h.promise
  resumePromise := h.resumePromise
  connecting := fun heq => absurd heq hconnecting
  reconnecting := fun heq => absurd heq hreconnecting

theorem Inv.resolveJoinResponse (h : Inv client) (response : Bool) :
    Inv (client.resolveJoinResponse response) :=
  { h with promise := h.promise.resolve response }

theorem Inv.resolveResume (h : Inv client) (connected : Bool) :
    Inv (client.resolveResume connected) :=
  { h with resumePromise := h.resumePromise.resolve connected }

theorem Inv.handleWsBinaryMessage (h : Inv client) (message : Message) :
    Inv (client.handleWsBinaryMessage message) := by
  have hconnected : Inv { client with state := .connected } := h.setState _ (by simp) (by simp)
  unfold Client.handleWsBinaryMessage
  split
  · exact h
  · cases message with
    | join => exact hconnected.resolveJoinResponse true
    | leave =>
      simp only
      split
      · split
        · exact h.resolveResume false
        · exact h.resolveJoinResponse false
      · exact h
    | reconnect =>
      simp only
      split
      · exact hconnected.resolveResume true
      · exact h
    | other =>
      simp only
      split
      · exact hconnected.resolveResume false
      · exact h

theorem Inv.handleOnClose (h : Inv client) : Inv client.handleOnClose := by
  have hdisconnected : Inv { client with state := .disconnected } :=
    h.setState _ (by simp) (by simp)
  rw [Client.handleOnClose]
  split
  · split
    · exact hdisconnected.resolveResume false
    · exact hdisconnected.resolveJoinResponse false
  · exact hdisconnected

theorem Inv.step (h : Inv client) (act : Act) : Inv (client.step act) := by
  cases act with
  | connect =>
    refine ⟨h.promise.renew, h.resumePromise, fun _ => rfl, ?_⟩
    simp [Client.step, Client.connect]
  | resume =>
    refine ⟨h.promise, h.resumePromise.renew, ?_, fun _ => rfl⟩
    simp [Client.step, Client.resume]
  | message message =>
    cases message with
    | none => exact h
    | some message => exact h.handleWsBinaryMessage message
  | onClose => exact h.handleOnClose
  | close => exact { h.setState .disconnecting (by simp) (by simp) with }
  | closed =>
    rw [Client.step]
    split
    · exact h
    · exact { h.setState .disconnected (by simp) (by simp) with }

/-- Under the invariant the flags tell who may hang. -/
theorem Inv.noneHangs_iff (h : Inv client) :
    client.NoneHangs ↔ (client.isEstablishingConnection = false → client.LatestResolved) := by
  rw [Client.NoneHangs, Client.LatestResolved, Client.latestPromise]
  rcases client.latest with _ | ⟨_ | _⟩
  · simp
  · simp [h.promise.hasValue_iff]
  · simp [h.resumePromise.hasValue_iff]

theorem latestResolved_resolveJoinResponse
    (h : client.latest = some .connect ∨ client.LatestResolved) (response : Bool) :
    (client.resolveJoinResponse response).LatestResolved := by
  rcases h with hlatest | hresolved
  · simp [Client.LatestResolved, Client.latestPromise, Client.resolveJoinResponse, hlatest]
  · rcases hlatest : client.latest with _ | ⟨_ | _⟩ <;>
      simp_all [Client.LatestResolved, Client.latestPromise, Client.resolveJoinResponse]

theorem latestResolved_resolveResume
    (h : client.latest = some .resume ∨ client.LatestResolved) (connected : Bool) :
    (client.resolveResume connected).LatestResolved := by
  rcases h with hlatest | hresolved
  · simp [Client.LatestResolved, Client.latestPromise, Client.resolveResume, hlatest]
  · rcases hlatest : client.latest with _ | ⟨_ | _⟩ <;>
      simp_all [Client.LatestResolved, Client.latestPromise, Client.resolveResume]

/-- Whoever is not establishing a connection has resolved its last attempt. -/
theorem Inv.latestResolved (h : Inv client) (hnone : client.NoneHangs)
    (hconnecting : client.state ≠ .connecting) (hreconnecting : client.state ≠ .reconnecting) :
    client.LatestResolved := by
  apply h.noneHangs_iff.1 hnone
  simp [Client.isEstablishingConnection, hconnecting, hreconnecting]

theorem noneHangs_of_establishing (h : client.isEstablishingConnection = true) :
    client.NoneHangs := by
  intro hnot
  rw [h] at hnot
  exact absurd hnot (by simp)

theorem Inv.noneHangs_of_resolved (h : Inv client) (hresolved : client.LatestResolved) :
    client.NoneHangs :=
  h.noneHangs_iff.2 fun _ => hresolved

/-- A join response that answers a `Resume` resolves the other promise. -/
theorem Inv.noneHangs_join (h : Inv client) (hnone : client.NoneHangs) :
    (client.handleWsBinaryMessage .join).NoneHangs ↔
      (client.state = .reconnecting → client.resumePromise.resolved = true) := by
  have hafter := h.handleWsBinaryMessage .join
  by_cases hreconnecting : client.state = .reconnecting
  · rw [hafter.noneHangs_iff]
    have hlatest := h.reconnecting hreconnecting
    simp [Client.handleWsBinaryMessage, hreconnecting, Client.isEstablishingConnection,
      Client.resolveJoinResponse, Client.LatestResolved, Client.latestPromise, hlatest]
  · refine iff_of_true ?_ (by simp [hreconnecting])
    unfold Client.handleWsBinaryMessage at hafter ⊢
    split
    · exact hnone
    · rename_i hconnected
      rw [if_neg hconnected] at hafter
      apply hafter.noneHangs_of_resolved
      apply latestResolved_resolveJoinResponse
      by_cases hconnecting : client.state = .connecting
      · exact Or.inl (h.connecting hconnecting)
      · exact Or.inr (h.latestResolved hnone hconnecting hreconnecting)

/-- The other messages leave nobody behind. -/
theorem Inv.noneHangs_message (h : Inv client) (hnone : client.NoneHangs) {message : Message}
    (hjoin : message ≠ .join) : (client.handleWsBinaryMessage message).NoneHangs := by
  have hafter := h.handleWsBinaryMessage message
  unfold Client.handleWsBinaryMessage at hafter ⊢
  split
  · exact hnone
  · rename_i hconnected
    rw [if_neg hconnected] at hafter
    cases message with
    | join => exact absurd rfl hjoin
    | leave =>
      simp only at hafter ⊢
      split
      · rename_i hestablishing
        split
        · exact noneHangs_of_establishing hestablishing
        · exact noneHangs_of_establishing hestablishing
      · exact hnone
    | reconnect =>
      simp only at hafter ⊢
      split
      · rename_i hstate
        rw [if_pos hstate] at hafter
        apply hafter.noneHangs_of_resolved
        exact latestResolved_resolveResume (Or.inl (h.reconnecting hstate)) true
      · exact hnone
    | other =>
      simp only at hafter ⊢
      split
      · rename_i hstate
        rw [if_pos hstate] at hafter
        apply hafter.noneHangs_of_resolved
        exact latestResolved_resolveResume (Or.inl (h.reconnecting hstate)) false
      · exact hnone

theorem Inv.noneHangs_onClose (h : Inv client) (hnone : client.NoneHangs) :
    client.handleOnClose.NoneHangs := by
  apply h.handleOnClose.noneHangs_of_resolved
  rw [Client.handleOnClose]
  split
  · rename_i hestablishing
    split
    · rename_i hstate
      exact latestResolved_resolveResume (Or.inl (h.reconnecting hstate)) false
    · rename_i hstate
      have hconnecting := hestablishing.resolve_right hstate
      exact latestResolved_resolveJoinResponse (Or.inl (h.connecting hconnecting)) false
  · rename_i hestablishing
    rw [not_or] at hestablishing
    exact h.latestResolved hnone hestablishing.1 hestablishing.2

/-- A store of `Close` leaves the attempts as they are. -/
theorem Inv.noneHangs_store (h : Inv client) {state : SignalConnectionState} {closing : Nat}
    (hconnecting : state ≠ .connecting) (hreconnecting : state ≠ .reconnecting) :
    { client with state := state, closing := closing }.NoneHangs ↔ client.LatestResolved := by
  have hafter : Inv { client with state := state, closing := closing } :=
    { h.setState state hconnecting hreconnecting with }
  rw [hafter.noneHangs_iff]
  simp only [Client.isEstablishingConnection, hconnecting, hreconnecting, decide_false,
    Bool.or_self, forall_const]
  exact Iff.rfl

/-- A step leaves somebody waiting exactly if it does not wait itself. -/
theorem Inv.noneHangs_step (h : Inv client) (hnone : client.NoneHangs) (act : Act) :
    (client.step act).NoneHangs ↔ Waits client act := by
  cases act with
  | connect => exact iff_of_true (noneHangs_of_establishing rfl) trivial
  | resume => exact iff_of_true (noneHangs_of_establishing rfl) trivial
  | message message =>
    cases message with
    | none => exact iff_of_true hnone trivial
    | some message =>
      cases message with
      | join => exact h.noneHangs_join hnone
      | leave => exact iff_of_true (h.noneHangs_message hnone (by simp)) trivial
      | reconnect => exact iff_of_true (h.noneHangs_message hnone (by simp)) trivial
      | other => exact iff_of_true (h.noneHangs_message hnone (by simp)) trivial
  | onClose => exact iff_of_true (h.noneHangs_onClose hnone) trivial
  | close => exact h.noneHangs_store (by simp) (by simp)
  | closed =>
    rw [Client.step, Waits]
    split
    · rename_i hclosing
      simp [hnone, hclosing]
    · rename_i hclosing
      rw [h.noneHangs_store (by simp) (by simp)]
      simp [hclosing]

end Steps

/-! ## 4. Runs -/

theorem inv_new : Inv {} where
  promise := Promise.inv_new
  resumePromise := Promise.inv_new
  connecting := by simp
  reconnecting := by simp

/-- **A promise is resolved at most once, and nobody waits for an attempt that is over,**
    the latter exactly in the runs in which `Close` waits for the last attempt and no
    join response answers a `Resume`. -/
theorem attempts_resolved_iff (acts : List Act) :
    (acts.foldl Client.step {}).ResolvesOnce ∧
      (Along (fun client act => (client.step act).NoneHangs) Client.step {} acts ↔
        Along Waits Client.step {} acts) := by
  constructor
  · have hinv : Inv (acts.foldl Client.step {}) := by
      refine (exec_foldl Client.step {} acts).invariant ?_ inv_new
      rintro client act after hclient rfl
      exact hclient.step act
    exact ⟨hinv.promise.once, hinv.resumePromise.once⟩
  · refine @along_congr _ _ _ _ _ (fun client => Inv client ∧ client.NoneHangs) ?_ ?_ _ ?_ acts
    · rintro client act ⟨hinv, hnone⟩
      exact hinv.noneHangs_step hnone act
    · rintro client act ⟨hinv, -⟩ hnone
      exact ⟨hinv.step act, hnone⟩
    · exact ⟨inv_new, by simp [Client.NoneHangs, Client.latestPromise]⟩

/-- The client is closed while it waits for a join response; that the socket then closes
    as well does not help. -/
theorem closed_while_connecting_hangs :
    ¬ Along (fun client act => (client.step act).NoneHangs) Client.step {}
      [.connect, .close, .onClose, .closed] := by
  rintro ⟨-, hnone, -⟩
  have hvalue := hnone (by decide) {} (by decide)
  simp [Promise.HasValue] at hvalue

end LivekitClient.SignalAttempts
