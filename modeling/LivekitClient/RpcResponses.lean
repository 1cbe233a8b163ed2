/-
  LivekitClient/RpcResponses.lean
  ===============================
  **What a caller hears from a handler** (`RtcEngine::HandleRpcRequest`,
  `SendRpcResponse`, `HandleRpcResponse`, `RunRpcWorker` and `TruncateUtf8` in
  `src/core/detail/rtc_engine.cpp`, with `include/livekit/core/rpc.h`).

  A request is acknowledged and queued.  A worker looks up the handler, runs it and sends
  what it returned: the payload, or an error whose texts are cut to what a packet holds.
  The caller makes a result of the response.

  The packets that are sent are what the caller receives, `SendDataPacket` aside; texts
  are byte strings.
-/
import Mathlib.Data.List.Induction
import LivekitClient.Runs
import LivekitClient.Types
import LivekitClient.Utf8

namespace LivekitClient.RpcResponses

open Utf8

/-! ## 1. Errors and results -/

/-- `enum class RpcErrorCode : uint32_t`, which holds any code that comes in a packet. -/
abbrev RpcErrorCode := UInt32

namespace RpcErrorCode

def unsupportedMethod : RpcErrorCode := 1400
def recipientNotFound : RpcErrorCode := 1401
def requestPayloadTooLarge : RpcErrorCode := 1402
def unsupportedServer : RpcErrorCode := 1403
def unsupportedVersion : RpcErrorCode := 1404
def applicationError : RpcErrorCode := 1500
def connectionTimeout : RpcErrorCode := 1501
def responseTimeout : RpcErrorCode := 1502
def recipientDisconnected : RpcErrorCode := 1503
def responsePayloadTooLarge : RpcErrorCode := 1504
def sendFailed : RpcErrorCode := 1505

end RpcErrorCode

open RpcErrorCode

/-- The cases of `RpcErrorMessage`. -/
def rpcErrorMessages : List (RpcErrorCode × String) :=
  [(unsupportedMethod, "Method not supported at destination"),
   (recipientNotFound, "Recipient not found"),
   (requestPayloadTooLarge, "Request payload too large"),
   (unsupportedServer, "RPC not supported by server"),
   (unsupportedVersion, "Unsupported RPC version"),
   (applicationError, "Application error in method handler"),
   (connectionTimeout, "Connection timeout"),
   (responseTimeout, "Response timeout"),
   (recipientDisconnected, "Recipient disconnected"),
   (responsePayloadTooLarge, "Response payload too large"),
   (sendFailed, "Failed to send")]

def rpcErrorMessage (code : RpcErrorCode) : String :=
  (rpcErrorMessages.lookup code).getD "RPC error"

structure RpcError where
  code : RpcErrorCode := applicationError
  message : Bytes := []
  data : Bytes := []
deriving DecidableEq

def RpcError.builtIn (code : RpcErrorCode) (data : Bytes) : RpcError :=
  ⟨code, (rpcErrorMessage code).toList.flatMap String.utf8EncodeChar, data⟩

structure RpcResult where
  payload : Bytes := []
  error : Option RpcError := none
deriving DecidableEq

def RpcResult.success (payload : Bytes) : RpcResult := { payload := payload }

def RpcResult.failure (error : RpcError) : RpcResult := { error := some error }

/-- `RpcResult::Failure(RpcError::BuiltIn(code))`. -/
def RpcResult.builtIn (code : RpcErrorCode) : RpcResult := .failure (.builtIn code [])

def kMaximumRpcPayloadBytes : Nat := 15360

def kMaximumRpcErrorMessageBytes : Nat := 256

def kRpcVersion : UInt32 := 1

/-! ## 2. Packets -/

structure RpcRequest where
  id : String
  method : String
  payload : Bytes
  responseTimeoutMs : UInt32
  version : UInt32
deriving DecidableEq

/-- The `oneof` of a response. -/
inductive RpcResponseValue where
  | unset
  | payload (payload : Bytes)
  | error (error : RpcError)
deriving DecidableEq

structure RpcResponse where
  requestId : String
  value : RpcResponseValue := .unset
deriving DecidableEq

/-- What `HandleRpcResponse` makes of a response. -/
def RpcResponse.result (response : RpcResponse) : RpcResult :=
  match response.value with
  | .unset => .success []
  | .payload payload => .success payload
  | .error error => .failure error

/-- The loop of `TruncateUtf8`. -/
def truncateEnd (value : Bytes) : Nat → Nat
  | 0 => 0
  | n + 1 =>
    if value[n + 1]?.any isContinuation then truncateEnd value n else n + 1

def truncateUtf8 (value : Bytes) (maximumBytes : Nat) : Bytes :=
  if value.length ≤ maximumBytes then value else value.take (truncateEnd value maximumBytes)

/-- The response of `SendRpcResponse`. -/
def rpcResponse (requestId : String) (result : RpcResult) : RpcResponse :=
  match result.error with
  | some error =>
    { requestId := requestId
      value := .error
        { code := error.code
          message := truncateUtf8 error.message kMaximumRpcErrorMessageBytes
          data := truncateUtf8 error.data kMaximumRpcPayloadBytes } }
  | none =>
    if kMaximumRpcPayloadBytes < result.payload.length then
      { requestId := requestId
        value := .error
          { code := responsePayloadTooLarge
            message := (RpcError.builtIn responsePayloadTooLarge []).message } }
    else { requestId := requestId, value := .payload result.payload }

/-! ## 3. The responder -/

structure RpcInvocationData where
  requestId : String
  callerIdentity : String
  payload : Bytes
  responseTimeout : Nat

/-- A handler returns a result or throws. -/
inductive Outcome where
  | returns (result : RpcResult)
  | throws

abbrev RpcHandler := RpcInvocationData → Outcome

structure Task where
  callerIdentity : String
  request : RpcRequest

/-- An ack that was given to `SendDataPacket`, and whether it was sent. -/
structure Ack where
  callerIdentity : String
  requestId : String
  sent : Bool

/-- A response, with the task and the handler it comes from. -/
structure Sent where
  task : Task
  handler : Option RpcHandler
  response : RpcResponse

/-- `received` are the requests that came in, `running` the tasks that a worker has taken
    and not finished. -/
structure Responder where
  rpcHandlers : List (String × RpcHandler) := []
  rpcTasks : List Task := []
  running : List Task := []
  rpcWorkersStopping : Bool := false
  received : List Task := []
  acks : List Ack := []
  responses : List Sent := []

/-- `sent` says whether the ack could be sent; `runTask i` is the rest of the `i`-th task
    that a worker has taken. -/
inductive Act where
  | handleRpcRequest (callerIdentity : String) (request : RpcRequest) (sent : Bool)
  | takeTask
  | runTask (i : Nat)
  | registerRpcMethod (method : String) (handler : RpcHandler)
  | unregisterRpcMethod (method : String)
  | stopRpcWorkers

/-- What a handler returned, and the built-in error if it threw. -/
def Outcome.result : Outcome → RpcResult
  | .returns result => result
  | .throws => .builtIn applicationError

def Task.invoke (task : Task) (handler : RpcHandler) : Outcome :=
  handler
    { requestId := task.request.id
      callerIdentity := task.callerIdentity
      payload := task.request.payload
      responseTimeout := task.request.responseTimeoutMs.toNat }

/-- The result that the task of a worker sends. -/
def Task.run (task : Task) (handler : Option RpcHandler) : RpcResult :=
  if task.request.version ≠ kRpcVersion then .builtIn unsupportedVersion
  else
    match handler with
    | none => .builtIn unsupportedMethod
    | some handler => (task.invoke handler).result

namespace Responder

def handleRpcRequest (responder : Responder) (task : Task) (sent : Bool) : Responder :=
  if task.callerIdentity = "" || task.request.id = "" then
    { responder with received := responder.received ++ [task] }
  else
    { responder with
      received := responder.received ++ [task]
      acks := responder.acks ++ [⟨task.callerIdentity, task.request.id, sent⟩]
      rpcTasks :=
        if sent && !responder.rpcWorkersStopping then responder.rpcTasks ++ [task]
        else responder.rpcTasks }

def runTask (responder : Responder) (i : Nat) : Responder :=
  match responder.running[i]? with
  | none => responder
  | some task =>
    let handler := responder.rpcHandlers.lookup task.request.method
    { responder with
      running := responder.running.eraseIdx i
      responses := responder.responses ++
        [⟨task, handler, rpcResponse task.request.id (task.run handler)⟩] }

def step (responder : Responder) : Act → Responder
  | .handleRpcRequest callerIdentity request sent =>
    responder.handleRpcRequest ⟨callerIdentity, request⟩ sent
  | .takeTask =>
    match responder.rpcTasks with
    | [] => responder
    | task :: rest =>
      { responder with rpcTasks := rest, running := responder.running ++ [task] }
  | .runTask i => responder.runTask i
  | .registerRpcMethod method handler =>
    -- `emplace` keeps the handler that is there
    if method = "" || (responder.rpcHandlers.lookup method).isSome then responder
    else { responder with rpcHandlers := responder.rpcHandlers ++ [(method, handler)] }
  | .unregisterRpcMethod method =>
    { responder with
      rpcHandlers := responder.rpcHandlers.filter fun registered => registered.1 != method }
  | .stopRpcWorkers => { responder with rpcWorkersStopping := true, rpcTasks := [] }

end Responder

/-! ## 4. What the caller hears -/

/-- A text is cut to a limit of bytes, and a valid one between two characters. -/
structure Cut (limit : Nat) (text cut : Bytes) : Prop where
  whole : text.length ≤ limit → cut = text
  isPrefix : cut <+: text
  length_le : cut.length ≤ limit
  longest : Valid text → IsLongestPrefix limit text cut

def Outcome.Heard : Outcome → RpcResult → Prop
  | .throws, heard => heard = .builtIn applicationError
  | .returns result, heard =>
    match result.error with
    | some error => ∃ message data, heard = .failure ⟨error.code, message, data⟩ ∧
        Cut kMaximumRpcErrorMessageBytes error.message message ∧
        Cut kMaximumRpcPayloadBytes error.data data
    | none =>
      heard = if result.payload.length ≤ kMaximumRpcPayloadBytes then .success result.payload
        else .builtIn responsePayloadTooLarge

def Task.Heard (task : Task) (handler : Option RpcHandler) (heard : RpcResult) : Prop :=
  if task.request.version ≠ kRpcVersion then heard = .builtIn unsupportedVersion
  else
    match handler with
    | none => heard = .builtIn unsupportedMethod
    | some handler => (task.invoke handler).Heard heard

def Task.key (task : Task) : String × String := (task.callerIdentity, task.request.id)

def Ack.key (ack : Ack) : String × String := (ack.callerIdentity, ack.requestId)

/-- The acks that were sent. -/
def sentAcks (acks : List Ack) : List (String × String) := (acks.filter Ack.sent).map Ack.key

/-- Each request that names its caller and itself is acknowledged once, and answered at
    most once and only if the ack was sent; and what its caller makes of a response is what
    the handler decided. -/
structure RoundTrip (responder : Responder) : Prop where
  acks : ∀ key : String × String, key.1 ≠ "" → key.2 ≠ "" →
    (responder.acks.map Ack.key).count key = (responder.received.map Task.key).count key
  responses : ∀ key : String × String,
    (responder.responses.map fun sent => sent.task.key).count key ≤
      (sentAcks responder.acks).count key
  heard : ∀ sent ∈ responder.responses, sent.task ∈ responder.received ∧
    sent.response.requestId = sent.task.request.id ∧
    sent.task.Heard sent.handler sent.response.result

/-! ### The texts -/

theorem truncateEnd_le (value : Bytes) (n : Nat) : truncateEnd value n ≤ n := by
  induction n with
  | zero => exact Nat.le_refl 0
  | succ n ih =>
    rw [truncateEnd]
    split
    · exact Nat.le_succ_of_le ih
    · exact Nat.le_refl _

/-- The loop stops before a byte that continues nothing, or at the beginning. -/
theorem truncateEnd_stops {value : Bytes} {n : Nat} (hn : n < value.length) :
    truncateEnd value n = 0 ∨
      ∃ byte, value[truncateEnd value n]? = some byte ∧ isContinuation byte = false := by
  induction n with
  | zero => exact Or.inl rfl
  | succ n ih =>
    rw [truncateEnd]
    split
    · exact ih (by omega)
    · rename_i hstops
      rw [List.getElem?_eq_getElem hn, Option.any_some, Bool.not_eq_true] at hstops
      exact Or.inr ⟨_, List.getElem?_eq_getElem hn, hstops⟩

theorem truncateEnd_passes {value : Bytes} {n m : Nat} (hlow : truncateEnd value n < m)
    (hhigh : m ≤ n) {byte : UInt8} (hbyte : value[m]? = some byte) :
    isContinuation byte = true := by
  induction n with
  | zero => omega
  | succ n ih =>
    rw [truncateEnd] at hlow
    split at hlow
    · rename_i hpasses
      by_cases hlast : m = n + 1
      · rw [hlast] at hbyte
        rw [hbyte, Option.any_some] at hpasses
        exact hpasses
      · exact ih hlow (by omega)
    · omega

theorem cut_truncateUtf8 (text : Bytes) (limit : Nat) :
    Cut limit text (truncateUtf8 text limit) := by
  rw [truncateUtf8]
  split
  · rename_i hfits
    exact ⟨fun _ => rfl, List.prefix_rfl, hfits, fun hvalid => hvalid.isLongestPrefix hfits⟩
  · rename_i hlong
    have hlimit : limit < text.length := Nat.lt_of_not_le hlong
    have hend := truncateEnd_le text limit
    refine ⟨fun hfits => absurd hfits hlong, List.take_prefix _ _, ?_, ?_⟩
    · rw [List.length_take]
      omega
    · intro hvalid
      apply hvalid.isLongestPrefix_take hend hlimit (truncateEnd_stops hlimit)
      intro m hlow hhigh byte hbyte
      exact truncateEnd_passes hlow hhigh hbyte

/-- A character that does not fit is left out whole. -/
example : truncateUtf8 [0x61, 0xc3, 0xa9, 0x62] 2 = [0x61] := by decide

/-! ### The responses -/

/-- The built-in messages are short. -/
theorem length_builtIn_message (code : RpcErrorCode) (data : Bytes) :
    (RpcError.builtIn code data).message.length ≤ kMaximumRpcErrorMessageBytes := by
  have htable : ∀ item ∈ rpcErrorMessages,
      (item.2.toList.flatMap String.utf8EncodeChar).length ≤ kMaximumRpcErrorMessageBytes := by
    decide
  rw [RpcError.builtIn, rpcErrorMessage]
  cases hlookup : rpcErrorMessages.lookup code with
  | none => exact Nat.le_of_ble_eq_true rfl
  | some message =>
    obtain ⟨before, after, hsplit, -⟩ := List.lookup_eq_some_iff.1 hlookup
    exact htable (code, message) (by simp [hsplit])

theorem result_rpcResponse_builtIn (requestId : String) (code : RpcErrorCode) :
    (rpcResponse requestId (.builtIn code)).result = .builtIn code := by
  have hmessage : truncateUtf8 (RpcError.builtIn code []).message kMaximumRpcErrorMessageBytes =
      (RpcError.builtIn code []).message :=
    (cut_truncateUtf8 _ _).whole (length_builtIn_message code [])
  simp only [rpcResponse, RpcResult.builtIn, RpcResult.failure, hmessage, RpcResponse.result]
  rfl

theorem heard_returns (requestId : String) (result : RpcResult) :
    (Outcome.returns result).Heard (rpcResponse requestId result).result := by
  cases herror : result.error with
  | some error =>
    simp only [Outcome.Heard, herror, rpcResponse, RpcResponse.result]
    exact ⟨_, _, rfl, cut_truncateUtf8 _ _, cut_truncateUtf8 _ _⟩
  | none =>
    simp only [Outcome.Heard, herror, rpcResponse]
    by_cases hfits : result.payload.length ≤ kMaximumRpcPayloadBytes
    · rw [if_neg (Nat.not_lt.2 hfits), if_pos hfits]
      rfl
    · rw [if_pos (Nat.lt_of_not_le hfits), if_neg hfits]
      rfl

theorem heard_run (task : Task) (handler : Option RpcHandler) :
    task.Heard handler (rpcResponse task.request.id (task.run handler)).result := by
  unfold Task.Heard Task.run
  split
  · exact result_rpcResponse_builtIn _ _
  · cases handler with
    | none => exact result_rpcResponse_builtIn _ _
    | some handler =>
      cases houtcome : task.invoke handler with
      | returns result =>
        simp only [houtcome]
        exact heard_returns _ _
      | throws =>
        simp only [houtcome]
        exact result_rpcResponse_builtIn _ _

theorem requestId_rpcResponse (requestId : String) (result : RpcResult) :
    (rpcResponse requestId result).requestId = requestId := by
  unfold rpcResponse
  split
  · rfl
  · split <;> rfl

/-! ## 5. Runs -/

section Runs

open Runs

variable {responder : Responder}

/-- An ack stands for a response, for a task under way, or for one that is dropped. -/
structure Inv (responder : Responder) : Prop extends RoundTrip responder where
  tasks : ∀ key : String × String,
    (responder.responses.map fun sent => sent.task.key).count key +
      (responder.running.map Task.key).count key + (responder.rpcTasks.map Task.key).count key ≤
        (sentAcks responder.acks).count key
  received : ∀ task ∈ responder.running ++ responder.rpcTasks, task ∈ responder.received

theorem Inv.handleRpcRequest (h : Inv responder) (task : Task) (sent : Bool) :
    Inv (responder.handleRpcRequest task sent) := by
  have hheard : ∀ sent ∈ responder.responses, sent.task ∈ responder.received ++ [task] ∧
      sent.response.requestId = sent.task.request.id ∧
      sent.task.Heard sent.handler sent.response.result := by
    intro sent hsent
    obtain ⟨hreceived, hrest⟩ := h.heard sent hsent
    exact ⟨List.mem_append_left _ hreceived, hrest⟩
  rw [Responder.handleRpcRequest]
  split
  · rename_i hempty
    simp only [Bool.or_eq_true, decide_eq_true_eq] at hempty
    refine ⟨⟨?_, h.responses, hheard⟩, h.tasks, ?_⟩
    · intro key hcaller hid
      -- the request does not name its caller or itself
      have hother : task.key ≠ key := by
        rintro rfl
        exact hempty.elim hcaller hid
      simp only [List.map_append, List.map_cons, List.map_nil, List.count_append,
        List.count_singleton, beq_eq_false_iff_ne.2 hother, Bool.false_eq_true, if_false,
        Nat.add_zero]
      exact h.acks key hcaller hid
    · intro other hother
      exact List.mem_append_left _ (h.received other hother)
  · have hbound : ∀ key,
        (sentAcks (responder.acks ++ [⟨task.callerIdentity, task.request.id, sent⟩])).count key =
          (sentAcks responder.acks).count key + if sent then [task.key].count key else 0 := by
      intro key
      cases sent with
      | false => simp [sentAcks]
      | true => simp [sentAcks, Ack.key, Task.key]
    refine ⟨⟨?_, ?_, hheard⟩, ?_, ?_⟩
    · intro key hcaller hid
      simp only [List.map_append, List.map_cons, List.map_nil, List.count_append]
      rw [h.acks key hcaller hid]
      rfl
    · intro key
      apply Nat.le_trans (h.responses key)
      rw [hbound]
      exact Nat.le_add_right _ _
    · intro key
      have htasks := h.tasks key
      rw [hbound]
      simp only
      split
      · rename_i hqueued
        rw [Bool.and_eq_true] at hqueued
        simp only [hqueued.1, if_true, List.map_append, List.map_cons, List.map_nil,
          List.count_append]
        omega
      · omega
    · intro other hother
      simp only at hother
      split at hother
      · rw [← List.append_assoc] at hother
        rcases List.mem_append.1 hother with hold | hnew
        · exact List.mem_append_left _ (h.received other hold)
        · exact List.mem_append_right _ hnew
      · exact List.mem_append_left _ (h.received other hother)

theorem Inv.takeTask (h : Inv responder) : Inv (responder.step .takeTask) := by
  simp only [Responder.step]
  split
  · exact h
  · rename_i task rest hqueue
    refine ⟨{ h.toRoundTrip with }, ?_, ?_⟩
    · intro key
      have htasks := h.tasks key
      rw [hqueue] at htasks
      simp only [List.map_cons, List.count_cons, List.map_append, List.map_nil,
        List.count_append, List.count_nil] at htasks ⊢
      omega
    · intro other hother
      apply h.received other
      rw [hqueue]
      simpa [or_assoc] using hother

theorem Inv.runTask (h : Inv responder) (i : Nat) : Inv (responder.runTask i) := by
  unfold Responder.runTask
  split
  · exact h
  · rename_i task htask
    obtain ⟨before, after, hrunning, herase, -⟩ := split_of_getElem? htask
    have hcount : ∀ key, (responder.running.map Task.key).count key =
        ((before ++ after).map Task.key).count key + [task.key].count key := by
      intro key
      simp only [hrunning, List.map_append, List.map_cons, List.count_append, List.count_cons,
        List.count_nil]
      omega
    have hsent : ∀ key, ((responder.responses ++
        [(⟨task, responder.rpcHandlers.lookup task.request.method, rpcResponse task.request.id
          (task.run (responder.rpcHandlers.lookup task.request.method))⟩ : Sent)]).map
          fun sent => sent.task.key).count key =
        (responder.responses.map fun sent => sent.task.key).count key + [task.key].count key := by
      intro key
      simp only [List.map_append, List.map_cons, List.map_nil, List.count_append]
    refine ⟨⟨h.acks, ?_, ?_⟩, ?_, ?_⟩
    · intro key
      have htasks := h.tasks key
      rw [hcount] at htasks
      simp only [hsent]
      omega
    · intro sent hmem
      rcases List.mem_append.1 hmem with hold | hnew
      · exact h.heard sent hold
      · rw [List.mem_singleton.1 hnew]
        refine ⟨?_, requestId_rpcResponse _ _, heard_run _ _⟩
        apply h.received task
        exact List.mem_append_left _ (List.mem_of_getElem? htask)
    · intro key
      have htasks := h.tasks key
      rw [hcount] at htasks
      simp only [hsent, herase]
      omega
    · intro other hother
      apply h.received other
      simp only [herase] at hother
      rw [hrunning]
      simp only [List.mem_append, List.mem_cons] at hother ⊢
      tauto

theorem Inv.step (h : Inv responder) (act : Act) : Inv (responder.step act) := by
  cases act with
  | handleRpcRequest callerIdentity request sent => exact h.handleRpcRequest _ sent
  | takeTask => exact h.takeTask
  | runTask i => exact h.runTask i
  | registerRpcMethod method handler =>
    simp only [Responder.step]
    split
    · exact h
    · exact { h with }
  | unregisterRpcMethod method => exact { h with }
  | stopRpcWorkers =>
    refine ⟨{ h.toRoundTrip with }, ?_, ?_⟩
    · intro key
      have htasks := h.tasks key
      simp only [Responder.step, List.map_nil, List.count_nil]
      omega
    · intro other hother
      simp only [Responder.step, List.append_nil] at hother
      exact h.received other (List.mem_append_left _ hother)

theorem inv_new : Inv {} where
  acks := by simp
  responses := by simp
  heard := by simp
  tasks := by simp
  received := by simp

end Runs

/-- The handler is the one that was registered for the method when the worker came to the
    task. -/
def Registered (acts : List Act) (sent : Sent) : Prop :=
  ∃ before i after, acts = before ++ .runTask i :: after ∧
    sent.handler =
      (before.foldl Responder.step {}).rpcHandlers.lookup sent.task.request.method

theorem Registered.later {acts : List Act} {sent : Sent} (h : Registered acts sent) (act : Act) :
    Registered (acts ++ [act]) sent := by
  obtain ⟨before, i, after, rfl, hhandler⟩ := h
  exact ⟨before, i, after ++ [act], by simp, hhandler⟩

theorem registered_run (acts : List Act) :
    ∀ sent ∈ (acts.foldl Responder.step {}).responses, Registered acts sent := by
  induction acts using List.reverseRecOn with
  | nil => simp
  | append_singleton acts act ih =>
    intro sent hsent
    rw [List.foldl_append, List.foldl_cons, List.foldl_nil] at hsent
    cases act with
    | handleRpcRequest callerIdentity request accepted =>
      simp only [Responder.step, Responder.handleRpcRequest] at hsent
      split at hsent <;> exact (ih sent hsent).later _
    | takeTask =>
      simp only [Responder.step] at hsent
      split at hsent <;> exact (ih sent hsent).later _
    | runTask i =>
      simp only [Responder.step, Responder.runTask] at hsent
      split at hsent
      · exact (ih sent hsent).later _
      · rcases List.mem_append.1 hsent with hold | hnew
        · exact (ih sent hold).later _
        · rw [List.mem_singleton.1 hnew]
          exact ⟨acts, i, [], rfl, rfl⟩
    | registerRpcMethod method handler =>
      simp only [Responder.step] at hsent
      split at hsent <;> exact (ih sent hsent).later _
    | unregisterRpcMethod method => exact (ih sent hsent).later _
    | stopRpcWorkers => exact (ih sent hsent).later _

/-- **What the caller of a method hears** is what the handler decided that was registered
    for it when a worker came to the request, in every run. -/
theorem rpc_roundTrip (acts : List Act) :
    RoundTrip (acts.foldl Responder.step {}) ∧
      ∀ sent ∈ (acts.foldl Responder.step {}).responses, Registered acts sent := by
  have hinv : Inv (acts.foldl Responder.step {}) := by
    refine (Runs.exec_foldl Responder.step {} acts).invariant ?_ inv_new
    rintro before act after hbefore rfl
    exact hbefore.step act
  exact ⟨hinv.toRoundTrip, registered_run acts⟩

end LivekitClient.RpcResponses
