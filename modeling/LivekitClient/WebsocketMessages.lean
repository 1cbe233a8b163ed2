/-
  LivekitClient/WebsocketMessages.lean
  ====================================
  **Messages of the signal connection** (`WebsocketClient::handle_callback` and `send` in
  `src/core/detail/websocket_client.cpp`, `SignalClient::init` in `signal_client.cpp`).

  The library calls back with what it has of a message, and says with further queries
  whether that is the end of it.  `protocols` leaves the receive buffer at its default
  size, so a message longer than that comes in several pieces.  The client hands every
  piece to the receive callback as it comes.
-/
import LivekitClient.Runs
import LivekitClient.Types

namespace LivekitClient.WebsocketMessages

/-! ## 1. The client -/

inductive WebsocketDataType where
  | text
  | binary
deriving DecidableEq

structure WebsocketData where
  bytes : Bytes
  type : WebsocketDataType
deriving DecidableEq

inductive EventCode where
  | connected
  | disconnected
deriving DecidableEq

/-- The reasons that `handle_callback` knows; `written` is what `lws_write` returns. -/
inductive Reason where
  | clientEstablished
  | clientReceive (bytes : Bytes) (isBinary : Bool)
  | wsiDestroy
  | clientConnectionError
  | clientClosed
  | clientWriteable (written : Int)
  | other
deriving DecidableEq

/-- `received`, `events` and `written` are the calls of the receive callback, of the event
    callback and of `lws_write`. -/
structure WebsocketClient where
  recvCb : Bool := false
  eventCb : Bool := false
  connEstablished : Bool := false
  wsi : Bool := false
  reconnectAttempts : Nat := 0
  msgTxQueue : List WebsocketData := []
  received : List WebsocketData := []
  events : List EventCode := []
  written : List WebsocketData := []
deriving DecidableEq

inductive Act where
  | init
  | connect
  | send (message : WebsocketData)
  | callback (reason : Reason)
deriving DecidableEq

namespace WebsocketClient

def event (client : WebsocketClient) (code : EventCode) : WebsocketClient :=
  if client.eventCb then { client with events := client.events ++ [code] } else client

def closed (client : WebsocketClient) : WebsocketClient :=
  { client with connEstablished := false, wsi := false }

/-- The new client and the value returned to the library, which closes the connection
    for one that is not 0. -/
def handleCallback (client : WebsocketClient) : Reason → WebsocketClient × Int
  | .clientEstablished =>
    ({ client with connEstablished := true, reconnectAttempts := 0 }.event .connected, 0)
  | .clientReceive bytes isBinary =>
    if client.recvCb then
      ({ client with
        received := client.received ++ [⟨bytes, if isBinary then .binary else .text⟩] }, 0)
    else (client, 0)
  | .wsiDestroy => (client.event .disconnected, 0)
  | .clientConnectionError => if client.connEstablished then (client, 0) else (client.closed, 0)
  | .clientClosed => (client.closed, 0)
  | .clientWriteable written =>
    match client.msgTxQueue with
    | message :: rest =>
      if client.connEstablished then
        ({ client with msgTxQueue := rest, written := client.written ++ [message] },
          if written < 0 ∨ written ≠ message.bytes.length then -1 else 0)
      else (client, 0)
    | [] => (client, 0)
  | .other => (client, 0)

def send (client : WebsocketClient) (message : WebsocketData) : WebsocketClient :=
  if client.connEstablished && client.wsi then
    { client with msgTxQueue := client.msgTxQueue ++ [message] }
  else client

def step (client : WebsocketClient) : Act → WebsocketClient
  | .init => { client with recvCb := true, eventCb := true }
  | .connect => { client with wsi := true }
  | .send message => client.send message
  | .callback reason => (client.handleCallback reason).1

end WebsocketClient

/-! ## 2. Messages and their pieces -/

/-- A message of the server as the library splits it: it comes in one piece at least. -/
structure Message where
  first : Bytes
  rest : List Bytes := []
deriving DecidableEq

namespace Message

def pieces (message : Message) : List Bytes := message.first :: message.rest

def bytes (message : Message) : Bytes := message.pieces.flatten

end Message

/-- What a callback brings of a message. -/
def piece : Act → Option WebsocketData
  | .callback (.clientReceive bytes isBinary) =>
    some ⟨bytes, if isBinary then .binary else .text⟩
  | _ => none

/-- The callbacks bring these messages, and nothing else. -/
def Brings (acts : List Act) (messages : List Message) : Prop :=
  acts.filterMap piece = (messages.flatMap Message.pieces).map (⟨·, .binary⟩)

instance (acts : List Act) (messages : List Message) : Decidable (Brings acts messages) :=
  inferInstanceAs (Decidable (_ = _))

/-- The receive callback was called once for each message, in order, with its bytes. -/
def ReceivedWhole (before after : WebsocketClient) (messages : List Message) : Prop :=
  after.received = before.received ++ messages.map fun message => ⟨message.bytes, .binary⟩

instance (before after : WebsocketClient) (messages : List Message) :
    Decidable (ReceivedWhole before after messages) :=
  inferInstanceAs (Decidable (_ = _))

/-! ## 3. What is received -/

section Receive

variable {client : WebsocketClient}

theorem received_event (code : EventCode) : (client.event code).received = client.received := by
  rw [WebsocketClient.event]
  split <;> rfl

theorem recvCb_event (code : EventCode) : (client.event code).recvCb = client.recvCb := by
  rw [WebsocketClient.event]
  split <;> rfl

/-- A step hands on the piece that it brings. -/
theorem step_receives (h : client.recvCb = true) (act : Act) :
    (client.step act).recvCb = true ∧
      (client.step act).received = client.received ++ (piece act).toList := by
  cases act with
  | init => exact ⟨rfl, (List.append_nil _).symm⟩
  | connect => exact ⟨h, (List.append_nil _).symm⟩
  | send message =>
    simp only [WebsocketClient.step, WebsocketClient.send]
    split <;> exact ⟨h, (List.append_nil _).symm⟩
  | callback reason =>
    cases reason with
    | clientEstablished =>
      simp only [WebsocketClient.step, WebsocketClient.handleCallback, recvCb_event,
        received_event]
      exact ⟨h, (List.append_nil _).symm⟩
    | clientReceive bytes isBinary =>
      simp only [WebsocketClient.step, WebsocketClient.handleCallback, h, if_true]
      exact ⟨trivial, rfl⟩
    | wsiDestroy =>
      simp only [WebsocketClient.step, WebsocketClient.handleCallback, recvCb_event,
        received_event]
      exact ⟨h, (List.append_nil _).symm⟩
    | clientConnectionError =>
      simp only [WebsocketClient.step, WebsocketClient.handleCallback]
      split <;> exact ⟨h, (List.append_nil _).symm⟩
    | clientClosed => exact ⟨h, (List.append_nil _).symm⟩
    | clientWriteable written =>
      simp only [WebsocketClient.step, WebsocketClient.handleCallback]
      split
      · split <;> exact ⟨h, (List.append_nil _).symm⟩
      · exact ⟨h, (List.append_nil _).symm⟩
    | other => exact ⟨h, (List.append_nil _).symm⟩

theorem received_run (h : client.recvCb = true) (acts : List Act) :
    (acts.foldl WebsocketClient.step client).received =
      client.received ++ acts.filterMap piece := by
  induction acts generalizing client with
  | nil => exact (List.append_nil _).symm
  | cons act acts ih =>
    obtain ⟨hcallback, hreceived⟩ := step_receives h act
    rw [List.foldl_cons, ih hcallback, hreceived, List.append_assoc]
    congr 1
    cases hpiece : piece act with
    | none => rw [List.filterMap_cons_none hpiece]; rfl
    | some data => rw [List.filterMap_cons_some hpiece]; rfl

end Receive

/-- Pieces are messages exactly if each message is a piece. -/
theorem pieces_eq_iff (messages : List Message) :
    messages.flatMap Message.pieces = messages.map Message.bytes ↔
      ∀ message ∈ messages, message.rest = [] := by
  have hlength : ∀ messages : List Message,
      messages.length ≤ (messages.flatMap Message.pieces).length := by
    intro messages
    induction messages with
    | nil => exact Nat.le_refl 0
    | cons message messages ih =>
      rw [List.flatMap_cons, List.length_append, List.length_cons, Message.pieces,
        List.length_cons]
      omega
  induction messages with
  | nil => simp
  | cons message messages ih =>
    rw [List.flatMap_cons, List.map_cons, List.forall_mem_cons]
    constructor
    · intro heq
      -- with a second piece there are more calls than messages
      have hcount := congrArg List.length heq
      have hlater := hlength messages
      rw [List.length_append, List.length_cons, List.length_map, Message.pieces,
        List.length_cons] at hcount
      have hrest : message.rest = [] := List.eq_nil_of_length_eq_zero (by omega)
      rw [Message.pieces, hrest, List.singleton_append, List.cons.injEq] at heq
      exact ⟨hrest, ih.1 heq.2⟩
    · rintro ⟨hrest, hothers⟩
      rw [ih.2 hothers, Message.bytes, Message.pieces, hrest]
      simp

/-- **Signal messages arrive whole** exactly if every one of them comes in one piece. -/
theorem receivedWhole_iff {client : WebsocketClient} {acts : List Act} {messages : List Message}
    (hinit : client.recvCb = true) (hbrings : Brings acts messages) :
    ReceivedWhole client (acts.foldl WebsocketClient.step client) messages ↔
      ∀ message ∈ messages, message.rest = [] := by
  rw [ReceivedWhole, received_run hinit, hbrings, List.append_cancel_left_eq,
    ← pieces_eq_iff messages]
  have hmap : (messages.map fun message => (⟨message.bytes, .binary⟩ : WebsocketData)) =
      (messages.map Message.bytes).map (⟨·, .binary⟩) := by
    rw [List.map_map]
    rfl
  rw [hmap]
  constructor
  · intro heq
    have hbytes := congrArg (List.map WebsocketData.bytes) heq
    simpa only [List.map_map, Function.comp_def, List.map_id'] using hbytes
  · intro heq
    rw [heq]

/-- A short message and then a ping of the server, with what happens between them. -/
def shortActs : List Act :=
  [.connect, .callback .clientEstablished, .callback (.clientReceive [10, 2, 8, 1] true),
   .send ⟨[7], .binary⟩, .callback (.clientWriteable 1),
   .callback (.clientReceive [146, 1, 0] true)]

theorem receivedWhole_shortActs :
    ReceivedWhole { recvCb := true, eventCb := true }
      (shortActs.foldl WebsocketClient.step { recvCb := true, eventCb := true })
      [⟨[10, 2, 8, 1], []⟩, ⟨[146, 1, 0], []⟩] :=
  (@receivedWhole_iff { recvCb := true, eventCb := true } shortActs
    [⟨[10, 2, 8, 1], []⟩, ⟨[146, 1, 0], []⟩] rfl (by decide)).2 (by decide)

/-- A message that the library splits once. -/
def splitActs : List Act :=
  [.connect, .callback .clientEstablished, .callback (.clientReceive [10, 2] true),
   .callback (.clientReceive [8, 1] true)]

theorem splitActs_not_whole :
    Brings splitActs [⟨[10, 2], [[8, 1]]⟩] ∧
      (splitActs.foldl WebsocketClient.step { recvCb := true, eventCb := true }).received =
        [⟨[10, 2], .binary⟩, ⟨[8, 1], .binary⟩] ∧
      ¬ ReceivedWhole { recvCb := true, eventCb := true }
        (splitActs.foldl WebsocketClient.step { recvCb := true, eventCb := true })
        [⟨[10, 2], [[8, 1]]⟩] := by
  decide

end LivekitClient.WebsocketMessages
