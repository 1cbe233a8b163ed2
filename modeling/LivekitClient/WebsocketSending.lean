/-
  LivekitClient/WebsocketSending.lean
  ===================================
  **The send queue of the signal connection** (`WebsocketClient::send`, `flush` and
  `handle_callback` in `src/core/detail/websocket_client.cpp`).

  Any thread may send: it looks at the flags of the connection, puts its message into the
  queue under the mutex, and asks the library for a writable callback.  The service thread
  takes one message in each such callback, writes it without the mutex, and asks again while
  there are more.

  The sections under the mutex, the calls of the library and the begin of a callback are the
  steps.  The service thread is in one callback at a time, the senders are a list of calls.
-/
import LivekitClient.Runs
import LivekitClient.Traces
import LivekitClient.WebsocketMessages

namespace LivekitClient.WebsocketSending

open Runs Traces WebsocketMessages

/-! ## 1. The client -/

/-- Where a call of `send` is: past its check, or past the push. -/
inductive Send where
  | checked (message : WebsocketData)
  | pushed
deriving DecidableEq

/-- Where the service thread is: in no callback, in the one for an established connection and
    about to ask, or in the writable one with the message that it has taken. -/
inductive Service where
  | idle
  | established
  | writing (message : Option WebsocketData)
deriving DecidableEq

inductive Entry where
  | established
  | closed
  | pushed (message : WebsocketData)
  | wrote (message : WebsocketData) (whole : Bool)
  | flushed (result : Bool)
deriving DecidableEq

/-- `requested` says that the library owes a writable callback. -/
structure Client where
  connEstablished : Bool := false
  wsi : Bool := false
  msgTxQueue : List WebsocketData := []
  writeInProgress : Bool := false
  service : Service := .idle
  requested : Bool := false
  sends : List Send := []
  trace : List Entry := []
deriving DecidableEq

/-- `taken` says whether the library takes the request for a callback, `written` is what
    `lws_write` returns. -/
inductive Act where
  | connect
  | established
  | ask (taken : Bool)
  | connectionError
  | closed
  | writeable
  | write (written : Int) (taken : Bool)
  | send (message : WebsocketData)
  | push (i : Nat)
  | request (i : Nat) (taken : Bool)
  | flush
deriving DecidableEq

namespace Client

def closed (client : Client) : Client :=
  if client.service = .idle then
    -- what the library owes ends with the connection
    { client with
      connEstablished := false
      wsi := false
      requested := false
      trace := client.trace ++ [.closed] }
  else client

/-- The first section of the writable callback. -/
def writeable (client : Client) : Client :=
  if client.service = .idle then
    match client.msgTxQueue with
    | message :: rest =>
      if client.connEstablished then
        { client with
          msgTxQueue := rest
          writeInProgress := true
          service := .writing (some message)
          requested := false }
      else { client with service := .writing none, requested := false }
    | [] => { client with service := .writing none, requested := false }
  else client

/-- `lws_write` and the second section. -/
def write (client : Client) (written : Int) (taken : Bool) : Client :=
  match client.service with
  | .writing message =>
    { client with
      writeInProgress := false
      service := .idle
      requested := client.requested ||
        (!client.msgTxQueue.isEmpty && client.connEstablished && taken)
      trace := client.trace ++
        message.toList.map fun message => .wrote message (written == message.bytes.length) }
  | _ => client

def send (client : Client) (message : WebsocketData) : Client :=
  if !client.connEstablished || !client.wsi then client
  else { client with sends := client.sends ++ [.checked message] }

def push (client : Client) (i : Nat) : Client :=
  match client.sends[i]? with
  | some (.checked message) =>
    { client with
      msgTxQueue := client.msgTxQueue ++ [message]
      sends := client.sends.set i .pushed
      trace := client.trace ++ [.pushed message] }
  | _ => client

/-- `lws_callback_on_writable` for the connection that there is now. -/
def request (client : Client) (i : Nat) (taken : Bool) : Client :=
  match client.sends[i]? with
  | some .pushed =>
    { client with
      sends := client.sends.eraseIdx i
      requested := client.requested || (client.wsi && taken) }
  | _ => client

/-- What `flush` waits for, and returns at the end. -/
def flushed (client : Client) : Bool := client.msgTxQueue.isEmpty && !client.writeInProgress

def step (client : Client) : Act → Client
  | .connect => { client with wsi := true }
  | .established =>
    if client.service = .idle ∧ client.wsi = true then
      { client with
        connEstablished := true
        service := .established
        trace := client.trace ++ [.established] }
    else client
  | .ask taken =>
    if client.service = .established then
      { client with service := .idle, requested := client.requested || taken }
    else client
  | .connectionError => if client.connEstablished then client else client.closed
  | .closed => client.closed
  | .writeable => client.writeable
  | .write written taken => client.write written taken
  | .send message => client.send message
  | .push i => client.push i
  | .request i taken => client.request i taken
  | .flush => { client with trace := client.trace ++ [.flushed client.flushed] }

end Client

/-! ## 2. What the queue promises -/

/-- The messages that have been put into the queue, in order. -/
def pushes (trace : List Entry) : List WebsocketData :=
  trace.filterMap fun
    | .pushed message => some message
    | _ => none

/-- The messages that `lws_write` has been given, in order. -/
def writes (trace : List Entry) : List WebsocketData :=
  trace.filterMap fun
    | .wrote message _ => some message
    | _ => none

/-- A message is written to an established connection, and `flush` returns true where
    everything that is in the queue has been written, and only there. -/
def Lawful (before : List Entry) : Entry → Prop
  | .wrote _ _ => Open (· = .established) (· = .closed) before
  | .flushed result => result = true ↔ pushes before = writes before
  | _ => True

/-- The message that is being written. -/
def Client.inProgress (client : Client) : List WebsocketData :=
  match client.service with
  | .writing message => message.toList
  | _ => []

/-- Every message of the queue is written once, in the order of the queue. -/
structure InOrder (client : Client) : Prop where
  fifo : pushes client.trace = writes client.trace ++ client.inProgress ++ client.msgTxQueue
  lawful : EachAt Lawful client.trace

/-- The service thread is about to look at the queue, or somebody is about to make it. -/
def Client.Awake (client : Client) : Prop :=
  client.requested = true ∨ client.service ≠ .idle ∨ ∃ call ∈ client.sends, call = .pushed

/-- The library takes every request for a callback. -/
def Act.Takes : Act → Prop
  | .ask taken | .write _ taken | .request _ taken => taken = true
  | _ => True

instance : DecidablePred Act.Takes
  | .ask _ | .write _ _ | .request _ _ => inferInstanceAs (Decidable (_ = true))
  | .connect | .established | .connectionError | .closed | .writeable | .send _ | .push _
  | .flush => inferInstanceAs (Decidable True)

/-- The library makes the callback if it owes one. -/
def Due (client : Client) (act : Act) : Prop := act = .writeable → client.requested = true

/-- The callbacks in which messages are written whole. -/
def drain (messages : List WebsocketData) : List Act :=
  messages.flatMap fun message => [Act.writeable, Act.write message.bytes.length true]

/-! ## 3. The order of the messages -/

@[simp]
theorem pushes_append (trace more : List Entry) :
    pushes (trace ++ more) = pushes trace ++ pushes more :=
  List.filterMap_append

@[simp]
theorem writes_append (trace more : List Entry) :
    writes (trace ++ more) = writes trace ++ writes more :=
  List.filterMap_append

/-- `lawful` with what holds of the client between its steps. -/
structure Inv (client : Client) : Prop extends InOrder client where
  flag : client.writeInProgress = true ↔ client.inProgress ≠ []
  established : client.connEstablished = true ↔
    Open (· = Entry.established) (· = Entry.closed) client.trace
  writing : client.inProgress ≠ [] → client.connEstablished = true

variable {client : Client}

theorem Inv.flushed_iff (h : Inv client) :
    client.flushed = true ↔ pushes client.trace = writes client.trace := by
  have hflag : client.writeInProgress = false ↔ client.inProgress = [] := by
    rw [← Bool.not_eq_true, h.flag, not_not]
  rw [Client.flushed, Bool.and_eq_true, List.isEmpty_iff, Bool.not_eq_true', hflag, h.fifo]
  constructor
  · rintro ⟨hqueue, hnone⟩
    rw [hqueue, hnone, List.append_nil, List.append_nil]
  · intro heq
    rw [List.append_assoc] at heq
    have hnone := List.append_right_eq_self.1 heq
    exact ⟨(List.append_eq_nil_iff.1 hnone).2, (List.append_eq_nil_iff.1 hnone).1⟩

/-- Only the requests for a callback and the calls of `send` may differ. -/
theorem Inv.frame (h : Inv client) {after : Client} (htrace : after.trace = client.trace)
    (hqueue : after.msgTxQueue = client.msgTxQueue)
    (hprogress : after.inProgress = client.inProgress)
    (hflag : after.writeInProgress = client.writeInProgress)
    (hconn : after.connEstablished = client.connEstablished) : Inv after where
  fifo := by rw [htrace, hprogress, hqueue, h.fifo]
  lawful := by
    rw [htrace]
    exact h.lawful
  flag := by rw [hflag, hprogress, h.flag]
  established := by rw [hconn, htrace, h.established]
  writing := by
    rw [hprogress, hconn]
    exact h.writing

theorem Inv.open (h : Inv client) (hidle : client.service = .idle) :
    Inv { client with
      connEstablished := true
      service := .established
      trace := client.trace ++ [.established] } where
  fifo := by
    have hfifo := h.fifo
    rw [Client.inProgress, hidle] at hfifo
    simpa [pushes, writes, Client.inProgress] using hfifo
  lawful := eachAt_append_singleton.2 ⟨h.lawful, trivial⟩
  flag := by
    have hflag := h.flag
    rw [Client.inProgress, hidle] at hflag
    simpa [Client.inProgress] using hflag
  established := by simp
  writing := fun _ => rfl

theorem Inv.closed (h : Inv client) : Inv client.closed := by
  rw [Client.closed]
  split
  · rename_i hidle
    have hnone : client.inProgress = [] := by rw [Client.inProgress, hidle]
    refine ⟨⟨?_, eachAt_append_singleton.2 ⟨h.lawful, trivial⟩⟩, h.flag, ?_, ?_⟩
    · have hfifo := h.fifo
      simpa [pushes, writes, Client.inProgress] using hfifo
    · simp
    · intro hwriting
      exact absurd hnone hwriting
  · exact h

theorem Inv.writeable (h : Inv client) : Inv client.writeable := by
  rw [Client.writeable]
  split
  · rename_i hidle
    have hfifo := h.fifo
    have hflag := h.flag
    simp only [Client.inProgress, hidle, List.append_nil] at hfifo
    simp only [Client.inProgress, hidle, ne_eq, not_true_eq_false, iff_false] at hflag
    -- without a message the callback does nothing
    have hnothing : Inv { client with service := .writing none, requested := false } := by
      refine ⟨⟨?_, h.lawful⟩, ?_, h.established, ?_⟩
      · simpa [Client.inProgress] using hfifo
      · simpa [Client.inProgress] using hflag
      · simp [Client.inProgress]
    split
    · rename_i message rest hqueue
      split
      · rename_i hconn
        refine ⟨⟨?_, h.lawful⟩, ?_, h.established, fun _ => hconn⟩
        · simp [Client.inProgress, hfifo, hqueue]
        · simp [Client.inProgress]
      · exact hnothing
    · exact hnothing
  · exact h

theorem Inv.write (h : Inv client) (written : Int) (taken : Bool) :
    Inv (client.write written taken) := by
  rw [Client.write]
  split
  · rename_i message hservice
    have hprogress : client.inProgress = message.toList := by rw [Client.inProgress, hservice]
    have hfifo := h.fifo
    rw [hprogress] at hfifo
    cases message with
    | none =>
      refine ⟨⟨?_, ?_⟩, ?_, ?_, ?_⟩
      · simpa [Client.inProgress] using hfifo
      · simpa using h.lawful
      · simp [Client.inProgress]
      · simpa using h.established
      · simp [Client.inProgress]
    | some message =>
      have hconn : client.connEstablished = true := h.writing (by simp [hprogress])
      refine ⟨⟨?_, ?_⟩, ?_, ?_, ?_⟩
      · simpa [pushes, writes, Client.inProgress] using hfifo
      · exact eachAt_append_singleton.2 ⟨h.lawful, h.established.1 hconn⟩
      · simp [Client.inProgress]
      · simpa using h.established
      · simp [Client.inProgress]
  · exact h

theorem Inv.push (h : Inv client) (i : Nat) : Inv (client.push i) := by
  rw [Client.push]
  split
  · rename_i message _
    refine ⟨⟨?_, eachAt_append_singleton.2 ⟨h.lawful, trivial⟩⟩, h.flag, ?_, h.writing⟩
    · have hfifo := h.fifo
      simp only [pushes_append, writes_append, hfifo]
      simp [pushes, writes, Client.inProgress]
    · simpa using h.established
  · exact h

theorem Inv.flush (h : Inv client) :
    Inv { client with trace := client.trace ++ [.flushed client.flushed] } where
  fifo := by
    have hfifo := h.fifo
    simpa [pushes, writes, Client.inProgress] using hfifo
  lawful := eachAt_append_singleton.2 ⟨h.lawful, h.flushed_iff⟩
  flag := h.flag
  established := by simpa using h.established
  writing := h.writing

theorem Inv.step (h : Inv client) (act : Act) : Inv (client.step act) := by
  cases act with
  | connect => exact h.frame rfl rfl rfl rfl rfl
  | established =>
    rw [Client.step]
    split
    · rename_i hidle
      exact h.open hidle.1
    · exact h
  | ask taken =>
    rw [Client.step]
    split
    · rename_i hservice
      refine h.frame rfl rfl ?_ rfl rfl
      rw [Client.inProgress, Client.inProgress, hservice]
    · exact h
  | connectionError =>
    rw [Client.step]
    split
    · exact h
    · exact h.closed
  | closed => exact h.closed
  | writeable => exact h.writeable
  | write written taken => exact h.write written taken
  | send message =>
    rw [Client.step, Client.send]
    split
    · exact h
    · exact h.frame rfl rfl rfl rfl rfl
  | push i => exact h.push i
  | request i taken =>
    rw [Client.step, Client.request]
    split
    · exact h.frame rfl rfl rfl rfl rfl
    · exact h
  | flush => exact h.flush

theorem inv_new : Inv {} where
  fifo := rfl
  lawful := eachAt_nil
  flag := by simp [Client.inProgress]
  established := by simp
  writing := by simp [Client.inProgress]

theorem inv_run (acts : List Act) : Inv (acts.foldl Client.step {}) :=
  (exec_foldl Client.step {} acts).invariant (fun _ act _ h hstep => hstep ▸ h.step act) inv_new

/-- **Messages in order**: over every run of senders, callbacks and closed connections. -/
theorem sends_in_order (acts : List Act) : InOrder (acts.foldl Client.step {}) :=
  (inv_run acts).toInOrder

/-! ## 4. No message is left behind

Where every request is taken, a message that is in the queue of an established connection is
one that somebody will look at. -/

/-- A connection that is established is there, and its queue does not wait for nobody. -/
structure Woken (client : Client) : Prop where
  wsi : client.connEstablished = true → client.wsi = true
  awake : client.connEstablished = true → client.msgTxQueue ≠ [] → client.Awake

theorem Woken.closed (h : Woken client) : Woken client.closed := by
  rw [Client.closed]
  split
  · exact ⟨Bool.noConfusion, Bool.noConfusion⟩
  · exact h

theorem Woken.writeable (h : Woken client) : Woken client.writeable := by
  rw [Client.writeable]
  have hbusy : ∀ message, Service.writing message ≠ .idle := by simp
  split
  · split
    · split
      · exact ⟨h.wsi, fun _ _ => Or.inr (Or.inl (hbusy _))⟩
      · exact ⟨h.wsi, fun _ _ => Or.inr (Or.inl (hbusy _))⟩
    · exact ⟨h.wsi, fun _ _ => Or.inr (Or.inl (hbusy _))⟩
  · exact h

theorem Woken.write (h : Woken client) (written : Int) : Woken (client.write written true) := by
  rw [Client.write]
  split
  · refine ⟨h.wsi, fun hconn hqueue => Or.inl ?_⟩
    -- the second section asks again
    simp only [List.isEmpty_eq_false_iff.2 hqueue, Bool.not_false, Bool.and_true, Bool.true_and,
      Bool.or_eq_true]
    exact Or.inr hconn
  · exact h

theorem Woken.send (h : Woken client) (message : WebsocketData) :
    Woken (client.send message) := by
  rw [Client.send]
  split
  · exact h
  · refine ⟨h.wsi, fun hconn hqueue => ?_⟩
    rcases h.awake hconn hqueue with hrequested | hbusy | ⟨call, hmem, hpushed⟩
    · exact Or.inl hrequested
    · exact Or.inr (Or.inl hbusy)
    · exact Or.inr (Or.inr ⟨call, List.mem_append_left _ hmem, hpushed⟩)

theorem Woken.push (h : Woken client) (i : Nat) : Woken (client.push i) := by
  rw [Client.push]
  split
  · rename_i message hcall
    refine ⟨h.wsi, fun _ _ => Or.inr (Or.inr ⟨.pushed, ?_, rfl⟩)⟩
    obtain ⟨hlt, -⟩ := List.getElem?_eq_some_iff.1 hcall
    exact List.mem_set hlt .pushed
  · exact h

theorem Woken.request (h : Woken client) (i : Nat) : Woken (client.request i true) := by
  rw [Client.request]
  split
  · refine ⟨h.wsi, fun hconn _ => Or.inl ?_⟩
    simp [h.wsi hconn]
  · exact h

theorem Woken.step (h : Woken client) {act : Act} (htakes : act.Takes) :
    Woken (client.step act) := by
  cases act with
  | connect => exact ⟨fun _ => rfl, h.awake⟩
  | established =>
    rw [Client.step]
    split
    · rename_i hready
      exact ⟨fun _ => hready.2, fun _ _ => Or.inr (Or.inl Service.noConfusion)⟩
    · exact h
  | ask taken =>
    obtain rfl : taken = true := htakes
    rw [Client.step]
    split
    · exact ⟨h.wsi, fun _ _ => Or.inl (Bool.or_true _)⟩
    · exact h
  | connectionError =>
    rw [Client.step]
    split
    · exact h
    · exact h.closed
  | closed => exact h.closed
  | writeable => exact h.writeable
  | write written taken =>
    obtain rfl : taken = true := htakes
    exact h.write written
  | send message => exact h.send message
  | push i => exact h.push i
  | request i taken =>
    obtain rfl : taken = true := htakes
    exact h.request i
  | flush => exact ⟨h.wsi, h.awake⟩

theorem woken_run {acts : List Act} (htakes : ∀ act ∈ acts, act.Takes) :
    Woken (acts.foldl Client.step {}) := by
  induction acts using List.reverseRecOn with
  | nil => exact ⟨Bool.noConfusion, Bool.noConfusion⟩
  | append_singleton acts act ih =>
    rw [List.foldl_append]
    have hbefore : Woken (acts.foldl Client.step {}) :=
      ih fun earlier hmem => htakes earlier (List.mem_append_left _ hmem)
    exact hbefore.step (htakes act (by simp))

/-- Between two callbacks of an established connection. -/
structure Ready (client : Client) : Prop where
  idle : client.service = .idle
  connEstablished : client.connEstablished = true
  requested : client.msgTxQueue ≠ [] → client.requested = true

/-- One callback writes the first message whole and, if there are more, asks for the next. -/
theorem step_callback (hready : Ready client) {message : WebsocketData}
    {rest : List WebsocketData} (hqueue : client.msgTxQueue = message :: rest) :
    (client.step .writeable).step (.write message.bytes.length true) =
      { client with
        msgTxQueue := rest
        writeInProgress := false
        requested := !rest.isEmpty
        trace := client.trace ++ [.wrote message true] } := by
  rw [Client.step, Client.writeable, if_pos hready.idle, hqueue]
  simp [hready.connEstablished, hready.idle, Client.step, Client.write]

/-- The callbacks that are due write the queue, and then `flush` returns. -/
theorem drain_ready (hready : Ready client) (hflag : client.writeInProgress = false)
    {messages : List WebsocketData} (hqueue : client.msgTxQueue = messages) :
    Along Due Client.step client (drain messages) ∧
      ((drain messages).foldl Client.step client).flushed = true ∧
      ((drain messages).foldl Client.step client).trace =
        client.trace ++ messages.map fun message => .wrote message true := by
  induction messages generalizing client with
  | nil =>
    refine ⟨trivial, ?_, by simp [drain]⟩
    simp [drain, Client.flushed, hqueue, hflag]
  | cons message rest ih =>
    have hstep := step_callback hready hqueue
    have hdue : client.requested = true := hready.requested (by simp [hqueue])
    have hdrain : drain (message :: rest) =
        Act.writeable :: Act.write message.bytes.length true :: drain rest := rfl
    have hready' : Ready ((client.step .writeable).step (.write message.bytes.length true)) := by
      rw [hstep]
      exact ⟨hready.idle, hready.connEstablished, by simp⟩
    obtain ⟨halong, hflushed, htrace⟩ := ih hready' (by rw [hstep]) (by rw [hstep])
    rw [hdrain]
    refine ⟨⟨fun _ => hdue, Act.noConfusion, halong⟩, hflushed, ?_⟩
    rw [List.foldl_cons, List.foldl_cons, htrace, hstep]
    simp

/-- **No message is left behind**: whenever the senders are done, the callbacks that the
    library owes are as many as it takes to write the queue, in order, and `flush` returns. -/
theorem queue_drains {acts : List Act} (htakes : ∀ act ∈ acts, act.Takes)
    (hconn : (acts.foldl Client.step {}).connEstablished = true)
    (hidle : (acts.foldl Client.step {}).service = .idle)
    (hsends : Send.pushed ∉ (acts.foldl Client.step {}).sends) :
    let client := acts.foldl Client.step {}
    let after := (drain client.msgTxQueue).foldl Client.step client
    Along Due Client.step client (drain client.msgTxQueue) ∧ after.flushed = true ∧
      after.trace = client.trace ++ client.msgTxQueue.map fun message => .wrote message true := by
  have hflag : (acts.foldl Client.step {}).writeInProgress = false := by
    rw [← Bool.not_eq_true, (inv_run acts).flag, Client.inProgress, hidle]
    simp
  refine drain_ready ⟨hidle, hconn, ?_⟩ hflag rfl
  intro hqueue
  rcases (woken_run htakes).awake hconn hqueue with hrequested | hbusy | ⟨call, hmem, rfl⟩
  · exact hrequested
  · exact absurd hidle hbusy
  · exact absurd hmem hsends

/-- Two threads send while the service thread writes. -/
def twoSendersActs (first second : WebsocketData) : List Act :=
  [.connect, .established, .ask true, .send first, .send second, .push 1, .request 1 true,
    .writeable, .push 0, .write second.bytes.length true, .request 0 true]

theorem queue_drains_twoSenders :
    let first : WebsocketData := { bytes := [1, 2], type := .binary }
    let second : WebsocketData := { bytes := [3], type := .text }
    let client := (twoSendersActs first second).foldl Client.step {}
    client.msgTxQueue = [first] ∧
      ((drain client.msgTxQueue).foldl Client.step client).flushed = true := by
  have htakes : ∀ act ∈ twoSendersActs { bytes := [1, 2], type := .binary }
      { bytes := [3], type := .text }, act.Takes := by decide
  exact ⟨by decide, (queue_drains htakes (by decide) (by decide) (by decide)).2.1⟩

end LivekitClient.WebsocketSending
