/-
  LivekitClient/StreamHandlers.lean
  =================================
  **What a topic handler sees of a stream** (`Room::DataPacketEvent` and
  `Room::FailIncomingDataStreams` in `src/core/room.cpp`).

  A handler counts on a protocol: a stream is opened, brings its chunks in order and
  ends once, closed or failed.  A bad chunk, the trailer and the loss of the
  connection each deliver the end.  A new header under the id of an open stream does
  not: the old stream is replaced, or spoken over, without a word to its handler.

  The protocol is stated with a monitor that reads the events of one stream and must
  always stand where the store stands.
-/
import LivekitClient.StreamStore
import LivekitClient.Runs

namespace LivekitClient.StreamHandlers

open Std
open Runs
open LivekitClient.DataPacket
open LivekitClient.DataStreamCompression
open LivekitClient.IncomingDataStreams
open LivekitClient.StreamStore
open LivekitClient.StreamReassembly (noZlib)

variable {σ : Type}

/-! ## 1. The monitor -/

/-- Where the handler's view of a stream stands: not open, or open with the index of
    the chunk to come. -/
inductive Phase where
  | closed
  | opened (next : UInt64)
deriving DecidableEq

/-- An event as the monitor reads it. -/
def Phase.read : Phase → DataStreamEventType × UInt64 → Option Phase
  | .closed, (.opened, _) => some (.opened 0)
  | .opened next, (.chunk, index) => if index = next then some (.opened (next + 1)) else none
  | .opened _, (.closed, _) => some .closed
  | .opened _, (.failed, _) => some .closed
  | _, _ => none

def Phase.readAll : Phase → List (DataStreamEventType × UInt64) → Option Phase
  | phase, [] => some phase
  | phase, event :: rest => (phase.read event).bind fun next => next.readAll rest

theorem Phase.readAll_append (phase : Phase) (events more : List (DataStreamEventType × UInt64)) :
    phase.readAll (events ++ more) =
      (phase.readAll events).bind fun next => next.readAll more := by
  induction events generalizing phase with
  | nil => rfl
  | cons event rest ih =>
    rw [List.cons_append, Phase.readAll, Phase.readAll]
    cases phase.read event with
    | none => rfl
    | some next => exact ih next

/-- What a delivery tells a handler about stream `id`. -/
def handlerEvent (id : String) : Delivery → Option (DataStreamEventType × UInt64)
  | .textHandler _ event =>
    if event.info.streamId = id then some (event.type, event.chunkIndex) else none
  | .byteHandler _ event =>
    if event.info.streamId = id then some (event.type, event.chunkIndex) else none
  | _ => none

def handlerEvents (id : String) (deliveries : List Delivery) :
    List (DataStreamEventType × UInt64) :=
  deliveries.filterMap (handlerEvent id)

theorem handlerEvents_append (id : String) (deliveries more : List Delivery) :
    handlerEvents id (deliveries ++ more) = handlerEvents id deliveries ++ handlerEvents id more :=
  List.filterMap_append

/-- Deliveries about other streams do not count. -/
theorem handlerEvents_eq_nil {id : String} {deliveries : List Delivery}
    (hforeign : ∀ delivery ∈ deliveries, delivery.streamId ≠ some id) :
    handlerEvents id deliveries = [] := by
  apply List.filterMap_eq_nil_iff.mpr
  intro delivery hmem
  have hne := hforeign delivery hmem
  cases delivery with
  | textHandler handler event =>
    exact if_neg fun h => hne (congrArg some h)
  | byteHandler handler event =>
    exact if_neg fun h => hne (congrArg some h)
  | _ => rfl

/-! ## 2. Runs -/

/-- What a step delivers. -/
def opDeliveries (zlib : Zlib σ) (room : Room σ) : Op → List Delivery
  | .packet arrival => (room.dataPacketEvent zlib arrival.now arrival.packet).2
  | .failIncomingDataStreams reason => (room.failIncomingDataStreams reason).2
  | _ => []

def runDeliveries (zlib : Zlib σ) : Room σ → List Op → List Delivery
  | _, [] => []
  | room, op :: rest => opDeliveries zlib room op ++ runDeliveries zlib (room.apply zlib op) rest

def streamPhase {K L : Type} (incoming : Incoming σ K L) : Phase :=
  if incoming.handler.isSome then .opened incoming.nextChunk else .closed

/-- Where the store has the stream `id`: with a handler, or not at all for one. -/
def storePhase (room : Room σ) (id : String) : Phase :=
  match room.incomingTexts[id]? with
  | some text => streamPhase text
  | none =>
    match room.incomingFiles[id]? with
    | some bytes => streamPhase bytes
    | none => .closed

/-- The header opens a stream, or hands the content it brings to a handler. -/
def HeaderOutcome.takes (handler : Option Nat) : HeaderOutcome σ → Bool
  | .rejected => false
  | .inline _ => handler.isSome
  | .opened _ => true

def headerTakes (zlib : Zlib σ) (room : Room σ) (header : StreamHeader) : Bool :=
  match header.contentHeader with
  | .text _ =>
    let handler := room.textStreamHandlers[header.topic]?
    HeaderOutcome.takes handler (headerOutcome zlib header handler.isSome)
  | .byte _ =>
    let handler := room.byteStreamHandlers[header.topic]?
    HeaderOutcome.takes handler (headerOutcome zlib header handler.isSome)
  | .notSet => false

/-- No header takes the id of a stream that a handler has open. -/
def Orderly (zlib : Zlib σ) (room : Room σ) : Op → Prop
  | .packet arrival =>
    match arrival.packet.value with
    | .streamHeader header =>
      headerTakes zlib room header = true → storePhase room header.streamId = .closed
    | _ => True
  | _ => True

instance (zlib : Zlib σ) (room : Room σ) : DecidablePred (Orderly zlib room)
  | .packet arrival => by
    unfold Orderly
    dsimp only
    split <;> infer_instance
  | .registerTextStreamHandler .. => .isTrue trivial
  | .unregisterTextStreamHandler .. => .isTrue trivial
  | .registerByteStreamHandler .. => .isTrue trivial
  | .unregisterByteStreamHandler .. => .isTrue trivial
  | .failIncomingDataStreams .. => .isTrue trivial

/-! ## 3. One step -/

/-- What the steps rely on: streams are stored under their own ids, in one map. -/
structure Stored (room : Room σ) : Prop where
  keyed : Keyed room
  apart : ∀ id : String, room.incomingTexts[id]? = none ∨ room.incomingFiles[id]? = none

theorem reachable_apply {zlib : Zlib σ} {room : Room σ} (hroom : Reachable zlib room) (op : Op) :
    Reachable zlib (room.apply zlib op) := by
  obtain ⟨hasListener, ops, rfl⟩ := hroom
  exact ⟨hasListener, ops ++ [op], by simp⟩

theorem stored_of_reachable {zlib : Zlib σ} {room : Room σ} (hroom : Reachable zlib room) :
    Stored room := by
  refine ⟨hroom.keyed, ?_⟩
  obtain ⟨hasListener, ops, rfl⟩ := hroom
  have hkept : Kept ((Tracked.new hasListener).run zlib ops) := (kept_new hasListener).run ops
  have hroom := Tracked.room_run zlib (Tracked.new hasListener) ops
  intro id
  have hapart := hkept.apart id
  rwa [hroom] at hapart

/-- The monitor goes where the store goes, in a step from `room` to `room'`. -/
def Follows (id : String) (room room' : Room σ) (deliveries : List Delivery) : Prop :=
  (storePhase room id).readAll (handlerEvents id deliveries) = some (storePhase room' id)

theorem follows_of_idle {id : String} {room room' : Room σ} {deliveries : List Delivery}
    (hphase : storePhase room' id = storePhase room id)
    (hevents : handlerEvents id deliveries = []) : Follows id room room' deliveries := by
  unfold Follows
  rw [hevents, hphase]
  rfl

theorem storePhase_of_agreeAt {id : String} {room room' : Room σ} (h : AgreeAt id room room') :
    storePhase room' id = storePhase room id := by
  unfold storePhase
  rw [h.texts, h.files]

/-- Listeners are not handlers. -/
theorem handlerEvents_toListener (id : String) (room : Room σ) {deliveries : List Delivery}
    (hnone : handlerEvents id deliveries = []) :
    handlerEvents id (room.toListener deliveries) = [] := by
  unfold Room.toListener
  split
  · exact hnone
  · rfl

theorem handlerEvents_byteDeliveries (id : String) (event : FileReceivedEvent) :
    handlerEvents id (byteDeliveries event) = [] := by
  unfold byteDeliveries
  split <;> rfl

theorem handlerEvents_text {id : String} (handler : Option Nat) {event : StreamEvent TextFields}
    (hid : event.info.streamId = id) :
    handlerEvents id (handler.toList.map (.textHandler · event)) =
      handler.toList.map fun _ => (event.type, event.chunkIndex) := by
  cases handler <;> simp [handlerEvents, handlerEvent, hid]

theorem handlerEvents_byte {id : String} (handler : Option Nat) {event : StreamEvent ByteFields}
    (hid : event.info.streamId = id) :
    handlerEvents id (handler.toList.map (.byteHandler · event)) =
      handler.toList.map fun _ => (event.type, event.chunkIndex) := by
  cases handler <;> simp [handlerEvents, handlerEvent, hid]

/-- A header of a text stream. -/
theorem follows_textHeader {zlib : Zlib σ} {room : Room σ} {packet : Packet}
    {header : StreamHeader} {text : TextHeader} (hcontent : header.contentHeader = .text text)
    (horderly : headerTakes zlib room header = true → storePhase room header.streamId = .closed) :
    Follows header.streamId room (room.textHeaderEvent zlib packet header text).1
      (room.textHeaderEvent zlib packet header text).2 := by
  unfold headerTakes at horderly
  rw [hcontent] at horderly
  dsimp only at horderly
  unfold Room.textHeaderEvent
  dsimp only
  generalize headerOutcome zlib header (room.textStreamHandlers[header.topic]?).isSome = outcome
    at horderly ⊢
  cases outcome with
  | rejected => exact follows_of_idle rfl rfl
  | inline content =>
    cases hhandler : room.textStreamHandlers[header.topic]? with
    | none => exact follows_of_idle rfl (handlerEvents_toListener _ room rfl)
    | some handler =>
      have hclosed := horderly (by simp [HeaderOutcome.takes, hhandler])
      unfold Follows
      rw [hclosed]
      simp [inlineEvents, handlerEvents, handlerEvent, newText, newIncoming, Phase.readAll,
        Phase.read]
  | opened inflater =>
    have hclosed := horderly rfl
    unfold Follows
    rw [hclosed]
    cases hhandler : room.textStreamHandlers[header.topic]? with
    | none => simp [handlerEvents, Phase.readAll, storePhase, streamPhase, newText, newIncoming]
    | some handler =>
      simp [handlerEvents, handlerEvent, Phase.readAll, Phase.read, storePhase, streamPhase,
        newText, newIncoming]

/-- A header of a byte stream. -/
theorem follows_byteHeader {zlib : Zlib σ} {room : Room σ} {packet : Packet}
    {header : StreamHeader} {byte : ByteHeader} (hcontent : header.contentHeader = .byte byte)
    (horderly : headerTakes zlib room header = true → storePhase room header.streamId = .closed) :
    Follows header.streamId room (room.byteHeaderEvent zlib packet header byte).1
      (room.byteHeaderEvent zlib packet header byte).2 := by
  unfold headerTakes at horderly
  rw [hcontent] at horderly
  dsimp only at horderly
  unfold Room.byteHeaderEvent
  dsimp only
  generalize headerOutcome zlib header (room.byteStreamHandlers[header.topic]?).isSome = outcome
    at horderly ⊢
  cases outcome with
  | rejected => exact follows_of_idle rfl rfl
  | inline content =>
    cases hhandler : room.byteStreamHandlers[header.topic]? with
    | none =>
      exact follows_of_idle rfl
        (handlerEvents_toListener _ room (handlerEvents_byteDeliveries _ _))
    | some handler =>
      have hclosed := horderly (by simp [HeaderOutcome.takes, hhandler])
      unfold Follows
      rw [hclosed]
      simp [inlineEvents, handlerEvents, handlerEvent, newFile, newIncoming, Phase.readAll,
        Phase.read]
  | opened inflater =>
    have hclosed := horderly rfl
    unfold Follows
    rw [hclosed]
    cases hhandler : room.byteStreamHandlers[header.topic]? with
    | none => simp [handlerEvents, Phase.readAll, storePhase, streamPhase, newFile, newIncoming]
    | some handler =>
      simp [handlerEvents, handlerEvent, Phase.readAll, Phase.read, storePhase, streamPhase,
        newFile, newIncoming]

/-- A chunk is accepted under the next index. -/
theorem chunk_index {K L : Type} {zlib : Zlib σ} {incoming after : Incoming σ K L}
    {chunk : StreamChunk} {content : Bytes}
    (hchunk : incoming.chunk zlib chunk = some (after, content)) :
    chunk.chunkIndex = incoming.nextChunk ∧ after.nextChunk = incoming.nextChunk + 1 := by
  unfold Incoming.chunk at hchunk
  split at hchunk
  · simp at hchunk
  · split at hchunk
    · simp at hchunk
    · rename_i hok
      cases hchunk
      exact ⟨not_not.mp (not_or.mp hok).1, rfl⟩

/-- What a chunk does to a stream, and what it tells the handler. -/
theorem readAll_chunk {K L : Type} {zlib : Zlib σ} (incoming : Incoming σ K L)
    (chunk : StreamChunk) :
    (streamPhase incoming).readAll
        (incoming.handler.toList.map fun _ =>
          ((incoming.chunkEvent chunk (incoming.chunk zlib chunk)).type,
           (incoming.chunkEvent chunk (incoming.chunk zlib chunk)).chunkIndex)) =
      some (match incoming.chunk zlib chunk with
        | none => .closed
        | some (after, _) => streamPhase after) := by
  cases hchunk : incoming.chunk zlib chunk with
  | none =>
    cases hhandler : incoming.handler with
    | none => simp [streamPhase, hhandler, Phase.readAll]
    | some handler => simp [streamPhase, hhandler, Phase.readAll, Phase.read, Incoming.chunkEvent]
  | some result =>
    obtain ⟨after, content⟩ := result
    obtain ⟨hindex, hnext⟩ := chunk_index hchunk
    have hsame := (Incoming.chunk_frame hchunk).2.1
    cases hhandler : incoming.handler with
    | none => simp [streamPhase, hhandler, hsame, Phase.readAll]
    | some handler =>
      simp [streamPhase, hhandler, hsame, Phase.readAll, Phase.read, Incoming.chunkEvent, hindex,
        hnext]

/-- A chunk of a stream. -/
theorem follows_chunk {zlib : Zlib σ} {room : Room σ} (hroom : Stored room)
    (chunk : StreamChunk) :
    Follows chunk.streamId room (room.chunkEvent zlib chunk).1 (room.chunkEvent zlib chunk).2 := by
  unfold Follows Room.chunkEvent storePhase
  cases htext : room.incomingTexts[chunk.streamId]? with
  | some text =>
    have hfile : room.incomingFiles[chunk.streamId]? = none :=
      (hroom.apart chunk.streamId).resolve_left (by simp [htext])
    have hid : (text.chunkEvent chunk (text.chunk zlib chunk)).info.streamId = chunk.streamId := by
      rw [Incoming.info_chunkEvent]
      exact (hroom.keyed.texts _ _ htext).2
    dsimp only
    rw [handlerEvents_text _ hid, readAll_chunk, getElem?_store_self, hfile]
    cases text.chunk zlib chunk <;> rfl
  | none =>
    cases hbytes : room.incomingFiles[chunk.streamId]? with
    | none =>
      dsimp only
      rw [htext, hbytes]
      rfl
    | some bytes =>
      have hid : (bytes.chunkEvent chunk (bytes.chunk zlib chunk)).info.streamId =
          chunk.streamId := by
        rw [Incoming.info_chunkEvent]
        exact (hroom.keyed.files _ _ hbytes).2
      dsimp only
      rw [handlerEvents_byte _ hid, readAll_chunk, htext, getElem?_store_self]
      cases bytes.chunk zlib chunk <;> rfl

/-- Whatever ends a stream tells its handler so. -/
theorem readAll_end {K L : Type} (incoming : Incoming σ K L) {type : DataStreamEventType}
    (hend : type = .closed ∨ type = .failed) (index : UInt64) :
    (streamPhase incoming).readAll (incoming.handler.toList.map fun _ => (type, index)) =
      some .closed := by
  unfold streamPhase
  cases incoming.handler with
  | none => rfl
  | some handler => rcases hend with rfl | rfl <;> rfl

theorem Incoming.trailerEvent_type {K L : Type} (incoming : Incoming σ K L)
    (trailer : StreamTrailer) :
    (incoming.trailerEvent trailer).type = .closed ∨
      (incoming.trailerEvent trailer).type = .failed := by
  unfold Incoming.trailerEvent
  dsimp only
  split
  · exact .inl rfl
  · exact .inr rfl

/-- The listener's part of a trailer is nothing to a handler. -/
theorem handlerEvents_received (id : String) (room : Room σ)
    (text : Option TextReceivedEvent) (bytes : Option FileReceivedEvent) :
    handlerEvents id (room.toListener
      (text.toList.map .textReceived ++ bytes.toList.flatMap byteDeliveries)) = [] := by
  apply handlerEvents_toListener
  rw [handlerEvents_append]
  have htext : handlerEvents id (text.toList.map .textReceived) = [] := by
    cases text <;> rfl
  have hbytes : handlerEvents id (bytes.toList.flatMap byteDeliveries) = [] := by
    cases bytes with
    | none => rfl
    | some event => simp [handlerEvents_byteDeliveries]
  rw [htext, hbytes]
  rfl

/-- The trailer of a stream. -/
theorem follows_trailer {room : Room σ} (hroom : Stored room) (trailer : StreamTrailer) :
    Follows trailer.streamId room (room.trailerEvent trailer).1
      (room.trailerEvent trailer).2 := by
  have hafter : storePhase (room.trailerEvent trailer).1 trailer.streamId = .closed := by
    simp [storePhase, Room.trailerEvent]
  unfold Follows
  rw [hafter]
  unfold Room.trailerEvent storePhase
  dsimp only
  rw [handlerEvents_append, handlerEvents_append, handlerEvents_received, List.append_nil]
  cases htext : room.incomingTexts[trailer.streamId]? with
  | some text =>
    have hfile : room.incomingFiles[trailer.streamId]? = none :=
      (hroom.apart trailer.streamId).resolve_left (by simp [htext])
    have hid : (text.trailerEvent trailer).info.streamId = trailer.streamId :=
      (hroom.keyed.texts _ _ htext).2
    rw [hfile]
    simp only [Option.toList_some, List.flatMap_cons, List.flatMap_nil, List.append_nil,
      Option.toList_none, handlerEvents_text _ hid]
    rw [show handlerEvents trailer.streamId [] = [] from rfl, List.append_nil]
    exact readAll_end text (Incoming.trailerEvent_type text trailer) _
  | none =>
    cases hbytes : room.incomingFiles[trailer.streamId]? with
    | none => rfl
    | some bytes =>
      have hid : (bytes.trailerEvent trailer).info.streamId = trailer.streamId :=
        (hroom.keyed.files _ _ hbytes).2
      simp only [Option.toList_some, List.flatMap_cons, List.flatMap_nil, List.append_nil,
        Option.toList_none, handlerEvents_byte _ hid]
      exact readAll_end bytes (Incoming.trailerEvent_type bytes trailer) _

/-- Of entries with different keys, only the one with this key says anything. -/
theorem flatMap_distinct {α β : Type} {entries : List (String × α)}
    (hdistinct : entries.Pairwise fun a b => a.1 ≠ b.1) {id : String}
    {event : String × α → List β} (hforeign : ∀ entry ∈ entries, entry.1 ≠ id → event entry = []) :
    (∀ a, (id, a) ∈ entries → entries.flatMap event = event (id, a)) ∧
      ((∀ entry ∈ entries, entry.1 ≠ id) → entries.flatMap event = []) := by
  refine ⟨?_, fun hnone => List.flatMap_eq_nil_iff.mpr fun entry hmem =>
    hforeign entry hmem (hnone entry hmem)⟩
  induction entries with
  | nil =>
    intro a hmem
    cases hmem
  | cons entry rest ih =>
    obtain ⟨hfirst, hrest⟩ := List.pairwise_cons.mp hdistinct
    have hforeign' := fun other hmem => hforeign other (List.mem_cons_of_mem entry hmem)
    intro a hmem
    rw [List.flatMap_cons]
    rcases List.mem_cons.mp hmem with rfl | hmem
    · have hothers : rest.flatMap event = [] := by
        apply List.flatMap_eq_nil_iff.mpr
        intro other hother
        exact hforeign' other hother (hfirst other hother).symm
      rw [hothers, List.append_nil]
    · rw [hforeign entry List.mem_cons_self (hfirst _ hmem), ih hrest hforeign' a hmem]
      rfl

/-- Among all streams of a map, the one of this id. -/
theorem flatMap_toList {α β : Type} (map : ExtTreeMap String α) (id : String)
    {event : String × α → List β} (hforeign : ∀ (other : String) (a : α), map[other]? = some a →
      other ≠ id → event (other, a) = []) :
    map.toList.flatMap event = (map[id]?).toList.flatMap fun a => event (id, a) := by
  have hdistinct : map.toList.Pairwise fun a b => a.1 ≠ b.1 := by
    refine List.Pairwise.imp ?_ ExtTreeMap.distinct_keys_toList
    intro a b hne heq
    exact hne (LawfulEqOrd.compare_eq_iff_eq.mpr heq)
  have hall : ∀ entry ∈ map.toList, entry.1 ≠ id → event entry = [] := by
    intro entry hmem hne
    exact hforeign entry.1 entry.2 (ExtTreeMap.mem_toList_iff_getElem?_eq_some.mp hmem) hne
  obtain ⟨hfound, hnone⟩ := flatMap_distinct hdistinct hall
  cases hid : map[id]? with
  | none =>
    apply hnone
    rintro entry hmem rfl
    rw [ExtTreeMap.mem_toList_iff_getElem?_eq_some.mp hmem] at hid
    simp at hid
  | some a =>
    rw [hfound a (ExtTreeMap.mem_toList_iff_getElem?_eq_some.mpr hid)]
    simp

/-- What the loss of the connection tells the handler of one text stream. -/
theorem handlerEvents_failTexts {room : Room σ} (hroom : Stored room) (id reason : String) :
    handlerEvents id (room.incomingTexts.toList.flatMap fun (_, text) =>
        text.handler.toList.map
          (.textHandler · { info := text.info, type := .failed, reason := reason })) =
      (room.incomingTexts[id]?).toList.flatMap fun text =>
        text.handler.toList.map fun _ => (.failed, 0) := by
  rw [handlerEvents, List.filterMap_flatMap, flatMap_toList room.incomingTexts id]
  · cases htext : room.incomingTexts[id]? with
    | none => rfl
    | some text =>
      have hid : text.info.streamId = id := (hroom.keyed.texts _ _ htext).2
      simp only [Option.toList_some, List.flatMap_cons, List.flatMap_nil, List.append_nil]
      exact handlerEvents_text _ hid
  · intro other text htext hne
    apply handlerEvents_eq_nil
    intro delivery hmem
    obtain ⟨handler, -, rfl⟩ := List.mem_map.mp hmem
    rw [Delivery.streamId, (hroom.keyed.texts _ _ htext).2]
    exact fun h => hne (Option.some.inj h)

theorem handlerEvents_failFiles {room : Room σ} (hroom : Stored room) (id reason : String) :
    handlerEvents id (room.incomingFiles.toList.flatMap fun (_, bytes) =>
        bytes.handler.toList.map
          (.byteHandler · { info := bytes.info, type := .failed, reason := reason })) =
      (room.incomingFiles[id]?).toList.flatMap fun bytes =>
        bytes.handler.toList.map fun _ => (.failed, 0) := by
  rw [handlerEvents, List.filterMap_flatMap, flatMap_toList room.incomingFiles id]
  · cases hbytes : room.incomingFiles[id]? with
    | none => rfl
    | some bytes =>
      have hid : bytes.info.streamId = id := (hroom.keyed.files _ _ hbytes).2
      simp only [Option.toList_some, List.flatMap_cons, List.flatMap_nil, List.append_nil]
      exact handlerEvents_byte _ hid
  · intro other bytes hbytes hne
    apply handlerEvents_eq_nil
    intro delivery hmem
    obtain ⟨handler, -, rfl⟩ := List.mem_map.mp hmem
    rw [Delivery.streamId, (hroom.keyed.files _ _ hbytes).2]
    exact fun h => hne (Option.some.inj h)

/-- The connection is lost. -/
theorem follows_fail {room : Room σ} (hroom : Stored room) (id reason : String) :
    Follows id room (room.failIncomingDataStreams reason).1
      (room.failIncomingDataStreams reason).2 := by
  have hafter : storePhase (room.failIncomingDataStreams reason).1 id = .closed := by
    simp [storePhase, Room.failIncomingDataStreams]
  unfold Follows
  rw [hafter, Room.failIncomingDataStreams, handlerEvents_append,
    handlerEvents_failTexts hroom, handlerEvents_failFiles hroom]
  unfold storePhase
  cases htext : room.incomingTexts[id]? with
  | some text =>
    have hfile : room.incomingFiles[id]? = none :=
      (hroom.apart id).resolve_left (by simp [htext])
    rw [hfile]
    simpa using readAll_end text (.inr rfl) 0
  | none =>
    cases hbytes : room.incomingFiles[id]? with
    | none => rfl
    | some bytes => simpa using readAll_end bytes (.inr rfl) 0

/-- A packet, for its own stream and for every other. -/
theorem follows_packet {zlib : Zlib σ} {room : Room σ} (hroom : Stored room) (arrival : Arrival)
    (horderly : Orderly zlib room (.packet arrival)) (id : String) :
    Follows id room (room.dataPacketEvent zlib arrival.now arrival.packet).1
      (room.dataPacketEvent zlib arrival.now arrival.packet).2 := by
  by_cases hid : streamIdOf arrival.packet = some id
  · dsimp only [Orderly] at horderly
    unfold streamIdOf at hid
    unfold Room.dataPacketEvent
    cases hvalue : arrival.packet.value with
    | streamHeader header =>
      rw [hvalue] at horderly hid
      cases hid
      dsimp only
      cases hcontent : header.contentHeader with
      | text text => exact follows_textHeader hcontent horderly
      | byte byte => exact follows_byteHeader hcontent horderly
      | notSet => exact follows_of_idle rfl rfl
    | streamChunk chunk =>
      rw [hvalue] at hid
      cases hid
      exact follows_chunk hroom chunk
    | streamTrailer trailer =>
      rw [hvalue] at hid
      cases hid
      exact follows_trailer hroom trailer
    | _ => simp [hvalue] at hid
  · apply follows_of_idle (storePhase_of_agreeAt (agreeAt_dataPacketEvent zlib room _ hid))
    apply handlerEvents_eq_nil
    intro delivery hmem
    rw [streamId_dataPacketEvent hroom.keyed hmem]
    exact hid

theorem follows_apply {zlib : Zlib σ} {room : Room σ} (hroom : Stored room) (op : Op)
    (horderly : Orderly zlib room op) (id : String) :
    Follows id room (room.apply zlib op) (opDeliveries zlib room op) := by
  cases op with
  | packet arrival => exact follows_packet hroom arrival horderly id
  | failIncomingDataStreams reason => exact follows_fail hroom id reason
  | _ => exact follows_of_idle rfl rfl

/-! ## 4. Whole runs -/

theorem readAll_runDeliveries {zlib : Zlib σ} {room : Room σ} (hroom : Reachable zlib room)
    {ops : List Op} (horderly : Along (Orderly zlib) (Room.apply zlib) room ops) (id : String) :
    (storePhase room id).readAll (handlerEvents id (runDeliveries zlib room ops)) =
      some (storePhase (ops.foldl (Room.apply zlib) room) id) := by
  induction ops generalizing room with
  | nil => rfl
  | cons op rest ih =>
    obtain ⟨hfirst, hrest⟩ := horderly
    have hstep : (storePhase room id).readAll (handlerEvents id (opDeliveries zlib room op)) =
        some (storePhase (room.apply zlib op) id) :=
      follows_apply (stored_of_reachable hroom) op hfirst id
    rw [runDeliveries, handlerEvents_append, Phase.readAll_append, hstep, List.foldl_cons]
    exact ih (reachable_apply hroom op) hrest

/-- **The protocol of a topic handler**: if no header takes the id of a stream that a
    handler has open, the monitor reads every event of every stream, and stands in the
    end where the store stands. -/
theorem handlers_see_the_protocol (zlib : Zlib σ) (hasListener : Bool) (ops : List Op)
    (horderly : Along (Orderly zlib) (Room.apply zlib) (Room.new hasListener) ops)
    (id : String) :
    Phase.closed.readAll (handlerEvents id (runDeliveries zlib (Room.new hasListener) ops)) =
      some (storePhase (ops.foldl (Room.apply zlib) (Room.new hasListener)) id) := by
  have hstart : storePhase (Room.new hasListener : Room σ) id = .closed := by
    simp [storePhase, Room.new]
  rw [← hstart]
  exact readAll_runDeliveries ⟨hasListener, [], rfl⟩ horderly id

def textHeader (id : String) : Op :=
  .packet ⟨0, { value := .streamHeader { streamId := id, contentHeader := .text {} } }⟩

def textChunk (id : String) (index : UInt64) (content : Bytes) : Op :=
  .packet ⟨0, { value := .streamChunk { streamId := id, chunkIndex := index, content := content } }⟩

def textTrailer (id : String) : Op :=
  .packet ⟨0, { value := .streamTrailer { streamId := id } }⟩

/-- A stream, ended by its trailer, and a second one under its id, ended by a
    disconnect. -/
def twoStreams : List Op :=
  [.registerTextStreamHandler "" 1, textHeader "a", textChunk "a" 0 [1], textTrailer "a",
   textHeader "a", textChunk "a" 0 [2], .failIncomingDataStreams "disconnected"]

theorem handlers_see_twoStreams :
    Along (Orderly noZlib) (Room.apply noZlib) (Room.new true) twoStreams ∧
      handlerEvents "a" (runDeliveries noZlib (Room.new true) twoStreams) =
        [(.opened, 0), (.chunk, 0), (.closed, 0), (.opened, 0), (.chunk, 0), (.failed, 0)] ∧
      Phase.closed.readAll (handlerEvents "a" (runDeliveries noZlib (Room.new true) twoStreams)) =
        some (storePhase (twoStreams.foldl (Room.apply noZlib) (Room.new true)) "a") := by
  have horderly : Along (Orderly noZlib) (Room.apply noZlib) (Room.new true) twoStreams := by
    decide
  exact ⟨horderly, by decide, handlers_see_the_protocol noZlib true twoStreams horderly "a"⟩

/-- A second header under the id of an open stream: the handler sees two openings and one
    end, and the monitor stops at the second. -/
theorem header_replaces_open_stream :
    ∃ ops : List Op,
      handlerEvents "a" (runDeliveries noZlib (Room.new true) ops) =
        [(.opened, 0), (.chunk, 0), (.opened, 0), (.closed, 0)] ∧
      Phase.closed.readAll (handlerEvents "a" (runDeliveries noZlib (Room.new true) ops)) =
        none := by
  refine ⟨[.registerTextStreamHandler "" 1, textHeader "a", textChunk "a" 0 [1], textHeader "a",
    textTrailer "a"], ?_, ?_⟩ <;> decide

end LivekitClient.StreamHandlers
