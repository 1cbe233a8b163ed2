/-
  LivekitClient/StreamingDelivery.lean
  ====================================
  **Streaming against buffering** (`Room::DataPacketEvent` in `src/core/room.cpp`).

  A stream reaches the application in one of two ways: chunk by chunk through the
  handler of its topic, or all at once through the listener.  Here the same packets go
  to a room with handlers for all topics and to a room with none, and a collector that
  joins the chunks from `Open` to `Closed` stands for the application.

  The two rooms hold the same streams all along, one with the content and one without
  it; what the one has buffered, the collector has.  An inline stream under the id of an
  open one spoils this: the collector cannot tell their chunks apart.
-/
import LivekitClient.StreamHandlers

namespace LivekitClient.StreamingDelivery

open Std
open Runs
open LivekitClient.DataPacket
open LivekitClient.DataStreamCompression
open LivekitClient.IncomingDataStreams
open LivekitClient.StreamStore (Kept Tracked handlerRoom kept_handlerRoom)
open LivekitClient.StreamHandlers (Stored)
open LivekitClient.StreamReassembly (noZlib)

variable {σ : Type}

/-! ## 1. The two ways -/

inductive Kind where
  | text
  | byte
deriving DecidableEq

/-- A stream that has come to its end, with all its content. -/
structure Payload where
  kind : Kind
  streamId : String
  content : Bytes
deriving DecidableEq

/-- What the listener is told; `OnFileReceived` repeats `OnByteReceived`. -/
def received : Delivery → Option Payload
  | .textReceived event => some ⟨.text, event.streamId, event.content⟩
  | .byteReceived event => some ⟨.byte, event.streamId, event.content⟩
  | _ => none

/-- Joins the chunks of each stream since its last `Open`. -/
def collectEvent {L : Type} (kind : Kind) (contents : String → Bytes) (event : StreamEvent L) :
    (String → Bytes) × List Payload :=
  let id := event.info.streamId
  match event.type with
  | .opened => (Function.update contents id [], [])
  | .chunk => (Function.update contents id (contents id ++ event.content), [])
  | .closed => (contents, [⟨kind, id, contents id⟩])
  | .failed => (contents, [])

def collect (contents : String → Bytes) : Delivery → (String → Bytes) × List Payload
  | .textHandler _ event => collectEvent .text contents event
  | .byteHandler _ event => collectEvent .byte contents event
  | _ => (contents, [])

def collectAll : (String → Bytes) → List Delivery → (String → Bytes) × List Payload
  | contents, [] => (contents, [])
  | contents, delivery :: rest =>
    let (after, payloads) := collect contents delivery
    let (final, more) := collectAll after rest
    (final, payloads ++ more)

/-- The room after a packet. -/
def step (zlib : Zlib σ) (room : Room σ) (arrival : Arrival) : Room σ :=
  (room.dataPacketEvent zlib arrival.now arrival.packet).1

/-- What the listener is told, packet by packet. -/
def receivedByPacket (zlib : Zlib σ) : Room σ → List Arrival → List (List Payload)
  | _, [] => []
  | room, arrival :: rest =>
    (room.dataPacketEvent zlib arrival.now arrival.packet).2.filterMap received ::
      receivedByPacket zlib (step zlib room arrival) rest

/-- What the handlers make of their events, packet by packet. -/
def collectedByPacket (zlib : Zlib σ) :
    (String → Bytes) → Room σ → List Arrival → List (List Payload)
  | _, _, [] => []
  | contents, room, arrival :: rest =>
    let (after, payloads) :=
      collectAll contents (room.dataPacketEvent zlib arrival.now arrival.packet).2
    payloads :: collectedByPacket zlib after (step zlib room arrival) rest

/-! ## 2. What is asked of the packets -/

/-- The declared total is within the limit of a buffered stream. -/
def DeclaresWithin (packet : Packet) : Prop :=
  match packet.value with
  | .streamHeader header =>
    ∀ length, header.totalLength = some length → length.toNat ≤ kMaximumBufferedDataStreamSize
  | _ => True

/-- There is a handler for the topic, for text and for bytes. -/
def Handles (texts bytes : ExtTreeMap String Nat) (packet : Packet) : Prop :=
  match packet.value with
  | .streamHeader header =>
    texts[header.topic]?.isSome = true ∧ bytes[header.topic]?.isSome = true
  | _ => True

/-- No open stream has received more than a buffered stream may. -/
structure Within (room : Room σ) : Prop where
  texts : ∀ (id : String) (text : IncomingText σ), room.incomingTexts[id]? = some text →
    text.receivedLength ≤ kMaximumBufferedDataStreamSize
  files : ∀ (id : String) (bytes : IncomingFile σ), room.incomingFiles[id]? = some bytes →
    bytes.receivedLength ≤ kMaximumBufferedDataStreamSize

theorem within_iff (room : Room σ) :
    Within room ↔
      (∀ entry ∈ room.incomingTexts.toList,
        entry.2.receivedLength ≤ kMaximumBufferedDataStreamSize) ∧
      ∀ entry ∈ room.incomingFiles.toList,
        entry.2.receivedLength ≤ kMaximumBufferedDataStreamSize := by
  constructor
  · rintro ⟨htexts, hfiles⟩
    refine ⟨?_, ?_⟩ <;> intro entry hmem
    · exact htexts entry.1 entry.2 (ExtTreeMap.mem_toList_iff_getElem?_eq_some.mp hmem)
    · exact hfiles entry.1 entry.2 (ExtTreeMap.mem_toList_iff_getElem?_eq_some.mp hmem)
  · rintro ⟨htexts, hfiles⟩
    refine ⟨?_, ?_⟩ <;> intro id incoming hsome
    · exact htexts (id, incoming) (ExtTreeMap.mem_toList_iff_getElem?_eq_some.mpr hsome)
    · exact hfiles (id, incoming) (ExtTreeMap.mem_toList_iff_getElem?_eq_some.mpr hsome)

instance (room : Room σ) : Decidable (Within room) := decidable_of_iff' _ (within_iff room)

def HeaderOutcome.isInline : HeaderOutcome σ → Bool
  | .inline _ => true
  | _ => false

/-- The header is accepted and brings the content with it. -/
def bringsContent (zlib : Zlib σ) (room : Room σ) (header : StreamHeader) : Bool :=
  match header.contentHeader with
  | .text _ =>
    HeaderOutcome.isInline
      (headerOutcome zlib header (room.textStreamHandlers[header.topic]?).isSome)
  | .byte _ =>
    HeaderOutcome.isInline
      (headerOutcome zlib header (room.byteStreamHandlers[header.topic]?).isSome)
  | .notSet => false

/-- No content comes inline under the id of an open stream. -/
def Undisturbed (zlib : Zlib σ) (room : Room σ) (arrival : Arrival) : Prop :=
  match arrival.packet.value with
  | .streamHeader header =>
    bringsContent zlib room header = true →
      room.incomingTexts[header.streamId]? = none ∧ room.incomingFiles[header.streamId]? = none
  | _ => True

/-! ## 3. One stream, twice -/

section Stream

variable {K L : Type}

/-- The same stream in the room that buffers and in the one that streams. -/
structure Mirror (content : Bytes) (buffered streamed : Incoming σ K L) : Prop where
  unhandled : buffered.handler = none
  handled : streamed.handler.isSome = true
  expectedLength : streamed.expectedLength = buffered.expectedLength
  receivedLength : streamed.receivedLength = buffered.receivedLength
  compressedLength : streamed.compressedLength = buffered.compressedLength
  nextChunk : streamed.nextChunk = buffered.nextChunk
  inflater : streamed.inflater = buffered.inflater
  buffer : buffered.event.content = content
  length : buffered.receivedLength = content.length

theorem mirror_newIncoming (packet : Packet) (header : StreamHeader) (fields : K) (infoFields : L)
    {handler : Option Nat} (hhandler : handler.isSome = true)
    (inflater : Option (InflateRawStream σ)) :
    Mirror [] (newIncoming packet header fields infoFields none inflater)
      (newIncoming packet header fields infoFields handler inflater) :=
  ⟨rfl, hhandler, rfl, rfl, rfl, rfl, rfl, rfl, rfl⟩

theorem Mirror.decode {zlib : Zlib σ} {content : Bytes} {buffered streamed : Incoming σ K L}
    (h : Mirror content buffered streamed) (chunk : Bytes) :
    streamed.decode zlib chunk = buffered.decode zlib chunk := by
  unfold Incoming.decode
  rw [h.inflater, h.compressedLength]

/-- Buffering refuses what streaming refuses, and what does not fit into the buffer. -/
theorem Mirror.refusesContent {content : Bytes} {buffered streamed : Incoming σ K L}
    (h : Mirror content buffered streamed) (size : Nat) :
    buffered.refusesContent size =
      (streamed.refusesContent size ||
        decide (kMaximumBufferedDataStreamSize - buffered.receivedLength < size)) := by
  obtain ⟨handler, hsome⟩ := Option.isSome_iff_exists.mp h.handled
  unfold Incoming.refusesContent
  rw [h.unhandled, hsome, h.expectedLength, h.receivedLength, h.buffer, h.length]
  simp

/-- A chunk is refused in both rooms, or accepted in both with the same content. -/
theorem Mirror.chunk {zlib : Zlib σ} {content : Bytes} {buffered streamed : Incoming σ K L}
    (h : Mirror content buffered streamed) {chunk : StreamChunk}
    (hwithin : ∀ after more, streamed.chunk zlib chunk = some (after, more) →
      after.receivedLength ≤ kMaximumBufferedDataStreamSize) :
    (buffered.chunk zlib chunk = none ∧ streamed.chunk zlib chunk = none) ∨
      ∃ buffered' streamed' more, buffered.chunk zlib chunk = some (buffered', more) ∧
        streamed.chunk zlib chunk = some (streamed', more) ∧
        Mirror (content ++ more) buffered' streamed' := by
  unfold Incoming.chunk at hwithin ⊢
  rw [h.decode] at hwithin ⊢
  cases hdecode : buffered.decode zlib chunk.content with
  | none => exact .inl ⟨rfl, rfl⟩
  | some decoded =>
    obtain ⟨more, inflater⟩ := decoded
    rw [hdecode] at hwithin
    dsimp only at hwithin ⊢
    rw [h.nextChunk] at hwithin ⊢
    by_cases hrefused : chunk.chunkIndex ≠ buffered.nextChunk ∨
        streamed.refusesContent more.length = true
    · have hrefused' : chunk.chunkIndex ≠ buffered.nextChunk ∨
          buffered.refusesContent more.length = true := by
        rw [h.refusesContent]
        rcases hrefused with hindex | hrefused
        · exact .inl hindex
        · right
          rw [hrefused]
          rfl
      rw [if_pos hrefused, if_pos hrefused']
      exact .inl ⟨rfl, rfl⟩
    · rw [if_neg hrefused] at hwithin
      have hfits := hwithin _ _ rfl
      simp only [Incoming.extend, h.receivedLength] at hfits
      have haccepted : ¬ (chunk.chunkIndex ≠ buffered.nextChunk ∨
          buffered.refusesContent more.length = true) := by
        obtain ⟨hindex, hok⟩ := not_or.mp hrefused
        refine not_or.mpr ⟨hindex, ?_⟩
        rw [h.refusesContent, Bool.not_eq_true, Bool.or_eq_false_iff, decide_eq_false_iff_not]
        refine ⟨Bool.not_eq_true _ ▸ hok, ?_⟩
        omega
      rw [if_neg hrefused, if_neg haccepted]
      refine .inr ⟨_, _, more, rfl, rfl, ?_⟩
      have hnone : buffered.handler.isSome = false := by
        rw [h.unhandled]
        rfl
      exact {
        unhandled := h.unhandled
        handled := h.handled
        expectedLength := h.expectedLength
        receivedLength := by simp [Incoming.extend, h.receivedLength]
        compressedLength := by simp [Incoming.extend, h.inflater, h.compressedLength]
        nextChunk := by simp [Incoming.extend, h.nextChunk]
        inflater := rfl
        buffer := by simp [Incoming.extend, hnone, h.buffer]
        length := by simp [Incoming.extend, h.length] }

theorem Mirror.complete {content : Bytes} {buffered streamed : Incoming σ K L}
    (h : Mirror content buffered streamed) (trailer : StreamTrailer) :
    streamed.complete trailer = buffered.complete trailer := by
  unfold Incoming.complete
  rw [h.inflater, h.expectedLength, h.receivedLength]

/-- The streams of one kind in the two rooms. -/
def MirrorMap (contents : String → Bytes) (buffered streamed : ExtTreeMap String (Incoming σ K L)) :
    Prop :=
  ∀ id : String, Option.Rel (Mirror (contents id)) buffered[id]? streamed[id]?

/-- A stream that one room holds, the other holds too. -/
theorem MirrorMap.getElem? {contents : String → Bytes}
    {map map' : ExtTreeMap String (Incoming σ K L)} (h : MirrorMap contents map map')
    (id : String) :
    (map[id]? = none ∧ map'[id]? = none) ∨
      ∃ incoming incoming', map[id]? = some incoming ∧ map'[id]? = some incoming' ∧
        Mirror (contents id) incoming incoming' := by
  have hat := h id
  cases hmap : map[id]? with
  | none =>
    rw [hmap] at hat
    cases hmap' : map'[id]? with
    | none => exact .inl ⟨rfl, rfl⟩
    | some incoming' =>
      rw [hmap'] at hat
      cases hat
  | some incoming =>
    rw [hmap] at hat
    cases hmap' : map'[id]? with
    | none =>
      rw [hmap'] at hat
      cases hat
    | some incoming' =>
      rw [hmap'] at hat
      cases hat with
      | some hmirror => exact .inr ⟨incoming, incoming', rfl, rfl, hmirror⟩

theorem MirrorMap.erase {contents : String → Bytes}
    {buffered streamed : ExtTreeMap String (Incoming σ K L)}
    (h : MirrorMap contents buffered streamed) (id : String) (content : Bytes) :
    MirrorMap (Function.update contents id content) (buffered.erase id) (streamed.erase id) := by
  intro other
  by_cases heq : other = id
  · rw [heq]
    simp only [ExtTreeMap.getElem?_erase_self]
    exact .none
  · rw [getElem?_erase_of_ne _ (Ne.symm heq), getElem?_erase_of_ne _ (Ne.symm heq),
      Function.update_of_ne heq]
    exact h other

theorem MirrorMap.insert {contents : String → Bytes}
    {buffered streamed : ExtTreeMap String (Incoming σ K L)}
    (h : MirrorMap contents buffered streamed) (id : String) {content : Bytes}
    {new new' : Incoming σ K L} (hnew : Mirror content new new') :
    MirrorMap (Function.update contents id content) (buffered.insert id new)
      (streamed.insert id new') := by
  intro other
  by_cases heq : other = id
  · rw [heq]
    simp only [ExtTreeMap.getElem?_insert_self, Function.update_self]
    exact .some hnew
  · rw [getElem?_insert_of_ne _ _ (Ne.symm heq), getElem?_insert_of_ne _ _ (Ne.symm heq),
      Function.update_of_ne heq]
    exact h other

/-- What the collector has of a stream that is not there does not matter. -/
theorem MirrorMap.update {contents : String → Bytes}
    {buffered streamed : ExtTreeMap String (Incoming σ K L)}
    (h : MirrorMap contents buffered streamed) {id : String} (hnone : streamed[id]? = none)
    (content : Bytes) : MirrorMap (Function.update contents id content) buffered streamed := by
  intro other
  by_cases heq : other = id
  · rcases h.getElem? id with ⟨hnone', -⟩ | ⟨incoming, incoming', -, hsome, -⟩
    · rw [heq, hnone, hnone']
      exact .none
    · simp [hnone] at hsome
  · rw [Function.update_of_ne heq]
    exact h other

end Stream

/-! ## 4. One packet in both rooms -/

/-- The room without handlers, the room with handlers, and what the collector has. -/
structure Mirrored (texts bytes : ExtTreeMap String Nat) (contents : String → Bytes)
    (buffered streamed : Room σ) : Prop where
  hasListener : buffered.hasListener = true
  noTextHandlers : buffered.textStreamHandlers = ∅
  noByteHandlers : buffered.byteStreamHandlers = ∅
  textHandlers : streamed.textStreamHandlers = texts
  byteHandlers : streamed.byteStreamHandlers = bytes
  incomingTexts : MirrorMap contents buffered.incomingTexts streamed.incomingTexts
  incomingFiles : MirrorMap contents buffered.incomingFiles streamed.incomingFiles

/-- The two rooms are mirrored again, and the packet brought the same to both. -/
def Agrees (texts bytes : ExtTreeMap String Nat) (contents : String → Bytes)
    (buffered streamed : Room σ × List Delivery) : Prop :=
  Mirrored texts bytes (collectAll contents streamed.2).1 buffered.1 streamed.1 ∧
    (collectAll contents streamed.2).2 = buffered.2.filterMap received

/-- The declared length apart, a handler does not change what becomes of a header. -/
theorem headerOutcome_handled {zlib : Zlib σ} {header : StreamHeader}
    (hwithin : ∀ length, header.totalLength = some length →
      length.toNat ≤ kMaximumBufferedDataStreamSize) (hasHandler : Bool) :
    headerOutcome zlib header hasHandler = headerOutcome zlib header false := by
  have hrefuses : ∀ hasHandler, refusesLength header hasHandler = false := by
    intro hasHandler
    unfold refusesLength
    cases hlength : header.totalLength with
    | none => rfl
    | some length =>
      have hle := hwithin length hlength
      simp [Nat.not_lt.mpr hle]
  unfold headerOutcome
  rw [hrefuses, hrefuses]

variable {texts bytes : ExtTreeMap String Nat} {contents : String → Bytes}
  {buffered streamed : Room σ}

/-- `OnFileReceived` adds nothing to `OnByteReceived`. -/
theorem received_byteDeliveries (event : FileReceivedEvent) :
    (byteDeliveries event).filterMap received = [⟨.byte, event.streamId, event.content⟩] := by
  unfold byteDeliveries
  split <;> rfl

theorem Mirrored.textHeader {zlib : Zlib σ} (h : Mirrored texts bytes contents buffered streamed)
    (packet : Packet) {header : StreamHeader} {text : TextHeader}
    (hcontent : header.contentHeader = .text text)
    (hwithin : ∀ length, header.totalLength = some length →
      length.toNat ≤ kMaximumBufferedDataStreamSize)
    (hhandler : texts[header.topic]?.isSome = true)
    (hquiet : bringsContent zlib streamed header = true →
      streamed.incomingTexts[header.streamId]? = none ∧
        streamed.incomingFiles[header.streamId]? = none) :
    Agrees texts bytes contents (buffered.textHeaderEvent zlib packet header text)
      (streamed.textHeaderEvent zlib packet header text) := by
  unfold bringsContent at hquiet
  rw [hcontent] at hquiet
  dsimp only at hquiet
  obtain ⟨handler, hsome⟩ := Option.isSome_iff_exists.mp hhandler
  unfold Room.textHeaderEvent
  rw [h.noTextHandlers, h.textHandlers, hsome]
  rw [h.textHandlers, hsome, headerOutcome_handled hwithin] at hquiet
  simp only [ExtTreeMap.getElem?_empty, Option.isSome_some, Option.isSome_none,
    headerOutcome_handled hwithin true]
  generalize headerOutcome zlib header false = outcome at hquiet ⊢
  cases outcome with
  | rejected => exact ⟨h, rfl⟩
  | inline content =>
    obtain ⟨htext, hfile⟩ := hquiet rfl
    constructor
    · simp only [inlineEvents, List.map_cons, List.map_nil, collectAll, collect, collectEvent,
        newText, newIncoming, Function.update_self, Function.update_idem, List.nil_append]
      exact { h with
        incomingTexts := h.incomingTexts.update htext content
        incomingFiles := h.incomingFiles.update hfile content }
    · simp [inlineEvents, collectAll, collect, collectEvent, newText, newIncoming,
        Room.toListener, h.hasListener, received]
  | opened inflater =>
    constructor
    · exact ⟨h.hasListener, rfl, h.noByteHandlers, rfl, h.byteHandlers,
        h.incomingTexts.insert _ (mirror_newIncoming packet header _ _ rfl _),
        h.incomingFiles.erase _ _⟩
    · rfl

theorem Mirrored.byteHeader {zlib : Zlib σ} (h : Mirrored texts bytes contents buffered streamed)
    (packet : Packet) {header : StreamHeader} {byte : ByteHeader}
    (hcontent : header.contentHeader = .byte byte)
    (hwithin : ∀ length, header.totalLength = some length →
      length.toNat ≤ kMaximumBufferedDataStreamSize)
    (hhandler : bytes[header.topic]?.isSome = true)
    (hquiet : bringsContent zlib streamed header = true →
      streamed.incomingTexts[header.streamId]? = none ∧
        streamed.incomingFiles[header.streamId]? = none) :
    Agrees texts bytes contents (buffered.byteHeaderEvent zlib packet header byte)
      (streamed.byteHeaderEvent zlib packet header byte) := by
  unfold bringsContent at hquiet
  rw [hcontent] at hquiet
  dsimp only at hquiet
  obtain ⟨handler, hsome⟩ := Option.isSome_iff_exists.mp hhandler
  unfold Room.byteHeaderEvent
  rw [h.noByteHandlers, h.byteHandlers, hsome]
  rw [h.byteHandlers, hsome, headerOutcome_handled hwithin] at hquiet
  simp only [ExtTreeMap.getElem?_empty, Option.isSome_some, Option.isSome_none,
    headerOutcome_handled hwithin true]
  generalize headerOutcome zlib header false = outcome at hquiet ⊢
  cases outcome with
  | rejected => exact ⟨h, rfl⟩
  | inline content =>
    obtain ⟨htext, hfile⟩ := hquiet rfl
    constructor
    · simp only [inlineEvents, List.map_cons, List.map_nil, collectAll, collect, collectEvent,
        newFile, newIncoming, Function.update_self, Function.update_idem, List.nil_append]
      exact { h with
        incomingTexts := h.incomingTexts.update htext content
        incomingFiles := h.incomingFiles.update hfile content }
    · simp [inlineEvents, collectAll, collect, collectEvent, newFile, newIncoming,
        Room.toListener, h.hasListener, received_byteDeliveries]
  | opened inflater =>
    constructor
    · exact ⟨h.hasListener, h.noTextHandlers, rfl, h.textHandlers, rfl,
        h.incomingTexts.erase _ _,
        h.incomingFiles.insert _ (mirror_newIncoming packet header _ _ rfl _)⟩
    · rfl

/-- What a chunk does to the streams of one kind. -/
theorem MirrorMap.store {K L : Type} {zlib : Zlib σ}
    {map map' : ExtTreeMap String (Incoming σ K L)} (h : MirrorMap contents map map')
    {chunk : StreamChunk} {incoming incoming' : Incoming σ K L}
    (hmirror : Mirror (contents chunk.streamId) incoming incoming')
    (hid : incoming'.info.streamId = chunk.streamId)
    (hwithin : ∀ after more, incoming'.chunk zlib chunk = some (after, more) →
      after.receivedLength ≤ kMaximumBufferedDataStreamSize) (kind : Kind) :
    MirrorMap
      (collectEvent kind contents (incoming'.chunkEvent chunk (incoming'.chunk zlib chunk))).1
      (Incoming.store map chunk.streamId (incoming.chunk zlib chunk))
      (Incoming.store map' chunk.streamId (incoming'.chunk zlib chunk)) ∧
    (collectEvent kind contents (incoming'.chunkEvent chunk (incoming'.chunk zlib chunk))).2 =
      [] := by
  rcases hmirror.chunk hwithin with ⟨hnone, hnone'⟩ | ⟨after, after', more, hafter, hafter', hmore⟩
  · rw [hnone, hnone']
    refine ⟨?_, rfl⟩
    have herase := h.erase chunk.streamId (contents chunk.streamId)
    rwa [Function.update_eq_self] at herase
  · rw [hafter, hafter']
    refine ⟨?_, rfl⟩
    simp only [collectEvent, Incoming.chunkEvent, hid]
    exact h.insert chunk.streamId hmore

/-- An event of a chunk changes what the collector has of that stream only. -/
theorem MirrorMap.collected {K L M : Type} {map map' : ExtTreeMap String (Incoming σ K L)}
    (h : MirrorMap contents map map') {kind : Kind} {event : StreamEvent M}
    (hnone : map'[event.info.streamId]? = none) :
    MirrorMap (collectEvent kind contents event).1 map map' := by
  unfold collectEvent
  dsimp only
  split
  · exact h.update hnone _
  · exact h.update hnone _
  · exact h
  · exact h

theorem collectAll_handler {L : Type} (kind : Kind) (contents : String → Bytes)
    {handler : Option Nat} (hhandler : handler.isSome = true) (event : StreamEvent L)
    {call : Nat → StreamEvent L → Delivery}
    (hcall : ∀ handler, collect contents (call handler event) = collectEvent kind contents event) :
    collectAll contents (handler.toList.map (call · event)) = collectEvent kind contents event := by
  obtain ⟨handler, rfl⟩ := Option.isSome_iff_exists.mp hhandler
  simp [collectAll, hcall]

theorem Mirrored.chunk {zlib : Zlib σ} (h : Mirrored texts bytes contents buffered streamed)
    (hstored : Stored streamed) {chunk : StreamChunk}
    (hwithin : Within (streamed.chunkEvent zlib chunk).1) :
    Agrees texts bytes contents (buffered.chunkEvent zlib chunk)
      (streamed.chunkEvent zlib chunk) := by
  unfold Room.chunkEvent at hwithin ⊢
  rcases h.incomingTexts.getElem? chunk.streamId with
    ⟨hnone, hnone'⟩ | ⟨text, text', hsome, hsome', hmirror⟩
  · rw [hnone, hnone']
    rw [hnone'] at hwithin
    dsimp only at hwithin ⊢
    rcases h.incomingFiles.getElem? chunk.streamId with
      ⟨hfile, hfile'⟩ | ⟨file, file', hsome, hsome', hmirror⟩
    · rw [hfile, hfile']
      exact ⟨h, rfl⟩
    · rw [hsome, hsome']
      rw [hsome'] at hwithin
      dsimp only at hwithin ⊢
      have hid := (hstored.keyed.files _ _ hsome').2
      have hfits : ∀ after more, file'.chunk zlib chunk = some (after, more) →
          after.receivedLength ≤ kMaximumBufferedDataStreamSize := by
        intro after more hafter
        apply hwithin.files chunk.streamId after
        rw [getElem?_store_self, hafter]
        rfl
      obtain ⟨hmap, hnothing⟩ := h.incomingFiles.store hmirror hid hfits .byte
      unfold Agrees
      rw [hmirror.unhandled, collectAll_handler .byte contents hmirror.handled _ fun _ => rfl]
      refine ⟨{ h with incomingFiles := hmap, incomingTexts := ?_ }, hnothing⟩
      apply h.incomingTexts.collected
      rw [Incoming.info_chunkEvent, hid]
      exact hnone'
  · rw [hsome, hsome']
    rw [hsome'] at hwithin
    dsimp only at hwithin ⊢
    have hid := (hstored.keyed.texts _ _ hsome').2
    have hfile' : streamed.incomingFiles[chunk.streamId]? = none :=
      (hstored.apart chunk.streamId).resolve_left (by simp [hsome'])
    have hfits : ∀ after more, text'.chunk zlib chunk = some (after, more) →
        after.receivedLength ≤ kMaximumBufferedDataStreamSize := by
      intro after more hafter
      apply hwithin.texts chunk.streamId after
      rw [getElem?_store_self, hafter]
      rfl
    obtain ⟨hmap, hnothing⟩ := h.incomingTexts.store hmirror hid hfits .text
    unfold Agrees
    rw [hmirror.unhandled, collectAll_handler .text contents hmirror.handled _ fun _ => rfl]
    refine ⟨{ h with incomingTexts := hmap, incomingFiles := ?_ }, hnothing⟩
    apply h.incomingFiles.collected
    rw [Incoming.info_chunkEvent, hid]
    exact hfile'

theorem collectAll_append (contents : String → Bytes) (deliveries more : List Delivery) :
    collectAll contents (deliveries ++ more) =
      ((collectAll (collectAll contents deliveries).1 more).1,
       (collectAll contents deliveries).2 ++
         (collectAll (collectAll contents deliveries).1 more).2) := by
  induction deliveries generalizing contents with
  | nil => rfl
  | cons delivery rest ih => simp [collectAll, ih]

/-- The trailer of a stream: what the collector hands on is what the listener gets. -/
theorem MirrorMap.trailer {K L : Type} {map map' : ExtTreeMap String (Incoming σ K L)}
    (h : MirrorMap contents map map') (hkeyed : KeyedMap map) (hkeyed' : KeyedMap map')
    (trailer : StreamTrailer) (kind : Kind) (call : Nat → StreamEvent L → Delivery)
    (hcall : ∀ handler event, collect contents (call handler event) =
      collectEvent kind contents event) :
    (map[trailer.streamId]?.toList.flatMap fun incoming : Incoming σ K L =>
        incoming.handler.toList.map (call · (incoming.trailerEvent trailer))) = [] ∧
      (map'[trailer.streamId]?.bind fun incoming : Incoming σ K L =>
        incoming.received trailer) = none ∧
      collectAll contents (map'[trailer.streamId]?.toList.flatMap fun incoming : Incoming σ K L =>
          incoming.handler.toList.map (call · (incoming.trailerEvent trailer))) =
        (contents, (map[trailer.streamId]?.bind fun incoming : Incoming σ K L =>
            incoming.received trailer).toList.map fun event =>
          ⟨kind, event.streamId, event.content⟩) := by
  rcases h.getElem? trailer.streamId with
    ⟨hnone, hnone'⟩ | ⟨incoming, incoming', hsome, hsome', hmirror⟩
  · rw [hnone, hnone']
    exact ⟨rfl, rfl, rfl⟩
  · have hid := (hkeyed _ _ hsome).1
    have hid' : (incoming'.trailerEvent trailer).info.streamId = trailer.streamId :=
      (hkeyed' _ _ hsome').2
    obtain ⟨handler, hhandler⟩ := Option.isSome_iff_exists.mp hmirror.handled
    rw [hsome, hsome']
    simp only [Option.toList_some, List.flatMap_cons, List.flatMap_nil, List.append_nil,
      Option.bind_some]
    rw [collectAll_handler kind contents hmirror.handled _ fun handler => hcall handler _]
    refine ⟨?_, ?_, ?_⟩
    · rw [hmirror.unhandled]
      rfl
    · simp [Incoming.received, hhandler]
    · unfold collectEvent
      dsimp only
      rw [hid']
      simp only [Incoming.received, hmirror.unhandled, Incoming.trailerEvent, hmirror.complete]
      by_cases hcomplete : incoming.complete trailer = true
      · simp [hcomplete, Incoming.closedEvent, hid, hmirror.buffer]
      · simp [hcomplete]

theorem received_listener (text : Option TextReceivedEvent) (file : Option FileReceivedEvent) :
    (text.toList.map Delivery.textReceived ++ file.toList.flatMap byteDeliveries).filterMap received =
      (text.toList.map fun event => ⟨.text, event.streamId, event.content⟩) ++
        file.toList.map fun event => ⟨.byte, event.streamId, event.content⟩ := by
  rw [List.filterMap_append]
  congr 1
  · cases text <;> rfl
  · cases file with
    | none => rfl
    | some event => simp [received_byteDeliveries]

theorem Mirrored.trailer (h : Mirrored texts bytes contents buffered streamed)
    (hkeyed : Keyed buffered) (hkeyed' : Keyed streamed) (trailer : StreamTrailer) :
    Agrees texts bytes contents (buffered.trailerEvent trailer)
      (streamed.trailerEvent trailer) := by
  obtain ⟨htext, hreceived, hcollect⟩ :=
    h.incomingTexts.trailer hkeyed.texts hkeyed'.texts trailer .text .textHandler
      fun _ _ => rfl
  obtain ⟨hfile, hreceived', hcollect'⟩ :=
    h.incomingFiles.trailer hkeyed.files hkeyed'.files trailer .byte .byteHandler
      fun _ _ => rfl
  have htexts := h.incomingTexts.erase trailer.streamId (contents trailer.streamId)
  have hfiles := h.incomingFiles.erase trailer.streamId (contents trailer.streamId)
  rw [Function.update_eq_self] at htexts hfiles
  have hcollected : collectAll contents (streamed.trailerEvent trailer).2 =
      (contents,
        ((buffered.incomingTexts[trailer.streamId]?.bind (·.received trailer)).toList.map
          fun event => ⟨.text, event.streamId, event.content⟩) ++
        (buffered.incomingFiles[trailer.streamId]?.bind (·.received trailer)).toList.map
          fun event => ⟨.byte, event.streamId, event.content⟩) := by
    unfold Room.trailerEvent
    dsimp only
    rw [hreceived, hreceived', collectAll_append, collectAll_append, hcollect, hcollect']
    simp [Room.toListener, collectAll]
  have hlistener : (buffered.trailerEvent trailer).2.filterMap received =
      ((buffered.incomingTexts[trailer.streamId]?.bind (·.received trailer)).toList.map
          fun event => ⟨.text, event.streamId, event.content⟩) ++
        (buffered.incomingFiles[trailer.streamId]?.bind (·.received trailer)).toList.map
          fun event => ⟨.byte, event.streamId, event.content⟩ := by
    unfold Room.trailerEvent
    dsimp only
    rw [htext, hfile, Room.toListener, if_pos h.hasListener, List.nil_append, List.nil_append,
      received_listener]
  unfold Agrees
  rw [hcollected, hlistener]
  exact ⟨{ h with incomingTexts := htexts, incomingFiles := hfiles }, rfl⟩

/-- What is no part of a stream is nothing to the collector, and no payload. -/
theorem agrees_idle {buffered' streamed' : Room σ}
    (h : Mirrored texts bytes contents buffered' streamed') (buffered streamed : Room σ)
    {delivery delivery' : Delivery} (hreceived : received delivery = none)
    (hcollect : collect contents delivery' = (contents, [])) :
    Agrees texts bytes contents (buffered', buffered.toListener [delivery])
      (streamed', streamed.toListener [delivery']) := by
  have hcollected : collectAll contents (streamed.toListener [delivery']) = (contents, []) := by
    unfold Room.toListener
    split
    · simp [collectAll, hcollect]
    · rfl
  unfold Agrees
  rw [hcollected]
  refine ⟨h, ?_⟩
  unfold Room.toListener
  split
  · simp [hreceived]
  · rfl

theorem Mirrored.packet {zlib : Zlib σ} (h : Mirrored texts bytes contents buffered streamed)
    (hkeyed : Keyed buffered) (hstored : Stored streamed) {arrival : Arrival}
    (hdeclares : DeclaresWithin arrival.packet) (hhandles : Handles texts bytes arrival.packet)
    (hwithin : Within (step zlib streamed arrival)) (hquiet : Undisturbed zlib streamed arrival) :
    Agrees texts bytes contents (buffered.dataPacketEvent zlib arrival.now arrival.packet)
      (streamed.dataPacketEvent zlib arrival.now arrival.packet) := by
  unfold DeclaresWithin at hdeclares
  unfold Handles at hhandles
  unfold Undisturbed at hquiet
  unfold step at hwithin
  unfold Room.dataPacketEvent at hwithin ⊢
  cases hvalue : arrival.packet.value with
  | streamHeader header =>
    rw [hvalue] at hdeclares hhandles hquiet
    dsimp only
    cases hcontent : header.contentHeader with
    | text text => exact h.textHeader arrival.packet hcontent hdeclares hhandles.1 hquiet
    | byte byte => exact h.byteHeader arrival.packet hcontent hdeclares hhandles.2 hquiet
    | notSet => exact ⟨h, rfl⟩
  | streamChunk chunk =>
    rw [hvalue] at hwithin
    exact h.chunk hstored hwithin
  | streamTrailer trailer => exact h.trailer hkeyed hstored.keyed trailer
  | transcription transcription =>
    have hmirrored : ∀ times times', Mirrored texts bytes contents
        { buffered with transcriptionReceivedTimes := times }
        { streamed with transcriptionReceivedTimes := times' } := fun _ _ => { h with }
    refine agrees_idle (hmirrored _ _) buffered streamed ?_ ?_ <;> rfl
  | user | sipDtmf | chatMessage | metrics =>
    refine agrees_idle h buffered streamed ?_ ?_ <;> rfl
  | _ => exact ⟨h, rfl⟩

/-! ## 5. Whole runs -/

theorem Mirrored.run {zlib : Zlib σ} (h : Mirrored texts bytes contents buffered streamed)
    (hkeyed : Keyed buffered) (hkeyed' : Keyed streamed) {accepted : String → List Bytes}
    (hkept : Kept ⟨streamed, accepted⟩) {arrivals : List Arrival}
    (hdeclares : ∀ arrival ∈ arrivals, DeclaresWithin arrival.packet)
    (hhandles : ∀ arrival ∈ arrivals, Handles texts bytes arrival.packet)
    (hwithin : Along (fun room arrival => Within (step zlib room arrival)) (step zlib) streamed
      arrivals)
    (hquiet : Along (Undisturbed zlib) (step zlib) streamed arrivals) :
    collectedByPacket zlib contents streamed arrivals =
      receivedByPacket zlib buffered arrivals := by
  induction arrivals generalizing contents buffered streamed accepted with
  | nil => rfl
  | cons arrival rest ih =>
    obtain ⟨hmirrored, hsame⟩ := h.packet hkeyed ⟨hkeyed', hkept.apart⟩
      (hdeclares arrival List.mem_cons_self) (hhandles arrival List.mem_cons_self)
      hwithin.1 hquiet.1
    rw [collectedByPacket, receivedByPacket, ← hsame]
    dsimp only
    congr 1
    exact ih hmirrored (hkeyed.dataPacketEvent _ _) (hkeyed'.dataPacketEvent _ _)
      (hkept.packet arrival.now arrival.packet)
      (fun arrival hmem => hdeclares arrival (List.mem_cons_of_mem _ hmem))
      (fun arrival hmem => hhandles arrival (List.mem_cons_of_mem _ hmem)) hwithin.2 hquiet.2

/-- **Streaming agrees with buffering**: packet by packet, what handlers for all topics
    join from `Open` to `Closed` is what a room without handlers hands to its listener. -/
theorem streaming_agrees_with_buffering (zlib : Zlib σ) (hasListener : Bool)
    (texts bytes : ExtTreeMap String Nat) (arrivals : List Arrival)
    (hhandles : ∀ arrival ∈ arrivals, Handles texts bytes arrival.packet)
    (hdeclares : ∀ arrival ∈ arrivals, DeclaresWithin arrival.packet)
    (hwithin : Along (fun room arrival => Within (step zlib room arrival)) (step zlib)
      (handlerRoom hasListener texts bytes) arrivals)
    (hquiet : Along (Undisturbed zlib) (step zlib) (handlerRoom hasListener texts bytes)
      arrivals) :
    collectedByPacket zlib (fun _ => []) (handlerRoom hasListener texts bytes) arrivals =
      receivedByPacket zlib (Room.new true) arrivals := by
  have hmirrored : Mirrored texts bytes (fun _ => []) (Room.new true : Room σ)
      (handlerRoom hasListener texts bytes) := by
    refine ⟨rfl, rfl, rfl, rfl, rfl, ?_, ?_⟩ <;> intro id
    · simp only [handlerRoom, Room.new, ExtTreeMap.getElem?_empty]
      exact .none
    · simp only [handlerRoom, Room.new, ExtTreeMap.getElem?_empty]
      exact .none
  have hkeyed := keyed_new (σ := σ) hasListener
  exact hmirrored.run (keyed_new true) ⟨hkeyed.texts, hkeyed.files⟩
    (kept_handlerRoom hasListener texts bytes) hdeclares hhandles hwithin hquiet

/-! ### Runs with and without an inline stream in between -/

def textStart (id : String) : Arrival :=
  ⟨0, { value := .streamHeader { streamId := id, contentHeader := .text {} } }⟩

def inlineHeader (id : String) (content : Bytes) : StreamHeader where
  streamId := id
  contentHeader := .text {}
  inlineContent := some content

def textInline (id : String) (content : Bytes) : Arrival :=
  ⟨0, { value := .streamHeader (inlineHeader id content) }⟩

def textPiece (id : String) (index : UInt64) (content : Bytes) : Arrival :=
  ⟨0, { value := .streamChunk { streamId := id, chunkIndex := index, content := content } }⟩

def textEnd (id : String) : Arrival := ⟨0, { value := .streamTrailer { streamId := id } }⟩

/-- The handlers of both kinds for the empty topic. -/
def oneTopic : ExtTreeMap String Nat := (∅ : ExtTreeMap String Nat).insert "" 1

/-- An inline stream, and a stream of two chunks under another id. -/
def twoIds : List Arrival :=
  [textStart "a", textPiece "a" 0 [1], textInline "b" [9], textPiece "a" 1 [2], textEnd "a"]

theorem streaming_agrees_twoIds :
    collectedByPacket noZlib (fun _ => []) (handlerRoom true oneTopic oneTopic) twoIds =
      receivedByPacket noZlib (Room.new true) twoIds ∧
    receivedByPacket noZlib (Room.new true) twoIds =
      [[], [], [⟨.text, "b", [9]⟩], [], [⟨.text, "a", [1, 2]⟩]] := by
  have hhandles : ∀ arrival ∈ twoIds, Handles oneTopic oneTopic arrival.packet := by
    simp [twoIds, Handles, textStart, textPiece, textInline, textEnd, inlineHeader, oneTopic]
  have hdeclares : ∀ arrival ∈ twoIds, DeclaresWithin arrival.packet := by
    simp [twoIds, DeclaresWithin, textStart, textPiece, textInline, textEnd, inlineHeader]
  have hwithin : Along (fun room arrival => Within (step noZlib room arrival)) (step noZlib)
      (handlerRoom true oneTopic oneTopic) twoIds := by
    decide
  have hquiet : Along (Undisturbed noZlib) (step noZlib) (handlerRoom true oneTopic oneTopic)
      twoIds := by
    refine ⟨?_, trivial, ?_, trivial, trivial, trivial⟩
    · intro h
      cases h
    · intro _
      exact ⟨rfl, rfl⟩
  exact ⟨streaming_agrees_with_buffering noZlib true oneTopic oneTopic twoIds hhandles hdeclares
    hwithin hquiet, by decide⟩

/-- An inline stream under the id of an open one: the listener gets `[1, 2]`, and the
    collector `[9, 2]`. -/
theorem inline_speaks_over_open_stream :
    ∃ arrivals : List Arrival,
      (∀ arrival ∈ arrivals, Handles oneTopic oneTopic arrival.packet) ∧
      (∀ arrival ∈ arrivals, DeclaresWithin arrival.packet) ∧
      Along (fun room arrival => Within (step noZlib room arrival)) (step noZlib)
        (handlerRoom true oneTopic oneTopic) arrivals ∧
      receivedByPacket noZlib (Room.new true) arrivals =
        [[], [], [⟨.text, "a", [9]⟩], [], [⟨.text, "a", [1, 2]⟩]] ∧
      collectedByPacket noZlib (fun _ => []) (handlerRoom true oneTopic oneTopic) arrivals =
        [[], [], [⟨.text, "a", [9]⟩], [], [⟨.text, "a", [9, 2]⟩]] := by
  refine ⟨[textStart "a", textPiece "a" 0 [1], textInline "a" [9], textPiece "a" 1 [2],
    textEnd "a"], ?_, ?_, by decide, by decide, by decide⟩
  · simp [Handles, textStart, textPiece, textInline, textEnd, inlineHeader, oneTopic]
  · simp [DeclaresWithin, textStart, textPiece, textInline, textEnd, inlineHeader]

end LivekitClient.StreamingDelivery
