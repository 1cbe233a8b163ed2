/-
  LivekitClient/IncomingDataStreams.lean
  ======================================
  **Incoming data packets** (`Room::DataPacketEvent` in `src/core/room.cpp`): data,
  chat and the rest are handed on at once; text and byte streams are put together
  from their header, chunks and trailer.

  Text and byte streams go through two copies of the same code over two maps.  Here
  the copies are one definition over the fields in which the two kinds differ, and
  the two maps stay two.  What a run of packets delivers is stated against a
  reference that looks at the packets of one stream only.
-/
import LivekitClient.DataStreamCompression

namespace LivekitClient.IncomingDataStreams

open Std
open LivekitClient.KeyProvider
open LivekitClient.DataPacket
open LivekitClient.DataStreamCompression

/-! ## 1. Events -/

structure DataReceivedEvent where
  payload : Bytes
  topic : String
  participantIdentity : String
  reliable : Bool
deriving DecidableEq

structure TranscriptionSegmentEvent where
  segment : TranscriptionSegment
  firstReceivedTime : Int
  lastReceivedTime : Int
deriving DecidableEq

structure TranscriptionReceivedEvent where
  transcribedParticipantIdentity : String
  trackId : String
  segments : List TranscriptionSegmentEvent
deriving DecidableEq

/-- What a text stream has and a byte stream has not. -/
structure TextFields where
  replyToStreamId : String
  attachedStreamIds : List String
deriving DecidableEq

structure FileFields where
  name : String
  mimeType : String
deriving DecidableEq

structure ByteFields where
  name : String
deriving DecidableEq

/-- `TextReceivedEvent` and `FileReceivedEvent`; the content is the `text` of the one
    and the `data` of the other. -/
structure ReceivedEvent (K : Type) where
  streamId : String
  topic : String
  participantIdentity : String
  attributes : Attributes
  timestamp : Int
  content : Bytes
  fields : K
deriving DecidableEq

abbrev TextReceivedEvent := ReceivedEvent TextFields

abbrev FileReceivedEvent := ReceivedEvent FileFields

/-- `TextStreamInfo` and `ByteStreamInfo`. -/
structure StreamInfo (L : Type) where
  streamId : String
  mimeType : String
  topic : String
  participantIdentity : String
  attributes : Attributes
  totalSize : Option UInt64
  timestamp : Int
  fields : L
deriving DecidableEq

inductive DataStreamEventType where
  | opened
  | chunk
  | closed
  | failed
deriving DecidableEq

/-- `TextStreamEvent` and `ByteStreamEvent`. -/
structure StreamEvent (L : Type) where
  info : StreamInfo L
  type : DataStreamEventType
  content : Bytes := []
  chunkIndex : UInt64 := 0
  reason : String := ""
deriving DecidableEq

/-- What the application gets: calls of the event listener, and calls of a topic
    handler, which is named by a number. -/
inductive Delivery where
  | dataReceived (event : DataReceivedEvent)
  | sipDtmfReceived (dtmf : SipDtmf) (participantIdentity : String)
  | chatMessageReceived (chat : ChatMessage) (participantIdentity : String)
  | transcriptionReceived (event : TranscriptionReceivedEvent)
  | metricsReceived (metrics : Bytes) (participantIdentity : String)
  | textReceived (event : TextReceivedEvent)
  | byteReceived (event : FileReceivedEvent)
  | fileReceived (event : FileReceivedEvent)
  | textHandler (handler : Nat) (event : StreamEvent TextFields)
  | byteHandler (handler : Nat) (event : StreamEvent ByteFields)
deriving DecidableEq

/-! ## 2. The store -/

/-- `IncomingText` and `IncomingFile`. -/
structure Incoming (σ K L : Type) where
  event : ReceivedEvent K
  info : StreamInfo L
  handler : Option Nat
  expectedLength : Option Nat
  receivedLength : Nat
  compressedLength : Nat
  nextChunk : UInt64
  inflater : Option (InflateRawStream σ)

abbrev IncomingText (σ : Type) := Incoming σ TextFields TextFields

abbrev IncomingFile (σ : Type) := Incoming σ FileFields ByteFields

/-- What of the room the data packets use. -/
structure Room (σ : Type) where
  hasListener : Bool
  textStreamHandlers : ExtTreeMap String Nat
  byteStreamHandlers : ExtTreeMap String Nat
  incomingTexts : ExtTreeMap String (IncomingText σ)
  incomingFiles : ExtTreeMap String (IncomingFile σ)
  transcriptionReceivedTimes : ExtTreeMap String Int

variable {σ : Type}

def Room.new (hasListener : Bool) : Room σ := ⟨hasListener, ∅, ∅, ∅, ∅, ∅⟩

def kMaximumBufferedDataStreamSize : Nat := 64 * 1024 * 1024

def isSupportedCompression (compression : CompressionType) : Bool :=
  compression == .none || compression == .deflateRaw

/-- An inflater with the limit of a buffered stream. -/
def newInflater (zlib : Zlib σ) : InflateRawStream σ :=
  .new zlib (UInt64.ofNat kMaximumBufferedDataStreamSize)

/-! ## 3. Headers -/

def decodeInlineContent (zlib : Zlib σ) (header : StreamHeader) (inlineContent : Bytes) :
    Option Bytes :=
  if header.compression = .none then
    if inlineContent.length ≤ kMaximumBufferedDataStreamSize then some inlineContent else none
  else if (newInflater zlib).isValid then
    match (newInflater zlib).write zlib inlineContent with
    | (true, output, inflater) => if inflater.finished then some output else none
    | (false, _, _) => none
  else none

/-- The declared length is refused. -/
def refusesLength (header : StreamHeader) (hasHandler : Bool) : Bool :=
  match header.totalLength with
  | none => false
  | some length =>
    (header.compression == .deflateRaw &&
        decide (kMaximumBufferedDataStreamSize < length.toNat)) ||
      (!hasHandler && decide (kMaximumBufferedDataStreamSize < length.toNat))

/-- What a stream header leads to: nothing, a stream whose content is in the header, or
    an open stream. -/
inductive HeaderOutcome (σ : Type) where
  | rejected
  | inline (content : Bytes)
  | opened (inflater : Option (InflateRawStream σ))

/-- The checks that text and byte headers share. -/
def headerOutcome (zlib : Zlib σ) (header : StreamHeader) (hasHandler : Bool) : HeaderOutcome σ :=
  if header.streamId = "" ∨ !isSupportedCompression header.compression then .rejected
  else if refusesLength header hasHandler then .rejected
  else if header.compression = .deflateRaw ∧ !(newInflater zlib).isValid then .rejected
  else
    match header.inlineContent with
    | some inlineContent =>
      match decodeInlineContent zlib header inlineContent with
      | none => .rejected
      | some content =>
        match header.totalLength with
        | none => .inline content
        | some length => if content.length ≠ length.toNat then .rejected else .inline content
    | none =>
      .opened (if header.compression = .deflateRaw then some (newInflater zlib) else none)

/-- The fields of `event` and `info` that both kinds fill in alike. -/
def newIncoming {K L : Type} (packet : Packet) (header : StreamHeader) (fields : K)
    (infoFields : L) (handler : Option Nat) (inflater : Option (InflateRawStream σ)) :
    Incoming σ K L where
  event :=
    { streamId := header.streamId, topic := header.topic,
      participantIdentity := packet.participantIdentity, attributes := header.attributes,
      timestamp := header.timestamp, content := [], fields := fields }
  info :=
    { streamId := header.streamId, mimeType := header.mimeType, topic := header.topic,
      participantIdentity := packet.participantIdentity, attributes := header.attributes,
      totalSize := header.totalLength, timestamp := header.timestamp, fields := infoFields }
  handler := handler
  expectedLength := header.totalLength.map UInt64.toNat
  receivedLength := 0
  compressedLength := 0
  nextChunk := 0
  inflater := inflater

def newText (packet : Packet) (header : StreamHeader) (text : TextHeader) (handler : Option Nat)
    (inflater : Option (InflateRawStream σ)) : IncomingText σ :=
  newIncoming packet header ⟨text.replyToStreamId, text.attachedStreamIds⟩
    ⟨text.replyToStreamId, text.attachedStreamIds⟩ handler inflater

def newFile (packet : Packet) (header : StreamHeader) (byte : ByteHeader) (handler : Option Nat)
    (inflater : Option (InflateRawStream σ)) : IncomingFile σ :=
  newIncoming packet header ⟨byte.name, header.mimeType⟩ ⟨byte.name⟩ handler inflater

/-- The three events of a stream whose content came with the header. -/
def inlineEvents {L : Type} (info : StreamInfo L) (content : Bytes) : List (StreamEvent L) :=
  [{ info := info, type := .opened }, { info := info, type := .chunk, content := content },
   { info := info, type := .closed }]

def byteDeliveries (event : FileReceivedEvent) : List Delivery :=
  .byteReceived event :: (if event.fields.name = "" then [] else [.fileReceived event])

def Room.toListener (room : Room σ) (deliveries : List Delivery) : List Delivery :=
  if room.hasListener then deliveries else []

def Room.textHeaderEvent (zlib : Zlib σ) (room : Room σ) (packet : Packet) (header : StreamHeader)
    (text : TextHeader) : Room σ × List Delivery :=
  let handler := room.textStreamHandlers[header.topic]?
  match headerOutcome zlib header handler.isSome with
  | .rejected => (room, [])
  | .inline content =>
    let incoming : IncomingText σ := newText packet header text handler none
    match handler with
    | some handler => (room, (inlineEvents incoming.info content).map (.textHandler handler))
    | none =>
      (room, room.toListener [.textReceived { incoming.event with content := content }])
  | .opened inflater =>
    let incoming := newText packet header text handler inflater
    ({ room with
        incomingFiles := room.incomingFiles.erase header.streamId
        incomingTexts := room.incomingTexts.insert header.streamId incoming },
     handler.toList.map (.textHandler · { info := incoming.info, type := .opened }))

def Room.byteHeaderEvent (zlib : Zlib σ) (room : Room σ) (packet : Packet) (header : StreamHeader)
    (byte : ByteHeader) : Room σ × List Delivery :=
  let handler := room.byteStreamHandlers[header.topic]?
  match headerOutcome zlib header handler.isSome with
  | .rejected => (room, [])
  | .inline content =>
    let incoming : IncomingFile σ := newFile packet header byte handler none
    match handler with
    | some handler => (room, (inlineEvents incoming.info content).map (.byteHandler handler))
    | none =>
      (room, room.toListener (byteDeliveries { incoming.event with content := content }))
  | .opened inflater =>
    let incoming := newFile packet header byte handler inflater
    ({ room with
        incomingTexts := room.incomingTexts.erase header.streamId
        incomingFiles := room.incomingFiles.insert header.streamId incoming },
     handler.toList.map (.byteHandler · { info := incoming.info, type := .opened }))

/-! ## 4. Chunks -/

namespace Incoming

variable {K L : Type}

/-- The content of a chunk, inflated if the stream is compressed, and the inflater
    after it; nothing if the content is not valid. -/
def decode (zlib : Zlib σ) (incoming : Incoming σ K L) (content : Bytes) :
    Option (Bytes × Option (InflateRawStream σ)) :=
  match incoming.inflater with
  | none => some (content, none)
  | some inflater =>
    if content.length ≤ kMaximumBufferedDataStreamSize - incoming.compressedLength then
      match inflater.write zlib content with
      | (true, decoded, inflater) => some (decoded, some inflater)
      | (false, _, _) => none
    else none

/-- The length of the content breaks a limit.  None of the subtractions wraps: what is
    subtracted has passed the same limit before. -/
def refusesContent (incoming : Incoming σ K L) (contentSize : Nat) : Bool :=
  decide (2 ^ 64 - 1 - incoming.receivedLength < contentSize) ||
    (match incoming.expectedLength with
     | none => false
     | some expected => decide (expected < incoming.receivedLength) ||
         decide (expected - incoming.receivedLength < contentSize)) ||
    (incoming.handler.isNone &&
      decide (kMaximumBufferedDataStreamSize - incoming.event.content.length < contentSize))

/-- The stream with one more piece of content. -/
def extend (incoming : Incoming σ K L) (content : Bytes) (inflater : Option (InflateRawStream σ))
    (compressedSize : Nat) : Incoming σ K L :=
  { incoming with
    inflater := inflater
    compressedLength :=
      if incoming.inflater.isSome then incoming.compressedLength + compressedSize
      else incoming.compressedLength
    receivedLength := incoming.receivedLength + content.length
    nextChunk := incoming.nextChunk + 1
    event :=
      if incoming.handler.isSome then incoming.event
      else { incoming.event with content := incoming.event.content ++ content } }

/-- A chunk: the stream with it, and its content; nothing if it is rejected. -/
def chunk (zlib : Zlib σ) (incoming : Incoming σ K L) (chunk : StreamChunk) :
    Option (Incoming σ K L × Bytes) :=
  match incoming.decode zlib chunk.content with
  | none => none
  | some (content, inflater) =>
    if chunk.chunkIndex ≠ incoming.nextChunk ∨ incoming.refusesContent content.length then none
    else some (incoming.extend content inflater chunk.content.length, content)

/-- The handler's event for a chunk. -/
def chunkEvent (incoming : Incoming σ K L) (chunk : StreamChunk) :
    Option (Incoming σ K L × Bytes) → StreamEvent L
  | none =>
    { info := incoming.info, type := .failed, chunkIndex := chunk.chunkIndex,
      reason := "invalid stream chunk" }
  | some (_, content) =>
    { info := incoming.info, type := .chunk, content := content, chunkIndex := chunk.chunkIndex }

/-- The stream goes on, or is dropped. -/
def store (map : ExtTreeMap String (Incoming σ K L)) (id : String) :
    Option (Incoming σ K L × Bytes) → ExtTreeMap String (Incoming σ K L)
  | none => map.erase id
  | some (incoming, _) => map.insert id incoming

end Incoming

def Room.chunkEvent (zlib : Zlib σ) (room : Room σ) (chunk : StreamChunk) :
    Room σ × List Delivery :=
  match room.incomingTexts[chunk.streamId]? with
  | some text =>
    let result := text.chunk zlib chunk
    ({ room with
        incomingTexts := Incoming.store room.incomingTexts chunk.streamId result },
     text.handler.toList.map (.textHandler · (text.chunkEvent chunk result)))
  | none =>
    match room.incomingFiles[chunk.streamId]? with
    | none => (room, [])
    | some bytes =>
      let result := bytes.chunk zlib chunk
      ({ room with
          incomingFiles := Incoming.store room.incomingFiles chunk.streamId result },
       bytes.handler.toList.map (.byteHandler · (bytes.chunkEvent chunk result)))

/-! ## 5. Trailers -/

/-- `attributes[key] = value` for all of `more`. -/
def setAttributes (attributes more : Attributes) : Attributes :=
  more.foldl (fun attributes key value => attributes.insert key value) attributes

namespace Incoming

variable {K L : Type}

def complete (incoming : Incoming σ K L) (trailer : StreamTrailer) : Bool :=
  decide (trailer.reason = "") &&
    (match incoming.inflater with
     | none => true
     | some inflater => inflater.finished) &&
    (match incoming.expectedLength with
     | none => true
     | some expected => decide (incoming.receivedLength = expected))

/-- `event`, with the attributes of the trailer. -/
def closedEvent (incoming : Incoming σ K L) (trailer : StreamTrailer) : ReceivedEvent K :=
  { incoming.event with
    attributes := setAttributes incoming.event.attributes trailer.attributes }

/-- The handler's event for the trailer. -/
def trailerEvent (incoming : Incoming σ K L) (trailer : StreamTrailer) : StreamEvent L where
  info := { incoming.info with
    attributes := setAttributes incoming.info.attributes trailer.attributes }
  type := if incoming.complete trailer then .closed else .failed
  reason :=
    if !incoming.complete trailer ∧ trailer.reason = "" then "incomplete stream"
    else trailer.reason

/-- The event to be handed to the listener, if there is no handler. -/
def received (incoming : Incoming σ K L) (trailer : StreamTrailer) : Option (ReceivedEvent K) :=
  if incoming.handler.isNone ∧ incoming.complete trailer then some (incoming.closedEvent trailer)
  else none

end Incoming

def Room.trailerEvent (room : Room σ) (trailer : StreamTrailer) : Room σ × List Delivery :=
  let text := room.incomingTexts[trailer.streamId]?
  let bytes := room.incomingFiles[trailer.streamId]?
  ({ room with
      incomingTexts := room.incomingTexts.erase trailer.streamId
      incomingFiles := room.incomingFiles.erase trailer.streamId },
   (text.toList.flatMap fun text =>
      text.handler.toList.map (.textHandler · (text.trailerEvent trailer))) ++
   (bytes.toList.flatMap fun bytes =>
      bytes.handler.toList.map (.byteHandler · (bytes.trailerEvent trailer))) ++
   room.toListener
     (((text.bind (·.received trailer)).toList.map .textReceived) ++
      (bytes.bind (·.received trailer)).toList.flatMap byteDeliveries))

/-! ## 6. All packets -/

def Room.transcriptionEvent (room : Room σ) (now : Int) (transcription : Transcription) :
    Room σ × List Delivery :=
  let (times, segments) := transcription.segments.foldl
    (fun (times, segments) segment =>
      let times := times.insertIfNew segment.id now
      let first := (times[segment.id]?).getD now
      (if segment.final then times.erase segment.id else times,
       segments ++ [⟨segment, first, now⟩]))
    (room.transcriptionReceivedTimes, [])
  ({ room with transcriptionReceivedTimes := times },
   room.toListener [.transcriptionReceived
     ⟨transcription.transcribedParticipantIdentity, transcription.trackId, segments⟩])

/-- `DataPacketEvent`, at the time `now`. -/
def Room.dataPacketEvent (zlib : Zlib σ) (room : Room σ) (now : Int) (packet : Packet) :
    Room σ × List Delivery :=
  match packet.value with
  | .user user =>
    (room, room.toListener [.dataReceived
      { payload := user.payload, topic := user.topic.getD "",
        participantIdentity :=
          if packet.participantIdentity = "" then user.participantIdentity
          else packet.participantIdentity,
        reliable := packet.kind != .lossy }])
  | .sipDtmf dtmf => (room, room.toListener [.sipDtmfReceived dtmf packet.participantIdentity])
  | .chatMessage chat =>
    (room, room.toListener [.chatMessageReceived chat packet.participantIdentity])
  | .transcription transcription => room.transcriptionEvent now transcription
  | .metrics metrics =>
    (room, room.toListener [.metricsReceived metrics packet.participantIdentity])
  | .streamHeader header =>
    match header.contentHeader with
    | .text text => room.textHeaderEvent zlib packet header text
    | .byte byte => room.byteHeaderEvent zlib packet header byte
    | .notSet => (room, [])
  | .streamChunk chunk => room.chunkEvent zlib chunk
  | .streamTrailer trailer => room.trailerEvent trailer
  | _ => (room, [])

/-- A packet and the time it came. -/
structure Arrival where
  now : Int
  packet : Packet

/-- The room after a run of packets. -/
def Room.run (zlib : Zlib σ) (room : Room σ) (arrivals : List Arrival) : Room σ :=
  arrivals.foldl (fun room arrival => (room.dataPacketEvent zlib arrival.now arrival.packet).1) room

/-- Everything that a run of packets delivers. -/
def Room.deliveries (zlib : Zlib σ) : Room σ → List Arrival → List Delivery
  | _, [] => []
  | room, arrival :: rest =>
    (room.dataPacketEvent zlib arrival.now arrival.packet).2 ++
      deliveries zlib (room.dataPacketEvent zlib arrival.now arrival.packet).1 rest

/-- `FailIncomingDataStreams`. -/
def Room.failIncomingDataStreams (room : Room σ) (reason : String) : Room σ × List Delivery :=
  ({ room with incomingTexts := ∅, incomingFiles := ∅, transcriptionReceivedTimes := ∅ },
   (room.incomingTexts.toList.flatMap fun (_, text) => text.handler.toList.map
      (.textHandler · { info := text.info, type := .failed, reason := reason })) ++
   (room.incomingFiles.toList.flatMap fun (_, bytes) => bytes.handler.toList.map
      (.byteHandler · { info := bytes.info, type := .failed, reason := reason })))

/-- Everything that happens to the streams of a room. -/
inductive Op where
  | packet (arrival : Arrival)
  | registerTextStreamHandler (topic : String) (handler : Nat)
  | unregisterTextStreamHandler (topic : String)
  | registerByteStreamHandler (topic : String) (handler : Nat)
  | unregisterByteStreamHandler (topic : String)
  | failIncomingDataStreams (reason : String)

def Room.apply (zlib : Zlib σ) (room : Room σ) : Op → Room σ
  | .packet arrival => (room.dataPacketEvent zlib arrival.now arrival.packet).1
  | .registerTextStreamHandler topic handler =>
    { room with textStreamHandlers := room.textStreamHandlers.insertIfNew topic handler }
  | .unregisterTextStreamHandler topic =>
    { room with textStreamHandlers := room.textStreamHandlers.erase topic }
  | .registerByteStreamHandler topic handler =>
    { room with byteStreamHandlers := room.byteStreamHandlers.insertIfNew topic handler }
  | .unregisterByteStreamHandler topic =>
    { room with byteStreamHandlers := room.byteStreamHandlers.erase topic }
  | .failIncomingDataStreams reason => (room.failIncomingDataStreams reason).1

/-- The rooms that can come about. -/
def Reachable (zlib : Zlib σ) (room : Room σ) : Prop :=
  ∃ (hasListener : Bool) (ops : List Op),
    room = ops.foldl (Room.apply zlib) (Room.new hasListener)

/-! ## 7. One stream at a time

A packet of one stream neither looks at nor touches the others. -/

/-- The stream that a packet is for. -/
def streamIdOf (packet : Packet) : Option String :=
  match packet.value with
  | .streamHeader header => some header.streamId
  | .streamChunk chunk => some chunk.streamId
  | .streamTrailer trailer => some trailer.streamId
  | _ => none

/-- The stream that a delivery is about. -/
def Delivery.streamId : Delivery → Option String
  | .textReceived event => some event.streamId
  | .byteReceived event => some event.streamId
  | .fileReceived event => some event.streamId
  | .textHandler _ event => some event.info.streamId
  | .byteHandler _ event => some event.info.streamId
  | _ => none

/-- Every stream is stored under its own id. -/
def KeyedMap {K L : Type} (map : ExtTreeMap String (Incoming σ K L)) : Prop :=
  ∀ (id : String) (incoming : Incoming σ K L), map[id]? = some incoming →
    incoming.event.streamId = id ∧ incoming.info.streamId = id

structure Keyed (room : Room σ) : Prop where
  texts : KeyedMap room.incomingTexts
  files : KeyedMap room.incomingFiles

theorem KeyedMap.erase {K L : Type} {map : ExtTreeMap String (Incoming σ K L)}
    (hmap : KeyedMap map) (id : String) : KeyedMap (map.erase id) := by
  intro other incoming hsome
  rw [ExtTreeMap.getElem?_erase] at hsome
  split at hsome
  · simp at hsome
  · exact hmap other incoming hsome

theorem KeyedMap.insert {K L : Type} {map : ExtTreeMap String (Incoming σ K L)}
    (hmap : KeyedMap map) {id : String} {incoming : Incoming σ K L}
    (hevent : incoming.event.streamId = id) (hinfo : incoming.info.streamId = id) :
    KeyedMap (map.insert id incoming) := by
  intro other found hsome
  rw [ExtTreeMap.getElem?_insert] at hsome
  split at hsome
  · rename_i heq
    cases hsome
    rw [LawfulEqOrd.compare_eq_iff_eq] at heq
    exact ⟨hevent.trans heq, hinfo.trans heq⟩
  · exact hmap other found hsome

/-- What a chunk leaves as it is. -/
theorem Incoming.chunk_frame {K L : Type} {zlib : Zlib σ} {incoming after : Incoming σ K L}
    {chunk : StreamChunk} {content : Bytes}
    (hchunk : incoming.chunk zlib chunk = some (after, content)) :
    after.info = incoming.info ∧ after.handler = incoming.handler ∧
      after.expectedLength = incoming.expectedLength ∧
      ∃ all, after.event = { incoming.event with content := all } := by
  unfold Incoming.chunk at hchunk
  split at hchunk
  · simp at hchunk
  · split at hchunk
    · simp at hchunk
    · cases hchunk
      refine ⟨rfl, rfl, rfl, ?_⟩
      unfold Incoming.extend
      dsimp only
      split
      · exact ⟨incoming.event.content, rfl⟩
      · exact ⟨_, rfl⟩

theorem Incoming.chunk_streamId {K L : Type} {zlib : Zlib σ} {incoming after : Incoming σ K L}
    {chunk : StreamChunk} {content : Bytes}
    (hchunk : incoming.chunk zlib chunk = some (after, content)) :
    after.event.streamId = incoming.event.streamId ∧
      after.info.streamId = incoming.info.streamId := by
  obtain ⟨hinfo, -, -, all, hevent⟩ := Incoming.chunk_frame hchunk
  exact ⟨by rw [hevent], by rw [hinfo]⟩

theorem Keyed.textHeaderEvent {zlib : Zlib σ} {room : Room σ} (hroom : Keyed room)
    (packet : Packet) (header : StreamHeader) (text : TextHeader) :
    Keyed (room.textHeaderEvent zlib packet header text).1 := by
  unfold Room.textHeaderEvent
  dsimp only
  split
  · exact hroom
  · split <;> exact hroom
  · exact ⟨hroom.texts.insert rfl rfl, hroom.files.erase _⟩

theorem Keyed.byteHeaderEvent {zlib : Zlib σ} {room : Room σ} (hroom : Keyed room)
    (packet : Packet) (header : StreamHeader) (byte : ByteHeader) :
    Keyed (room.byteHeaderEvent zlib packet header byte).1 := by
  unfold Room.byteHeaderEvent
  dsimp only
  split
  · exact hroom
  · split <;> exact hroom
  · exact ⟨hroom.texts.erase _, hroom.files.insert rfl rfl⟩

theorem KeyedMap.store {K L : Type} {zlib : Zlib σ} {map : ExtTreeMap String (Incoming σ K L)}
    (hmap : KeyedMap map) {chunk : StreamChunk} {incoming : Incoming σ K L}
    (hsome : map[chunk.streamId]? = some incoming) :
    KeyedMap (Incoming.store map chunk.streamId (incoming.chunk zlib chunk)) := by
  obtain ⟨hevent, hinfo⟩ := hmap _ _ hsome
  cases hchunk : incoming.chunk zlib chunk with
  | none => exact hmap.erase _
  | some result =>
    obtain ⟨after, content⟩ := result
    obtain ⟨hevent', hinfo'⟩ := Incoming.chunk_streamId hchunk
    exact hmap.insert (hevent'.trans hevent) (hinfo'.trans hinfo)

theorem Keyed.chunkEvent {zlib : Zlib σ} {room : Room σ} (hroom : Keyed room)
    (chunk : StreamChunk) : Keyed (room.chunkEvent zlib chunk).1 := by
  unfold Room.chunkEvent
  split
  · rename_i text htext
    exact ⟨hroom.texts.store htext, hroom.files⟩
  · split
    · exact hroom
    · rename_i bytes hbytes
      exact ⟨hroom.texts, hroom.files.store hbytes⟩

theorem Keyed.dataPacketEvent {zlib : Zlib σ} {room : Room σ} (hroom : Keyed room) (now : Int)
    (packet : Packet) : Keyed (room.dataPacketEvent zlib now packet).1 := by
  unfold Room.dataPacketEvent
  split
  case h_6 header _ =>
    split
    · exact hroom.textHeaderEvent packet header _
    · exact hroom.byteHeaderEvent packet header _
    · exact hroom
  case h_7 chunk _ => exact hroom.chunkEvent chunk
  case h_8 trailer _ => exact ⟨hroom.texts.erase _, hroom.files.erase _⟩
  all_goals exact ⟨hroom.texts, hroom.files⟩

theorem keyed_new (hasListener : Bool) : Keyed (Room.new hasListener : Room σ) := by
  constructor <;> intro id incoming hsome <;> simp [Room.new] at hsome

theorem Reachable.keyed {zlib : Zlib σ} {room : Room σ} (hroom : Reachable zlib room) :
    Keyed room := by
  obtain ⟨hasListener, ops, rfl⟩ := hroom
  generalize hstart : Room.new hasListener = start
  have hkeyed : Keyed start := by
    rw [← hstart]
    exact keyed_new hasListener
  clear hstart
  induction ops generalizing start with
  | nil => exact hkeyed
  | cons op ops ih =>
    apply ih _
    cases op with
    | packet arrival => exact hkeyed.dataPacketEvent _ _
    | failIncomingDataStreams reason =>
      constructor <;> intro id incoming hsome <;>
        simp [Room.apply, Room.failIncomingDataStreams] at hsome
    | _ => exact ⟨hkeyed.texts, hkeyed.files⟩

/-- Two rooms that a packet of stream `id` cannot tell apart. -/
structure AgreeAt (id : String) (room room' : Room σ) : Prop where
  hasListener : room.hasListener = room'.hasListener
  textStreamHandlers : room.textStreamHandlers = room'.textStreamHandlers
  byteStreamHandlers : room.byteStreamHandlers = room'.byteStreamHandlers
  texts : room.incomingTexts[id]? = room'.incomingTexts[id]?
  files : room.incomingFiles[id]? = room'.incomingFiles[id]?

theorem AgreeAt.refl (id : String) (room : Room σ) : AgreeAt id room room :=
  ⟨rfl, rfl, rfl, rfl, rfl⟩

theorem AgreeAt.trans {id : String} {room room' room'' : Room σ} (h : AgreeAt id room room')
    (h' : AgreeAt id room' room'') : AgreeAt id room room'' where
  hasListener := h.hasListener.trans h'.hasListener
  textStreamHandlers := h.textStreamHandlers.trans h'.textStreamHandlers
  byteStreamHandlers := h.byteStreamHandlers.trans h'.byteStreamHandlers
  texts := h.texts.trans h'.texts
  files := h.files.trans h'.files

theorem AgreeAt.symm {id : String} {room room' : Room σ} (h : AgreeAt id room room') :
    AgreeAt id room' room where
  hasListener := h.hasListener.symm
  textStreamHandlers := h.textStreamHandlers.symm
  byteStreamHandlers := h.byteStreamHandlers.symm
  texts := h.texts.symm
  files := h.files.symm

theorem getElem?_erase_of_ne {α : Type} (map : ExtTreeMap String α) {id other : String}
    (hne : id ≠ other) : (map.erase id)[other]? = map[other]? := by
  rw [ExtTreeMap.getElem?_erase, if_neg (by rwa [LawfulEqOrd.compare_eq_iff_eq])]

theorem getElem?_insert_of_ne {α : Type} (map : ExtTreeMap String α) {id other : String} (a : α)
    (hne : id ≠ other) : (map.insert id a)[other]? = map[other]? := by
  rw [ExtTreeMap.getElem?_insert, if_neg (by rwa [LawfulEqOrd.compare_eq_iff_eq])]

theorem getElem?_store_of_ne {K L : Type} (map : ExtTreeMap String (Incoming σ K L))
    {id other : String} (result : Option (Incoming σ K L × Bytes)) (hne : id ≠ other) :
    (Incoming.store map id result)[other]? = map[other]? := by
  cases result with
  | none => exact getElem?_erase_of_ne map hne
  | some result => exact getElem?_insert_of_ne map _ hne

theorem getElem?_store_self {K L : Type} (map : ExtTreeMap String (Incoming σ K L))
    (id : String) (result : Option (Incoming σ K L × Bytes)) :
    (Incoming.store map id result)[id]? = result.map (·.1) := by
  cases result <;> simp [Incoming.store]

/-! ### A packet of the stream -/

theorem AgreeAt.textHeaderEvent {zlib : Zlib σ} {room room' : Room σ} {header : StreamHeader}
    (h : AgreeAt header.streamId room room') (packet : Packet) (text : TextHeader) :
    AgreeAt header.streamId (room.textHeaderEvent zlib packet header text).1
        (room'.textHeaderEvent zlib packet header text).1 ∧
      (room.textHeaderEvent zlib packet header text).2 =
        (room'.textHeaderEvent zlib packet header text).2 := by
  unfold Room.textHeaderEvent
  dsimp only
  rw [← h.textStreamHandlers]
  split
  · exact ⟨h, rfl⟩
  · split
    · exact ⟨h, rfl⟩
    · exact ⟨h, by simp only [Room.toListener, h.hasListener]⟩
  · exact ⟨⟨h.hasListener, rfl, h.byteStreamHandlers, by simp, by simp⟩, rfl⟩

theorem AgreeAt.byteHeaderEvent {zlib : Zlib σ} {room room' : Room σ} {header : StreamHeader}
    (h : AgreeAt header.streamId room room') (packet : Packet) (byte : ByteHeader) :
    AgreeAt header.streamId (room.byteHeaderEvent zlib packet header byte).1
        (room'.byteHeaderEvent zlib packet header byte).1 ∧
      (room.byteHeaderEvent zlib packet header byte).2 =
        (room'.byteHeaderEvent zlib packet header byte).2 := by
  unfold Room.byteHeaderEvent
  dsimp only
  rw [← h.byteStreamHandlers]
  split
  · exact ⟨h, rfl⟩
  · split
    · exact ⟨h, rfl⟩
    · exact ⟨h, by simp only [Room.toListener, h.hasListener]⟩
  · exact ⟨⟨h.hasListener, h.textStreamHandlers, rfl, by simp, by simp⟩, rfl⟩

theorem AgreeAt.chunkEvent {zlib : Zlib σ} {room room' : Room σ} {chunk : StreamChunk}
    (h : AgreeAt chunk.streamId room room') :
    AgreeAt chunk.streamId (room.chunkEvent zlib chunk).1 (room'.chunkEvent zlib chunk).1 ∧
      (room.chunkEvent zlib chunk).2 = (room'.chunkEvent zlib chunk).2 := by
  unfold Room.chunkEvent
  rw [← h.texts, ← h.files]
  split
  · exact ⟨⟨h.hasListener, h.textStreamHandlers, h.byteStreamHandlers,
      by simp only [getElem?_store_self], h.files⟩, rfl⟩
  · split
    · exact ⟨h, rfl⟩
    · exact ⟨⟨h.hasListener, h.textStreamHandlers, h.byteStreamHandlers, h.texts,
        by simp only [getElem?_store_self]⟩, rfl⟩

theorem AgreeAt.trailerEvent {room room' : Room σ} {trailer : StreamTrailer}
    (h : AgreeAt trailer.streamId room room') :
    AgreeAt trailer.streamId (room.trailerEvent trailer).1 (room'.trailerEvent trailer).1 ∧
      (room.trailerEvent trailer).2 = (room'.trailerEvent trailer).2 := by
  unfold Room.trailerEvent
  dsimp only
  rw [← h.texts, ← h.files]
  refine ⟨⟨h.hasListener, h.textStreamHandlers, h.byteStreamHandlers, by simp, by simp⟩, ?_⟩
  simp only [Room.toListener, h.hasListener]

/-- A packet of the stream does the same in both rooms. -/
theorem AgreeAt.dataPacketEvent {id : String} {room room' : Room σ}
    (h : AgreeAt id room room') (zlib : Zlib σ) {packet : Packet}
    (hid : streamIdOf packet = some id) (now now' : Int) :
    AgreeAt id (room.dataPacketEvent zlib now packet).1
        (room'.dataPacketEvent zlib now' packet).1 ∧
      (room.dataPacketEvent zlib now packet).2 = (room'.dataPacketEvent zlib now' packet).2 := by
  unfold Room.dataPacketEvent
  unfold streamIdOf at hid
  cases hvalue : packet.value with
  | streamHeader header =>
    rw [hvalue] at hid
    cases hid
    dsimp only
    split
    · exact h.textHeaderEvent packet _
    · exact h.byteHeaderEvent packet _
    · exact ⟨h, rfl⟩
  | streamChunk chunk =>
    rw [hvalue] at hid
    cases hid
    exact h.chunkEvent
  | streamTrailer trailer =>
    rw [hvalue] at hid
    cases hid
    exact h.trailerEvent
  | _ => simp [hvalue] at hid

/-! ### A packet of another stream, or of none -/

theorem agreeAt_textHeaderEvent {zlib : Zlib σ} {id : String} (room : Room σ)
    {header : StreamHeader} (hne : header.streamId ≠ id) (packet : Packet) (text : TextHeader) :
    AgreeAt id room (room.textHeaderEvent zlib packet header text).1 := by
  unfold Room.textHeaderEvent
  dsimp only
  split
  · exact .refl id room
  · split <;> exact .refl id room
  · exact ⟨rfl, rfl, rfl, (getElem?_insert_of_ne _ _ hne).symm,
      (getElem?_erase_of_ne _ hne).symm⟩

theorem agreeAt_byteHeaderEvent {zlib : Zlib σ} {id : String} (room : Room σ)
    {header : StreamHeader} (hne : header.streamId ≠ id) (packet : Packet) (byte : ByteHeader) :
    AgreeAt id room (room.byteHeaderEvent zlib packet header byte).1 := by
  unfold Room.byteHeaderEvent
  dsimp only
  split
  · exact .refl id room
  · split <;> exact .refl id room
  · exact ⟨rfl, rfl, rfl, (getElem?_erase_of_ne _ hne).symm,
      (getElem?_insert_of_ne _ _ hne).symm⟩

theorem agreeAt_chunkEvent {zlib : Zlib σ} {id : String} (room : Room σ) {chunk : StreamChunk}
    (hne : chunk.streamId ≠ id) : AgreeAt id room (room.chunkEvent zlib chunk).1 := by
  unfold Room.chunkEvent
  split
  · exact ⟨rfl, rfl, rfl, (getElem?_store_of_ne _ _ hne).symm, rfl⟩
  · split
    · exact .refl id room
    · exact ⟨rfl, rfl, rfl, rfl, (getElem?_store_of_ne _ _ hne).symm⟩

/-- The room as the stream sees it stays. -/
theorem agreeAt_dataPacketEvent (zlib : Zlib σ) {id : String} (room : Room σ) (now : Int)
    {packet : Packet} (hid : streamIdOf packet ≠ some id) :
    AgreeAt id room (room.dataPacketEvent zlib now packet).1 := by
  unfold Room.dataPacketEvent
  unfold streamIdOf at hid
  cases hvalue : packet.value with
  | streamHeader header =>
    rw [hvalue] at hid
    have hne : header.streamId ≠ id := fun h => hid (congrArg some h)
    dsimp only
    split
    · exact agreeAt_textHeaderEvent room hne packet _
    · exact agreeAt_byteHeaderEvent room hne packet _
    · exact .refl id room
  | streamChunk chunk =>
    rw [hvalue] at hid
    exact agreeAt_chunkEvent room fun h => hid (congrArg some h)
  | streamTrailer trailer =>
    rw [hvalue] at hid
    have hne : trailer.streamId ≠ id := fun h => hid (congrArg some h)
    exact ⟨rfl, rfl, rfl, (getElem?_erase_of_ne _ hne).symm, (getElem?_erase_of_ne _ hne).symm⟩
  | transcription => exact ⟨rfl, rfl, rfl, rfl, rfl⟩
  | _ => exact .refl id room

/-! ### What is delivered -/

theorem mem_toListener {room : Room σ} {deliveries : List Delivery} {delivery : Delivery}
    (hmem : delivery ∈ room.toListener deliveries) : delivery ∈ deliveries := by
  unfold Room.toListener at hmem
  split at hmem
  · exact hmem
  · simp at hmem

theorem streamId_byteDeliveries {event : FileReceivedEvent} {delivery : Delivery}
    (hmem : delivery ∈ byteDeliveries event) : delivery.streamId = some event.streamId := by
  unfold byteDeliveries at hmem
  rcases List.mem_cons.mp hmem with rfl | hmem
  · rfl
  · split at hmem
    · simp at hmem
    · rw [List.mem_singleton.mp hmem]
      rfl

theorem streamId_inlineEvents {L : Type} {info : StreamInfo L} {content : Bytes}
    {event : StreamEvent L} (hmem : event ∈ inlineEvents info content) : event.info = info := by
  simp only [inlineEvents, List.mem_cons, List.not_mem_nil, or_false] at hmem
  rcases hmem with rfl | rfl | rfl <;> rfl

theorem streamId_textHeaderEvent {zlib : Zlib σ} {room : Room σ} {packet : Packet}
    {header : StreamHeader} {text : TextHeader} {delivery : Delivery}
    (hmem : delivery ∈ (room.textHeaderEvent zlib packet header text).2) :
    delivery.streamId = some header.streamId := by
  unfold Room.textHeaderEvent at hmem
  dsimp only at hmem
  split at hmem
  · simp at hmem
  · split at hmem
    · obtain ⟨event, hevent, rfl⟩ := List.mem_map.mp hmem
      rw [Delivery.streamId, streamId_inlineEvents hevent]
      rfl
    · rw [List.mem_singleton.mp (mem_toListener hmem)]
      rfl
  · obtain ⟨handler, -, rfl⟩ := List.mem_map.mp hmem
    rfl

theorem streamId_byteHeaderEvent {zlib : Zlib σ} {room : Room σ} {packet : Packet}
    {header : StreamHeader} {byte : ByteHeader} {delivery : Delivery}
    (hmem : delivery ∈ (room.byteHeaderEvent zlib packet header byte).2) :
    delivery.streamId = some header.streamId := by
  unfold Room.byteHeaderEvent at hmem
  dsimp only at hmem
  split at hmem
  · simp at hmem
  · split at hmem
    · obtain ⟨event, hevent, rfl⟩ := List.mem_map.mp hmem
      rw [Delivery.streamId, streamId_inlineEvents hevent]
      rfl
    · exact streamId_byteDeliveries (mem_toListener hmem)
  · obtain ⟨handler, -, rfl⟩ := List.mem_map.mp hmem
    rfl

theorem Incoming.info_chunkEvent {K L : Type} (incoming : Incoming σ K L) (chunk : StreamChunk)
    (result : Option (Incoming σ K L × Bytes)) :
    (incoming.chunkEvent chunk result).info = incoming.info := by
  cases result <;> rfl

theorem streamId_chunkEvent {zlib : Zlib σ} {room : Room σ} (hroom : Keyed room)
    {chunk : StreamChunk} {delivery : Delivery}
    (hmem : delivery ∈ (room.chunkEvent zlib chunk).2) :
    delivery.streamId = some chunk.streamId := by
  unfold Room.chunkEvent at hmem
  split at hmem
  · rename_i text htext
    obtain ⟨handler, -, rfl⟩ := List.mem_map.mp hmem
    rw [Delivery.streamId, Incoming.info_chunkEvent, (hroom.texts _ _ htext).2]
  · split at hmem
    · simp at hmem
    · rename_i bytes hbytes
      obtain ⟨handler, -, rfl⟩ := List.mem_map.mp hmem
      rw [Delivery.streamId, Incoming.info_chunkEvent, (hroom.files _ _ hbytes).2]

theorem Incoming.streamId_received {K L : Type} {incoming : Incoming σ K L}
    {trailer : StreamTrailer} {event : ReceivedEvent K}
    (hreceived : incoming.received trailer = some event) :
    event.streamId = incoming.event.streamId := by
  unfold Incoming.received at hreceived
  split at hreceived
  · cases hreceived
    rfl
  · simp at hreceived

theorem streamId_trailerEvent {room : Room σ} (hroom : Keyed room) {trailer : StreamTrailer}
    {delivery : Delivery} (hmem : delivery ∈ (room.trailerEvent trailer).2) :
    delivery.streamId = some trailer.streamId := by
  unfold Room.trailerEvent at hmem
  simp only [List.mem_append, List.mem_flatMap, Option.mem_toList] at hmem
  rcases hmem with (⟨text, htext, hmem⟩ | ⟨bytes, hbytes, hmem⟩) | hmem
  · obtain ⟨handler, -, rfl⟩ := List.mem_map.mp hmem
    exact congrArg some (hroom.texts _ _ htext).2
  · obtain ⟨handler, -, rfl⟩ := List.mem_map.mp hmem
    exact congrArg some (hroom.files _ _ hbytes).2
  · rcases List.mem_append.mp (mem_toListener hmem) with hmem | hmem
    · obtain ⟨event, hevent, rfl⟩ := List.mem_map.mp hmem
      obtain ⟨text, htext, hreceived⟩ := Option.bind_eq_some_iff.mp (Option.mem_toList.mp hevent)
      exact congrArg some
        ((Incoming.streamId_received hreceived).trans (hroom.texts _ _ htext).1)
    · obtain ⟨event, hevent, hmem⟩ := List.mem_flatMap.mp hmem
      obtain ⟨bytes, hbytes, hreceived⟩ := Option.bind_eq_some_iff.mp (Option.mem_toList.mp hevent)
      rw [streamId_byteDeliveries hmem, Incoming.streamId_received hreceived,
        (hroom.files _ _ hbytes).1]

/-- A packet delivers only for its own stream. -/
theorem streamId_dataPacketEvent {zlib : Zlib σ} {room : Room σ} (hroom : Keyed room) {now : Int}
    {packet : Packet} {delivery : Delivery}
    (hmem : delivery ∈ (room.dataPacketEvent zlib now packet).2) :
    delivery.streamId = streamIdOf packet := by
  unfold Room.dataPacketEvent at hmem
  unfold streamIdOf
  cases hvalue : packet.value with
  | streamHeader header =>
    simp only [hvalue] at hmem
    split at hmem
    · exact streamId_textHeaderEvent hmem
    · exact streamId_byteHeaderEvent hmem
    · simp at hmem
  | streamChunk chunk =>
    simp only [hvalue] at hmem
    exact streamId_chunkEvent hroom hmem
  | streamTrailer trailer =>
    simp only [hvalue] at hmem
    exact streamId_trailerEvent hroom hmem
  | user | sipDtmf | chatMessage | transcription | metrics =>
    simp only [hvalue] at hmem
    rw [List.mem_singleton.mp (mem_toListener hmem)]
    rfl
  | _ => simp [hvalue] at hmem

/-- The deliveries about one stream. -/
def forStream (id : String) (deliveries : List Delivery) : List Delivery :=
  deliveries.filter fun delivery => delivery.streamId = some id

/-- The packets of one stream. -/
def ofStream (id : String) (arrivals : List Arrival) : List Packet :=
  (arrivals.map (·.packet)).filter fun packet => streamIdOf packet = some id

/-- The packets on their own; a stream does not look at the time. -/
def alone (packets : List Packet) : List Arrival := packets.map (Arrival.mk 0)

theorem forStream_dataPacketEvent_of_ne {zlib : Zlib σ} {room : Room σ} (hroom : Keyed room)
    {id : String} {now : Int} {packet : Packet} (hid : streamIdOf packet ≠ some id) :
    forStream id (room.dataPacketEvent zlib now packet).2 = [] := by
  apply List.filter_eq_nil_iff.mpr
  intro delivery hmem
  simpa [streamId_dataPacketEvent hroom hmem] using hid

theorem forStream_append (id : String) (deliveries more : List Delivery) :
    forStream id (deliveries ++ more) = forStream id deliveries ++ forStream id more :=
  List.filter_append ..

/-- What happens to a stream depends on its own packets only. -/
theorem AgreeAt.run {zlib : Zlib σ} {id : String} {room room' : Room σ}
    (h : AgreeAt id room room') (hroom : Keyed room) (hroom' : Keyed room')
    (arrivals : List Arrival) :
    AgreeAt id (room.run zlib arrivals) (room'.run zlib (alone (ofStream id arrivals))) ∧
      forStream id (room.deliveries zlib arrivals) =
        forStream id (room'.deliveries zlib (alone (ofStream id arrivals))) := by
  induction arrivals generalizing room room' with
  | nil => exact ⟨h, rfl⟩
  | cons arrival rest ih =>
    by_cases hid : streamIdOf arrival.packet = some id
    · obtain ⟨hnext, hsame⟩ := h.dataPacketEvent zlib hid arrival.now 0
      have hcons : alone (ofStream id (arrival :: rest)) =
          ⟨0, arrival.packet⟩ :: alone (ofStream id rest) := by
        simp [ofStream, alone, hid]
      obtain ⟨hagree, hrest⟩ := ih hnext (hroom.dataPacketEvent _ _) (hroom'.dataPacketEvent _ _)
      rw [hcons]
      refine ⟨hagree, ?_⟩
      rw [Room.deliveries, Room.deliveries, forStream_append, forStream_append, hsame, hrest]
    · have hnext := (agreeAt_dataPacketEvent zlib room arrival.now hid).symm.trans h
      have hcons : ofStream id (arrival :: rest) = ofStream id rest := by
        simp [ofStream, hid]
      obtain ⟨hagree, hrest⟩ := ih hnext (hroom.dataPacketEvent _ _) hroom'
      rw [hcons]
      refine ⟨hagree, ?_⟩
      rw [Room.deliveries, forStream_append, forStream_dataPacketEvent_of_ne hroom hid, hrest]
      rfl

end LivekitClient.IncomingDataStreams
