/-
  LivekitClient/OutgoingDataStreams.lean
  ======================================
  **Sending a text, bytes or a file** (`src/core/participant/local_participant.cpp`):
  `SendText`, `SendBytes` and `SendFile` send a header, the payload cut into chunks,
  and a trailer.

  What `SendDataPacket` returns is up to the engine; the packets it was given are kept
  in order.  Fed to a room (`IncomingDataStreams`), the packets of an uncompressed
  stream come out as the payload that went in.
-/
import LivekitClient.StreamReassembly

namespace LivekitClient.OutgoingDataStreams

open Std
open LivekitClient.KeyProvider
open LivekitClient.DataPacket
open LivekitClient.DataStreamCompression
open LivekitClient.IncomingDataStreams
open LivekitClient.StreamReassembly

/-! ## 1. Options and the engine -/

/-- What the options of the three calls have in common. -/
structure StreamOptions where
  topic : String := ""
  destinationIdentities : List String := []
  attributes : Attributes := ∅
  chunkSize : Nat := 15000
  compress : Bool := false

structure TextSendOptions extends StreamOptions where
  replyToStreamId : String := ""
  attachedStreamIds : List String := []

structure ByteSendOptions extends StreamOptions where
  mimeType : String := "application/octet-stream"
  name : String := ""

structure FileSendOptions extends StreamOptions where
  topic := "files"
  mimeType : String := "application/octet-stream"

def kMaximumDataStreamChunkSize : Nat := 15000

def kMaximumCompressedDataStreamSize : Nat := 64 * 1024 * 1024

/-- The engine as a sender sees it: whether there is one, what its `n`-th
    `SendDataPacket` returns, and the packets so far. -/
structure Engine where
  present : Bool
  results : Nat → Bool
  sent : List Packet

def Engine.sendDataPacket (engine : Engine) (packet : Packet) : Bool × Engine :=
  (engine.results engine.sent.length, { engine with sent := engine.sent ++ [packet] })

/-- An engine that sends everything. -/
def Engine.reliable : Engine := ⟨true, fun _ => true, []⟩

/-! ## 2. Packets -/

def populateStreamPacket (options : StreamOptions) (value : Value) : Packet :=
  { destinationIdentities := options.destinationIdentities, value := value }

/-- The fields of a new header that all three calls set. -/
def populateStreamHeader (options : StreamOptions) (streamId : String) (timestamp : Int)
    (totalLength : Nat) : StreamHeader where
  streamId := streamId
  timestamp := timestamp
  topic := options.topic
  totalLength := some (UInt64.ofNat totalLength)
  compression := if options.compress then .deflateRaw else .none
  attributes := options.attributes

def chunkPacket (options : StreamOptions) (streamId : String) (chunkIndex : UInt64)
    (content : Bytes) : Packet :=
  populateStreamPacket options
    (.streamChunk { streamId := streamId, chunkIndex := chunkIndex, content := content })

def trailerPacket (options : StreamOptions) (streamId : String) : Packet :=
  populateStreamPacket options (.streamTrailer { streamId := streamId })

def textHeaderPacket (options : TextSendOptions) (streamId : String) (timestamp : Int)
    (size : Nat) : Packet :=
  populateStreamPacket options.toStreamOptions (.streamHeader
    { populateStreamHeader options.toStreamOptions streamId timestamp size with
      mimeType := "text/plain"
      contentHeader := .text
        { operationType := .create, replyToStreamId := options.replyToStreamId,
          attachedStreamIds := options.attachedStreamIds } })

def byteHeaderPacket (options : StreamOptions) (streamId : String) (timestamp : Int)
    (size : Nat) (mimeType name : String) : Packet :=
  populateStreamPacket options (.streamHeader
    { populateStreamHeader options streamId timestamp size with
      mimeType := mimeType
      contentHeader := .byte { name := name } })

/-! ## 3. Sending -/

/-- The pieces of at most `size` bytes that a loop over the data makes. -/
def piecesLoop (size : Nat) : Nat → Bytes → List Bytes
  | 0, _ => []
  | fuel + 1, data =>
    if data = [] then [] else data.take size :: piecesLoop size fuel (data.drop size)

def pieces (size : Nat) (data : Bytes) : List Bytes := piecesLoop size data.length data

def sendPieces (streamId : String) (options : StreamOptions) :
    Engine → UInt64 → List Bytes → Bool × Engine × UInt64
  | engine, chunkIndex, [] => (true, engine, chunkIndex)
  | engine, chunkIndex, piece :: rest =>
    match engine.sendDataPacket (chunkPacket options streamId chunkIndex piece) with
    | (false, engine) => (false, engine, chunkIndex + 1)
    | (true, engine) => sendPieces streamId options engine (chunkIndex + 1) rest

def sendStreamChunks (engine : Engine) (streamId : String) (data : Bytes)
    (options : StreamOptions) (chunkIndex : UInt64) : Bool × Engine × UInt64 :=
  if !engine.present || options.chunkSize == 0 ||
      decide (kMaximumDataStreamChunkSize < options.chunkSize) then
    (false, engine, chunkIndex)
  else sendPieces streamId options engine chunkIndex (pieces options.chunkSize data)

variable {σ : Type}

/-- All pieces through the deflater. -/
def deflateAll (zlib : Zlib σ) : DeflateRawStream σ → List Bytes →
    Option (Bytes × DeflateRawStream σ)
  | deflater, [] => some ([], deflater)
  | deflater, piece :: rest =>
    match deflater.write zlib piece with
    | (false, _, _) => none
    | (true, output, deflater) =>
      match deflateAll zlib deflater rest with
      | none => none
      | some (more, deflater) => some (output ++ more, deflater)

/-- The payload as it is cut into chunks. -/
def compressPayload (zlib : Zlib σ) (options : StreamOptions) (data : Bytes) : Option Bytes :=
  if !options.compress then some data
  else if !(DeflateRawStream.new zlib).isValid then none
  else
    match deflateAll zlib (.new zlib) (pieces options.chunkSize data) with
    | none => none
    | some (compressed, deflater) =>
      match deflater.finish zlib with
      | (false, _, _) => none
      | (true, rest, _) => some (compressed ++ rest)

def sendStreamPayload (zlib : Zlib σ) (engine : Engine) (streamId : String) (data : Bytes)
    (options : StreamOptions) : Bool × Engine :=
  if options.compress && decide (kMaximumCompressedDataStreamSize < data.length) then
    (false, engine)
  else
    match compressPayload zlib options data with
    | none => (false, engine)
    | some data =>
      match sendStreamChunks engine streamId data options 0 with
      | (false, engine, _) => (false, engine)
      | (true, engine, _) => engine.sendDataPacket (trailerPacket options streamId)

/-- The arguments are refused before anything is sent. -/
def refusesOptions (engine : Engine) (options : StreamOptions) : Bool :=
  !engine.present || options.chunkSize == 0 ||
    decide (kMaximumDataStreamChunkSize < options.chunkSize)

def refusesCompressed (options : StreamOptions) (size : Nat) : Bool :=
  options.compress && decide (kMaximumCompressedDataStreamSize < size)

/-- `SendText`; the id is a random UUID. -/
def sendText (zlib : Zlib σ) (engine : Engine) (streamId : String) (timestamp : Int)
    (text : Bytes) (options : TextSendOptions) : Bool × Engine :=
  if refusesOptions engine options.toStreamOptions ||
      refusesCompressed options.toStreamOptions text.length then
    (false, engine)
  else
    match engine.sendDataPacket (textHeaderPacket options streamId timestamp text.length) with
    | (false, engine) => (false, engine)
    | (true, engine) => sendStreamPayload zlib engine streamId text options.toStreamOptions

def sendBytes (zlib : Zlib σ) (engine : Engine) (streamId : String) (timestamp : Int)
    (data : Bytes) (options : ByteSendOptions) : Bool × Engine :=
  if refusesOptions engine options.toStreamOptions ||
      refusesCompressed options.toStreamOptions data.length then
    (false, engine)
  else
    match engine.sendDataPacket (byteHeaderPacket options.toStreamOptions streamId timestamp
        data.length options.mimeType options.name) with
    | (false, engine) => (false, engine)
    | (true, engine) => sendStreamPayload zlib engine streamId data options.toStreamOptions

/-- The loop of `SendFile`: a read of the file at a time, deflated and sent. -/
def sendReads (zlib : Zlib σ) (streamId : String) (options : StreamOptions) :
    Engine → Option (DeflateRawStream σ) → UInt64 → List Bytes →
      Bool × Engine × Option (DeflateRawStream σ) × UInt64
  | engine, deflater, chunkIndex, [] => (true, engine, deflater, chunkIndex)
  | engine, none, chunkIndex, read :: rest =>
    match sendStreamChunks engine streamId read options chunkIndex with
    | (false, engine, chunkIndex) => (false, engine, none, chunkIndex)
    | (true, engine, chunkIndex) => sendReads zlib streamId options engine none chunkIndex rest
  | engine, some deflater, chunkIndex, read :: rest =>
    match deflater.write zlib read with
    | (false, _, deflater) => (false, engine, some deflater, chunkIndex)
    | (true, compressed, deflater) =>
      match sendStreamChunks engine streamId compressed options chunkIndex with
      | (false, engine, chunkIndex) => (false, engine, some deflater, chunkIndex)
      | (true, engine, chunkIndex) =>
        sendReads zlib streamId options engine (some deflater) chunkIndex rest

/-- `std::filesystem::path(path).filename()`: what follows the last slash. -/
def filename (path : String) : String :=
  String.ofList (path.toList.reverse.takeWhile (· ≠ '/')).reverse

/-- The end of the deflate stream, if there is one, and the trailer. -/
def finishFile (zlib : Zlib σ) (streamId : String) (options : StreamOptions) (engine : Engine)
    (deflater : Option (DeflateRawStream σ)) (chunkIndex : UInt64) : Bool × Engine :=
  match deflater with
  | none => engine.sendDataPacket (trailerPacket options streamId)
  | some deflater =>
    match deflater.finish zlib with
    | (false, _, _) => (false, engine)
    | (true, compressed, _) =>
      match sendStreamChunks engine streamId compressed options chunkIndex with
      | (false, engine, _) => (false, engine)
      | (true, engine, _) => engine.sendDataPacket (trailerPacket options streamId)

/-- `SendFile`, with the content of the file, if it can be opened. -/
def sendFile (zlib : Zlib σ) (engine : Engine) (streamId : String) (timestamp : Int)
    (path : String) (content : Option Bytes) (options : FileSendOptions) : Bool × Engine :=
  if refusesOptions engine options.toStreamOptions then (false, engine)
  else
    match content with
    | none => (false, engine)
    | some content =>
      if refusesCompressed options.toStreamOptions content.length then (false, engine)
      else
        match engine.sendDataPacket (byteHeaderPacket options.toStreamOptions streamId timestamp
            content.length options.mimeType (filename path)) with
        | (false, engine) => (false, engine)
        | (true, engine) =>
          let deflater := if options.compress then some (DeflateRawStream.new zlib) else none
          if options.compress && !(DeflateRawStream.new zlib).isValid then (false, engine)
          else
            match sendReads zlib streamId options.toStreamOptions engine deflater 0
                (pieces options.chunkSize content) with
            | (false, engine, _, _) => (false, engine)
            | (true, engine, deflater, chunkIndex) =>
              finishFile zlib streamId options.toStreamOptions engine deflater chunkIndex

/-! ## 4. The packets of an uncompressed stream -/

def chunkPackets (options : StreamOptions) (streamId : String) : Nat → List Bytes → List Packet
  | _, [] => []
  | start, piece :: rest =>
    chunkPacket options streamId (UInt64.ofNat start) piece ::
      chunkPackets options streamId (start + 1) rest

/-- Contents as a stream: the header, a chunk for each, the trailer. -/
def framed (options : StreamOptions) (header : StreamHeader) (contents : List Bytes)
    (reason : String) : List Packet :=
  populateStreamPacket options (.streamHeader header) ::
    chunkPackets options header.streamId 0 contents ++
      [populateStreamPacket options
        (.streamTrailer { streamId := header.streamId, reason := reason })]

theorem flatten_piecesLoop {size : Nat} (hsize : 0 < size) {fuel : Nat} {data : Bytes}
    (hfuel : data.length ≤ fuel) : (piecesLoop size fuel data).flatten = data := by
  induction fuel generalizing data with
  | zero => simp [piecesLoop, List.length_eq_zero_iff.mp (Nat.le_zero.mp hfuel)]
  | succ fuel ih =>
    rw [piecesLoop]
    split
    · rename_i hempty
      rw [hempty]
      rfl
    · rename_i hne
      have hpos : 0 < data.length := List.length_pos_iff.mpr hne
      rw [List.flatten_cons, ih (by rw [List.length_drop]; omega), List.take_append_drop]

/-- The pieces are the payload. -/
theorem flatten_pieces {size : Nat} (hsize : 0 < size) (data : Bytes) :
    (pieces size data).flatten = data :=
  flatten_piecesLoop hsize (Nat.le_refl _)

theorem mem_piecesLoop {size fuel : Nat} (hsize : 0 < size) {data piece : Bytes}
    (hmem : piece ∈ piecesLoop size fuel data) : piece ≠ [] ∧ piece.length ≤ size := by
  induction fuel generalizing data with
  | zero => simp [piecesLoop] at hmem
  | succ fuel ih =>
    rw [piecesLoop] at hmem
    split at hmem
    · simp at hmem
    · rename_i hne
      rcases List.mem_cons.mp hmem with rfl | hmem
      · refine ⟨?_, List.length_take_le _ _⟩
        have hpos : 0 < data.length := List.length_pos_iff.mpr hne
        exact List.length_pos_iff.mp (by rw [List.length_take]; omega)
      · exact ih hmem

theorem mem_pieces {size : Nat} (hsize : 0 < size) {data piece : Bytes}
    (hmem : piece ∈ pieces size data) : piece ≠ [] ∧ piece.length ≤ size :=
  mem_piecesLoop hsize hmem

/-- A read of the file is one piece. -/
theorem pieces_of_read {size : Nat} {read : Bytes} (hne : read ≠ []) (hlength : read.length ≤ size) :
    pieces size read = [read] := by
  unfold pieces
  cases hread : read.length with
  | zero => exact absurd (List.length_eq_zero_iff.mp hread) hne
  | succ n =>
    rw [piecesLoop, if_neg hne, List.take_of_length_le hlength, List.drop_of_length_le hlength]
    cases n <;> simp [piecesLoop]

section Reliable

variable {engine : Engine} (hresults : ∀ n, engine.results n = true)
include hresults

theorem sendDataPacket_reliable (packet : Packet) :
    engine.sendDataPacket packet = (true, { engine with sent := engine.sent ++ [packet] }) := by
  simp [Engine.sendDataPacket, hresults]

theorem sendPieces_reliable (streamId : String) (options : StreamOptions) (start : Nat)
    (data : List Bytes) :
    sendPieces streamId options engine (UInt64.ofNat start) data =
      (true, { engine with sent := engine.sent ++ chunkPackets options streamId start data },
        UInt64.ofNat (start + data.length)) := by
  induction data generalizing engine start with
  | nil => simp [sendPieces, chunkPackets]
  | cons piece rest ih =>
    have hnext : UInt64.ofNat start + 1 = UInt64.ofNat (start + 1) := by
      rw [UInt64.ofNat_add]
      rfl
    have hrest := fun packet => @ih { engine with sent := engine.sent ++ [packet] } hresults
    rw [sendPieces, sendDataPacket_reliable hresults]
    dsimp only
    rw [hnext, hrest]
    simp [chunkPackets, Nat.add_assoc, Nat.add_comm 1]

theorem sendStreamChunks_reliable (hpresent : engine.present = true) (streamId : String)
    {options : StreamOptions} (hpos : 0 < options.chunkSize)
    (hmax : options.chunkSize ≤ kMaximumDataStreamChunkSize) (start : Nat) (data : Bytes) :
    sendStreamChunks engine streamId data options (UInt64.ofNat start) =
      (true,
       { engine with
         sent := engine.sent ++
           chunkPackets options streamId start (pieces options.chunkSize data) },
       UInt64.ofNat (start + (pieces options.chunkSize data).length)) := by
  have hzero : options.chunkSize ≠ 0 := by omega
  have hlarge : ¬ kMaximumDataStreamChunkSize < options.chunkSize := by omega
  rw [sendStreamChunks, if_neg (by simp [hpresent, hzero, hlarge]), sendPieces_reliable hresults]

theorem sendReads_reliable (hpresent : engine.present = true) (zlib : Zlib σ) (streamId : String)
    {options : StreamOptions} (hpos : 0 < options.chunkSize)
    (hmax : options.chunkSize ≤ kMaximumDataStreamChunkSize) (start : Nat) (reads : List Bytes)
    (hreads : ∀ read ∈ reads, read ≠ [] ∧ read.length ≤ options.chunkSize) :
    sendReads zlib streamId options engine none (UInt64.ofNat start) reads =
      (true, { engine with sent := engine.sent ++ chunkPackets options streamId start reads },
        none, UInt64.ofNat (start + reads.length)) := by
  induction reads generalizing engine start with
  | nil => simp [sendReads, chunkPackets]
  | cons read rest ih =>
    obtain ⟨hne, hlength⟩ := hreads read List.mem_cons_self
    have hrest := fun packets => @ih { engine with sent := engine.sent ++ packets } hresults
      hpresent (start + 1) fun other hmem => hreads other (List.mem_cons_of_mem _ hmem)
    rw [sendReads, sendStreamChunks_reliable hresults hpresent streamId hpos hmax,
      pieces_of_read hne hlength]
    dsimp only
    rw [List.length_singleton, hrest]
    simp [chunkPackets, Nat.add_assoc, Nat.add_comm 1]

end Reliable

/-! ## 5. What is sent -/

/-- One of the three calls. -/
inductive Sending where
  | text (text : Bytes) (options : TextSendOptions)
  | bytes (data : Bytes) (options : ByteSendOptions)
  | file (path : String) (content : Bytes) (options : FileSendOptions)

namespace Sending

def options : Sending → StreamOptions
  | text _ options => options.toStreamOptions
  | bytes _ options => options.toStreamOptions
  | file _ _ options => options.toStreamOptions

def payload : Sending → Bytes
  | text content _ => content
  | bytes data _ => data
  | file _ content _ => content

def send (zlib : Zlib σ) (engine : Engine) (streamId : String) (timestamp : Int) :
    Sending → Bool × Engine
  | text content options => sendText zlib engine streamId timestamp content options
  | bytes data options => sendBytes zlib engine streamId timestamp data options
  | file path content options =>
    sendFile zlib engine streamId timestamp path (some content) options

/-- The handler of the receiver for the topic. -/
def handler (room : Room σ) : Sending → Option Nat
  | text _ options => room.textStreamHandlers[options.topic]?
  | bytes _ options => room.byteStreamHandlers[options.topic]?
  | file _ _ options => room.byteStreamHandlers[options.topic]?

/-- What the receiver is to get. -/
def received (streamId : String) (timestamp : Int) (identity : String) : Sending → List Delivery
  | text content options =>
    [.textReceived
      { streamId := streamId, topic := options.topic, participantIdentity := identity,
        attributes := options.attributes, timestamp := timestamp, content := content,
        fields := ⟨options.replyToStreamId, options.attachedStreamIds⟩ }]
  | bytes data options =>
    byteDeliveries
      { streamId := streamId, topic := options.topic, participantIdentity := identity,
        attributes := options.attributes, timestamp := timestamp, content := data,
        fields := ⟨options.name, options.mimeType⟩ }
  | file path content options =>
    byteDeliveries
      { streamId := streamId, topic := options.topic, participantIdentity := identity,
        attributes := options.attributes, timestamp := timestamp, content := content,
        fields := ⟨filename path, options.mimeType⟩ }

/-- The header of the stream. -/
def header (streamId : String) (timestamp : Int) : Sending → StreamHeader
  | text content options =>
    { populateStreamHeader options.toStreamOptions streamId timestamp content.length with
      mimeType := "text/plain"
      contentHeader := .text
        { operationType := .create, replyToStreamId := options.replyToStreamId,
          attachedStreamIds := options.attachedStreamIds } }
  | bytes data options =>
    { populateStreamHeader options.toStreamOptions streamId timestamp data.length with
      mimeType := options.mimeType
      contentHeader := .byte { name := options.name } }
  | file path content options =>
    { populateStreamHeader options.toStreamOptions streamId timestamp content.length with
      mimeType := options.mimeType
      contentHeader := .byte { name := filename path } }

/-- The packets of an uncompressed stream. -/
def packets (sending : Sending) (streamId : String) (timestamp : Int) : List Packet :=
  populateStreamPacket sending.options (.streamHeader (sending.header streamId timestamp)) ::
    chunkPackets sending.options streamId 0 (pieces sending.options.chunkSize sending.payload) ++
      [trailerPacket sending.options streamId]

/-- A call that the sender accepts without compressing. -/
structure Accepted (sending : Sending) : Prop where
  compress : sending.options.compress = false
  chunkSize_pos : 0 < sending.options.chunkSize
  chunkSize_le : sending.options.chunkSize ≤ kMaximumDataStreamChunkSize

end Sending

theorem refusesOptions_reliable {options : StreamOptions} (hpos : 0 < options.chunkSize)
    (hmax : options.chunkSize ≤ kMaximumDataStreamChunkSize) :
    refusesOptions Engine.reliable options = false := by
  have hzero : options.chunkSize ≠ 0 := by omega
  have hlarge : ¬ kMaximumDataStreamChunkSize < options.chunkSize := by omega
  simp [refusesOptions, Engine.reliable, hzero, hlarge]

theorem sendStreamPayload_reliable {engine : Engine} (hresults : ∀ n, engine.results n = true)
    (hpresent : engine.present = true) (zlib : Zlib σ) (streamId : String)
    {options : StreamOptions} (hcompress : options.compress = false) (hpos : 0 < options.chunkSize)
    (hmax : options.chunkSize ≤ kMaximumDataStreamChunkSize) (data : Bytes) :
    sendStreamPayload zlib engine streamId data options =
      (true,
       { engine with
         sent := engine.sent ++
           (chunkPackets options streamId 0 (pieces options.chunkSize data) ++
             [trailerPacket options streamId]) }) := by
  have hchunks := sendStreamChunks_reliable hresults hpresent streamId hpos hmax 0 data
  rw [sendStreamPayload, if_neg (by simp [hcompress]), compressPayload, if_pos (by simp [hcompress])]
  dsimp only
  rw [show (0 : UInt64) = UInt64.ofNat 0 from rfl, hchunks]
  dsimp only
  rw [sendDataPacket_reliable (by exact hresults)]
  simp

/-- The three calls send the same kind of packets. -/
theorem Sending.send_reliable {sending : Sending} (h : sending.Accepted) (zlib : Zlib σ)
    (streamId : String) (timestamp : Int) :
    sending.send zlib Engine.reliable streamId timestamp =
      (true, { Engine.reliable with sent := sending.packets streamId timestamp }) := by
  obtain ⟨hcompress, hpos, hmax⟩ := h
  have hrefuses := refusesOptions_reliable hpos hmax
  have hsent : ∀ packet, Engine.reliable.sendDataPacket packet =
      (true, ⟨true, fun _ => true, [packet]⟩) :=
    fun packet => sendDataPacket_reliable (fun _ => rfl) packet
  have hpayload := fun packet => @sendStreamPayload_reliable σ ⟨true, fun _ => true, [packet]⟩
    (fun _ => rfl) rfl zlib streamId _ hcompress hpos hmax sending.payload
  cases sending with
  | text content options =>
    simp only [Sending.options] at hcompress hrefuses
    rw [Sending.send, sendText, if_neg (by simp [hrefuses, refusesCompressed, hcompress]), hsent]
    exact hpayload _
  | bytes data options =>
    simp only [Sending.options] at hcompress hrefuses
    rw [Sending.send, sendBytes, if_neg (by simp [hrefuses, refusesCompressed, hcompress]), hsent]
    exact hpayload _
  | file path content options =>
    simp only [Sending.options] at hcompress hrefuses hpos hmax
    have hreads := fun packet => @sendReads_reliable σ ⟨true, fun _ => true, [packet]⟩
      (fun _ => rfl) rfl zlib streamId _ hpos hmax 0 (pieces options.chunkSize content)
      fun read hmem => mem_pieces hpos hmem
    rw [Sending.send, sendFile, if_neg (by simp [hrefuses])]
    dsimp only
    rw [if_neg (by simp [refusesCompressed, hcompress]), hsent]
    dsimp only
    rw [if_neg (by simp [hcompress]), hcompress, if_neg (by decide)]
    rw [show (0 : UInt64) = UInt64.ofNat 0 from rfl, hreads]
    dsimp only
    rw [finishFile, sendDataPacket_reliable (fun _ => rfl)]
    rfl

/-! ## 6. What is received -/

/-- The server names the sender. -/
def relay (identity : String) (packet : Packet) : Packet :=
  { packet with participantIdentity := identity }

/-- The chunks of the packets. -/
def streamChunks (streamId : String) : Nat → List Bytes → List StreamChunk
  | _, [] => []
  | start, piece :: rest =>
    { streamId := streamId, chunkIndex := UInt64.ofNat start, content := piece } ::
      streamChunks streamId (start + 1) rest

theorem map_content_streamChunks (streamId : String) (start : Nat) (data : List Bytes) :
    (streamChunks streamId start data).map (·.content) = data := by
  induction data generalizing start with
  | nil => rfl
  | cons piece rest ih => rw [streamChunks, List.map_cons, ih]

theorem map_chunkIndex_streamChunks (streamId : String) (start : Nat) (data : List Bytes) :
    (streamChunks streamId start data).map (·.chunkIndex) =
      indices start (streamChunks streamId start data).length := by
  induction data generalizing start with
  | nil => rfl
  | cons piece rest ih =>
    rw [streamChunks, List.map_cons, ih, List.length_cons, indices, indices, List.range'_succ]
    rfl

theorem decodeAll_none (zlib : Zlib σ) (data : List Bytes) :
    decodeAll zlib none data = some (data.flatten, none) := by
  induction data with
  | nil => rfl
  | cons piece rest ih => simp [decodeAll, decodeOne, ih]

section Received

variable {sending : Sending} (h : sending.Accepted)
  (hsize : sending.payload.length ≤ kMaximumBufferedDataStreamSize)
  (streamId : String) (timestamp : Int)

include h in
theorem Sending.header_compression :
    (sending.header streamId timestamp).compression = .none := by
  have hcompress := h.compress
  cases sending <;> simp_all [Sending.header, Sending.options, populateStreamHeader]

theorem Sending.header_totalLength :
    (sending.header streamId timestamp).totalLength =
      some (UInt64.ofNat sending.payload.length) := by
  cases sending <;> rfl

theorem Sending.header_streamId : (sending.header streamId timestamp).streamId = streamId := by
  cases sending <;> rfl

theorem Sending.header_contentHeader :
    (sending.header streamId timestamp).contentHeader ≠ .notSet := by
  cases sending <;> simp [Sending.header]

include hsize in
theorem Sending.toNat_totalLength :
    (UInt64.ofNat sending.payload.length).toNat = sending.payload.length := by
  have hlimit : kMaximumBufferedDataStreamSize < 2 ^ 64 := by decide
  rw [UInt64.toNat_ofNat']
  exact Nat.mod_eq_of_lt (by omega)

include h hsize in
/-- The header opens a stream. -/
theorem Sending.headerOutcome_header (hid : streamId ≠ "") (zlib : Zlib σ) :
    headerOutcome zlib (sending.header streamId timestamp) false = .opened none := by
  have hcompression := Sending.header_compression h streamId timestamp
  have hlength : ¬ kMaximumBufferedDataStreamSize < sending.payload.length := by omega
  have hinline : (sending.header streamId timestamp).inlineContent = none := by
    cases sending <;> rfl
  have hrefuses : refusesLength (sending.header streamId timestamp) false = false := by
    simp [refusesLength, Sending.header_totalLength, hcompression,
      Sending.toNat_totalLength hsize, hlength]
  simp [headerOutcome, Sending.header_streamId, hid, hcompression, isSupportedCompression,
    hrefuses, hinline]

include h hsize in
/-- The chunks make up the payload. -/
theorem Sending.reassemble_chunks (zlib : Zlib σ) :
    reassemble zlib (sending.header streamId timestamp)
      (streamChunks streamId 0 (pieces sending.options.chunkSize sending.payload)) =
        some sending.payload := by
  have hcompression := Sending.header_compression h streamId timestamp
  have hstart : startInflater zlib (sending.header streamId timestamp) = none := by
    simp [startInflater, hcompression]
  rw [reassemble, hstart, map_content_streamChunks, decodeAll_none, flatten_pieces h.chunkSize_pos]
  dsimp only
  rw [if_pos]
  refine ⟨map_chunkIndex_streamChunks .., hsize, by simp [hcompression], rfl, ?_⟩
  rw [all_totalLength]
  intro length hmem
  rw [Sending.header_totalLength] at hmem
  cases hmem
  exact (Sending.toNat_totalLength hsize).symm

end Received

section Arrivals

variable (options : StreamOptions) (streamId identity : String)

/-- The chunks as they arrive. -/
def chunkArrivals (start : Nat) (data : List Bytes) : List Arrival :=
  alone ((chunkPackets options streamId start data).map (relay identity))

theorem chunkArrivals_cons (start : Nat) (piece : Bytes) (rest : List Bytes) :
    chunkArrivals options streamId identity start (piece :: rest) =
      ⟨0, relay identity (chunkPacket options streamId (UInt64.ofNat start) piece)⟩ ::
        chunkArrivals options streamId identity (start + 1) rest :=
  rfl

theorem lastOpening_chunkArrivals (zlib : Zlib σ) (start : Nat) (data : List Bytes) :
    lastOpening zlib streamId (chunkArrivals options streamId identity start data) = none := by
  induction data generalizing start with
  | nil => rfl
  | cons piece rest ih =>
    rw [chunkArrivals_cons, lastOpening, ih]
    rfl

theorem hasTrailer_chunkArrivals (start : Nat) (data : List Bytes) :
    hasTrailer streamId (chunkArrivals options streamId identity start data) = false := by
  induction data generalizing start with
  | nil => rfl
  | cons piece rest ih =>
    rw [chunkArrivals_cons, hasTrailer, List.any_cons, ← hasTrailer, ih]
    rfl

theorem chunksOf_chunkArrivals (start : Nat) (data : List Bytes) :
    chunksOf streamId (chunkArrivals options streamId identity start data) =
      streamChunks streamId start data := by
  induction data generalizing start with
  | nil => rfl
  | cons piece rest ih =>
    have hchunk : chunkOf streamId
        (relay identity (chunkPacket options streamId (UInt64.ofNat start) piece)) =
          some { streamId := streamId, chunkIndex := UInt64.ofNat start, content := piece } :=
      if_pos rfl
    rw [chunkArrivals_cons, chunksOf, List.filterMap_cons, hchunk]
    dsimp only
    rw [← chunksOf, ih]
    rfl

/-- Chunks deliver nothing. -/
theorem references_chunkArrivals (zlib : Zlib σ) (before : List Arrival) (start : Nat)
    (data : List Bytes) :
    references zlib before (chunkArrivals options streamId identity start data) = [] := by
  induction data generalizing before start with
  | nil => rfl
  | cons piece rest ih =>
    rw [chunkArrivals_cons, references, ih]
    rfl

end Arrivals

section Framed

variable (options : StreamOptions) (header : StreamHeader) (contents : List Bytes)
  (reason identity : String)

/-- The packets as they arrive. -/
theorem relayed_framed :
    alone ((framed options header contents reason).map (relay identity)) =
      ⟨0, relay identity (populateStreamPacket options (.streamHeader header))⟩ ::
        (chunkArrivals options header.streamId identity 0 contents ++
          [⟨0, relay identity (populateStreamPacket options
            (.streamTrailer { streamId := header.streamId, reason := reason }))⟩]) := by
  simp [framed, alone, chunkArrivals]

/-- What a stream of these contents delivers when it ends. -/
def framedDelivery (zlib : Zlib σ) : List Delivery :=
  if reason ≠ "" then []
  else
    (reassemble zlib header (streamChunks header.streamId 0 contents)).elim []
      (completed (relay identity (populateStreamPacket options (.streamHeader header))) header
        { streamId := header.streamId, reason := reason })

/-- Header and chunks open the stream and deliver nothing; the trailer delivers what the
    chunks make up. -/
theorem references_framed {zlib : Zlib σ} {inflater : Option (InflateRawStream σ)}
    (hkind : header.contentHeader ≠ .notSet)
    (houtcome : headerOutcome zlib header false = .opened inflater) :
    references zlib [] (alone ((framed options header contents reason).map (relay identity))) =
      framedDelivery options header contents reason identity zlib := by
  have hopens : opens zlib header.streamId
      (relay identity (populateStreamPacket options (.streamHeader header))) = some header := by
    simp [opens, relay, populateStreamPacket, houtcome, hkind]
  have hheader : reference zlib []
      (relay identity (populateStreamPacket options (.streamHeader header))) = [] := by
    simp [reference, relay, populateStreamPacket, atHeader, houtcome]
  rw [relayed_framed, references, hheader, references_append, references_chunkArrivals]
  simp only [List.nil_append, references, List.append_nil, List.singleton_append]
  have htrailer : ∀ before, reference zlib before (relay identity (populateStreamPacket options
      (.streamTrailer { streamId := header.streamId, reason := reason }))) =
        atTrailer zlib before { streamId := header.streamId, reason := reason } := fun _ => rfl
  rw [htrailer, atTrailer, framedDelivery]
  dsimp only
  split
  · rfl
  rw [lastOpening, lastOpening_chunkArrivals, hopens]
  simp only [Option.map_some, hasTrailer_chunkArrivals, chunksOf_chunkArrivals,
    Bool.false_eq_true, if_false]
  cases reassemble zlib header (streamChunks header.streamId 0 contents) <;> rfl

/-- Only the header looks for a handler. -/
theorem unhandled_framed {room : Room σ}
    (hhandler : Unhandled room (relay identity (populateStreamPacket options (.streamHeader header))))
    {arrival : Arrival}
    (hmem : arrival ∈ alone ((framed options header contents reason).map (relay identity))) :
    Unhandled room arrival.packet := by
  have hchunk : ∀ (data : List Bytes) (start : Nat) (arrival : Arrival),
      arrival ∈ chunkArrivals options header.streamId identity start data →
        Unhandled room arrival.packet := by
    intro data
    induction data with
    | nil => intro start arrival hmem; cases hmem
    | cons piece rest ih =>
      intro start arrival hmem
      rw [chunkArrivals_cons] at hmem
      rcases List.mem_cons.mp hmem with rfl | hmem
      · trivial
      · exact ih (start + 1) arrival hmem
  rw [relayed_framed] at hmem
  rcases List.mem_cons.mp hmem with rfl | hmem
  · exact hhandler
  · rcases List.mem_append.mp hmem with hmem | hmem
    · exact hchunk _ _ _ hmem
    · rw [List.mem_singleton.mp hmem]
      trivial

end Framed

section Received

variable {sending : Sending} {streamId : String} (timestamp : Int) (identity : String)

theorem Sending.packets_eq_framed :
    sending.packets streamId timestamp =
      framed sending.options (sending.header streamId timestamp)
        (pieces sending.options.chunkSize sending.payload) "" := by
  cases sending <;> rfl

/-- The payload, complete, is what the receiver is to get. -/
theorem Sending.framedDelivery_payload {zlib : Zlib σ} {contents : List Bytes}
    (hpayload : reassemble zlib (sending.header streamId timestamp)
      (streamChunks streamId 0 contents) = some sending.payload) :
    framedDelivery sending.options (sending.header streamId timestamp) contents "" identity zlib =
      sending.received streamId timestamp identity := by
  rw [framedDelivery, if_neg (not_not.mpr rfl), Sending.header_streamId, hpayload,
    Option.elim_some]
  cases sending <;>
    simp [completed, Sending.header, Sending.received, setAttributes_empty, relay,
      populateStreamPacket, populateStreamHeader, Sending.payload]

theorem Sending.unhandled_header {room : Room σ} (hhandler : sending.handler room = none) :
    Unhandled room (relay identity (populateStreamPacket sending.options
      (.streamHeader (sending.header streamId timestamp)))) := by
  cases sending <;> exact hhandler

theorem streamId_received {delivery : Delivery}
    (hmem : delivery ∈ sending.received streamId timestamp identity) :
    delivery.streamId = some streamId := by
  cases sending with
  | text content options =>
    rw [List.mem_singleton.mp hmem]
    rfl
  | bytes data options => exact streamId_byteDeliveries hmem
  | file path content options => exact streamId_byteDeliveries hmem

theorem forStream_received :
    forStream streamId (sending.received streamId timestamp identity) =
      sending.received streamId timestamp identity := by
  refine List.filter_eq_self.mpr fun delivery hmem => ?_
  exact decide_eq_true (streamId_received timestamp identity hmem)

end Received

theorem forStream_filter_isSome (id : String) (deliveries : List Delivery) :
    forStream id (deliveries.filter fun delivery => delivery.streamId.isSome) =
      forStream id deliveries := by
  unfold forStream
  rw [List.filter_filter]
  refine List.filter_congr fun delivery _ => ?_
  cases delivery.streamId <;> simp

/-- The packets of the other streams, and those of none. -/
def others (id : String) (arrivals : List Arrival) : List Arrival :=
  arrivals.filter fun arrival => streamIdOf arrival.packet ≠ some id

theorem ofStream_others_self (id : String) (arrivals : List Arrival) :
    ofStream id (others id arrivals) = [] := by
  refine List.filter_eq_nil_iff.mpr fun packet hmem => ?_
  obtain ⟨arrival, harrival, rfl⟩ := List.mem_map.mp hmem
  simpa [others] using (List.mem_filter.mp harrival).2

theorem ofStream_others_of_ne {id other : String} (hne : other ≠ id) (arrivals : List Arrival) :
    ofStream other (others id arrivals) = ofStream other arrivals := by
  unfold ofStream others
  rw [List.filter_map, List.filter_map, List.filter_filter]
  congr 1
  refine List.filter_congr fun arrival _ => ?_
  by_cases hstream : streamIdOf arrival.packet = some other <;> simp_all

/-- The stream leaves nothing behind, and nothing else is touched. -/
theorem run_eq_run_others {zlib : Zlib σ} {room : Room σ} (hroom : Keyed room) {id : String}
    {arrivals : List Arrival}
    (htexts : (room.run zlib arrivals).incomingTexts[id]? = room.incomingTexts[id]?)
    (hfiles : (room.run zlib arrivals).incomingFiles[id]? = room.incomingFiles[id]?) :
    (room.run zlib arrivals).incomingTexts = (room.run zlib (others id arrivals)).incomingTexts ∧
      (room.run zlib arrivals).incomingFiles =
        (room.run zlib (others id arrivals)).incomingFiles := by
  have halone := fun other arrivals =>
    (@AgreeAt.run σ zlib other room room (.refl other room) hroom hroom arrivals).1
  have hself := halone id (others id arrivals)
  rw [ofStream_others_self] at hself
  have hsame : ∀ other, other ≠ id →
      AgreeAt other (room.run zlib arrivals) (room.run zlib (others id arrivals)) := by
    intro other hne
    have hother := halone other (others id arrivals)
    rw [ofStream_others_of_ne hne] at hother
    exact (halone other arrivals).trans hother.symm
  constructor <;> refine ExtTreeMap.ext_getElem? fun other => ?_ <;> by_cases hne : other = id
  · subst hne
    exact htexts.trans hself.texts.symm
  · exact (hsame other hne).texts
  · subst hne
    exact hfiles.trans hself.files.symm
  · exact (hsame other hne).files

/-- A stream delivers what its chunks make up, whatever packets of other streams come
    between, and leaves nothing behind. -/
theorem deliveries_framed {zlib : Zlib σ} {room : Room σ} (hroom : Reachable zlib room)
    (hlistener : room.hasListener = true) {options : StreamOptions} {header : StreamHeader}
    {contents : List Bytes} {reason identity : String}
    (hhandler : Unhandled room (relay identity (populateStreamPacket options (.streamHeader header))))
    (htexts : room.incomingTexts[header.streamId]? = none)
    (hfiles : room.incomingFiles[header.streamId]? = none)
    (hkind : header.contentHeader ≠ .notSet) {inflater : Option (InflateRawStream σ)}
    (houtcome : headerOutcome zlib header false = .opened inflater) {arrivals : List Arrival}
    (harrivals : ofStream header.streamId arrivals =
      (framed options header contents reason).map (relay identity)) :
    forStream header.streamId (room.deliveries zlib arrivals) =
        forStream header.streamId (framedDelivery options header contents reason identity zlib) ∧
      (room.run zlib arrivals).incomingTexts =
        (room.run zlib (others header.streamId arrivals)).incomingTexts ∧
      (room.run zlib arrivals).incomingFiles =
        (room.run zlib (others header.streamId arrivals)).incomingFiles := by
  -- the stream sees the same as in a room where no stream is open
  let empty : Room σ := { room with incomingTexts := ∅, incomingFiles := ∅ }
  have hagree : AgreeAt header.streamId room empty := ⟨rfl, rfl, rfl, by simp [htexts, empty],
    by simp [hfiles, empty]⟩
  have hkeyed : Keyed empty := by
    constructor <;> intro id incoming hsome <;> simp [empty] at hsome
  obtain ⟨hafter, hdeliveries⟩ := @AgreeAt.run σ zlib _ _ _ hagree hroom.keyed hkeyed arrivals
  rw [harrivals] at hafter hdeliveries
  have hempty : Follows zlib empty [] := follows_empty zlib hlistener rfl rfl
  have hunhandled : ∀ arrival ∈ alone ((framed options header contents reason).map
      (relay identity)), Unhandled empty arrival.packet :=
    fun arrival hmem => unhandled_framed options header contents reason identity hhandler hmem
  constructor
  · rw [hdeliveries, ← forStream_filter_isSome, hempty.deliveries hunhandled,
      references_framed options header contents reason identity hkind houtcome]
  · -- after the trailer the stream is gone
    have hlast := hempty.run hunhandled
    rw [List.nil_append] at hlast
    have hgone : ∀ {K L : Type} (fresh : Packet → StreamHeader → Option (Incoming σ K L))
        (before : List Arrival), slot zlib fresh header.streamId
          (before ++ [⟨0, relay identity (populateStreamPacket options
            (.streamTrailer { streamId := header.streamId, reason := reason }))⟩]) = none := by
      intro K L fresh before
      rw [slot_append_singleton]
      simp [opens, isTrailerOf, relay, populateStreamPacket]
    refine run_eq_run_others hroom.keyed ?_ ?_
    · rw [htexts, hafter.texts, hlast.texts, relayed_framed, ← List.cons_append, hgone]
    · rw [hfiles, hafter.files, hlast.files, relayed_framed, ← List.cons_append, hgone]

/-- The same for one of the three calls. -/
theorem Sending.deliveries_framed {zlib : Zlib σ} {room : Room σ} (hroom : Reachable zlib room)
    (hlistener : room.hasListener = true) {sending : Sending} {streamId : String}
    (hhandler : sending.handler room = none) (htexts : room.incomingTexts[streamId]? = none)
    (hfiles : room.incomingFiles[streamId]? = none) {timestamp : Int} {identity : String}
    {contents : List Bytes} {inflater : Option (InflateRawStream σ)}
    (houtcome : headerOutcome zlib (sending.header streamId timestamp) false = .opened inflater)
    {arrivals : List Arrival}
    (harrivals : ofStream streamId arrivals =
      (framed sending.options (sending.header streamId timestamp) contents "").map
        (relay identity)) :
    forStream streamId (room.deliveries zlib arrivals) =
        forStream streamId (framedDelivery sending.options (sending.header streamId timestamp)
          contents "" identity zlib) ∧
      (room.run zlib arrivals).incomingTexts =
        (room.run zlib (others streamId arrivals)).incomingTexts ∧
      (room.run zlib arrivals).incomingFiles =
        (room.run zlib (others streamId arrivals)).incomingFiles := by
  have hid := @Sending.header_streamId sending streamId timestamp
  have h := @OutgoingDataStreams.deliveries_framed σ zlib room hroom hlistener sending.options
    (sending.header streamId timestamp) contents "" identity
    (Sending.unhandled_header timestamp identity hhandler)
    (by rw [hid]; exact htexts) (by rw [hid]; exact hfiles)
    (Sending.header_contentHeader streamId timestamp) inflater houtcome arrivals
    (by rw [hid]; exact harrivals)
  rw [hid] at h
  exact h

/-- **Round trip of an uncompressed stream.**  A payload that is sent is received once,
    whatever packets of other streams come between, and the store is left as the other
    packets leave it. -/
theorem uncompressed_roundTrip {zlib : Zlib σ} {room : Room σ} (hroom : Reachable zlib room)
    (hlistener : room.hasListener = true) {sending : Sending} (h : sending.Accepted)
    (hsize : sending.payload.length ≤ kMaximumBufferedDataStreamSize) {streamId : String}
    (hid : streamId ≠ "") (hhandler : sending.handler room = none)
    (htexts : room.incomingTexts[streamId]? = none)
    (hfiles : room.incomingFiles[streamId]? = none) (timestamp : Int) (identity : String)
    {arrivals : List Arrival}
    (harrivals : ofStream streamId arrivals =
      (sending.send zlib Engine.reliable streamId timestamp).2.sent.map (relay identity)) :
    (sending.send zlib Engine.reliable streamId timestamp).1 = true ∧
      forStream streamId (room.deliveries zlib arrivals) =
        sending.received streamId timestamp identity ∧
      (room.run zlib arrivals).incomingTexts =
        (room.run zlib (others streamId arrivals)).incomingTexts ∧
      (room.run zlib arrivals).incomingFiles =
        (room.run zlib (others streamId arrivals)).incomingFiles := by
  rw [Sending.send_reliable h]
  have hsent : (sending.send zlib Engine.reliable streamId timestamp).2.sent =
      sending.packets streamId timestamp := by
    rw [Sending.send_reliable h]
  rw [hsent] at harrivals
  rw [Sending.packets_eq_framed] at harrivals
  have houtcome := Sending.headerOutcome_header h hsize streamId timestamp hid zlib
  obtain ⟨hdeliveries, hleft⟩ :=
    Sending.deliveries_framed hroom hlistener hhandler htexts hfiles houtcome harrivals
  refine ⟨rfl, ?_, hleft⟩
  rw [hdeliveries,
    Sending.framedDelivery_payload timestamp identity (Sending.reassemble_chunks h hsize ..),
    forStream_received]

/-- A text of three bytes in chunks of two, with the header of another stream between. -/
def shortText : Sending := .text [72, 105, 33] { topic := "chat", chunkSize := 2 }

def shortRun : List Arrival :=
  alone (((shortText.packets "text-1" 7).take 2).map (relay "alice")) ++
    [⟨1, { value := .streamHeader { streamId := "text-2", contentHeader := .text {} } }⟩] ++
    alone (((shortText.packets "text-1" 7).drop 2).map (relay "alice"))

theorem shortText_arrives :
    forStream "text-1" ((Room.new true).deliveries noZlib shortRun) =
      [.textReceived
        { streamId := "text-1", topic := "chat", participantIdentity := "alice",
          attributes := ∅, timestamp := 7, content := [72, 105, 33], fields := ⟨"", []⟩ }] ∧
      ((Room.new true).run noZlib shortRun).incomingTexts =
        ((Room.new true).run noZlib (others "text-1" shortRun)).incomingTexts := by
  have hsent : ofStream "text-1" shortRun =
      (shortText.send noZlib Engine.reliable "text-1" 7).2.sent.map (relay "alice") := by
    decide
  obtain ⟨-, hdeliveries, htexts, -⟩ := @uncompressed_roundTrip Unit noZlib (Room.new true)
    ⟨true, [], rfl⟩ rfl shortText ⟨rfl, by decide, by decide⟩ (by decide) "text-1" (by decide)
    (by decide) (by decide) (by decide) 7 "alice" shortRun hsent
  exact ⟨hdeliveries, htexts⟩

end LivekitClient.OutgoingDataStreams
