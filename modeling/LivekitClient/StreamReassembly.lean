/-
  LivekitClient/StreamReassembly.lean
  ===================================
  **What a run of stream packets delivers**, against a reference that is read off the
  packets of one stream: its latest header, the chunks and trailers since.
-/
import LivekitClient.IncomingDataStreams

namespace LivekitClient.StreamReassembly

open Std
open LivekitClient.KeyProvider
open LivekitClient.DataPacket
open LivekitClient.DataStreamCompression
open LivekitClient.IncomingDataStreams

variable {σ : Type}

/-! ## 1. The reference -/

/-- One piece of content through the inflater of a compressed stream. -/
def decodeOne (zlib : Zlib σ) (inflater : Option (InflateRawStream σ)) (piece : Bytes) :
    Option (Bytes × Option (InflateRawStream σ)) :=
  match inflater with
  | none => some (piece, none)
  | some inflater =>
    match inflater.write zlib piece with
    | (true, output, inflater) => some (output, some inflater)
    | (false, _, _) => none

/-- All of them in order: the concatenation of what comes out. -/
def decodeAll (zlib : Zlib σ) : Option (InflateRawStream σ) → List Bytes →
    Option (Bytes × Option (InflateRawStream σ))
  | inflater, [] => some ([], inflater)
  | inflater, piece :: rest =>
    match decodeOne zlib inflater piece with
    | none => none
    | some (output, inflater) =>
      match decodeAll zlib inflater rest with
      | none => none
      | some (more, inflater) => some (output ++ more, inflater)

/-- The inflater that a header starts with. -/
def startInflater (zlib : Zlib σ) (header : StreamHeader) : Option (InflateRawStream σ) :=
  if header.compression = .deflateRaw then some (newInflater zlib) else none

def finished : Option (InflateRawStream σ) → Bool
  | none => true
  | some inflater => inflater.finished

/-- The indices from `start` on, in 64 bits. -/
def indices (start n : Nat) : List UInt64 := (List.range' start n).map UInt64.ofNat

/-- The payload of a stream with these chunks, if they make a complete stream. -/
def reassemble (zlib : Zlib σ) (header : StreamHeader) (chunks : List StreamChunk) :
    Option Bytes :=
  match decodeAll zlib (startInflater zlib header) (chunks.map (·.content)) with
  | none => none
  | some (payload, inflater) =>
    if chunks.map (·.chunkIndex) = indices 0 chunks.length ∧
        payload.length ≤ kMaximumBufferedDataStreamSize ∧
        (header.compression = .deflateRaw →
          (chunks.map (·.content)).flatten.length ≤ kMaximumBufferedDataStreamSize) ∧
        finished inflater = true ∧
        header.totalLength.all (fun length => decide (payload.length = length.toNat)) = true
    then some payload else none

theorem all_totalLength {totalLength : Option UInt64} {payload : Bytes} :
    totalLength.all (fun length => decide (payload.length = length.toNat)) = true ↔
      ∀ length ∈ totalLength, payload.length = length.toNat := by
  cases totalLength <;> simp

/-- The header of a packet that opens stream `id`: accepted, and without its content. -/
def opens (zlib : Zlib σ) (id : String) (packet : Packet) : Option StreamHeader :=
  match packet.value with
  | .streamHeader header =>
    if header.streamId = id ∧ header.contentHeader ≠ .notSet then
      match headerOutcome zlib header false with
      | .opened _ => some header
      | _ => none
    else none
  | _ => none

/-- The latest packet that opened the stream, and the packets since. -/
def lastOpening (zlib : Zlib σ) (id : String) :
    List Arrival → Option (Packet × StreamHeader × List Arrival)
  | [] => none
  | arrival :: rest =>
    match lastOpening zlib id rest with
    | some opening => some opening
    | none => (opens zlib id arrival.packet).map fun header => (arrival.packet, header, rest)

/-- The chunk of stream `id` in a packet. -/
def chunkOf (id : String) (packet : Packet) : Option StreamChunk :=
  match packet.value with
  | .streamChunk chunk => if chunk.streamId = id then some chunk else none
  | _ => none

def isTrailerOf (id : String) (packet : Packet) : Bool :=
  match packet.value with
  | .streamTrailer trailer => trailer.streamId = id
  | _ => false

def chunksOf (id : String) (arrivals : List Arrival) : List StreamChunk :=
  arrivals.filterMap fun arrival => chunkOf id arrival.packet

def hasTrailer (id : String) (arrivals : List Arrival) : Bool :=
  arrivals.any fun arrival => isTrailerOf id arrival.packet

/-- What a complete stream delivers. -/
def completed (opening : Packet) (header : StreamHeader) (trailer : StreamTrailer)
    (payload : Bytes) : List Delivery :=
  let attributes := setAttributes header.attributes trailer.attributes
  match header.contentHeader with
  | .text text =>
    [.textReceived
      { streamId := header.streamId, topic := header.topic,
        participantIdentity := opening.participantIdentity, attributes := attributes,
        timestamp := header.timestamp, content := payload,
        fields := ⟨text.replyToStreamId, text.attachedStreamIds⟩ }]
  | .byte byte =>
    byteDeliveries
      { streamId := header.streamId, topic := header.topic,
        participantIdentity := opening.participantIdentity, attributes := attributes,
        timestamp := header.timestamp, content := payload,
        fields := ⟨byte.name, header.mimeType⟩ }
  | .notSet => []

/-- The deliveries of a trailer after the packets `before`. -/
def atTrailer (zlib : Zlib σ) (before : List Arrival) (trailer : StreamTrailer) : List Delivery :=
  if trailer.reason ≠ "" then []
  else
    match lastOpening zlib trailer.streamId before with
    | none => []
    | some (opening, header, since) =>
      if hasTrailer trailer.streamId since then []
      else
        match reassemble zlib header (chunksOf trailer.streamId since) with
        | none => []
        | some payload => completed opening header trailer payload

/-- A header that brings its content is complete at once. -/
def atHeader (zlib : Zlib σ) (packet : Packet) (header : StreamHeader) : List Delivery :=
  match headerOutcome zlib header false with
  | .inline content => completed packet header {} content
  | _ => []

/-- What a packet delivers for its stream after the packets `before`. -/
def reference (zlib : Zlib σ) (before : List Arrival) (packet : Packet) : List Delivery :=
  match packet.value with
  | .streamHeader header => atHeader zlib packet header
  | .streamTrailer trailer => atTrailer zlib before trailer
  | _ => []

/-! ## 2. The chunks of a buffered stream -/

section Chunks

variable {K L : Type}

/-- A stream that is buffered for the listener, within its limits. -/
structure Buffered (incoming : Incoming σ K L) : Prop where
  handler : incoming.handler = none
  received : incoming.receivedLength = incoming.event.content.length
  length_le : incoming.event.content.length ≤ kMaximumBufferedDataStreamSize
  expected_le : ∀ expected ∈ incoming.expectedLength, incoming.event.content.length ≤ expected
  compressed_le : incoming.compressedLength ≤ kMaximumBufferedDataStreamSize

/-- When the content fits. -/
theorem refusesContent_eq_false_iff {incoming : Incoming σ K L} (hbuffered : Buffered incoming)
    (size : Nat) :
    incoming.refusesContent size = false ↔
      incoming.event.content.length + size ≤ kMaximumBufferedDataStreamSize ∧
        ∀ expected ∈ incoming.expectedLength,
          incoming.event.content.length + size ≤ expected := by
  have hreceived := hbuffered.received
  have hlength := hbuffered.length_le
  have hlimit : kMaximumBufferedDataStreamSize < 2 ^ 64 - 1 := by decide
  unfold Incoming.refusesContent
  rw [hbuffered.handler, hreceived]
  cases hexpected : incoming.expectedLength with
  | none =>
    simp only [Bool.or_false, Option.isNone_none, Bool.true_and, Bool.or_eq_false_iff,
      decide_eq_false_iff_not, Option.mem_def, reduceCtorEq, false_implies, implies_true, and_true]
    omega
  | some expected =>
    simp only [Option.isNone_none, Bool.true_and, Bool.or_eq_false_iff, decide_eq_false_iff_not,
      Option.mem_def, Option.some.injEq, forall_eq']
    omega

theorem decode_eq_some_iff {zlib : Zlib σ} {incoming : Incoming σ K L}
    (hcompressed : incoming.compressedLength ≤ kMaximumBufferedDataStreamSize) (content : Bytes)
    (result : Bytes × Option (InflateRawStream σ)) :
    incoming.decode zlib content = some result ↔
      decodeOne zlib incoming.inflater content = some result ∧
        (incoming.inflater.isSome →
          incoming.compressedLength + content.length ≤ kMaximumBufferedDataStreamSize) := by
  unfold Incoming.decode decodeOne
  cases incoming.inflater with
  | none => simp
  | some inflater =>
    dsimp only
    by_cases hfits : content.length ≤ kMaximumBufferedDataStreamSize - incoming.compressedLength
    · rw [if_pos hfits]
      simp only [Option.isSome_some, true_implies]
      exact ⟨fun h => ⟨h, by omega⟩, fun h => h.1⟩
    · rw [if_neg hfits]
      simp only [reduceCtorEq, Option.isSome_some, true_implies, false_iff, not_and]
      omega

/-- A chunk that is accepted. -/
theorem chunk_eq_some_iff {zlib : Zlib σ} {incoming : Incoming σ K L}
    (hbuffered : Buffered incoming) (chunk : StreamChunk) (after : Incoming σ K L)
    (output : Bytes) :
    incoming.chunk zlib chunk = some (after, output) ↔
      ∃ inflater, decodeOne zlib incoming.inflater chunk.content = some (output, inflater) ∧
        (incoming.inflater.isSome → incoming.compressedLength + chunk.content.length ≤
          kMaximumBufferedDataStreamSize) ∧
        chunk.chunkIndex = incoming.nextChunk ∧
        incoming.event.content.length + output.length ≤ kMaximumBufferedDataStreamSize ∧
        (∀ expected ∈ incoming.expectedLength,
          incoming.event.content.length + output.length ≤ expected) ∧
        after = incoming.extend output inflater chunk.content.length := by
  have hdecode := fun result => @decode_eq_some_iff σ K L zlib incoming hbuffered.compressed_le chunk.content
    result
  unfold Incoming.chunk
  constructor
  · intro hsome
    split at hsome
    · simp at hsome
    · rename_i content inflater hdecoded
      split at hsome
      · simp at hsome
      · rename_i hok
        obtain ⟨hindex, hsize⟩ := not_or.mp hok
        obtain ⟨hone, hlimit⟩ := (hdecode _).mp hdecoded
        cases hsome
        obtain ⟨hlength, hexpected⟩ :=
          (refusesContent_eq_false_iff hbuffered _).mp (by simpa using hsize)
        exact ⟨inflater, hone, hlimit, not_not.mp hindex, hlength, hexpected, rfl⟩
  · rintro ⟨inflater, hone, hlimit, hindex, hlength, hexpected, rfl⟩
    have hsize := (refusesContent_eq_false_iff hbuffered _).mpr ⟨hlength, hexpected⟩
    rw [(hdecode _).mpr ⟨hone, hlimit⟩]
    dsimp only
    rw [if_neg (by simp [hindex, hsize])]

/-- The stream after a number of chunks, if none is rejected. -/
def afterChunks (zlib : Zlib σ) : Incoming σ K L → List StreamChunk → Option (Incoming σ K L)
  | incoming, [] => some incoming
  | incoming, chunk :: rest =>
    match incoming.chunk zlib chunk with
    | none => none
    | some (after, _) => afterChunks zlib after rest

theorem afterChunks_append_singleton (zlib : Zlib σ) (incoming : Incoming σ K L)
    (chunks : List StreamChunk) (chunk : StreamChunk) :
    afterChunks zlib incoming (chunks ++ [chunk]) =
      (afterChunks zlib incoming chunks).bind fun after =>
        (after.chunk zlib chunk).map (·.1) := by
  induction chunks generalizing incoming with
  | nil =>
    simp only [List.nil_append, afterChunks, Option.bind_some]
    cases incoming.chunk zlib chunk <;> rfl
  | cons first rest ih =>
    rw [List.cons_append, afterChunks, afterChunks]
    cases incoming.chunk zlib first with
    | none => rfl
    | some result => exact ih result.1

/-- The stream with all of the content of `n` chunks. -/
def extendAll (incoming : Incoming σ K L) (payload : Bytes)
    (inflater : Option (InflateRawStream σ)) (compressedSize start n : Nat) : Incoming σ K L :=
  { incoming with
    inflater := inflater
    compressedLength :=
      if incoming.inflater.isSome then incoming.compressedLength + compressedSize
      else incoming.compressedLength
    receivedLength := incoming.receivedLength + payload.length
    nextChunk := UInt64.ofNat (start + n)
    event := { incoming.event with content := incoming.event.content ++ payload } }

theorem isSome_of_decodeOne {zlib : Zlib σ} {inflater : Option (InflateRawStream σ)}
    {piece : Bytes} {result : Bytes × Option (InflateRawStream σ)}
    (hone : decodeOne zlib inflater piece = some result) : result.2.isSome = inflater.isSome := by
  unfold decodeOne at hone
  split at hone
  · cases hone
    rfl
  · split at hone
    · cases hone
      rfl
    · simp at hone

theorem Buffered.extend {zlib : Zlib σ} {incoming after : Incoming σ K L} {chunk : StreamChunk}
    {output : Bytes} (hbuffered : Buffered incoming)
    (hchunk : incoming.chunk zlib chunk = some (after, output)) : Buffered after := by
  obtain ⟨inflater, -, hlimit, -, hlength, hexpected, rfl⟩ :=
    (chunk_eq_some_iff hbuffered chunk after output).mp hchunk
  have hevent : (incoming.extend output inflater chunk.content.length).event.content =
      incoming.event.content ++ output := by
    simp [Incoming.extend, hbuffered.handler]
  refine ⟨hbuffered.handler, ?_, ?_, ?_, ?_⟩
  · rw [hevent, List.length_append, ← hbuffered.received]
    rfl
  · rw [hevent, List.length_append]
    exact hlength
  · intro expected hmem
    rw [hevent, List.length_append]
    exact hexpected expected hmem
  · unfold Incoming.extend
    dsimp only
    split
    · rename_i hsome
      exact hlimit hsome
    · exact hbuffered.compressed_le

/-- One chunk and the others after it. -/
theorem extendAll_extend {incoming : Incoming σ K L} (hhandler : incoming.handler = none)
    {first inflater : Option (InflateRawStream σ)} (hsome : first.isSome = incoming.inflater.isSome)
    (output payload : Bytes) (size sizes start n : Nat) :
    extendAll (incoming.extend output first size) payload inflater sizes (start + 1) n =
      extendAll incoming (output ++ payload) inflater (size + sizes) start (n + 1) := by
  have hnext : start + 1 + n = start + (n + 1) := by omega
  unfold extendAll Incoming.extend
  simp only [hhandler, hsome, Option.isSome_none, Bool.false_eq_true, if_false, hnext,
    List.length_append, List.append_assoc, Nat.add_assoc]
  cases incoming.inflater.isSome <;> simp [Nat.add_assoc]

/-- The chunks of a stream are accepted exactly if they can be put together. -/
theorem afterChunks_eq_some_iff {zlib : Zlib σ} {incoming : Incoming σ K L}
    (hbuffered : Buffered incoming) {start : Nat} (hstart : incoming.nextChunk = UInt64.ofNat start)
    (chunks : List StreamChunk) (after : Incoming σ K L) :
    afterChunks zlib incoming chunks = some after ↔
      ∃ payload inflater,
        decodeAll zlib incoming.inflater (chunks.map (·.content)) = some (payload, inflater) ∧
        (incoming.inflater.isSome → incoming.compressedLength +
          (chunks.map (·.content)).flatten.length ≤ kMaximumBufferedDataStreamSize) ∧
        chunks.map (·.chunkIndex) = indices start chunks.length ∧
        incoming.event.content.length + payload.length ≤ kMaximumBufferedDataStreamSize ∧
        (∀ expected ∈ incoming.expectedLength,
          incoming.event.content.length + payload.length ≤ expected) ∧
        after = extendAll incoming payload inflater (chunks.map (·.content)).flatten.length start
          chunks.length := by
  induction chunks generalizing incoming start with
  | nil =>
    have hself : incoming =
        extendAll incoming [] incoming.inflater 0 start 0 := by
      simp [extendAll, ← hstart]
    simp only [afterChunks, List.map_nil, decodeAll, Option.some.injEq, Prod.mk.injEq,
      List.flatten_nil, List.length_nil, indices, List.range'_zero, Nat.add_zero]
    constructor
    · rintro rfl
      exact ⟨[], incoming.inflater, ⟨rfl, rfl⟩, fun _ => hbuffered.compressed_le, trivial,
        hbuffered.length_le, hbuffered.expected_le, hself⟩
    · rintro ⟨payload, inflater, ⟨rfl, rfl⟩, -, -, -, -, rfl⟩
      exact hself
  | cons chunk rest ih =>
    have hcompressed : ∀ first output,
        (incoming.extend output first chunk.content.length).compressedLength =
          if incoming.inflater.isSome then incoming.compressedLength + chunk.content.length
          else incoming.compressedLength := fun _ _ => rfl
    have hcontent : ∀ first output,
        (incoming.extend output first chunk.content.length).event.content =
          incoming.event.content ++ output := by
      intro first output
      simp [Incoming.extend, hbuffered.handler]
    have hnext : ∀ first output,
        (incoming.extend output first chunk.content.length).nextChunk =
          UInt64.ofNat (start + 1) := by
      intro first output
      rw [UInt64.ofNat_add, ← hstart]
      rfl
    simp only [afterChunks, List.map_cons, List.flatten_cons, List.length_append, decodeAll,
      List.length_cons, indices, List.range'_succ, List.cons.injEq]
    constructor
    · intro hafter
      cases hchunk : incoming.chunk zlib chunk with
      | none => simp [hchunk] at hafter
      | some result =>
        obtain ⟨mid, output⟩ := result
        simp only [hchunk] at hafter
        have hmid := hbuffered.extend hchunk
        obtain ⟨first, hone, hlimit, hindex, -, -, rfl⟩ :=
          (chunk_eq_some_iff hbuffered chunk mid output).mp hchunk
        obtain ⟨payload, inflater, hall, hlimits, hindices, hlength, hexpected, rfl⟩ :=
          (ih hmid (hnext first output)).mp hafter
        have hsome := isSome_of_decodeOne hone
        have hall' : decodeAll zlib first (rest.map (·.content)) = some (payload, inflater) := hall
        rw [hcontent, List.length_append] at hlength hexpected
        refine ⟨output ++ payload, inflater, by simp [hone, hall'], ?_, ⟨hindex.trans hstart,
          hindices⟩, by rw [List.length_append]; omega, ?_,
          extendAll_extend hbuffered.handler hsome ..⟩
        · intro hinflater
          have hmore := hlimits (by rw [← hsome] at hinflater; exact hinflater)
          rw [hcompressed, if_pos hinflater] at hmore
          omega
        · intro expected hmem
          have := hexpected expected hmem
          rw [List.length_append]
          omega
    · rintro ⟨all, inflater, hall, hlimit, ⟨hindex, hindices⟩, hlength, hexpected, rfl⟩
      cases hone : decodeOne zlib incoming.inflater chunk.content with
      | none => simp [hone] at hall
      | some result =>
        obtain ⟨output, first⟩ := result
        cases hrest : decodeAll zlib first (rest.map (·.content)) with
        | none => simp [hone, hrest] at hall
        | some result =>
          obtain ⟨payload, last⟩ := result
          simp only [hone, hrest, Option.some.injEq, Prod.mk.injEq] at hall
          obtain ⟨rfl, rfl⟩ := hall
          have hsome := isSome_of_decodeOne hone
          rw [List.length_append] at hlength hexpected
          have hchunk : incoming.chunk zlib chunk =
              some (incoming.extend output first chunk.content.length, output) := by
            refine (chunk_eq_some_iff hbuffered chunk _ output).mpr
              ⟨first, hone, ?_, hindex.trans hstart.symm, by omega, ?_, rfl⟩
            · intro hinflater
              have := hlimit hinflater
              omega
            · intro expected hmem
              have := hexpected expected hmem
              omega
          rw [hchunk]
          dsimp only
          refine (ih (hbuffered.extend hchunk) (hnext first output)).mpr
            ⟨payload, last, hrest, ?_, hindices, ?_, ?_,
              (extendAll_extend hbuffered.handler hsome ..).symm⟩
          · intro hinflater
            have hinflater' : incoming.inflater.isSome := by
              rw [← hsome]
              exact hinflater
            have := hlimit hinflater'
            rw [hcompressed, if_pos hinflater']
            omega
          · rw [hcontent, List.length_append]
            omega
          · intro expected hmem
            have := hexpected expected hmem
            rw [hcontent, List.length_append]
            omega

end Chunks

/-! ## 3. The store, from the packets -/

section Slots

variable {K L : Type}

/-- A new stream, if the header is of the right kind. -/
def freshText (zlib : Zlib σ) (packet : Packet) (header : StreamHeader) :
    Option (IncomingText σ) :=
  match header.contentHeader with
  | .text text => some (newText packet header text none (startInflater zlib header))
  | _ => none

def freshFile (zlib : Zlib σ) (packet : Packet) (header : StreamHeader) :
    Option (IncomingFile σ) :=
  match header.contentHeader with
  | .byte byte => some (newFile packet header byte none (startInflater zlib header))
  | _ => none

/-- What is stored under `id` after these packets. -/
def slot (zlib : Zlib σ) (fresh : Packet → StreamHeader → Option (Incoming σ K L)) (id : String)
    (arrivals : List Arrival) : Option (Incoming σ K L) :=
  match lastOpening zlib id arrivals with
  | none => none
  | some (opening, header, since) =>
    if hasTrailer id since then none
    else
      (fresh opening header).bind fun incoming => afterChunks zlib incoming (chunksOf id since)

theorem lastOpening_append_singleton (zlib : Zlib σ) (id : String) (arrivals : List Arrival)
    (arrival : Arrival) :
    lastOpening zlib id (arrivals ++ [arrival]) =
      match opens zlib id arrival.packet with
      | some header => some (arrival.packet, header, [])
      | none => (lastOpening zlib id arrivals).map fun opening =>
          (opening.1, opening.2.1, opening.2.2 ++ [arrival]) := by
  induction arrivals with
  | nil =>
    simp only [List.nil_append, lastOpening]
    cases opens zlib id arrival.packet <;> rfl
  | cons first rest ih =>
    simp only [List.cons_append, lastOpening, ih]
    cases opens zlib id arrival.packet with
    | some header => rfl
    | none =>
      cases lastOpening zlib id rest with
      | some opening => rfl
      | none => cases opens zlib id first.packet <;> rfl

theorem hasTrailer_append_singleton (id : String) (arrivals : List Arrival) (arrival : Arrival) :
    hasTrailer id (arrivals ++ [arrival]) =
      (hasTrailer id arrivals || isTrailerOf id arrival.packet) := by
  simp [hasTrailer]

theorem chunksOf_append_singleton (id : String) (arrivals : List Arrival) (arrival : Arrival) :
    chunksOf id (arrivals ++ [arrival]) =
      chunksOf id arrivals ++ (chunkOf id arrival.packet).toList := by
  simp only [chunksOf, List.filterMap_append]
  cases hchunk : chunkOf id arrival.packet <;> simp [hchunk]

/-- The slot is opened by a header, fed by chunks and emptied by a trailer. -/
theorem slot_append_singleton (zlib : Zlib σ)
    (fresh : Packet → StreamHeader → Option (Incoming σ K L)) (id : String)
    (arrivals : List Arrival) (arrival : Arrival) :
    slot zlib fresh id (arrivals ++ [arrival]) =
      match opens zlib id arrival.packet with
      | some header => fresh arrival.packet header
      | none =>
        if isTrailerOf id arrival.packet then none
        else
          match chunkOf id arrival.packet with
          | none => slot zlib fresh id arrivals
          | some chunk => (slot zlib fresh id arrivals).bind fun incoming =>
              (incoming.chunk zlib chunk).map (·.1) := by
  unfold slot
  rw [lastOpening_append_singleton]
  cases opens zlib id arrival.packet with
  | some header =>
    cases hfresh : fresh arrival.packet header <;>
      simp [hfresh, hasTrailer, chunksOf, afterChunks]
  | none =>
    cases lastOpening zlib id arrivals with
    | none =>
      simp only [Option.map_none, Option.bind_none]
      split
      · rfl
      · cases chunkOf id arrival.packet <;> rfl
    | some opening =>
      obtain ⟨packet, header, since⟩ := opening
      simp only [Option.map_some, hasTrailer_append_singleton, chunksOf_append_singleton]
      cases htrailer : isTrailerOf id arrival.packet with
      | true => simp
      | false =>
        simp only [Bool.or_false, Bool.false_eq_true, if_false]
        cases hold : hasTrailer id since with
        | true => cases chunkOf id arrival.packet <;> simp
        | false =>
          cases hchunk : chunkOf id arrival.packet with
          | none => simp
          | some chunk =>
            simp only [Bool.false_eq_true, if_false, Option.toList_some,
              afterChunks_append_singleton, Option.bind_assoc]

/-- A text stream and a byte stream are never open under one id. -/
theorem slot_file_eq_none {zlib : Zlib σ} {id : String} {arrivals : List Arrival}
    {text : IncomingText σ} (htext : slot zlib (freshText zlib) id arrivals = some text) :
    slot zlib (freshFile zlib) id arrivals = none := by
  unfold slot at htext ⊢
  split at htext
  · simp at htext
  · split at htext
    · simp at htext
    · rename_i opening header since _ _
      obtain ⟨incoming, hfresh, -⟩ := Option.bind_eq_some_iff.mp htext
      unfold freshText at hfresh
      split at hfresh
      · rename_i hkind
        simp [freshFile, hkind]
      · simp at hfresh

theorem startInflater_of_opened {zlib : Zlib σ} {header : StreamHeader} {hasHandler : Bool}
    {inflater : Option (InflateRawStream σ)}
    (hopened : headerOutcome zlib header hasHandler = .opened inflater) :
    inflater = startInflater zlib header := by
  unfold headerOutcome at hopened
  split at hopened
  · simp at hopened
  split at hopened
  · simp at hopened
  split at hopened
  · simp at hopened
  split at hopened
  · split at hopened
    · simp at hopened
    · split at hopened
      · simp at hopened
      · split at hopened <;> simp at hopened
  · exact (HeaderOutcome.opened.inj hopened).symm

end Slots

/-- A room with a listener, whose store is what the packets so far have left. -/
structure Follows (zlib : Zlib σ) (room : Room σ) (arrivals : List Arrival) : Prop where
  hasListener : room.hasListener = true
  texts : ∀ id, room.incomingTexts[id]? = slot zlib (freshText zlib) id arrivals
  files : ∀ id, room.incomingFiles[id]? = slot zlib (freshFile zlib) id arrivals

theorem follows_empty (zlib : Zlib σ) {room : Room σ} (hlistener : room.hasListener = true)
    (htexts : room.incomingTexts = ∅) (hfiles : room.incomingFiles = ∅) :
    Follows zlib room [] := by
  refine ⟨hlistener, ?_, ?_⟩ <;> intro id <;> simp [htexts, hfiles, slot, lastOpening]

/-- The packet opens no stream that has a topic handler. -/
def Unhandled (room : Room σ) (packet : Packet) : Prop :=
  match packet.value with
  | .streamHeader header =>
    match header.contentHeader with
    | .text _ => room.textStreamHandlers[header.topic]? = none
    | .byte _ => room.byteStreamHandlers[header.topic]? = none
    | .notSet => True
  | _ => True

/-- Packets do not register or unregister handlers. -/
theorem dataPacketEvent_handlers (zlib : Zlib σ) (room : Room σ) (now : Int) (packet : Packet) :
    (room.dataPacketEvent zlib now packet).1.textStreamHandlers = room.textStreamHandlers ∧
      (room.dataPacketEvent zlib now packet).1.byteStreamHandlers = room.byteStreamHandlers := by
  unfold Room.dataPacketEvent
  split
  case h_6 header _ =>
    split
    · unfold Room.textHeaderEvent
      dsimp only
      split
      · exact ⟨rfl, rfl⟩
      · split <;> exact ⟨rfl, rfl⟩
      · exact ⟨rfl, rfl⟩
    · unfold Room.byteHeaderEvent
      dsimp only
      split
      · exact ⟨rfl, rfl⟩
      · split <;> exact ⟨rfl, rfl⟩
      · exact ⟨rfl, rfl⟩
    · exact ⟨rfl, rfl⟩
  case h_7 chunk _ =>
    unfold Room.chunkEvent
    split
    · exact ⟨rfl, rfl⟩
    · split <;> exact ⟨rfl, rfl⟩
  all_goals exact ⟨rfl, rfl⟩

theorem Unhandled.after {room : Room σ} {packet : Packet} (hunhandled : Unhandled room packet)
    (zlib : Zlib σ) (now : Int) (other : Packet) :
    Unhandled (room.dataPacketEvent zlib now other).1 packet := by
  obtain ⟨htext, hbyte⟩ := dataPacketEvent_handlers zlib room now other
  unfold Unhandled at hunhandled ⊢
  rw [htext, hbyte]
  exact hunhandled

section Step

variable {zlib : Zlib σ} {room : Room σ} {arrivals : List Arrival} (h : Follows zlib room arrivals)
include h

/-- A packet that is nothing to the store. -/
theorem Follows.idle {arrival : Arrival} (hopens : ∀ id, opens zlib id arrival.packet = none)
    (htrailer : ∀ id, isTrailerOf id arrival.packet = false)
    (hchunk : ∀ id, chunkOf id arrival.packet = none) :
    Follows zlib room (arrivals ++ [arrival]) := by
  refine ⟨h.hasListener, ?_, ?_⟩ <;> intro id
  · rw [slot_append_singleton, hopens, htrailer, hchunk, h.texts]
    rfl
  · rw [slot_append_singleton, hopens, htrailer, hchunk, h.files]
    rfl

theorem Follows.textHeader {arrival : Arrival} {header : StreamHeader} {text : TextHeader}
    (hvalue : arrival.packet.value = .streamHeader header)
    (hkind : header.contentHeader = .text text)
    (hhandler : room.textStreamHandlers[header.topic]? = none) :
    Follows zlib (room.textHeaderEvent zlib arrival.packet header text).1
      (arrivals ++ [arrival]) := by
  have htrailer : ∀ id, isTrailerOf id arrival.packet = false := by simp [isTrailerOf, hvalue]
  have hchunk : ∀ id, chunkOf id arrival.packet = none := by simp [chunkOf, hvalue]
  unfold Room.textHeaderEvent
  simp only [hhandler, Option.isSome_none]
  cases houtcome : headerOutcome zlib header false with
  | rejected => exact h.idle (by simp [opens, hvalue, houtcome]) htrailer hchunk
  | inline content => exact h.idle (by simp [opens, hvalue, houtcome]) htrailer hchunk
  | opened inflater =>
    have hopens : ∀ id, opens zlib id arrival.packet =
        if header.streamId = id then some header else none := by
      intro id
      simp [opens, hvalue, houtcome, hkind]
    have hinflater := startInflater_of_opened houtcome
    refine ⟨h.hasListener, ?_, ?_⟩ <;> intro id <;>
      rw [slot_append_singleton, hopens] <;> by_cases heq : header.streamId = id
    · subst heq
      simp [freshText, hkind, hinflater]
    · simp only [if_neg heq, htrailer, hchunk, Bool.false_eq_true, if_false]
      rw [getElem?_insert_of_ne _ _ heq, h.texts]
    · subst heq
      simp [freshFile, hkind]
    · simp only [if_neg heq, htrailer, hchunk, Bool.false_eq_true, if_false]
      rw [getElem?_erase_of_ne _ heq, h.files]

theorem Follows.byteHeader {arrival : Arrival} {header : StreamHeader} {byte : ByteHeader}
    (hvalue : arrival.packet.value = .streamHeader header)
    (hkind : header.contentHeader = .byte byte)
    (hhandler : room.byteStreamHandlers[header.topic]? = none) :
    Follows zlib (room.byteHeaderEvent zlib arrival.packet header byte).1
      (arrivals ++ [arrival]) := by
  have htrailer : ∀ id, isTrailerOf id arrival.packet = false := by simp [isTrailerOf, hvalue]
  have hchunk : ∀ id, chunkOf id arrival.packet = none := by simp [chunkOf, hvalue]
  unfold Room.byteHeaderEvent
  simp only [hhandler, Option.isSome_none]
  cases houtcome : headerOutcome zlib header false with
  | rejected => exact h.idle (by simp [opens, hvalue, houtcome]) htrailer hchunk
  | inline content => exact h.idle (by simp [opens, hvalue, houtcome]) htrailer hchunk
  | opened inflater =>
    have hopens : ∀ id, opens zlib id arrival.packet =
        if header.streamId = id then some header else none := by
      intro id
      simp [opens, hvalue, houtcome, hkind]
    have hinflater := startInflater_of_opened houtcome
    refine ⟨h.hasListener, ?_, ?_⟩ <;> intro id <;>
      rw [slot_append_singleton, hopens] <;> by_cases heq : header.streamId = id
    · subst heq
      simp [freshText, hkind]
    · simp only [if_neg heq, htrailer, hchunk, Bool.false_eq_true, if_false]
      rw [getElem?_erase_of_ne _ heq, h.texts]
    · subst heq
      simp [freshFile, hkind, hinflater]
    · simp only [if_neg heq, htrailer, hchunk, Bool.false_eq_true, if_false]
      rw [getElem?_insert_of_ne _ _ heq, h.files]

theorem Follows.chunk {arrival : Arrival} {chunk : StreamChunk}
    (hvalue : arrival.packet.value = .streamChunk chunk) :
    Follows zlib (room.chunkEvent zlib chunk).1 (arrivals ++ [arrival]) := by
  have hslot : ∀ {K L : Type} (fresh : Packet → StreamHeader → Option (Incoming σ K L)) (id),
      slot zlib fresh id (arrivals ++ [arrival]) =
        if chunk.streamId = id then (slot zlib fresh id arrivals).bind fun incoming =>
          (incoming.chunk zlib chunk).map (·.1)
        else slot zlib fresh id arrivals := by
    intro K L fresh id
    rw [slot_append_singleton]
    by_cases heq : chunk.streamId = id <;>
      simp [opens, isTrailerOf, chunkOf, hvalue, heq]
  unfold Room.chunkEvent
  split
  · rename_i text htext
    refine ⟨h.hasListener, ?_, ?_⟩ <;> intro id <;>
      rw [hslot] <;> by_cases heq : chunk.streamId = id
    · subst heq
      rw [getElem?_store_self, if_pos rfl, ← h.texts, htext]
      rfl
    · rw [getElem?_store_of_ne _ _ heq, if_neg heq, h.texts]
    · subst heq
      rw [h.texts] at htext
      rw [if_pos rfl, h.files, slot_file_eq_none htext]
      rfl
    · rw [if_neg heq, h.files]
  · rename_i htext
    split
    · rename_i hbytes
      refine ⟨h.hasListener, ?_, ?_⟩ <;> intro id <;>
        rw [hslot] <;> by_cases heq : chunk.streamId = id
      · subst heq
        rw [if_pos rfl, ← h.texts, htext]
        rfl
      · rw [if_neg heq, h.texts]
      · subst heq
        rw [if_pos rfl, ← h.files, hbytes]
        rfl
      · rw [if_neg heq, h.files]
    · rename_i bytes hbytes
      refine ⟨h.hasListener, ?_, ?_⟩ <;> intro id <;>
        rw [hslot] <;> by_cases heq : chunk.streamId = id
      · subst heq
        rw [if_pos rfl, ← h.texts, htext]
        rfl
      · rw [if_neg heq, h.texts]
      · subst heq
        rw [getElem?_store_self, if_pos rfl, ← h.files, hbytes]
        rfl
      · rw [getElem?_store_of_ne _ _ heq, if_neg heq, h.files]

theorem Follows.trailer {arrival : Arrival} {trailer : StreamTrailer}
    (hvalue : arrival.packet.value = .streamTrailer trailer) :
    Follows zlib (room.trailerEvent trailer).1 (arrivals ++ [arrival]) := by
  refine ⟨h.hasListener, ?_, ?_⟩ <;> intro id <;>
    rw [slot_append_singleton] <;> by_cases heq : trailer.streamId = id
  · simp [Room.trailerEvent, opens, isTrailerOf, hvalue, heq]
  · simp [Room.trailerEvent, opens, isTrailerOf, chunkOf, hvalue, heq,
      getElem?_erase_of_ne _ heq, h.texts]
  · simp [Room.trailerEvent, opens, isTrailerOf, hvalue, heq]
  · simp [Room.trailerEvent, opens, isTrailerOf, chunkOf, hvalue, heq,
      getElem?_erase_of_ne _ heq, h.files]

theorem Follows.step {arrival : Arrival} (hunhandled : Unhandled room arrival.packet) :
    Follows zlib (room.dataPacketEvent zlib arrival.now arrival.packet).1
      (arrivals ++ [arrival]) := by
  unfold Room.dataPacketEvent
  cases hvalue : arrival.packet.value with
  | streamHeader header =>
    dsimp only
    split
    · rename_i text hkind
      exact h.textHeader hvalue hkind (by simpa [Unhandled, hvalue, hkind] using hunhandled)
    · rename_i byte hkind
      exact h.byteHeader hvalue hkind (by simpa [Unhandled, hvalue, hkind] using hunhandled)
    · rename_i hkind
      exact h.idle (by simp [opens, hvalue, hkind]) (by simp [isTrailerOf, hvalue])
        (by simp [chunkOf, hvalue])
  | streamChunk chunk => exact h.chunk hvalue
  | streamTrailer trailer => exact h.trailer hvalue
  | transcription transcription =>
    have hsame := @Follows.idle σ zlib room arrivals h arrival (by simp [opens, hvalue])
      (by simp [isTrailerOf, hvalue]) (by simp [chunkOf, hvalue])
    exact ⟨hsame.hasListener, hsame.texts, hsame.files⟩
  | _ =>
    exact h.idle (by simp [opens, hvalue]) (by simp [isTrailerOf, hvalue])
      (by simp [chunkOf, hvalue])

theorem Follows.run {more : List Arrival}
    (hunhandled : ∀ arrival ∈ more, Unhandled room arrival.packet) :
    Follows zlib (room.run zlib more) (arrivals ++ more) := by
  induction more generalizing room arrivals with
  | nil =>
    rw [List.append_nil]
    exact h
  | cons arrival rest ih =>
    have hrest := ih (h.step (hunhandled arrival List.mem_cons_self)) fun other hmem =>
      (hunhandled other (List.mem_cons_of_mem _ hmem)).after zlib arrival.now arrival.packet
    rw [List.append_assoc, List.singleton_append] at hrest
    exact hrest

end Step

/-! ## 4. What is delivered -/

theorem buffered_newIncoming {K L : Type} (packet : Packet) (header : StreamHeader) (fields : K)
    (infoFields : L) (inflater : Option (InflateRawStream σ)) :
    Buffered (newIncoming packet header fields infoFields none inflater) :=
  ⟨rfl, rfl, Nat.zero_le _, fun _ _ => Nat.zero_le _, Nat.zero_le _⟩

/-- When the stream is complete at a trailer without a reason. -/
theorem complete_extendAll {K L : Type} {packet : Packet} {header : StreamHeader} {fields : K}
    {infoFields : L} {first inflater : Option (InflateRawStream σ)} {payload : Bytes}
    {size n : Nat} {trailer : StreamTrailer} (hreason : trailer.reason = "") :
    (extendAll (newIncoming packet header fields infoFields none first) payload inflater size 0
        n).complete trailer = true ↔
      finished inflater = true ∧ ∀ length ∈ header.totalLength, payload.length = length.toNat := by
  unfold Incoming.complete
  cases hlength : header.totalLength <;> cases inflater <;>
    simp [extendAll, newIncoming, finished, hreason, hlength]

/-- The event of a buffered stream at its trailer. -/
theorem received_afterChunks {K L : Type} {zlib : Zlib σ} (packet : Packet)
    (header : StreamHeader) (fields : K) (infoFields : L) (chunks : List StreamChunk)
    (trailer : StreamTrailer) :
    ((afterChunks zlib
        (newIncoming packet header fields infoFields none (startInflater zlib header)) chunks).bind
          (·.received trailer)) =
      if trailer.reason ≠ "" then none
      else (reassemble zlib header chunks).map fun payload =>
        { streamId := header.streamId, topic := header.topic,
          participantIdentity := packet.participantIdentity,
          attributes := setAttributes header.attributes trailer.attributes,
          timestamp := header.timestamp, content := payload, fields := fields } := by
  have hiff := fun after => @afterChunks_eq_some_iff σ K L zlib _
    (buffered_newIncoming packet header fields infoFields (startInflater zlib header)) 0 rfl
    chunks after
  have hcompressed : header.compression = .deflateRaw ↔
      (startInflater zlib header).isSome = true := by
    unfold startInflater
    split <;> simp_all
  split
  · rename_i hreason
    cases afterChunks zlib _ chunks with
    | none => rfl
    | some after => simp [Incoming.received, Incoming.complete, hreason]
  · rename_i hreason
    rw [not_not] at hreason
    unfold reassemble
    cases hdecode : decodeAll zlib (startInflater zlib header) (chunks.map (·.content)) with
    | none =>
      cases hafter : afterChunks zlib
          (newIncoming packet header fields infoFields none (startInflater zlib header)) chunks with
      | none => rfl
      | some after =>
        obtain ⟨payload, inflater, hall, -⟩ := (hiff after).mp hafter
        rw [show (newIncoming packet header fields infoFields none
          (startInflater zlib header)).inflater = startInflater zlib header from rfl, hdecode] at hall
        simp at hall
    | some result =>
      obtain ⟨payload, inflater⟩ := result
      dsimp only
      by_cases hok : chunks.map (·.chunkIndex) = indices 0 chunks.length ∧
          payload.length ≤ kMaximumBufferedDataStreamSize ∧
          (header.compression = .deflateRaw →
            (chunks.map (·.content)).flatten.length ≤ kMaximumBufferedDataStreamSize) ∧
          finished inflater = true ∧
          header.totalLength.all (fun length => decide (payload.length = length.toNat)) = true
      · rw [if_pos hok]
        obtain ⟨hindices, hlength, hlimit, hfinished, hall⟩ := hok
        have htotal := all_totalLength.mp hall
        have hafter := (hiff _).mpr ⟨payload, inflater, hdecode, ?_, hindices, ?_, ?_, rfl⟩
        · rw [hafter]
          have hcomplete : (extendAll
              (newIncoming packet header fields infoFields none (startInflater zlib header)) payload
              inflater (chunks.map (·.content)).flatten.length 0 chunks.length).complete trailer =
                true :=
            (complete_extendAll hreason).mpr ⟨hfinished, htotal⟩
          simp only [Option.bind_some, Incoming.received, hcomplete]
          simp [extendAll, newIncoming, Incoming.closedEvent]
        · intro hsome
          simpa [newIncoming] using hlimit (hcompressed.mpr hsome)
        · simpa [newIncoming] using hlength
        · intro expected hmem
          obtain ⟨length, hmem', rfl⟩ := Option.map_eq_some_iff.mp hmem
          simpa [newIncoming] using Nat.le_of_eq (htotal length hmem')
      · rw [if_neg hok]
        cases hafter : afterChunks zlib
            (newIncoming packet header fields infoFields none (startInflater zlib header))
              chunks with
        | none => rfl
        | some after =>
          obtain ⟨payload', inflater', hall, hlimit, hindices, hlength, -, rfl⟩ :=
            (hiff after).mp hafter
          rw [show (newIncoming packet header fields infoFields none
            (startInflater zlib header)).inflater = startInflater zlib header from rfl,
            hdecode] at hall
          cases hall
          simp only [Option.bind_some, Incoming.received, Option.map_none]
          rw [if_neg]
          rintro ⟨-, hcomplete⟩
          obtain ⟨hfinished, htotal⟩ := (complete_extendAll hreason).mp hcomplete
          refine hok ⟨hindices, by simpa [newIncoming] using hlength, ?_, hfinished,
            all_totalLength.mpr htotal⟩
          intro hdeflate
          simpa [newIncoming] using hlimit (hcompressed.mp hdeflate)

theorem handler_of_slot {K L : Type} {zlib : Zlib σ}
    {fresh : Packet → StreamHeader → Option (Incoming σ K L)}
    (hfresh : ∀ packet header incoming, fresh packet header = some incoming →
      incoming.handler = none)
    {id : String} {arrivals : List Arrival} {incoming : Incoming σ K L}
    (hslot : slot zlib fresh id arrivals = some incoming) : incoming.handler = none := by
  have hchunks : ∀ (chunks : List StreamChunk) (start after : Incoming σ K L),
      start.handler = none → afterChunks zlib start chunks = some after →
        after.handler = none := by
    intro chunks
    induction chunks with
    | nil =>
      intro start after hnone hafter
      cases hafter
      exact hnone
    | cons chunk rest ih =>
      intro start after hnone hafter
      rw [afterChunks] at hafter
      split at hafter
      · simp at hafter
      · rename_i mid content hchunk
        exact ih mid after ((Incoming.chunk_frame hchunk).2.1.trans hnone) hafter
  unfold slot at hslot
  split at hslot
  · simp at hslot
  · split at hslot
    · simp at hslot
    · obtain ⟨start, hstart, hafter⟩ := Option.bind_eq_some_iff.mp hslot
      exact hchunks _ start incoming (hfresh _ _ _ hstart) hafter

theorem freshText_handler {zlib : Zlib σ} {packet : Packet} {header : StreamHeader}
    {incoming : IncomingText σ} (hfresh : freshText zlib packet header = some incoming) :
    incoming.handler = none := by
  unfold freshText at hfresh
  split at hfresh
  · cases hfresh
    rfl
  · simp at hfresh

theorem freshFile_handler {zlib : Zlib σ} {packet : Packet} {header : StreamHeader}
    {incoming : IncomingFile σ} (hfresh : freshFile zlib packet header = some incoming) :
    incoming.handler = none := by
  unfold freshFile at hfresh
  split at hfresh
  · cases hfresh
    rfl
  · simp at hfresh

theorem setAttributes_empty (attributes : Attributes) : setAttributes attributes ∅ = attributes := by
  rw [setAttributes, ExtTreeMap.foldl_eq_foldl_toList, ExtTreeMap.toList_eq_nil_iff.mpr rfl]
  rfl

/-- The two lookups of a trailer, against the reference. -/
theorem received_slots (zlib : Zlib σ) (arrivals : List Arrival) (trailer : StreamTrailer) :
    ((slot zlib (freshText zlib) trailer.streamId arrivals).bind
        (·.received trailer)).toList.map Delivery.textReceived ++
      ((slot zlib (freshFile zlib) trailer.streamId arrivals).bind
        (·.received trailer)).toList.flatMap byteDeliveries =
      atTrailer zlib arrivals trailer := by
  unfold slot atTrailer
  cases lastOpening zlib trailer.streamId arrivals with
  | none => simp
  | some opening =>
    obtain ⟨packet, header, since⟩ := opening
    cases hold : hasTrailer trailer.streamId since with
    | true => simp [hold]
    | false =>
      simp only [hold, Bool.false_eq_true, if_false]
      cases hkind : header.contentHeader with
      | notSet =>
        simp only [freshText, freshFile, hkind, completed, Option.bind_none, Option.toList_none,
          List.map_nil, List.flatMap_nil, List.append_nil]
        cases reassemble zlib header (chunksOf trailer.streamId since) <;> simp
      | text text =>
        simp only [freshText, freshFile, hkind, Option.bind_some, Option.bind_none,
          Option.toList_none, List.flatMap_nil, List.append_nil, newText, received_afterChunks]
        by_cases hreason : trailer.reason = ""
        · cases reassemble zlib header (chunksOf trailer.streamId since) <;>
            simp [hreason, completed, hkind]
        · simp [hreason]
      | byte byte =>
        simp only [freshText, freshFile, hkind, Option.bind_some, Option.bind_none,
          Option.toList_none, List.map_nil, List.nil_append, newFile, received_afterChunks]
        by_cases hreason : trailer.reason = ""
        · cases reassemble zlib header (chunksOf trailer.streamId since) <;>
            simp [hreason, completed, hkind]
        · simp [hreason]

theorem filter_completed (opening : Packet) (header : StreamHeader) (trailer : StreamTrailer)
    (payload : Bytes) :
    ((completed opening header trailer payload).filter fun delivery =>
      delivery.streamId.isSome) = completed opening header trailer payload := by
  apply List.filter_eq_self.mpr
  intro delivery hmem
  unfold completed at hmem
  dsimp only at hmem
  split at hmem
  · rw [List.mem_singleton.mp hmem]
    rfl
  · rw [streamId_byteDeliveries hmem]
    rfl
  · simp at hmem

theorem filter_reference (zlib : Zlib σ) (before : List Arrival) (packet : Packet) :
    ((reference zlib before packet).filter fun delivery => delivery.streamId.isSome) =
      reference zlib before packet := by
  unfold reference
  split
  · unfold atHeader
    split
    · exact filter_completed ..
    · rfl
  · unfold atTrailer
    split
    · rfl
    split
    · rfl
    split
    · rfl
    split
    · rfl
    · exact filter_completed ..
  · rfl

section Delivered

variable {zlib : Zlib σ} {room : Room σ} {arrivals : List Arrival} (h : Follows zlib room arrivals)
include h

theorem Follows.delivered_header (packet : Packet) {header : StreamHeader}
    (hvalue : packet.value = .streamHeader header) (hunhandled : Unhandled room packet)
    (now : Int) :
    (room.dataPacketEvent zlib now packet).2 = atHeader zlib packet header := by
  simp only [Unhandled, hvalue] at hunhandled
  unfold Room.dataPacketEvent atHeader
  simp only [hvalue]
  cases hkind : header.contentHeader with
  | notSet => cases headerOutcome zlib header false <;> simp [completed, hkind]
  | text text =>
    have htext : room.textStreamHandlers[header.topic]? = none := by simpa [hkind] using hunhandled
    simp only [Room.textHeaderEvent, htext, Option.isSome_none]
    cases headerOutcome zlib header false <;>
      simp [completed, hkind, Room.toListener, h.hasListener, newText, newIncoming,
        setAttributes_empty]
  | byte byte =>
    have hbyte : room.byteStreamHandlers[header.topic]? = none := by simpa [hkind] using hunhandled
    simp only [Room.byteHeaderEvent, hbyte, Option.isSome_none]
    cases headerOutcome zlib header false <;>
      simp [completed, hkind, Room.toListener, h.hasListener, newFile, newIncoming,
        setAttributes_empty]

theorem Follows.delivered_chunk (chunk : StreamChunk) : (room.chunkEvent zlib chunk).2 = [] := by
  unfold Room.chunkEvent
  split
  · rename_i text htext
    rw [h.texts] at htext
    simp [handler_of_slot (fun _ _ _ => freshText_handler) htext]
  · split
    · rfl
    · rename_i bytes hbytes
      rw [h.files] at hbytes
      simp [handler_of_slot (fun _ _ _ => freshFile_handler) hbytes]

theorem Follows.delivered_trailer (trailer : StreamTrailer) :
    (room.trailerEvent trailer).2 = atTrailer zlib arrivals trailer := by
  unfold Room.trailerEvent
  simp only [h.texts, h.files, Room.toListener, h.hasListener, if_true, received_slots]
  cases htext : slot zlib (freshText zlib) trailer.streamId arrivals with
  | none =>
    cases hbytes : slot zlib (freshFile zlib) trailer.streamId arrivals with
    | none => simp
    | some bytes => simp [handler_of_slot (fun _ _ _ => freshFile_handler) hbytes]
  | some text =>
    simp [handler_of_slot (fun _ _ _ => freshText_handler) htext, slot_file_eq_none htext]

/-- What a packet delivers for streams is what the reference says. -/
theorem Follows.delivered (now : Int) {packet : Packet} (hunhandled : Unhandled room packet) :
    ((room.dataPacketEvent zlib now packet).2.filter fun delivery => delivery.streamId.isSome) =
      reference zlib arrivals packet := by
  rw [← filter_reference zlib arrivals packet]
  unfold reference
  cases hvalue : packet.value with
  | streamHeader header => rw [h.delivered_header packet hvalue hunhandled now]
  | streamChunk chunk => simp [Room.dataPacketEvent, hvalue, h.delivered_chunk]
  | streamTrailer trailer => simp [Room.dataPacketEvent, hvalue, h.delivered_trailer]
  | user | sipDtmf | chatMessage | metrics =>
    simp [Room.dataPacketEvent, hvalue, Room.toListener, h.hasListener, Delivery.streamId]
  | transcription transcription =>
    simp [Room.dataPacketEvent, Room.transcriptionEvent, hvalue, Room.toListener, h.hasListener,
      Delivery.streamId]
  | _ => simp [Room.dataPacketEvent, hvalue]

end Delivered

/-- What the packets of a run deliver one after the other. -/
def references (zlib : Zlib σ) : List Arrival → List Arrival → List Delivery
  | _, [] => []
  | before, arrival :: rest =>
    reference zlib before arrival.packet ++ references zlib (before ++ [arrival]) rest

theorem references_append (zlib : Zlib σ) (before more rest : List Arrival) :
    references zlib before (more ++ rest) =
      references zlib before more ++ references zlib (before ++ more) rest := by
  induction more generalizing before with
  | nil => simp [references]
  | cons arrival more ih => simp [references, ih, List.append_assoc]

theorem Follows.deliveries {zlib : Zlib σ} {room : Room σ} {before more : List Arrival}
    (h : Follows zlib room before)
    (hunhandled : ∀ arrival ∈ more, Unhandled room arrival.packet) :
    ((room.deliveries zlib more).filter fun delivery => delivery.streamId.isSome) =
      references zlib before more := by
  induction more generalizing room before with
  | nil => rfl
  | cons arrival rest ih =>
    have hfirst := hunhandled arrival List.mem_cons_self
    rw [Room.deliveries, List.filter_append, h.delivered arrival.now hfirst, references,
      ih (h.step hfirst) fun other hmem =>
        (hunhandled other (List.mem_cons_of_mem _ hmem)).after zlib arrival.now arrival.packet]

theorem unhandled_run {zlib : Zlib σ} {room : Room σ} {packet : Packet}
    (hunhandled : Unhandled room packet) (arrivals : List Arrival) :
    Unhandled (room.run zlib arrivals) packet := by
  induction arrivals generalizing room with
  | nil => exact hunhandled
  | cons arrival rest ih => exact ih (hunhandled.after zlib arrival.now arrival.packet)

/-- The events of a stream depend only on its own packets, and every packet delivers
    exactly what the reference reads off the packets before it. -/
theorem deliveries_eq_reference (zlib : Zlib σ) :
    (∀ (id : String) (arrivals arrivals' : List Arrival),
      ofStream id arrivals = ofStream id arrivals' →
        forStream id ((Room.new true).deliveries zlib arrivals) =
          forStream id ((Room.new true).deliveries zlib arrivals')) ∧
    ∀ (before : List Arrival) (arrival : Arrival),
      ((((Room.new true).run zlib before).dataPacketEvent zlib arrival.now
          arrival.packet).2.filter fun delivery => delivery.streamId.isSome) =
        reference zlib before arrival.packet := by
  constructor
  · intro id arrivals arrivals' hsame
    have halone := fun arrivals => (@AgreeAt.run σ zlib id _ _ (AgreeAt.refl id (Room.new true))
      (keyed_new true) (keyed_new true) arrivals).2
    rw [halone arrivals, halone arrivals', hsame]
  · intro before arrival
    have hnone : ∀ packet, Unhandled (Room.new true : Room σ) packet := by
      intro packet
      unfold Unhandled
      split
      · split <;> simp [Room.new]
      · trivial
    have hfollows := (@follows_empty σ zlib (Room.new true) rfl rfl rfl).run
      fun arrival (_ : arrival ∈ before) => hnone arrival.packet
    rw [List.nil_append] at hfollows
    apply hfollows.delivered arrival.now
    exact unhandled_run (hnone arrival.packet) before

/-! ### A second trailer -/

/-- The reference without a look at earlier trailers. -/
def atAnyTrailer (zlib : Zlib σ) (before : List Arrival) (trailer : StreamTrailer) :
    List Delivery :=
  if trailer.reason ≠ "" then []
  else
    match lastOpening zlib trailer.streamId before with
    | none => []
    | some (opening, header, since) =>
      match reassemble zlib header (chunksOf trailer.streamId since) with
      | none => []
      | some payload => completed opening header trailer payload

/-- A zlib that refuses to start. -/
def noZlib : Zlib Unit where
  inflateInit := none
  inflate := fun _ _ _ => ⟨.other, 0, [], ()⟩
  deflateInit := none
  deflate := fun _ _ _ _ => ⟨.other, 0, [], ()⟩
  deflateCalls := fun _ _ _ => 0

/-- An empty text, closed once. -/
def emptyText : List Arrival :=
  [⟨0, { value := .streamHeader { streamId := "text-1", contentHeader := .text {} } }⟩,
   ⟨0, { value := .streamTrailer { streamId := "text-1" } }⟩]

/-- A second trailer finds no stream. -/
theorem second_trailer_delivers_nothing :
    ¬ ∀ (before : List Arrival) (trailer : StreamTrailer),
      ((((Room.new true).run noZlib before).dataPacketEvent noZlib 0
          { value := .streamTrailer trailer }).2.filter fun delivery => delivery.streamId.isSome) =
        atAnyTrailer noZlib before trailer := by
  intro hall
  have hsecond := hall emptyText { streamId := "text-1" }
  exact absurd hsecond (by decide)

end LivekitClient.StreamReassembly
