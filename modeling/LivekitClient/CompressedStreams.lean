/-
  LivekitClient/CompressedStreams.lean
  ====================================
  **Compressed streams from sender to receiver.**

  `SendText`, `SendBytes` and `SendFile` with `compress` deflate the payload a chunk's
  worth at a time, with a sync flush after each, and check the length of the payload
  only.  The receiver inflates what comes and limits both what it has inflated and what
  it has been sent, to the same number of bytes.

  A flush costs bytes.  What is sent is received exactly if the deflated stream keeps to
  the limit as well, and with small chunks a payload far below the limit does not.
-/
import LivekitClient.OutgoingDataStreams
import LivekitClient.StoredDeflate
import LivekitClient.ZlibSessions

namespace LivekitClient.CompressedStreams

open Std
open LivekitClient.KeyProvider
open LivekitClient.DataPacket
open LivekitClient.DataStreamCompression
open LivekitClient.IncomingDataStreams
open LivekitClient.StreamReassembly
open LivekitClient.OutgoingDataStreams

variable {σ : Type}

/-! ## 1. What a call that returns true has sent -/

/-- Data cut into contents of at most `size` bytes, none of them empty. -/
structure Cut (size : Nat) (data : Bytes) (contents : List Bytes) : Prop where
  flatten : contents.flatten = data
  each : ∀ content ∈ contents, content ≠ [] ∧ content.length ≤ size

theorem cut_pieces {size : Nat} (hsize : 0 < size) (data : Bytes) :
    Cut size data (pieces size data) :=
  ⟨flatten_pieces hsize data, fun _ => mem_pieces hsize⟩

theorem Cut.append {size : Nat} {data data' : Bytes} {contents contents' : List Bytes}
    (h : Cut size data contents) (h' : Cut size data' contents') :
    Cut size (data ++ data') (contents ++ contents') := by
  constructor
  · rw [List.flatten_append, h.flatten, h'.flatten]
  · intro content hmem
    rcases List.mem_append.mp hmem with hmem | hmem
    · exact h.each content hmem
    · exact h'.each content hmem

theorem chunkPackets_append (options : StreamOptions) (streamId : String) (start : Nat)
    (contents contents' : List Bytes) :
    chunkPackets options streamId start (contents ++ contents') =
      chunkPackets options streamId start contents ++
        chunkPackets options streamId (start + contents.length) contents' := by
  induction contents generalizing start with
  | nil => rfl
  | cons content rest ih =>
    rw [List.cons_append, chunkPackets, ih, chunkPackets, List.cons_append, List.length_cons,
      Nat.add_assoc start 1, Nat.add_comm 1]

/-- The engine after some more packets. -/
def Engine.after (engine : Engine) (packets : List Packet) : Engine :=
  { engine with sent := engine.sent ++ packets }

theorem Engine.after_after (engine : Engine) (packets packets' : List Packet) :
    Engine.after (Engine.after engine packets) packets' =
      Engine.after engine (packets ++ packets') := by
  simp only [Engine.after, List.append_assoc]

theorem sendDataPacket_sent {engine engine' : Engine} {packet : Packet}
    (hsend : engine.sendDataPacket packet = (true, engine')) :
    engine' = Engine.after engine [packet] :=
  (congrArg Prod.snd hsend).symm

theorem sendPieces_sent {streamId : String} {options : StreamOptions} {engine engine' : Engine}
    {start : Nat} {data : List Bytes} {chunkIndex : UInt64}
    (hsend : sendPieces streamId options engine (UInt64.ofNat start) data =
      (true, engine', chunkIndex)) :
    engine' = Engine.after engine (chunkPackets options streamId start data) ∧
      chunkIndex = UInt64.ofNat (start + data.length) := by
  induction data generalizing engine start with
  | nil =>
    cases hsend
    exact ⟨by simp [Engine.after, chunkPackets], rfl⟩
  | cons piece rest ih =>
    rw [sendPieces] at hsend
    split at hsend
    · simp at hsend
    · rename_i sent hfirst
      have hnext : UInt64.ofNat start + 1 = UInt64.ofNat (start + 1) := by
        rw [UInt64.ofNat_add]
        rfl
      rw [hnext] at hsend
      obtain ⟨rfl, rfl⟩ := ih hsend
      rw [sendDataPacket_sent hfirst, Engine.after_after]
      refine ⟨rfl, ?_⟩
      rw [List.length_cons, Nat.add_assoc start 1, Nat.add_comm 1]

theorem sendStreamChunks_sent {streamId : String} {options : StreamOptions}
    {engine engine' : Engine} {start : Nat} {data : Bytes} {chunkIndex : UInt64}
    (hsend : sendStreamChunks engine streamId data options (UInt64.ofNat start) =
      (true, engine', chunkIndex)) :
    ∃ contents, Cut options.chunkSize data contents ∧
      engine' = Engine.after engine (chunkPackets options streamId start contents) ∧
      chunkIndex = UInt64.ofNat (start + contents.length) := by
  rw [sendStreamChunks] at hsend
  split at hsend
  · simp at hsend
  · rename_i haccepted
    simp only [Bool.or_eq_true, beq_iff_eq, decide_eq_true_eq, not_or] at haccepted
    exact ⟨_, cut_pieces (Nat.pos_of_ne_zero haccepted.1.2) data, sendPieces_sent hsend⟩

theorem sendStreamPayload_sent {zlib : Zlib σ} {streamId : String} {options : StreamOptions}
    {engine engine' : Engine} {data : Bytes}
    (hsend : sendStreamPayload zlib engine streamId data options = (true, engine')) :
    ∃ compressed contents, compressPayload zlib options data = some compressed ∧
      Cut options.chunkSize compressed contents ∧
      engine' = Engine.after engine
        (chunkPackets options streamId 0 contents ++ [trailerPacket options streamId]) := by
  rw [sendStreamPayload] at hsend
  split at hsend
  · simp at hsend
  split at hsend
  · simp at hsend
  rename_i compressed hcompressed
  split at hsend
  · simp at hsend
  rename_i sent chunkIndex hchunks
  obtain ⟨contents, hcut, rfl, -⟩ := @sendStreamChunks_sent _ _ _ _ 0 _ _ hchunks
  rw [sendDataPacket_sent hsend, Engine.after_after]
  exact ⟨compressed, contents, hcompressed, hcut, rfl⟩

/-- A file is deflated like a payload in memory, but what each read gives is cut apart. -/
theorem sendReads_sent {zlib : Zlib σ} {streamId : String} {options : StreamOptions}
    {engine engine' : Engine} {deflater : DeflateRawStream σ}
    {deflater' : Option (DeflateRawStream σ)} {start : Nat} {reads : List Bytes}
    {chunkIndex : UInt64}
    (hsend : sendReads zlib streamId options engine (some deflater) (UInt64.ofNat start) reads =
      (true, engine', deflater', chunkIndex)) :
    ∃ output after contents, deflateAll zlib deflater reads = some (output, after) ∧
      deflater' = some after ∧ Cut options.chunkSize output contents ∧
      engine' = Engine.after engine (chunkPackets options streamId start contents) ∧
      chunkIndex = UInt64.ofNat (start + contents.length) := by
  induction reads generalizing engine deflater start with
  | nil =>
    cases hsend
    exact ⟨[], deflater, [], rfl, rfl, ⟨rfl, by simp⟩, by simp [Engine.after, chunkPackets], rfl⟩
  | cons read rest ih =>
    rw [sendReads] at hsend
    split at hsend
    · simp at hsend
    rename_i output deflated hwrite
    split at hsend
    · simp at hsend
    rename_i sent next hchunks
    obtain ⟨contents, hcut, rfl, rfl⟩ := sendStreamChunks_sent hchunks
    obtain ⟨more, after, contents', hall, rfl, hcut', rfl, rfl⟩ := ih hsend
    refine ⟨output ++ more, after, contents ++ contents', ?_, rfl, hcut.append hcut', ?_, ?_⟩
    · rw [deflateAll, hwrite]
      dsimp only
      rw [hall]
    · rw [Engine.after_after, chunkPackets_append]
    · rw [List.length_append, Nat.add_assoc]

theorem finishFile_sent {zlib : Zlib σ} {streamId : String} {options : StreamOptions}
    {engine engine' : Engine} {deflater : DeflateRawStream σ} {start : Nat}
    (hsend : finishFile zlib streamId options engine (some deflater) (UInt64.ofNat start) =
      (true, engine')) :
    ∃ output after contents, deflater.finish zlib = (true, output, after) ∧
      Cut options.chunkSize output contents ∧
      engine' = Engine.after engine
        (chunkPackets options streamId start contents ++ [trailerPacket options streamId]) := by
  rw [finishFile] at hsend
  split at hsend
  · simp at hsend
  rename_i output after hfinish
  split at hsend
  · simp at hsend
  rename_i sent chunkIndex hchunks
  obtain ⟨contents, hcut, rfl, -⟩ := sendStreamChunks_sent hchunks
  rw [sendDataPacket_sent hsend, Engine.after_after]
  exact ⟨output, after, contents, hfinish, hcut, rfl⟩

/-- A call that has gone through: what was accepted and what was sent. -/
structure Sent (zlib : Zlib σ) (sending : Sending) (streamId : String) (timestamp : Int)
    (engine engine' : Engine) (compressed : Bytes) (contents : List Bytes) : Prop where
  chunkSize_pos : 0 < sending.options.chunkSize
  chunkSize_le : sending.options.chunkSize ≤ kMaximumDataStreamChunkSize
  payload_le : sending.payload.length ≤ kMaximumCompressedDataStreamSize
  deflated : compressPayload zlib sending.options sending.payload = some compressed
  cut : Cut sending.options.chunkSize compressed contents
  sent : engine' = Engine.after engine
    (framed sending.options (sending.header streamId timestamp) contents "")

theorem refuses_eq_false {engine : Engine} {options : StreamOptions} {size : Nat}
    (hcompress : options.compress = true)
    (h : ¬ (refusesOptions engine options || refusesCompressed options size) = true) :
    0 < options.chunkSize ∧ options.chunkSize ≤ kMaximumDataStreamChunkSize ∧
      size ≤ kMaximumCompressedDataStreamSize := by
  simp only [refusesOptions, refusesCompressed, hcompress, Bool.or_eq_true, beq_iff_eq,
    decide_eq_true_eq, Bool.true_and, not_or] at h
  omega

/-- Text and bytes: once the header is out, the payload in memory follows it. -/
theorem Sent.of_payload {zlib : Zlib σ} {sending : Sending}
    (hcompress : sending.options.compress = true)
    {streamId : String} {timestamp : Int} {engine opened engine' : Engine}
    (haccepted : ¬ (refusesOptions engine sending.options ||
      refusesCompressed sending.options sending.payload.length) = true)
    (hheader : engine.sendDataPacket (populateStreamPacket sending.options
      (.streamHeader (sending.header streamId timestamp))) = (true, opened))
    (hsend : sendStreamPayload zlib opened streamId sending.payload sending.options =
      (true, engine')) :
    ∃ compressed contents,
      Sent zlib sending streamId timestamp engine engine' compressed contents := by
  obtain ⟨hpos, hle, hsize⟩ := refuses_eq_false hcompress haccepted
  obtain ⟨compressed, contents, hcompressed, hcut, rfl⟩ := sendStreamPayload_sent hsend
  refine ⟨compressed, contents, hpos, hle, hsize, hcompressed, hcut, ?_⟩
  have hid : (sending.header streamId timestamp).streamId = streamId := by
    cases sending <;> rfl
  rw [sendDataPacket_sent hheader, Engine.after_after, framed, hid]
  rfl

/-- Every call that returns true has sent the deflated payload in full. -/
theorem send_sent {zlib : Zlib σ} {sending : Sending} (hcompress : sending.options.compress = true)
    {streamId : String} {timestamp : Int} {engine engine' : Engine}
    (hsend : sending.send zlib engine streamId timestamp = (true, engine')) :
    ∃ compressed contents,
      Sent zlib sending streamId timestamp engine engine' compressed contents := by
  cases sending with
  | text content options =>
    rw [Sending.send, sendText] at hsend
    split at hsend
    · simp at hsend
    rename_i haccepted
    split at hsend
    · simp at hsend
    rename_i opened hheader
    exact Sent.of_payload hcompress haccepted hheader hsend
  | bytes data options =>
    rw [Sending.send, sendBytes] at hsend
    split at hsend
    · simp at hsend
    rename_i haccepted
    split at hsend
    · simp at hsend
    rename_i opened hheader
    exact Sent.of_payload hcompress haccepted hheader hsend
  | file path content options =>
    change options.compress = true at hcompress
    rw [Sending.send, sendFile] at hsend
    split at hsend
    · simp at hsend
    rename_i hoptions
    dsimp only at hsend
    split at hsend
    · simp at hsend
    rename_i hsize
    split at hsend
    · simp at hsend
    rename_i opened hheader
    simp only [hcompress, Bool.true_and] at hsend
    split at hsend
    · simp at hsend
    rename_i hvalid
    split at hsend
    · simp at hsend
    rename_i sent deflater chunkIndex hreads
    have haccepted : ¬ (refusesOptions engine options.toStreamOptions ||
        refusesCompressed options.toStreamOptions content.length) = true := by
      rw [Bool.or_eq_true]
      exact not_or.mpr ⟨hoptions, hsize⟩
    obtain ⟨hpos, hle, hsize⟩ := refuses_eq_false hcompress haccepted
    obtain ⟨output, after, contents, hall, rfl, hcut, rfl, rfl⟩ :=
      @sendReads_sent _ _ _ _ _ _ _ _ 0 _ _ hreads
    obtain ⟨rest, ended, contents', hfinish, hcut', rfl⟩ := finishFile_sent hsend
    refine ⟨output ++ rest, contents ++ contents', hpos, hle, hsize, ?_, hcut.append hcut', ?_⟩
    · change compressPayload zlib options.toStreamOptions content = some (output ++ rest)
      rw [compressPayload, if_neg (by simp [hcompress]), if_neg hvalid, hall]
      dsimp only
      rw [hfinish]
    · rw [sendDataPacket_sent hheader, Engine.after_after, Engine.after_after, framed,
        chunkPackets_append]
      simp only [List.append_assoc, List.cons_append, List.nil_append]
      rfl

/-! ## 2. What the contents inflate to -/

theorem deflateInit_of_isValid {zlib : Zlib σ}
    (hvalid : ¬ (!(DeflateRawStream.new zlib).isValid) = true) :
    ∃ stream, zlib.deflateInit = some stream := by
  rw [Bool.not_eq_true', Bool.not_eq_false] at hvalid
  exact Option.isSome_iff_exists.mp hvalid

theorem deflateAll_session {zlib : Zlib σ} (hzlib : zlib.RoundTrip) {stream : σ}
    {given out : Bytes} {flushed : Bool} (h : Deflating zlib stream given out flushed)
    {data : List Bytes} {output : Bytes} {after : DeflateRawStream σ}
    (hall : deflateAll zlib ⟨some stream, false⟩ data = some (output, after)) :
    ∃ stream' flushed', after = ⟨some stream', false⟩ ∧
      Deflating zlib stream' (given ++ data.flatten) (out ++ output) flushed' := by
  induction data generalizing stream given out flushed output with
  | nil =>
    cases hall
    exact ⟨stream, flushed, rfl, by simpa using h⟩
  | cons piece rest ih =>
    rw [deflateAll] at hall
    split at hall
    · simp at hall
    rename_i first deflater hwrite
    split at hall
    · simp at hall
    rename_i more deflater' hmore
    cases hall
    obtain ⟨stream', rfl, hdeflating⟩ := DeflateRawStream.write_session hzlib h hwrite
    obtain ⟨stream'', flushed', rfl, hsession⟩ := ih hdeflating hmore
    refine ⟨stream'', flushed', rfl, ?_⟩
    rw [List.append_assoc, List.append_assoc] at hsession
    exact hsession

/-- The deflated payload is a whole session's output. -/
theorem compressPayload_session {zlib : Zlib σ} (hzlib : zlib.RoundTrip) {options : StreamOptions}
    (hcompress : options.compress = true) (hpos : 0 < options.chunkSize) {data compressed : Bytes}
    (h : compressPayload zlib options data = some compressed) :
    ∃ ended, Ended zlib ended data compressed := by
  rw [compressPayload, if_neg (by simp [hcompress])] at h
  split at h
  · simp at h
  rename_i hvalid
  obtain ⟨stream, hinit⟩ := deflateInit_of_isValid hvalid
  split at h
  · simp at h
  rename_i output deflater hall
  split at h
  · simp at h
  rename_i rest ended hfinish
  cases h
  rw [DeflateRawStream.new, hinit] at hall
  obtain ⟨stream', flushed, rfl, hdeflating⟩ := deflateAll_session hzlib (.init hinit) hall
  rw [List.nil_append, List.nil_append, flatten_pieces hpos] at hdeflating
  exact DeflateRawStream.finish_session hzlib hdeflating hfinish

/-- The contents of a deflated stream, one after another, make up the payload. -/
theorem decodeAll_session {zlib : Zlib σ} (hzlib : zlib.RoundTrip) {ended : σ}
    {payload compressed : Bytes} (hended : Ended zlib ended payload compressed)
    {inflater : InflateRawStream σ} {stream : σ} (hstream : inflater.stream = some stream)
    {fed out : Bytes} (h : InflateRawStream.InSession zlib inflater stream fed out)
    (hout : out <+: payload) (hpayload : payload.length ≤ inflater.maximumOutputSize.toNat)
    (hmaximum : inflater.maximumOutputSize.toNat < 2 ^ 64 - 1) {contents : List Bytes}
    (hcompressed : fed ++ contents.flatten = compressed) (hsome : contents ≠ [])
    (heach : ∀ content ∈ contents, content ≠ [] ∧ content.length ≤ uIntMax) :
    ∃ output after, decodeAll zlib (some inflater) contents = some (output, some after) ∧
      out ++ output = payload ∧ after.finished = true := by
  induction contents generalizing inflater stream fed out with
  | nil => exact absurd rfl hsome
  | cons content rest ih =>
    rw [List.flatten_cons, ← List.append_assoc] at hcompressed
    obtain ⟨made, after, hwrite, hmax, hprefix, hcases⟩ :=
      InflateRawStream.write_session hzlib hended hstream h hout hpayload hmaximum hcompressed
        (heach content List.mem_cons_self).2
    rw [decodeAll, decodeOne, hwrite]
    dsimp only
    rcases hcases with ⟨hrest, hfinished, hall⟩ | ⟨hrest, stream', hstream', hsession⟩
    · -- the stream ends here, and no content after it is left
      have hnil : rest = [] := by
        cases rest with
        | nil => rfl
        | cons next _ =>
          rw [List.flatten_cons] at hrest
          exact absurd (List.append_eq_nil_iff.mp hrest).1 (heach next (by simp)).1
      rw [hnil]
      exact ⟨made, after, by simp [decodeAll], hall, hfinished⟩
    · rw [← hmax] at hpayload hmaximum
      obtain ⟨output, last, hmore, hall, hfinished⟩ := ih hstream' hsession hprefix hpayload hmaximum
        hcompressed (fun hnil => hrest (by rw [hnil]; rfl))
        fun next hmem => heach next (List.mem_cons_of_mem _ hmem)
      rw [hmore]
      rw [List.append_assoc] at hall
      exact ⟨made ++ output, last, rfl, hall, hfinished⟩

/-! ## 3. What the receiver does with them -/

/-- The contents of a deflated stream make up the payload exactly if they are within the
    limit together, and the payload is of the declared length. -/
theorem reassemble_deflated {zlib : Zlib σ} (hzlib : zlib.RoundTrip) {ended : σ}
    {payload compressed : Bytes} (hended : Ended zlib ended payload compressed)
    (hpayload : payload.length ≤ kMaximumBufferedDataStreamSize) {size : Nat}
    {contents : List Bytes} (hcut : Cut size compressed contents)
    (hsize : size ≤ kMaximumDataStreamChunkSize) {header : StreamHeader}
    (hcompression : header.compression = .deflateRaw) (streamId : String) :
    reassemble zlib header (streamChunks streamId 0 contents) =
      if compressed.length ≤ kMaximumBufferedDataStreamSize ∧
          header.totalLength.all (fun length => decide (payload.length = length.toNat)) = true then
        some payload
      else none := by
  obtain ⟨stream, hinit⟩ := Option.ne_none_iff_exists'.mp hzlib.inflateInit
  have hmaximum : (newInflater zlib).maximumOutputSize.toNat = kMaximumBufferedDataStreamSize :=
    rfl
  have hsome : contents ≠ [] := by
    intro hnil
    apply hzlib.ended_ne_nil hended
    rw [← hcut.flatten, hnil]
    rfl
  obtain ⟨output, after, hdecode, hall, hfinished⟩ :=
    @decodeAll_session σ zlib hzlib ended payload compressed hended (newInflater zlib) stream
      hinit [] [] ⟨.init hinit, rfl, rfl⟩ List.nil_prefix (by rw [hmaximum]; exact hpayload)
      (by rw [hmaximum]; decide) contents hcut.flatten hsome (by
        intro content hmem
        obtain ⟨hne, hlength⟩ := hcut.each content hmem
        exact ⟨hne, by simp only [kMaximumDataStreamChunkSize, uIntMax] at *; omega⟩)
  rw [List.nil_append] at hall
  have hstart : startInflater zlib header = some (newInflater zlib) := by
    simp [startInflater, hcompression]
  rw [reassemble, hstart, map_content_streamChunks, hdecode, hall]
  dsimp only
  simp only [map_chunkIndex_streamChunks, hpayload, hcompression, hcut.flatten, finished,
    hfinished, true_and, true_implies]

section Received

variable {sending : Sending} (hcompress : sending.options.compress = true)
  (streamId : String) (timestamp : Int)

include hcompress in
theorem header_deflateRaw : (sending.header streamId timestamp).compression = .deflateRaw := by
  cases sending <;> simp_all [Sending.header, Sending.options, populateStreamHeader]

include hcompress in
/-- The header of an accepted payload opens a stream. -/
theorem headerOutcome_compressed {zlib : Zlib σ} (hzlib : zlib.RoundTrip)
    (hsize : sending.payload.length ≤ kMaximumBufferedDataStreamSize) (hid : streamId ≠ "") :
    headerOutcome zlib (sending.header streamId timestamp) false =
      .opened (some (newInflater zlib)) := by
  have hcompression := header_deflateRaw hcompress streamId timestamp
  have hlength : ¬ kMaximumBufferedDataStreamSize < sending.payload.length := by omega
  have hinline : (sending.header streamId timestamp).inlineContent = none := by
    cases sending <;> rfl
  have hrefuses : refusesLength (sending.header streamId timestamp) false = false := by
    simp [refusesLength, Sending.header_totalLength, Sending.toNat_totalLength hsize, hlength]
  have hvalid : (newInflater zlib).isValid = true :=
    Option.isSome_iff_ne_none.mpr hzlib.inflateInit
  simp [headerOutcome, Sending.header_streamId, hid, hcompression, isSupportedCompression,
    hrefuses, hinline, hvalid]

include hcompress in
theorem reassemble_compressed {zlib : Zlib σ} (hzlib : zlib.RoundTrip) {engine engine' : Engine}
    {compressed : Bytes} {contents : List Bytes}
    (h : Sent zlib sending streamId timestamp engine engine' compressed contents) :
    reassemble zlib (sending.header streamId timestamp) (streamChunks streamId 0 contents) =
      if compressed.length ≤ kMaximumBufferedDataStreamSize then some sending.payload else none := by
  obtain ⟨ended, hended⟩ :=
    compressPayload_session hzlib hcompress h.chunkSize_pos h.deflated
  have htotal : (sending.header streamId timestamp).totalLength.all
      (fun length => decide (sending.payload.length = length.toNat)) = true := by
    rw [all_totalLength]
    intro length hmem
    rw [Sending.header_totalLength] at hmem
    cases hmem
    exact (Sending.toNat_totalLength h.payload_le).symm
  rw [reassemble_deflated hzlib hended h.payload_le h.cut h.chunkSize_le
    (header_deflateRaw hcompress streamId timestamp) streamId]
  simp only [htotal, and_true]

end Received

/-- The length of the deflated payload, with a flush after every `chunkSize` bytes. -/
def deflatedLength (zlib : Zlib σ) (sending : Sending) : Nat :=
  ((compressPayload zlib sending.options sending.payload).getD []).length

/-- What was sent is delivered or, past the limit, nothing is. -/
theorem deliveries_compressed {zlib : Zlib σ} (hzlib : zlib.RoundTrip) {room : Room σ}
    (hroom : Reachable zlib room) (hlistener : room.hasListener = true) {sending : Sending}
    (hcompress : sending.options.compress = true) {streamId : String} (hid : streamId ≠ "")
    (hhandler : sending.handler room = none) (htexts : room.incomingTexts[streamId]? = none)
    (hfiles : room.incomingFiles[streamId]? = none) {timestamp : Int} {engine engine' : Engine}
    (hsend : sending.send zlib engine streamId timestamp = (true, engine')) {identity : String}
    {arrivals : List Arrival}
    (harrivals : ofStream streamId arrivals =
      (engine'.sent.drop engine.sent.length).map (relay identity)) :
    forStream streamId (room.deliveries zlib arrivals) =
      if deflatedLength zlib sending ≤ kMaximumBufferedDataStreamSize then
        sending.received streamId timestamp identity
      else [] := by
  obtain ⟨compressed, contents, h⟩ := send_sent hcompress hsend
  rw [h.sent, Engine.after, List.drop_left] at harrivals
  have houtcome := headerOutcome_compressed hcompress streamId timestamp hzlib h.payload_le hid
  have hreassemble := reassemble_compressed hcompress streamId timestamp hzlib h
  rw [(Sending.deliveries_framed hroom hlistener hhandler htexts hfiles houtcome harrivals).1,
    deflatedLength, h.deflated, Option.getD_some]
  split
  · rename_i hfits
    rw [if_pos hfits] at hreassemble
    rw [Sending.framedDelivery_payload timestamp identity hreassemble, forStream_received]
  · rename_i hlarge
    rw [if_neg hlarge] at hreassemble
    rw [framedDelivery, if_neg (not_not.mpr rfl), Sending.header_streamId, hreassemble]
    rfl

/-- **Sender and receiver on the limits of a compressed stream.**  What a call that
    returned true has sent is delivered as the payload exactly if the deflated payload
    is within the receiver's limit too. -/
theorem compressed_roundTrip_iff {zlib : Zlib σ} (hzlib : zlib.RoundTrip) {room : Room σ}
    (hroom : Reachable zlib room) (hlistener : room.hasListener = true) {sending : Sending}
    (hcompress : sending.options.compress = true) {streamId : String} (hid : streamId ≠ "")
    (hhandler : sending.handler room = none) (htexts : room.incomingTexts[streamId]? = none)
    (hfiles : room.incomingFiles[streamId]? = none) {timestamp : Int} {engine engine' : Engine}
    (hsend : sending.send zlib engine streamId timestamp = (true, engine')) {identity : String}
    {arrivals : List Arrival}
    (harrivals : ofStream streamId arrivals =
      (engine'.sent.drop engine.sent.length).map (relay identity)) :
    forStream streamId (room.deliveries zlib arrivals) =
        sending.received streamId timestamp identity ↔
      deflatedLength zlib sending ≤ kMaximumBufferedDataStreamSize := by
  have hsome : sending.received streamId timestamp identity ≠ [] := by
    cases sending <;> simp [Sending.received, byteDeliveries]
  rw [deliveries_compressed hzlib hroom hlistener hcompress hid hhandler htexts hfiles hsend
    harrivals]
  split
  · rename_i hfits
    exact iff_of_true rfl hfits
  · rename_i hlarge
    exact iff_of_false (fun hnil => hsome hnil.symm) hlarge

/-- Thirty bytes in two chunks; zlib stores them as they are. -/
def thirtyBytes : Sending :=
  .bytes ((List.range 30).map fun n => UInt8.ofNat (144 + n))
    { topic := "blobs", chunkSize := 15, compress := true }

def thirtyBytesSent : List Packet :=
  (thirtyBytes.send StoredDeflate.zlib Engine.reliable "bytes-1" 7).2.sent

theorem thirtyBytes_arrive :
    forStream "bytes-1" ((Room.new true).deliveries StoredDeflate.zlib
        (alone (thirtyBytesSent.map (relay "alice")))) =
      thirtyBytes.received "bytes-1" 7 "alice" := by
  have hsend : thirtyBytes.send StoredDeflate.zlib Engine.reliable "bytes-1" 7 =
      (true, (thirtyBytes.send StoredDeflate.zlib Engine.reliable "bytes-1" 7).2) :=
    Prod.ext (by decide) rfl
  have harrivals : ofStream "bytes-1" (alone (thirtyBytesSent.map (relay "alice"))) =
      (thirtyBytesSent.drop Engine.reliable.sent.length).map (relay "alice") := by
    decide
  refine (@compressed_roundTrip_iff _ _ StoredDeflate.roundTrip (Room.new true) ⟨true, [], rfl⟩ rfl
    thirtyBytes rfl "bytes-1" (by decide) (by decide) (by decide) (by decide) 7 _ _ hsend "alice" _
    harrivals).mpr ?_
  decide

/-! ## 4. Small chunks -/

theorem deflateAll_cost {zlib : Zlib σ} (hzlib : zlib.RoundTrip)
    (hcost : DeflateRawStream.FlushCosts zlib) {stream : σ} {given out : Bytes} {flushed : Bool}
    (h : Deflating zlib stream given out flushed) {data : List Bytes}
    (hdata : ∀ piece ∈ data, piece ≠ []) {output : Bytes} {after : DeflateRawStream σ}
    (hall : deflateAll zlib ⟨some stream, false⟩ data = some (output, after)) :
    5 * data.length ≤ output.length := by
  induction data generalizing stream given out flushed output with
  | nil => exact Nat.zero_le _
  | cons piece rest ih =>
    rw [deflateAll] at hall
    split at hall
    · simp at hall
    rename_i first deflater hwrite
    split at hall
    · simp at hall
    rename_i more deflater' hmore
    cases hall
    have hfirst := hcost h (hdata piece List.mem_cons_self) hwrite
    obtain ⟨stream', rfl, hdeflating⟩ := DeflateRawStream.write_session hzlib h hwrite
    have hrest := ih hdeflating (fun other hmem => hdata other (List.mem_cons_of_mem _ hmem)) hmore
    rw [List.length_cons, List.length_append]
    omega

theorem Cut.length_le {size : Nat} {data : Bytes} {contents : List Bytes}
    (h : Cut size data contents) : data.length ≤ size * contents.length := by
  obtain ⟨rfl, heach⟩ := h
  induction contents with
  | nil => exact Nat.zero_le _
  | cons content rest ih =>
    have hfirst := (heach content List.mem_cons_self).2
    have hrest := ih fun other hmem => heach other (List.mem_cons_of_mem _ hmem)
    rw [List.flatten_cons, List.length_append, List.length_cons, Nat.mul_succ]
    omega

/-- Every chunk's worth of the payload costs five bytes. -/
theorem deflatedLength_ge {zlib : Zlib σ} (hzlib : zlib.RoundTrip)
    (hcost : DeflateRawStream.FlushCosts zlib) {sending : Sending}
    (hcompress : sending.options.compress = true) (hpos : 0 < sending.options.chunkSize)
    {compressed : Bytes}
    (h : compressPayload zlib sending.options sending.payload = some compressed) :
    5 * sending.payload.length ≤ sending.options.chunkSize * compressed.length := by
  have hcut := cut_pieces hpos sending.payload
  rw [compressPayload, if_neg (by simp [hcompress])] at h
  split at h
  · simp at h
  rename_i hvalid
  obtain ⟨stream, hinit⟩ := deflateInit_of_isValid hvalid
  split at h
  · simp at h
  rename_i output deflater hall
  split at h
  · simp at h
  rename_i rest ended hfinish
  cases h
  rw [DeflateRawStream.new, hinit] at hall
  have houtput := deflateAll_cost hzlib hcost (.init hinit) (fun piece hmem => (hcut.each piece hmem).1)
    hall
  calc 5 * sending.payload.length
      ≤ 5 * (sending.options.chunkSize *
          (pieces sending.options.chunkSize sending.payload).length) :=
        Nat.mul_le_mul_left 5 hcut.length_le
    _ = sending.options.chunkSize *
          (5 * (pieces sending.options.chunkSize sending.payload).length) := by
        rw [Nat.mul_left_comm]
    _ ≤ sending.options.chunkSize * (output ++ rest).length := by
        rw [List.length_append]
        exact Nat.mul_le_mul_left _ (Nat.le_add_right_of_le houtput)

/-- With small chunks the stream is past the limit long before the payload is: nothing
    is delivered. -/
theorem small_chunks_lost {zlib : Zlib σ} (hzlib : zlib.RoundTrip)
    (hcost : DeflateRawStream.FlushCosts zlib) {room : Room σ}
    (hroom : Reachable zlib room) (hlistener : room.hasListener = true) {sending : Sending}
    (hcompress : sending.options.compress = true) {streamId : String} (hid : streamId ≠ "")
    (hhandler : sending.handler room = none) (htexts : room.incomingTexts[streamId]? = none)
    (hfiles : room.incomingFiles[streamId]? = none) {timestamp : Int} {engine engine' : Engine}
    (hsend : sending.send zlib engine streamId timestamp = (true, engine')) {identity : String}
    {arrivals : List Arrival}
    (harrivals : ofStream streamId arrivals =
      (engine'.sent.drop engine.sent.length).map (relay identity))
    (hsmall : sending.options.chunkSize * kMaximumBufferedDataStreamSize <
      5 * sending.payload.length) :
    forStream streamId (room.deliveries zlib arrivals) = [] := by
  obtain ⟨compressed, contents, h⟩ := send_sent hcompress hsend
  have hcosts := deflatedLength_ge hzlib hcost hcompress h.chunkSize_pos h.deflated
  rw [deliveries_compressed hzlib hroom hlistener hcompress hid hhandler htexts hfiles hsend
    harrivals, if_neg]
  rw [deflatedLength, h.deflated, Option.getD_some]
  intro hfits
  have hlimit := Nat.mul_le_mul_left sending.options.chunkSize hfits
  omega

/-! ### A payload that is lost -/

theorem deflateAll_succeeds {zlib : Zlib σ} (hzlib : zlib.RoundTrip) (hserves : zlib.Serves)
    {stream : σ} {given out : Bytes} {flushed : Bool}
    (h : Deflating zlib stream given out flushed) {data : List Bytes}
    (hdata : ∀ piece ∈ data, piece ≠ [] ∧ piece.length ≤ uIntMax) :
    deflateAll zlib ⟨some stream, false⟩ data ≠ none := by
  induction data generalizing stream given out flushed with
  | nil => nofun
  | cons piece rest ih =>
    obtain ⟨hne, hlength⟩ := hdata piece List.mem_cons_self
    obtain ⟨output, after, hwrite⟩ := DeflateRawStream.write_succeeds hserves h (.inl hne) hlength
    obtain ⟨stream', rfl, hdeflating⟩ := DeflateRawStream.write_session hzlib h hwrite
    have hrest := ih hdeflating fun other hmem => hdata other (List.mem_cons_of_mem _ hmem)
    rw [deflateAll, hwrite]
    dsimp only
    split
    · rename_i hnone
      exact absurd hnone hrest
    · nofun

/-- Deflating the payload does not fail. -/
theorem compressPayload_succeeds {zlib : Zlib σ} (hzlib : zlib.RoundTrip) (hserves : zlib.Serves)
    {options : StreamOptions} (hcompress : options.compress = true) (hpos : 0 < options.chunkSize)
    (hle : options.chunkSize ≤ kMaximumDataStreamChunkSize) (data : Bytes) :
    ∃ compressed, compressPayload zlib options data = some compressed := by
  obtain ⟨stream, hinit⟩ := Option.ne_none_iff_exists'.mp hserves.deflateInit
  have hall := @deflateAll_succeeds σ zlib hzlib hserves stream [] [] false (.init hinit)
    (pieces options.chunkSize data) (by
      intro piece hmem
      obtain ⟨hne, hlength⟩ := mem_pieces hpos hmem
      exact ⟨hne, by simp only [kMaximumDataStreamChunkSize, uIntMax] at *; omega⟩)
  obtain ⟨⟨output, deflater⟩, hall⟩ := Option.ne_none_iff_exists'.mp hall
  obtain ⟨stream', flushed, rfl, hdeflating⟩ := deflateAll_session hzlib (.init hinit) hall
  obtain ⟨rest, after, hfinish⟩ := DeflateRawStream.finish_succeeds hzlib hserves hdeflating
  refine ⟨output ++ rest, ?_⟩
  rw [compressPayload, if_neg (by simp [hcompress]), DeflateRawStream.new, hinit,
    if_neg (by simp [DeflateRawStream.isValid]), hall]
  dsimp only
  rw [hfinish]

/-- Bytes up to the limit are sent. -/
theorem sendBytes_succeeds {zlib : Zlib σ} (hzlib : zlib.RoundTrip) (hserves : zlib.Serves)
    {data : Bytes} {options : ByteSendOptions} (hcompress : options.compress = true)
    (hpos : 0 < options.chunkSize) (hle : options.chunkSize ≤ kMaximumDataStreamChunkSize)
    (hsize : data.length ≤ kMaximumCompressedDataStreamSize) (streamId : String)
    (timestamp : Int) :
    ∃ engine, (Sending.bytes data options).send zlib Engine.reliable streamId timestamp =
      (true, engine) := by
  have hrefuses := @refusesOptions_reliable options.toStreamOptions hpos hle
  have hlarge : ¬ kMaximumCompressedDataStreamSize < data.length := by omega
  obtain ⟨compressed, hcompressed⟩ :=
    compressPayload_succeeds hzlib hserves hcompress hpos hle data
  rw [Sending.send, sendBytes, if_neg (by simp [hrefuses, refusesCompressed, hlarge]),
    sendDataPacket_reliable (fun _ => rfl)]
  dsimp only
  rw [sendStreamPayload, if_neg (by simp [hlarge]), hcompressed]
  dsimp only
  rw [show (0 : UInt64) = UInt64.ofNat 0 from rfl,
    sendStreamChunks_reliable (by exact fun _ => rfl) rfl streamId hpos hle]
  exact ⟨_, rfl⟩

theorem ofStream_framed (options : StreamOptions) (header : StreamHeader) (contents : List Bytes)
    (reason identity : String) :
    ofStream header.streamId
        (alone ((framed options header contents reason).map (relay identity))) =
      (framed options header contents reason).map (relay identity) := by
  have hchunk : ∀ (start : Nat) (contents : List Bytes),
      ∀ packet ∈ chunkPackets options header.streamId start contents,
        streamIdOf packet = some header.streamId := by
    intro start contents
    induction contents generalizing start with
    | nil =>
      intro packet hmem
      exact absurd hmem List.not_mem_nil
    | cons content rest ih =>
      intro packet hmem
      rcases List.mem_cons.mp hmem with rfl | hmem
      · rfl
      · exact ih _ packet hmem
  have hpackets : (alone ((framed options header contents reason).map
      (relay identity))).map (·.packet) =
        (framed options header contents reason).map (relay identity) := by
    simp [alone, Function.comp_def]
  rw [ofStream, hpackets, List.filter_eq_self]
  intro packet hmem
  obtain ⟨packet, hpacket, rfl⟩ := List.mem_map.mp hmem
  rw [decide_eq_true_eq]
  change streamIdOf packet = some header.streamId
  rw [framed, List.cons_append] at hpacket
  rcases List.mem_cons.mp hpacket with rfl | hmem
  · rfl
  · rcases List.mem_append.mp hmem with hmem | hmem
    · exact hchunk 0 contents packet hmem
    · rw [List.mem_singleton.mp hmem]
      rfl

/-- Fourteen mebibytes, a byte to the chunk. -/
def manyChunks : Sending :=
  .bytes (List.replicate (14 * 1024 * 1024) 200) { topic := "blobs", chunkSize := 1, compress := true }

/-- The call returns true, and the receiver gets nothing. -/
theorem manyChunks_lost :
    (manyChunks.send StoredDeflate.zlib Engine.reliable "bytes-1" 7).1 = true ∧
      forStream "bytes-1" ((Room.new true).deliveries StoredDeflate.zlib
          (alone ((manyChunks.send StoredDeflate.zlib Engine.reliable "bytes-1" 7).2.sent.map
            (relay "alice")))) ≠
        manyChunks.received "bytes-1" 7 "alice" := by
  obtain ⟨engine, hsend⟩ := @sendBytes_succeeds _ _ StoredDeflate.roundTrip StoredDeflate.serves
    (List.replicate (14 * 1024 * 1024) 200)
    { topic := "blobs", chunkSize := 1, compress := true } rfl (by decide) (by decide)
    (by rw [List.length_replicate]; decide) "bytes-1" 7
  change manyChunks.send StoredDeflate.zlib Engine.reliable "bytes-1" 7 = (true, engine) at hsend
  have hlength : manyChunks.payload.length = 14 * 1024 * 1024 := by
    rw [manyChunks, Sending.payload, List.length_replicate]
  rw [hsend]
  refine ⟨rfl, ?_⟩
  obtain ⟨compressed, contents, h⟩ := send_sent rfl hsend
  have hlost := @small_chunks_lost _ _ StoredDeflate.roundTrip StoredDeflate.flushCosts
    (Room.new true) ⟨true, [], rfl⟩ rfl manyChunks rfl "bytes-1" (by decide) (by decide)
    (by decide) (by decide) 7 _ engine hsend "alice"
    (alone (engine.sent.map (relay "alice")))
    (by
      have hsent : engine.sent =
          framed manyChunks.options (manyChunks.header "bytes-1" 7) contents "" :=
        (congrArg Engine.sent h.sent).trans (List.nil_append _)
      rw [hsent]
      exact ofStream_framed manyChunks.options (manyChunks.header "bytes-1" 7) contents "" "alice")
    (by
      rw [hlength]
      decide)
  rw [hlost]
  intro heq
  cases heq

end LivekitClient.CompressedStreams
