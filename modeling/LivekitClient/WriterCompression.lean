/-
  LivekitClient/WriterCompression.lean
  ====================================
  **A compressing writer beside a plain one** (`StreamBytes` and
  `OutgoingStreamWriterBase` in `src/core/participant/local_participant.cpp`).

  Both writers get the same calls of `Write` and then `Close`, and every packet is sent.
  The plain one accepts whatever it is given.  The compressing one flushes the deflater
  with every `Write`, and zlib refuses to flush twice with nothing new: a `Write` of no
  bytes that is not the first call fails, and closes the writer.

  Without such a call the two return the same, and the receiver gets the same, as long
  as the deflated stream keeps to the receiver's limit.
-/
import LivekitClient.CompressedStreams
import LivekitClient.StreamWriter

namespace LivekitClient.WriterCompression

open Std
open LivekitClient.DataPacket
open LivekitClient.DataStreamCompression
open LivekitClient.IncomingDataStreams hiding Op
open LivekitClient.StreamReassembly
open LivekitClient.OutgoingDataStreams
open LivekitClient.CompressedStreams
open LivekitClient.StreamWriter (Writer WriterOptions Op)

variable {σ : Type}

/-! ## 1. Opening a stream -/

structure StreamBytesOptions extends StreamOptions where
  mimeType : String := "application/octet-stream"
  name : String := "unknown"
  streamId : String := ""
  totalSize : Option UInt64 := none
  onProgress : Bool := false

namespace StreamBytesOptions

/-- The id of the stream; without one in the options a random UUID. -/
def infoStreamId (options : StreamBytesOptions) (uuid : String) : String :=
  if options.streamId = "" then uuid else options.streamId

/-- `PopulateStreamingHeader`, and the name. -/
def header (options : StreamBytesOptions) (streamId : String) (timestamp : Int) : StreamHeader where
  streamId := streamId
  timestamp := timestamp
  topic := options.topic
  mimeType := options.mimeType
  compression := if options.compress then .deflateRaw else .none
  totalLength := options.totalSize
  attributes := options.attributes
  contentHeader := .byte { name := options.name }

def writerOptions (options : StreamBytesOptions) (streamId : String)
    (hpos : 0 < options.chunkSize) : WriterOptions where
  streamId := streamId
  totalSize := options.totalSize
  destinationIdentities := options.destinationIdentities
  chunkSize := options.chunkSize
  onProgress := options.onProgress
  chunkSize_pos := hpos

/-- The options are refused before anything is sent. -/
def refused (options : StreamBytesOptions) (engine : Engine) : Bool :=
  !engine.present || decide (kMaximumDataStreamChunkSize < options.chunkSize) ||
    (options.compress &&
      options.totalSize.any fun size => decide (kMaximumCompressedDataStreamSize < size.toNat))

end StreamBytesOptions

/-- `StreamBytes`: a writer whose header has been sent. -/
def streamBytes (zlib : Zlib σ) (engine : Engine) (uuid : String) (timestamp : Int)
    (options : StreamBytesOptions) : Option (Writer σ) :=
  if hpos : 0 < options.chunkSize then
    if options.refused engine then none
    else if options.compress && !(DeflateRawStream.new zlib).isValid then none
    else
      match engine.sendDataPacket (populateStreamPacket options.toStreamOptions
          (.streamHeader (options.header (options.infoStreamId uuid) timestamp))) with
      | (false, _) => none
      | (true, engine) =>
        some
          { options := options.writerOptions (options.infoStreamId uuid) hpos
            engine := engine
            deflater := if options.compress then some (.new zlib) else none }
  else none

/-- What some calls return, and the writer after them. -/
def calls (zlib : Zlib σ) : Writer σ → List Op → List Bool × Writer σ
  | writer, [] => ([], writer)
  | writer, op :: rest =>
    let (result, writer) := writer.apply zlib op
    let (results, writer) := calls zlib writer rest
    (result :: results, writer)

theorem calls_append (zlib : Zlib σ) (writer : Writer σ) (ops ops' : List Op) :
    calls zlib writer (ops ++ ops') =
      ((calls zlib writer ops).1 ++ (calls zlib (calls zlib writer ops).2 ops').1,
       (calls zlib (calls zlib writer ops).2 ops').2) := by
  induction ops generalizing writer with
  | nil => rfl
  | cons op rest ih => simp only [List.cons_append, calls, ih]

theorem length_calls (zlib : Zlib σ) (writer : Writer σ) (ops : List Op) :
    (calls zlib writer ops).1.length = ops.length := by
  induction ops generalizing writer with
  | nil => rfl
  | cons op rest ih =>
    rw [calls, List.length_cons, List.length_cons, ih]

/-- Some writes and then `Close`. -/
def writesAndClose (datas : List Bytes) : List Op := datas.map .write ++ [.close]

/-! ## 2. Packets that are all sent -/

/-- After the packets `before`, the writer has sent these contents, and all that it
    sends goes through. -/
structure Emitted (options : WriterOptions) (before : List Packet) (writer : Writer σ)
    (contents : List Bytes) : Prop where
  same : writer.options = options
  present : writer.engine.present = true
  results : ∀ n, writer.engine.results n = true
  sent : writer.engine.sent = before ++ StreamWriter.chunkPackets options contents
  next : writer.nextChunk = UInt64.ofNat contents.length

section Emitted

variable {options : WriterOptions} {before : List Packet} {writer : Writer σ}
  {contents : List Bytes} (h : Emitted options before writer contents)
include h

/-- What else the writer keeps does not count. -/
theorem Emitted.congr {writer' : Writer σ} (hoptions : writer'.options = writer.options)
    (hengine : writer'.engine = writer.engine) (hnext : writer'.nextChunk = writer.nextChunk) :
    Emitted options before writer' contents :=
  ⟨hoptions.trans h.same, by rw [hengine, h.present], by rw [hengine]; exact h.results,
    by rw [hengine, h.sent], hnext.trans h.next⟩

theorem Emitted.report : Emitted options before writer.report contents :=
  h.congr (StreamWriter.report_options _) (StreamWriter.report_engine _)
    (StreamWriter.report_nextChunk _)

theorem Emitted.sendChunk (content : Bytes) :
    (writer.sendChunk content).1 = true ∧
      Emitted options before (writer.sendChunk content).2 (contents ++ [content]) := by
  rw [Writer.sendChunk, Writer.send, if_pos h.present]
  refine ⟨h.results _, h.same, h.present, h.results, ?_, ?_⟩
  · simp only [Engine.sendDataPacket, h.sent, h.next, h.same,
      StreamWriter.chunkPackets_append, List.append_assoc]
  · simp only [h.next, List.length_append, List.length_singleton, UInt64.ofNat_add]
    rfl

end Emitted

theorem Emitted.sendChunks {options : WriterOptions} {before : List Packet} {writer : Writer σ}
    {contents : List Bytes} (h : Emitted options before writer contents) (more : List Bytes) :
    (writer.sendChunks more).1 = true ∧
      Emitted options before (writer.sendChunks more).2 (contents ++ more) := by
  induction more generalizing writer contents with
  | nil =>
    rw [List.append_nil]
    exact ⟨rfl, h⟩
  | cons content rest ih =>
    obtain ⟨hresult, hemitted⟩ := h.sendChunk content
    rw [Writer.sendChunks]
    rcases hsend : writer.sendChunk content with ⟨result, writer'⟩
    rw [hsend] at hresult hemitted
    subst hresult
    have hrest := ih hemitted
    rw [List.append_assoc] at hrest
    exact hrest

theorem Emitted.sendBytes {options : WriterOptions} {before : List Packet} {writer : Writer σ}
    {contents : List Bytes} (h : Emitted options before writer contents) (data : Bytes) :
    ∃ writer', writer.sendBytes data = (true, writer') ∧
      Emitted options before writer' (contents ++ pieces options.chunkSize data) ∧
      StreamWriter.Frame writer writer' := by
  obtain ⟨hresult, hemitted⟩ := h.sendChunks (pieces options.chunkSize data)
  rw [Writer.sendBytes, h.same]
  exact ⟨_, Prod.ext hresult rfl, hemitted, StreamWriter.sendChunks_frame _ _⟩

/-- The uncompressed loop sends the pieces of the data. -/
theorem Emitted.writeLoop {options : WriterOptions} {before : List Packet} {fuel : Nat}
    {writer : Writer σ} {contents : List Bytes} (h : Emitted options before writer contents)
    (hboundaries : options.preserveUtf8Boundaries = false) (data : Bytes)
    (hfuel : data.length ≤ fuel) :
    ∃ writer', writer.writeLoop fuel data = (true, writer') ∧
      Emitted options before writer' (contents ++ piecesLoop options.chunkSize fuel data) ∧
      writer'.bytesSent = writer.bytesSent + UInt64.ofNat data.length ∧
      writer'.closed = writer.closed ∧ writer'.deflater = writer.deflater := by
  induction fuel generalizing writer contents data with
  | zero =>
    rw [List.length_eq_zero_iff.mp (Nat.le_zero.mp hfuel)]
    refine ⟨writer, rfl, ?_, ?_, rfl, rfl⟩
    · rw [piecesLoop, List.append_nil]
      exact h
    · exact (UInt64.add_zero _).symm
  | succ fuel ih =>
    rw [Writer.writeLoop, piecesLoop]
    split
    · rename_i hnil
      rw [hnil, List.append_nil]
      exact ⟨writer, rfl, h, (UInt64.add_zero _).symm, rfl, rfl⟩
    rename_i hne
    have hpos := options.chunkSize_pos
    have hlength := List.length_pos_iff.mpr hne
    have hcount : Writer.chunkCount writer.options data = min options.chunkSize data.length := by
      rw [Writer.chunkCount, h.same, if_neg (by simp [hboundaries])]
    rw [hcount, if_neg (by omega), ← List.take_eq_take_min, ← List.drop_eq_drop_min]
    have hframe := StreamWriter.sendChunk_frame writer (data.take options.chunkSize)
    obtain ⟨hresult, hemitted⟩ := h.sendChunk (data.take options.chunkSize)
    rcases hsend : writer.sendChunk (data.take options.chunkSize) with ⟨result, after⟩
    rw [hsend] at hframe hresult hemitted
    subst hresult
    obtain ⟨writer', hloop, hrest, hbytes, hclosed, hdeflater⟩ :=
      @ih { after with
            bytesSent := after.bytesSent + UInt64.ofNat (min options.chunkSize data.length) }
        (contents ++ [data.take options.chunkSize]) (hemitted.congr rfl rfl rfl)
        (data.drop options.chunkSize) (by rw [List.length_drop]; omega)
    refine ⟨writer', hloop, ?_, ?_, hclosed.trans hframe.closed, hdeflater.trans hframe.deflater⟩
    · rw [List.append_assoc] at hrest
      exact hrest
    · have hsplit : min options.chunkSize data.length + (data.length - options.chunkSize) =
          data.length := by omega
      rw [hbytes, hframe.bytesSent, List.length_drop, UInt64.add_assoc, ← UInt64.ofNat_add, hsplit]

/-! ## 3. The plain writer -/

section Plain

variable {options : WriterOptions} {before : List Packet}

/-- A writer that is open and has sent what it was given. -/
structure Plain (options : WriterOptions) (before : List Packet) (writer : Writer σ)
    (given : Bytes) : Prop where
  open_ : writer.closed = false
  deflater : writer.deflater = none
  bytesSent : writer.bytesSent = UInt64.ofNat given.length
  emitted : ∃ contents, Emitted options before writer contents ∧ Cut options.chunkSize given contents

theorem Plain.write {zlib : Zlib σ} (hboundaries : options.preserveUtf8Boundaries = false)
    {writer : Writer σ} {given : Bytes} (h : Plain options before writer given) (data : Bytes) :
    (writer.writeBytes zlib data).1 = true ∧
      Plain options before (writer.writeBytes zlib data).2 (given ++ data) := by
  obtain ⟨contents, hemitted, hcut⟩ := h.emitted
  obtain ⟨writer', hloop, hsent, hbytes, hclosed, hdeflater⟩ :=
    hemitted.writeLoop hboundaries data (Nat.le_refl _)
  rw [Writer.writeBytes, h.open_, if_neg Bool.false_ne_true, h.deflater]
  dsimp only
  rw [hloop]
  refine ⟨rfl, ?_, ?_, ?_, _, hsent.report, hcut.append (cut_pieces options.chunkSize_pos data)⟩
  · rw [StreamWriter.report_closed, hclosed, h.open_]
  · rw [StreamWriter.report_deflater, hdeflater, h.deflater]
  · rw [StreamWriter.report_bytesSent, hbytes, h.bytesSent, List.length_append, UInt64.ofNat_add]

/-- Whatever is written is accepted. -/
theorem Plain.writes {zlib : Zlib σ} (hboundaries : options.preserveUtf8Boundaries = false)
    {writer : Writer σ} {given : Bytes} (h : Plain options before writer given)
    (datas : List Bytes) :
    (calls zlib writer (datas.map .write)).1 = List.replicate datas.length true ∧
      Plain options before (calls zlib writer (datas.map .write)).2 (given ++ datas.flatten) := by
  induction datas generalizing writer given with
  | nil =>
    rw [List.flatten_nil, List.append_nil]
    exact ⟨rfl, h⟩
  | cons data rest ih =>
    obtain ⟨hresult, hplain⟩ := @Plain.write σ _ _ zlib hboundaries _ _ h data
    obtain ⟨hresults, hafter⟩ := ih hplain
    rw [List.append_assoc] at hafter
    refine ⟨?_, hafter⟩
    rw [List.length_cons, List.replicate_succ, ← hresults, ← hresult]
    rfl

end Plain

/-- All of the contents, and the trailer of `Close`. -/
structure Closed (options : WriterOptions) (before : List Packet) (sent : List Packet)
    (data : Bytes) (complete : Bool) : Prop where
  sent : ∃ contents, Cut options.chunkSize data contents ∧
    sent = before ++ (StreamWriter.chunkPackets options contents ++
      [options.trailerPacket (if complete then "" else "incomplete stream")])

section Close

variable {options : WriterOptions} {before : List Packet}

/-- The trailer goes out after the contents. -/
theorem Emitted.closingTrailer {writer : Writer σ} {contents : List Bytes}
    (h : Emitted options before writer contents) (complete : Bool) :
    (writer.sendClosingTrailer complete).1 = complete ∧
      (writer.sendClosingTrailer complete).2.engine.sent =
        before ++ (StreamWriter.chunkPackets options contents ++
          [options.trailerPacket (if complete then "" else "incomplete stream")]) := by
  rw [Writer.sendClosingTrailer, Writer.sendStreamTrailer, Writer.send, if_pos h.present]
  have hresult : ∀ packet, (writer.engine.sendDataPacket packet).1 = true := fun _ => h.results _
  rw [hresult]
  refine ⟨rfl, ?_⟩
  cases complete <;>
    simp [Engine.sendDataPacket, StreamWriter.report_engine, h.sent, h.same]

/-- `Close` of an open writer whose deflate stream, if it has one, comes to its end. -/
theorem Emitted.close {zlib : Zlib σ} {writer writer' : Writer σ} (hopen : writer.closed = false)
    (hfinish : { writer with closed := true }.finishDeflate zlib = (true, writer'))
    {contents : List Bytes} (h : Emitted options before writer' contents) {data : Bytes}
    (hcut : Cut options.chunkSize data contents) :
    (writer.closeInternal zlib).1 = writer.complete ∧
      Closed options before (writer.closeInternal zlib).2.engine.sent data writer.complete := by
  obtain ⟨hresult, hsent⟩ := h.closingTrailer writer.complete
  rw [Writer.closeInternal, hopen, if_neg Bool.false_ne_true, hfinish]
  exact ⟨hresult, contents, hcut, hsent⟩

theorem Plain.close {zlib : Zlib σ} {writer : Writer σ} {given : Bytes}
    (h : Plain options before writer given) :
    (writer.closeInternal zlib).1 = writer.complete ∧
      Closed options before (writer.closeInternal zlib).2.engine.sent given writer.complete := by
  obtain ⟨contents, hemitted, hcut⟩ := h.emitted
  have hfinish : { writer with closed := true }.finishDeflate zlib =
      (true, { writer with closed := true }) := by
    simp only [Writer.finishDeflate, h.deflater]
  exact Emitted.close h.open_ hfinish (hemitted.congr rfl rfl rfl) hcut

end Close

/-! ## 4. The compressing writer -/

section Compressing

variable {options : WriterOptions} {before : List Packet}

/-- A writer that is open and has sent what the deflater made of what it was given. -/
structure Compressing (zlib : Zlib σ) (options : WriterOptions) (before : List Packet)
    (writer : Writer σ) (stream : σ) (given out : Bytes) (flushed : Bool) : Prop where
  open_ : writer.closed = false
  deflater : writer.deflater = some ⟨some stream, false⟩
  session : Deflating zlib stream given out flushed
  bytesSent : writer.bytesSent = UInt64.ofNat given.length
  emitted : ∃ contents, Emitted options before writer contents ∧ Cut options.chunkSize out contents

theorem limit_not_reached {given data : Bytes}
    (htotal : (given ++ data).length ≤ kMaximumCompressedDataStreamSize) {bytesSent : UInt64}
    (hsent : bytesSent = UInt64.ofNat given.length) :
    ¬ (kMaximumCompressedDataStreamSize < bytesSent.toNat ∨
      kMaximumCompressedDataStreamSize - bytesSent.toNat < data.length) := by
  have hlimit : kMaximumCompressedDataStreamSize < 2 ^ 64 := by decide
  rw [List.length_append] at htotal
  rw [hsent, UInt64.toNat_ofNat', Nat.mod_eq_of_lt (by omega)]
  omega

/-- A write that the deflater takes. -/
theorem Compressing.write {zlib : Zlib σ} (hzlib : zlib.RoundTrip) (hserves : zlib.Serves)
    {writer : Writer σ} {stream : σ} {given out : Bytes} {flushed : Bool}
    (h : Compressing zlib options before writer stream given out flushed) {data : Bytes}
    (hdata : data ≠ [] ∨ flushed = false)
    (htotal : (given ++ data).length ≤ kMaximumCompressedDataStreamSize) :
    ∃ output stream', DeflateRawStream.write zlib ⟨some stream, false⟩ data =
        (true, output, ⟨some stream', false⟩) ∧
      (writer.writeBytes zlib data).1 = true ∧
      Compressing zlib options before (writer.writeBytes zlib data).2 stream' (given ++ data)
        (out ++ output) true := by
  have huInt : data.length ≤ uIntMax := by
    rw [List.length_append] at htotal
    have : kMaximumCompressedDataStreamSize ≤ uIntMax := by decide
    omega
  obtain ⟨output, after, hwrite⟩ := DeflateRawStream.write_succeeds hserves h.session hdata huInt
  obtain ⟨stream', rfl, hsession⟩ := DeflateRawStream.write_session hzlib h.session hwrite
  obtain ⟨contents, hemitted, hcut⟩ := h.emitted
  have hdeflated : Emitted options before
      { writer with deflater := some ⟨some stream', false⟩ } contents :=
    hemitted.congr rfl rfl rfl
  obtain ⟨writer', hsend, hsent, hframe⟩ := hdeflated.sendBytes output
  refine ⟨output, stream', hwrite, ?_⟩
  rw [Writer.writeBytes, h.open_, if_neg Bool.false_ne_true, h.deflater]
  dsimp only
  rw [Writer.writeDeflated, if_neg (limit_not_reached htotal h.bytesSent),
    if_neg (by simp [DeflateRawStream.isValid]), hwrite]
  dsimp only
  rw [hsend]
  have hcounted : Emitted options before
      { writer' with bytesSent := writer'.bytesSent + UInt64.ofNat data.length }
      (contents ++ pieces options.chunkSize output) :=
    hsent.congr rfl rfl rfl
  refine ⟨rfl, ?_, ?_, hsession, ?_, _, hcounted.report,
    hcut.append (cut_pieces options.chunkSize_pos output)⟩
  · rw [StreamWriter.report_closed]
    exact hframe.closed.trans h.open_
  · rw [StreamWriter.report_deflater]
    exact hframe.deflater
  · rw [StreamWriter.report_bytesSent, List.length_append, UInt64.ofNat_add, ← h.bytesSent]
    exact congrArg (· + UInt64.ofNat data.length) hframe.bytesSent

/-- A write of nothing, with nothing new to flush, closes the writer. -/
theorem Compressing.write_nil {zlib : Zlib σ} (hserves : zlib.Serves) {writer : Writer σ}
    {stream : σ} {given out : Bytes}
    (h : Compressing zlib options before writer stream given out true)
    (htotal : given.length ≤ kMaximumCompressedDataStreamSize) :
    (writer.writeBytes zlib []).1 = false := by
  have hrefused := DeflateRawStream.write_nil_refused hserves h.session
  rw [Writer.writeBytes, h.open_, if_neg Bool.false_ne_true, h.deflater]
  dsimp only
  rw [Writer.writeDeflated,
    if_neg (limit_not_reached (by rw [List.append_nil]; exact htotal) h.bytesSent),
    if_neg (by simp [DeflateRawStream.isValid])]
  rcases hwrite : DeflateRawStream.write zlib ⟨some stream, false⟩ [] with ⟨result, output, after⟩
  rw [hwrite] at hrefused
  cases hrefused
  rfl

/-- Writes that each have something new are all accepted. -/
theorem Compressing.writes {zlib : Zlib σ} (hzlib : zlib.RoundTrip) (hserves : zlib.Serves)
    {writer : Writer σ} {stream : σ} {given out : Bytes} {flushed : Bool}
    (h : Compressing zlib options before writer stream given out flushed) {datas : List Bytes}
    (hdatas : ∀ data ∈ datas, data ≠ [])
    (htotal : (given ++ datas.flatten).length ≤ kMaximumCompressedDataStreamSize) :
    ∃ output stream' flushed', deflateAll zlib ⟨some stream, false⟩ datas =
        some (output, ⟨some stream', false⟩) ∧
      (calls zlib writer (datas.map .write)).1 = List.replicate datas.length true ∧
      Compressing zlib options before (calls zlib writer (datas.map .write)).2 stream'
        (given ++ datas.flatten) (out ++ output) flushed' := by
  induction datas generalizing writer stream given out flushed with
  | nil =>
    refine ⟨[], stream, flushed, rfl, rfl, ?_⟩
    rw [List.flatten_nil, List.append_nil, List.append_nil]
    exact h
  | cons data rest ih =>
    rw [List.flatten_cons, ← List.append_assoc] at htotal
    have hfirst : (given ++ data).length ≤ kMaximumCompressedDataStreamSize := by
      rw [List.length_append] at htotal
      omega
    obtain ⟨output, stream', hwrite, hresult, hafter⟩ :=
      h.write hzlib hserves (.inl (hdatas data List.mem_cons_self)) hfirst
    obtain ⟨more, stream'', flushed', hall, hresults, hlast⟩ :=
      ih hafter (fun other hmem => hdatas other (List.mem_cons_of_mem _ hmem)) htotal
    refine ⟨output ++ more, stream'', flushed', ?_, ?_, ?_⟩
    · rw [deflateAll, hwrite]
      dsimp only
      rw [hall]
    · rw [List.length_cons, List.replicate_succ, ← hresults, ← hresult]
      rfl
    · rw [List.append_assoc, List.append_assoc] at hlast
      exact hlast

/-- One that has nothing new is refused. -/
theorem Compressing.writes_refused {zlib : Zlib σ} (hzlib : zlib.RoundTrip) (hserves : zlib.Serves)
    {writer : Writer σ} {stream : σ} {given out : Bytes}
    (h : Compressing zlib options before writer stream given out true) {datas : List Bytes}
    (hdatas : [] ∈ datas)
    (htotal : (given ++ datas.flatten).length ≤ kMaximumCompressedDataStreamSize) :
    false ∈ (calls zlib writer (datas.map .write)).1 := by
  induction datas generalizing writer stream given out with
  | nil => cases hdatas
  | cons data rest ih =>
    rw [List.flatten_cons, ← List.append_assoc] at htotal
    have hfirst : (given ++ data).length ≤ kMaximumCompressedDataStreamSize := by
      rw [List.length_append] at htotal
      omega
    by_cases hnil : data = []
    · subst hnil
      rw [List.append_nil] at hfirst
      have hrefused := h.write_nil hserves hfirst
      exact List.mem_cons.mpr (.inl hrefused.symm)
    · obtain ⟨output, stream', -, -, hafter⟩ := h.write hzlib hserves (.inl hnil) hfirst
      have hrest : [] ∈ rest := (List.mem_cons.mp hdatas).resolve_left fun heq => hnil heq.symm
      exact List.mem_cons_of_mem _ (ih hafter hrest htotal)

/-- From a fresh deflater the first write may be of nothing. -/
theorem Compressing.first_writes {zlib : Zlib σ} (hzlib : zlib.RoundTrip) (hserves : zlib.Serves)
    {writer : Writer σ} {stream : σ}
    (h : Compressing zlib options before writer stream [] [] false) {datas : List Bytes}
    (hdatas : ∀ data ∈ datas.tail, data ≠ [])
    (htotal : datas.flatten.length ≤ kMaximumCompressedDataStreamSize) :
    ∃ output stream' flushed', deflateAll zlib ⟨some stream, false⟩ datas =
        some (output, ⟨some stream', false⟩) ∧
      (calls zlib writer (datas.map .write)).1 = List.replicate datas.length true ∧
      Compressing zlib options before (calls zlib writer (datas.map .write)).2 stream'
        datas.flatten output flushed' := by
  cases datas with
  | nil => exact ⟨[], stream, false, rfl, rfl, h⟩
  | cons data rest =>
    rw [List.tail_cons] at hdatas
    rw [List.flatten_cons] at htotal
    have hfirst : ([] ++ data).length ≤ kMaximumCompressedDataStreamSize := by
      rw [List.length_append] at htotal
      rw [List.nil_append]
      omega
    obtain ⟨output, stream', hwrite, hresult, hafter⟩ := h.write hzlib hserves (.inr rfl) hfirst
    obtain ⟨more, stream'', flushed', hall, hresults, hlast⟩ :=
      hafter.writes hzlib hserves hdatas htotal
    refine ⟨output ++ more, stream'', flushed', ?_, ?_, hlast⟩
    · rw [deflateAll, hwrite]
      dsimp only
      rw [hall]
    · rw [List.length_cons, List.replicate_succ, ← hresults, ← hresult]
      rfl

theorem Compressing.first_writes_refused {zlib : Zlib σ} (hzlib : zlib.RoundTrip)
    (hserves : zlib.Serves) {writer : Writer σ} {stream : σ}
    (h : Compressing zlib options before writer stream [] [] false) {datas : List Bytes}
    (hdatas : [] ∈ datas.tail)
    (htotal : datas.flatten.length ≤ kMaximumCompressedDataStreamSize) :
    false ∈ (calls zlib writer (datas.map .write)).1 := by
  cases datas with
  | nil => cases hdatas
  | cons data rest =>
    rw [List.tail_cons] at hdatas
    rw [List.flatten_cons] at htotal
    have hfirst : ([] ++ data).length ≤ kMaximumCompressedDataStreamSize := by
      rw [List.length_append] at htotal
      rw [List.nil_append]
      omega
    obtain ⟨output, stream', -, -, hafter⟩ := h.write hzlib hserves (.inr rfl) hfirst
    exact List.mem_cons_of_mem _ (hafter.writes_refused hzlib hserves hdatas htotal)

theorem Compressing.close {zlib : Zlib σ} (hzlib : zlib.RoundTrip) (hserves : zlib.Serves)
    {writer : Writer σ} {stream : σ} {given out : Bytes} {flushed : Bool}
    (h : Compressing zlib options before writer stream given out flushed) :
    ∃ output ended, (DeflateRawStream.finish zlib ⟨some stream, false⟩).2.1 = output ∧
      Ended zlib ended given (out ++ output) ∧
      (writer.closeInternal zlib).1 = writer.complete ∧
      Closed options before (writer.closeInternal zlib).2.engine.sent (out ++ output)
        writer.complete := by
  obtain ⟨output, after, hfinish⟩ := DeflateRawStream.finish_succeeds hzlib hserves h.session
  obtain ⟨ended, hended⟩ := DeflateRawStream.finish_session hzlib h.session hfinish
  obtain ⟨contents, hemitted, hcut⟩ := h.emitted
  have hdeflated : Emitted options before
      { writer with closed := true, deflater := some after } contents :=
    hemitted.congr rfl rfl rfl
  obtain ⟨writer', hsend, hsent, -⟩ := hdeflated.sendBytes output
  have hfinished : { writer with closed := true }.finishDeflate zlib = (true, writer') := by
    simp only [Writer.finishDeflate, h.deflater, hfinish]
    exact hsend
  refine ⟨output, ended, by rw [hfinish], hended, ?_⟩
  exact Emitted.close h.open_ hfinished hsent
    (hcut.append (cut_pieces options.chunkSize_pos output))

end Compressing

/-! ## 5. What the receiver gets -/

theorem chunkPackets_from (options : StreamBytesOptions) (streamId : String)
    (hpos : 0 < options.chunkSize) (contents : List Bytes) (start : Nat) :
    (contents.zipIdx start).map (fun (content, i) =>
        (options.writerOptions streamId hpos).chunkPacket (UInt64.ofNat i) content) =
      chunkPackets options.toStreamOptions streamId start contents := by
  induction contents generalizing start with
  | nil => rfl
  | cons content rest ih =>
    rw [List.zipIdx_cons, List.map_cons, ih, chunkPackets]
    rfl

theorem chunkPackets_eq (options : StreamBytesOptions) (streamId : String)
    (hpos : 0 < options.chunkSize) (contents : List Bytes) :
    StreamWriter.chunkPackets (options.writerOptions streamId hpos) contents =
      chunkPackets options.toStreamOptions streamId 0 contents :=
  chunkPackets_from options streamId hpos contents 0

/-- The header of the stream. -/
def headerPacket (options : StreamBytesOptions) (streamId : String) (timestamp : Int) : Packet :=
  populateStreamPacket options.toStreamOptions (.streamHeader (options.header streamId timestamp))

theorem Closed.framed {options : StreamBytesOptions} {streamId : String}
    {hpos : 0 < options.chunkSize} {timestamp : Int} {earlier sent : List Packet} {data : Bytes}
    {complete : Bool}
    (h : Closed (options.writerOptions streamId hpos)
      (earlier ++ [headerPacket options streamId timestamp]) sent data complete) :
    ∃ contents, Cut options.chunkSize data contents ∧
      sent.drop earlier.length =
        framed options.toStreamOptions (options.header streamId timestamp) contents
          (if complete then "" else "incomplete stream") := by
  obtain ⟨contents, hcut, rfl⟩ := h.sent
  refine ⟨contents, hcut, ?_⟩
  rw [List.append_assoc, List.drop_left, chunkPackets_eq]
  rfl

/-- A declared length that is within the limit. -/
def Declares (options : StreamBytesOptions) : Prop :=
  ∀ size ∈ options.totalSize, size.toNat ≤ kMaximumBufferedDataStreamSize

theorem headerOutcome_header {zlib : Zlib σ} (hzlib : zlib.RoundTrip) {options : StreamBytesOptions}
    (hdeclares : Declares options) {streamId : String} (hid : streamId ≠ "") (timestamp : Int) :
    headerOutcome zlib (options.header streamId timestamp) false =
      .opened (if options.compress then some (newInflater zlib) else none) := by
  have hrefuses : refusesLength (options.header streamId timestamp) false = false := by
    rw [refusesLength, StreamBytesOptions.header]
    cases htotal : options.totalSize with
    | none => rfl
    | some size =>
      have hsize : ¬ kMaximumBufferedDataStreamSize < size.toNat :=
        Nat.not_lt.mpr (hdeclares size htotal)
      simp [hsize]
  have hvalid : (newInflater zlib).isValid = true :=
    Option.isSome_iff_ne_none.mpr hzlib.inflateInit
  rw [headerOutcome, hrefuses]
  cases hcompress : options.compress <;>
    simp [StreamBytesOptions.header, hid, hcompress, isSupportedCompression, hvalid]

/-- The contents of a plain stream make up the payload. -/
theorem reassemble_plain (zlib : Zlib σ) {payload : Bytes}
    (hpayload : payload.length ≤ kMaximumBufferedDataStreamSize) {size : Nat}
    {contents : List Bytes} (hcut : Cut size payload contents) {header : StreamHeader}
    (hcompression : header.compression = .none) (streamId : String) :
    reassemble zlib header (streamChunks streamId 0 contents) =
      if header.totalLength.all (fun length => decide (payload.length = length.toNat)) = true then
        some payload
      else none := by
  have hstart : startInflater zlib header = none := by
    simp [startInflater, hcompression]
  rw [reassemble, hstart, map_content_streamChunks, decodeAll_none, hcut.flatten]
  dsimp only
  simp only [map_chunkIndex_streamChunks, hpayload, hcompression, finished, true_and,
    reduceCtorEq, false_implies]

/-! ## 6. Both together -/

/-- A writer as `StreamBytes` hands it out. -/
structure Opened (zlib : Zlib σ) (options : StreamBytesOptions) (before : List Packet)
    (writer : Writer σ) (streamId : String) : Prop where
  chunkSize_pos : 0 < options.chunkSize
  chunkSize_le : options.chunkSize ≤ kMaximumDataStreamChunkSize
  declares : options.compress = true → Declares options
  open_ : writer.closed = false
  bytesSent : writer.bytesSent = 0
  deflater : writer.deflater = if options.compress then some (.new zlib) else none
  emitted : Emitted (options.writerOptions streamId chunkSize_pos) before writer []

theorem streamBytes_opened {zlib : Zlib σ} {engine : Engine}
    (hresults : ∀ n, engine.results n = true) {uuid : String} {timestamp : Int}
    {options : StreamBytesOptions} {writer : Writer σ}
    (hopen : streamBytes zlib engine uuid timestamp options = some writer) :
    Opened zlib options
      (engine.sent ++ [headerPacket options (options.infoStreamId uuid) timestamp]) writer
      (options.infoStreamId uuid) := by
  rw [streamBytes] at hopen
  split at hopen
  · rename_i hpos
    split at hopen
    · cases hopen
    rename_i haccepted
    split at hopen
    · cases hopen
    rw [sendDataPacket_reliable hresults] at hopen
    cases hopen
    simp only [StreamBytesOptions.refused, Bool.or_eq_true, not_or, Bool.not_eq_true',
      Bool.not_eq_false, decide_eq_true_eq, Bool.and_eq_true, not_and] at haccepted
    obtain ⟨⟨hpresent, hle⟩, hdeclares⟩ := haccepted
    refine ⟨hpos, Nat.not_lt.mp hle, ?_, rfl, rfl, rfl, rfl, hpresent, hresults, ?_, rfl⟩
    · intro hcompress size hmem
      have hany := hdeclares hcompress
      rw [hmem] at hany
      have hwithin : size.toNat ≤ kMaximumCompressedDataStreamSize := by simpa using hany
      exact hwithin
    · exact (List.append_nil _).symm
  · cases hopen

/-- Close says that all was sent if the declared size was. -/
def completes (options : StreamBytesOptions) (size : Nat) : Bool :=
  options.totalSize.all (UInt64.ofNat size == ·)

theorem Opened.plain {zlib : Zlib σ} {options : StreamBytesOptions} {before : List Packet}
    {writer : Writer σ} {streamId : String} (h : Opened zlib options before writer streamId)
    (hcompress : options.compress = false) :
    Plain (options.writerOptions streamId h.chunkSize_pos) before writer [] := by
  refine ⟨h.open_, ?_, h.bytesSent, [], h.emitted, rfl, by simp⟩
  rw [h.deflater, hcompress, if_neg Bool.false_ne_true]

theorem Opened.compressing {zlib : Zlib σ} {options : StreamBytesOptions} {before : List Packet}
    {writer : Writer σ} {streamId : String} (h : Opened zlib options before writer streamId)
    (hcompress : options.compress = true) {stream : σ} (hinit : zlib.deflateInit = some stream) :
    Compressing zlib (options.writerOptions streamId h.chunkSize_pos) before writer stream [] []
      false := by
  refine ⟨h.open_, ?_, .init hinit, h.bytesSent, [], h.emitted, rfl, by simp⟩
  rw [h.deflater, hcompress, if_pos rfl, DeflateRawStream.new, hinit]

/-- The results of the plain writer, and what it sends. -/
theorem Opened.plain_session {zlib : Zlib σ} {options : StreamBytesOptions} {earlier : List Packet}
    {writer : Writer σ} {streamId : String} {timestamp : Int}
    (h : Opened zlib options (earlier ++ [headerPacket options streamId timestamp]) writer streamId)
    (hcompress : options.compress = false) (datas : List Bytes) :
    (calls zlib writer (writesAndClose datas)).1 =
        List.replicate datas.length true ++ [completes options datas.flatten.length] ∧
      ∃ contents, Cut options.chunkSize datas.flatten contents ∧
        (calls zlib writer (writesAndClose datas)).2.engine.sent.drop earlier.length =
          framed options.toStreamOptions (options.header streamId timestamp) contents
            (if completes options datas.flatten.length then "" else "incomplete stream") := by
  obtain ⟨hresults, hplain⟩ := @Plain.writes σ _ _ zlib rfl _ _ (h.plain hcompress) datas
  rw [List.nil_append] at hplain
  obtain ⟨contents, hemitted, -⟩ := hplain.emitted
  have hcomplete : (calls zlib writer (datas.map .write)).2.complete =
      completes options datas.flatten.length := by
    rw [Writer.complete, hemitted.same, hplain.bytesSent]
    rfl
  obtain ⟨hresult, hclosed⟩ := @Plain.close σ _ _ zlib _ _ hplain
  rw [hcomplete] at hresult hclosed
  rw [writesAndClose, calls_append, hresults]
  exact ⟨congrArg (List.replicate datas.length true ++ [·]) hresult, hclosed.framed⟩

/-- What zlib makes of the writes, a flush after each. -/
def deflated (zlib : Zlib σ) (datas : List Bytes) : Bytes :=
  match deflateAll zlib (.new zlib) datas with
  | none => []
  | some (output, deflater) => output ++ (deflater.finish zlib).2.1

/-- The results of the compressing writer if no write but the first is of nothing, and
    what it sends. -/
theorem Opened.compressing_session {zlib : Zlib σ} (hzlib : zlib.RoundTrip)
    (hserves : zlib.Serves) {options : StreamBytesOptions} {earlier : List Packet}
    {writer : Writer σ} {streamId : String} {timestamp : Int}
    (h : Opened zlib options (earlier ++ [headerPacket options streamId timestamp]) writer streamId)
    (hcompress : options.compress = true) {datas : List Bytes}
    (hdatas : ∀ data ∈ datas.tail, data ≠ [])
    (htotal : datas.flatten.length ≤ kMaximumCompressedDataStreamSize) :
    (calls zlib writer (writesAndClose datas)).1 =
        List.replicate datas.length true ++ [completes options datas.flatten.length] ∧
      ∃ contents ended, Ended zlib ended datas.flatten (deflated zlib datas) ∧
        Cut options.chunkSize (deflated zlib datas) contents ∧
        (calls zlib writer (writesAndClose datas)).2.engine.sent.drop earlier.length =
          framed options.toStreamOptions (options.header streamId timestamp) contents
            (if completes options datas.flatten.length then "" else "incomplete stream") := by
  obtain ⟨stream, hinit⟩ := Option.ne_none_iff_exists'.mp hserves.deflateInit
  obtain ⟨output, stream', flushed, hall, hresults, hcompressing⟩ :=
    (h.compressing hcompress hinit).first_writes hzlib hserves hdatas htotal
  obtain ⟨contents, hemitted, -⟩ := hcompressing.emitted
  have hcomplete : (calls zlib writer (datas.map .write)).2.complete =
      completes options datas.flatten.length := by
    rw [Writer.complete, hemitted.same, hcompressing.bytesSent]
    rfl
  obtain ⟨rest, ended, hrest, hended, hresult, hclosed⟩ := hcompressing.close hzlib hserves
  have hdeflated : deflated zlib datas = output ++ rest := by
    rw [deflated, DeflateRawStream.new, hinit, hall]
    dsimp only
    rw [hrest]
  rw [hcomplete] at hresult hclosed
  obtain ⟨contents, hcut, hsent⟩ := hclosed.framed
  rw [writesAndClose, calls_append, hresults, hdeflated]
  exact ⟨congrArg (List.replicate datas.length true ++ [·]) hresult, contents, ended, hended, hcut,
    hsent⟩

/-- What the receiver is to get from a complete stream. -/
def received (options : StreamBytesOptions) (streamId : String) (timestamp : Int)
    (identity : String) (payload : Bytes) : List Delivery :=
  byteDeliveries
    { streamId := streamId, topic := options.topic, participantIdentity := identity,
      attributes := options.attributes, timestamp := timestamp, content := payload,
      fields := ⟨options.name, options.mimeType⟩ }

theorem framedDelivery_header (zlib : Zlib σ) (options : StreamBytesOptions) (streamId : String)
    (timestamp : Int) (identity : String) (contents : List Bytes) (complete : Bool) :
    framedDelivery options.toStreamOptions (options.header streamId timestamp) contents
        (if complete then "" else "incomplete stream") identity zlib =
      if complete then
        (reassemble zlib (options.header streamId timestamp)
          (streamChunks streamId 0 contents)).elim [] (received options streamId timestamp identity)
      else [] := by
  cases complete with
  | false => rfl
  | true =>
    rw [framedDelivery, if_pos rfl, if_neg (not_not.mpr rfl), if_pos rfl]
    have hid : (options.header streamId timestamp).streamId = streamId := rfl
    rw [hid]
    cases reassemble zlib (options.header streamId timestamp) (streamChunks streamId 0 contents) with
    | none => rfl
    | some payload =>
      simp [completed, StreamBytesOptions.header, received, setAttributes_empty, relay,
        populateStreamPacket]

/-- All was sent exactly if the declared size, if there is one, is the size. -/
theorem completes_iff {options : StreamBytesOptions} {payload : Bytes}
    (hpayload : payload.length ≤ kMaximumBufferedDataStreamSize) (streamId : String)
    (timestamp : Int) :
    completes options payload.length = true ↔
      (options.header streamId timestamp).totalLength.all
        (fun length => decide (payload.length = length.toNat)) = true := by
  have hlimit : kMaximumBufferedDataStreamSize < 2 ^ 64 := by decide
  have htotal : (options.header streamId timestamp).totalLength = options.totalSize := rfl
  rw [completes, htotal]
  cases options.totalSize with
  | none => exact Iff.rfl
  | some size =>
    have hsize := UInt64.toNat_lt size
    simp only [Option.all_some, beq_iff_eq, decide_eq_true_eq]
    rw [← UInt64.toNat_inj, UInt64.toNat_ofNat', Nat.mod_eq_of_lt (by omega)]

/-- What the receiver of a plain stream gets. -/
theorem plain_delivery (zlib : Zlib σ) {options : StreamBytesOptions}
    (hcompress : options.compress = false) {payload : Bytes}
    (hpayload : payload.length ≤ kMaximumBufferedDataStreamSize) {contents : List Bytes}
    (hcut : Cut options.chunkSize payload contents) (streamId : String) (timestamp : Int)
    (identity : String) :
    framedDelivery options.toStreamOptions (options.header streamId timestamp) contents
        (if completes options payload.length then "" else "incomplete stream") identity zlib =
      if completes options payload.length then received options streamId timestamp identity payload
      else [] := by
  have hcompression : (options.header streamId timestamp).compression = .none := by
    simp [StreamBytesOptions.header, hcompress]
  rw [framedDelivery_header, reassemble_plain zlib hpayload hcut hcompression]
  split
  · rename_i hcomplete
    rw [if_pos ((completes_iff hpayload streamId timestamp).mp hcomplete)]
    rfl
  · rfl

/-- What the receiver of a deflated stream gets. -/
theorem deflated_delivery {zlib : Zlib σ} (hzlib : zlib.RoundTrip) {options : StreamBytesOptions}
    (hcompress : options.compress = true)
    (hle : options.chunkSize ≤ kMaximumDataStreamChunkSize) {payload compressed : Bytes}
    (hpayload : payload.length ≤ kMaximumBufferedDataStreamSize) {ended : σ}
    (hended : Ended zlib ended payload compressed) {contents : List Bytes}
    (hcut : Cut options.chunkSize compressed contents) (streamId : String) (timestamp : Int)
    (identity : String) :
    framedDelivery options.toStreamOptions (options.header streamId timestamp) contents
        (if completes options payload.length then "" else "incomplete stream") identity zlib =
      if completes options payload.length ∧ compressed.length ≤ kMaximumBufferedDataStreamSize then
        received options streamId timestamp identity payload
      else [] := by
  have hcompression : (options.header streamId timestamp).compression = .deflateRaw := by
    simp [StreamBytesOptions.header, hcompress]
  rw [framedDelivery_header, reassemble_deflated hzlib hended hpayload hcut hle hcompression]
  by_cases hcomplete : completes options payload.length = true
  · have htotal := (completes_iff hpayload streamId timestamp).mp hcomplete
    rw [if_pos hcomplete]
    by_cases hfits : compressed.length ≤ kMaximumBufferedDataStreamSize
    · rw [if_pos ⟨hfits, htotal⟩, if_pos ⟨hcomplete, hfits⟩]
      rfl
    · rw [if_neg fun h => hfits h.1, if_neg fun h => hfits h.2]
      rfl
  · rw [if_neg hcomplete, if_neg fun h => hcomplete h.1]

/-- Something is delivered for a complete stream, and for no other stream. -/
theorem forStream_received (options : StreamBytesOptions) (streamId : String) (timestamp : Int)
    (identity : String) (payload : Bytes) :
    forStream streamId (received options streamId timestamp identity payload) =
        received options streamId timestamp identity payload ∧
      received options streamId timestamp identity payload ≠ [] := by
  refine ⟨List.filter_eq_self.mpr fun delivery hmem => ?_, nofun⟩
  exact decide_eq_true (streamId_byteDeliveries hmem)

section Receiver

variable {zlib : Zlib σ} (hzlib : zlib.RoundTrip) {options : StreamBytesOptions} {streamId : String}
  (hid : streamId ≠ "") (hdeclares : Declares options) {room : Room σ}
  (hroom : Reachable zlib room) (hlistener : room.hasListener = true)
  (hhandler : room.byteStreamHandlers[options.topic]? = none)
  (htexts : room.incomingTexts[streamId]? = none)
  (hfiles : room.incomingFiles[streamId]? = none)

include hzlib hid hdeclares hroom hlistener hhandler htexts hfiles

/-- A receiver of the plain writer's packets. -/
theorem Opened.plain_delivered {earlier : List Packet} {writer : Writer σ} {timestamp : Int}
    (h : Opened zlib options (earlier ++ [headerPacket options streamId timestamp]) writer streamId)
    (hcompress : options.compress = false) {datas : List Bytes}
    (htotal : datas.flatten.length ≤ kMaximumBufferedDataStreamSize) {identity : String}
    {arrivals : List Arrival}
    (harrivals : ofStream streamId arrivals =
      ((calls zlib writer (writesAndClose datas)).2.engine.sent.drop earlier.length).map
        (relay identity)) :
    forStream streamId (room.deliveries zlib arrivals) =
      if completes options datas.flatten.length then
        received options streamId timestamp identity datas.flatten
      else [] := by
  obtain ⟨-, contents, hcut, hsent⟩ := h.plain_session hcompress datas
  rw [hsent] at harrivals
  have houtcome := headerOutcome_header hzlib hdeclares hid timestamp
  have hdelivered := (@deliveries_framed σ zlib room hroom hlistener options.toStreamOptions
    (options.header streamId timestamp) contents _ identity hhandler htexts hfiles nofun _ houtcome
    arrivals harrivals).1
  rw [plain_delivery zlib hcompress htotal hcut] at hdelivered
  apply hdelivered.trans
  split
  · exact (forStream_received ..).1
  · rfl

/-- A receiver of the compressing writer's packets. -/
theorem Opened.compressing_delivered (hserves : zlib.Serves) {earlier : List Packet}
    {writer : Writer σ} {timestamp : Int}
    (h : Opened zlib options (earlier ++ [headerPacket options streamId timestamp]) writer streamId)
    (hcompress : options.compress = true) {datas : List Bytes}
    (hdatas : ∀ data ∈ datas.tail, data ≠ [])
    (htotal : datas.flatten.length ≤ kMaximumBufferedDataStreamSize) {identity : String}
    {arrivals : List Arrival}
    (harrivals : ofStream streamId arrivals =
      ((calls zlib writer (writesAndClose datas)).2.engine.sent.drop earlier.length).map
        (relay identity)) :
    forStream streamId (room.deliveries zlib arrivals) =
      if completes options datas.flatten.length ∧
          (deflated zlib datas).length ≤ kMaximumBufferedDataStreamSize then
        received options streamId timestamp identity datas.flatten
      else [] := by
  obtain ⟨-, contents, ended, hended, hcut, hsent⟩ :=
    h.compressing_session hzlib hserves hcompress hdatas htotal
  rw [hsent] at harrivals
  have houtcome := headerOutcome_header hzlib hdeclares hid timestamp
  have hdelivered := (@deliveries_framed σ zlib room hroom hlistener options.toStreamOptions
    (options.header streamId timestamp) contents _ identity hhandler htexts hfiles nofun _ houtcome
    arrivals harrivals).1
  rw [deflated_delivery hzlib hcompress h.chunkSize_le htotal hended hcut] at hdelivered
  apply hdelivered.trans
  split
  · exact (forStream_received ..).1
  · rfl

end Receiver

/-- A write that is refused shows in the results. -/
theorem results_ne {zlib : Zlib σ} {plain compressing : Writer σ} {datas : List Bytes}
    {complete : Bool} (hplain : (calls zlib plain (writesAndClose datas)).1 =
      List.replicate datas.length true ++ [complete])
    (hrefused : false ∈ (calls zlib compressing (datas.map .write)).1) :
    (calls zlib plain (writesAndClose datas)).1 ≠
      (calls zlib compressing (writesAndClose datas)).1 := by
  intro hsame
  rw [hplain, writesAndClose, calls_append] at hsame
  have hlength : (List.replicate datas.length true).length =
      (calls zlib compressing (datas.map .write)).1.length := by
    rw [length_calls, List.length_map, List.length_replicate]
  have hwrites := (List.append_inj hsame hlength).1
  rw [← hwrites] at hrefused
  exact Bool.false_ne_true (List.eq_of_mem_replicate hrefused)

/-- **A compressing writer beside a plain one.**  They return the same and deliver the
    same exactly if no `Write` but the first is of no bytes, and the deflated stream
    is within the receiver's limit or the stream is incomplete anyway. -/
theorem compressing_writer_alike_iff {zlib : Zlib σ} (hzlib : zlib.RoundTrip)
    (hserves : zlib.Serves) {engine : Engine} (hresults : ∀ n, engine.results n = true)
    {options : StreamBytesOptions} {uuid : String} (huuid : uuid ≠ "") {timestamp : Int}
    {plain compressing : Writer σ}
    (hplain : streamBytes zlib engine uuid timestamp { options with compress := false } =
      some plain)
    (hcompressing : streamBytes zlib engine uuid timestamp { options with compress := true } =
      some compressing)
    {datas : List Bytes} (htotal : datas.flatten.length ≤ kMaximumBufferedDataStreamSize)
    {room : Room σ} (hroom : Reachable zlib room) (hlistener : room.hasListener = true)
    (hhandler : room.byteStreamHandlers[options.topic]? = none)
    (htexts : room.incomingTexts[options.infoStreamId uuid]? = none)
    (hfiles : room.incomingFiles[options.infoStreamId uuid]? = none) {identity : String}
    {arrivals arrivals' : List Arrival}
    (harrivals : ofStream (options.infoStreamId uuid) arrivals =
      ((calls zlib plain (writesAndClose datas)).2.engine.sent.drop engine.sent.length).map
        (relay identity))
    (harrivals' : ofStream (options.infoStreamId uuid) arrivals' =
      ((calls zlib compressing (writesAndClose datas)).2.engine.sent.drop engine.sent.length).map
        (relay identity)) :
    (calls zlib plain (writesAndClose datas)).1 =
          (calls zlib compressing (writesAndClose datas)).1 ∧
        forStream (options.infoStreamId uuid) (room.deliveries zlib arrivals) =
          forStream (options.infoStreamId uuid) (room.deliveries zlib arrivals') ↔
      (∀ data ∈ datas.tail, data ≠ []) ∧
        ((∃ size ∈ options.totalSize, size.toNat ≠ datas.flatten.length) ∨
          (deflated zlib datas).length ≤ kMaximumBufferedDataStreamSize) := by
  have hid : options.infoStreamId uuid ≠ "" := by
    rw [StreamBytesOptions.infoStreamId]
    split
    · exact huuid
    · assumption
  have hopened := streamBytes_opened hresults hplain
  have hopened' := streamBytes_opened hresults hcompressing
  have hdeclares : Declares options := hopened'.declares rfl
  obtain ⟨hresult, -⟩ := hopened.plain_session rfl datas
  have hdelivered := @Opened.plain_delivered σ zlib hzlib { options with compress := false }
    (options.infoStreamId uuid) hid hdeclares room hroom hlistener hhandler htexts hfiles
    engine.sent plain timestamp hopened rfl datas htotal identity arrivals harrivals
  by_cases hdatas : ∀ data ∈ datas.tail, data ≠ []
  · obtain ⟨hresult', -⟩ := hopened'.compressing_session hzlib hserves rfl hdatas htotal
    have hdelivered' := @Opened.compressing_delivered σ zlib hzlib
      { options with compress := true } (options.infoStreamId uuid) hid hdeclares room hroom
      hlistener hhandler htexts hfiles hserves engine.sent compressing timestamp hopened' rfl datas
      hdatas htotal identity arrivals' harrivals'
    have hincomplete : (∃ size ∈ options.totalSize, size.toNat ≠ datas.flatten.length) ↔
        ¬ completes options datas.flatten.length = true := by
      rw [completes_iff htotal (options.infoStreamId uuid) timestamp, all_totalLength]
      simp only [not_forall, exists_prop, StreamBytesOptions.header, ne_comm, ne_eq]
    have hsame : ∀ compress : Bool,
        completes { options with compress := compress } datas.flatten.length =
            completes options datas.flatten.length ∧
          received { options with compress := compress } (options.infoStreamId uuid) timestamp
              identity datas.flatten =
            received options (options.infoStreamId uuid) timestamp identity datas.flatten :=
      fun _ => ⟨rfl, rfl⟩
    rw [hdelivered, hdelivered', hresult, hresult', hincomplete]
    simp only [hsame, true_and]
    have hsome := (forStream_received options (options.infoStreamId uuid) timestamp identity
      datas.flatten).2
    by_cases hcomplete : completes options datas.flatten.length = true
    · by_cases hfits : (deflated zlib datas).length ≤ kMaximumBufferedDataStreamSize
      · rw [if_pos hcomplete, if_pos ⟨hcomplete, hfits⟩]
        exact iff_of_true rfl ⟨hdatas, .inr hfits⟩
      · rw [if_pos hcomplete, if_neg fun h => hfits h.2]
        exact iff_of_false hsome fun h => h.2.elim (fun hnot => hnot hcomplete) hfits
    · rw [if_neg hcomplete, if_neg fun h => hcomplete h.1]
      exact iff_of_true rfl ⟨hdatas, .inl hcomplete⟩
  · have hnil : [] ∈ datas.tail := by
      by_contra hnone
      exact hdatas fun data hmem hdata => hnone (hdata ▸ hmem)
    obtain ⟨stream, hinit⟩ := Option.ne_none_iff_exists'.mp hserves.deflateInit
    have hrefused :=
      (hopened'.compressing rfl hinit).first_writes_refused hzlib hserves hnil htotal
    exact iff_of_false (fun h => results_ne hresult hrefused h.1) fun h => hdatas h.1

/-! ### Two writes, one of them of nothing -/

def blob : StreamBytesOptions := { topic := "blobs", chunkSize := 16 }

/-- What the writer returns on these writes and `Close`, and what it has sent. -/
def outcome (compress : Bool) (datas : List Bytes) : Option (List Bool × List Packet) :=
  (streamBytes StoredDeflate.zlib Engine.reliable "bytes-1" 7
    { blob with compress := compress }).map fun writer =>
      ((calls StoredDeflate.zlib writer (writesAndClose datas)).1,
        (calls StoredDeflate.zlib writer (writesAndClose datas)).2.engine.sent)

/-- Nothing first, and then fifteen bytes that zlib stores as they are. -/
def nothingFirst : List Bytes := [[], (List.range 15).map fun n => UInt8.ofNat (144 + n)]

theorem nothingFirst_alike :
    ∃ sent sent', outcome false nothingFirst = some ([true, true, true], sent) ∧
      outcome true nothingFirst = some ([true, true, true], sent') ∧
      forStream "bytes-1" ((Room.new true).deliveries StoredDeflate.zlib
          (alone (sent.map (relay "alice")))) =
        forStream "bytes-1" ((Room.new true).deliveries StoredDeflate.zlib
          (alone (sent'.map (relay "alice")))) := by
  obtain ⟨plain, hplain⟩ := Option.isSome_iff_exists.mp (show (streamBytes StoredDeflate.zlib
    Engine.reliable "bytes-1" 7 { blob with compress := false }).isSome = true by decide)
  obtain ⟨compressing, hcompressing⟩ := Option.isSome_iff_exists.mp (show (streamBytes
    StoredDeflate.zlib Engine.reliable "bytes-1" 7 { blob with compress := true }).isSome = true
      by decide)
  have houtcome : outcome false nothingFirst = some _ := congrArg (Option.map _) hplain
  have houtcome' : outcome true nothingFirst = some _ := congrArg (Option.map _) hcompressing
  have hresults : (outcome false nothingFirst).map (·.1) = some [true, true, true] := by decide
  have hresults' : (outcome true nothingFirst).map (·.1) = some [true, true, true] := by decide
  have harrivals : ∀ compress, (outcome compress nothingFirst).map (fun result =>
        ofStream "bytes-1" (alone (result.2.map (relay "alice")))) =
      (outcome compress nothingFirst).map fun result =>
        (result.2.drop Engine.reliable.sent.length).map (relay "alice") := by
    decide
  have hsent := harrivals false
  have hsent' := harrivals true
  rw [houtcome] at hresults hsent
  rw [houtcome'] at hresults' hsent'
  have halike := (@compressing_writer_alike_iff _ StoredDeflate.zlib StoredDeflate.roundTrip
    StoredDeflate.serves Engine.reliable (fun _ => rfl) blob "bytes-1" (by decide) 7 plain
    compressing hplain hcompressing nothingFirst (by decide) (Room.new true) ⟨true, [], rfl⟩ rfl
    (by decide) (by decide) (by decide) "alice" _ _ (Option.some.inj hsent)
    (Option.some.inj hsent')).mpr ⟨by decide, .inr (by decide)⟩
  refine ⟨_, _, ?_, ?_, halike.2⟩
  · rw [houtcome, ← Option.some.inj hresults]
  · rw [houtcome', ← Option.some.inj hresults']

/-- Some bytes, and then nothing. -/
theorem nothing_second_refused :
    (outcome false [[200], []]).map (·.1) = some [true, true, true] ∧
      (outcome true [[200], []]).map (·.1) = some [true, false, false] := by
  decide

end LivekitClient.WriterCompression
