/-
  LivekitClient/StreamWriter.lean
  ===============================
  **Writing a stream piece by piece** (`OutgoingStreamWriterBase` in
  `src/core/participant/local_participant.cpp`): `Write`, `Close`, `Cancel` and the
  destructor, for text and for bytes, plain and compressed.

  Every call may send some packets, and every packet may fail to be sent.  What the
  receiver can rely on is a property of the packets of a whole run: chunks with
  consecutive indices, then at most one trailer, and nothing after a packet that
  failed.  A writer that is not closed has had no failure and no trailer; that is the
  invariant that carries it.
-/
import LivekitClient.OutgoingDataStreams

namespace LivekitClient.StreamWriter

open LivekitClient.DataPacket
open LivekitClient.DataStreamCompression
open LivekitClient.IncomingDataStreams (kMaximumBufferedDataStreamSize)
open LivekitClient.OutgoingDataStreams (Engine pieces kMaximumCompressedDataStreamSize
  kMaximumDataStreamChunkSize mem_pieces flatten_pieces)
open LivekitClient.StreamReassembly (noZlib)

variable {σ : Type}

/-! ## 1. The writer -/

/-- What a writer is made with.  The chunk size has been checked by `StreamText` or
    `StreamBytes`; a text writer keeps the characters of its chunks whole. -/
structure WriterOptions where
  streamId : String
  totalSize : Option UInt64 := none
  destinationIdentities : List String := []
  chunkSize : Nat := 15000
  version : Int := 0
  onProgress : Bool := false
  preserveUtf8Boundaries : Bool := false
  chunkSize_pos : 0 < chunkSize := by decide

/-- `OutgoingStreamWriterBase`, with the packets it has sent and the calls of the
    progress handler. -/
structure Writer (σ : Type) where
  options : WriterOptions
  engine : Engine
  deflater : Option (DeflateRawStream σ)
  nextChunk : UInt64 := 0
  bytesSent : UInt64 := 0
  closed : Bool := false
  progress : List (UInt64 × Option UInt64) := []

def WriterOptions.packet (options : WriterOptions) (value : Value) : Packet :=
  { destinationIdentities := options.destinationIdentities, value := value }

def WriterOptions.chunkPacket (options : WriterOptions) (chunkIndex : UInt64) (content : Bytes) :
    Packet :=
  options.packet (.streamChunk
    { streamId := options.streamId, chunkIndex := chunkIndex, content := content,
      version := options.version })

def WriterOptions.trailerPacket (options : WriterOptions) (reason : String) : Packet :=
  options.packet (.streamTrailer { streamId := options.streamId, reason := reason })

namespace Writer

def new (zlib : Zlib σ) (options : WriterOptions) (compress : Bool) (results : Nat → Bool) :
    Writer σ where
  options := options
  engine := ⟨true, results, []⟩
  deflater := if compress then some (.new zlib) else none

/-- `OutgoingDataStreamState::Send`. -/
def send (writer : Writer σ) (packet : Packet) : Bool × Writer σ :=
  if writer.engine.present then
    ((writer.engine.sendDataPacket packet).1,
     { writer with engine := (writer.engine.sendDataPacket packet).2 })
  else (false, writer)

/-- One chunk; its index is used up even if it is not sent. -/
def sendChunk (writer : Writer σ) (content : Bytes) : Bool × Writer σ :=
  { writer with nextChunk := writer.nextChunk + 1 }.send
    (writer.options.chunkPacket writer.nextChunk content)

def sendChunks : Writer σ → List Bytes → Bool × Writer σ
  | writer, [] => (true, writer)
  | writer, content :: rest =>
    match writer.sendChunk content with
    | (false, writer) => (false, writer)
    | (true, writer) => writer.sendChunks rest

def sendBytes (writer : Writer σ) (data : Bytes) : Bool × Writer σ :=
  writer.sendChunks (pieces writer.options.chunkSize data)

def sendStreamTrailer (writer : Writer σ) (reason : String) : Bool × Writer σ :=
  writer.send (writer.options.trailerPacket reason)

/-- The call of the progress handler. -/
def report (writer : Writer σ) : Writer σ :=
  if writer.options.onProgress then
    { writer with
      progress := writer.progress ++ [(writer.bytesSent, writer.options.totalSize)] }
  else writer

/-- A byte `10xxxxxx`. -/
def isContinuation (byte : Option UInt8) : Bool :=
  byte.any fun byte => byte &&& 0xc0 == 0x80

/-- Steps back while the byte after the chunk continues a character. -/
def backToBoundary (data : Bytes) : Nat → Nat
  | 0 => 0
  | count + 1 => if isContinuation data[count + 1]? then backToBoundary data count else count + 1

/-- The length of the next chunk of what is left. -/
def chunkCount (options : WriterOptions) (data : Bytes) : Nat :=
  let count := min options.chunkSize data.length
  if options.preserveUtf8Boundaries ∧ count < data.length then backToBoundary data count
  else count

/-- The loop over the data, uncompressed.  A chunk that would hold no whole character
    ends the call, and the writer stays open. -/
def writeLoop : Nat → Writer σ → Bytes → Bool × Writer σ
  | 0, writer, _ => (true, writer)
  | fuel + 1, writer, data =>
    if data = [] then (true, writer)
    else if chunkCount writer.options data = 0 then (false, writer)
    else
      match writer.sendChunk (data.take (chunkCount writer.options data)) with
      | (false, writer') => (false, { writer' with closed := true })
      | (true, writer') =>
        writeLoop fuel
          { writer' with
            bytesSent := writer'.bytesSent + UInt64.ofNat (chunkCount writer.options data) }
          (data.drop (chunkCount writer.options data))

/-- The compressed branch of `WriteBytes`. -/
def writeDeflated (zlib : Zlib σ) (writer : Writer σ) (deflater : DeflateRawStream σ)
    (data : Bytes) : Bool × Writer σ :=
  if kMaximumCompressedDataStreamSize < writer.bytesSent.toNat ∨
      kMaximumCompressedDataStreamSize - writer.bytesSent.toNat < data.length then
    (false, writer)
  else if !deflater.isValid then (false, { writer with closed := true })
  else
    match deflater.write zlib data with
    | (false, _, deflater) => (false, { writer with deflater := some deflater, closed := true })
    | (true, output, deflater) =>
      match { writer with deflater := some deflater }.sendBytes output with
      | (false, writer) => (false, { writer with closed := true })
      | (true, writer) =>
        (true, { writer with bytesSent := writer.bytesSent + UInt64.ofNat data.length }.report)

def writeBytes (zlib : Zlib σ) (writer : Writer σ) (data : Bytes) : Bool × Writer σ :=
  if writer.closed then (false, writer)
  else
    match writer.deflater with
    | some deflater => writer.writeDeflated zlib deflater data
    | none =>
      match writer.writeLoop data.length data with
      | (false, writer) => (false, writer)
      | (true, writer) => (true, writer.report)

def complete (writer : Writer σ) : Bool :=
  writer.options.totalSize.all (writer.bytesSent == ·)

/-- The end of the deflate stream, if there is one. -/
def finishDeflate (zlib : Zlib σ) (writer : Writer σ) : Bool × Writer σ :=
  match writer.deflater with
  | none => (true, writer)
  | some deflater =>
    match deflater.finish zlib with
    | (false, _, deflater) => (false, { writer with deflater := some deflater })
    | (true, output, deflater) => { writer with deflater := some deflater }.sendBytes output

/-- The trailer of `Close`, and the last call of the progress handler. -/
def sendClosingTrailer (writer : Writer σ) (complete : Bool) : Bool × Writer σ :=
  match writer.sendStreamTrailer (if complete then "" else "incomplete stream") with
  | (false, writer) => (false, writer)
  | (true, writer) => (complete, if complete then writer.report else writer)

def closeInternal (zlib : Zlib σ) (writer : Writer σ) : Bool × Writer σ :=
  if writer.closed then (false, writer)
  else
    match { writer with closed := true }.finishDeflate zlib with
    | (false, writer') => (false, writer')
    | (true, writer') => writer'.sendClosingTrailer writer.complete

def cancelInternal (writer : Writer σ) (reason : String) : Bool × Writer σ :=
  if writer.closed then (false, writer)
  else
    { writer with closed := true }.sendStreamTrailer (if reason = "" then "cancelled" else reason)

end Writer

/-- What can happen to a writer; `invalidate` is the end of the local participant. -/
inductive Op where
  | write (data : Bytes)
  | close
  | cancel (reason : String)
  | destroy
  | invalidate

/-- One call and what it returns. -/
def Writer.apply (zlib : Zlib σ) (writer : Writer σ) : Op → Bool × Writer σ
  | .write data => writer.writeBytes zlib data
  | .close => writer.closeInternal zlib
  | .cancel reason => writer.cancelInternal reason
  | .destroy => writer.cancelInternal "writer destroyed before close"
  | .invalidate => (true, { writer with engine := { writer.engine with present := false } })

/-- The writer after some calls. -/
def Writer.run (zlib : Zlib σ) (writer : Writer σ) (ops : List Op) : Writer σ :=
  ops.foldl (fun writer op => (writer.apply zlib op).2) writer

/-- What a call adds to the total size of the writes that returned true. -/
def Op.written (op : Op) (result : Bool) : Nat :=
  match op with
  | .write data => if result then data.length else 0
  | _ => 0

/-- The total size of the writes that returned true. -/
def Writer.written (zlib : Zlib σ) : Writer σ → List Op → Nat
  | _, [] => 0
  | writer, op :: rest =>
    op.written (writer.apply zlib op).1 + written zlib (writer.apply zlib op).2 rest

/-! ## 2. Chunks -/

/-- The chunk packets of these contents, counted from zero. -/
def chunkPackets (options : WriterOptions) (contents : List Bytes) : List Packet :=
  contents.zipIdx.map fun (content, i) => options.chunkPacket (UInt64.ofNat i) content

/-- The size of the chunks that were sent. -/
def delivered (results : Nat → Bool) (contents : List Bytes) : Nat :=
  (contents.zipIdx.map fun (content, i) => if results i then content.length else 0).sum

theorem chunkPackets_append (options : WriterOptions) (contents : List Bytes) (content : Bytes) :
    chunkPackets options (contents ++ [content]) =
      chunkPackets options contents ++
        [options.chunkPacket (UInt64.ofNat contents.length) content] := by
  simp [chunkPackets, List.zipIdx_append]

@[simp] theorem length_chunkPackets (options : WriterOptions) (contents : List Bytes) :
    (chunkPackets options contents).length = contents.length := by
  simp [chunkPackets]

theorem delivered_append (results : Nat → Bool) (contents : List Bytes) (content : Bytes) :
    delivered results (contents ++ [content]) =
      delivered results contents + if results contents.length then content.length else 0 := by
  simp [delivered, List.zipIdx_append]

/-- No chunk is a trailer. -/
theorem trailerPacket_notMem_chunkPackets (options : WriterOptions) (contents : List Bytes)
    (reason : String) : options.trailerPacket reason ∉ chunkPackets options contents := by
  intro hmem
  obtain ⟨⟨content, i⟩, -, heq⟩ := List.mem_map.mp hmem
  simp [WriterOptions.chunkPacket, WriterOptions.trailerPacket, WriterOptions.packet] at heq

/-- Only chunks so far, and all of them sent. -/
structure Flowing (writer : Writer σ) (contents : List Bytes) : Prop where
  sent : writer.engine.sent = chunkPackets writer.options contents
  succeeded : ∀ i < contents.length, writer.engine.results i = true
  next : writer.nextChunk = UInt64.ofNat contents.length

/-- Only chunks so far, and all of them sent but perhaps the last. -/
structure Halted (writer : Writer σ) (contents : List Bytes) : Prop where
  sent : writer.engine.sent = chunkPackets writer.options contents
  succeeded : ∀ i, i + 1 < contents.length → writer.engine.results i = true

theorem Flowing.halted {writer : Writer σ} {contents : List Bytes} (h : Flowing writer contents) :
    Halted writer contents :=
  ⟨h.sent, fun i hi => h.succeeded i (by omega)⟩

/-- Only the options, the packets and the next index count. -/
theorem Flowing.congr {writer writer' : Writer σ} {contents : List Bytes}
    (h : Flowing writer contents) (hoptions : writer'.options = writer.options)
    (hengine : writer'.engine = writer.engine) (hnext : writer'.nextChunk = writer.nextChunk) :
    Flowing writer' contents := by
  refine ⟨?_, ?_, hnext.trans h.next⟩
  · rw [hengine, hoptions]
    exact h.sent
  · rw [hengine]
    exact h.succeeded

theorem Halted.congr {writer writer' : Writer σ} {contents : List Bytes}
    (h : Halted writer contents) (hoptions : writer'.options = writer.options)
    (hengine : writer'.engine = writer.engine) : Halted writer' contents := by
  refine ⟨?_, ?_⟩
  · rw [hengine, hoptions]
    exact h.sent
  · rw [hengine]
    exact h.succeeded

/-- What sending leaves as it is. -/
structure Frame (writer writer' : Writer σ) : Prop where
  options : writer'.options = writer.options
  results : writer'.engine.results = writer.engine.results
  deflater : writer'.deflater = writer.deflater
  bytesSent : writer'.bytesSent = writer.bytesSent
  closed : writer'.closed = writer.closed

theorem Frame.refl (writer : Writer σ) : Frame writer writer := ⟨rfl, rfl, rfl, rfl, rfl⟩

theorem Frame.trans {writer writer' writer'' : Writer σ} (h : Frame writer writer')
    (h' : Frame writer' writer'') : Frame writer writer'' where
  options := h'.options.trans h.options
  results := h'.results.trans h.results
  deflater := h'.deflater.trans h.deflater
  bytesSent := h'.bytesSent.trans h.bytesSent
  closed := h'.closed.trans h.closed

theorem send_frame (writer : Writer σ) (packet : Packet) : Frame writer (writer.send packet).2 := by
  rw [Writer.send]
  split <;> exact ⟨rfl, rfl, rfl, rfl, rfl⟩

theorem sendChunk_frame (writer : Writer σ) (content : Bytes) :
    Frame writer (writer.sendChunk content).2 := by
  have hframe := send_frame { writer with nextChunk := writer.nextChunk + 1 }
    (writer.options.chunkPacket writer.nextChunk content)
  exact ⟨hframe.options, hframe.results, hframe.deflater, hframe.bytesSent, hframe.closed⟩

theorem sendChunks_frame (writer : Writer σ) (contents : List Bytes) :
    Frame writer (writer.sendChunks contents).2 := by
  induction contents generalizing writer with
  | nil => exact .refl writer
  | cons content rest ih =>
    have hframe := sendChunk_frame writer content
    rw [Writer.sendChunks]
    rcases hsend : writer.sendChunk content with ⟨_ | _, writer'⟩
    · rw [hsend] at hframe
      exact hframe
    · rw [hsend] at hframe
      exact hframe.trans (ih writer')

/-- A chunk is sent, or the packets end with it or before it. -/
theorem sendChunk_spec {writer : Writer σ} {contents : List Bytes} (h : Flowing writer contents)
    (content : Bytes) :
    ((writer.sendChunk content).1 = true ∧
        Flowing (writer.sendChunk content).2 (contents ++ [content]) ∧
        writer.engine.results contents.length = true) ∨
      ((writer.sendChunk content).1 = false ∧
        ∃ contents', Halted (writer.sendChunk content).2 contents' ∧
          delivered writer.engine.results contents' =
            delivered writer.engine.results contents) := by
  have hlength : writer.engine.sent.length = contents.length := by
    rw [h.sent, length_chunkPackets]
  rw [Writer.sendChunk, Writer.send]
  by_cases hpresent : writer.engine.present = true
  · rw [if_pos hpresent]
    have hsent : writer.engine.sent ++ [writer.options.chunkPacket writer.nextChunk content] =
        chunkPackets writer.options (contents ++ [content]) := by
      rw [chunkPackets_append, h.sent, h.next]
    by_cases hresult : writer.engine.results contents.length = true
    · left
      refine ⟨?_, ⟨hsent, ?_, ?_⟩, hresult⟩
      · simp only [Engine.sendDataPacket, hlength, hresult]
      · intro i hi
        rw [List.length_append, List.length_singleton] at hi
        rcases Nat.lt_succ_iff_lt_or_eq.mp hi with hi | rfl
        · exact h.succeeded i hi
        · exact hresult
      · simp only [h.next, List.length_append, List.length_singleton, UInt64.ofNat_add]
        rfl
    · right
      refine ⟨?_, contents ++ [content], ⟨hsent, ?_⟩, ?_⟩
      · simpa only [Engine.sendDataPacket, hlength, Bool.not_eq_true] using hresult
      · intro i hi
        rw [List.length_append, List.length_singleton] at hi
        exact h.succeeded i (by omega)
      · rw [delivered_append, if_neg hresult, Nat.add_zero]
  · rw [if_neg hpresent]
    exact .inr ⟨rfl, contents, ⟨h.sent, h.halted.succeeded⟩, rfl⟩

theorem sendChunks_spec {writer : Writer σ} {contents : List Bytes} (h : Flowing writer contents)
    (more : List Bytes) :
    ((writer.sendChunks more).1 = true ∧
        Flowing (writer.sendChunks more).2 (contents ++ more)) ∨
      ((writer.sendChunks more).1 = false ∧
        ∃ contents', Halted (writer.sendChunks more).2 contents') := by
  induction more generalizing writer contents with
  | nil =>
    refine .inl ⟨rfl, ?_⟩
    rw [List.append_nil]
    exact h
  | cons content rest ih =>
    have hresult := sendChunk_spec h content
    rw [Writer.sendChunks]
    rcases hsend : writer.sendChunk content with ⟨result, writer'⟩
    rw [hsend] at hresult
    rcases hresult with ⟨rfl, hflowing, -⟩ | ⟨rfl, contents', hhalted, -⟩
    · have hrest := ih hflowing
      rwa [List.append_assoc] at hrest
    · exact .inr ⟨rfl, contents', hhalted⟩

/-! ## 3. The protocol -/

/-- The packets of a writer: chunks, then at most one trailer, nothing after a failure;
    and what `bytesSent` counts.  As long as the writer is open, all is sent. -/
structure Protocol (writer : Writer σ) (contents : List Bytes) (reasons : List String)
    (written : Nat) : Prop where
  sent : writer.engine.sent =
    chunkPackets writer.options contents ++ reasons.map writer.options.trailerPacket
  one : reasons.length ≤ 1
  succeeded : ∀ i, i + 1 < writer.engine.sent.length → writer.engine.results i = true
  flowing : writer.closed = false → reasons = [] ∧ Flowing writer contents
  plain : writer.deflater = none →
    writer.bytesSent = UInt64.ofNat (delivered writer.engine.results contents)
  deflated : writer.deflater ≠ none → writer.bytesSent.toNat = written

theorem protocol_new (zlib : Zlib σ) (options : WriterOptions) (compress : Bool)
    (results : Nat → Bool) :
    Protocol (Writer.new zlib options compress results) [] [] 0 where
  sent := rfl
  one := Nat.zero_le 1
  succeeded := by simp [Writer.new]
  flowing := fun _ => ⟨rfl, rfl, by simp, rfl⟩
  plain := fun _ => rfl
  deflated := fun _ => rfl

/-- An open writer that goes on. -/
theorem Flowing.protocol {writer : Writer σ} {contents : List Bytes} (h : Flowing writer contents)
    {written : Nat} (hplain : writer.deflater = none →
      writer.bytesSent = UInt64.ofNat (delivered writer.engine.results contents))
    (hdeflated : writer.deflater ≠ none → writer.bytesSent.toNat = written) :
    Protocol writer contents [] written where
  sent := by rw [h.sent, List.map_nil, List.append_nil]
  one := Nat.zero_le 1
  succeeded := by
    intro i hi
    rw [h.sent, length_chunkPackets] at hi
    exact h.succeeded i (by omega)
  flowing := fun _ => ⟨rfl, h⟩
  plain := hplain
  deflated := hdeflated

/-- A writer that is closed without a trailer. -/
theorem Halted.protocol {writer : Writer σ} {contents : List Bytes} (h : Halted writer contents)
    {written : Nat} (hclosed : writer.closed = true) (hplain : writer.deflater = none →
      writer.bytesSent = UInt64.ofNat (delivered writer.engine.results contents))
    (hdeflated : writer.deflater ≠ none → writer.bytesSent.toNat = written) :
    Protocol writer contents [] written where
  sent := by rw [h.sent, List.map_nil, List.append_nil]
  one := Nat.zero_le 1
  succeeded := by
    intro i hi
    rw [h.sent, length_chunkPackets] at hi
    exact h.succeeded i hi
  flowing := fun hopen => by simp [hclosed] at hopen
  plain := hplain
  deflated := hdeflated

@[simp] theorem report_options (writer : Writer σ) : writer.report.options = writer.options := by
  rw [Writer.report]
  split <;> rfl

@[simp] theorem report_engine (writer : Writer σ) : writer.report.engine = writer.engine := by
  rw [Writer.report]
  split <;> rfl

@[simp] theorem report_deflater (writer : Writer σ) :
    writer.report.deflater = writer.deflater := by
  rw [Writer.report]
  split <;> rfl

@[simp] theorem report_bytesSent (writer : Writer σ) :
    writer.report.bytesSent = writer.bytesSent := by
  rw [Writer.report]
  split <;> rfl

@[simp] theorem report_closed (writer : Writer σ) : writer.report.closed = writer.closed := by
  rw [Writer.report]
  split <;> rfl

@[simp] theorem report_nextChunk (writer : Writer σ) :
    writer.report.nextChunk = writer.nextChunk := by
  rw [Writer.report]
  split <;> rfl

/-- The progress handler changes nothing. -/
theorem Flowing.report {writer : Writer σ} {contents : List Bytes} (h : Flowing writer contents) :
    Flowing writer.report contents := by
  exact h.congr (report_options writer) (report_engine writer) (report_nextChunk writer)

/-! ### Writing -/

theorem backToBoundary_le (data : Bytes) (count : Nat) :
    Writer.backToBoundary data count ≤ count := by
  induction count with
  | zero => exact Nat.le_refl 0
  | succ count ih =>
    rw [Writer.backToBoundary]
    split
    · exact Nat.le_succ_of_le ih
    · exact Nat.le_refl _

theorem chunkCount_le (options : WriterOptions) (data : Bytes) :
    Writer.chunkCount options data ≤ data.length := by
  rw [Writer.chunkCount]
  split
  · exact Nat.le_trans (backToBoundary_le data _) (Nat.min_le_right ..)
  · exact Nat.min_le_right ..

/-- What no call changes. -/
structure Kept (writer writer' : Writer σ) : Prop where
  options : writer'.options = writer.options
  results : writer'.engine.results = writer.engine.results
  deflater : writer'.deflater = none ↔ writer.deflater = none

theorem Kept.refl (writer : Writer σ) : Kept writer writer := ⟨rfl, rfl, .rfl⟩

theorem Kept.trans {writer writer' writer'' : Writer σ} (h : Kept writer writer')
    (h' : Kept writer' writer'') : Kept writer writer'' :=
  ⟨h'.options.trans h.options, h'.results.trans h.results, h'.deflater.trans h.deflater⟩

theorem Frame.kept {writer writer' : Writer σ} (h : Frame writer writer') : Kept writer writer' :=
  ⟨h.options, h.results, by rw [h.deflater]⟩

theorem report_kept (writer : Writer σ) : Kept writer writer.report :=
  ⟨report_options writer, by rw [report_engine], by rw [report_deflater]⟩

theorem writeLoop_kept (fuel : Nat) (writer : Writer σ) (data : Bytes) :
    Kept writer (writer.writeLoop fuel data).2 := by
  induction fuel generalizing writer data with
  | zero => exact .refl writer
  | succ fuel ih =>
    rw [Writer.writeLoop]
    split
    · exact .refl writer
    split
    · exact .refl writer
    have hkept :=
      (sendChunk_frame writer (data.take (Writer.chunkCount writer.options data))).kept
    rcases hsend : writer.sendChunk (data.take (Writer.chunkCount writer.options data)) with
      ⟨_ | _, writer'⟩
    · rw [hsend] at hkept
      exact ⟨hkept.options, hkept.results, hkept.deflater⟩
    · rw [hsend] at hkept
      have hrest := ih
        { writer' with
          bytesSent := writer'.bytesSent + UInt64.ofNat (Writer.chunkCount writer.options data) }
        (data.drop (Writer.chunkCount writer.options data))
      exact hkept.trans ⟨hrest.options, hrest.results, hrest.deflater⟩

/-- The uncompressed loop: the writer goes on, or is closed by a failure. -/
theorem writeLoop_spec (fuel : Nat) {writer : Writer σ} {contents : List Bytes}
    (h : Flowing writer contents) (hopen : writer.closed = false)
    (hplain : writer.bytesSent = UInt64.ofNat (delivered writer.engine.results contents))
    (data : Bytes) :
    ∃ contents',
      (writer.writeLoop fuel data).2.bytesSent =
          UInt64.ofNat (delivered writer.engine.results contents') ∧
        (Flowing (writer.writeLoop fuel data).2 contents' ∧
            (writer.writeLoop fuel data).2.closed = false ∨
          Halted (writer.writeLoop fuel data).2 contents' ∧
            (writer.writeLoop fuel data).2.closed = true ∧
            (writer.writeLoop fuel data).1 = false) := by
  induction fuel generalizing writer contents data with
  | zero => exact ⟨contents, hplain, .inl ⟨h, hopen⟩⟩
  | succ fuel ih =>
    rw [Writer.writeLoop]
    split
    · exact ⟨contents, hplain, .inl ⟨h, hopen⟩⟩
    split
    · exact ⟨contents, hplain, .inl ⟨h, hopen⟩⟩
    rename_i hdata hcount
    have hframe := sendChunk_frame writer (data.take (Writer.chunkCount writer.options data))
    have hresult := sendChunk_spec h (data.take (Writer.chunkCount writer.options data))
    rcases hsend : writer.sendChunk (data.take (Writer.chunkCount writer.options data)) with
      ⟨result, writer'⟩
    rw [hsend] at hframe hresult
    rcases hresult with ⟨rfl, hflowing, hsucceeded⟩ | ⟨rfl, contents', hhalted, hsame⟩
    · have hbytes : writer'.bytesSent + UInt64.ofNat (Writer.chunkCount writer.options data) =
          UInt64.ofNat (delivered writer.engine.results
            (contents ++ [data.take (Writer.chunkCount writer.options data)])) := by
        rw [delivered_append, if_pos hsucceeded, List.length_take,
          Nat.min_eq_left (chunkCount_le writer.options data), hframe.bytesSent, hplain,
          UInt64.ofNat_add]
      obtain ⟨contents', hrest⟩ :=
        @ih { writer' with
              bytesSent := writer'.bytesSent +
                UInt64.ofNat (Writer.chunkCount writer.options data) } _
          ⟨hflowing.sent, hflowing.succeeded, hflowing.next⟩ (hframe.closed.trans hopen)
          (by rw [hframe.results]; exact hbytes)
          (data.drop (Writer.chunkCount writer.options data))
      rw [hframe.results] at hrest
      exact ⟨contents', hrest⟩
    · refine ⟨contents', ?_, .inr ⟨⟨hhalted.sent, hhalted.succeeded⟩, rfl, rfl⟩⟩
      rw [hsame, ← hplain]
      exact hframe.bytesSent

theorem Protocol.report {writer : Writer σ} {contents : List Bytes} {reasons : List String}
    {written : Nat} (h : Protocol writer contents reasons written) :
    Protocol writer.report contents reasons written where
  sent := by
    rw [report_engine, report_options]
    exact h.sent
  one := h.one
  succeeded := by
    rw [report_engine]
    exact h.succeeded
  flowing := by
    rw [report_closed]
    exact fun hopen => ⟨(h.flowing hopen).1, (h.flowing hopen).2.report⟩
  plain := by
    rw [report_deflater, report_bytesSent, report_engine]
    exact h.plain
  deflated := by
    rw [report_deflater, report_bytesSent]
    exact h.deflated

theorem Protocol.writePlain {writer : Writer σ} {contents : List Bytes} {reasons : List String}
    {written : Nat} (h : Protocol writer contents reasons written)
    (hopen : writer.closed = false) (hdeflater : writer.deflater = none) (fuel : Nat)
    (data : Bytes) (more : Nat) :
    ∃ contents', Protocol (writer.writeLoop fuel data).2 contents' [] more := by
  obtain ⟨contents', hbytes, hcases⟩ :=
    writeLoop_spec fuel (h.flowing hopen).2 hopen (h.plain hdeflater) data
  have hkept := writeLoop_kept fuel writer data
  have hplain : (writer.writeLoop fuel data).2.bytesSent =
      UInt64.ofNat (delivered (writer.writeLoop fuel data).2.engine.results contents') := by
    rw [hkept.results]
    exact hbytes
  have hnone := hkept.deflater.mpr hdeflater
  refine ⟨contents', ?_⟩
  rcases hcases with ⟨hflowing, -⟩ | ⟨hhalted, hclosed, -⟩
  · exact hflowing.protocol (fun _ => hplain) fun hsome => absurd hnone hsome
  · exact hhalted.protocol hclosed (fun _ => hplain) fun hsome => absurd hnone hsome

theorem Protocol.writeDeflated {zlib : Zlib σ} {writer : Writer σ} {contents : List Bytes}
    {reasons : List String} {written : Nat} (h : Protocol writer contents reasons written)
    (hopen : writer.closed = false) {deflater : DeflateRawStream σ}
    (hdeflater : writer.deflater = some deflater) (data : Bytes) :
    ∃ contents', Protocol (writer.writeDeflated zlib deflater data).2 contents' []
      (written + (Op.write data).written (writer.writeDeflated zlib deflater data).1) := by
  have hflowing := (h.flowing hopen).2
  have hbytes := h.deflated (by simp [hdeflater])
  rw [Writer.writeDeflated]
  split
  · -- refused for its size: the writer is as it was
    exact ⟨contents, hflowing.protocol (fun hnone => by simp [hdeflater] at hnone) fun _ => hbytes⟩
  rename_i hsize
  obtain ⟨hbefore, hafter⟩ := not_or.mp hsize
  split
  · refine ⟨contents, ?_⟩
    apply Halted.protocol
    · exact hflowing.halted.congr rfl rfl
    · rfl
    · intro hnone
      simp [hdeflater] at hnone
    · exact fun _ => hbytes
  split
  · refine ⟨contents, ?_⟩
    apply Halted.protocol
    · exact hflowing.halted.congr rfl rfl
    · rfl
    · intro hnone
      simp at hnone
    · exact fun _ => hbytes
  rename_i output deflater' hwrite
  have hflowing' : Flowing { writer with deflater := some deflater' } contents :=
    ⟨hflowing.sent, hflowing.succeeded, hflowing.next⟩
  have hframe := sendChunks_frame { writer with deflater := some deflater' }
    (pieces writer.options.chunkSize output)
  have hcases := sendChunks_spec hflowing' (pieces writer.options.chunkSize output)
  rcases hsend : Writer.sendBytes { writer with deflater := some deflater' } output with
    ⟨result, writer'⟩
  rw [Writer.sendBytes] at hsend
  rw [hsend] at hframe hcases
  have hsome : writer'.deflater ≠ none := by
    rw [hframe.deflater]
    simp
  rcases hcases with ⟨rfl, hflowing'⟩ | ⟨rfl, contents', hhalted⟩
  · refine ⟨contents ++ pieces writer.options.chunkSize output, ?_⟩
    apply Protocol.report
    apply Flowing.protocol
    · exact hflowing'.congr rfl rfl rfl
    · exact fun hnone => absurd hnone hsome
    · intro _
      have hlimit : kMaximumCompressedDataStreamSize < 2 ^ 64 := by decide
      simp only [Op.written, if_true]
      rw [hframe.bytesSent, UInt64.toNat_add, UInt64.toNat_ofNat', hbytes]
      omega
  · refine ⟨contents', ?_⟩
    apply Halted.protocol
    · exact hhalted.congr rfl rfl
    · rfl
    · exact fun hnone => absurd hnone hsome
    · intro _
      rw [hframe.bytesSent]
      exact hbytes

/-- A write to an open writer sends no trailer. -/
theorem Protocol.write_of_open {zlib : Zlib σ} {writer : Writer σ} {contents : List Bytes}
    {reasons : List String} {written : Nat} (h : Protocol writer contents reasons written)
    (hopen : writer.closed = false) (data : Bytes) :
    ∃ contents', Protocol (writer.writeBytes zlib data).2 contents' []
      (written + (Op.write data).written (writer.writeBytes zlib data).1) := by
  rw [Writer.writeBytes, if_neg (by simp [hopen])]
  split
  · rename_i deflater hdeflater
    exact h.writeDeflated hopen hdeflater data
  · rename_i hdeflater
    rcases hloop : writer.writeLoop data.length data with ⟨result, writer'⟩
    obtain ⟨contents', hprotocol⟩ := h.writePlain hopen hdeflater data.length data
      (written + (Op.write data).written result)
    rw [hloop] at hprotocol
    cases result with
    | false => exact ⟨contents', hprotocol⟩
    | true => exact ⟨contents', hprotocol.report⟩

theorem Protocol.write {zlib : Zlib σ} {writer : Writer σ} {contents : List Bytes}
    {reasons : List String} {written : Nat} (h : Protocol writer contents reasons written)
    (data : Bytes) :
    ∃ contents' reasons', Protocol (writer.writeBytes zlib data).2 contents' reasons'
      (written + (Op.write data).written (writer.writeBytes zlib data).1) := by
  by_cases hclosed : writer.closed = true
  · rw [Writer.writeBytes, if_pos hclosed]
    exact ⟨contents, reasons, h⟩
  · obtain ⟨contents', hprotocol⟩ := h.write_of_open (Bool.not_eq_true _ ▸ hclosed) data
    exact ⟨contents', [], hprotocol⟩

/-! ### Ending -/

/-- All chunks sent, and a trailer after them. -/
structure Trailed (writer : Writer σ) (contents : List Bytes) (reason : String) : Prop where
  sent : writer.engine.sent =
    chunkPackets writer.options contents ++ [writer.options.trailerPacket reason]
  succeeded : ∀ i < contents.length, writer.engine.results i = true

theorem Trailed.protocol {writer : Writer σ} {contents : List Bytes} {reason : String}
    (h : Trailed writer contents reason) {written : Nat} (hclosed : writer.closed = true)
    (hplain : writer.deflater = none →
      writer.bytesSent = UInt64.ofNat (delivered writer.engine.results contents))
    (hdeflated : writer.deflater ≠ none → writer.bytesSent.toNat = written) :
    Protocol writer contents [reason] written where
  sent := h.sent
  one := Nat.le_refl 1
  succeeded := by
    intro i hi
    rw [h.sent, List.length_append, length_chunkPackets, List.length_singleton] at hi
    exact h.succeeded i (by omega)
  flowing := fun hopen => by simp [hclosed] at hopen
  plain := hplain
  deflated := hdeflated

/-- The trailer is given to the engine, or the engine is gone. -/
theorem sendStreamTrailer_spec {writer : Writer σ} {contents : List Bytes}
    (h : Flowing writer contents) (reason : String) :
    ((writer.sendStreamTrailer reason).1 = false ∧
        Halted (writer.sendStreamTrailer reason).2 contents) ∨
      ((writer.sendStreamTrailer reason).1 = writer.engine.results contents.length ∧
        Trailed (writer.sendStreamTrailer reason).2 contents reason) := by
  rw [Writer.sendStreamTrailer, Writer.send]
  split
  · refine .inr ⟨?_, ?_, h.succeeded⟩
    · rw [Engine.sendDataPacket, h.sent, length_chunkPackets]
    · simp only [Engine.sendDataPacket, h.sent]
  · exact .inl ⟨rfl, h.halted⟩

/-- What the end of the deflate stream leaves as it is. -/
theorem finishDeflate_kept (zlib : Zlib σ) (writer : Writer σ) :
    Kept writer (writer.finishDeflate zlib).2 ∧
      (writer.finishDeflate zlib).2.bytesSent = writer.bytesSent ∧
      (writer.finishDeflate zlib).2.closed = writer.closed := by
  rw [Writer.finishDeflate]
  split
  · exact ⟨.refl writer, rfl, rfl⟩
  rename_i deflater hdeflater
  split
  · exact ⟨⟨rfl, rfl, by simp [hdeflater]⟩, rfl, rfl⟩
  rename_i output deflater' hfinish
  have hframe := sendChunks_frame { writer with deflater := some deflater' }
    (pieces writer.options.chunkSize output)
  refine ⟨⟨hframe.options, hframe.results, ?_⟩, hframe.bytesSent, hframe.closed⟩
  rw [Writer.sendBytes, hframe.deflater]
  simp [hdeflater]

theorem finishDeflate_spec {zlib : Zlib σ} {writer : Writer σ} {contents : List Bytes}
    (h : Flowing writer contents) :
    ((writer.finishDeflate zlib).1 = true ∧
        ∃ more, Flowing (writer.finishDeflate zlib).2 (contents ++ more) ∧
          (writer.deflater = none → more = [])) ∨
      ((writer.finishDeflate zlib).1 = false ∧ writer.deflater ≠ none ∧
        ∃ contents', Halted (writer.finishDeflate zlib).2 contents') := by
  rw [Writer.finishDeflate]
  split
  · refine .inl ⟨rfl, [], ?_, fun _ => rfl⟩
    rw [List.append_nil]
    exact h
  rename_i deflater hdeflater
  split
  · exact .inr ⟨rfl, by simp [hdeflater], contents, h.halted.congr rfl rfl⟩
  rename_i output deflater' hfinish
  have hflowing : Flowing { writer with deflater := some deflater' } contents :=
    h.congr rfl rfl rfl
  rcases sendChunks_spec hflowing (pieces writer.options.chunkSize output) with
    ⟨hresult, hflowing'⟩ | ⟨hresult, contents', hhalted⟩
  · refine .inl ⟨hresult, _, hflowing', ?_⟩
    intro hnone
    simp [hdeflater] at hnone
  · exact .inr ⟨hresult, by simp [hdeflater], contents', hhalted⟩

/-- The reason that `Close` gives. -/
def closeReason (complete : Bool) : String := if complete then "" else "incomplete stream"

theorem sendClosingTrailer_kept (writer : Writer σ) (complete : Bool) :
    Kept writer (writer.sendClosingTrailer complete).2 := by
  have hkept := (send_frame writer (writer.options.trailerPacket (closeReason complete))).kept
  rw [Writer.sendClosingTrailer, Writer.sendStreamTrailer, ← closeReason]
  rcases hsend : writer.send (writer.options.trailerPacket (closeReason complete)) with
    ⟨_ | _, writer'⟩
  · rw [hsend] at hkept
    exact hkept
  · rw [hsend] at hkept
    cases complete with
    | false => exact hkept
    | true => exact hkept.trans (report_kept writer')

theorem sendClosingTrailer_spec {writer : Writer σ} {contents : List Bytes} {written : Nat}
    (h : Flowing writer contents) (hclosed : writer.closed = true)
    (hplain : writer.deflater = none →
      writer.bytesSent = UInt64.ofNat (delivered writer.engine.results contents))
    (hdeflated : writer.deflater ≠ none → writer.bytesSent.toNat = written) (complete : Bool) :
    ((writer.sendClosingTrailer complete).1 = false ∧
        Protocol (writer.sendClosingTrailer complete).2 contents [] written) ∨
      ((writer.sendClosingTrailer complete).1 =
          (writer.engine.results contents.length && complete) ∧
        Protocol (writer.sendClosingTrailer complete).2 contents [closeReason complete]
          written) := by
  have hframe := send_frame writer (writer.options.trailerPacket (closeReason complete))
  have hcases := sendStreamTrailer_spec h (closeReason complete)
  rw [Writer.sendClosingTrailer, ← closeReason]
  rw [Writer.sendStreamTrailer] at hcases ⊢
  generalize writer.send (writer.options.trailerPacket (closeReason complete)) = trailer
    at hframe hcases ⊢
  obtain ⟨sent, writer'⟩ := trailer
  dsimp only at hframe hcases
  have hplain' : writer'.deflater = none →
      writer'.bytesSent = UInt64.ofNat (delivered writer'.engine.results contents) := by
    rw [hframe.deflater, hframe.bytesSent, hframe.results]
    exact hplain
  have hdeflated' : writer'.deflater ≠ none → writer'.bytesSent.toNat = written := by
    rw [hframe.deflater, hframe.bytesSent]
    exact hdeflated
  have hclosed' := hframe.closed.trans hclosed
  rcases hcases with ⟨rfl, hhalted⟩ | ⟨rfl, htrailed⟩
  · exact .inl ⟨rfl, hhalted.protocol hclosed' hplain' hdeflated'⟩
  · have hprotocol := htrailed.protocol hclosed' hplain' hdeflated'
    right
    cases writer.engine.results contents.length with
    | false => exact ⟨rfl, hprotocol⟩
    | true =>
      cases complete with
      | false => exact ⟨rfl, hprotocol⟩
      | true => exact ⟨rfl, hprotocol.report⟩

/-- `Close` of an open writer stops at a failure, or gives the trailer to the engine. -/
theorem closeInternal_spec {zlib : Zlib σ} {writer : Writer σ} {contents : List Bytes}
    {reasons : List String} {written : Nat} (h : Protocol writer contents reasons written)
    (hopen : writer.closed = false) :
    ∃ contents',
      ((writer.closeInternal zlib).1 = false ∧
          Protocol (writer.closeInternal zlib).2 contents' [] written) ∨
        ((writer.closeInternal zlib).1 =
            (writer.engine.results contents'.length && writer.complete) ∧
          writer.engine.sent.length ≤ contents'.length ∧
          Protocol (writer.closeInternal zlib).2 contents' [closeReason writer.complete]
            written) := by
  have hflowing := (h.flowing hopen).2
  have hflowing' : Flowing { writer with closed := true } contents := hflowing.congr rfl rfl rfl
  obtain ⟨hkept, hbytes, hclosed⟩ := finishDeflate_kept zlib { writer with closed := true }
  have hcases := @finishDeflate_spec σ zlib _ _ hflowing'
  rw [Writer.closeInternal, if_neg (by simp [hopen])]
  generalize Writer.finishDeflate zlib { writer with closed := true } = finished
    at hkept hbytes hclosed hcases ⊢
  obtain ⟨result, writer'⟩ := finished
  dsimp only at hkept hbytes hclosed hcases
  have hdeflated : writer'.deflater ≠ none → writer'.bytesSent.toNat = written := by
    intro hsome
    rw [hbytes]
    exact h.deflated fun hnone => hsome (hkept.deflater.mpr hnone)
  rcases hcases with ⟨rfl, more, hflowing', hmore⟩ | ⟨rfl, hsome, contents', hhalted⟩
  · have hplain : writer'.deflater = none → writer'.bytesSent =
        UInt64.ofNat (delivered writer'.engine.results (contents ++ more)) := by
      intro hnone
      have hnone' := hkept.deflater.mp hnone
      rw [hmore hnone', List.append_nil, hbytes, hkept.results]
      exact h.plain hnone'
    have hlength : writer.engine.sent.length ≤ (contents ++ more).length := by
      rw [hflowing.sent, length_chunkPackets, List.length_append]
      omega
    have hcases := sendClosingTrailer_spec hflowing' hclosed hplain hdeflated writer.complete
    rw [hkept.results] at hcases
    refine ⟨contents ++ more, ?_⟩
    rcases hcases with hstopped | ⟨hresult, hprotocol⟩
    · exact .inl hstopped
    · exact .inr ⟨hresult, hlength, hprotocol⟩
  · refine ⟨contents', .inl ⟨rfl, ?_⟩⟩
    apply Halted.protocol hhalted hclosed
    · exact fun hnone => absurd (hkept.deflater.mp hnone) hsome
    · exact hdeflated

theorem Protocol.close {zlib : Zlib σ} {writer : Writer σ} {contents : List Bytes}
    {reasons : List String} {written : Nat} (h : Protocol writer contents reasons written) :
    ∃ contents' reasons', Protocol (writer.closeInternal zlib).2 contents' reasons' written := by
  by_cases hclosed : writer.closed = true
  · refine ⟨contents, reasons, ?_⟩
    rw [Writer.closeInternal, if_pos hclosed]
    exact h
  · obtain ⟨contents', hcases⟩ := closeInternal_spec h (Bool.not_eq_true _ ▸ hclosed)
    rcases hcases with ⟨-, hprotocol⟩ | ⟨-, -, hprotocol⟩
    · exact ⟨contents', [], hprotocol⟩
    · exact ⟨contents', [_], hprotocol⟩

/-- `Cancel` of an open writer sends a trailer with a reason, or none. -/
theorem Protocol.cancel_of_open {writer : Writer σ} {contents : List Bytes}
    {reasons : List String} {written : Nat} (h : Protocol writer contents reasons written)
    (hopen : writer.closed = false) (reason : String) :
    ∃ reasons', Protocol (writer.cancelInternal reason).2 contents reasons' written ∧
      "" ∉ reasons' := by
  rw [Writer.cancelInternal, if_neg (by simp [hopen])]
  have hreason : "" ≠ if reason = "" then "cancelled" else reason := by
    split
    · decide
    · rename_i hne
      exact Ne.symm hne
  have hflowing : Flowing { writer with closed := true } contents :=
    (h.flowing hopen).2.congr rfl rfl rfl
  have hframe := send_frame { writer with closed := true }
    (writer.options.trailerPacket (if reason = "" then "cancelled" else reason))
  have hcases := sendStreamTrailer_spec hflowing (if reason = "" then "cancelled" else reason)
  rw [Writer.sendStreamTrailer] at hcases ⊢
  generalize Writer.send { writer with closed := true }
    (writer.options.trailerPacket (if reason = "" then "cancelled" else reason)) = trailer
    at hframe hcases ⊢
  have hplain : trailer.2.deflater = none → trailer.2.bytesSent =
      UInt64.ofNat (delivered trailer.2.engine.results contents) := by
    rw [hframe.deflater, hframe.bytesSent, hframe.results]
    exact h.plain
  have hdeflated : trailer.2.deflater ≠ none → trailer.2.bytesSent.toNat = written := by
    rw [hframe.deflater, hframe.bytesSent]
    exact h.deflated
  rcases hcases with ⟨-, hhalted⟩ | ⟨-, htrailed⟩
  · exact ⟨[], hhalted.protocol hframe.closed hplain hdeflated, List.not_mem_nil⟩
  · refine ⟨[_], htrailed.protocol hframe.closed hplain hdeflated, ?_⟩
    rw [List.mem_singleton]
    exact hreason

theorem Protocol.cancel {writer : Writer σ} {contents : List Bytes} {reasons : List String}
    {written : Nat} (h : Protocol writer contents reasons written) (reason : String) :
    ∃ contents' reasons', Protocol (writer.cancelInternal reason).2 contents' reasons' written := by
  by_cases hclosed : writer.closed = true
  · rw [Writer.cancelInternal, if_pos hclosed]
    exact ⟨contents, reasons, h⟩
  · obtain ⟨reasons', hprotocol, -⟩ := h.cancel_of_open (Bool.not_eq_true _ ▸ hclosed) reason
    exact ⟨contents, reasons', hprotocol⟩

/-! ## 4. Whole runs -/

theorem Protocol.apply {zlib : Zlib σ} {writer : Writer σ} {contents : List Bytes}
    {reasons : List String} {written : Nat} (h : Protocol writer contents reasons written)
    (op : Op) :
    ∃ contents' reasons', Protocol (writer.apply zlib op).2 contents' reasons'
      (written + op.written (writer.apply zlib op).1) := by
  cases op with
  | write data => exact h.write data
  | close => exact h.close
  | cancel reason => exact h.cancel reason
  | destroy => exact h.cancel _
  | invalidate =>
    refine ⟨contents, reasons, h.sent, h.one, h.succeeded, ?_, h.plain, h.deflated⟩
    intro hopen
    obtain ⟨hnone, hflowing⟩ := h.flowing hopen
    exact ⟨hnone, hflowing.sent, hflowing.succeeded, hflowing.next⟩

theorem Protocol.run {zlib : Zlib σ} {writer : Writer σ} {contents : List Bytes}
    {reasons : List String} {written : Nat} (h : Protocol writer contents reasons written)
    (ops : List Op) :
    ∃ contents' reasons', Protocol (writer.run zlib ops) contents' reasons'
      (written + writer.written zlib ops) := by
  induction ops generalizing writer contents reasons written with
  | nil => exact ⟨contents, reasons, h⟩
  | cons op rest ih =>
    obtain ⟨contents', reasons', hprotocol⟩ := h.apply op
    rw [Writer.written, ← Nat.add_assoc]
    exact ih hprotocol

theorem writeBytes_kept (zlib : Zlib σ) (writer : Writer σ) (data : Bytes) :
    Kept writer (writer.writeBytes zlib data).2 := by
  rw [Writer.writeBytes]
  split
  · exact .refl writer
  split
  · rename_i deflater hdeflater
    rw [Writer.writeDeflated]
    split
    · exact .refl writer
    split
    · exact ⟨rfl, rfl, .rfl⟩
    split
    · exact ⟨rfl, rfl, by simp [hdeflater]⟩
    rename_i output deflater' hwrite
    have hstart : Kept writer { writer with deflater := some deflater' } :=
      ⟨rfl, rfl, by simp [hdeflater]⟩
    have hkept := hstart.trans (sendChunks_frame { writer with deflater := some deflater' }
      (pieces writer.options.chunkSize output)).kept
    rcases hsend : Writer.sendBytes { writer with deflater := some deflater' } output with
      ⟨_ | _, writer'⟩
    · rw [Writer.sendBytes] at hsend
      rw [hsend] at hkept
      exact ⟨hkept.options, hkept.results, hkept.deflater⟩
    · rw [Writer.sendBytes] at hsend
      rw [hsend] at hkept
      have hreport := report_kept
        { writer' with bytesSent := writer'.bytesSent + UInt64.ofNat data.length }
      exact hkept.trans ⟨hreport.options, hreport.results, hreport.deflater⟩
  · have hkept := writeLoop_kept data.length writer data
    rcases hloop : writer.writeLoop data.length data with ⟨_ | _, writer'⟩
    · rw [hloop] at hkept
      exact hkept
    · rw [hloop] at hkept
      exact hkept.trans (report_kept writer')

theorem apply_kept (zlib : Zlib σ) (writer : Writer σ) (op : Op) :
    Kept writer (writer.apply zlib op).2 := by
  have hcancel : ∀ reason, Kept writer (writer.cancelInternal reason).2 := by
    intro reason
    rw [Writer.cancelInternal]
    split
    · exact .refl writer
    · have hkept := (send_frame { writer with closed := true } (writer.options.trailerPacket
        (if reason = "" then "cancelled" else reason))).kept
      exact ⟨hkept.options, hkept.results, hkept.deflater⟩
  cases op with
  | write data => exact writeBytes_kept zlib writer data
  | close =>
    rw [Writer.apply, Writer.closeInternal]
    split
    · exact .refl writer
    · have hkept := (finishDeflate_kept zlib { writer with closed := true }).1
      rcases hfinish : Writer.finishDeflate zlib { writer with closed := true } with
        ⟨_ | _, writer'⟩
      · rw [hfinish] at hkept
        exact ⟨hkept.options, hkept.results, hkept.deflater⟩
      · rw [hfinish] at hkept
        have htrailer := sendClosingTrailer_kept writer' writer.complete
        exact ⟨htrailer.options.trans hkept.options, htrailer.results.trans hkept.results,
          htrailer.deflater.trans hkept.deflater⟩
  | cancel reason => exact hcancel reason
  | destroy => exact hcancel _
  | invalidate => exact ⟨rfl, rfl, .rfl⟩

theorem run_kept (zlib : Zlib σ) (writer : Writer σ) (ops : List Op) :
    Kept writer (writer.run zlib ops) := by
  induction ops generalizing writer with
  | nil => exact .refl writer
  | cons op rest ih => exact (apply_kept zlib writer op).trans (ih _)

/-- The packet was given to the engine between the two states, and sent. -/
def Sends (writer writer' : Writer σ) (packet : Packet) : Prop :=
  ∃ i, writer.engine.sent.length ≤ i ∧ writer'.engine.sent[i]? = some packet ∧
    writer'.engine.results i = true

theorem getElem?_chunkPackets_ne (options : WriterOptions) (contents : List Bytes)
    (reason : String) (i : Nat) :
    (chunkPackets options contents)[i]? ≠ some (options.trailerPacket reason) := by
  intro hsome
  exact trailerPacket_notMem_chunkPackets options contents reason (List.mem_of_getElem? hsome)

/-- A trailer among the packets is the one after the chunks. -/
theorem getElem?_trailer {options : WriterOptions} {contents : List Bytes} {reason other : String}
    {i : Nat} (hsome : (chunkPackets options contents ++ [options.trailerPacket reason])[i]? =
      some (options.trailerPacket other)) : i = contents.length ∧ other = reason := by
  rcases Nat.lt_trichotomy i contents.length with hi | hi | hi
  · rw [List.getElem?_append_left (by rwa [length_chunkPackets])] at hsome
    exact absurd hsome (getElem?_chunkPackets_ne options contents other i)
  · refine ⟨hi, ?_⟩
    rw [hi, List.getElem?_append_right (Nat.le_of_eq (length_chunkPackets ..)), length_chunkPackets,
      Nat.sub_self] at hsome
    simpa [WriterOptions.trailerPacket, WriterOptions.packet, eq_comm] using hsome
  · rw [List.getElem?_eq_none] at hsome
    · cases hsome
    · rw [List.length_append, length_chunkPackets, List.length_singleton]
      omega

/-- `Close` returns true exactly when it sends a trailer without a reason, and then what
    was written is what was declared. -/
theorem close_sends {zlib : Zlib σ} {writer : Writer σ} {contents : List Bytes}
    {reasons : List String} {written : Nat} (h : Protocol writer contents reasons written) :
    ((writer.closeInternal zlib).1 = true ↔
      Sends writer (writer.closeInternal zlib).2 (writer.options.trailerPacket "")) ∧
    ((writer.closeInternal zlib).1 = true → writer.complete = true) := by
  have hkept := apply_kept zlib writer .close
  rw [Writer.apply] at hkept
  by_cases hclosed : writer.closed = true
  · rw [Writer.closeInternal, if_pos hclosed]
    refine ⟨⟨nofun, ?_⟩, nofun⟩
    rintro ⟨i, hi, hsome, -⟩
    rw [List.getElem?_eq_none hi] at hsome
    cases hsome
  · obtain ⟨contents', hcases⟩ := @closeInternal_spec σ zlib _ _ _ _ h (Bool.not_eq_true _ ▸ hclosed)
    rcases hcases with ⟨hresult, hprotocol⟩ | ⟨hresult, hlength, hprotocol⟩
    · refine ⟨⟨fun htrue => ?_, ?_⟩, fun htrue => ?_⟩
      · simp [hresult] at htrue
      · rintro ⟨i, -, hsome, -⟩
        rw [hprotocol.sent, List.map_nil, List.append_nil, ← hkept.options] at hsome
        exact absurd hsome (getElem?_chunkPackets_ne _ contents' "" i)
      · simp [hresult] at htrue
    · rw [hresult, Bool.and_eq_true]
      refine ⟨⟨?_, ?_⟩, fun htrue => htrue.2⟩
      · rintro ⟨hsucceeded, hcomplete⟩
        refine ⟨contents'.length, hlength, ?_, ?_⟩
        · rw [hprotocol.sent, hkept.options, closeReason, if_pos hcomplete, List.map_singleton,
            List.getElem?_append_right (Nat.le_of_eq (length_chunkPackets ..)), length_chunkPackets,
            Nat.sub_self]
          rfl
        · rw [hkept.results]
          exact hsucceeded
      · rintro ⟨i, -, hsome, hsucceeded⟩
        rw [hprotocol.sent, ← hkept.options, List.map_singleton] at hsome
        obtain ⟨rfl, hreason⟩ := getElem?_trailer hsome
        rw [hkept.results] at hsucceeded
        refine ⟨hsucceeded, ?_⟩
        rw [closeReason] at hreason
        by_contra hincomplete
        rw [if_neg hincomplete] at hreason
        simp at hreason

/-- **The wire protocol of a writer**: after any calls, with any failures, the packets are
    chunks counted from zero (in 64 bits) and at most one trailer after them, all of them
    sent but perhaps the last; `bytesSent` is the size of the chunks sent (in 64 bits), or,
    compressed, of the writes that returned true; and `Close` returns true exactly when it
    sends a trailer without a reason, which it does only if what was declared was sent. -/
theorem wire_protocol (zlib : Zlib σ) (options : WriterOptions) (compress : Bool)
    (results : Nat → Bool) (ops : List Op) :
    (∃ (contents : List Bytes) (reasons : List String),
      ((Writer.new zlib options compress results).run zlib ops).engine.sent =
          chunkPackets options contents ++ reasons.map options.trailerPacket ∧
        reasons.length ≤ 1 ∧
        (∀ i, i + 1 <
            ((Writer.new zlib options compress results).run zlib ops).engine.sent.length →
          results i = true) ∧
        (compress = false →
          ((Writer.new zlib options compress results).run zlib ops).bytesSent =
            UInt64.ofNat (delivered results contents))) ∧
    (compress = true →
      ((Writer.new zlib options compress results).run zlib ops).bytesSent.toNat =
        (Writer.new zlib options compress results).written zlib ops) ∧
    ((((Writer.new zlib options compress results).run zlib ops).closeInternal zlib).1 = true ↔
      Sends ((Writer.new zlib options compress results).run zlib ops)
        (((Writer.new zlib options compress results).run zlib ops).closeInternal zlib).2
        (options.trailerPacket "")) ∧
    (Sends ((Writer.new zlib options compress results).run zlib ops)
        (((Writer.new zlib options compress results).run zlib ops).closeInternal zlib).2
        (options.trailerPacket "") →
      ∀ total, options.totalSize = some total →
        ((Writer.new zlib options compress results).run zlib ops).bytesSent = total) := by
  obtain ⟨contents, reasons, hprotocol⟩ :=
    (protocol_new zlib options compress results).run ops
  have hkept := run_kept zlib (Writer.new zlib options compress results) ops
  rw [Nat.zero_add] at hprotocol
  generalize (Writer.new zlib options compress results).run zlib ops = writer at hprotocol hkept ⊢
  have hoptions : writer.options = options := hkept.options
  have hresults : writer.engine.results = results := hkept.results
  have hdeflater : writer.deflater = none ↔ compress = false := by
    rw [hkept.deflater]
    cases compress <;> simp [Writer.new]
  obtain ⟨hsends, hcomplete⟩ := @close_sends σ zlib _ _ _ _ hprotocol
  rw [hoptions] at hsends
  refine ⟨⟨contents, reasons, ?_, hprotocol.one, ?_, ?_⟩, ?_, hsends, ?_⟩
  · rw [hprotocol.sent, hoptions]
  · rw [← hresults]
    exact hprotocol.succeeded
  · intro hplain
    rw [← hresults]
    exact hprotocol.plain (hdeflater.mpr hplain)
  · intro hcompress
    apply hprotocol.deflated
    rw [ne_eq, hdeflater]
    simp [hcompress]
  · intro hsent total htotal
    have hall := hcomplete (hsends.mpr hsent)
    rw [Writer.complete, hoptions, htotal] at hall
    simpa using hall

/-! ### The index comes round -/

/-- The plain writer after `n` writes of one byte. -/
def afterBytes (n : Nat) : Writer Unit :=
  { Writer.new noZlib { streamId := "bytes-1" } false (fun _ => true) with
    engine := ⟨true, fun _ => true,
      chunkPackets { streamId := "bytes-1" } (List.replicate n [0])⟩
    nextChunk := UInt64.ofNat n
    bytesSent := UInt64.ofNat n }

theorem write_afterBytes (n : Nat) :
    ((afterBytes n).apply noZlib (.write [0])).2 = afterBytes (n + 1) := by
  have hnext : UInt64.ofNat n + 1 = UInt64.ofNat (n + 1) := by
    rw [UInt64.ofNat_add]
    rfl
  have hsent : chunkPackets { streamId := "bytes-1" } (List.replicate n [0]) ++
      [WriterOptions.chunkPacket { streamId := "bytes-1" } (UInt64.ofNat n) [0]] =
        chunkPackets { streamId := "bytes-1" } (List.replicate (n + 1) [0]) := by
    rw [List.replicate_succ', chunkPackets_append, List.length_replicate]
  have hloop : (afterBytes n).writeLoop 1 [0] = (true, afterBytes (n + 1)) := by
    have hcount : Writer.chunkCount (afterBytes n).options [0] = 1 := rfl
    rw [Writer.writeLoop, if_neg (by simp), hcount, if_neg (by decide)]
    have hchunk : (afterBytes n).sendChunk [0] = (true,
        { afterBytes n with
          engine := ⟨true, fun _ => true, (afterBytes n).engine.sent ++
            [WriterOptions.chunkPacket { streamId := "bytes-1" } (UInt64.ofNat n) [0]]⟩
          nextChunk := UInt64.ofNat n + 1 }) := rfl
    rw [show List.take 1 [0] = ([0] : Bytes) from rfl, hchunk]
    dsimp only
    rw [show (afterBytes n).engine.sent = chunkPackets { streamId := "bytes-1" }
      (List.replicate n [0]) from rfl, hsent, hnext]
    rw [show (afterBytes n).bytesSent = UInt64.ofNat n from rfl,
      show UInt64.ofNat 1 = 1 from rfl, hnext]
    rfl
  rw [Writer.apply, Writer.writeBytes, show (afterBytes n).closed = false from rfl,
    if_neg (by decide), show (afterBytes n).deflater = none from rfl]
  dsimp only
  rw [show List.length ([0] : Bytes) = 1 from rfl, hloop]
  rfl

theorem run_afterBytes (n : Nat) :
    (afterBytes 0).run noZlib (List.replicate n (.write [0])) = afterBytes n := by
  induction n with
  | zero => rfl
  | succ n ih =>
    rw [Writer.run] at ih ⊢
    rw [List.replicate_succ', List.foldl_append, ih]
    exact write_afterBytes n

/-- After `2 ^ 64` chunks the next one has index zero again. -/
theorem chunkIndex_comes_round :
    ¬ ∀ (ops : List Op) (i : Nat) (packet : Packet) (chunk : StreamChunk),
      ((Writer.new noZlib { streamId := "bytes-1" } false fun _ => true).run noZlib
          ops).engine.sent[i]? = some packet →
        packet.value = .streamChunk chunk → chunk.chunkIndex.toNat = i := by
  intro hall
  obtain ⟨n, hn⟩ : ∃ n, n = 2 ^ 64 := ⟨_, rfl⟩
  have hrun := run_afterBytes (n + 1)
  have hsent : (afterBytes (n + 1)).engine.sent[n]? =
      some (WriterOptions.chunkPacket { streamId := "bytes-1" } (UInt64.ofNat n) [0]) := by
    simp only [afterBytes]
    rw [List.replicate_succ', chunkPackets_append, List.length_replicate,
      List.getElem?_append_right (by simp)]
    simp
  have hindex := hall (List.replicate (n + 1) (.write [0])) n _ _
    (Eq.trans (congrArg (fun writer : Writer Unit => writer.engine.sent[n]?) hrun) hsent) rfl
  have hzero : (UInt64.ofNat n).toNat = 0 := by
    simp [hn]
  have hround : (UInt64.ofNat n).toNat = n := hindex
  omega

end LivekitClient.StreamWriter
