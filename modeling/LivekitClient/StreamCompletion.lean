/-
  LivekitClient/StreamCompletion.lean
  ===================================
  **How a stream of the C API ends** (`lk_text_stream_writer_*`,
  `lk_byte_stream_writer_*` and `NotifyDataStreamCompletion` in
  `src/capi/livekit.cpp`), over the writer of `StreamWriter`.

  The handle of a stream has the writer of the core and, if the application gave an
  `on_complete` callback, the state of its completion.  Every call that may end the
  stream decides from the result of the core whether to tell the application, and the
  first one that does is the only one.  That a writer which is closed has told the
  application is the invariant behind it.  What it was told is another matter: a write
  can be rejected and leave the writer open, and then the stream goes on after its end
  has been reported.
-/
import LivekitClient.CApi
import LivekitClient.Runs
import LivekitClient.StreamWriter

namespace LivekitClient.StreamCompletion

open Runs
open LivekitClient.CApi (Result)
open LivekitClient.DataPacket
open LivekitClient.DataStreamCompression
open LivekitClient.OutgoingDataStreams (Engine pieces)
open LivekitClient.StreamReassembly (noZlib)
open LivekitClient.StreamWriter

variable {σ : Type}

/-! ## 1. The handle -/

/-- `lk_data_stream_completion_status_t`. -/
inductive CompletionStatus where
  | completed
  | cancelled
  | failed
deriving DecidableEq

/-- `lk_data_stream_completion_t`: what the callback is told. -/
structure Completion where
  status : CompletionStatus
  streamId : String
  bytesSent : UInt64
  totalSize : Option UInt64
  reason : String
deriving DecidableEq

/-- `CDataStreamCompletionState`, with the calls of its callback. -/
structure CompletionState where
  streamId : String
  bytesSent : UInt64 := 0
  totalSize : Option UInt64
  notified : Bool := false
  calls : List Completion := []

/-- `UpdateDataStreamProgress`. -/
def CompletionState.updateDataStreamProgress (state : CompletionState)
    (report : UInt64 × Option UInt64) : CompletionState :=
  { state with bytesSent := report.1, totalSize := report.2 }

/-- `NotifyDataStreamCompletion`. -/
def CompletionState.notifyDataStreamCompletion (state : CompletionState)
    (status : CompletionStatus) (reason : String) : CompletionState :=
  if state.notified then state
  else
    { state with
      notified := true
      calls := state.calls ++ [⟨status, state.streamId, state.bytesSent, state.totalSize, reason⟩] }

/-- The texts in which the two kinds of streams differ. -/
structure StreamTexts where
  required : String
  writeFailed : String
  incomplete : String
  cancelFailed : String
  alreadyClosed : String

def textStreamTexts : StreamTexts where
  required := "writer and text are required"
  writeFailed := "failed to write text stream"
  incomplete := "text stream is already closed or incomplete"
  cancelFailed := "failed to cancel text stream"
  alreadyClosed := "text stream is already closed"

def byteStreamTexts : StreamTexts where
  required := "writer and data are required"
  writeFailed := "failed to write byte stream"
  incomplete := "byte stream is already closed or incomplete"
  cancelFailed := "failed to cancel byte stream"
  alreadyClosed := "byte stream is already closed"

/-- `lk_text_stream_writer` and `lk_byte_stream_writer`. -/
structure StreamWriterHandle (σ : Type) where
  texts : StreamTexts
  writer : Writer σ
  completion : Option CompletionState
  destroyed : Bool := false

namespace StreamWriterHandle

/-- The handle that a stream is opened with.  A completion state makes the writer report
    its progress, also where the application has no progress callback. -/
def openStream (zlib : Zlib σ) (texts : StreamTexts) (options : WriterOptions) (compress : Bool)
    (onComplete : Bool) (results : Nat → Bool) : StreamWriterHandle σ where
  texts := texts
  writer := .new zlib { options with onProgress := options.onProgress || onComplete } compress
    results
  completion :=
    if onComplete then some { streamId := options.streamId, totalSize := options.totalSize }
    else none

/-- `lk_room_stream_text`, once the options are accepted. -/
def roomStreamText (zlib : Zlib σ) (options : WriterOptions) (compress onComplete : Bool)
    (results : Nat → Bool) : StreamWriterHandle σ :=
  .openStream zlib textStreamTexts { options with preserveUtf8Boundaries := true } compress onComplete
    results

/-- `lk_room_stream_bytes`, once the options are accepted. -/
def roomStreamBytes (zlib : Zlib σ) (options : WriterOptions) (compress onComplete : Bool)
    (results : Nat → Bool) : StreamWriterHandle σ :=
  .openStream zlib byteStreamTexts { options with preserveUtf8Boundaries := false, version := 0 } compress
    onComplete results

/-- The writer after a call of the core; its reports of progress reach the completion. -/
def setWriter (handle : StreamWriterHandle σ) (writer : Writer σ) : StreamWriterHandle σ :=
  { handle with
    writer := writer
    completion := handle.completion.map fun state =>
      (writer.progress.drop handle.writer.progress.length).foldl
        CompletionState.updateDataStreamProgress state }

def notify (handle : StreamWriterHandle σ) (status : CompletionStatus) (reason : String) :
    StreamWriterHandle σ :=
  { handle with completion := handle.completion.map (·.notifyDataStreamCompletion status reason) }

/-- `lk_text_stream_writer_write` and `lk_byte_stream_writer_write`; `none` is a null pointer
    with a size. -/
def write (zlib : Zlib σ) (handle : StreamWriterHandle σ) :
    Option Bytes → Result × StreamWriterHandle σ
  | none => (.failure .invalidArgument handle.texts.required, handle)
  | some data =>
    match handle.writer.writeBytes zlib data with
    | (true, writer) => (.ok, handle.setWriter writer)
    | (false, writer) =>
      (.failure .operationFailed handle.texts.writeFailed,
        (handle.setWriter writer).notify .failed handle.texts.writeFailed)

/-- `lk_text_stream_writer_close` and `lk_byte_stream_writer_close`. -/
def close (zlib : Zlib σ) (handle : StreamWriterHandle σ) : Result × StreamWriterHandle σ :=
  match handle.writer.closeInternal zlib with
  | (true, writer) => (.ok, (handle.setWriter writer).notify .completed "")
  | (false, writer) =>
    (.failure .invalidState handle.texts.incomplete,
      (handle.setWriter writer).notify .failed handle.texts.incomplete)

/-- What `cancel` and `destroy` do with the core. -/
def cancelWriter (handle : StreamWriterHandle σ) (reason : String) :
    Bool × StreamWriterHandle σ :=
  match handle.writer.cancelInternal reason with
  | (true, writer) => (true, (handle.setWriter writer).notify .cancelled reason)
  | (false, writer) =>
    if writer.closed then
      (false, (handle.setWriter writer).notify .failed handle.texts.cancelFailed)
    else (false, handle.setWriter writer)

/-- `lk_text_stream_writer_cancel` and `lk_byte_stream_writer_cancel`. -/
def cancel (handle : StreamWriterHandle σ) (reason : Option String) :
    Result × StreamWriterHandle σ :=
  match handle.cancelWriter (reason.getD "cancelled") with
  | (true, handle) => (.ok, handle)
  | (false, handle) => (.failure .invalidState handle.texts.alreadyClosed, handle)

/-- `lk_text_stream_writer_destroy` and `lk_byte_stream_writer_destroy`; the destructor of the
    writer cancels once more. -/
def destroy (handle : StreamWriterHandle σ) : StreamWriterHandle σ :=
  let handle :=
    if handle.writer.closed then handle
    else (handle.cancelWriter "writer destroyed before close").2
  { handle.setWriter (handle.writer.cancelInternal "writer destroyed before close").2 with
    destroyed := true }

/-- The local participant is gone, and with it the engine to send with. -/
def invalidate (handle : StreamWriterHandle σ) : StreamWriterHandle σ :=
  { handle with
    writer := { handle.writer with engine := { handle.writer.engine with present := false } } }

/-- What the callback has been told. -/
def completions (handle : StreamWriterHandle σ) : List Completion :=
  handle.completion.elim [] (·.calls)

end StreamWriterHandle

inductive StreamKind where
  | text
  | byte

/-- A stream of either kind. -/
def StreamKind.roomStream (zlib : Zlib σ) (kind : StreamKind) (options : WriterOptions)
    (compress onComplete : Bool) (results : Nat → Bool) : StreamWriterHandle σ :=
  match kind with
  | .text => .roomStreamText zlib options compress onComplete results
  | .byte => .roomStreamBytes zlib options compress onComplete results

/-- The calls on a writer; `invalidate` is not one of them, but may come in between. -/
inductive Act where
  | write (data : Option Bytes)
  | close
  | cancel (reason : Option String)
  | destroy
  | invalidate

/-- A handle that is destroyed is not used any more. -/
def StreamWriterHandle.step (zlib : Zlib σ) (handle : StreamWriterHandle σ) (act : Act) :
    StreamWriterHandle σ :=
  if handle.destroyed then handle
  else
    match act with
    | .write data => (handle.write zlib data).2
    | .close => (handle.close zlib).2
    | .cancel reason => (handle.cancel reason).2
    | .destroy => handle.destroy
    | .invalidate => handle.invalidate

/-! ## 2. The writer behind the handle -/

theorem writeBytes_of_closed (zlib : Zlib σ) {writer : Writer σ} (hclosed : writer.closed = true)
    (data : Bytes) : writer.writeBytes zlib data = (false, writer) := by
  rw [Writer.writeBytes, if_pos hclosed]

theorem closeInternal_of_closed (zlib : Zlib σ) {writer : Writer σ}
    (hclosed : writer.closed = true) : writer.closeInternal zlib = (false, writer) := by
  rw [Writer.closeInternal, if_pos hclosed]

theorem cancelInternal_of_closed {writer : Writer σ} (hclosed : writer.closed = true)
    (reason : String) : writer.cancelInternal reason = (false, writer) := by
  rw [Writer.cancelInternal, if_pos hclosed]

theorem writeLoop_closed {fuel : Nat} {writer : Writer σ} {data : Bytes}
    (htrue : (writer.writeLoop fuel data).1 = true) :
    (writer.writeLoop fuel data).2.closed = writer.closed := by
  induction fuel generalizing writer data with
  | zero => rfl
  | succ fuel ih =>
    rw [Writer.writeLoop] at htrue ⊢
    split at htrue
    · rename_i hdata
      rw [if_pos hdata]
    rename_i hdata
    rw [if_neg hdata]
    split at htrue
    · cases htrue
    rename_i hcount
    rw [if_neg hcount]
    have hframe :=
      sendChunk_frame writer (data.take (Writer.chunkCount writer.options data))
    rcases hsend : writer.sendChunk (data.take (Writer.chunkCount writer.options data)) with
      ⟨_ | _, writer'⟩
    · rw [hsend] at htrue
      cases htrue
    · rw [hsend] at htrue hframe
      exact (ih htrue).trans hframe.closed

/-- A write that succeeds leaves the writer as open as it was. -/
theorem writeBytes_closed {zlib : Zlib σ} {writer : Writer σ} {data : Bytes}
    (htrue : (writer.writeBytes zlib data).1 = true) :
    (writer.writeBytes zlib data).2.closed = false := by
  by_cases hclosed : writer.closed = true
  · rw [writeBytes_of_closed zlib hclosed] at htrue
    cases htrue
  rw [Writer.writeBytes, if_neg hclosed] at htrue ⊢
  have hopen : writer.closed = false := Bool.not_eq_true _ ▸ hclosed
  split
  · rename_i deflater hdeflater
    rw [hdeflater] at htrue
    dsimp only at htrue
    rw [Writer.writeDeflated] at htrue ⊢
    split at htrue
    · cases htrue
    rename_i hsize
    rw [if_neg hsize]
    split at htrue
    · cases htrue
    rename_i hvalid
    rw [if_neg hvalid]
    split at htrue
    · cases htrue
    rename_i output deflater' hwrite
    have hframe := sendChunks_frame { writer with deflater := some deflater' }
      (pieces writer.options.chunkSize output)
    rcases hsend : Writer.sendBytes { writer with deflater := some deflater' } output with
      ⟨_ | _, writer'⟩
    · rw [hsend] at htrue
      cases htrue
    · rw [Writer.sendBytes] at hsend
      rw [hsend] at hframe
      dsimp only
      rw [report_closed]
      exact hframe.closed.trans hopen
  · rename_i hdeflater
    rw [hdeflater] at htrue
    dsimp only at htrue
    rcases hloop : writer.writeLoop data.length data with ⟨_ | _, writer'⟩
    · rw [hloop] at htrue
      cases htrue
    · have hsame := @writeLoop_closed σ data.length writer data (by rw [hloop])
      rw [hloop] at hsame
      dsimp only
      rw [report_closed]
      exact hsame.trans hopen

theorem cancelInternal_closed (writer : Writer σ) (reason : String) :
    (writer.cancelInternal reason).2.closed = true := by
  by_cases hclosed : writer.closed = true
  · rw [cancelInternal_of_closed hclosed]
    exact hclosed
  · rw [Writer.cancelInternal, if_neg hclosed]
    exact (send_frame _ _).closed

/-! ### When `Close` goes through -/

/-- The chunks that the end of the deflate stream gives, if it can be ended. -/
def lastContents (zlib : Zlib σ) (writer : Writer σ) : Option (List Bytes) :=
  match writer.deflater with
  | none => some []
  | some deflater =>
    match deflater.finish zlib with
    | (false, _, _) => none
    | (true, output, _) => some (pieces writer.options.chunkSize output)

/-- The next `count` packets are sent. -/
def GoesOut (writer : Writer σ) (count : Nat) : Prop :=
  writer.engine.present = true ∧
    ∀ i < count, writer.engine.results (writer.engine.sent.length + i) = true

/-- All that was declared has been written, and what `Close` has still to send goes out. -/
def Finishes (zlib : Zlib σ) (writer : Writer σ) : Prop :=
  writer.complete = true ∧
    ∃ contents, lastContents zlib writer = some contents ∧ GoesOut writer (contents.length + 1)

/-- A packet is sent if the engine is there and takes it. -/
theorem send_iff (writer : Writer σ) (packet : Packet) :
    (writer.send packet).1 = true ↔
      writer.engine.present = true ∧ writer.engine.results writer.engine.sent.length = true := by
  rw [Writer.send]
  split
  · rename_i hpresent
    simp [Engine.sendDataPacket, hpresent]
  · rename_i hpresent
    simp [hpresent]

theorem goesOut_succ (writer : Writer σ) (packet : Packet) (count : Nat) :
    GoesOut writer (count + 1) ↔
      (writer.send packet).1 = true ∧ GoesOut (writer.send packet).2 count := by
  rw [send_iff]
  constructor
  · rintro ⟨hpresent, hresults⟩
    refine ⟨⟨hpresent, hresults 0 (Nat.zero_lt_succ count)⟩, ?_⟩
    rw [Writer.send, if_pos hpresent]
    refine ⟨hpresent, ?_⟩
    intro i hi
    have hnext := hresults (i + 1) (by omega)
    simpa [Engine.sendDataPacket, Nat.add_assoc, Nat.add_comm 1 i] using hnext
  · rintro ⟨⟨hpresent, hfirst⟩, hrest⟩
    rw [Writer.send, if_pos hpresent] at hrest
    refine ⟨hpresent, ?_⟩
    intro i hi
    cases i with
    | zero => exact hfirst
    | succ i =>
      have hnext := hrest.2 i (by omega)
      simpa [Engine.sendDataPacket, Nat.add_assoc, Nat.add_comm 1 i] using hnext

/-- Chunks go out, and `more` packets after them. -/
theorem goesOut_add (writer : Writer σ) (contents : List Bytes) (more : Nat) :
    GoesOut writer (contents.length + more + 1) ↔
      (writer.sendChunks contents).1 = true ∧ GoesOut (writer.sendChunks contents).2 (more + 1) := by
  induction contents generalizing writer with
  | nil => simp [Writer.sendChunks]
  | cons content rest ih =>
    have hcount : (content :: rest).length + more + 1 = (rest.length + more + 1) + 1 := by
      rw [List.length_cons]
      omega
    have hnumber : GoesOut { writer with nextChunk := writer.nextChunk + 1 }
        (rest.length + more + 1 + 1) ↔ GoesOut writer (rest.length + more + 1 + 1) := Iff.rfl
    rw [hcount, ← hnumber, goesOut_succ _ (writer.options.chunkPacket writer.nextChunk content),
      ← Writer.sendChunk, ih, Writer.sendChunks]
    rcases hsend : writer.sendChunk content with ⟨_ | _, writer'⟩
    · simp
    · simp

/-- The trailer of `Close` goes out, and all was written. -/
theorem sendClosingTrailer_iff (writer : Writer σ) (complete : Bool) :
    (writer.sendClosingTrailer complete).1 = true ↔ complete = true ∧ GoesOut writer 1 := by
  rw [goesOut_succ writer (writer.options.trailerPacket
    (if complete then "" else "incomplete stream")), Writer.sendClosingTrailer,
    Writer.sendStreamTrailer]
  have hpresent := send_iff writer (writer.options.trailerPacket
    (if complete then "" else "incomplete stream"))
  rcases hsend : writer.send _ with ⟨_ | _, writer'⟩
  · simp
  · rw [hsend] at hpresent
    have hthere := (hpresent.mp rfl).1
    have hstays : writer'.engine.present = true := by
      rw [Writer.send, if_pos hthere] at hsend
      have hsame := congrArg (fun result => result.2.engine.present) hsend
      exact hsame.symm.trans hthere
    simp [GoesOut, hstays]

theorem finishDeflate_iff (zlib : Zlib σ) (writer : Writer σ) (more : Nat) :
    (writer.finishDeflate zlib).1 = true ∧ GoesOut (writer.finishDeflate zlib).2 (more + 1) ↔
      ∃ contents, lastContents zlib writer = some contents ∧
        GoesOut writer (contents.length + more + 1) := by
  rw [Writer.finishDeflate, lastContents]
  cases hdeflater : writer.deflater with
  | none => simp
  | some deflater =>
    rcases hfinish : deflater.finish zlib with ⟨_ | _, output, deflater'⟩
    · simp [hfinish]
    · simp only [hfinish, Option.some.injEq, exists_eq_left']
      exact (goesOut_add { writer with deflater := some deflater' }
        (pieces writer.options.chunkSize output) more).symm

theorem closeInternal_iff (zlib : Zlib σ) {writer : Writer σ} (hopen : writer.closed = false) :
    (writer.closeInternal zlib).1 = true ↔ Finishes zlib writer := by
  have hfinish := finishDeflate_iff zlib { writer with closed := true } 0
  have hlast : ∀ count, GoesOut { writer with closed := true } count ↔ GoesOut writer count :=
    fun _ => Iff.rfl
  have hcontents : lastContents zlib { writer with closed := true } = lastContents zlib writer :=
    rfl
  simp only [hlast, hcontents, Nat.add_zero] at hfinish
  rw [Writer.closeInternal, if_neg (by simp [hopen]), Finishes, ← hfinish]
  rcases Writer.finishDeflate zlib { writer with closed := true } with ⟨_ | _, writer'⟩
  · simp
  · rw [sendClosingTrailer_iff]
    simp

/-! ## 3. The callback is called once -/

section Callback

variable {handle : StreamWriterHandle σ}

/-- What the callback has been told, by its status. -/
def StreamWriterHandle.statuses (handle : StreamWriterHandle σ) : List CompletionStatus :=
  handle.completions.map (·.status)

/-- There is a callback, and `notified` says whether it has been called. -/
def Counted (handle : StreamWriterHandle σ) : Prop :=
  ∃ state, handle.completion = some state ∧ (state.notified = true ↔ state.calls ≠ [])

@[simp] theorem setWriter_writer (handle : StreamWriterHandle σ) (writer : Writer σ) :
    (handle.setWriter writer).writer = writer := rfl

@[simp] theorem setWriter_destroyed (handle : StreamWriterHandle σ) (writer : Writer σ) :
    (handle.setWriter writer).destroyed = handle.destroyed := rfl

@[simp] theorem notify_writer (handle : StreamWriterHandle σ) (status : CompletionStatus)
    (reason : String) : (handle.notify status reason).writer = handle.writer := rfl

@[simp] theorem notify_destroyed (handle : StreamWriterHandle σ) (status : CompletionStatus)
    (reason : String) : (handle.notify status reason).destroyed = handle.destroyed := rfl

/-- Progress is no call of the callback. -/
theorem foldl_updateDataStreamProgress (reports : List (UInt64 × Option UInt64))
    (state : CompletionState) :
    (reports.foldl CompletionState.updateDataStreamProgress state).calls = state.calls ∧
      (reports.foldl CompletionState.updateDataStreamProgress state).notified = state.notified := by
  induction reports generalizing state with
  | nil => exact ⟨rfl, rfl⟩
  | cons report reports ih => exact ih (state.updateDataStreamProgress report)

@[simp] theorem statuses_setWriter (handle : StreamWriterHandle σ) (writer : Writer σ) :
    (handle.setWriter writer).statuses = handle.statuses := by
  cases hcompletion : handle.completion with
  | none => simp [StreamWriterHandle.statuses, StreamWriterHandle.completions,
      StreamWriterHandle.setWriter, hcompletion]
  | some state =>
    simp [StreamWriterHandle.statuses, StreamWriterHandle.completions,
      StreamWriterHandle.setWriter, hcompletion, foldl_updateDataStreamProgress]

theorem Counted.setWriter (h : Counted handle) (writer : Writer σ) :
    Counted (handle.setWriter writer) := by
  obtain ⟨state, hcompletion, hnotified⟩ := h
  refine ⟨_, by rw [StreamWriterHandle.setWriter, hcompletion, Option.map_some], ?_⟩
  obtain ⟨hcalls, hsame⟩ := foldl_updateDataStreamProgress
    (writer.progress.drop handle.writer.progress.length) state
  rw [hcalls, hsame]
  exact hnotified

theorem Counted.notify (h : Counted handle) (status : CompletionStatus) (reason : String) :
    Counted (handle.notify status reason) := by
  obtain ⟨state, hcompletion, hnotified⟩ := h
  refine ⟨_, by rw [StreamWriterHandle.notify, hcompletion, Option.map_some], ?_⟩
  rw [CompletionState.notifyDataStreamCompletion]
  split
  · exact hnotified
  · simp

/-- Only the first call is made. -/
theorem Counted.statuses_notify (h : Counted handle) (status : CompletionStatus)
    (reason : String) : (handle.notify status reason).statuses =
      if handle.statuses = [] then [status] else handle.statuses := by
  obtain ⟨state, hcompletion, hnotified⟩ := h
  simp only [StreamWriterHandle.statuses, StreamWriterHandle.completions,
    StreamWriterHandle.notify, hcompletion, Option.map_some, Option.elim_some,
    CompletionState.notifyDataStreamCompletion, List.map_eq_nil_iff]
  by_cases htold : state.notified = true
  · rw [if_pos htold, if_neg (hnotified.mp htold)]
  · have hnone : state.calls = [] := by
      by_contra hsome
      exact htold (hnotified.mpr hsome)
    rw [if_neg htold, if_pos hnone, hnone]
    rfl

/-- The callback is called at most once, and no later than the writer is closed. -/
structure Told (handle : StreamWriterHandle σ) : Prop where
  counted : Counted handle
  one : handle.statuses.length ≤ 1
  closed : handle.writer.closed = true → handle.statuses ≠ []
  destroyed : handle.destroyed = true → handle.writer.closed = true

/-- A call that leaves the writer open need not tell anything. -/
theorem Told.setWriter (h : Told handle) {writer : Writer σ} (hopen : writer.closed = false)
    (hlive : handle.destroyed = false) : Told (handle.setWriter writer) where
  counted := h.counted.setWriter writer
  one := by
    rw [statuses_setWriter]
    exact h.one
  closed := by
    rw [setWriter_writer, hopen]
    exact nofun
  destroyed := by
    rw [setWriter_destroyed, hlive]
    exact nofun

/-- A call that tells how it ended may leave the writer closed. -/
theorem Told.setWriter_notify (h : Told handle) (writer : Writer σ)
    (hlive : handle.destroyed = false) (status : CompletionStatus) (reason : String) :
    Told ((handle.setWriter writer).notify status reason) := by
  have hcounted := h.counted.setWriter writer
  refine ⟨hcounted.notify status reason, ?_, ?_, ?_⟩
  · rw [hcounted.statuses_notify, statuses_setWriter]
    split
    · exact Nat.le_refl 1
    · exact h.one
  · intro _
    rw [hcounted.statuses_notify]
    split
    · exact List.cons_ne_nil _ _
    · assumption
  · rw [notify_destroyed, setWriter_destroyed, hlive]
    exact nofun

theorem Told.write (h : Told handle) (zlib : Zlib σ) (hlive : handle.destroyed = false)
    (data : Option Bytes) : Told (handle.write zlib data).2 := by
  cases data with
  | none => exact h
  | some data =>
    have hopen := @writeBytes_closed σ zlib handle.writer data
    rw [StreamWriterHandle.write]
    rcases hwrite : handle.writer.writeBytes zlib data with ⟨_ | _, writer⟩
    · exact h.setWriter_notify writer hlive _ _
    · rw [hwrite] at hopen
      exact h.setWriter (hopen rfl) hlive

theorem Told.close (h : Told handle) (zlib : Zlib σ) (hlive : handle.destroyed = false) :
    Told (handle.close zlib).2 := by
  rw [StreamWriterHandle.close]
  rcases handle.writer.closeInternal zlib with ⟨_ | _, writer⟩
  · exact h.setWriter_notify writer hlive _ _
  · exact h.setWriter_notify writer hlive _ _

/-- Whether or not the trailer of `Cancel` goes out, the writer is closed after it. -/
theorem cancelWriter_eq (handle : StreamWriterHandle σ) (reason : String) :
    handle.cancelWriter reason =
      if (handle.writer.cancelInternal reason).1 then
        (true, (handle.setWriter (handle.writer.cancelInternal reason).2).notify .cancelled reason)
      else
        (false, (handle.setWriter (handle.writer.cancelInternal reason).2).notify .failed
          handle.texts.cancelFailed) := by
  have hclosed := cancelInternal_closed handle.writer reason
  rw [StreamWriterHandle.cancelWriter]
  rcases hcancel : handle.writer.cancelInternal reason with ⟨_ | _, writer⟩
  · rw [hcancel] at hclosed
    simp only [if_pos hclosed]
    rfl
  · rfl

theorem Told.cancelWriter (h : Told handle) (hlive : handle.destroyed = false) (reason : String) :
    Told (handle.cancelWriter reason).2 := by
  rw [cancelWriter_eq]
  split
  · exact h.setWriter_notify _ hlive _ _
  · exact h.setWriter_notify _ hlive _ _

theorem cancel_eq (handle : StreamWriterHandle σ) (reason : Option String) :
    (handle.cancel reason).2 = (handle.cancelWriter (reason.getD "cancelled")).2 := by
  rw [StreamWriterHandle.cancel]
  rcases handle.cancelWriter (reason.getD "cancelled") with ⟨_ | _, handle'⟩ <;> rfl

theorem cancelWriter_closed (handle : StreamWriterHandle σ) (reason : String) :
    (handle.cancelWriter reason).2.writer.closed = true := by
  have hclosed := cancelInternal_closed handle.writer reason
  rw [cancelWriter_eq]
  split
  · exact hclosed
  · exact hclosed

theorem setWriter_self (handle : StreamWriterHandle σ) : handle.setWriter handle.writer = handle := by
  obtain ⟨texts, writer, completion, destroyed⟩ := handle
  simp [StreamWriterHandle.setWriter]

/-- `destroy` cancels an open writer; the destructor finds it closed. -/
theorem destroy_eq (handle : StreamWriterHandle σ) :
    handle.destroy =
      { (if handle.writer.closed then handle
          else (handle.cancelWriter "writer destroyed before close").2) with destroyed := true } := by
  have hclosed : (if handle.writer.closed then handle
      else (handle.cancelWriter "writer destroyed before close").2).writer.closed = true := by
    split
    · assumption
    · exact cancelWriter_closed handle _
  rw [StreamWriterHandle.destroy]
  dsimp only
  rw [cancelInternal_of_closed hclosed, setWriter_self]

theorem Told.destroy (h : Told handle) (hlive : handle.destroyed = false) :
    Told handle.destroy ∧ handle.destroy.writer.closed = true := by
  rw [destroy_eq]
  split
  · rename_i hclosed
    exact ⟨⟨h.counted, h.one, h.closed, fun _ => hclosed⟩, hclosed⟩
  · have htold := h.cancelWriter hlive "writer destroyed before close"
    have hclosed := cancelWriter_closed handle "writer destroyed before close"
    exact ⟨⟨htold.counted, htold.one, htold.closed, fun _ => hclosed⟩, hclosed⟩

theorem Told.step (h : Told handle) (zlib : Zlib σ) (act : Act) : Told (handle.step zlib act) := by
  unfold StreamWriterHandle.step
  split
  · exact h
  rename_i hdestroyed
  have hlive : handle.destroyed = false := Bool.not_eq_true _ ▸ hdestroyed
  cases act with
  | write data => exact h.write zlib hlive data
  | close => exact h.close zlib hlive
  | cancel reason =>
    dsimp only
    rw [cancel_eq]
    exact h.cancelWriter hlive _
  | destroy => exact (h.destroy hlive).1
  | invalidate => exact ⟨h.counted, h.one, h.closed, h.destroyed⟩

theorem Told.run (h : Told handle) (zlib : Zlib σ) (acts : List Act) :
    Told (acts.foldl (StreamWriterHandle.step zlib) handle) := by
  induction acts generalizing handle with
  | nil => exact h
  | cons act acts ih => exact ih (h.step zlib act)

theorem told_openStream (zlib : Zlib σ) (texts : StreamTexts) (options : WriterOptions)
    (compress : Bool) (results : Nat → Bool) :
    Told (.openStream zlib texts options compress true results) where
  counted := ⟨_, rfl, by simp⟩
  one := Nat.zero_le 1
  closed := nofun
  destroyed := nofun

end Callback

theorem told_roomStream (zlib : Zlib σ) (kind : StreamKind) (options : WriterOptions)
    (compress : Bool) (results : Nat → Bool) :
    Told (kind.roomStream zlib options compress true results) := by
  cases kind with
  | text => exact told_openStream ..
  | byte => exact told_openStream ..

/-- **The completion callback runs exactly once**: after any calls on a stream that was opened
    with one, under any failures, it has run at most once, and when the writer has been
    destroyed it has run. -/
theorem completion_once (zlib : Zlib σ) (kind : StreamKind) (options : WriterOptions)
    (compress : Bool) (results : Nat → Bool) (acts : List Act) :
    (acts.foldl (StreamWriterHandle.step zlib)
        (kind.roomStream zlib options compress true results)).completions.length ≤ 1 ∧
      ((acts ++ [Act.destroy]).foldl (StreamWriterHandle.step zlib)
        (kind.roomStream zlib options compress true results)).completions.length = 1 := by
  have hopened := told_roomStream zlib kind options compress results
  generalize kind.roomStream zlib options compress true results = handle at hopened ⊢
  have hbefore := hopened.run zlib acts
  have hafter := hbefore.step zlib .destroy
  have hlength : ∀ handle : StreamWriterHandle σ,
      handle.statuses.length = handle.completions.length := fun _ => List.length_map ..
  rw [List.foldl_append, List.foldl_cons, List.foldl_nil]
  refine ⟨hlength _ ▸ hbefore.one, ?_⟩
  have hclosed : ((acts.foldl (StreamWriterHandle.step zlib) handle).step zlib
      .destroy).writer.closed = true := by
    unfold StreamWriterHandle.step
    split
    · rename_i hdestroyed
      exact hbefore.destroyed hdestroyed
    · rename_i hlive
      exact (hbefore.destroy (Bool.not_eq_true _ ▸ hlive)).2
  have hsome := List.length_pos_of_ne_nil (hafter.closed hclosed)
  have hone := hafter.one
  rw [← hlength]
  omega

/-! ## 4. What the callback is told -/

/-- A trailer with this reason was given to the engine, and sent. -/
def TrailerSent (writer : Writer σ) (reason : String) : Prop :=
  ∃ i : Nat, writer.engine.sent[i]? = some (writer.options.trailerPacket reason) ∧
    writer.engine.results i = true

/-- The stream is reported as completed if and only if it was ended without a reason. -/
def Truthful (handle : StreamWriterHandle σ) : Prop :=
  CompletionStatus.completed ∈ handle.statuses ↔ TrailerSent handle.writer ""

/-- The stream is reported as failed or cancelled. -/
def GivenUp (handle : StreamWriterHandle σ) : Prop :=
  CompletionStatus.failed ∈ handle.statuses ∨ CompletionStatus.cancelled ∈ handle.statuses

/-- An open writer whose end has been reported is not closed successfully. -/
def Heard (zlib : Zlib σ) (handle : StreamWriterHandle σ) : Act → Prop
  | .close =>
    handle.destroyed = false → handle.writer.closed = false → handle.statuses ≠ [] →
      ¬ Finishes zlib handle.writer
  | _ => True

section Trailers

variable {writer : Writer σ} {contents : List Bytes} {reasons : List String} {written : Nat}

theorem not_trailerSent (h : Protocol writer contents reasons written) (hnot : "" ∉ reasons) :
    ¬ TrailerSent writer "" := by
  rintro ⟨i, hsome, -⟩
  have hone := h.one
  rw [h.sent] at hsome
  rcases reasons with _ | ⟨reason, _ | ⟨other, rest⟩⟩
  · rw [List.map_nil, List.append_nil] at hsome
    exact getElem?_chunkPackets_ne _ contents "" i hsome
  · rw [List.map_singleton] at hsome
    exact hnot (List.mem_singleton.mpr (getElem?_trailer hsome).2)
  · simp at hone

theorem not_trailerSent_of_open (h : Protocol writer contents reasons written)
    (hopen : writer.closed = false) : ¬ TrailerSent writer "" := by
  apply not_trailerSent h
  rw [(h.flowing hopen).1]
  exact List.not_mem_nil

/-- `Close` of an open writer returns true exactly when it ends the stream without a reason. -/
theorem closeInternal_iff_trailerSent (zlib : Zlib σ)
    (h : Protocol writer contents reasons written) (hopen : writer.closed = false) :
    (writer.closeInternal zlib).1 = true ↔ TrailerSent (writer.closeInternal zlib).2 "" := by
  have hkept := apply_kept zlib writer .close
  rw [Writer.apply] at hkept
  constructor
  · intro htrue
    obtain ⟨i, -, hsome, hresult⟩ := (close_sends h).1.mp htrue
    refine ⟨i, ?_, hresult⟩
    rw [hkept.options]
    exact hsome
  · intro htrailer
    obtain ⟨contents', ⟨-, hprotocol⟩ | ⟨hresult, -, hprotocol⟩⟩ :=
      @closeInternal_spec σ zlib _ _ _ _ h hopen
    · exact absurd htrailer (not_trailerSent hprotocol List.not_mem_nil)
    · by_cases hcomplete : writer.complete = true
      · obtain ⟨i, hsome, hsent⟩ := htrailer
        rw [hprotocol.sent, List.map_singleton] at hsome
        obtain ⟨rfl, -⟩ := getElem?_trailer hsome
        rw [hkept.results] at hsent
        rw [hresult, hsent, hcomplete]
        rfl
      · refine absurd htrailer (not_trailerSent hprotocol ?_)
        rw [closeReason, if_neg hcomplete]
        simp

end Trailers

section Truth

variable {handle : StreamWriterHandle σ}

structure Inv (handle : StreamWriterHandle σ) : Prop where
  told : Told handle
  protocol : ∃ contents reasons written, Protocol handle.writer contents reasons written
  truthful : Truthful handle

/-- What happens to an open writer is told truthfully, if the first report is still to come
    or is no longer that of a completed stream. -/
theorem Inv.setWriter_notify (h : Inv handle) (hlive : handle.destroyed = false)
    (hopen : handle.writer.closed = false) {writer : Writer σ}
    (hprotocol : ∃ contents reasons written, Protocol writer contents reasons written)
    {status : CompletionStatus} (reason : String)
    (htrailer : status = .completed ↔ TrailerSent writer "")
    (hfirst : status = .completed → handle.statuses = []) :
    Inv ((handle.setWriter writer).notify status reason) := by
  refine ⟨h.told.setWriter_notify writer hlive status reason, hprotocol, ?_⟩
  obtain ⟨contents, reasons, written, hbefore⟩ := h.protocol
  have hnone : CompletionStatus.completed ∉ handle.statuses := by
    intro hmem
    exact not_trailerSent_of_open hbefore hopen (h.truthful.mp hmem)
  rw [Truthful, (h.told.counted.setWriter writer).statuses_notify, statuses_setWriter,
    notify_writer, setWriter_writer, ← htrailer]
  split
  · rw [List.mem_singleton]
    exact eq_comm
  · rename_i hsome
    constructor
    · intro hmem
      exact absurd hmem hnone
    · intro hcompleted
      exact absurd (hfirst hcompleted) hsome

/-- On a closed writer everything has been said. -/
theorem Told.notify_of_closed (h : Told handle) (hclosed : handle.writer.closed = true)
    (status : CompletionStatus) (reason : String) :
    ((handle.setWriter handle.writer).notify status reason).statuses = handle.statuses := by
  rw [(h.counted.setWriter _).statuses_notify, statuses_setWriter, if_neg (h.closed hclosed)]

theorem Inv.notify_of_closed (h : Inv handle) (hlive : handle.destroyed = false)
    (hclosed : handle.writer.closed = true) (status : CompletionStatus) (reason : String) :
    Inv ((handle.setWriter handle.writer).notify status reason) := by
  refine ⟨h.told.setWriter_notify _ hlive status reason, h.protocol, ?_⟩
  rw [Truthful, h.told.notify_of_closed hclosed]
  exact h.truthful

theorem Inv.write (h : Inv handle) (zlib : Zlib σ) (hlive : handle.destroyed = false)
    (data : Option Bytes) : Inv (handle.write zlib data).2 := by
  cases data with
  | none => exact h
  | some data =>
    rw [StreamWriterHandle.write]
    by_cases hclosed : handle.writer.closed = true
    · rw [writeBytes_of_closed zlib hclosed]
      exact h.notify_of_closed hlive hclosed _ _
    have hopen : handle.writer.closed = false := Bool.not_eq_true _ ▸ hclosed
    obtain ⟨contents, reasons, written, hprotocol⟩ := h.protocol
    obtain ⟨contents', hafter⟩ := @Protocol.write_of_open σ zlib _ _ _ _ hprotocol hopen data
    have hstays := @writeBytes_closed σ zlib handle.writer data
    rcases hwrite : handle.writer.writeBytes zlib data with ⟨_ | _, writer⟩
    · rw [hwrite] at hafter
      refine h.setWriter_notify hlive hopen ⟨_, _, _, hafter⟩ _ ?_ nofun
      exact ⟨nofun, fun htrailer => absurd htrailer (not_trailerSent hafter List.not_mem_nil)⟩
    · rw [hwrite] at hafter hstays
      refine ⟨h.told.setWriter (hstays rfl) hlive, ⟨_, _, _, hafter⟩, ?_⟩
      rw [Truthful, statuses_setWriter]
      constructor
      · intro hmem
        exact absurd (h.truthful.mp hmem) (not_trailerSent_of_open hprotocol hopen)
      · intro htrailer
        exact absurd htrailer (not_trailerSent hafter List.not_mem_nil)

theorem Inv.close (h : Inv handle) {zlib : Zlib σ} (hlive : handle.destroyed = false)
    (hheard : Heard zlib handle .close) : Inv (handle.close zlib).2 := by
  rw [StreamWriterHandle.close]
  by_cases hclosed : handle.writer.closed = true
  · rw [closeInternal_of_closed zlib hclosed]
    exact h.notify_of_closed hlive hclosed _ _
  have hopen : handle.writer.closed = false := Bool.not_eq_true _ ▸ hclosed
  obtain ⟨contents, reasons, written, hprotocol⟩ := h.protocol
  have hafter := @Protocol.close σ zlib _ _ _ _ hprotocol
  have htrailer := closeInternal_iff_trailerSent zlib hprotocol hopen
  have hfinishes := closeInternal_iff zlib hopen
  rcases hclose : handle.writer.closeInternal zlib with ⟨_ | _, writer⟩
  · rw [hclose] at hafter htrailer
    obtain ⟨contents', reasons', hafter⟩ := hafter
    refine h.setWriter_notify hlive hopen ⟨_, _, _, hafter⟩ _ ?_ nofun
    exact ⟨nofun, fun hsent => absurd (htrailer.mpr hsent) nofun⟩
  · rw [hclose] at hafter htrailer hfinishes
    obtain ⟨contents', reasons', hafter⟩ := hafter
    refine h.setWriter_notify hlive hopen ⟨_, _, _, hafter⟩ _ ?_ ?_
    · exact ⟨fun _ => htrailer.mp rfl, fun _ => rfl⟩
    · intro _
      by_contra hsome
      exact hheard hlive hopen hsome (hfinishes.mp rfl)

theorem Inv.cancelWriter (h : Inv handle) (hlive : handle.destroyed = false) (reason : String) :
    Inv (handle.cancelWriter reason).2 := by
  rw [cancelWriter_eq]
  by_cases hclosed : handle.writer.closed = true
  · rw [cancelInternal_of_closed hclosed]
    exact h.notify_of_closed hlive hclosed _ _
  have hopen : handle.writer.closed = false := Bool.not_eq_true _ ▸ hclosed
  obtain ⟨contents, reasons, written, hprotocol⟩ := h.protocol
  obtain ⟨reasons', hafter, hnot⟩ := hprotocol.cancel_of_open hopen reason
  have hnone := not_trailerSent hafter hnot
  split
  · refine h.setWriter_notify hlive hopen ⟨_, _, _, hafter⟩ _ ?_ nofun
    exact ⟨nofun, fun hsent => absurd hsent hnone⟩
  · refine h.setWriter_notify hlive hopen ⟨_, _, _, hafter⟩ _ ?_ nofun
    exact ⟨nofun, fun hsent => absurd hsent hnone⟩

theorem Inv.destroy (h : Inv handle) (hlive : handle.destroyed = false) : Inv handle.destroy := by
  have htold := (h.told.destroy hlive).1
  rw [destroy_eq] at htold ⊢
  by_cases hclosed : handle.writer.closed = true
  · rw [if_pos hclosed] at htold ⊢
    exact ⟨htold, h.protocol, h.truthful⟩
  · rw [if_neg hclosed] at htold ⊢
    have hafter := h.cancelWriter hlive "writer destroyed before close"
    exact ⟨htold, hafter.protocol, hafter.truthful⟩

theorem Inv.step (h : Inv handle) {zlib : Zlib σ} {act : Act} (hheard : Heard zlib handle act) :
    Inv (handle.step zlib act) := by
  have htold := h.told.step zlib act
  unfold StreamWriterHandle.step at htold ⊢
  split
  · exact h
  rename_i hdestroyed
  have hlive : handle.destroyed = false := Bool.not_eq_true _ ▸ hdestroyed
  cases act with
  | write data => exact h.write zlib hlive data
  | close => exact h.close hlive hheard
  | cancel reason =>
    dsimp only
    rw [cancel_eq]
    exact h.cancelWriter hlive _
  | destroy => exact h.destroy hlive
  | invalidate =>
    rw [if_neg hdestroyed] at htold
    obtain ⟨contents, reasons, written, hprotocol⟩ := h.protocol
    refine ⟨htold, ⟨contents, reasons, written, ?_⟩, h.truthful⟩
    refine ⟨hprotocol.sent, hprotocol.one, hprotocol.succeeded, ?_, hprotocol.plain,
      hprotocol.deflated⟩
    intro hopen
    obtain ⟨hnone, hflowing⟩ := hprotocol.flowing hopen
    exact ⟨hnone, hflowing.sent, hflowing.succeeded, hflowing.next⟩

/-- A successful close after the report is not told. -/
theorem Inv.heard_of_truthful (h : Inv handle) {zlib : Zlib σ} {act : Act}
    (hafter : Truthful (handle.step zlib act)) : Heard zlib handle act := by
  cases act with
  | close =>
    intro hlive hopen hsome hfinishes
    obtain ⟨contents, reasons, written, hprotocol⟩ := h.protocol
    have htrue := (closeInternal_iff zlib hopen).mpr hfinishes
    have htrailer := (closeInternal_iff_trailerSent zlib hprotocol hopen).mp htrue
    unfold StreamWriterHandle.step at hafter
    rw [if_neg (by simp [hlive])] at hafter
    dsimp only at hafter
    rw [StreamWriterHandle.close] at hafter
    rcases hclose : handle.writer.closeInternal zlib with ⟨_ | _, writer⟩
    · rw [hclose] at htrue
      cases htrue
    · rw [hclose] at hafter htrailer
      rw [Truthful, (h.told.counted.setWriter writer).statuses_notify, statuses_setWriter,
        if_neg hsome, notify_writer, setWriter_writer] at hafter
      exact not_trailerSent_of_open hprotocol hopen (h.truthful.mp (hafter.mpr htrailer))
  | _ => trivial

/-- The first report is the last one. -/
theorem Told.statuses_step (h : Told handle) (zlib : Zlib σ) (hsome : handle.statuses ≠ [])
    (act : Act) : (handle.step zlib act).statuses = handle.statuses := by
  have hnotify : ∀ writer status reason,
      ((handle.setWriter writer).notify status reason).statuses = handle.statuses := by
    intro writer status reason
    rw [(h.counted.setWriter writer).statuses_notify, statuses_setWriter, if_neg hsome]
  have hcancel : ∀ reason, (handle.cancelWriter reason).2.statuses = handle.statuses := by
    intro reason
    rw [cancelWriter_eq]
    split
    · exact hnotify _ _ _
    · exact hnotify _ _ _
  unfold StreamWriterHandle.step
  split
  · rfl
  cases act with
  | write data =>
    cases data with
    | none => rfl
    | some data =>
      dsimp only
      rw [StreamWriterHandle.write]
      rcases handle.writer.writeBytes zlib data with ⟨_ | _, writer⟩
      · exact hnotify _ _ _
      · exact statuses_setWriter handle writer
  | close =>
    dsimp only
    rw [StreamWriterHandle.close]
    rcases handle.writer.closeInternal zlib with ⟨_ | _, writer⟩
    · exact hnotify _ _ _
    · exact hnotify _ _ _
  | cancel reason =>
    dsimp only
    rw [cancel_eq]
    exact hcancel _
  | destroy =>
    dsimp only
    rw [destroy_eq]
    split
    · rfl
    · exact hcancel _
  | invalidate => rfl

theorem Told.statuses_run (h : Told handle) (zlib : Zlib σ) (hsome : handle.statuses ≠ [])
    (acts : List Act) :
    (acts.foldl (StreamWriterHandle.step zlib) handle).statuses = handle.statuses := by
  induction acts generalizing handle with
  | nil => rfl
  | cons act acts ih =>
    have hsame := h.statuses_step zlib hsome act
    rw [List.foldl_cons, ih (h.step zlib act) (hsame ▸ hsome), hsame]

/-- A stream that is given up is never reported as completed. -/
theorem Told.not_completed (h : Told handle) (hgiven : GivenUp handle) :
    handle.statuses ≠ [] ∧ CompletionStatus.completed ∉ handle.statuses := by
  have hone := h.one
  rw [GivenUp] at hgiven
  generalize handle.statuses = statuses at hone hgiven ⊢
  rcases statuses with _ | ⟨status, _ | ⟨other, rest⟩⟩
  · simp at hgiven
  · refine ⟨List.cons_ne_nil _ _, ?_⟩
    intro hcompleted
    rw [← List.mem_singleton.mp hcompleted] at hgiven
    simp at hgiven
  · simp at hone

theorem inv_roomStream (zlib : Zlib σ) (kind : StreamKind) (options : WriterOptions)
    (compress : Bool) (results : Nat → Bool) :
    Inv (kind.roomStream zlib options compress true results) := by
  have htold := told_roomStream zlib kind options compress results
  have hnone : ∀ writer : Writer σ, writer.engine.sent = [] → ¬ TrailerSent writer "" := by
    rintro writer hsent ⟨i, hsome, -⟩
    rw [hsent] at hsome
    cases hsome
  cases kind with
  | text =>
    refine ⟨htold, ⟨_, _, _, protocol_new zlib _ compress results⟩, nofun, ?_⟩
    exact fun htrailer => absurd htrailer (hnone _ rfl)
  | byte =>
    refine ⟨htold, ⟨_, _, _, protocol_new zlib _ compress results⟩, nofun, ?_⟩
    exact fun htrailer => absurd htrailer (hnone _ rfl)

end Truth

/-- **The completion status tells what happened on the wire**: a stream is reported as
    completed if and only if it was ended without a reason, and after any other report it is
    not, exactly in the runs in which no writer that is open although its end has been
    reported is closed successfully. -/
theorem completion_truthful_iff (zlib : Zlib σ) (kind : StreamKind) (options : WriterOptions)
    (compress : Bool) (results : Nat → Bool) (acts : List Act) :
    let opened := kind.roomStream zlib options compress true results
    let state := fun n => (acts.take n).foldl (StreamWriterHandle.step zlib) opened
    ((∀ n, Truthful (state n)) ∧
      ∀ n m, n ≤ m → GivenUp (state n) →
        ¬ Sends (state n).writer (state m).writer ((state m).writer.options.trailerPacket "")) ↔
      Along (Heard zlib) (StreamWriterHandle.step zlib) opened acts := by
  intro opened state
  have hopened : Inv opened := inv_roomStream zlib kind options compress results
  have htruthful : (∀ n, Truthful (state n)) ↔
      Along (Heard zlib) (StreamWriterHandle.step zlib) opened acts :=
    forall_take_iff_along (fun _ h => h.truthful) (fun _ _ h hheard => h.step hheard)
      (fun _ _ h hafter => h.heard_of_truthful hafter) hopened acts
  rw [← htruthful]
  refine ⟨And.left, fun htruth => ⟨htruth, ?_⟩⟩
  rintro n m hle hgiven ⟨i, -, hsome, hresult⟩
  have htold : Told (state n) := hopened.told.run zlib (acts.take n)
  obtain ⟨htold', hnot⟩ := htold.not_completed hgiven
  -- what is taken after `n` labels more is a run from the state after `n` labels
  have hsplit : state m = ((acts.take m).drop n).foldl (StreamWriterHandle.step zlib) (state n) := by
    have htake : acts.take n = (acts.take m).take n := by
      rw [List.take_take, Nat.min_eq_left hle]
    simp only [state]
    rw [htake, ← List.foldl_append, List.take_append_drop]
  have hsame : (state m).statuses = (state n).statuses := by
    rw [hsplit]
    exact htold.statuses_run zlib htold' _
  have hcompleted := (htruth m).mpr ⟨i, hsome, hresult⟩
  rw [hsame] at hcompleted
  exact hnot hcompleted

/-- A text stream with chunks of one byte, to which a character of two bytes is written. -/
def rejectedActs : List Act := [.write (some [0xc3, 0xa9]), .close]

def oneByteStream : StreamWriterHandle Unit :=
  StreamKind.roomStream noZlib .text { streamId := "S", chunkSize := 1 } false true fun _ => true

/-- The write is rejected and reported as the failure of the stream; the writer is still open,
    and `close` ends the stream without a reason. -/
theorem rejectedActs_complete :
    let rejected := (rejectedActs.take 1).foldl (StreamWriterHandle.step noZlib) oneByteStream
    let closed := rejectedActs.foldl (StreamWriterHandle.step noZlib) oneByteStream
    rejected.statuses = [.failed] ∧ closed.statuses = [.failed] ∧
      Sends rejected.writer closed.writer (closed.writer.options.trailerPacket "") ∧
      ¬ Truthful closed := by
  intro rejected closed
  have hstatuses : closed.statuses = [.failed] := by
    rfl
  have hsent : closed.writer.engine.sent[0]? = some (closed.writer.options.trailerPacket "") := by
    rfl
  refine ⟨rfl, hstatuses, ⟨0, Nat.zero_le _, hsent, rfl⟩, ?_⟩
  intro htruthful
  have hmem := htruthful.mpr ⟨0, hsent, rfl⟩
  rw [hstatuses] at hmem
  cases List.mem_singleton.mp hmem

end LivekitClient.StreamCompletion
