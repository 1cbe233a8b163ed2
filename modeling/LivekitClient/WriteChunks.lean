/-
  LivekitClient/WriteChunks.lean
  ==============================
  **What one `Write` sends** (the uncompressed branch of
  `OutgoingStreamWriterBase::WriteBytes` in `local_participant.cpp`).

  The loop cuts the data into chunks and sends them one after the other.  A text writer
  cuts before a byte that does not continue a character, and when it finds none within the
  chunk size it returns false.  Where the loop stops is a matter of the data alone, so the
  cuts are described first, and what is sent follows from them and from the sends that
  succeed.

  Valid text with room for a whole character in each chunk is always cut to its end.  In
  other data the loop can stop after it has sent something, and then the writer is neither
  closed nor as it was.
-/
import LivekitClient.StreamWriter
import LivekitClient.Utf8

namespace LivekitClient.WriteChunks

open LivekitClient.DataPacket
open LivekitClient.DataStreamCompression
open LivekitClient.StreamWriter
open LivekitClient.StreamReassembly (noZlib)

variable {σ : Type}

/-! ## 1. Where the data is cut -/

/-- The loop has cut `data` into `chunks` and has `rest` left. -/
inductive Cut (options : WriterOptions) : Bytes → List Bytes → Bytes → Prop where
  | start (data : Bytes) : Cut options data [] data
  | next {data : Bytes} {chunks : List Bytes} {rest : Bytes} : data ≠ [] →
      Writer.chunkCount options data ≠ 0 →
      Cut options (data.drop (Writer.chunkCount options data)) chunks rest →
      Cut options data (data.take (Writer.chunkCount options data) :: chunks) rest

/-- The loop finds no place to cut. -/
def Stuck (options : WriterOptions) (data : Bytes) : Prop :=
  data ≠ [] ∧ Writer.chunkCount options data = 0

/-- The cutting ends with the data, or where no cut is found. -/
theorem cut_exists (options : WriterOptions) (data : Bytes) :
    ∃ chunks rest, Cut options data chunks rest ∧ (rest = [] ∨ Stuck options rest) := by
  induction hlength : data.length using Nat.strong_induction_on generalizing data with
  | _ n ih =>
    by_cases hempty : data = []
    · exact ⟨[], data, .start data, Or.inl hempty⟩
    by_cases hcount : Writer.chunkCount options data = 0
    · exact ⟨[], data, .start data, Or.inr ⟨hempty, hcount⟩⟩
    · have hpos := List.length_pos_of_ne_nil hempty
      have hshorter : (data.drop (Writer.chunkCount options data)).length < n := by
        rw [List.length_drop]
        omega
      obtain ⟨chunks, rest, hcut, hend⟩ := ih _ hshorter _ rfl
      exact ⟨_, rest, .next hempty hcount hcut, hend⟩

theorem Cut.flatten {options : WriterOptions} {data rest : Bytes} {chunks : List Bytes}
    (h : Cut options data chunks rest) : chunks.flatten ++ rest = data := by
  induction h with
  | start data => rfl
  | next _ _ _ ih => rw [List.flatten_cons, List.append_assoc, ih, List.take_append_drop]

theorem chunkCount_le_chunkSize (options : WriterOptions) (data : Bytes) :
    Writer.chunkCount options data ≤ options.chunkSize := by
  rw [Writer.chunkCount]
  split
  · exact Nat.le_trans (backToBoundary_le data _) (Nat.min_le_left ..)
  · exact Nat.min_le_left ..

theorem Cut.sizes {options : WriterOptions} {data rest : Bytes} {chunks : List Bytes}
    (h : Cut options data chunks rest) :
    ∀ chunk ∈ chunks, chunk ≠ [] ∧ chunk.length ≤ options.chunkSize := by
  induction h with
  | start data =>
    intro chunk hmem
    exact absurd hmem List.not_mem_nil
  | @next data chunks rest hempty hcount hcut ih =>
    intro chunk hmem
    rcases List.mem_cons.1 hmem with rfl | hmem
    · constructor
      · intro hnil
        rcases List.take_eq_nil_iff.1 hnil with hzero | hdata
        · exact hcount hzero
        · exact hempty hdata
      · rw [List.length_take]
        exact Nat.le_trans (Nat.min_le_left ..) (chunkCount_le_chunkSize options data)
    · exact ih chunk hmem

/-! ## 2. Stepping back to a boundary -/

/-- The byte after the chunk, wherever the step back ends before the beginning. -/
theorem isContinuation_backToBoundary (data : Bytes) (count : Nat)
    (hne : Writer.backToBoundary data count ≠ 0) :
    Writer.isContinuation data[Writer.backToBoundary data count]? = false := by
  induction count with
  | zero => exact absurd rfl hne
  | succ count ih =>
    rw [Writer.backToBoundary] at hne ⊢
    split
    · next hcontinues =>
      rw [if_pos hcontinues] at hne
      exact ih hne
    · next hfirst => exact Bool.eq_false_iff.2 hfirst

/-- The bytes that were stepped over. -/
theorem isContinuation_of_backToBoundary_lt {data : Bytes} {count m : Nat}
    (hlt : Writer.backToBoundary data count < m) (hle : m ≤ count) :
    Writer.isContinuation data[m]? = true := by
  induction count with
  | zero => omega
  | succ count ih =>
    rw [Writer.backToBoundary] at hlt
    split at hlt
    · next hcontinues =>
      rcases Nat.lt_or_ge m (count + 1) with hbefore | hlast
      · exact ih hlt (Nat.lt_succ_iff.1 hbefore)
      · obtain rfl : m = count + 1 := Nat.le_antisymm hle hlast
        exact hcontinues
    · omega

/-- Behind `position` and before the end there is no place to cut for a whole chunk. -/
def NoBoundaryAfter (options : WriterOptions) (data : Bytes) (position : Nat) : Prop :=
  options.preserveUtf8Boundaries = true ∧ position + options.chunkSize < data.length ∧
    ∀ k, 1 ≤ k → k ≤ options.chunkSize → Writer.isContinuation data[position + k]? = true

theorem stuck_iff {options : WriterOptions} {data : Bytes} :
    Stuck options data ↔ NoBoundaryAfter options data 0 := by
  have hsize := options.chunkSize_pos
  constructor
  · rintro ⟨hempty, hcount⟩
    have hpos := List.length_pos_of_ne_nil hempty
    rw [Writer.chunkCount] at hcount
    split at hcount
    · next hboundaries =>
      have hless : options.chunkSize < data.length := by omega
      rw [Nat.min_eq_left (Nat.le_of_lt hless)] at hcount
      refine ⟨hboundaries.1, by omega, ?_⟩
      intro k hk hle
      rw [Nat.zero_add]
      apply isContinuation_of_backToBoundary_lt _ hle
      omega
    · omega
  · rintro ⟨hpreserve, hless, hrun⟩
    rw [Nat.zero_add] at hless
    have hempty : data ≠ [] := by
      apply List.ne_nil_of_length_pos
      omega
    refine ⟨hempty, ?_⟩
    rw [Writer.chunkCount, Nat.min_eq_left (Nat.le_of_lt hless), if_pos ⟨hpreserve, hless⟩]
    by_contra hne
    have hle := backToBoundary_le data options.chunkSize
    have hcontinues := hrun _ (Nat.one_le_iff_ne_zero.2 hne) hle
    rw [Nat.zero_add, isContinuation_backToBoundary data _ hne] at hcontinues
    exact Bool.false_ne_true hcontinues

/-- A cut is never behind such a place. -/
theorem chunkCount_le_of_noBoundaryAfter {options : WriterOptions} {data : Bytes}
    {position : Nat} (h : NoBoundaryAfter options data position) :
    Writer.chunkCount options data ≤ position := by
  obtain ⟨hpreserve, hless, hrun⟩ := h
  have hsize : options.chunkSize < data.length := by omega
  rw [Writer.chunkCount, Nat.min_eq_left (Nat.le_of_lt hsize), if_pos ⟨hpreserve, hsize⟩]
  by_contra hbehind
  have hle := backToBoundary_le data options.chunkSize
  have hne : Writer.backToBoundary data options.chunkSize ≠ 0 := by omega
  have hcontinues := hrun (Writer.backToBoundary data options.chunkSize - position)
    (by omega) (by omega)
  rw [show position + (Writer.backToBoundary data options.chunkSize - position) =
    Writer.backToBoundary data options.chunkSize from by omega,
    isContinuation_backToBoundary data _ hne] at hcontinues
  exact Bool.false_ne_true hcontinues

theorem noBoundaryAfter_drop {options : WriterOptions} {data : Bytes} {position n : Nat} :
    NoBoundaryAfter options (data.drop n) position ↔
      NoBoundaryAfter options data (n + position) := by
  have hsize := options.chunkSize_pos
  unfold NoBoundaryAfter
  simp only [List.getElem?_drop, List.length_drop, Nat.add_assoc]
  have hlength : position + options.chunkSize < data.length - n ↔
      n + (position + options.chunkSize) < data.length := by omega
  rw [hlength]

/-- The cutting stops early exactly in data with such a place. -/
theorem Cut.rest_ne_nil_iff {options : WriterOptions} {data rest : Bytes}
    {chunks : List Bytes} (h : Cut options data chunks rest)
    (hend : rest = [] ∨ Stuck options rest) :
    Stuck options rest ↔ ∃ position, NoBoundaryAfter options data position := by
  induction h with
  | start data =>
    constructor
    · intro hstuck
      exact ⟨0, stuck_iff.1 hstuck⟩
    · rintro ⟨position, hnone⟩
      rcases hend with rfl | hstuck
      · exact absurd hnone.2.1 (Nat.not_lt_zero _)
      · exact hstuck
  | @next data chunks rest hempty hcount hcut ih =>
    rw [ih hend]
    constructor
    · rintro ⟨position, hnone⟩
      exact ⟨_, noBoundaryAfter_drop.1 hnone⟩
    · rintro ⟨position, hnone⟩
      have hle := chunkCount_le_of_noBoundaryAfter hnone
      refine ⟨position - Writer.chunkCount options data, ?_⟩
      rw [noBoundaryAfter_drop, Nat.add_sub_cancel' hle]
      exact hnone

/-! ## 3. What the loop sends -/

/-- The packets of some chunks, counted from `index`. -/
def packetsFrom (options : WriterOptions) : UInt64 → List Bytes → List Packet
  | _, [] => []
  | index, chunk :: rest => options.chunkPacket index chunk :: packetsFrom options (index + 1) rest

/-- The next `count` packets are all sent. -/
def Delivers (writer : Writer σ) (count : Nat) : Prop :=
  ∀ i < count, writer.engine.present = true ∧
    writer.engine.results (writer.engine.sent.length + i) = true

/-- The writer after it has sent some chunks. -/
def afterChunks (writer : Writer σ) (chunks : List Bytes) : Writer σ :=
  { writer with
    engine :=
      { writer.engine with
        sent := writer.engine.sent ++ packetsFrom writer.options writer.nextChunk chunks }
    nextChunk := writer.nextChunk + UInt64.ofNat chunks.length
    bytesSent := writer.bytesSent + UInt64.ofNat chunks.flatten.length }

/-- The writer after one chunk that was sent. -/
def afterChunk (writer : Writer σ) (chunk : Bytes) : Writer σ :=
  { writer with
    engine :=
      { writer.engine with
        sent := writer.engine.sent ++ [writer.options.chunkPacket writer.nextChunk chunk] }
    nextChunk := writer.nextChunk + 1 }

theorem sendChunk_sent {writer : Writer σ} (hpresent : writer.engine.present = true)
    (hresult : writer.engine.results writer.engine.sent.length = true) (chunk : Bytes) :
    writer.sendChunk chunk = (true, afterChunk writer chunk) := by
  unfold Writer.sendChunk Writer.send
  dsimp only
  rw [if_pos hpresent]
  simp only [OutgoingDataStreams.Engine.sendDataPacket, hresult]
  rfl

theorem sendChunk_failed {writer : Writer σ}
    (hlost : ¬ (writer.engine.present = true ∧
      writer.engine.results writer.engine.sent.length = true)) (chunk : Bytes) :
    (writer.sendChunk chunk).1 = false := by
  unfold Writer.sendChunk Writer.send
  dsimp only
  by_cases hpresent : writer.engine.present = true
  · rw [if_pos hpresent]
    simp only [OutgoingDataStreams.Engine.sendDataPacket]
    exact Bool.eq_false_iff.2 fun hresult => hlost ⟨hpresent, hresult⟩
  · rw [if_neg hpresent]

theorem delivers_succ_iff {writer : Writer σ} {chunk : Bytes} {count : Nat}
    {bytes : UInt64} :
    Delivers writer (count + 1) ↔
      (writer.engine.present = true ∧
        writer.engine.results writer.engine.sent.length = true) ∧
      Delivers { afterChunk writer chunk with bytesSent := bytes } count := by
  unfold Delivers afterChunk
  simp only [List.length_append, List.length_singleton]
  constructor
  · intro h
    refine ⟨h 0 (Nat.succ_pos count), ?_⟩
    intro i hi
    have hnext := h (i + 1) (Nat.succ_lt_succ hi)
    rw [show writer.engine.sent.length + (i + 1) = writer.engine.sent.length + 1 + i from by
      omega] at hnext
    exact hnext
  · rintro ⟨hfirst, hrest⟩ i hi
    cases i with
    | zero => exact hfirst
    | succ i =>
      have hnext := hrest i (Nat.lt_of_succ_lt_succ hi)
      rw [show writer.engine.sent.length + 1 + i = writer.engine.sent.length + (i + 1) from by
        omega] at hnext
      exact hnext

theorem afterChunks_cons (writer : Writer σ) (chunk : Bytes) (chunks : List Bytes) :
    afterChunks
        { afterChunk writer chunk with
          bytesSent := writer.bytesSent + UInt64.ofNat chunk.length } chunks =
      afterChunks writer (chunk :: chunks) := by
  have hnext : writer.nextChunk + 1 + UInt64.ofNat chunks.length =
      writer.nextChunk + UInt64.ofNat (chunks.length + 1) := by
    rw [Nat.add_comm, UInt64.ofNat_add, ← UInt64.add_assoc]
    rfl
  have hbytes : writer.bytesSent + UInt64.ofNat chunk.length +
      UInt64.ofNat chunks.flatten.length =
      writer.bytesSent + UInt64.ofNat (chunk.length + chunks.flatten.length) := by
    rw [UInt64.ofNat_add, UInt64.add_assoc]
  simp only [afterChunks, afterChunk, packetsFrom, List.append_assoc, List.singleton_append,
    List.length_cons, List.flatten_cons, List.length_append, hnext, hbytes]

theorem afterChunks_nil (writer : Writer σ) : afterChunks writer [] = writer := by
  simp [afterChunks, packetsFrom]

/-- The loop sends the chunks of its data.  It returns true when they are all of it, false
    where no cut is found, and closes the writer when a packet is not sent. -/
theorem writeLoop_of_cut {options : WriterOptions} {data rest : Bytes} {chunks : List Bytes}
    (h : Cut options data chunks rest) (hend : rest = [] ∨ Stuck options rest)
    {writer : Writer σ} (hoptions : writer.options = options) {fuel : Nat}
    (hfuel : data.length ≤ fuel) :
    (Delivers writer chunks.length →
      writer.writeLoop fuel data = (decide (rest = []), afterChunks writer chunks)) ∧
    (¬ Delivers writer chunks.length →
      (writer.writeLoop fuel data).1 = false ∧ (writer.writeLoop fuel data).2.closed = true) := by
  induction h generalizing writer fuel with
  | start data =>
    constructor
    · intro _
      rw [afterChunks_nil]
      rcases hend with rfl | ⟨hempty, hcount⟩
      · cases fuel <;> rfl
      · cases fuel with
        | zero => exact absurd (List.eq_nil_of_length_eq_zero (Nat.le_zero.1 hfuel)) hempty
        | succ fuel =>
          rw [Writer.writeLoop, if_neg hempty, hoptions, if_pos hcount, decide_eq_false hempty]
    · intro hlost
      exact absurd (fun i hi => absurd hi (Nat.not_lt_zero i)) hlost
  | @next data chunks rest hempty hcount hcut ih =>
    cases fuel with
    | zero => exact absurd (List.eq_nil_of_length_eq_zero (Nat.le_zero.1 hfuel)) hempty
    | succ fuel =>
      have hlength : (data.take (Writer.chunkCount options data)).length =
          Writer.chunkCount options data :=
        List.length_take_of_le (chunkCount_le options data)
      have hdelivers := @delivers_succ_iff σ writer
        (data.take (Writer.chunkCount options data)) chunks.length
        (writer.bytesSent + UInt64.ofNat (data.take (Writer.chunkCount options data)).length)
      rw [Writer.writeLoop, if_neg hempty, hoptions, if_neg hcount, List.length_cons, hdelivers]
      by_cases hfirst : writer.engine.present = true ∧
          writer.engine.results writer.engine.sent.length = true
      · have hrest := @ih hend
          { afterChunk writer (data.take (Writer.chunkCount options data)) with
            bytesSent := writer.bytesSent +
              UInt64.ofNat (data.take (Writer.chunkCount options data)).length }
          hoptions fuel (by
            rw [List.length_drop]
            have hpos := List.length_pos_of_ne_nil hempty
            omega)
        rw [afterChunks_cons] at hrest
        rw [sendChunk_sent hfirst.1 hfirst.2]
        simp only [hfirst, and_self, true_and]
        rw [hlength] at hrest
        exact hrest
      · refine ⟨fun hall => absurd hall.1 hfirst, ?_⟩
        intro _
        have hfailed := sendChunk_failed hfirst (data.take (Writer.chunkCount options data))
        rcases hsend : writer.sendChunk (data.take (Writer.chunkCount options data)) with
          ⟨_ | _, writer'⟩
        · exact ⟨rfl, rfl⟩
        · rw [hsend] at hfailed
          exact absurd hfailed.symm Bool.false_ne_true

/-! ## 4. Rejected writes -/

/-- A write that returns false leaves the writer closed or as it was. -/
def AllOrNothing (zlib : Zlib σ) (writer : Writer σ) (data : Bytes) : Prop :=
  (writer.writeBytes zlib data).1 = false →
    (writer.writeBytes zlib data).2.closed = true ∨
    ((writer.writeBytes zlib data).2.nextChunk = writer.nextChunk ∧
      (writer.writeBytes zlib data).2.bytesSent = writer.bytesSent ∧
      (writer.writeBytes zlib data).2.engine.sent = writer.engine.sent)

theorem writeBytes_closed (zlib : Zlib σ) {writer : Writer σ} (hclosed : writer.closed = true)
    (data : Bytes) : writer.writeBytes zlib data = (false, writer) := by
  unfold Writer.writeBytes
  rw [if_pos hclosed]

/-- The result of the uncompressed branch is that of its loop. -/
theorem writeBytes_plain (zlib : Zlib σ) {writer : Writer σ} (hopen : writer.closed = false)
    (hplain : writer.deflater = none) (data : Bytes) :
    writer.writeBytes zlib data =
      ((writer.writeLoop data.length data).1,
        if (writer.writeLoop data.length data).1 then
          (writer.writeLoop data.length data).2.report
        else (writer.writeLoop data.length data).2) := by
  unfold Writer.writeBytes
  rw [if_neg (by rw [hopen]; exact Bool.false_ne_true), hplain]
  dsimp only
  rcases writer.writeLoop data.length data with ⟨_ | _, writer'⟩
  · rfl
  · rfl

/-- A compressed write is refused for its size, or its failure closes the writer. -/
theorem writeDeflated_allOrNothing (zlib : Zlib σ) (writer : Writer σ)
    (deflater : DeflateRawStream σ) (data : Bytes)
    (hfailed : (writer.writeDeflated zlib deflater data).1 = false) :
    (writer.writeDeflated zlib deflater data).2.closed = true ∨
      (writer.writeDeflated zlib deflater data).2 = writer := by
  rw [Writer.writeDeflated] at hfailed ⊢
  split at hfailed
  · next hsize =>
    rw [if_pos hsize]
    exact Or.inr rfl
  · next hsize =>
    rw [if_neg hsize]
    split at hfailed
    · next hinvalid =>
      rw [if_pos hinvalid]
      exact Or.inl rfl
    · next hvalid =>
      rw [if_neg hvalid]
      rcases hwrite : deflater.write zlib data with ⟨_ | _, output, deflater'⟩
      · exact Or.inl rfl
      · rw [hwrite] at hfailed
        dsimp only at hfailed ⊢
        rcases hsend : Writer.sendBytes { writer with deflater := some deflater' } output with
          ⟨_ | _, writer'⟩
        · exact Or.inl rfl
        · rw [hsend] at hfailed
          exact absurd hfailed.symm Bool.false_ne_true

/-- What the uncompressed branch does with data that is cut in a given way. -/
theorem writeBytes_of_cut (zlib : Zlib σ) {writer : Writer σ} (hopen : writer.closed = false)
    (hplain : writer.deflater = none) {data rest : Bytes} {chunks : List Bytes}
    (hcut : Cut writer.options data chunks rest)
    (hend : rest = [] ∨ Stuck writer.options rest) :
    (Delivers writer chunks.length → rest = [] →
      writer.writeBytes zlib data = (true, (afterChunks writer chunks).report)) ∧
    (Delivers writer chunks.length → rest ≠ [] →
      writer.writeBytes zlib data = (false, afterChunks writer chunks)) ∧
    (¬ Delivers writer chunks.length →
      (writer.writeBytes zlib data).1 = false ∧
        (writer.writeBytes zlib data).2.closed = true) := by
  obtain ⟨hsent, hlost⟩ := writeLoop_of_cut hcut hend rfl (Nat.le_refl data.length)
  rw [writeBytes_plain zlib hopen hplain]
  refine ⟨?_, ?_, ?_⟩
  · intro hdelivers hrest
    rw [hsent hdelivers, decide_eq_true hrest]
    rfl
  · intro hdelivers hrest
    rw [hsent hdelivers, decide_eq_false hrest]
    rfl
  · intro hfails
    obtain ⟨hfalse, hclosed⟩ := hlost hfails
    rw [hfalse]
    exact ⟨rfl, hclosed⟩

/-- A chunk that was sent shows. -/
theorem afterChunks_sent_ne {writer : Writer σ} {chunks : List Bytes} (hsome : chunks ≠ []) :
    (afterChunks writer chunks).engine.sent ≠ writer.engine.sent := by
  cases chunks with
  | nil => exact absurd rfl hsome
  | cons chunk chunks =>
    intro hsame
    have hlength := congrArg List.length hsame
    simp only [afterChunks, packetsFrom, List.length_append, List.length_cons] at hlength
    omega

/-- **When a rejected write is all or nothing.**  A text writer whose loop has sent a chunk
    and finds no place for the next cut leaves the chunk sent and the writer open. -/
theorem allOrNothing_iff (zlib : Zlib σ) (writer : Writer σ) (data : Bytes) :
    AllOrNothing zlib writer data ↔
      writer.closed = true ∨ writer.deflater ≠ none ∨
      NoBoundaryAfter writer.options data 0 ∨
      (∀ position, ¬ NoBoundaryAfter writer.options data position) ∨
      ∃ chunks rest, Cut writer.options data chunks rest ∧ Stuck writer.options rest ∧
        ¬ Delivers writer chunks.length := by
  obtain ⟨chunks, rest, hcut, hend⟩ := cut_exists writer.options data
  have hstuck := hcut.rest_ne_nil_iff hend
  constructor
  · intro hall
    by_contra hnone
    simp only [not_or, Bool.not_eq_true, ne_eq, not_not, not_forall, not_exists,
      not_and] at hnone
    obtain ⟨hopen, hplain, hfirst, ⟨position, hlater⟩, hdelivers⟩ := hnone
    have hrest := hstuck.2 ⟨position, hlater⟩
    have hresult := (writeBytes_of_cut zlib hopen hplain hcut hend).2.1
      (hdelivers chunks rest hcut hrest) hrest.1
    have hsome : chunks ≠ [] := by
      rintro rfl
      rcases hcut with _ | _
      exact hfirst (stuck_iff.1 hrest)
    unfold AllOrNothing at hall
    rw [hresult] at hall
    rcases hall rfl with hclosed | ⟨-, -, hsent⟩
    · exact absurd (hopen.symm.trans hclosed) Bool.false_ne_true
    · exact afterChunks_sent_ne hsome hsent
  · intro hcondition hfailed
    by_cases hclosed : writer.closed = true
    · rw [writeBytes_closed zlib hclosed]
      exact Or.inr ⟨rfl, rfl, rfl⟩
    rw [Bool.not_eq_true] at hclosed
    cases hplain : writer.deflater with
    | some deflater =>
      have hdeflated : writer.writeBytes zlib data =
          writer.writeDeflated zlib deflater data := by
        unfold Writer.writeBytes
        rw [hclosed, hplain]
        rfl
      rw [hdeflated] at hfailed ⊢
      rcases writeDeflated_allOrNothing zlib writer deflater data hfailed with hdone | hsame
      · exact Or.inl hdone
      · rw [hsame]
        exact Or.inr ⟨rfl, rfl, rfl⟩
    | none =>
      rcases hcondition with h | h | hfirst | hnever | ⟨chunks, rest, hcut, hrest, hlost⟩
      · exact absurd (hclosed.symm.trans h) Bool.false_ne_true
      · exact absurd hplain h
      · -- the first chunk already finds no place
        have hrest := stuck_iff.2 hfirst
        have hresult := (writeBytes_of_cut zlib hclosed hplain (.start data)
          (Or.inr hrest)).2.1 (fun i hi => absurd hi (Nat.not_lt_zero i)) hrest.1
        rw [hresult, afterChunks_nil]
        exact Or.inr ⟨rfl, rfl, rfl⟩
      · obtain ⟨hsent, -, hlost⟩ := writeBytes_of_cut zlib hclosed hplain hcut hend
        have hrest : rest = [] := by
          rcases hend with hnil | hrest
          · exact hnil
          · obtain ⟨position, hlater⟩ := hstuck.1 hrest
            exact absurd hlater (hnever position)
        by_cases hdelivers : Delivers writer chunks.length
        · rw [hsent hdelivers hrest] at hfailed
          exact absurd hfailed.symm Bool.false_ne_true
        · exact Or.inl (hlost hdelivers).2
      · exact Or.inl ((writeBytes_of_cut zlib hclosed hplain hcut (Or.inr hrest)).2.2 hlost).2

/-- A text writer with chunks of one byte. -/
def narrowWriter : Writer Unit :=
  .new noZlib
    { streamId := "s", chunkSize := 1, preserveUtf8Boundaries := true,
      chunkSize_pos := Nat.one_pos }
    false fun _ => true

/-- Of `aé` the first letter is sent, and the write returns false with the writer open. -/
theorem narrow_write_is_half_sent : ¬ AllOrNothing noZlib narrowWriter [0x61, 0xc3, 0xa9] := by
  intro hall
  rcases hall rfl with hclosed | ⟨hnext, -, -⟩
  · exact absurd hclosed (by decide)
  · exact absurd hnext (by decide)

/-! ## 5. Valid text -/

theorem valid_chunk {options : WriterOptions} {text : Bytes} (hvalid : Utf8.Valid text)
    (hpreserve : options.preserveUtf8Boundaries = true) :
    Utf8.Valid (text.take (Writer.chunkCount options text)) := by
  rw [Writer.chunkCount]
  split
  · next hshort =>
    have hle := backToBoundary_le text (min options.chunkSize text.length)
    by_cases hzero : Writer.backToBoundary text (min options.chunkSize text.length) = 0
    · rw [hzero]
      exact Utf8.valid_nil
    · have hlt : Writer.backToBoundary text (min options.chunkSize text.length) <
          text.length := Nat.lt_of_le_of_lt hle hshort.2
      have hbyte := List.getElem?_eq_getElem hlt
      apply hvalid.take hbyte
      have hfirst := isContinuation_backToBoundary text _ hzero
      rw [hbyte] at hfirst
      exact hfirst
  · next hwhole =>
    have hall : text.length ≤ min options.chunkSize text.length :=
      Nat.not_lt.1 fun hshort => hwhole ⟨hpreserve, hshort⟩
    rw [List.take_of_length_le hall]
    exact hvalid

theorem Cut.valid {options : WriterOptions} {text rest : Bytes} {chunks : List Bytes}
    (h : Cut options text chunks rest) (hpreserve : options.preserveUtf8Boundaries = true)
    (hvalid : Utf8.Valid text) : (∀ chunk ∈ chunks, Utf8.Valid chunk) ∧ Utf8.Valid rest := by
  induction h with
  | start text => exact ⟨fun _ hmem => absurd hmem List.not_mem_nil, hvalid⟩
  | @next text chunks rest hempty hcount hcut ih =>
    have hchunk := valid_chunk hvalid hpreserve
    have hbehind : Utf8.Valid (text.drop (Writer.chunkCount options text)) := by
      apply hchunk.of_append
      rw [List.take_append_drop]
      exact hvalid
    obtain ⟨hchunks, hrest⟩ := ih hbehind
    refine ⟨?_, hrest⟩
    intro chunk hmem
    rcases List.mem_cons.1 hmem with rfl | hmem
    · exact hchunk
    · exact hchunks chunk hmem

/-- A chunk of four bytes has room for the first character. -/
theorem not_stuck_of_valid {options : WriterOptions} {text : Bytes} (hvalid : Utf8.Valid text)
    (hsize : 4 ≤ options.chunkSize) : ¬ Stuck options text := by
  intro hstuck
  obtain ⟨-, hless, hrun⟩ := stuck_iff.1 hstuck
  obtain ⟨n, hpos, hfour, hlength, hboundary⟩ := hvalid.boundary hstuck.1
  have hcontinues := hrun n hpos (Nat.le_trans hfour hsize)
  rw [Nat.zero_add] at hless hcontinues
  have hlt : n < text.length := by omega
  have hbyte := List.getElem?_eq_getElem hlt
  rw [hbyte] at hcontinues
  have hfirst := hboundary _ hbyte
  exact Bool.false_ne_true (hfirst.symm.trans hcontinues)

/-- **Text is cut between its characters.**  With room for a whole character in a chunk,
    the loop ends, whatever the fuel beyond the length, and the write sends all of the
    text in chunks that are valid by themselves. -/
theorem write_text_chunks (zlib : Zlib σ) {writer : Writer σ} {text : Bytes}
    (hvalid : Utf8.Valid text) (hsize : 4 ≤ writer.options.chunkSize)
    (hpreserve : writer.options.preserveUtf8Boundaries = true)
    (hopen : writer.closed = false) (hplain : writer.deflater = none)
    (hpresent : writer.engine.present = true)
    (hsends : ∀ i, writer.engine.sent.length ≤ i → writer.engine.results i = true) :
    ∃ chunks,
      (∀ fuel, text.length ≤ fuel →
        writer.writeLoop fuel text = (true, afterChunks writer chunks)) ∧
      (writer.writeBytes zlib text).1 = true ∧
      (writer.writeBytes zlib text).2.engine.sent =
        writer.engine.sent ++ packetsFrom writer.options writer.nextChunk chunks ∧
      chunks.flatten = text ∧
      ∀ chunk ∈ chunks,
        chunk ≠ [] ∧ chunk.length ≤ writer.options.chunkSize ∧ Utf8.Valid chunk := by
  obtain ⟨chunks, rest, hcut, hend⟩ := cut_exists writer.options text
  obtain ⟨hchunks, hbehind⟩ := hcut.valid hpreserve hvalid
  have hrest : rest = [] := by
    rcases hend with hnil | hstuck
    · exact hnil
    · exact absurd hstuck (not_stuck_of_valid hbehind hsize)
  have hdelivers : Delivers writer chunks.length := by
    intro i _
    exact ⟨hpresent, hsends _ (Nat.le_add_right _ i)⟩
  have hresult := (writeBytes_of_cut zlib hopen hplain hcut hend).1 hdelivers hrest
  refine ⟨chunks, ?_, ?_, ?_, ?_, ?_⟩
  · intro fuel hfuel
    rw [(writeLoop_of_cut hcut hend rfl hfuel).1 hdelivers, decide_eq_true hrest]
  · rw [hresult]
  · rw [hresult, report_engine]
    rfl
  · have hflatten := hcut.flatten
    rw [hrest, List.append_nil] at hflatten
    exact hflatten
  · intro chunk hmem
    obtain ⟨hne, hle⟩ := hcut.sizes chunk hmem
    exact ⟨hne, hle, hchunks chunk hmem⟩

/-- A text writer with chunks of four bytes. -/
def textWriter : Writer Unit :=
  .new noZlib { streamId := "s", chunkSize := 4, preserveUtf8Boundaries := true } false
    fun _ => true

/-- Two letters of two bytes each behind one of one byte: the cut is after the third byte. -/
theorem write_text_chunks_letters :
    Utf8.Valid [0x61, 0xc3, 0xa9, 0xc3, 0xa9] ∧ 4 ≤ textWriter.options.chunkSize ∧
      (textWriter.writeBytes noZlib [0x61, 0xc3, 0xa9, 0xc3, 0xa9]).1 = true := by
  have hvalid : Utf8.Valid [0x61, 0xc3, 0xa9, 0xc3, 0xa9] := ⟨['a', 'é', 'é'], by decide⟩
  have hsize : 4 ≤ textWriter.options.chunkSize := by decide
  obtain ⟨chunks, -, hresult, -⟩ := write_text_chunks noZlib hvalid hsize rfl rfl rfl rfl
    fun _ _ => rfl
  exact ⟨hvalid, hsize, hresult⟩

end LivekitClient.WriteChunks
