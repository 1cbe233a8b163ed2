/-
  LivekitClient/BoundedInflation.lean
  ===================================
  **Bounded inflation** (`InflateRawStream::Write` in
  `src/core/detail/data_stream_compression.cpp`): no more comes out than the limit
  allows, every call returns, and how the data was cut does not matter.

  What the data stands for says whether it may be written: `Accepts`.  A call succeeds if
  and only if the data so far may be, and so does a whole run.
-/
import LivekitClient.StoredInflation

namespace LivekitClient.DataStreamCompression

open LivekitClient.KeyProvider

variable {σ : Type}

/-! ## 1. Data that may be written -/

namespace RawDeflate

variable {deflated : RawDeflate} {maximum : Nat} {data more whole : Bytes}

/-- The data is a stream, or the start of one, with nothing behind it and output that fits. -/
structure Accepts (deflated : RawDeflate) (maximum : Nat) (data : Bytes) : Prop where
  valid : ¬ deflated.Invalid data
  ends : ∀ {before}, before <+: data → deflated.Ends before → before = data
  fits : (deflated.decoded data).length ≤ maximum

/-- The data starts with a stream whose output fits. -/
def EndsWithin (deflated : RawDeflate) (maximum : Nat) (data : Bytes) : Prop :=
  ∃ before, before <+: data ∧ deflated.Ends before ∧ (deflated.decoded before).length ≤ maximum

theorem decoded_mono (hbegins : data <+: whole) :
    deflated.decoded data <+: deflated.decoded whole := by
  obtain ⟨more, rfl⟩ := hbegins
  exact deflated.decoded_append data more

theorem invalid_mono (hbegins : data <+: whole) (hinvalid : deflated.Invalid data) :
    deflated.Invalid whole := by
  obtain ⟨more, rfl⟩ := hbegins
  exact deflated.invalid_append hinvalid more

theorem Ends.not_invalid (hends : deflated.Ends data) (hbegins : data <+: whole) :
    ¬ deflated.Invalid whole := by
  obtain ⟨more, rfl⟩ := hbegins
  exact (deflated.ends_append hends more).2.1

theorem Ends.decoded_eq (hends : deflated.Ends data) (hbegins : data <+: whole) :
    deflated.decoded whole = deflated.decoded data := by
  obtain ⟨more, rfl⟩ := hbegins
  exact (deflated.ends_append hends more).1

theorem Ends.eq_of_prefix (hends : deflated.Ends data) (hbegins : data <+: whole)
    (hwhole : deflated.Ends whole) : data = whole := by
  obtain ⟨more, rfl⟩ := hbegins
  rw [(deflated.ends_append hends more).2.2 hwhole, List.append_nil]

theorem accepts_nil (deflated : RawDeflate) (maximum : Nat) : deflated.Accepts maximum [] := by
  refine ⟨deflated.not_invalid_nil, ?_, ?_⟩
  · intro before hbegins _
    exact List.prefix_nil.mp hbegins
  · rw [deflated.decoded_nil]
    exact Nat.zero_le _

theorem Accepts.of_append (h : deflated.Accepts maximum (data ++ more)) :
    deflated.Accepts maximum data := by
  have hbegins : data <+: data ++ more := List.prefix_append data more
  refine ⟨?_, ?_, ?_⟩
  · intro hinvalid
    exact h.valid (invalid_mono hbegins hinvalid)
  · intro before hbefore hends
    have hall := h.ends (hbefore.trans hbegins) hends
    apply hbefore.eq_of_length_le
    rw [hall]
    exact hbegins.length_le
  · exact Nat.le_trans (decoded_mono hbegins).length_le h.fits

theorem Accepts.endsWithin_iff (h : deflated.Accepts maximum data) :
    deflated.EndsWithin maximum data ↔ deflated.Ends data := by
  constructor
  · rintro ⟨before, hbegins, hends, -⟩
    rw [← h.ends hbegins hends]
    exact hends
  · intro hends
    exact ⟨data, List.prefix_refl data, hends, h.fits⟩

theorem not_endsWithin_of_invalid (hinvalid : deflated.Invalid data) :
    ¬ deflated.EndsWithin maximum data := by
  rintro ⟨before, hbegins, hends, -⟩
  exact Ends.not_invalid hends hbegins hinvalid

/-- Output that does not fit comes before any end. -/
theorem not_endsWithin_of_lt (hbegins : data <+: whole)
    (hlong : maximum < (deflated.decoded data).length) : ¬ deflated.EndsWithin maximum whole := by
  rintro ⟨before, hbefore, hends, hfits⟩
  rcases List.prefix_or_prefix_of_prefix hbefore hbegins with hshorter | hlonger
  · rw [Ends.decoded_eq hends hshorter] at hlong
    omega
  · have hmore : (deflated.decoded data).length ≤ (deflated.decoded before).length :=
      (decoded_mono hlonger).length_le
    omega

/-- After data that may not be written, further data decides nothing. -/
theorem endsWithin_append_iff (h : ¬ deflated.Accepts maximum data) (more : Bytes) :
    deflated.EndsWithin maximum (data ++ more) ↔ deflated.EndsWithin maximum data := by
  have hbegins : data <+: data ++ more := List.prefix_append data more
  constructor
  · rintro ⟨before, hbefore, hends, hfits⟩
    rcases List.prefix_or_prefix_of_prefix hbefore hbegins with hshorter | hlonger
    · exact ⟨before, hshorter, hends, hfits⟩
    · -- the data would be the start of a stream, which may be written
      exfalso
      apply h
      refine ⟨?_, ?_, ?_⟩
      · intro hinvalid
        exact Ends.not_invalid hends (List.prefix_refl before) (invalid_mono hlonger hinvalid)
      · intro earlier hearlier hearlierEnds
        have heq := Ends.eq_of_prefix hearlierEnds (hearlier.trans hlonger) hends
        apply hearlier.eq_of_length_le
        rw [heq]
        exact hlonger.length_le
      · exact Nat.le_trans (decoded_mono hlonger).length_le hfits
  · rintro ⟨before, hbefore, hends, hfits⟩
    exact ⟨before, hbefore.trans hbegins, hends, hfits⟩

end RawDeflate

/-! ## 2. One call -/

namespace InflateRawStream

open RawDeflate

variable {zlib : Zlib σ} {deflated : RawDeflate} {maximum : UInt64}

/-- Every call so far has succeeded, with `data` in all, and `out` has been appended. -/
structure Succeeded (zlib : Zlib σ) (deflated : RawDeflate) (maximum : UInt64)
    (data out : Bytes) (s : InflateRawStream σ) : Prop where
  accepts : deflated.Accepts maximum.toNat data
  decoded : out = deflated.decoded data
  counted : Within maximum s out.length
  finished : s.finished = true ↔ deflated.Ends data
  session : s.finished = false →
    ∃ stream, s.stream = some stream ∧ Inflating zlib stream data out

/-- A call has failed, with `data` in all. -/
structure Failed (deflated : RawDeflate) (maximum : UInt64) (data : Bytes)
    (s : InflateRawStream σ) : Prop where
  refused : ¬ deflated.Accepts maximum.toNat data
  finished : s.finished = true ↔ deflated.EndsWithin maximum.toNat data

/-- What a call may answer that comes to `data` after `before` has been appended. -/
def Answers (zlib : Zlib σ) (deflated : RawDeflate) (maximum : UInt64) (data before : Bytes)
    (result : Bool × Bytes × InflateRawStream σ) : Prop :=
  (result.1 = true ∧ Succeeded zlib deflated maximum data (before ++ result.2.1) result.2.2) ∨
    (result.1 = false ∧ Failed deflated maximum data result.2.2)

/-- A turn of a call that is to come to `data`: `fed` of it is behind, and earlier calls
    have appended `before`. -/
structure Midway (zlib : Zlib σ) (maximum : UInt64) (data before fed : Bytes)
    (head : LoopHead σ) : Prop where
  session : Inflating zlib head.stream fed (before ++ head.output)
  input : fed ++ head.input = data
  counted : Within maximum head.inflater (before.length + head.output.length)
  unfinished : head.inflater.finished = false

namespace Midway

variable {data before fed : Bytes} {head : LoopHead σ}

/-- What the call of `inflate` takes. -/
def taken (zlib : Zlib σ) (head : LoopHead σ) : Bytes := head.input.take (head.call zlib).consumed

theorem data_eq (h : Midway zlib maximum data before fed head) :
    data = fed ++ taken zlib head ++ head.rest zlib := by
  rw [List.append_assoc, taken, LoopHead.rest, List.take_append_drop, h.input]

/-- A call of `inflate` that is not the last goes on with the session. -/
theorem called (h : Midway zlib maximum data before fed head)
    (hother : (head.call zlib).result ≠ .other) (hend : (head.call zlib).result ≠ .streamEnd) :
    Inflating zlib (head.call zlib).stream (fed ++ taken zlib head)
      (before ++ (head.output ++ (head.call zlib).produced)) := by
  rw [← List.append_assoc]
  exact .call h.session head.input head.inflater.outputCapacity ⟨hother, hend⟩

/-- What comes out is what the data stands for. -/
theorem produced_prefix (h : Midway zlib maximum data before fed head)
    (hzlib : zlib.Inflates deflated)
    (hcall : Decodes deflated fed (before ++ head.output) head.input
      head.inflater.outputCapacity (head.call zlib))
    (hother : (head.call zlib).result ≠ .other) :
    before ++ (head.output ++ (head.call zlib).produced) <+:
      deflated.decoded (fed ++ taken zlib head) := by
  by_cases hend : (head.call zlib).result = .streamEnd
  · refine ⟨[], ?_⟩
    rw [List.append_nil, ← List.append_assoc]
    exact (hcall.streamEnd hend).2
  · exact hzlib.decoded (h.called hother hend)

/-- The next turn. -/
theorem goes (h : Midway zlib maximum data before fed head) {next : LoopHead σ}
    (hturn : Goes zlib head next) :
    Midway zlib maximum data before (fed ++ taken zlib head) next := by
  have hcounted := (h.counted.turn).2 next hturn
  have hturned := LoopHead.turned zlib head
  rw [show head.turn zlib = .inr next from hturn] at hturned
  cases hturned with
  | again hother hend hbuf hleft =>
    exact ⟨h.called hother hend, h.data_eq.symm, hcounted, h.unfinished⟩

/-- A call that stops for want of input has read all of the data. -/
theorem starved (h : Midway zlib maximum data before fed head) {out : Bytes}
    {s : InflateRawStream σ} {stream : σ} (hunfinished : s.finished = false)
    (hstream : s.stream = some stream) (hrest : head.rest zlib = [])
    (hsession : Inflating zlib stream (fed ++ taken zlib head) out)
    (hcounted : Within maximum s out.length) (hzlib : zlib.Inflates deflated)
    (hdecoded : out = deflated.decoded data) (hvalid : ¬ deflated.Invalid data)
    (hends : ¬ deflated.Ends data) : Succeeded zlib deflated maximum data out s := by
  have hdata := h.data_eq
  rw [hrest, List.append_nil] at hdata
  rw [← hdata] at hsession
  refine ⟨⟨hvalid, ?_, ?_⟩, hdecoded, hcounted, ?_, ?_⟩
  · exact hzlib.stays hsession
  · rw [← hdecoded]
    exact hcounted.fits
  · rw [hunfinished]
    exact iff_of_false Bool.false_ne_true hends
  · intro _
    exact ⟨stream, hstream, hsession⟩

/-- **The last turn.** -/
theorem answers (h : Midway zlib maximum data before fed head) (hzlib : zlib.Inflates deflated)
    (hmaximum : maximum.toNat < 2 ^ 64 - 1) {result : Bool × Bytes × InflateRawStream σ}
    (hturn : head.turn zlib = .inl result) :
    Answers zlib deflated maximum data before result := by
  have hcapacity := h.counted.outputCapacity_pos hmaximum
  have hcall : Decodes deflated fed (before ++ head.output) head.input
      head.inflater.outputCapacity (head.call zlib) :=
    hzlib.decodes h.session head.input hcapacity
  have hcounted := (h.counted.turn).1 result hturn
  rw [← List.length_append] at hcounted
  have hdata := h.data_eq
  have hbegins : fed ++ taken zlib head <+: data := by
    rw [hdata]
    exact List.prefix_append _ _
  have hturned := LoopHead.turned zlib head
  rw [hturn] at hturned
  cases hturned with
  | full hfull => omega
  | invalid hresult =>
    have hinvalid := hcall.invalid hresult
    rw [h.input] at hinvalid
    right
    refine ⟨rfl, fun haccepts => haccepts.valid hinvalid, ?_⟩
    rw [LoopHead.dropped, h.unfinished]
    exact iff_of_false Bool.false_ne_true (not_endsWithin_of_invalid hinvalid)
  | overflow hresult hleft =>
    have hlong : maximum.toNat < (deflated.decoded (fed ++ taken zlib head)).length := by
      have hmade := (h.produced_prefix hzlib hcall hresult).length_le
      rw [LoopHead.left, h.counted.left] at hleft
      rw [List.length_append, List.length_append] at hmade
      omega
    right
    refine ⟨rfl, ?_, ?_⟩
    · intro haccepts
      have hall : (deflated.decoded (fed ++ taken zlib head)).length ≤
          (deflated.decoded data).length := (decoded_mono hbegins).length_le
      have hfits := haccepts.fits
      omega
    · rw [LoopHead.dropped, h.unfinished]
      exact iff_of_false Bool.false_ne_true (not_endsWithin_of_lt hbegins hlong)
  | streamEnd hresult hleft =>
    obtain ⟨hends, hout⟩ := hcall.streamEnd hresult
    have hfits : (deflated.decoded (fed ++ taken zlib head)).length ≤ maximum.toNat := by
      rw [taken, ← hout, List.append_assoc]
      exact hcounted.fits
    by_cases hrest : head.rest zlib = []
    · rw [hrest, List.append_nil] at hdata
      left
      refine ⟨by rw [hrest]; rfl, ⟨?_, ?_, ?_⟩, ?_, hcounted, ?_, ?_⟩
      · exact Ends.not_invalid hends hbegins
      · intro earlier hearlier hearlierEnds
        rw [hdata] at hearlier ⊢
        exact Ends.eq_of_prefix hearlierEnds hearlier hends
      · rw [hdata]
        exact hfits
      · rw [hdata, taken, ← hout, List.append_assoc]
      · rw [hdata]
        exact ⟨fun _ => hends, fun _ => rfl⟩
      · intro hfalse
        cases hfalse
    · right
      refine ⟨?_, ?_, ?_⟩
      · rw [List.isEmpty_eq_false_iff]
        exact hrest
      · intro haccepts
        have hall := haccepts.ends hbegins hends
        rw [hdata] at hall
        exact hrest (List.append_right_eq_self.mp hall.symm)
      · exact ⟨fun _ => ⟨_, hbegins, hends, hfits⟩, fun _ => rfl⟩
  | starved hresult hproduced =>
    have hother : (head.call zlib).result ≠ .other := by
      rw [hresult]
      decide
    have hend : (head.call zlib).result ≠ .streamEnd := by
      rw [hresult]
      decide
    have hroom : (head.call zlib).produced.length < head.inflater.outputCapacity := by
      rw [hproduced]
      exact hcapacity
    obtain ⟨hrest, hout, hvalid, hnot⟩ := hcall.stops hother hend hroom
    rw [h.input, List.append_assoc] at hout
    rw [h.input] at hvalid hnot
    left
    refine ⟨by rw [LoopHead.rest, hrest]; rfl, ?_⟩
    exact h.starved h.unfinished rfl hrest (h.called hother hend) hcounted hzlib hout hvalid hnot
  | done hother hend hleft hrest hroom =>
    have hproduced : (head.call zlib).produced.length ≤ head.inflater.outputCapacity :=
      hzlib.produced _ _ _
    obtain ⟨-, hout, hvalid, hnot⟩ :=
      hcall.stops hother hend (Nat.lt_of_le_of_ne hproduced hroom)
    rw [h.input, List.append_assoc] at hout
    rw [h.input] at hvalid hnot
    left
    refine ⟨rfl, ?_⟩
    exact h.starved h.unfinished rfl hrest (h.called hother hend) hcounted hzlib hout hvalid hnot

end Midway

/-- Every turn of the call is on its way, so what it returns is an answer. -/
theorem Midway.returns {data before fed : Bytes} {head : LoopHead σ}
    (h : Midway zlib maximum data before fed head) (hzlib : zlib.Inflates deflated)
    (hmaximum : maximum.toNat < 2 ^ 64 - 1) {result : Bool × Bytes × InflateRawStream σ}
    (hreturns : Returns zlib head result) : Answers zlib deflated maximum data before result := by
  obtain ⟨last, hgoes, hlast⟩ := hreturns
  have hmidway : ∃ fed', Midway zlib maximum data before fed' last := by
    clear hlast
    induction hgoes with
    | refl => exact ⟨fed, h⟩
    | tail _ hturn ih =>
      obtain ⟨fed', hmid⟩ := ih
      exact ⟨_, hmid.goes hturn⟩
  obtain ⟨fed', hmid⟩ := hmidway
  exact hmid.answers hzlib hmaximum hlast

/-- What `Write` takes without looking at it. -/
def Fits (piece : Bytes) : Prop := piece ≠ [] ∧ piece.length ≤ uIntMax

theorem write_finished {s : InflateRawStream σ} (hfinished : s.finished = true) (piece : Bytes) :
    s.write zlib piece = (false, [], s) := by
  rw [write]
  split
  · rfl
  · rw [hfinished, Bool.true_or, if_pos rfl]

/-- **One call.**  It succeeds if and only if the data may still be written. -/
theorem Succeeded.write {s : InflateRawStream σ} {data out : Bytes}
    (h : Succeeded zlib deflated maximum data out s) (hzlib : zlib.Inflates deflated)
    (hmaximum : maximum.toNat < 2 ^ 64 - 1) {piece : Bytes} (hpiece : Fits piece) :
    Answers zlib deflated maximum (data ++ piece) out (s.write zlib piece) := by
  have hbegins : data <+: data ++ piece := List.prefix_append data piece
  cases hfinished : s.finished with
  | true =>
    have hends := h.finished.mp hfinished
    rw [write_finished hfinished]
    right
    refine ⟨rfl, ?_, ?_⟩
    · intro haccepts
      have hall := haccepts.ends hbegins hends
      exact hpiece.1 (List.append_right_eq_self.mp hall.symm)
    · exact ⟨fun _ => ⟨data, hbegins, hends, h.accepts.fits⟩, fun _ => hfinished⟩
  | false =>
    obtain ⟨stream, hstream, hsession⟩ := h.session hfinished
    have hmidway : Midway zlib maximum (data ++ piece) out data ⟨s, stream, piece, []⟩ :=
      ⟨by rw [List.append_nil]; exact hsession, rfl, h.counted, hfinished⟩
    exact hmidway.returns hzlib hmaximum (write_returns hzlib hstream hfinished hpiece.2)

/-! ## 3. Call after call -/

/-- `Write` for one piece after the other, also after one that failed: the answers, all
    that was appended, and the stream. -/
def writes (zlib : Zlib σ) : InflateRawStream σ → List Bytes →
    List Bool × Bytes × InflateRawStream σ
  | s, [] => ([], [], s)
  | s, piece :: pieces =>
    let (ok, output, s) := s.write zlib piece
    let (oks, outputs, s) := writes zlib s pieces
    (ok :: oks, output ++ outputs, s)

/-- `Write` for one piece after the other up to the first that fails, as the room does,
    which then has done with the stream. -/
def writesUntilFailure (zlib : Zlib σ) : InflateRawStream σ → List Bytes → InflateRawStream σ
  | s, [] => s
  | s, piece :: pieces =>
    let (ok, _, s) := s.write zlib piece
    if ok then writesUntilFailure zlib s pieces else s

def AllSucceed (zlib : Zlib σ) (s : InflateRawStream σ) (pieces : List Bytes) : Prop :=
  ∀ ok ∈ (writes zlib s pieces).1, ok = true

/-- A call counts what it appends. -/
theorem Within.write {s : InflateRawStream σ} {total : Nat} (h : Within maximum s total)
    (hzlib : zlib.Inflates deflated) (piece : Bytes) :
    Within maximum (s.write zlib piece).2.2 (total + (s.write zlib piece).2.1.length) := by
  cases hstream : s.stream with
  | none =>
    rw [InflateRawStream.write, hstream]
    exact h
  | some stream =>
    by_cases hrefused : (s.finished || decide (uIntMax < piece.length)) = true
    · rw [InflateRawStream.write, hstream]
      dsimp only
      rw [if_pos hrefused]
      exact h
    · rw [Bool.or_eq_true, not_or, decide_eq_true_eq, Nat.not_lt] at hrefused
      obtain ⟨last, hgoes, hlast⟩ := write_returns hzlib hstream
        (Bool.eq_false_iff.mpr hrefused.1) hrefused.2
      have hstart : Within maximum (LoopHead.mk s stream piece []).inflater
          (total + (LoopHead.mk s stream piece []).output.length) := h
      exact ((hstart.goes hgoes).turn).1 _ hlast

theorem Within.writes {s : InflateRawStream σ} {total : Nat} (h : Within maximum s total)
    (hzlib : zlib.Inflates deflated) (pieces : List Bytes) :
    Within maximum (writes zlib s pieces).2.2
      (total + (writes zlib s pieces).2.1.length) := by
  induction pieces generalizing s total with
  | nil => exact h
  | cons piece pieces ih =>
    have hrest := ih (h.write hzlib piece)
    rw [InflateRawStream.writes]
    dsimp only
    rw [List.length_append, ← Nat.add_assoc]
    exact hrest

theorem within_new (zlib : Zlib σ) (maximum : UInt64) : Within maximum (new zlib maximum) 0 :=
  ⟨rfl, rfl, Nat.zero_le _⟩

/-- **A run.**  All calls succeed if and only if the data may be written; where they do, the
    stream is at the data's end or not, with its output. -/
theorem Succeeded.writes {s : InflateRawStream σ} {data out : Bytes}
    (h : Succeeded zlib deflated maximum data out s) (hzlib : zlib.Inflates deflated)
    (hmaximum : maximum.toNat < 2 ^ 64 - 1) {pieces : List Bytes}
    (hpieces : ∀ piece ∈ pieces, Fits piece) :
    (AllSucceed zlib s pieces ↔ deflated.Accepts maximum.toNat (data ++ pieces.flatten)) ∧
      (AllSucceed zlib s pieces →
        Succeeded zlib deflated maximum (data ++ pieces.flatten)
          (out ++ (InflateRawStream.writes zlib s pieces).2.1)
          (InflateRawStream.writes zlib s pieces).2.2) := by
  induction pieces generalizing s data out with
  | nil =>
    rw [List.flatten_nil, List.append_nil]
    refine ⟨⟨fun _ => h.accepts, ?_⟩, ?_⟩
    · intro _ ok hmem
      cases hmem
    · intro _
      rw [InflateRawStream.writes, List.append_nil]
      exact h
  | cons piece pieces ih =>
    have hothers : ∀ other ∈ pieces, Fits other := by
      intro other hmem
      exact hpieces other (List.mem_cons_of_mem _ hmem)
    have hall : AllSucceed zlib s (piece :: pieces) ↔
        (s.write zlib piece).1 = true ∧ AllSucceed zlib (s.write zlib piece).2.2 pieces := by
      rw [AllSucceed, InflateRawStream.writes]
      exact List.forall_mem_cons
    rw [List.flatten_cons, ← List.append_assoc, hall]
    rcases h.write hzlib hmaximum (hpieces piece List.mem_cons_self) with
      ⟨hok, hsucceeded⟩ | ⟨hok, hfailed⟩
    · obtain ⟨hiff, hruns⟩ := ih hsucceeded hothers
      constructor
      · rw [hiff]
        exact and_iff_right hok
      · rintro ⟨-, hrest⟩
        have hrun := hruns hrest
        rw [List.append_assoc out] at hrun
        exact hrun
    · rw [hok]
      constructor
      · constructor
        · rintro ⟨htrue, -⟩
          cases htrue
        · intro haccepts
          exact absurd haccepts.of_append hfailed.refused
      · rintro ⟨htrue, -⟩
        cases htrue

/-- Up to the first failure the stream is finished if and only if the data starts with a
    stream that fits. -/
theorem Succeeded.untilFailure {s : InflateRawStream σ} {data out : Bytes}
    (h : Succeeded zlib deflated maximum data out s) (hzlib : zlib.Inflates deflated)
    (hmaximum : maximum.toNat < 2 ^ 64 - 1) {pieces : List Bytes}
    (hpieces : ∀ piece ∈ pieces, Fits piece) :
    (writesUntilFailure zlib s pieces).finished = true ↔
      deflated.EndsWithin maximum.toNat (data ++ pieces.flatten) := by
  induction pieces generalizing s data out with
  | nil =>
    rw [List.flatten_nil, List.append_nil, writesUntilFailure, h.accepts.endsWithin_iff]
    exact h.finished
  | cons piece pieces ih =>
    rw [List.flatten_cons, ← List.append_assoc, writesUntilFailure]
    dsimp only
    rcases h.write hzlib hmaximum (hpieces piece List.mem_cons_self) with
      ⟨hok, hsucceeded⟩ | ⟨hok, hfailed⟩
    · rw [if_pos hok]
      apply ih hsucceeded
      intro other hmem
      exact hpieces other (List.mem_cons_of_mem _ hmem)
    · rw [hok, if_neg Bool.false_ne_true, endsWithin_append_iff hfailed.refused]
      exact hfailed.finished

theorem succeeded_new (deflated : RawDeflate) (maximum : UInt64) {stream : σ}
    (hinit : zlib.inflateInit = some stream) :
    Succeeded zlib deflated maximum [] [] (new zlib maximum) := by
  refine ⟨accepts_nil deflated maximum.toNat, deflated.decoded_nil.symm,
    within_new zlib maximum, ?_, ?_⟩
  · exact iff_of_false Bool.false_ne_true deflated.not_ends_nil
  · intro _
    exact ⟨stream, hinit, .init hinit⟩

/-- Two sequences of calls come to the same. -/
structure SameOutcome (zlib : Zlib σ) (s : InflateRawStream σ) (pieces pieces' : List Bytes) :
    Prop where
  succeed : AllSucceed zlib s pieces ↔ AllSucceed zlib s pieces'
  finished : AllSucceed zlib s pieces →
    (writes zlib s pieces).2.2.finished = (writes zlib s pieces').2.2.finished
  output : AllSucceed zlib s pieces → (writes zlib s pieces).2.1 = (writes zlib s pieces').2.1
  untilFailure : (writesUntilFailure zlib s pieces).finished =
    (writesUntilFailure zlib s pieces').finished

/-- How the data was cut decides nothing, of a stream that zlib could set up. -/
theorem Succeeded.cut {s : InflateRawStream σ} (h : Succeeded zlib deflated maximum [] [] s)
    (hzlib : zlib.Inflates deflated) (hmaximum : maximum.toNat < 2 ^ 64 - 1)
    {pieces pieces' : List Bytes} (hpieces : ∀ piece ∈ pieces, Fits piece)
    (hpieces' : ∀ piece ∈ pieces', Fits piece) (hflatten : pieces.flatten = pieces'.flatten) :
    SameOutcome zlib s pieces pieces' := by
  obtain ⟨hiff, hruns⟩ := h.writes hzlib hmaximum hpieces
  obtain ⟨hiff', hruns'⟩ := h.writes hzlib hmaximum hpieces'
  have huntil := h.untilFailure hzlib hmaximum hpieces
  have huntil' := h.untilFailure hzlib hmaximum hpieces'
  rw [← hflatten] at hiff' hruns' huntil'
  have hsame : AllSucceed zlib s pieces ↔ AllSucceed zlib s pieces' := hiff.trans hiff'.symm
  refine ⟨hsame, ?_, ?_, ?_⟩
  · intro hall
    apply Bool.eq_iff_iff.mpr
    rw [(hruns hall).finished, (hruns' (hsame.mp hall)).finished]
  · intro hall
    have hdecoded := (hruns hall).decoded.trans (hruns' (hsame.mp hall)).decoded.symm
    rw [List.nil_append, List.nil_append] at hdecoded
    exact hdecoded
  · apply Bool.eq_iff_iff.mpr
    rw [huntil, huntil']

/-- Without a stream every call fails, the first as well as the others. -/
theorem cut_none {s : InflateRawStream σ} (hstream : s.stream = none)
    {pieces pieces' : List Bytes} (hpieces : ∀ piece ∈ pieces, Fits piece)
    (hpieces' : ∀ piece ∈ pieces', Fits piece) (hflatten : pieces.flatten = pieces'.flatten) :
    SameOutcome zlib s pieces pieces' := by
  have hwrite : ∀ piece, s.write zlib piece = (false, [], s) := by
    intro piece
    rw [InflateRawStream.write, hstream]
  have hfails : ∀ piece pieces, ¬ AllSucceed zlib s (piece :: pieces) := by
    intro piece pieces hall
    have hok := hall (s.write zlib piece).1 List.mem_cons_self
    rw [hwrite] at hok
    cases hok
  have hnonempty : ∀ {piece : Bytes} {pieces : List Bytes},
      (∀ other ∈ piece :: pieces, Fits other) → (piece :: pieces).flatten ≠ [] := by
    intro piece pieces hfit hnil
    rw [List.flatten_cons, List.append_eq_nil_iff] at hnil
    exact (hfit piece List.mem_cons_self).1 hnil.1
  cases pieces with
  | nil =>
    cases pieces' with
    | nil => exact ⟨Iff.rfl, fun _ => rfl, fun _ => rfl, rfl⟩
    | cons piece' pieces' => exact absurd hflatten.symm (hnonempty hpieces')
  | cons piece pieces =>
    cases pieces' with
    | nil => exact absurd hflatten (hnonempty hpieces)
    | cons piece' pieces' =>
      refine ⟨iff_of_false (hfails _ _) (hfails _ _), ?_, ?_, ?_⟩
      · intro hall
        exact absurd hall (hfails piece pieces)
      · intro hall
        exact absurd hall (hfails piece pieces)
      · rw [writesUntilFailure, writesUntilFailure, hwrite, hwrite]
        rfl

end InflateRawStream

end LivekitClient.DataStreamCompression

/-! ## 4. Flushes -/

namespace LivekitClient.StoredDeflate

open LivekitClient.DataStreamCompression
open LivekitClient.DataStreamCompression.InflateRawStream

/-- Any number of flushes stands for nothing. -/
theorem feed_markers (n : Nat) :
    Reading.feed .start (List.replicate n marker).flatten = (.start, []) := by
  induction n with
  | zero => rfl
  | succ n ih =>
    rw [List.replicate_succ, List.flatten_cons, marker, Reading.feed_block (Nat.zero_le _)]
    rw [← marker, ih]
    rfl

theorem accepts_markers (n maximum : Nat) :
    rawDeflate.Accepts maximum (List.replicate n marker).flatten := by
  have hfeed := feed_markers n
  generalize (List.replicate n marker).flatten = data at hfeed ⊢
  refine ⟨?_, ?_, ?_⟩
  · rintro ⟨hbad, -⟩
    rw [hfeed] at hbad
    cases hbad
  · rintro before ⟨between, rfl⟩ hdone
    rw [Reading.feed_append, show (Reading.feed .start before).1 = .done from hdone] at hfeed
    have hstart : (Reading.feed .done between).1 = .start := congrArg Prod.fst hfeed
    have hgood : (Reading.feed .done between).1 ≠ .bad := by
      rw [hstart]
      exact nofun
    rw [Reading.eq_nil_of_feed_done_ne_bad hgood, List.append_nil]
  · rw [show rawDeflate.decoded data = (Reading.feed .start data).2 from rfl, hfeed]
    exact Nat.zero_le _

theorem length_markers (n : Nat) : (List.replicate n marker).flatten.length = 5 * n := by
  induction n with
  | zero => rfl
  | succ n ih =>
    rw [List.replicate_succ, List.flatten_cons, List.length_append, ih, Nat.mul_succ]
    exact Nat.add_comm _ _

/-- One by one they are written. -/
theorem markers_succeed (n : Nat) {maximum : UInt64} (hmaximum : maximum.toNat < 2 ^ 64 - 1) :
    AllSucceed zlib (new zlib maximum) (List.replicate n marker) := by
  have hfits : ∀ piece ∈ List.replicate n marker, Fits piece := by
    intro piece hmem
    rw [List.eq_of_mem_replicate hmem]
    exact ⟨by decide, by decide⟩
  apply ((succeeded_new rawDeflate maximum rfl).writes inflates hmaximum hfits).1.mpr
  exact accepts_markers n maximum.toNat

/-- All at once they are too many. -/
theorem markers_refused {n : Nat} (hmany : uIntMax < 5 * n) (maximum : UInt64) :
    ¬ AllSucceed zlib (new zlib maximum) [(List.replicate n marker).flatten] := by
  intro hall
  have hok := hall ((new zlib maximum).write zlib (List.replicate n marker).flatten).1
    List.mem_cons_self
  rw [InflateRawStream.write, show (new zlib maximum).stream = some (.inflating .start) from rfl,
    length_markers] at hok
  dsimp only at hok
  rw [decide_eq_true hmany, Bool.or_true, if_pos rfl] at hok
  cases hok

end LivekitClient.StoredDeflate

/-! ## 5. Bounded inflation -/

namespace LivekitClient.DataStreamCompression.InflateRawStream

open LivekitClient.KeyProvider

variable {σ : Type}

/-- **Bounded inflation.**  Whatever is written, what comes out is counted and stays within
    the limit, there is room in every turn, and every loop returns.  How the data was cut
    decides neither whether all calls succeed nor, where they do, the end and the output;
    nor whether the end was met before the first failure. -/
theorem bounded_inflation {zlib : Zlib σ} {deflated : RawDeflate}
    (hzlib : zlib.Inflates deflated) {maximum : UInt64} (hmaximum : maximum.toNat < 2 ^ 64 - 1) :
    (∀ pieces : List Bytes,
      (writes zlib (new zlib maximum) pieces).2.1.length =
          (writes zlib (new zlib maximum) pieces).2.2.outputSize.toNat ∧
        (writes zlib (new zlib maximum) pieces).2.1.length ≤ maximum.toNat ∧
        ∀ (stream : σ) (piece : Bytes),
          (writes zlib (new zlib maximum) pieces).2.2.stream = some stream →
          (writes zlib (new zlib maximum) pieces).2.2.finished = false →
          piece.length ≤ uIntMax →
          Returns zlib ⟨(writes zlib (new zlib maximum) pieces).2.2, stream, piece, []⟩
              ((writes zlib (new zlib maximum) pieces).2.2.write zlib piece) ∧
            ∀ head, Relation.ReflTransGen (Goes zlib)
                ⟨(writes zlib (new zlib maximum) pieces).2.2, stream, piece, []⟩ head →
              head.inflater.outputSize.toNat ≤ maximum.toNat ∧
                head.inflater.outputCapacity = min kCompressionBufferSize
                  (maximum.toNat - head.inflater.outputSize.toNat + 1) ∧
                0 < head.inflater.outputCapacity) ∧
    ∀ pieces pieces' : List Bytes, (∀ piece ∈ pieces, Fits piece) →
      (∀ piece ∈ pieces', Fits piece) → pieces.flatten = pieces'.flatten →
      SameOutcome zlib (new zlib maximum) pieces pieces' := by
  constructor
  · intro pieces
    have hwithin := (within_new zlib maximum).writes hzlib pieces
    rw [Nat.zero_add] at hwithin
    refine ⟨hwithin.outputSize.symm, hwithin.fits, ?_⟩
    intro stream piece hstream hfinished hpiece
    refine ⟨write_returns hzlib hstream hfinished hpiece, ?_⟩
    intro head hgoes
    have hstart : Within maximum (LoopHead.mk (writes zlib (new zlib maximum) pieces).2.2 stream
        piece []).inflater ((writes zlib (new zlib maximum) pieces).2.1.length +
          ([] : Bytes).length) := hwithin
    have hhead := hstart.goes hgoes
    rw [hhead.outputSize]
    exact ⟨hhead.fits, hhead.outputCapacity hmaximum, hhead.outputCapacity_pos hmaximum⟩
  · intro pieces pieces' hpieces hpieces' hflatten
    cases hinit : zlib.inflateInit with
    | none => exact cut_none hinit hpieces hpieces' hflatten
    | some stream =>
      exact (succeeded_new deflated maximum hinit).cut hzlib hmaximum hpieces hpieces' hflatten

/-- Two bytes under a limit of two, cut between them. -/
theorem bounded_inflation_twoBytes :
    (writes StoredDeflate.zlib (new StoredDeflate.zlib 2)
          [[0, 2, 0, 253, 255, 65], [66, 3, 0]]).2.1.length =
        (writes StoredDeflate.zlib (new StoredDeflate.zlib 2)
          [[0, 2, 0, 253, 255, 65], [66, 3, 0]]).2.2.outputSize.toNat ∧
      SameOutcome StoredDeflate.zlib (new StoredDeflate.zlib 2)
        [[0, 2, 0, 253, 255, 65], [66, 3, 0]] [[0, 2, 0, 253, 255, 65, 66, 3, 0]] := by
  have hmaximum : (2 : UInt64).toNat < 2 ^ 64 - 1 := by decide
  refine ⟨((bounded_inflation StoredDeflate.inflates hmaximum).1 _).1, ?_⟩
  refine (bounded_inflation StoredDeflate.inflates hmaximum).2 _ _ ?_ ?_ rfl
  · unfold Fits
    decide
  · unfold Fits
    decide

/-- After a failure the cut shows: under a limit of one byte two bytes are dropped if they
    come at once, and only the second if it comes alone; and a stream that goes on after
    the failure may come to its end.  A piece of more than `uIntMax` bytes is refused. -/
theorem failures_show_the_cut :
    StoredDeflate.zlib.Inflates StoredDeflate.rawDeflate ∧
    ((writes StoredDeflate.zlib (new StoredDeflate.zlib 1)
        [[0, 2, 0, 253, 255, 65, 66, 3, 0]]).2.1 = [] ∧
      (writes StoredDeflate.zlib (new StoredDeflate.zlib 1)
        [[0, 2, 0, 253, 255, 65], [66, 3, 0]]).2.1 = [65]) ∧
    ((writes StoredDeflate.zlib (new StoredDeflate.zlib 1)
        [[0, 2, 0, 253, 255, 65, 66, 3, 0]]).2.2.finished = false ∧
      (writes StoredDeflate.zlib (new StoredDeflate.zlib 1)
        [[0, 2, 0, 253, 255, 65, 66], [3, 0]]).2.2.finished = true) ∧
    AllSucceed StoredDeflate.zlib (new StoredDeflate.zlib 1)
        (List.replicate 858993460 StoredDeflate.marker) ∧
      ¬ AllSucceed StoredDeflate.zlib (new StoredDeflate.zlib 1)
        [(List.replicate 858993460 StoredDeflate.marker).flatten] := by
  have hmany : uIntMax < 5 * 858993460 := by decide
  exact ⟨StoredDeflate.inflates, by decide, by decide, StoredDeflate.markers_succeed _ (by decide),
    StoredDeflate.markers_refused hmany 1⟩

end LivekitClient.DataStreamCompression.InflateRawStream
