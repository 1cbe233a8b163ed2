/-
  LivekitClient/ZlibSessions.lean
  ===============================
  **What zlib promises over whole sessions.**

  A session is what a `z_stream` has been through: the input it was given and the output
  it has made.  That inflating undoes deflating is a law about two sessions, whatever
  pieces the data is cut into: fed with what the deflater made, an inflater stays on
  the way to what the deflater was given, and comes to its end with the last byte.

  The loops of `DeflateRawStream` and `InflateRawStream` keep to such sessions.
-/
import LivekitClient.DataStreamCompression

namespace LivekitClient.DataStreamCompression

open LivekitClient.KeyProvider

variable {σ : Type}

/-! ## 1. Sessions -/

/-- The deflater has taken `given` and made `out`; the last argument says that the last
    flush is complete, so that there was room left. -/
inductive Deflating (zlib : Zlib σ) : σ → Bytes → Bytes → Bool → Prop
  | init {stream : σ} (hinit : zlib.deflateInit = some stream) : Deflating zlib stream [] [] false
  | flush {stream : σ} {given out : Bytes} {flushed : Bool}
      (h : Deflating zlib stream given out flushed) (input : Bytes)
      (hok : (zlib.deflate stream input .syncFlush kCompressionBufferSize).result = .ok) :
      Deflating zlib (zlib.deflate stream input .syncFlush kCompressionBufferSize).stream
        (given ++
          input.take (zlib.deflate stream input .syncFlush kCompressionBufferSize).consumed)
        (out ++ (zlib.deflate stream input .syncFlush kCompressionBufferSize).produced)
        (decide ((zlib.deflate stream input .syncFlush kCompressionBufferSize).produced.length ≠
          kCompressionBufferSize))

/-- The deflater has been told to finish, and has more to put out. -/
inductive Finishing (zlib : Zlib σ) : σ → Bytes → Bytes → Prop
  | start {stream : σ} {given out : Bytes} {flushed : Bool}
      (h : Deflating zlib stream given out flushed) : Finishing zlib stream given out
  | more {stream : σ} {given out : Bytes} (h : Finishing zlib stream given out)
      (hok : (zlib.deflate stream [] .finish kCompressionBufferSize).result = .ok) :
      Finishing zlib (zlib.deflate stream [] .finish kCompressionBufferSize).stream given
        (out ++ (zlib.deflate stream [] .finish kCompressionBufferSize).produced)

/-- The deflater has finished: `out` is the whole stream. -/
inductive Ended (zlib : Zlib σ) : σ → Bytes → Bytes → Prop
  | last {stream : σ} {given out : Bytes} (h : Finishing zlib stream given out)
      (hend : (zlib.deflate stream [] .finish kCompressionBufferSize).result = .streamEnd) :
      Ended zlib (zlib.deflate stream [] .finish kCompressionBufferSize).stream given
        (out ++ (zlib.deflate stream [] .finish kCompressionBufferSize).produced)

/-- The inflater has taken `fed` and made `out`, and is not at the end. -/
inductive Inflating (zlib : Zlib σ) : σ → Bytes → Bytes → Prop
  | init {stream : σ} (hinit : zlib.inflateInit = some stream) : Inflating zlib stream [] []
  | call {stream : σ} {fed out : Bytes} (h : Inflating zlib stream fed out) (input : Bytes)
      (room : Nat) (hresult : (zlib.inflate stream input room).result ≠ .other ∧
        (zlib.inflate stream input room).result ≠ .streamEnd) :
      Inflating zlib (zlib.inflate stream input room).stream
        (fed ++ input.take (zlib.inflate stream input room).consumed)
        (out ++ (zlib.inflate stream input room).produced)

/-! ## 2. Laws -/

/-- A call of `inflate` on the way from `compressed` to `payload`: `fed` and `out` are
    behind it, `input` and then `rest` are to come. -/
structure Undoes (payload compressed fed out input rest : Bytes) (room : Nat) (call : ZCall σ) :
    Prop where
  result : call.result ≠ .other
  produced : out ++ call.produced <+: payload
  streamEnd : call.result = .streamEnd →
    fed ++ input.take call.consumed = compressed ∧ out ++ call.produced = payload
  /-- It goes on until the input is used up or the room is. -/
  stops : call.result ≠ .streamEnd → input.drop call.consumed = [] ∨ call.produced.length = room
  /-- With all of the input and room to spare it comes to the end. -/
  ends : rest = [] → call.result ≠ .streamEnd → call.produced.length = room

/-- Inflating undoes deflating. -/
structure Zlib.RoundTrip (zlib : Zlib σ) : Prop where
  inflateInit : zlib.inflateInit ≠ none
  flush_not_end : ∀ {stream given out flushed}, Deflating zlib stream given out flushed →
    ∀ input, (zlib.deflate stream input .syncFlush kCompressionBufferSize).result ≠ .streamEnd
  /-- A finished deflater, asked again, says so again. -/
  finish_again : ∀ {stream given out}, Ended zlib stream given out →
    (zlib.deflate stream [] .finish kCompressionBufferSize).result = .streamEnd ∧
      (zlib.deflate stream [] .finish kCompressionBufferSize).produced = []
  /-- A stream has at least its last block. -/
  ended_ne_nil : ∀ {stream given out}, Ended zlib stream given out → out ≠ []
  inflate_undoes : ∀ {stream payload compressed}, Ended zlib stream payload compressed →
    ∀ {inflater fed out}, Inflating zlib inflater fed out →
      ∀ {input rest : Bytes}, fed ++ input ++ rest = compressed → ∀ {room}, 0 < room →
        Undoes payload compressed fed out input rest room (zlib.inflate inflater input room)

/-- What a deflater that has the memory it asked for never refuses, and what it does. -/
structure Zlib.Serves (zlib : Zlib σ) : Prop extends zlib.Lawful where
  deflateInit : zlib.deflateInit ≠ none
  flush_ok : ∀ {stream given out flushed}, Deflating zlib stream given out flushed →
    ∀ input, input ≠ [] ∨ flushed = false →
      (zlib.deflate stream input .syncFlush kCompressionBufferSize).result = .ok
  /-- A second flush with nothing new is an error. -/
  flush_again : ∀ {stream given out}, Deflating zlib stream given out true →
    (zlib.deflate stream [] .syncFlush kCompressionBufferSize).result = .bufError
  finish_ok : ∀ {stream given out}, Finishing zlib stream given out →
    (zlib.deflate stream [] .finish kCompressionBufferSize).result = .ok ∨
      (zlib.deflate stream [] .finish kCompressionBufferSize).result = .streamEnd

/-! ## 3. The deflater's loops -/

namespace DeflateRawStream

theorem writeLoop_flush {zlib : Zlib σ} (hzlib : zlib.RoundTrip) {fuel : Nat} {stream : σ}
    {given out : Bytes} {flushed : Bool} (h : Deflating zlib stream given out flushed)
    {input before output : Bytes} {result : ZResult} {stream' : σ}
    (hloop : writeLoop zlib .syncFlush fuel stream input before = (result, output, stream'))
    (hresult : result = .ok ∨ result = .streamEnd) :
    result = .ok ∧ ∃ made, output = before ++ made ∧
      Deflating zlib stream' (given ++ input) (out ++ made) true := by
  induction fuel generalizing stream given out flushed input before with
  | zero =>
    rw [writeLoop] at hloop
    cases hloop
    rcases hresult with hresult | hresult <;> cases hresult
  | succ fuel ih =>
    rw [writeLoop] at hloop
    dsimp only at hloop
    have hnotEnd := hzlib.flush_not_end h input
    split at hloop
    · rename_i hbad
      cases hloop
      rcases hresult with hok | hend
      · exact absurd hok hbad.1
      · exact absurd hend hbad.2
    rename_i hgood
    have hok : (zlib.deflate stream input .syncFlush kCompressionBufferSize).result = .ok := by
      by_contra hne
      exact hgood ⟨hne, hnotEnd⟩
    have hnext := h.flush input hok
    split at hloop
    · -- the flush goes on, with what is left of the input
      obtain ⟨hresult, made, rfl, hdeflating⟩ := ih hnext hloop
      refine ⟨hresult, _, List.append_assoc .., ?_⟩
      rw [List.append_assoc, List.append_assoc, List.take_append_drop] at hdeflating
      exact hdeflating
    · rename_i hstop
      obtain ⟨hused, hstop⟩ := not_or.mp hstop
      have hroom := (not_or.mp hstop).1
      cases hloop
      refine ⟨hok, _, rfl, ?_⟩
      rw [List.take_of_length_le (List.drop_eq_nil_iff.mp (not_not.mp hused)),
        decide_eq_true hroom] at hnext
      exact hnext

/-- A write that succeeds takes the session on by all of its data. -/
theorem write_session {zlib : Zlib σ} (hzlib : zlib.RoundTrip) {stream : σ} {given out : Bytes}
    {flushed : Bool} (h : Deflating zlib stream given out flushed) {data output : Bytes}
    {after : DeflateRawStream σ}
    (hwrite : write zlib ⟨some stream, false⟩ data = (true, output, after)) :
    ∃ stream', after = ⟨some stream', false⟩ ∧
      Deflating zlib stream' (given ++ data) (out ++ output) true := by
  simp only [write, writeFlush] at hwrite
  split at hwrite
  · simp at hwrite
  rcases hloop : writeLoop zlib .syncFlush (zlib.deflateCalls stream data .syncFlush + 1) stream
    data [] with ⟨result, made, stream'⟩
  rw [hloop] at hwrite
  cases result with
  | ok =>
    cases hwrite
    obtain ⟨-, made', rfl, hdeflating⟩ := writeLoop_flush hzlib h hloop (.inl rfl)
    exact ⟨stream', rfl, hdeflating⟩
  | streamEnd =>
    obtain ⟨hok, -⟩ := writeLoop_flush hzlib h hloop (.inr rfl)
    cases hok
  | bufError => simp at hwrite
  | other => simp at hwrite

/-- After the end there is one more call, for nothing. -/
theorem writeLoop_ended {zlib : Zlib σ} (hzlib : zlib.RoundTrip) (fuel : Nat) {stream : σ}
    {given out : Bytes} (h : Ended zlib stream given out) (before : Bytes) :
    writeLoop zlib .finish (fuel + 1) stream [] before =
      (.streamEnd, before, (zlib.deflate stream [] .finish kCompressionBufferSize).stream) := by
  obtain ⟨hend, hnothing⟩ := hzlib.finish_again h
  rw [writeLoop]
  simp only [hend, hnothing, List.drop_nil, List.append_nil, List.length_nil]
  rw [if_neg (by simp), if_neg (by simp [kCompressionBufferSize])]

theorem writeLoop_finish {zlib : Zlib σ} (hzlib : zlib.RoundTrip) {fuel : Nat} {stream : σ}
    {given out : Bytes} (h : Finishing zlib stream given out) {before output : Bytes}
    {stream' : σ}
    (hloop : writeLoop zlib .finish fuel stream [] before = (.streamEnd, output, stream')) :
    ∃ made stream'', output = before ++ made ∧ Ended zlib stream'' given (out ++ made) := by
  induction fuel generalizing stream out before with
  | zero => simp [writeLoop] at hloop
  | succ fuel ih =>
    rw [writeLoop] at hloop
    simp only [List.drop_nil] at hloop
    split at hloop
    · rename_i hbad
      exact absurd (congrArg Prod.fst hloop) hbad.2
    rename_i hgood
    by_cases hend : (zlib.deflate stream [] .finish kCompressionBufferSize).result = .streamEnd
    · have hended := Ended.last h hend
      refine ⟨_, _, ?_, hended⟩
      split at hloop
      · -- the end came with the last of the room
        cases fuel with
        | zero => simp [writeLoop] at hloop
        | succ fuel =>
          rw [writeLoop_ended hzlib fuel hended] at hloop
          exact (congrArg (fun result => result.2.1) hloop).symm
      · exact (congrArg (fun result => result.2.1) hloop).symm
    · have hok : (zlib.deflate stream [] .finish kCompressionBufferSize).result = .ok := by
        by_contra hne
        exact hgood ⟨hne, hend⟩
      rw [if_pos (by simp [hend])] at hloop
      obtain ⟨made, stream'', rfl, hended⟩ := ih (h.more hok) hloop
      refine ⟨_, stream'', List.append_assoc .., ?_⟩
      rw [List.append_assoc] at hended
      exact hended

/-- A finish that succeeds ends the session. -/
theorem finish_session {zlib : Zlib σ} (hzlib : zlib.RoundTrip) {stream : σ} {given out : Bytes}
    {flushed : Bool} (h : Deflating zlib stream given out flushed) {output : Bytes}
    {after : DeflateRawStream σ}
    (hfinish : finish zlib ⟨some stream, false⟩ = (true, output, after)) :
    ∃ stream', Ended zlib stream' given (out ++ output) := by
  simp only [finish, writeFlush] at hfinish
  split at hfinish
  · simp at hfinish
  rcases hloop : writeLoop zlib .finish (zlib.deflateCalls stream [] .finish + 1) stream [] []
    with ⟨result, made, stream'⟩
  rw [hloop] at hfinish
  cases result with
  | ok => simp at hfinish
  | streamEnd =>
    cases hfinish
    obtain ⟨made', stream'', rfl, hended⟩ := writeLoop_finish hzlib (.start h) hloop
    exact ⟨stream'', hended⟩
  | bufError => simp at hfinish
  | other => simp at hfinish

theorem writeLoop_extends (zlib : Zlib σ) (flush : Flush) (fuel : Nat) (stream : σ)
    (input before : Bytes) :
    before <+: (writeLoop zlib flush fuel stream input before).2.1 := by
  induction fuel generalizing stream input before with
  | zero => exact List.prefix_refl _
  | succ fuel ih =>
    rw [writeLoop]
    dsimp only
    split
    · exact List.prefix_refl _
    split
    · exact (List.prefix_append _ _).trans (ih _ _ _)
    · exact List.prefix_append _ _

/-- What a write appends starts with what its first call puts out. -/
theorem first_prefix_write {zlib : Zlib σ} {stream : σ} {data output : Bytes}
    {after : DeflateRawStream σ}
    (hwrite : write zlib ⟨some stream, false⟩ data = (true, output, after)) :
    (zlib.deflate stream data .syncFlush kCompressionBufferSize).produced <+: output := by
  simp only [write, writeFlush] at hwrite
  split at hwrite
  · simp at hwrite
  rcases hloop : writeLoop zlib .syncFlush (zlib.deflateCalls stream data .syncFlush + 1) stream
    data [] with ⟨result, made, stream'⟩
  rw [hloop] at hwrite
  rw [writeLoop] at hloop
  dsimp only at hloop
  split at hloop
  · rename_i hbad
    cases hloop
    split at hwrite <;> simp_all
  split at hloop
  · have hmade := writeLoop_extends zlib .syncFlush (zlib.deflateCalls stream data .syncFlush)
      (zlib.deflate stream data .syncFlush kCompressionBufferSize).stream
      (data.drop (zlib.deflate stream data .syncFlush kCompressionBufferSize).consumed)
      ([] ++ (zlib.deflate stream data .syncFlush kCompressionBufferSize).produced)
    rw [hloop, List.nil_append] at hmade
    split at hwrite <;> simp_all
  · cases hloop
    split at hwrite <;> simp_all

/-- A sync flush of data takes at least five bytes: the empty block it ends with. -/
def FlushCosts (zlib : Zlib σ) : Prop :=
  ∀ {stream given out flushed}, Deflating zlib stream given out flushed →
    ∀ {data output after}, data ≠ [] → write zlib ⟨some stream, false⟩ data = (true, output, after) →
      5 ≤ output.length

/-! ### What is not refused -/

theorem writeLoop_flush_ok {zlib : Zlib σ} (hserves : zlib.Serves) {fuel : Nat} {stream : σ}
    {given out : Bytes} {flushed : Bool} (h : Deflating zlib stream given out flushed)
    {input : Bytes} (hinput : input ≠ [] ∨ flushed = false) (before : Bytes)
    (hfuel : zlib.deflateCalls stream input .syncFlush < fuel) :
    ∃ output stream', writeLoop zlib .syncFlush fuel stream input before =
      (.ok, output, stream') := by
  induction fuel generalizing stream given out flushed input before with
  | zero => omega
  | succ fuel ih =>
    have hok := hserves.flush_ok h input hinput
    rw [writeLoop]
    dsimp only
    rw [if_neg (by simp [hok])]
    split
    · rename_i hagain
      have hless := hserves.deflate_progress stream input .syncFlush (.inl hok) hagain
      -- input is left, or the room was used up and the flush is not complete
      refine ih (h.flush input hok) ?_ _ (by omega)
      rcases hagain with hleft | hfull | ⟨hfinish, -⟩
      · exact .inl hleft
      · exact .inr (decide_eq_false (not_not.mpr hfull))
      · cases hfinish
    · exact ⟨_, _, by rw [hok]⟩

/-- Data is always taken, and an empty flush if it is the first. -/
theorem write_succeeds {zlib : Zlib σ} (hserves : zlib.Serves) {stream : σ} {given out : Bytes}
    {flushed : Bool} (h : Deflating zlib stream given out flushed) {data : Bytes}
    (hdata : data ≠ [] ∨ flushed = false) (hlength : data.length ≤ uIntMax) :
    ∃ output after, write zlib ⟨some stream, false⟩ data = (true, output, after) := by
  obtain ⟨output, stream', hloop⟩ := writeLoop_flush_ok hserves h hdata [] (Nat.lt_succ_self _)
  refine ⟨output, ⟨some stream', false⟩, ?_⟩
  simp only [write, writeFlush]
  rw [if_neg (by simp; omega), hloop]
  rfl

/-- A flush with nothing new is refused. -/
theorem write_nil_refused {zlib : Zlib σ} (hserves : zlib.Serves) {stream : σ} {given out : Bytes}
    (h : Deflating zlib stream given out true) :
    (write zlib ⟨some stream, false⟩ []).1 = false := by
  have hresult := hserves.flush_again h
  simp only [write, writeFlush]
  rw [if_neg (by simp), writeLoop]
  dsimp only
  rw [if_pos (by simp [hresult]), hresult]

theorem writeLoop_finish_ends {zlib : Zlib σ} (hzlib : zlib.RoundTrip) (hserves : zlib.Serves)
    {fuel : Nat} {stream : σ} {given out : Bytes} (h : Finishing zlib stream given out)
    (before : Bytes) (hfuel : zlib.deflateCalls stream [] .finish < fuel) :
    ∃ output stream', writeLoop zlib .finish fuel stream [] before =
      (.streamEnd, output, stream') := by
  induction fuel generalizing stream out before with
  | zero => omega
  | succ fuel ih =>
    have hresult := hserves.finish_ok h
    have hprogress := hserves.deflate_progress stream [] .finish hresult
    rw [writeLoop]
    dsimp only
    rw [if_neg (by rcases hresult with hresult | hresult <;> simp [hresult])]
    split
    · rename_i hagain
      have hless := hprogress hagain
      rw [List.drop_nil] at hless ⊢
      rcases hresult with hok | hend
      · exact ih (h.more hok) _ (by omega)
      · obtain ⟨fuel, rfl⟩ : ∃ n, fuel = n + 1 := ⟨fuel - 1, by omega⟩
        exact ⟨_, _, writeLoop_ended hzlib fuel (.last h hend) _⟩
    · rename_i hstop
      have hend : (zlib.deflate stream [] .finish kCompressionBufferSize).result =
          .streamEnd := by
        by_contra hne
        exact hstop (.inr (.inr ⟨rfl, hne⟩))
      rw [hend]
      exact ⟨_, _, rfl⟩

theorem finish_succeeds {zlib : Zlib σ} (hzlib : zlib.RoundTrip) (hserves : zlib.Serves)
    {stream : σ} {given out : Bytes} {flushed : Bool}
    (h : Deflating zlib stream given out flushed) :
    ∃ output after, finish zlib ⟨some stream, false⟩ = (true, output, after) := by
  obtain ⟨output, stream', hloop⟩ :=
    writeLoop_finish_ends hzlib hserves (.start h) [] (Nat.lt_succ_self _)
  refine ⟨output, ⟨some stream', true⟩, ?_⟩
  simp only [finish, writeFlush]
  rw [if_neg (by simp), hloop]

end DeflateRawStream

/-! ## 4. The inflater's loop -/

namespace InflateRawStream

/-- Part of some input is not more than all of it. -/
theorem eq_nil_of_take_eq {input rest : Bytes} {n : Nat} (hall : input.take n = input ++ rest) :
    rest = [] ∧ input.drop n = [] := by
  have hlength := congrArg List.length hall
  rw [List.length_take, List.length_append] at hlength
  have hrest : rest.length = 0 := by omega
  exact ⟨List.length_eq_zero_iff.mp hrest, List.drop_eq_nil_iff.mpr (by omega)⟩

/-- The inflater is in a session, and has counted its output. -/
structure InSession (zlib : Zlib σ) (inflater : InflateRawStream σ) (stream : σ) (fed out : Bytes) :
    Prop where
  session : Inflating zlib stream fed out
  unfinished : inflater.finished = false
  outputSize : inflater.outputSize = UInt64.ofNat out.length

/-- The room for output never runs out before the payload does. -/
theorem outputCapacity_pos {inflater : InflateRawStream σ} {out payload : Bytes}
    (hsize : inflater.outputSize = UInt64.ofNat out.length) (hout : out <+: payload)
    (hpayload : payload.length ≤ inflater.maximumOutputSize.toNat)
    (hmaximum : inflater.maximumOutputSize.toNat < 2 ^ 64 - 1) :
    0 < inflater.outputCapacity ∧
      (inflater.maximumOutputSize - inflater.outputSize).toNat =
        inflater.maximumOutputSize.toNat - out.length := by
  have hlength := hout.length_le
  have hroom : (inflater.maximumOutputSize - inflater.outputSize).toNat =
      inflater.maximumOutputSize.toNat - out.length := by
    rw [hsize, UInt64.toNat_sub, UInt64.toNat_ofNat']
    omega
  refine ⟨?_, hroom⟩
  rw [outputCapacity, UInt64.toNat_add, hroom]
  have hbuffer : 0 < kCompressionBufferSize := by decide
  have hone : (1 : UInt64).toNat = 1 := rfl
  omega

/-- **A write on the way.**  Fed with the next piece of a deflated stream the inflater
    accepts it; it is at the end, with the payload, exactly if that was the last piece. -/
theorem writeLoop_session {zlib : Zlib σ} (hzlib : zlib.RoundTrip) {ended : σ}
    {payload compressed : Bytes} (hended : Ended zlib ended payload compressed) {fuel : Nat}
    {inflater : InflateRawStream σ} {stream : σ} {fed out input rest before : Bytes}
    (h : InSession zlib inflater stream fed out) (hout : out <+: payload)
    (hpayload : payload.length ≤ inflater.maximumOutputSize.toNat)
    (hmaximum : inflater.maximumOutputSize.toNat < 2 ^ 64 - 1)
    (hcompressed : fed ++ input ++ rest = compressed)
    (hfuel : inflater.maximumOutputSize.toNat - out.length < fuel) :
    ∃ made after, writeLoop zlib fuel inflater stream input before = (true, before ++ made, after) ∧
      after.maximumOutputSize = inflater.maximumOutputSize ∧ out ++ made <+: payload ∧
      ((rest = [] ∧ after.finished = true ∧ out ++ made = payload) ∨
        (rest ≠ [] ∧ ∃ stream', after.stream = some stream' ∧
          InSession zlib after stream' (fed ++ input) (out ++ made))) := by
  induction fuel generalizing inflater stream fed out input before with
  | zero => omega
  | succ fuel ih =>
    obtain ⟨hcapacity, hroom⟩ := outputCapacity_pos h.outputSize hout hpayload hmaximum
    have hcall := hzlib.inflate_undoes hended h.session hcompressed hcapacity
    have hfits := hcall.produced.length_le
    rw [List.length_append] at hfits
    have hcounted : inflater.outputSize +
        UInt64.ofNat (zlib.inflate stream input inflater.outputCapacity).produced.length =
          UInt64.ofNat (out ++
            (zlib.inflate stream input inflater.outputCapacity).produced).length := by
      rw [List.length_append, UInt64.ofNat_add, h.outputSize]
    rw [writeLoop]
    dsimp only
    rw [if_neg (Nat.pos_iff_ne_zero.mp hcapacity), if_neg hcall.result,
      if_neg (by rw [hroom]; omega)]
    by_cases hend : (zlib.inflate stream input inflater.outputCapacity).result = .streamEnd
    · -- the end is the end of the whole stream: nothing is left of it
      obtain ⟨hall, hpayload⟩ := hcall.streamEnd hend
      rw [← hcompressed, List.append_assoc, List.append_cancel_left_eq] at hall
      obtain ⟨hrest, hused⟩ := eq_nil_of_take_eq hall
      rw [if_pos hend, hused]
      exact ⟨_, _, rfl, rfl, hcall.produced, .inl ⟨hrest, rfl, hpayload⟩⟩
    rw [if_neg hend]
    have hnext := h.session.call input inflater.outputCapacity ⟨hcall.result, hend⟩
    -- where the call stops with all of the input used, there is more to come
    have hstopped : (zlib.inflate stream input inflater.outputCapacity).produced.length ≠
          inflater.outputCapacity →
        input.drop (zlib.inflate stream input inflater.outputCapacity).consumed = [] ∧
          rest ≠ [] ∧ Inflating zlib
            (zlib.inflate stream input inflater.outputCapacity).stream (fed ++ input)
            (out ++ (zlib.inflate stream input inflater.outputCapacity).produced) := by
      intro hleft
      have hused := (hcall.stops hend).resolve_right hleft
      rw [List.take_of_length_le (List.drop_eq_nil_iff.mp hused)] at hnext
      exact ⟨hused, fun hrest => hleft (hcall.ends hrest hend), hnext⟩
    split
    · rename_i hbuffer
      obtain ⟨hused, hrest, hsession⟩ := hstopped (by omega)
      rw [hused]
      exact ⟨_, _, rfl, rfl, hcall.produced,
        .inr ⟨hrest, _, rfl, hsession, h.unfinished, hcounted⟩⟩
    split
    · rename_i hagain
      have hfilled : (zlib.inflate stream input inflater.outputCapacity).produced.length =
          inflater.outputCapacity := by
        by_contra hleft
        obtain ⟨hused, -, -⟩ := hstopped hleft
        exact hagain.elim (fun hne => hne hused) hleft
      have hcompressed' : fed ++
          input.take (zlib.inflate stream input inflater.outputCapacity).consumed ++
          input.drop (zlib.inflate stream input inflater.outputCapacity).consumed ++ rest =
            compressed := by
        rw [List.append_assoc fed, List.take_append_drop]
        exact hcompressed
      obtain ⟨made, after, hloop, hmax, hmade, hcases⟩ :=
        @ih { inflater with
              stream := some (zlib.inflate stream input inflater.outputCapacity).stream
              outputSize := inflater.outputSize + UInt64.ofNat
                (zlib.inflate stream input inflater.outputCapacity).produced.length }
          (zlib.inflate stream input inflater.outputCapacity).stream _ _ _
          (before ++ (zlib.inflate stream input inflater.outputCapacity).produced)
          ⟨hnext, h.unfinished, hcounted⟩ hcall.produced hpayload hmaximum hcompressed'
          (by dsimp only; rw [List.length_append]; omega)
      rw [List.append_assoc fed, List.take_append_drop] at hcases
      rw [List.append_assoc out] at hmade hcases
      rw [hloop, List.append_assoc]
      exact ⟨_, after, rfl, hmax, hmade, hcases⟩
    · rename_i hdone
      obtain ⟨hused, hrest, hsession⟩ := hstopped (not_or.mp hdone).2
      exact ⟨_, _, rfl, rfl, hcall.produced,
        .inr ⟨hrest, _, rfl, hsession, h.unfinished, hcounted⟩⟩

/-- `Write` with the next piece of a deflated stream. -/
theorem write_session {zlib : Zlib σ} (hzlib : zlib.RoundTrip) {ended : σ}
    {payload compressed : Bytes} (hended : Ended zlib ended payload compressed)
    {inflater : InflateRawStream σ} {stream : σ} (hstream : inflater.stream = some stream)
    {fed out input rest : Bytes} (h : InSession zlib inflater stream fed out)
    (hout : out <+: payload) (hpayload : payload.length ≤ inflater.maximumOutputSize.toNat)
    (hmaximum : inflater.maximumOutputSize.toNat < 2 ^ 64 - 1)
    (hcompressed : fed ++ input ++ rest = compressed) (hinput : input.length ≤ uIntMax) :
    ∃ made after, inflater.write zlib input = (true, made, after) ∧
      after.maximumOutputSize = inflater.maximumOutputSize ∧ out ++ made <+: payload ∧
      ((rest = [] ∧ after.finished = true ∧ out ++ made = payload) ∨
        (rest ≠ [] ∧ ∃ stream', after.stream = some stream' ∧
          InSession zlib after stream' (fed ++ input) (out ++ made))) := by
  have hroom := (outputCapacity_pos h.outputSize hout hpayload hmaximum).2
  obtain ⟨made, after, hloop, hcases⟩ :=
    @writeLoop_session σ zlib hzlib ended payload compressed hended
      (input.length + (inflater.maximumOutputSize - inflater.outputSize).toNat + 1) inflater stream
      fed out input rest [] h hout hpayload hmaximum hcompressed (by omega)
  refine ⟨made, after, ?_, hcases⟩
  rw [write, hstream]
  dsimp only
  rw [h.unfinished, if_neg (by simp; omega)]
  exact hloop

end InflateRawStream

end LivekitClient.DataStreamCompression
