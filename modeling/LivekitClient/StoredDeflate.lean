/-
  LivekitClient/StoredDeflate.lean
  ================================
  **A zlib that stores.**

  Data that does not compress is put into stored blocks: a block is five bytes of header
  and the data.  A sync flush ends with an empty block, `00 00 00 ff ff`, and the stream
  with the last block, `03 00`.  This is what zlib makes of such data, call by call; that
  it keeps the laws of `ZlibSessions` shows that the laws can be kept.

  The inflater reads a byte at a time.  It is described without limits on the room by
  `feed`, of which every call of `inflate` does a part.
-/
import LivekitClient.OutgoingDataStreams
import LivekitClient.ZlibSessions

namespace LivekitClient.StoredDeflate

open LivekitClient.KeyProvider
open LivekitClient.DataStreamCompression
open LivekitClient.OutgoingDataStreams

/-! ## 1. Reading -/

/-- Where the inflater is in the stream.  In `data n` there are `n + 1` bytes to come. -/
inductive Reading where
  | start
  | lenLo
  | lenHi (lo : UInt8)
  | nlenLo (lo hi : UInt8)
  | nlenHi (lo hi : UInt8)
  | data (n : Nat)
  | last
  | done
  | bad
deriving DecidableEq

namespace Reading

def ofLength : Nat → Reading
  | 0 => start
  | n + 1 => data n

/-- One byte. -/
def step : Reading → UInt8 → Reading
  | start, byte => if byte = 0 then lenLo else if byte = 3 then last else bad
  | lenLo, byte => lenHi byte
  | lenHi lo, byte => nlenLo lo byte
  | nlenLo lo hi, byte => if byte = ~~~lo then nlenHi lo hi else bad
  | nlenHi lo hi, byte => if byte = ~~~hi then ofLength (lo.toNat + 256 * hi.toNat) else bad
  | data n, _ => ofLength n
  | last, byte => if byte = 0 then done else bad
  | done, _ => bad
  | bad, _ => bad

/-- The byte is data. -/
def copies : Reading → Bool
  | data _ => true
  | _ => false

/-- All of the input, with room for all of the output. -/
def feed : Reading → Bytes → Reading × Bytes
  | reading, [] => (reading, [])
  | reading, byte :: rest =>
    let (after, out) := feed (reading.step byte) rest
    (after, (if reading.copies then [byte] else []) ++ out)

theorem feed_append (reading : Reading) (input input' : Bytes) :
    feed reading (input ++ input') =
      ((feed (feed reading input).1 input').1,
       (feed reading input).2 ++ (feed (feed reading input).1 input').2) := by
  induction input generalizing reading with
  | nil => rfl
  | cons byte rest ih =>
    rw [List.cons_append, feed, ih, feed]
    dsimp only
    rw [List.append_assoc]

theorem feed_bad (input : Bytes) : feed bad input = (bad, []) := by
  induction input with
  | nil => rfl
  | cons byte rest ih =>
    rw [feed, step, ih]
    rfl

/-- Nothing comes after the end. -/
theorem eq_nil_of_feed_done {input : Bytes} (h : (feed done input).1 = done) : input = [] := by
  cases input with
  | nil => rfl
  | cons byte rest =>
    rw [feed, step, feed_bad] at h
    cases h

theorem feed_data (n : Nat) (content rest : Bytes) (hlength : content.length = n) :
    feed (ofLength n) (content ++ rest) =
      ((feed start rest).1, content ++ (feed start rest).2) := by
  induction content generalizing n with
  | nil =>
    subst hlength
    rfl
  | cons byte more ih =>
    subst hlength
    rw [List.cons_append, List.length_cons, ofLength, feed, step, ih _ rfl]
    rfl

end Reading

/-! ## 2. Blocks -/

def block (content : Bytes) : Bytes :=
  [0, UInt8.ofNat content.length, UInt8.ofNat (content.length / 256),
    ~~~UInt8.ofNat content.length, ~~~UInt8.ofNat (content.length / 256)] ++ content

def blocks (data : Bytes) : Bytes := (pieces 65535 data).flatMap block

/-- The empty block of a sync flush. -/
def marker : Bytes := block []

def lastBlock : Bytes := [3, 0]

namespace Reading

theorem feed_block {content : Bytes} (hlength : content.length ≤ 65535) (rest : Bytes) :
    feed start (block content ++ rest) =
      ((feed start rest).1, content ++ (feed start rest).2) := by
  have hsize : (UInt8.ofNat content.length).toNat +
      256 * (UInt8.ofNat (content.length / 256)).toNat = content.length := by
    rw [UInt8.toNat_ofNat', UInt8.toNat_ofNat']
    omega
  rw [← feed_data content.length content rest rfl]
  simp only [block, List.cons_append, List.nil_append, feed, step, copies, if_true, hsize,
    Bool.false_eq_true, if_false]

theorem feed_blocks (contents : List Bytes) (hcontents : ∀ content ∈ contents,
      content.length ≤ 65535) (rest : Bytes) :
    feed start (contents.flatMap block ++ rest) =
      ((feed start rest).1, contents.flatten ++ (feed start rest).2) := by
  induction contents with
  | nil => rfl
  | cons content others ih =>
    have hothers := ih fun other hmem => hcontents other (List.mem_cons_of_mem _ hmem)
    rw [List.flatMap_cons, List.append_assoc, feed_block (hcontents content List.mem_cons_self),
      hothers, List.flatten_cons, List.append_assoc]

/-- Blocks give back their data. -/
theorem feed_data_blocks (data rest : Bytes) :
    feed start (blocks data ++ rest) = ((feed start rest).1, data ++ (feed start rest).2) := by
  have hpos : 0 < 65535 := by decide
  rw [blocks, feed_blocks _ (fun content hmem => (mem_pieces hpos hmem).2), flatten_pieces hpos]

end Reading

/-! ## 3. The calls -/

inductive Stream where
  /-- What is not yet put out, and whether the last flush is complete. -/
  | deflating (pending : Bytes) (flushed : Bool)
  | finishing (pending : Bytes)
  | inflating (reading : Reading)
deriving DecidableEq

/-- All that a flush has to put out.  One that goes on has had its marker. -/
def flushOutput (pending input : Bytes) : Bytes :=
  if pending ≠ [] ∧ input = [] then pending else pending ++ (blocks input ++ marker)

/-- What `deflate` has to put out. -/
def output (stream : Stream) (input : Bytes) (flush : Flush) : Bytes :=
  match stream, flush with
  | .deflating pending _, .syncFlush => flushOutput pending input
  | .deflating pending _, .finish => pending ++ (blocks input ++ lastBlock)
  | .finishing pending, _ => pending
  | .inflating _, _ => []

def deflate (stream : Stream) (input : Bytes) (flush : Flush) (room : Nat) : ZCall Stream :=
  let out := output stream input flush
  match stream, flush with
  | .deflating pending flushed, .syncFlush =>
    if pending = [] ∧ input = [] ∧ flushed then ⟨.bufError, 0, [], stream⟩
    else ⟨.ok, input.length, out.take room,
      .deflating (out.drop room) (decide (out.length < room))⟩
  | .deflating _ _, .finish =>
    ⟨if out.length < room then .streamEnd else .ok, input.length, out.take room,
      .finishing (out.drop room)⟩
  | .finishing _, .finish =>
    ⟨if out.length < room then .streamEnd else .ok, input.length, out.take room,
      .finishing (out.drop room)⟩
  | .finishing _, .syncFlush => ⟨.other, 0, [], stream⟩
  | .inflating _, _ => ⟨.other, 0, [], stream⟩

/-- As much of the input as there is room for: what is read, what is put out, and where
    the inflater is then. -/
def inflateLoop : Reading → Bytes → Nat → Nat × Bytes × Reading
  | reading, [], _ => (0, [], reading)
  | reading, byte :: rest, room =>
    if reading = .done ∨ (reading.copies ∧ room = 0) then (0, [], reading)
    else
      let copied := if reading.copies then [byte] else []
      let (consumed, out, after) := inflateLoop (reading.step byte) rest (room - copied.length)
      (consumed + 1, copied ++ out, after)

def inflate (stream : Stream) (input : Bytes) (room : Nat) : ZCall Stream :=
  match stream with
  | .inflating reading =>
    let (consumed, out, after) := inflateLoop reading input room
    ⟨if after = .done then .streamEnd else if after = .bad then .other
      else if consumed = 0 then .bufError else .ok, consumed, out, .inflating after⟩
  | _ => ⟨.other, 0, [], stream⟩

def zlib : Zlib Stream where
  inflateInit := some (.inflating .start)
  inflate := inflate
  deflateInit := some (.deflating [] false)
  deflate := deflate
  deflateCalls := fun stream input flush => (output stream input flush).length

/-- What zlib itself makes of these bytes with a flush and the end after it. -/
example : (deflate (.deflating [] false) [200, 201] .syncFlush 64).produced =
    [0, 2, 0, 253, 255, 200, 201, 0, 0, 0, 255, 255] := by
  decide

/-- A call of `inflate` feeds the part of the input that it takes. -/
theorem inflateLoop_feed (reading : Reading) (input : Bytes) (room : Nat) :
    (inflateLoop reading input room).1 ≤ input.length ∧
      (inflateLoop reading input room).2.1.length ≤ room ∧
      reading.feed (input.take (inflateLoop reading input room).1) =
        ((inflateLoop reading input room).2.2, (inflateLoop reading input room).2.1) ∧
      (input.drop (inflateLoop reading input room).1 = [] ∨
        (inflateLoop reading input room).2.2 = .done ∨
        (inflateLoop reading input room).2.1.length = room) := by
  induction input generalizing reading room with
  | nil => simp [inflateLoop, Reading.feed]
  | cons byte rest ih =>
    rw [inflateLoop]
    split
    · rename_i hstop
      refine ⟨by simp, by simp, by simp [Reading.feed], ?_⟩
      rcases hstop with hdone | ⟨-, hroom⟩
      · exact .inr (.inl hdone)
      · exact .inr (.inr hroom.symm)
    · rename_i hgoes
      obtain ⟨hconsumed, hroom, hfeed, hstop⟩ :=
        ih (reading.step byte) (room - (if reading.copies then [byte] else []).length)
      have hcopied : (if reading.copies then [byte] else []).length ≤ room := by
        split
        · rename_i hcopies
          have : room ≠ 0 := fun hzero => hgoes (.inr ⟨hcopies, hzero⟩)
          rw [List.length_singleton]
          omega
        · exact Nat.zero_le _
      dsimp only
      generalize inflateLoop (reading.step byte) rest
        (room - (if reading.copies then [byte] else []).length) = result at *
      obtain ⟨consumed, out, after⟩ := result
      dsimp only at *
      rw [List.length_cons, List.length_append, List.take_succ_cons, List.drop_succ_cons,
        Reading.feed, hfeed]
      refine ⟨by omega, by omega, rfl, ?_⟩
      rcases hstop with hused | hdone | hfull
      · exact .inl hused
      · exact .inr (.inl hdone)
      · exact .inr (.inr (by omega))

/-! ## 4. Its sessions -/

theorem deflate_flush {pending input : Bytes} {flushed : Bool}
    (hsome : ¬ (pending = [] ∧ input = [] ∧ flushed = true)) (room : Nat) :
    zlib.deflate (.deflating pending flushed) input .syncFlush room =
      ⟨.ok, input.length, (flushOutput pending input).take room,
        .deflating ((flushOutput pending input).drop room)
          (decide ((flushOutput pending input).length < room))⟩ :=
  if_neg hsome

/-- What a session has put out and has yet to put out holds what it was given. -/
theorem deflating_stream {stream : Stream} {given out : Bytes} {flushed : Bool}
    (h : Deflating zlib stream given out flushed) :
    ∃ pending, stream = .deflating pending flushed ∧ (flushed = true → pending = []) ∧
      ∀ rest, Reading.feed .start (out ++ (pending ++ rest)) =
        ((Reading.feed .start rest).1, given ++ (Reading.feed .start rest).2) := by
  induction h with
  | init hinit =>
    cases hinit
    exact ⟨[], rfl, fun _ => rfl, fun _ => rfl⟩
  | @flush stream given out flushed h input hok ih =>
    obtain ⟨pending, rfl, hflushed, hfeed⟩ := ih
    have hsome : ¬ (pending = [] ∧ input = [] ∧ flushed = true) := by
      intro hnothing
      simp [zlib, deflate, hnothing] at hok
    have hall : ∀ rest, Reading.feed .start (out ++ (flushOutput pending input ++ rest)) =
        ((Reading.feed .start rest).1, given ++ input ++ (Reading.feed .start rest).2) := by
      intro rest
      rw [flushOutput]
      split
      · rename_i hgoes
        rw [hfeed, hgoes.2, List.append_nil]
      · rw [List.append_assoc pending, hfeed, List.append_assoc (blocks input),
          Reading.feed_data_blocks, marker, Reading.feed_block (Nat.zero_le _), List.nil_append,
          List.append_assoc given]
    rw [deflate_flush hsome, List.take_length]
    dsimp only
    refine ⟨(flushOutput pending input).drop kCompressionBufferSize, ?_, ?_, ?_⟩
    · congr 1
      rw [List.length_take, decide_eq_decide]
      omega
    · intro hroom
      rw [decide_eq_true_eq, List.length_take] at hroom
      exact List.drop_eq_nil_iff.mpr (by omega)
    · intro rest
      rw [List.append_assoc, ← List.append_assoc (List.take _ _), List.take_append_drop]
      exact hall rest

def Stream.deflates : Stream → Bool
  | .inflating _ => false
  | _ => true

theorem deflate_finish {stream : Stream} (h : stream.deflates) (input : Bytes) (room : Nat) :
    zlib.deflate stream input .finish room =
      ⟨if (output stream input .finish).length < room then .streamEnd else .ok, input.length,
        (output stream input .finish).take room,
        .finishing ((output stream input .finish).drop room)⟩ := by
  cases stream with
  | deflating pending flushed => rfl
  | finishing pending => rfl
  | inflating reading => cases h

/-- Told to finish, the stream has the last block to put out, or has put it out. -/
theorem finishing_stream {stream : Stream} {given out : Bytes}
    (h : Finishing zlib stream given out) :
    stream.deflates = true ∧
      Reading.feed .start (out ++ output stream [] .finish) = (.done, given) := by
  induction h with
  | start h =>
    obtain ⟨pending, rfl, -, hfeed⟩ := deflating_stream h
    refine ⟨rfl, ?_⟩
    rw [output, hfeed, Reading.feed_data_blocks, List.nil_append]
    exact Prod.ext rfl (List.append_nil _)
  | @more stream given out h hok ih =>
    obtain ⟨hdeflates, hfeed⟩ := ih
    rw [deflate_finish hdeflates []]
    refine ⟨rfl, ?_⟩
    rw [output, List.append_assoc, List.take_append_drop]
    exact hfeed

theorem ended_stream {stream : Stream} {given out : Bytes} (h : Ended zlib stream given out) :
    stream = .finishing [] ∧ Reading.feed .start out = (.done, given) := by
  cases h with
  | @last stream given out h hend =>
  obtain ⟨hdeflates, hfeed⟩ := finishing_stream h
  rw [deflate_finish hdeflates []] at hend ⊢
  have hroom : (output stream [] .finish).length < kCompressionBufferSize := by
    by_contra hfull
    simp [hfull] at hend
  dsimp only
  rw [List.drop_eq_nil_iff.mpr (by omega), List.take_of_length_le (by omega)]
  exact ⟨rfl, hfeed⟩

/-- An inflater that is on its way has fed what it was given. -/
theorem inflating_stream {stream : Stream} {fed out : Bytes} (h : Inflating zlib stream fed out) :
    ∃ reading, stream = .inflating reading ∧ Reading.feed .start fed = (reading, out) := by
  induction h with
  | init hinit =>
    cases hinit
    exact ⟨.start, rfl, rfl⟩
  | @call stream fed out h input room hresult ih =>
    obtain ⟨reading, rfl, hfeed⟩ := ih
    obtain ⟨-, -, hpart, -⟩ := inflateLoop_feed reading input room
    refine ⟨(inflateLoop reading input room).2.2, rfl, ?_⟩
    have hcall : (zlib.inflate (.inflating reading) input room).consumed =
        (inflateLoop reading input room).1 := rfl
    rw [hcall, Reading.feed_append, hfeed, hpart]
    rfl

/-! ## 5. Its laws -/

/-- A flush that goes on has less to put out. -/
theorem length_flushOutput_drop {out : Bytes} (hfull : kCompressionBufferSize ≤ out.length) :
    (flushOutput (out.drop kCompressionBufferSize) []).length < out.length := by
  have hpos : 5 < kCompressionBufferSize := by decide
  rw [flushOutput]
  split
  · rw [List.length_drop]
    omega
  · rename_i hnothing
    have hnil : out.drop kCompressionBufferSize = [] := by
      by_contra hne
      exact hnothing ⟨hne, rfl⟩
    rw [hnil]
    exact Nat.lt_of_lt_of_le hpos hfull

theorem lawful : zlib.Lawful where
  inflate_consumed := by
    intro stream input room
    cases stream with
    | inflating reading => exact (inflateLoop_feed reading input room).1
    | deflating pending flushed => exact Nat.zero_le _
    | finishing pending => exact Nat.zero_le _
  inflate_produced := by
    intro stream input room
    cases stream with
    | inflating reading => exact (inflateLoop_feed reading input room).2.1
    | deflating pending flushed => exact Nat.zero_le _
    | finishing pending => exact Nat.zero_le _
  inflate_progress := by
    intro stream input room hok
    cases stream with
    | inflating reading =>
      refine .inl (Nat.pos_of_ne_zero fun hzero => ?_)
      have hconsumed : (inflateLoop reading input room).1 = 0 := hzero
      simp only [zlib, inflate, hconsumed, if_true] at hok
      split at hok
      · cases hok
      · split at hok <;> cases hok
    | deflating pending flushed => cases hok
    | finishing pending => cases hok
  deflate_progress := by
    intro stream input flush call hok hagain
    -- the calls go on only when the room is used up
    have hfull : ∀ {result after}, call = ⟨result, input.length,
          (output stream input flush).take kCompressionBufferSize, after⟩ →
        (result ≠ .streamEnd → flush = .finish →
          kCompressionBufferSize ≤ (output stream input flush).length) →
        input.drop call.consumed = [] ∧
          kCompressionBufferSize ≤ (output stream input flush).length := by
      intro result after hcall hend
      rw [hcall] at hagain ⊢
      refine ⟨List.drop_length, ?_⟩
      rcases hagain with hrest | hroom | ⟨hfinish, hresult⟩
      · exact absurd List.drop_length hrest
      · rw [List.length_take] at hroom
        omega
      · exact hend hresult hfinish
    cases flush with
    | syncFlush =>
      cases stream with
      | deflating pending flushed =>
        have hsome : ¬ (pending = [] ∧ input = [] ∧ flushed = true) := by
          intro hnothing
          simp [call, zlib, deflate, hnothing] at hok
        have hcall := deflate_flush hsome kCompressionBufferSize
        obtain ⟨hrest, hfull⟩ := hfull hcall nofun
        rw [hrest, show call = _ from hcall]
        exact length_flushOutput_drop hfull
      | finishing pending => simp [call, zlib, deflate] at hok
      | inflating reading => simp [call, zlib, deflate] at hok
    | finish =>
      have hdeflates : stream.deflates := by
        cases stream with
        | inflating reading => simp [call, zlib, deflate] at hok
        | deflating pending flushed => rfl
        | finishing pending => rfl
      have hcall := deflate_finish hdeflates input kCompressionBufferSize
      obtain ⟨hrest, hfull⟩ := hfull hcall (by
        intro hresult _
        by_contra hless
        exact hresult (if_pos (Nat.lt_of_not_le hless)))
      have hpos : 0 < kCompressionBufferSize := by decide
      rw [hrest, show call = _ from hcall]
      change ((output stream input .finish).drop kCompressionBufferSize).length < _
      rw [List.length_drop]
      change _ - _ < (output stream input .finish).length
      omega

/-- It does all that is asked of a zlib. -/
theorem serves : zlib.Serves where
  toLawful := lawful
  deflateInit := nofun
  flush_ok := by
    intro stream given out flushed h input hinput
    obtain ⟨pending, rfl, -, -⟩ := deflating_stream h
    rw [deflate_flush]
    rintro ⟨-, hnil, hflushed⟩
    rcases hinput with hne | hfalse
    · exact hne hnil
    · rw [hfalse] at hflushed
      cases hflushed
  flush_again := by
    intro stream given out h
    obtain ⟨pending, rfl, hflushed, -⟩ := deflating_stream h
    rw [hflushed rfl]
    rfl
  finish_ok := by
    intro stream given out h
    rw [deflate_finish (finishing_stream h).1]
    dsimp only
    split
    · exact .inr rfl
    · exact .inl rfl

theorem roundTrip : zlib.RoundTrip where
  inflateInit := nofun
  flush_not_end := by
    intro stream given out flushed h input hend
    obtain ⟨pending, rfl, -, -⟩ := deflating_stream h
    simp only [zlib, deflate] at hend
    split at hend <;> cases hend
  finish_again := by
    intro stream given out h
    rw [(ended_stream h).1]
    exact ⟨rfl, rfl⟩
  ended_ne_nil := by
    intro stream given out h hnil
    have hfeed := (ended_stream h).2
    rw [hnil] at hfeed
    cases hfeed
  inflate_undoes := by
    intro stream payload compressed hended inflater fed out hinflating input rest hcompressed room _
    obtain ⟨reading, rfl, hfed⟩ := inflating_stream hinflating
    obtain ⟨-, -, hpart, hstop⟩ := inflateLoop_feed reading input room
    have hall := (ended_stream hended).2
    have hcall : zlib.inflate (.inflating reading) input room =
        ⟨if (inflateLoop reading input room).2.2 = .done then .streamEnd
          else if (inflateLoop reading input room).2.2 = .bad then .other
          else if (inflateLoop reading input room).1 = 0 then .bufError else .ok,
          (inflateLoop reading input room).1, (inflateLoop reading input room).2.1,
          .inflating (inflateLoop reading input room).2.2⟩ := rfl
    rw [hcall]
    generalize inflateLoop reading input room = result at hpart hstop
    obtain ⟨consumed, produced, after⟩ := result
    dsimp only at hpart hstop ⊢
    -- what is left of the stream leads from here to its end
    have hbehind : Reading.feed .start (fed ++ input.take consumed) = (after, out ++ produced) := by
      rw [Reading.feed_append, hfed, hpart]
    have hahead : (after.feed (input.drop consumed ++ rest)).1 = .done ∧
        out ++ produced ++ (after.feed (input.drop consumed ++ rest)).2 = payload := by
      rw [← hcompressed, List.append_assoc, ← List.take_append_drop consumed input,
        List.append_assoc (input.take consumed), ← List.append_assoc fed, Reading.feed_append,
        hbehind, Prod.mk.injEq] at hall
      exact hall
    have hgood : after ≠ .bad := by
      rintro rfl
      rw [Reading.feed_bad] at hahead
      cases hahead.1
    have hend : after = .done → input.drop consumed ++ rest = [] := by
      rintro rfl
      exact Reading.eq_nil_of_feed_done hahead.1
    have hresult : ∀ {result : ZResult}, (if after = .done then .streamEnd
        else if after = .bad then .other else if consumed = 0 then .bufError else .ok) = result →
          (result = .streamEnd ↔ after = .done) ∧ result ≠ .other := by
      rintro result rfl
      rw [if_neg hgood]
      split
      · simp_all
      · split <;> simp_all
    obtain ⟨hdone, hother⟩ := hresult rfl
    refine ⟨hother, ⟨_, hahead.2⟩, ?_, ?_, ?_⟩
    · intro hstreamEnd
      have hnil := hend (hdone.mp hstreamEnd)
      rw [hnil] at hahead
      obtain ⟨hused, hrest⟩ := List.append_eq_nil_iff.mp hnil
      rw [List.take_of_length_le (List.drop_eq_nil_iff.mp hused), ← hcompressed, hrest,
        List.append_nil]
      exact ⟨rfl, (List.append_nil _).symm.trans hahead.2⟩
    · intro hgoes
      exact hstop.imp_right fun hstopped => hstopped.resolve_left fun h => hgoes (hdone.mpr h)
    · intro hrest hgoes
      have hnotDone : after ≠ .done := fun h => hgoes (hdone.mpr h)
      rcases hstop with hused | h | hfull
      · rw [hused, hrest] at hahead
        exact absurd hahead.1 hnotDone
      · exact absurd h hnotDone
      · exact hfull

theorem flushCosts : DeflateRawStream.FlushCosts zlib := by
  intro stream given out flushed h data output after hdata hwrite
  obtain ⟨pending, rfl, -, -⟩ := deflating_stream h
  have hsome : ¬ (pending = [] ∧ data = [] ∧ flushed = true) := fun hnothing => hdata hnothing.2.1
  have hfirst : 5 ≤ ((flushOutput pending data).take kCompressionBufferSize).length := by
    have hbuffer : 5 ≤ kCompressionBufferSize := by decide
    have hmarker : marker.length = 5 := rfl
    rw [flushOutput, if_neg fun hgoes => hdata hgoes.2, List.length_take, List.length_append,
      List.length_append, hmarker]
    omega
  have hprefix := DeflateRawStream.first_prefix_write hwrite
  rw [deflate_flush hsome] at hprefix
  exact Nat.le_trans hfirst hprefix.length_le

end LivekitClient.StoredDeflate
