/-
  LivekitClient/InflationTurns.lean
  =================================
  **Inflating what a stranger sends** (`InflateRawStream::Impl::Write` in
  `src/core/detail/data_stream_compression.cpp`): the turns of the loop.

  The buffer has room for one byte more than may still be put out; a call of `inflate`
  that fills that byte is one too many.  `turned` says everything that a turn can do:
  that output is counted and that the loop returns follow from it.  What zlib does is a
  law about its sessions: `RawDeflate` says what data means, and `Zlib.Inflates` that
  `inflate` keeps to it however it is called.
-/
import LivekitClient.ZlibSessions
import Mathlib.Logic.Relation

namespace LivekitClient.DataStreamCompression

open LivekitClient.KeyProvider

variable {σ : Type}

/-! ## 1. Turns of the loop -/

namespace InflateRawStream

/-- The start of a turn: the input that is left, and what the call has appended. -/
structure LoopHead (σ : Type) where
  inflater : InflateRawStream σ
  stream : σ
  input : Bytes
  output : Bytes

namespace LoopHead

def call (zlib : Zlib σ) (head : LoopHead σ) : ZCall σ :=
  zlib.inflate head.stream head.input head.inflater.outputCapacity

/-- `stream_.avail_in` input is left. -/
def rest (zlib : Zlib σ) (head : LoopHead σ) : Bytes :=
  head.input.drop (head.call zlib).consumed

/-- What the call may still put out. -/
def left (head : LoopHead σ) : Nat :=
  (head.inflater.maximumOutputSize - head.inflater.outputSize).toNat

/-- The stream after a call whose output is dropped. -/
def dropped (zlib : Zlib σ) (head : LoopHead σ) : InflateRawStream σ :=
  { head.inflater with stream := some (head.call zlib).stream }

/-- The stream after a call whose output is kept. -/
def kept (zlib : Zlib σ) (head : LoopHead σ) : InflateRawStream σ :=
  { head.inflater with
    stream := some (head.call zlib).stream
    outputSize := head.inflater.outputSize + UInt64.ofNat (head.call zlib).produced.length }

/-- One turn: what the call returns, or where the next turn starts. -/
def turn (zlib : Zlib σ) (head : LoopHead σ) :
    (Bool × Bytes × InflateRawStream σ) ⊕ LoopHead σ :=
  let call := head.call zlib
  let output := head.output ++ call.produced
  if head.inflater.outputCapacity = 0 then .inl (false, head.output, head.inflater)
  else if call.result = .other then .inl (false, head.output, head.dropped zlib)
  else if head.left < call.produced.length then .inl (false, head.output, head.dropped zlib)
  else if call.result = .streamEnd then
    .inl ((head.rest zlib).isEmpty, output, { head.kept zlib with finished := true })
  else if call.result = .bufError ∧ call.produced.length = 0 then
    .inl ((head.rest zlib).isEmpty, output, head.kept zlib)
  else if head.rest zlib ≠ [] ∨ call.produced.length = head.inflater.outputCapacity then
    .inr ⟨head.kept zlib, call.stream, head.rest zlib, output⟩
  else .inl (true, output, head.kept zlib)

/-- Everything a turn can do. -/
inductive Turned (zlib : Zlib σ) (head : LoopHead σ) :
    (Bool × Bytes × InflateRawStream σ) ⊕ LoopHead σ → Prop
  | full (hcapacity : head.inflater.outputCapacity = 0) :
      Turned zlib head (.inl (false, head.output, head.inflater))
  | invalid (hresult : (head.call zlib).result = .other) :
      Turned zlib head (.inl (false, head.output, head.dropped zlib))
  | overflow (hresult : (head.call zlib).result ≠ .other)
      (hleft : head.left < (head.call zlib).produced.length) :
      Turned zlib head (.inl (false, head.output, head.dropped zlib))
  | streamEnd (hresult : (head.call zlib).result = .streamEnd)
      (hleft : (head.call zlib).produced.length ≤ head.left) :
      Turned zlib head (.inl ((head.rest zlib).isEmpty,
        head.output ++ (head.call zlib).produced, { head.kept zlib with finished := true }))
  | starved (hresult : (head.call zlib).result = .bufError)
      (hproduced : (head.call zlib).produced = []) :
      Turned zlib head (.inl ((head.rest zlib).isEmpty,
        head.output ++ (head.call zlib).produced, head.kept zlib))
  | again (hother : (head.call zlib).result ≠ .other)
      (hend : (head.call zlib).result ≠ .streamEnd)
      (hbuf : (head.call zlib).result = .bufError → (head.call zlib).produced ≠ [])
      (hleft : (head.call zlib).produced.length ≤ head.left) :
      Turned zlib head (.inr ⟨head.kept zlib, (head.call zlib).stream, head.rest zlib,
        head.output ++ (head.call zlib).produced⟩)
  | done (hother : (head.call zlib).result ≠ .other)
      (hend : (head.call zlib).result ≠ .streamEnd)
      (hleft : (head.call zlib).produced.length ≤ head.left) (hrest : head.rest zlib = [])
      (hroom : (head.call zlib).produced.length ≠ head.inflater.outputCapacity) :
      Turned zlib head (.inl (true, head.output ++ (head.call zlib).produced, head.kept zlib))

theorem turned (zlib : Zlib σ) (head : LoopHead σ) : Turned zlib head (head.turn zlib) := by
  rw [turn]
  dsimp only
  split
  · exact .full ‹_›
  rename_i hcapacity
  split
  · exact .invalid ‹_›
  rename_i hother
  split
  · exact .overflow hother ‹_›
  rename_i hleft
  rw [Nat.not_lt] at hleft
  split
  · exact .streamEnd ‹_› hleft
  rename_i hend
  split
  · rename_i hbuf
    exact .starved hbuf.1 (List.length_eq_zero_iff.mp hbuf.2)
  rename_i hbuf
  split
  · refine .again hother hend ?_ hleft
    intro hresult hproduced
    exact hbuf ⟨hresult, List.length_eq_zero_iff.mpr hproduced⟩
  · rename_i hstop
    rw [not_or, Classical.not_not] at hstop
    exact .done hother hend hleft hstop.1 hstop.2

end LoopHead

/-- The loop takes turn after turn. -/
theorem writeLoop_succ (zlib : Zlib σ) (fuel : Nat) (head : LoopHead σ) :
    writeLoop zlib (fuel + 1) head.inflater head.stream head.input head.output =
      match head.turn zlib with
      | .inl result => result
      | .inr next => writeLoop zlib fuel next.inflater next.stream next.input next.output := by
  rw [writeLoop, LoopHead.turn]
  unfold LoopHead.rest LoopHead.left LoopHead.dropped LoopHead.kept LoopHead.call
  dsimp only
  split_ifs <;> rfl

/-! ## 2. What is counted -/

/-- The stream has put out `total` bytes of at most `maximum`, and knows it. -/
structure Within (maximum : UInt64) (s : InflateRawStream σ) (total : Nat) : Prop where
  limit : s.maximumOutputSize = maximum
  outputSize : s.outputSize.toNat = total
  fits : total ≤ maximum.toNat

namespace Within

variable {maximum : UInt64} {s : InflateRawStream σ} {total : Nat}

theorem left (h : Within maximum s total) :
    (s.maximumOutputSize - s.outputSize).toNat = maximum.toNat - total := by
  have hfits := h.fits
  have hlt := UInt64.toNat_lt maximum
  rw [h.limit, UInt64.toNat_sub, h.outputSize]
  omega

/-- The extra byte does not wrap. -/
theorem outputCapacity (h : Within maximum s total) (hmaximum : maximum.toNat < 2 ^ 64 - 1) :
    s.outputCapacity = min kCompressionBufferSize (maximum.toNat - total + 1) := by
  have hone : (1 : UInt64).toNat = 1 := rfl
  have hfits := h.fits
  rw [InflateRawStream.outputCapacity, UInt64.toNat_add, h.left, hone]
  congr 1
  omega

theorem outputCapacity_pos (h : Within maximum s total) (hmaximum : maximum.toNat < 2 ^ 64 - 1) :
    0 < s.outputCapacity := by
  have hbuffer : 0 < kCompressionBufferSize := by decide
  rw [h.outputCapacity hmaximum]
  omega

/-- Output that fits is counted. -/
theorem kept {zlib : Zlib σ} {head : LoopHead σ} (h : Within maximum head.inflater total)
    (hleft : (head.call zlib).produced.length ≤ head.left) :
    Within maximum (head.kept zlib) (total + (head.call zlib).produced.length) := by
  have hfits := h.fits
  have hlt := UInt64.toNat_lt maximum
  rw [LoopHead.left, h.left] at hleft
  refine ⟨h.limit, ?_, by omega⟩
  rw [LoopHead.kept, UInt64.toNat_add, h.outputSize, UInt64.toNat_ofNat']
  omega

end Within

/-- A turn counts what it appends. -/
theorem Within.turn {zlib : Zlib σ} {maximum : UInt64} {head : LoopHead σ} {before : Nat}
    (h : Within maximum head.inflater (before + head.output.length)) :
    (∀ result, head.turn zlib = .inl result →
      Within maximum result.2.2 (before + result.2.1.length)) ∧
    ∀ next, head.turn zlib = .inr next →
      Within maximum next.inflater (before + next.output.length) := by
  have hkept : (head.call zlib).produced.length ≤ head.left →
      Within maximum (head.kept zlib)
        (before + (head.output ++ (head.call zlib).produced).length) := by
    intro hleft
    rw [List.length_append, ← Nat.add_assoc]
    exact h.kept hleft
  have hdropped : Within maximum (head.dropped zlib) (before + head.output.length) :=
    ⟨h.limit, h.outputSize, h.fits⟩
  have hturned := LoopHead.turned zlib head
  constructor
  · intro result hturn
    rw [hturn] at hturned
    cases hturned with
    | full hcapacity => exact h
    | invalid hresult => exact hdropped
    | overflow hresult hleft => exact hdropped
    | streamEnd hresult hleft =>
      have hcounted := hkept hleft
      exact ⟨hcounted.limit, hcounted.outputSize, hcounted.fits⟩
    | starved hresult hproduced =>
      apply hkept
      rw [hproduced]
      exact Nat.zero_le _
    | done hother hend hleft hrest hroom => exact hkept hleft
  · intro next hturn
    rw [hturn] at hturned
    cases hturned with
    | again hother hend hbuf hleft => exact hkept hleft

/-! ## 3. Every call returns -/

/-- Turns of the loop that come one after the other. -/
def Goes (zlib : Zlib σ) (head next : LoopHead σ) : Prop := head.turn zlib = .inr next

/-- The loop comes to a turn that returns `result`. -/
def Returns (zlib : Zlib σ) (head : LoopHead σ) (result : Bool × Bytes × InflateRawStream σ) :
    Prop :=
  ∃ last, Relation.ReflTransGen (Goes zlib) head last ∧ last.turn zlib = .inl result

theorem Within.goes {zlib : Zlib σ} {maximum : UInt64} {head next : LoopHead σ} {before : Nat}
    (h : Within maximum head.inflater (before + head.output.length))
    (hgoes : Relation.ReflTransGen (Goes zlib) head next) :
    Within maximum next.inflater (before + next.output.length) := by
  induction hgoes with
  | refl => exact h
  | tail _ hturn ih => exact (ih.turn).2 _ hturn

end InflateRawStream

/-! ## 4. What zlib promises -/

/-- What data means to a reader of raw deflate streams. -/
structure RawDeflate where
  /-- The output that the data stands for, as far as it goes. -/
  decoded : Bytes → Bytes
  /-- The data is a stream up to its end. -/
  Ends : Bytes → Prop
  /-- The data goes wrong before any end. -/
  Invalid : Bytes → Prop
  decoded_nil : decoded [] = []
  decoded_append : ∀ data more, decoded data <+: decoded (data ++ more)
  not_ends_nil : ¬ Ends []
  not_invalid_nil : ¬ Invalid []
  invalid_append : ∀ {data}, Invalid data → ∀ more, Invalid (data ++ more)
  /-- What comes after the end is not looked at. -/
  ends_append : ∀ {data}, Ends data → ∀ more,
    decoded (data ++ more) = decoded data ∧ ¬ Invalid (data ++ more) ∧
      (Ends (data ++ more) → more = [])

/-- A call of `inflate` with `fed` and `out` behind it. -/
structure Decodes (deflated : RawDeflate) (fed out input : Bytes) (room : Nat) (call : ZCall σ) :
    Prop where
  invalid : call.result = .other → deflated.Invalid (fed ++ input)
  streamEnd : call.result = .streamEnd →
    deflated.Ends (fed ++ input.take call.consumed) ∧
      out ++ call.produced = deflated.decoded (fed ++ input.take call.consumed)
  /-- With room to spare it stops for want of input only. -/
  stops : call.result ≠ .other → call.result ≠ .streamEnd → call.produced.length < room →
    input.drop call.consumed = [] ∧ out ++ call.produced = deflated.decoded (fed ++ input) ∧
      ¬ deflated.Invalid (fed ++ input) ∧ ¬ deflated.Ends (fed ++ input)

/-- `inflate` decodes what it is given, piece by piece and as far as the room allows. -/
structure Zlib.Inflates (zlib : Zlib σ) (deflated : RawDeflate) : Prop where
  consumed : ∀ stream input room, (zlib.inflate stream input room).consumed ≤ input.length
  produced : ∀ stream input room, (zlib.inflate stream input room).produced.length ≤ room
  progress : ∀ stream input room, (zlib.inflate stream input room).result = .ok →
    0 < (zlib.inflate stream input room).consumed ∨
      0 < (zlib.inflate stream input room).produced.length
  decoded : ∀ {stream fed out}, Inflating zlib stream fed out → out <+: deflated.decoded fed
  /-- It takes nothing that comes after the end. -/
  stays : ∀ {stream fed out}, Inflating zlib stream fed out →
    ∀ {before}, before <+: fed → deflated.Ends before → before = fed
  decodes : ∀ {stream fed out}, Inflating zlib stream fed out → ∀ input {room}, 0 < room →
    Decodes deflated fed out input room (zlib.inflate stream input room)

namespace InflateRawStream

variable {zlib : Zlib σ} {deflated : RawDeflate}

/-- A turn takes some of the input or some of the room. -/
theorem goes_less (hzlib : zlib.Inflates deflated) {head next : LoopHead σ}
    (hgoes : Goes zlib head next) :
    next.input.length + next.left < head.input.length + head.left := by
  have hturned := LoopHead.turned zlib head
  rw [show head.turn zlib = .inr next from hgoes] at hturned
  cases hturned with
  | again hother hend hbuf hleft =>
    have hconsumed : (head.call zlib).consumed ≤ head.input.length := hzlib.consumed _ _ _
    have hprogress : 0 < (head.call zlib).consumed ∨ 0 < (head.call zlib).produced.length := by
      cases hresult : (head.call zlib).result with
      | ok => exact hzlib.progress _ _ _ hresult
      | bufError =>
        right
        apply List.length_pos_iff.mpr
        exact hbuf hresult
      | streamEnd => exact absurd hresult hend
      | other => exact absurd hresult hother
    have hspent : LoopHead.left ⟨head.kept zlib, (head.call zlib).stream, head.rest zlib,
        head.output ++ (head.call zlib).produced⟩ =
          head.left - (head.call zlib).produced.length := toNat_sub_add hleft
    rw [hspent, LoopHead.rest, List.length_drop]
    omega

/-- The loop returns, with what `writeLoop` says once there is enough fuel. -/
theorem writeLoop_returns (hzlib : zlib.Inflates deflated) {fuel : Nat} {head : LoopHead σ}
    (hfuel : head.input.length + head.left < fuel) :
    Returns zlib head
      (writeLoop zlib fuel head.inflater head.stream head.input head.output) := by
  induction fuel generalizing head with
  | zero => omega
  | succ fuel ih =>
    rw [writeLoop_succ]
    cases hturn : head.turn zlib with
    | inl result => exact ⟨head, .refl, hturn⟩
    | inr next =>
      have hless := goes_less hzlib hturn
      have hnext : next.input.length + next.left < fuel := by omega
      obtain ⟨last, hgoes, hlast⟩ := ih hnext
      exact ⟨last, hgoes.head hturn, hlast⟩

/-- A call that is not refused runs the loop. -/
theorem write_returns (hzlib : zlib.Inflates deflated) {s : InflateRawStream σ} {stream : σ}
    (hstream : s.stream = some stream) (hfinished : s.finished = false) {data : Bytes}
    (hdata : data.length ≤ uIntMax) : Returns zlib ⟨s, stream, data, []⟩ (s.write zlib data) := by
  have hrefused : (s.finished || decide (uIntMax < data.length)) = false := by
    rw [hfinished, Bool.false_or, decide_eq_false_iff_not]
    exact Nat.not_lt.mpr hdata
  rw [write, hstream]
  dsimp only
  rw [hrefused, if_neg Bool.false_ne_true]
  have hfuel : (LoopHead.mk s stream data []).input.length + (LoopHead.mk s stream data []).left <
      data.length + (s.maximumOutputSize - s.outputSize).toNat + 1 := Nat.lt_succ_self _
  exact writeLoop_returns hzlib hfuel

end InflateRawStream

end LivekitClient.DataStreamCompression
