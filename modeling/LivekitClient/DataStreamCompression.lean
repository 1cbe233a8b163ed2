/-
  LivekitClient/DataStreamCompression.lean
  ========================================
  **Raw deflate streams** (`src/core/detail/data_stream_compression.cpp`): the loops
  that drive zlib's `deflate` and `inflate` over one piece of data at a time.

  zlib itself is a parameter.  A call is given the input that is left and the room
  in the output buffer, and says how much of the input it took and what it put out.
  The loops run on fuel that zlib's documented progress makes sufficient.
-/
import LivekitClient.DataPacket

namespace LivekitClient.DataStreamCompression

open LivekitClient.KeyProvider

inductive ZResult where
  | ok
  | streamEnd
  | bufError
  | other
deriving DecidableEq

inductive Flush where
  | syncFlush
  | finish
deriving DecidableEq

/-- What a call of `deflate` or `inflate` did. -/
structure ZCall (σ : Type) where
  result : ZResult
  consumed : Nat
  produced : Bytes
  stream : σ

/-- zlib, with `σ` for the internal state of a `z_stream`.  The arguments of a call are
    the state, the input and `avail_out`. -/
structure Zlib (σ : Type) where
  inflateInit : Option σ
  inflate : σ → Bytes → Nat → ZCall σ
  deflateInit : Option σ
  deflate : σ → Bytes → Flush → Nat → ZCall σ
  /-- A bound on the calls of `deflate` that the input still takes. -/
  deflateCalls : σ → Bytes → Flush → Nat

def kCompressionBufferSize : Nat := 16 * 1024

/-- What the loops rely on: zlib stays within its buffers, and a call without an error
    makes progress.  Of `deflate` this is true with room for more than a few bytes; the
    loop gives it a whole buffer. -/
structure Zlib.Lawful {σ : Type} (zlib : Zlib σ) : Prop where
  inflate_consumed : ∀ stream input room, (zlib.inflate stream input room).consumed ≤ input.length
  inflate_produced : ∀ stream input room,
    (zlib.inflate stream input room).produced.length ≤ room
  inflate_progress : ∀ stream input room, (zlib.inflate stream input room).result = .ok →
    0 < (zlib.inflate stream input room).consumed ∨
      0 < (zlib.inflate stream input room).produced.length
  deflate_progress : ∀ stream input flush,
    let call := zlib.deflate stream input flush kCompressionBufferSize
    call.result = .ok ∨ call.result = .streamEnd →
      input.drop call.consumed ≠ [] ∨ call.produced.length = kCompressionBufferSize ∨
        (flush = .finish ∧ call.result ≠ .streamEnd) →
      zlib.deflateCalls call.stream (input.drop call.consumed) flush <
        zlib.deflateCalls stream input flush

/-- `std::numeric_limits<uInt>::max()`. -/
def uIntMax : Nat := 2 ^ 32 - 1

variable {σ : Type}

/-! ## 1. Deflating -/

structure DeflateRawStream (σ : Type) where
  /-- The initialized `z_stream`, if `valid_`. -/
  stream : Option σ
  finished : Bool

namespace DeflateRawStream

def new (zlib : Zlib σ) : DeflateRawStream σ := ⟨zlib.deflateInit, false⟩

def isValid (s : DeflateRawStream σ) : Bool := s.stream.isSome

/-- The `do … while` loop: the last result, the output, and the stream. -/
def writeLoop (zlib : Zlib σ) (flush : Flush) : Nat → σ → Bytes → Bytes → ZResult × Bytes × σ
  | 0, stream, _, output => (.other, output, stream)
  | fuel + 1, stream, input, output =>
    let call := zlib.deflate stream input flush kCompressionBufferSize
    if call.result ≠ .ok ∧ call.result ≠ .streamEnd then (call.result, output, call.stream)
    else
      let output := output ++ call.produced
      let input := input.drop call.consumed
      if input ≠ [] ∨ call.produced.length = kCompressionBufferSize ∨
          (flush = .finish ∧ call.result ≠ .streamEnd) then
        writeLoop zlib flush fuel call.stream input output
      else (call.result, output, call.stream)

/-- `Impl::Write`: whether it succeeded, and what it appended to the output. -/
def writeFlush (zlib : Zlib σ) (s : DeflateRawStream σ) (data : Bytes) (flush : Flush) :
    Bool × Bytes × DeflateRawStream σ :=
  match s.stream with
  | none => (false, [], s)
  | some stream =>
    if s.finished || decide (uIntMax < data.length) then (false, [], s)
    else
      match writeLoop zlib flush (zlib.deflateCalls stream data flush + 1) stream data [] with
      | (.ok, output, stream) => (flush != .finish, output, ⟨some stream, false⟩)
      | (.streamEnd, output, stream) => (true, output, ⟨some stream, true⟩)
      | (_, output, stream) => (false, output, ⟨some stream, s.finished⟩)

def write (zlib : Zlib σ) (s : DeflateRawStream σ) (data : Bytes) :
    Bool × Bytes × DeflateRawStream σ :=
  s.writeFlush zlib data .syncFlush

def finish (zlib : Zlib σ) (s : DeflateRawStream σ) : Bool × Bytes × DeflateRawStream σ :=
  s.writeFlush zlib [] .finish

/-- More fuel changes nothing once there is enough. -/
theorem writeLoop_fuel {zlib : Zlib σ} (hzlib : zlib.Lawful) {flush : Flush} {fuel : Nat}
    {stream : σ} {input output : Bytes} (hfuel : zlib.deflateCalls stream input flush < fuel) :
    writeLoop zlib flush (fuel + 1) stream input output =
      writeLoop zlib flush fuel stream input output := by
  induction fuel generalizing stream input output with
  | zero => omega
  | succ fuel ih =>
    rw [writeLoop, writeLoop]
    dsimp only
    split
    · rfl
    · rename_i hresult
      split
      · rename_i hagain
        have hok : (zlib.deflate stream input flush kCompressionBufferSize).result = .ok ∨
            (zlib.deflate stream input flush kCompressionBufferSize).result = .streamEnd := by
          by_contra hneither
          exact hresult ⟨fun h => hneither (Or.inl h), fun h => hneither (Or.inr h)⟩
        have hless := hzlib.deflate_progress stream input flush hok hagain
        exact ih (by omega)
      · rfl

end DeflateRawStream

/-! ## 2. Inflating -/

structure InflateRawStream (σ : Type) where
  /-- The initialized `z_stream`, if `valid_`. -/
  stream : Option σ
  finished : Bool
  maximumOutputSize : UInt64
  outputSize : UInt64

namespace InflateRawStream

def new (zlib : Zlib σ) (maximumOutputSize : UInt64) : InflateRawStream σ :=
  ⟨zlib.inflateInit, false, maximumOutputSize, 0⟩

def isValid (s : InflateRawStream σ) : Bool := s.stream.isSome

/-- `output_capacity`, computed in 64 bits. -/
def outputCapacity (s : InflateRawStream σ) : Nat :=
  min kCompressionBufferSize (s.maximumOutputSize - s.outputSize + 1).toNat

/-- The `do … while` loop over the input that is left. -/
def writeLoop (zlib : Zlib σ) : Nat → InflateRawStream σ → σ → Bytes → Bytes →
    Bool × Bytes × InflateRawStream σ
  | 0, s, _, _, output => (false, output, s)
  | fuel + 1, s, stream, input, output =>
    if s.outputCapacity = 0 then (false, output, s)
    else
      let call := zlib.inflate stream input s.outputCapacity
      let produced := call.produced.length
      let rest := input.drop call.consumed
      if call.result = .other then (false, output, { s with stream := some call.stream })
      else if (s.maximumOutputSize - s.outputSize).toNat < produced then
        (false, output, { s with stream := some call.stream })
      else
        let written : InflateRawStream σ :=
          { s with
            stream := some call.stream
            outputSize := s.outputSize + UInt64.ofNat produced }
        if call.result = .streamEnd then
          (rest.isEmpty, output ++ call.produced, { written with finished := true })
        else if call.result = .bufError ∧ produced = 0 then
          (rest.isEmpty, output ++ call.produced, written)
        else if rest ≠ [] ∨ produced = s.outputCapacity then
          writeLoop zlib fuel written call.stream rest (output ++ call.produced)
        else (true, output ++ call.produced, written)

/-- `Write`: whether it succeeded, and what it appended to the output. -/
def write (zlib : Zlib σ) (s : InflateRawStream σ) (data : Bytes) :
    Bool × Bytes × InflateRawStream σ :=
  match s.stream with
  | none => (false, [], s)
  | some stream =>
    if s.finished || decide (uIntMax < data.length) then (false, [], s)
    else
      writeLoop zlib (data.length + (s.maximumOutputSize - s.outputSize).toNat + 1) s stream data []

/-- Output that fits takes its length from the room that is left. -/
theorem toNat_sub_add {maximum size : UInt64} {n : Nat} (hfits : n ≤ (maximum - size).toNat) :
    (maximum - (size + UInt64.ofNat n)).toNat = (maximum - size).toNat - n := by
  have hlt := UInt64.toNat_lt (maximum - size)
  have hsize := UInt64.toNat_lt size
  have hmaximum := UInt64.toNat_lt maximum
  simp only [UInt64.toNat_sub, UInt64.toNat_add, UInt64.toNat_ofNat'] at hfits hlt ⊢
  omega

/-- More fuel changes nothing once there is enough: every turn takes some of the input
    or some of the room for output. -/
theorem writeLoop_fuel {zlib : Zlib σ} (hzlib : zlib.Lawful) {fuel : Nat}
    {s : InflateRawStream σ} {stream : σ} {input output : Bytes}
    (hfuel : input.length + (s.maximumOutputSize - s.outputSize).toNat < fuel) :
    writeLoop zlib (fuel + 1) s stream input output =
      writeLoop zlib fuel s stream input output := by
  induction fuel generalizing s stream input output with
  | zero => omega
  | succ fuel ih =>
    rw [writeLoop, writeLoop]
    dsimp only
    split
    · rfl
    split
    · rfl
    split
    · rfl
    split
    · rfl
    split
    · rfl
    split
    · rename_i hcapacity hother hroom hend hbuf _
      apply ih
      have hconsumed := hzlib.inflate_consumed stream input s.outputCapacity
      -- an ok call makes progress, a buffer error that goes on has put something out
      have hprogress : 0 < (zlib.inflate stream input s.outputCapacity).consumed ∨
          0 < (zlib.inflate stream input s.outputCapacity).produced.length := by
        cases hresult : (zlib.inflate stream input s.outputCapacity).result with
        | ok => exact hzlib.inflate_progress stream input s.outputCapacity hresult
        | bufError =>
          right
          exact Nat.pos_of_ne_zero fun hzero => hbuf ⟨hresult, hzero⟩
        | streamEnd => exact absurd hresult hend
        | other => exact absurd hresult hother
      have hleft := toNat_sub_add (Nat.le_of_not_lt hroom)
      rw [List.length_drop, hleft]
      omega
    · rfl

end InflateRawStream

end LivekitClient.DataStreamCompression
