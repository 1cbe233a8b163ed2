/-
  LivekitClient/AudioSource.lean
  ==============================
  **The audio source** (`src/core/track/audio_source.cpp`).

  Without a queue a frame goes straight to the sinks.  With one it is put into a buffer, and a
  task takes 10 ms of samples from its front every 10 ms, or sends silence when the buffer has
  not been filled for a while.  A section under the mutex of the source is one step.

  Which of the two ways a frame takes is decided by `queue_size_samples_`, which the
  constructor sets with a queue only.  Sizes are computed in `int`; a sum or a product that
  does not fit is taken modulo 2^32.
-/
import LivekitClient.Runs
import LivekitClient.Types

namespace LivekitClient.AudioSource

open Runs

/-! ## 1. The source -/

inductive Exception where
  | invalidArgument (what : String)
  | badArrayNewLength
  | lengthError
deriving DecidableEq, Repr

/-- The value in an `int`. -/
def toInt (n : Int) : Int := (n + 2147483648) % 4294967296 - 2147483648

def intMax : Nat := 2147483647

/-- An `int` as a `std::size_t`. -/
def toSize (n : Int) : Nat := (n % 18446744073709551616).toNat

/-- The arguments of `capture_frame`; `data` is the samples that the pointer gives, unless it
    is null. -/
structure AudioFrame where
  data : Option (List Int16)
  sampleRate : UInt32
  numberOfChannels : UInt32
  numberOfFrames : UInt64
  length_data : ∀ samples ∈ data,
    samples.length = numberOfFrames.toNat * numberOfChannels.toNat

/-- The arguments of `AudioTrackSinkInterface::OnData`.  `silence` says that the pointer is
    `silence_buffer_`. -/
structure OnData where
  samples : List Int16
  bitsPerSample : Nat
  sampleRate : Int
  numberOfChannels : Nat
  numberOfFrames : Nat
  silence : Bool := false
deriving DecidableEq

/-- `InternalSource`.  A sink is a number, and `samples10ms` is what the task has captured, if
    it has been started. -/
structure InternalSource where
  sinks : List Nat := []
  buffer : List Int16 := []
  missedFrames : Int := 0
  sampleRate : Int
  numChannels : Int
  queueSizeSamples : Int
  notifyThresholdSamples : Int
  samples10ms : Option Int := none

/-- What a section does to the world. -/
inductive Event where
  | captured (frame : AudioFrame) (accepted : Bool)
  | onData (sink : Nat) (call : OnData)

def silenceFramesThreshold : Int := 10

namespace InternalSource

/-- The constructor; `queueSizeSamples` and `notifyThresholdSamples` are what the members hold
    that it has not assigned.  The silence buffer cannot have a negative length, and room for
    more samples than there can be is not reserved. -/
def new (queueSizeSamples notifyThresholdSamples sampleRate numChannels queueSizeMs : Int) :
    Except Exception InternalSource :=
  if queueSizeMs = 0 then
    .ok
      { sampleRate := sampleRate
        numChannels := numChannels
        queueSizeSamples := queueSizeSamples
        notifyThresholdSamples := notifyThresholdSamples }
  else
    let samples10ms := toInt (sampleRate.tdiv 100 * numChannels)
    if samples10ms < 0 then .error .badArrayNewLength
    else
      let queueSizeSamples := toInt (queueSizeMs.tdiv 10 * samples10ms)
      if toInt (queueSizeSamples + queueSizeSamples) < 0 then .error .lengthError
      else
        .ok
          { missedFrames := silenceFramesThreshold
            sampleRate := sampleRate
            numChannels := numChannels
            queueSizeSamples := queueSizeSamples
            notifyThresholdSamples := queueSizeSamples
            samples10ms := some samples10ms }

variable (source : InternalSource)

/-- Call `OnData` of every sink. -/
def toSinks (call : OnData) : List Event := source.sinks.map fun sink => .onData sink call

/-- The call that hands over 10 ms of samples from the front of `samples`. -/
def blockCall (samples10ms : Int) (samples : List Int16) (silence : Bool) : OnData where
  samples := samples.take (toSize (samples10ms.tdiv source.numChannels) *
    toSize source.numChannels)
  bitsPerSample := 16
  sampleRate := source.sampleRate
  numberOfChannels := toSize source.numChannels
  numberOfFrames := toSize (samples10ms.tdiv source.numChannels)
  silence := silence

/-- The task, every 10 ms. -/
def tick : InternalSource × List Event :=
  match source.samples10ms with
  | none => (source, [])
  | some samples10ms =>
    if toSize samples10ms ≤ source.buffer.length then
      ({ source with buffer := source.buffer.drop (toSize samples10ms) },
        source.toSinks (source.blockCall samples10ms source.buffer false))
    else
      ({ source with missedFrames := toInt (source.missedFrames + 1) },
        if silenceFramesThreshold ≤ toInt (source.missedFrames + 1) then
          source.toSinks
            (source.blockCall samples10ms (List.replicate (toSize samples10ms) 0) true)
        else [])

/-- The call that hands over a frame as it is. -/
def frameCall (frame : AudioFrame) (samples : List Int16) : OnData where
  samples := samples
  bitsPerSample := 16
  sampleRate := toInt frame.sampleRate.toNat
  numberOfChannels := frame.numberOfChannels.toNat
  numberOfFrames := frame.numberOfFrames.toNat

/-- `capture_frame`: what it returns, too. -/
def captureFrame (frame : AudioFrame) : Bool × InternalSource × List Event :=
  match frame.data with
  | none => (false, source, [])
  | some samples =>
    if frame.sampleRate = 0 ∨ frame.numberOfChannels = 0 ∨ frame.numberOfFrames = 0 then
      (false, source, [])
    else if sizeMax / frame.numberOfChannels.toNat < frame.numberOfFrames.toNat then
      (false, source, [])
    else
      let totalSamples := frame.numberOfFrames.toNat * frame.numberOfChannels.toNat
      if source.queueSizeSamples ≠ 0 then
        let capacity := toSize (toInt (source.queueSizeSamples + source.notifyThresholdSamples))
        if capacity < source.buffer.length ∨ capacity - source.buffer.length < totalSamples then
          (false, source, [])
        else
          (true, { source with buffer := source.buffer ++ samples, missedFrames := 0 }, [])
      else (true, source, source.toSinks (frameCall frame samples))

/-- `clear_buffer`. -/
def clearBuffer : InternalSource := { source with buffer := [] }

/-- `AddSink`. -/
def addSink (sink : Nat) : InternalSource := { source with sinks := source.sinks ++ [sink] }

/-- `RemoveSink`. -/
def removeSink (sink : Nat) : InternalSource :=
  { source with sinks := source.sinks.filter (· != sink) }

end InternalSource

/-- `AudioSource::Create`. -/
def create (queueSizeSamples notifyThresholdSamples : Int)
    (sampleRate numChannels queueSizeMs : UInt32) : Except Exception InternalSource :=
  if queueSizeMs % 10 ≠ 0 then
    .error (.invalidArgument "queue_size_ms must be a multiple of 10")
  else
    InternalSource.new queueSizeSamples notifyThresholdSamples (toInt sampleRate.toNat)
      (toInt numChannels.toNat) (toInt queueSizeMs.toNat)

inductive Act where
  | capture (frame : AudioFrame)
  | tick
  | clear
  | addSink (sink : Nat)
  | removeSink (sink : Nat)

namespace InternalSource

def step (source : InternalSource) : Act → InternalSource × List Event
  | .capture frame =>
    let (accepted, source, events) := source.captureFrame frame
    (source, .captured frame accepted :: events)
  | .tick => source.tick
  | .clear => (source.clearBuffer, [])
  | .addSink sink => (source.addSink sink, [])
  | .removeSink sink => (source.removeSink sink, [])

/-- The source after a run, whose events are `outputs step source acts`. -/
def run (source : InternalSource) (acts : List Act) : InternalSource :=
  acts.foldl (fun source act => (source.step act).1) source

end InternalSource

/-! ## 2. Sizes -/

theorem toInt_of_le {n : Nat} (hfits : n ≤ intMax) : toInt n = n := by
  simp only [intMax] at hfits
  simp only [toInt]
  omega

theorem toSize_natCast {n : Nat} (hfits : n ≤ intMax) : toSize n = n := by
  simp only [intMax] at hfits
  simp only [toSize]
  omega

/-- A sum that is negative in an `int` was too large. -/
theorem toInt_add_self {n : Nat} (hfits : n ≤ intMax) :
    toInt (n + n) < 0 ↔ intMax < 2 * n := by
  simp only [intMax] at *
  simp only [toInt]
  omega

/-! ## 3. A source with a queue -/

/-- What the constructor makes of its arguments when they fit. -/
structure Queued (frames channels queue : Nat) (source : InternalSource) : Prop where
  samples10ms : source.samples10ms = some ((frames * channels : Nat) : Int)
  numChannels : source.numChannels = channels
  queueSizeSamples : source.queueSizeSamples = queue
  notifyThresholdSamples : source.notifyThresholdSamples = queue
  frames_pos : 0 < frames
  channels_pos : 0 < channels
  queue_pos : 0 < queue
  blocks_le : frames * channels ≤ queue
  queue_le : 2 * queue ≤ intMax
  length_le : source.buffer.length ≤ 2 * queue

theorem create_queued {queueSizeSamples notifyThresholdSamples : Int}
    {sampleRate numChannels queueSizeMs : UInt32} {source : InternalSource}
    (hcreate : create queueSizeSamples notifyThresholdSamples sampleRate numChannels queueSizeMs =
      .ok source)
    (hqueue : queueSizeMs ≠ 0) (hrate : 100 ≤ sampleRate.toNat) (hchannels : numChannels ≠ 0)
    (hrateFits : sampleRate.toNat ≤ intMax) (hqueueFits : queueSizeMs.toNat ≤ intMax)
    (hfits : queueSizeMs.toNat / 10 * (sampleRate.toNat / 100 * numChannels.toNat) ≤ intMax) :
    Queued (sampleRate.toNat / 100) numChannels.toNat
      (queueSizeMs.toNat / 10 * (sampleRate.toNat / 100 * numChannels.toNat)) source := by
  unfold create at hcreate
  split at hcreate
  · cases hcreate
  rename_i hmultiple
  have hmod : queueSizeMs.toNat % 10 = 0 := by
    have heq : queueSizeMs % 10 = 0 := by simpa using hmultiple
    have hnat := congrArg UInt32.toNat heq
    rwa [UInt32.toNat_mod] at hnat
  have hpos : 0 < queueSizeMs.toNat := by
    rw [Nat.pos_iff_ne_zero, ne_eq, ← UInt32.toNat_zero, UInt32.toNat_inj]
    exact hqueue
  have hchannelsPos : 0 < numChannels.toNat := by
    rw [Nat.pos_iff_ne_zero, ne_eq, ← UInt32.toNat_zero, UInt32.toNat_inj]
    exact hchannels
  have htens : 0 < queueSizeMs.toNat / 10 := by omega
  have hframes : 0 < sampleRate.toNat / 100 := by omega
  -- each factor is at most the product
  have hblock := Nat.le_mul_of_pos_left (sampleRate.toNat / 100 * numChannels.toNat) htens
  have hchannelsFit := Nat.le_mul_of_pos_left numChannels.toNat hframes
  rw [toInt_of_le hrateFits, toInt_of_le (by omega), toInt_of_le hqueueFits] at hcreate
  have hsamples : (sampleRate.toNat : Int).tdiv 100 * (numChannels.toNat : Int) =
      (sampleRate.toNat / 100 * numChannels.toNat : Nat) := by
    rw [Int.natCast_mul]
    rfl
  have hsize : (queueSizeMs.toNat : Int).tdiv 10 *
      ((sampleRate.toNat / 100 * numChannels.toNat : Nat) : Int) =
      (queueSizeMs.toNat / 10 * (sampleRate.toNat / 100 * numChannels.toNat) : Nat) := by
    rw [Int.natCast_mul (queueSizeMs.toNat / 10)]
    rfl
  rw [InternalSource.new, if_neg (by omega), hsamples, toInt_of_le (by omega)] at hcreate
  dsimp only at hcreate
  rw [if_neg (by omega), hsize, toInt_of_le hfits] at hcreate
  split at hcreate
  · cases hcreate
  · rename_i hroom
    rw [toInt_add_self hfits] at hroom
    obtain rfl := Except.ok.inj hcreate
    exact
      { samples10ms := rfl
        numChannels := rfl
        queueSizeSamples := rfl
        notifyThresholdSamples := rfl
        frames_pos := hframes
        channels_pos := hchannelsPos
        queue_pos := by omega
        blocks_le := hblock
        queue_le := by omega
        length_le := Nat.zero_le _ }

namespace Queued

variable {frames channels queue : Nat} {source : InternalSource}

theorem capacity (h : Queued frames channels queue source) :
    toSize (toInt (source.queueSizeSamples + source.notifyThresholdSamples)) = 2 * queue := by
  have hle := h.queue_le
  rw [h.queueSizeSamples, h.notifyThresholdSamples,
    show (queue : Int) + queue = (2 * queue : Nat) by omega, toInt_of_le hle,
    toSize_natCast hle]

/-- With a queue a frame is put into the buffer as a whole, or the source stays as it is. -/
theorem captureFrame (h : Queued frames channels queue source) (frame : AudioFrame) :
    source.captureFrame frame = (false, source, []) ∨
      ∃ samples, frame.data = some samples ∧
        source.buffer.length + samples.length ≤ 2 * queue ∧
        source.captureFrame frame =
          (true, { source with buffer := source.buffer ++ samples, missedFrames := 0 }, []) := by
  unfold InternalSource.captureFrame
  split
  · exact Or.inl rfl
  rename_i samples hdata
  split
  · exact Or.inl rfl
  split
  · exact Or.inl rfl
  have hqueued : source.queueSizeSamples ≠ 0 := by
    have hpos := h.queue_pos
    rw [h.queueSizeSamples]
    omega
  dsimp only
  rw [if_pos hqueued, h.capacity]
  split
  · exact Or.inl rfl
  · rename_i hroom
    have hlength := frame.length_data samples hdata
    exact Or.inr ⟨samples, hdata, by omega, rfl⟩

/-- The call that hands over the next block. -/
def block (frames channels : Nat) (source : InternalSource) : OnData where
  samples := source.buffer.take (frames * channels)
  bitsPerSample := 16
  sampleRate := source.sampleRate
  numberOfChannels := channels
  numberOfFrames := frames

theorem blockCall (h : Queued frames channels queue source) :
    source.blockCall (frames * channels : Nat) source.buffer false =
      block frames channels source := by
  have hle := h.queue_le
  have hblocks := h.blocks_le
  have hchannels := Nat.le_mul_of_pos_left channels h.frames_pos
  have hframes := Nat.le_mul_of_pos_right frames h.channels_pos
  have hdiv : ((frames * channels : Nat) : Int).tdiv channels = frames := by
    rw [← Int.ofNat_tdiv, Nat.mul_div_cancel _ h.channels_pos]
  unfold InternalSource.blockCall block
  rw [h.numChannels, hdiv, toSize_natCast (by omega), toSize_natCast (by omega)]

/-- The task takes a block from the front of the buffer, or only sends silence. -/
theorem tick (h : Queued frames channels queue source) :
    (frames * channels ≤ source.buffer.length ∧
      source.tick = ({ source with buffer := source.buffer.drop (frames * channels) },
        source.toSinks (block frames channels source))) ∨
    ∃ events,
      source.tick = ({ source with missedFrames := toInt (source.missedFrames + 1) }, events) ∧
      ∀ event ∈ events, ∃ sink call, event = .onData sink call ∧ call.silence = true := by
  have hle := h.queue_le
  have hblocks := h.blocks_le
  unfold InternalSource.tick
  rw [h.samples10ms]
  dsimp only
  rw [toSize_natCast (by omega)]
  split
  · rename_i hfull
    rw [h.blockCall]
    exact Or.inl ⟨hfull, rfl⟩
  · refine Or.inr ⟨_, rfl, ?_⟩
    intro event hevent
    split at hevent
    · obtain ⟨sink, -, rfl⟩ := List.mem_map.mp hevent
      exact ⟨sink, _, rfl, rfl⟩
    · cases hevent

/-- Sinks, buffer and the count of silence are what sections change. -/
theorem update (h : Queued frames channels queue source) (sinks : List Nat)
    (missedFrames : Int) {buffer : List Int16} (hlength : buffer.length ≤ 2 * queue) :
    Queued frames channels queue
      { source with sinks := sinks, buffer := buffer, missedFrames := missedFrames } :=
  { samples10ms := h.samples10ms
    numChannels := h.numChannels
    queueSizeSamples := h.queueSizeSamples
    notifyThresholdSamples := h.notifyThresholdSamples
    frames_pos := h.frames_pos
    channels_pos := h.channels_pos
    queue_pos := h.queue_pos
    blocks_le := h.blocks_le
    queue_le := h.queue_le
    length_le := hlength }

/-- No section changes the sizes, and the buffer stays within twice the queue. -/
theorem step (h : Queued frames channels queue source) (act : Act) :
    Queued frames channels queue (source.step act).1 := by
  cases act with
  | capture frame =>
    simp only [InternalSource.step]
    rcases h.captureFrame frame with heq | ⟨samples, -, hroom, heq⟩
    · rw [heq]
      exact h
    · rw [heq]
      apply h.update _ _
      rw [List.length_append]
      exact hroom
  | tick =>
    simp only [InternalSource.step]
    rcases h.tick with ⟨-, heq⟩ | ⟨events, heq, -⟩
    · rw [heq]
      apply h.update _ _
      have hlength := h.length_le
      rw [List.length_drop]
      omega
    · rw [heq]
      exact h.update _ _ h.length_le
  | clear => exact h.update _ _ (Nat.zero_le _)
  | addSink sink => exact h.update _ _ h.length_le
  | removeSink sink => exact h.update _ _ h.length_le

theorem run (h : Queued frames channels queue source) (acts : List Act) :
    Queued frames channels queue (source.run acts) := by
  induction acts generalizing source with
  | nil => exact h
  | cons act acts ih => exact ih (h.step act)

end Queued

/-! ## 4. Nothing is lost -/

/-- The samples of the frames that were accepted. -/
def acceptedSamples : List Event → List Int16
  | [] => []
  | .captured frame true :: events => frame.data.getD [] ++ acceptedSamples events
  | _ :: events => acceptedSamples events

/-- The calls that handed a sink something other than silence. -/
def blocks (sink : Nat) : List Event → List OnData
  | [] => []
  | .onData other call :: events =>
    if other = sink ∧ call.silence = false then call :: blocks sink events
    else blocks sink events
  | _ :: events => blocks sink events

theorem acceptedSamples_append (events later : List Event) :
    acceptedSamples (events ++ later) = acceptedSamples events ++ acceptedSamples later := by
  fun_induction acceptedSamples events with
  | case1 => rfl
  | case2 frame events ih => rw [List.cons_append, acceptedSamples, ih, List.append_assoc]
  | case3 event events hother ih =>
    rw [List.cons_append, acceptedSamples.eq_3 _ _ hother, ih]

theorem blocks_append (sink : Nat) (events later : List Event) :
    blocks sink (events ++ later) = blocks sink events ++ blocks sink later := by
  fun_induction blocks sink events with
  | case1 => rfl
  | case2 other call events hsink ih =>
    rw [List.cons_append, blocks, if_pos hsink, ih, List.cons_append]
  | case3 other call events hsink ih => rw [List.cons_append, blocks, if_neg hsink, ih]
  | case4 event events hother ih => rw [List.cons_append, blocks.eq_3 _ _ _ hother, ih]

/-- A sink gets a block once for each time it was added. -/
theorem blocks_toSinks (sinks : List Nat) (sink : Nat) {call : OnData}
    (hblock : call.silence = false) :
    blocks sink (sinks.map fun other => .onData other call) =
      List.replicate (sinks.count sink) call := by
  induction sinks with
  | nil => rfl
  | cons other sinks ih =>
    rw [List.map_cons, blocks, ih]
    by_cases hsink : other = sink
    · subst hsink
      rw [if_pos ⟨rfl, hblock⟩, List.count_cons_self, List.replicate_succ]
    · rw [if_neg fun h => hsink h.1, List.count_cons_of_ne hsink]

theorem acceptedSamples_onData {events : List Event}
    (hevents : ∀ event ∈ events, ∃ sink call, event = .onData sink call) :
    acceptedSamples events = [] := by
  induction events with
  | nil => rfl
  | cons event events ih =>
    obtain ⟨sink, call, rfl⟩ := hevents event List.mem_cons_self
    exact ih fun other hother => hevents other (List.mem_cons_of_mem _ hother)

theorem blocks_silence (sink : Nat) {events : List Event}
    (hevents : ∀ event ∈ events, ∃ other call, event = .onData other call ∧ call.silence = true) :
    blocks sink events = [] := by
  induction events with
  | nil => rfl
  | cons event events ih =>
    obtain ⟨other, call, rfl, hsilence⟩ := hevents event List.mem_cons_self
    rw [blocks, if_neg (by simp [hsilence])]
    exact ih fun later hlater => hevents later (List.mem_cons_of_mem _ hlater)

/-- The section neither clears the buffer nor adds or removes the sink. -/
def Undisturbed (sink : Nat) : Act → Prop
  | .clear => False
  | .addSink other | .removeSink other => other ≠ sink
  | _ => True

namespace Queued

variable {frames channels queue : Nat} {source : InternalSource} {sink : Nat}

/-- What goes in comes out or is in the buffer. -/
theorem conserves_step (h : Queued frames channels queue source)
    (honce : source.sinks.count sink = 1) {act : Act} (hact : Undisturbed sink act) :
    (source.step act).1.sinks.count sink = 1 ∧
      (∀ call ∈ blocks sink (source.step act).2, call.samples.length = frames * channels ∧
        call.numberOfFrames = frames ∧ call.numberOfChannels = channels) ∧
      source.buffer ++ acceptedSamples (source.step act).2 =
        (blocks sink (source.step act).2).flatMap OnData.samples ++
          (source.step act).1.buffer := by
  cases act with
  | capture frame =>
    simp only [InternalSource.step]
    rcases h.captureFrame frame with heq | ⟨samples, hdata, -, heq⟩
    · rw [heq]
      refine ⟨honce, nofun, ?_⟩
      exact List.append_nil _
    · rw [heq]
      refine ⟨honce, nofun, ?_⟩
      simp [acceptedSamples, blocks, hdata]
  | tick =>
    simp only [InternalSource.step]
    rcases h.tick with ⟨hfull, heq⟩ | ⟨events, heq, hsilence⟩
    · rw [heq]
      have hblocks := @blocks_toSinks source.sinks sink (block frames channels source) rfl
      rw [honce, List.replicate_one] at hblocks
      refine ⟨honce, ?_, ?_⟩
      · intro call hcall
        rw [InternalSource.toSinks, hblocks, List.mem_singleton] at hcall
        rw [hcall]
        exact ⟨List.length_take_of_le hfull, rfl, rfl⟩
      · have hnone : acceptedSamples (source.toSinks (block frames channels source)) = [] := by
          refine acceptedSamples_onData fun event hevent => ?_
          obtain ⟨other, -, rfl⟩ := List.mem_map.mp hevent
          exact ⟨other, _, rfl⟩
        rw [hnone, InternalSource.toSinks, hblocks, List.append_nil, List.flatMap_singleton]
        exact (List.take_append_drop _ _).symm
    · rw [heq]
      have hblocks := blocks_silence sink hsilence
      have hnone : acceptedSamples events = [] := by
        refine acceptedSamples_onData fun event hevent => ?_
        obtain ⟨other, call, heq, -⟩ := hsilence event hevent
        exact ⟨other, call, heq⟩
      dsimp only
      rw [hblocks, hnone]
      exact ⟨honce, nofun, List.append_nil _⟩
  | clear => exact absurd hact id
  | addSink other =>
    refine ⟨?_, nofun, List.append_nil _⟩
    have hother : other ≠ sink := hact
    simpa [InternalSource.step, InternalSource.addSink, List.count_append,
      List.count_singleton, hother] using honce
  | removeSink other =>
    refine ⟨?_, nofun, List.append_nil _⟩
    have hkept : (sink != other) = true := bne_iff_ne.mpr (Ne.symm hact)
    simpa [InternalSource.step, InternalSource.removeSink, List.count_filter, hkept] using honce

theorem conserves (h : Queued frames channels queue source)
    (honce : source.sinks.count sink = 1) {acts : List Act}
    (hacts : ∀ act ∈ acts, Undisturbed sink act) :
    (∀ call ∈ blocks sink (outputs InternalSource.step source acts),
        call.samples.length = frames * channels ∧
        call.numberOfFrames = frames ∧ call.numberOfChannels = channels) ∧
      source.buffer ++ acceptedSamples (outputs InternalSource.step source acts) =
        (blocks sink (outputs InternalSource.step source acts)).flatMap OnData.samples ++
          (source.run acts).buffer := by
  induction acts generalizing source with
  | nil => exact ⟨nofun, List.append_nil _⟩
  | cons act acts ih =>
    obtain ⟨hcount, hlength, hsplit⟩ := h.conserves_step honce (hacts act List.mem_cons_self)
    obtain ⟨hlater, hrest⟩ := ih (h.step act) hcount
      fun other hother => hacts other (List.mem_cons_of_mem _ hother)
    rw [outputs, blocks_append, acceptedSamples_append]
    constructor
    · intro call hcall
      rcases List.mem_append.mp hcall with hcall | hcall
      · exact hlength call hcall
      · exact hlater call hcall
    · rw [← List.append_assoc, hsplit, List.append_assoc, hrest, List.flatMap_append,
        List.append_assoc]
      rfl

end Queued

/-- **What a source with a queue does**, from any state it can get to.  From a clear to the
    next, the blocks that a registered sink is given and the samples in the buffer are the
    accepted frames; a block has 10 ms of samples; a frame is accepted as a whole or not at all;
    and the buffer never holds more than twice the queue. -/
structure Lossless (frames channels queue : Nat) (source : InternalSource) : Prop where
  conserves : ∀ (earlier acts : List Act) (sink : Nat),
    (source.run earlier).sinks.count sink = 1 → (∀ act ∈ acts, Undisturbed sink act) →
      (blocks sink (outputs InternalSource.step (source.run earlier).clearBuffer acts)).flatMap
          OnData.samples ++ ((source.run earlier).clearBuffer.run acts).buffer =
        acceptedSamples (outputs InternalSource.step (source.run earlier).clearBuffer acts)
  blockSize : ∀ (earlier acts : List Act) (sink : Nat),
    (source.run earlier).sinks.count sink = 1 → (∀ act ∈ acts, Undisturbed sink act) →
      ∀ call ∈ blocks sink (outputs InternalSource.step (source.run earlier).clearBuffer acts),
        call.samples.length = frames * channels ∧ call.numberOfFrames = frames ∧
          call.numberOfChannels = channels
  whole : ∀ (acts : List Act) (frame : AudioFrame),
    if ((source.run acts).captureFrame frame).1 = true then
      ∃ samples, frame.data = some samples ∧
        ((source.run acts).captureFrame frame).2.1.buffer = (source.run acts).buffer ++ samples
    else ((source.run acts).captureFrame frame).2.1.buffer = (source.run acts).buffer
  bounded : ∀ acts : List Act, (source.run acts).buffer.length ≤ 2 * queue

/-- **A source with a queue loses and reorders nothing**, for rates and queues that an `int`
    holds. -/
theorem create_lossless {queueSizeSamples notifyThresholdSamples : Int}
    {sampleRate numChannels queueSizeMs : UInt32} {source : InternalSource}
    (hcreate : create queueSizeSamples notifyThresholdSamples sampleRate numChannels queueSizeMs =
      .ok source)
    (hqueue : queueSizeMs ≠ 0) (hrate : 100 ≤ sampleRate.toNat) (hchannels : numChannels ≠ 0)
    (hrateFits : sampleRate.toNat ≤ intMax) (hqueueFits : queueSizeMs.toNat ≤ intMax)
    (hfits : queueSizeMs.toNat / 10 * (sampleRate.toNat / 100 * numChannels.toNat) ≤ intMax) :
    Lossless (sampleRate.toNat / 100) numChannels.toNat
      (queueSizeMs.toNat / 10 * (sampleRate.toNat / 100 * numChannels.toNat)) source := by
  have hqueued := create_queued hcreate hqueue hrate hchannels hrateFits hqueueFits hfits
  constructor
  · intro earlier acts sink honce hacts
    have hstart := (hqueued.run earlier).step .clear
    exact (hstart.conserves honce hacts).2.symm
  · intro earlier acts sink honce hacts
    exact (((hqueued.run earlier).step .clear).conserves honce hacts).1
  · intro acts frame
    rcases (hqueued.run acts).captureFrame frame with heq | ⟨samples, hdata, -, heq⟩
    · rw [heq, if_neg Bool.false_ne_true]
    · rw [heq, if_pos rfl]
      exact ⟨samples, hdata, rfl⟩
  · intro acts
    exact (hqueued.run acts).length_le

/-- 48 kHz, one channel, a queue of 100 ms. -/
def monoSource : InternalSource where
  missedFrames := 10
  sampleRate := 48000
  numChannels := 1
  queueSizeSamples := 4800
  notifyThresholdSamples := 4800
  samples10ms := some 480

theorem create_mono : create 7 7 48000 1 100 = .ok monoSource := by
  simp [create, InternalSource.new, toInt, silenceFramesThreshold, monoSource]

theorem create_lossless_mono :
    create 7 7 48000 1 100 = .ok monoSource ∧ Lossless 480 1 4800 monoSource := by
  have hlossless := create_lossless create_mono (by decide) (by decide) (by decide) (by decide)
    (by decide) (by decide)
  exact ⟨create_mono, by simpa using hlossless⟩

def oneSample : AudioFrame where
  data := some [5]
  sampleRate := 48000
  numberOfChannels := 1
  numberOfFrames := 1
  length_data samples hsamples := by
    obtain rfl := Option.mem_some.mp hsamples
    rfl

/-- As an `int` the rate 4294967295 is -1: the queue has no samples. -/
def wrappedSource : InternalSource where
  missedFrames := 10
  sampleRate := -1
  numChannels := 1
  queueSizeSamples := 0
  notifyThresholdSamples := 0
  samples10ms := some 0

theorem create_wrapped : create 0 0 4294967295 1 10 = .ok wrappedSource := by
  simp [create, InternalSource.new, toInt, silenceFramesThreshold, wrappedSource]

/-- The one sample is handed over as it is. -/
theorem negative_rate_is_not_queued :
    ¬ ∀ (queueSizeSamples notifyThresholdSamples : Int)
      (sampleRate numChannels queueSizeMs : UInt32) (source : InternalSource),
      create queueSizeSamples notifyThresholdSamples sampleRate numChannels queueSizeMs =
        .ok source →
      queueSizeMs ≠ 0 → 100 ≤ sampleRate.toNat → numChannels ≠ 0 →
      queueSizeMs.toNat ≤ intMax →
      queueSizeMs.toNat / 10 * (sampleRate.toNat / 100 * numChannels.toNat) ≤ intMax →
      Lossless (sampleRate.toNat / 100) numChannels.toNat
        (queueSizeMs.toNat / 10 * (sampleRate.toNat / 100 * numChannels.toNat)) source := by
  intro hall
  have hlossless := hall 0 0 4294967295 1 10 _ create_wrapped (by decide) (by decide)
    (by decide) (by decide) (by decide)
  have hsize := hlossless.blockSize [.addSink 1] [.capture oneSample] 1 rfl
    (by simp [Undisturbed]) ⟨[5], 16, 48000, 1, 1, false⟩
    (by simp [outputs, InternalSource.run, InternalSource.step, InternalSource.addSink,
      InternalSource.clearBuffer, InternalSource.captureFrame, InternalSource.toSinks,
      InternalSource.frameCall, wrappedSource, oneSample, AudioSource.blocks, sizeMax, toInt])
  exact absurd hsize.1 (by decide)

/-! ## 5. A source without a queue -/

/-- The pointer is not null, and the rate, the channels and the frames are positive. -/
def AudioFrame.Valid (frame : AudioFrame) : Prop :=
  frame.data.isSome = true ∧ frame.sampleRate ≠ 0 ∧ frame.numberOfChannels ≠ 0 ∧
    frame.numberOfFrames ≠ 0

/-- The number of samples is one that a `std::size_t` holds. -/
def AudioFrame.Countable (frame : AudioFrame) : Prop :=
  frame.numberOfFrames.toNat ≤ sizeMax / frame.numberOfChannels.toNat

/-- `capture_frame` returns true, hands the frame once to each registered sink, and no sample
    is in the buffer. -/
def Forwards (source : InternalSource) (frame : AudioFrame) : Prop :=
  (source.captureFrame frame).1 = true ∧
    (source.captureFrame frame).2.2 =
      source.toSinks (InternalSource.frameCall frame (frame.data.getD [])) ∧
    (source.captureFrame frame).2.1.buffer = []

/-- Every call of `capture_frame` in a run forwards its frame. -/
def ForwardsAll (source : InternalSource) (acts : List Act) : Prop :=
  Along (fun source act => ∀ frame, act = .capture frame → Forwards source frame)
    (fun source act => (source.step act).1) source acts

theorem forwards_iff {source : InternalSource} (hempty : source.buffer = []) {frame : AudioFrame}
    (hvalid : frame.Valid) :
    Forwards source frame ↔ source.queueSizeSamples = 0 ∧ frame.Countable := by
  obtain ⟨hdata, hrate, hchannels, hframes⟩ := hvalid
  obtain ⟨samples, hsamples⟩ := Option.isSome_iff_exists.mp hdata
  have hpositive : ¬ (frame.sampleRate = 0 ∨ frame.numberOfChannels = 0 ∨
      frame.numberOfFrames = 0) := by
    rintro (h | h | h)
    · exact hrate h
    · exact hchannels h
    · exact hframes h
  have hlength : 0 < samples.length := by
    rw [frame.length_data samples hsamples]
    refine Nat.mul_pos ?_ ?_
    · exact Nat.pos_of_ne_zero fun h => hframes (UInt64.toNat_inj.mp h)
    · exact Nat.pos_of_ne_zero fun h => hchannels (UInt32.toNat_inj.mp h)
  unfold Forwards InternalSource.captureFrame AudioFrame.Countable
  rw [hsamples]
  dsimp only
  rw [if_neg hpositive]
  by_cases hcountable : frame.numberOfFrames.toNat ≤ sizeMax / frame.numberOfChannels.toNat
  · rw [if_neg (Nat.not_lt.mpr hcountable)]
    by_cases hqueue : source.queueSizeSamples = 0
    · rw [if_neg (not_not.mpr hqueue)]
      exact iff_of_true ⟨rfl, rfl, hempty⟩ ⟨hqueue, hcountable⟩
    · -- the frame is refused or goes into the buffer
      rw [if_pos hqueue]
      refine iff_of_false ?_ fun h => hqueue h.1
      rintro ⟨haccepted, -, hbuffer⟩
      split at haccepted
      · cases haccepted
      · rename_i hroom
        rw [if_neg hroom, hempty, List.nil_append] at hbuffer
        have hnil : samples = [] := hbuffer
        rw [hnil] at hlength
        exact absurd hlength (Nat.lt_irrefl 0)
  · rw [if_pos (Nat.lt_of_not_le hcountable)]
    exact iff_of_false (fun h => Bool.false_ne_true h.1) fun h => hcountable h.2

/-- A source without a queue, nothing in its buffer; `held` is what the member holds that the
    constructor has not assigned. -/
structure Unqueued (held : Int) (source : InternalSource) : Prop where
  queueSizeSamples : source.queueSizeSamples = held
  buffer : source.buffer = []
  samples10ms : source.samples10ms = none

theorem create_unqueued {queueSizeSamples notifyThresholdSamples : Int}
    {sampleRate numChannels : UInt32} {source : InternalSource}
    (hcreate : create queueSizeSamples notifyThresholdSamples sampleRate numChannels 0 =
      .ok source) : Unqueued queueSizeSamples source := by
  have hzero : toInt (UInt32.toNat 0) = 0 := toInt_of_le (Nat.zero_le _)
  rw [create, if_neg (by decide), hzero, InternalSource.new, if_pos rfl] at hcreate
  obtain rfl := Except.ok.inj hcreate
  exact ⟨rfl, rfl, rfl⟩

theorem captureFrame_sizes (source : InternalSource) (frame : AudioFrame) :
    (source.captureFrame frame).2.1.queueSizeSamples = source.queueSizeSamples ∧
      (source.captureFrame frame).2.1.samples10ms = source.samples10ms := by
  unfold InternalSource.captureFrame
  split
  · exact ⟨rfl, rfl⟩
  split
  · exact ⟨rfl, rfl⟩
  split
  · exact ⟨rfl, rfl⟩
  dsimp only
  split
  · split <;> exact ⟨rfl, rfl⟩
  · exact ⟨rfl, rfl⟩

/-- A section leaves the buffer empty, if it forwards the frame it captures. -/
theorem Unqueued.step {held : Int} {source : InternalSource} (h : Unqueued held source)
    {act : Act} (hforwards : ∀ frame, act = .capture frame → Forwards source frame) :
    Unqueued held (source.step act).1 := by
  cases act with
  | capture frame =>
    obtain ⟨hqueue, hticking⟩ := captureFrame_sizes source frame
    exact ⟨hqueue.trans h.queueSizeSamples, (hforwards frame rfl).2.2,
      hticking.trans h.samples10ms⟩
  | tick =>
    have htick : source.tick = (source, []) := by rw [InternalSource.tick, h.samples10ms]
    rw [InternalSource.step, htick]
    exact h
  | clear => exact ⟨h.queueSizeSamples, rfl, h.samples10ms⟩
  | addSink sink => exact ⟨h.queueSizeSamples, h.buffer, h.samples10ms⟩
  | removeSink sink => exact ⟨h.queueSizeSamples, h.buffer, h.samples10ms⟩

theorem Unqueued.forwardsAll_iff {held : Int} {source : InternalSource}
    (h : Unqueued held source) {acts : List Act}
    (hvalid : ∀ frame, .capture frame ∈ acts → frame.Valid) :
    ForwardsAll source acts ↔ ∀ frame, .capture frame ∈ acts → held = 0 ∧ frame.Countable := by
  induction acts generalizing source with
  | nil => exact iff_of_true trivial nofun
  | cons act acts ih =>
    have hfirst : (∀ frame, act = .capture frame → Forwards source frame) ↔
        ∀ frame, act = .capture frame → held = 0 ∧ frame.Countable := by
      refine forall_congr' fun frame => imp_congr_right fun hact => ?_
      rw [forwards_iff h.buffer (hvalid frame (by simp [hact])), h.queueSizeSamples]
    have hrest : (∀ frame, act = .capture frame → Forwards source frame) →
        (ForwardsAll (source.step act).1 acts ↔
          ∀ frame, .capture frame ∈ acts → held = 0 ∧ frame.Countable) := fun hforwards =>
      ih (h.step hforwards) fun frame hframe => hvalid frame (List.mem_cons_of_mem _ hframe)
    rw [ForwardsAll, Along, ← ForwardsAll, and_congr_right hrest, hfirst]
    constructor
    · rintro ⟨hhead, htail⟩ frame hframe
      rcases List.mem_cons.mp hframe with rfl | hframe
      · exact hhead frame rfl
      · exact htail frame hframe
    · intro hall
      exact ⟨fun frame hact => hall frame (by simp [hact]),
        fun frame hframe => hall frame (List.mem_cons_of_mem _ hframe)⟩

/-- **When a source without a queue forwards every frame**: just if the member that its
    constructor leaves as it was happens to hold 0, and no frame has more samples than can be
    counted.  The sinks, the ticks and the clears in between do not matter. -/
theorem unqueued_forwards_iff {queueSizeSamples notifyThresholdSamples : Int}
    {sampleRate numChannels : UInt32} {source : InternalSource}
    (hcreate : create queueSizeSamples notifyThresholdSamples sampleRate numChannels 0 =
      .ok source)
    {acts : List Act} (hvalid : ∀ frame, .capture frame ∈ acts → frame.Valid) :
    ForwardsAll source acts ↔
      ∀ frame, .capture frame ∈ acts → queueSizeSamples = 0 ∧ frame.Countable :=
  (create_unqueued hcreate).forwardsAll_iff hvalid

/-- A source without a queue whose member happens to hold 0. -/
def zeroSource : InternalSource where
  sampleRate := 48000
  numChannels := 1
  queueSizeSamples := 0
  notifyThresholdSamples := 7

theorem oneSample_valid : oneSample.Valid := ⟨rfl, by decide, by decide, by decide⟩

theorem unqueued_forwards_oneSample :
    create 0 7 48000 1 0 = .ok zeroSource ∧ oneSample.Valid ∧
      ForwardsAll zeroSource [.addSink 1, .capture oneSample] := by
  have hcreate : create 0 7 48000 1 0 = .ok zeroSource := by
    simp [create, InternalSource.new, toInt, zeroSource]
  refine ⟨hcreate, oneSample_valid, (unqueued_forwards_iff hcreate ?_).mpr ?_⟩
  · intro frame hframe
    obtain rfl : frame = oneSample := by simpa using hframe
    exact oneSample_valid
  · intro frame hframe
    obtain rfl : frame = oneSample := by simpa using hframe
    exact ⟨rfl, by simp [AudioFrame.Countable, oneSample, sizeMax]⟩

/-- A source without a queue whose member holds 480. -/
def leftoverSource : InternalSource := { zeroSource with queueSizeSamples := 480 }

/-- It puts the sample into its buffer. -/
theorem leftover_size_keeps_frame :
    ¬ ∀ (queueSizeSamples notifyThresholdSamples : Int) (sampleRate numChannels : UInt32)
      (source : InternalSource) (acts : List Act),
      create queueSizeSamples notifyThresholdSamples sampleRate numChannels 0 = .ok source →
      (∀ frame, .capture frame ∈ acts → frame.Valid) → ForwardsAll source acts := by
  intro hall
  have hcreate : create 480 7 48000 1 0 = .ok leftoverSource := by
    simp [create, InternalSource.new, toInt, leftoverSource, zeroSource]
  have hforwards := hall 480 7 48000 1 _ [.addSink 1, .capture oneSample] hcreate
    fun frame hframe => by
      obtain rfl : frame = oneSample := by simpa using hframe
      exact oneSample_valid
  have hbuffer := (hforwards.2.1 oneSample rfl).2.2
  simp [InternalSource.step, InternalSource.addSink, InternalSource.captureFrame, leftoverSource,
    zeroSource, oneSample, sizeMax, toInt, toSize] at hbuffer

end LivekitClient.AudioSource
