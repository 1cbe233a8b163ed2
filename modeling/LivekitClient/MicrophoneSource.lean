/-
  LivekitClient/MicrophoneSource.lean
  ===================================
  **The microphone** (`MicrophoneAudioSource::OnAudioFrame` in
  `src/core/track/microphone_audio_source.cpp`).

  The device gives samples in pieces of any length.  They are put into a buffer, and 10 ms at a
  time are taken from its front and processed.  A block whose processing fails is counted as an
  error and left out, the loop goes on.

  What the audio device, the processing and the consumer answer is up to the world, turn by
  turn.  A call that throws ends the loop with a dropped frame.
-/
import LivekitClient.BlockStream
import LivekitClient.Runs
import Mathlib.Data.UInt

namespace LivekitClient.MicrophoneSource

open Runs BlockStream

/-! ## 1. The source -/

def kMicrophoneSampleRate : UInt32 := 48000

def kMicrophoneChannels : UInt32 := 1

/-- `kMicrophoneSampleRate / 100`. -/
def blockSize : Nat := 480

/-- What the world answers in a turn of the loop. -/
structure Turn where
  echoCancellation : Bool
  deviceBound : Bool
  readsRenderData : Bool
  playoutDelayMs : UInt16
  processesRender : Bool
  processesCapture : Bool
  appliesGain : Bool
  capturesFrame : Bool
  /-- A call before `ProcessCapture` throws. -/
  throwsBefore : Bool := false
  /-- A call behind it throws. -/
  throwsBehind : Bool := false

/-- The render data is read. -/
def Turn.renders (turn : Turn) : Bool :=
  turn.echoCancellation && turn.deviceBound && turn.readsRenderData

/-- Nothing throws. -/
def Turn.Quiet (turn : Turn) : Prop := turn.throwsBefore = false ∧ turn.throwsBehind = false

/-- The arguments of `OnAudioFrame`; `noMemory` says that the buffer cannot take them. -/
structure AudioCallback where
  samples : Option (List Int16)
  sampleRate : UInt32
  channels : UInt32
  framesPerChannel : UInt32
  noMemory : Bool := false
  length_samples : ∀ data ∈ samples, data.length = framesPerChannel.toNat * channels.toNat

/-- `MicrophoneAudioSource`; `turns` counts the turns of the loop so far. -/
structure MicrophoneAudioSource where
  captureBuffer : List Int16 := []
  captureFramesProcessed : UInt64 := 0
  renderFramesProcessed : UInt64 := 0
  captureProcessingErrors : UInt64 := 0
  renderProcessingErrors : UInt64 := 0
  framesDropped : UInt64 := 0
  turns : Nat := 0

/-- A call of `ProcessCapture`. -/
structure ProcessCapture where
  samples : List Int16
  sampleRate : UInt32
  channels : UInt32
  streamDelayMs : UInt16
deriving DecidableEq

namespace MicrophoneAudioSource

variable (source : MicrophoneAudioSource)

/-- Take a block from the front. -/
def takeBlock : MicrophoneAudioSource :=
  { source with captureBuffer := source.captureBuffer.drop blockSize, turns := source.turns + 1 }

def drop : MicrophoneAudioSource := { source with framesDropped := source.framesDropped + 1 }

/-- The part of a turn about the render data. -/
def processRender (turn : Turn) : MicrophoneAudioSource :=
  if turn.renders then
    if turn.processesRender then
      { source with renderFramesProcessed := source.renderFramesProcessed + 1 }
    else { source with renderProcessingErrors := source.renderProcessingErrors + 1 }
  else source

/-- The part of a turn behind `ProcessCapture`: whether the loop goes on. -/
def afterCapture (turn : Turn) : Bool × MicrophoneAudioSource :=
  if !turn.processesCapture then
    (true, { source with captureProcessingErrors := source.captureProcessingErrors + 1 })
  else
    let source := { source with captureFramesProcessed := source.captureFramesProcessed + 1 }
    if turn.throwsBehind then (false, source.drop)
    else if !turn.appliesGain || !turn.capturesFrame then (true, source.drop)
    else (true, source)

@[simp]
theorem captureBuffer_processRender (turn : Turn) :
    (source.processRender turn).captureBuffer = source.captureBuffer := by
  unfold processRender
  split
  · split <;> rfl
  · rfl

@[simp]
theorem captureBuffer_afterCapture (turn : Turn) :
    (source.afterCapture turn).2.captureBuffer = source.captureBuffer := by
  unfold afterCapture
  split
  · rfl
  dsimp only
  split
  · rfl
  · split <;> rfl

/-- The call of `ProcessCapture` in a turn. -/
def captureCall (turn : Turn) : ProcessCapture where
  samples := source.captureBuffer.take blockSize
  sampleRate := kMicrophoneSampleRate
  channels := kMicrophoneChannels
  streamDelayMs := if turn.renders then turn.playoutDelayMs else 0

/-- The loop, with the calls of `ProcessCapture` that it makes. -/
def processBlocks (world : Nat → Turn) (source : MicrophoneAudioSource) :
    MicrophoneAudioSource × List ProcessCapture :=
  if blockSize ≤ source.captureBuffer.length then
    let turn := world source.turns
    if turn.throwsBefore then (source.takeBlock.drop, [])
    else
      let after := (source.takeBlock.processRender turn).afterCapture turn
      if after.1 then
        let (last, calls) := processBlocks world after.2
        (last, source.captureCall turn :: calls)
      else (after.2, [source.captureCall turn])
  else (source, [])
termination_by source.captureBuffer.length
decreasing_by
  simp only [after, captureBuffer_afterCapture, captureBuffer_processRender, takeBlock,
    List.length_drop, blockSize] at *
  omega

/-- `OnAudioFrame`. -/
def onAudioFrame (world : Nat → Turn) (call : AudioCallback) :
    MicrophoneAudioSource × List ProcessCapture :=
  match call.samples with
  | none => (source, [])
  | some samples =>
    if call.sampleRate ≠ kMicrophoneSampleRate ∨ call.channels ≠ kMicrophoneChannels ∨
        call.framesPerChannel = 0 then (source, [])
    else if call.noMemory then (source.drop, [])
    else
      processBlocks world { source with captureBuffer := source.captureBuffer ++ samples }

/-- The source after some callbacks, and the calls of `ProcessCapture` until then. -/
def run (world : Nat → Turn) (calls : List AudioCallback) :
    MicrophoneAudioSource × List ProcessCapture :=
  (calls.foldl (fun source call => (source.onAudioFrame world call).1) source,
    outputs (fun source call => onAudioFrame source world call) source calls)

/-! ## 2. A callback -/

/-- `capture_frames_processed_ + capture_processing_errors_`. -/
def counted : UInt64 := source.captureFramesProcessed + source.captureProcessingErrors

theorem counted_processRender (turn : Turn) :
    (source.processRender turn).counted = source.counted := by
  unfold processRender
  split
  · split <;> rfl
  · rfl

/-- Every turn counts its block, in one of the two counters. -/
theorem afterCapture_of_quiet {turn : Turn} (hquiet : turn.Quiet) :
    (source.afterCapture turn).1 = true ∧
      (source.afterCapture turn).2.counted = source.counted + 1 := by
  unfold afterCapture counted
  split
  · exact ⟨rfl, (UInt64.add_assoc ..).symm⟩
  · dsimp only
    rw [hquiet.2, if_neg Bool.false_ne_true]
    have hsum : source.captureFramesProcessed + 1 + source.captureProcessingErrors =
        source.captureFramesProcessed + source.captureProcessingErrors + 1 := by
      rw [UInt64.add_assoc, UInt64.add_assoc, UInt64.add_comm 1]
    split <;> exact ⟨rfl, hsum⟩

/-- The loop hands over the blocks of the buffer and keeps what is left. -/
theorem processBlocks_of_quiet {world : Nat → Turn} (hquiet : ∀ n, (world n).Quiet)
    (source : MicrophoneAudioSource) :
    (processBlocks world source).2.map ProcessCapture.samples =
        blocks blockSize source.captureBuffer ∧
      (processBlocks world source).1.captureBuffer = rest blockSize source.captureBuffer ∧
      (processBlocks world source).1.counted =
        source.counted + UInt64.ofNat (source.captureBuffer.length / blockSize) := by
  rw [processBlocks]
  by_cases hfull : blockSize ≤ source.captureBuffer.length
  · obtain ⟨hgoes, hcounts⟩ :=
      (source.takeBlock.processRender (world source.turns)).afterCapture_of_quiet
        (hquiet source.turns)
    have hleft : ((source.takeBlock.processRender (world source.turns)).afterCapture
        (world source.turns)).2.captureBuffer = source.captureBuffer.drop blockSize := by
      rw [captureBuffer_afterCapture, captureBuffer_processRender, takeBlock]
    have ih := processBlocks_of_quiet hquiet
      ((source.takeBlock.processRender (world source.turns)).afterCapture
        (world source.turns)).2
    rw [hleft, hcounts, counted_processRender] at ih
    obtain ⟨hcalls, hbuffer, hcount⟩ := ih
    have hpos : 0 < blockSize := by decide
    have hnumber : source.captureBuffer.length / blockSize =
        1 + (source.captureBuffer.drop blockSize).length / blockSize := by
      rw [List.length_drop, Nat.add_comm, ← Nat.div_eq_sub_div hpos hfull]
    rw [if_pos hfull]
    dsimp only
    rw [(hquiet source.turns).1, if_neg Bool.false_ne_true, if_pos hgoes]
    refine ⟨?_, ?_, ?_⟩
    · rw [List.map_cons, hcalls, blocks_of_le hpos hfull]
      rfl
    · rw [rest_of_le hpos hfull]
      exact hbuffer
    · rw [hnumber, UInt64.ofNat_add, ← UInt64.add_assoc]
      exact hcount
  · have hshort : source.captureBuffer.length < blockSize := Nat.lt_of_not_le hfull
    rw [if_neg hfull, blocks_of_lt hshort, rest_of_lt hshort, Nat.div_eq_of_lt hshort]
    exact ⟨rfl, rfl, (UInt64.add_zero _).symm⟩
termination_by source.captureBuffer.length
decreasing_by
  rw [hleft, List.length_drop]
  have hpos : 0 < blockSize := by decide
  omega

end MicrophoneAudioSource

/-- A callback with samples of the right rate and channel, for which there is memory. -/
structure AudioCallback.Valid (call : AudioCallback) : Prop where
  samples : call.samples.isSome = true
  sampleRate : call.sampleRate = kMicrophoneSampleRate
  channels : call.channels = kMicrophoneChannels
  framesPerChannel : call.framesPerChannel ≠ 0
  memory : call.noMemory = false

/-- The samples of some callbacks. -/
def stream (calls : List AudioCallback) : List Int16 :=
  calls.flatMap fun call => call.samples.getD []

theorem onAudioFrame_of_valid (source : MicrophoneAudioSource) (world : Nat → Turn)
    {call : AudioCallback} (hvalid : call.Valid) :
    source.onAudioFrame world call = MicrophoneAudioSource.processBlocks world
      { source with captureBuffer := source.captureBuffer ++ call.samples.getD [] } := by
  obtain ⟨samples, hsamples⟩ := Option.isSome_iff_exists.mp hvalid.samples
  have hrefused : ¬ (call.sampleRate ≠ kMicrophoneSampleRate ∨
      call.channels ≠ kMicrophoneChannels ∨ call.framesPerChannel = 0) := by
    rintro (h | h | h)
    · exact h hvalid.sampleRate
    · exact h hvalid.channels
    · exact hvalid.framesPerChannel h
  unfold MicrophoneAudioSource.onAudioFrame
  rw [hsamples]
  dsimp only
  rw [if_neg hrefused, hvalid.memory, if_neg Bool.false_ne_true]
  rfl

/-! ## 3. Any callbacks -/

/-- The source has been given the samples of `given`, and `handed` are the blocks of it that
    `ProcessCapture` got. -/
structure Reframed (source : MicrophoneAudioSource) (given : List Int16)
    (handed : List (List Int16)) : Prop where
  blocks : handed = blocks blockSize given
  rest : source.captureBuffer = rest blockSize given
  counted : source.counted = UInt64.ofNat (given.length / blockSize)

theorem reframed_new : Reframed {} [] [] := ⟨rfl, rfl, rfl⟩

theorem Reframed.onAudioFrame {source : MicrophoneAudioSource} {given : List Int16}
    {handed : List (List Int16)} (h : Reframed source given handed) {world : Nat → Turn}
    (hquiet : ∀ n, (world n).Quiet) {call : AudioCallback} (hvalid : call.Valid) :
    Reframed (source.onAudioFrame world call).1 (given ++ call.samples.getD [])
      (handed ++ (source.onAudioFrame world call).2.map ProcessCapture.samples) := by
  have hpos : 0 < blockSize := by decide
  have hblocks := blocks_append hpos given (call.samples.getD [])
  obtain ⟨hcalls, hbuffer, hcount⟩ := MicrophoneAudioSource.processBlocks_of_quiet hquiet
    { source with captureBuffer := source.captureBuffer ++ call.samples.getD [] }
  rw [onAudioFrame_of_valid source world hvalid]
  rw [h.rest] at hcalls hbuffer hcount ⊢
  constructor
  · rw [hcalls, h.blocks, hblocks]
  · exact hbuffer.trans (rest_append hpos ..).symm
  · have hnumber : (given ++ call.samples.getD []).length / blockSize =
        given.length / blockSize +
          (BlockStream.rest blockSize given ++ call.samples.getD []).length / blockSize := by
      rw [← length_blocks, hblocks, List.length_append, length_blocks, length_blocks]
    rw [hcount, hnumber, UInt64.ofNat_add, ← h.counted]
    rfl

theorem Reframed.run {source : MicrophoneAudioSource} {given : List Int16}
    {handed : List (List Int16)} (h : Reframed source given handed) {world : Nat → Turn}
    (hquiet : ∀ n, (world n).Quiet) {calls : List AudioCallback}
    (hvalid : ∀ call ∈ calls, call.Valid) :
    Reframed (source.run world calls).1 (given ++ stream calls)
      (handed ++ (source.run world calls).2.map ProcessCapture.samples) := by
  induction calls generalizing source given handed with
  | nil =>
    simp only [MicrophoneAudioSource.run, stream, outputs, List.foldl_nil, List.flatMap_nil,
      List.map_nil, List.append_nil]
    exact h
  | cons call calls ih =>
    have hnext := ih (h.onAudioFrame hquiet (hvalid call List.mem_cons_self))
      fun other hother => hvalid other (List.mem_cons_of_mem _ hother)
    rw [List.append_assoc, List.append_assoc, ← List.map_append] at hnext
    exact hnext

/-- **The sizes of the callbacks do not matter.**  Two ways of giving the same samples hand
    `ProcessCapture` the same blocks, the consecutive blocks of 480 samples; fewer than 480
    samples stay in the buffer; and every block is counted once. -/
theorem reframing {world world' : Nat → Turn} (hquiet : ∀ n, (world n).Quiet)
    (hquiet' : ∀ n, (world' n).Quiet) {calls calls' : List AudioCallback}
    (hvalid : ∀ call ∈ calls, call.Valid) (hvalid' : ∀ call ∈ calls', call.Valid)
    (hsame : stream calls = stream calls') :
    (MicrophoneAudioSource.run {} world calls).2.map ProcessCapture.samples =
        (MicrophoneAudioSource.run {} world' calls').2.map ProcessCapture.samples ∧
      (MicrophoneAudioSource.run {} world calls).2.map ProcessCapture.samples =
        blocks 480 (stream calls) ∧
      (MicrophoneAudioSource.run {} world calls).1.captureBuffer.length < 480 ∧
      (MicrophoneAudioSource.run {} world calls).1.captureFramesProcessed +
          (MicrophoneAudioSource.run {} world calls).1.captureProcessingErrors =
        UInt64.ofNat ((stream calls).length / 480) := by
  have hreframed := reframed_new.run hquiet hvalid
  have hreframed' := reframed_new.run hquiet' hvalid'
  rw [List.nil_append, List.nil_append] at hreframed hreframed'
  refine ⟨?_, hreframed.blocks, ?_, hreframed.counted⟩
  · rw [hreframed.blocks, hreframed'.blocks, hsame]
  · rw [hreframed.rest, length_rest]
    exact Nat.mod_lt _ (by decide)

/-- A world in which everything works. -/
def workingWorld (_ : Nat) : Turn where
  echoCancellation := true
  deviceBound := true
  readsRenderData := true
  playoutDelayMs := 20
  processesRender := true
  processesCapture := true
  appliesGain := true
  capturesFrame := true

/-- A world in which the processing fails. -/
def failingWorld (n : Nat) : Turn := { workingWorld n with processesCapture := false }

/-- A callback with the samples of a ramp from `first` on. -/
def rampCallback (first count : UInt32) : AudioCallback where
  samples := some ((List.range count.toNat).map fun i => Int16.ofNat (first.toNat + i))
  sampleRate := 48000
  channels := 1
  framesPerChannel := count
  length_samples data hdata := by
    obtain rfl := Option.mem_some.mp hdata
    rw [List.length_map, List.length_range]
    exact (Nat.mul_one _).symm

theorem rampCallback_valid {first count : UInt32} (hcount : count ≠ 0) :
    (rampCallback first count).Valid := ⟨rfl, rfl, rfl, hcount, rfl⟩

/-- 960 samples in one callback, and in two with processing errors. -/
theorem reframing_ramp :
    (MicrophoneAudioSource.run {} workingWorld [rampCallback 0 960]).2.map
        ProcessCapture.samples =
      (MicrophoneAudioSource.run {} failingWorld
        [rampCallback 0 441, rampCallback 441 519]).2.map ProcessCapture.samples := by
  refine (reframing (fun _ => ⟨rfl, rfl⟩) (fun _ => ⟨rfl, rfl⟩) ?_ ?_ ?_).1
  · intro call hcall
    rw [List.mem_singleton.mp hcall]
    exact rampCallback_valid (by decide)
  · intro call hcall
    rcases List.mem_cons.mp hcall with rfl | hcall
    · exact rampCallback_valid (by decide)
    · rw [List.mem_singleton.mp hcall]
      exact rampCallback_valid (by decide)
  · have hsum : 960 = 441 + 519 := by decide
    have hrange : List.range 960 = List.range 441 ++ (List.range 519).map (441 + ·) := by
      rw [hsum, List.range_add]
    have hcounts : (960 : UInt32).toNat = 960 ∧ (441 : UInt32).toNat = 441 ∧
        (519 : UInt32).toNat = 519 := ⟨rfl, rfl, rfl⟩
    simp only [stream, rampCallback, List.flatMap_cons, List.flatMap_nil, Option.getD_some,
      List.append_nil, hcounts, hrange, List.map_append, List.map_map, Function.comp_def,
      UInt32.toNat_zero, Nat.zero_add]

end LivekitClient.MicrophoneSource
