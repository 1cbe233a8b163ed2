/-
  LivekitClient/OutputStructs.lean
  ================================
  **Versioned output structs of the C API** (`CopyOutputStruct` and the getters and
  statistics calls of `src/capi/livekit.cpp` that fill a struct which begins with
  `struct_size`).

  The field says how large the caller's object is, so that a library with a newer, larger
  struct copies only what fits.  But it is itself one of the bytes that are copied, and
  what the library writes there is the size of its own struct.  The object is laid out as
  on the platforms with 64-bit pointers and little-endian numbers.
-/
import LivekitClient.ByteMemory
import LivekitClient.CApi
import LivekitClient.Runs
import LivekitClient.Types

namespace LivekitClient.OutputStructs

open ByteMemory Runs
open LivekitClient.CApi (Result)

/-! ## 1. The layout of a struct -/

/-- A field of four bytes (`int`, an enumeration, `float`, `uint32_t`) or of eight. -/
inductive Field where
  | word (value : UInt32)
  | long (value : UInt64)

def Field.bytes : Field → Bytes
  | .word value => encode 4 value.toNat
  | .long value => encode 8 value.toNat

/-- `sizeof`, and also the alignment. -/
def Field.size : Field → Nat
  | .word _ => 4
  | .long _ => 8

/-- The bytes up to the next multiple of `alignment`. -/
def padding (alignment offset : Nat) : Bytes :=
  List.replicate ((alignment - offset % alignment) % alignment) 0

/-- The fields from `offset` on, and the padding at the end of the struct. -/
def layout : Nat → List Field → Bytes
  | offset, [] => padding 8 offset
  | offset, field :: rest =>
    padding field.size offset ++ field.bytes ++
      layout (offset + (padding field.size offset).length + field.size) rest

/-- `sizeof(size_t)`. -/
def sizeofSizeT : Nat := 8

/-- The value of a struct that begins with its own `sizeof`. -/
def structValue (fields : List Field) : Bytes :=
  encode sizeofSizeT (sizeofSizeT + (layout sizeofSizeT fields).length) ++
    layout sizeofSizeT fields

/-- `int` of a `bool`. -/
def Field.flag (value : Bool) : Field := .word (if value then 1 else 0)

/-! ## 2. What the getters read -/

inductive MediaDeviceKind where
  | audioInput
  | audioOutput
  | videoInput
deriving DecidableEq

structure MediaDeviceInfo where
  kind : MediaDeviceKind
  isDefault : Bool

inductive ScreenCaptureSourceKind where
  | monitor
  | window
deriving DecidableEq

structure ScreenCaptureSourceInfo where
  kind : ScreenCaptureSourceKind
  x : Int32
  y : Int32
  width : UInt32
  height : UInt32

structure AudioPlaybackStats where
  queuedFrames : UInt64
  playedFrames : UInt64
  droppedFrames : UInt64
  underrunFrames : UInt64
  bufferedDurationMs : UInt32
  deviceLatencyMs : UInt32
  estimatedDelayMs : UInt32

inductive ConnectionQuality where
  | unknown
  | poor
  | good
  | excellent
  | lost
deriving DecidableEq

inductive TrackStreamState where
  | unknown
  | active
  | paused
deriving DecidableEq

inductive SubscriptionError where
  | unknown
  | codecUnsupported
  | trackNotFound
deriving DecidableEq

/-- `RemoteParticipantSnapshot`, as far as its info goes; `audioLevel` has the bits of the
    `float`. -/
structure RemoteParticipantSnapshot where
  audioLevel : UInt32
  connectionQuality : ConnectionQuality
  speaking : Bool

structure RemoteTrackSnapshot where
  kind : TrackKind
  source : TrackSource
  streamState : TrackStreamState
  width : UInt32
  height : UInt32
  enabled : Bool

structure RemoteTrackPublicationSnapshot where
  kind : TrackKind
  source : TrackSource
  width : UInt32
  height : UInt32
  muted : Bool
  simulcasted : Bool
  subscriptionAllowed : Bool
  subscriptionStatus : TrackSubscriptionStatus
  subscriptionError : Option SubscriptionError
  subscribedTrack : Option RemoteTrackSnapshot

structure AudioProcessingOptions where
  echoCancellation : Bool
  autoGainControl : Bool
  noiseSuppression : Bool

structure MicrophoneProcessingStats where
  captureFramesProcessed : UInt64
  renderFramesProcessed : UInt64
  captureProcessingErrors : UInt64
  renderProcessingErrors : UInt64
  framesDropped : UInt64
  echoCancellationEnabled : Bool

/-! ### The enumerations of the C API -/

def ConnectionQuality.toC : ConnectionQuality → UInt32
  | .unknown => 0
  | .poor => 1
  | .good => 2
  | .excellent => 3
  | .lost => 4

def TrackKind.toC : TrackKind → UInt32
  | .unknown => 0
  | .audio => 1
  | .video => 2

def TrackSource.toC : TrackSource → UInt32
  | .unknown => 0
  | .camera => 1
  | .microphone => 2
  | .screenShare => 3
  | .screenShareAudio => 4

def TrackStreamState.toC : TrackStreamState → UInt32
  | .unknown => 0
  | .active => 1
  | .paused => 2

def TrackSubscriptionStatus.toC : TrackSubscriptionStatus → UInt32
  | .unsubscribed => 0
  | .desired => 1
  | .subscribed => 2

def SubscriptionError.toC : SubscriptionError → UInt32
  | .unknown => 0
  | .codecUnsupported => 1
  | .trackNotFound => 2

def MediaDeviceKind.toC : MediaDeviceKind → UInt32
  | .audioInput => 0
  | .audioOutput => 1
  | .videoInput => 2

def ScreenCaptureSourceKind.toC : ScreenCaptureSourceKind → UInt32
  | .monitor => 0
  | .window => 1

/-! ### The structs of the C API -/

/-- `lk_media_device_info_t`. -/
def MediaDeviceInfo.fields (device : MediaDeviceInfo) : List Field :=
  [.word device.kind.toC, .flag device.isDefault]

/-- `lk_screen_source_info_t`. -/
def ScreenCaptureSourceInfo.fields (source : ScreenCaptureSourceInfo) : List Field :=
  [.word source.kind.toC, .word source.x.toUInt32, .word source.y.toUInt32, .word source.width,
    .word source.height]

/-- `lk_audio_playback_stats_t`. -/
def AudioPlaybackStats.fields (stats : AudioPlaybackStats) : List Field :=
  [.long stats.queuedFrames, .long stats.playedFrames, .long stats.droppedFrames,
    .long stats.underrunFrames, .word stats.bufferedDurationMs, .word stats.deviceLatencyMs,
    .word stats.estimatedDelayMs]

/-- `lk_remote_participant_snapshot_info_t`. -/
def RemoteParticipantSnapshot.fields (participant : RemoteParticipantSnapshot) : List Field :=
  [.word participant.audioLevel, .word participant.connectionQuality.toC,
    .flag participant.speaking]

/-- `lk_remote_track_publication_snapshot_info_t`. -/
def RemoteTrackPublicationSnapshot.fields (publication : RemoteTrackPublicationSnapshot) :
    List Field :=
  [.word (TrackKind.toC publication.kind), .word (TrackSource.toC publication.source),
    .word publication.width, .word publication.height, .flag publication.muted,
    .flag publication.simulcasted, .flag publication.subscriptionAllowed,
    .word (TrackSubscriptionStatus.toC publication.subscriptionStatus),
    .flag publication.subscriptionError.isSome,
    .word (publication.subscriptionError.getD .unknown).toC,
    .flag publication.subscribedTrack.isSome]

/-- `lk_remote_track_snapshot_info_t`. -/
def RemoteTrackSnapshot.fields (track : RemoteTrackSnapshot) : List Field :=
  [.word (TrackKind.toC track.kind), .word (TrackSource.toC track.source),
    .word track.streamState.toC, .word track.width, .word track.height, .flag track.enabled]

/-- `lk_audio_source_options_t`, with the sample rate, the channels and the queue of
    `lk_audio_source_options_init`. -/
def AudioProcessingOptions.fields (options : AudioProcessingOptions) : List Field :=
  [.word 48000, .word 1, .word 200, .flag options.echoCancellation, .flag options.autoGainControl,
    .flag options.noiseSuppression]

/-- `lk_microphone_processing_stats_t`. -/
def MicrophoneProcessingStats.fields (stats : MicrophoneProcessingStats) : List Field :=
  [.long stats.captureFramesProcessed, .long stats.renderFramesProcessed,
    .long stats.captureProcessingErrors, .long stats.renderProcessingErrors,
    .long stats.framesDropped, .flag stats.echoCancellationEnabled]

/-! ## 3. The calls -/

/-- What a call does to the caller's memory, which begins with the object.  `written` has the
    offsets that it writes. -/
structure Outcome where
  result : Result
  memory : Memory
  written : List Nat

/-- `output->struct_size`. -/
def structSize (memory : Memory) : Nat := decode (read memory 0 sizeofSizeT)

/-- `CopyOutputStruct` for an object that is there; the calls with a `memcpy` of their own do
    the same. -/
def copyOutputStruct (memory : Memory) (value : Bytes) (description : String) : Outcome :=
  if structSize memory < sizeofSizeT then
    ⟨.failure .invalidArgument description, memory, []⟩
  else
    let count := min (structSize memory) value.length
    ⟨.ok, copy memory 0 (value.take count), List.range count⟩

/-- A call that is refused for its other arguments. -/
def refused (memory : Memory) (message : String) : Outcome :=
  ⟨.failure .invalidArgument message, memory, []⟩

/-- `lk_media_device_list_info`; `none` is a null handle here and below. -/
def mediaDeviceListInfo (memory : Memory) (devices : Option (List MediaDeviceInfo))
    (index : Nat) : Outcome :=
  match devices.bind (·[index]?) with
  | none => refused memory "media device index is out of range"
  | some device =>
    copyOutputStruct memory (structValue device.fields) "media device info is invalid"

/-- `lk_screen_source_list_info`. -/
def screenSourceListInfo (memory : Memory) (sources : Option (List ScreenCaptureSourceInfo))
    (index : Nat) : Outcome :=
  match sources.bind (·[index]?) with
  | none => refused memory "screen source index is out of range"
  | some source =>
    copyOutputStruct memory (structValue source.fields) "screen source info is invalid"

/-- `lk_room_audio_playback_stats`; the stats of the room, if there is one. -/
def roomAudioPlaybackStats (memory : Memory) (room : Option AudioPlaybackStats) : Outcome :=
  match room with
  | none => refused memory "room and initialized stats are required"
  | some stats =>
    copyOutputStruct memory (structValue stats.fields) "room and initialized stats are required"

/-- `lk_remote_participant_snapshot_info`. -/
def remoteParticipantSnapshotInfo (memory : Memory)
    (participant : Option RemoteParticipantSnapshot) : Outcome :=
  match participant with
  | none => refused memory "participant snapshot is null"
  | some participant =>
    copyOutputStruct memory (structValue participant.fields)
      "invalid participant snapshot info output"

/-- `lk_remote_track_publication_snapshot_info`. -/
def remoteTrackPublicationSnapshotInfo (memory : Memory)
    (publication : Option RemoteTrackPublicationSnapshot) : Outcome :=
  match publication with
  | none => refused memory "publication snapshot is null"
  | some publication =>
    copyOutputStruct memory (structValue publication.fields)
      "invalid publication snapshot info output"

/-- `lk_remote_track_snapshot_info`. -/
def remoteTrackSnapshotInfo (memory : Memory) (track : Option RemoteTrackSnapshot) : Outcome :=
  match track with
  | none => refused memory "remote track snapshot is null"
  | some track =>
    copyOutputStruct memory (structValue track.fields) "invalid remote track snapshot info output"

/-- `lk_audio_source_microphone_processing_options`; the options of the source, if it is a
    microphone. -/
def audioSourceMicrophoneProcessingOptions (memory : Memory)
    (microphone : Option AudioProcessingOptions) : Outcome :=
  match microphone with
  | none => refused memory "microphone source and initialized processing options are required"
  | some options =>
    copyOutputStruct memory (structValue options.fields)
      "microphone source and initialized processing options are required"

/-- `lk_audio_source_microphone_processing_stats`. -/
def audioSourceMicrophoneProcessingStats (memory : Memory)
    (microphone : Option MicrophoneProcessingStats) : Outcome :=
  match microphone with
  | none => refused memory "invalid microphone source or processing stats output"
  | some stats =>
    copyOutputStruct memory (structValue stats.fields)
      "invalid microphone source or processing stats output"

/-- The types of output structs. -/
inductive StructType where
  | mediaDeviceInfo
  | screenSourceInfo
  | audioPlaybackStats
  | remoteParticipantSnapshotInfo
  | remoteTrackPublicationSnapshotInfo
  | remoteTrackSnapshotInfo
  | audioSourceOptions
  | microphoneProcessingStats
deriving DecidableEq

/-- The `sizeof` of the library. -/
def StructType.size : StructType → Nat
  | .mediaDeviceInfo => 16
  | .screenSourceInfo => 32
  | .audioPlaybackStats => 56
  | .remoteParticipantSnapshotInfo => 24
  | .remoteTrackPublicationSnapshotInfo => 56
  | .remoteTrackSnapshotInfo => 32
  | .audioSourceOptions => 32
  | .microphoneProcessingStats => 56

/-- The calls that take an object of a type, with what they find in their other arguments. -/
inductive Call : StructType → Type where
  | mediaDeviceListInfo (devices : Option (List MediaDeviceInfo)) (index : Nat) :
      Call .mediaDeviceInfo
  | screenSourceListInfo (sources : Option (List ScreenCaptureSourceInfo)) (index : Nat) :
      Call .screenSourceInfo
  | roomAudioPlaybackStats (room : Option AudioPlaybackStats) : Call .audioPlaybackStats
  | remoteParticipantSnapshotInfo (participant : Option RemoteParticipantSnapshot) :
      Call .remoteParticipantSnapshotInfo
  | remoteTrackPublicationSnapshotInfo (publication : Option RemoteTrackPublicationSnapshot) :
      Call .remoteTrackPublicationSnapshotInfo
  | remoteTrackSnapshotInfo (track : Option RemoteTrackSnapshot) : Call .remoteTrackSnapshotInfo
  | audioSourceMicrophoneProcessingOptions (microphone : Option AudioProcessingOptions) :
      Call .audioSourceOptions
  | audioSourceMicrophoneProcessingStats (microphone : Option MicrophoneProcessingStats) :
      Call .microphoneProcessingStats

def Call.run (memory : Memory) {type : StructType} : Call type → Outcome
  | .mediaDeviceListInfo devices index => OutputStructs.mediaDeviceListInfo memory devices index
  | .screenSourceListInfo sources index => OutputStructs.screenSourceListInfo memory sources index
  | .roomAudioPlaybackStats room => OutputStructs.roomAudioPlaybackStats memory room
  | .remoteParticipantSnapshotInfo participant =>
    OutputStructs.remoteParticipantSnapshotInfo memory participant
  | .remoteTrackPublicationSnapshotInfo publication =>
    OutputStructs.remoteTrackPublicationSnapshotInfo memory publication
  | .remoteTrackSnapshotInfo track => OutputStructs.remoteTrackSnapshotInfo memory track
  | .audioSourceMicrophoneProcessingOptions microphone =>
    OutputStructs.audioSourceMicrophoneProcessingOptions memory microphone
  | .audioSourceMicrophoneProcessingStats microphone =>
    OutputStructs.audioSourceMicrophoneProcessingStats memory microphone

/-- What happens to an object: a call gets it, or the caller stores a byte behind
    `struct_size`. -/
inductive Act (type : StructType) where
  | call (getter : Call type)
  | store (offset : Nat) (byte : UInt8)

/-- The memory after an act, and the offsets that the library writes. -/
def Act.step {type : StructType} (memory : Memory) : Act type → Memory × List Nat
  | .call getter => ((getter.run memory).memory, (getter.run memory).written)
  | .store offset byte => (copy memory (sizeofSizeT + offset) [byte], [])

/-! ## 4. What a call writes -/

section Copies

variable {type : StructType} {memory : Memory}

/-- The struct that a call copies, if it gets past its other arguments. -/
def Call.value {type : StructType} : Call type → Option Bytes
  | .mediaDeviceListInfo devices index =>
    (devices.bind (·[index]?)).map fun device => structValue device.fields
  | .screenSourceListInfo sources index =>
    (sources.bind (·[index]?)).map fun source => structValue source.fields
  | .roomAudioPlaybackStats room => room.map fun stats => structValue stats.fields
  | .remoteParticipantSnapshotInfo participant =>
    participant.map fun participant => structValue participant.fields
  | .remoteTrackPublicationSnapshotInfo publication =>
    publication.map fun publication => structValue publication.fields
  | .remoteTrackSnapshotInfo track => track.map fun track => structValue track.fields
  | .audioSourceMicrophoneProcessingOptions microphone =>
    microphone.map fun options => structValue options.fields
  | .audioSourceMicrophoneProcessingStats microphone =>
    microphone.map fun stats => structValue stats.fields

@[simp] theorem Field.length_bytes (field : Field) : field.bytes.length = field.size := by
  cases field with
  | word value => exact length_encode 4 value.toNat
  | long value => exact length_encode 8 value.toNat

theorem length_structValue (fields : List Field) :
    (structValue fields).length = sizeofSizeT + (layout sizeofSizeT fields).length := by
  rw [structValue, List.length_append, length_encode]

/-- A struct begins with its size. -/
theorem take_structValue (fields : List Field) :
    (structValue fields).take sizeofSizeT = encode sizeofSizeT (structValue fields).length := by
  rw [length_structValue, structValue]
  exact List.take_left' (length_encode sizeofSizeT _)

/-- Every call copies a struct of its type, whatever is in the fields. -/
theorem Call.length_value {call : Call type} {value : Bytes} (hvalue : call.value = some value) :
    value.length = type.size ∧ value.take sizeofSizeT = encode sizeofSizeT type.size := by
  have hfields : ∃ fields, value = structValue fields ∧
      sizeofSizeT + (layout sizeofSizeT fields).length = type.size := by
    cases call <;>
      · obtain ⟨found, -, rfl⟩ := Option.map_eq_some_iff.mp hvalue
        refine ⟨_, rfl, ?_⟩
        simp [MediaDeviceInfo.fields, ScreenCaptureSourceInfo.fields, AudioPlaybackStats.fields,
          RemoteParticipantSnapshot.fields, RemoteTrackPublicationSnapshot.fields,
          RemoteTrackSnapshot.fields, AudioProcessingOptions.fields,
          MicrophoneProcessingStats.fields, layout, padding, Field.flag, Field.size, sizeofSizeT,
          StructType.size]
  obtain ⟨fields, rfl, hsize⟩ := hfields
  rw [← length_structValue] at hsize
  rw [take_structValue, hsize]
  exact ⟨rfl, rfl⟩

/-- Whether the other arguments of a call let it fill the object. -/
def Act.fills : Act type → Bool
  | .call getter => getter.value.isSome
  | .store _ _ => false

theorem Call.run_of_none (memory : Memory) {call : Call type} (hvalue : call.value = none) :
    ∃ message, call.run memory = refused memory message := by
  cases call <;>
    · have hnone := Option.map_eq_none_iff.mp hvalue
      simp only [Call.run, OutputStructs.mediaDeviceListInfo, OutputStructs.screenSourceListInfo,
        OutputStructs.roomAudioPlaybackStats, OutputStructs.remoteParticipantSnapshotInfo,
        OutputStructs.remoteTrackPublicationSnapshotInfo, OutputStructs.remoteTrackSnapshotInfo,
        OutputStructs.audioSourceMicrophoneProcessingOptions,
        OutputStructs.audioSourceMicrophoneProcessingStats, hnone]
      exact ⟨_, rfl⟩

theorem Call.run_of_some (memory : Memory) {call : Call type} {value : Bytes}
    (hvalue : call.value = some value) :
    ∃ description, call.run memory = copyOutputStruct memory value description := by
  cases call <;>
    · obtain ⟨found, hfound, rfl⟩ := Option.map_eq_some_iff.mp hvalue
      simp only [Call.run, OutputStructs.mediaDeviceListInfo, OutputStructs.screenSourceListInfo,
        OutputStructs.roomAudioPlaybackStats, OutputStructs.remoteParticipantSnapshotInfo,
        OutputStructs.remoteTrackPublicationSnapshotInfo, OutputStructs.remoteTrackSnapshotInfo,
        OutputStructs.audioSourceMicrophoneProcessingOptions,
        OutputStructs.audioSourceMicrophoneProcessingStats, hfound]
      exact ⟨_, rfl⟩

theorem sizeofSizeT_le_size (type : StructType) : sizeofSizeT ≤ type.size := by
  cases type <;> decide

theorem size_lt (type : StructType) : type.size < 256 ^ sizeofSizeT := by
  cases type <;> decide

/-- The caller's size has become the library's. -/
theorem structSize_copy {value : Bytes} (hlength : value.length = type.size)
    (hhead : value.take sizeofSizeT = encode sizeofSizeT type.size)
    (hsize : sizeofSizeT ≤ structSize memory) :
    structSize (copy memory 0 (value.take (min (structSize memory) value.length))) =
      type.size := by
  have hle : sizeofSizeT ≤ min (structSize memory) value.length := by
    have hlib := sizeofSizeT_le_size type
    omega
  rw [structSize, read_copy, List.take_take, Nat.min_eq_left hle, hhead, decode_encode,
    Nat.mod_eq_of_lt (size_lt type)]
  rw [List.length_take]
  omega

theorem copyOutputStruct_of_le {value : Bytes} {description : String}
    (hsize : sizeofSizeT ≤ structSize memory) :
    copyOutputStruct memory value description =
      ⟨.ok, copy memory 0 (value.take (min (structSize memory) value.length)),
        List.range (min (structSize memory) value.length)⟩ :=
  if_neg (Nat.not_lt.mpr hsize)

theorem Act.step_of_fills {act : Act type} (hfills : act.fills = true)
    (hsize : sizeofSizeT ≤ structSize memory) :
    structSize (act.step memory).1 = type.size ∧
      (act.step memory).2 = List.range (min (structSize memory) type.size) := by
  cases act with
  | store offset byte => exact absurd hfills Bool.false_ne_true
  | call getter =>
    have hsome : getter.value.isSome = true := hfills
    obtain ⟨value, hvalue⟩ := Option.isSome_iff_exists.mp hsome
    obtain ⟨hlength, hhead⟩ := Call.length_value hvalue
    obtain ⟨description, hrun⟩ := Call.run_of_some memory hvalue
    have hcopied := structSize_copy hlength hhead hsize
    rw [Act.step, hrun, copyOutputStruct_of_le hsize]
    dsimp only
    rw [hcopied, hlength]
    exact ⟨rfl, rfl⟩

theorem Act.step_of_not_fills (memory : Memory) {act : Act type} (hfills : act.fills = false) :
    structSize (act.step memory).1 = structSize memory ∧ (act.step memory).2 = [] := by
  cases act with
  | store offset byte =>
    constructor
    · rw [Act.step, structSize, read_copy_of_le (by omega), structSize]
    · rfl
  | call getter =>
    have hvalue : getter.value = none := Option.not_isSome_iff_eq_none.mp (by
      rw [Act.fills] at hfills
      simp [hfills])
    obtain ⟨message, hrun⟩ := Call.run_of_none memory hvalue
    rw [Act.step, hrun, refused]
    exact ⟨rfl, rfl⟩

end Copies

/-! ## 5. An object that is used again -/

section Reuse

variable {type : StructType} {memory : Memory} {acts : List (Act type)}

/-- Calls that do not fill the object write nothing. -/
theorem outputs_of_not_fills (hacts : acts.countP Act.fills = 0) :
    outputs Act.step memory acts = [] := by
  induction acts generalizing memory with
  | nil => rfl
  | cons act rest ih =>
    obtain ⟨hact, hrest⟩ : act.fills = false ∧ rest.countP Act.fills = 0 := by
      rw [List.countP_cons] at hacts
      cases hfills : act.fills <;> simp_all
    rw [outputs, (Act.step_of_not_fills _ hact).2, ih hrest, List.nil_append]

/-- No call writes more than the struct of the library. -/
theorem outputs_lt_size (hsize : sizeofSizeT ≤ structSize memory) :
    ∀ offset ∈ outputs Act.step memory acts, offset < type.size := by
  induction acts generalizing memory with
  | nil => intro offset hmem; cases hmem
  | cons act rest ih =>
    intro offset hmem
    rw [outputs, List.mem_append] at hmem
    cases hfills : act.fills with
    | false =>
      obtain ⟨hsame, hnone⟩ := Act.step_of_not_fills memory hfills
      rw [hnone] at hmem
      rcases hmem with hmem | hmem
      · cases hmem
      · apply ih _ offset hmem
        rw [hsame]
        exact hsize
    | true =>
      obtain ⟨hlib, hrange⟩ := Act.step_of_fills hfills hsize
      rw [hrange, List.mem_range] at hmem
      rcases hmem with hmem | hmem
      · omega
      · apply ih _ offset hmem
        rw [hlib]
        exact sizeofSizeT_le_size type

/-- The first call that fills the object stays within it. -/
theorem outputs_lt_structSize (hsize : sizeofSizeT ≤ structSize memory)
    (hacts : acts.countP Act.fills ≤ 1) :
    ∀ offset ∈ outputs Act.step memory acts, offset < structSize memory := by
  induction acts generalizing memory with
  | nil => intro offset hmem; cases hmem
  | cons act rest ih =>
    intro offset hmem
    rw [outputs, List.mem_append] at hmem
    rw [List.countP_cons] at hacts
    cases hfills : act.fills with
    | false =>
      obtain ⟨hsame, hnone⟩ := Act.step_of_not_fills memory hfills
      rw [hnone] at hmem
      rcases hmem with hmem | hmem
      · cases hmem
      · rw [← hsame] at hsize ⊢
        exact ih hsize (by omega) offset hmem
    | true =>
      obtain ⟨-, hrange⟩ := Act.step_of_fills hfills hsize
      rw [hfills, if_pos rfl] at hacts
      rw [outputs_of_not_fills (by omega), hrange, List.mem_range] at hmem
      rcases hmem with hmem | hmem
      · omega
      · cases hmem

/-- Once the object has the library's size, a call that fills it writes all of that. -/
theorem mem_outputs_of_size (hsize : structSize memory = type.size)
    (hacts : 0 < acts.countP Act.fills) {offset : Nat} (hoffset : offset < type.size) :
    offset ∈ outputs Act.step memory acts := by
  induction acts generalizing memory with
  | nil => exact absurd hacts (Nat.lt_irrefl 0)
  | cons act rest ih =>
    rw [outputs, List.mem_append]
    rw [List.countP_cons] at hacts
    cases hfills : act.fills with
    | false =>
      right
      apply ih
      · rw [(Act.step_of_not_fills _ hfills).1, hsize]
      · rw [hfills] at hacts
        exact hacts
    | true =>
      left
      have hle : sizeofSizeT ≤ structSize memory := hsize ▸ sizeofSizeT_le_size type
      rw [(Act.step_of_fills hfills hle).2, List.mem_range, hsize, Nat.min_self]
      exact hoffset

/-- The second call that fills the object writes behind its end, if it is smaller than the
    library's struct. -/
theorem structSize_mem_outputs (hsize : sizeofSizeT ≤ structSize memory)
    (hsmall : structSize memory < type.size) (hacts : 1 < acts.countP Act.fills) :
    structSize memory ∈ outputs Act.step memory acts := by
  induction acts generalizing memory with
  | nil => exact absurd hacts (Nat.not_lt_zero 1)
  | cons act rest ih =>
    rw [outputs, List.mem_append]
    rw [List.countP_cons] at hacts
    right
    cases hfills : act.fills with
    | false =>
      obtain ⟨hsame, -⟩ := Act.step_of_not_fills memory hfills
      rw [hfills] at hacts
      rw [← hsame] at hsize hsmall ⊢
      exact ih hsize hsmall hacts
    | true =>
      rw [hfills, if_pos rfl] at hacts
      exact mem_outputs_of_size (Act.step_of_fills hfills hsize).1 (by omega) hsmall

end Reuse

/-- An object whose caller has set `struct_size`. -/
structure OutputObject where
  memory : Memory
  initialized : sizeofSizeT ≤ structSize memory

/-- **When an output struct is not overrun**: it is as large as the library's, or only one
    call fills it. -/
theorem outputs_within_object_iff (type : StructType) (object : OutputObject)
    (acts : List (Act type)) :
    (∀ offset ∈ outputs Act.step object.memory acts, offset < structSize object.memory) ↔
      type.size ≤ structSize object.memory ∨ acts.countP Act.fills ≤ 1 := by
  constructor
  · intro hwithin
    by_contra hcond
    rw [not_or] at hcond
    obtain ⟨hsmall, hfills⟩ := hcond
    have hmem := structSize_mem_outputs object.initialized (Nat.lt_of_not_le hsmall)
      (Nat.lt_of_not_le hfills)
    exact Nat.lt_irrefl _ (hwithin _ hmem)
  · rintro (hlarge | hfills)
    · intro offset hmem
      exact Nat.lt_of_lt_of_le (outputs_lt_size object.initialized offset hmem) hlarge
    · exact outputs_lt_structSize object.initialized hfills

/-- The playback statistics without the three fields at their end. -/
def olderStats : OutputObject where
  memory := copy (fun _ => 0) 0 (encode sizeofSizeT 40)
  initialized := by decide +kernel

def playbackStats : Act .audioPlaybackStats :=
  .call (.roomAudioPlaybackStats (some ⟨9, 8, 0, 0, 20, 10, 30⟩))

/-- The second of two calls writes at offset 40. -/
theorem olderStats_overrun :
    structSize olderStats.memory = 40 ∧
      40 ∈ outputs Act.step olderStats.memory [playbackStats, playbackStats] := by
  decide +kernel

end LivekitClient.OutputStructs
