/-
  LivekitClient/VideoEncoding.lean
  ================================
  **The simulcast plan of a published video track** (`OriginalPreset` and
  `BuildVideoEncodingPlan` of `video_encoding.cpp`).

  A track is published with one encoding for each layer, and the signalling request
  carries one `VideoLayer` for each encoding.  The full resolution layer takes its
  bitrate from the publish options or from a table of presets; the lower layers are
  fixed entries of the same tables, or a quarter of the full bitrate when the screen is
  shared.

  `OriginalPreset` declares its `Preset result` without a value and reads its bitrate
  after the search, so what the automatic variable held before is a parameter here.
-/
import Mathlib.Data.List.Basic
import Mathlib.Tactic.Common

namespace LivekitClient.VideoEncoding

/-! ## 1. Presets -/

structure Preset where
  width : UInt32
  height : UInt32
  bitrate : UInt64
  framerate : Float

def kVideoRids : List String := ["q", "h", "f"]

def kWidePresets : List Preset :=
  [⟨160, 90, 90000, 20⟩,
   ⟨320, 180, 160000, 20⟩,
   ⟨384, 216, 180000, 20⟩,
   ⟨640, 360, 450000, 20⟩,
   ⟨960, 540, 800000, 25⟩,
   ⟨1280, 720, 1700000, 30⟩,
   ⟨1920, 1080, 3000000, 30⟩,
   ⟨3840, 2160, 8000000, 30⟩]

def kStandardPresets : List Preset :=
  [⟨160, 120, 70000, 20⟩,
   ⟨240, 180, 125000, 20⟩,
   ⟨320, 240, 140000, 20⟩,
   ⟨480, 360, 330000, 20⟩,
   ⟨640, 480, 500000, 20⟩,
   ⟨960, 720, 1300000, 30⟩,
   ⟨1440, 1080, 2300000, 30⟩,
   ⟨1920, 1440, 3800000, 30⟩]

/-- `kWidePresets.back()`. -/
def kWidePresetsBack : Preset := kWidePresets.getLast (List.cons_ne_nil _ _)

/-- `kStandardPresets.back()`. -/
def kStandardPresetsBack : Preset := kStandardPresets.getLast (List.cons_ne_nil _ _)

/-- Whether the picture is nearer to 16:9 than to 4:3, in double precision as in the
    source. -/
def isWide (width height : UInt32) : Bool :=
  let longer := (max width height).toFloat
  let shorter := (min width height).toFloat
  if shorter == 0 then true
  else
    let aspect := longer / shorter
    decide (Float.abs (aspect - 16.0 / 9.0) < Float.abs (aspect - 4.0 / 3.0))

/-! ## 2. Publish options -/

inductive VideoCodec where
  | VP8 | H264 | VP9 | AV1
deriving DecidableEq, Repr

/-- `VideoEncoding` of the options: zero stands for no wish. -/
structure VideoEncodingOptions where
  maxBitrate : UInt64 := 0
  maxFramerate : Float32 := 0

/-- What the plan reads of `TrackPublishOptions`. -/
structure TrackPublishOptions where
  videoEncoding : VideoEncodingOptions := {}
  videoCodec : VideoCodec := .VP8
  simulcast : Bool := true

/-! ## 3. The preset of the full resolution layer -/

/-- One branch of `OriginalPreset`: the loop over a table, and the test of the bitrate
    that stands for "nothing found".  `uninitialized` is what `result` holds before. -/
def searchPresets (presets : List Preset) (back uninitialized : Preset)
    (width height : UInt32) : Preset :=
  let size := max width height
  let result :=
    match presets.find? (fun preset => decide (size ≤ preset.width)) with
    | some preset => ⟨width, height, preset.bitrate, preset.framerate⟩
    | none => uninitialized
  if result.bitrate == 0 then ⟨width, height, back.bitrate, back.framerate⟩ else result

def originalPreset (uninitialized : Preset) (width height : UInt32) (screenShare : Bool)
    (options : TrackPublishOptions) : Preset :=
  let found :=
    if screenShare then ⟨width, height, 2500000, 15⟩
    else if isWide width height then
      searchPresets kWidePresets kWidePresetsBack uninitialized width height
    else
      searchPresets kStandardPresets kStandardPresetsBack uninitialized width height
  let capped :=
    if options.videoEncoding.maxBitrate != 0 then
      { found with bitrate := options.videoEncoding.maxBitrate }
    else found
  if 0 < options.videoEncoding.maxFramerate then
    { capped with framerate := options.videoEncoding.maxFramerate.toFloat }
  else capped

/-! ## 4. The plan -/

/-- `livekit::VideoQuality` and `core::VideoQuality` have the same values. -/
inductive VideoQuality where
  | Low | Medium | High | Off
deriving DecidableEq, Repr

def qualityForRid (rid : String) : VideoQuality :=
  if rid = "q" then .Low else if rid = "h" then .Medium else .High

/-- What the program sets of `webrtc::RtpEncodingParameters`. -/
structure RtpEncodingParameters where
  rid : String := ""
  active : Bool := true
  maxBitrateBps : Option Int := none
  maxFramerate : Option Float := none
  scaleResolutionDownBy : Option Float := none

structure VideoLayer where
  quality : VideoQuality
  width : UInt32
  height : UInt32
  bitrate : UInt32
  rid : String

structure VideoEncodingPlan where
  encodings : List RtpEncodingParameters := []
  layers : List VideoLayer := []

def int32Max : UInt64 := 2147483647
def uint32Max : UInt64 := 4294967295

def supportsSimulcast (options : TrackPublishOptions) : Bool :=
  options.videoCodec == .VP8 || options.videoCodec == .H264

def useSimulcast (options : TrackPublishOptions) : Bool :=
  options.simulcast && supportsSimulcast options

/-- The presets pushed before the original one. -/
def lowerPresets (original : Preset) (width height : UInt32) (screenShare : Bool)
    (options : TrackPublishOptions) : List Preset :=
  if useSimulcast options && decide (480 ≤ max width height) then
    if screenShare then
      [⟨max 1 (width / 2), max 1 (height / 2), max 150000 (original.bitrate / 4),
        original.framerate⟩]
    else if isWide width height then
      kWidePresets[1] :: (if 960 ≤ max width height then [kWidePresets[3]] else [])
    else
      kStandardPresets[1] :: (if 960 ≤ max width height then [kStandardPresets[3]] else [])
  else []

/-- How far the layer of a preset is scaled down. -/
def layerScale (width height : UInt32) (preset : Preset) : Float :=
  max 1.0 ((min width height).toFloat / (max 1 (min preset.width preset.height)).toFloat)

def layerFramerate (original preset : Preset) : Float :=
  if 0 < original.framerate ∧ 0 < preset.framerate then
    min original.framerate preset.framerate
  else preset.framerate

/-- The encoding of the preset at `index`.  There are at most three presets, one for each
    entry of `kVideoRids` (`buildVideoEncodingPlan_length`). -/
def layerEncoding (original : Preset) (width height : UInt32) (options : TrackPublishOptions)
    (index : Nat) (preset : Preset) : RtpEncodingParameters where
  rid := if useSimulcast options then kVideoRids.getD index "" else ""
  maxBitrateBps :=
    if preset.bitrate != 0 then some (min preset.bitrate int32Max).toNat else none
  maxFramerate :=
    if 0 < layerFramerate original preset then some (layerFramerate original preset) else none
  scaleResolutionDownBy := some (layerScale width height preset)

def videoLayer (width height : UInt32) (options : TrackPublishOptions) (preset : Preset)
    (encoding : RtpEncodingParameters) : VideoLayer where
  quality := if useSimulcast options then qualityForRid encoding.rid else .High
  width := (width.toFloat / layerScale width height preset).ceil.toUInt32
  height := (height.toFloat / layerScale width height preset).ceil.toUInt32
  bitrate := (min preset.bitrate uint32Max).toUInt32
  rid := encoding.rid

/-- The loop over the presets. -/
def planOfPresets (original : Preset) (width height : UInt32) (options : TrackPublishOptions)
    (presets : List Preset) : VideoEncodingPlan where
  encodings := presets.mapIdx (layerEncoding original width height options)
  layers := presets.mapIdx fun index preset =>
    videoLayer width height options preset
      (layerEncoding original width height options index preset)

def buildVideoEncodingPlan (uninitialized : Preset) (width height : UInt32)
    (screenShare : Bool) (options : TrackPublishOptions) : VideoEncodingPlan :=
  if width == 0 || height == 0 then {}
  else
    let original := originalPreset uninitialized width height screenShare options
    planOfPresets original width height options
      (lowerPresets original width height screenShare options ++ [original])

/-! ## 5. The search for a preset -/

/-- What the search is for: the first preset of at least this width, or the last one. -/
def firstAtLeast (presets : List Preset) (back : Preset) (size : UInt32) : Preset :=
  (presets.find? (fun preset => decide (size ≤ preset.width))).getD back

/-- A table of presets that ends with its widest one. -/
structure PresetTable (presets : List Preset) (back : Preset) : Prop where
  back_mem : back ∈ presets
  widest : ∀ preset ∈ presets, preset.width ≤ back.width
  positive : ∀ preset ∈ presets, preset.bitrate ≠ 0
  bounded : ∀ preset ∈ presets, preset.bitrate ≤ 8000000

theorem kWidePresets_table : PresetTable kWidePresets kWidePresetsBack := by
  constructor
  · exact List.getLast_mem _
  all_goals
    simp only [kWidePresetsBack, kWidePresets, List.forall_mem_cons, List.getLast_cons_cons,
      List.getLast_singleton]
    decide

theorem kStandardPresets_table : PresetTable kStandardPresets kStandardPresetsBack := by
  constructor
  · exact List.getLast_mem _
  all_goals
    simp only [kStandardPresetsBack, kStandardPresets, List.forall_mem_cons,
      List.getLast_cons_cons, List.getLast_singleton]
    decide

namespace PresetTable

variable {presets : List Preset} {back uninitialized : Preset} {width height : UInt32}

theorem find?_eq_none (htable : PresetTable presets back) {size : UInt32}
    (hsize : back.width < size) :
    presets.find? (fun preset => decide (size ≤ preset.width)) = none := by
  rw [List.find?_eq_none]
  intro preset hmem
  have hle := htable.widest preset hmem
  simp only [decide_eq_true_eq, UInt32.not_le]
  exact UInt32.lt_of_le_of_lt hle hsize

theorem firstAtLeast_mem (htable : PresetTable presets back) (size : UInt32) :
    firstAtLeast presets back size ∈ presets := by
  unfold firstAtLeast
  cases hfind : presets.find? (fun preset => decide (size ≤ preset.width)) with
  | none => exact htable.back_mem
  | some preset => exact List.mem_of_find?_eq_some hfind

/-- With a preset that is wide enough the search finds the first one. -/
theorem searchPresets_found (htable : PresetTable presets back)
    (hsize : max width height ≤ back.width) :
    (searchPresets presets back uninitialized width height).bitrate =
      (firstAtLeast presets back (max width height)).bitrate := by
  unfold searchPresets firstAtLeast
  cases hfind : presets.find? (fun preset => decide (max width height ≤ preset.width)) with
  | none =>
    rw [List.find?_eq_none] at hfind
    exact absurd (decide_eq_true hsize) (hfind back htable.back_mem)
  | some preset =>
    have hne := htable.positive preset (List.mem_of_find?_eq_some hfind)
    simp only [hfind, beq_iff_eq, hne, if_false, Option.getD_some]

/-- Without one, the bitrate is what `result` held before; zero there alone leads to the
    last preset. -/
theorem searchPresets_missed (htable : PresetTable presets back)
    (hsize : back.width < max width height) :
    (searchPresets presets back uninitialized width height).bitrate =
      if uninitialized.bitrate = 0 then back.bitrate else uninitialized.bitrate := by
  have hfind := htable.find?_eq_none hsize
  unfold searchPresets
  simp only [hfind, beq_iff_eq]
  split <;> rfl

theorem firstAtLeast_missed (htable : PresetTable presets back) {size : UInt32}
    (hsize : back.width < size) : firstAtLeast presets back size = back := by
  unfold firstAtLeast
  rw [htable.find?_eq_none hsize]
  rfl

end PresetTable

/-- The table of the aspect class. -/
def classPresets (width height : UInt32) : List Preset :=
  if isWide width height then kWidePresets else kStandardPresets

def classBack (width height : UInt32) : Preset :=
  if isWide width height then kWidePresetsBack else kStandardPresetsBack

theorem class_table (width height : UInt32) :
    PresetTable (classPresets width height) (classBack width height) := by
  unfold classPresets classBack
  split
  · exact kWidePresets_table
  · exact kStandardPresets_table

/-! ## 6. The bitrate of the full resolution layer -/

/-- The bitrate that no option overrides. -/
def defaultBitrate (uninitialized : Preset) (width height : UInt32) (screenShare : Bool) :
    UInt64 :=
  if screenShare then 2500000
  else
    (searchPresets (classPresets width height) (classBack width height) uninitialized width
      height).bitrate

theorem originalPreset_bitrate (uninitialized : Preset) (width height : UInt32)
    (screenShare : Bool) (options : TrackPublishOptions) :
    (originalPreset uninitialized width height screenShare options).bitrate =
      if options.videoEncoding.maxBitrate = 0 then
        defaultBitrate uninitialized width height screenShare
      else options.videoEncoding.maxBitrate := by
  have hframerate : ∀ (preset : Preset) (framerate : Float),
      ({ preset with framerate := framerate } : Preset).bitrate = preset.bitrate := by
    intro preset framerate
    rfl
  unfold originalPreset defaultBitrate classPresets classBack
  by_cases hzero : options.videoEncoding.maxBitrate = 0
  · simp only [hzero, bne_self_eq_false, Bool.false_eq_true, if_false, if_true]
    rw [apply_ite Preset.bitrate, hframerate, ite_self]
    cases screenShare
    · cases isWide width height <;> rfl
    · rfl
  · simp only [bne_iff_ne, ne_eq, hzero, not_false_eq_true, if_true, if_false]
    split <;> rfl

/-- `OriginalPreset` takes the bitrate from the memory of its automatic variable. -/
def TakesUninitialized (uninitialized : Preset) (width height : UInt32) (screenShare : Bool) :
    Prop :=
  screenShare = false ∧ (classBack width height).width < max width height ∧
    uninitialized.bitrate ≠ 0

theorem defaultBitrate_taken {uninitialized : Preset} {width height : UInt32}
    {screenShare : Bool} (htaken : TakesUninitialized uninitialized width height screenShare) :
    defaultBitrate uninitialized width height screenShare = uninitialized.bitrate := by
  obtain ⟨hcamera, hsize, hne⟩ := htaken
  unfold defaultBitrate
  rw [hcamera, (class_table width height).searchPresets_missed hsize, if_neg hne]
  rfl

theorem defaultBitrate_initialized {uninitialized : Preset} {width height : UInt32}
    {screenShare : Bool}
    (hfree : ¬ TakesUninitialized uninitialized width height screenShare) :
    defaultBitrate uninitialized width height screenShare =
      if screenShare then 2500000
      else (firstAtLeast (classPresets width height) (classBack width height)
        (max width height)).bitrate := by
  unfold defaultBitrate
  cases screenShare with
  | true => rfl
  | false =>
    have htable := class_table width height
    rcases UInt32.le_or_lt (max width height) (classBack width height).width with hsize | hsize
    · exact htable.searchPresets_found hsize
    · have hzero : uninitialized.bitrate = 0 := by
        by_contra hne
        exact hfree ⟨rfl, hsize, hne⟩
      simp only [Bool.false_eq_true, if_false]
      rw [htable.searchPresets_missed hsize, if_pos hzero, htable.firstAtLeast_missed hsize]

/-! ## 7. A consistent plan -/

/-- Lengths, rids and bitrates of a plan agree, and no layer has a higher bitrate than
    the full resolution layer. -/
structure Consistent (simulcast : Bool) (plan : VideoEncodingPlan) : Prop where
  same_length : plan.encodings.length = plan.layers.length
  at_least_one : 1 ≤ plan.encodings.length
  at_most_three : plan.encodings.length ≤ 3
  rids : simulcast = true →
    plan.encodings.map (·.rid) = ["q", "h", "f"].take plan.encodings.length
  matching : ∀ (i : Nat) (encoding : RtpEncodingParameters) (layer : VideoLayer),
    plan.encodings[i]? = some encoding → plan.layers[i]? = some layer →
    layer.rid = encoding.rid ∧ encoding.maxBitrateBps = some (layer.bitrate.toNat : Int)
  ordered : ∀ top ∈ plan.layers.getLast?, ∀ layer ∈ plan.layers, layer.bitrate ≤ top.bitrate

/-- The bitrates that `max_bitrate_bps` holds as they are. -/
def Representable (bitrate : UInt64) : Prop := bitrate ≠ 0 ∧ bitrate ≤ int32Max

theorem lowerPresets_length (original : Preset) (width height : UInt32) (screenShare : Bool)
    (options : TrackPublishOptions) :
    (lowerPresets original width height screenShare options).length ≤ 2 := by
  unfold lowerPresets
  split
  · split
    · exact Nat.le_succ 1
    · split <;> split <;> exact Nat.le_of_ble_eq_true rfl
  · exact Nat.zero_le 2

/-- The rids are the first entries of `kVideoRids`, so the index is never beyond it. -/
theorem layerEncoding_rids {original : Preset} {width height : UInt32}
    {options : TrackPublishOptions} (hsimulcast : useSimulcast options = true)
    {presets : List Preset} (hlength : presets.length ≤ 3) :
    (presets.mapIdx (layerEncoding original width height options)).map (·.rid) =
      ["q", "h", "f"].take presets.length := by
  rcases presets with _ | ⟨first, _ | ⟨second, _ | ⟨third, _ | ⟨fourth, rest⟩⟩⟩⟩
  · rfl
  · simp [layerEncoding, hsimulcast, kVideoRids]
  · simp [layerEncoding, hsimulcast, kVideoRids]
  · simp [layerEncoding, hsimulcast, kVideoRids]
  · simp only [List.length_cons] at hlength
    omega

/-- The two fields hold the same number exactly for the bitrates that fit an `int`. -/
theorem maxBitrateBps_eq_iff {original : Preset} {width height : UInt32}
    {options : TrackPublishOptions} {index : Nat} {preset : Preset}
    {encoding : RtpEncodingParameters} :
    (layerEncoding original width height options index preset).maxBitrateBps =
        some ((videoLayer width height options preset encoding).bitrate.toNat : Int) ↔
      Representable preset.bitrate := by
  have hlayer : (videoLayer width height options preset encoding).bitrate.toNat =
      min preset.bitrate.toNat 4294967295 := by
    simp only [videoLayer, uint32Max, UInt64.toNat_toUInt32, UInt64.toNat_min]
    apply Nat.mod_eq_of_lt
    exact Nat.lt_of_le_of_lt (Nat.min_le_right _ _) (by decide)
  have hint : (min preset.bitrate int32Max).toNat = min preset.bitrate.toNat 2147483647 := by
    rw [UInt64.toNat_min]
    rfl
  unfold Representable
  rw [hlayer]
  by_cases hzero : preset.bitrate = 0
  · simp [layerEncoding, hzero]
  · simp only [layerEncoding, bne_iff_ne, ne_eq, hzero, not_false_eq_true, if_true, hint,
      Option.some.injEq, Int.natCast_inj, true_and, UInt64.le_iff_toNat_le]
    have hmax : int32Max.toNat = 2147483647 := rfl
    omega

/-- With representable bitrates the layers are ordered as the presets are. -/
theorem videoLayer_le_iff {width height : UInt32} {options : TrackPublishOptions}
    {lower top : Preset} {lowerEncoding topEncoding : RtpEncodingParameters}
    (hlower : Representable lower.bitrate) (htop : Representable top.bitrate) :
    (videoLayer width height options lower lowerEncoding).bitrate ≤
        (videoLayer width height options top topEncoding).bitrate ↔
      lower.bitrate ≤ top.bitrate := by
  have hmax : int32Max.toNat = 2147483647 := rfl
  have hbounds := And.intro hlower.2 htop.2
  simp only [UInt64.le_iff_toNat_le, hmax] at hbounds
  simp only [videoLayer, uint32Max, UInt32.le_iff_toNat_le, UInt64.le_iff_toNat_le,
    UInt64.toNat_toUInt32, UInt64.toNat_min, UInt64.reduceToNat]
  omega

/-- The plan of a picture that is not empty. -/
theorem buildVideoEncodingPlan_eq (uninitialized : Preset) {width height : UInt32}
    (hwidth : 0 < width) (hheight : 0 < height) (screenShare : Bool)
    (options : TrackPublishOptions) :
    let original := originalPreset uninitialized width height screenShare options
    buildVideoEncodingPlan uninitialized width height screenShare options =
      planOfPresets original width height options
        (lowerPresets original width height screenShare options ++ [original]) := by
  have hpositive : (width == 0 || height == 0) = false := by
    simp only [Bool.or_eq_false_iff, beq_eq_false_iff_ne]
    exact ⟨(UInt32.ne_of_lt hwidth).symm, (UInt32.ne_of_lt hheight).symm⟩
  unfold buildVideoEncodingPlan
  rw [hpositive]
  rfl

section planOfPresets

variable {original : Preset} {width height : UInt32} {options : TrackPublishOptions}
  {lower : List Preset}

/-- The fields of the full resolution layer hold its bitrate. -/
theorem planOfPresets_last (hbitrate : Representable original.bitrate) :
    let plan := planOfPresets original width height options (lower ++ [original])
    plan.encodings.getLast?.bind (·.maxBitrateBps) = some (original.bitrate.toNat : Int) ∧
      plan.layers.getLast?.map (·.bitrate.toNat) = some original.bitrate.toNat := by
  have hle := hbitrate.2
  have hmax : int32Max.toNat = 2147483647 := rfl
  rw [UInt64.le_iff_toNat_le, hmax] at hle
  have hlayer : (videoLayer width height options original
      (layerEncoding original width height options lower.length original)).bitrate.toNat =
      original.bitrate.toNat := by
    simp only [videoLayer, uint32Max, UInt64.toNat_toUInt32, UInt64.toNat_min,
      UInt64.reduceToNat]
    omega
  simp only [planOfPresets, List.mapIdx_concat, List.getLast?_concat, Option.bind_some,
    Option.map_some, hlayer, and_true]
  rw [maxBitrateBps_eq_iff.2 hbitrate, hlayer]

theorem planOfPresets_consistent_iff (hlength : lower.length ≤ 2) :
    Consistent (useSimulcast options)
        (planOfPresets original width height options (lower ++ [original])) ↔
      Representable original.bitrate ∧
        ∀ preset ∈ lower, Representable preset.bitrate ∧ preset.bitrate ≤ original.bitrate := by
  have hthree : (lower ++ [original]).length ≤ 3 := by
    rw [List.length_append]
    exact Nat.succ_le_succ hlength
  unfold planOfPresets
  constructor
  · intro h
    have hfits : ∀ preset ∈ lower ++ [original], Representable preset.bitrate := by
      intro preset hmem
      obtain ⟨i, hi⟩ := List.getElem?_of_mem hmem
      have hmatch := h.matching i
      simp only [List.getElem?_mapIdx, hi, Option.map_some, Option.some.injEq] at hmatch
      exact maxBitrateBps_eq_iff.1 (hmatch _ _ rfl rfl).2
    have htop := hfits original (List.mem_append_right _ List.mem_cons_self)
    refine ⟨htop, ?_⟩
    intro preset hmem
    have hlower := hfits preset (List.mem_append_left _ hmem)
    refine ⟨hlower, ?_⟩
    obtain ⟨i, hi⟩ := List.getElem?_of_mem (List.mem_append_left [original] hmem)
    have hordered := h.ordered
    simp only [List.mapIdx_concat, List.getLast?_concat, Option.mem_def, Option.some.injEq,
      forall_eq'] at hordered
    apply (videoLayer_le_iff hlower htop).1
    apply hordered
    rw [← List.mapIdx_concat]
    apply List.mem_of_getElem? (i := i)
    rw [List.getElem?_mapIdx, hi]
    rfl
  · rintro ⟨htop, hlower⟩
    have hfits : ∀ preset ∈ lower ++ [original],
        Representable preset.bitrate ∧ preset.bitrate ≤ original.bitrate := by
      intro preset hmem
      rcases List.mem_append.1 hmem with hmem | hmem
      · exact hlower preset hmem
      · rw [List.mem_singleton.1 hmem]
        exact ⟨htop, UInt64.le_refl _⟩
    constructor
    · simp only [List.length_mapIdx]
    · simp only [List.length_mapIdx, List.length_append, List.length_singleton]
      exact Nat.le_add_left 1 _
    · simp only [List.length_mapIdx]
      exact hthree
    · intro hsimulcast
      rw [List.length_mapIdx]
      exact layerEncoding_rids hsimulcast hthree
    · intro i encoding layer hencoding hlayer
      rw [List.getElem?_mapIdx, Option.map_eq_some_iff] at hencoding hlayer
      obtain ⟨preset, hi, rfl⟩ := hencoding
      obtain ⟨same, hsame, rfl⟩ := hlayer
      obtain rfl : preset = same := Option.some.inj (hi.symm.trans hsame)
      exact ⟨rfl, maxBitrateBps_eq_iff.2 (hfits preset (List.mem_of_getElem? hi)).1⟩
    · intro top hgetLast layer hmem
      obtain ⟨i, hi⟩ := List.getElem?_of_mem hmem
      rw [List.getElem?_mapIdx, Option.map_eq_some_iff] at hi
      obtain ⟨preset, hpreset, rfl⟩ := hi
      simp only [List.mapIdx_concat, List.getLast?_concat, Option.mem_def,
        Option.some.injEq] at hgetLast
      subst hgetLast
      have hpair := hfits preset (List.mem_of_getElem? hpreset)
      exact (videoLayer_le_iff hpair.1 htop).2 hpair.2

end planOfPresets

/-! ## 8. The fixed bitrates of the lower layers -/

/-- The least bitrate of the full resolution layer that is not below a lower layer. -/
def lowerLayerBitrate (width height : UInt32) (screenShare : Bool) : UInt64 :=
  if screenShare then 150000
  else if isWide width height then (if 960 ≤ max width height then 450000 else 160000)
  else (if 960 ≤ max width height then 330000 else 125000)

/-- A bitrate that the lower layers of the plan do not exceed and that fits an `int`. -/
def Fits (width height : UInt32) (screenShare : Bool) (options : TrackPublishOptions)
    (bitrate : UInt64) : Prop :=
  Representable bitrate ∧
    (useSimulcast options = true → 480 ≤ max width height →
      lowerLayerBitrate width height screenShare ≤ bitrate)

theorem representable_preset {bitrate : UInt64}
    (hbitrate : bitrate ∈ [450000, 160000, 330000, 125000]) : Representable bitrate := by
  simp only [List.mem_cons, List.not_mem_nil, or_false] at hbitrate
  rcases hbitrate with rfl | rfl | rfl | rfl <;> exact ⟨by decide, by decide⟩

/-- The half size layer of a shared screen, which has a least bitrate of its own. -/
theorem screenShare_layer_iff {bitrate : UInt64} (hbitrate : Representable bitrate) :
    (Representable (max 150000 (bitrate / 4)) ∧ max 150000 (bitrate / 4) ≤ bitrate) ↔
      150000 ≤ bitrate := by
  have hmax : int32Max.toNat = 2147483647 := rfl
  have hle := hbitrate.2
  unfold Representable
  rw [UInt64.le_iff_toNat_le, hmax] at hle
  simp only [ne_eq, ← UInt64.toNat_inj, UInt64.le_iff_toNat_le, UInt64.toNat_max,
    UInt64.toNat_div, UInt64.reduceToNat, hmax]
  omega

/-- One preset of a table below the original one, and from 960 on a second one. -/
theorem tablePresets_iff {first second : Preset} {bitrate : UInt64} {large : Prop}
    [Decidable large] (hfirst : Representable first.bitrate)
    (hsecond : Representable second.bitrate) (hle : first.bitrate ≤ second.bitrate) :
    (∀ preset ∈ first :: (if large then [second] else []),
        Representable preset.bitrate ∧ preset.bitrate ≤ bitrate) ↔
      (if large then second.bitrate else first.bitrate) ≤ bitrate := by
  by_cases hlarge : large
  · simp only [hlarge, if_true, List.forall_mem_cons, List.not_mem_nil, false_implies,
      implies_true, and_true]
    constructor
    · intro h
      exact h.2.2
    · intro h
      exact ⟨⟨hfirst, UInt64.le_trans hle h⟩, hsecond, h⟩
  · simp only [hlarge, if_false, List.forall_mem_cons, List.not_mem_nil, false_implies,
      implies_true, and_true, hfirst, true_and]

/-- The lower layers are in order exactly for the bitrates that fit. -/
theorem lowerPresets_fit_iff (original : Preset) (width height : UInt32) (screenShare : Bool)
    (options : TrackPublishOptions) :
    (Representable original.bitrate ∧
      ∀ preset ∈ lowerPresets original width height screenShare options,
        Representable preset.bitrate ∧ preset.bitrate ≤ original.bitrate) ↔
      Fits width height screenShare options original.bitrate := by
  unfold Fits lowerPresets lowerLayerBitrate
  apply and_congr_right
  intro hbitrate
  by_cases hguard : useSimulcast options = true ∧ 480 ≤ max width height
  · have htrue : (useSimulcast options && decide (480 ≤ max width height)) = true := by
      rw [hguard.1, decide_eq_true hguard.2]
      rfl
    rw [if_pos htrue]
    simp only [hguard.1, hguard.2, forall_const]
    cases screenShare with
    | true =>
      simp only [if_true, List.forall_mem_cons, List.not_mem_nil, false_implies, implies_true,
        and_true]
      exact screenShare_layer_iff hbitrate
    | false =>
      simp only [Bool.false_eq_true, if_false]
      cases isWide width height with
      | true =>
        apply tablePresets_iff
        · exact representable_preset (by decide)
        · exact representable_preset (by decide)
        · decide
      | false =>
        apply tablePresets_iff
        · exact representable_preset (by decide)
        · exact representable_preset (by decide)
        · decide
  · have hfalse : (useSimulcast options && decide (480 ≤ max width height)) = false := by
      rw [Bool.eq_false_iff]
      intro h
      rw [Bool.and_eq_true, decide_eq_true_eq] at h
      exact hguard h
    simp only [hfalse, Bool.false_eq_true, if_false, List.not_mem_nil, false_implies,
      implies_true, true_iff]
    intro hsimulcast hsize
    exact absurd ⟨hsimulcast, hsize⟩ hguard

/-- Wide enough presets of a table are not below the lower layers. -/
def CoversLowerLayers (presets : List Preset) (small large : UInt64) : Prop :=
  ∀ preset ∈ presets, (480 ≤ preset.width → small ≤ preset.bitrate) ∧
    (960 ≤ preset.width → large ≤ preset.bitrate)

theorem kWidePresets_cover : CoversLowerLayers kWidePresets 160000 450000 := by
  unfold CoversLowerLayers kWidePresets
  simp only [List.forall_mem_cons]
  decide

theorem kStandardPresets_cover : CoversLowerLayers kStandardPresets 125000 330000 := by
  unfold CoversLowerLayers kStandardPresets
  simp only [List.forall_mem_cons]
  decide

/-- The chosen preset is as wide as the picture, up to the widest one. -/
theorem le_firstAtLeast_width {presets : List Preset} {back : Preset}
    {least size : UInt32} (hback : least ≤ back.width)
    (hsize : least ≤ size) : least ≤ (firstAtLeast presets back size).width := by
  unfold firstAtLeast
  cases hfind : presets.find? (fun preset => decide (size ≤ preset.width)) with
  | none => exact hback
  | some preset =>
    have hwide := List.find?_some hfind
    exact UInt32.le_trans hsize (of_decide_eq_true hwide)

theorem PresetTable.covers_firstAtLeast {presets : List Preset} {back : Preset}
    (htable : PresetTable presets back) {small large : UInt64}
    (hcover : CoversLowerLayers presets small large) (hback : 960 ≤ back.width)
    {size : UInt32} (hsize : 480 ≤ size) :
    (if 960 ≤ size then large else small) ≤ (firstAtLeast presets back size).bitrate := by
  have hmem := htable.firstAtLeast_mem size
  split
  · next hlarge =>
    exact (hcover _ hmem).2 (le_firstAtLeast_width hback hlarge)
  · exact (hcover _ hmem).1
      (le_firstAtLeast_width (UInt32.le_trans (by decide) hback) hsize)

/-- The bitrates of the tables and of a shared screen fit. -/
theorem fits_of_initialized {uninitialized : Preset} {width height : UInt32}
    {screenShare : Bool} (options : TrackPublishOptions)
    (hfree : ¬ TakesUninitialized uninitialized width height screenShare) :
    Fits width height screenShare options
      (defaultBitrate uninitialized width height screenShare) := by
  rw [defaultBitrate_initialized hfree]
  unfold Fits lowerLayerBitrate
  cases screenShare with
  | true =>
    simp only [if_true]
    exact ⟨⟨by decide, by decide⟩, fun _ _ => by decide⟩
  | false =>
    simp only [Bool.false_eq_true, if_false]
    have htable := class_table width height
    have hmem := htable.firstAtLeast_mem (max width height)
    refine ⟨⟨htable.positive _ hmem, ?_⟩, ?_⟩
    · exact UInt64.le_trans (htable.bounded _ hmem) (by decide)
    · intro _ hsize
      unfold classPresets classBack
      cases isWide width height with
      | true => exact kWidePresets_table.covers_firstAtLeast kWidePresets_cover (by decide) hsize
      | false =>
        exact kStandardPresets_table.covers_firstAtLeast kStandardPresets_cover (by decide) hsize

/-- **When the plan is consistent.**  The user's bitrate replaces that of the full
    resolution layer only, while the user's frame rate also limits the lower layers; so
    the plan is consistent exactly when that bitrate, or the one that an automatic
    variable held, is not below the fixed bitrates of the lower layers. -/
theorem plan_consistent_iff (uninitialized : Preset) {width height : UInt32}
    (hwidth : 0 < width) (hheight : 0 < height) (screenShare : Bool)
    (options : TrackPublishOptions) :
    Consistent (useSimulcast options)
        (buildVideoEncodingPlan uninitialized width height screenShare options) ↔
      (options.videoEncoding.maxBitrate ≠ 0 →
        Fits width height screenShare options options.videoEncoding.maxBitrate) ∧
      (options.videoEncoding.maxBitrate = 0 →
        TakesUninitialized uninitialized width height screenShare →
        Fits width height screenShare options uninitialized.bitrate) := by
  rw [buildVideoEncodingPlan_eq uninitialized hwidth hheight,
    planOfPresets_consistent_iff (lowerPresets_length _ _ _ _ _), lowerPresets_fit_iff,
    originalPreset_bitrate]
  by_cases hzero : options.videoEncoding.maxBitrate = 0
  · rw [if_pos hzero]
    simp only [hzero, ne_eq, not_true_eq_false, false_implies, true_and, forall_const]
    constructor
    · intro hfits htaken
      rw [← defaultBitrate_taken htaken]
      exact hfits
    · intro hfits
      by_cases htaken : TakesUninitialized uninitialized width height screenShare
      · rw [defaultBitrate_taken htaken]
        exact hfits htaken
      · exact fits_of_initialized options htaken
  · rw [if_neg hzero]
    simp only [hzero, ne_eq, not_false_eq_true, forall_const, false_implies, and_true]

/-- A camera of 1280 by 720 with the default options. -/
theorem plan_consistent_iff_camera :
    ((0 : UInt32) < 1280 ∧ (0 : UInt32) < 720) ∧
      Consistent (useSimulcast {}) (buildVideoEncodingPlan ⟨0, 0, 0, 0⟩ 1280 720 false {}) :=
  ⟨⟨by decide, by decide⟩,
    (plan_consistent_iff ⟨0, 0, 0, 0⟩ (by decide) (by decide) false {}).2
      ⟨fun hcap => absurd rfl hcap, fun _ htaken => absurd rfl htaken.2.2⟩⟩

/-- The options of a user who wants at most 100 kbit/s. -/
def cappedOptions : TrackPublishOptions := { videoEncoding := { maxBitrate := 100000 } }

/-- With that cap the full resolution layer is below the lowest layer, in either class. -/
theorem capped_plan_is_inconsistent :
    ¬ Consistent (useSimulcast cappedOptions)
      (buildVideoEncodingPlan ⟨0, 0, 0, 0⟩ 1280 720 false cappedOptions) := by
  rw [buildVideoEncodingPlan_eq _ (by decide) (by decide),
    planOfPresets_consistent_iff (lowerPresets_length _ _ _ _ _), lowerPresets_fit_iff,
    originalPreset_bitrate]
  rintro ⟨-, hordered⟩
  have hfits := hordered (by decide) (by decide)
  unfold lowerLayerBitrate at hfits
  cases hwide : isWide 1280 720 with
  | true =>
    rw [hwide] at hfits
    exact absurd hfits (by decide)
  | false =>
    rw [hwide] at hfits
    exact absurd hfits (by decide)

/-! ## 9. The preset of a size -/

/-- The full resolution layer has the bitrate of the first preset that is wide enough, or
    of the last one, in `OriginalPreset` and in what is emitted. -/
def ChoosesPreset (uninitialized : Preset) (width height : UInt32)
    (options : TrackPublishOptions) : Prop :=
  let plan := buildVideoEncodingPlan uninitialized width height false options
  let bitrate :=
    (firstAtLeast (classPresets width height) (classBack width height)
      (max width height)).bitrate
  (originalPreset uninitialized width height false options).bitrate = bitrate ∧
    plan.encodings.getLast?.bind (·.maxBitrateBps) = some (bitrate.toNat : Int) ∧
    plan.layers.getLast?.map (·.bitrate.toNat) = some bitrate.toNat

/-- **When the preset of a size is the one of the table.**  For a size beyond the table,
    only if the memory of `result` held zero, or by chance the last bitrate. -/
theorem choosesPreset_iff (uninitialized : Preset) {width height : UInt32}
    (hwidth : 0 < width) (hheight : 0 < height) {options : TrackPublishOptions}
    (hdefault : options.videoEncoding.maxBitrate = 0) :
    ChoosesPreset uninitialized width height options ↔
      max width height ≤ (classBack width height).width ∨ uninitialized.bitrate = 0 ∨
        uninitialized.bitrate = (classBack width height).bitrate := by
  have htable := class_table width height
  have hmem := htable.firstAtLeast_mem (max width height)
  unfold ChoosesPreset
  rw [originalPreset_bitrate, if_pos hdefault]
  constructor
  · rintro ⟨hchosen, -, -⟩
    by_cases hsize : max width height ≤ (classBack width height).width
    · exact Or.inl hsize
    · rw [UInt32.not_le] at hsize
      by_cases hzero : uninitialized.bitrate = 0
      · exact Or.inr (Or.inl hzero)
      · have htaken : TakesUninitialized uninitialized width height false := ⟨rfl, hsize, hzero⟩
        rw [defaultBitrate_taken htaken, htable.firstAtLeast_missed hsize] at hchosen
        exact Or.inr (Or.inr hchosen)
  · intro hcondition
    have hchosen : defaultBitrate uninitialized width height false =
        (firstAtLeast (classPresets width height) (classBack width height)
          (max width height)).bitrate := by
      by_cases htaken : TakesUninitialized uninitialized width height false
      · obtain ⟨-, hsize, hne⟩ := id htaken
        rw [defaultBitrate_taken htaken, htable.firstAtLeast_missed hsize]
        rcases hcondition with hle | hzero | hback
        · exact absurd hsize (UInt32.not_lt.2 hle)
        · exact absurd hzero hne
        · exact hback
      · exact defaultBitrate_initialized htaken
    have hbitrate : (originalPreset uninitialized width height false options).bitrate =
        (firstAtLeast (classPresets width height) (classBack width height)
          (max width height)).bitrate := by
      rw [originalPreset_bitrate, if_pos hdefault, hchosen]
    have hrepresentable : Representable
        (originalPreset uninitialized width height false options).bitrate := by
      rw [hbitrate]
      exact ⟨htable.positive _ hmem, UInt64.le_trans (htable.bounded _ hmem) (by decide)⟩
    refine ⟨hchosen, ?_⟩
    rw [buildVideoEncodingPlan_eq uninitialized hwidth hheight, ← hbitrate]
    exact planOfPresets_last hrepresentable

/-- A camera of 1280 by 720, which the tables hold. -/
theorem choosesPreset_iff_camera :
    ((0 : UInt32) < 1280 ∧ (0 : UInt32) < 720) ∧ ChoosesPreset ⟨0, 0, 1, 0⟩ 1280 720 {} := by
  refine ⟨⟨by decide, by decide⟩, ?_⟩
  rw [choosesPreset_iff ⟨0, 0, 1, 0⟩ (by decide) (by decide) rfl]
  apply Or.inl
  unfold classBack
  cases isWide 1280 720 <;> decide

/-- For a picture of 7680 by 4320 the plan carries the bitrate 1 that was in memory. -/
theorem leftover_bitrate_is_planned :
    ¬ ChoosesPreset ⟨0, 0, 1, 0⟩ 7680 4320 {} := by
  rintro ⟨hchosen, -, -⟩
  have htaken : TakesUninitialized ⟨0, 0, 1, 0⟩ 7680 4320 false := by
    refine ⟨rfl, ?_, by decide⟩
    unfold classBack
    cases isWide 7680 4320 <;> decide
  rw [originalPreset_bitrate, if_pos rfl, defaultBitrate_taken htaken,
    (class_table 7680 4320).firstAtLeast_missed htaken.2.1] at hchosen
  unfold classBack at hchosen
  cases hwide : isWide 7680 4320 with
  | true =>
    rw [hwide] at hchosen
    exact absurd hchosen (by decide)
  | false =>
    rw [hwide] at hchosen
    exact absurd hchosen (by decide)

end LivekitClient.VideoEncoding
