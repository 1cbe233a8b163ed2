/-
  LivekitClient/SubscribedQualities.lean
  ======================================
  **Dynacast** (`ApplySubscribedQualities` of `video_encoding.cpp`): which of the simulcast
  encodings a sender keeps active.

  An update lists the qualities somebody is subscribed to, either for each codec or, from
  older servers, in one plain list.  Names of codecs are compared in lower case and
  without `video/` in front; the first entry for a codec and the first entry for a quality
  count.  The result tells the caller whether to write the parameters of the sender.
-/
import LivekitClient.Types
import LivekitClient.VideoEncoding
import Mathlib.Data.List.Forall2

namespace LivekitClient.SubscribedQualities

open LivekitClient.VideoEncoding

/-! ## 1. The update -/

structure SubscribedQuality where
  quality : VideoQuality
  enabled : Bool

structure SubscribedCodec where
  codec : Bytes
  qualities : List SubscribedQuality

/-- `track_sid` is read by the caller, which looks up the publication. -/
structure SubscribedQualityUpdate where
  trackSid : String
  qualities : List SubscribedQuality
  codecs : List SubscribedCodec

/-! ## 2. Names of codecs -/

/-- `std::tolower` in the "C" locale. -/
def toLower (c : UInt8) : UInt8 := if 0x41 ≤ c ∧ c ≤ 0x5a then c + 0x20 else c

/-- The bytes of `"video/"`. -/
def kVideoPrefix : Bytes := [0x76, 0x69, 0x64, 0x65, 0x6f, 0x2f]

def normalizeCodec (codec : Bytes) : Bytes :=
  let lower := codec.map toLower
  if kVideoPrefix.isPrefixOf lower then lower.drop kVideoPrefix.length else lower

/-! ## 3. The update of the flags -/

/-- The encodings after the call, and its result. -/
structure Applied where
  encodings : List RtpEncodingParameters
  changed : Bool

/-- One encoding after the loop body, and whether the body set `changed`. -/
structure AppliedOne where
  encoding : RtpEncodingParameters
  changed : Bool

/-- The body of the loop over the encodings. -/
def applyQuality (qualities : List SubscribedQuality) (encoding : RtpEncodingParameters) :
    AppliedOne :=
  if encoding.rid ≠ "q" ∧ encoding.rid ≠ "h" ∧ encoding.rid ≠ "f" then ⟨encoding, false⟩
  else
    match qualities.find? (fun candidate => candidate.quality == qualityForRid encoding.rid) with
    | some subscribed =>
      if encoding.active != subscribed.enabled then
        ⟨{ encoding with active := subscribed.enabled }, true⟩
      else ⟨encoding, false⟩
    | none => ⟨encoding, false⟩

def applyQualities (qualities : List SubscribedQuality) :
    Bool → List RtpEncodingParameters → Applied
  | changed, [] => ⟨[], changed⟩
  | changed, encoding :: rest =>
    let one := applyQuality qualities encoding
    let others := applyQualities qualities (changed || one.changed) rest
    ⟨one.encoding :: others.encodings, others.changed⟩

/-- The pointer `qualities` of the source. -/
def selectQualities (update : SubscribedQualityUpdate) (publishedCodec : Bytes) :
    Option (List SubscribedQuality) :=
  if update.codecs.isEmpty then some update.qualities
  else
    (update.codecs.find? fun codec =>
      normalizeCodec codec.codec == normalizeCodec publishedCodec).map (·.qualities)

def applySubscribedQualities (encodings : List RtpEncodingParameters)
    (update : SubscribedQualityUpdate) (publishedCodec : Bytes) : Applied :=
  if encodings.length < 2 then ⟨encodings, false⟩
  else
    match selectQualities update publishedCodec with
    | none => ⟨encodings, false⟩
    | some qualities =>
      if qualities.isEmpty then ⟨encodings, false⟩
      else applyQualities qualities false encodings

/-! ## 4. What an update asks for -/

/-- The qualities of the simulcast rids. -/
inductive RidQuality : String → VideoQuality → Prop where
  | q : RidQuality "q" .Low
  | h : RidQuality "h" .Medium
  | f : RidQuality "f" .High

def EqIgnoringCase (a b : Bytes) : Prop := a.map toLower = b.map toLower

instance (a b : Bytes) : Decidable (EqIgnoringCase a b) :=
  inferInstanceAs (Decidable (a.map toLower = b.map toLower))

/-- A name without `video/` in front, in whatever case that is written. -/
def withoutVideo (codec : Bytes) : Bytes :=
  if EqIgnoringCase (codec.take kVideoPrefix.length) kVideoPrefix then
    codec.drop kVideoPrefix.length
  else codec

def SameCodec (a b : Bytes) : Prop := EqIgnoringCase (withoutVideo a) (withoutVideo b)

/-- The list that counts for a codec. -/
inductive Applicable (update : SubscribedQualityUpdate) (publishedCodec : Bytes) :
    List SubscribedQuality → Prop where
  | plain : update.codecs = [] → Applicable update publishedCodec update.qualities
  | codec {before : List SubscribedCodec} {entry : SubscribedCodec}
      {after : List SubscribedCodec} : update.codecs = before ++ entry :: after →
      SameCodec entry.codec publishedCodec →
      (∀ other ∈ before, ¬ SameCodec other.codec publishedCodec) →
      Applicable update publishedCodec entry.qualities

/-- `entry` is the first one of its quality. -/
def FirstListed (qualities : List SubscribedQuality) (quality : VideoQuality)
    (entry : SubscribedQuality) : Prop :=
  entry.quality = quality ∧ ∃ before after, qualities = before ++ entry :: after ∧
    ∀ other ∈ before, other.quality ≠ quality

/-- The update asks for this flag in the encodings of a rid. -/
def Requested (update : SubscribedQualityUpdate) (publishedCodec : Bytes) (rid : String)
    (enabled : Bool) : Prop :=
  ∃ quality qualities entry, RidQuality rid quality ∧
    Applicable update publishedCodec qualities ∧ FirstListed qualities quality entry ∧
    entry.enabled = enabled

/-! ## 5. The code looks for what the update asks for -/

theorem kVideoPrefix_lower : kVideoPrefix.map toLower = kVideoPrefix := by decide

theorem isPrefixOf_iff_take {codec : Bytes} :
    kVideoPrefix.isPrefixOf (codec.map toLower) = true ↔
      EqIgnoringCase (codec.take kVideoPrefix.length) kVideoPrefix := by
  rw [List.isPrefixOf_iff_prefix, List.prefix_iff_eq_take, EqIgnoringCase, kVideoPrefix_lower,
    List.map_take]
  exact eq_comm

theorem normalizeCodec_eq (codec : Bytes) :
    normalizeCodec codec = (withoutVideo codec).map toLower := by
  unfold normalizeCodec withoutVideo
  by_cases hvideo : EqIgnoringCase (codec.take kVideoPrefix.length) kVideoPrefix
  · rw [if_pos hvideo, if_pos (isPrefixOf_iff_take.2 hvideo), List.map_drop]
  · rw [if_neg hvideo, if_neg (isPrefixOf_iff_take.not.2 hvideo)]

theorem normalizeCodec_eq_iff {a b : Bytes} :
    normalizeCodec a = normalizeCodec b ↔ SameCodec a b := by
  rw [normalizeCodec_eq, normalizeCodec_eq]
  rfl

theorem selectQualities_eq_some_iff {update : SubscribedQualityUpdate} {publishedCodec : Bytes}
    {qualities : List SubscribedQuality} :
    selectQualities update publishedCodec = some qualities ↔
      Applicable update publishedCodec qualities := by
  unfold selectQualities
  by_cases hempty : update.codecs = []
  · rw [hempty, List.isEmpty_nil, if_pos rfl, Option.some.injEq]
    constructor
    · rintro rfl
      exact .plain hempty
    · intro h
      rcases h with _ | ⟨hcodecs, -, -⟩
      · rfl
      · rw [hempty] at hcodecs
        exact absurd hcodecs.symm (List.append_ne_nil_of_right_ne_nil _ (List.cons_ne_nil _ _))
  · rw [if_neg (by simpa using hempty), Option.map_eq_some_iff]
    simp only [List.find?_eq_some_iff_append, beq_iff_eq, normalizeCodec_eq_iff]
    constructor
    · rintro ⟨entry, ⟨hsame, before, after, hcodecs, hbefore⟩, rfl⟩
      refine .codec hcodecs hsame ?_
      intro other hmem
      have hother := hbefore other hmem
      simpa only [Bool.not_eq_true', beq_eq_false_iff_ne, ne_eq, normalizeCodec_eq_iff]
        using hother
    · intro h
      rcases h with hcodecs | ⟨hcodecs, hsame, hbefore⟩
      · exact absurd hcodecs hempty
      · refine ⟨_, ⟨hsame, _, _, hcodecs, ?_⟩, rfl⟩
        intro other hmem
        have hother := hbefore other hmem
        simpa only [Bool.not_eq_true', beq_eq_false_iff_ne, ne_eq, normalizeCodec_eq_iff]
          using hother

theorem find?_eq_some_iff_firstListed {qualities : List SubscribedQuality}
    {quality : VideoQuality} {entry : SubscribedQuality} :
    qualities.find? (fun candidate => candidate.quality == quality) = some entry ↔
      FirstListed qualities quality entry := by
  simp only [List.find?_eq_some_iff_append, beq_iff_eq, FirstListed, Bool.not_eq_true',
    beq_eq_false_iff_ne, ne_eq]

/-- The rids that the loop does not pass over. -/
theorem ridQuality_iff {rid : String} {quality : VideoQuality} :
    RidQuality rid quality ↔
      ¬ (rid ≠ "q" ∧ rid ≠ "h" ∧ rid ≠ "f") ∧ qualityForRid rid = quality := by
  constructor
  · intro hquality
    cases hquality <;> exact ⟨by decide, by decide⟩
  · rintro ⟨hrid, rfl⟩
    have hcases : rid = "q" ∨ rid = "h" ∨ rid = "f" := by
      by_contra hnone
      simp only [not_or] at hnone
      exact hrid hnone
    rcases hcases with rfl | rfl | rfl
    · exact .q
    · exact .h
    · exact .f

/-! ## 6. One encoding -/

/-- The list asks for this flag. -/
def Listed (qualities : List SubscribedQuality) (rid : String) (enabled : Bool) : Prop :=
  ∃ quality entry, RidQuality rid quality ∧ FirstListed qualities quality entry ∧
    entry.enabled = enabled

/-- The body of the loop sets the flag that the list asks for. -/
theorem applyQuality_listed {qualities : List SubscribedQuality}
    {encoding : RtpEncodingParameters} {enabled : Bool}
    (hlisted : Listed qualities encoding.rid enabled) :
    applyQuality qualities encoding =
      ⟨{ encoding with active := enabled }, encoding.active != enabled⟩ := by
  obtain ⟨quality, entry, hrid, hfirst, rfl⟩ := hlisted
  obtain ⟨hsimulcast, rfl⟩ := ridQuality_iff.1 hrid
  unfold applyQuality
  rw [if_neg hsimulcast, find?_eq_some_iff_firstListed.2 hfirst]
  dsimp only
  by_cases hsame : encoding.active = entry.enabled
  · rw [hsame, bne_self_eq_false, if_neg Bool.false_ne_true, ← hsame]
  · have hne : (encoding.active != entry.enabled) = true := bne_iff_ne.2 hsame
    rw [hne, if_pos rfl]

theorem applyQuality_unlisted {qualities : List SubscribedQuality}
    {encoding : RtpEncodingParameters}
    (hunlisted : ∀ enabled, ¬ Listed qualities encoding.rid enabled) :
    applyQuality qualities encoding = ⟨encoding, false⟩ := by
  unfold applyQuality
  split
  · rfl
  · next hsimulcast =>
    cases hfind : qualities.find? (fun candidate =>
        candidate.quality == qualityForRid encoding.rid) with
    | none => rfl
    | some entry =>
      exact absurd ⟨_, entry, ridQuality_iff.2 ⟨hsimulcast, rfl⟩,
        find?_eq_some_iff_firstListed.1 hfind, rfl⟩ (hunlisted entry.enabled)

theorem applyQuality_cases (qualities : List SubscribedQuality)
    (encoding : RtpEncodingParameters) :
    (∃ enabled, Listed qualities encoding.rid enabled ∧ applyQuality qualities encoding =
        ⟨{ encoding with active := enabled }, encoding.active != enabled⟩) ∨
      ((∀ enabled, ¬ Listed qualities encoding.rid enabled) ∧
        applyQuality qualities encoding = ⟨encoding, false⟩) := by
  by_cases hlisted : ∃ enabled, Listed qualities encoding.rid enabled
  · obtain ⟨enabled, hlisted⟩ := hlisted
    exact Or.inl ⟨enabled, hlisted, applyQuality_listed hlisted⟩
  · rw [not_exists] at hlisted
    exact Or.inr ⟨hlisted, applyQuality_unlisted hlisted⟩

theorem applyQuality_changed (qualities : List SubscribedQuality)
    (encoding : RtpEncodingParameters) :
    (applyQuality qualities encoding).changed = true ↔
      encoding.active ≠ (applyQuality qualities encoding).encoding.active := by
  rcases applyQuality_cases qualities encoding with ⟨enabled, -, h⟩ | ⟨-, h⟩
  · rw [h]
    exact bne_iff_ne
  · rw [h]
    simp

/-- The second time there is nothing left to do. -/
theorem applyQuality_again (qualities : List SubscribedQuality)
    (encoding : RtpEncodingParameters) :
    applyQuality qualities (applyQuality qualities encoding).encoding =
      ⟨(applyQuality qualities encoding).encoding, false⟩ := by
  rcases applyQuality_cases qualities encoding with ⟨enabled, hlisted, h⟩ | ⟨hunlisted, h⟩
  · rw [h]
    have hagain : Listed qualities ({ encoding with active := enabled } :
        RtpEncodingParameters).rid enabled := hlisted
    rw [applyQuality_listed hagain, bne_self_eq_false]
  · rw [h]
    exact applyQuality_unlisted hunlisted

/-! ## 7. The loop -/

theorem applyQualities_eq (qualities : List SubscribedQuality) (changed : Bool)
    (encodings : List RtpEncodingParameters) :
    applyQualities qualities changed encodings =
      ⟨encodings.map fun encoding => (applyQuality qualities encoding).encoding,
        changed || encodings.any fun encoding => (applyQuality qualities encoding).changed⟩ := by
  induction encodings generalizing changed with
  | nil =>
    rw [applyQualities, List.any_nil, Bool.or_false]
    rfl
  | cons encoding rest ih =>
    rw [applyQualities, ih, List.any_cons, ← Bool.or_assoc]
    rfl

theorem applyQualities_again (qualities : List SubscribedQuality)
    (encodings : List RtpEncodingParameters) :
    applyQualities qualities false
        (encodings.map fun encoding => (applyQuality qualities encoding).encoding) =
      ⟨encodings.map fun encoding => (applyQuality qualities encoding).encoding, false⟩ := by
  rw [applyQualities_eq, List.map_map, List.any_map, Bool.false_or]
  have hflags : (encodings.any ((fun encoding => (applyQuality qualities encoding).changed) ∘
      fun encoding => (applyQuality qualities encoding).encoding)) = false := by
    rw [List.any_eq_false]
    intro encoding _
    rw [Function.comp_apply, applyQuality_again]
    exact Bool.false_ne_true
  have hmap : ((fun encoding => (applyQuality qualities encoding).encoding) ∘
      fun encoding => (applyQuality qualities encoding).encoding) =
      fun encoding => (applyQuality qualities encoding).encoding := by
    funext encoding
    rw [Function.comp_apply, applyQuality_again]
  rw [hflags, hmap]

/-- Some flag differs between two lists of encodings. -/
def FlagChanged (before after : List RtpEncodingParameters) : Prop :=
  ∃ (i : Nat) (old new : RtpEncodingParameters),
    before[i]? = some old ∧ after[i]? = some new ∧ old.active ≠ new.active

theorem flagChanged_irrefl (encodings : List RtpEncodingParameters) :
    ¬ FlagChanged encodings encodings := by
  rintro ⟨i, old, new, hold, hnew, hne⟩
  rw [hold, Option.some.injEq] at hnew
  exact hne (congrArg RtpEncodingParameters.active hnew)

theorem any_changed_iff (qualities : List SubscribedQuality)
    (encodings : List RtpEncodingParameters) :
    (encodings.any fun encoding => (applyQuality qualities encoding).changed) = true ↔
      FlagChanged encodings
        (encodings.map fun encoding => (applyQuality qualities encoding).encoding) := by
  rw [List.any_eq_true]
  constructor
  · rintro ⟨encoding, hmem, hchanged⟩
    obtain ⟨i, hi⟩ := List.getElem?_of_mem hmem
    refine ⟨i, encoding, _, hi, ?_, (applyQuality_changed qualities encoding).1 hchanged⟩
    rw [List.getElem?_map, hi]
    rfl
  · rintro ⟨i, old, new, hold, hnew, hne⟩
    rw [List.getElem?_map, hold, Option.map_some, Option.some.injEq] at hnew
    subst hnew
    exact ⟨old, List.mem_of_getElem? hold, (applyQuality_changed qualities old).2 hne⟩

theorem applyQualities_nil (encodings : List RtpEncodingParameters) :
    applyQualities [] false encodings = ⟨encodings, false⟩ := by
  have hnone : ∀ encoding, applyQuality [] encoding = ⟨encoding, false⟩ := by
    intro encoding
    apply applyQuality_unlisted
    rintro enabled ⟨quality, entry, -, ⟨-, before, after, hnil, -⟩, -⟩
    exact absurd hnil.symm (List.append_ne_nil_of_right_ne_nil _ (List.cons_ne_nil _ _))
  rw [applyQualities_eq]
  simp only [hnone, List.map_id', Bool.false_or, List.any_eq_false, Bool.false_eq_true,
    not_false_eq_true, implies_true, Applied.mk.injEq, and_self]

theorem applySubscribedQualities_of_applicable {encodings : List RtpEncodingParameters}
    {update : SubscribedQualityUpdate} {publishedCodec : Bytes}
    {qualities : List SubscribedQuality} (hcount : 2 ≤ encodings.length)
    (happlicable : Applicable update publishedCodec qualities) :
    applySubscribedQualities encodings update publishedCodec =
      applyQualities qualities false encodings := by
  unfold applySubscribedQualities
  rw [if_neg (Nat.not_lt.2 hcount), selectQualities_eq_some_iff.2 happlicable]
  dsimp only
  split
  · next hempty =>
    rw [List.isEmpty_iff.1 hempty]
    exact (applyQualities_nil encodings).symm
  · rfl

/-- A call either changes nothing, for one encoding or for want of a list, or it applies
    the list that counts to every encoding. -/
theorem applySubscribedQualities_cases (encodings : List RtpEncodingParameters)
    (update : SubscribedQualityUpdate) (publishedCodec : Bytes) :
    ((encodings.length < 2 ∨ ∀ qualities, ¬ Applicable update publishedCodec qualities) ∧
      applySubscribedQualities encodings update publishedCodec = ⟨encodings, false⟩) ∨
    ∃ qualities, 2 ≤ encodings.length ∧
      (∀ others, Applicable update publishedCodec others ↔ others = qualities) ∧
      applySubscribedQualities encodings update publishedCodec =
        applyQualities qualities false encodings := by
  by_cases hsmall : encodings.length < 2
  · refine Or.inl ⟨Or.inl hsmall, ?_⟩
    unfold applySubscribedQualities
    rw [if_pos hsmall]
  · cases hselect : selectQualities update publishedCodec with
    | none =>
      refine Or.inl ⟨Or.inr ?_, ?_⟩
      · intro qualities happlicable
        rw [← selectQualities_eq_some_iff, hselect] at happlicable
        exact absurd happlicable.symm (Option.some_ne_none _)
      · unfold applySubscribedQualities
        rw [if_neg hsmall, hselect]
    | some qualities =>
      have hcount := Nat.not_lt.1 hsmall
      have happlicable := selectQualities_eq_some_iff.1 hselect
      refine Or.inr ⟨qualities, hcount, ?_,
        applySubscribedQualities_of_applicable hcount happlicable⟩
      intro others
      rw [← selectQualities_eq_some_iff, hselect, Option.some.injEq]
      exact eq_comm

/-! ## 8. The update as a whole -/

/-- The flag that a call asks for in the encodings of a rid; it looks at two encodings or
    more. -/
def AskedFor (count : Nat) (update : SubscribedQualityUpdate) (publishedCodec : Bytes)
    (rid : String) (enabled : Bool) : Prop :=
  2 ≤ count ∧ Requested update publishedCodec rid enabled

theorem requested_iff_listed {update : SubscribedQualityUpdate} {publishedCodec : Bytes}
    {qualities : List SubscribedQuality}
    (hunique : ∀ others, Applicable update publishedCodec others ↔ others = qualities)
    (rid : String) (enabled : Bool) :
    Requested update publishedCodec rid enabled ↔ Listed qualities rid enabled := by
  constructor
  · rintro ⟨quality, others, entry, hrid, happlicable, hfirst, henabled⟩
    obtain rfl := (hunique others).1 happlicable
    exact ⟨quality, entry, hrid, hfirst, henabled⟩
  · rintro ⟨quality, entry, hrid, hfirst, henabled⟩
    exact ⟨quality, qualities, entry, hrid, (hunique qualities).2 rfl, hfirst, henabled⟩

/-- **Dynacast.**  A call sets the flags that the update asks for and nothing else, says
    whether one of them was different before, and does nothing when it is repeated, when
    there is one encoding, or when no list counts for the codec. -/
theorem applySubscribedQualities_spec (encodings : List RtpEncodingParameters)
    (update : SubscribedQualityUpdate) (publishedCodec : Bytes) :
    List.Forall₂ (fun old new =>
        (∀ enabled, AskedFor encodings.length update publishedCodec old.rid enabled →
          new = { old with active := enabled }) ∧
        ((∀ enabled, ¬ AskedFor encodings.length update publishedCodec old.rid enabled) →
          new = old))
      encodings (applySubscribedQualities encodings update publishedCodec).encodings ∧
    ((applySubscribedQualities encodings update publishedCodec).changed = true ↔
      FlagChanged encodings
        (applySubscribedQualities encodings update publishedCodec).encodings) ∧
    applySubscribedQualities
        (applySubscribedQualities encodings update publishedCodec).encodings
        update publishedCodec =
      ⟨(applySubscribedQualities encodings update publishedCodec).encodings, false⟩ ∧
    ((encodings.length < 2 ∨ ∀ qualities, ¬ Applicable update publishedCodec qualities) →
      applySubscribedQualities encodings update publishedCodec = ⟨encodings, false⟩) := by
  rcases applySubscribedQualities_cases encodings update publishedCodec with
    ⟨hidle, happly⟩ | ⟨qualities, hcount, hunique, happly⟩
  · refine ⟨?_, ?_, ?_, fun _ => happly⟩
    · rw [happly]
      apply List.forall₂_same.2
      intro encoding _
      refine ⟨?_, fun _ => rfl⟩
      rintro enabled ⟨hcount, quality, qualities, entry, -, happlicable, -, -⟩
      rcases hidle with hsmall | hnone
      · exact absurd hsmall (Nat.not_lt.2 hcount)
      · exact absurd happlicable (hnone qualities)
    · rw [happly]
      exact iff_of_false Bool.false_ne_true (flagChanged_irrefl encodings)
    · rw [happly]
      exact happly
  · have hresult : applySubscribedQualities encodings update publishedCodec =
        ⟨encodings.map fun encoding => (applyQuality qualities encoding).encoding,
          encodings.any fun encoding => (applyQuality qualities encoding).changed⟩ := by
      rw [happly, applyQualities_eq, Bool.false_or]
    refine ⟨?_, ?_, ?_, ?_⟩
    · rw [hresult]
      apply List.forall₂_map_right_iff.2
      apply List.forall₂_same.2
      intro encoding _
      constructor
      · rintro enabled ⟨-, hrequested⟩
        rw [applyQuality_listed ((requested_iff_listed hunique _ _).1 hrequested)]
      · intro hnone
        rw [applyQuality_unlisted]
        intro enabled hlisted
        exact hnone enabled ⟨hcount, (requested_iff_listed hunique _ _).2 hlisted⟩
    · rw [hresult]
      exact any_changed_iff qualities encodings
    · have hlength : 2 ≤ (encodings.map fun encoding =>
          (applyQuality qualities encoding).encoding).length := by
        rw [List.length_map]
        exact hcount
      rw [hresult, applySubscribedQualities_of_applicable hlength ((hunique qualities).2 rfl),
        applyQualities_again]
    · rintro (hsmall | hnone)
      · exact absurd hsmall (Nat.not_lt.2 hcount)
      · exact absurd ((hunique qualities).2 rfl) (hnone qualities)

end LivekitClient.SubscribedQualities
