/-
  LivekitClient/FrameCryptor.lean
  ===============================
  **The media and data cryptors** (`src/core/e2ee/frame_crypto_transformer.cpp`).

  `encryptFrame` leaves a prefix of the frame in clear, seals the rest with the
  prefix as associated data and appends the IV, its size and the key index;
  `decryptFrame` finds the prefix again by looking at the frame it received.
  Both sides compute the length of the prefix with `get_unencrypted_bytes`, which
  returns a `uint8_t`.  The round trip therefore rests on the receiver finding
  the prefix the sender used, and the exact condition for that is the result of
  this file.

  Code outside the repository, taken as parameters: AES-GCM (`Aead`) and
  libwebrtc's H264 bit stream functions (`H264Bitstream`).
-/
import Mathlib.Algebra.Ring.Nat
import LivekitClient.EmulationPrevention
import LivekitClient.KeyProvider

namespace LivekitClient.FrameCryptor

open Std
open LivekitClient.KeyProvider

/-! ## 1. The libraries -/

/-- `EVP_AEAD_CTX_seal` and `EVP_AEAD_CTX_open`: key, IV, associated data, data. -/
structure Aead where
  sealData : Bytes → Bytes → Bytes → Bytes → Option Bytes
  openData : Bytes → Bytes → Bytes → Bytes → Option Bytes

def kGcmTagSize : Nat := 16

/-- `GetAesGcmAlgorithmFromKeySize`: there is a cipher for this key size. -/
def validKeySize (size : Nat) : Bool := size == 16 || size == 32

/-- `AesEncryptDecrypt(kEncrypt, …)`. -/
def Aead.encrypt (aead : Aead) (rawKey iv additionalData data : Bytes) : Option Bytes :=
  if validKeySize rawKey.length then aead.sealData rawKey iv additionalData data else none

/-- `AesEncryptDecrypt(kDecrypt, …)`: too short for the tag is an error of its own. -/
def Aead.decrypt (aead : Aead) (rawKey iv additionalData data : Bytes) : Option Bytes :=
  if !validKeySize rawKey.length then none
  else if data.length < kGcmTagSize then none
  else aead.openData rawKey iv additionalData data

/-- What the code relies on: sealing works, adds the tag, and opening undoes it. -/
structure Aead.Lawful (aead : Aead) : Prop where
  seal_some : ∀ key iv additionalData data, validKeySize key.length = true →
    ∃ sealed, aead.sealData key iv additionalData data = some sealed
  length_seal : ∀ key iv additionalData data sealed,
    aead.sealData key iv additionalData data = some sealed →
      sealed.length = data.length + kGcmTagSize
  open_seal : ∀ key iv additionalData data sealed,
    aead.sealData key iv additionalData data = some sealed →
      aead.openData key iv additionalData sealed = some data

inductive NaluType where
  | slice
  | idr
  | other
deriving DecidableEq, Repr

/-- `webrtc::H264`; of a `NaluIndex` only `payload_start_offset` is used. -/
structure H264Bitstream where
  findNaluIndices : Bytes → List Nat
  parseNaluType : UInt8 → NaluType
  writeRbsp : Bytes → Bytes
  parseRbsp : Bytes → Bytes

/-- What the code relies on: the start codes are found in order; writing a payload
    leaves no start code in it; reading undoes writing; and a payload that had to be
    changed has an emulation prevention byte in front of some byte. -/
structure H264Bitstream.Lawful (h264 : H264Bitstream) : Prop where
  mem_findNaluIndices : ∀ data k, k ∈ h264.findNaluIndices data ↔
    ∃ i, k = i + 3 ∧ EmulationPrevention.StartCodeAt data i ∧ i + 3 < data.length
  sorted_findNaluIndices : ∀ data, (h264.findNaluIndices data).Pairwise (· < ·)
  no_startCode : ∀ data i, ¬ EmulationPrevention.StartCodeAt (h264.writeRbsp data) i
  parse_write : ∀ data, h264.parseRbsp (h264.writeRbsp data) = data
  write_eq_or_mark : ∀ data, h264.writeRbsp data = data ∨
    ∃ i, EmulationPrevention.MarkAt (h264.writeRbsp data) i

/-- The libraries and key derivations that a cryptor works with. -/
structure Native where
  aead : Aead
  h264 : H264Bitstream
  kdf : KeyDerivation
  /-- `ParticipantKeyHandler::DecryptionFailure`: whether the failure is to be
      reported, and the handler with its failure counted. -/
  decryptionFailure : KeyHandler → Bool × KeyHandler

/-! ## 2. Frames -/

inductive MediaType where
  | audioFrame
  | videoFrame
deriving DecidableEq, Repr

inductive VideoCodecType where
  | generic
  | vp8
  | vp9
  | av1
  | h264
  | h265
deriving DecidableEq, Repr

structure TransformableFrame where
  data : Bytes
  codec : VideoCodecType
  isKeyFrame : Bool
  ssrc : UInt32
  timestamp : UInt32
deriving DecidableEq, Repr

inductive FrameCryptionState where
  | new
  | ok
  | encryptionFailed
  | decryptionFailed
  | missingKey
  | keyRatcheted
  | internalError
deriving DecidableEq, Repr

/-- `FrameIsH264`. -/
def frameIsH264 (type : MediaType) (frame : TransformableFrame) : Bool :=
  match type with
  | .videoFrame => frame.codec == .h264
  | .audioFrame => false

/-- `NeedsRbspUnescaping`; the loop stops before the last three bytes. -/
def needsRbspUnescaping (frameData : Bytes) : Bool :=
  if frameData.length < 3 then false
  else (List.range (frameData.length - 3)).any fun i =>
    frameData[i]? == some 0 && frameData[i + 1]? == some 0 && frameData[i + 2]? == some 3

/-- The NAL unit at payload offset `k` is a slice. -/
def isSliceNalu (h264 : H264Bitstream) (data : Bytes) (k : Nat) : Bool :=
  match data[k]? with
  | none => false
  | some byte =>
    match h264.parseNaluType byte with
    | .idr => true
    | .slice => true
    | .other => false

/-- `get_unencrypted_bytes`; the result is a `uint8_t`. -/
def getUnencryptedBytes (h264 : H264Bitstream) (type : MediaType) (frame : TransformableFrame) :
    Nat :=
  match type with
  | .audioFrame => 1
  | .videoFrame =>
    match frame.codec with
    | .av1 => 0
    | .vp8 => if frame.isKeyFrame then 10 else 3
    | .h264 =>
      match (h264.findNaluIndices frame.data).find? (isSliceNalu h264 frame.data) with
      | some payloadStartOffset => (payloadStartOffset + 2) % 2 ^ 8
      | none => 0
    | _ => 0

/-! ## 3. The frame cryptor -/

structure FrameCryptorTransformer where
  participantId : String
  type : MediaType
  enabledCryption : Bool
  keyIndex : Nat
  /-- Whether `sink_callback_` is set (audio). -/
  sinkCallback : Bool
  /-- The keys of `sink_callbacks_` (video). -/
  sinkCallbacks : List UInt32
  lastEncError : FrameCryptionState
  lastDecError : FrameCryptionState
  sendCounts : UInt32 → Option UInt32

/-- What `decryptFrame` reads of the provider's options; `shared_key` and
    `discard_frame_when_cryptor_not_ready` are always set. -/
structure CryptoOptions where
  uncryptedMagicBytes : Bytes
  ratchetWindowSize : Nat
deriving DecidableEq, Repr

/-- The result of handling a frame: what is handed to the sink callback, and the
    states reported to the observer. -/
structure Outcome where
  transformer : FrameCryptorTransformer
  provider : NativeKeyProvider
  forwarded : Option TransformableFrame
  reported : List FrameCryptionState

/-- The big-endian bytes of `ByteBufferWriter::WriteUInt32`. -/
def writeUInt32 (value : UInt32) : Bytes :=
  [(value >>> 24).toUInt8, (value >>> 16).toUInt8, (value >>> 8).toUInt8, value.toUInt8]

def getIvSize : Nat := 12

namespace FrameCryptorTransformer

/-- `makeIv`.  On the first call for an SSRC the random start value is stored and
    at once overwritten, so the count starts from 0. -/
def makeIv (t : FrameCryptorTransformer) (ssrc timestamp : UInt32) :
    Bytes × FrameCryptorTransformer :=
  let sendCount := (t.sendCounts ssrc).getD 0
  (writeUInt32 ssrc ++ writeUInt32 timestamp ++ writeUInt32 (timestamp - sendCount % 0xFFFF),
   { t with sendCounts := fun other => if other = ssrc then some (sendCount + 1)
                                       else t.sendCounts other })

def hasSink (t : FrameCryptorTransformer) (ssrc : UInt32) : Bool :=
  match t.type with
  | .audioFrame => t.sinkCallback
  | .videoFrame => t.sinkCallbacks.contains ssrc

/-- Set `last_enc_error_`, and report it if it changed. -/
def reportEnc (t : FrameCryptorTransformer) (state : FrameCryptionState) :
    FrameCryptorTransformer × List FrameCryptionState :=
  if t.lastEncError ≠ state then ({ t with lastEncError := state }, [state]) else (t, [])

def reportDec (t : FrameCryptorTransformer) (state : FrameCryptionState) :
    FrameCryptorTransformer × List FrameCryptionState :=
  if t.lastDecError ≠ state then ({ t with lastDecError := state }, [state]) else (t, [])

/-- Report and drop the frame. -/
def dropEnc (t : FrameCryptorTransformer) (p : NativeKeyProvider) (state : FrameCryptionState) :
    Outcome :=
  let (t, reported) := t.reportEnc state
  ⟨t, p, none, reported⟩

def dropDec (t : FrameCryptorTransformer) (p : NativeKeyProvider) (state : FrameCryptionState) :
    Outcome :=
  let (t, reported) := t.reportDec state
  ⟨t, p, none, reported⟩

/-- `encryptFrame`. -/
def encryptFrame (lib : Native) (t : FrameCryptorTransformer) (p : NativeKeyProvider)
    (frame : TransformableFrame) : Outcome :=
  if !t.hasSink frame.ssrc then t.dropEnc p .internalError
  else if frame.data.isEmpty then ⟨t, p, none, []⟩
  else if !t.enabledCryption then ⟨t, p, some frame, []⟩
  else
    let (handler, p) := p.getSharedKey t.participantId
    match handler.bind fun handler => handler.getKeySet p.heap t.keyIndex with
    | none => t.dropEnc p .missingKey
    | some keySet =>
      let unencryptedBytes := getUnencryptedBytes lib.h264 t.type frame
      if frame.data.length < unencryptedBytes then t.dropEnc p .encryptionFailed
      else
        let frameHeader := frame.data.take unencryptedBytes
        let frameTrailer := [getIvSize.toUInt8, t.keyIndex.toUInt8]
        let (iv, t) := t.makeIv frame.ssrc frame.timestamp
        let payload := frame.data.drop unencryptedBytes
        match lib.aead.encrypt keySet.encryptionKey iv frameHeader payload with
        | none => t.dropEnc p .encryptionFailed
        | some encryptedPayload =>
          let dataWithoutHeader := encryptedPayload ++ iv ++ frameTrailer
          let dataOut := frameHeader ++
            (if frameIsH264 t.type frame then lib.h264.writeRbsp dataWithoutHeader
             else dataWithoutHeader)
          let (t, reported) := t.reportEnc .ok
          ⟨t, p, some { frame with data := dataOut }, reported⟩

/-- The data without the magic bytes, if it ends in them. -/
def stripMagicBytes (magic data : Bytes) : Option Bytes :=
  if 0 < magic.length ∧ magic.length ≤ data.length ∧
      data.drop (data.length - magic.length) = magic
  then some (data.take (data.length - magic.length)) else none

/-- A received frame, cut at a given prefix length. -/
structure FrameParts where
  frameHeader : Bytes
  encryptedPayload : Bytes
  iv : Bytes
  keyIndex : Nat
deriving DecidableEq, Repr

/-- The parsing part of `decryptFrame`: header, RBSP unescaping, trailer from the
    end, IV and payload. -/
def splitFrame (h264 : H264Bitstream) (type : MediaType) (frame : TransformableFrame)
    (unencryptedBytes : Nat) : Option FrameParts :=
  if frame.data.length < unencryptedBytes then none
  else
    let frameHeader := frame.data.take unencryptedBytes
    let encryptedBuffer := frame.data.drop unencryptedBytes
    let encryptedBuffer :=
      if frameIsH264 type frame && needsRbspUnescaping encryptedBuffer
      then h264.parseRbsp encryptedBuffer else encryptedBuffer
    let size := encryptedBuffer.length
    if size < 2 then none
    else
      let ivLength := ((encryptedBuffer[size - 2]?).getD 0).toNat
      let keyIndex := ((encryptedBuffer[size - 1]?).getD 0).toNat
      if ivLength ≠ getIvSize ∨ size < 2 + ivLength + kGcmTagSize then none
      else
        some ⟨frameHeader, encryptedBuffer.take (size - ivLength - 2),
          (encryptedBuffer.drop (size - 2 - ivLength)).take ivLength, keyIndex⟩

end FrameCryptorTransformer

/-! ### Automatic ratcheting -/

/-- The `while` loop over the ratchet window: the first later material whose key
    opens the payload. -/
def ratchetAttempts (kdf : KeyDerivation) (decrypt : Bytes → Option Bytes) :
    Nat → Bytes → Option (Bytes × Bytes)
  | 0, _ => none
  | attempts + 1, currentKeyMaterial =>
    let newMaterial := kdf.ratchetKeyMaterial currentKeyMaterial
    if newMaterial.isEmpty then none
    else
      match decrypt (kdf.deriveKey newMaterial) with
      | some payload => some (newMaterial, payload)
      | none => ratchetAttempts kdf decrypt attempts newMaterial

/-- Change the handler that `GetSharedKey` gives for `participantId`. -/
def modifyHandler (p : NativeKeyProvider) (participantId : String)
    (f : KeyHandler → KeyHandler) : NativeKeyProvider :=
  match p.participantKeys[participantId]? with
  | some handler =>
    { p with participantKeys := p.participantKeys.insert participantId (f handler) }
  | none =>
    match p.sharedClones[participantId]? with
    | some handler => { p with sharedClones := p.sharedClones.insert participantId (f handler) }
    | none => p

/-- `SetHasValidKey`. -/
def setHasValidKey (p : NativeKeyProvider) (participantId : String) : NativeKeyProvider :=
  modifyHandler p participantId fun handler => { handler with hasValidKey := true }

/-- How an attempt to open a payload ended. -/
inductive Opened where
  | initial (payload : Bytes)
  | ratcheted (payload : Bytes)
  | failed
deriving DecidableEq, Repr

/-- Open with the slot's key, else with the keys of its ratchet window; a later key
    that works is installed, and if none does the initial material is put back. -/
def openWithRatchet (lib : Native) (options : CryptoOptions) (p : NativeKeyProvider)
    (participantId : String) (keySet : KeySet) (keyIndex : Nat)
    (decrypt : Bytes → Option Bytes) : Opened × NativeKeyProvider :=
  match decrypt keySet.encryptionKey with
  | some payload => (.initial payload, p)
  | none =>
    match ratchetAttempts lib.kdf decrypt options.ratchetWindowSize keySet.material with
    | some (newMaterial, payload) =>
      (.ratcheted payload,
        setHasValidKey (p.setKeyFromMaterial lib.kdf participantId newMaterial keyIndex)
          participantId)
    | none =>
      (.failed,
        if 0 < options.ratchetWindowSize
        then p.setKeyFromMaterial lib.kdf participantId keySet.material keyIndex else p)

namespace FrameCryptorTransformer

/-- The end of `decryptFrame`, once the frame is cut and the key set found. -/
def finishDecrypt (lib : Native) (options : CryptoOptions) (t : FrameCryptorTransformer)
    (p : NativeKeyProvider) (frame : TransformableFrame) (parts : FrameParts)
    (handler : KeyHandler) (keySet : KeySet) : Outcome :=
  let forward := fun (t : FrameCryptorTransformer) p payload reported =>
    let (t, more) := reportDec t .ok
    Outcome.mk t p (some { frame with data := parts.frameHeader ++ payload }) (reported ++ more)
  match openWithRatchet lib options p t.participantId keySet parts.keyIndex
      fun key => lib.aead.decrypt key parts.iv parts.frameHeader parts.encryptedPayload with
  | (.initial payload, p) => forward t p payload []
  | (.ratcheted payload, p) =>
    let (t, reported) := t.reportDec .keyRatcheted
    forward t p payload reported
  | (.failed, p) =>
    let (report, handler) := lib.decryptionFailure handler
    let p := modifyHandler p t.participantId
      fun current => { current with hasValidKey := handler.hasValidKey }
    if report then t.dropDec p .decryptionFailed else ⟨t, p, none, []⟩

/-- `decryptFrame`. -/
def decryptFrame (lib : Native) (options : CryptoOptions) (t : FrameCryptorTransformer)
    (p : NativeKeyProvider) (frame : TransformableFrame) : Outcome :=
  if !t.hasSink frame.ssrc then t.dropDec p .internalError
  else if frame.data.isEmpty then ⟨t, p, none, []⟩
  else if !t.enabledCryption then ⟨t, p, some frame, []⟩
  else
    match stripMagicBytes options.uncryptedMagicBytes frame.data with
    | some data => ⟨t, p, some { frame with data := data }, []⟩
    | none =>
      match splitFrame lib.h264 t.type frame (getUnencryptedBytes lib.h264 t.type frame) with
      | none => t.dropDec p .decryptionFailed
      | some parts =>
        let (handler, p) := p.getSharedKey t.participantId
        match handler with
        | none => t.dropDec p .missingKey
        | some handler =>
          match handler.getKeySet p.heap parts.keyIndex with
          | none => t.dropDec p .missingKey
          | some keySet =>
            if p.keyRingSize ≤ parts.keyIndex then t.dropDec p .missingKey
            else if t.lastDecError = .decryptionFailed ∧ !handler.hasValidKey then
              ⟨t, p, none, []⟩
            else t.finishDecrypt lib options p frame parts handler keySet

end FrameCryptorTransformer

/-! ## 4. The clear prefix

`clearPrefix` is the length that `get_unencrypted_bytes` is after, before it is cut
to eight bits.  The receiver computes it from the encrypted frame, which agrees
with the original one up to the prefix and has no start code behind it. -/

def firstSlice (h264 : H264Bitstream) (data : Bytes) : Option Nat :=
  (h264.findNaluIndices data).find? (isSliceNalu h264 data)

def clearPrefix (h264 : H264Bitstream) (type : MediaType) (frame : TransformableFrame) : Nat :=
  match type with
  | .audioFrame => 1
  | .videoFrame =>
    match frame.codec with
    | .av1 => 0
    | .vp8 => if frame.isKeyFrame then 10 else 3
    | .h264 => ((firstSlice h264 frame.data).map (· + 2)).getD 0
    | _ => 0

theorem getUnencryptedBytes_eq (h264 : H264Bitstream) (type : MediaType)
    (frame : TransformableFrame) :
    getUnencryptedBytes h264 type frame = clearPrefix h264 type frame % 2 ^ 8 := by
  unfold getUnencryptedBytes clearPrefix firstSlice
  cases type with
  | audioFrame => rfl
  | videoFrame =>
    cases frame.codec with
    | vp8 => cases frame.isKeyFrame <;> rfl
    | h264 =>
      cases (h264.findNaluIndices frame.data).find? (isSliceNalu h264 frame.data) <;> rfl
    | _ => rfl

/-- A slice NAL unit whose payload starts at `k`. -/
def IsSliceAt (h264 : H264Bitstream) (data : Bytes) (k : Nat) : Prop :=
  (∃ i, k = i + 3 ∧ EmulationPrevention.StartCodeAt data i) ∧ isSliceNalu h264 data k = true

theorem lt_length_of_isSliceNalu {h264 : H264Bitstream} {data : Bytes} {k : Nat}
    (hslice : isSliceNalu h264 data k = true) : k < data.length := by
  by_contra hge
  rw [isSliceNalu, List.getElem?_eq_none (by omega)] at hslice
  simp at hslice

theorem isSliceAt_iff {h264 : H264Bitstream} (hlawful : h264.Lawful) (data : Bytes) (k : Nat) :
    IsSliceAt h264 data k ↔ k ∈ h264.findNaluIndices data ∧ isSliceNalu h264 data k = true := by
  rw [hlawful.mem_findNaluIndices]
  constructor
  · rintro ⟨⟨i, rfl, hcode⟩, hslice⟩
    exact ⟨⟨i, rfl, hcode, lt_length_of_isSliceNalu hslice⟩, hslice⟩
  · rintro ⟨⟨i, rfl, hcode, -⟩, hslice⟩
    exact ⟨⟨i, rfl, hcode⟩, hslice⟩

theorem firstSlice_eq_none {h264 : H264Bitstream} (hlawful : h264.Lawful) {data : Bytes} :
    firstSlice h264 data = none ↔ ∀ k, ¬ IsSliceAt h264 data k := by
  rw [firstSlice, List.find?_eq_none]
  constructor
  · intro hnone k hslice
    rw [isSliceAt_iff hlawful] at hslice
    exact hnone k hslice.1 hslice.2
  · intro hnone k hmem hslice
    exact hnone k ((isSliceAt_iff hlawful data k).mpr ⟨hmem, hslice⟩)

/-- The indices come in order, so the first one found is the smallest. -/
theorem firstSlice_spec {h264 : H264Bitstream} (hlawful : h264.Lawful) {data : Bytes} {k : Nat}
    (hfirst : firstSlice h264 data = some k) :
    IsSliceAt h264 data k ∧ ∀ j, j < k → ¬ IsSliceAt h264 data j := by
  rw [firstSlice, List.find?_eq_some_iff_append] at hfirst
  obtain ⟨hslice, before, after, hsplit, hbefore⟩ := hfirst
  have hmem : k ∈ h264.findNaluIndices data := by simp [hsplit]
  refine ⟨(isSliceAt_iff hlawful data k).mpr ⟨hmem, hslice⟩, ?_⟩
  intro j hlt hj
  obtain ⟨hjmem, hjslice⟩ := (isSliceAt_iff hlawful data j).mp hj
  have hsorted := hlawful.sorted_findNaluIndices data
  rw [hsplit, List.pairwise_append, List.pairwise_cons] at hsorted
  rw [hsplit, List.mem_append, List.mem_cons] at hjmem
  rcases hjmem with hjbefore | rfl | hjafter
  · simpa [hjslice] using hbefore j hjbefore
  · exact Nat.lt_irrefl _ hlt
  · exact Nat.lt_asymm hlt (hsorted.2.1.1 j hjafter)

theorem firstSlice_of_first {h264 : H264Bitstream} (hlawful : h264.Lawful) {data : Bytes}
    {k : Nat} (hslice : IsSliceAt h264 data k) (hleast : ∀ j, j < k → ¬ IsSliceAt h264 data j) :
    firstSlice h264 data = some k := by
  cases hfirst : firstSlice h264 data with
  | none => exact absurd hslice ((firstSlice_eq_none hlawful).mp hfirst k)
  | some j =>
    obtain ⟨hj, hjleast⟩ := firstSlice_spec hlawful hfirst
    rcases Nat.lt_trichotomy j k with hlt | rfl | hlt
    · exact absurd hj (hleast j hlt)
    · rfl
    · exact absurd hslice (hjleast k hlt)

/-- A slice is recognised by the bytes up to its own header. -/
theorem isSliceAt_congr {h264 : H264Bitstream} {data data' : Bytes} {k : Nat}
    (hsame : ∀ i, i ≤ k → data[i]? = data'[i]?) (hslice : IsSliceAt h264 data k) :
    IsSliceAt h264 data' k := by
  obtain ⟨⟨i, rfl, h0, h1, h2⟩, hnalu⟩ := hslice
  refine ⟨⟨i, rfl, ?_, ?_, ?_⟩, ?_⟩
  · rw [← hsame i (by omega)]
    exact h0
  · rw [← hsame (i + 1) (by omega)]
    exact h1
  · rw [← hsame (i + 2) (by omega)]
    exact h2
  · rw [isSliceNalu, ← hsame (i + 3) (Nat.le_refl _)]
    exact hnalu

/-- Behind the prefix there is no start code, so a slice found behind it starts
    within the prefix. -/
theorem isSliceAt_append_lt {h264 : H264Bitstream} {front body : Bytes}
    (hbody : ∀ i, ¬ EmulationPrevention.StartCodeAt body i) {k : Nat}
    (hslice : IsSliceAt h264 (front ++ body) k) : k < front.length + 3 := by
  obtain ⟨⟨i, rfl, hcode⟩, -⟩ := hslice
  by_contra hge
  obtain ⟨offset, rfl⟩ : ∃ offset, i = front.length + offset :=
    ⟨i - front.length, by omega⟩
  apply hbody offset
  simpa [EmulationPrevention.StartCodeAt, Nat.add_assoc, List.getElem?_append_right] using hcode

theorem getElem?_take_append {data body : Bytes} {n i : Nat} (hi : i < n) (hn : n ≤ data.length) :
    (data.take n ++ body)[i]? = data[i]? := by
  rw [List.getElem?_append_left (by simp; omega), List.getElem?_take_of_lt hi]

section SlicePrefix

variable {h264 : H264Bitstream} {data body : Bytes}

/-- A payload that was sent without clear prefix has no slice in it. -/
theorem firstSlice_body (hlawful : h264.Lawful)
    (hbody : ∀ i, ¬ EmulationPrevention.StartCodeAt body i) :
    firstSlice h264 body = none := by
  rw [firstSlice_eq_none hlawful]
  rintro k ⟨⟨i, -, hcode⟩, -⟩
  exact hbody i hcode

/-- With the whole prefix in front the receiver finds the same slice. -/
theorem firstSlice_take_append (hlawful : h264.Lawful) {k : Nat}
    (hfirst : firstSlice h264 data = some k) (hlen : k + 2 ≤ data.length) :
    firstSlice h264 (data.take (k + 2) ++ body) = some k := by
  obtain ⟨hslice, hleast⟩ := firstSlice_spec hlawful hfirst
  have hsame : ∀ i, i ≤ k → data[i]? = (data.take (k + 2) ++ body)[i]? := by
    intro i hi
    rw [getElem?_take_append (by omega) hlen]
  apply firstSlice_of_first hlawful (isSliceAt_congr hsame hslice)
  intro j hj hslice'
  refine hleast j hj (isSliceAt_congr ?_ hslice')
  intro i hi
  exact (hsame i (by omega)).symm

/-- With a shorter prefix in front the receiver does not arrive at its length: a
    slice can only show up across the cut, and two bytes further the prefix would
    have had to end elsewhere. -/
theorem firstSlice_short_prefix (hlawful : h264.Lawful)
    (hbody : ∀ i, ¬ EmulationPrevention.StartCodeAt body i) {k n : Nat}
    (hfirst : firstSlice h264 data = some k) (hn : n ≤ k) (hpos : 0 < n) (hsmall : n < 2 ^ 8) :
    (((firstSlice h264 (data.take n ++ body)).map (· + 2)).getD 0) % 2 ^ 8 ≠ n := by
  obtain ⟨hslice, hleast⟩ := firstSlice_spec hlawful hfirst
  have hklen := lt_length_of_isSliceNalu hslice.2
  cases hfound : firstSlice h264 (data.take n ++ body) with
  | none =>
    simp only [Option.map_none, Option.getD_none]
    omega
  | some j =>
    obtain ⟨hj, -⟩ := firstSlice_spec hlawful hfound
    have hlt : j < n + 3 := by
      have hbound := isSliceAt_append_lt hbody hj
      simp only [List.length_take] at hbound
      omega
    have hge : n ≤ j := by
      by_contra hjn
      refine hleast j (by omega) (isSliceAt_congr ?_ hj)
      intro i hi
      exact getElem?_take_append (by omega) (by omega)
    simp only [Option.map_some, Option.getD_some]
    omega

end SlicePrefix

/-- The sender's prefix length is found again if it was not cut, or cut to zero. -/
theorem getUnencryptedBytes_sealed {h264 : H264Bitstream} (hlawful : h264.Lawful)
    {type : MediaType} {frame : TransformableFrame} {body : Bytes}
    (hbody : frameIsH264 type frame = true → ∀ i, ¬ EmulationPrevention.StartCodeAt body i)
    (hlen : clearPrefix h264 type frame ≤ frame.data.length)
    (hfits : clearPrefix h264 type frame < 2 ^ 8 ∨ clearPrefix h264 type frame % 2 ^ 8 = 0) :
    getUnencryptedBytes h264 type { frame with
        data := frame.data.take (getUnencryptedBytes h264 type frame) ++ body } =
      getUnencryptedBytes h264 type frame := by
  simp only [getUnencryptedBytes_eq]
  cases type with
  | audioFrame => rfl
  | videoFrame =>
    cases hcodec : frame.codec with
    | h264 =>
      simp only [clearPrefix, hcodec] at hlen hfits ⊢
      have hbody' := hbody (by simp [frameIsH264, hcodec])
      cases hfirst : firstSlice h264 frame.data with
      | none => simp [firstSlice_body hlawful hbody']
      | some k =>
        simp only [hfirst, Option.map_some, Option.getD_some] at hlen hfits ⊢
        rcases hfits with hsmall | hzero
        · rw [Nat.mod_eq_of_lt hsmall, firstSlice_take_append hlawful hfirst hlen]
          simp only [Option.map_some, Option.getD_some]
          exact Nat.mod_eq_of_lt hsmall
        · rw [hzero]
          simp [firstSlice_body hlawful hbody']
    | _ => simp [clearPrefix, hcodec]

/-- Otherwise the receiver arrives at another length. -/
theorem getUnencryptedBytes_cut {h264 : H264Bitstream} (hlawful : h264.Lawful)
    {type : MediaType} {frame : TransformableFrame} {body : Bytes}
    (hbody : frameIsH264 type frame = true → ∀ i, ¬ EmulationPrevention.StartCodeAt body i)
    (hcut : ¬ (clearPrefix h264 type frame < 2 ^ 8 ∨ clearPrefix h264 type frame % 2 ^ 8 = 0)) :
    getUnencryptedBytes h264 type { frame with
        data := frame.data.take (getUnencryptedBytes h264 type frame) ++ body } ≠
      getUnencryptedBytes h264 type frame := by
  simp only [getUnencryptedBytes_eq]
  cases type with
  | audioFrame => simp [clearPrefix] at hcut
  | videoFrame =>
    cases hcodec : frame.codec with
    | h264 =>
      simp only [clearPrefix, hcodec] at hcut ⊢
      have hbody' := hbody (by simp [frameIsH264, hcodec])
      cases hfirst : firstSlice h264 frame.data with
      | none => simp [hfirst] at hcut
      | some k =>
        simp only [hfirst, Option.map_some, Option.getD_some] at hcut ⊢
        have hbound : (k + 2) % 2 ^ 8 < 2 ^ 8 := Nat.mod_lt _ (by decide)
        exact firstSlice_short_prefix hlawful hbody' hfirst (by omega) (by omega) hbound
    | vp8 => cases hkey : frame.isKeyFrame <;> simp [clearPrefix, hcodec, hkey] at hcut
    | _ => simp [clearPrefix, hcodec] at hcut

/-! ## 5. The round trip of a frame -/

theorem length_makeIv (t : FrameCryptorTransformer) (ssrc timestamp : UInt32) :
    (t.makeIv ssrc timestamp).1.length = getIvSize := rfl

theorem needsRbspUnescaping_of_mark {data : Bytes} {i : Nat}
    (hmark : EmulationPrevention.MarkAt data i) : needsRbspUnescaping data = true := by
  obtain ⟨h0, h1, h2, hlt⟩ := hmark
  have hlong : ¬ data.length < 3 := by omega
  simp only [needsRbspUnescaping, hlong, if_false, List.any_eq_true, List.mem_range]
  exact ⟨i, by omega, by simp [h0, h1, h2]⟩

/-- Unescaping gives back what the sender wrote, whether or not it is needed. -/
theorem unescape_written {h264 : H264Bitstream} (hlawful : h264.Lawful) (body : Bytes) :
    (if needsRbspUnescaping (h264.writeRbsp body) then h264.parseRbsp (h264.writeRbsp body)
     else h264.writeRbsp body) = body := by
  by_cases hneeds : needsRbspUnescaping (h264.writeRbsp body) = true
  · rw [if_pos hneeds]
    exact hlawful.parse_write body
  · rw [if_neg hneeds]
    rcases hlawful.write_eq_or_mark body with heq | ⟨i, hmark⟩
    · exact heq
    · exact absurd (needsRbspUnescaping_of_mark hmark) hneeds

/-- What `encryptFrame` puts behind the clear prefix. -/
def sealedBody (h264 : H264Bitstream) (type : MediaType) (frame : TransformableFrame)
    (dataWithoutHeader : Bytes) : Bytes :=
  if frameIsH264 type frame then h264.writeRbsp dataWithoutHeader else dataWithoutHeader

theorem sealedBody_no_startCode {h264 : H264Bitstream} (hlawful : h264.Lawful)
    {type : MediaType} {frame : TransformableFrame} (body : Bytes)
    (hh264 : frameIsH264 type frame = true) (i : Nat) :
    ¬ EmulationPrevention.StartCodeAt (sealedBody h264 type frame body) i := by
  rw [sealedBody, if_pos hh264]
  exact hlawful.no_startCode body i

/-- The payload with IV and trailer behind it. -/
def dataWithoutHeader (sealed iv : Bytes) (keyIndex : Nat) : Bytes :=
  sealed ++ iv ++ [getIvSize.toUInt8, keyIndex.toUInt8]

/-- The frame that `encryptFrame` forwards, given the sealed payload. -/
def sealedFrame (h264 : H264Bitstream) (t : FrameCryptorTransformer) (frame : TransformableFrame)
    (sealed : Bytes) : TransformableFrame :=
  { frame with
    data := frame.data.take (getUnencryptedBytes h264 t.type frame) ++
      sealedBody h264 t.type frame (dataWithoutHeader sealed
        (t.makeIv frame.ssrc frame.timestamp).1 t.keyIndex) }

section Trailer

variable {sealed iv : Bytes} {keyIndex : Nat} (hiv : iv.length = getIvSize)
include hiv

theorem length_dataWithoutHeader :
    (dataWithoutHeader sealed iv keyIndex).length = sealed.length + 14 := by
  simp [dataWithoutHeader, hiv, getIvSize]

theorem getElem?_ivSize : (dataWithoutHeader sealed iv keyIndex)[sealed.length + 12]? =
    some getIvSize.toUInt8 := by
  rw [dataWithoutHeader, List.getElem?_append_right (by simp [hiv, getIvSize])]
  simp [hiv, getIvSize]

theorem getElem?_keyIndex : (dataWithoutHeader sealed iv keyIndex)[sealed.length + 13]? =
    some keyIndex.toUInt8 := by
  rw [dataWithoutHeader, List.getElem?_append_right (by simp [hiv, getIvSize])]
  simp [hiv, getIvSize]

theorem iv_of_dataWithoutHeader :
    ((dataWithoutHeader sealed iv keyIndex).drop sealed.length).take 12 = iv := by
  have h12 : 12 = iv.length := hiv.symm
  rw [dataWithoutHeader, List.append_assoc, List.drop_left, h12, List.take_left]

end Trailer

/-- Cutting a sealed frame where it was sealed gives its parts back. -/
theorem splitFrame_sealed {h264 : H264Bitstream} (hlawful : h264.Lawful) (type : MediaType)
    (frame : TransformableFrame) (header : Bytes) {sealed iv : Bytes} {keyIndex : Nat}
    (hiv : iv.length = getIvSize) (hsealed : kGcmTagSize ≤ sealed.length)
    (hindex : keyIndex < 2 ^ 8) :
    FrameCryptorTransformer.splitFrame h264 type { frame with
        data := header ++ sealedBody h264 type frame (dataWithoutHeader sealed iv keyIndex) }
        header.length = some ⟨header, sealed, iv, keyIndex⟩ := by
  set body := dataWithoutHeader sealed iv keyIndex with hbodyDef
  have hunescape :
      (if frameIsH264 type frame && needsRbspUnescaping (sealedBody h264 type frame body)
        then h264.parseRbsp (sealedBody h264 type frame body)
        else sealedBody h264 type frame body) = body := by
    by_cases hh264 : frameIsH264 type frame = true
    · simpa [sealedBody, hh264] using unescape_written hlawful body
    · simp [sealedBody, hh264]
  have hmeta : ∀ data, frameIsH264 type { frame with data := data } = frameIsH264 type frame :=
    fun _ => rfl
  have hlength : body.length = sealed.length + 14 := length_dataWithoutHeader hiv
  have hlong : ¬ (header ++ sealedBody h264 type frame body).length < header.length := by simp
  have hivByte : (getIvSize.toUInt8).toNat = 12 := rfl
  have hkeyByte : keyIndex.toUInt8.toNat = keyIndex := by
    simpa [Nat.toUInt8] using Nat.mod_eq_of_lt hindex
  have hpayload : body.take sealed.length = sealed := by
    rw [hbodyDef, dataWithoutHeader, List.append_assoc, List.take_left]
  have hivAt : body[sealed.length + 12]? = some getIvSize.toUInt8 := getElem?_ivSize hiv
  have hkeyAt : body[sealed.length + 13]? = some keyIndex.toUInt8 := getElem?_keyIndex hiv
  have hivCut : (body.drop sealed.length).take 12 = iv := iv_of_dataWithoutHeader hiv
  have hshort : ¬ (12 ≠ getIvSize ∨ sealed.length + 14 < 2 + 12 + kGcmTagSize) := by
    simp only [getIvSize, kGcmTagSize] at hsealed ⊢
    omega
  unfold FrameCryptorTransformer.splitFrame
  simp only [List.take_left, List.drop_left, hmeta, hunescape, hlength]
  rw [if_neg hlong, if_neg (by omega)]
  simp only [Nat.add_sub_cancel, Nat.reduceSubDiff, hivAt, hkeyAt, Option.getD_some, hivByte,
    hkeyByte, hpayload, hivCut]
  rw [if_neg hshort]

/-- The provider has `key` as the encryption key of slot `index` for the participant. -/
structure HoldsKey (p : NativeKeyProvider) (participantId : String) (index : Nat)
    (key : Bytes) (handler : KeyHandler) (keySet : KeySet) : Prop where
  handler_eq : (p.getSharedKey participantId).1 = some handler
  keySet_eq : handler.getKeySet (p.getSharedKey participantId).2.heap index = some keySet
  key_eq : keySet.encryptionKey = key

structure SenderReady (t : FrameCryptorTransformer) (p : NativeKeyProvider) (ssrc : UInt32)
    (key : Bytes) : Prop where
  enabled : t.enabledCryption = true
  sink : t.hasSink ssrc = true
  holds : ∃ handler keySet, HoldsKey p t.participantId t.keyIndex key handler keySet
  keySize : validKeySize key.length = true

/-- The receiver holds the key in slot `index`. -/
structure ReceiverReady (options : CryptoOptions) (t : FrameCryptorTransformer)
    (p : NativeKeyProvider) (ssrc : UInt32) (index : Nat) (key : Bytes) : Prop where
  enabled : t.enabledCryption = true
  sink : t.hasSink ssrc = true
  holds : ∃ handler keySet, HoldsKey p t.participantId index key handler keySet
  index_lt : index < p.keyRingSize
  keyRingSize_le : p.keyRingSize ≤ 2 ^ 8
  noMagicBytes : options.uncryptedMagicBytes = []

theorem getSharedKey_keyRingSize (p : NativeKeyProvider) (participantId : String) :
    (p.getSharedKey participantId).2.keyRingSize = p.keyRingSize := by
  unfold NativeKeyProvider.getSharedKey
  split
  · rfl
  · split
    · rfl
    · split <;> rfl

/-- A ready sender forwards the sealed frame. -/
theorem encryptFrame_forwarded {lib : Native} (haead : lib.aead.Lawful)
    {t : FrameCryptorTransformer} {p : NativeKeyProvider} {frame : TransformableFrame}
    {key : Bytes} (hready : SenderReady t p frame.ssrc key) (hdata : frame.data ≠ [])
    (hlen : getUnencryptedBytes lib.h264 t.type frame ≤ frame.data.length) :
    ∃ sealed,
      lib.aead.sealData key (t.makeIv frame.ssrc frame.timestamp).1
        (frame.data.take (getUnencryptedBytes lib.h264 t.type frame))
        (frame.data.drop (getUnencryptedBytes lib.h264 t.type frame)) = some sealed ∧
      (t.encryptFrame lib p frame).forwarded =
        some (sealedFrame lib.h264 t frame sealed) := by
  obtain ⟨handler, keySet, hholds⟩ := hready.holds
  obtain ⟨sealed, hsealed⟩ := haead.seal_some key (t.makeIv frame.ssrc frame.timestamp).1
    (frame.data.take (getUnencryptedBytes lib.h264 t.type frame))
    (frame.data.drop (getUnencryptedBytes lib.h264 t.type frame)) hready.keySize
  refine ⟨sealed, hsealed, ?_⟩
  have hempty : frame.data.isEmpty = false := by simpa using hdata
  have hshort : ¬ frame.data.length < getUnencryptedBytes lib.h264 t.type frame := by omega
  have hencrypt : lib.aead.encrypt keySet.encryptionKey
      (t.makeIv frame.ssrc frame.timestamp).1
      (frame.data.take (getUnencryptedBytes lib.h264 t.type frame))
      (frame.data.drop (getUnencryptedBytes lib.h264 t.type frame)) = some sealed := by
    rw [hholds.key_eq, Aead.encrypt, if_pos hready.keySize]
    exact hsealed
  simp only [FrameCryptorTransformer.encryptFrame, hready.sink, hempty, hready.enabled,
    Bool.not_true, Bool.false_eq_true, if_false, hholds.handler_eq, Option.bind_some,
    hholds.keySet_eq, hshort, hencrypt]
  rfl

/-- A ready receiver gets as far as opening the parts it cut the frame into. -/
theorem decryptFrame_eq {lib : Native} {options : CryptoOptions} {t : FrameCryptorTransformer}
    {p : NativeKeyProvider} {frame : TransformableFrame} (henabled : t.enabledCryption = true)
    (hsink : t.hasSink frame.ssrc = true) (hmagic : options.uncryptedMagicBytes = [])
    (hdata : frame.data ≠ []) :
    t.decryptFrame lib options p frame =
      match FrameCryptorTransformer.splitFrame lib.h264 t.type frame
          (getUnencryptedBytes lib.h264 t.type frame) with
      | none => t.dropDec p .decryptionFailed
      | some parts =>
        match (p.getSharedKey t.participantId).1 with
        | none => t.dropDec (p.getSharedKey t.participantId).2 .missingKey
        | some handler =>
          match handler.getKeySet (p.getSharedKey t.participantId).2.heap parts.keyIndex with
          | none => t.dropDec (p.getSharedKey t.participantId).2 .missingKey
          | some keySet =>
            if (p.getSharedKey t.participantId).2.keyRingSize ≤ parts.keyIndex then
              t.dropDec (p.getSharedKey t.participantId).2 .missingKey
            else if t.lastDecError = .decryptionFailed ∧ !handler.hasValidKey then
              ⟨t, (p.getSharedKey t.participantId).2, none, []⟩
            else t.finishDecrypt lib options (p.getSharedKey t.participantId).2 frame parts
              handler keySet := by
  have hempty : frame.data.isEmpty = false := by simpa using hdata
  have hstrip : FrameCryptorTransformer.stripMagicBytes options.uncryptedMagicBytes frame.data =
      none := by
    rw [hmagic, FrameCryptorTransformer.stripMagicBytes, if_neg]
    rintro ⟨hpos, -⟩
    exact Nat.lt_irrefl 0 hpos
  simp only [FrameCryptorTransformer.decryptFrame, hsink, hempty, henabled, Bool.not_true,
    Bool.false_eq_true, if_false, hstrip]

/-- The keys of the ratchet window behind a key material. -/
def windowKeys (kdf : KeyDerivation) : Nat → Bytes → List Bytes
  | 0, _ => []
  | attempts + 1, currentKeyMaterial =>
    let newMaterial := kdf.ratchetKeyMaterial currentKeyMaterial
    if newMaterial.isEmpty then []
    else kdf.deriveKey newMaterial :: windowKeys kdf attempts newMaterial

/-- The keys that a receiver tries: that of the slot, and those of its ratchet window. -/
def triedKeys (kdf : KeyDerivation) (options : CryptoOptions) (keySet : KeySet) : List Bytes :=
  keySet.encryptionKey :: windowKeys kdf options.ratchetWindowSize keySet.material

theorem ratchetAttempts_none {decrypt : Bytes → Option Bytes} {kdf : KeyDerivation}
    {attempts : Nat} {material : Bytes}
    (hreject : ∀ key ∈ windowKeys kdf attempts material, decrypt key = none) :
    ratchetAttempts kdf decrypt attempts material = none := by
  induction attempts generalizing material with
  | zero => rfl
  | succ attempts ih =>
    simp only [windowKeys] at hreject
    simp only [ratchetAttempts]
    split
    · rfl
    · rename_i hderived
      simp only [if_neg hderived, List.forall_mem_cons] at hreject
      simp only [hreject.1]
      exact ih hreject.2

theorem openWithRatchet_failed {decrypt : Bytes → Option Bytes} {lib : Native}
    {options : CryptoOptions} {keySet : KeySet}
    (hreject : ∀ key ∈ triedKeys lib.kdf options keySet, decrypt key = none)
    (p : NativeKeyProvider) (participantId : String) (keyIndex : Nat) :
    (openWithRatchet lib options p participantId keySet keyIndex decrypt).1 = .failed := by
  obtain ⟨hslot, hwindow⟩ := List.forall_mem_cons.1 hreject
  simp only [openWithRatchet, hslot, ratchetAttempts_none hwindow]

theorem sealedBody_ne_nil {h264 : H264Bitstream} (hlawful : h264.Lawful) {type : MediaType}
    {frame : TransformableFrame} {body : Bytes} (hbody : body ≠ []) :
    sealedBody h264 type frame body ≠ [] := by
  unfold sealedBody
  split
  · rcases hlawful.write_eq_or_mark body with heq | ⟨i, -, -, -, hlt⟩
    · rwa [heq]
    · exact List.ne_nil_of_length_pos (by omega)
  · exact hbody

theorem sealedFrame_ne_nil {h264 : H264Bitstream} (hlawful : h264.Lawful)
    (t : FrameCryptorTransformer) (frame : TransformableFrame) (sealed : Bytes) :
    (sealedFrame h264 t frame sealed).data ≠ [] := by
  have hbody : sealedBody h264 t.type frame (dataWithoutHeader sealed
      (t.makeIv frame.ssrc frame.timestamp).1 t.keyIndex) ≠ [] :=
    sealedBody_ne_nil hlawful (by simp [dataWithoutHeader])
  simp [sealedFrame, hbody]

/-- If no key that is tried opens the parts, nothing is forwarded. -/
theorem finishDecrypt_rejects {lib : Native} {options : CryptoOptions}
    {t : FrameCryptorTransformer} {p : NativeKeyProvider} {frame : TransformableFrame}
    {parts : FrameCryptorTransformer.FrameParts} {handler : KeyHandler} {keySet : KeySet}
    (hreject : ∀ key ∈ triedKeys lib.kdf options keySet,
      lib.aead.openData key parts.iv parts.frameHeader parts.encryptedPayload = none) :
    (t.finishDecrypt lib options p frame parts handler keySet).forwarded = none := by
  have hdecrypt : ∀ key ∈ triedKeys lib.kdf options keySet,
      lib.aead.decrypt key parts.iv parts.frameHeader parts.encryptedPayload = none := by
    intro key hkey
    simp only [Aead.decrypt, hreject key hkey]
    split <;> simp
  rcases hopened : openWithRatchet lib options p t.participantId keySet parts.keyIndex
      (fun key => lib.aead.decrypt key parts.iv parts.frameHeader parts.encryptedPayload)
    with ⟨opened, q⟩
  have hfailed : opened = .failed := by
    rw [← openWithRatchet_failed hdecrypt p t.participantId parts.keyIndex, hopened]
  subst hfailed
  simp only [FrameCryptorTransformer.finishDecrypt, hopened]
  split <;> rfl

/-- If the slot's key opens the parts, the payload is forwarded behind the header. -/
theorem finishDecrypt_opens {lib : Native} {options : CryptoOptions}
    {t : FrameCryptorTransformer} {p : NativeKeyProvider} {frame : TransformableFrame}
    {parts : FrameCryptorTransformer.FrameParts} {handler : KeyHandler} {keySet : KeySet}
    {payload : Bytes}
    (hopen : lib.aead.decrypt keySet.encryptionKey parts.iv parts.frameHeader
      parts.encryptedPayload = some payload) :
    (t.finishDecrypt lib options p frame parts handler keySet).forwarded =
      some { frame with data := parts.frameHeader ++ payload } := by
  simp only [FrameCryptorTransformer.finishDecrypt, openWithRatchet, hopen]

/-- None of the keys that the receiver tries opens the parts. -/
def FrameCryptorTransformer.Rejects (t : FrameCryptorTransformer) (lib : Native)
    (options : CryptoOptions) (p : NativeKeyProvider)
    (parts : FrameCryptorTransformer.FrameParts) : Prop :=
  ∀ handler keySet, (p.getSharedKey t.participantId).1 = some handler →
    handler.getKeySet (p.getSharedKey t.participantId).2.heap parts.keyIndex = some keySet →
      ∀ key ∈ triedKeys lib.kdf options keySet,
        lib.aead.openData key parts.iv parts.frameHeader parts.encryptedPayload = none

theorem decryptFrame_rejects {lib : Native} {options : CryptoOptions}
    {t : FrameCryptorTransformer} {p : NativeKeyProvider} {frame : TransformableFrame}
    (henabled : t.enabledCryption = true) (hsink : t.hasSink frame.ssrc = true)
    (hmagic : options.uncryptedMagicBytes = []) (hdata : frame.data ≠ [])
    (hreject : ∀ parts, FrameCryptorTransformer.splitFrame lib.h264 t.type frame
        (getUnencryptedBytes lib.h264 t.type frame) = some parts →
      t.Rejects lib options p parts) :
    (t.decryptFrame lib options p frame).forwarded = none := by
  rw [decryptFrame_eq henabled hsink hmagic hdata]
  cases hsplit : FrameCryptorTransformer.splitFrame lib.h264 t.type frame
      (getUnencryptedBytes lib.h264 t.type frame) with
  | none => rfl
  | some parts =>
    dsimp only
    split
    · rfl
    · rename_i handler hhandler
      split
      · rfl
      · rename_i keySet hkeySet
        split
        · rfl
        · split
          · rfl
          · exact finishDecrypt_rejects (hreject parts hsplit handler keySet hhandler hkeySet)

/-- `decryptFrame` undoes `encryptFrame` on this frame; an empty frame is discarded
    by the sender. -/
def RoundTrip (lib : Native) (options : CryptoOptions) (sender : FrameCryptorTransformer)
    (senderKeys : NativeKeyProvider) (receiver : FrameCryptorTransformer)
    (receiverKeys : NativeKeyProvider) (frame : TransformableFrame) : Prop :=
  (frame.data ≠ [] → (sender.encryptFrame lib senderKeys frame).forwarded.isSome = true) ∧
    ∀ encrypted, (sender.encryptFrame lib senderKeys frame).forwarded = some encrypted →
      (receiver.decryptFrame lib options receiverKeys encrypted).forwarded = some frame

/-- The receiver has not given up on its keys after earlier failures. -/
def KeysUsable (receiver : FrameCryptorTransformer) (receiverKeys : NativeKeyProvider) : Prop :=
  receiver.lastDecError = .decryptionFailed →
    ∀ handler, (receiverKeys.getSharedKey receiver.participantId).1 = some handler →
      handler.hasValidKey = true

/-- The clear prefix fits into eight bits or is cut to nothing, and the receiver tries
    its keys on what comes. -/
def Restorable (lib : Native) (receiver : FrameCryptorTransformer)
    (receiverKeys : NativeKeyProvider) (frame : TransformableFrame) : Prop :=
  (clearPrefix lib.h264 receiver.type frame < 2 ^ 8 ∨
      clearPrefix lib.h264 receiver.type frame % 2 ^ 8 = 0) ∧
    (frame.data = [] ∨ KeysUsable receiver receiverKeys)

/-- Authenticity, for one encrypted frame: if the receiver cuts it at another place than
    where it was sealed, none of the keys that it tries opens it. -/
def RejectsOtherCut (lib : Native) (options : CryptoOptions) (sender : FrameCryptorTransformer)
    (senderKeys : NativeKeyProvider) (receiver : FrameCryptorTransformer)
    (receiverKeys : NativeKeyProvider) (frame : TransformableFrame) : Prop :=
  ∀ encrypted, (sender.encryptFrame lib senderKeys frame).forwarded = some encrypted →
    getUnencryptedBytes lib.h264 receiver.type encrypted ≠
        getUnencryptedBytes lib.h264 sender.type frame →
      ∀ parts, FrameCryptorTransformer.splitFrame lib.h264 receiver.type encrypted
          (getUnencryptedBytes lib.h264 receiver.type encrypted) = some parts →
        receiver.Rejects lib options receiverKeys parts

section RoundTripOfAFrame

variable {lib : Native} (haead : lib.aead.Lawful) (hh264 : lib.h264.Lawful)
  {options : CryptoOptions} {sender receiver : FrameCryptorTransformer}
  {senderKeys receiverKeys : NativeKeyProvider} {frame : TransformableFrame} {key : Bytes}
  (hsender : SenderReady sender senderKeys frame.ssrc key)
  (hreceiver : ReceiverReady options receiver receiverKeys frame.ssrc sender.keyIndex key)
  (htype : receiver.type = sender.type)
  (hlen : clearPrefix lib.h264 sender.type frame ≤ frame.data.length)
include haead hh264 hsender hreceiver htype hlen

/-- What the receiver does with the frame if it finds the prefix again. -/
theorem decryptFrame_sealed {sealed : Bytes}
    (hsealed : lib.aead.sealData key (sender.makeIv frame.ssrc frame.timestamp).1
      (frame.data.take (getUnencryptedBytes lib.h264 sender.type frame))
      (frame.data.drop (getUnencryptedBytes lib.h264 sender.type frame)) = some sealed)
    (hfits : clearPrefix lib.h264 receiver.type frame < 2 ^ 8 ∨
      clearPrefix lib.h264 receiver.type frame % 2 ^ 8 = 0) :
    ∃ handler, (receiverKeys.getSharedKey receiver.participantId).1 = some handler ∧
      (receiver.decryptFrame lib options receiverKeys
        (sealedFrame lib.h264 sender frame sealed)).forwarded =
          if receiver.lastDecError = .decryptionFailed ∧ !handler.hasValidKey then none
          else some frame := by
  have hshort : getUnencryptedBytes lib.h264 sender.type frame ≤ frame.data.length := by
    rw [getUnencryptedBytes_eq]
    exact Nat.le_trans (Nat.mod_le _ _) hlen
  have htag : kGcmTagSize ≤ sealed.length := by
    rw [haead.length_seal _ _ _ _ _ hsealed]
    omega
  have hindex : sender.keyIndex < 2 ^ 8 :=
    Nat.lt_of_lt_of_le hreceiver.index_lt hreceiver.keyRingSize_le
  -- the receiver cuts the frame where it was sealed
  have hprefix : getUnencryptedBytes lib.h264 sender.type
      (sealedFrame lib.h264 sender frame sealed) =
      getUnencryptedBytes lib.h264 sender.type frame :=
    getUnencryptedBytes_sealed hh264 (sealedBody_no_startCode hh264 _) hlen (htype ▸ hfits)
  have hheader : (frame.data.take (getUnencryptedBytes lib.h264 sender.type frame)).length =
      getUnencryptedBytes lib.h264 sender.type frame := by
    rw [List.length_take]
    omega
  have hsplit := splitFrame_sealed hh264 sender.type frame
    (frame.data.take (getUnencryptedBytes lib.h264 sender.type frame))
    (length_makeIv sender frame.ssrc frame.timestamp) htag hindex
  rw [hheader] at hsplit
  -- and opens it with the key it was sealed with
  obtain ⟨handler, keySet, hholds⟩ := hreceiver.holds
  have hring := getSharedKey_keyRingSize receiverKeys receiver.participantId
  have hopen : lib.aead.decrypt keySet.encryptionKey
      (sender.makeIv frame.ssrc frame.timestamp).1
      (frame.data.take (getUnencryptedBytes lib.h264 sender.type frame)) sealed =
      some (frame.data.drop (getUnencryptedBytes lib.h264 sender.type frame)) := by
    rw [hholds.key_eq, Aead.decrypt, hsender.keySize, Bool.not_true, if_neg (by simp),
      if_neg (by omega)]
    exact haead.open_seal _ _ _ _ _ hsealed
  have hsink : receiver.hasSink (sealedFrame lib.h264 sender frame sealed).ssrc = true :=
    hreceiver.sink
  refine ⟨handler, hholds.handler_eq, ?_⟩
  rw [decryptFrame_eq hreceiver.enabled hsink hreceiver.noMagicBytes
    (sealedFrame_ne_nil hh264 sender frame sealed), htype, hprefix]
  simp only [sealedFrame, hsplit, hholds.handler_eq, hholds.keySet_eq, hring]
  rw [if_neg (Nat.not_le.mpr hreceiver.index_lt)]
  split
  · rfl
  · rw [finishDecrypt_opens hopen]
    simp [List.take_append_drop]

theorem roundTrip_of_restorable (hrestorable : Restorable lib receiver receiverKeys frame) :
    RoundTrip lib options sender senderKeys receiver receiverKeys frame := by
  obtain ⟨hfits, husable⟩ := hrestorable
  have hshort : getUnencryptedBytes lib.h264 sender.type frame ≤ frame.data.length := by
    rw [getUnencryptedBytes_eq]
    exact Nat.le_trans (Nat.mod_le _ _) hlen
  by_cases hdata : frame.data = []
  · refine ⟨fun hne => absurd hdata hne, ?_⟩
    intro encrypted hencrypted
    simp [FrameCryptorTransformer.encryptFrame, hsender.sink, hdata] at hencrypted
  obtain ⟨sealed, hsealed, hforwarded⟩ := encryptFrame_forwarded haead hsender hdata hshort
  refine ⟨fun _ => by rw [hforwarded]; rfl, ?_⟩
  intro encrypted hencrypted
  rw [hforwarded, Option.some.injEq] at hencrypted
  subst hencrypted
  obtain ⟨handler, hhandler, hdecrypted⟩ :=
    decryptFrame_sealed haead hh264 hsender hreceiver htype hlen hsealed hfits
  rw [hdecrypted, if_neg]
  rintro ⟨hfailed, hinvalid⟩
  have hvalid := (husable.resolve_left hdata) hfailed handler hhandler
  simp [hvalid] at hinvalid

theorem prefix_found_of_roundTrip
    (hreject : RejectsOtherCut lib options sender senderKeys receiver receiverKeys frame)
    (hround : RoundTrip lib options sender senderKeys receiver receiverKeys frame) :
    clearPrefix lib.h264 receiver.type frame < 2 ^ 8 ∨
      clearPrefix lib.h264 receiver.type frame % 2 ^ 8 = 0 := by
  rw [htype]
  by_contra hcut
  have hshort : getUnencryptedBytes lib.h264 sender.type frame ≤ frame.data.length := by
    rw [getUnencryptedBytes_eq]
    exact Nat.le_trans (Nat.mod_le _ _) hlen
  have hdata : frame.data ≠ [] := by
    intro hnil
    rw [hnil, List.length_nil] at hlen
    omega
  obtain ⟨sealed, hsealed, hforwarded⟩ := encryptFrame_forwarded haead hsender hdata hshort
  have hprefix : getUnencryptedBytes lib.h264 receiver.type
      (sealedFrame lib.h264 sender frame sealed) ≠
      getUnencryptedBytes lib.h264 sender.type frame := by
    rw [htype]
    exact getUnencryptedBytes_cut hh264 (sealedBody_no_startCode hh264 _) hcut
  have hnothing : (receiver.decryptFrame lib options receiverKeys
      (sealedFrame lib.h264 sender frame sealed)).forwarded = none :=
    decryptFrame_rejects hreceiver.enabled hreceiver.sink hreceiver.noMagicBytes
      (sealedFrame_ne_nil hh264 sender frame sealed) (hreject _ hforwarded hprefix)
  have hrestored := hround.2 _ hforwarded
  rw [hnothing] at hrestored
  exact absurd hrestored (by simp)

theorem keysUsable_of_roundTrip (hdata : frame.data ≠ [])
    (hfits : clearPrefix lib.h264 receiver.type frame < 2 ^ 8 ∨
      clearPrefix lib.h264 receiver.type frame % 2 ^ 8 = 0)
    (hround : RoundTrip lib options sender senderKeys receiver receiverKeys frame) :
    KeysUsable receiver receiverKeys := by
  intro hfailed handler hhandler
  have hshort : getUnencryptedBytes lib.h264 sender.type frame ≤ frame.data.length := by
    rw [getUnencryptedBytes_eq]
    exact Nat.le_trans (Nat.mod_le _ _) hlen
  obtain ⟨sealed, hsealed, hforwarded⟩ := encryptFrame_forwarded haead hsender hdata hshort
  obtain ⟨found, hfound, hdecrypted⟩ :=
    decryptFrame_sealed haead hh264 hsender hreceiver htype hlen hsealed hfits
  obtain rfl := Option.some.inj (hfound.symm.trans hhandler)
  have hrestored := hdecrypted.symm.trans (hround.2 _ hforwarded)
  by_contra hinvalid
  rw [if_pos ⟨hfailed, by simpa using hinvalid⟩] at hrestored
  exact absurd hrestored (by simp)

/-- **The frame round trip, and its exact limit.**  A frame at least as long as its
    clear prefix is restored if the prefix fits into eight bits or is cut to nothing
    and the receiver has not given up on its keys; and, with an AEAD that rejects the
    frame as the receiver cuts it, only then. -/
theorem decryptFrame_encryptFrame_iff :
    (Restorable lib receiver receiverKeys frame →
      RoundTrip lib options sender senderKeys receiver receiverKeys frame) ∧
    (RejectsOtherCut lib options sender senderKeys receiver receiverKeys frame →
      (RoundTrip lib options sender senderKeys receiver receiverKeys frame ↔
        Restorable lib receiver receiverKeys frame)) := by
  have hif := roundTrip_of_restorable haead hh264 hsender hreceiver htype hlen
  refine ⟨hif, fun hreject => ⟨fun hround => ?_, hif⟩⟩
  have hfits :=
    prefix_found_of_roundTrip haead hh264 hsender hreceiver htype hlen hreject hround
  refine ⟨hfits, ?_⟩
  by_cases hdata : frame.data = []
  · exact Or.inl hdata
  · exact Or.inr
      (keysUsable_of_roundTrip haead hh264 hsender hreceiver htype hlen hdata hfits hround)

end RoundTripOfAFrame

/-! ### A runnable instance -/

def annexB : H264Bitstream where
  findNaluIndices := EmulationPrevention.startCodes
  parseNaluType := fun byte =>
    if byte &&& 0x1F = 1 then .slice else if byte &&& 0x1F = 5 then .idr else .other
  writeRbsp := EmulationPrevention.escape 0
  parseRbsp := EmulationPrevention.unescape

theorem annexB_lawful : annexB.Lawful where
  mem_findNaluIndices := EmulationPrevention.mem_startCodes
  sorted_findNaluIndices := EmulationPrevention.startCodes_sorted
  no_startCode := EmulationPrevention.escape_no_startCode
  parse_write := EmulationPrevention.unescape_escape
  write_eq_or_mark := EmulationPrevention.escape_eq_or_mark

/-- A checksum in place of the GCM tag. -/
def checksumTag (key iv additionalData : Bytes) : Bytes :=
  List.replicate kGcmTagSize
    ((key ++ iv ++ additionalData).foldl (fun sum byte => sum * 31 + byte + 1) 7)

def checksumAead : Aead where
  sealData := fun key iv additionalData data =>
    some (data ++ checksumTag key iv additionalData)
  openData := fun key iv additionalData data =>
    if data.drop (data.length - kGcmTagSize) = checksumTag key iv additionalData
    then some (data.take (data.length - kGcmTagSize)) else none

theorem checksumAead_lawful : checksumAead.Lawful where
  seal_some := fun _ _ _ _ _ => ⟨_, rfl⟩
  length_seal := by
    intro key iv additionalData data sealed hsealed
    cases hsealed
    simp [checksumTag]
  open_seal := by
    intro key iv additionalData data sealed hsealed
    cases hsealed
    simp [checksumAead, checksumTag]

def runnable : Native where
  aead := checksumAead
  h264 := annexB
  kdf := rotatingDerivation
  decryptionFailure := fun handler => (true, handler)

/-- A video cryptor that was just attached and enabled. -/
def videoCryptor (participantId : String) : FrameCryptorTransformer where
  participantId := participantId
  type := .videoFrame
  enabledCryption := true
  keyIndex := 0
  sinkCallback := false
  sinkCallbacks := [7]
  lastEncError := .new
  lastDecError := .new
  sendCounts := fun _ => none

def sharedKeys : NativeKeyProvider :=
  (apply rotatingDerivation (.new 2) (.setSharedKey (List.replicate 16 9) 0)).2

theorem videoCryptor_senderReady (participantId : String) :
    SenderReady (videoCryptor participantId) sharedKeys 7 (List.replicate 16 9) where
  enabled := rfl
  sink := rfl
  holds := ⟨⟨[some 0, none], true⟩, ⟨List.replicate 16 9, List.replicate 16 9⟩, rfl, rfl, rfl⟩
  keySize := by decide

/-- No magic bytes, and a ratchet window of two keys. -/
def windowOptions : CryptoOptions := ⟨[], 2⟩

theorem videoCryptor_receiverReady (participantId : String) :
    ReceiverReady windowOptions (videoCryptor participantId) sharedKeys 7 0
      (List.replicate 16 9) where
  enabled := rfl
  sink := rfl
  holds := ⟨⟨[some 0, none], true⟩, ⟨List.replicate 16 9, List.replicate 16 9⟩, rfl, rfl, rfl⟩
  index_lt := by decide
  keyRingSize_le := by decide
  noMagicBytes := rfl

def h264Frame (data : Bytes) : TransformableFrame := ⟨data, .h264, true, 7, 90000⟩

/-- A frame whose first slice comes behind an SEI unit, at payload offset 255: its
    prefix of 257 bytes is cut to one. -/
def lateSliceFrame : TransformableFrame :=
  h264Frame ([0, 0, 1, 6] ++ List.replicate 248 0xAA ++ [0, 0, 1, 0x65, 0x88, 0x84])

/-- The late slice as it leaves the sender. -/
def sealedLateSlice : TransformableFrame :=
  (((videoCryptor "alice").encryptFrame runnable sharedKeys lateSliceFrame).forwarded).getD
    lateSliceFrame

theorem rejectsOtherCut_lateSlice :
    RejectsOtherCut runnable windowOptions (videoCryptor "alice") sharedKeys
      (videoCryptor "alice") sharedKeys lateSliceFrame := by
  intro encrypted hencrypted _ parts hparts handler keySet hhandler hkeySet key hkey
  obtain rfl : sealedLateSlice = encrypted := by simp only [sealedLateSlice, hencrypted,
    Option.getD_some]
  have hall : ∀ parts ∈ FrameCryptorTransformer.splitFrame annexB .videoFrame sealedLateSlice
      (getUnencryptedBytes annexB .videoFrame sealedLateSlice),
      ∀ handler ∈ (sharedKeys.getSharedKey "alice").1,
        ∀ keySet ∈ handler.getKeySet (sharedKeys.getSharedKey "alice").2.heap parts.keyIndex,
          ∀ key ∈ triedKeys rotatingDerivation windowOptions keySet,
            checksumAead.openData key parts.iv parts.frameHeader parts.encryptedPayload =
              none := by
    decide +kernel
  exact hall parts hparts handler hhandler keySet hkeySet key hkey

/-- An IDR slice at the start of the frame is restored, and a late one is lost. -/
theorem roundTrip_idr_slice :
    RoundTrip runnable windowOptions (videoCryptor "alice") sharedKeys (videoCryptor "alice")
        sharedKeys (h264Frame [0, 0, 1, 0x65, 0x88, 0x84, 0, 0, 1, 3]) ∧
      ¬ RoundTrip runnable windowOptions (videoCryptor "alice") sharedKeys (videoCryptor "alice")
        sharedKeys lateSliceFrame := by
  constructor
  · exact (decryptFrame_encryptFrame_iff checksumAead_lawful annexB_lawful
      (videoCryptor_senderReady "alice") (videoCryptor_receiverReady "alice") rfl
      (by decide)).1 ⟨Or.inl (by decide), Or.inr fun hfailed => by cases hfailed⟩
  · intro hround
    have hrestorable := ((decryptFrame_encryptFrame_iff checksumAead_lawful annexB_lawful
      (videoCryptor_senderReady "alice") (videoCryptor_receiverReady "alice") rfl
      (by decide +kernel)).2 rejectsOtherCut_lateSlice).1 hround
    exact absurd hrestorable.1 (by decide +kernel)

theorem late_slice_is_lost :
    ¬ ∀ (lib : Native) (options : CryptoOptions) (sender receiver : FrameCryptorTransformer)
        (senderKeys receiverKeys : NativeKeyProvider) (frame : TransformableFrame) (key : Bytes),
      lib.aead.Lawful → lib.h264.Lawful → SenderReady sender senderKeys frame.ssrc key →
      ReceiverReady options receiver receiverKeys frame.ssrc sender.keyIndex key →
      receiver.type = sender.type →
      clearPrefix lib.h264 sender.type frame ≤ frame.data.length →
      RoundTrip lib options sender senderKeys receiver receiverKeys frame := by
  intro hall
  have hround := hall runnable windowOptions (videoCryptor "alice") (videoCryptor "alice")
    sharedKeys sharedKeys lateSliceFrame (List.replicate 16 9) checksumAead_lawful annexB_lawful
    (videoCryptor_senderReady "alice") (videoCryptor_receiverReady "alice") rfl
    (by decide +kernel)
  have hlost : ((videoCryptor "alice").encryptFrame runnable sharedKeys
      lateSliceFrame).forwarded.bind (fun encrypted =>
        ((videoCryptor "alice").decryptFrame runnable windowOptions sharedKeys
          encrypted).forwarded) = none := by
    decide +kernel
  obtain ⟨encrypted, hencrypted⟩ :=
    Option.isSome_iff_exists.mp (hround.1 (by decide))
  rw [hencrypted, Option.bind_some, hround.2 encrypted hencrypted] at hlost
  exact absurd hlost (by simp)

end LivekitClient.FrameCryptor
