/-
  LivekitClient/FrameIvs.lean
  ===========================
  **The IVs of a frame cryptor** (`FrameCryptorTransformer::makeIv` in
  `src/core/e2ee/frame_crypto_transformer.cpp`).

  An IV is three words: the SSRC, the timestamp, and the timestamp less the number of the call
  for this SSRC modulo 65535.  The call number counts in 32 bits from 0, because the random
  start value of the first call is overwritten before it is used.  So two calls for one SSRC can
  only get the same IV if their numbers agree modulo 65535, whatever their timestamps are.
-/
import LivekitClient.FrameCryptor

namespace LivekitClient.FrameIvs

open LivekitClient.KeyProvider LivekitClient.FrameCryptor

/-! ## 1. The words of an IV -/

/-- A byte of a word. -/
theorem toNat_toUInt8_shiftRight (value shift : UInt32) (hshift : shift.toNat < 32) :
    (value >>> shift).toUInt8.toNat = value.toNat / 2 ^ shift.toNat % 256 := by
  rw [UInt32.toNat_toUInt8, UInt32.toNat_shiftRight, Nat.shiftRight_eq_div_pow,
    Nat.mod_eq_of_lt hshift]

theorem writeUInt32_injective {value other : UInt32}
    (h : writeUInt32 value = writeUInt32 other) : value = other := by
  simp only [writeUInt32, List.cons.injEq, and_true] at h
  obtain ⟨h3, h2, h1, h0⟩ := h
  have e3 := congrArg UInt8.toNat h3
  have e2 := congrArg UInt8.toNat h2
  have e1 := congrArg UInt8.toNat h1
  have e0 := congrArg UInt8.toNat h0
  rw [toNat_toUInt8_shiftRight _ _ (by decide), toNat_toUInt8_shiftRight _ _ (by decide)]
    at e3 e2 e1
  rw [UInt32.toNat_toUInt8, UInt32.toNat_toUInt8] at e0
  have h24 : (24 : UInt32).toNat = 24 := rfl
  have h16 : (16 : UInt32).toNat = 16 := rfl
  have h8 : (8 : UInt32).toNat = 8 := rfl
  rw [h24] at e3
  rw [h16] at e2
  rw [h8] at e1
  have hvalue := value.toNat_lt
  have hother := other.toNat_lt
  rw [← UInt32.toNat_inj]
  omega

/-- The IV of the call with this number. -/
def iv (ssrc timestamp sendCount : UInt32) : Bytes :=
  writeUInt32 ssrc ++ writeUInt32 timestamp ++ writeUInt32 (timestamp - sendCount % 0xFFFF)

theorem length_iv (ssrc timestamp sendCount : UInt32) :
    (iv ssrc timestamp sendCount).length = getIvSize := rfl

/-- Two IVs are the same for the same SSRC, timestamp and call number modulo 65535 only. -/
theorem iv_eq_iff {ssrc ssrc' timestamp timestamp' sendCount sendCount' : UInt32} :
    iv ssrc timestamp sendCount = iv ssrc' timestamp' sendCount' ↔
      ssrc = ssrc' ∧ timestamp = timestamp' ∧
        sendCount.toNat % 65535 = sendCount'.toNat % 65535 := by
  have hmod : (0xFFFF : UInt32).toNat = 65535 := rfl
  constructor
  · intro h
    obtain ⟨hfront, hthird⟩ := List.append_inj' h rfl
    obtain ⟨hfirst, hsecond⟩ := List.append_inj' hfront rfl
    obtain rfl := writeUInt32_injective hsecond
    refine ⟨writeUInt32_injective hfirst, rfl, ?_⟩
    -- the differences of one timestamp and two numbers below 65535
    have hnat := congrArg UInt32.toNat (writeUInt32_injective hthird)
    rw [UInt32.toNat_sub, UInt32.toNat_sub, UInt32.toNat_mod, UInt32.toNat_mod, hmod] at hnat
    have hlt := timestamp.toNat_lt
    omega
  · rintro ⟨rfl, rfl, hcount⟩
    have hsame : sendCount % 0xFFFF = sendCount' % 0xFFFF := by
      rw [← UInt32.toNat_inj, UInt32.toNat_mod, UInt32.toNat_mod, hmod]
      exact hcount
    rw [iv, iv, hsame]

/-! ## 2. A sequence of calls -/

/-- The arguments of a call of `makeIv`. -/
structure IvCall where
  ssrc : UInt32
  timestamp : UInt32
deriving DecidableEq, Repr

/-- The IVs of one call after the other. -/
def makeIvs (t : FrameCryptorTransformer) : List IvCall → List Bytes
  | [] => []
  | call :: calls =>
    (t.makeIv call.ssrc call.timestamp).1 :: makeIvs (t.makeIv call.ssrc call.timestamp).2 calls

/-- The number of calls for `ssrc`. -/
def callsFor (ssrc : UInt32) (calls : List IvCall) : Nat :=
  calls.countP fun call => decide (call.ssrc = ssrc)

/-- The call number `makeIv` uses next for `ssrc`. -/
def nextCount (t : FrameCryptorTransformer) (ssrc : UInt32) : UInt32 :=
  (t.sendCounts ssrc).getD 0

theorem nextCount_makeIv (t : FrameCryptorTransformer) (call : IvCall) (ssrc : UInt32) :
    nextCount (t.makeIv call.ssrc call.timestamp).2 ssrc =
      nextCount t ssrc + UInt32.ofNat (callsFor ssrc [call]) := by
  by_cases hssrc : call.ssrc = ssrc
  · subst hssrc
    simp [nextCount, FrameCryptorTransformer.makeIv, callsFor]
  · have hother : ¬ ssrc = call.ssrc := fun heq => hssrc heq.symm
    simp [nextCount, FrameCryptorTransformer.makeIv, callsFor, hssrc, hother]

/-- Every call counts the calls for its SSRC before it. -/
theorem getElem?_makeIvs (t : FrameCryptorTransformer) (calls : List IvCall) (i : Nat) :
    (makeIvs t calls)[i]? = calls[i]?.map fun call =>
      iv call.ssrc call.timestamp
        (nextCount t call.ssrc + UInt32.ofNat (callsFor call.ssrc (calls.take i))) := by
  induction calls generalizing t i with
  | nil => rfl
  | cons call calls ih =>
    cases i with
    | zero => simp [makeIvs, callsFor, FrameCryptorTransformer.makeIv, iv, nextCount]
    | succ i =>
      rw [makeIvs, List.getElem?_cons_succ, List.getElem?_cons_succ, ih]
      congr 1
      funext later
      have hcount : callsFor later.ssrc ((call :: calls).take (i + 1)) =
          callsFor later.ssrc [call] + callsFor later.ssrc (calls.take i) := by
        rw [List.take_succ_cons, ← List.singleton_append, callsFor, List.countP_append]
        rfl
      rw [nextCount_makeIv, hcount, UInt32.ofNat_add, UInt32.add_assoc]

/-! ## 3. No IV twice -/

/-- A call counts for the later ones. -/
theorem callsFor_take_lt {calls : List IvCall} {i j : Nat} {call : IvCall} (hij : i < j)
    (hcall : calls[i]? = some call) :
    callsFor call.ssrc (calls.take i) < callsFor call.ssrc (calls.take j) := by
  have hsplit : calls.take (i + 1) = calls.take i ++ [call] := by
    rw [List.take_add_one, hcall]
    rfl
  have hone : callsFor call.ssrc (calls.take (i + 1)) =
      callsFor call.ssrc (calls.take i) + 1 := by
    rw [hsplit, callsFor, List.countP_append]
    simp [callsFor]
  have hmono : callsFor call.ssrc (calls.take (i + 1)) ≤ callsFor call.ssrc (calls.take j) :=
    (List.take_sublist_take_left hij).countP_le
  omega

/-- **No IV is used twice within a window.**  Two calls for different SSRCs give different IVs,
    and so do two calls for one SSRC, fewer than 65535 of its calls apart and among its first
    2^32 - 1, whatever the timestamps. -/
theorem makeIvs_differ (t : FrameCryptorTransformer)
    (hnew : ∀ ssrc, t.sendCounts ssrc = none) (calls : List IvCall) {i j : Nat}
    {earlier later : IvCall} (hij : i < j) (hearlier : calls[i]? = some earlier)
    (hlater : calls[j]? = some later) :
    ∃ iv iv', (makeIvs t calls)[i]? = some iv ∧ (makeIvs t calls)[j]? = some iv' ∧
      iv.length = 12 ∧ iv'.length = 12 ∧
      (earlier.ssrc ≠ later.ssrc → iv ≠ iv') ∧
      (earlier.ssrc = later.ssrc →
        callsFor later.ssrc (calls.take j) - callsFor later.ssrc (calls.take i) < 65535 →
        callsFor later.ssrc (calls.take j) < 2 ^ 32 - 1 → iv ≠ iv') := by
  have hcount : ∀ ssrc, nextCount t ssrc = 0 := fun ssrc => by rw [nextCount, hnew]; rfl
  have hfirst := getElem?_makeIvs t calls i
  have hsecond := getElem?_makeIvs t calls j
  rw [hearlier, Option.map_some, hcount, UInt32.zero_add] at hfirst
  rw [hlater, Option.map_some, hcount, UInt32.zero_add] at hsecond
  refine ⟨_, _, hfirst, hsecond, length_iv .., length_iv .., ?_, ?_⟩
  · intro hssrc heq
    exact hssrc (iv_eq_iff.mp heq).1
  · intro hssrc hwindow hbound heq
    have hless := callsFor_take_lt hij hearlier
    have hmod := (iv_eq_iff.mp heq).2.2
    rw [hssrc] at hless hmod
    -- neither number has wrapped round
    have hsmall : callsFor later.ssrc (calls.take i) < 2 ^ 32 := by omega
    have hsmall' : callsFor later.ssrc (calls.take j) < 2 ^ 32 := by omega
    rw [UInt32.toNat_ofNat_of_lt' hsmall, UInt32.toNat_ofNat_of_lt' hsmall'] at hmod
    omega

/-- The same timestamp and then an earlier one, with a call for another SSRC between. -/
theorem makeIvs_differ_listed :
    ∃ iv iv', (makeIvs (videoCryptor "alice") [⟨7, 90000⟩, ⟨8, 90000⟩, ⟨7, 89999⟩])[0]? = some iv ∧
      (makeIvs (videoCryptor "alice") [⟨7, 90000⟩, ⟨8, 90000⟩, ⟨7, 89999⟩])[2]? = some iv' ∧
      iv ≠ iv' := by
  obtain ⟨iv, iv', hfirst, hsecond, -, -, -, hdiffer⟩ :=
    makeIvs_differ (videoCryptor "alice") (fun _ => rfl)
      [⟨7, 90000⟩, ⟨8, 90000⟩, ⟨7, 89999⟩] (i := 0) (j := 2) (by decide) rfl rfl
  exact ⟨iv, iv', hfirst, hsecond, hdiffer rfl (by decide) (by decide)⟩

end LivekitClient.FrameIvs
