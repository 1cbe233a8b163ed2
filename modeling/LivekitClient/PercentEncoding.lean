/-
  LivekitClient/PercentEncoding.lean
  ==================================
  **Percent-encoding** (`Url::Encode` and `Url::Decode` in `src/core/detail/uri.cpp`).

  Letters, digits and `-._~` stay as they are, and so do the characters that the caller
  excludes; every other byte becomes `%` and two hex digits.  Decoding takes `%XY` back to its
  byte and, beyond that, a `+` to a space: encoding never leaves a `+` or a `%` of the value in
  its text unless the caller asks for it.
-/
import LivekitClient.Urls

namespace LivekitClient.Urls

/-! ## 1. Encoding and decoding -/

def isHexDigit (c : UInt8) : Bool :=
  isDigit c || decide ('A'.toUInt8 ≤ c ∧ c ≤ 'F'.toUInt8) ||
    decide ('a'.toUInt8 ≤ c ∧ c ≤ 'f'.toUInt8)

/-- A byte from 128 on is a negative `char`, and so none of these. -/
def isAlphaNumeric (c : UInt8) : Bool :=
  isDigit c || decide ('A'.toUInt8 ≤ c ∧ c ≤ 'Z'.toUInt8) ||
    decide ('a'.toUInt8 ≤ c ∧ c ≤ 'z'.toUInt8)

def shouldEncode (c : UInt8) : Bool := !isAlphaNumeric c && !(ascii "-._~").contains c

/-- `Hex[n]`. -/
def hexDigit (n : UInt8) : UInt8 := ((ascii "0123456789ABCDEF")[n.toNat]?).getD 0

def encodeChar (doNotEncodeSymbols : Text) (c : UInt8) : Text :=
  if shouldEncode c && !doNotEncodeSymbols.contains c then
    ['%'.toUInt8, hexDigit ((c >>> 4) &&& 0x0f), hexDigit (c &&& 0x0f)]
  else [c]

/-- `Url::Encode`. -/
def encode (value : Text) (doNotEncodeSymbols : Text := []) : Text :=
  value.flatMap (encodeChar doNotEncodeSymbols)

/-- The value of a hex digit. -/
def hexValue (c : UInt8) : Nat :=
  if isDigit c then (c - '0'.toUInt8).toNat
  else if c ≤ 'F'.toUInt8 then (c - 'A'.toUInt8).toNat + 10
  else (c - 'a'.toUInt8).toNat + 10

/-- `Url::Decode`. -/
def decode : Text → Except Exception Text
  | [] => .ok []
  | c :: value =>
    if c = '%'.toUInt8 then
      match value with
      | high :: low :: value =>
        if !isHexDigit high || !isHexDigit low then
          .error (.runtimeError "failed when decoding URL component")
        else
          (decode value).map fun decoded => (16 * hexValue high + hexValue low).toUInt8 :: decoded
      | _ => .error (.runtimeError "failed when decoding URL component")
    else if c = '+'.toUInt8 then (decode value).map fun decoded => ' '.toUInt8 :: decoded
    else (decode value).map fun decoded => c :: decoded

/-! ## 2. What is encoded reads back -/

/-- The two digits of a byte. -/
theorem hexDigits_spec (c : UInt8) :
    isHexDigit (hexDigit ((c >>> 4) &&& 0x0f)) = true ∧
    isHexDigit (hexDigit (c &&& 0x0f)) = true ∧
    (16 * hexValue (hexDigit ((c >>> 4) &&& 0x0f)) + hexValue (hexDigit (c &&& 0x0f))).toUInt8 =
      c := by
  have hall : ∀ n < 256,
      isHexDigit (hexDigit ((UInt8.ofNat n >>> (4 : UInt8)) &&& (0x0f : UInt8))) = true ∧
      isHexDigit (hexDigit (UInt8.ofNat n &&& (0x0f : UInt8))) = true ∧
      (16 * hexValue (hexDigit ((UInt8.ofNat n >>> (4 : UInt8)) &&& (0x0f : UInt8))) +
        hexValue (hexDigit (UInt8.ofNat n &&& (0x0f : UInt8)))).toUInt8 = UInt8.ofNat n := by
    decide +kernel
  have hbyte := hall c.toNat c.toNat_lt
  rwa [UInt8.ofNat_toNat] at hbyte

/-- One character is decoded from what it was encoded to. -/
theorem decode_encodeChar_append (doNotEncodeSymbols : Text) (c : UInt8) (rest : Text)
    (hpercent : '%'.toUInt8 ∉ doNotEncodeSymbols) (hplus : '+'.toUInt8 ∉ doNotEncodeSymbols) :
    decode (encodeChar doNotEncodeSymbols c ++ rest) =
      (decode rest).map fun decoded => c :: decoded := by
  unfold encodeChar
  split
  · obtain ⟨hhigh, hlow, hvalue⟩ := hexDigits_spec c
    simp only [List.cons_append, List.nil_append, decode, if_true, hhigh, hlow, Bool.not_true,
      Bool.or_self, Bool.false_eq_true, if_false, hvalue]
  · rename_i hkept
    -- the two characters that decoding changes are always encoded
    have hne : ∀ symbol : UInt8, shouldEncode symbol = true → symbol ∉ doNotEncodeSymbols →
        c ≠ symbol := by
      rintro symbol hshould hnot rfl
      apply hkept
      simp [hshould, hnot]
    have hc : ¬ c = '%'.toUInt8 := hne _ (by decide) hpercent
    have hc' : ¬ c = '+'.toUInt8 := hne _ (by decide) hplus
    rw [List.singleton_append, decode.eq_def]
    simp only [if_neg hc, if_neg hc']

/-- Unless `%` or `+` is excluded, every value is decoded from what it was encoded to. -/
theorem decode_encode_append (value doNotEncodeSymbols rest : Text)
    (hpercent : '%'.toUInt8 ∉ doNotEncodeSymbols) (hplus : '+'.toUInt8 ∉ doNotEncodeSymbols) :
    decode (encode value doNotEncodeSymbols ++ rest) =
      (decode rest).map fun decoded => value ++ decoded := by
  induction value with
  | nil =>
    rw [encode, List.flatMap_nil, List.nil_append]
    cases decode rest <;> rfl
  | cons c value ih =>
    have hcons : encode (c :: value) doNotEncodeSymbols =
        encodeChar doNotEncodeSymbols c ++ encode value doNotEncodeSymbols := List.flatMap_cons
    rw [hcons, List.append_assoc, decode_encodeChar_append _ _ _ hpercent hplus, ih]
    cases decode rest <;> rfl

/-- **Encoding loses nothing**: `Decode` gives every value back, its bytes from 128 on and its
    `%` and `+` included. -/
theorem decode_encode_of_notMem (value doNotEncodeSymbols : Text)
    (hpercent : '%'.toUInt8 ∉ doNotEncodeSymbols) (hplus : '+'.toUInt8 ∉ doNotEncodeSymbols) :
    decode (encode value doNotEncodeSymbols) = .ok value := by
  have happend := decode_encode_append value doNotEncodeSymbols [] hpercent hplus
  rw [List.append_nil] at happend
  rw [happend, decode, Except.map, List.append_nil]

/-- `é%+ /` with the slash excluded. -/
theorem decode_encode_of_notMem_slash :
    '%'.toUInt8 ∉ ascii "/" ∧ '+'.toUInt8 ∉ ascii "/" ∧
      decode (encode (0xc3 :: 0xa9 :: ascii "%+ /") (ascii "/")) =
        .ok (0xc3 :: 0xa9 :: ascii "%+ /") :=
  ⟨by decide, by decide, decode_encode_of_notMem _ _ (by decide) (by decide)⟩

theorem shouldEncode_of_isHexDigit {c : UInt8} (hdigit : isHexDigit c = true) :
    shouldEncode c = false := by
  have hF : 'F'.toUInt8 ≤ 'Z'.toUInt8 := by decide
  have hf : 'f'.toUInt8 ≤ 'z'.toUInt8 := by decide
  have halpha : isAlphaNumeric c = true := by
    simp only [isHexDigit, isAlphaNumeric, Bool.or_eq_true, decide_eq_true_eq] at hdigit ⊢
    rcases hdigit with (hdigit | ⟨hlow, hhigh⟩) | ⟨hlow, hhigh⟩
    · exact Or.inl (Or.inl hdigit)
    · exact Or.inl (Or.inr ⟨hlow, UInt8.le_trans hhigh hF⟩)
    · exact Or.inr ⟨hlow, UInt8.le_trans hhigh hf⟩
  rw [shouldEncode, halpha, Bool.not_true, Bool.false_and]

/-- The characters that encoding leaves when nothing is excluded. -/
theorem mem_encode {value : Text} {c : UInt8} (hc : c ∈ encode value) :
    c = '%'.toUInt8 ∨ shouldEncode c = false := by
  obtain ⟨source, -, hmem⟩ := List.mem_flatMap.mp hc
  unfold encodeChar at hmem
  split at hmem
  · rcases List.mem_cons.mp hmem with rfl | hmem
    · exact Or.inl rfl
    · obtain ⟨hhigh, hlow, -⟩ := hexDigits_spec source
      right
      rcases List.mem_cons.mp hmem with rfl | hmem
      · exact shouldEncode_of_isHexDigit hhigh
      · rw [List.mem_singleton] at hmem
        rw [hmem]
        exact shouldEncode_of_isHexDigit hlow
  · rename_i hkept
    right
    rw [List.mem_singleton] at hmem
    subst hmem
    simpa [-List.elem_eq_contains] using hkept

end LivekitClient.Urls
