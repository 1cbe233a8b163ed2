/-
  LivekitClient/Utf8.lean
  =======================
  **Where a UTF-8 text may be cut.**

  A byte string is valid UTF-8 when it encodes some characters.  Between two characters
  of a valid text, and nowhere else, stands a byte that does not continue a character:
  so the prefixes of a text that are valid are those that end before such a byte.
-/
import Mathlib.Tactic.Common

namespace Utf8

/-- The two highest bits of the bytes that are not the first of their character. -/
def isContinuation (byte : UInt8) : Bool := byte &&& 0xc0 == 0x80

def Valid (bytes : List UInt8) : Prop :=
  ∃ chars : List Char, bytes = chars.flatMap String.utf8EncodeChar

theorem valid_nil : Valid [] := ⟨[], rfl⟩

theorem Valid.append {as bs : List UInt8} (has : Valid as) (hbs : Valid bs) : Valid (as ++ bs) := by
  obtain ⟨chars, rfl⟩ := has
  obtain ⟨others, rfl⟩ := hbs
  exact ⟨chars ++ others, by simp⟩

theorem valid_utf8EncodeChar (c : Char) : Valid (String.utf8EncodeChar c) := ⟨[c], by simp⟩

/-! ## The bytes of a character -/

theorem isContinuation_of_lt {n : Nat} (hn : n < 64) :
    isContinuation (UInt8.ofNat (n + 0x80)) = true := by
  revert n
  decide

theorem not_isContinuation_of_firstByte (byte : UInt8) (h : byte.IsUTF8FirstByte) :
    isContinuation byte = false := by
  have hall : ∀ n < 256, (UInt8.ofNat n).IsUTF8FirstByte →
      isContinuation (UInt8.ofNat n) = false := by
    decide +kernel
  have hbyte := hall byte.toNat byte.toNat_lt
  rw [UInt8.ofNat_toNat] at hbyte
  exact hbyte h

/-- The first byte of a character, and those that continue it. -/
theorem utf8EncodeChar_split (c : Char) :
    ∃ first rest, String.utf8EncodeChar c = first :: rest ∧ isContinuation first = false ∧
      ∀ byte ∈ rest, isContinuation byte = true := by
  have hmod : ∀ n : Nat, isContinuation (UInt8.ofNat (n % 0x40 + 0x80)) = true :=
    fun n => isContinuation_of_lt (Nat.mod_lt n (by decide))
  cases hbytes : String.utf8EncodeChar c with
  | nil => exact absurd hbytes String.utf8EncodeChar_ne_nil
  | cons first rest =>
    refine ⟨first, rest, rfl, ?_, ?_⟩
    · apply not_isContinuation_of_firstByte
      have hfirst := UInt8.isUTF8FirstByte_getElem_zero_utf8EncodeChar (c := c)
      simpa only [hbytes, List.getElem_cons_zero] using hfirst
    · intro byte hbyte
      have htail : byte ∈ (String.utf8EncodeChar c).tail := by simpa [hbytes] using hbyte
      unfold String.utf8EncodeChar at htail
      simp only at htail
      split at htail
      · simp at htail
      · split at htail
        · simp only [List.tail_cons, List.mem_singleton] at htail
          rw [htail]
          exact hmod _
        · split at htail
          · simp only [List.tail_cons, List.mem_cons, List.not_mem_nil, or_false] at htail
            rcases htail with rfl | rfl <;> exact hmod _
          · simp only [List.tail_cons, List.mem_cons, List.not_mem_nil, or_false] at htail
            rcases htail with rfl | rfl | rfl <;> exact hmod _

/-! ## Cutting a text -/

/-- A valid text that is not empty begins with a byte that continues nothing. -/
theorem Valid.head {bytes : List UInt8} (h : Valid bytes) {byte : UInt8}
    (hbyte : bytes[0]? = some byte) : isContinuation byte = false := by
  obtain ⟨chars, rfl⟩ := h
  cases chars with
  | nil => simp at hbyte
  | cons c chars =>
    obtain ⟨first, rest, hbytes, hfirst, -⟩ := utf8EncodeChar_split c
    simp only [List.flatMap_cons, hbytes, List.cons_append, List.getElem?_cons_zero,
      Option.some.injEq] at hbyte
    rw [← hbyte]
    exact hfirst

/-- What is left of a valid text after a character is valid. -/
theorem valid_of_utf8EncodeChar_append {c : Char} {bytes : List UInt8}
    (h : Valid (String.utf8EncodeChar c ++ bytes)) : Valid bytes := by
  obtain ⟨chars, hchars⟩ := h
  have hbytes : ([c].utf8Encode ++ bytes.toByteArray).IsValidUTF8 := by
    refine ⟨chars, ?_⟩
    rw [List.utf8Encode_singleton, ← List.toByteArray_append, hchars]
    rfl
  rw [ByteArray.isValidUTF8_utf8Encode_singleton_append_iff] at hbytes
  obtain ⟨others, hothers⟩ := hbytes
  exact ⟨others, List.toByteArray_inj.1 hothers⟩

theorem Valid.of_append {as bs : List UInt8} (has : Valid as) (h : Valid (as ++ bs)) :
    Valid bs := by
  obtain ⟨chars, rfl⟩ := has
  induction chars with
  | nil => exact h
  | cons c chars ih =>
    rw [List.flatMap_cons, List.append_assoc] at h
    exact ih (valid_of_utf8EncodeChar_append h)

/-- A text may be cut before a byte that continues nothing. -/
theorem Valid.take {bytes : List UInt8} (h : Valid bytes) {n : Nat} {byte : UInt8}
    (hbyte : bytes[n]? = some byte) (hnot : isContinuation byte = false) :
    Valid (bytes.take n) := by
  obtain ⟨chars, rfl⟩ := h
  induction chars generalizing n with
  | nil => simp at hbyte
  | cons c chars ih =>
    rw [List.flatMap_cons] at hbyte ⊢
    by_cases hwithin : n < (String.utf8EncodeChar c).length
    · cases n with
      | zero => exact valid_nil
      | succ m =>
        -- inside the character every byte continues it
        obtain ⟨first, rest, hbytes, -, hrest⟩ := utf8EncodeChar_split c
        rw [List.getElem?_append_left hwithin, hbytes, List.getElem?_cons_succ] at hbyte
        have hcontinues := hrest byte (List.mem_of_getElem? hbyte)
        simp [hnot] at hcontinues
    · have hpast : (String.utf8EncodeChar c).length ≤ n := Nat.le_of_not_lt hwithin
      rw [List.getElem?_append_right hpast] at hbyte
      rw [List.take_append, List.take_of_length_le hpast]
      exact (valid_utf8EncodeChar c).append (ih hbyte)

/-- Behind the first character, within four bytes, there is such a place, or the end. -/
theorem Valid.boundary {bytes : List UInt8} (h : Valid bytes) (hne : bytes ≠ []) :
    ∃ n, 0 < n ∧ n ≤ 4 ∧ n ≤ bytes.length ∧
      ∀ byte, bytes[n]? = some byte → isContinuation byte = false := by
  obtain ⟨chars, rfl⟩ := h
  cases chars with
  | nil => exact absurd rfl hne
  | cons c chars =>
    refine ⟨c.utf8Size, c.utf8Size_pos, c.utf8Size_le_four, ?_, ?_⟩
    · rw [List.flatMap_cons, List.length_append, String.length_utf8EncodeChar]
      exact Nat.le_add_right _ _
    · intro byte hbyte
      have hrest : Valid (chars.flatMap String.utf8EncodeChar) := ⟨chars, rfl⟩
      apply hrest.head
      rw [List.flatMap_cons, ← String.length_utf8EncodeChar,
        List.getElem?_append_right (Nat.le_refl _), Nat.sub_self] at hbyte
      exact hbyte

/-- And only there. -/
theorem Valid.not_isContinuation {bytes : List UInt8} (h : Valid bytes) {n : Nat} {byte : UInt8}
    (htake : Valid (bytes.take n)) (hbyte : bytes[n]? = some byte) :
    isContinuation byte = false := by
  rw [← List.take_append_drop n bytes] at h
  apply (htake.of_append h).head
  rw [List.getElem?_drop, Nat.add_zero]
  exact hbyte

/-- The longest valid prefix within a limit. -/
structure IsLongestPrefix (limit : Nat) (bytes cut : List UInt8) : Prop where
  isPrefix : cut <+: bytes
  length_le : cut.length ≤ limit
  valid : Valid cut
  longest : ∀ other, other <+: bytes → other.length ≤ limit → Valid other →
    other.length ≤ cut.length

theorem Valid.isLongestPrefix {bytes : List UInt8} (h : Valid bytes) {limit : Nat}
    (hfits : bytes.length ≤ limit) : IsLongestPrefix limit bytes bytes :=
  ⟨List.prefix_rfl, hfits, h, fun _ hother _ _ => hother.length_le⟩

/-- Cut before the last byte up to the limit that continues nothing. -/
theorem Valid.isLongestPrefix_take {bytes : List UInt8} (h : Valid bytes) {limit n : Nat}
    (hn : n ≤ limit) (hlimit : limit < bytes.length)
    (hcut : n = 0 ∨ ∃ byte, bytes[n]? = some byte ∧ isContinuation byte = false)
    (hlast : ∀ m, n < m → m ≤ limit → ∀ byte, bytes[m]? = some byte → isContinuation byte = true) :
    IsLongestPrefix limit bytes (bytes.take n) where
  isPrefix := List.take_prefix n bytes
  length_le := by
    rw [List.length_take]
    omega
  valid := by
    rcases hcut with rfl | ⟨byte, hbyte, hnot⟩
    · exact valid_nil
    · exact h.take hbyte hnot
  longest := by
    intro other hother hfits hvalid
    rw [List.length_take_of_le (by omega)]
    by_contra hlonger
    rw [List.prefix_iff_eq_take] at hother
    have hlt : other.length < bytes.length := by omega
    have hbyte : bytes[other.length]? = some bytes[other.length] := List.getElem?_eq_getElem hlt
    have hcontinues := hlast other.length (by omega) hfits _ hbyte
    have hfirst := h.not_isContinuation (hother ▸ hvalid) hbyte
    simp [hfirst] at hcontinues

end Utf8
