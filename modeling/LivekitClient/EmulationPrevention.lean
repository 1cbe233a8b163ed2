/-
  LivekitClient/EmulationPrevention.lean
  ======================================
  **Start codes and emulation prevention** of an Annex B byte stream.

  A NAL unit is announced by the bytes `00 00 01`.  So that a payload cannot
  contain them by accident, a writer puts a byte `03` between two zero bytes and
  a byte of at most `03`; a reader drops it again.  The library has both
  directions and the scan for start codes, with the three facts users need: the
  reader undoes the writer, the writer's output has no start code, and where the
  writer changed anything it left a mark.
-/
import Mathlib.Tactic.Common

namespace EmulationPrevention

abbrev Bytes := List UInt8

/-- The bytes `00 00 01` stand at position `i`. -/
def StartCodeAt (data : Bytes) (i : Nat) : Prop :=
  data[i]? = some 0 ∧ data[i + 1]? = some 0 ∧ data[i + 2]? = some 1

instance (data : Bytes) (i : Nat) : Decidable (StartCodeAt data i) :=
  inferInstanceAs (Decidable (_ ∧ _ ∧ _))

/-- The bytes `00 00 03` stand at position `i`, and another byte follows. -/
def MarkAt (data : Bytes) (i : Nat) : Prop :=
  data[i]? = some 0 ∧ data[i + 1]? = some 0 ∧ data[i + 2]? = some 3 ∧ i + 3 < data.length

/-- Payload offsets of the start codes that a payload byte follows, in order. -/
def startCodes (data : Bytes) : List Nat :=
  ((List.range (data.length - 3)).filter fun i => StartCodeAt data i).map (· + 3)

/-- The writer, with the number of zero bytes it has just written. -/
def escape : Nat → Bytes → Bytes
  | _, [] => []
  | zeros, byte :: rest =>
    if byte ≤ 3 ∧ 2 ≤ zeros then 3 :: byte :: escape (if byte = 0 then 1 else 0) rest
    else byte :: escape (if byte = 0 then zeros + 1 else 0) rest

/-- The reader. -/
def unescape : Bytes → Bytes
  | [] => []
  | 0 :: 0 :: 3 :: rest => 0 :: 0 :: unescape rest
  | byte :: rest => byte :: unescape rest

/-! ## 1. The scan -/

theorem mem_startCodes (data : Bytes) (k : Nat) :
    k ∈ startCodes data ↔ ∃ i, k = i + 3 ∧ StartCodeAt data i ∧ i + 3 < data.length := by
  simp only [startCodes, List.mem_map, List.mem_filter, List.mem_range, decide_eq_true_eq]
  constructor
  · rintro ⟨i, ⟨hlt, hcode⟩, rfl⟩
    exact ⟨i, rfl, hcode, by omega⟩
  · rintro ⟨i, rfl, hcode, hlt⟩
    exact ⟨i, ⟨by omega, hcode⟩, rfl⟩

theorem startCodes_sorted (data : Bytes) : (startCodes data).Pairwise (· < ·) := by
  rw [startCodes, List.pairwise_map]
  apply (List.pairwise_lt_range.filter _).imp
  intro i j hij
  omega

/-! ## 2. The reader undoes the writer -/

/-- Where no mark begins, the reader passes the byte on. -/
theorem unescape_cons_of_no_mark {byte : UInt8} {rest : Bytes}
    (hmark : ∀ tail, byte = 0 → rest ≠ 0 :: 3 :: tail) :
    unescape (byte :: rest) = byte :: unescape rest := by
  rw [unescape]
  intro tail hbyte hrest
  exact hmark tail hbyte hrest

theorem unescape_cons {byte : UInt8} (hbyte : byte ≠ 0) (rest : Bytes) :
    unescape (byte :: rest) = byte :: unescape rest :=
  unescape_cons_of_no_mark fun _ hzero => absurd hzero hbyte

theorem unescape_zero_cons {byte : UInt8} (hbyte : byte ≠ 0) (rest : Bytes) :
    unescape (0 :: byte :: rest) = 0 :: byte :: unescape rest := by
  rw [unescape_cons_of_no_mark (by simp [hbyte]), unescape_cons hbyte]

theorem unescape_zeros_cons {byte : UInt8} (hbyte : byte ≠ 0) (hthree : byte ≠ 3) (rest : Bytes) :
    unescape (0 :: 0 :: byte :: rest) = 0 :: 0 :: byte :: unescape rest := by
  rw [unescape_cons_of_no_mark (by simp [hthree]), unescape_zero_cons hbyte]

/-- Not escaped, hence neither zero nor the mark itself. -/
theorem ne_of_not_le {byte : UInt8} (hbyte : ¬ byte ≤ 3) : byte ≠ 0 ∧ byte ≠ 1 ∧ byte ≠ 3 := by
  refine ⟨?_, ?_, ?_⟩ <;> rintro rfl <;> exact hbyte (by decide)

/-- The induction is over the data; the zero bytes just written stand in front. -/
theorem unescape_zeros_escape (data : Bytes) :
    unescape (escape 0 data) = data ∧ unescape (0 :: escape 1 data) = 0 :: data ∧
      unescape (0 :: 0 :: escape 2 data) = 0 :: 0 :: data := by
  induction data with
  | nil => simp [escape, unescape]
  | cons byte rest ih =>
    obtain ⟨ih0, ih1, ih2⟩ := ih
    by_cases hzero : byte = 0
    · subst hzero
      refine ⟨?_, ?_, ?_⟩
      · simpa [escape] using ih1
      · simpa [escape] using ih2
      · simp [escape, unescape, ih1]
    · refine ⟨?_, ?_, ?_⟩
      · simp [escape, hzero, unescape_cons hzero, ih0]
      · simp [escape, hzero, unescape_zero_cons hzero, ih0]
      · by_cases hle : byte ≤ 3
        · simp [escape, hzero, hle, unescape, unescape_cons hzero, ih0]
        · obtain ⟨-, -, hthree⟩ := ne_of_not_le hle
          simp [escape, hzero, hle, unescape_zeros_cons hzero hthree, ih0]

theorem unescape_escape (data : Bytes) : unescape (escape 0 data) = data :=
  (unescape_zeros_escape data).1

/-! ## 3. The writer's output has no start code -/

theorem startCodeAt_cons_succ (byte : UInt8) (data : Bytes) (i : Nat) :
    StartCodeAt (byte :: data) (i + 1) ↔ StartCodeAt data i := by
  simp [StartCodeAt]

/-- A start code at the head needs a zero byte there. -/
theorem not_startCodeAt_cons {byte : UInt8} {data : Bytes} (hhead : ¬ StartCodeAt (byte :: data) 0)
    (hrest : ∀ i, ¬ StartCodeAt data i) : ∀ i, ¬ StartCodeAt (byte :: data) i := by
  intro i
  cases i with
  | zero => exact hhead
  | succ i => rw [startCodeAt_cons_succ]; exact hrest i

theorem zeros_escape_no_startCode (data : Bytes) :
    (∀ i, ¬ StartCodeAt (escape 0 data) i) ∧ (∀ i, ¬ StartCodeAt (0 :: escape 1 data) i) ∧
      (∀ i, ¬ StartCodeAt (0 :: 0 :: escape 2 data) i) := by
  induction data with
  | nil =>
    refine ⟨?_, ?_, ?_⟩
    · intro i
      simp [StartCodeAt, escape]
    · exact not_startCodeAt_cons (by simp [StartCodeAt, escape]) (by simp [StartCodeAt, escape])
    · apply not_startCodeAt_cons (by simp [StartCodeAt, escape])
      exact not_startCodeAt_cons (by simp [StartCodeAt, escape]) (by simp [StartCodeAt, escape])
  | cons byte rest ih =>
    obtain ⟨ih0, ih1, ih2⟩ := ih
    by_cases hzero : byte = 0
    · subst hzero
      refine ⟨?_, ?_, ?_⟩
      · simpa [escape] using ih1
      · simpa [escape] using ih2
      · have hmark : ∀ i, ¬ StartCodeAt (3 :: 0 :: escape 1 rest) i :=
          not_startCodeAt_cons (by simp [StartCodeAt]) ih1
        have hone : ∀ i, ¬ StartCodeAt (0 :: 3 :: 0 :: escape 1 rest) i :=
          not_startCodeAt_cons (by simp [StartCodeAt]) hmark
        simpa [escape] using not_startCodeAt_cons (by simp [StartCodeAt]) hone
    · have hbyte : ∀ i, ¬ StartCodeAt (byte :: escape 0 rest) i :=
        not_startCodeAt_cons (by simp [StartCodeAt, hzero]) ih0
      have hone : ∀ i, ¬ StartCodeAt (0 :: byte :: escape 0 rest) i :=
        not_startCodeAt_cons (by simp [StartCodeAt, hzero]) hbyte
      refine ⟨by simpa [escape, hzero] using hbyte, by simpa [escape, hzero] using hone, ?_⟩
      by_cases hle : byte ≤ 3
      · have hmark : ∀ i, ¬ StartCodeAt (3 :: byte :: escape 0 rest) i :=
          not_startCodeAt_cons (by simp [StartCodeAt]) hbyte
        have hzeroMark : ∀ i, ¬ StartCodeAt (0 :: 3 :: byte :: escape 0 rest) i :=
          not_startCodeAt_cons (by simp [StartCodeAt]) hmark
        simpa [escape, hzero, hle] using not_startCodeAt_cons (by simp [StartCodeAt]) hzeroMark
      · obtain ⟨-, hone', -⟩ := ne_of_not_le hle
        simpa [escape, hzero, hle] using
          not_startCodeAt_cons (by simp [StartCodeAt, hone']) hone

theorem escape_no_startCode (data : Bytes) (i : Nat) : ¬ StartCodeAt (escape 0 data) i :=
  (zeros_escape_no_startCode data).1 i

/-! ## 4. The writer leaves a mark -/

theorem markAt_cons_succ {byte : UInt8} {data : Bytes} {i : Nat} (hmark : MarkAt data i) :
    MarkAt (byte :: data) (i + 1) := by
  obtain ⟨h0, h1, h2, hlt⟩ := hmark
  exact ⟨by simpa using h0, by simpa using h1, by simpa using h2, by rw [List.length_cons]; omega⟩

theorem zeros_escape_eq_or_mark (data : Bytes) :
    (escape 0 data = data ∨ ∃ i, MarkAt (escape 0 data) i) ∧
    (escape 1 data = data ∨ ∃ i, MarkAt (0 :: escape 1 data) i) ∧
    (escape 2 data = data ∨ ∃ i, MarkAt (0 :: 0 :: escape 2 data) i) := by
  induction data with
  | nil => simp [escape]
  | cons byte rest ih =>
    obtain ⟨ih0, ih1, ih2⟩ := ih
    -- whatever stands in front, a mark further right stays one
    have hstep : ∀ (front : Bytes) (tail : Bytes), (tail = rest ∨ ∃ i, MarkAt tail i) →
        byte :: tail = byte :: rest ∨ ∃ i, MarkAt (front ++ byte :: tail) i := by
      rintro front tail (heq | ⟨i, hmark⟩)
      · exact Or.inl (by rw [heq])
      · right
        have hcons : MarkAt (byte :: tail) (i + 1) := markAt_cons_succ hmark
        induction front with
        | nil => exact ⟨i + 1, hcons⟩
        | cons other front ihfront =>
          obtain ⟨j, hj⟩ := ihfront
          exact ⟨j + 1, markAt_cons_succ hj⟩
    have hmarked : byte ≤ 3 → ∃ i, MarkAt (0 :: 0 :: escape 2 (byte :: rest)) i := by
      intro hle
      exact ⟨0, by simp [MarkAt, escape, hle]⟩
    by_cases hzero : byte = 0
    · subst hzero
      refine ⟨?_, ?_, Or.inr (hmarked (by decide))⟩
      · rcases ih1 with heq | ⟨i, hmark⟩
        · left
          simpa [escape] using heq
        · right
          exact ⟨i, by simpa [escape] using hmark⟩
      · rcases ih2 with heq | ⟨i, hmark⟩
        · left
          simpa [escape] using heq
        · right
          exact ⟨i, by simpa [escape] using hmark⟩
    · refine ⟨?_, ?_, ?_⟩
      · simpa [escape, hzero] using hstep [] _ ih0
      · simpa [escape, hzero] using hstep [0] _ ih0
      · by_cases hle : byte ≤ 3
        · exact Or.inr (hmarked hle)
        · simpa [escape, hzero, hle] using hstep [0, 0] _ ih0

theorem escape_eq_or_mark (data : Bytes) :
    escape 0 data = data ∨ ∃ i, MarkAt (escape 0 data) i :=
  (zeros_escape_eq_or_mark data).1

end EmulationPrevention
