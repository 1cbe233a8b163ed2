/-
  LivekitClient/ByteMemory.lean
  =============================
  **Bytes of memory.**

  A memory gives a byte at every address.  Numbers are stored little-endian in a fixed
  number of bytes, and what is copied to an address can be read back from there.
-/
import Mathlib.Algebra.Ring.Nat
import Mathlib.Tactic.Common

namespace ByteMemory

abbrev Memory := Nat → UInt8

/-! ## 1. Numbers as bytes -/

/-- The last `width` bytes of a number, the least significant one first. -/
def encode : Nat → Nat → List UInt8
  | 0, _ => []
  | width + 1, n => UInt8.ofNat n :: encode width (n / 256)

def decode : List UInt8 → Nat
  | [] => 0
  | byte :: bytes => byte.toNat + 256 * decode bytes

@[simp] theorem length_encode (width n : Nat) : (encode width n).length = width := by
  induction width generalizing n with
  | zero => rfl
  | succ width ih => rw [encode, List.length_cons, ih]

theorem decode_encode (width n : Nat) : decode (encode width n) = n % 256 ^ width := by
  induction width generalizing n with
  | zero => rw [encode, decode, Nat.pow_zero, Nat.mod_one]
  | succ width ih =>
    have hbyte : (UInt8.ofNat n).toNat = n % 256 := by
      rw [UInt8.toNat_ofNat']
    rw [encode, decode, ih, hbyte, Nat.pow_succ', Nat.mod_mul]

/-! ## 2. Reading and copying -/

def read (memory : Memory) (start count : Nat) : List UInt8 :=
  (List.range count).map fun i => memory (start + i)

/-- `memcpy` of these bytes. -/
def copy (memory : Memory) (start : Nat) (bytes : List UInt8) : Memory := fun address =>
  if start ≤ address then bytes[address - start]?.getD (memory address) else memory address

theorem copy_of_outside {memory : Memory} {start : Nat} {bytes : List UInt8} {address : Nat}
    (houtside : address < start ∨ start + bytes.length ≤ address) :
    copy memory start bytes address = memory address := by
  rw [copy]
  split
  · have hlength : bytes.length ≤ address - start := by omega
    rw [List.getElem?_eq_none hlength, Option.getD_none]
  · rfl

/-- What has been copied is there. -/
theorem read_copy {memory : Memory} {start count : Nat} {bytes : List UInt8}
    (hcount : count ≤ bytes.length) :
    read (copy memory start bytes) start count = bytes.take count := by
  apply List.ext_getElem
  · rw [read, List.length_map, List.length_range, List.length_take, Nat.min_eq_left hcount]
  · intro i hi hi'
    have hlt : i < bytes.length := by
      rw [List.length_take] at hi'
      omega
    simp only [read, List.getElem_map, List.getElem_range, copy, Nat.le_add_right, if_true,
      Nat.add_sub_cancel_left, List.getElem?_eq_getElem hlt, Option.getD_some, List.getElem_take]

/-- What lies before the copied bytes is as it was. -/
theorem read_copy_of_le {memory : Memory} {start count target : Nat} {bytes : List UInt8}
    (hbefore : start + count ≤ target) :
    read (copy memory target bytes) start count = read memory start count := by
  apply List.map_congr_left
  intro i hi
  rw [List.mem_range] at hi
  apply copy_of_outside
  left
  omega

end ByteMemory
