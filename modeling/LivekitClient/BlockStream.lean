/-
  LivekitClient/BlockStream.lean
  ==============================
  **A stream cut into blocks of one size.**

  Whoever gets the stream in pieces of any length and keeps what does not fill a block
  gets the blocks of the whole stream: `blocks_append` and `rest_append` say what a further
  piece adds.
-/
import Mathlib.Tactic.Common

namespace BlockStream

variable {α : Type*} {size : Nat}

/-- The full blocks, one after the other. -/
def blocks (size : Nat) (stream : List α) : List (List α) :=
  (List.range (stream.length / size)).map fun i => (stream.drop (size * i)).take size

/-- What does not fill a block. -/
def rest (size : Nat) (stream : List α) : List α :=
  stream.drop (size * (stream.length / size))

theorem length_blocks (size : Nat) (stream : List α) :
    (blocks size stream).length = stream.length / size := by
  rw [blocks, List.length_map, List.length_range]

theorem length_rest (size : Nat) (stream : List α) :
    (rest size stream).length = stream.length % size := by
  rw [rest, List.length_drop, Nat.mod_eq_sub_mul_div]

theorem blocks_of_lt {stream : List α} (hshort : stream.length < size) :
    blocks size stream = [] := by
  rw [blocks, Nat.div_eq_of_lt hshort, List.range_zero, List.map_nil]

theorem rest_of_lt {stream : List α} (hshort : stream.length < size) :
    rest size stream = stream := by
  rw [rest, Nat.div_eq_of_lt hshort, Nat.mul_zero, List.drop_zero]

theorem blocks_of_le (hsize : 0 < size) {stream : List α} (hlong : size ≤ stream.length) :
    blocks size stream = stream.take size :: blocks size (stream.drop size) := by
  have hcount : stream.length / size = (stream.drop size).length / size + 1 := by
    rw [List.length_drop, ← Nat.div_eq_sub_div hsize hlong]
  rw [blocks, hcount, List.range_succ_eq_map, List.map_cons, List.map_map, Nat.mul_zero,
    List.drop_zero, blocks]
  congr 1
  refine List.map_congr_left fun i _ => ?_
  rw [Function.comp_apply, List.drop_drop, Nat.mul_succ, Nat.add_comm]

theorem rest_of_le (hsize : 0 < size) {stream : List α} (hlong : size ≤ stream.length) :
    rest size stream = rest size (stream.drop size) := by
  have hcount : stream.length / size = (stream.drop size).length / size + 1 := by
    rw [List.length_drop, ← Nat.div_eq_sub_div hsize hlong]
  rw [rest, hcount, rest, List.drop_drop, Nat.mul_succ, Nat.add_comm]

/-- A further piece adds the blocks of what was kept and the piece. -/
theorem blocks_append (hsize : 0 < size) (stream piece : List α) :
    blocks size (stream ++ piece) =
      blocks size stream ++ blocks size (rest size stream ++ piece) := by
  by_cases hshort : stream.length < size
  · rw [blocks_of_lt hshort, rest_of_lt hshort, List.nil_append]
  · have hlong : size ≤ stream.length := Nat.le_of_not_lt hshort
    have ih := blocks_append hsize (stream.drop size) piece
    rw [blocks_of_le hsize hlong, rest_of_le hsize hlong, List.cons_append, ← ih,
      blocks_of_le hsize (by rw [List.length_append]; omega),
      List.take_append_of_le_length hlong, List.drop_append_of_le_length hlong]
termination_by stream.length
decreasing_by
  rw [List.length_drop]
  omega

theorem rest_append (hsize : 0 < size) (stream piece : List α) :
    rest size (stream ++ piece) = rest size (rest size stream ++ piece) := by
  by_cases hshort : stream.length < size
  · rw [rest_of_lt hshort]
  · have hlong : size ≤ stream.length := Nat.le_of_not_lt hshort
    have ih := rest_append hsize (stream.drop size) piece
    rw [rest_of_le hsize hlong, ← ih, rest_of_le hsize (by rw [List.length_append]; omega),
      List.drop_append_of_le_length hlong]
termination_by stream.length
decreasing_by
  rw [List.length_drop]
  omega

end BlockStream
