/-
  LivekitClient/Backpressure.lean
  ===============================
  **The backpressure tracker** (`src/core/detail/data_channel_backpressure.cpp`).

  The tracker has a flag for each of the two data channels.  A flag goes up at the high water
  mark and down at the low one, and in between it stays, so that what `Update` reports of a
  channel goes up and down in turn.
-/
import Mathlib.Logic.Function.Basic
import Mathlib.Tactic.Common

namespace LivekitClient.Backpressure

/-! ## 1. The tracker -/

/-- `DataChannelBufferTransition`. -/
structure DataChannelBufferTransition where
  changed : Bool := false
  backpressured : Bool := false
deriving DecidableEq, Repr

/-- `DataChannelBackpressure`; `backpressured` has the flag of the reliable and of the lossy
    channel. -/
structure DataChannelBackpressure where
  highWaterMark : Nat
  lowWaterMark : Nat
  backpressured : Bool → Bool := fun _ => false
  generation : UInt64 := 0

/-- The constructor, which throws unless the marks satisfy `0 <= low < high`. -/
def new (highWaterMark lowWaterMark : Nat) : Except String DataChannelBackpressure :=
  if highWaterMark = 0 ∨ highWaterMark ≤ lowWaterMark then
    .error "data channel water marks must satisfy 0 <= low < high"
  else .ok { highWaterMark := highWaterMark, lowWaterMark := lowWaterMark }

namespace DataChannelBackpressure

variable (tracker : DataChannelBackpressure)

def setFlag (reliable flag : Bool) : DataChannelBackpressure :=
  { tracker with backpressured := Function.update tracker.backpressured reliable flag }

/-- `Update`. -/
def update (reliable : Bool) (bufferedAmount : Nat) :
    DataChannelBufferTransition × DataChannelBackpressure :=
  let backpressured := tracker.backpressured reliable
  if !backpressured && decide (tracker.highWaterMark ≤ bufferedAmount) then
    (⟨true, true⟩, tracker.setFlag reliable true)
  else if backpressured && decide (bufferedAmount ≤ tracker.lowWaterMark) then
    (⟨true, false⟩, tracker.setFlag reliable false)
  else (⟨false, backpressured⟩, tracker)

/-- `Reset`. -/
def reset : DataChannelBackpressure :=
  { tracker with backpressured := fun _ => false, generation := tracker.generation + 1 }

/-- What an update can do: nothing, or turn the flag of its channel over and report it. -/
theorem update_cases (reliable : Bool) (bufferedAmount : Nat) :
    tracker.update reliable bufferedAmount =
        (⟨false, tracker.backpressured reliable⟩, tracker) ∨
      tracker.update reliable bufferedAmount =
        (⟨true, !tracker.backpressured reliable⟩,
          tracker.setFlag reliable (!tracker.backpressured reliable)) := by
  unfold update
  cases tracker.backpressured reliable with
  | false =>
    by_cases hhigh : tracker.highWaterMark ≤ bufferedAmount
    · exact .inr (by simp [hhigh])
    · exact .inl (by simp [hhigh])
  | true =>
    by_cases hlow : bufferedAmount ≤ tracker.lowWaterMark
    · exact .inr (by simp [hlow])
    · exact .inl (by simp [hlow])

theorem backpressured_setFlag (reliable flag other : Bool) :
    (tracker.setFlag reliable flag).backpressured other =
      if other = reliable then flag else tracker.backpressured other :=
  Function.update_apply ..

end DataChannelBackpressure

/-! ## 2. Up and down in turn -/

/-- The first `n` reports of a channel: up, down, up and so on. -/
def alternating (n : Nat) : List Bool := (List.range n).map fun i => i % 2 == 0

theorem alternating_succ (n : Nat) : alternating (n + 1) = alternating n ++ [n % 2 == 0] := by
  rw [alternating, List.range_succ, List.map_append, List.map_singleton, ← alternating]

theorem eq_alternating_of_front {reported : List Bool} {n : Nat}
    (hfront : reported <+: alternating n) : reported = alternating reported.length := by
  have hlength : reported.length ≤ n := by
    have hle := hfront.length_le
    rwa [alternating, List.length_map, List.length_range] at hle
  rw [List.prefix_iff_eq_take] at hfront
  calc reported = (alternating n).take reported.length := hfront
    _ = ((List.range n).take reported.length).map fun i => i % 2 == 0 := List.map_take.symm
    _ = alternating reported.length := by
        rw [List.take_range, Nat.min_eq_left hlength, alternating]

/-- What has been reported of a channel, against its flag. -/
structure Tracks (flag : Bool) (reported : List Bool) : Prop where
  alternates : reported = alternating reported.length
  flag_eq : flag = (reported.length % 2 == 1)

theorem tracks_nil : Tracks false [] := ⟨rfl, rfl⟩

theorem Tracks.report {flag : Bool} {reported : List Bool} (h : Tracks flag reported) :
    Tracks (!flag) (reported ++ [!flag]) := by
  have hflag : (!flag) = (reported.length % 2 == 0) := by
    rw [h.flag_eq]
    rcases Nat.mod_two_eq_zero_or_one reported.length with heven | hodd
    · rw [heven]
      rfl
    · rw [hodd]
      rfl
  have hlength : (reported ++ [!flag]).length = reported.length + 1 := List.length_append
  constructor
  · rw [hlength, alternating_succ, ← h.alternates, hflag]
  · rw [hlength, hflag, beq_eq_beq]
    omega

/-- The latest report is the flag. -/
theorem Tracks.getLast {flag : Bool} {reported : List Bool} (h : Tracks flag reported) :
    reported.getLast?.getD false = flag := by
  rw [h.flag_eq, h.alternates]
  cases hlength : reported.length with
  | zero => simp [alternating]
  | succ n =>
    have halternating : (alternating (n + 1)).length = n + 1 := by simp [alternating]
    rw [halternating, alternating_succ, List.getLast?_concat, Option.getD_some, beq_eq_beq]
    omega

end LivekitClient.Backpressure
