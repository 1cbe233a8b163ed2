/-
  LivekitClient/Hysteresis.lean
  =============================
  **What a flag of the backpressure tracker says of the past**
  (`src/core/detail/data_channel_backpressure.cpp`).

  An amount strictly between the water marks changes nothing, every other one decides the flag:
  at the high mark and above it the flag is up after it, at the low mark and below it is down.
  So the flag is what the latest deciding amount of its channel since the last `Reset` says.
-/
import LivekitClient.Backpressure

namespace LivekitClient.Hysteresis

open LivekitClient.Backpressure

/-! ## 1. What has happened since the last `Reset` -/

inductive Act where
  | update (reliable : Bool) (bufferedAmount : Nat)
  | reset
deriving DecidableEq, Repr

/-- A tracker with the amounts of each channel since the last `Reset` and the changes that
    `Update` has reported of it. -/
structure History where
  tracker : DataChannelBackpressure
  amounts : Bool → List Nat := fun _ => []
  changes : Bool → List Bool := fun _ => []

namespace History

def append {α : Type} (lists : Bool → List α) (reliable : Bool) (entry : α) : Bool → List α :=
  Function.update lists reliable (lists reliable ++ [entry])

def step (history : History) : Act → History
  | .update reliable bufferedAmount =>
    let (transition, tracker) := history.tracker.update reliable bufferedAmount
    { tracker := tracker
      amounts := append history.amounts reliable bufferedAmount
      changes :=
        if transition.changed then append history.changes reliable transition.backpressured
        else history.changes }
  | .reset => { tracker := history.tracker.reset }

def run (history : History) (acts : List Act) : History := acts.foldl step history

end History

/-- The amounts that decide the flag. -/
def deciding (low high : Nat) (amounts : List Nat) : List Nat :=
  amounts.filter fun amount => !(decide (low < amount) && decide (amount < high))

/-- The latest deciding amount is at least the high water mark. -/
def SaysHigh (low high : Nat) (amounts : List Nat) : Prop :=
  ∃ amount, (deciding low high amounts).getLast? = some amount ∧ high ≤ amount

/-- What concerns a channel: its own updates and every reset. -/
def Act.concerns (reliable : Bool) : Act → Bool
  | .update channel _ => channel == reliable
  | .reset => true

/-! ## 2. One step -/

theorem not_saysHigh_nil (low high : Nat) : ¬ SaysHigh low high [] := by
  rintro ⟨amount, hlast, -⟩
  exact absurd hlast (by simp [deciding])

theorem saysHigh_append {low high : Nat} (amounts : List Nat) (amount : Nat) :
    SaysHigh low high (amounts ++ [amount]) ↔
      if low < amount ∧ amount < high then SaysHigh low high amounts else high ≤ amount := by
  unfold SaysHigh deciding
  rw [List.filter_append]
  by_cases hbetween : low < amount ∧ amount < high
  · simp [hbetween]
  · have hdecides : (!(decide (low < amount) && decide (amount < high))) = true := by
      rw [← Bool.decide_and, decide_eq_false hbetween, Bool.not_false]
    rw [if_neg hbetween, List.filter_cons_of_pos (by exact hdecides), List.filter_nil,
      List.getLast?_concat]
    constructor
    · rintro ⟨other, heq, hhigh⟩
      rwa [Option.some.inj heq]
    · intro hhigh
      exact ⟨amount, rfl, hhigh⟩

/-- An update leaves the flag of its channel between the marks, and sets it otherwise. -/
theorem backpressured_update {tracker : DataChannelBackpressure}
    (hmarks : tracker.lowWaterMark < tracker.highWaterMark) (reliable : Bool) (amount : Nat) :
    (tracker.update reliable amount).2.backpressured reliable =
      if tracker.lowWaterMark < amount ∧ amount < tracker.highWaterMark then
        tracker.backpressured reliable
      else decide (tracker.highWaterMark ≤ amount) := by
  unfold DataChannelBackpressure.update
  cases hflag : tracker.backpressured reliable with
  | false =>
    by_cases hhigh : tracker.highWaterMark ≤ amount
    · have hnot : ¬ (tracker.lowWaterMark < amount ∧ amount < tracker.highWaterMark) := by omega
      simp [hhigh, hnot, DataChannelBackpressure.backpressured_setFlag]
    · simp [hhigh, hflag]
  | true =>
    by_cases hlow : amount ≤ tracker.lowWaterMark
    · have hnot : ¬ (tracker.lowWaterMark < amount ∧ amount < tracker.highWaterMark) := by omega
      have hhigh : ¬ tracker.highWaterMark ≤ amount := by omega
      simp [hlow, hnot, hhigh, DataChannelBackpressure.backpressured_setFlag]
    · have hlow' : tracker.lowWaterMark < amount := by omega
      by_cases hhigh : amount < tracker.highWaterMark
      · simp [hlow, hlow', hhigh, hflag]
      · have hhigh' : tracker.highWaterMark ≤ amount := by omega
        simp [hlow, hhigh, hhigh', hflag]

/-- An update leaves the other channel as it is. -/
theorem backpressured_update_other (tracker : DataChannelBackpressure) {reliable other : Bool}
    (hother : other ≠ reliable) (amount : Nat) :
    (tracker.update reliable amount).2.backpressured other = tracker.backpressured other := by
  rcases tracker.update_cases reliable amount with heq | heq
  · rw [heq]
  · rw [heq]
    exact (tracker.backpressured_setFlag ..).trans (if_neg hother)

theorem marks_update (tracker : DataChannelBackpressure) (reliable : Bool) (amount : Nat) :
    (tracker.update reliable amount).2.highWaterMark = tracker.highWaterMark ∧
      (tracker.update reliable amount).2.lowWaterMark = tracker.lowWaterMark := by
  rcases tracker.update_cases reliable amount with heq | heq <;> rw [heq] <;> exact ⟨rfl, rfl⟩

namespace History

theorem append_self {α : Type} (lists : Bool → List α) (reliable : Bool) (entry : α) :
    append lists reliable entry reliable = lists reliable ++ [entry] :=
  Function.update_self ..

theorem append_other {α : Type} (lists : Bool → List α) {reliable other : Bool}
    (hother : other ≠ reliable) (entry : α) : append lists reliable entry other = lists other :=
  Function.update_of_ne hother ..

/-- An update, seen from its own channel. -/
theorem step_update_self (history : History) (reliable : Bool) (amount : Nat) :
    (history.step (.update reliable amount)).amounts reliable =
        history.amounts reliable ++ [amount] ∧
      ((history.step (.update reliable amount)).tracker.backpressured reliable =
          history.tracker.backpressured reliable ∧
        (history.step (.update reliable amount)).changes reliable = history.changes reliable ∨
      (history.step (.update reliable amount)).tracker.backpressured reliable =
          !history.tracker.backpressured reliable ∧
        (history.step (.update reliable amount)).changes reliable =
          history.changes reliable ++ [!history.tracker.backpressured reliable]) := by
  refine ⟨append_self .., ?_⟩
  rcases history.tracker.update_cases reliable amount with heq | heq
  · left
    simp only [step, heq, Bool.false_eq_true, if_false, and_self]
  · right
    simp only [step, heq, if_true]
    exact ⟨(DataChannelBackpressure.backpressured_setFlag ..).trans (if_pos rfl),
      append_self ..⟩

/-- An update, seen from the other channel. -/
theorem step_update_other (history : History) {reliable other : Bool} (hother : other ≠ reliable)
    (amount : Nat) :
    (history.step (.update reliable amount)).tracker.backpressured other =
        history.tracker.backpressured other ∧
      (history.step (.update reliable amount)).amounts other = history.amounts other ∧
      (history.step (.update reliable amount)).changes other = history.changes other := by
  refine ⟨backpressured_update_other _ hother _, append_other _ hother _, ?_⟩
  simp only [step]
  split
  · exact append_other _ hother _
  · rfl

end History

/-! ## 3. Every run -/

/-- What holds of every channel after every step. -/
structure Agrees (low high : Nat) (history : History) : Prop where
  high_eq : history.tracker.highWaterMark = high
  low_eq : history.tracker.lowWaterMark = low
  tracks : ∀ reliable,
    Tracks (history.tracker.backpressured reliable) (history.changes reliable)
  saysHigh : ∀ reliable,
    history.tracker.backpressured reliable = true ↔ SaysHigh low high (history.amounts reliable)

/-- A tracker whose flags are down and that has reported nothing yet. -/
theorem agrees_start {low high : Nat} {tracker : DataChannelBackpressure}
    (hhigh : tracker.highWaterMark = high) (hlow : tracker.lowWaterMark = low)
    (hdown : tracker.backpressured = fun _ => false) : Agrees low high { tracker := tracker } where
  high_eq := hhigh
  low_eq := hlow
  tracks reliable := by
    simp only [hdown]
    exact tracks_nil
  saysHigh reliable := by
    simp only [hdown, Bool.false_eq_true, false_iff]
    exact not_saysHigh_nil low high

theorem Agrees.step {low high : Nat} (hmarks : low < high) {history : History}
    (h : Agrees low high history) (act : Act) : Agrees low high (history.step act) := by
  cases act with
  | reset => exact agrees_start h.high_eq h.low_eq rfl
  | update reliable amount =>
    have hflag : (history.step (.update reliable amount)).tracker.backpressured reliable = _ :=
      backpressured_update (by rw [h.high_eq, h.low_eq]; exact hmarks) reliable amount
    rw [h.high_eq, h.low_eq] at hflag
    constructor
    · exact (marks_update ..).1.trans h.high_eq
    · exact (marks_update ..).2.trans h.low_eq
    · intro channel
      by_cases hchannel : channel = reliable
      · subst hchannel
        obtain ⟨-, ⟨hsame, hchanges⟩ | ⟨hturned, hchanges⟩⟩ :=
          history.step_update_self channel amount
        · rw [hsame, hchanges]
          exact h.tracks channel
        · rw [hturned, hchanges]
          exact (h.tracks channel).report
      · obtain ⟨hsame, -, hchanges⟩ := history.step_update_other hchannel amount
        rw [hsame, hchanges]
        exact h.tracks channel
    · intro channel
      by_cases hchannel : channel = reliable
      · subst hchannel
        rw [(history.step_update_self channel amount).1, saysHigh_append, hflag]
        by_cases hbetween : low < amount ∧ amount < high
        · rw [if_pos hbetween, if_pos hbetween]
          exact h.saysHigh channel
        · rw [if_neg hbetween, if_neg hbetween, decide_eq_true_eq]
      · obtain ⟨hsame, hamounts, -⟩ := history.step_update_other hchannel amount
        rw [hsame, hamounts]
        exact h.saysHigh channel

theorem Agrees.run {low high : Nat} (hmarks : low < high) {history : History}
    (h : Agrees low high history) (acts : List Act) : Agrees low high (history.run acts) := by
  induction acts generalizing history with
  | nil => exact h
  | cons act acts ih => exact ih (h.step hmarks act)

/-- The two histories look alike on a channel. -/
structure SameOn (reliable : Bool) (history other : History) : Prop where
  high_eq : history.tracker.highWaterMark = other.tracker.highWaterMark
  low_eq : history.tracker.lowWaterMark = other.tracker.lowWaterMark
  flag_eq : history.tracker.backpressured reliable = other.tracker.backpressured reliable
  changes_eq : history.changes reliable = other.changes reliable

theorem SameOn.step {reliable : Bool} {history other : History}
    (h : SameOn reliable history other) {act : Act} (hconcerns : act.concerns reliable = true) :
    SameOn reliable (history.step act) (other.step act) := by
  cases act with
  | reset => exact ⟨h.high_eq, h.low_eq, rfl, rfl⟩
  | update channel amount =>
    obtain rfl : channel = reliable := eq_of_beq hconcerns
    have hsame : (history.tracker.update channel amount).1 =
        (other.tracker.update channel amount).1 ∧
        (history.tracker.update channel amount).2.backpressured channel =
          (other.tracker.update channel amount).2.backpressured channel := by
      unfold DataChannelBackpressure.update
      rw [h.flag_eq, h.high_eq, h.low_eq]
      dsimp only
      split
      · exact ⟨rfl, by simp [DataChannelBackpressure.backpressured_setFlag]⟩
      · split
        · exact ⟨rfl, by simp [DataChannelBackpressure.backpressured_setFlag]⟩
        · exact ⟨rfl, h.flag_eq⟩
    constructor
    · rw [History.step, (marks_update ..).1]
      exact h.high_eq.trans (marks_update ..).1.symm
    · exact (marks_update ..).2.trans (h.low_eq.trans (marks_update ..).2.symm)
    · exact hsame.2
    · simp only [History.step, hsame.1]
      split
      · rw [History.append_self, History.append_self, h.changes_eq]
      · exact h.changes_eq

theorem SameOn.skip {reliable : Bool} {history other : History}
    (h : SameOn reliable history other) {act : Act} (hconcerns : act.concerns reliable = false) :
    SameOn reliable (history.step act) other := by
  cases act with
  | reset => cases hconcerns
  | update channel amount =>
    have hother : reliable ≠ channel := by
      rintro rfl
      exact absurd hconcerns (by simp [Act.concerns])
    obtain ⟨hsame, -, hchanges⟩ := history.step_update_other hother amount
    exact ⟨(marks_update ..).1.trans h.high_eq, (marks_update ..).2.trans h.low_eq,
      hsame.trans h.flag_eq, hchanges.trans h.changes_eq⟩

/-- The updates of the other channel may as well be left out. -/
theorem SameOn.run {reliable : Bool} {history other : History}
    (h : SameOn reliable history other) (acts : List Act) :
    SameOn reliable (history.run acts) (other.run (acts.filter (Act.concerns reliable))) := by
  induction acts generalizing history other with
  | nil => exact h
  | cons act acts ih =>
    by_cases hconcerns : act.concerns reliable = true
    · rw [List.filter_cons_of_pos hconcerns]
      exact ih (h.step hconcerns)
    · rw [List.filter_cons_of_neg hconcerns]
      exact ih (h.skip (Bool.not_eq_true _ ▸ hconcerns))

end LivekitClient.Hysteresis
