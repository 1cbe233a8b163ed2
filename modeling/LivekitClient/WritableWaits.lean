/-
  LivekitClient/WritableWaits.lean
  ================================
  **Waiting for a channel to be writable** (`DataChannelBackpressure::WaitUntilWritable` in
  `src/core/detail/data_channel_backpressure.cpp`).

  The wait holds the mutex of the tracker except while it is asleep, and asks the amount and
  whether the channel is open each time anew, so that two answers in a row may differ.  Other
  threads update and reset the tracker whenever the mutex is free.  A wait notices a `Reset` by
  the generation, which counts in 64 bits.
-/
import LivekitClient.Hysteresis
import LivekitClient.Runs
import LivekitClient.Traces
import Mathlib.Data.UInt

namespace LivekitClient.WritableWaits

open Runs LivekitClient.Backpressure LivekitClient.Hysteresis

/-! ## 1. The wait -/

/-- The two arguments of type `std::function`, which may be empty.  What they answer depends on
    the instant. -/
structure Callbacks where
  bufferedAmount : Option (Nat → Nat)
  isOpen : Option (Nat → Bool)

/-- Where the wait is: on entry, in the predicate of `wait_for` (`timedOut` says that it is
    evaluated for the last time), asleep, in the checks behind it, or over. -/
inductive Pc where
  | start
  | entryOpen (generation : UInt64)
  | entryAmount (generation : UInt64)
  | testGeneration (generation : UInt64) (timedOut : Bool)
  | testOpen (generation : UInt64) (timedOut : Bool)
  | testAmount (generation : UInt64) (timedOut : Bool)
  | asleep (generation : UInt64)
  | checkGeneration (generation : UInt64)
  | checkOpen (generation : UInt64)
  | checkAmount (generation : UInt64)
  | returned (result : Bool)
deriving DecidableEq

def Pc.holdsMutex : Pc → Bool
  | .start | .asleep _ | .returned _ => false
  | _ => true

/-- What has happened: what the wait did and was answered, and the sections of the others. -/
inductive Entry where
  | entered
  | isOpen (answer : Bool)
  | bufferedAmount (answer : Nat)
  | returned (result : Bool)
  | other (act : Act)
deriving DecidableEq

structure State where
  tracker : DataChannelBackpressure
  pc : Pc := .start
  clock : Nat := 0
  trace : List Entry := []

/-- A step of the waiting thread, or a section of another one.  An asleep wait wakes up when it
    is notified, for no reason, or because the time is up. -/
inductive Label where
  | wait
  | wake (timedOut : Bool)
  | other (act : Act)
deriving DecidableEq

namespace State

variable (state : State)

def goto (pc : Pc) : State := { state with pc := pc, clock := state.clock + 1 }

def record (entry : Entry) : State := { state with trace := state.trace ++ [entry] }

def finish (result : Bool) : State := (state.record (.returned result)).goto (.returned result)

/-- The predicate did not hold: the wait goes to sleep, unless the time is up. -/
def unsatisfied (generation : UInt64) (timedOut : Bool) : State :=
  if timedOut then state.finish false else state.goto (.asleep generation)

/-- Ask `is_open`. -/
def askOpen (callbacks : Callbacks) : Bool :=
  (callbacks.isOpen.getD fun _ => false) state.clock

/-- Ask `buffered_amount`. -/
def askAmount (callbacks : Callbacks) : Nat :=
  (callbacks.bufferedAmount.getD fun _ => 0) state.clock

/-- A step of `WaitUntilWritable` up to the next thing it looks at. -/
def waitStep (callbacks : Callbacks) : Option State :=
  match state.pc with
  | .start =>
    some <|
      if callbacks.bufferedAmount.isNone || callbacks.isOpen.isNone then state.finish false
      else (state.record .entered).goto (.entryOpen state.tracker.generation)
  | .entryOpen generation =>
    let answered := state.record (.isOpen (state.askOpen callbacks))
    some <|
      if !state.askOpen callbacks then answered.finish false
      else answered.goto (.entryAmount generation)
  | .entryAmount generation =>
    let answered := state.record (.bufferedAmount (state.askAmount callbacks))
    some <|
      if state.askAmount callbacks < state.tracker.highWaterMark then answered.finish true
      else answered.goto (.testGeneration generation false)
  | .testGeneration generation timedOut =>
    some <| state.goto <|
      if state.tracker.generation ≠ generation then .checkGeneration generation
      else .testOpen generation timedOut
  | .testOpen generation timedOut =>
    let answered := state.record (.isOpen (state.askOpen callbacks))
    some <| answered.goto <|
      if !state.askOpen callbacks then .checkGeneration generation
      else .testAmount generation timedOut
  | .testAmount generation timedOut =>
    let answered := state.record (.bufferedAmount (state.askAmount callbacks))
    some <|
      if state.askAmount callbacks ≤ state.tracker.lowWaterMark then
        answered.goto (.checkGeneration generation)
      else answered.unsatisfied generation timedOut
  | .checkGeneration generation =>
    some <|
      if state.tracker.generation = generation then state.goto (.checkOpen generation)
      else state.finish false
  | .checkOpen generation =>
    let answered := state.record (.isOpen (state.askOpen callbacks))
    some <|
      if state.askOpen callbacks then answered.goto (.checkAmount generation)
      else answered.finish false
  | .checkAmount _ =>
    let answered := state.record (.bufferedAmount (state.askAmount callbacks))
    some (answered.finish (decide (state.askAmount callbacks ≤ state.tracker.lowWaterMark)))
  | .asleep _ | .returned _ => none

/-- A section of another thread, which needs the mutex. -/
def otherStep (act : Act) : Option State :=
  if state.pc.holdsMutex then none
  else
    let tracker :=
      match act with
      | .update reliable bufferedAmount => (state.tracker.update reliable bufferedAmount).2
      | .reset => state.tracker.reset
    some (({ state with tracker := tracker }.record (.other act)).goto state.pc)

def step (callbacks : Callbacks) : Label → Option State
  | .wait => state.waitStep callbacks
  | .wake timedOut =>
    match state.pc with
    | .asleep generation => some (state.goto (.testGeneration generation timedOut))
    | _ => none
  | .other act => state.otherStep act

end State

def Step (callbacks : Callbacks) (state : State) (label : Label) (after : State) : Prop :=
  state.step callbacks label = some after

/-- The resets in a part of the trace. -/
def resets (trace : List Entry) : Nat := trace.count (.other .reset)

/-! ## 2. What the wait knows -/

/-- Why the wait may return true: what happened after it found the channel open on entry.  A
    wait that did not sleep was told an amount below the high water mark; a wait that did was
    told in the end that the channel is open and the amount at most the low one. -/
def Justified (low high : Nat) (during : List Entry) : Prop :=
  2 ^ 64 ∣ resets during ∧
    ((∃ amount < high, during = [.bufferedAmount amount]) ∨
      ∃ front, ∃ amount ≤ low, during = front ++ [.isOpen true, .bufferedAmount amount])

/-- The wait entered with `generation`, and `during` is what happened since the channel was
    found open. -/
def Waits (state : State) (generation : UInt64) (during : List Entry) : Prop :=
  (∃ before, state.trace = before ++ .entered :: .isOpen true :: during) ∧
    state.tracker.generation = generation + UInt64.ofNat (resets during)

/-- What holds at each place. -/
def At (low high : Nat) (state : State) : Prop :=
  match state.pc with
  | .start | .returned false => True
  | .entryOpen generation =>
    (∃ before, state.trace = before ++ [.entered]) ∧ state.tracker.generation = generation
  | .entryAmount generation => Waits state generation []
  | .testGeneration generation _ | .testOpen generation _ | .testAmount generation _
  | .asleep generation | .checkGeneration generation => ∃ during, Waits state generation during
  | .checkOpen generation =>
    ∃ during, Waits state generation during ∧ state.tracker.generation = generation
  | .checkAmount generation =>
    ∃ front, Waits state generation (front ++ [.isOpen true]) ∧
      state.tracker.generation = generation
  | .returned true =>
    ∃ before during after,
      state.trace = before ++ .entered :: .isOpen true :: during ++ .returned true :: after ∧
        Justified low high during

structure Inv (low high : Nat) (state : State) : Prop where
  high_eq : state.tracker.highWaterMark = high
  low_eq : state.tracker.lowWaterMark = low
  place : At low high state

theorem generation_update (tracker : DataChannelBackpressure) (reliable : Bool) (amount : Nat) :
    (tracker.update reliable amount).2.generation = tracker.generation := by
  rcases tracker.update_cases reliable amount with heq | heq
  · rw [heq]
  · rw [heq]
    rfl

theorem resets_append_singleton (during : List Entry) (entry : Entry) :
    resets (during ++ [entry]) = resets during + if entry = .other .reset then 1 else 0 := by
  rw [resets, List.count_append, List.count_singleton, ← resets]
  simp only [beq_iff_eq]

/-- The wait is told something. -/
theorem Waits.record {state : State} {generation : UInt64} {during : List Entry}
    (h : Waits state generation during) {entry : Entry} (hentry : entry ≠ .other .reset)
    (pc : Pc) : Waits ((state.record entry).goto pc) generation (during ++ [entry]) := by
  obtain ⟨⟨before, htrace⟩, hgeneration⟩ := h
  constructor
  · exact ⟨before, by simp [State.record, State.goto, htrace]⟩
  · rw [resets_append_singleton, if_neg hentry]
    exact hgeneration

/-- Another thread has had the mutex. -/
theorem Waits.other {state : State} {generation : UInt64} {during : List Entry}
    (h : Waits state generation during) {act : Act} {after : State}
    (hstep : state.otherStep act = some after) :
    Waits after generation (during ++ [.other act]) := by
  obtain ⟨⟨before, htrace⟩, hgeneration⟩ := h
  unfold State.otherStep at hstep
  split at hstep
  · cases hstep
  · obtain rfl := Option.some.inj hstep
    constructor
    · exact ⟨before, by simp [State.record, State.goto, htrace]⟩
    · rw [resets_append_singleton]
      cases act with
      | reset =>
        rw [if_pos rfl, UInt64.ofNat_add, ← UInt64.add_assoc, ← hgeneration]
        rfl
      | update reliable amount =>
        rw [if_neg (by simp), Nat.add_zero, ← hgeneration]
        exact generation_update state.tracker reliable amount

/-! ## 3. Every step -/

theorem otherStep_eq_some {state after : State} {act : Act}
    (hstep : state.otherStep act = some after) :
    state.pc.holdsMutex = false ∧ after.pc = state.pc ∧
      after.trace = state.trace ++ [.other act] ∧
      after.tracker.highWaterMark = state.tracker.highWaterMark ∧
      after.tracker.lowWaterMark = state.tracker.lowWaterMark := by
  unfold State.otherStep at hstep
  split at hstep
  · cases hstep
  · rename_i hfree
    obtain rfl := Option.some.inj hstep
    refine ⟨Bool.not_eq_true _ ▸ hfree, rfl, rfl, ?_⟩
    cases act with
    | reset => exact ⟨rfl, rfl⟩
    | update reliable amount => exact marks_update state.tracker reliable amount

theorem At.other {low high : Nat} {state after : State} {act : Act} (h : At low high state)
    (hstep : state.otherStep act = some after) : At low high after := by
  obtain ⟨hfree, hpc, htrace, -, -⟩ := otherStep_eq_some hstep
  unfold At at h ⊢
  rw [hpc]
  cases hplace : state.pc with
  | start => trivial
  | asleep generation =>
    rw [hplace] at h
    obtain ⟨during, hwaits⟩ := h
    exact ⟨during ++ [.other act], hwaits.other hstep⟩
  | returned result =>
    cases result with
    | false => trivial
    | true =>
      rw [hplace] at h
      obtain ⟨before, during, behind, hwhole, hjustified⟩ := h
      refine ⟨before, during, behind ++ [.other act], ?_, hjustified⟩
      rw [htrace, hwhole]
      simp
  | _ =>
    rw [hplace] at hfree
    cases hfree

theorem At.finish_false (low high : Nat) (state : State) : At low high (state.finish false) :=
  trivial

/-- The wait ends on entry. -/
theorem At.finish_entry {low high amount : Nat} {state : State} {generation : UInt64}
    (h : Waits state generation []) (hhigh : amount < high) :
    At low high ((state.record (.bufferedAmount amount)).finish true) := by
  obtain ⟨⟨before, htrace⟩, -⟩ := h
  refine ⟨before, [.bufferedAmount amount], [], ?_, dvd_zero _, Or.inl ⟨amount, hhigh, rfl⟩⟩
  simp [State.finish, State.record, State.goto, htrace]

/-- The wait ends behind the checks, which found the generation unchanged. -/
theorem At.finish_check {low high : Nat} {state : State} {generation : UInt64}
    {front : List Entry} (h : Waits state generation (front ++ [.isOpen true]))
    (hgeneration : state.tracker.generation = generation) (amount : Nat) :
    At low high ((state.record (.bufferedAmount amount)).finish (decide (amount ≤ low))) := by
  by_cases hlow : amount ≤ low
  · rw [decide_eq_true hlow]
    obtain ⟨⟨before, htrace⟩, hcounted⟩ := h
    refine ⟨before, front ++ [.isOpen true, .bufferedAmount amount], [], ?_, ?_,
      Or.inr ⟨front, amount, hlow, rfl⟩⟩
    · simp [State.finish, State.record, State.goto, htrace]
    · -- as many resets as leave the generation where it was
      have hresets : resets (front ++ [.isOpen true, .bufferedAmount amount]) =
          resets (front ++ [.isOpen true]) := by
        rw [List.append_cons, resets_append_singleton, if_neg (by simp), Nat.add_zero]
      have hzero : UInt64.ofNat (resets (front ++ [.isOpen true])) = 0 := by
        rw [hgeneration] at hcounted
        exact UInt64.add_eq_left.mp hcounted.symm
      have hmod := congrArg UInt64.toNat hzero
      rw [UInt64.toNat_ofNat'] at hmod
      rw [hresets]
      exact Nat.dvd_of_mod_eq_zero hmod
  · rw [decide_eq_false hlow]
    exact At.finish_false low high _

theorem At.wait {low high : Nat} {callbacks : Callbacks} {state after : State}
    (hhigh : state.tracker.highWaterMark = high) (hlow : state.tracker.lowWaterMark = low)
    (h : At low high state) (hstep : state.waitStep callbacks = some after) :
    At low high after := by
  unfold At at h
  unfold State.waitStep at hstep
  cases hplace : state.pc <;> rw [hplace] at h hstep <;> dsimp only at h hstep <;>
    first | cases hstep; done | obtain rfl := Option.some.inj hstep
  case start =>
    split
    · exact At.finish_false low high state
    · exact ⟨⟨state.trace, rfl⟩, rfl⟩
  case entryOpen generation =>
    obtain ⟨⟨before, htrace⟩, hgeneration⟩ := h
    split
    · exact At.finish_false low high _
    · rename_i hopen
      rw [Bool.not_eq_true, Bool.not_eq_false'] at hopen
      refine ⟨⟨before, ?_⟩, hgeneration.trans (UInt64.add_zero _).symm⟩
      simp [State.record, State.goto, htrace, hopen]
  case entryAmount generation =>
    split
    · rename_i hless
      exact At.finish_entry h (hhigh ▸ hless)
    · exact ⟨_, h.record (by simp) _⟩
  case testGeneration generation timedOut =>
    split <;> exact h
  case testOpen generation timedOut =>
    obtain ⟨during, hwaits⟩ := h
    split <;> exact ⟨_, hwaits.record (by simp) _⟩
  case testAmount generation timedOut =>
    obtain ⟨during, hwaits⟩ := h
    split
    · exact ⟨_, hwaits.record (by simp) _⟩
    · unfold State.unsatisfied
      split
      · exact At.finish_false low high _
      · exact ⟨_, hwaits.record (by simp) _⟩
  case checkGeneration generation =>
    obtain ⟨during, hwaits⟩ := h
    split
    · rename_i hgeneration
      exact ⟨during, hwaits, hgeneration⟩
    · exact At.finish_false low high state
  case checkOpen generation =>
    obtain ⟨during, hwaits, hgeneration⟩ := h
    split
    · rename_i hopen
      refine ⟨during, ?_, hgeneration⟩
      rw [← hopen]
      exact hwaits.record (by simp) _
    · exact At.finish_false low high _
  case checkAmount generation =>
    obtain ⟨front, hwaits, hgeneration⟩ := h
    rw [hlow]
    exact At.finish_check hwaits hgeneration _

theorem waitStep_tracker {callbacks : Callbacks} {state after : State}
    (hstep : state.waitStep callbacks = some after) : after.tracker = state.tracker := by
  unfold State.waitStep at hstep
  cases hplace : state.pc <;> rw [hplace] at hstep <;> dsimp only at hstep <;>
    first | cases hstep; done | obtain rfl := Option.some.inj hstep
  all_goals first
    | rfl
    | split <;> first
      | rfl
      | unfold State.unsatisfied; split <;> rfl

theorem Inv.step {low high : Nat} {callbacks : Callbacks} {state after : State} {label : Label}
    (h : Inv low high state) (hstep : Step callbacks state label after) : Inv low high after := by
  cases label with
  | wait =>
    have htracker := waitStep_tracker hstep
    exact ⟨htracker ▸ h.high_eq, htracker ▸ h.low_eq, h.place.wait h.high_eq h.low_eq hstep⟩
  | other act =>
    obtain ⟨-, -, -, hhigh, hlow⟩ := otherStep_eq_some hstep
    exact ⟨hhigh.trans h.high_eq, hlow.trans h.low_eq, h.place.other hstep⟩
  | wake timedOut =>
    have hplace := h.place
    unfold At at hplace
    unfold Step State.step at hstep
    dsimp only at hstep
    split at hstep
    · rename_i generation hasleep
      rw [hasleep] at hplace
      obtain rfl := Option.some.inj hstep
      exact ⟨h.high_eq, h.low_eq, hplace⟩
    · cases hstep

/-! ## 4. Every run -/

/-- **The flag and the wait follow the amounts.**  After every sequence of updates and resets,
    what has been reported of a channel since the last reset goes up and down in turn; its flag
    is up just if the latest deciding amount is at least the high water mark; and what is
    reported and the flag are the same without the updates of the other channel.  In every run
    of a wait among the sections of other threads, it returns true only for a reason. -/
theorem hysteresis {low high : Nat} (hmarks : low < high) :
    (∃ tracker, new high low = .ok tracker ∧ ∀ (acts : List Act) (reliable : Bool),
      ((History.run { tracker := tracker } acts).changes reliable =
        alternating ((History.run { tracker := tracker } acts).changes reliable).length) ∧
      ((History.run { tracker := tracker } acts).tracker.backpressured reliable = true ↔
        SaysHigh low high ((History.run { tracker := tracker } acts).amounts reliable)) ∧
      SameOn reliable (History.run { tracker := tracker } acts)
        (History.run { tracker := tracker } (acts.filter (Act.concerns reliable)))) ∧
    ∀ (callbacks : Callbacks) (start after : State) (labels : List Label),
      start.tracker.highWaterMark = high → start.tracker.lowWaterMark = low →
      start.pc = .start → Exec (Step callbacks) start labels after →
      after.pc = .returned true →
      ∃ before during behind,
        after.trace = before ++ Entry.entered :: Entry.isOpen true :: during ++
            Entry.returned true :: behind ∧
          Justified low high during := by
  constructor
  · refine ⟨{ highWaterMark := high, lowWaterMark := low }, ?_, ?_⟩
    · rw [new, if_neg (by omega)]
    · intro acts reliable
      have hstart : Agrees low high
          { tracker := { highWaterMark := high, lowWaterMark := low } } :=
        agrees_start rfl rfl rfl
      have hagrees := hstart.run hmarks acts
      exact ⟨(hagrees.tracks reliable).alternates, hagrees.saysHigh reliable,
        SameOn.run ⟨rfl, rfl, rfl, rfl⟩ acts⟩
  · intro callbacks start after labels hhigh hlow hstart hrun hreturned
    have hinit : Inv low high start := by
      refine ⟨hhigh, hlow, ?_⟩
      unfold At
      rw [hstart]
      trivial
    have hplace := (hrun.invariant (fun _ _ _ hinv hstep => hinv.step hstep) hinit).place
    unfold At at hplace
    rw [hreturned] at hplace
    exact hplace

/-- The channel is open all the time and has drained from the sixth instant on. -/
def drainingChannel : Callbacks where
  bufferedAmount := some fun clock => if clock < 6 then 10 else 0
  isOpen := some fun _ => true

/-- A wait goes to sleep over a full channel and is woken up after an update. -/
def sleepingLabels : List Label :=
  List.replicate 6 .wait ++ [.other (.update true 3), .wake false] ++ List.replicate 6 .wait

def sleepingWait : Option State :=
  sleepingLabels.foldlM (fun (state : State) label => state.step drainingChannel label)
    { tracker := { highWaterMark := 10, lowWaterMark := 5 } }

theorem hysteresis_levels :
    (∃ tracker, new 10 5 = .ok tracker ∧
      (History.run { tracker := tracker }
          [.update true 12, .update true 7, .update false 20, .update true 3]).changes true =
        alternating ((History.run { tracker := tracker }
          [.update true 12, .update true 7, .update false 20, .update true 3]).changes
            true).length) ∧
    ∃ after, sleepingWait = some after ∧ after.pc = .returned true ∧
      Entry.other (.update true 3) ∈ after.trace ∧
      ∃ before during behind,
        after.trace = before ++ Entry.entered :: Entry.isOpen true :: during ++
            Entry.returned true :: behind ∧
          Justified 5 10 during := by
  obtain ⟨⟨tracker, hnew, hruns⟩, hwaits⟩ := hysteresis (show 5 < 10 by decide)
  refine ⟨⟨tracker, hnew, (hruns _ true).1⟩, ?_⟩
  have hrun : sleepingWait.map (fun after =>
      (after.pc, after.trace.contains (.other (.update true 3)))) =
        some (.returned true, true) := by
    decide +kernel
  obtain ⟨after, hafter, hends⟩ := Option.map_eq_some_iff.1 hrun
  obtain ⟨hpc, hupdated⟩ := Prod.mk.inj hends
  exact ⟨after, hafter, hpc, List.contains_iff_mem.1 hupdated,
    hwaits drainingChannel _ after sleepingLabels rfl rfl rfl (exec_foldlM _ hafter) hpc⟩

/-! ## 5. A generation that comes round

A wait that sleeps through 2^64 resets finds the generation it began with. -/

theorem resets_while_asleep (callbacks : Callbacks) {state : State} {generation : UInt64}
    (hasleep : state.pc = .asleep generation) (n : Nat) :
    ∃ after, Exec (Step callbacks) state (List.replicate n (.other .reset)) after ∧
      after.pc = .asleep generation ∧ state.clock ≤ after.clock ∧
      after.trace = state.trace ++ List.replicate n (.other .reset) ∧
      after.tracker.lowWaterMark = state.tracker.lowWaterMark ∧
      after.tracker.generation = state.tracker.generation + UInt64.ofNat n := by
  induction n with
  | zero =>
    exact ⟨state, .nil state, hasleep, Nat.le_refl _, (List.append_nil _).symm, rfl,
      (UInt64.add_zero _).symm⟩
  | succ n ih =>
    obtain ⟨middle, hrun, hpc, hclock, htrace, hlow, hgeneration⟩ := ih
    refine ⟨(({ middle with tracker := middle.tracker.reset }.record (.other .reset)).goto
      middle.pc), ?_, hpc, Nat.le_succ_of_le hclock, ?_, hlow, ?_⟩
    · rw [List.replicate_succ']
      refine hrun.append (.cons ?_ (.nil _))
      simp [Step, State.step, State.otherStep, hpc, Pc.holdsMutex]
    · rw [List.replicate_succ', ← List.append_assoc, ← htrace]
      rfl
    · rw [UInt64.ofNat_add, ← UInt64.add_assoc, ← hgeneration]
      rfl

/-- The wait goes to sleep over a full channel. -/
def fallenAsleep : State where
  tracker := { highWaterMark := 10, lowWaterMark := 5 }
  pc := .asleep 0
  clock := 6
  trace := [.entered, .isOpen true, .bufferedAmount 10, .isOpen true, .bufferedAmount 10]

/-- Woken up with the generation it began with, the wait finds the channel drained. -/
theorem wakes_up {state : State} (hasleep : state.pc = .asleep 0) (hclock : 6 ≤ state.clock)
    (hgeneration : state.tracker.generation = 0) :
    ∃ after, Exec (Step drainingChannel) state
        [.wake false, .wait, .wait, .wait, .wait, .wait, .wait] after ∧
      after.pc = .returned true ∧
      after.trace = state.trace ++ [Entry.isOpen true, Entry.bufferedAmount 0,
        Entry.isOpen true, Entry.bufferedAmount 0] ++ [Entry.returned true] := by
  obtain ⟨tracker, pc, clock, trace⟩ := state
  dsimp only at hasleep hclock hgeneration
  subst hasleep
  have hdrained : ∀ n, ¬ clock + n < 6 := by omega
  refine ⟨⟨tracker, .returned true, clock + 7, trace ++ [Entry.isOpen true,
    Entry.bufferedAmount 0, Entry.isOpen true, Entry.bufferedAmount 0] ++
      [Entry.returned true]⟩, ?_, rfl, rfl⟩
  refine .cons (t := ⟨tracker, .testGeneration 0 false, clock + 1, trace⟩) ?_ ?_
  · rfl
  refine .cons (t := ⟨tracker, .testOpen 0 false, clock + 2, trace⟩) ?_ ?_
  · simp [Step, State.step, State.waitStep, State.goto, hgeneration]
  refine .cons (t := ⟨tracker, .testAmount 0 false, clock + 3, trace ++ [.isOpen true]⟩) ?_ ?_
  · rfl
  refine .cons (t := ⟨tracker, .checkGeneration 0, clock + 4,
    trace ++ [.isOpen true, .bufferedAmount 0]⟩) ?_ ?_
  · simp [Step, State.step, State.waitStep, State.goto, State.record, State.askAmount,
      drainingChannel, hdrained]
  refine .cons (t := ⟨tracker, .checkOpen 0, clock + 5,
    trace ++ [.isOpen true, .bufferedAmount 0]⟩) ?_ ?_
  · simp [Step, State.step, State.waitStep, State.goto, hgeneration]
  refine .cons (t := ⟨tracker, .checkAmount 0, clock + 6,
    trace ++ [.isOpen true, .bufferedAmount 0, .isOpen true]⟩) ?_ ?_
  · simp [Step, State.step, State.waitStep, State.goto, State.record, State.askOpen,
      drainingChannel]
  refine .cons ?_ (.nil _)
  simp [Step, State.step, State.waitStep, State.goto, State.record, State.finish,
    State.askAmount, drainingChannel, hdrained]

/-- The reset entries of the trace lie between the entry of the wait and its return. -/
theorem reset_mem_during {slept before during behind : List Entry} {entry : Entry}
    (hslept : ∀ other ∈ slept, other ≠ .entered ∧ other ≠ .returned true) (hentry : entry ∈ slept)
    (hcut : Entry.entered :: slept ++ [Entry.returned true] =
      before ++ Entry.entered :: during ++ Entry.returned true :: behind) : entry ∈ during := by
  rcases Traces.append_singleton_eq_iff.1 hcut with ⟨hfront, -, -⟩ | ⟨front, -, hfront⟩
  · cases before with
    | nil => exact (List.cons.inj hfront).2 ▸ hentry
    | cons first before =>
      have hmem : .entered ∈ slept := by
        rw [← (List.cons.inj hfront).2]
        simp
      exact absurd rfl (hslept _ hmem).1
  · have hmem : .returned true ∈ .entered :: slept := by
      rw [hfront]
      simp
    have hmem' : .returned true ∈ slept := by simpa using hmem
    exact absurd rfl (hslept _ hmem').2

/-- A wait that slept through 2^64 resets returns true. -/
theorem wrapped_generation_goes_unnoticed :
    ¬ ∀ (callbacks : Callbacks) (start after : State) (labels : List Label),
      start.tracker.highWaterMark = 10 → start.tracker.lowWaterMark = 5 →
      start.pc = .start → start.trace = [] → Exec (Step callbacks) start labels after →
      after.pc = .returned true →
      ∃ before during behind,
        after.trace = before ++ Entry.entered :: during ++ Entry.returned true :: behind ∧
          Entry.other .reset ∉ during := by
  intro hall
  obtain ⟨n, hpos, hround⟩ : ∃ n, n ≠ 0 ∧ UInt64.ofNat n = 0 :=
    ⟨2 ^ 64, by decide, UInt64.toNat_inj.mp (UInt64.toNat_ofNat'.trans (Nat.mod_self _))⟩
  have henter : Exec (Step drainingChannel)
      { tracker := { highWaterMark := 10, lowWaterMark := 5 } }
      [.wait, .wait, .wait, .wait, .wait, .wait] fallenAsleep :=
    .cons rfl (.cons rfl (.cons rfl (.cons rfl (.cons rfl (.cons rfl (.nil _))))))
  obtain ⟨asleep, hsleep, hpc, hclock, htrace, -, hgeneration⟩ :=
    resets_while_asleep drainingChannel (show fallenAsleep.pc = .asleep 0 from rfl) n
  obtain ⟨after, hwake, hreturned, hwhole⟩ := wakes_up hpc hclock
    (by rw [hgeneration, hround]; rfl)
  obtain ⟨before, during, behind, hcut, hnone⟩ := hall drainingChannel _ after _ rfl rfl rfl rfl
    (henter.append (hsleep.append hwake)) hreturned
  have hresets : ∀ entry, entry ∈ List.replicate n (Entry.other .reset) ↔
      entry = .other .reset := fun entry => List.mem_replicate.trans (and_iff_right hpos)
  rw [hwhole, htrace] at hcut
  have hcut' : Entry.entered :: ([Entry.isOpen true, Entry.bufferedAmount 10, Entry.isOpen true,
      Entry.bufferedAmount 10] ++ List.replicate n (Entry.other .reset) ++ [Entry.isOpen true,
      Entry.bufferedAmount 0, Entry.isOpen true, Entry.bufferedAmount 0]) ++
        [Entry.returned true] =
      before ++ Entry.entered :: during ++ Entry.returned true :: behind := hcut
  refine hnone (reset_mem_during ?_ (by simp [hresets]) hcut')
  intro other hmem
  simp only [List.mem_append, hresets, List.mem_cons, List.not_mem_nil, or_false] at hmem
  constructor <;> rintro rfl <;> simp at hmem

end LivekitClient.WritableWaits
