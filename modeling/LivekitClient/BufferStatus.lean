/-
  LivekitClient/BufferStatus.lean
  ===============================
  **The way of a buffer status event** (`UpdateDataChannelBufferStatus`,
  `QueueDataChannelBufferStatusEvent` and `RunRpcWorker` in `src/core/detail/rtc_engine.cpp`).

  A transition of the tracker becomes an event in three steps: it is taken under the mutex of
  the tracker, put into the task queue under the mutex of the queue, and handed to the listener
  by the worker that took the task.  Between the steps the others go on, so that a later
  transition may get into the queue first, and a later event may be handed over first.

  The sections under a mutex and the calls of the listener are the steps.  A list of calls
  under way is in the order in which they got where they are.
-/
import LivekitClient.Backpressure
import LivekitClient.Runs
import LivekitClient.Traces
import Mathlib.Data.List.InsertIdx

namespace LivekitClient.BufferStatus

open Runs Traces LivekitClient.Backpressure

/-! ## 1. The engine -/

structure DataChannelBufferStatus where
  reliable : Bool
  bufferedAmount : Nat
  highWaterMark : Nat
  lowWaterMark : Nat
  backpressured : Bool
deriving DecidableEq, Repr

/-- What is in `rpc_tasks_`. -/
inductive Task where
  | update (channel : Nat) (reliable : Bool)
  | event (status : DataChannelBufferStatus)
  | rpc
deriving DecidableEq, Repr

/-- A call of `UpdateDataChannelBufferStatus`, by a worker or by `SendDataPacket`, until the
    tracker is updated.  `current` says that its channel was found to be the current one. -/
structure Update where
  channel : Nat
  reliable : Bool
  byWorker : Bool
  current : Bool := false
deriving DecidableEq, Repr

/-- `RtcEngine`, as far as the buffer status goes.  `sendLock` has the channel that
    `SendDataPacket` works on while it holds the send mutex, `unqueued` the transitions that
    are not in the queue yet and whether a worker has them, and `delivering` the events that a
    worker has taken.  `transitions` and `delivered` are what has happened so far. -/
structure Engine where
  tracker : DataChannelBackpressure
  channels : Bool → Option Nat := fun _ => none
  sendLock : Bool → Option Nat := fun _ => none
  stopping : Bool := false
  tasks : List Task := []
  rpcs : Nat := 0
  updates : List Update := []
  unqueued : List (DataChannelBufferStatus × Bool) := []
  delivering : List DataChannelBufferStatus := []
  transitions : List DataChannelBufferStatus := []
  delivered : List DataChannelBufferStatus := []

inductive Act where
  | registerDataChannel (channel : Nat) (reliable : Bool)
  | unregisterDataChannels
  | reset
  | bufferedAmountChange (channel : Nat) (reliable : Bool)
  | rpcRequest
  | stopRpcWorkers
  | runTask
  | finishRpc
  | lockSend (channel : Nat) (reliable : Bool)
  | unlockSend (reliable : Bool)
  | sendUpdate (reliable : Bool)
  | checkChannel (i : Nat)
  | update (i : Nat) (amount : Nat)
  | queueEvent (i : Nat)
  | deliver (i : Nat)
deriving DecidableEq, Repr

def kDataChannelHighWaterMark : Nat := 4 * 1024 * 1024

def kDataChannelLowWaterMark : Nat := 1 * 1024 * 1024

namespace Engine

def new : Engine :=
  { tracker :=
      { highWaterMark := kDataChannelHighWaterMark, lowWaterMark := kDataChannelLowWaterMark } }

variable (engine : Engine)

/-- The workers that are running a task. -/
def busyWorkers : Nat :=
  (engine.updates.filter (·.byWorker)).length + (engine.unqueued.filter (·.2)).length +
    engine.delivering.length + engine.rpcs

/-- `SendDataPacket` is in one of its own updates. -/
def sendUpdating (reliable : Bool) : Bool :=
  engine.updates.any (fun update => !update.byWorker && update.reliable == reliable) ||
    engine.unqueued.any fun entry => !entry.2 && entry.1.reliable == reliable

/-- `rpc_tasks_.emplace_back`, unless the workers are stopping. -/
def queueTask (task : Task) : Engine :=
  if engine.stopping then engine else { engine with tasks := engine.tasks ++ [task] }

def stopRpcWorkers : Engine := { engine with stopping := true, tasks := [] }

/-- One of the two workers takes a task and runs it. -/
def runTask : Engine :=
  if 2 ≤ engine.busyWorkers then engine
  else
    match engine.tasks with
    | [] => engine
    | .update channel reliable :: tasks =>
      { engine with
        tasks := tasks
        updates := engine.updates ++
          [{ channel := channel, reliable := reliable, byWorker := true }] }
    | .event status :: tasks =>
      { engine with tasks := tasks, delivering := engine.delivering ++ [status] }
    | .rpc :: tasks => { engine with tasks := tasks, rpcs := engine.rpcs + 1 }

def lockSend (channel : Nat) (reliable : Bool) : Engine :=
  if (engine.sendLock reliable).isSome then engine
  else { engine with sendLock := Function.update engine.sendLock reliable (some channel) }

def unlockSend (reliable : Bool) : Engine :=
  if engine.sendUpdating reliable then engine
  else { engine with sendLock := Function.update engine.sendLock reliable none }

def sendUpdate (reliable : Bool) : Engine :=
  match engine.sendLock reliable with
  | none => engine
  | some channel =>
    if engine.sendUpdating reliable then engine
    else
      { engine with
        updates := engine.updates ++
          [{ channel := channel, reliable := reliable, byWorker := false }] }

/-- `UpdateDataChannelBufferStatus` under `data_channels_lock_`: it returns unless its channel
    is the current one. -/
def checkChannel (i : Nat) : Engine :=
  match engine.updates[i]? with
  | none => engine
  | some update =>
    if update.current then engine
    else if engine.channels update.reliable = some update.channel then
      { engine with updates := engine.updates.set i { update with current := true } }
    else { engine with updates := engine.updates.eraseIdx i }

/-- The tracker has reported a transition, which is not in the queue yet. -/
def record (status : DataChannelBufferStatus) (byWorker : Bool) : Engine :=
  { engine with
    transitions := engine.transitions ++ [status]
    unqueued := engine.unqueued ++ [(status, byWorker)] }

/-- `UpdateDataChannelBufferStatus` at `Update`, with the amount it has read before. -/
def update (i : Nat) (amount : Nat) : Engine :=
  match engine.updates[i]? with
  | none => engine
  | some update =>
    if !update.current then engine
    else
      let (transition, tracker) := engine.tracker.update update.reliable amount
      let engine := { engine with tracker := tracker, updates := engine.updates.eraseIdx i }
      if !transition.changed then engine
      else
        engine.record ⟨update.reliable, amount, tracker.highWaterMark, tracker.lowWaterMark,
          transition.backpressured⟩ update.byWorker

/-- `QueueDataChannelBufferStatusEvent`. -/
def queueEvent (i : Nat) : Engine :=
  match engine.unqueued[i]? with
  | none => engine
  | some entry =>
    { engine with unqueued := engine.unqueued.eraseIdx i }.queueTask (.event entry.1)

/-- The listener is called. -/
def deliver (i : Nat) : Engine :=
  match engine.delivering[i]? with
  | none => engine
  | some status =>
    { engine with
      delivering := engine.delivering.eraseIdx i
      delivered := engine.delivered ++ [status] }

def step : Act → Engine
  | .registerDataChannel channel reliable =>
    { engine with channels := Function.update engine.channels reliable (some channel) }
  | .unregisterDataChannels => { engine with channels := fun _ => none }
  | .reset => { engine with tracker := engine.tracker.reset }
  | .bufferedAmountChange channel reliable => engine.queueTask (.update channel reliable)
  | .rpcRequest => engine.queueTask .rpc
  | .stopRpcWorkers => engine.stopRpcWorkers
  | .runTask => engine.runTask
  | .finishRpc => { engine with rpcs := engine.rpcs - 1 }
  | .lockSend channel reliable => engine.lockSend channel reliable
  | .unlockSend reliable => engine.unlockSend reliable
  | .sendUpdate reliable => engine.sendUpdate reliable
  | .checkChannel i => engine.checkChannel i
  | .update i amount => engine.update i amount
  | .queueEvent i => engine.queueEvent i
  | .deliver i => engine.deliver i

/-- The workers wait for a task, and no update is under way. -/
structure Idle : Prop where
  stopping : engine.stopping = false
  tasks : engine.tasks = []
  rpcs : engine.rpcs = 0
  updates : engine.updates = []
  unqueued : engine.unqueued = []
  delivering : engine.delivering = []

end Engine

/-- The statuses of one channel. -/
def ofChannel (reliable : Bool) (statuses : List DataChannelBufferStatus) :
    List DataChannelBufferStatus :=
  statuses.filter fun status => decide (status.reliable = reliable)

def queuedEvents (tasks : List Task) : List DataChannelBufferStatus :=
  tasks.filterMap fun
    | .event status => some status
    | _ => none

/-- What the listener was told last about a channel. -/
def lastBackpressured (engine : Engine) (reliable : Bool) : Bool :=
  ((ofChannel reliable engine.delivered).map (·.backpressured)).getLast?.getD false

/-- The events of each channel have reached the listener in the order of the transitions. -/
def Ordered (engine : Engine) : Prop :=
  ∀ reliable, ofChannel reliable engine.delivered <+: ofChannel reliable engine.transitions

/-- They go up and down in turn, and an idle engine has told the listener the flag. -/
def Settled (engine : Engine) : Prop :=
  ∀ reliable, ((ofChannel reliable engine.delivered).map (·.backpressured) =
      alternating (ofChannel reliable engine.delivered).length) ∧
    (engine.Idle → lastBackpressured engine reliable = engine.tracker.backpressured reliable)

/-- No transition is queued before an earlier one of its channel, and no event is handed over
    before one of its channel that was taken earlier. -/
def InOrder (engine : Engine) : Act → Prop
  | .queueEvent i => ∀ entry ∈ engine.unqueued[i]?, ∀ earlier ∈ engine.unqueued.take i,
      earlier.1.reliable ≠ entry.1.reliable
  | .deliver i => ∀ status ∈ engine.delivering[i]?, ∀ earlier ∈ engine.delivering.take i,
      earlier.reliable ≠ status.reliable
  | _ => True

instance (engine : Engine) : ∀ act, Decidable (InOrder engine act)
  | .queueEvent i => inferInstanceAs (Decidable (∀ entry ∈ engine.unqueued[i]?,
      ∀ earlier ∈ engine.unqueued.take i, earlier.1.reliable ≠ entry.1.reliable))
  | .deliver i => inferInstanceAs (Decidable (∀ status ∈ engine.delivering[i]?,
      ∀ earlier ∈ engine.delivering.take i, earlier.reliable ≠ status.reliable))
  | .registerDataChannel _ _ | .unregisterDataChannels | .reset | .bufferedAmountChange _ _
  | .rpcRequest | .stopRpcWorkers | .runTask | .finishRpc | .lockSend _ _ | .unlockSend _
  | .sendUpdate _ | .checkChannel _ | .update _ _ => .isTrue trivial

/-! ## 2. What a step does to the events -/

@[simp]
theorem ofChannel_append (reliable : Bool) (statuses others : List DataChannelBufferStatus) :
    ofChannel reliable (statuses ++ others) =
      ofChannel reliable statuses ++ ofChannel reliable others :=
  List.filter_append ..

@[simp]
theorem queuedEvents_append (tasks others : List Task) :
    queuedEvents (tasks ++ others) = queuedEvents tasks ++ queuedEvents others :=
  List.filterMap_append

/-- A step that has nothing to do with transitions and events. -/
structure Frame (engine after : Engine) : Prop where
  tracker : after.tracker = engine.tracker
  transitions : after.transitions = engine.transitions
  delivered : after.delivered = engine.delivered
  delivering : after.delivering = engine.delivering
  unqueued : after.unqueued = engine.unqueued
  queued : queuedEvents after.tasks = queuedEvents engine.tasks
  stopping : after.stopping = engine.stopping
  stopped : after.stopping = true → engine.tasks = [] → after.tasks = []

section Frames

variable {engine : Engine}

theorem Frame.refl (engine : Engine) : Frame engine engine :=
  ⟨rfl, rfl, rfl, rfl, rfl, rfl, rfl, fun _ => id⟩

theorem frame_queueTask {task : Task} (htask : queuedEvents [task] = []) :
    Frame engine (engine.queueTask task) := by
  rw [Engine.queueTask]
  split
  · exact Frame.refl engine
  · rename_i hstopping
    refine ⟨rfl, rfl, rfl, rfl, rfl, ?_, rfl, fun hstopped => absurd hstopped hstopping⟩
    rw [queuedEvents_append, htask, List.append_nil]

/-- A worker takes an event, or no event is touched. -/
theorem runTask_cases (engine : Engine) :
    Frame engine engine.runTask ∨
      ∃ status tasks, engine.tasks = .event status :: tasks ∧
        engine.runTask =
          { engine with tasks := tasks, delivering := engine.delivering ++ [status] } := by
  rw [Engine.runTask]
  split
  · exact .inl (Frame.refl engine)
  · cases htasks : engine.tasks with
    | nil => exact .inl (Frame.refl engine)
    | cons task tasks =>
      cases task with
      | event status => exact .inr ⟨status, tasks, rfl, rfl⟩
      | update channel reliable =>
        refine .inl ⟨rfl, rfl, rfl, rfl, rfl, ?_, rfl, ?_⟩
        · rw [htasks]
          rfl
        · intro _ hnil
          rw [htasks] at hnil
          cases hnil
      | rpc =>
        refine .inl ⟨rfl, rfl, rfl, rfl, rfl, ?_, rfl, ?_⟩
        · rw [htasks]
          rfl
        · intro _ hnil
          rw [htasks] at hnil
          cases hnil

/-- An update turns the flag of its channel over and records that, or no event is touched. -/
theorem update_cases (engine : Engine) (i amount : Nat) :
    Frame engine (engine.update i amount) ∨
      ∃ (updates : List Update) (status : DataChannelBufferStatus) (byWorker : Bool),
        status.backpressured = (!engine.tracker.backpressured status.reliable) ∧
          engine.update i amount =
            { engine with
              tracker := engine.tracker.setFlag status.reliable status.backpressured
              updates := updates }.record status byWorker := by
  rw [Engine.update]
  cases engine.updates[i]? with
  | none => exact .inl (Frame.refl engine)
  | some update =>
    dsimp only
    split
    · exact .inl (Frame.refl engine)
    · rcases engine.tracker.update_cases update.reliable amount with hsame | hchanged
      · rw [hsame]
        exact .inl ⟨rfl, rfl, rfl, rfl, rfl, rfl, rfl, fun _ => id⟩
      · rw [hchanged]
        exact .inr ⟨engine.updates.eraseIdx i, ⟨update.reliable, amount,
          engine.tracker.highWaterMark, engine.tracker.lowWaterMark,
          !engine.tracker.backpressured update.reliable⟩, update.byWorker, rfl, rfl⟩

theorem frame_lockSend (channel : Nat) (reliable : Bool) :
    Frame engine (engine.lockSend channel reliable) := by
  rw [Engine.lockSend]
  split
  · exact Frame.refl engine
  · exact ⟨rfl, rfl, rfl, rfl, rfl, rfl, rfl, fun _ => id⟩

theorem frame_unlockSend (reliable : Bool) : Frame engine (engine.unlockSend reliable) := by
  rw [Engine.unlockSend]
  split
  · exact Frame.refl engine
  · exact ⟨rfl, rfl, rfl, rfl, rfl, rfl, rfl, fun _ => id⟩

theorem frame_sendUpdate (reliable : Bool) : Frame engine (engine.sendUpdate reliable) := by
  rw [Engine.sendUpdate]
  cases engine.sendLock reliable with
  | none => exact Frame.refl engine
  | some channel =>
    dsimp only
    split
    · exact Frame.refl engine
    · exact ⟨rfl, rfl, rfl, rfl, rfl, rfl, rfl, fun _ => id⟩

theorem frame_checkChannel (i : Nat) : Frame engine (engine.checkChannel i) := by
  rw [Engine.checkChannel]
  cases engine.updates[i]? with
  | none => exact Frame.refl engine
  | some update =>
    dsimp only
    split
    · exact Frame.refl engine
    · split
      · exact ⟨rfl, rfl, rfl, rfl, rfl, rfl, rfl, fun _ => id⟩
      · exact ⟨rfl, rfl, rfl, rfl, rfl, rfl, rfl, fun _ => id⟩

/-- Everything that a step can do to transitions, events and flags. -/
theorem step_cases (engine : Engine) (act : Act) :
    Frame engine (engine.step act) ∨
      act = .reset ∨ act = .stopRpcWorkers ∨ (∃ i, act = .queueEvent i) ∨
      (∃ i, act = .deliver i) ∨
      (∃ status tasks, engine.tasks = .event status :: tasks ∧
        engine.step act =
          { engine with tasks := tasks, delivering := engine.delivering ++ [status] }) ∨
      ∃ (updates : List Update) (status : DataChannelBufferStatus) (byWorker : Bool),
        status.backpressured = (!engine.tracker.backpressured status.reliable) ∧
          engine.step act =
            { engine with
              tracker := engine.tracker.setFlag status.reliable status.backpressured
              updates := updates }.record status byWorker := by
  cases act with
  | reset => exact .inr (.inl rfl)
  | stopRpcWorkers => exact .inr (.inr (.inl rfl))
  | queueEvent i => exact .inr (.inr (.inr (.inl ⟨i, rfl⟩)))
  | deliver i => exact .inr (.inr (.inr (.inr (.inl ⟨i, rfl⟩))))
  | runTask =>
    rcases runTask_cases engine with hframe | htaken
    · exact .inl hframe
    · exact .inr (.inr (.inr (.inr (.inr (.inl htaken)))))
  | update i amount =>
    rcases update_cases engine i amount with hframe | hchanged
    · exact .inl hframe
    · exact .inr (.inr (.inr (.inr (.inr (.inr hchanged)))))
  | registerDataChannel channel reliable =>
    exact .inl ⟨rfl, rfl, rfl, rfl, rfl, rfl, rfl, fun _ => id⟩
  | unregisterDataChannels => exact .inl ⟨rfl, rfl, rfl, rfl, rfl, rfl, rfl, fun _ => id⟩
  | finishRpc => exact .inl ⟨rfl, rfl, rfl, rfl, rfl, rfl, rfl, fun _ => id⟩
  | bufferedAmountChange channel reliable => exact .inl (frame_queueTask rfl)
  | rpcRequest => exact .inl (frame_queueTask rfl)
  | lockSend channel reliable => exact .inl (frame_lockSend channel reliable)
  | unlockSend reliable => exact .inl (frame_unlockSend reliable)
  | sendUpdate reliable => exact .inl (frame_sendUpdate reliable)
  | checkChannel i => exact .inl (frame_checkChannel i)

end Frames

/-! ## 3. The events under way -/

/-- What has not been delivered is under way, in the order of the transitions.  Once the
    workers are stopping, nothing is put into the queue any more. -/
structure Inv (engine : Engine) : Prop where
  ordered : ∀ reliable, ∃ rest,
    ofChannel reliable engine.transitions =
        ofChannel reliable (engine.delivered ++ engine.delivering ++ queuedEvents engine.tasks) ++
          rest ∧
      (engine.stopping = false → rest = ofChannel reliable (engine.unqueued.map Prod.fst))
  stopped : engine.stopping = true → engine.tasks = []

theorem inv_new : Inv .new := by
  constructor
  · intro reliable
    exact ⟨[], rfl, fun _ => rfl⟩
  · intro hstopping
    cases hstopping

/-- The first status of its channel that is taken out comes before what is left. -/
theorem ofChannel_eraseIdx {statuses : List DataChannelBufferStatus} {i : Nat}
    {status : DataChannelBufferStatus} (hstatus : statuses[i]? = some status)
    (hfirst : ∀ earlier ∈ statuses.take i, earlier.reliable ≠ status.reliable)
    (reliable : Bool) :
    ofChannel reliable statuses =
      ofChannel reliable [status] ++ ofChannel reliable (statuses.eraseIdx i) := by
  obtain ⟨hlt, rfl⟩ := List.getElem?_eq_some_iff.mp hstatus
  calc ofChannel reliable statuses =
        ofChannel reliable (statuses.take i ++ statuses[i] :: statuses.drop (i + 1)) := by
        rw [← List.drop_eq_getElem_cons hlt, List.take_append_drop]
    _ = ofChannel reliable (statuses[i] :: (statuses.take i ++ statuses.drop (i + 1))) :=
        filter_key_cons hfirst reliable
    _ = ofChannel reliable [statuses[i]] ++ ofChannel reliable (statuses.eraseIdx i) := by
        rw [List.eraseIdx_eq_take_drop_succ, ← ofChannel_append, List.singleton_append]

section Steps

variable {engine : Engine}

theorem Inv.of_frame (h : Inv engine) {after : Engine} (hframe : Frame engine after) :
    Inv after := by
  constructor
  · intro reliable
    rw [hframe.transitions, hframe.delivered, hframe.delivering, hframe.queued, hframe.unqueued,
      hframe.stopping]
    exact h.ordered reliable
  · intro hstopping
    apply hframe.stopped hstopping
    exact h.stopped (hframe.stopping.symm.trans hstopping)

theorem Inv.stopRpcWorkers (h : Inv engine) : Inv engine.stopRpcWorkers := by
  constructor
  · intro reliable
    obtain ⟨rest, hordered, -⟩ := h.ordered reliable
    refine ⟨ofChannel reliable (queuedEvents engine.tasks) ++ rest, ?_, ?_⟩
    · rw [Engine.stopRpcWorkers, hordered]
      simp [queuedEvents]
    · intro hstopping
      cases hstopping
  · exact fun _ => rfl

/-- The event that was the first in the queue is now the last one under delivery. -/
theorem Inv.takeEvent (h : Inv engine) {status : DataChannelBufferStatus} {tasks : List Task}
    (htasks : engine.tasks = .event status :: tasks) :
    Inv { engine with tasks := tasks, delivering := engine.delivering ++ [status] } := by
  constructor
  · intro reliable
    obtain ⟨rest, hordered, hrest⟩ := h.ordered reliable
    refine ⟨rest, ?_, hrest⟩
    have hqueued : queuedEvents (Task.event status :: tasks) =
        [status] ++ queuedEvents tasks := rfl
    rw [hordered, htasks, hqueued]
    simp only [ofChannel_append, List.append_assoc]
  · intro hstopping
    rw [h.stopped hstopping] at htasks
    cases htasks

theorem Inv.record (h : Inv engine) {tracker : DataChannelBackpressure} {updates : List Update}
    (status : DataChannelBufferStatus) (byWorker : Bool) :
    Inv ({ engine with tracker := tracker, updates := updates }.record status byWorker) := by
  refine ⟨?_, h.stopped⟩
  intro reliable
  obtain ⟨rest, hordered, hrest⟩ := h.ordered reliable
  refine ⟨rest ++ ofChannel reliable [status], ?_, ?_⟩
  · rw [Engine.record, ofChannel_append, hordered, List.append_assoc]
  · intro hstopping
    rw [hrest hstopping, Engine.record, List.map_append, ofChannel_append]
    rfl

theorem Inv.queueEvent (h : Inv engine) {i : Nat} (hinorder : InOrder engine (.queueEvent i)) :
    Inv (engine.queueEvent i) := by
  rw [Engine.queueEvent]
  cases hentry : engine.unqueued[i]? with
  | none => exact h
  | some entry =>
    dsimp only [Engine.queueTask]
    split
    · rename_i hstopping
      refine ⟨?_, h.stopped⟩
      intro reliable
      obtain ⟨rest, hordered, -⟩ := h.ordered reliable
      exact ⟨rest, hordered, fun hrunning => absurd (hstopping.symm.trans hrunning) (by decide)⟩
    · rename_i hrunning
      refine ⟨?_, fun hstopping => absurd hstopping hrunning⟩
      intro reliable
      obtain ⟨rest, hordered, hrest⟩ := h.ordered reliable
      refine ⟨_, ?_, fun _ => rfl⟩
      have hfirst : ∀ earlier ∈ (engine.unqueued.map Prod.fst).take i,
          earlier.reliable ≠ entry.1.reliable := by
        intro earlier hearlier
        rw [← List.map_take] at hearlier
        obtain ⟨other, hother, rfl⟩ := List.mem_map.mp hearlier
        exact hinorder entry hentry other hother
      have hstatus : (engine.unqueued.map Prod.fst)[i]? = some entry.1 := by
        rw [List.getElem?_map, hentry]
        rfl
      have hqueued : queuedEvents [Task.event entry.1] = [entry.1] := rfl
      have hunqueued := ofChannel_eraseIdx hstatus hfirst reliable
      rw [List.eraseIdx_map] at hunqueued
      rw [hordered, hrest (Bool.not_eq_true _ ▸ hrunning), hunqueued]
      simp only [queuedEvents_append, hqueued, ofChannel_append, List.append_assoc]

theorem Inv.deliver (h : Inv engine) {i : Nat} (hinorder : InOrder engine (.deliver i)) :
    Inv (engine.deliver i) := by
  rw [Engine.deliver]
  cases hstatus : engine.delivering[i]? with
  | none => exact h
  | some status =>
    refine ⟨?_, h.stopped⟩
    intro reliable
    obtain ⟨rest, hordered, hrest⟩ := h.ordered reliable
    refine ⟨rest, ?_, hrest⟩
    have htaken := ofChannel_eraseIdx hstatus (hinorder status hstatus) reliable
    rw [hordered]
    simp only [ofChannel_append, htaken, List.append_assoc]

theorem Inv.step (h : Inv engine) {act : Act} (hinorder : InOrder engine act) :
    Inv (engine.step act) := by
  rcases step_cases engine act with hframe | rfl | rfl | ⟨i, rfl⟩ | ⟨i, rfl⟩ |
    ⟨status, tasks, htasks, heq⟩ | ⟨updates, status, byWorker, -, heq⟩
  · exact h.of_frame hframe
  · exact ⟨h.ordered, h.stopped⟩
  · exact h.stopRpcWorkers
  · exact h.queueEvent hinorder
  · exact h.deliver hinorder
  · rw [heq]
    exact h.takeEvent htasks
  · rw [heq]
    exact h.record status byWorker

end Steps

/-! ## 4. The flags -/

/-- The transitions of each channel go up and down in turn, and the flag is at the latest. -/
def Tracked (engine : Engine) : Prop :=
  ∀ reliable, Tracks (engine.tracker.backpressured reliable)
    ((ofChannel reliable engine.transitions).map (·.backpressured))

theorem Tracked.record {engine : Engine} (h : Tracked engine) {updates : List Update}
    {status : DataChannelBufferStatus} (byWorker : Bool)
    (hflag : status.backpressured = !engine.tracker.backpressured status.reliable) :
    Tracked ({ engine with
      tracker := engine.tracker.setFlag status.reliable status.backpressured
      updates := updates }.record status byWorker) := by
  intro reliable
  have hold := h reliable
  simp only [Engine.record, ofChannel_append, List.map_append,
    DataChannelBackpressure.backpressured_setFlag]
  by_cases hreliable : reliable = status.reliable
  · subst hreliable
    rw [if_pos rfl, hflag]
    have hone : ofChannel status.reliable [status] = [status] := by simp [ofChannel]
    rw [hone, List.map_singleton, hflag]
    exact hold.report
  · rw [if_neg hreliable]
    have hnone : ofChannel reliable [status] = [] := by
      simp [ofChannel, Ne.symm hreliable]
    rw [hnone, List.map_nil, List.append_nil]
    exact hold

theorem Tracked.step {engine : Engine} (h : Tracked engine) {act : Act} (hact : act ≠ .reset) :
    Tracked (engine.step act) := by
  have hsame : ∀ after : Engine, after.tracker = engine.tracker →
      after.transitions = engine.transitions → Tracked after := by
    intro after htracker htransitions reliable
    rw [htracker, htransitions]
    exact h reliable
  rcases step_cases engine act with hframe | rfl | rfl | ⟨i, rfl⟩ | ⟨i, rfl⟩ |
    ⟨status, tasks, -, heq⟩ | ⟨updates, status, byWorker, hflag, heq⟩
  · exact hsame _ hframe.tracker hframe.transitions
  · exact absurd rfl hact
  · exact hsame _ rfl rfl
  · simp only [Engine.step, Engine.queueEvent]
    split
    · exact h
    · simp only [Engine.queueTask]
      split <;> exact hsame _ rfl rfl
  · simp only [Engine.step, Engine.deliver]
    split <;> exact hsame _ rfl rfl
  · rw [heq]
    exact hsame _ rfl rfl
  · rw [heq]
    exact h.record byWorker hflag

/-! ## 5. Every run -/

section Runs

variable {engine : Engine}

theorem Inv.isPrefix (h : Inv engine) : Ordered engine := by
  intro reliable
  obtain ⟨rest, hordered, -⟩ := h.ordered reliable
  rw [hordered, List.append_assoc, ofChannel_append, List.append_assoc]
  exact List.prefix_append ..

/-- Where nothing is under way, everything has been delivered. -/
theorem Inv.delivered_of_idle (h : Inv engine) (hidle : engine.Idle) (reliable : Bool) :
    ofChannel reliable engine.transitions = ofChannel reliable engine.delivered := by
  obtain ⟨rest, hordered, hrest⟩ := h.ordered reliable
  rw [hordered, hrest hidle.stopping, hidle.unqueued, hidle.delivering, hidle.tasks]
  simp [ofChannel, queuedEvents]

theorem Inv.settled (h : Inv engine) (htracked : Tracked engine) : Settled engine := by
  intro reliable
  have htracks := htracked reliable
  constructor
  · have hfront := (h.isPrefix reliable).map (·.backpressured)
    rw [htracks.alternates] at hfront
    have halternating := eq_alternating_of_front hfront
    rwa [List.length_map] at halternating
  · intro hidle
    rw [lastBackpressured, ← h.delivered_of_idle hidle reliable]
    exact htracks.getLast

theorem inv_of_along {acts : List Act} (hinorder : Along InOrder Engine.step .new acts) :
    Inv (acts.foldl Engine.step .new) := by
  apply (exec_guarded hinorder).invariant
  · rintro before act _ hbefore ⟨hact, rfl⟩
    exact hbefore.step hact
  · exact inv_new

theorem tracked_new : Tracked .new := by
  intro reliable
  exact tracks_nil

theorem Tracked.foldl (h : Tracked engine) {acts : List Act} (hacts : .reset ∉ acts) :
    Tracked (acts.foldl Engine.step engine) := by
  induction acts generalizing engine with
  | nil => exact h
  | cons act rest ih =>
    rw [List.mem_cons, not_or] at hacts
    obtain ⟨hact, hrest⟩ := hacts
    exact ih (h.step (Ne.symm hact)) hrest

end Runs

/-- **Buffer status events arrive in order, and the limit of it.**  In every run in which no
    transition is queued and no event is handed over before an earlier one of its channel that
    is still on the way, the events of each channel reach the listener in the order of the
    transitions.  Without a reset they go up and down in turn, and whenever the engine is idle
    the last one of each channel is the flag of the tracker. -/
theorem events_in_order {acts : List Act} (hinorder : Along InOrder Engine.step .new acts)
    (n : Nat) :
    Ordered ((acts.take n).foldl Engine.step .new) ∧
      (.reset ∉ acts → Settled ((acts.take n).foldl Engine.step .new)) := by
  have hinv := inv_of_along (hinorder.take n)
  refine ⟨hinv.isPrefix, ?_⟩
  intro hreset
  apply hinv.settled
  apply tracked_new.foldl
  exact fun hmem => hreset (List.mem_of_mem_take hmem)

/-- `SendDataPacket` fills the reliable channel.  While a worker has the event in its hands,
    the channel runs empty. -/
def filledAndDrained : List Act :=
  [.registerDataChannel 0 true, .lockSend 0 true, .sendUpdate true, .checkChannel 0,
    .update 0 kDataChannelHighWaterMark, .queueEvent 0, .unlockSend true,
    .bufferedAmountChange 0 true, .runTask, .runTask, .checkChannel 0, .update 0 0,
    .queueEvent 0, .runTask]

/-- The worker that took the first event hands it over first. -/
theorem events_in_order_filledAndDrained :
    Ordered ((filledAndDrained ++ [Act.deliver 0, .deliver 0]).foldl Engine.step .new) ∧
      Settled ((filledAndDrained ++ [Act.deliver 0, .deliver 0]).foldl Engine.step .new) := by
  have hinorder : Along InOrder Engine.step .new
      (filledAndDrained ++ [Act.deliver 0, Act.deliver 0]) := by decide
  obtain ⟨hordered, hsettled⟩ := events_in_order hinorder 16
  exact ⟨hordered, hsettled (by decide)⟩

/-- The other worker hands the second event over first, and the application is told in the end
    that the empty channel is full. -/
theorem overtaken_event :
    ¬ ∀ (acts : List Act) (n : Nat), Ordered ((acts.take n).foldl Engine.step .new) ∧
      (.reset ∉ acts → Settled ((acts.take n).foldl Engine.step .new)) := by
  intro hall
  obtain ⟨hordered, -⟩ := hall (filledAndDrained ++ [.deliver 1, .deliver 0]) 16
  have hfront := hordered true
  revert hfront
  decide

end LivekitClient.BufferStatus
