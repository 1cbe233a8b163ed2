/-
  LivekitClient/FrameQueue.lean
  =============================
  **The queue of the latest frame** (`src/capture/frame_queue.cpp`).

  The queue has one slot.  `Push` puts a frame into it, over the one that is there; the worker
  takes it out and hands it to the handler.  `Start` and `Stop` run under a mutex of their own,
  one at a time, and meet the others at the flags and the slot.

  A step is a section under `mutex_`, a store to the atomic flag, or a thing that other threads
  can tell apart.  The number of a frame and the lists of what has happened are not in the code.
-/
import LivekitClient.Runs
import LivekitClient.Traces
import LivekitClient.Types
import Mathlib.Data.List.Nodup

namespace LivekitClient.FrameQueue

open Runs Traces

/-! ## 1. The queue -/

structure OwnedBgraFrame where
  data : List UInt8
  width : UInt32
  height : UInt32
  rowStrideBytes : UInt32
  timestampUs : Int64
  rotationDegrees : UInt16
  mirrored : Bool
deriving DecidableEq

/-- The arguments of `Push`; `data` is the bytes behind the pointer, unless it is null, and
    `noMemory` says that they cannot be copied. -/
structure PushArguments where
  data : Option (List UInt8)
  width : UInt32
  height : UInt32
  rowStrideBytes : UInt32
  timestampUs : Int64
  rotationDegrees : UInt16 := 0
  mirrored : Bool := false
  noMemory : Bool := false

def uint32Max : UInt32 := 4294967295

/-- The checks of `Push` on its arguments, and the copy. -/
def PushArguments.copy (arguments : PushArguments) : Option OwnedBgraFrame :=
  match arguments.data with
  | none => none
  | some data =>
    if arguments.width = 0 ∨ arguments.height = 0 ∨ uint32Max / 4 < arguments.width ∨
        arguments.rowStrideBytes < arguments.width * 4 ∨
        sizeMax / arguments.rowStrideBytes.toNat < arguments.height.toNat then none
    else if arguments.noMemory then none
    else
      some
        { data := data.take (arguments.rowStrideBytes.toNat * arguments.height.toNat)
          width := arguments.width
          height := arguments.height
          rowStrideBytes := arguments.rowStrideBytes
          timestampUs := arguments.timestampUs
          rotationDegrees := arguments.rotationDegrees
          mirrored := arguments.mirrored }

/-- A frame that was accepted, with the number of those before it. -/
structure Accepted where
  number : Nat
  frame : OwnedBgraFrame
deriving DecidableEq

/-- The worker thread.  It can be joined unless it is `absent`; `taken` has a frame out of the
    slot for which the handler is not started yet. -/
inductive Worker where
  | absent
  | waiting
  | taken (frame : Accepted)
  | handling (frame : Accepted)
  | ended
deriving DecidableEq

def Worker.joinable : Worker → Bool
  | .absent => false
  | _ => true

/-- Where the holder of `lifecycle_mutex_` is. -/
inductive Lifecycle where
  | free
  | startReset
  | startRunning
  | startThread
  | startFailed
  | stopRunning
  | stopReset
  | stopJoin
  | stopDone
deriving DecidableEq

inductive Event where
  | startCalled
  | stopReturned
  | handlerStarted (frame : Accepted)
deriving DecidableEq

/-- `LatestVideoFrameQueue`; `pushing` has the frames of the calls of `Push` that have made
    their copies.  Then what has happened so far. -/
structure LatestVideoFrameQueue where
  hasHandler : Bool := true
  running : Bool := false
  stopping : Bool := false
  pendingFrame : Option Accepted := none
  worker : Worker := .absent
  lifecycle : Lifecycle := .free
  pushing : List OwnedBgraFrame := []
  accepted : List Accepted := []
  handled : List Accepted := []
  discardedByStop : List Accepted := []
  discardedByStart : List Accepted := []
  failedStarts : Nat := 0
  trace : List Event := []

/-- `start` and `stop` are the calls, `lifecycle` their next steps; `created` says whether the
    thread can be created.  `push` is a call of `Push` up to its copy, `store` its section. -/
inductive Act where
  | start
  | stop
  | lifecycle (created : Bool)
  | push (arguments : PushArguments)
  | store (i : Nat)
  | worker

namespace LatestVideoFrameQueue

variable (queue : LatestVideoFrameQueue)

def record (event : Event) : LatestVideoFrameQueue :=
  { queue with trace := queue.trace ++ [event] }

/-- `Start` up to its first section. -/
def start : LatestVideoFrameQueue :=
  let called := queue.record .startCalled
  if queue.running then called
  else if !queue.hasHandler || queue.worker.joinable then called
  else { called with lifecycle := .startReset }

/-- `Stop` up to its first store. -/
def stop : LatestVideoFrameQueue :=
  if !queue.running && !queue.worker.joinable then queue.record .stopReturned
  else { queue with lifecycle := .stopRunning }

/-- The next step of the `Start` or the `Stop` that is under way. -/
def lifecycleStep (created : Bool) : Option LatestVideoFrameQueue :=
  match queue.lifecycle with
  | .free => none
  | .startReset =>
    some
      { queue with
        stopping := false
        pendingFrame := none
        discardedByStart := queue.discardedByStart ++ queue.pendingFrame.toList
        lifecycle := .startRunning }
  | .startRunning => some { queue with running := true, lifecycle := .startThread }
  | .startThread =>
    some <|
      if created then { queue with worker := .waiting, lifecycle := .free }
      else
        { queue with failedStarts := queue.failedStarts + 1, lifecycle := .startFailed }
  | .startFailed => some { queue with running := false, lifecycle := .free }
  | .stopRunning => some { queue with running := false, lifecycle := .stopReset }
  | .stopReset =>
    some
      { queue with
        stopping := true
        pendingFrame := none
        discardedByStop := queue.discardedByStop ++ queue.pendingFrame.toList
        lifecycle := .stopJoin }
  | .stopJoin =>
    match queue.worker with
    | .absent => some { queue with lifecycle := .stopDone }
    | .ended => some { queue with worker := .absent, lifecycle := .stopDone }
    | _ => none
  | .stopDone => some ({ queue with stopping := false, lifecycle := .free }.record .stopReturned)

/-- `Push` up to its copy. -/
def push (arguments : PushArguments) : LatestVideoFrameQueue :=
  if !queue.running then queue
  else
    match arguments.copy with
    | none => queue
    | some frame => { queue with pushing := queue.pushing ++ [frame] }

/-- The section of `Push`. -/
def store (i : Nat) : Option LatestVideoFrameQueue :=
  queue.pushing[i]?.map fun frame =>
    let entered := { queue with pushing := queue.pushing.eraseIdx i }
    if !queue.running || queue.stopping then entered
    else
      { entered with
        pendingFrame := some ⟨queue.accepted.length, frame⟩
        accepted := queue.accepted ++ [⟨queue.accepted.length, frame⟩] }

/-- A step of `Run`: its section, once its condition holds; the start of the handler; its
    end. -/
def workerStep : Option LatestVideoFrameQueue :=
  match queue.worker with
  | .absent | .ended => none
  | .waiting =>
    if queue.stopping then some { queue with worker := .ended }
    else queue.pendingFrame.map fun frame =>
      { queue with pendingFrame := none, worker := .taken frame }
  | .taken frame =>
    some ({ queue with worker := .handling frame, handled := queue.handled ++ [frame] }.record
      (.handlerStarted frame))
  | .handling _ => some { queue with worker := .waiting }

def step : Act → Option LatestVideoFrameQueue
  | .start => if queue.lifecycle = .free then some queue.start else none
  | .stop => if queue.lifecycle = .free then some queue.stop else none
  | .lifecycle created => queue.lifecycleStep created
  | .push arguments => some (queue.push arguments)
  | .store i => queue.store i
  | .worker => queue.workerStep

end LatestVideoFrameQueue

def Step (queue : LatestVideoFrameQueue) (act : Act) (after : LatestVideoFrameQueue) : Prop :=
  queue.step act = some after

/-! ## 2. What a step can do -/

/-- One constructor for each way on. -/
inductive Moves (queue : LatestVideoFrameQueue) : LatestVideoFrameQueue → Prop where
  | startReturns : queue.lifecycle = .free → Moves queue (queue.record .startCalled)
  | startBegins : queue.lifecycle = .free → queue.running = false →
      queue.worker.joinable = false →
      Moves queue { queue.record .startCalled with lifecycle := .startReset }
  | startResets : queue.lifecycle = .startReset →
      Moves queue
        { queue with
          stopping := false
          pendingFrame := none
          discardedByStart := queue.discardedByStart ++ queue.pendingFrame.toList
          lifecycle := .startRunning }
  | startRuns : queue.lifecycle = .startRunning →
      Moves queue { queue with running := true, lifecycle := .startThread }
  | startEnds : queue.lifecycle = .startThread →
      Moves queue { queue with worker := .waiting, lifecycle := .free }
  | startFails : queue.lifecycle = .startThread →
      Moves queue { queue with failedStarts := queue.failedStarts + 1, lifecycle := .startFailed }
  | startGivesUp : queue.lifecycle = .startFailed →
      Moves queue { queue with running := false, lifecycle := .free }
  | stopReturns : queue.lifecycle = .free → queue.running = false →
      queue.worker.joinable = false → Moves queue (queue.record .stopReturned)
  | stopBegins : queue.lifecycle = .free →
      (queue.running = true ∨ queue.worker.joinable = true) →
      Moves queue { queue with lifecycle := .stopRunning }
  | stopRuns : queue.lifecycle = .stopRunning →
      Moves queue { queue with running := false, lifecycle := .stopReset }
  | stopResets : queue.lifecycle = .stopReset →
      Moves queue
        { queue with
          stopping := true
          pendingFrame := none
          discardedByStop := queue.discardedByStop ++ queue.pendingFrame.toList
          lifecycle := .stopJoin }
  | stopJoins : queue.lifecycle = .stopJoin → queue.worker = .absent ∨ queue.worker = .ended →
      Moves queue { queue with worker := .absent, lifecycle := .stopDone }
  | stopEnds : queue.lifecycle = .stopDone →
      Moves queue ({ queue with stopping := false, lifecycle := .free }.record .stopReturned)
  | pushes (pushing : List OwnedBgraFrame) : Moves queue { queue with pushing := pushing }
  | accepts (pushing : List OwnedBgraFrame) (frame : OwnedBgraFrame) :
      queue.running = true → queue.stopping = false →
      Moves queue
        { queue with
          pushing := pushing
          pendingFrame := some ⟨queue.accepted.length, frame⟩
          accepted := queue.accepted ++ [⟨queue.accepted.length, frame⟩] }
  | workerEnds : queue.worker = .waiting → queue.stopping = true →
      Moves queue { queue with worker := .ended }
  | takes (frame : Accepted) : queue.worker = .waiting → queue.stopping = false →
      queue.pendingFrame = some frame →
      Moves queue { queue with pendingFrame := none, worker := .taken frame }
  | handles (frame : Accepted) : queue.worker = .taken frame →
      Moves queue
        ({ queue with worker := .handling frame, handled := queue.handled ++ [frame] }.record
          (.handlerStarted frame))
  | handled (frame : Accepted) : queue.worker = .handling frame →
      Moves queue { queue with worker := .waiting }

theorem moves_start {queue : LatestVideoFrameQueue} (hfree : queue.lifecycle = .free) :
    Moves queue queue.start := by
  unfold LatestVideoFrameQueue.start
  dsimp only
  split
  · exact .startReturns hfree
  · rename_i hrunning
    split
    · exact .startReturns hfree
    · rename_i hrefused
      rw [Bool.or_eq_true, not_or] at hrefused
      exact .startBegins hfree (Bool.not_eq_true _ ▸ hrunning) (Bool.not_eq_true _ ▸ hrefused.2)

theorem moves_stop {queue : LatestVideoFrameQueue} (hfree : queue.lifecycle = .free) :
    Moves queue queue.stop := by
  unfold LatestVideoFrameQueue.stop
  split
  · rename_i hidle
    rw [Bool.and_eq_true, Bool.not_eq_true', Bool.not_eq_true'] at hidle
    exact .stopReturns hfree hidle.1 hidle.2
  · rename_i hbusy
    refine .stopBegins hfree ?_
    cases hrunning : queue.running with
    | true => exact Or.inl rfl
    | false =>
      right
      simpa [hrunning] using hbusy

theorem moves_lifecycleStep {queue after : LatestVideoFrameQueue} {created : Bool}
    (hstep : queue.lifecycleStep created = some after) : Moves queue after := by
  unfold LatestVideoFrameQueue.lifecycleStep at hstep
  split at hstep
  case h_1 => cases hstep
  case h_2 hplace => exact Option.some.inj hstep ▸ .startResets hplace
  case h_3 hplace => exact Option.some.inj hstep ▸ .startRuns hplace
  case h_4 hplace =>
    obtain rfl := Option.some.inj hstep
    split
    · exact .startEnds hplace
    · exact .startFails hplace
  case h_5 hplace => exact Option.some.inj hstep ▸ .startGivesUp hplace
  case h_6 hplace => exact Option.some.inj hstep ▸ .stopRuns hplace
  case h_7 hplace => exact Option.some.inj hstep ▸ .stopResets hplace
  case h_8 hplace =>
    split at hstep
    · rename_i habsent
      obtain rfl := Option.some.inj hstep
      have hmove := Moves.stopJoins hplace (Or.inl habsent)
      rwa [← habsent] at hmove
    · rename_i hended
      exact Option.some.inj hstep ▸ .stopJoins hplace (Or.inr hended)
    · cases hstep
  case h_9 hplace => exact Option.some.inj hstep ▸ .stopEnds hplace

theorem moves_of_step {queue after : LatestVideoFrameQueue} {act : Act}
    (hstep : Step queue act after) : Moves queue after := by
  unfold Step LatestVideoFrameQueue.step at hstep
  split at hstep
  case h_1 =>
    split at hstep
    · rename_i hfree
      exact Option.some.inj hstep ▸ moves_start hfree
    · cases hstep
  case h_2 =>
    split at hstep
    · rename_i hfree
      exact Option.some.inj hstep ▸ moves_stop hfree
    · cases hstep
  case h_3 => exact moves_lifecycleStep hstep
  case h_4 =>
    obtain rfl := Option.some.inj hstep
    unfold LatestVideoFrameQueue.push
    split
    · exact .pushes queue.pushing
    · split
      · exact .pushes queue.pushing
      · exact .pushes _
  case h_5 =>
    obtain ⟨frame, -, rfl⟩ := Option.map_eq_some_iff.mp hstep
    dsimp only
    split
    · exact .pushes _
    · rename_i hopen
      rw [Bool.or_eq_true, not_or, Bool.not_eq_true', Bool.not_eq_true,
        Bool.not_eq_false] at hopen
      exact .accepts _ frame hopen.1 hopen.2
  case h_6 =>
    unfold LatestVideoFrameQueue.workerStep at hstep
    split at hstep
    · cases hstep
    · cases hstep
    · rename_i hwaiting
      split at hstep
      · rename_i hstopping
        exact Option.some.inj hstep ▸ .workerEnds hwaiting hstopping
      · rename_i hgoes
        obtain ⟨frame, hframe, rfl⟩ := Option.map_eq_some_iff.mp hstep
        exact .takes frame hwaiting (Bool.not_eq_true _ ▸ hgoes) hframe
    · rename_i frame htaken
      exact Option.some.inj hstep ▸ .handles frame htaken
    · rename_i frame hhandling
      exact Option.some.inj hstep ▸ .handled frame hhandling

/-! ## 3. The flags -/

/-- The flags and the thread at each place of `Start` and `Stop`. -/
def Place (queue : LatestVideoFrameQueue) : Prop :=
  match queue.lifecycle with
  | .free =>
    queue.stopping = false ∧ queue.running = queue.worker.joinable ∧ queue.worker ≠ .ended ∧
      (queue.running = false → queue.pendingFrame.isSome = true → 0 < queue.failedStarts)
  | .startReset =>
    queue.stopping = false ∧ queue.running = false ∧ queue.worker = .absent ∧
      (queue.pendingFrame.isSome = true → 0 < queue.failedStarts)
  | .startRunning =>
    queue.stopping = false ∧ queue.running = false ∧ queue.worker = .absent ∧
      queue.pendingFrame = none
  | .startThread => queue.stopping = false ∧ queue.running = true ∧ queue.worker = .absent
  | .startFailed =>
    queue.stopping = false ∧ queue.running = true ∧ queue.worker = .absent ∧
      0 < queue.failedStarts
  | .stopRunning =>
    queue.stopping = false ∧ queue.running = true ∧ queue.worker.joinable = true ∧
      queue.worker ≠ .ended
  | .stopReset =>
    queue.stopping = false ∧ queue.running = false ∧ queue.worker.joinable = true ∧
      queue.worker ≠ .ended
  | .stopJoin =>
    queue.stopping = true ∧ queue.running = false ∧ queue.worker.joinable = true ∧
      queue.pendingFrame = none
  | .stopDone =>
    queue.stopping = true ∧ queue.running = false ∧ queue.worker = .absent ∧
      queue.pendingFrame = none

theorem place_new (hasHandler : Bool) : Place { hasHandler := hasHandler } :=
  ⟨rfl, rfl, nofun, nofun⟩

theorem absent_of_not_joinable {worker : Worker} (h : worker.joinable = false) :
    worker = .absent := by
  cases worker with
  | absent => rfl
  | _ => cases h

theorem Place.moves {queue after : LatestVideoFrameQueue} (h : Place queue)
    (hmove : Moves queue after) : Place after := by
  cases hmove with
  | startReturns hfree =>
    unfold Place at h
    rw [hfree] at h
    simpa [Place, LatestVideoFrameQueue.record, hfree] using h
  | startBegins hfree hrunning hjoinable =>
    unfold Place at h
    rw [hfree] at h
    exact ⟨h.1, hrunning, absent_of_not_joinable hjoinable, h.2.2.2 hrunning⟩
  | startResets hplace =>
    unfold Place at h
    rw [hplace] at h
    exact ⟨rfl, h.2.1, h.2.2.1, rfl⟩
  | startRuns hplace =>
    unfold Place at h
    rw [hplace] at h
    exact ⟨h.1, rfl, h.2.2.1⟩
  | startEnds hplace =>
    unfold Place at h
    rw [hplace] at h
    exact ⟨h.1, h.2.1, nofun, fun hstopped => absurd (h.2.1.symm.trans hstopped) nofun⟩
  | startFails hplace =>
    unfold Place at h
    rw [hplace] at h
    exact ⟨h.1, h.2.1, h.2.2, Nat.succ_pos _⟩
  | startGivesUp hplace =>
    unfold Place at h
    rw [hplace] at h
    refine ⟨h.1, ?_, ?_, fun _ _ => h.2.2.2⟩
    · simp [h.2.2.1, Worker.joinable]
    · simp [h.2.2.1]
  | stopReturns hfree hrunning hjoinable =>
    unfold Place at h
    rw [hfree] at h
    simpa [Place, LatestVideoFrameQueue.record, hfree] using h
  | stopBegins hfree hbusy =>
    unfold Place at h
    rw [hfree] at h
    have hrunning : queue.running = true := by
      rcases hbusy with hrunning | hjoinable
      · exact hrunning
      · rw [h.2.1, hjoinable]
    exact ⟨h.1, hrunning, h.2.1.symm.trans hrunning, h.2.2.1⟩
  | stopRuns hplace =>
    unfold Place at h
    rw [hplace] at h
    exact ⟨h.1, rfl, h.2.2.1, h.2.2.2⟩
  | stopResets hplace =>
    unfold Place at h
    rw [hplace] at h
    exact ⟨rfl, h.2.1, h.2.2.1, rfl⟩
  | stopJoins hplace hworker =>
    unfold Place at h
    rw [hplace] at h
    exact ⟨h.1, h.2.1, rfl, h.2.2.2⟩
  | stopEnds hplace =>
    unfold Place at h
    rw [hplace] at h
    refine ⟨rfl, ?_, ?_, ?_⟩
    · simp [h.2.1, h.2.2.1, LatestVideoFrameQueue.record, Worker.joinable]
    · simp [h.2.2.1, LatestVideoFrameQueue.record]
    · simp [h.2.2.2, LatestVideoFrameQueue.record]
  | pushes pushing => exact h
  | accepts pushing frame hrunning hgoes =>
    unfold Place at h ⊢
    cases hplace : queue.lifecycle <;> simp_all
  | workerEnds hwaiting hstopping =>
    unfold Place at h ⊢
    cases hplace : queue.lifecycle <;> simp_all [Worker.joinable]
  | takes frame hwaiting hgoes hframe =>
    unfold Place at h ⊢
    cases hplace : queue.lifecycle <;> simp_all [Worker.joinable]
  | handles frame htaken =>
    unfold Place at h ⊢
    cases hplace : queue.lifecycle <;>
      simp_all [LatestVideoFrameQueue.record, Worker.joinable]
  | handled frame hhandling =>
    unfold Place at h ⊢
    cases hplace : queue.lifecycle <;> simp_all [Worker.joinable]

/-! ## 4. The frames -/

def Worker.takenFrame : Worker → List Accepted
  | .taken frame => [frame]
  | _ => []

/-- Where a frame is, or what has become of it. -/
def Settled (queue : LatestVideoFrameQueue) (frame : Accepted) : Prop :=
  queue.pendingFrame = some frame ∨ queue.worker = .taken frame ∨ frame ∈ queue.handled ∨
    frame ∈ queue.discardedByStop ∨ frame ∈ queue.discardedByStart

structure Frames (queue : LatestVideoFrameQueue) : Prop where
  numbers : queue.accepted.map Accepted.number = List.range queue.accepted.length
  order : (queue.handled ++ (queue.worker.takenFrame ++ queue.pendingFrame.toList)).Sublist
    queue.accepted
  newest : ∀ last, queue.accepted.getLast? = some last → Settled queue last
  byStart : queue.discardedByStart ≠ [] → 0 < queue.failedStarts

theorem frames_new (hasHandler : Bool) : Frames { hasHandler := hasHandler } :=
  ⟨rfl, List.nil_sublist _, nofun, fun h => absurd rfl h⟩

/-- What has become of a frame stays so; only where it is can change. -/
theorem Settled.keep {queue after : LatestVideoFrameQueue} {frame : Accepted}
    (h : Settled queue frame) (hpending : queue.pendingFrame = some frame → Settled after frame)
    (htaken : queue.worker = .taken frame → Settled after frame)
    (hhandled : queue.handled ⊆ after.handled)
    (hstop : queue.discardedByStop ⊆ after.discardedByStop)
    (hstart : queue.discardedByStart ⊆ after.discardedByStart) : Settled after frame := by
  rcases h with h | h | h | h | h
  · exact hpending h
  · exact htaken h
  · exact .inr (.inr (.inl (hhandled h)))
  · exact .inr (.inr (.inr (.inl (hstop h))))
  · exact .inr (.inr (.inr (.inr (hstart h))))

/-- The worker goes from one place to another without a frame in its hands. -/
theorem Frames.setWorker {queue : LatestVideoFrameQueue} (h : Frames queue) {worker : Worker}
    {lifecycle : Lifecycle} (hbefore : queue.worker.takenFrame = [])
    (hafter : worker.takenFrame = []) :
    Frames { queue with worker := worker, lifecycle := lifecycle } := by
  have horder := h.order
  rw [hbefore] at horder
  refine ⟨h.numbers, ?_, ?_, h.byStart⟩
  · rw [hafter]
    exact horder
  · intro last hlast
    refine (h.newest last hlast).keep .inl ?_ (List.Subset.refl _) (List.Subset.refl _)
      (List.Subset.refl _)
    intro htaken
    rw [htaken] at hbefore
    cases hbefore

theorem Frames.moves {queue after : LatestVideoFrameQueue} (h : Frames queue)
    (hplaces : Place queue) (hmove : Moves queue after) : Frames after := by
  -- the slot may always be emptied
  have hemptied : (queue.handled ++ (queue.worker.takenFrame ++ [])).Sublist queue.accepted :=
    (List.Sublist.append_left (List.Sublist.append_left (List.nil_sublist _) _) _).trans h.order
  cases hmove with
  | startReturns | startBegins | startRuns | startGivesUp | stopReturns | stopBegins | stopRuns
  | stopEnds | pushes => exact ⟨h.numbers, h.order, h.newest, h.byStart⟩
  | startFails => exact ⟨h.numbers, h.order, h.newest, fun _ => Nat.succ_pos _⟩
  | startResets hplace =>
    refine ⟨h.numbers, hemptied, ?_, ?_⟩
    · intro last hlast
      refine (h.newest last hlast).keep ?_ (fun htaken => .inr (.inl htaken))
        (List.Subset.refl _) (List.Subset.refl _) (List.subset_append_left _ _)
      exact fun hpending => .inr (.inr (.inr (.inr (by simp [hpending]))))
    · intro hsome
      unfold Place at hplaces
      rw [hplace] at hplaces
      cases hpending : queue.pendingFrame with
      | none => exact h.byStart (by simpa [hpending] using hsome)
      | some frame => exact hplaces.2.2.2 (by rw [hpending]; rfl)
  | stopResets hplace =>
    refine ⟨h.numbers, hemptied, ?_, h.byStart⟩
    intro last hlast
    refine (h.newest last hlast).keep ?_ (fun htaken => .inr (.inl htaken))
      (List.Subset.refl _) (List.subset_append_left _ _) (List.Subset.refl _)
    exact fun hpending => .inr (.inr (.inr (.inl (by simp [hpending]))))
  | startEnds hplace =>
    unfold Place at hplaces
    rw [hplace] at hplaces
    exact h.setWorker (by rw [hplaces.2.2]; rfl) rfl
  | stopJoins hplace hworker =>
    refine h.setWorker ?_ rfl
    rcases hworker with hworker | hworker <;> rw [hworker] <;> rfl
  | workerEnds hwaiting hstopping => exact h.setWorker (by rw [hwaiting]; rfl) rfl
  | handled frame hhandling => exact h.setWorker (by rw [hhandling]; rfl) rfl
  | accepts pushing frame hrunning hgoes =>
    constructor
    · rw [List.map_append, h.numbers, List.length_append, List.length_singleton,
        List.range_succ]
      rfl
    · rw [List.append_nil] at hemptied
      rw [← List.append_assoc]
      exact hemptied.append (List.Sublist.refl _)
    · intro last hlast
      rw [List.getLast?_concat] at hlast
      exact .inl hlast
    · exact h.byStart
  | takes frame hwaiting hgoes hframe =>
    have horder := h.order
    rw [hwaiting, hframe] at horder
    refine ⟨h.numbers, horder, ?_, h.byStart⟩
    intro last hlast
    refine (h.newest last hlast).keep ?_ ?_ (List.Subset.refl _) (List.Subset.refl _)
      (List.Subset.refl _)
    · intro hpending
      exact .inr (.inl (congrArg Worker.taken (Option.some.inj (hframe.symm.trans hpending))))
    · exact fun htaken => absurd (hwaiting.symm.trans htaken) nofun
  | handles frame htaken =>
    have horder := h.order
    rw [htaken] at horder
    refine ⟨h.numbers, ?_, ?_, h.byStart⟩
    · simpa [LatestVideoFrameQueue.record, Worker.takenFrame] using horder
    · intro last hlast
      refine (h.newest last hlast).keep .inl ?_ (List.subset_append_left _ _)
        (List.Subset.refl _) (List.Subset.refl _)
      intro hother
      obtain rfl := Worker.taken.inj (htaken.symm.trans hother)
      exact .inr (.inr (.inl (by simp [LatestVideoFrameQueue.record])))

/-! ## 5. After `Stop` -/

/-- `Stop` has returned, and `Start` was not called since. -/
def Stopped (trace : List Event) : Prop :=
  Open (fun event => event = .stopReturned) (fun event => event = .startCalled) trace

/-- The handler is not started when the queue is stopped. -/
def NotWhenStopped (before : List Event) (event : Event) : Prop :=
  ∀ frame, event = .handlerStarted frame → ¬ Stopped before

structure Handlers (queue : LatestVideoFrameQueue) : Prop where
  stopped : Stopped queue.trace →
    queue.worker = .absent ∧ queue.lifecycle = .free ∧ queue.running = false
  law : EachAt NotWhenStopped queue.trace

theorem handlers_new (hasHandler : Bool) : Handlers { hasHandler := hasHandler } :=
  ⟨fun h => absurd h not_open_nil, eachAt_nil⟩

theorem Handlers.moves {queue after : LatestVideoFrameQueue} (h : Handlers queue)
    (hplaces : Place queue) (hmove : Moves queue after) : Handlers after := by
  -- while the queue is stopped nothing of a `Start`, a `Stop` or the worker is under way
  have hbusy : queue.lifecycle ≠ .free → ¬ Stopped queue.trace :=
    fun hnot hstopped => hnot (h.stopped hstopped).2.1
  have hworks : queue.worker ≠ .absent → ¬ Stopped queue.trace :=
    fun hnot hstopped => hnot (h.stopped hstopped).1
  cases hmove with
  | startReturns | startBegins =>
    constructor
    · intro hstopped
      have hopen := open_append_singleton.mp hstopped
      simp at hopen
    · exact eachAt_append_singleton.mpr ⟨h.law, nofun⟩
  | stopReturns hfree hrunning hjoinable =>
    refine ⟨fun _ => ⟨absent_of_not_joinable hjoinable, hfree, hrunning⟩, ?_⟩
    exact eachAt_append_singleton.mpr ⟨h.law, nofun⟩
  | stopEnds hplace =>
    unfold Place at hplaces
    rw [hplace] at hplaces
    refine ⟨fun _ => ⟨hplaces.2.2.1, rfl, hplaces.2.1⟩, ?_⟩
    exact eachAt_append_singleton.mpr ⟨h.law, nofun⟩
  | handles frame htaken =>
    have hnot : ¬ Stopped queue.trace := hworks (by rw [htaken]; nofun)
    constructor
    · intro hstopped
      rcases open_append_singleton.mp hstopped with hlast | ⟨hopen, -⟩
      · cases hlast
      · exact absurd hopen hnot
    · exact eachAt_append_singleton.mpr ⟨h.law, fun _ _ => hnot⟩
  | stopBegins hfree hsome =>
    refine ⟨fun hstopped => ?_, h.law⟩
    obtain ⟨habsent, -, hrunning⟩ := h.stopped hstopped
    rcases hsome with hsome | hsome
    · exact absurd (hrunning.symm.trans hsome) nofun
    · rw [habsent] at hsome
      cases hsome
  | pushes | accepts => exact ⟨h.stopped, h.law⟩
  | workerEnds hwaiting | takes frame hwaiting =>
    exact ⟨fun hstopped => absurd hstopped (hworks (by rw [hwaiting]; nofun)), h.law⟩
  | handled frame hhandling =>
    exact ⟨fun hstopped => absurd hstopped (hworks (by rw [hhandling]; nofun)), h.law⟩
  | startResets hplace | startRuns hplace | startEnds hplace | startFails hplace
  | startGivesUp hplace | stopRuns hplace | stopResets hplace | stopJoins hplace =>
    exact ⟨fun hstopped => absurd hstopped (hbusy (by rw [hplace]; nofun)), h.law⟩

/-! ## 6. Every run -/

structure Inv (queue : LatestVideoFrameQueue) : Prop where
  place : Place queue
  frames : Frames queue
  handlers : Handlers queue

theorem inv_run {hasHandler : Bool} {acts : List Act} {queue : LatestVideoFrameQueue}
    (hrun : Exec Step { hasHandler := hasHandler } acts queue) : Inv queue := by
  refine hrun.invariant (fun before act after h hstep => ?_)
    ⟨place_new hasHandler, frames_new hasHandler, handlers_new hasHandler⟩
  have hmove := moves_of_step hstep
  exact ⟨h.place.moves hmove, h.frames.moves h.place hmove, h.handlers.moves h.place hmove⟩

/-- **The queue of the latest frame**, over every interleaving.  The frames handed to the
    handler are a subsequence of the accepted ones, none of them twice; the newest accepted
    frame is in the slot, with the worker, handled, or was discarded by `Stop`, or by a `Start`
    after one whose thread could not be created; and once `Stop` has returned, the handler is
    started after the next `Start` only. -/
theorem latest_frame {hasHandler : Bool} {acts : List Act} {queue : LatestVideoFrameQueue}
    (hrun : Exec Step { hasHandler := hasHandler } acts queue) :
    queue.handled.Sublist queue.accepted ∧ queue.handled.Nodup ∧
      (∀ last, queue.accepted.getLast? = some last →
        queue.pendingFrame = some last ∨
          (queue.worker = .taken last ∨ queue.worker = .handling last) ∨
          last ∈ queue.handled ∨ last ∈ queue.discardedByStop ∨
          (last ∈ queue.discardedByStart ∧ 0 < queue.failedStarts)) ∧
      EachAt NotWhenStopped queue.trace := by
  obtain ⟨-, hframes, hhandlers⟩ := inv_run hrun
  have horder : queue.handled.Sublist queue.accepted :=
    (List.sublist_append_left _ _).trans hframes.order
  have hnodup : queue.accepted.Nodup := by
    apply List.Nodup.of_map Accepted.number
    rw [hframes.numbers]
    exact List.nodup_range
  refine ⟨horder, horder.nodup hnodup, ?_, hhandlers.law⟩
  intro last hlast
  rcases hframes.newest last hlast with h | h | h | h | h
  · exact .inl h
  · exact .inr (.inl (.inl h))
  · exact .inr (.inr (.inl h))
  · exact .inr (.inr (.inr (.inl h)))
  · exact .inr (.inr (.inr (.inr ⟨h, hframes.byStart (List.ne_nil_of_mem h)⟩)))

/-- A picture of one pixel. -/
def onePixel : PushArguments where
  data := some [1, 2, 3, 4]
  width := 1
  height := 1
  rowStrideBytes := 4
  timestampUs := 0

def onePixelFrame : OwnedBgraFrame where
  data := [1, 2, 3, 4]
  width := 1
  height := 1
  rowStrideBytes := 4
  timestampUs := 0
  rotationDegrees := 0
  mirrored := false

/-- Started, and one picture handled. -/
def handledQueue : LatestVideoFrameQueue where
  running := true
  worker := .waiting
  accepted := [⟨0, onePixelFrame⟩]
  handled := [⟨0, onePixelFrame⟩]
  trace := [.startCalled, .handlerStarted ⟨0, onePixelFrame⟩]

theorem latest_frame_onePixel :
    Exec Step {} [.start, .lifecycle true, .lifecycle true, .lifecycle true, .push onePixel,
        .store 0, .worker, .worker, .worker] handledQueue ∧
      handledQueue.handled.Sublist handledQueue.accepted := by
  have hrun : Exec Step {} [.start, .lifecycle true, .lifecycle true, .lifecycle true,
      .push onePixel, .store 0, .worker, .worker, .worker] handledQueue :=
    exec_foldlM _ rfl
  exact ⟨hrun, (latest_frame hrun).1⟩

/-- `Start` could not create its thread but accepted a picture before it gave up, and is called
    again. -/
def lostQueue : LatestVideoFrameQueue where
  lifecycle := .startRunning
  accepted := [⟨0, onePixelFrame⟩]
  discardedByStart := [⟨0, onePixelFrame⟩]
  failedStarts := 1
  trace := [.startCalled, .startCalled]

/-- The newest accepted picture is lost, and `Stop` was never called. -/
theorem start_discards_newest :
    ¬ ∀ (acts : List Act) (queue : LatestVideoFrameQueue), Exec Step {} acts queue →
      ∀ last, queue.accepted.getLast? = some last →
        queue.pendingFrame = some last ∨
          (queue.worker = .taken last ∨ queue.worker = .handling last) ∨
          last ∈ queue.handled ∨ last ∈ queue.discardedByStop := by
  intro hall
  have hrun : Exec Step {} [.start, .lifecycle true, .lifecycle true, .push onePixel, .store 0,
      .lifecycle false, .lifecycle true, .start, .lifecycle true] lostQueue :=
    exec_foldlM _ rfl
  have hlost := hall _ lostQueue hrun ⟨0, onePixelFrame⟩ rfl
  simp [lostQueue] at hlost

end LivekitClient.FrameQueue
