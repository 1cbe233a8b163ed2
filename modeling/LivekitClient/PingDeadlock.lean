/-
  LivekitClient/PingDeadlock.lean
  ===============================
  **When the calls of a signal client return** (`Timer::Stop` in `src/core/detail/timer.h`;
  `clearPingTimeout`, `handleOnClose` and their callers in
  `src/core/detail/signal_client.cpp`).

  The function of the ping timeout closes the client: it takes `lock_`, and then the lock of
  the timer to stop the timer.  A message takes the same two locks, in the same order, but
  stops the timer while it has them, and `Stop` waits for the function if that runs already.
  Every call returns, unless the timeout fires while another thread has one of the locks and
  is going to stop the timer.
-/
import Mathlib.Algebra.Ring.Nat
import LivekitClient.PingTimers

namespace LivekitClient.PingTimers

open Runs
open Slot Lock Instr

/-! ## 1. Who is caught -/

/-- The thread that has the lock stops the ping timeout before it gives the lock back. -/
def stopsBeforeRelease (lock : Lock) : List Instr → Bool
  | [] => false
  | .release other :: rest => if other = lock then false else stopsBeforeRelease lock rest
  | .join pingTimeoutTimer :: _ => true
  | _ :: rest => stopsBeforeRelease lock rest

/-- The timeout has fired, and its function needs a lock of a thread that is going to wait for
    it. -/
structure Caught (client : Client) (timer holder : Nat) (lock : Lock) : Prop where
  fired : ∃ thread, client.threads[timer]? = some thread ∧
    thread.timer = some pingTimeoutTimer ∧ thread.rest.head? ≠ some wait ∧
    acquire lock ∈ thread.rest
  stops : ∃ thread, client.threads[holder]? = some thread ∧ holds lock thread.rest = true ∧
    stopsBeforeRelease lock thread.rest = true

/-- Every call has returned, and every worker has returned or waits. -/
def Client.Settled (client : Client) : Prop :=
  ∀ thread ∈ client.threads, thread.rest = [] ∨ thread.rest.head? = some wait

/-! ## 2. Who is going to stop the timeout -/

/-- What holds of every rest: the lock of the interval timer is released before the timeout is
    stopped; whoever stops the timeout has its lock until then; and a thread with `lock_` that
    is not going to stop the timer has only a new one to make. -/
theorem stop_shape : ∀ rest ∈ rests, ∀ instr ∈ rest.head?,
    (holds (timerLock pingIntervalTimer) rest = true →
      stopsBeforeRelease (timerLock pingIntervalTimer) rest = false) ∧
    (instr = acquire (timerLock pingIntervalTimer) →
      stopsBeforeRelease (timerLock pingIntervalTimer) rest.tail = false) ∧
    (ofSlot pingTimeoutTimer instr = true →
      stopsBeforeRelease (timerLock pingTimeoutTimer) rest = false →
        instr ≠ stop pingTimeoutTimer ∧ instr ≠ join pingTimeoutTimer) ∧
    (holds clientLock rest = true → stopsBeforeRelease clientLock rest = false →
      (instr = acquire (timerLock pingTimeoutTimer) → startsNext rest = true) ∧
      instr ≠ stop pingTimeoutTimer ∧ instr ≠ join pingTimeoutTimer) := by
  decide +kernel

/-- Under the lock of the interval timer nobody stops the timeout. -/
theorem interval_shape {rest : List Instr} (hmem : rest ∈ rests)
    (hholds : holds (timerLock pingIntervalTimer) rest = true) :
    stopsBeforeRelease (timerLock pingIntervalTimer) rest = false := by
  cases rest with
  | nil => rfl
  | cons instr rest => exact (stop_shape _ hmem instr rfl).1 hholds

/-! ## 3. Who is caught stays caught -/

section CaughtThreads

variable {client after : Client} {timer holder : Nat} {lock : Lock}

theorem Thread.Shaped.not_loop {thread : Thread} (hshaped : thread.Shaped) {instr : Instr}
    {rest : List Instr} (hrest : thread.rest = instr :: rest)
    (hholds : holds lock thread.rest = true) : instr ≠ wait ∧ instr ≠ again := by
  have hhead : instr ∈ thread.rest.head? := by rw [hrest]; rfl
  have hslot : ∀ slot, instr = wait ∨ instr = again →
      holds (timerLock slot) thread.rest = false := by
    intro slot hloop
    rw [hshaped.holds_slot hrest slot]
    rcases hloop with rfl | rfl <;> rfl
  have hlock : ¬ (instr = wait ∨ instr = again) := by
    intro hloop
    cases lock with
    | clientLock =>
      have hshape := (rest_shape _ hshaped.mem instr hhead).2.2.1 hholds
      rcases hloop with rfl | rfl <;> simp [ofSlot] at hshape
    | timerLock slot =>
      rw [hslot slot hloop] at hholds
      cases hholds
  exact ⟨fun hwait => hlock (.inl hwait), fun hagain => hlock (.inr hagain)⟩

/-- The timer that has fired is still in its slot. -/
theorem Caught.owner (hcaught : Caught client timer holder lock) (h : Inv client) :
    client.timers pingTimeoutTimer = some timer := by
  obtain ⟨⟨fired, hfired, htimer, -, hmem⟩, ⟨other, hother, hholds, hstops⟩⟩ := hcaught
  have hworker := (h.shaped timer fired hfired).timeout htimer
  rcases (timeout_lock_shape _ hworker lock (mem_locks lock)).2.1 hmem with rfl | hclear
  · have hinterval := interval_shape (h.shaped holder other hother).mem hholds
    rw [hstops] at hinterval
    cases hinterval
  · exact h.owner timer fired hfired htimer hclear

theorem Caught.of_effect (hcaught : Caught client timer holder lock) (h : Inv client) {i : Nat}
    {thread moved : Thread} {instr : Instr} {rest : List Instr} {born : Option Slot}
    (hthread : client.threads[i]? = some thread) (hrest : thread.rest = instr :: rest)
    (heffect : Effect client i thread instr rest moved born after) :
    Caught after timer holder lock := by
  have howner := hcaught.owner h
  obtain ⟨⟨fired, hfired, htimer, hhead, hmem⟩, ⟨other, hother, hholds, hstops⟩⟩ := hcaught
  have hworker := (h.shaped timer fired hfired).timeout htimer
  have hlocked := (timeout_lock_shape _ hworker lock (mem_locks lock)).1
  have hacquire : instr ≠ acquire lock := by
    intro hacquire
    have hfree := free_iff.1 (heffect.acquired lock hacquire) holder other hother
    rw [hholds] at hfree
    cases hfree
  have hne : timer ≠ holder := by
    rintro rfl
    obtain rfl := Option.some.inj (hfired.symm.trans hother)
    exact hlocked hholds hmem
  constructor
  · by_cases hself : timer = i
    · subst hself
      obtain rfl := Option.some.inj (hthread.symm.trans hfired)
      have hshape := timeout_shape _ hworker instr (by rw [hrest]; rfl)
      have hsame : moved.rest = rest := by
        rcases heffect.rest with hsame | ⟨rfl, -⟩ | ⟨hagain, -⟩
        · exact hsame
        · rw [hrest] at hhead
          exact absurd rfl hhead
        · exact absurd hagain hshape.1
      refine ⟨moved, heffect.at_moved hthread, by rw [heffect.timer]; exact htimer, ?_, ?_⟩
      · have hwait := hshape.2.2.2.1
        rwa [hrest, List.tail_cons, ← hsame] at hwait
      · rw [hrest] at hmem
        rw [hsame]
        rcases List.mem_cons.1 hmem with hnow | hlater
        · exact absurd hnow.symm hacquire
        · exact hlater
    · exact ⟨fired, heffect.lookup_other hself hfired, htimer, hhead, hmem⟩
  · by_cases hself : holder = i
    · subst hself
      obtain rfl := Option.some.inj (hthread.symm.trans hother)
      have hshaped := h.shaped holder thread hthread
      obtain ⟨hwait, hagain⟩ := hshaped.not_loop hrest hholds
      have hsame : moved.rest = rest := by
        rcases heffect.rest with hsame | ⟨hloop, -⟩ | ⟨hloop, -⟩
        · exact hsame
        · exact absurd hloop hwait
        · exact absurd hloop hagain
      -- the holder cannot pass the `join`, since the worker has not returned
      have hjoin : instr ≠ join pingTimeoutTimer := by
        rintro rfl
        rcases h.joins holder thread pingTimeoutTimer hthread (by rw [hrest]; rfl) with
          ⟨-, hnone | hown⟩ | ⟨waited, -, hjoining, hsome, -⟩
        · rw [howner] at hnone
          cases hnone
        · rw [howner] at hown
          exact hne (Option.some.inj hown)
        · rw [howner] at hsome
          obtain rfl := Option.some.inj hsome
          rcases heffect.joined pingTimeoutTimer rfl with hnone | ⟨joined, hjoined, hreturned⟩
          · rw [hjoining] at hnone
            cases hnone
          · obtain rfl := Option.some.inj (hjoining.symm.trans hjoined)
            rw [(returned_iff hfired).1 hreturned] at hmem
            cases hmem
      refine ⟨moved, heffect.at_moved hthread, ?_, ?_⟩
      · rw [hrest] at hholds hstops
        rw [hsame]
        cases instr with
        | acquire other =>
          rw [holds, if_neg (fun hsame => hacquire (by rw [hsame]))] at hholds
          exact hholds
        | release other =>
          rw [holds] at hholds
          rw [stopsBeforeRelease] at hstops
          split at hholds
          · rename_i hreleased
            rw [if_pos hreleased] at hstops
            cases hstops
          · exact hholds
        | _ => exact hholds
      · rw [hrest] at hstops
        rw [hsame]
        cases instr with
        | release other =>
          rw [stopsBeforeRelease] at hstops
          split at hstops
          · cases hstops
          · exact hstops
        | join slot =>
          cases slot with
          | pingTimeoutTimer => exact absurd rfl hjoin
          | pingIntervalTimer => exact hstops
        | _ => exact hstops
    · exact ⟨other, heffect.lookup_other hself hother, hholds, hstops⟩

theorem Caught.step (hcaught : Caught client timer holder lock) (h : Inv client) (act : Act) :
    Caught (client.step act) timer holder lock := by
  cases act with
  | call call =>
    obtain ⟨⟨fired, hfired, htimer⟩, ⟨other, hother, hholds⟩⟩ := hcaught
    constructor
    · refine ⟨fired, ?_, htimer⟩
      rw [Client.step, List.getElem?_append_left (List.getElem?_eq_some_iff.1 hfired).1]
      exact hfired
    · refine ⟨other, ?_, hholds⟩
      rw [Client.step, List.getElem?_append_left (List.getElem?_eq_some_iff.1 hother).1]
      exact hother
  | next i =>
    rw [Client.step]
    cases hnext : client.next i with
    | none => exact hcaught
    | some after =>
      obtain ⟨thread, instr, rest, moved, born, hthread, hrest, -, heffect⟩ :=
        effect_of_next hnext
      exact hcaught.of_effect h hthread hrest heffect
  | fire i =>
    rw [Client.step]
    rcases effect_of_fire client i with hsame | ⟨thread, rest, moved, hthread, hrest, -, heffect⟩
    · rw [hsame]
      exact hcaught
    · exact hcaught.of_effect h hthread hrest heffect

theorem Caught.run (hcaught : Caught client timer holder lock) (h : Inv client)
    (acts : List Act) : Caught (acts.foldl Client.step client) timer holder lock := by
  induction acts generalizing client with
  | nil => exact hcaught
  | cons act acts ih => exact ih (hcaught.step h act) (h.step act)

/-- The thread that is caught with a lock has not returned. -/
theorem Caught.not_settled (hcaught : Caught client timer holder lock) (h : Inv client) :
    ¬ client.Settled := by
  intro hsettled
  obtain ⟨other, hother, hholds, -⟩ := hcaught.stops
  rcases hsettled other (List.mem_of_getElem? hother) with hnil | hwait
  · rw [hnil] at hholds
    cases hholds
  · obtain ⟨tail, htail⟩ := List.head?_eq_some_iff.1 hwait
    exact ((h.shaped holder other hother).not_loop htail hholds).1 rfl

end CaughtThreads

/-! ## 4. Who is not caught can go on

The locks have an order: nobody who has the lock of a timer takes another one, and `lock_` comes
first.  So among the threads that wait there is always one that can go on. -/

def IsCaught (client : Client) : Prop :=
  ∃ timer holder lock, Caught client timer holder lock

/-- The timeout has fired, and its function has not cleared the slot yet. -/
def Fired (client : Client) (timer : Nat) : Prop :=
  ∃ thread, client.threads[timer]? = some thread ∧ thread.timer = some pingTimeoutTimer ∧
    thread.rest.head? ≠ some wait ∧ clear pingTimeoutTimer ∈ thread.rest

/-- Some thread can go on, and nobody is caught by that. -/
def Goes (client : Client) : Prop :=
  ∃ i after, client.next i = some after ∧ ¬ IsCaught after

/-- What an instruction waits for. -/
structure Ready (client : Client) (i : Nat) (thread : Thread) (instr : Instr) : Prop where
  acquire : ∀ lock, instr = acquire lock → client.free lock = true
  join : ∀ slot, instr = join slot → thread.joining = none ∨
    ∃ timer, thread.joining = some timer ∧ client.returned timer = true
  wait : instr = wait → i ∈ client.inactive
  disconnect : instr = disconnect →
    ∀ other ∈ client.threads, other.service = true → other.rest = []

section Progress

variable {client after : Client} {i : Nat} {thread : Thread} {instr : Instr} {rest : List Instr}

theorem Ready.next (hready : Ready client i thread instr)
    (hthread : client.threads[i]? = some thread) (hrest : thread.rest = instr :: rest) :
    ∃ after, client.next i = some after := by
  have hexecute : client.next i = client.execute i thread rest instr := by
    simp only [Client.next, hthread, hrest]
  rw [hexecute]
  cases instr with
  | acquire lock =>
    rw [Client.execute, if_pos (hready.acquire lock rfl)]
    exact ⟨_, rfl⟩
  | join slot =>
    rw [Client.execute]
    rcases hready.join slot rfl with hnone | ⟨timer, hjoining, hreturned⟩
    · rw [hnone]
      exact ⟨_, rfl⟩
    · simp only [hjoining, hreturned, if_true]
      exact ⟨_, rfl⟩
  | wait =>
    rw [Client.execute, if_pos (hready.wait rfl)]
    exact ⟨_, rfl⟩
  | disconnect =>
    rw [Client.execute, if_pos]
    · exact ⟨_, rfl⟩
    · rw [List.all_eq_true]
      intro other hmem
      cases hservice : other.service with
      | false => rfl
      | true => simp [hready.disconnect rfl other hmem hservice]
  | stop slot =>
    rw [Client.execute]
    split
    · exact ⟨_, rfl⟩
    · exact ⟨_, rfl⟩
  | _ => exact ⟨_, rfl⟩

/-- A step catches nobody, unless it takes a lock that the fired timer needs. -/
theorem not_caught_of_next (h : Inv client) (hcaught : ¬ IsCaught client)
    (hthread : client.threads[i]? = some thread) (hrest : thread.rest = instr :: rest)
    (hnext : client.next i = some after)
    (hacquire : ∀ lock, instr = acquire lock → stopsBeforeRelease lock rest = true →
      ∀ timer, Fired client timer → timer = i) : ¬ IsCaught after := by
  obtain ⟨_, _, _, moved, born, hfound, hparts, hwait, heffect⟩ := effect_of_next hnext
  obtain rfl := Option.some.inj (hthread.symm.trans hfound)
  obtain ⟨rfl, rfl⟩ := List.cons.inj (hrest.symm.trans hparts)
  have hafter := h.of_effect hthread hrest heffect
  rintro ⟨timer, holder, lock, hcaughtAfter⟩
  have howner := hcaughtAfter.owner hafter
  obtain ⟨⟨fired, hfired, htimer, hhead, hmem⟩, ⟨other, hother, hholds, hstops⟩⟩ := hcaughtAfter
  have hworker := (hafter.shaped timer fired hfired).timeout htimer
  have hlocked := (timeout_lock_shape _ hworker lock (mem_locks lock))
  -- the timer has fired before
  have hbefore : ∃ old, client.threads[timer]? = some old ∧
      old.timer = some pingTimeoutTimer ∧ old.rest.head? ≠ some wait ∧
      acquire lock ∈ old.rest := by
    rcases heffect.lookup hfired with ⟨rfl, rfl⟩ | ⟨-, hold⟩ | ⟨-, slot, -, rfl⟩
    · rw [heffect.timer] at htimer
      have holdWorker := (h.shaped timer thread hthread).timeout htimer
      have hshape := timeout_shape _ holdWorker instr (by rw [hrest]; rfl)
      rcases heffect.rest with hsame | ⟨-, hsame⟩ | ⟨hagain, -⟩
      · refine ⟨thread, hthread, htimer, ?_, ?_⟩
        · rw [hrest, List.head?_cons, ne_eq, Option.some.injEq]
          intro hloop
          rw [hwait hloop] at hmem
          cases hmem
        · rw [hrest]
          rw [hsame] at hmem
          exact .tail _ hmem
      · rw [hsame] at hmem
        cases hmem
      · exact absurd hagain hshape.1
    · exact ⟨fired, hold, htimer, hhead, hmem⟩
    · cases slot with
      | pingTimeoutTimer => exact absurd rfl hhead
      | pingIntervalTimer => cases htimer
  by_cases hself : holder = i
  · subst hself
    obtain rfl := Option.some.inj ((heffect.at_moved hthread).symm.trans hother)
    have hshaped := hafter.shaped holder moved hother
    have hsame : moved.rest = rest := by
      apply heffect.rest_eq
      · intro hnil
        rw [hnil] at hholds
        cases hholds
      · intro hloop
        obtain ⟨tail, htail⟩ := List.head?_eq_some_iff.1 hloop
        exact (hshaped.not_loop htail hholds).1 rfl
    rw [hsame] at hholds hstops
    by_cases htakes : instr = acquire lock
    · obtain ⟨old, hold, holdTimer, holdHead, holdMem⟩ := hbefore
      have holdWorker := (h.shaped timer old hold).timeout holdTimer
      have hclear : clear pingTimeoutTimer ∈ old.rest := by
        rcases (timeout_lock_shape _ holdWorker lock (mem_locks lock)).2.1 holdMem with
          rfl | hclear
        · have hinterval := (stop_shape _ (h.shaped holder thread hthread).mem instr
            (by rw [hrest]; rfl)).2.1 htakes
          rw [hrest, List.tail_cons, hstops] at hinterval
          cases hinterval
        · exact hclear
      obtain rfl := hacquire lock htakes hstops timer ⟨old, hold, holdTimer, holdHead, hclear⟩
      obtain rfl := Option.some.inj (hfired.symm.trans hother)
      rw [← hsame] at hholds
      exact hlocked.1 hholds hmem
    · apply hcaught
      refine ⟨timer, holder, lock, hbefore, thread, hthread, ?_, ?_⟩
      · rw [hrest]
        cases instr with
        | acquire taken =>
          rw [holds, if_neg (fun hsame => htakes (by rw [hsame]))]
          exact hholds
        | release released =>
          rw [holds]
          split
          · rfl
          · exact hholds
        | _ => exact hholds
      · rw [hrest]
        cases instr with
        | release released =>
          rw [stopsBeforeRelease]
          split
          · rename_i hreleased
            subst hreleased
            rw [(h.shaped holder thread hthread).not_holds_of_release hrest] at hholds
            cases hholds
          · exact hstops
        | join slot =>
          cases slot with
          | pingTimeoutTimer => rfl
          | pingIntervalTimer => exact hstops
        | _ => exact hstops
  · apply hcaught
    rcases heffect.lookup hother with ⟨rfl, -⟩ | ⟨-, hold⟩ | ⟨-, slot, -, rfl⟩
    · exact absurd rfl hself
    · exact ⟨timer, holder, lock, hbefore, other, hold, hholds, hstops⟩
    · rw [holds_worker] at hholds
      cases hholds

theorem goes_of_ready (h : Inv client) (hcaught : ¬ IsCaught client)
    (hthread : client.threads[i]? = some thread) (hrest : thread.rest = instr :: rest)
    (hready : Ready client i thread instr)
    (hacquire : ∀ lock, instr = acquire lock → stopsBeforeRelease lock rest = true →
      ∀ timer, Fired client timer → timer = i) : Goes client := by
  obtain ⟨after, hnext⟩ := hready.next hthread hrest
  exact ⟨i, after, hnext, not_caught_of_next h hcaught hthread hrest hnext hacquire⟩

/-- The instructions that nothing blocks. -/
theorem ready_of_free (hacquire : ∀ lock, instr ≠ acquire lock) (hjoin : ∀ slot, instr ≠ join slot)
    (hwait : instr ≠ wait) (hdisconnect : instr ≠ disconnect) :
    Ready client i thread instr where
  acquire := fun lock hsame => absurd hsame (hacquire lock)
  join := fun slot hsame => absurd hsame (hjoin slot)
  wait := fun hsame => absurd hsame hwait
  disconnect := fun hsame => absurd hsame hdisconnect

/-- Under the lock of a timer nothing blocks but a `join`. -/
theorem ready_of_slot {slot : Slot} (hslot : ofSlot slot instr = true)
    (hjoin : instr = join slot → thread.joining = none ∨
      ∃ timer, thread.joining = some timer ∧ client.returned timer = true) :
    Ready client i thread instr where
  acquire := by
    rintro lock rfl
    simp [ofSlot] at hslot
  join := by
    rintro other rfl
    obtain rfl : other = slot := by simpa [ofSlot] using hslot
    exact hjoin rfl
  wait := by
    rintro rfl
    simp [ofSlot] at hslot
  disconnect := by
    rintro rfl
    simp [ofSlot] at hslot

theorem exists_holder {lock : Lock} (hfree : ¬ client.free lock = true) :
    ∃ (j : Nat) (other : Thread), client.threads[j]? = some other ∧
      holds lock other.rest = true := by
  rw [free_iff] at hfree
  by_contra hnone
  apply hfree
  intro j other hother
  by_contra hholds
  exact hnone ⟨j, other, hother, by simpa using hholds⟩

/-- Whoever has the lock of the interval timer can go on, or the worker that it waits for. -/
theorem goes_of_interval (h : Inv client) (hcaught : ¬ IsCaught client)
    (hthread : client.threads[i]? = some thread)
    (hholds : holds (timerLock pingIntervalTimer) thread.rest = true) : Goes client := by
  cases hrest : thread.rest with
  | nil =>
    rw [hrest] at hholds
    cases hholds
  | cons instr rest =>
    have hslot := hholds
    rw [(h.shaped i thread hthread).holds_slot hrest] at hslot
    have hacquire : ∀ lock, instr ≠ acquire lock := by
      rintro lock rfl
      simp [ofSlot] at hslot
    by_cases hjoin : instr = join pingIntervalTimer
    · rcases h.joins i thread pingIntervalTimer hthread (by rw [hrest, hjoin]; rfl) with
        ⟨hnone, -⟩ | ⟨timer, -, hjoining, hsome, hinactive⟩
      · exact goes_of_ready h hcaught hthread hrest
          (ready_of_slot hslot fun _ => .inl hnone) fun lock hsame => absurd hsame (hacquire lock)
      · obtain ⟨worked, hworked, htimer, -⟩ := h.timer _ timer hsome
        cases hworkedRest : worked.rest with
        | nil =>
          exact goes_of_ready h hcaught hthread hrest
            (ready_of_slot hslot fun _ =>
              .inr ⟨timer, hjoining, (returned_iff hworked).2 hworkedRest⟩)
            fun lock hsame => absurd hsame (hacquire lock)
        | cons first later =>
          have hshaped := h.shaped timer worked hworked
          rw [Thread.Shaped, htimer] at hshaped
          have hfirst := interval_worker_shape _ hshaped.1 first (by rw [hworkedRest]; rfl)
          refine goes_of_ready h hcaught hworked hworkedRest ?_ ?_
          · constructor
            · rintro lock rfl
              simp at hfirst
            · rintro slot rfl
              simp at hfirst
            · exact fun _ => hinactive
            · rintro rfl
              simp at hfirst
          · rintro lock rfl
            simp at hfirst
    · exact goes_of_ready h hcaught hthread hrest
        (ready_of_slot hslot fun hsame => absurd hsame hjoin)
        fun lock hsame => absurd hsame (hacquire lock)

theorem fired_unique (h : Inv client) {timer other : Nat} (htimer : Fired client timer)
    (hother : Fired client other) : other = timer := by
  obtain ⟨first, hfirst, hfirstTimer, -, hfirstClear⟩ := htimer
  obtain ⟨second, hsecond, hsecondTimer, -, hsecondClear⟩ := hother
  have howner := h.owner timer first hfirst hfirstTimer hfirstClear
  rw [h.owner other second hsecond hsecondTimer hsecondClear] at howner
  exact Option.some.inj howner

/-- A thread with `lock_` that is not going to stop the timeout. -/
theorem goes_of_client (h : Inv client) (hcaught : ¬ IsCaught client)
    (hsome : client.timers pingTimeoutTimer ≠ none)
    (hthread : client.threads[i]? = some thread) (hholds : holds clientLock thread.rest = true)
    (hstops : stopsBeforeRelease clientLock thread.rest = false) : Goes client := by
  have hshaped := h.shaped i thread hthread
  cases hrest : thread.rest with
  | nil =>
    rw [hrest] at hholds
    cases hholds
  | cons instr rest =>
    have hhead : instr ∈ thread.rest.head? := by rw [hrest]; rfl
    obtain ⟨hstarts, hstop, hjoin⟩ := (stop_shape _ hshaped.mem instr hhead).2.2.2 hholds hstops
    rcases (rest_shape _ hshaped.mem instr hhead).2.2.1 hholds with
      ⟨slot, -, rfl⟩ | rfl | ⟨slot, -, hslot⟩
    · cases slot with
      | pingTimeoutTimer => exact absurd (h.starts i thread hthread (hstarts rfl)) hsome
      | pingIntervalTimer =>
        by_cases hfree : client.free (timerLock pingIntervalTimer) = true
        · have hready : Ready client i thread (acquire (timerLock pingIntervalTimer)) := by
            constructor
            · rintro lock ⟨⟩
              exact hfree
            all_goals simp
          refine goes_of_ready h hcaught hthread hrest hready ?_
          rintro lock ⟨⟩ hstopsInterval
          have hinterval := (stop_shape _ hshaped.mem _ hhead).2.1 rfl
          rw [hrest, List.tail_cons, hstopsInterval] at hinterval
          cases hinterval
        · obtain ⟨j, other, hother, hheld⟩ := exists_holder hfree
          exact goes_of_interval h hcaught hother hheld
    · exact goes_of_ready h hcaught hthread hrest
        (ready_of_free (by simp) (by simp) (by simp) (by simp)) (by simp)
    · cases slot with
      | pingTimeoutTimer =>
        refine goes_of_ready h hcaught hthread hrest
          (ready_of_slot hslot fun hsame => absurd hsame hjoin) ?_
        rintro lock rfl
        simp [ofSlot] at hslot
      | pingIntervalTimer =>
        exact goes_of_interval h hcaught hthread (by rw [hshaped.holds_slot hrest]; exact hslot)

/-- The fired timeout goes on, or the thread that has the lock it waits for. -/
theorem goes_of_fired (h : Inv client) (hcaught : ¬ IsCaught client) {timer : Nat}
    (hfired : Fired client timer) : Goes client := by
  have hunique : ∀ other, Fired client other → other = timer := fun _ => fired_unique h hfired
  obtain ⟨thread, hthread, htimer, hhead, hclear⟩ := hfired
  have howner := h.owner timer thread hthread htimer hclear
  have hworker := (h.shaped timer thread hthread).timeout htimer
  cases hrest : thread.rest with
  | nil =>
    rw [hrest] at hclear
    cases hclear
  | cons instr rest =>
    have hwait : instr ≠ wait := by
      rintro rfl
      rw [hrest] at hhead
      exact hhead rfl
    have hshape := timeout_shape _ hworker instr (by rw [hrest]; rfl)
    have hgoes : Ready client timer thread instr → Goes client := fun hready =>
      goes_of_ready h hcaught hthread hrest hready fun _ _ _ => hunique
    -- what the holder of a lock that the worker waits for does
    have hholder : ∀ lock, instr = acquire lock → ¬ client.free lock = true →
        ∃ (j : Nat) (other : Thread), client.threads[j]? = some other ∧
          holds lock other.rest = true ∧ stopsBeforeRelease lock other.rest = false := by
      rintro lock rfl hfree
      obtain ⟨j, other, hother, hholds⟩ := exists_holder hfree
      refine ⟨j, other, hother, hholds, ?_⟩
      by_contra hstops
      rw [Bool.not_eq_false] at hstops
      exact hcaught ⟨timer, j, lock, ⟨thread, hthread, htimer, hhead, by rw [hrest]; simp⟩,
        other, hother, hholds, hstops⟩
    have hacquires : ∀ lock, instr = acquire lock → client.free lock = true → Goes client := by
      rintro lock rfl hfree
      apply hgoes
      constructor
      · rintro taken ⟨⟩
        exact hfree
      all_goals simp
    rcases hshape.2.2.2.2 hwait hclear with hclient | rfl | htimeout | hslot
    · by_cases hfree : client.free clientLock = true
      · exact hacquires clientLock hclient hfree
      · obtain ⟨j, other, hother, hholds, hstops⟩ := hholder clientLock hclient hfree
        exact goes_of_client h hcaught (by rw [howner]; simp) hother hholds hstops
    · exact hgoes (ready_of_free (by simp) (by simp) (by simp) (by simp))
    · by_cases hfree : client.free (timerLock pingTimeoutTimer) = true
      · exact hacquires _ htimeout hfree
      · obtain ⟨j, other, hother, hholds, hstops⟩ := hholder _ htimeout hfree
        have hshaped := h.shaped j other hother
        cases hotherRest : other.rest with
        | nil =>
          rw [hotherRest] at hholds
          cases hholds
        | cons first later =>
          have hslot := hholds
          rw [hshaped.holds_slot hotherRest] at hslot
          have hparts := (stop_shape _ hshaped.mem first (by rw [hotherRest]; rfl)).2.2.1 hslot hstops
          refine goes_of_ready h hcaught hother hotherRest
            (ready_of_slot hslot fun hsame => absurd hsame hparts.2) ?_
          rintro lock rfl
          simp [ofSlot] at hslot
    · apply hgoes
      apply ready_of_slot hslot
      rintro rfl
      rcases h.joins timer thread pingTimeoutTimer hthread (by rw [hrest]; rfl) with
        ⟨hnone, -⟩ | ⟨other, hne, -, hsome, -⟩
      · exact .inl hnone
      · rw [howner] at hsome
        exact absurd (Option.some.inj hsome).symm hne

/-- Whoever has the lock of the ping timeout, where none has fired. -/
theorem goes_of_timeout (h : Inv client) (hcaught : ¬ IsCaught client)
    (hnone : ∀ timer, ¬ Fired client timer) (hthread : client.threads[i]? = some thread)
    (hholds : holds (timerLock pingTimeoutTimer) thread.rest = true) : Goes client := by
  have hfired : ∀ timer, Fired client timer → timer = i := fun timer h => absurd h (hnone timer)
  cases hrest : thread.rest with
  | nil =>
    rw [hrest] at hholds
    cases hholds
  | cons instr rest =>
    have hslot := hholds
    rw [(h.shaped i thread hthread).holds_slot hrest] at hslot
    by_cases hjoin : instr = join pingTimeoutTimer
    · rcases h.joins i thread pingTimeoutTimer hthread (by rw [hrest, hjoin]; rfl) with
        ⟨hjoining, -⟩ | ⟨timer, -, hjoining, hsome, hinactive⟩
      · exact goes_of_ready h hcaught hthread hrest
          (ready_of_slot hslot fun _ => .inl hjoining) fun _ _ _ => hfired
      · obtain ⟨worked, hworked, htimer, hrests⟩ := h.timer _ timer hsome
        rcases hrests rfl with hclear | hnil
        · have hwait : worked.rest.head? = some wait := by
            by_contra hhead
            exact hnone timer ⟨worked, hworked, htimer, hhead, hclear⟩
          obtain ⟨later, hlater⟩ := List.head?_eq_some_iff.1 hwait
          refine goes_of_ready h hcaught hworked hlater ?_ fun lock hsame => by cases hsame
          constructor
          case wait => exact fun _ => hinactive
          all_goals simp
        · exact goes_of_ready h hcaught hthread hrest
            (ready_of_slot hslot fun _ => .inr ⟨timer, hjoining, (returned_iff hworked).2 hnil⟩)
            fun _ _ _ => hfired
    · exact goes_of_ready h hcaught hthread hrest
        (ready_of_slot hslot fun hsame => absurd hsame hjoin) fun _ _ _ => hfired

/-- Where every lock is free, any thread goes on that does not wait for its time or for the
    thread of the socket. -/
theorem goes_of_free (h : Inv client) (hcaught : ¬ IsCaught client)
    (hnone : ∀ timer, ¬ Fired client timer) (hfree : ∀ lock, client.free lock = true)
    (hthread : client.threads[i]? = some thread) (hrest : thread.rest = instr :: rest)
    (hwait : instr ≠ wait)
    (hdisconnect : instr = disconnect →
      ∀ other ∈ client.threads, other.service = true → other.rest = []) : Goes client := by
  refine goes_of_ready h hcaught hthread hrest ?_ fun _ _ _ timer hfired =>
    absurd hfired (hnone timer)
  constructor
  · exact fun lock _ => hfree lock
  · rintro slot rfl
    have hholds := (h.shaped i thread hthread).holds_slot hrest slot
    rw [free_iff.1 (hfree (timerLock slot)) i thread hthread] at hholds
    simp [ofSlot] at hholds
  · exact fun hsame => absurd hsame hwait
  · exact hdisconnect

theorem goes_of_not_fired (h : Inv client) (hcaught : ¬ IsCaught client)
    (hnone : ∀ timer, ¬ Fired client timer) (hbusy : ¬ client.Settled) : Goes client := by
  by_cases hinterval : client.free (timerLock pingIntervalTimer) = true
  · by_cases htimeout : client.free (timerLock pingTimeoutTimer) = true
    · have hslots : ∀ slot, client.free (timerLock slot) = true := by
        intro slot
        cases slot with
        | pingTimeoutTimer => exact htimeout
        | pingIntervalTimer => exact hinterval
      by_cases hclient : client.free clientLock = true
      · have hfree : ∀ lock, client.free lock = true := by
          intro lock
          cases lock with
          | clientLock => exact hclient
          | timerLock slot => exact hslots slot
        by_cases hservice : ∀ other ∈ client.threads, other.service = true → other.rest = []
        · simp only [Client.Settled, not_forall, not_or] at hbusy
          obtain ⟨thread, hmem, hrest, hhead⟩ := hbusy
          obtain ⟨i, hthread⟩ := List.mem_iff_getElem?.1 hmem
          obtain ⟨instr, rest, hparts⟩ := List.exists_cons_of_ne_nil hrest
          refine goes_of_free h hcaught hnone hfree hthread hparts ?_ fun _ => hservice
          rintro rfl
          rw [hparts] at hhead
          exact hhead rfl
        · -- the thread of the socket is not through
          simp only [not_forall] at hservice
          obtain ⟨other, hmem, hother, hrest⟩ := hservice
          obtain ⟨i, hthread⟩ := List.mem_iff_getElem?.1 hmem
          obtain ⟨instr, rest, hparts⟩ := List.exists_cons_of_ne_nil hrest
          have hshaped := h.shaped i other hthread
          rw [Thread.Shaped] at hshaped
          split at hshaped
          · rw [hother] at hshaped
            have hshape := call_shape true (by simp) _ hshaped instr (by rw [hparts]; rfl)
            exact goes_of_free h hcaught hnone hfree hthread hparts hshape.1
              fun hsame => absurd hsame (hshape.2.2 rfl)
          · rw [hother] at hshaped
            cases hshaped.2
      · obtain ⟨i, thread, hthread, hholds⟩ := exists_holder hclient
        have hshaped := h.shaped i thread hthread
        cases hrest : thread.rest with
        | nil =>
          rw [hrest] at hholds
          cases hholds
        | cons instr rest =>
          have hfired : ∀ timer, Fired client timer → timer = i :=
            fun timer h => absurd h (hnone timer)
          rcases (rest_shape _ hshaped.mem instr (by rw [hrest]; rfl)).2.2.1 hholds with
            ⟨slot, -, rfl⟩ | rfl | ⟨slot, -, hslot⟩
          · refine goes_of_ready h hcaught hthread hrest ?_ fun _ _ _ => hfired
            constructor
            · rintro lock ⟨⟩
              exact hslots slot
            all_goals simp
          · exact goes_of_ready h hcaught hthread hrest
              (ready_of_free (by simp) (by simp) (by simp) (by simp)) fun _ _ _ => hfired
          · rw [← hshaped.holds_slot hrest, free_iff.1 (hslots slot) i thread hthread] at hslot
            cases hslot
    · obtain ⟨i, thread, hthread, hholds⟩ := exists_holder htimeout
      exact goes_of_timeout h hcaught hnone hthread hholds
  · obtain ⟨i, thread, hthread, hholds⟩ := exists_holder hinterval
    exact goes_of_interval h hcaught hthread hholds

theorem goes_of_not_caught (h : Inv client) (hcaught : ¬ IsCaught client)
    (hbusy : ¬ client.Settled) : Goes client := by
  by_cases hfired : ∃ timer, Fired client timer
  · obtain ⟨timer, hfired⟩ := hfired
    exact goes_of_fired h hcaught hfired
  · exact goes_of_not_fired h hcaught (fun timer h => hfired ⟨timer, h⟩) hbusy

end Progress

/-! ## 5. The end of every call -/

/-- A bound on the instructions to come, where no timer fires. -/
def weight : List Instr → Nat
  | [] => 0
  | .wait :: _ => 1
  | .again :: rest => weight rest + 2
  | .start _ :: rest => weight rest + 2
  | _ :: rest => weight rest + 1

def Client.weight (client : Client) : Nat :=
  (client.threads.map fun thread => PingTimers.weight thread.rest).sum

section Weight

variable {client after : Client} {i : Nat}

theorem sum_set {values : List Nat} {i old : Nat} (hold : values[i]? = some old) (new : Nat) :
    (values.set i new).sum + old = values.sum + new := by
  induction values generalizing i with
  | nil => simp at hold
  | cons value values ih =>
    cases i with
    | zero =>
      obtain rfl : value = old := by simpa using hold
      rw [List.set_cons_zero, List.sum_cons, List.sum_cons]
      omega
    | succ i =>
      rw [List.getElem?_cons_succ] at hold
      have hrest := ih hold
      rw [List.set_cons_succ, List.sum_cons, List.sum_cons]
      omega

theorem weight_next (hnext : client.next i = some after) : after.weight < client.weight := by
  obtain ⟨thread, instr, rest, moved, born, hthread, hrest, hwait, heffect⟩ :=
    effect_of_next hnext
  have hmap : (client.threads.map fun thread => weight thread.rest)[i]? =
      some (weight thread.rest) := by
    rw [List.getElem?_map, hthread]
    rfl
  have hsum := sum_set hmap (weight moved.rest)
  have hborn : ((born.map fun slot => ({ rest := worker slot, timer := some slot } : Thread)).toList
      |>.map fun thread => weight thread.rest).sum = if born.isSome then 1 else 0 := by
    rcases born with _ | _ | _ <;> rfl
  have hafter : after.weight = ((client.threads.map fun thread => weight thread.rest).set i
      (weight moved.rest)).sum + if born.isSome then 1 else 0 := by
    rw [Client.weight, heffect.threads, List.map_append, List.sum_append, hborn, List.map_set]
  have hless : weight moved.rest + (if born.isSome then 1 else 0) < weight thread.rest := by
    rw [hrest]
    cases hstarted : born with
    | some slot =>
      obtain rfl := (heffect.born slot).1 hstarted
      rcases heffect.rest with hsame | ⟨hloop, -⟩ | ⟨hloop, -⟩
      · rw [hsame, weight]
        exact Nat.lt_succ_self _
      · cases hloop
      · cases hloop
    | none =>
      rw [Option.isSome_none, if_neg Bool.false_ne_true, Nat.add_zero]
      rcases heffect.rest with hsame | ⟨rfl, hsame⟩ | ⟨rfl, hsame⟩
      · cases instr with
        | wait =>
          rw [hwait rfl]
          exact Nat.one_pos
        | again =>
          rw [hsame, weight]
          omega
        | start slot =>
          rw [(heffect.born slot).2 rfl] at hstarted
          cases hstarted
        | _ =>
          rw [hsame]
          exact Nat.lt_succ_self _
      · rw [hsame]
        exact Nat.one_pos
      · rw [weight]
        rcases hsame with hsame | hsame
        · rw [hsame, weight]
          omega
        · rw [hsame, worker, weight]
          omega
  have hbefore : client.weight =
      (client.threads.map fun thread => weight thread.rest).sum := rfl
  omega

end Weight

theorem settles {client : Client} (h : Inv client) (hcaught : ¬ IsCaught client) :
    ∃ steps : List Nat, (steps.foldl (fun client i => client.step (.next i)) client).Settled := by
  induction hweight : client.weight using Nat.strongRecOn generalizing client with
  | ind n ih =>
    by_cases hsettled : client.Settled
    · exact ⟨[], hsettled⟩
    · obtain ⟨i, after, hnext, hafter⟩ := goes_of_not_caught h hcaught hsettled
      have hless := weight_next hnext
      rw [hweight] at hless
      obtain ⟨steps, hsteps⟩ := ih after.weight hless (h.next hnext) hafter rfl
      refine ⟨i :: steps, ?_⟩
      rw [List.foldl_cons, Client.step, hnext]
      exact hsteps

/-- **When the calls of a signal client come to their end.**  After every run, all of them can
    return unless a thread is caught: it has a lock that the fired ping timeout still needs,
    and is going to wait for the worker of that timeout.  Once that is so, it is so for ever,
    whatever the threads do. -/
theorem settles_iff (acts : List Act) :
    let client := acts.foldl Client.step {}
    ((∃ steps : List Nat,
        (steps.foldl (fun client i => client.step (.next i)) client).Settled) ↔
      ¬ IsCaught client) ∧
    ∀ timer holder lock, Caught client timer holder lock → ∀ more : List Act,
      Caught (more.foldl Client.step client) timer holder lock ∧
      ¬ (more.foldl Client.step client).Settled := by
  intro client
  have h : Inv client := inv_run acts
  have hstays : ∀ timer holder lock, Caught client timer holder lock → ∀ more : List Act,
      Caught (more.foldl Client.step client) timer holder lock ∧
      ¬ (more.foldl Client.step client).Settled := by
    intro timer holder lock hcaught more
    have hinv : Inv (more.foldl Client.step client) :=
      (exec_foldl Client.step client more).invariant (fun _ act _ h hstep => hstep ▸ h.step act) h
    exact ⟨hcaught.run h more, (hcaught.run h more).not_settled hinv⟩
  refine ⟨⟨?_, settles h⟩, hstays⟩
  rintro ⟨steps, hsettled⟩ ⟨timer, holder, lock, hcaught⟩
  have hstuck := (hstays timer holder lock hcaught (steps.map .next)).2
  rw [List.foldl_map] at hstuck
  exact hstuck hsettled

/-- A message comes in while the ping timeout fires. -/
def lateResponse : List Act :=
  [.call (.message true false true false)] ++ List.replicate 20 (.next 0) ++
    [.fire 1, .call (.message false true true false), .next 2]

theorem settles_iff_lateResponse :
    let client := lateResponse.foldl Client.step {}
    Caught client 1 2 clientLock ∧
      ¬ ∃ steps : List Nat,
        (steps.foldl (fun client i => client.step (.next i)) client).Settled := by
  have hcaught : Caught (lateResponse.foldl Client.step {}) 1 2 clientLock := by
    constructor
    · refine ⟨{ rest := handleOnClose, timer := some pingTimeoutTimer }, ?_, ?_⟩ <;> decide +kernel
    · refine ⟨{ rest := (handleWsBinaryMessage false true true false).tail, service := true }, ?_, ?_⟩
        <;> decide +kernel
  exact ⟨hcaught, fun hsettles => (settles_iff lateResponse).1.1 hsettles ⟨1, 2, _, hcaught⟩⟩

end LivekitClient.PingTimers
