/-
  LivekitClient/PingTimers.lean
  =============================
  **The ping timers of a signal client and its locks** (`Timer` in `src/core/detail/timer.h`;
  `resetPingTimeout`, `clearPingTimeout`, `startPingInterval`, `clearPingInterval`,
  `handleOnClose`, `handleWsBinaryMessage`, `Close` and `SimulateDisconnectForTesting` in
  `src/core/detail/signal_client.cpp`).

  A timer runs its function on a thread of its own, and `Stop` waits for that thread.  A call
  is the list of what it does with the locks and the timers, and a thread is what is left of
  its call.  The invariant says who has a lock, which timer is in a slot, and for which timer
  a `Stop` waits.
-/
import Mathlib.Data.List.Infix
import LivekitClient.Runs

namespace LivekitClient.PingTimers

open Runs

/-! ## 1. What a thread does -/

inductive Slot where
  | pingTimeoutTimer
  | pingIntervalTimer
deriving DecidableEq

/-- `lock_`, `ping_timeout_timer_lock_` and `ping_interval_timer_lock_`. -/
inductive Lock where
  | clientLock
  | timerLock (slot : Slot)
deriving DecidableEq

inductive Instr where
  | acquire (lock : Lock)
  | release (lock : Lock)
  /-- `Stop` of the timer in the slot, if there is one, up to `notify_all`. -/
  | stop (slot : Slot)
  /-- The rest of that `Stop`. -/
  | join (slot : Slot)
  | clear (slot : Slot)
  /-- A new timer in the slot, with its worker. -/
  | start (slot : Slot)
  /-- `wait_for` in the loop of a worker. -/
  | wait
  /-- The condition of that loop. -/
  | again
  | sendPing
  /-- `disconnect` of the socket, which joins the thread that serves it. -/
  | disconnect
  | onClose
deriving DecidableEq

open Slot Lock Instr

def clearPingTimeout : List Instr :=
  [acquire (timerLock pingTimeoutTimer), stop pingTimeoutTimer, join pingTimeoutTimer,
    clear pingTimeoutTimer, release (timerLock pingTimeoutTimer)]

/-- `timeout` says whether `ping_timeout_duration_` is not zero. -/
def resetPingTimeout (timeout : Bool) : List Instr :=
  clearPingTimeout ++
    if timeout then
      [acquire (timerLock pingTimeoutTimer), start pingTimeoutTimer,
        release (timerLock pingTimeoutTimer)]
    else []

def clearPingInterval : List Instr :=
  clearPingTimeout ++
    [acquire (timerLock pingIntervalTimer), stop pingIntervalTimer, join pingIntervalTimer,
      clear pingIntervalTimer, release (timerLock pingIntervalTimer)]

def startPingInterval (timeout interval : Bool) : List Instr :=
  clearPingInterval ++ resetPingTimeout timeout ++
    if interval then
      [acquire (timerLock pingIntervalTimer), start pingIntervalTimer,
        release (timerLock pingIntervalTimer)]
    else []

def handleOnClose : List Instr :=
  [acquire clientLock, release clientLock] ++ clearPingInterval ++ [onClose]

/-- A message that starts the timers (a join or reconnect response), one that resets the
    timeout, one that does both or one that does neither. -/
def handleWsBinaryMessage (starts resets timeout interval : Bool) : List Instr :=
  [acquire clientLock] ++ (if starts then startPingInterval timeout interval else []) ++
    (if resets then resetPingTimeout timeout else []) ++ [release clientLock]

def close : List Instr := clearPingInterval ++ [disconnect]

def simulateDisconnect : List Instr := clearPingInterval ++ [disconnect] ++ handleOnClose

/-- The loop of a worker, with the function that `SetTimeout` or `SetInterval` gave it. -/
def worker : Slot → List Instr
  | pingTimeoutTimer => wait :: handleOnClose
  | pingIntervalTimer => [wait, sendPing, again]

/-! ## 2. The threads of a client -/

inductive Call where
  | message (starts resets timeout interval : Bool)
  | socketClosed
  | close
  | simulateDisconnect
deriving DecidableEq

def Call.program : Call → List Instr
  | .message starts resets timeout interval =>
    handleWsBinaryMessage starts resets timeout interval
  | .socketClosed => handleOnClose
  | .close => PingTimers.close
  | .simulateDisconnect => PingTimers.simulateDisconnect

/-- Whether it is the thread of the socket that makes the call. -/
def Call.service : Call → Bool
  | .message .. => true
  | .socketClosed => true
  | .close => false
  | .simulateDisconnect => false

structure Thread where
  rest : List Instr
  /-- The slot that the timer of a worker was made for. -/
  timer : Option Slot := none
  service : Bool := false
  /-- The worker that `Stop` waits for. -/
  joining : Option Nat := none
deriving DecidableEq

/-- A lock is with the thread that is going to release it before it acquires it again. -/
def holds (lock : Lock) : List Instr → Bool
  | [] => false
  | .acquire other :: rest => if other = lock then false else holds lock rest
  | .release other :: rest => if other = lock then true else holds lock rest
  | _ :: rest => holds lock rest

structure Client where
  threads : List Thread := []
  timers : Slot → Option Nat := fun _ => none
  /-- The timers whose `active_` is false, each under the number of its worker. -/
  inactive : List Nat := []

namespace Client

def free (client : Client) (lock : Lock) : Bool :=
  client.threads.all fun thread => !holds lock thread.rest

def returned (client : Client) (i : Nat) : Bool :=
  client.threads[i]?.all fun thread => thread.rest.isEmpty

def put (client : Client) (i : Nat) (thread : Thread) : Client :=
  { client with threads := client.threads.set i thread }

/-- One instruction, if nothing blocks it. -/
def execute (client : Client) (i : Nat) (thread : Thread) (rest : List Instr) :
    Instr → Option Client
  | .acquire lock =>
    if client.free lock then some (client.put i { thread with rest := rest }) else none
  | .release _ => some (client.put i { thread with rest := rest })
  | .stop slot =>
    match client.timers slot with
    | none => some (client.put i { thread with rest := rest, joining := none })
    | some timer =>
      -- a worker that stops its own timer detaches itself
      let joining := if timer = i then none else some timer
      some { client.put i { thread with rest := rest, joining := joining } with
        inactive := timer :: client.inactive }
  | .join _ =>
    match thread.joining with
    | none => some (client.put i { thread with rest := rest })
    | some timer =>
      if client.returned timer then some (client.put i { thread with rest := rest }) else none
  | .clear slot =>
    some { client.put i { thread with rest := rest } with
      timers := Function.update client.timers slot none }
  | .start slot =>
    some
      { client with
        threads := client.threads.set i { thread with rest := rest } ++
          [{ rest := worker slot, timer := some slot }]
        timers := Function.update client.timers slot (some client.threads.length) }
  | .wait =>
    if i ∈ client.inactive then some (client.put i { thread with rest := [] }) else none
  | .again =>
    some (client.put i
      { thread with rest := if i ∈ client.inactive then [] else worker pingIntervalTimer })
  | .sendPing => some (client.put i { thread with rest := rest })
  | .disconnect =>
    if client.threads.all fun other => !other.service || other.rest.isEmpty then
      some (client.put i { thread with rest := rest })
    else none
  | .onClose => some (client.put i { thread with rest := rest })

/-- The next instruction of a thread, if it has one and nothing blocks it. -/
def next (client : Client) (i : Nat) : Option Client :=
  match client.threads[i]? with
  | some thread =>
    match thread.rest with
    | instr :: rest => client.execute i thread rest instr
    | [] => none
  | none => none

/-- `wait_for` of a worker comes to its time. -/
def fire (client : Client) (i : Nat) : Client :=
  match client.threads[i]? with
  | some thread =>
    match thread.rest with
    | Instr.wait :: rest =>
      if i ∈ client.inactive then client
      else
        { client.put i { thread with rest := rest } with
          inactive :=
            if thread.timer = some pingTimeoutTimer then i :: client.inactive
            else client.inactive }
    | _ => client
  | none => client

end Client

inductive Act where
  | call (call : Call)
  | next (i : Nat)
  | fire (i : Nat)
deriving DecidableEq

def Client.step (client : Client) : Act → Client
  | .call call =>
    { client with
      threads := client.threads ++ [{ rest := call.program, service := call.service }] }
  | .next i => (client.next i).getD client
  | .fire i => client.fire i

/-! ## 3. The shape of a program -/

/-- The programs of the messages, each of them once. -/
def messages : List (List Instr) :=
  [handleWsBinaryMessage false false false false] ++
    ([false, true].map fun timeout => handleWsBinaryMessage false true timeout false) ++
    [false, true].flatMap fun resets => [false, true].flatMap fun timeout =>
      [false, true].map fun interval => handleWsBinaryMessage true resets timeout interval

/-- What may be left of a call of the thread of the socket, and of another call. -/
def callRests : Bool → List (List Instr)
  | true => (messages ++ [handleOnClose]).flatMap List.tails
  | false => [close, simulateDisconnect].flatMap List.tails

def workerRests (slot : Slot) : List (List Instr) := (worker slot).tails

def rests : List (List Instr) :=
  callRests true ++ callRests false ++ workerRests pingTimeoutTimer ++
    workerRests pingIntervalTimer

/-- The next thing that is done to the ping timeout is that a new one is made. -/
def startsNext : List Instr → Bool
  | [] => false
  | .start pingTimeoutTimer :: _ => true
  | .stop pingTimeoutTimer :: _ => false
  | .join pingTimeoutTimer :: _ => false
  | .clear pingTimeoutTimer :: _ => false
  | _ :: rest => startsNext rest

/-- The instructions between `acquire` and `release` of the lock of a timer. -/
def ofSlot (slot : Slot) : Instr → Bool
  | .stop other => other = slot
  | .join other => other = slot
  | .clear other => other = slot
  | .start other => other = slot
  | .release other => other = timerLock slot
  | _ => false

/-- What holds of every rest, looked at once. -/
theorem rest_shape : ∀ rest ∈ rests, ∀ instr ∈ rest.head?,
    (∀ lock ∈ [clientLock, timerLock pingTimeoutTimer, timerLock pingIntervalTimer],
      instr = release lock → holds lock rest.tail = false) ∧
    (∀ slot ∈ [pingTimeoutTimer, pingIntervalTimer],
      holds (timerLock slot) rest = ofSlot slot instr ∧
      (rest.tail.head? = some (join slot) → instr = stop slot) ∧
      (rest.tail.head? = some (clear slot) → instr = join slot)) ∧
    (holds clientLock rest = true →
      (∃ slot ∈ [pingTimeoutTimer, pingIntervalTimer], instr = acquire (timerLock slot)) ∨
      instr = release clientLock ∨
      ∃ slot ∈ [pingTimeoutTimer, pingIntervalTimer], ofSlot slot instr = true) ∧
    (startsNext rest = true → holds clientLock rest = true) ∧
    (startsNext rest.tail = true → instr = clear pingTimeoutTimer ∨
      instr ≠ start pingTimeoutTimer ∧ startsNext rest = true) := by
  decide +kernel

theorem start_shape (rest : List Instr) (hmem : rest ∈ rests) (hstarts : startsNext rest = true) :
    holds clientLock rest = true := by
  cases rest with
  | nil => cases hstarts
  | cons instr rest => exact (rest_shape _ hmem instr rfl).2.2.2.1 hstarts

theorem call_shape : ∀ service ∈ [false, true], ∀ rest ∈ callRests service,
    ∀ instr ∈ rest.head?, instr ≠ wait ∧ instr ≠ again ∧
      (service = true → instr ≠ disconnect) := by
  decide +kernel

theorem timeout_shape : ∀ rest ∈ workerRests pingTimeoutTimer, ∀ instr ∈ rest.head?,
    instr ≠ again ∧ instr ≠ start pingTimeoutTimer ∧
    (instr = clear pingTimeoutTimer → clear pingTimeoutTimer ∉ rest.tail) ∧
    rest.tail.head? ≠ some wait ∧
    (instr ≠ wait → clear pingTimeoutTimer ∈ rest →
      instr = acquire clientLock ∨ instr = release clientLock ∨
      instr = acquire (timerLock pingTimeoutTimer) ∨ ofSlot pingTimeoutTimer instr = true) := by
  decide +kernel

theorem interval_worker_shape : ∀ rest ∈ workerRests pingIntervalTimer,
    ∀ instr ∈ rest.head?, instr = wait ∨ instr = sendPing ∨ instr = again := by
  decide +kernel

theorem timeout_lock_shape : ∀ rest ∈ workerRests pingTimeoutTimer,
    ∀ lock ∈ [clientLock, timerLock pingTimeoutTimer, timerLock pingIntervalTimer],
      (holds lock rest = true → acquire lock ∉ rest) ∧
      (acquire lock ∈ rest → lock = timerLock pingIntervalTimer ∨
        clear pingTimeoutTimer ∈ rest) ∧
      (clear pingTimeoutTimer ∈ rest → holds (timerLock pingTimeoutTimer) rest = false →
        acquire (timerLock pingTimeoutTimer) ∈ rest) := by
  decide +kernel

theorem mem_locks (lock : Lock) :
    lock ∈ [clientLock, timerLock pingTimeoutTimer, timerLock pingIntervalTimer] := by
  rcases lock with _ | _ | _ <;> simp

theorem mem_slots (slot : Slot) : slot ∈ [pingTimeoutTimer, pingIntervalTimer] := by
  cases slot <;> simp

theorem mem_tails_of_cons {instr : Instr} {rest program : List Instr}
    (h : instr :: rest ∈ program.tails) : rest ∈ program.tails := by
  rw [List.mem_tails] at h ⊢
  exact (List.suffix_cons instr rest).trans h

theorem callRests_of_cons {service : Bool} {instr : Instr} {rest : List Instr}
    (h : instr :: rest ∈ callRests service) : rest ∈ callRests service := by
  cases service
  all_goals
    obtain ⟨program, hprogram, htails⟩ := List.mem_flatMap.1 h
    exact List.mem_flatMap.2 ⟨program, hprogram, mem_tails_of_cons htails⟩

theorem callRests_self {program : List Instr} {service : Bool}
    (h : program ∈ if service then messages ++ [handleOnClose] else [close, simulateDisconnect]) :
    program ∈ callRests service := by
  have htails : program ∈ program.tails := (List.mem_tails _ _).2 (List.suffix_refl _)
  cases service
  all_goals exact List.mem_flatMap.2 ⟨program, h, htails⟩

theorem program_mem (call : Call) : call.program ∈ callRests call.service := by
  apply callRests_self
  cases call with
  | message starts resets timeout interval =>
    cases starts <;> cases resets <;> cases timeout <;> cases interval <;>
      simp [Call.program, Call.service, messages, handleWsBinaryMessage]
  | socketClosed => simp [Call.program, Call.service]
  | close => simp [Call.program, Call.service]
  | simulateDisconnect => simp [Call.program, Call.service]

/-- A call has no lock to begin with. -/
theorem program_shape (call : Call) :
    (∀ lock ∈ [clientLock, timerLock pingTimeoutTimer, timerLock pingIntervalTimer],
      holds lock call.program = false) ∧
    startsNext call.program = false ∧
    ∃ lock ∈ [clientLock, timerLock pingTimeoutTimer],
      call.program.head? = some (acquire lock) := by
  cases call with
  | message starts resets timeout interval =>
    cases starts <;> cases resets <;> cases timeout <;> cases interval <;> decide
  | socketClosed => decide
  | close => decide
  | simulateDisconnect => decide

/-! ## 4. What an instruction does -/

section Effect

variable {client after : Client} {i : Nat} {thread moved : Thread} {instr : Instr}
  {rest : List Instr} {born : Option Slot}

/-- The thread goes on, perhaps with a new worker next to it; a worker may go back to its
    `wait`, or return.  Only `clear` and `start` change what is in a slot. -/
structure Effect (client : Client) (i : Nat) (thread : Thread) (instr : Instr)
    (rest : List Instr) (moved : Thread) (born : Option Slot) (after : Client) : Prop where
  threads : after.threads =
    client.threads.set i moved ++
      (born.map fun slot => { rest := worker slot, timer := some slot }).toList
  timer : moved.timer = thread.timer
  service : moved.service = thread.service
  rest : moved.rest = rest ∨ instr = wait ∧ moved.rest = [] ∨
    instr = again ∧ (moved.rest = [] ∨ moved.rest = worker pingIntervalTimer)
  born : ∀ slot, born = some slot ↔ instr = start slot
  timers : ∀ slot, instr ≠ clear slot → instr ≠ start slot →
    after.timers slot = client.timers slot
  cleared : ∀ slot, instr = clear slot → after.timers slot = none
  started : ∀ slot, instr = start slot → after.timers slot = some client.threads.length
  inactive : ∀ worker ∈ client.inactive, worker ∈ after.inactive
  acquired : ∀ lock, instr = acquire lock → client.free lock = true
  stopped : ∀ slot, instr = stop slot →
    client.timers slot = none ∧ moved.joining = none ∨
    ∃ timer, client.timers slot = some timer ∧ timer ∈ after.inactive ∧
      moved.joining = if timer = i then none else some timer
  joined : ∀ slot, instr = join slot → thread.joining = none ∨
    ∃ timer, thread.joining = some timer ∧ client.returned timer = true

theorem effect_put (hrest : moved = { thread with rest := rest })
    (hborn : ∀ slot, instr ≠ start slot) (hclear : ∀ slot, instr ≠ clear slot)
    (hstop : ∀ slot, instr ≠ stop slot)
    (hacquired : ∀ lock, instr = acquire lock → client.free lock = true)
    (hjoined : ∀ slot, instr = join slot → thread.joining = none ∨
      ∃ timer, thread.joining = some timer ∧ client.returned timer = true) :
    Effect client i thread instr rest moved none (client.put i moved) where
  threads := by simp [Client.put]
  timer := by rw [hrest]
  service := by rw [hrest]
  rest := .inl (by rw [hrest])
  born := by simpa using hborn
  timers := fun _ _ _ => rfl
  cleared := fun slot h => absurd h (hclear slot)
  started := fun slot h => absurd h (hborn slot)
  inactive := fun _ h => h
  acquired := hacquired
  stopped := fun slot h => absurd h (hstop slot)
  joined := hjoined

/-- What `execute` can do. -/
theorem effect_of_execute (h : client.execute i thread rest instr = some after) :
    ∃ moved born, Effect client i thread instr rest moved born after ∧
      (instr = wait → moved.rest = []) := by
  cases instr with
  | acquire lock =>
    simp only [Client.execute, Option.ite_none_right_eq_some, Option.some.injEq] at h
    obtain ⟨hfree, rfl⟩ := h
    exact ⟨_, none, effect_put rfl (by simp) (by simp) (by simp)
      (by rintro _ ⟨⟩; exact hfree) (by simp), by simp⟩
  | release lock =>
    obtain rfl := Option.some.inj h
    exact ⟨_, none, effect_put rfl (by simp) (by simp) (by simp) (by simp) (by simp),
      by simp⟩
  | sendPing =>
    obtain rfl := Option.some.inj h
    exact ⟨_, none, effect_put rfl (by simp) (by simp) (by simp) (by simp) (by simp),
      by simp⟩
  | onClose =>
    obtain rfl := Option.some.inj h
    exact ⟨_, none, effect_put rfl (by simp) (by simp) (by simp) (by simp) (by simp),
      by simp⟩
  | disconnect =>
    simp only [Client.execute, Option.ite_none_right_eq_some, Option.some.injEq] at h
    obtain ⟨-, rfl⟩ := h
    exact ⟨_, none, effect_put rfl (by simp) (by simp) (by simp) (by simp) (by simp),
      by simp⟩
  | join slot =>
    rw [Client.execute] at h
    split at h
    · rename_i hjoining
      obtain rfl := Option.some.inj h
      exact ⟨_, none, effect_put rfl (by simp) (by simp) (by simp) (by simp)
        (fun _ _ => .inl hjoining), by simp⟩
    · rename_i timer hjoining
      simp only [Option.ite_none_right_eq_some, Option.some.injEq] at h
      obtain ⟨hreturned, rfl⟩ := h
      exact ⟨_, none, effect_put rfl (by simp) (by simp) (by simp) (by simp)
        (fun _ _ => .inr ⟨timer, hjoining, hreturned⟩), by simp⟩
  | stop slot =>
    rw [Client.execute] at h
    split at h
    · rename_i htimer
      obtain rfl := Option.some.inj h
      refine ⟨{ thread with rest := rest, joining := none }, none, ?_, by simp⟩
      constructor
      case stopped => rintro _ ⟨⟩; exact .inl ⟨htimer, rfl⟩
      all_goals simp [Client.put]
    · rename_i timer htimer
      obtain rfl := Option.some.inj h
      refine ⟨{ thread with rest := rest, joining := if timer = i then none else some timer },
        none, ?_, by simp⟩
      constructor
      case stopped => rintro _ ⟨⟩; exact .inr ⟨timer, htimer, by simp, rfl⟩
      all_goals simp +contextual [Client.put]
  | clear slot =>
    obtain rfl := Option.some.inj h
    refine ⟨{ thread with rest := rest }, none, ?_, by simp⟩
    constructor
    case timers =>
      intro other hother _
      exact Function.update_of_ne (fun hsame => hother (by rw [hsame])) _ _
    all_goals simp [Client.put]
  | start slot =>
    obtain rfl := Option.some.inj h
    refine ⟨{ thread with rest := rest }, some slot, ?_, by simp⟩
    constructor
    case timers =>
      intro other _ hother
      exact Function.update_of_ne (fun hsame => hother (by rw [hsame])) _ _
    all_goals simp
  | wait =>
    simp only [Client.execute, Option.ite_none_right_eq_some, Option.some.injEq] at h
    obtain ⟨-, rfl⟩ := h
    refine ⟨{ thread with rest := [] }, none, ?_, by simp⟩
    constructor
    all_goals simp [Client.put]
  | again =>
    obtain rfl := Option.some.inj h
    refine ⟨{ thread with rest := if i ∈ client.inactive then [] else worker pingIntervalTimer },
      none, ?_, by simp⟩
    constructor
    case rest => split <;> simp
    all_goals simp [Client.put]

theorem effect_of_next (h : client.next i = some after) :
    ∃ thread instr rest moved born, client.threads[i]? = some thread ∧
      thread.rest = instr :: rest ∧ (instr = wait → moved.rest = []) ∧
      Effect client i thread instr rest moved born after := by
  rw [Client.next] at h
  split at h
  · rename_i thread hthread
    split at h
    · rename_i instr rest hrest
      obtain ⟨moved, born, heffect, hwait⟩ := effect_of_execute h
      exact ⟨thread, instr, rest, moved, born, hthread, hrest, hwait, heffect⟩
    · cases h
  · cases h

/-- A timeout that fires is a step of its worker. -/
theorem effect_of_fire (client : Client) (i : Nat) :
    client.fire i = client ∨
    ∃ thread rest moved, client.threads[i]? = some thread ∧ thread.rest = wait :: rest ∧
      moved.rest = rest ∧ Effect client i thread wait rest moved none (client.fire i) := by
  rw [Client.fire]
  split
  · rename_i thread hthread
    split
    · rename_i rest hrest
      split
      · exact .inl rfl
      · refine .inr ⟨thread, rest, { thread with rest := rest }, hthread, hrest, rfl, ?_⟩
        constructor
        case inactive =>
          intro timer hmem
          simp only
          split
          · exact List.mem_cons_of_mem i hmem
          · exact hmem
        all_goals simp [Client.put]
    · exact .inl rfl
  · exact .inl rfl

/-- Who is there afterwards. -/
theorem Effect.lookup (h : Effect client i thread instr rest moved born after) {j : Nat}
    {found : Thread} (hfound : after.threads[j]? = some found) :
    (j = i ∧ found = moved) ∨ (j ≠ i ∧ client.threads[j]? = some found) ∨
      (j = client.threads.length ∧
        ∃ slot, instr = start slot ∧ found = { rest := worker slot, timer := some slot }) := by
  rw [h.threads, List.getElem?_append] at hfound
  split at hfound
  · rw [List.getElem?_set] at hfound
    split at hfound
    · rename_i hsame
      split at hfound
      · exact .inl ⟨hsame.symm, (Option.some.inj hfound).symm⟩
      · cases hfound
    · rename_i hother
      exact .inr (.inl ⟨fun hsame => hother hsame.symm, hfound⟩)
  · rename_i hlate
    rw [List.length_set] at hlate hfound
    cases hborn : born with
    | none => simp [hborn] at hfound
    | some slot =>
      simp only [hborn, Option.map_some, Option.toList_some] at hfound
      have hj : j - client.threads.length = 0 := by
        by_contra hne
        rw [List.getElem?_eq_none (by simp; omega)] at hfound
        cases hfound
      rw [hj] at hfound
      refine .inr (.inr ⟨by omega, slot, (h.born slot).1 hborn, ?_⟩)
      exact (Option.some.inj hfound).symm

theorem Effect.lookup_self (h : Effect client i thread instr rest moved born after)
    (hi : i < client.threads.length) : after.threads[i]? = some moved := by
  rw [h.threads, List.getElem?_append_left (by rw [List.length_set]; exact hi)]
  simp [hi]

theorem Effect.lookup_other (h : Effect client i thread instr rest moved born after) {j : Nat}
    (hne : j ≠ i) {found : Thread} (hfound : client.threads[j]? = some found) :
    after.threads[j]? = some found := by
  have hj : j < client.threads.length := (List.getElem?_eq_some_iff.1 hfound).1
  rw [h.threads, List.getElem?_append_left (by rw [List.length_set]; exact hj),
    List.getElem?_set_ne (Ne.symm hne)]
  exact hfound

/-- The head of what is left, if it is not that of a loop. -/
theorem Effect.rest_eq (h : Effect client i thread instr rest moved born after)
    (hhead : moved.rest ≠ []) (hwait : moved.rest.head? ≠ some wait) :
    moved.rest = rest := by
  rcases h.rest with hsame | ⟨-, hsame⟩ | ⟨-, hsame | hsame⟩
  · exact hsame
  · exact absurd hsame hhead
  · exact absurd hsame hhead
  · rw [hsame] at hwait
    exact absurd rfl hwait

end Effect

/-! ## 5. The invariant -/

/-- What is left of the thread is what may be left of its program. -/
def Thread.Shaped (thread : Thread) : Prop :=
  match thread.timer with
  | none => thread.rest ∈ callRests thread.service
  | some slot => thread.rest ∈ workerRests slot ∧ thread.service = false

/-- One thread has a lock at a time, and a timer that can still fire is the one in its slot.
    While a thread waits for a timer, it is the inactive one in the slot. -/
structure Inv (client : Client) : Prop where
  shaped : ∀ (i : Nat) (thread : Thread), client.threads[i]? = some thread → thread.Shaped
  exclusive : ∀ (lock : Lock) (i j : Nat) (thread other : Thread),
    client.threads[i]? = some thread → client.threads[j]? = some other →
    holds lock thread.rest = true → holds lock other.rest = true → i = j
  owner : ∀ (i : Nat) (thread : Thread), client.threads[i]? = some thread →
    thread.timer = some pingTimeoutTimer → clear pingTimeoutTimer ∈ thread.rest →
    client.timers pingTimeoutTimer = some i
  timer : ∀ (slot : Slot) (timer : Nat), client.timers slot = some timer →
    ∃ thread, client.threads[timer]? = some thread ∧ thread.timer = some slot ∧
      (slot = pingTimeoutTimer → clear pingTimeoutTimer ∈ thread.rest ∨ thread.rest = [])
  joins : ∀ (i : Nat) (thread : Thread) (slot : Slot), client.threads[i]? = some thread →
    thread.rest.head? = some (join slot) →
    (thread.joining = none ∧ (client.timers slot = none ∨ client.timers slot = some i)) ∨
    ∃ timer, timer ≠ i ∧ thread.joining = some timer ∧ client.timers slot = some timer ∧
      timer ∈ client.inactive
  clears : ∀ (i : Nat) (thread : Thread) (slot : Slot), client.threads[i]? = some thread →
    thread.rest.head? = some (clear slot) →
    client.timers slot = none ∨ client.timers slot = some i ∨
    ∃ timer, client.timers slot = some timer ∧ client.returned timer = true
  starts : ∀ (i : Nat) (thread : Thread), client.threads[i]? = some thread →
    startsNext thread.rest = true → client.timers pingTimeoutTimer = none

section Invariant

variable {client after : Client} {i : Nat} {thread moved : Thread} {instr : Instr}
  {rest : List Instr} {born : Option Slot}

theorem inv_new : Inv {} := by
  constructor
  all_goals simp

theorem Thread.Shaped.mem (h : thread.Shaped) : thread.rest ∈ rests := by
  rw [Thread.Shaped] at h
  rw [rests, List.mem_append, List.mem_append, List.mem_append]
  split at h
  · cases hservice : thread.service with
    | false => exact .inl (.inl (.inr (hservice ▸ h)))
    | true => exact .inl (.inl (.inl (hservice ▸ h)))
  · rename_i slot _
    cases slot with
    | pingTimeoutTimer => exact .inl (.inr h.1)
    | pingIntervalTimer => exact .inr h.1

theorem Thread.Shaped.timeout (h : thread.Shaped)
    (htimer : thread.timer = some pingTimeoutTimer) :
    thread.rest ∈ workerRests pingTimeoutTimer := by
  rw [Thread.Shaped, htimer] at h
  exact h.1

/-- The instructions for a slot are those that come under its lock. -/
theorem Thread.Shaped.holds_slot (h : thread.Shaped) (hrest : thread.rest = instr :: rest)
    (slot : Slot) : holds (timerLock slot) thread.rest = ofSlot slot instr :=
  ((rest_shape _ h.mem instr (by rw [hrest]; rfl)).2.1 slot (mem_slots slot)).1

theorem Thread.Shaped.not_holds_of_release (h : thread.Shaped) {lock : Lock}
    (hrest : thread.rest = release lock :: rest) : holds lock rest = false := by
  have hreleased := (rest_shape _ h.mem (release lock) (by rw [hrest]; rfl)).1 lock
    (mem_locks lock) rfl
  rwa [hrest] at hreleased

theorem holds_worker (lock : Lock) (slot : Slot) : holds lock (worker slot) = false := by
  rcases lock with _ | _ | _ <;> cases slot <;> rfl

theorem free_iff {lock : Lock} : client.free lock = true ↔
    ∀ (j : Nat) (other : Thread), client.threads[j]? = some other →
      holds lock other.rest = false := by
  simp only [Client.free, List.all_eq_true, Bool.not_eq_true', List.mem_iff_getElem?]
  constructor
  · intro h j other hother
    exact h other ⟨j, hother⟩
  · rintro h other ⟨j, hother⟩
    exact h j other hother

theorem returned_iff {timer : Nat} (h : client.threads[timer]? = some thread) :
    client.returned timer = true ↔ thread.rest = [] := by
  rw [Client.returned, h]
  simp

variable (hthread : client.threads[i]? = some thread) (hrest : thread.rest = instr :: rest)
  (heffect : Effect client i thread instr rest moved born after)

include hthread heffect

theorem Effect.at_moved : after.threads[i]? = some moved :=
  heffect.lookup_self (List.getElem?_eq_some_iff.1 hthread).1

include hrest

theorem Inv.moved_shaped (h : Inv client) : moved.Shaped := by
  have hshaped := h.shaped i thread hthread
  rw [Thread.Shaped] at hshaped ⊢
  rw [heffect.timer, heffect.service]
  split at hshaped
  · rename_i hcall
    rw [hrest] at hshaped
    have hshape := call_shape thread.service (by cases thread.service <;> simp) _ hshaped instr rfl
    rcases heffect.rest with hsame | ⟨hwait, -⟩ | ⟨hagain, -⟩
    · rw [hsame]
      exact callRests_of_cons hshaped
    · exact absurd hwait hshape.1
    · exact absurd hagain hshape.2.1
  · rename_i slot htimer
    rw [hrest] at hshaped
    refine ⟨?_, hshaped.2⟩
    rcases heffect.rest with hsame | ⟨-, hsame⟩ | ⟨hagain, hsame⟩
    · rw [hsame]
      exact mem_tails_of_cons hshaped.1
    · rw [hsame, workerRests, List.mem_tails]
      exact List.nil_suffix
    · cases slot with
      | pingTimeoutTimer => exact absurd hagain (timeout_shape _ hshaped.1 instr rfl).1
      | pingIntervalTimer =>
        rw [workerRests, List.mem_tails]
        rcases hsame with hsame | hsame
        · rw [hsame]
          exact List.nil_suffix
        · exact ⟨[], hsame⟩

theorem Inv.after_shaped (h : Inv client) (j : Nat) (found : Thread)
    (hfound : after.threads[j]? = some found) : found.Shaped := by
  rcases heffect.lookup hfound with ⟨-, rfl⟩ | ⟨-, hold⟩ | ⟨-, slot, -, rfl⟩
  · exact h.moved_shaped hthread hrest heffect
  · exact h.shaped j found hold
  · exact ⟨(List.mem_tails _ _).2 (List.suffix_refl _), rfl⟩

/-- A lock comes to a thread only by `acquire`. -/
theorem Effect.holder_before {lock : Lock} {j : Nat} {found : Thread}
    (hfound : after.threads[j]? = some found) (hholds : holds lock found.rest = true) :
    (j = i ∧ instr = acquire lock) ∨
      ∃ other, client.threads[j]? = some other ∧ holds lock other.rest = true := by
  rcases heffect.lookup hfound with ⟨rfl, rfl⟩ | ⟨-, hold⟩ | ⟨-, slot, -, rfl⟩
  · rcases heffect.rest with hsame | ⟨-, hsame⟩ | ⟨-, hsame | hsame⟩
    · rw [hsame] at hholds
      by_cases hacquire : instr = acquire lock
      · exact .inl ⟨rfl, hacquire⟩
      · refine .inr ⟨thread, hthread, ?_⟩
        rw [hrest]
        cases instr with
        | acquire other =>
          rw [holds, if_neg (fun hsame => hacquire (by rw [hsame]))]
          exact hholds
        | release other =>
          rw [holds]
          split
          · rfl
          · exact hholds
        | _ => exact hholds
    · rw [hsame] at hholds
      cases hholds
    · rw [hsame] at hholds
      cases hholds
    · rw [hsame, holds_worker] at hholds
      cases hholds
  · exact .inr ⟨found, hold, hholds⟩
  · rw [holds_worker] at hholds
    cases hholds

theorem Inv.after_exclusive (h : Inv client) (lock : Lock) (j k : Nat) (found other : Thread)
    (hfound : after.threads[j]? = some found) (hother : after.threads[k]? = some other)
    (hj : holds lock found.rest = true) (hk : holds lock other.rest = true) : j = k := by
  rcases heffect.holder_before hthread hrest hfound hj with
    ⟨rfl, hacquire⟩ | ⟨oldj, holdj, hholdsj⟩
  · rcases heffect.holder_before hthread hrest hother hk with
      ⟨rfl, -⟩ | ⟨oldk, holdk, hholdsk⟩
    · rfl
    · have hfree := free_iff.1 (heffect.acquired lock hacquire) k oldk holdk
      rw [hholdsk] at hfree
      cases hfree
  · rcases heffect.holder_before hthread hrest hother hk with
      ⟨rfl, hacquire⟩ | ⟨oldk, holdk, hholdsk⟩
    · have hfree := free_iff.1 (heffect.acquired lock hacquire) j oldj holdj
      rw [hholdsj] at hfree
      cases hfree
    · exact h.exclusive lock j k oldj oldk holdj holdk hholdsj hholdsk

/-- Whose timer is in the slot does not change while someone has its lock. -/
theorem Inv.timers_of_holds (h : Inv client) {slot : Slot} {j : Nat} {other : Thread}
    (hne : j ≠ i) (hother : client.threads[j]? = some other)
    (hholds : holds (timerLock slot) other.rest = true) :
    after.timers slot = client.timers slot := by
  have hnot : ofSlot slot instr = false := by
    by_contra hslot
    rw [Bool.not_eq_false, ← (h.shaped i thread hthread).holds_slot hrest slot] at hslot
    exact hne (h.exclusive _ j i other thread hother hthread hholds hslot)
  apply heffect.timers
  · rintro rfl
    simp [ofSlot] at hnot
  · rintro rfl
    simp [ofSlot] at hnot

theorem Inv.after_owner (h : Inv client) (j : Nat) (found : Thread)
    (hfound : after.threads[j]? = some found) (htimer : found.timer = some pingTimeoutTimer)
    (hclear : clear pingTimeoutTimer ∈ found.rest) :
    after.timers pingTimeoutTimer = some j := by
  rcases heffect.lookup hfound with ⟨rfl, rfl⟩ | ⟨hne, hold⟩ | ⟨rfl, slot, rfl, rfl⟩
  · rw [heffect.timer] at htimer
    have hmem := (h.shaped j thread hthread).timeout htimer
    have hshape := timeout_shape _ hmem instr (by rw [hrest]; rfl)
    have htail : clear pingTimeoutTimer ∈ rest := by
      rcases heffect.rest with hsame | ⟨-, hsame⟩ | ⟨hagain, -⟩
      · rwa [hsame] at hclear
      · rw [hsame] at hclear
        cases hclear
      · exact absurd hagain hshape.1
    have hbefore := h.owner j thread hthread htimer (by rw [hrest]; exact .tail _ htail)
    rw [heffect.timers pingTimeoutTimer ?_ hshape.2.1, hbefore]
    rintro rfl
    exact hshape.2.2.1 rfl (by rw [hrest]; exact htail)
  · have hbefore := h.owner j found hold htimer hclear
    rw [← hbefore]
    apply heffect.timers
    · rintro rfl
      rcases h.clears i thread pingTimeoutTimer hthread (by rw [hrest]; rfl) with
        hnone | hown | ⟨timer, hsome, hreturned⟩
      · rw [hbefore] at hnone
        cases hnone
      · rw [hbefore] at hown
        exact hne (Option.some.inj hown)
      · rw [hbefore] at hsome
        obtain rfl := Option.some.inj hsome
        rw [(returned_iff hold).1 hreturned] at hclear
        cases hclear
    · rintro rfl
      have hnone := h.starts i thread hthread (by rw [hrest]; rfl)
      rw [hbefore] at hnone
      cases hnone
  · obtain rfl := Option.some.inj htimer
    exact heffect.started _ rfl

theorem Inv.after_timer (h : Inv client) (slot : Slot) (timer : Nat)
    (htimer : after.timers slot = some timer) :
    ∃ thread, after.threads[timer]? = some thread ∧ thread.timer = some slot ∧
      (slot = pingTimeoutTimer → clear pingTimeoutTimer ∈ thread.rest ∨ thread.rest = []) := by
  by_cases hclear : instr = clear slot
  · rw [heffect.cleared slot hclear] at htimer
    cases htimer
  · by_cases hstart : instr = start slot
    · rw [heffect.started slot hstart] at htimer
      obtain rfl := Option.some.inj htimer
      refine ⟨{ rest := worker slot, timer := some slot }, ?_, rfl, ?_⟩
      · rw [heffect.threads, (heffect.born slot).2 hstart]
        simp
      · rintro rfl
        exact .inl (by decide)
    · rw [heffect.timers slot hclear hstart] at htimer
      obtain ⟨old, hold, hslot, hrests⟩ := h.timer slot timer htimer
      by_cases hself : timer = i
      · subst hself
        obtain rfl := Option.some.inj (hthread.symm.trans hold)
        refine ⟨moved, heffect.at_moved hthread, by rw [heffect.timer]; exact hslot, ?_⟩
        rintro rfl
        have hmem := (h.shaped timer thread hthread).timeout hslot
        rcases hrests rfl with hbefore | hbefore
        · rcases heffect.rest with hsame | ⟨-, hsame⟩ | ⟨hagain, -⟩
          · rw [hrest] at hbefore
            rcases List.mem_cons.1 hbefore with hnow | hlater
            · exact absurd hnow.symm hclear
            · exact .inl (by rw [hsame]; exact hlater)
          · exact .inr hsame
          · exact absurd hagain (timeout_shape _ hmem instr (by rw [hrest]; rfl)).1
        · rw [hrest] at hbefore
          cases hbefore
      · exact ⟨old, heffect.lookup_other hself hold, hslot, hrests⟩

theorem Inv.after_joins (h : Inv client) (j : Nat) (found : Thread) (slot : Slot)
    (hfound : after.threads[j]? = some found) (hhead : found.rest.head? = some (join slot)) :
    (found.joining = none ∧ (after.timers slot = none ∨ after.timers slot = some j)) ∨
    ∃ timer, timer ≠ j ∧ found.joining = some timer ∧ after.timers slot = some timer ∧
      timer ∈ after.inactive := by
  rcases heffect.lookup hfound with ⟨rfl, rfl⟩ | ⟨hne, hold⟩ | ⟨-, slot, -, rfl⟩
  · have hsame := heffect.rest_eq (by rintro hnil; simp [hnil] at hhead)
      (by rw [hhead]; simp)
    have hshape := (rest_shape _ (h.shaped j thread hthread).mem instr
      (by rw [hrest]; rfl)).2.1 slot (mem_slots slot)
    obtain rfl := hshape.2.1 (by rw [hrest, List.tail_cons, ← hsame]; exact hhead)
    have htimers := heffect.timers slot (by simp) (by simp)
    rcases heffect.stopped slot rfl with ⟨hnone, hjoining⟩ | ⟨timer, hsome, hmem, hjoining⟩
    · exact .inl ⟨hjoining, .inl (by rw [htimers]; exact hnone)⟩
    · by_cases hself : timer = j
      · rw [if_pos hself] at hjoining
        exact .inl ⟨hjoining, .inr (by rw [htimers, hsome, hself])⟩
      · rw [if_neg hself] at hjoining
        exact .inr ⟨timer, hself, hjoining, by rw [htimers]; exact hsome, hmem⟩
  · obtain ⟨tail, htail⟩ := List.head?_eq_some_iff.1 hhead
    have hholds : holds (timerLock slot) found.rest = true := by
      rw [(h.shaped j found hold).holds_slot htail slot]
      simp [ofSlot]
    rw [h.timers_of_holds hthread hrest heffect hne hold hholds]
    rcases h.joins j found slot hold hhead with hnone | ⟨timer, hother, hjoining, hsome, hmem⟩
    · exact .inl hnone
    · exact .inr ⟨timer, hother, hjoining, hsome, heffect.inactive timer hmem⟩
  · cases slot <;> cases hhead

theorem Inv.after_clears (h : Inv client) (j : Nat) (found : Thread) (slot : Slot)
    (hfound : after.threads[j]? = some found) (hhead : found.rest.head? = some (clear slot)) :
    after.timers slot = none ∨ after.timers slot = some j ∨
      ∃ timer, after.timers slot = some timer ∧ after.returned timer = true := by
  have hstays : ∀ timer, client.timers slot = some timer → client.returned timer = true →
      after.returned timer = true := by
    intro timer hsome hreturned
    obtain ⟨old, hold, -⟩ := h.timer slot timer hsome
    have hnil := (returned_iff hold).1 hreturned
    have hne : timer ≠ i := by
      rintro rfl
      obtain rfl := Option.some.inj (hthread.symm.trans hold)
      rw [hrest] at hnil
      cases hnil
    exact (returned_iff (heffect.lookup_other hne hold)).2 hnil
  rcases heffect.lookup hfound with ⟨rfl, rfl⟩ | ⟨hne, hold⟩ | ⟨-, slot, -, rfl⟩
  · have hsame := heffect.rest_eq (by rintro hnil; simp [hnil] at hhead)
      (by rw [hhead]; simp)
    have hshape := (rest_shape _ (h.shaped j thread hthread).mem instr
      (by rw [hrest]; rfl)).2.1 slot (mem_slots slot)
    obtain rfl := hshape.2.2 (by rw [hrest, List.tail_cons, ← hsame]; exact hhead)
    rw [heffect.timers slot (by simp) (by simp)]
    rcases h.joins j thread slot hthread (by rw [hrest]; rfl) with
      ⟨-, hnone | hown⟩ | ⟨timer, -, hjoining, hsome, -⟩
    · exact .inl hnone
    · exact .inr (.inl hown)
    · rcases heffect.joined slot rfl with hnone | ⟨waited, hwaited, hreturned⟩
      · rw [hjoining] at hnone
        cases hnone
      · obtain rfl := Option.some.inj (hjoining.symm.trans hwaited)
        exact .inr (.inr ⟨timer, hsome, hstays timer hsome hreturned⟩)
  · obtain ⟨tail, htail⟩ := List.head?_eq_some_iff.1 hhead
    have hholds : holds (timerLock slot) found.rest = true := by
      rw [(h.shaped j found hold).holds_slot htail slot]
      simp [ofSlot]
    rw [h.timers_of_holds hthread hrest heffect hne hold hholds]
    rcases h.clears j found slot hold hhead with hnone | hown | ⟨timer, hsome, hreturned⟩
    · exact .inl hnone
    · exact .inr (.inl hown)
    · exact .inr (.inr ⟨timer, hsome, hstays timer hsome hreturned⟩)
  · cases slot <;> cases hhead

theorem Inv.after_starts (h : Inv client) (j : Nat) (found : Thread)
    (hfound : after.threads[j]? = some found) (hstarts : startsNext found.rest = true) :
    after.timers pingTimeoutTimer = none := by
  rcases heffect.lookup hfound with ⟨rfl, rfl⟩ | ⟨hne, hold⟩ | ⟨-, slot, -, rfl⟩
  · have hsame : found.rest = rest := by
      apply heffect.rest_eq
      · intro hnil
        simp [hnil, startsNext] at hstarts
      · intro hwait
        have hshaped := h.moved_shaped hthread hrest heffect
        obtain ⟨tail, htail⟩ := List.head?_eq_some_iff.1 hwait
        have hclient := start_shape _ hshaped.mem hstarts
        have hshape := (rest_shape _ hshaped.mem wait (by rw [htail]; rfl)).2.2.1 hclient
        simp [ofSlot] at hshape
    rw [hsame] at hstarts
    have hshape := (rest_shape _ (h.shaped j thread hthread).mem instr
      (by rw [hrest]; rfl)).2.2.2.2 (by rw [hrest]; exact hstarts)
    rcases hshape with hclear | ⟨hstart, hbefore⟩
    · exact heffect.cleared _ hclear
    · by_cases hclear : instr = clear pingTimeoutTimer
      · exact heffect.cleared _ hclear
      · rw [heffect.timers _ hclear hstart]
        exact h.starts j thread hthread hbefore
  · by_cases hclear : instr = clear pingTimeoutTimer
    · exact heffect.cleared _ hclear
    · rw [heffect.timers _ hclear ?_]
      · exact h.starts j found hold hstarts
      · rintro rfl
        have hself : startsNext thread.rest = true := by rw [hrest]; rfl
        have hboth := h.exclusive clientLock j i found thread hold hthread
          (start_shape _ (h.shaped j found hold).mem hstarts)
          (start_shape _ (h.shaped i thread hthread).mem hself)
        exact hne hboth
  · cases slot <;> cases hstarts

theorem Inv.of_effect (h : Inv client) : Inv after where
  shaped := h.after_shaped hthread hrest heffect
  exclusive := h.after_exclusive hthread hrest heffect
  owner := h.after_owner hthread hrest heffect
  timer := h.after_timer hthread hrest heffect
  joins := h.after_joins hthread hrest heffect
  clears := h.after_clears hthread hrest heffect
  starts := h.after_starts hthread hrest heffect

end Invariant

theorem Inv.next {client after : Client} {i : Nat} (h : Inv client)
    (hnext : client.next i = some after) : Inv after := by
  obtain ⟨thread, instr, rest, moved, born, hthread, hrest, -, heffect⟩ := effect_of_next hnext
  exact h.of_effect hthread hrest heffect

theorem Inv.call {client : Client} (h : Inv client) (call : Call) :
    Inv (client.step (.call call)) := by
  obtain ⟨hholds, hstarts, first, -, hfirst⟩ := program_shape call
  have hlookup : ∀ {j : Nat} {found : Thread},
      (client.step (.call call)).threads[j]? = some found →
      client.threads[j]? = some found ∨ j = client.threads.length ∧
        found = { rest := call.program, service := call.service } := by
    intro j found hfound
    rw [Client.step, List.getElem?_append] at hfound
    split at hfound
    · exact .inl hfound
    · rename_i hlate
      have hlast := List.mem_singleton.1 (List.mem_of_getElem? hfound)
      have hlt := (List.getElem?_eq_some_iff.1 hfound).1
      exact .inr ⟨by simp only [List.length_singleton] at hlt; omega, hlast⟩
  have hkept : ∀ {j : Nat} {old : Thread}, client.threads[j]? = some old →
      (client.step (.call call)).threads[j]? = some old := by
    intro j old hold
    rw [Client.step, List.getElem?_append_left (List.getElem?_eq_some_iff.1 hold).1]
    exact hold
  constructor
  case shaped =>
    intro j found hfound
    rcases hlookup hfound with hold | ⟨-, rfl⟩
    · exact h.shaped j found hold
    · exact program_mem call
  case exclusive =>
    intro lock j k found other hfound hother hj hk
    rcases hlookup hfound with hold | ⟨rfl, rfl⟩
    · rcases hlookup hother with holdk | ⟨rfl, rfl⟩
      · exact h.exclusive lock j k found other hold holdk hj hk
      · rw [hholds lock (mem_locks lock)] at hk
        cases hk
    · rw [hholds lock (mem_locks lock)] at hj
      cases hj
  case owner =>
    intro j found hfound htimer hclear
    rcases hlookup hfound with hold | ⟨-, rfl⟩
    · exact h.owner j found hold htimer hclear
    · cases htimer
  case timer =>
    intro slot timer htimer
    obtain ⟨old, hold, hslot, hrests⟩ := h.timer slot timer htimer
    exact ⟨old, hkept hold, hslot, hrests⟩
  case joins =>
    intro j found slot hfound hhead
    rcases hlookup hfound with hold | ⟨-, rfl⟩
    · exact h.joins j found slot hold hhead
    · rw [hfirst] at hhead
      cases hhead
  case clears =>
    intro j found slot hfound hhead
    rcases hlookup hfound with hold | ⟨-, rfl⟩
    · rcases h.clears j found slot hold hhead with hnone | hown | ⟨timer, hsome, hreturned⟩
      · exact .inl hnone
      · exact .inr (.inl hown)
      · obtain ⟨old, holdTimer, -⟩ := h.timer slot timer hsome
        have hnil := (returned_iff holdTimer).1 hreturned
        exact .inr (.inr ⟨timer, hsome, (returned_iff (hkept holdTimer)).2 hnil⟩)
    · rw [hfirst] at hhead
      cases hhead
  case starts =>
    intro j found hfound hfoundStarts
    rcases hlookup hfound with hold | ⟨-, rfl⟩
    · exact h.starts j found hold hfoundStarts
    · rw [hstarts] at hfoundStarts
      cases hfoundStarts

theorem Inv.step {client : Client} (h : Inv client) (act : Act) : Inv (client.step act) := by
  cases act with
  | call call => exact h.call call
  | next i =>
    rw [Client.step]
    cases hnext : client.next i with
    | none => exact h
    | some after => exact h.next hnext
  | fire i =>
    rw [Client.step]
    rcases effect_of_fire client i with hsame | ⟨thread, rest, moved, hthread, hrest, -, heffect⟩
    · rw [hsame]
      exact h
    · exact h.of_effect hthread hrest heffect

theorem inv_run (acts : List Act) : Inv (acts.foldl Client.step {}) :=
  (exec_foldl Client.step {} acts).invariant (fun _ act _ h hstep => hstep ▸ h.step act) inv_new

end LivekitClient.PingTimers
