/-
  LivekitClient/SendThenStore.lean
  ================================
  **Sending a value and storing it in two steps.**

  A caller gives a value away and then stores it, and between the two steps the others may
  go on.  What is stored in the end is what was given away last, however the callers under
  way go on, if no value is given away while another one waits to be stored.
-/
import LivekitClient.Runs

namespace SendThenStore

open Runs

variable {α : Type*}

/-! ## 1. The cell -/

/-- A call under way. -/
structure Call (α : Type*) where
  value : α
  sent : Bool := false
deriving DecidableEq

structure Cell (α : Type*) where
  stored : α
  lastSent : Option α := none
  calls : List (Call α) := []
deriving DecidableEq

inductive Act (α : Type*) where
  | start (value : α)
  | send (k : Nat) (accepted : Bool)
  | store (k : Nat)
deriving DecidableEq

/-- A call whose value is not accepted returns. -/
def Cell.send (cell : Cell α) (k : Nat) (accepted : Bool) : Cell α :=
  match cell.calls[k]? with
  | none => cell
  | some call =>
    if call.sent then cell
    else if accepted then
      { cell with
        lastSent := some call.value
        calls := cell.calls.set k { call with sent := true } }
    else { cell with calls := cell.calls.eraseIdx k }

def Cell.store (cell : Cell α) (k : Nat) : Cell α :=
  match cell.calls[k]? with
  | none => cell
  | some call =>
    if call.sent then { cell with stored := call.value, calls := cell.calls.eraseIdx k }
    else cell

def Cell.step (cell : Cell α) : Act α → Cell α
  | .start value => { cell with calls := cell.calls ++ [{ value := value }] }
  | .send k accepted => cell.send k accepted
  | .store k => cell.store k

/-- When every call has returned, what is stored is what was sent last. -/
def Settled (cell : Cell α) : Prop :=
  cell.calls = [] → ∀ value ∈ cell.lastSent, cell.stored = value

/-- The calls under way go on and nothing more is sent. -/
def Finishing : Act α → Prop
  | .start _ => False
  | .send _ accepted => accepted = false
  | .store _ => True

/-- No other value waits to be stored when a value is sent. -/
def Clear (cell : Cell α) : Act α → Prop
  | .send k true => ∀ call ∈ cell.calls[k]?, call.sent = false →
      ∀ other ∈ cell.calls, other.sent = true → other.value = call.value
  | _ => True

/-! ## 2. The invariant -/

/-- What waits to be stored is what was sent last; if nothing waits, it is stored. -/
structure Inv (cell : Cell α) : Prop where
  waiting : ∀ call ∈ cell.calls, call.sent = true → cell.lastSent = some call.value
  stored : ∀ value ∈ cell.lastSent,
    (∃ call ∈ cell.calls, call.sent = true) ∨ cell.stored = value

theorem Inv.settled {cell : Cell α} (h : Inv cell) : Settled cell := by
  intro hcalls value hvalue
  rcases h.stored value hvalue with ⟨call, hcall, -⟩ | hstored
  · rw [hcalls] at hcall
    cases hcall
  · exact hstored

theorem inv_start (stored : α) : Inv { stored := stored } := by
  constructor
  · intro call hcall
    cases hcall
  · intro value hvalue
    cases hvalue

theorem Inv.step {cell : Cell α} (h : Inv cell) {act : Act α} (hclear : Clear cell act) :
    Inv (cell.step act) := by
  cases act with
  | start value =>
    constructor
    · intro call hcall hsent
      rcases List.mem_append.mp hcall with hold | hnew
      · exact h.waiting call hold hsent
      · rw [List.mem_singleton] at hnew
        subst hnew
        cases hsent
    · intro value hvalue
      rcases h.stored value hvalue with ⟨call, hcall, hsent⟩ | hstored
      · exact .inl ⟨call, List.mem_append_left _ hcall, hsent⟩
      · exact .inr hstored
  | send k accepted =>
    rw [Cell.step, Cell.send]
    cases hcall : cell.calls[k]? with
    | none => exact h
    | some call =>
      dsimp only
      by_cases hsent : call.sent = true
      · rw [if_pos hsent]
        exact h
      rw [if_neg hsent]
      obtain ⟨before, after, heq, herase, hset⟩ := split_of_getElem? hcall
      cases accepted with
      | false =>
        rw [if_neg Bool.false_ne_true]
        constructor
        · intro other hother
          rw [herase] at hother
          apply h.waiting other
          rw [heq]
          rcases List.mem_append.mp hother with hmem | hmem
          · exact List.mem_append_left _ hmem
          · exact List.mem_append_right _ (List.mem_cons_of_mem _ hmem)
        · intro value hvalue
          rcases h.stored value hvalue with hwaits | hstored
          · left
            rw [heq] at hwaits
            rw [herase]
            rcases exists_mem_split.mp hwaits with hself | hother
            · exact absurd hself hsent
            · exact hother
          · exact .inr hstored
      | true =>
        rw [if_pos rfl]
        constructor
        · intro other hother hwaits
          rw [hset] at hother
          rcases List.mem_append.mp hother with hmem | hmem
          · rw [hclear call hcall (Bool.not_eq_true _ ▸ hsent) other
              (heq ▸ List.mem_append_left _ hmem) hwaits]
          · rcases List.mem_cons.mp hmem with rfl | hmem
            · rfl
            · rw [hclear call hcall (Bool.not_eq_true _ ▸ hsent) other
                (heq ▸ List.mem_append_right _ (List.mem_cons_of_mem _ hmem)) hwaits]
        · intro value hvalue
          left
          rw [hset]
          exact ⟨{ call with sent := true }, by simp, rfl⟩
  | store k =>
    rw [Cell.step, Cell.store]
    cases hcall : cell.calls[k]? with
    | none => exact h
    | some call =>
      dsimp only
      by_cases hsent : call.sent = true
      · rw [if_pos hsent]
        obtain ⟨before, after, heq, herase, -⟩ := split_of_getElem? hcall
        have hlast := h.waiting call (List.mem_of_getElem? hcall) hsent
        constructor
        · intro other hother
          rw [herase] at hother
          apply h.waiting other
          rw [heq]
          rcases List.mem_append.mp hother with hmem | hmem
          · exact List.mem_append_left _ hmem
          · exact List.mem_append_right _ (List.mem_cons_of_mem _ hmem)
        · intro value hvalue
          rw [hlast] at hvalue
          exact .inr (Option.some.inj hvalue)
      · rw [if_neg hsent]
        exact h

/-! ## 3. How calls finish -/

/-- A call at some place can finish at once. -/
theorem exists_finish_one (cell : Cell α) {k : Nat} (hk : k < cell.calls.length) :
    ∃ act, Finishing act ∧ (cell.step act).calls = cell.calls.eraseIdx k ∧
      (cell.step act).lastSent = cell.lastSent ∧
      (cell.calls[k].sent = true → (cell.step act).stored = cell.calls[k].value) := by
  have hcall : cell.calls[k]? = some cell.calls[k] := List.getElem?_eq_getElem hk
  by_cases hsent : cell.calls[k].sent = true
  · refine ⟨.store k, trivial, ?_⟩
    rw [Cell.step, Cell.store, hcall]
    dsimp only
    rw [if_pos hsent]
    exact ⟨rfl, rfl, fun _ => rfl⟩
  · refine ⟨.send k false, rfl, ?_⟩
    rw [Cell.step, Cell.send, hcall]
    dsimp only
    rw [if_neg hsent, if_neg Bool.false_ne_true]
    exact ⟨rfl, rfl, fun htrue => absurd htrue hsent⟩

/-- All calls can finish. -/
theorem exists_finish (cell : Cell α) :
    ∃ acts : List (Act α), (∀ act ∈ acts, Finishing act) ∧
      (acts.foldl Cell.step cell).calls = [] ∧
      (acts.foldl Cell.step cell).lastSent = cell.lastSent := by
  induction hlength : cell.calls.length generalizing cell with
  | zero =>
    refine ⟨[], ?_, List.length_eq_zero_iff.mp hlength, rfl⟩
    intro act hact
    cases hact
  | succ n ih =>
    have hpos : 0 < cell.calls.length := by omega
    obtain ⟨act, hact, hcalls, hlast, -⟩ := exists_finish_one cell hpos
    have hrest : (cell.step act).calls.length = n := by
      rw [hcalls, List.length_eraseIdx_of_lt hpos, hlength]
      rfl
    obtain ⟨acts, hacts, hnone, hsame⟩ := ih (cell.step act) hrest
    exact ⟨act :: acts, List.forall_mem_cons.mpr ⟨hact, hacts⟩, hnone, hsame.trans hlast⟩

/-- All calls can finish, and one of those that wait to store comes last. -/
theorem exists_finish_last (cell : Cell α) {call : Call α} (hcall : call ∈ cell.calls)
    (hsent : call.sent = true) :
    ∃ acts : List (Act α), (∀ act ∈ acts, Finishing act) ∧
      (acts.foldl Cell.step cell).calls = [] ∧
      (acts.foldl Cell.step cell).lastSent = cell.lastSent ∧
      (acts.foldl Cell.step cell).stored = call.value := by
  induction hlength : cell.calls.length generalizing cell with
  | zero =>
    rw [List.length_eq_zero_iff] at hlength
    rw [hlength] at hcall
    cases hcall
  | succ n ih =>
    obtain ⟨j, hj, hget⟩ := List.getElem_of_mem hcall
    cases n with
    | zero =>
      -- the call is the only one
      have hzero : j = 0 := by omega
      subst hzero
      obtain ⟨act, hact, hcalls, hlast, hstored⟩ := exists_finish_one cell hj
      refine ⟨[act], List.forall_mem_cons.mpr ⟨hact, List.forall_mem_nil _⟩, ?_, hlast, ?_⟩
      · rw [List.foldl_cons, List.foldl_nil, hcalls]
        apply List.length_eq_zero_iff.mp
        rw [List.length_eraseIdx_of_lt hj, hlength]
      · rw [List.foldl_cons, List.foldl_nil, hstored (hget ▸ hsent), hget]
    | succ n =>
      -- another one finishes first
      obtain ⟨k, hk, hne⟩ : ∃ k, k < cell.calls.length ∧ k ≠ j := by
        by_cases hzero : j = 0
        · exact ⟨1, by omega, by omega⟩
        · exact ⟨0, by omega, Ne.symm hzero⟩
      obtain ⟨act, hact, hcalls, hlast, -⟩ := exists_finish_one cell hk
      have hmem : call ∈ (cell.step act).calls := by
        rw [hcalls, List.mem_eraseIdx_iff_getElem]
        exact ⟨j, hj, Ne.symm hne, hget⟩
      have hrest : (cell.step act).calls.length = n + 1 := by
        rw [hcalls, List.length_eraseIdx_of_lt hk, hlength]
        rfl
      obtain ⟨acts, hacts, hnone, hsame, hstored⟩ := ih (cell.step act) hmem hrest
      exact ⟨act :: acts, List.forall_mem_cons.mpr ⟨hact, hacts⟩, hnone, hsame.trans hlast,
        hstored⟩

/-- A value that is sent while another one waits can be lost. -/
theorem exists_unsettled {cell : Cell α} {k : Nat} (hnot : ¬ Clear cell (.send k true)) :
    ∃ acts : List (Act α), (∀ act ∈ acts, Finishing act) ∧
      ¬ Settled (acts.foldl Cell.step (cell.step (.send k true))) := by
  simp only [Clear, not_forall] at hnot
  obtain ⟨call, hcall, hsent, other, hother, hwaits, hdiffers⟩ := hnot
  rw [Option.mem_def] at hcall
  have hstep : cell.step (.send k true) =
      { cell with
        lastSent := some call.value
        calls := cell.calls.set k { call with sent := true } } := by
    rw [Cell.step, Cell.send, hcall]
    dsimp only
    rw [hsent, if_neg Bool.false_ne_true, if_pos rfl]
  have hmem : other ∈ (cell.step (.send k true)).calls := by
    obtain ⟨before, after, heq, -, hset⟩ := split_of_getElem? hcall
    rw [hstep]
    dsimp only
    rw [hset]
    rw [heq] at hother
    rcases List.mem_append.mp hother with hmem | hmem
    · exact List.mem_append_left _ hmem
    · rcases List.mem_cons.mp hmem with rfl | hmem
      · rw [hsent] at hwaits
        cases hwaits
      · exact List.mem_append_right _ (List.mem_cons_of_mem _ hmem)
  obtain ⟨acts, hacts, hnone, hlast, hstored⟩ := exists_finish_last _ hmem hwaits
  refine ⟨acts, hacts, ?_⟩
  intro hsettled
  apply hdiffers
  rw [← hstored]
  apply hsettled hnone
  rw [hlast, hstep]
  rfl

end SendThenStore
