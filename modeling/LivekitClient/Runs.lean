/-
  LivekitClient/Runs.lean
  =======================
  **Runs of a labelled transition system.**

  A system is a relation `step : σ → α → σ → Prop`, a run is the list of its labels.
  Restricting the steps by a condition on the state before them is again a
  system, so a result about all runs that meet a condition is a result about all
  runs of the restricted system.
-/
import Mathlib.Tactic.Common

namespace Runs

variable {σ α : Type*}

/-- `Exec step s as t`: the labels `as` lead from `s` to `t`. -/
inductive Exec (step : σ → α → σ → Prop) : σ → List α → σ → Prop
  | nil (s : σ) : Exec step s [] s
  | cons {s t u : σ} {a : α} {as : List α} (hstep : step s a t) (hrest : Exec step t as u) :
      Exec step s (a :: as) u

/-- One run after another. -/
theorem Exec.append {step : σ → α → σ → Prop} {s t u : σ} {as bs : List α}
    (hrun : Exec step s as t) (hnext : Exec step t bs u) : Exec step s (as ++ bs) u := by
  induction hrun with
  | nil s => exact hnext
  | cons hfirst _ ih => exact .cons hfirst (ih hnext)

/-- The steps whose label meets `ok` in the state before them. -/
def Guarded (ok : σ → α → Prop) (step : σ → α → σ → Prop) : σ → α → σ → Prop :=
  fun s a t => ok s a ∧ step s a t

/-- A function steps through any labels. -/
theorem exec_foldl (f : σ → α → σ) (s : σ) (as : List α) :
    Exec (fun s a t => t = f s a) s as (as.foldl f s) := by
  induction as generalizing s with
  | nil => exact .nil s
  | cons a as ih => exact .cons rfl (ih (f s a))

/-- A partial function steps through the labels it takes. -/
theorem exec_foldlM (f : σ → α → Option σ) {s t : σ} {as : List α}
    (hrun : as.foldlM f s = some t) : Exec (fun s a t => f s a = some t) s as t := by
  induction as generalizing s with
  | nil =>
    obtain rfl := Option.some.inj hrun
    exact .nil s
  | cons a as ih =>
    rw [List.foldlM_cons] at hrun
    obtain ⟨next, hstep, hrest⟩ := Option.bind_eq_some_iff.mp hrun
    exact .cons hstep (ih hrest)

/-- Every label meets `ok` in the state before it, where `f` steps. -/
def Along (ok : σ → α → Prop) (f : σ → α → σ) : σ → List α → Prop
  | _, [] => True
  | s, a :: as => ok s a ∧ Along ok f (f s a) as

instance decidableAlong (ok : σ → α → Prop) [∀ s a, Decidable (ok s a)] (f : σ → α → σ) :
    ∀ s as, Decidable (Along ok f s as)
  | _, [] => .isTrue trivial
  | s, a :: as =>
    have := decidableAlong ok f (f s a) as
    inferInstanceAs (Decidable (ok s a ∧ Along ok f (f s a) as))

theorem along_append {ok : σ → α → Prop} {f : σ → α → σ} {s : σ} {as bs : List α} :
    Along ok f s (as ++ bs) ↔ Along ok f s as ∧ Along ok f (as.foldl f s) bs := by
  induction as generalizing s with
  | nil => simp [Along]
  | cons a as ih =>
    rw [List.cons_append, Along, Along, ih, List.foldl_cons, and_assoc]

theorem Along.take {ok : σ → α → Prop} {f : σ → α → σ} {s : σ} {as : List α}
    (h : Along ok f s as) (n : Nat) : Along ok f s (as.take n) := by
  rw [← List.take_append_drop n as] at h
  exact (along_append.1 h).1

/-- Two conditions that agree where the invariant holds that one of them keeps. -/
theorem along_congr {ok ok' : σ → α → Prop} {f : σ → α → σ} {Inv : σ → Prop}
    (hiff : ∀ s a, Inv s → (ok s a ↔ ok' s a)) (hstep : ∀ s a, Inv s → ok s a → Inv (f s a))
    {s : σ} (hinit : Inv s) (as : List α) : Along ok f s as ↔ Along ok' f s as := by
  induction as generalizing s with
  | nil => exact Iff.rfl
  | cons a as ih =>
    rw [Along, Along, ← hiff s a hinit]
    exact and_congr_right fun hok => ih (hstep s a hinit hok)

/-- A property that follows from an invariant, and that the next step keeps only if it
    meets the condition under which the invariant is kept. -/
theorem forall_take_iff_along {ok : σ → α → Prop} {f : σ → α → σ} {Inv P : σ → Prop}
    (hinv : ∀ s, Inv s → P s) (hstep : ∀ s a, Inv s → ok s a → Inv (f s a))
    (hneeds : ∀ s a, Inv s → P (f s a) → ok s a) {s : σ} (hinit : Inv s) (as : List α) :
    (∀ n, P ((as.take n).foldl f s)) ↔ Along ok f s as := by
  induction as generalizing s with
  | nil => exact ⟨fun _ => trivial, fun _ n => by simpa using hinv s hinit⟩
  | cons a as ih =>
    rw [Along]
    constructor
    · intro h
      have hok : ok s a := hneeds s a hinit (h 1)
      exact ⟨hok, (ih (hstep s a hinit hok)).1 fun n => h (n + 1)⟩
    · rintro ⟨hok, hrest⟩ n
      cases n with
      | zero => exact hinv s hinit
      | succ n => exact (ih (hstep s a hinit hok)).2 hrest n

theorem exec_guarded {ok : σ → α → Prop} {f : σ → α → σ} {s : σ} {as : List α}
    (hok : Along ok f s as) : Exec (Guarded ok fun s a t => t = f s a) s as (as.foldl f s) := by
  induction as generalizing s with
  | nil => exact .nil s
  | cons a as ih => exact .cons ⟨hok.1, rfl⟩ (ih hok.2)

/-- What every step preserves, every run preserves. -/
theorem Exec.invariant {step : σ → α → σ → Prop} {Inv : σ → Prop}
    (hstep : ∀ s a t, Inv s → step s a t → Inv t) {s t : σ} {as : List α}
    (hrun : Exec step s as t) (hinit : Inv s) : Inv t := by
  induction hrun with
  | nil s => exact hinit
  | cons hfirst _ ih => exact ih (hstep _ _ _ hinit hfirst)

/-! ## Calls under way

Where the threads of a system are a list of calls, a step picks one of them. -/

theorem split_of_getElem? {calls : List α} {i : Nat} {call : α} (h : calls[i]? = some call) :
    ∃ before after, calls = before ++ call :: after ∧ calls.eraseIdx i = before ++ after ∧
      ∀ other, calls.set i other = before ++ other :: after := by
  obtain ⟨hlt, rfl⟩ := List.getElem?_eq_some_iff.1 h
  refine ⟨calls.take i, calls.drop (i + 1), ?_, ?_, ?_⟩
  · rw [← List.drop_eq_getElem_cons hlt, List.take_append_drop]
  · exact List.eraseIdx_eq_take_drop_succ calls i
  · intro other
    exact List.set_eq_take_append_cons_drop.trans (if_pos hlt)

/-- Some call is of a kind: the one that is picked, or one of the others. -/
theorem exists_mem_split {before after : List α} {call : α} {kind : α → Prop} :
    (∃ other ∈ before ++ call :: after, kind other) ↔
      kind call ∨ ∃ other ∈ before ++ after, kind other := by
  constructor
  · rintro ⟨other, hmem, hkind⟩
    rcases List.mem_append.1 hmem with hmem | hmem
    · exact Or.inr ⟨other, List.mem_append_left _ hmem, hkind⟩
    · rcases List.mem_cons.1 hmem with rfl | hmem
      · exact Or.inl hkind
      · exact Or.inr ⟨other, List.mem_append_right _ hmem, hkind⟩
  · rintro (hkind | ⟨other, hmem, hkind⟩)
    · exact ⟨call, by simp, hkind⟩
    · refine ⟨other, ?_, hkind⟩
      rcases List.mem_append.1 hmem with hmem | hmem
      · exact List.mem_append_left _ hmem
      · exact List.mem_append_right _ (List.mem_cons_of_mem _ hmem)

theorem forall_mem_split {before after : List α} {call : α} {kind : α → Prop} :
    (∀ other ∈ before ++ call :: after, kind other) ↔
      kind call ∧ ∀ other ∈ before ++ after, kind other := by
  simp only [List.forall_mem_append, List.forall_mem_cons]
  exact and_left_comm

/-! ## What a run puts out -/

section Outputs

variable {β : Type*}

def outputs (f : σ → α → σ × List β) : σ → List α → List β
  | _, [] => []
  | s, a :: as => (f s a).2 ++ outputs f (f s a).1 as

/-- **Noninterference by unwinding.**  `R` relates two states that look alike to an
    observer.  If the labels he may see keep it and put out the same for him, and the
    others, taken in the first state only, keep it and put out nothing for him, then
    he cannot tell a run from what is left of it without those others. -/
theorem outputs_filter {f : σ → α → σ × List β} {R : σ → σ → Prop} {visible : α → Bool}
    {observed : β → Bool} {ok : σ → α → Prop}
    (hvisible : ∀ s t a, R s t → visible a = true →
      R (f s a).1 (f t a).1 ∧ (f s a).2.filter observed = (f t a).2.filter observed)
    (hhidden : ∀ s t a, R s t → visible a = false → ok s a →
      R (f s a).1 t ∧ (f s a).2.filter observed = [])
    {s t : σ} {as : List α} (h : R s t) (hok : Along ok (fun s a => (f s a).1) s as) :
    (outputs f s as).filter observed = (outputs f t (as.filter visible)).filter observed := by
  induction as generalizing s t with
  | nil => rfl
  | cons a as ih =>
    rw [outputs, List.filter_append]
    by_cases hsees : visible a = true
    · obtain ⟨hnext, hsame⟩ := hvisible s t a h hsees
      rw [List.filter_cons_of_pos hsees, outputs, List.filter_append, hsame, ih hnext hok.2]
    · obtain ⟨hnext, hnothing⟩ := hhidden s t a h (Bool.not_eq_true _ ▸ hsees) hok.1
      rw [List.filter_cons_of_neg hsees, hnothing, ih hnext hok.2]
      rfl

end Outputs

end Runs
