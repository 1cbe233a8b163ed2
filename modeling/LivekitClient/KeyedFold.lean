/-
  LivekitClient/KeyedFold.lean
  ============================
  **Changes of independent cells.**

  A view has a cell for each key, and a change of a key may fail on what its cell
  holds.  A list of changes is then followed cell by cell: it leads from one view to
  another if, for every key, the changes of that key do so in their order, however
  the changes of the other keys stand between them.
-/
import Mathlib.Logic.Function.Basic
import Mathlib.Tactic.Common

namespace KeyedFold

variable {κ ρ γ : Type*} [DecidableEq κ] {step : γ → ρ → Option γ} {view after : κ → γ}
  {changes : List (κ × ρ)}

/-- One change, in its cell. -/
def applyAt (step : γ → ρ → Option γ) (view : κ → γ) (change : κ × ρ) : Option (κ → γ) :=
  (step (view change.1) change.2).map (Function.update view change.1)

/-- The changes of one key. -/
def changesOf (key : κ) (changes : List (κ × ρ)) : List ρ :=
  changes.filterMap fun change => if change.1 = key then some change.2 else none

theorem changesOf_cons_self (key : κ) (change : ρ) (rest : List (κ × ρ)) :
    changesOf key ((key, change) :: rest) = change :: changesOf key rest := by
  simp [changesOf]

theorem changesOf_cons_of_ne {key other : κ} (hne : other ≠ key) (change : ρ)
    (rest : List (κ × ρ)) : changesOf key ((other, change) :: rest) = changesOf key rest := by
  simp [changesOf, hne]

theorem changesOf_eq_nil {key : κ} (hnone : key ∉ changes.map (·.1)) :
    changesOf key changes = [] := by
  rw [changesOf, List.filterMap_eq_nil_iff]
  intro change hmem
  rw [if_neg]
  rintro rfl
  exact hnone (List.mem_map_of_mem hmem)

theorem changesOf_eq_singleton (hnodup : (changes.map (·.1)).Nodup) {key : κ} {change : ρ}
    (hmem : (key, change) ∈ changes) : changesOf key changes = [change] := by
  induction changes with
  | nil => cases hmem
  | cons first rest ih =>
    rw [List.map_cons, List.nodup_cons] at hnodup
    rcases List.mem_cons.mp hmem with rfl | hrest
    · rw [changesOf_cons_self, changesOf_eq_nil hnodup.1]
    · have hne : first.1 ≠ key := by
        rintro rfl
        exact hnodup.1 (List.mem_map.mpr ⟨_, hrest, rfl⟩)
      rw [← ih hnodup.2 hrest]
      exact changesOf_cons_of_ne hne first.2 rest

/-- Following the changes of every cell follows them all. -/
theorem foldlM_applyAt
    (hcells : ∀ key, (changesOf key changes).foldlM step (view key) = some (after key)) :
    changes.foldlM (applyAt step) view = some after := by
  induction changes generalizing view with
  | nil =>
    have heq : view = after := funext fun key => Option.some_inj.mp (hcells key)
    rw [heq]
    rfl
  | cons change rest ih =>
    obtain ⟨key, change⟩ := change
    have hkey := hcells key
    rw [changesOf_cons_self, List.foldlM_cons] at hkey
    obtain ⟨cell, hstep, hrest⟩ := Option.bind_eq_some_iff.mp hkey
    have happly : applyAt step view (key, change) = some (Function.update view key cell) := by
      rw [applyAt, hstep]
      rfl
    rw [List.foldlM_cons, happly]
    refine ih fun other => ?_
    by_cases heq : key = other
    · rw [← heq, Function.update_self]
      exact hrest
    · rw [Function.update_of_ne (Ne.symm heq), ← hcells other, changesOf_cons_of_ne heq]

/-- At most one change of each key. -/
theorem foldlM_applyAt_of_nodup (hnodup : (changes.map (·.1)).Nodup)
    (hstep : ∀ change ∈ changes, step (view change.1) change.2 = some (after change.1))
    (hsame : ∀ key, key ∉ changes.map (·.1) → after key = view key) :
    changes.foldlM (applyAt step) view = some after := by
  apply foldlM_applyAt
  intro key
  by_cases hmem : key ∈ changes.map (·.1)
  · obtain ⟨⟨key, change⟩, hchange, rfl⟩ := List.mem_map.mp hmem
    rw [changesOf_eq_singleton hnodup hchange, List.foldlM_cons, hstep _ hchange]
    rfl
  · rw [changesOf_eq_nil hmem, hsame key hmem]
    rfl

end KeyedFold
