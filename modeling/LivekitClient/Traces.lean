/-
  LivekitClient/Traces.lean
  =========================
  **Laws about the order of what has happened.**

  A trace is the list of what has happened, the latest last.  A law about each entry
  and the entries before it, and whether something is still open (it has happened, and
  nothing that ends it since), can both be followed one entry at a time.
-/
import Mathlib.Data.List.Induction
import Mathlib.Tactic.Common

namespace Traces

variable {α : Type*}

/-- Each entry stands in the relation `law` to the entries before it. -/
def EachAt (law : List α → α → Prop) (trace : List α) : Prop :=
  ∀ before entry after, trace = before ++ entry :: after → law before entry

/-- An entry of the kind `begins` that none of the kind `ends` follows. -/
def Open (begins ends : α → Prop) (trace : List α) : Prop :=
  ∃ before entry after, trace = before ++ entry :: after ∧ begins entry ∧
    ∀ late ∈ after, ¬ ends late

variable {law : List α → α → Prop} {begins ends : α → Prop}

@[simp]
theorem eachAt_nil : EachAt law [] := by
  intro before entry after heq
  simp at heq

theorem EachAt.of_prefix {trace longer : List α} (h : EachAt law longer)
    (hfront : trace <+: longer) : EachAt law trace := by
  obtain ⟨added, rfl⟩ := hfront
  rintro before entry after rfl
  exact h before entry (after ++ added) (by simp)

/-- Where a trace with one more entry can be cut. -/
theorem append_singleton_eq_iff {trace before after : List α} {last entry : α} :
    trace ++ [last] = before ++ entry :: after ↔
      (before = trace ∧ entry = last ∧ after = []) ∨
        ∃ front, after = front ++ [last] ∧ trace = before ++ entry :: front := by
  constructor
  · intro heq
    induction after using List.reverseRecOn with
    | nil =>
      have hcut := List.append_inj' heq rfl
      simp only [List.cons.injEq, and_true] at hcut
      exact Or.inl ⟨hcut.1.symm, hcut.2.symm, rfl⟩
    | append_singleton front other _ =>
      rw [← List.cons_append, ← List.append_assoc] at heq
      have hcut := List.append_inj' heq rfl
      simp only [List.cons.injEq, and_true] at hcut
      exact Or.inr ⟨front, by rw [hcut.2], hcut.1⟩
  · rintro (⟨rfl, rfl, rfl⟩ | ⟨front, rfl, rfl⟩)
    · rfl
    · simp

@[simp]
theorem eachAt_append_singleton {trace : List α} {last : α} :
    EachAt law (trace ++ [last]) ↔ EachAt law trace ∧ law trace last := by
  constructor
  · intro h
    constructor
    · rintro before entry after rfl
      exact h before entry (after ++ [last]) (by simp)
    · exact h trace last [] rfl
  · rintro ⟨htrace, hlast⟩ before entry after heq
    rcases append_singleton_eq_iff.1 heq with ⟨rfl, rfl, -⟩ | ⟨front, -, hbefore⟩
    · exact hlast
    · exact htrace before entry front hbefore

@[simp]
theorem not_open_nil : ¬ Open begins ends [] := by
  rintro ⟨before, entry, after, heq, -⟩
  simp at heq

@[simp]
theorem open_append_singleton {trace : List α} {last : α} :
    Open begins ends (trace ++ [last]) ↔
      begins last ∨ (Open begins ends trace ∧ ¬ ends last) := by
  constructor
  · rintro ⟨before, entry, after, heq, hbegins, hlate⟩
    rcases append_singleton_eq_iff.1 heq with ⟨-, rfl, -⟩ | ⟨front, rfl, htrace⟩
    · exact Or.inl hbegins
    · refine Or.inr ⟨⟨before, entry, front, htrace, hbegins, ?_⟩, hlate last (by simp)⟩
      intro late hmem
      exact hlate late (List.mem_append_left _ hmem)
  · rintro (hbegins | ⟨⟨before, entry, after, rfl, hbegins, hlate⟩, hends⟩)
    · exact ⟨trace, last, [], rfl, hbegins, by simp⟩
    · refine ⟨before, entry, after ++ [last], by simp, hbegins, ?_⟩
      intro late hmem
      rcases List.mem_append.1 hmem with hmem | hmem
      · exact hlate late hmem
      · obtain rfl := List.mem_singleton.1 hmem
        exact hends

/-! ## The entries of one key -/

section Keys

variable {κ : Type*} [DecidableEq κ] {key : α → κ}

/-- An entry with none of its own key before it may go to the front: the order of the entries
    of each key stays the same. -/
theorem filter_key_cons {before after : List α} {entry : α}
    (hfirst : ∀ earlier ∈ before, key earlier ≠ key entry) (k : κ) :
    (before ++ entry :: after).filter (fun e => decide (key e = k)) =
      (entry :: (before ++ after)).filter fun e => decide (key e = k) := by
  by_cases hkey : key entry = k
  · have hbefore : before.filter (fun e => decide (key e = k)) = [] := by
      rw [List.filter_eq_nil_iff]
      intro earlier hearlier
      rw [decide_eq_true_eq, ← hkey]
      exact hfirst earlier hearlier
    simp [hkey, hbefore]
  · simp [hkey]

end Keys

end Traces
