/-
  LivekitClient/VersionedSlot.lean
  ================================
  **A slot that keeps the newest value.**

  A slot is empty or holds a value with a version.  A value that is put in replaces
  the one there unless it is older; dropping empties the slot and forgets the version.
  Puts alone could be made in any order; drops are what makes the order matter.
-/
import Mathlib.Order.Lattice
import Mathlib.Tactic.Common

namespace LivekitClient.VersionedSlot

variable {α ν : Type} [LinearOrder ν] (version : α → ν)

inductive Write (α : Type) where
  | put (a : α)
  | drop
deriving DecidableEq

def write (slot : Option α) : Write α → Option α
  | .drop => none
  | .put a =>
    match slot with
    | none => some a
    | some held => if version a < version held then some held else some a

def writes (slot : Option α) (ws : List (Write α)) : Option α := ws.foldl (write version) slot

@[simp]
theorem writes_nil (slot : Option α) : writes version slot [] = slot := rfl

@[simp]
theorem writes_cons (slot : Option α) (w : Write α) (ws : List (Write α)) :
    writes version slot (w :: ws) = writes version (write version slot w) ws := rfl

theorem writes_append (slot : Option α) (ws more : List (Write α)) :
    writes version slot (ws ++ more) = writes version (writes version slot ws) more :=
  List.foldl_append

/-- What a slot holds was there or was put in. -/
theorem mem_of_writes_eq_some {slot : Option α} {ws : List (Write α)} {a : α}
    (h : writes version slot ws = some a) : slot = some a ∨ .put a ∈ ws := by
  induction ws generalizing slot with
  | nil => exact Or.inl h
  | cons w ws ih =>
    rcases ih h with hwrite | hmem
    · cases w with
      | drop => cases hwrite
      | put b =>
        cases slot with
        | none =>
          obtain rfl := Option.some.inj hwrite
          exact Or.inr List.mem_cons_self
        | some held =>
          simp only [write] at hwrite
          split at hwrite
          · exact Or.inl hwrite
          · obtain rfl := Option.some.inj hwrite
            exact Or.inr List.mem_cons_self
    · exact Or.inr (List.mem_cons_of_mem _ hmem)

/-- A slot that was dropped last is empty. -/
theorem writes_eq_none_of_getLast? {ws : List (Write α)} (hlast : ws.getLast? = some .drop)
    (slot : Option α) : writes version slot ws = none := by
  obtain ⟨before, rfl⟩ := List.getLast?_eq_some_iff.mp hlast
  rw [writes_append]
  rfl

/-- Whether a slot is empty is up to the last write alone. -/
theorem isSome_writes_iff_of_getLast? {ws : List (Write α)} {w : Write α}
    (hlast : ws.getLast? = some w) (slot : Option α) :
    (writes version slot ws).isSome ↔ w ≠ .drop := by
  obtain ⟨before, rfl⟩ := List.getLast?_eq_some_iff.mp hlast
  rw [writes_append, writes_cons, writes_nil]
  cases w with
  | drop => simp [write]
  | put a =>
    cases writes version slot before with
    | none => simp [write]
    | some held =>
      by_cases hold : version a < version held <;> simp [write, hold]

/-- The slot holds something newer than `i`. -/
def Newer (i : α) (slot : Option α) : Prop := ∃ a, slot = some a ∧ version i < version a

/-- The slot holds nothing newer than `i`. -/
def Older (i : α) (slot : Option α) : Prop := ∀ a, slot = some a → version a ≤ version i

/-- Each drop is followed by something newer than `i`. -/
def Restored (i : α) (ws : List (Write α)) : Prop :=
  ∀ before after, ws = before ++ .drop :: after → ∃ a, .put a ∈ after ∧ version i < version a

variable {version}

theorem Restored.tail {i : α} {w : Write α} {ws : List (Write α)}
    (h : Restored version i (w :: ws)) : Restored version i ws := by
  rintro before after rfl
  exact h (w :: before) after rfl

/-- Putting in an older value changes nothing. -/
theorem Newer.write_put {i : α} {slot : Option α} (h : Newer version i slot) :
    write version slot (.put i) = slot := by
  obtain ⟨a, rfl, hlt⟩ := h
  exact if_pos hlt

theorem Older.write_put {i : α} {slot : Option α} (h : Older version i slot) :
    write version slot (.put i) = some i := by
  cases slot with
  | none => rfl
  | some held => exact if_neg (not_lt.mpr (h held rfl))

theorem newer_or_older (i : α) (slot : Option α) :
    Newer version i slot ∨ Older version i slot := by
  cases slot with
  | none => exact .inr fun a ha => nomatch ha
  | some held =>
    rcases lt_or_ge (version i) (version held) with hlt | hle
    · exact .inl ⟨held, rfl, hlt⟩
    · exact .inr fun a ha => by cases ha; exact hle

theorem newer_write_put {i a : α} (hlt : version i < version a) (slot : Option α) :
    Newer version i (write version slot (.put a)) := by
  cases slot with
  | none => exact ⟨a, rfl, hlt⟩
  | some held =>
    by_cases hold : version a < version held
    · exact ⟨held, if_pos hold, hlt.trans hold⟩
    · exact ⟨a, if_neg hold, hlt⟩

theorem Newer.write_put_any {i a : α} {slot : Option α} (h : Newer version i slot) :
    Newer version i (write version slot (.put a)) := by
  obtain ⟨held, rfl, hlt⟩ := h
  by_cases hold : version a < version held
  · exact ⟨held, if_pos hold, hlt⟩
  · exact ⟨a, if_neg hold, hlt.trans_le (not_lt.mp hold)⟩

/-- A slot that holds something newer, or is still to get it, ends up with it. -/
theorem newer_writes {i : α} {ws : List (Write α)} (hrestored : Restored version i ws)
    {slot : Option α}
    (h : Newer version i slot ∨ ∃ a, .put a ∈ ws ∧ version i < version a) :
    Newer version i (writes version slot ws) := by
  induction ws generalizing slot with
  | nil =>
    rcases h with h | ⟨a, hmem, -⟩
    · exact h
    · cases hmem
  | cons w ws ih =>
    rw [writes_cons]
    apply ih hrestored.tail
    cases w with
    | drop => exact .inr (hrestored [] ws rfl)
    | put b =>
      rcases h with h | ⟨a, hmem, hlt⟩
      · exact .inl h.write_put_any
      · rcases List.mem_cons.mp hmem with heq | hmem
        · cases heq
          exact .inl (newer_write_put hlt slot)
        · exact .inr ⟨a, hmem, hlt⟩

/-- A slot that holds nothing newer than `i` catches up with one that holds `i`. -/
theorem Older.write_writes {i : α} {ws : List (Write α)}
    (hne : ∀ a, .put a ∈ ws → version a ≠ version i) (hrestored : Restored version i ws)
    {slot : Option α} (h : Older version i slot) :
    write version (writes version slot ws) (.put i) = writes version (some i) ws := by
  induction ws generalizing slot with
  | nil => exact h.write_put
  | cons w ws ih =>
    have hne' : ∀ a, .put a ∈ ws → version a ≠ version i :=
      fun a hmem => hne a (List.mem_cons_of_mem _ hmem)
    rw [writes_cons, writes_cons]
    cases w with
    | drop =>
      -- from here on both are the same, and something newer is still to come
      exact (newer_writes hrestored.tail (.inr (hrestored [] ws rfl))).write_put
    | put a =>
      rcases lt_or_gt_of_ne (hne a List.mem_cons_self) with hlt | hgt
      · rw [show write version (some i) (.put a) = some i from if_pos hlt]
        apply ih hne' hrestored.tail
        cases slot with
        | none =>
          rintro _ ⟨⟩
          exact hlt.le
        | some held =>
          intro b hb
          by_cases hold : version a < version held
          · rw [show write version (some held) (.put a) = some held from if_pos hold] at hb
            cases hb
            exact h held rfl
          · rw [show write version (some held) (.put a) = some a from if_neg hold] at hb
            cases hb
            exact hlt.le
      · have hslot : write version slot (.put a) = some a := by
          cases slot with
          | none => rfl
          | some held => exact if_neg (not_lt.mpr ((h held rfl).trans hgt.le))
        rw [hslot, show write version (some i) (.put a) = some a from if_neg (not_lt.mpr hgt.le)]
        exact (newer_writes hrestored.tail (.inl ⟨a, rfl, hgt⟩)).write_put

/-- **A value can be put in late**, after writes that were meant to follow it: nothing
    of its own version is among them, and each drop is made up for. -/
theorem write_writes {i : α} {ws : List (Write α)}
    (hne : ∀ a, .put a ∈ ws → version a ≠ version i) (hrestored : Restored version i ws)
    (slot : Option α) :
    write version (writes version slot ws) (.put i) =
      writes version (write version slot (.put i)) ws := by
  rcases @newer_or_older α ν _ version i slot with hnewer | holder
  · rw [hnewer.write_put]
    exact (newer_writes hrestored (.inl hnewer)).write_put
  · rw [holder.write_put]
    exact holder.write_writes hne hrestored

end LivekitClient.VersionedSlot
