/-
  LivekitClient/CellHeap.lean
  ===========================
  **A heap of shared cells.**

  Objects that several owners hold by reference are modelled as cells of a list
  and are named by their position.  Allocation appends, so a name stays valid
  for ever; an in-place update of a cell is seen by every owner of its name.

  The library has one notion, `Touched f as h h'`: the heap `h'` extends `h`, and
  of the cells of `h` exactly those named in `as` have been overwritten by `f`.
  Everything a program does to such a heap is a chain of allocations and
  overwrites, and `Touched` composes along the chain.

  The cells of a kind are listed by `names`, which an allocation extends and from which
  an overwrite may take one.
-/
import Mathlib.Data.List.Nodup

namespace CellHeap

variable {α : Type}

/-- What is in a heap of which one cell was overwritten. -/
theorem getElem?_modify_of_some {heap : List α} {a i : Nat} {v : α} (f : α → α)
    (ha : heap[a]? = some v) : (heap.modify i f)[a]? = some (if i = a then f v else v) := by
  rw [List.getElem?_modify, ha]
  rfl

theorem getElem?_modify_eq_some {heap : List α} {a i : Nat} {f : α → α} {v' : α} :
    (heap.modify i f)[a]? = some v' ↔
      ∃ v, heap[a]? = some v ∧ v' = if i = a then f v else v := by
  constructor
  · intro hafter
    cases ha : heap[a]? with
    | none => simp [List.getElem?_modify, ha] at hafter
    | some v =>
      rw [getElem?_modify_of_some f ha] at hafter
      exact ⟨v, rfl, (Option.some.inj hafter).symm⟩
  · rintro ⟨v, ha, rfl⟩
    exact getElem?_modify_of_some f ha

theorem getElem?_append_singleton_eq_some {heap : List α} {a : Nat} {v v' : α} :
    (heap ++ [v])[a]? = some v' ↔ heap[a]? = some v' ∨ a = heap.length ∧ v' = v := by
  rcases Nat.lt_trichotomy a heap.length with hlt | rfl | hgt
  · rw [List.getElem?_append_left hlt]
    constructor
    · exact Or.inl
    · rintro (hcell | ⟨rfl, -⟩)
      · exact hcell
      · exact absurd hlt (Nat.lt_irrefl _)
  · rw [List.getElem?_concat_length, List.getElem?_eq_none (Nat.le_refl _)]
    simp [eq_comm]
  · rw [List.getElem?_eq_none (Nat.le_of_lt hgt), List.getElem?_eq_none (by simp; omega)]
    simp [Nat.ne_of_gt hgt]

/-- Overwrite the cells named in `addrs` by `f`, one after the other. -/
def updateAll (f : α → α) (addrs : List Nat) (heap : List α) : List α :=
  addrs.foldl (fun heap addr => heap.modify addr f) heap

@[simp] theorem length_updateAll (f : α → α) (addrs : List Nat) (heap : List α) :
    (updateAll f addrs heap).length = heap.length := by
  induction addrs generalizing heap with
  | nil => rfl
  | cons addr addrs ih =>
    have hstep := ih (heap.modify addr f)
    simpa [updateAll] using hstep

/-- For an idempotent overwrite it does not matter how often a name occurs. -/
theorem getElem?_updateAll {f : α → α} (hf : ∀ v, f (f v) = f v) (addrs : List Nat)
    (heap : List α) (a : Nat) :
    (updateAll f addrs heap)[a]? = if a ∈ addrs then heap[a]?.map f else heap[a]? := by
  induction addrs generalizing heap with
  | nil => simp [updateAll]
  | cons addr addrs ih =>
    have hstep : updateAll f (addr :: addrs) heap = updateAll f addrs (heap.modify addr f) := rfl
    rw [hstep, ih, List.getElem?_modify]
    by_cases haddr : addr = a
    · subst haddr
      cases hcell : heap[addr]? with
      | none => simp
      | some v => simp [hf]
    · have hne : ¬ a = addr := fun h => haddr h.symm
      simp [haddr, hne]

/-- `h'` extends `h`, and of the cells of `h` exactly those named in `addrs` have
    been overwritten by `f`. -/
structure Touched (f : α → α) (addrs : List Nat) (h h' : List α) : Prop where
  length_le : h.length ≤ h'.length
  cell : ∀ a, a < h.length → h'[a]? = if a ∈ addrs then h[a]?.map f else h[a]?

theorem Touched.refl (f : α → α) (h : List α) : Touched f [] h h :=
  ⟨Nat.le_refl _, by simp⟩

/-- Allocation overwrites nothing. -/
theorem Touched.alloc (f : α → α) (h new : List α) : Touched f [] h (h ++ new) := by
  refine ⟨by simp, ?_⟩
  intro a ha
  simp [List.getElem?_append_left ha]

theorem Touched.updateAll {f : α → α} (hf : ∀ v, f (f v) = f v) (addrs : List Nat)
    (h : List α) : Touched f addrs h (updateAll f addrs h) :=
  ⟨by simp, fun a _ => getElem?_updateAll hf addrs h a⟩

/-- Chaining two pieces of work overwrites the cells of both. -/
theorem Touched.trans {f : α → α} (hf : ∀ v, f (f v) = f v) {as bs : List Nat}
    {h₁ h₂ h₃ : List α} (h12 : Touched f as h₁ h₂) (h23 : Touched f bs h₂ h₃) :
    Touched f (as ++ bs) h₁ h₃ := by
  refine ⟨Nat.le_trans h12.length_le h23.length_le, ?_⟩
  intro a ha
  rw [h23.cell a (Nat.lt_of_lt_of_le ha h12.length_le), h12.cell a ha]
  by_cases has : a ∈ as <;> by_cases hbs : a ∈ bs <;> simp [has, hbs]
  cases h₁[a]? <;> simp [hf]

/-- The common case: work that overwrites nothing, then work that does. -/
theorem Touched.after {f : α → α} (hf : ∀ v, f (f v) = f v) {bs : List Nat}
    {h₁ h₂ h₃ : List α} (h12 : Touched f [] h₁ h₂) (h23 : Touched f bs h₂ h₃) :
    Touched f bs h₁ h₃ := by
  have htrans := Touched.trans hf h12 h23
  simpa using htrans

/-! ## Cells of a kind -/

/-- The names of the cells that meet `p`, in the order in which they were allocated. -/
def names (p : α → Bool) (heap : List α) : List Nat :=
  (List.range heap.length).filter fun a => heap[a]?.any p

variable {p : α → Bool} {heap : List α}

theorem mem_names {a : Nat} : a ∈ names p heap ↔ ∃ v, heap[a]? = some v ∧ p v = true := by
  rw [names, List.mem_filter, List.mem_range, Option.any_eq_true]
  constructor
  · rintro ⟨-, v, hcell, hv⟩
    exact ⟨v, hcell, hv⟩
  · rintro ⟨v, hcell, hv⟩
    exact ⟨(List.getElem?_eq_some_iff.mp hcell).1, v, hcell, hv⟩

theorem nodup_names : (names p heap).Nodup :=
  List.nodup_range.filter _

theorem names_append_singleton (v : α) :
    names p (heap ++ [v]) = names p heap ++ if p v then [heap.length] else [] := by
  have hold : ∀ a ∈ List.range heap.length, (heap ++ [v])[a]?.any p = heap[a]?.any p := by
    intro a ha
    rw [List.getElem?_append_left (List.mem_range.mp ha)]
  rw [names, List.length_append, List.length_singleton, List.range_succ, List.filter_append,
    List.filter_congr hold, names]
  cases hv : p v <;> simp [hv]

/-- A cell that stays of its kind. -/
theorem names_modify_of_same {a : Nat} {f : α → α}
    (hsame : ∀ v, heap[a]? = some v → p (f v) = p v) :
    names p (heap.modify a f) = names p heap := by
  rw [names, List.length_modify, names]
  apply List.filter_congr
  intro b _
  rw [List.getElem?_modify]
  cases hcell : heap[b]? with
  | none => rfl
  | some v =>
    by_cases hab : a = b
    · subst hab
      simpa using hsame v hcell
    · simp [hab]

/-- A cell that stops being of the kind. -/
theorem names_modify_of_false {a : Nat} {f : α → α}
    (hfalse : ∀ v, heap[a]? = some v → p (f v) = false) :
    names p (heap.modify a f) = (names p heap).filter (· != a) := by
  rw [names, List.length_modify, names, List.filter_filter]
  apply List.filter_congr
  intro b _
  rw [List.getElem?_modify]
  cases hcell : heap[b]? with
  | none => simp
  | some v =>
    by_cases hab : a = b
    · subst hab
      simpa using hfalse v hcell
    · have hba : b ≠ a := fun h => hab h.symm
      simp [hab, hba]

theorem length_filter_names {a : Nat} (hmem : a ∈ names p heap) :
    ((names p heap).filter (· != a)).length = (names p heap).length - 1 := by
  rw [← nodup_names.erase_eq_filter, List.length_erase_of_mem hmem]

theorem filter_names_of_notMem {a : Nat} (hnot : a ∉ names p heap) :
    (names p heap).filter (· != a) = names p heap := by
  rw [← nodup_names.erase_eq_filter, List.erase_of_not_mem hnot]

/-- An overwrite that keeps every cell of its kind. -/
theorem names_updateAll_of_same {f : α → α} (hsame : ∀ v, p (f v) = p v) (addrs : List Nat) :
    names p (updateAll f addrs heap) = names p heap := by
  induction addrs generalizing heap with
  | nil => rfl
  | cons addr addrs ih =>
    have hstep : updateAll f (addr :: addrs) heap = updateAll f addrs (heap.modify addr f) := rfl
    rw [hstep, ih, names_modify_of_same fun v _ => hsame v]

end CellHeap
