/-
  LivekitClient/TextSearch.lean
  =============================
  **Searching and cutting texts.**

  The first place where a pattern occurs, the first place of a character from a position on,
  and the part of a text up to a stop.  Printing a text from parts and cutting it again gives
  the parts back as long as the cut stops where they were joined: the lemmas of this file say
  where a search ends in a text that is put together from parts.
-/
import Mathlib.Data.List.Infix

namespace LivekitClient.TextSearch

variable {α : Type*}

/-! ## 1. The first occurrence of a pattern -/

section Find

variable [BEq α]

/-- The first place where the pattern occurs. -/
def find (pattern text : List α) : Option Nat :=
  (List.range (text.length + 1)).find? fun i => pattern.isPrefixOf (text.drop i)

/-- The first place of a character, from a position on. -/
def findFrom (c : α) (text : List α) (position : Nat) : Option Nat :=
  ((text.drop position).findIdx? (· == c)).map (· + position)

theorem le_of_findFrom {c : α} {text : List α} {position i : Nat}
    (hfind : findFrom c text position = some i) : position ≤ i := by
  obtain ⟨j, -, rfl⟩ := Option.map_eq_some_iff.mp hfind
  omega

variable [LawfulBEq α] {pattern text front rest : List α} {i : Nat}

theorem findFrom_of_notMem {c : α} {position : Nat} (hc : c ∉ text.drop position) :
    findFrom c text position = none := by
  have hnone : (text.drop position).findIdx? (· == c) = none := by
    rw [List.findIdx?_eq_none_iff]
    intro x hx
    exact beq_eq_false_iff_ne.mpr fun heq => hc (heq ▸ hx)
  rw [findFrom, hnone, Option.map_none]

theorem findFrom_append {c : α} {position : Nat} (hdrop : text.drop position = front ++ rest)
    (hc : c ∉ front) :
    findFrom c text position =
      (rest.findIdx? (· == c)).map (· + (position + front.length)) := by
  have hnone : front.findIdx? (· == c) = none := by
    rw [List.findIdx?_eq_none_iff]
    intro x hx
    exact beq_eq_false_iff_ne.mpr fun heq => hc (heq ▸ hx)
  rw [findFrom, hdrop, List.findIdx?_append, hnone, Option.none_or, Option.map_map]
  congr 1
  funext j
  simp only [Function.comp]
  omega

/-- The search stops behind a front that does not have the character. -/
theorem findFrom_append_cons {c : α} {position : Nat}
    (hdrop : text.drop position = front ++ c :: rest) (hc : c ∉ front) :
    findFrom c text position = some (position + front.length) := by
  rw [findFrom_append hdrop hc, List.findIdx?_cons]
  simp

theorem find_eq_some_iff : find pattern text = some i ↔
    pattern <+: text.drop i ∧ i ≤ text.length ∧ ∀ j < i, ¬ pattern <+: text.drop j := by
  have hfails : ∀ j, ((!pattern.isPrefixOf (text.drop j)) = true ↔ ¬ pattern <+: text.drop j) := by
    intro j
    rw [Bool.not_eq_true', ← Bool.not_eq_true, List.isPrefixOf_iff_prefix]
  rw [find, List.find?_range_eq_some, List.isPrefixOf_iff_prefix, List.mem_range,
    Nat.lt_succ_iff]
  simp only [hfails]

theorem find_eq_none_iff : find pattern text = none ↔ ¬ pattern <:+: text := by
  rw [find, List.find?_range_eq_none, List.infix_iff_prefix_suffix]
  constructor
  · rintro hnone ⟨suffix, hpattern, hsuffix⟩
    have hat := hnone (text.length - suffix.length) (by omega)
    rw [← List.suffix_iff_eq_drop.mp hsuffix, List.isPrefixOf_iff_prefix.mpr hpattern] at hat
    cases hat
  · intro hnone j hj
    by_contra hat
    have hfound : pattern.isPrefixOf (text.drop j) = true := by simpa using hat
    exact hnone ⟨text.drop j, List.isPrefixOf_iff_prefix.mp hfound, List.drop_suffix j text⟩

/-- Where a pattern is found, the text is cut in front of it and behind it. -/
theorem eq_of_find_eq_some (hfind : find pattern text = some i) :
    text = text.take i ++ pattern ++ text.drop (i + pattern.length) := by
  obtain ⟨hat, -, -⟩ := find_eq_some_iff.mp hfind
  obtain ⟨behind, hbehind⟩ := hat
  have hdrop : text.drop (i + pattern.length) = behind := by
    rw [← List.drop_drop, ← hbehind, List.drop_left]
  rw [hdrop, List.append_assoc, hbehind, List.take_append_drop]

/-- A first occurrence does not depend on what comes behind it. -/
theorem find_append_iff (hlong : i + pattern.length ≤ front.length) :
    find pattern (front ++ rest) = some i ↔ find pattern front = some i := by
  have hlocal : ∀ j, j ≤ i → (pattern <+: (front ++ rest).drop j ↔ pattern <+: front.drop j) := by
    intro j hj
    rw [List.drop_append_of_le_length (by omega)]
    constructor
    · intro hpre
      exact List.prefix_of_prefix_length_le hpre (List.prefix_append _ _)
        (by rw [List.length_drop]; omega)
    · exact List.prefix_append_of_prefix
  rw [find_eq_some_iff, find_eq_some_iff, hlocal i (Nat.le_refl i), List.length_append]
  constructor
  · rintro ⟨hat, -, hfirst⟩
    refine ⟨hat, by omega, ?_⟩
    intro j hj
    rw [← hlocal j (Nat.le_of_lt hj)]
    exact hfirst j hj
  · rintro ⟨hat, -, hfirst⟩
    refine ⟨hat, by omega, ?_⟩
    intro j hj
    rw [hlocal j (Nat.le_of_lt hj)]
    exact hfirst j hj

/-- Changing characters that are not of the pattern, into such ones, finds the same place. -/
theorem find_map {f : α → α} (hf : ∀ c, ∀ x ∈ pattern, f c = x ↔ c = x) :
    find pattern (text.map f) = find pattern text := by
  have hstarts : ∀ suffix : List α, pattern.isPrefixOf (suffix.map f) =
      pattern.isPrefixOf suffix := by
    induction pattern with
    | nil => simp
    | cons x pattern ih =>
      intro suffix
      cases suffix with
      | nil => rfl
      | cons c suffix =>
        have hsame : (x == f c) = (x == c) := by
          rw [Bool.eq_iff_iff, beq_iff_eq, beq_iff_eq, eq_comm, hf c x (by simp), eq_comm]
        rw [List.map_cons, List.isPrefixOf, List.isPrefixOf, hsame,
          ih fun c x hx => hf c x (List.mem_cons_of_mem _ hx)]
  unfold find
  simp only [List.length_map, ← List.map_drop, hstarts]

end Find

/-! ## 2. Occurrences in a text put together from parts -/

section Infix

variable {pattern front rest : List α} {c : α}

/-- A beginning that does not use a character ends in front of it. -/
theorem prefix_append_cons_iff (hc : c ∉ pattern) :
    pattern <+: front ++ c :: rest ↔ pattern <+: front := by
  refine ⟨?_, List.prefix_append_of_prefix⟩
  intro hpre
  induction pattern generalizing front with
  | nil => exact List.nil_prefix
  | cons x pattern ih =>
    cases front with
    | nil =>
      rw [List.nil_append, List.cons_prefix_cons] at hpre
      exact absurd (hpre.1 ▸ List.mem_cons_self) hc
    | cons y front =>
      rw [List.cons_append, List.cons_prefix_cons] at hpre
      rw [List.cons_prefix_cons]
      exact ⟨hpre.1, ih (fun hmem => hc (List.mem_cons_of_mem _ hmem)) hpre.2⟩

/-- No occurrence goes across a character that the pattern does not have. -/
theorem infix_append_cons_iff (hc : c ∉ pattern) :
    pattern <:+: front ++ c :: rest ↔ pattern <:+: front ∨ pattern <:+: rest := by
  induction front with
  | nil =>
    have hhead : pattern <+: c :: rest ↔ pattern <+: [] :=
      @prefix_append_cons_iff _ pattern [] rest c hc
    rw [List.nil_append, List.infix_cons_iff, hhead, List.prefix_nil, List.infix_nil]
  | cons x front ih =>
    have hhead : pattern <+: x :: (front ++ c :: rest) ↔ pattern <+: x :: front :=
      @prefix_append_cons_iff _ pattern (x :: front) rest c hc
    rw [List.cons_append, List.infix_cons_iff, hhead, ih, List.infix_cons_iff, or_assoc]

/-- Without its first character there is no occurrence. -/
theorem infix_append_iff_of_head_notMem (hc : c ∉ front) :
    c :: pattern <:+: front ++ rest ↔ c :: pattern <:+: rest := by
  induction front with
  | nil => rw [List.nil_append]
  | cons x front ih =>
    rw [List.mem_cons, not_or] at hc
    rw [List.cons_append, List.infix_cons_iff, List.cons_prefix_cons, ih hc.2]
    constructor
    · rintro (⟨heq, -⟩ | hoccurs)
      · exact absurd heq hc.1
      · exact hoccurs
    · exact Or.inr

theorem not_infix_of_notMem (hc : c ∈ pattern) (hfront : c ∉ front) : ¬ pattern <:+: front :=
  fun hoccurs => hfront (hoccurs.subset hc)

end Infix

/-! ## 3. Cutting at a stop -/

section Cut

variable {p : α → Bool} {front rest : List α}

/-- The part of a text that begins at a position. -/
def substr (text : List α) (position count : Nat) : List α := (text.drop position).take count

theorem substr_of_drop {text : List α} {position : Nat} (hdrop : text.drop position = front ++ rest) :
    substr text position front.length = front := by
  rw [substr, hdrop, List.take_left]

/-- The cut stops where the parts were joined. -/
theorem takeWhile_append_stop (hfront : ∀ x ∈ front, p x = true)
    (hstop : ∀ x ∈ rest.head?, p x = false) : (front ++ rest).takeWhile p = front := by
  rw [List.takeWhile_append_of_pos hfront]
  cases rest with
  | nil => rw [List.takeWhile_nil, List.append_nil]
  | cons x rest => rw [List.takeWhile_cons_of_neg (by simp [hstop x rfl]), List.append_nil]

theorem dropWhile_append_stop (hfront : ∀ x ∈ front, p x = true)
    (hstop : ∀ x ∈ rest.head?, p x = false) : (front ++ rest).dropWhile p = rest := by
  rw [List.dropWhile_append_of_pos hfront]
  cases rest with
  | nil => rfl
  | cons x rest => exact List.dropWhile_cons_of_neg (by simp [hstop x rfl])

theorem takeWhile_all (hfront : ∀ x ∈ front, p x = true) : front.takeWhile p = front := by
  simpa using @takeWhile_append_stop _ p front [] hfront (by simp)

theorem head?_dropWhile (text : List α) : ∀ x ∈ (text.dropWhile p).head?, p x = false := by
  intro x hx
  have hnot := List.head?_dropWhile_not p text
  rw [hx] at hnot
  exact hnot

end Cut

end LivekitClient.TextSearch
