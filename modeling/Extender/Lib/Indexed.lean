/-
Predicates over the positions of a list.

A list that only grows, and whose elements are updated in place, serves as the table of the
parties of a system: tasks, connections, requests. A party is named by its position, which
never changes, so a label of the system can name it. `At` says something of one position and
`All` of every position; the rules say how both follow an append, an update of one element and
a modification of some, so that the invariant of a step is proved for the element that changed
and nothing has to be said of the others.

Positions that a list does not have satisfy nothing in `At` and are not asked about in `All`.

* `At.set`, `At.append` — what holds of one element survives a step elsewhere, and a step on
  the element itself that keeps it.
* `All.set`, `All.append` — what holds of every element is kept if it holds of the one that
  was written or added.
-/

import Mathlib.Data.List.Basic

namespace Indexed

variable {α : Type} {xs : List α} {i j : Nat}

/-- Position `i` exists and its element satisfies `P`. -/
def At (xs : List α) (i : Nat) (P : α → Prop) : Prop := ∃ x, xs[i]? = some x ∧ P x

/-- Every element satisfies `Q` at its position; `Q` may speak of the position, as in saying
that a task has its own number. -/
def All (xs : List α) (Q : Nat → α → Prop) : Prop := ∀ i x, xs[i]? = some x → Q i x

/-- What is found at an updated position is what was written there. -/
theorem eq_of_getElem?_set {x y : α} (h : (xs.set i y)[i]? = some x) : x = y := by
  obtain ⟨_, heq⟩ := List.getElem?_eq_some_iff.mp h
  rw [List.getElem_set_self] at heq
  exact heq.symm

namespace At

variable {P : α → Prop}

theorem mono {P' : α → Prop} (h : At xs j P) (himp : ∀ x, P x → P' x) : At xs j P' := by
  obtain ⟨x, hx, hP⟩ := h
  exact ⟨x, hx, himp x hP⟩

theorem append (h : At xs j P) (y : α) : At (xs ++ [y]) j P := by
  obtain ⟨x, hx, hP⟩ := h
  have hlt : j < xs.length := (List.getElem?_eq_some_iff.mp hx).1
  exact ⟨x, by rw [List.getElem?_append_left hlt, hx], hP⟩

theorem append_new {y : α} (h : P y) : At (xs ++ [y]) xs.length P :=
  ⟨y, List.getElem?_concat_length, h⟩

theorem set_self {x y : α} (hx : xs[i]? = some x) (h : P y) : At (xs.set i y) i P := by
  have hlt : i < xs.length := (List.getElem?_eq_some_iff.mp hx).1
  exact ⟨y, List.getElem?_set_self hlt, h⟩

theorem set_ne (h : At xs j P) (hne : i ≠ j) (y : α) : At (xs.set i y) j P := by
  obtain ⟨x, hx, hP⟩ := h
  exact ⟨x, by rw [List.getElem?_set_ne hne, hx], hP⟩

/-- An update that keeps `P` where it happens keeps it everywhere. -/
theorem set {x y : α} (h : At xs j P) (hx : xs[i]? = some x) (hP : P x → P y) :
    At (xs.set i y) j P := by
  by_cases hij : i = j
  · subst hij
    obtain ⟨x', hx', hP'⟩ := h
    rw [hx] at hx'
    cases hx'
    exact set_self hx (hP hP')
  · exact h.set_ne hij y

theorem modify_ne (h : At xs j P) (hne : i ≠ j) (f : α → α) : At (xs.modify i f) j P := by
  obtain ⟨x, hx, hP⟩ := h
  exact ⟨x, by simp [hne, hx], hP⟩

/-- What does not hold of a new element holds of an old one. -/
theorem of_append {y : α} (hy : ¬ P y) (h : At (xs ++ [y]) j P) : At xs j P := by
  obtain ⟨x, hx, hP⟩ := h
  by_cases hlt : j < xs.length
  · rw [List.getElem?_append_left hlt] at hx
    exact ⟨x, hx, hP⟩
  · obtain ⟨hlt', _⟩ := List.getElem?_eq_some_iff.mp hx
    rw [List.length_append, List.length_singleton] at hlt'
    obtain rfl : j = xs.length := by omega
    rw [List.getElem?_concat_length] at hx
    cases hx
    exact absurd hP hy

theorem of_set_ne {y : α} (hne : i ≠ j) (h : At (xs.set i y) j P) : At xs j P := by
  obtain ⟨x, hx, hP⟩ := h
  rw [List.getElem?_set_ne hne] at hx
  exact ⟨x, hx, hP⟩

theorem of_set {y : α} (hy : ¬ P y) (h : At (xs.set i y) j P) : At xs j P := by
  by_cases hij : i = j
  · subst hij
    obtain ⟨x, hx, hP⟩ := h
    rw [eq_of_getElem?_set hx] at hP
    exact absurd hP hy
  · exact h.of_set_ne hij

theorem map_iff {β : Type} {f : β → α} {ys : List β} :
    At (ys.map f) j P ↔ At ys j fun y => P (f y) := by
  constructor
  · rintro ⟨x, hx, hP⟩
    rw [List.getElem?_map] at hx
    obtain ⟨y, hy, rfl⟩ := Option.map_eq_some_iff.mp hx
    exact ⟨y, hy, hP⟩
  · rintro ⟨y, hy, hP⟩
    exact ⟨f y, by rw [List.getElem?_map, hy, Option.map_some], hP⟩

end At

namespace All

variable {Q : Nat → α → Prop}

theorem imp {Q' : Nat → α → Prop} (h : All xs Q)
    (himp : ∀ i x, xs[i]? = some x → Q i x → Q' i x) : All xs Q' :=
  fun i x hx => himp i x hx (h i x hx)

theorem append {y : α} (h : All xs Q) (hy : Q xs.length y) : All (xs ++ [y]) Q := by
  intro i x hx
  by_cases hi : i < xs.length
  · rw [List.getElem?_append_left hi] at hx
    exact h i x hx
  · obtain ⟨hlt, _⟩ := List.getElem?_eq_some_iff.mp hx
    rw [List.length_append, List.length_singleton] at hlt
    obtain rfl : i = xs.length := by omega
    rw [List.getElem?_concat_length] at hx
    cases hx
    exact hy

theorem set {y : α} (h : All xs Q) (hy : Q i y) : All (xs.set i y) Q := by
  intro j x hx
  by_cases hij : i = j
  · subst hij
    rw [eq_of_getElem?_set hx]
    exact hy
  · rw [List.getElem?_set_ne hij] at hx
    exact h j x hx

theorem map (h : All xs Q) {f : α → α} (hf : ∀ i x, Q i x → Q i (f x)) : All (xs.map f) Q := by
  intro j y hy
  rw [List.getElem?_map] at hy
  obtain ⟨x, hx, rfl⟩ := Option.map_eq_some_iff.mp hy
  exact hf j x (h j x hx)

/-- A modification of some of the elements keeps what it keeps of each. -/
theorem mapIdx (h : All xs Q) {f : Nat → α → α} (hf : ∀ i x, Q i x → Q i (f i x)) :
    All (xs.mapIdx f) Q := by
  intro j y hy
  rw [List.getElem?_mapIdx] at hy
  obtain ⟨x, hx, rfl⟩ := Option.map_eq_some_iff.mp hy
  exact hf j x (h j x hx)

theorem modify (h : All xs Q) {f : α → α} (hf : ∀ i x, Q i x → Q i (f x)) (i : Nat) :
    All (xs.modify i f) Q := by
  intro j y hy
  rw [List.getElem?_modify] at hy
  obtain ⟨x, hx, rfl⟩ := Option.map_eq_some_iff.mp hy
  by_cases hij : i = j
  · rw [if_pos hij]
    exact hf j x (h j x hx)
  · rw [if_neg hij]
    exact h j x hx

end All

end Indexed
