/-
Tables of a fixed number of slots.

A driver or a kernel keeps what is in progress in an array of fixed size. A slot is free or
holds an entry, an entry is put into the first free slot, and is found again by its key. What
such a table stands for is a list of entries with different keys (`Holds`): which slot an
entry is in does not matter, only that there are as many as there are entries.

Whether a slot is in use is a test on the entry itself (`valid`), as a flag in a record is,
and the key is a field of it; both are parameters. The list is up to order (`Holds.perm`), so
a caller may keep it in the order in which entries were made.

* `Holds.exists_free_iff` — a slot is free as long as there are fewer entries than slots.
* `Holds.insert`, `Holds.erase` — filling a free slot, and freeing one.
* `Holds.find?_eq_some`, `Holds.find?_eq_none` — the search for a key finds the entry that has
  it, and nothing if there is none.
-/

import Mathlib.Data.Fintype.Card
import Mathlib.Data.List.Nodup
import Mathlib.Data.List.FinRange

namespace SlotTable

variable {E κ : Type*} {n : Nat}

/-- The slots in use hold exactly these entries, each in one slot and under a key of its own. -/
structure Holds (valid : E → Bool) (key : E → κ) (table : Fin n → E) (entries : List E) :
    Prop where
  mem_iff : ∀ e, e ∈ entries ↔ ∃ i, valid (table i) = true ∧ table i = e
  inj : ∀ i j, valid (table i) = true → valid (table j) = true →
    key (table i) = key (table j) → i = j
  nodup : (entries.map key).Nodup

namespace Holds

variable {valid : E → Bool} {key : E → κ} {table : Fin n → E} {entries : List E}

theorem nil (h : ∀ i, valid (table i) = false) : Holds valid key table [] := by
  refine ⟨?_, ?_, List.nodup_nil⟩
  · intro e
    constructor
    · intro he
      cases he
    · rintro ⟨i, hi, -⟩
      rw [h i] at hi
      cases hi
  · intro i j hi
    rw [h i] at hi
    cases hi

/-- The order of the entries does not matter. -/
theorem perm (h : Holds valid key table entries) {entries' : List E}
    (hperm : entries.Perm entries') : Holds valid key table entries' :=
  ⟨fun e => hperm.mem_iff.symm.trans (h.mem_iff e), h.inj, (hperm.map key).nodup_iff.mp h.nodup⟩

/-- As many slots are in use as there are entries. -/
theorem card_eq (h : Holds valid key table entries) :
    (Finset.univ.filter fun i => valid (table i) = true).card = entries.length := by
  classical
  have himage : (Finset.univ.filter fun i => valid (table i) = true).image (key ∘ table) =
      (entries.map key).toFinset := by
    ext k
    simp only [Finset.mem_image, Finset.mem_filter, Finset.mem_univ, true_and,
      Function.comp_apply, List.mem_toFinset, List.mem_map]
    constructor
    · rintro ⟨i, hi, rfl⟩
      exact ⟨table i, (h.mem_iff _).mpr ⟨i, hi, rfl⟩, rfl⟩
    · rintro ⟨e, he, rfl⟩
      obtain ⟨i, hi, rfl⟩ := (h.mem_iff e).mp he
      exact ⟨i, hi, rfl⟩
  have hinj : Set.InjOn (key ∘ table)
      (Finset.univ.filter fun i => valid (table i) = true : Finset (Fin n)) := by
    intro i hi j hj hkey
    simp only [Finset.coe_filter, Finset.mem_univ, true_and, Set.mem_ofPred_eq] at hi hj
    exact h.inj i j hi hj hkey
  rw [← Finset.card_image_of_injOn hinj, himage, List.toFinset_card_of_nodup h.nodup,
    List.length_map]

theorem exists_free_iff (h : Holds valid key table entries) :
    (∃ i, valid (table i) = false) ↔ entries.length < n := by
  rw [← h.card_eq]
  constructor
  · rintro ⟨i, hi⟩
    have hlt := Finset.card_lt_univ_of_notMem
      (s := Finset.univ.filter fun i => valid (table i) = true) (x := i) (by simp [hi])
    rwa [Fintype.card_fin] at hlt
  · intro hlt
    by_contra hnone
    have hall : (Finset.univ.filter fun i => valid (table i) = true) = Finset.univ := by
      apply Finset.filter_true_of_mem
      intro i _
      rw [← Bool.not_eq_false]
      exact fun hi => hnone ⟨i, hi⟩
    rw [hall, Finset.card_univ, Fintype.card_fin] at hlt
    exact Nat.lt_irrefl _ hlt

/-- Filling a free slot. -/
theorem insert (h : Holds valid key table entries) {i : Fin n} {e : E}
    (hfree : valid (table i) = false) (he : valid e = true) (hnew : key e ∉ entries.map key) :
    Holds valid key (Function.update table i e) (e :: entries) := by
  have hother : ∀ j, valid (table j) = true → j ≠ i := by
    rintro j hj rfl
    rw [hfree] at hj
    cases hj
  have hkey : ∀ j, valid (table j) = true → key (table j) ≠ key e := by
    intro j hj hsame
    exact hnew (hsame ▸ List.mem_map_of_mem ((h.mem_iff _).mpr ⟨j, hj, rfl⟩))
  -- a slot in use is the new one, or was in use
  have hused : ∀ j, valid (Function.update table i e j) = true →
      (j = i ∧ Function.update table i e j = e) ∨
      (j ≠ i ∧ valid (table j) = true ∧ Function.update table i e j = table j) := by
    intro j hj
    by_cases hji : j = i
    · subst hji
      exact Or.inl ⟨rfl, Function.update_self ..⟩
    · rw [Function.update_of_ne hji] at hj
      exact Or.inr ⟨hji, hj, Function.update_of_ne hji ..⟩
  refine ⟨?_, ?_, ?_⟩
  · intro e'
    rw [List.mem_cons, h.mem_iff]
    constructor
    · rintro (rfl | ⟨j, hj, rfl⟩)
      · exact ⟨i, by rwa [Function.update_self], Function.update_self ..⟩
      · have hji := hother j hj
        exact ⟨j, by rwa [Function.update_of_ne hji], Function.update_of_ne hji ..⟩
    · rintro ⟨j, hj, rfl⟩
      rcases hused j hj with ⟨-, hnew⟩ | ⟨-, hold, heq⟩
      · exact Or.inl hnew
      · exact Or.inr ⟨j, hold, heq.symm⟩
  · intro j k hj hk hsame
    rcases hused j hj with ⟨hji, hje⟩ | ⟨-, hjold, hjeq⟩
    · rcases hused k hk with ⟨hki, -⟩ | ⟨-, hkold, hkeq⟩
      · rw [hji, hki]
      · rw [hje, hkeq] at hsame
        exact absurd hsame.symm (hkey k hkold)
    · rcases hused k hk with ⟨-, hke⟩ | ⟨-, hkold, hkeq⟩
      · rw [hjeq, hke] at hsame
        exact absurd hsame (hkey j hjold)
      · rw [hjeq, hkeq] at hsame
        exact h.inj j k hjold hkold hsame
  · exact List.nodup_cons.mpr ⟨hnew, h.nodup⟩

/-- Freeing a slot. -/
theorem erase {e e' : E} (h : Holds valid key table (e :: entries)) {i : Fin n}
    (hused : valid (table i) = true) (heq : table i = e) (hfree : valid e' = false) :
    Holds valid key (Function.update table i e') entries := by
  have hnodup := h.nodup
  rw [List.map_cons, List.nodup_cons] at hnodup
  have hkept : ∀ j, valid (Function.update table i e' j) = true →
      j ≠ i ∧ valid (table j) = true ∧ Function.update table i e' j = table j := by
    intro j hj
    by_cases hji : j = i
    · rw [hji, Function.update_self, hfree] at hj
      cases hj
    · rw [Function.update_of_ne hji] at hj
      exact ⟨hji, hj, Function.update_of_ne hji ..⟩
  refine ⟨?_, ?_, hnodup.2⟩
  · intro e''
    constructor
    · intro hmem
      obtain ⟨j, hj, rfl⟩ := (h.mem_iff e'').mp (List.mem_cons_of_mem _ hmem)
      have hji : j ≠ i := by
        rintro rfl
        exact hnodup.1 (heq ▸ List.mem_map_of_mem hmem)
      exact ⟨j, by rwa [Function.update_of_ne hji], Function.update_of_ne hji ..⟩
    · rintro ⟨j, hj, rfl⟩
      obtain ⟨hji, hold, hsame⟩ := hkept j hj
      rw [hsame]
      refine ((List.mem_cons.mp ((h.mem_iff _).mpr ⟨j, hold, rfl⟩)).resolve_left ?_)
      intro hje
      exact hji (h.inj j i hold hused (by rw [hje, heq]))
  · intro j k hj hk hsame
    obtain ⟨-, hjold, hjeq⟩ := hkept j hj
    obtain ⟨-, hkold, hkeq⟩ := hkept k hk
    rw [hjeq, hkeq] at hsame
    exact h.inj j k hjold hkold hsame

/-- A slot is found by the key of its entry. -/
theorem find?_eq_some [DecidableEq κ] (h : Holds valid key table entries) {e : E}
    (he : e ∈ entries) :
    ∃ i, (List.finRange n).find? (fun i => valid (table i) && key (table i) == key e) = some i ∧
      valid (table i) = true ∧ table i = e := by
  obtain ⟨j, hj, rfl⟩ := (h.mem_iff e).mp he
  cases hfind : (List.finRange n).find? fun i =>
      valid (table i) && key (table i) == key (table j) with
  | none =>
      have hnone := List.find?_eq_none.mp hfind j (List.mem_finRange j)
      simp [hj] at hnone
  | some i =>
      have hfound := List.find?_some hfind
      simp only [Bool.and_eq_true, beq_iff_eq] at hfound
      refine ⟨i, rfl, hfound.1, ?_⟩
      rw [h.inj i j hfound.1 hj hfound.2]

theorem find?_eq_none [DecidableEq κ] (h : Holds valid key table entries) {k : κ}
    (hk : k ∉ entries.map key) :
    (List.finRange n).find? (fun i => valid (table i) && key (table i) == k) = none := by
  apply List.find?_eq_none.mpr
  intro i _ hfound
  simp only [Bool.and_eq_true, beq_iff_eq] at hfound
  exact hk (hfound.2 ▸ List.mem_map_of_mem ((h.mem_iff _).mpr ⟨i, hfound.1, rfl⟩))

end Holds

end SlotTable
