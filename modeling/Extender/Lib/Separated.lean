/-
Regular languages of separated words.

A pattern such as `[0-9]+(\.[0-9]+)*` is `l (sep l)*` with `l` one or more symbols of a class:
the shape of version numbers, port paths and dotted addresses. A program recognises such a
text by splitting it at the separator and checking every piece; what is proved here is that
the two agree, on the side of the language.

Languages and their operations are Mathlib's. A language of single symbols is given by its
membership, so that it may come from a character class of any form.

* `mem_plus_of_single` — one or more symbols of a class.
* `mem_kstar_separated` — the star of `sep l`, each word with the separator in front of it.
* `mem_separated` — the words of `l (sep l)*` are the non-empty lists of words of `l` with the
  separator between them.
-/

import Mathlib.Computability.RegularExpressions

namespace Separated

open Computability

variable {α : Type*} {l : Language α}

/-! ### Symbols of a class -/

section Single

variable {p : α → Prop} (hl : ∀ w, w ∈ l ↔ ∃ a, p a ∧ w = [a])

include hl

/-- The star of a class: texts all of whose symbols are in it, the empty one included. -/
theorem mem_kstar_of_single (w : List α) : w ∈ l∗ ↔ ∀ a ∈ w, p a := by
  rw [Language.mem_kstar]
  constructor
  · rintro ⟨words, rfl, hwords⟩ a ha
    obtain ⟨word, hword, ha⟩ := List.mem_flatten.mp ha
    obtain ⟨b, hb, rfl⟩ := (hl word).mp (hwords word hword)
    rw [List.mem_singleton.mp ha]
    exact hb
  · intro hw
    refine ⟨w.map fun a => [a], ?_, ?_⟩
    · rw [← List.flatMap_def, List.flatMap_singleton']
    · intro word hword
      obtain ⟨a, ha, rfl⟩ := List.mem_map.mp hword
      exact (hl [a]).mpr ⟨a, hw a ha, rfl⟩

/-- One or more symbols of a class: non-empty texts all of whose symbols are in it. -/
theorem mem_plus_of_single (w : List α) : w ∈ l * l∗ ↔ w ≠ [] ∧ ∀ a ∈ w, p a := by
  rw [Language.mem_mul]
  constructor
  · rintro ⟨first, hfirst, rest, hrest, rfl⟩
    obtain ⟨a, ha, rfl⟩ := (hl first).mp hfirst
    refine ⟨List.cons_ne_nil a rest, ?_⟩
    intro b hb
    rcases List.mem_cons.mp hb with rfl | hb
    · exact ha
    · exact (mem_kstar_of_single hl rest).mp hrest b hb
  · rintro ⟨hne, hw⟩
    obtain ⟨a, rest, rfl⟩ := List.exists_cons_of_ne_nil hne
    have hfirst : [a] ∈ l := (hl [a]).mpr ⟨a, hw a List.mem_cons_self, rfl⟩
    have hrest : rest ∈ l∗ :=
      (mem_kstar_of_single hl rest).mpr fun b hb => hw b (List.mem_cons_of_mem a hb)
    exact ⟨[a], hfirst, rest, hrest, rfl⟩

end Single

/-! ### Words with a separator between them -/

/-- Separators stand in front of every word but the first. -/
theorem intercalate_cons_eq (sep : α) (word : List α) (words : List (List α)) :
    [sep].intercalate (word :: words) = word ++ (words.map (sep :: ·)).flatten := by
  induction words generalizing word with
  | nil => rw [List.intercalate_singleton, List.map_nil, List.flatten_nil, List.append_nil]
  | cons next words ih =>
      rw [List.intercalate_cons_cons, ih next, List.map_cons, List.flatten_cons,
        List.append_assoc]
      rfl

/-- The star of `sep l`: every word of `l` with the separator in front of it. -/
theorem mem_kstar_separated (sep : α) (w : List α) :
    w ∈ ({[sep]} * l)∗ ↔ ∃ words : List (List α),
      (∀ word ∈ words, word ∈ l) ∧ w = (words.map (sep :: ·)).flatten := by
  rw [Language.mem_kstar]
  constructor
  · rintro ⟨pieces, rfl, hpieces⟩
    have htail : ∀ piece ∈ pieces, piece.tail ∈ l ∧ sep :: piece.tail = piece := by
      intro piece hpiece
      obtain ⟨s, hs, word, hword, rfl⟩ := Language.mem_mul.mp (hpieces piece hpiece)
      rw [Set.mem_singleton_iff.mp hs]
      exact ⟨hword, rfl⟩
    refine ⟨pieces.map List.tail, ?_, ?_⟩
    · intro word hword
      obtain ⟨piece, hpiece, rfl⟩ := List.mem_map.mp hword
      exact (htail piece hpiece).1
    · have hsame : ∀ piece ∈ pieces, ((sep :: ·) ∘ List.tail) piece = piece :=
        fun piece hpiece => (htail piece hpiece).2
      rw [List.map_map, List.map_congr_left hsame, List.map_id']
  · rintro ⟨words, hwords, rfl⟩
    refine ⟨words.map (sep :: ·), rfl, ?_⟩
    intro piece hpiece
    obtain ⟨word, hword, rfl⟩ := List.mem_map.mp hpiece
    exact Language.mem_mul.mpr ⟨[sep], rfl, word, hwords word hword, rfl⟩

/-- Words of `l` with the separator between them: at least one word, and no separator at
either end. -/
theorem mem_separated (sep : α) (w : List α) :
    w ∈ l * ({[sep]} * l)∗ ↔ ∃ words : List (List α), words ≠ [] ∧
      (∀ word ∈ words, word ∈ l) ∧ w = [sep].intercalate words := by
  rw [Language.mem_mul]
  constructor
  · rintro ⟨first, hfirst, rest, hrest, rfl⟩
    obtain ⟨words, hwords, rfl⟩ := (mem_kstar_separated sep rest).mp hrest
    refine ⟨first :: words, List.cons_ne_nil first words, ?_, ?_⟩
    · exact List.forall_mem_cons.mpr ⟨hfirst, hwords⟩
    · rw [intercalate_cons_eq]
  · rintro ⟨words, hne, hwords, rfl⟩
    obtain ⟨first, rest, rfl⟩ := List.exists_cons_of_ne_nil hne
    obtain ⟨hfirst, hrest⟩ := List.forall_mem_cons.mp hwords
    rw [intercalate_cons_eq]
    exact ⟨first, hfirst, _, (mem_kstar_separated sep _).mpr ⟨rest, hrest, rfl⟩, rfl⟩

end Separated
