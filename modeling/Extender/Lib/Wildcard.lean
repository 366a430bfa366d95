/-
Wildcard patterns over any alphabet.

A pattern is a list of symbols, each of which stands for one letter of a class or for any
number of letters, none included: file name patterns, access lists. Whether a text matches is
defined by trying every way to cut it.

A matcher that runs in a loop does not try them all. It keeps the last `many` symbol it has
met and the place behind it, and on a mismatch lets that symbol take one letter more; earlier
`many` symbols are never tried again. `Matches.resume` is why that is enough: once the symbols
between two `many` match somewhere, the earliest such place is as good as any later one, since
the `many` behind them may skip what lies between.

* `matches_many_iff` — a `many` symbol skips some front of the text.
* `Matches.of_append` — a run of one-letter symbols takes exactly as many letters.
* `Matches.resume` — the last `many` is enough: whatever a match of the symbols before it
  begins with, the rest of the pattern matches behind the first place they match at.
-/

import Mathlib.Data.List.Basic

namespace Wildcard

variable {α : Type*}

/-- One letter that satisfies a condition, or any number of letters. -/
inductive Symbol (α : Type*) where
  | one (letter : α → Prop)
  | many

/-- The text matches the pattern: it can be cut so that each symbol gets a part it stands for. -/
def Matches : List (Symbol α) → List α → Prop
  | [], text => text = []
  | .one letter :: pattern, text => ∃ a rest, text = a :: rest ∧ letter a ∧ Matches pattern rest
  | .many :: pattern, text => ∃ skipped rest, text = skipped ++ rest ∧ Matches pattern rest

variable {pattern segment : List (Symbol α)} {text : List α}

theorem matches_one_iff {letter : α → Prop} {a : α} :
    Matches (.one letter :: pattern) (a :: text) ↔ letter a ∧ Matches pattern text := by
  constructor
  · rintro ⟨b, rest, heq, hletter, hrest⟩
    cases heq
    exact ⟨hletter, hrest⟩
  · rintro ⟨hletter, hrest⟩
    exact ⟨a, text, rfl, hletter, hrest⟩

theorem matches_many_iff :
    Matches (.many :: pattern) text ↔ ∃ k ≤ text.length, Matches pattern (text.drop k) := by
  constructor
  · rintro ⟨skipped, rest, rfl, hrest⟩
    refine ⟨skipped.length, ?_, ?_⟩
    · rw [List.length_append]
      exact Nat.le_add_right _ _
    · rw [List.drop_left]
      exact hrest
  · rintro ⟨k, -, hrest⟩
    exact ⟨text.take k, text.drop k, (List.take_append_drop k text).symm, hrest⟩

/-- The empty text matches only `many` symbols. -/
theorem matches_many_nil_iff : Matches (.many :: pattern) ([] : List α) ↔ Matches pattern [] := by
  rw [matches_many_iff]
  constructor
  · rintro ⟨k, -, h⟩
    rwa [List.drop_nil] at h
  · intro h
    exact ⟨0, Nat.le_refl 0, h⟩

/-- A symbol for one letter. -/
def Symbol.IsOne : Symbol α → Prop
  | .one _ => True
  | .many => False

/-- One-letter symbols take as many letters as there are symbols. -/
theorem Matches.of_append (hone : ∀ symbol ∈ segment, symbol.IsOne)
    (h : Matches (segment ++ pattern) text) :
    segment.length ≤ text.length ∧ Matches pattern (text.drop segment.length) := by
  induction segment generalizing text with
  | nil => exact ⟨Nat.zero_le _, h⟩
  | cons symbol segment ih =>
      cases symbol with
      | many => exact (hone .many List.mem_cons_self).elim
      | one letter =>
          obtain ⟨a, rest, rfl, -, hrest⟩ := h
          obtain ⟨hle, hmatches⟩ := ih (fun s hs => hone s (List.mem_cons_of_mem _ hs)) hrest
          exact ⟨Nat.succ_le_succ hle, hmatches⟩

/-- A `many` symbol may skip more. -/
theorem Matches.skip_more {j k : Nat} (hjk : j ≤ k) (h : Matches (.many :: pattern) (text.drop k)) :
    Matches (.many :: pattern) (text.drop j) := by
  obtain ⟨skipped, rest, heq, hrest⟩ := h
  refine ⟨(text.drop j).take (k - j) ++ skipped, rest, ?_, hrest⟩
  rw [List.append_assoc, ← heq, ← Nat.add_sub_cancel' hjk, ← List.drop_drop,
    Nat.add_sub_cancel_left]
  exact (List.take_append_drop _ _).symm

/-- **The last star is enough.** One-letter symbols followed by a `many` match the text from
some place `k` on. Then behind any earlier place, with room for those symbols, the rest
of the pattern matches as well. -/
theorem Matches.resume (hone : ∀ symbol ∈ segment, symbol.IsOne) {j k : Nat} (hjk : j ≤ k)
    (h : Matches (segment ++ .many :: pattern) (text.drop k)) :
    Matches (.many :: pattern) (text.drop (j + segment.length)) := by
  obtain ⟨-, hrest⟩ := h.of_append hone
  rw [List.drop_drop] at hrest
  exact hrest.skip_more (Nat.add_le_add_right hjk _)

end Wildcard
