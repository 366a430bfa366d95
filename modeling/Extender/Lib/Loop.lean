/-
Loops that need an argument to end.

A `while` loop has no structure to recurse on. Here its body is a function that takes the
state of the loop and goes round again or leaves with a result. `run` bounds the number of
turns, so that a loop can be executed whether or not it ends, and is `none` where the bound is
too small; `Returns` says that the loop ends with a result, which every larger bound gives as
well, so that the bound is not part of the meaning.

`exists_returns` is the rule of total correctness: an invariant, a measure that every turn
decreases, and what the invariant says where the loop is left. The measure is into any type
with a well-founded relation; a loop that goes back, as one with a backtracking index does,
has a lexicographic one.
-/

namespace Loop

variable {σ ρ μ : Type}

/-- The end of a turn of the loop: once more, in a new state, or out of it with a result. -/
inductive Turn (σ ρ : Type) where
  | again (s : σ)
  | leave (r : ρ)

/-- At most `fuel` turns of the loop; `none` if it has not been left by then. -/
def run (body : σ → Turn σ ρ) : Nat → σ → Option ρ
  | 0, _ => none
  | fuel + 1, s =>
      match body s with
      | .again s' => run body fuel s'
      | .leave r => some r

/-- The loop ends with `r`: from some number of turns on every bound yields it. -/
def Returns (body : σ → Turn σ ρ) (s : σ) (r : ρ) : Prop :=
  ∃ turns, ∀ fuel, turns ≤ fuel → run body fuel s = some r

variable {body : σ → Turn σ ρ} {s s' : σ} {r : ρ}

theorem returns_of_leave (h : body s = .leave r) : Returns body s r := by
  refine ⟨1, ?_⟩
  intro fuel hfuel
  obtain ⟨fuel, rfl⟩ := Nat.exists_eq_succ_of_ne_zero (Nat.ne_of_gt hfuel)
  rw [run, h]

theorem Returns.of_again (hreturns : Returns body s' r) (h : body s = .again s') :
    Returns body s r := by
  obtain ⟨turns, hturns⟩ := hreturns
  refine ⟨turns + 1, ?_⟩
  intro fuel hfuel
  obtain ⟨fuel, rfl⟩ := Nat.exists_eq_succ_of_ne_zero (Nat.ne_of_gt (Nat.zero_lt_of_lt hfuel))
  rw [run, h]
  exact hturns fuel (Nat.le_of_succ_le_succ hfuel)

/-- **Total correctness.** If every turn from a state of the invariant keeps it and makes the
measure smaller, or leaves with a result as wanted, then the loop ends with such a result. -/
theorem exists_returns [WellFoundedRelation μ] (measure : σ → μ) (Inv : σ → Prop)
    (Post : ρ → Prop)
    (turn : ∀ s, Inv s →
      (∃ s', body s = .again s' ∧ Inv s' ∧ WellFoundedRelation.rel (measure s') (measure s)) ∨
      ∃ r, body s = .leave r ∧ Post r)
    (s : σ) (hs : Inv s) : ∃ r, Returns body s r ∧ Post r := by
  have hwf : WellFounded (WellFoundedRelation.rel : μ → μ → Prop) := WellFoundedRelation.wf
  induction hm : measure s using hwf.induction generalizing s with
  | h m ih =>
      subst hm
      rcases turn s hs with ⟨s', hbody, hs', hless⟩ | ⟨r, hbody, hpost⟩
      · obtain ⟨r, hreturns, hpost⟩ := ih (measure s') hless s' hs' rfl
        exact ⟨r, hreturns.of_again hbody, hpost⟩
      · exact ⟨r, returns_of_leave hbody, hpost⟩

end Loop
