/-
Machines made of independent components.

A machine answers one input after the other, or gets stuck. Its inputs may be meant for one of
several components, each a machine of its own that sees only a part of the state: the slots of
a table, the sessions of a server, the ports of a switch. An input can also be for no
component, like one that names a slot that does not exist; what is answered then is up to the
machine.

`Local` is what one step has to satisfy: the component the input is for (`addressed`) answers
as it would on its own part of the state (`view`), and the parts of the others stay as they
are. If every step of a machine is local, then each component goes through a whole run as if
the others were not there. `inputsFor` and `answersFor` project a run to a component.

The invariant of the rule is the caller's: locality usually needs a fact about the state, such
as that a table is well formed, which the steps keep.

* `run_component` — the answers a component gives within a run are those it gives alone, and
  its part of the final state is the one it reaches alone.
-/

import Mathlib.Data.List.Basic
import Mathlib.Data.Option.Basic

namespace Components

variable {σ τ ι α κ ρ : Type*}

/-! ### Machines -/

/-- The answers to some inputs, one each and in order, and the state after them. There are
none if the machine gets stuck. -/
def run (step : σ → α → Option (ρ × σ)) : σ → List α → Option (List ρ × σ)
  | s, [] => some ([], s)
  | s, a :: as =>
      (step s a).bind fun (r, s') => (run step s' as).map fun (rs, s'') => (r :: rs, s'')

theorem run_cons_eq_some {step : σ → α → Option (ρ × σ)} {s s'' : σ} {a : α} {as : List α}
    {rs : List ρ} :
    run step s (a :: as) = some (rs, s'') ↔
      ∃ r s' rs', step s a = some (r, s') ∧ run step s' as = some (rs', s'') ∧ rs = r :: rs' := by
  rw [run]
  constructor
  · intro h
    obtain ⟨⟨r, s'⟩, hstep, hrest⟩ := Option.bind_eq_some_iff.mp h
    obtain ⟨⟨rs', t⟩, hrun, heq⟩ := Option.map_eq_some_iff.mp hrest
    cases heq
    exact ⟨r, s', rs', hstep, hrun, rfl⟩
  · rintro ⟨r, s', rs', hstep, hrun, rfl⟩
    simp only [hstep, Option.bind_some, hrun, Option.map_some]

/-! ### Components -/

section Addressed

variable [DecidableEq ι] (addressed : α → Option (ι × κ)) (i : ι)

/-- What an input says to component `i`: nothing, if it is for another component or for none. -/
def inputFor (a : α) : Option κ :=
  (addressed a).bind fun (j, k) => if j = i then some k else none

/-- The inputs for component `i` within a sequence of inputs, in their order. -/
def inputsFor (as : List α) : List κ := as.filterMap (inputFor addressed i)

/-- The answers to these inputs: of a sequence of answers the ones whose input was for
component `i`. -/
def answersFor : List α → List ρ → List ρ
  | a :: as, r :: rs =>
      if (inputFor addressed i a).isSome then r :: answersFor as rs else answersFor as rs
  | _, _ => []

variable {addressed i}

theorem inputFor_eq_some_iff {a : α} {k : κ} :
    inputFor addressed i a = some k ↔ addressed a = some (i, k) := by
  unfold inputFor
  cases addressed a with
  | none => simp
  | some jk =>
      obtain ⟨j, k'⟩ := jk
      simp only [Option.bind_some, Option.some.injEq, Prod.mk.injEq]
      by_cases hji : j = i
      · simp [hji]
      · simp [hji]

end Addressed

/-- A step answers as the component it is for does on its own part of the state, and changes
the part of no other component. -/
structure Local (component : τ → κ → Option (ρ × τ)) (addressed : α → Option (ι × κ))
    (view : σ → ι → τ) (s : σ) (a : α) (r : ρ) (s' : σ) : Prop where
  answered : ∀ i k, addressed a = some (i, k) → component (view s i) k = some (r, view s' i)
  others : ∀ i, (∀ k, addressed a ≠ some (i, k)) → view s' i = view s i

/-- **A component alone.** When every step is local, each component has given, within the
run, the answers it gives to its own inputs without the others, and has come to the same
state. -/
theorem run_component [DecidableEq ι] {step : σ → α → Option (ρ × σ)}
    {component : τ → κ → Option (ρ × τ)} {addressed : α → Option (ι × κ)} {view : σ → ι → τ}
    (Inv : σ → Prop)
    (keeps : ∀ s a r s', Inv s → step s a = some (r, s') →
      Inv s' ∧ Local component addressed view s a r s') {as : List α} {rs : List ρ} {s s' : σ}
    (hinv : Inv s) (hrun : run step s as = some (rs, s')) :
    Inv s' ∧ ∀ i, run component (view s i) (inputsFor addressed i as) =
      some (answersFor addressed i as rs, view s' i) := by
  induction as generalizing s rs with
  | nil =>
      cases hrun
      exact ⟨hinv, fun i => rfl⟩
  | cons a as ih =>
      obtain ⟨r, mid, rs, hstep, hrest, rfl⟩ := run_cons_eq_some.mp hrun
      obtain ⟨hmid, hlocal⟩ := keeps s a r mid hinv hstep
      obtain ⟨hinv', hcomponents⟩ := ih hmid hrest
      refine ⟨hinv', fun i => ?_⟩
      cases hinput : inputFor addressed i a with
      | none =>
          have hother : view mid i = view s i := by
            apply hlocal.others
            intro k hk
            rw [inputFor_eq_some_iff.mpr hk] at hinput
            cases hinput
          rw [inputsFor, List.filterMap_cons_none hinput, answersFor, hinput, ← hother]
          exact hcomponents i
      | some k =>
          have hanswered := hlocal.answered i k (inputFor_eq_some_iff.mp hinput)
          rw [inputsFor, List.filterMap_cons_some hinput, answersFor, hinput]
          exact run_cons_eq_some.mpr ⟨r, view mid i, _, hanswered, hcomponents i, rfl⟩

end Components
