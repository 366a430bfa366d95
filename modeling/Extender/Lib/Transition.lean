/-
Executable labelled transition systems.

A system is a partial step function `step : σ → α → Option σ`: the label resolves every choice
(which party moves, how an outside call ends, what a clock reads), so that a run is a list of
labels and a schedule can be replayed. `none` means that the move is not enabled. A statement
about every list of labels is a statement about every interleaving.

`Meets` says that every step of a run satisfies a condition on the state before it; it is how
a result that needs a well-behaved environment says so, and is decidable on a given schedule.
`run_invariant` is the one induction every safety result uses: an invariant kept by the steps
that satisfy the condition holds after every run that meets it.

`recorded` runs a system beside a journal of what its steps did; `Justified` says that every
entry of a journal follows from the entries before it, as an answer follows from a question.

* `run_invariant`, `run_invariant_of_step` — the invariant rule, with and without a condition
  on the steps.
* `Meets.implies` — a run that meets one condition meets those that follow from it.
* `Reaches` — one state can be brought to another; progress is stated with it.
-/

namespace Transition

variable {σ α : Type} {step : σ → α → Option σ}

/-- Execute a schedule, label by label; `none` as soon as one of the moves is not enabled. -/
def run (step : σ → α → Option σ) : σ → List α → Option σ
  | s, [] => some s
  | s, a :: as => (step s a).bind fun s' => run step s' as

/-- Every step of the schedule satisfies `guard` in the state it is taken in. Nothing is asked
behind a move that is not enabled. -/
def Meets (step : σ → α → Option σ) (guard : σ → α → Prop) : σ → List α → Prop
  | _, [] => True
  | s, a :: as => guard s a ∧ ∀ s', step s a = some s' → Meets step guard s' as

instance decidableMeets (guard : σ → α → Prop) [∀ s a, Decidable (guard s a)] :
    ∀ (s : σ) (as : List α), Decidable (Meets step guard s as)
  | _, [] => isTrue trivial
  | s, a :: as =>
      match h : step s a with
      | none => decidable_of_iff (guard s a) (by simp [Meets, h])
      | some s' =>
          have := decidableMeets guard s' as
          decidable_of_iff (guard s a ∧ Meets step guard s' as) (by simp [Meets, h])

/-- A schedule is executed by evaluation, with what holds at its end. -/
theorem exists_run_of_any (step : σ → α → Option σ) (s : σ) (as : List α) (P : σ → Prop)
    [DecidablePred P] (h : (run step s as).any (fun s' => decide (P s')) = true) :
    ∃ s', run step s as = some s' ∧ P s' := by
  cases hrun : run step s as with
  | none =>
      rw [hrun] at h
      cases h
  | some s' =>
      rw [hrun] at h
      exact ⟨s', rfl, of_decide_eq_true h⟩

theorem run_cons_eq_some {s s' : σ} {a : α} {as : List α} :
    run step s (a :: as) = some s' ↔ ∃ mid, step s a = some mid ∧ run step mid as = some s' :=
  Option.bind_eq_some_iff

/-- Two schedules one after the other. -/
theorem run_append (s : σ) (as bs : List α) :
    run step s (as ++ bs) = (run step s as).bind fun s' => run step s' bs := by
  induction as generalizing s with
  | nil => rfl
  | cons a as ih =>
      rw [List.cons_append, run, run, Option.bind_assoc]
      exact congrArg _ (funext fun s' => ih s')

/-- **The invariant rule.** What every step meeting the condition keeps holds after
every run that meets it. -/
theorem run_invariant {guard : σ → α → Prop} (Inv : σ → Prop)
    (keeps : ∀ s a s', Inv s → guard s a → step s a = some s' → Inv s') :
    ∀ {as : List α} {s s' : σ}, Inv s → Meets step guard s as → run step s as = some s' →
      Inv s'
  | [], _, _, hinv, _, hrun => by
      cases hrun
      exact hinv
  | a :: as, s, s', hinv, hmeets, hrun => by
      obtain ⟨mid, hstep, hrest⟩ := run_cons_eq_some.mp hrun
      exact run_invariant Inv keeps (keeps s a mid hinv hmeets.1 hstep) (hmeets.2 mid hstep) hrest

/-- A run that meets a condition meets every condition that follows from it, step by step,
with the help of an invariant. -/
theorem Meets.implies {guard guard' : σ → α → Prop} (Inv : σ → Prop)
    (follows : ∀ s a s', Inv s → guard s a → step s a = some s' → guard' s a)
    (keeps : ∀ s a s', Inv s → guard s a → step s a = some s' → Inv s') {as : List α} {s s' : σ}
    (hinv : Inv s) (h : Meets step guard s as) (hrun : run step s as = some s') :
    Meets step guard' s as := by
  induction as generalizing s with
  | nil => trivial
  | cons a as ih =>
      obtain ⟨mid, hstep, hrest⟩ := run_cons_eq_some.mp hrun
      refine ⟨follows s a mid hinv h.1 hstep, ?_⟩
      intro s'' hstep'
      obtain rfl : mid = s'' := Option.some.inj (hstep.symm.trans hstep')
      exact ih (keeps s a mid hinv h.1 hstep) (h.2 mid hstep) hrest

/-- A condition on the actions alone is met when all of the schedule satisfy it. -/
theorem Meets.and_forall {guard : σ → α → Prop} {P : α → Prop} {s : σ} {as : List α}
    (h : Meets step guard s as) (hP : ∀ a ∈ as, P a) :
    Meets step (fun s a => guard s a ∧ P a) s as := by
  induction as generalizing s with
  | nil => trivial
  | cons a as ih =>
      refine ⟨⟨h.1, hP a List.mem_cons_self⟩, ?_⟩
      intro s' hstep
      exact ih (h.2 s' hstep) fun b hb => hP b (List.mem_cons_of_mem a hb)

/-- Every schedule meets the empty condition. -/
theorem meets_true (step : σ → α → Option σ) (s : σ) (as : List α) :
    Meets step (fun _ _ => True) s as := by
  induction as generalizing s with
  | nil => trivial
  | cons a as ih => exact ⟨trivial, fun s' _ => ih s'⟩

/-- The invariant rule without a condition on the steps. -/
theorem run_invariant_of_step (Inv : σ → Prop)
    (keeps : ∀ s a s', Inv s → step s a = some s' → Inv s') {as : List α} {s s' : σ}
    (hinv : Inv s) (hrun : run step s as = some s') : Inv s' :=
  run_invariant Inv (fun s a s' h _ hs => keeps s a s' h hs) hinv (meets_true step s as) hrun

/-! ### Reachability -/

/-- Some schedule leads from one state to the other. -/
def Reaches (step : σ → α → Option σ) (s s' : σ) : Prop := ∃ as, run step s as = some s'

theorem Reaches.refl (s : σ) : Reaches step s s := ⟨[], rfl⟩

theorem Reaches.single {s s' : σ} {a : α} (h : step s a = some s') : Reaches step s s' :=
  ⟨[a], run_cons_eq_some.mpr ⟨s', h, rfl⟩⟩

theorem Reaches.trans {s mid s' : σ} (h : Reaches step s mid) (h' : Reaches step mid s') :
    Reaches step s s' := by
  obtain ⟨as, has⟩ := h
  obtain ⟨bs, hbs⟩ := h'
  refine ⟨as ++ bs, ?_⟩
  rw [run_append, has]
  exact hbs

/-! ### Journals -/

variable {ε : Type}

/-- The system with a journal of what `observe` sees of each step; the steps are those of the
system. -/
def recorded (step : σ → α → Option σ) (observe : σ → α → List ε) :
    σ × List ε → α → Option (σ × List ε)
  | (s, journal), a => (step s a).map fun s' => (s', journal ++ observe s a)

/-- Every run leaves a journal. -/
theorem exists_recorded (observe : σ → α → List ε) {as : List α} {s s' : σ}
    (journal : List ε) (hrun : run step s as = some s') :
    ∃ journal', run (recorded step observe) (s, journal) as = some (s', journal') := by
  induction as generalizing s journal with
  | nil =>
      cases hrun
      exact ⟨journal, rfl⟩
  | cons a as ih =>
      obtain ⟨mid, hstep, hrest⟩ := run_cons_eq_some.mp hrun
      obtain ⟨journal', hjournal⟩ := ih (journal ++ observe s a) hrest
      refine ⟨journal', run_cons_eq_some.mpr ⟨(mid, journal ++ observe s a), ?_, hjournal⟩⟩
      rw [recorded, hstep]
      rfl

/-- Keeping a journal changes no step. -/
theorem Meets.recorded {guard : σ → α → Prop} (observe : σ → α → List ε) {as : List α} {s : σ}
    (journal : List ε) (h : Meets step guard s as) :
    Meets (Transition.recorded step observe) (fun sj a => guard sj.1 a) (s, journal) as := by
  induction as generalizing s journal with
  | nil => trivial
  | cons a as ih =>
      refine ⟨h.1, ?_⟩
      intro sj hsj
      obtain ⟨s', hstep, rfl⟩ := Option.map_eq_some_iff.mp hsj
      exact ih _ (h.2 s' hstep)

/-- Every entry of the journal satisfies `P` of the entries before it. -/
def Justified (P : List ε → ε → Prop) (journal : List ε) : Prop :=
  ∀ before e after, journal = before ++ e :: after → P before e

theorem Justified.nil (P : List ε → ε → Prop) : Justified P [] := by
  intro before e after h
  cases before <;> cases h

theorem Justified.concat {P : List ε → ε → Prop} {journal : List ε} {e : ε}
    (h : Justified P journal) (he : P journal e) : Justified P (journal ++ [e]) := by
  intro before e' after hsplit
  rcases List.eq_nil_or_concat after with rfl | ⟨after, last, rfl⟩
  · obtain ⟨rfl, hlast⟩ := List.append_inj' hsplit rfl
    cases hlast
    exact he
  · have hlong : journal ++ [e] = (before ++ e' :: after) ++ [last] := by
      rw [hsplit, List.concat_eq_append, List.append_assoc, List.cons_append]
    obtain ⟨hjournal, -⟩ := List.append_inj' hlong rfl
    exact h before e' after hjournal

end Transition
