/-
Exclusive leases with a grace period.

A lease on a resource is free, held by one session, or reserved for a session that dropped and
may still come back within a grace period. A holder is replaced only after it gave the lease
back: `held_until_released` says that along any path of the automaton a held lease stays held
by the same session until that session releases it or the resource is withdrawn. Everything
else may happen in between, late timers and calls of other sessions included.

The automaton is over an arbitrary type of sessions and says nothing about how they are named,
or whether a name is ever used twice; the absent resource is `none`. It is not executable: a
system is compared with it by saying which event each of its operations is, and the moves it
does not have are those the system must not make.

* `Step.held`, `Step.to_held` — what one move can do to a holder, and how a session becomes
  one.
* `held_until_released` — the same along a whole path.
-/

namespace Lease

variable {σ : Type}

/-- The state of a lease: free, held by a session, or reserved for one that dropped and whose
grace period runs. -/
inductive Status (σ : Type) where
  | free
  | held (s : σ)
  | reserved (s : σ)
deriving DecidableEq, Repr

/-- The session a lease is recorded for. -/
def Status.session : Status σ → Option σ
  | .free => none
  | .held s => some s
  | .reserved s => some s

/-- What can happen to one lease: the resource comes and goes, a session is granted the lease
or gives it back, a grace period ends, or a call is made that does not concern it. -/
inductive Event (σ : Type) where
  | publish
  | withdraw
  | grant (s : σ)
  | release (s : σ)
  | expire (s : σ)
  | pass
deriving DecidableEq, Repr

/-- The moves of the automaton. A grant needs a lease that nobody holds; a release
and an expiry name the session the lease is recorded for; `pass` is any call that
does not concern the lease. -/
inductive Step : Option (Status σ) → Event σ → Option (Status σ) → Prop where
  | publish : Step none .publish (some .free)
  | withdraw {l : Status σ} : Step (some l) .withdraw none
  | grant {l : Status σ} {s : σ} : (∀ t, l ≠ .held t) → Step (some l) (.grant s) (some (.held s))
  | suspend {s : σ} : Step (some (.held s)) (.release s) (some (.reserved s))
  | extend {s : σ} : Step (some (.reserved s)) (.release s) (some (.reserved s))
  | drop {s : σ} : Step (some (.held s)) (.release s) (some .free)
  | forfeit {s : σ} : Step (some (.reserved s)) (.release s) (some .free)
  | expire {s : σ} : Step (some (.reserved s)) (.expire s) (some .free)
  | pass {l : Option (Status σ)} : Step l .pass l

/-- A path of the automaton with its events in order: any number of moves, each from where the
one before it led. -/
inductive Path : Option (Status σ) → List (Event σ) → Option (Status σ) → Prop where
  | nil {l : Option (Status σ)} : Path l [] l
  | cons {l mid l' : Option (Status σ)} {e : Event σ} {es : List (Event σ)} :
      Step l e mid → Path mid es l' → Path l (e :: es) l'

/-- One step leaves a held lease alone unless it is the holder's release or a
withdrawal. -/
theorem Step.held {s : σ} {e : Event σ} {l' : Option (Status σ)}
    (h : Step (some (.held s)) e l') :
    l' = some (.held s) ∨ e = .release s ∨ e = .withdraw := by
  cases h with
  | withdraw => exact Or.inr (Or.inr rfl)
  | grant free => exact absurd rfl (free s)
  | suspend => exact Or.inr (Or.inl rfl)
  | drop => exact Or.inr (Or.inl rfl)
  | pass => exact Or.inl rfl

/-- A lease is held after a step only if it was before, or the step granted it. -/
theorem Step.to_held {l : Option (Status σ)} {e : Event σ} {s : σ}
    (h : Step l e (some (.held s))) : l = some (.held s) ∨ e = .grant s := by
  cases h with
  | grant => exact Or.inr rfl
  | pass => exact Or.inl rfl

/-- A session gets into a lease by a grant only. -/
theorem Step.session {l l' : Option (Status σ)} {e : Event σ} {s : σ} (h : Step l e l')
    (hs : l'.bind Status.session = some s) : l.bind Status.session = some s ∨ e = .grant s := by
  cases h with
  | publish => cases hs
  | withdraw => cases hs
  | grant =>
      cases hs
      exact Or.inr rfl
  | suspend => exact Or.inl hs
  | extend => exact Or.inl hs
  | drop => cases hs
  | forfeit => cases hs
  | expire => cases hs
  | pass => exact Or.inl hs

/-- **Exclusivity.** A held lease stays with its holder along every path on which
the holder does not release it and the resource is not withdrawn. -/
theorem held_until_released {s : σ} :
    ∀ {es : List (Event σ)} {l' : Option (Status σ)}, Path (some (.held s)) es l' →
      .release s ∉ es → .withdraw ∉ es → l' = some (.held s)
  | _, _, .nil, _, _ => rfl
  | _, _, .cons hstep hrest, hrel, hwd => by
      rcases hstep.held with rfl | rfl | rfl
      · exact held_until_released hrest (fun h => hrel (List.mem_cons_of_mem _ h))
          (fun h => hwd (List.mem_cons_of_mem _ h))
      · exact absurd List.mem_cons_self hrel
      · exact absurd List.mem_cons_self hwd

end Lease
