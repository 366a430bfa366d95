/-
Who holds which device.

The ledger is what remains of the server when sessions, streams and timers are forgotten: the
registry, what each connection has obtained from it and whether it has given it back, and the
order of the acquisitions. Every step of the server is a step of the ledger (`Moves.ledger`),
and what the server guarantees about devices is proved on the ledger's five kinds of moves.

`Exclusive` is about one bus id that is not unbound: whoever has obtained it and not released
it holds its lease, so there is at most one such connection. It rests on the abstract lease
(`ExportLease`), which says that a lease in hand stays in hand through every call that is not
its release. `Tidy` is about all bus ids at once: no entry is active for a session that has
been released. It needs session ids to be different, and they are only as long as the counter
has not wrapped; the number of ids handed out is therefore part of the statement.

* `ServerEngine.Moves.ledger` — the refinement of the server by the ledger.
* `Exclusive.moves`, `Tidy.moves` — the two invariants, kept by every move.
-/

import Extender.Server.EngineMoves

namespace Extender.Server

open Indexed Extender.Protocol

/-- What a connection has obtained, and whether it has given it to `release`. It obtains at
most one device in its life. -/
structure Holding where
  obtained : Option (String × SessionId)
  released : Bool
deriving DecidableEq, Repr

/-- The registry, what the connections have obtained from it, and the connections that were
granted a device, in order. -/
structure Ledger where
  registry : ExportRegistry
  holdings : List Holding
  grants : List Nat

def Connection.holding (c : Connection) : Holding := ⟨c.obtained, c.released⟩

def ServerEngine.ledger (s : ServerEngine) : Ledger :=
  ⟨s.registry, s.conns.map Connection.holding, s.grants⟩

namespace Ledger

/-- The moves of the ledger, with the registry calls each makes: someone obtains a device,
someone releases one, or neither. -/
inductive Moves (l : Ledger) : List ExportRegistry.Call → Ledger → Prop where
  | idle : Moves l [] l
  | call {c : ExportRegistry.Call} :
      (∀ now busId sid, c ≠ .release now busId sid) →
      (∀ busId sid, c ≠ .releaseImmediate busId sid) →
      Moves l [c] { l with registry := l.registry.apply c }
  | accept : Moves l [] { l with holdings := l.holdings ++ [⟨none, false⟩] }
  | grant {i : Nat} {now : Instant} {busId : String} {a : ExportRegistry.Acquired} :
      l.holdings[i]? = some ⟨none, false⟩ → (l.registry.tryAcquireExt now busId).1 = .ok a →
      Moves l [.tryAcquireExt now busId]
        { registry := l.registry.apply (.tryAcquireExt now busId)
          holdings := l.holdings.set i ⟨some (busId, a.2.2.1), false⟩
          grants := l.grants ++ [i] }
  | release {i : Nat} {now : Instant} {busId : String} {sid : SessionId} :
      l.holdings[i]? = some ⟨some (busId, sid), false⟩ →
      Moves l [.release now busId sid]
        { l with
          registry := l.registry.apply (.release now busId sid)
          holdings := l.holdings.set i ⟨some (busId, sid), true⟩ }

theorem Moves.registry {l l' : Ledger} {calls : List ExportRegistry.Call}
    (hmove : Moves l calls l') : l'.registry = l.registry.applyAll calls := by
  cases hmove <;> rfl

end Ledger

namespace ServerEngine

/-- A connection changes without a change of what it holds. -/
theorem ledger_setConn {s : ServerEngine} {i : Nat} {c : Connection}
    (hc : s.conns[i]? = some c) (c' : Connection) (hholding : c'.holding = c.holding) :
    (s.conns.set i c').map Connection.holding = s.conns.map Connection.holding := by
  obtain ⟨hlt, rfl⟩ := List.getElem?_eq_some_iff.mp hc
  rw [List.map_set, hholding, ← List.getElem_map Connection.holding (h := by simpa using hlt),
    List.set_getElem_self]

theorem holdings_getElem? {s : ServerEngine} {i : Nat} {c : Connection}
    (hc : s.conns[i]? = some c) : s.ledger.holdings[i]? = some c.holding := by
  simp [ledger, hc]

/-- **Refinement.** Every step of the server is a step of the ledger, with the calls
it adds to the history. -/
theorem Moves.ledger {s s' : ServerEngine} {a : Action} (hok : All s.conns fun _ c => c.Ok)
    (hmove : Moves s a s') :
    ∃ calls, s'.calls = s.calls ++ calls ∧ Ledger.Moves s.ledger calls s'.ledger ∧
      ∀ busId, .unbindDevice busId ∈ calls → a = .unbindDevice busId := by
  have hsame : ∀ {i : Nat} {c c' : Connection}, s.conns[i]? = some c → c'.holding = c.holding →
      Ledger.Moves s.ledger [] { s with conns := s.conns.set i c' }.ledger := by
    intro i c c' hc hholding
    have hledger : { s with conns := s.conns.set i c' }.ledger = s.ledger := by
      simp only [ServerEngine.ledger, ledger_setConn hc c' hholding]
    rw [hledger]
    exact .idle
  cases hmove with
  | @bind _ c busId hbinds =>
      refine ⟨[c], rfl, ?_, ?_⟩
      · rcases hbinds with ⟨enumerated, opened, rfl⟩ | ⟨device, handle, rfl⟩
        · exact .call (by simp) (by simp)
        · exact .call (by simp) (by simp)
      · rcases hbinds with ⟨enumerated, opened, rfl⟩ | ⟨device, handle, rfl⟩
        · simp
        · simp
  | @unbind busId =>
      refine ⟨[.unbindDevice busId], rfl, ?_, by simp⟩
      have hholdings : (s.conns.map (Connection.revoke busId)).map Connection.holding =
          s.conns.map Connection.holding := by
        rw [List.map_map]
        refine List.map_congr_left fun c _ => ?_
        simp [Connection.holding]
      simp only [ServerEngine.ledger, hholdings]
      exact .call (by simp) (by simp)
  | @unbindFail busId => exact ⟨[.unbindDevice busId], rfl, .call (by simp) (by simp), by simp⟩
  | @expire timer busId sid =>
      exact ⟨[.expireDisconnectedSession busId sid], rfl, .call (by simp) (by simp), by simp⟩
  | accept =>
      refine ⟨[], by simp, ?_, by simp⟩
      simp only [ServerEngine.ledger, List.map_append, List.map_cons, List.map_nil]
      exact .accept
  | discover c input pc sent hc => exact ⟨[], by simp, hsame hc rfl, by simp⟩
  | @acquired i c now busId handle device sid isReconnect hc hpc hacquired =>
      refine ⟨[.tryAcquireExt now busId], rfl, ?_, by simp⟩
      have hholding : c.holding = ⟨none, false⟩ := by
        rw [Connection.holding, ((hok i c hc).early (by rw [hpc]; trivial)).1,
          (hok i c hc).held (by simp [hpc])]
      have hget := holdings_getElem? hc
      rw [hholding] at hget
      simp only [ServerEngine.ledger, List.map_set]
      have hreleased : c.released = false := (hok i c hc).held (by simp [hpc])
      have hnew : Connection.holding
          { c with pc := .granted busId handle device sid, obtained := some (busId, sid) } =
          ⟨some (busId, sid), false⟩ := by
        rw [Connection.holding, hreleased]
      rw [hnew]
      exact .grant hget hacquired
  | @rejected i c now busId err hc =>
      refine ⟨[.tryAcquireExt now busId], rfl, ?_, by simp⟩
      have hholdings := ledger_setConn hc { c with pc := .refused } rfl
      simp only [ServerEngine.ledger, hholdings]
      exact .call (by simp) (by simp)
  | replied hc => exact ⟨[], by simp, hsame hc rfl, by simp⟩
  | replyLost hc => exact ⟨[], by simp, hsame hc rfl, by simp⟩
  | session hc => exact ⟨[], by simp, hsame hc rfl, by simp⟩
  | @release i c session now busId handle sid timers hc hpc =>
      refine ⟨[.release now busId sid], rfl, ?_, by simp⟩
      have hobtained := (hok i c hc).running busId handle sid hpc
      have hreleased : c.released = false := (hok i c hc).held (by simp [hpc])
      have hget := holdings_getElem? hc
      rw [Connection.holding, hobtained, hreleased] at hget
      simp only [ServerEngine.ledger, List.map_set]
      have hnew : Connection.holding { c with pc := .returned, released := true } =
          ⟨some (busId, sid), true⟩ := by
        rw [Connection.holding, hobtained]
      rw [hnew]
      exact .release hget

end ServerEngine

namespace Ledger

/-! ### One bus id that stays bound -/

/-- The connection obtained `busId`, at some time, and may have released it since. -/
def Imports (busId : String) (h : Holding) : Prop := h.obtained.map Prod.fst = some busId

instance (busId : String) (h : Holding) : Decidable (Imports busId h) :=
  inferInstanceAs (Decidable (h.obtained.map Prod.fst = some busId))

/-- The connection obtained `busId` and has not released it; at most one does at any time. -/
def Holds (busId : String) (h : Holding) : Prop := Imports busId h ∧ h.released = false

theorem holds_mk (busId : String) (sid : SessionId) : Holds busId ⟨some (busId, sid), false⟩ :=
  ⟨rfl, rfl⟩

/-- The accounts of one bus id: a holder has its lease, and of those granted it before all but
the last have released it. -/
structure Exclusive (l : Ledger) (busId : String) : Prop where
  /-- A holder holds the lease. -/
  lease : All l.holdings fun _ h => Holds busId h →
    ∃ sid, h.obtained = some (busId, sid) ∧ l.registry.leaseOf busId = some (.held sid)
  /-- There is one holder at most. -/
  unique : ∀ i j, At l.holdings i (Holds busId) → At l.holdings j (Holds busId) → i = j
  /-- All but the last of those who obtained it have released it. -/
  earlier : l.grants.Pairwise fun i j => At l.holdings i (Imports busId) →
    At l.holdings j (Imports busId) → At l.holdings i fun h => h.released = true
  granted : ∀ i ∈ l.grants, At l.holdings i fun h => h.obtained ≠ none

namespace Exclusive

variable {l l' : Ledger} {busId : String}

/-- A call that is no release and does not unbind `busId` leaves the lease with its
holder. -/
theorem lease_call (h : l.Exclusive busId) (hreg : l.registry.Consistent)
    {c : ExportRegistry.Call} (hrelease : ∀ now b sid, c ≠ .release now b sid)
    (himmediate : ∀ b sid, c ≠ .releaseImmediate b sid) (hbound : c ≠ .unbindDevice busId) :
    All l.holdings fun _ h => Holds busId h →
      ∃ sid, h.obtained = some (busId, sid) ∧
        (l.registry.apply c).leaseOf busId = some (.held sid) := by
  intro i hd hi hholds
  obtain ⟨sid, hobtained, hlease⟩ := h.lease i hd hi hholds
  refine ⟨sid, hobtained, ?_⟩
  rcases ExportRegistry.leaseOf_apply_of_held hreg hlease c with hsame | ⟨now, rfl⟩ | rfl | rfl
  · exact hsame
  · exact absurd rfl (hrelease now busId sid)
  · exact absurd rfl (himmediate busId sid)
  · exact absurd rfl hbound

/-- An acquisition of `busId` finds that everyone who obtained it has released it: the
registry grants no device twice. -/
theorem released_of_acquired (h : l.Exclusive busId) (hreg : l.registry.Consistent)
    {now : Instant} {a : ExportRegistry.Acquired}
    (hacquired : (l.registry.tryAcquireExt now busId).1 = .ok a) :
    All l.holdings fun _ h => ¬ Holds busId h := by
  intro i hd hi hholds
  obtain ⟨sid, _, hlease⟩ := h.lease i hd hi hholds
  exact ExportRegistry.not_held_of_acquired hreg hacquired hlease

theorem accept (h : l.Exclusive busId) :
    Exclusive { l with holdings := l.holdings ++ [⟨none, false⟩] } busId := by
  have himports : ¬ Imports busId ⟨none, false⟩ := by simp [Imports]
  have hholds : ¬ Holds busId ⟨none, false⟩ := fun hh => himports hh.1
  refine ⟨h.lease.append fun hh => absurd hh hholds, ?_, ?_, ?_⟩
  · intro i j hi hj
    exact h.unique i j (hi.of_append hholds) (hj.of_append hholds)
  · apply h.earlier.imp
    intro i j hij hi hj
    exact (hij (hi.of_append himports) (hj.of_append himports)).append _
  · intro i hi
    exact (h.granted i hi).append _

/-- Whoever was granted a device before is another connection than the one that
obtains one now. -/
theorem ne_of_granted (h : l.Exclusive busId) {i : Nat}
    (hi : l.holdings[i]? = some ⟨none, false⟩) : ∀ j ∈ l.grants, i ≠ j := by
  rintro j hj rfl
  obtain ⟨hd, hd', hobtained⟩ := h.granted i hj
  rw [hi] at hd'
  cases hd'
  exact hobtained rfl

/-- A connection obtains `busId`: it is the only holder, and all who obtained it
before have released it. -/
theorem grant_self (h : l.Exclusive busId) (hreg : l.registry.Consistent) {i : Nat}
    {now : Instant} {a : ExportRegistry.Acquired} (hi : l.holdings[i]? = some ⟨none, false⟩)
    (hacquired : (l.registry.tryAcquireExt now busId).1 = .ok a) :
    Exclusive
      { registry := l.registry.apply (.tryAcquireExt now busId)
        holdings := l.holdings.set i ⟨some (busId, a.2.2.1), false⟩
        grants := l.grants ++ [i] } busId := by
  have hne := h.ne_of_granted hi
  have hfree := h.released_of_acquired hreg hacquired
  have honly : ∀ j, At (l.holdings.set i ⟨some (busId, a.2.2.1), false⟩) j (Holds busId) →
      i = j := by
    intro j hj
    by_contra hij
    obtain ⟨hd, hd', hholds⟩ := hj.of_set_ne hij
    exact hfree j hd hd' hholds
  refine ⟨?_, ?_, ?_, ?_⟩
  · intro j hd hj hholds
    obtain rfl := honly j ⟨hd, hj, hholds⟩
    rw [eq_of_getElem?_set hj]
    exact ⟨a.2.2.1, rfl, ExportRegistry.leaseOf_acquired hreg hacquired⟩
  · intro j k hj hk
    exact (honly j hj).symm.trans (honly k hk)
  · rw [List.pairwise_append]
    refine ⟨?_, List.pairwise_singleton _ _, ?_⟩
    · refine List.Pairwise.imp_of_mem ?_ h.earlier
      intro j k hj hk hjk hj' hk'
      exact (hjk (hj'.of_set_ne (hne j hj)) (hk'.of_set_ne (hne k hk))).set_ne (hne j hj) _
    · intro j hj k _ hj' _
      obtain ⟨hd, hd', himports⟩ := hj'.of_set_ne (hne j hj)
      have hreleased : hd.released = true := by
        by_contra hnot
        exact hfree j hd hd' ⟨himports, by simpa using hnot⟩
      exact At.set_ne ⟨hd, hd', hreleased⟩ (hne j hj) _
  · intro j hj
    rcases List.mem_append.mp hj with hj | hj
    · exact (h.granted j hj).set_ne (hne j hj) _
    · rw [List.mem_singleton.mp hj]
      exact At.set_self hi (by simp)

theorem grant_ne (h : l.Exclusive busId) (hreg : l.registry.Consistent) {i : Nat}
    {now : Instant} {b : String} {a : ExportRegistry.Acquired} (hb : b ≠ busId)
    (hi : l.holdings[i]? = some ⟨none, false⟩) :
    Exclusive
      { registry := l.registry.apply (.tryAcquireExt now b)
        holdings := l.holdings.set i ⟨some (b, a.2.2.1), false⟩
        grants := l.grants ++ [i] } busId := by
  have hne := h.ne_of_granted hi
  have himports : ¬ Imports busId ⟨some (b, a.2.2.1), false⟩ := by simp [Imports, hb]
  have hholds : ¬ Holds busId ⟨some (b, a.2.2.1), false⟩ := fun hh => himports hh.1
  refine ⟨?_, ?_, ?_, ?_⟩
  · exact (h.lease_call hreg (by simp) (by simp) (by simp)).set fun hh => absurd hh hholds
  · intro j k hj hk
    exact h.unique j k (hj.of_set hholds) (hk.of_set hholds)
  · rw [List.pairwise_append]
    refine ⟨?_, List.pairwise_singleton _ _, ?_⟩
    · refine List.Pairwise.imp_of_mem ?_ h.earlier
      intro j k hj hk hjk hj' hk'
      exact (hjk (hj'.of_set himports) (hk'.of_set himports)).set_ne (hne j hj) _
    · intro j _ k hk _ hk'
      rw [List.mem_singleton.mp hk] at hk'
      obtain ⟨hd, hd', himp⟩ := hk'.of_set himports
      rw [hi] at hd'
      cases hd'
      simp [Imports] at himp
  · intro j hj
    rcases List.mem_append.mp hj with hj | hj
    · exact (h.granted j hj).set_ne (hne j hj) _
    · rw [List.mem_singleton.mp hj]
      exact At.set_self hi (by simp)

/-- A connection releases what it holds: for another holder of `busId` nothing
changes, because there is none unless the device released is another. -/
theorem release (h : l.Exclusive busId) (hreg : l.registry.Consistent) {i : Nat} {now : Instant}
    {b : String} {sid : SessionId} (hi : l.holdings[i]? = some ⟨some (b, sid), false⟩) :
    Exclusive
      { l with
        registry := l.registry.apply (.release now b sid)
        holdings := l.holdings.set i ⟨some (b, sid), true⟩ } busId := by
  have hholds : ¬ Holds busId ⟨some (b, sid), true⟩ := fun hh => by cases hh.2
  have himports : ∀ {j : Nat},
      At (l.holdings.set i ⟨some (b, sid), true⟩) j (Imports busId) →
      At l.holdings j (Imports busId) := by
    intro j hj
    by_cases hij : i = j
    · subst hij
      obtain ⟨hd, hd', himp⟩ := hj
      rw [eq_of_getElem?_set hd'] at himp
      exact ⟨_, hi, himp⟩
    · exact hj.of_set_ne hij
  refine ⟨?_, ?_, ?_, ?_⟩
  · intro j hd hj hh
    by_cases hij : i = j
    · subst hij
      rw [eq_of_getElem?_set hj] at hh
      exact absurd hh hholds
    · rw [List.getElem?_set_ne hij] at hj
      obtain ⟨sid', hobtained, hlease⟩ := h.lease j hd hj hh
      refine ⟨sid', hobtained, ?_⟩
      rcases ExportRegistry.leaseOf_apply_of_held hreg hlease (.release now b sid) with
        hsame | ⟨now', hc⟩ | hc | hc
      · exact hsame
      · -- It is this lease that is released, so both connections would hold it.
        cases hc
        exact absurd (h.unique i j ⟨_, hi, holds_mk busId sid⟩ ⟨hd, hj, hh⟩) hij
      · cases hc
      · cases hc
  · intro j k hj hk
    exact h.unique j k (hj.of_set hholds) (hk.of_set hholds)
  · apply h.earlier.imp
    intro j k hjk hj hk
    exact (hjk (himports hj) (himports hk)).set hi fun _ => rfl
  · intro j hj
    exact (h.granted j hj).set hi fun _ => by simp

theorem moves (h : l.Exclusive busId) (hreg : l.registry.Consistent)
    {calls : List ExportRegistry.Call} (hbound : .unbindDevice busId ∉ calls)
    (hmove : Moves l calls l') : l'.Exclusive busId := by
  cases hmove with
  | idle => exact h
  | @call c hrelease himmediate =>
      refine ⟨h.lease_call hreg hrelease himmediate ?_, h.unique, h.earlier, h.granted⟩
      rintro rfl
      exact hbound List.mem_cons_self
  | accept => exact h.accept
  | @grant i now b a hi hacquired =>
      by_cases hb : b = busId
      · subst hb
        exact h.grant_self hreg hi hacquired
      · exact h.grant_ne hreg hb hi
  | release hi => exact h.release hreg hi

end Exclusive

/-! ### All bus ids -/

/-- The connections have obtained `issued` ids at most, each its own, and a session
that is active on a device is the one its holder obtained. -/
structure Tidy (l : Ledger) (issued : Nat) : Prop where
  le_issued : All l.holdings fun _ h => ∀ busId sid, h.obtained = some (busId, sid) →
    sid.toNat ≤ issued
  holder : ∀ b sid, l.registry.leaseOf b = some (.held sid) →
    All l.holdings fun _ h => ∀ busId, h.obtained = some (busId, sid) →
      busId = b ∧ h.released = false

namespace Tidy

variable {l l' : Ledger} {issued : Nat}

/-- A call of any kind: an id it takes is above all that were obtained. -/
theorem call (h : l.Tidy issued) (hreg : l.registry.Consistent) (hnum : l.registry.Numbered issued)
    (c : ExportRegistry.Call) (hlt : issued + l.registry.acquisitions [c] < 2 ^ 64) :
    Tidy { l with registry := l.registry.apply c } (issued + l.registry.acquisitions [c]) := by
  constructor
  · refine h.le_issued.imp ?_
    intro i hd _ hle busId sid hobtained
    exact Nat.le_add_right_of_le (hle busId sid hobtained)
  · intro b sid hheld
    rcases ExportRegistry.leaseOf_held_of_apply hreg hheld with hbefore | ⟨_, htakes, rfl⟩
    · exact h.holder b sid hbefore
    · intro i hd hi busId hobtained
      have hle := h.le_issued i hd hi busId _ hobtained
      have hone : l.registry.acquisitions [c] = 1 := by
        simp [ExportRegistry.acquisitions, htakes]
      have hnext := hnum.next
      rw [hone] at hlt
      rw [Nat.mod_eq_of_lt hlt] at hnext
      omega

theorem moves (h : l.Tidy issued) (hreg : l.registry.Consistent)
    (hnum : l.registry.Numbered issued) {calls : List ExportRegistry.Call}
    (hlt : issued + l.registry.acquisitions calls < 2 ^ 64) (hmove : Moves l calls l') :
    l'.Tidy (issued + l.registry.acquisitions calls) := by
  cases hmove with
  | idle => exact h
  | @call c => exact h.call hreg hnum c hlt
  | accept =>
      constructor
      · apply h.le_issued.append
        intro busId sid hobtained
        cases hobtained
      · intro b sid hheld
        apply (h.holder b sid hheld).append
        intro busId hobtained
        cases hobtained
  | @grant i now b a hi hacquired =>
      have hold := h.call hreg hnum _ hlt
      obtain ⟨htakes, hsession⟩ := ExportRegistry.acquired_session hreg hacquired
      have hone : l.registry.acquisitions [.tryAcquireExt now b] = 1 := by
        simp [ExportRegistry.acquisitions, htakes]
      have hnext := hnum.next
      rw [hone] at hlt hold ⊢
      rw [Nat.mod_eq_of_lt hlt] at hnext
      constructor
      · apply hold.le_issued.set
        intro busId sid hobtained
        cases hobtained
        rw [hsession, hnext]
      · intro b' sid hheld
        apply (hold.holder b' sid hheld).set
        intro busId hobtained
        cases hobtained
        refine ⟨?_, rfl⟩
        -- The id is new, so the call that took it is what made the lease held.
        rcases ExportRegistry.leaseOf_held_of_apply hreg hheld with hbefore | ⟨⟨now', hc⟩, _, _⟩
        · have hle := hnum.le_issued b' a.2.2.1 (by
            rw [ExportRegistry.sessionOf, hbefore]
            rfl)
          rw [hsession] at hle
          omega
        · cases hc
          rfl
  | @release i now b sid hi =>
      have hold := h.call hreg hnum _ hlt
      constructor
      · apply hold.le_issued.set
        intro busId sid' hobtained
        cases hobtained
        exact hold.le_issued i _ hi b sid rfl
      · intro b' sid' hheld
        apply (hold.holder b' sid' hheld).set
        intro busId hobtained
        cases hobtained
        -- Before the call this lease would be the one at `b`, and that is released now.
        obtain ⟨rfl, _⟩ := hold.holder b' sid hheld i _ hi b rfl
        exact absurd hheld (ExportRegistry.leaseOf_release_ne_held hreg now sid)

end Tidy

end Ledger

end Extender.Server
