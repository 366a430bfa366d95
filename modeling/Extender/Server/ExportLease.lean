/-
Sessions in the export registry: the invariant of its entries, and that a device is imported
by one session at a time.

`Move` says once what a call can do to the registry, and `apply_move` that it does nothing
else. Two things follow from it, each by one case per move: the two copies of the session in
an entry stay in step (`Consistent.move`), and the entry moves along the lease automaton of
`Extender.Lib.Lease` (`Move.lease_step`). Exclusivity and the bookkeeping of session ids are
then facts about that automaton, which knows nothing of maps, clocks or descriptors.

An entry without a session is a free lease, one with an active session is held by it, and one
whose session has dropped is reserved for it. An unbound bus id has no lease.

The ids are numbered from 1 by a counter that wraps at `2 ^ 64`: the id handed out last, `2 ^
64 - 1`, leaves the counter at 0, below every id in the map. `Numbered` counts the ids handed
out so far, so that "no two entries have one id" can be said as long as they have not wrapped.

* `apply_move` — the inversion of every call.
* `Move.lease_step`, `applyAll_lease_path` — the registry refines the table of leases, over
  one call and over any run.
* `applyAll_sessions` — the records of a session agree, and ids are different.
* `exclusive_import` — a device is granted again only after it was given back.
* `lastId_not_below_counter` — the id the counter wraps behind.
-/

import Mathlib.Data.List.AList
import Extender.Lib.Lease
import Extender.Server.Export

namespace Extender.Server

open Extender.Protocol

/-! ### Entries whose two records of the session agree -/

/-- The session an entry records, whichever field it is in: the active one, or the one in its
grace period. -/
def ExportedDevice.Stores (exported : ExportedDevice) (s : SessionId) : Prop :=
  exported.activeSession = some s ∨ exported.sessionState = some (.active s) ∨
    ∃ busId deadline, exported.sessionState = some (.disconnected s busId deadline)

/-- `active_session` and `session_state` of the entry with key `busId` tell the
same story. -/
structure ExportedDevice.Consistent (busId : String) (exported : ExportedDevice) : Prop where
  none_iff : exported.activeSession = none ↔ exported.sessionState = none
  some_iff : ∀ s, exported.activeSession = some s ↔
    exported.sessionState = some (.active s) ∨
      ∃ deadline, exported.sessionState = some (.disconnected s busId deadline)

/-- The lease an entry stands for: free, held by a session, or in the grace period of one. -/
def ExportedDevice.lease (exported : ExportedDevice) : Lease.Status SessionId :=
  match exported.sessionState with
  | none => .free
  | some (.active s) => .held s
  | some (.disconnected s _ _) => .reserved s

namespace ExportedDevice

variable {busId : String} {exported : ExportedDevice} {s : SessionId}

theorem Consistent.cases (h : exported.Consistent busId) :
    (exported.activeSession = none ∧ exported.sessionState = none) ∨
    (∃ s, exported.activeSession = some s ∧ exported.sessionState = some (.active s)) ∨
    (∃ s deadline, exported.activeSession = some s ∧
      exported.sessionState = some (.disconnected s busId deadline)) := by
  cases hactive : exported.activeSession with
  | none => exact Or.inl ⟨rfl, h.none_iff.mp hactive⟩
  | some s =>
      rcases (h.some_iff s).mp hactive with hstate | ⟨deadline, hstate⟩
      · exact Or.inr (Or.inl ⟨s, rfl, hstate⟩)
      · exact Or.inr (Or.inr ⟨s, deadline, rfl, hstate⟩)

theorem consistent_of_none (hactive : exported.activeSession = none)
    (hstate : exported.sessionState = none) : exported.Consistent busId :=
  ⟨by simp [hactive, hstate], by simp [hactive, hstate]⟩

theorem consistent_of_active (hactive : exported.activeSession = some s)
    (hstate : exported.sessionState = some (.active s)) : exported.Consistent busId :=
  ⟨by simp [hactive, hstate], by simp [hactive, hstate]⟩

theorem consistent_of_disconnected {deadline : Instant} (hactive : exported.activeSession = some s)
    (hstate : exported.sessionState = some (.disconnected s busId deadline)) :
    exported.Consistent busId :=
  ⟨by simp [hactive, hstate], by simp [hactive, hstate]⟩

/-- What a consistent entry stores is the session of its lease. -/
theorem Consistent.stores_iff (h : exported.Consistent busId) :
    exported.Stores s ↔ exported.lease.session = some s := by
  rcases h.cases with ⟨hactive, hstate⟩ | ⟨t, hactive, hstate⟩ | ⟨t, deadline, hactive, hstate⟩
  · simp [Stores, lease, hactive, hstate, Lease.Status.session]
  · simp [Stores, lease, hactive, hstate, Lease.Status.session]
  · simp [Stores, lease, hactive, hstate, Lease.Status.session]

end ExportedDevice

namespace ExportRegistry

@[simp] theorem lookup_put_self (reg : ExportRegistry) (busId : String) (e : ExportedDevice) :
    (reg.put busId e).devices.lookup busId = some e :=
  AList.lookup_insert _

@[simp] theorem lookup_put_ne (reg : ExportRegistry) {busId other : String} (e : ExportedDevice)
    (h : busId ≠ other) : (reg.put other e).devices.lookup busId = reg.devices.lookup busId :=
  AList.lookup_insert_ne h

/-- The entry after `grant`: the session is active in both of its fields. -/
def marked (exported : ExportedDevice) (s : SessionId) : ExportedDevice :=
  { exported with activeSession := some s, sessionState := some (.active s) }

/-- The call takes a session id from the counter: an acquisition of a bound device
that is reserved or free. -/
def takesSessionId (reg : ExportRegistry) : Call → Bool
  | .tryAcquireExt _ busId =>
      match reg.devices.lookup busId with
      | none => false
      | some exported =>
          match exported.sessionState with
          | some (.disconnected _ _ _) => true
          | _ => exported.activeSession.isNone
  | _ => false

/-- How many session ids a sequence of calls takes, counted as the counter does. -/
def acquisitions (reg : ExportRegistry) : List Call → Nat
  | [] => 0
  | c :: calls => (if reg.takesSessionId c then 1 else 0) + acquisitions (reg.apply c) calls

/-! ### What a call can do -/

/-- The call binds `busId`, by either of the two functions. -/
def Call.Binds (c : Call) (busId : String) : Prop :=
  (∃ enumerated opened, c = .bindDevice busId enumerated opened) ∨
    ∃ device handle, c = .bindDeviceWith busId device handle

/-- The moves of the registry, with the call that makes each: an entry is written or removed,
or nothing happens. -/
inductive Move (reg : ExportRegistry) : Call → ExportRegistry → Prop where
  | keep {c : Call} : reg.takesSessionId c = false → Move reg c reg
  | bind {c : Call} {busId : String} (device : LocalUsbDevice) (handle : ManagedDevice) :
      c.Binds busId → reg.devices.lookup busId = none →
      Move reg c (reg.put busId (freshEntry device handle))
  | unbind {busId : String} {e : ExportedDevice} :
      reg.devices.lookup busId = some e →
      Move reg (.unbindDevice busId) { reg with devices := reg.devices.erase busId }
  | acquire {now : Instant} {busId : String} {e : ExportedDevice} :
      reg.devices.lookup busId = some e →
      reg.takesSessionId (.tryAcquireExt now busId) = true →
      (∀ s, e.sessionState ≠ some (.active s)) →
      Move reg (.tryAcquireExt now busId)
        { reg.put busId (marked e reg.nextSessionId) with
          nextSessionId := reg.nextSessionId + 1 }
  | suspend {now deadline : Instant} {busId : String} {s : SessionId} {e : ExportedDevice} :
      reg.devices.lookup busId = some e → e.activeSession = some s →
      Move reg (.release now busId s)
        (reg.put busId { e with sessionState := some (.disconnected s busId deadline) })
  | release {now : Instant} {busId : String} {s : SessionId} {e : ExportedDevice} :
      reg.devices.lookup busId = some e → e.activeSession = some s →
      Move reg (.release now busId s) (reg.put busId (cleared e))
  | releaseImmediate {busId : String} {s : SessionId} {e : ExportedDevice} :
      reg.devices.lookup busId = some e → e.activeSession = some s →
      Move reg (.releaseImmediate busId s) (reg.put busId (cleared e))
  | expire {busId stored : String} {s : SessionId} {e : ExportedDevice} {deadline : Instant} :
      reg.devices.lookup busId = some e →
      e.sessionState = some (.disconnected s stored deadline) →
      Move reg (.expireDisconnectedSession busId s) (reg.put busId (cleared e))

/-- Every entry of the map is consistent, so that the two fields can be read as one lease. -/
def Consistent (reg : ExportRegistry) : Prop :=
  ∀ busId exported, reg.devices.lookup busId = some exported → exported.Consistent busId

section Moves

variable {reg : ExportRegistry} {busId : String} {e : ExportedDevice}

theorem grant_eq (reg : ExportRegistry) (busId : String) (e : ExportedDevice)
    (isReconnect : Bool) :
    reg.grant busId e isReconnect =
      (e.device.toProtocolDevice.map fun proto =>
        (e.handle, proto, reg.nextSessionId, isReconnect),
       { reg.put busId (marked e reg.nextSessionId) with
          nextSessionId := reg.nextSessionId + 1 }) := by
  unfold grant
  cases e.device.toProtocolDevice with
  | error err => rfl
  | ok proto => rfl

/-- `try_acquire_ext` on an entry with an active session changes nothing, and is an error. -/
theorem tryAcquireExt_active {s : SessionId} (hlookup : reg.devices.lookup busId = some e)
    (he : e.Consistent busId) (hstate : e.sessionState = some (.active s)) (now : Instant) :
    reg.tryAcquireExt now busId = (.error (.deviceInUse busId), reg) := by
  have hactive : e.activeSession = some s := (he.some_iff s).mpr (Or.inl hstate)
  simp [tryAcquireExt, acquireFresh, hlookup, hstate, hactive]

/-- On every other entry it takes the next session id and marks the entry with
it, whether or not the descriptor then converts. -/
theorem tryAcquireExt_inactive (hlookup : reg.devices.lookup busId = some e)
    (he : e.Consistent busId) (hstate : ∀ s, e.sessionState ≠ some (.active s)) (now : Instant) :
    ∃ isReconnect, reg.tryAcquireExt now busId =
      (e.device.toProtocolDevice.map fun proto =>
        (e.handle, proto, reg.nextSessionId, isReconnect),
       { reg.put busId (marked e reg.nextSessionId) with
          nextSessionId := reg.nextSessionId + 1 }) := by
  rcases he.cases with ⟨hactive, hnone⟩ | ⟨s, _, hactive⟩ | ⟨s, deadline, hactive, hdisc⟩
  · refine ⟨false, ?_⟩
    rw [← grant_eq]
    simp [tryAcquireExt, acquireFresh, hlookup, hnone, hactive]
  · exact absurd hactive (hstate s)
  · by_cases hnow : now < deadline
    · refine ⟨true, ?_⟩
      rw [← grant_eq]
      simp [tryAcquireExt, hlookup, hdisc, hnow]
    · -- The grace period is over: the stale session is cleared before the grant.
      refine ⟨false, ?_⟩
      have hgrant : reg.tryAcquireExt now busId =
          (reg.put busId (cleared e)).grant busId (cleared e) false := by
        simp [tryAcquireExt, acquireFresh, hlookup, hdisc, hnow, cleared]
      rw [hgrant, grant_eq]
      simp [put, marked, cleared, AList.insert_insert]

theorem takesSessionId_tryAcquireExt (hlookup : reg.devices.lookup busId = some e)
    (he : e.Consistent busId) (now : Instant) :
    reg.takesSessionId (.tryAcquireExt now busId) = true ↔
      ∀ s, e.sessionState ≠ some (.active s) := by
  rcases he.cases with ⟨hactive, hnone⟩ | ⟨s, hactive, hstate⟩ | ⟨s, deadline, _, hdisc⟩
  · simp [takesSessionId, hlookup, hnone, hactive]
  · simp [takesSessionId, hlookup, hstate, hactive]
  · simp [takesSessionId, hlookup, hdisc]

theorem move_tryAcquireExt (hreg : reg.Consistent) (now : Instant) (busId : String) :
    Move reg (.tryAcquireExt now busId) (reg.tryAcquireExt now busId).2 := by
  cases hlookup : reg.devices.lookup busId with
  | none =>
      have hsame : (reg.tryAcquireExt now busId).2 = reg := by simp [tryAcquireExt, hlookup]
      rw [hsame]
      exact .keep (by simp [takesSessionId, hlookup])
  | some e =>
      have he := hreg busId e hlookup
      by_cases hactive : ∃ s, e.sessionState = some (.active s)
      · obtain ⟨s, hs⟩ := hactive
        rw [tryAcquireExt_active hlookup he hs now]
        refine .keep ?_
        rw [← Bool.not_eq_true, takesSessionId_tryAcquireExt hlookup he now]
        exact fun h => h s hs
      · have hstate : ∀ s, e.sessionState ≠ some (.active s) := fun s hs => hactive ⟨s, hs⟩
        obtain ⟨isReconnect, heq⟩ := tryAcquireExt_inactive hlookup he hstate now
        rw [heq]
        exact .acquire hlookup ((takesSessionId_tryAcquireExt hlookup he now).mpr hstate) hstate

/-- **Inversion.** A call makes one of the moves above. The registry's invariants are proved
by cases on them. -/
theorem apply_move (hreg : reg.Consistent) (c : Call) : Move reg c (reg.apply c) := by
  cases c with
  | bindDevice busId enumerated opened =>
      simp only [apply, bindDevice]
      split
      · exact .keep rfl
      · next hnone =>
          have hlookup : reg.devices.lookup busId = none := by simpa using hnone
          repeat' split
          all_goals first | exact .keep rfl | exact .bind _ _ (Or.inl ⟨_, _, rfl⟩) hlookup
  | bindDeviceWith busId device handle =>
      simp only [apply, bindDeviceWith]
      split
      · exact .keep rfl
      · next hnone =>
          have hlookup : reg.devices.lookup busId = none := by simpa using hnone
          exact .bind device handle (Or.inr ⟨device, handle, rfl⟩) hlookup
  | unbindDevice busId =>
      simp only [apply, unbindDevice]
      split
      · exact .keep rfl
      · next e hlookup => exact .unbind hlookup
  | tryAcquireExt now busId => exact move_tryAcquireExt hreg now busId
  | release now busId s =>
      simp only [apply, release]
      split
      · exact .keep rfl
      · next e hlookup =>
          split
          · next hs =>
              split
              · exact .release hlookup hs
              · exact .suspend hlookup hs
          · exact .keep rfl
  | releaseImmediate busId s =>
      simp only [apply, releaseImmediate]
      split
      · exact .keep rfl
      · next e hlookup =>
          split
          · next hs => exact .releaseImmediate hlookup hs
          · exact .keep rfl
  | expireDisconnectedSession busId s =>
      simp only [apply, expireDisconnectedSession]
      split
      · exact .keep rfl
      · next e hlookup =>
          split
          · next sid stored deadline hdisc =>
              split
              · next hs => exact .expire hlookup (hs ▸ hdisc)
              · exact .keep rfl
          · exact .keep rfl

/-- The counter moves with the calls that take an id, and with no others; it wraps around. -/
theorem Move.nextSessionId {reg reg' : ExportRegistry} {c : Call} (h : Move reg c reg') :
    reg'.nextSessionId =
      if reg.takesSessionId c then reg.nextSessionId + 1 else reg.nextSessionId := by
  cases h with
  | keep htakes => simp [htakes]
  | bind device handle hbinds =>
      rcases hbinds with ⟨enumerated, opened, rfl⟩ | ⟨device, handle, rfl⟩
      · rfl
      · rfl
  | unbind => rfl
  | acquire _ htakes => simp [htakes]
  | suspend => rfl
  | release => rfl
  | releaseImmediate => rfl
  | expire => rfl

end Moves

/-! ### Consistency along a run -/

theorem consistent_withSessionTimeout (timeoutSecs : UInt64) :
    (withSessionTimeout timeoutSecs).Consistent := by
  intro busId exported h
  simp [withSessionTimeout] at h

theorem Consistent.put {reg : ExportRegistry} (hreg : reg.Consistent) {busId : String}
    {e : ExportedDevice} (he : e.Consistent busId) : (reg.put busId e).Consistent := by
  intro other exported h
  by_cases hbus : other = busId
  · subst hbus
    rw [lookup_put_self] at h
    exact Option.some.inj h ▸ he
  · rw [lookup_put_ne reg e hbus] at h
    exact hreg other exported h

/-- **Step.** Every move keeps the map consistent: it writes both fields of an entry, or
neither. -/
theorem Consistent.move {reg reg' : ExportRegistry} {c : Call} (hreg : reg.Consistent)
    (h : Move reg c reg') : reg'.Consistent := by
  cases h with
  | keep => exact hreg
  | bind device handle => exact hreg.put (ExportedDevice.consistent_of_none rfl rfl)
  | @unbind busId e hlookup =>
      intro other exported h
      by_cases hbus : other = busId
      · subst hbus
        rw [AList.lookup_erase] at h
        cases h
      · rw [AList.lookup_erase_ne hbus] at h
        exact hreg other exported h
  | acquire => exact hreg.put (ExportedDevice.consistent_of_active rfl rfl)
  | suspend _ hs => exact hreg.put (ExportedDevice.consistent_of_disconnected hs rfl)
  | release => exact hreg.put (ExportedDevice.consistent_of_none rfl rfl)
  | releaseImmediate => exact hreg.put (ExportedDevice.consistent_of_none rfl rfl)
  | expire => exact hreg.put (ExportedDevice.consistent_of_none rfl rfl)

/-- **Run.** After every sequence of calls the map is consistent. -/
theorem Consistent.applyAll {reg : ExportRegistry} (hreg : reg.Consistent) (calls : List Call) :
    (reg.applyAll calls).Consistent := by
  induction calls generalizing reg with
  | nil => exact hreg
  | cons c calls ih => exact ih (hreg.move (apply_move hreg c))

theorem Reachable.consistent {reg : ExportRegistry} (h : reg.Reachable) : reg.Consistent := by
  obtain ⟨timeoutSecs, calls, rfl⟩ := h
  exact (consistent_withSessionTimeout timeoutSecs).applyAll calls

/-! ### The registry as a table of leases -/

/-- The lease on a bus id; `none` when it is not bound, which is a state of its own. -/
def leaseOf (reg : ExportRegistry) (busId : String) : Option (Lease.Status SessionId) :=
  (reg.devices.lookup busId).map ExportedDevice.lease

/-- The call behind an event of the lease on `busId`: which calls may be seen as this event. -/
def Explains (reg : ExportRegistry) (busId : String) (c : Call) : Lease.Event SessionId → Prop
  | .publish => c.Binds busId
  | .withdraw => c = .unbindDevice busId
  | .grant s => (∃ now, c = .tryAcquireExt now busId) ∧ reg.takesSessionId c = true ∧
      s = reg.nextSessionId
  | .release s => (∃ now, c = .release now busId s) ∨ c = .releaseImmediate busId s
  | .expire s => c = .expireDisconnectedSession busId s
  | .pass => True

theorem leaseOf_put_self (reg : ExportRegistry) (busId : String) (e : ExportedDevice) :
    (reg.put busId e).leaseOf busId = some e.lease := by
  simp [leaseOf]

theorem leaseOf_put_ne (reg : ExportRegistry) {busId other : String} (e : ExportedDevice)
    (h : busId ≠ other) : (reg.put other e).leaseOf busId = reg.leaseOf busId := by
  simp [leaseOf, h]

/-- A lease whose entry was rewritten at another key passes. -/
theorem step_put_ne (reg : ExportRegistry) {busId other : String} (e : ExportedDevice)
    (h : busId ≠ other) {c : Call} :
    ∃ ev, reg.Explains busId c ev ∧
      Lease.Step (reg.leaseOf busId) ev ((reg.put other e).leaseOf busId) := by
  rw [leaseOf_put_ne reg e h]
  exact ⟨.pass, trivial, .pass⟩

/-- The lease of an entry that records `s` as its session. -/
theorem lease_of_activeSession {busId : String} {e : ExportedDevice} {s : SessionId}
    (he : e.Consistent busId) (hs : e.activeSession = some s) :
    e.lease = .held s ∨ e.lease = .reserved s := by
  rcases (he.some_iff s).mp hs with hstate | ⟨deadline, hstate⟩
  · exact Or.inl (by simp [ExportedDevice.lease, hstate])
  · exact Or.inr (by simp [ExportedDevice.lease, hstate])

/-- The lease of an entry is held by the session that is active on it, and by no other. -/
theorem lease_eq_held_iff (e : ExportedDevice) (s : SessionId) :
    e.lease = .held s ↔ e.sessionState = some (.active s) := by
  unfold ExportedDevice.lease
  split
  case h_1 h => simp [h]
  case h_2 t h => simp [h]
  case h_3 t stored deadline h => simp [h]

theorem leaseOf_of_active {reg : ExportRegistry} {busId : String} {e : ExportedDevice}
    {s : SessionId} (hlookup : reg.devices.lookup busId = some e)
    (hactive : e.sessionState = some (.active s)) : reg.leaseOf busId = some (.held s) := by
  rw [leaseOf, hlookup, Option.map_some, (lease_eq_held_iff e s).mpr hactive]

theorem lease_ne_held {e : ExportedDevice} (h : ∀ s, e.sessionState ≠ some (.active s))
    (s : SessionId) : e.lease ≠ .held s :=
  fun hlease => h s ((lease_eq_held_iff e s).mp hlease)

/-- Clearing an entry for the session it records is a release of its lease. -/
theorem step_cleared {busId : String} {e : ExportedDevice} {s : SessionId}
    (he : e.Consistent busId) (hs : e.activeSession = some s) :
    Lease.Step (some e.lease) (.release s) (some (cleared e).lease) := by
  have hfree : (cleared e).lease = .free := rfl
  rw [hfree]
  rcases lease_of_activeSession he hs with hlease | hlease
  · rw [hlease]
    exact .drop
  · rw [hlease]
    exact .forfeit

/-- **Simulation.** Each call moves the lease on each bus id by one step of the
lease automaton, under an event the call explains. -/
theorem Move.lease_step {reg reg' : ExportRegistry} {c : Call} (hreg : reg.Consistent)
    (h : Move reg c reg') (busId : String) :
    ∃ ev, reg.Explains busId c ev ∧
      Lease.Step (reg.leaseOf busId) ev (reg'.leaseOf busId) := by
  cases h with
  | keep => exact ⟨.pass, trivial, .pass⟩
  | @bind _ other device handle hbinds hlookup =>
      by_cases hbus : busId = other
      · subst hbus
        refine ⟨.publish, hbinds, ?_⟩
        rw [leaseOf_put_self, leaseOf, hlookup]
        exact .publish
      · exact step_put_ne reg _ hbus
  | @unbind other e hlookup =>
      by_cases hbus : busId = other
      · subst hbus
        refine ⟨.withdraw, rfl, ?_⟩
        simp only [leaseOf, hlookup, AList.lookup_erase, Option.map_some, Option.map_none]
        exact .withdraw
      · refine ⟨.pass, trivial, ?_⟩
        simp only [leaseOf, AList.lookup_erase_ne hbus]
        exact .pass
  | @acquire now other e hlookup htakes hstate =>
      by_cases hbus : busId = other
      · subst hbus
        refine ⟨.grant reg.nextSessionId, ⟨⟨now, rfl⟩, htakes, rfl⟩, ?_⟩
        have hleft : reg.leaseOf busId = some e.lease := by simp [leaseOf, hlookup]
        have hright := leaseOf_put_self reg busId (marked e reg.nextSessionId)
        rw [hleft]
        exact hright ▸ .grant (lease_ne_held hstate)
      · exact step_put_ne reg _ hbus
  | @suspend now deadline other s e hlookup hs =>
      by_cases hbus : busId = other
      · subst hbus
        refine ⟨.release s, Or.inl ⟨now, rfl⟩, ?_⟩
        rw [leaseOf_put_self, leaseOf, hlookup]
        rcases lease_of_activeSession (hreg busId e hlookup) hs with hlease | hlease
        · rw [Option.map_some, hlease]
          exact .suspend
        · rw [Option.map_some, hlease]
          exact .extend
      · exact step_put_ne reg _ hbus
  | @release now other s e hlookup hs =>
      by_cases hbus : busId = other
      · subst hbus
        refine ⟨.release s, Or.inl ⟨now, rfl⟩, ?_⟩
        rw [leaseOf_put_self, leaseOf, hlookup]
        exact step_cleared (hreg busId e hlookup) hs
      · exact step_put_ne reg _ hbus
  | @releaseImmediate other s e hlookup hs =>
      by_cases hbus : busId = other
      · subst hbus
        refine ⟨.release s, Or.inr rfl, ?_⟩
        rw [leaseOf_put_self, leaseOf, hlookup]
        exact step_cleared (hreg busId e hlookup) hs
      · exact step_put_ne reg _ hbus
  | @expire other stored s e deadline hlookup hdisc =>
      by_cases hbus : busId = other
      · subst hbus
        refine ⟨.expire s, rfl, ?_⟩
        rw [leaseOf_put_self, leaseOf, hlookup, Option.map_some]
        have hlease : e.lease = .reserved s := by simp [ExportedDevice.lease, hdisc]
        rw [hlease]
        exact .expire
      · exact step_put_ne reg _ hbus

/-! ### Session ids -/

/-- The session recorded for a bus id, by the registry's own lookup. -/
def sessionOf (reg : ExportRegistry) (busId : String) : Option SessionId :=
  (reg.leaseOf busId).bind Lease.Status.session

theorem stores_iff_sessionOf {reg : ExportRegistry} (hreg : reg.Consistent) {busId : String}
    {e : ExportedDevice} (hlookup : reg.devices.lookup busId = some e) (s : SessionId) :
    e.Stores s ↔ reg.sessionOf busId = some s := by
  rw [(hreg busId e hlookup).stores_iff]
  simp [sessionOf, leaseOf, hlookup]

/-- A registry that has handed out `issued` ids: the ids it records are among
them, each for one bus id. -/
structure Numbered (reg : ExportRegistry) (issued : Nat) : Prop where
  next : reg.nextSessionId.toNat = (issued + 1) % 2 ^ 64
  le_issued : ∀ busId s, reg.sessionOf busId = some s → s.toNat ≤ issued
  distinct : ∀ busId busId' s, reg.sessionOf busId = some s → reg.sessionOf busId' = some s →
    busId = busId'

theorem numbered_withSessionTimeout (timeoutSecs : UInt64) :
    (withSessionTimeout timeoutSecs).Numbered 0 := by
  have hnone : ∀ busId, (withSessionTimeout timeoutSecs).sessionOf busId = none := by
    intro busId
    simp [sessionOf, leaseOf, withSessionTimeout]
  refine ⟨rfl, ?_, ?_⟩
  · intro busId s h
    rw [hnone busId] at h
    cases h
  · intro busId busId' s h
    rw [hnone busId] at h
    cases h

section Numbering

variable {reg reg' : ExportRegistry} {c : Call} {issued : Nat}

/-- A session recorded after a call was recorded before it, or is the id the call
took. -/
theorem Move.sessionOf (hreg : reg.Consistent) (h : Move reg c reg') {busId : String}
    {s : SessionId} (hs : reg'.sessionOf busId = some s) :
    reg.sessionOf busId = some s ∨
      (∃ now, c = .tryAcquireExt now busId) ∧ reg.takesSessionId c = true ∧
        s = reg.nextSessionId := by
  obtain ⟨ev, hexplains, hstep⟩ := h.lease_step hreg busId
  rcases hstep.session hs with hbefore | rfl
  · exact Or.inl hbefore
  · exact Or.inr hexplains

/-- A move that takes no id records no new session. -/
theorem Numbered.move_of_not_takes (hreg : reg.Consistent) (hnum : reg.Numbered issued)
    (h : Move reg c reg') (htakes : reg.takesSessionId c = false) : reg'.Numbered issued := by
  have hback : ∀ busId s, reg'.sessionOf busId = some s → reg.sessionOf busId = some s := by
    intro busId s hs
    rcases h.sessionOf hreg hs with hbefore | ⟨_, htrue, _⟩
    · exact hbefore
    · rw [htakes] at htrue
      cases htrue
  refine ⟨?_, ?_, ?_⟩
  · rw [h.nextSessionId, htakes]
    exact hnum.next
  · intro busId s hs
    exact hnum.le_issued busId s (hback busId s hs)
  · intro busId busId' s hs hs'
    exact hnum.distinct busId busId' s (hback busId s hs) (hback busId' s hs')

/-- A move that takes an id gives the next one, which no entry records yet. -/
theorem Numbered.move_of_takes (hreg : reg.Consistent) (hnum : reg.Numbered issued)
    (h : Move reg c reg') (htakes : reg.takesSessionId c = true) (hlt : issued + 1 < 2 ^ 64) :
    reg'.Numbered (issued + 1) := by
  have hnext : reg.nextSessionId.toNat = issued + 1 := by
    rw [hnum.next, Nat.mod_eq_of_lt hlt]
  refine ⟨?_, ?_, ?_⟩
  · rw [h.nextSessionId, htakes, if_pos rfl, UInt64.toNat_add, hnext]
    rfl
  · intro busId s hs
    rcases h.sessionOf hreg hs with hbefore | ⟨_, _, rfl⟩
    · exact Nat.le_succ_of_le (hnum.le_issued busId s hbefore)
    · exact hnext.le
  · intro busId busId' s hs hs'
    rcases h.sessionOf hreg hs with hbefore | ⟨⟨now, hc⟩, _, hfresh⟩
    · rcases h.sessionOf hreg hs' with hbefore' | ⟨_, _, rfl⟩
      · exact hnum.distinct busId busId' s hbefore hbefore'
      · -- The id taken now is above every id recorded before.
        have hle := hnum.le_issued busId _ hbefore
        omega
    · rcases h.sessionOf hreg hs' with hbefore' | ⟨⟨now', hc'⟩, _, _⟩
      · have hle := hnum.le_issued busId' _ hbefore'
        rw [hfresh] at hle
        omega
      · rw [hc] at hc'
        cases hc'
        rfl

/-- Along a run that takes fewer than `2 ^ 64` ids in all, the registry stays
numbered. -/
theorem Numbered.applyAll (hreg : reg.Consistent) (hnum : reg.Numbered issued)
    (calls : List Call) (hlt : issued + reg.acquisitions calls < 2 ^ 64) :
    (reg.applyAll calls).Numbered (issued + reg.acquisitions calls) := by
  induction calls generalizing reg issued with
  | nil => exact hnum
  | cons c calls ih =>
      have hmove := apply_move hreg c
      cases htakes : reg.takesSessionId c with
      | false =>
          have hcount : reg.acquisitions (c :: calls) = (reg.apply c).acquisitions calls := by
            simp [acquisitions, htakes]
          rw [hcount] at hlt ⊢
          exact ih (hreg.move hmove) (hnum.move_of_not_takes hreg hmove htakes) hlt
      | true =>
          have hcount : issued + reg.acquisitions (c :: calls) =
              issued + 1 + (reg.apply c).acquisitions calls := by
            simp only [acquisitions, htakes, if_true]
            omega
          rw [hcount] at hlt ⊢
          exact ih (hreg.move hmove) (hnum.move_of_takes hreg hmove htakes (by omega)) hlt

end Numbering

/-- **Session invariant.** After any calls that take fewer than `2 ^ 64` ids the two
records of each entry agree and no two entries hold the same id; and the ids are
below the counter as long as the counter has not wrapped to 0. -/
theorem applyAll_sessions (timeoutSecs : UInt64) (calls : List Call)
    (hlt : (withSessionTimeout timeoutSecs).acquisitions calls < 2 ^ 64) :
    let reg := (withSessionTimeout timeoutSecs).applyAll calls
    (∀ busId e, reg.devices.lookup busId = some e → e.Consistent busId) ∧
    (∀ busId busId' e e' s, reg.devices.lookup busId = some e →
      reg.devices.lookup busId' = some e' → e.Stores s → e'.Stores s → busId = busId') ∧
    ((withSessionTimeout timeoutSecs).acquisitions calls < 2 ^ 64 - 1 →
      ∀ busId e s, reg.devices.lookup busId = some e → e.Stores s → s < reg.nextSessionId) := by
  intro reg
  have hstart := consistent_withSessionTimeout timeoutSecs
  have hreg : reg.Consistent := hstart.applyAll calls
  have hnum : reg.Numbered ((withSessionTimeout timeoutSecs).acquisitions calls) := by
    simpa using (numbered_withSessionTimeout timeoutSecs).applyAll hstart calls (by omega)
  refine ⟨hreg, ?_, ?_⟩
  · intro busId busId' e e' s hlookup hlookup' hs hs'
    exact hnum.distinct busId busId' s ((stores_iff_sessionOf hreg hlookup s).mp hs)
      ((stores_iff_sessionOf hreg hlookup' s).mp hs')
  · intro hwrap busId e s hlookup hs
    have hle := hnum.le_issued busId s ((stores_iff_sessionOf hreg hlookup s).mp hs)
    have hnext := hnum.next
    rw [Nat.mod_eq_of_lt (by omega)] at hnext
    rw [UInt64.lt_iff_toNat_lt]
    omega

/-- A keyboard at `1-1`. -/
def sampleDevice : LocalUsbDevice :=
  { busNumber := 1, deviceAddress := 4, vendorId := 0x046d, productId := 0xc31c
    deviceClass := 0, deviceSubclass := 0, deviceProtocol := 0, bcdDevice := 0x6402
    busId := "1-1", speed := 2, numConfigurations := 1
    interfaces := [{ interfaceNumber := 0, interfaceClass := 3, interfaceSubclass := 1,
                     interfaceProtocol := 1 }] }

/-- The record it travels as. -/
def sampleRecord : UsbDevice :=
  { path := pathFromStr "/sys/devices/usb1/1-1"
    busid := BigEndian.Bytes.zeroPadded [49, 45, 49] (by decide)
    busnum := 1, devnum := 4, speed := 2, idVendor := 0x046d, idProduct := 0xc31c
    bcdDevice := 0x6402, deviceClass := 0, deviceSubclass := 0, deviceProtocol := 0
    configurationValue := 0, numConfigurations := 1, numInterfaces := 1
    interfaces := [{ interfaceClass := 3, interfaceSubclass := 1, interfaceProtocol := 1
                     padding := 0 }] }

theorem toProtocolDevice_sampleDevice : sampleDevice.toProtocolDevice = .ok sampleRecord := by
  decide +kernel

def sampleHandle : ManagedDevice := { handle := 0, claimedInterfaces := [0], busId := "1-1" }

/-- A client drops and comes back within the grace period, and the cleanup task of
its first session fires afterwards. -/
def reconnectCalls : List Call :=
  [.bindDeviceWith "1-1" sampleDevice sampleHandle, .tryAcquireExt 0 "1-1", .release 5 "1-1" 1,
    .tryAcquireExt 6 "1-1", .expireDisconnectedSession "1-1" 1]

theorem applyAll_sessions_reconnect :
    (withSessionTimeout 30).acquisitions reconnectCalls = 2 ∧
    ∀ busId e s,
      ((withSessionTimeout 30).applyAll reconnectCalls).devices.lookup busId = some e →
      e.Stores s → s < ((withSessionTimeout 30).applyAll reconnectCalls).nextSessionId :=
  ⟨by decide, (applyAll_sessions 30 reconnectCalls (by decide)).2.2 (by decide)⟩

/-- Bind, import, unbind: one id gone and an empty map again, which a run can repeat as
often as it likes. -/
def churn : List Call :=
  [.bindDeviceWith "1-1" sampleDevice sampleHandle, .tryAcquireExt 0 "1-1", .unbindDevice "1-1"]

theorem applyAll_append (reg : ExportRegistry) (calls calls' : List Call) :
    reg.applyAll (calls ++ calls') = (reg.applyAll calls).applyAll calls' :=
  List.foldl_append

theorem acquisitions_append (reg : ExportRegistry) (calls calls' : List Call) :
    reg.acquisitions (calls ++ calls') =
      reg.acquisitions calls + (reg.applyAll calls).acquisitions calls' := by
  induction calls generalizing reg with
  | nil => simp [acquisitions, applyAll]
  | cons c calls ih =>
      rw [List.cons_append, acquisitions, acquisitions, ih]
      exact (Nat.add_assoc _ _ _).symm

theorem churn_emptyMap (next : UInt64) (timeout : Nat) :
    (ExportRegistry.mk ∅ next timeout).applyAll churn = ⟨∅, next + 1, timeout⟩ ∧
      (ExportRegistry.mk ∅ next timeout).acquisitions churn = 1 := by
  constructor <;> rfl

theorem churn_repeated (timeoutSecs : UInt64) (n : Nat) :
    (withSessionTimeout timeoutSecs).applyAll (List.replicate n churn).flatten =
        ⟨∅, UInt64.ofNat (n + 1), durationFromSecs timeoutSecs⟩ ∧
      (withSessionTimeout timeoutSecs).acquisitions (List.replicate n churn).flatten = n := by
  induction n with
  | zero => exact ⟨rfl, rfl⟩
  | succ n ih =>
      obtain ⟨hreg, hcount⟩ := ih
      obtain ⟨hstep, hone⟩ :=
        churn_emptyMap (UInt64.ofNat (n + 1)) (durationFromSecs timeoutSecs)
      rw [List.replicate_succ', List.flatten_append, List.flatten_singleton]
      constructor
      · rw [applyAll_append, hreg, hstep, UInt64.ofNat_add (n + 1) 1]
        rfl
      · rw [acquisitions_append, hcount, hreg, hone]

/-- The last id below `2 ^ 64` is handed out and the counter goes back to 0: the
entry then holds an id that is not below the counter. -/
theorem lastId_not_below_counter :
    ¬ ∀ (timeoutSecs : UInt64) (calls : List Call),
      (withSessionTimeout timeoutSecs).acquisitions calls < 2 ^ 64 →
      ∀ busId e s,
        ((withSessionTimeout timeoutSecs).applyAll calls).devices.lookup busId = some e →
        e.Stores s → s < ((withSessionTimeout timeoutSecs).applyAll calls).nextSessionId := by
  intro hclaim
  obtain ⟨n, hn⟩ : ∃ n, n + 2 = 2 ^ 64 := ⟨2 ^ 64 - 2, by norm_num⟩
  obtain ⟨hreg, hcount⟩ := churn_repeated 30 n
  have hlast : UInt64.ofNat (n + 1) = 18446744073709551615 := by
    have hn' : n + 1 = 18446744073709551615 := by omega
    rw [hn']
    rfl
  rw [hlast] at hreg
  have hbelow := hclaim 30
    ((List.replicate n churn).flatten ++
      [.bindDeviceWith "1-1" sampleDevice sampleHandle, .tryAcquireExt 0 "1-1"])
  rw [acquisitions_append, hcount, applyAll_append, hreg] at hbelow
  have hentry := hbelow (by
    have hone : (ExportRegistry.mk ∅ 18446744073709551615 (durationFromSecs 30)).acquisitions
        [.bindDeviceWith "1-1" sampleDevice sampleHandle, .tryAcquireExt 0 "1-1"] = 1 := rfl
    rw [hone]
    omega) "1-1" (marked (freshEntry sampleDevice sampleHandle) 18446744073709551615)
    18446744073709551615 rfl (Or.inl rfl)
  exact absurd hentry (by decide)

/-! ### Exclusive import -/

/-- The calls of a run as events of the lease on one bus id; those for other ids are not among
them. -/
theorem applyAll_lease_path {reg : ExportRegistry} (hreg : reg.Consistent) (busId : String)
    (calls : List Call) :
    ∃ evs, Lease.Path (reg.leaseOf busId) evs ((reg.applyAll calls).leaseOf busId) ∧
      (∀ s, .release s ∈ evs →
        (∃ now, .release now busId s ∈ calls) ∨ .releaseImmediate busId s ∈ calls) ∧
      (.withdraw ∈ evs → .unbindDevice busId ∈ calls) := by
  induction calls generalizing reg with
  | nil =>
      exact ⟨[], .nil, fun s h => absurd h List.not_mem_nil, fun h => absurd h List.not_mem_nil⟩
  | cons c calls ih =>
      have hmove := apply_move hreg c
      obtain ⟨ev, hexplains, hstep⟩ := hmove.lease_step hreg busId
      obtain ⟨evs, hpath, hrelease, hwithdraw⟩ := ih (hreg.move hmove)
      refine ⟨ev :: evs, .cons hstep hpath, ?_, ?_⟩
      · intro s hs
        rcases List.mem_cons.mp hs with rfl | hrest
        · rcases hexplains with ⟨now, rfl⟩ | rfl
          · exact Or.inl ⟨now, List.mem_cons_self⟩
          · exact Or.inr List.mem_cons_self
        · rcases hrelease s hrest with ⟨now, hmem⟩ | hmem
          · exact Or.inl ⟨now, List.mem_cons_of_mem _ hmem⟩
          · exact Or.inr (List.mem_cons_of_mem _ hmem)
      · intro h
        rcases List.mem_cons.mp h with rfl | hrest
        · cases hexplains
          exact List.mem_cons_self
        · exact List.mem_cons_of_mem _ (hwithdraw hrest)

section Exclusive

variable {reg : ExportRegistry} {busId : String} {e : ExportedDevice}

/-- What a successful acquisition tells about the registry before and after: the lease was not
held, and is held now. -/
theorem tryAcquireExt_ok (hreg : reg.Consistent) {now : Instant} {a : Acquired}
    (h : (reg.tryAcquireExt now busId).1 = .ok a) :
    ∃ e, reg.devices.lookup busId = some e ∧ (∀ s, e.sessionState ≠ some (.active s)) ∧
      a.2.2.1 = reg.nextSessionId ∧
      (reg.tryAcquireExt now busId).2 =
        { reg.put busId (marked e reg.nextSessionId) with
          nextSessionId := reg.nextSessionId + 1 } := by
  cases hlookup : reg.devices.lookup busId with
  | none => simp [tryAcquireExt, hlookup] at h
  | some e =>
      have he := hreg busId e hlookup
      by_cases hactive : ∃ s, e.sessionState = some (.active s)
      · obtain ⟨s, hs⟩ := hactive
        rw [tryAcquireExt_active hlookup he hs now] at h
        cases h
      · have hstate : ∀ s, e.sessionState ≠ some (.active s) := fun s hs => hactive ⟨s, hs⟩
        obtain ⟨isReconnect, heq⟩ := tryAcquireExt_inactive hlookup he hstate now
        rw [heq] at h ⊢
        cases hproto : e.device.toProtocolDevice with
        | error err =>
            rw [hproto] at h
            cases h
        | ok proto =>
            rw [hproto] at h
            cases h
            exact ⟨e, rfl, hstate, rfl, rfl⟩

/-- A successful acquisition takes a session id and returns it. -/
theorem acquired_session (hreg : reg.Consistent) {now : Instant} {a : Acquired}
    (h : (reg.tryAcquireExt now busId).1 = .ok a) :
    reg.takesSessionId (.tryAcquireExt now busId) = true ∧ a.2.2.1 = reg.nextSessionId := by
  obtain ⟨e, hlookup, hstate, hsession, _⟩ := tryAcquireExt_ok hreg h
  exact ⟨(takesSessionId_tryAcquireExt hlookup (hreg busId e hlookup) now).mpr hstate, hsession⟩

theorem leaseOf_acquired (hreg : reg.Consistent) {now : Instant} {a : Acquired}
    (h : (reg.tryAcquireExt now busId).1 = .ok a) :
    (reg.apply (.tryAcquireExt now busId)).leaseOf busId = some (.held a.2.2.1) := by
  obtain ⟨e, _, _, hsession, heq⟩ := tryAcquireExt_ok hreg h
  rw [apply, heq, hsession]
  exact leaseOf_put_self reg busId _

theorem not_held_of_acquired (hreg : reg.Consistent) {now : Instant} {a : Acquired}
    {s : SessionId} (h : (reg.tryAcquireExt now busId).1 = .ok a) :
    reg.leaseOf busId ≠ some (.held s) := by
  obtain ⟨e, hlookup, hstate, _, _⟩ := tryAcquireExt_ok hreg h
  simp only [leaseOf, hlookup, Option.map_some, ne_eq, Option.some.injEq]
  exact lease_ne_held hstate s

/-- A held lease stays held through every call but its own release and an unbind of its
device. -/
theorem leaseOf_apply_of_held (hreg : reg.Consistent) {s : SessionId}
    (h : reg.leaseOf busId = some (.held s)) (c : Call) :
    (reg.apply c).leaseOf busId = some (.held s) ∨ (∃ now, c = .release now busId s) ∨
      c = .releaseImmediate busId s ∨ c = .unbindDevice busId := by
  obtain ⟨ev, hexplains, hstep⟩ := (apply_move hreg c).lease_step hreg busId
  rw [h] at hstep
  rcases hstep.held with hsame | rfl | rfl
  · exact Or.inl hsame
  · exact Or.inr (hexplains.imp_right Or.inl)
  · exact Or.inr (Or.inr (Or.inr hexplains))

/-- A lease is held after a call only if it was before, or the call took the id. -/
theorem leaseOf_held_of_apply (hreg : reg.Consistent) {s : SessionId} {c : Call}
    (h : (reg.apply c).leaseOf busId = some (.held s)) :
    reg.leaseOf busId = some (.held s) ∨
      (∃ now, c = .tryAcquireExt now busId) ∧ reg.takesSessionId c = true ∧
        s = reg.nextSessionId := by
  obtain ⟨ev, hexplains, hstep⟩ := (apply_move hreg c).lease_step hreg busId
  rw [h] at hstep
  rcases hstep.to_held with hbefore | rfl
  · exact Or.inl hbefore
  · exact Or.inr hexplains

/-- After its release a session does not hold the lease. -/
theorem leaseOf_release_ne_held (hreg : reg.Consistent) (now : Instant) (s : SessionId) :
    (reg.apply (.release now busId s)).leaseOf busId ≠ some (.held s) := by
  intro h
  cases hlookup : reg.devices.lookup busId with
  | none => simp [apply, release, leaseOf, hlookup] at h
  | some e =>
      by_cases hs : e.activeSession = some s
      · by_cases hzero : reg.sessionTimeout = 0
        · simp [apply, release, leaseOf, hlookup, hs, hzero, ExportedDevice.lease, cleared] at h
        · simp [apply, release, leaseOf, hlookup, hs, hzero, ExportedDevice.lease] at h
      · have hlease : e.lease = .held s := by simpa [apply, release, leaseOf, hlookup, hs] using h
        have hstate := (lease_eq_held_iff e s).mp hlease
        exact hs (((hreg busId e hlookup).some_iff s).mpr (Or.inl hstate))

/-- An acquisition that takes a session id and fails is one of a device whose
descriptor does not convert. -/
theorem not_converts_of_error (hreg : reg.Consistent) (hlookup : reg.devices.lookup busId = some e)
    {now : Instant} {err : ServerError} (h : (reg.tryAcquireExt now busId).1 = .error err)
    (htakes : reg.takesSessionId (.tryAcquireExt now busId) = true) :
    ∃ err', e.device.toProtocolDevice = .error err' := by
  have he := hreg busId e hlookup
  have hstate := (takesSessionId_tryAcquireExt hlookup he now).mp htakes
  obtain ⟨isReconnect, heq⟩ := tryAcquireExt_inactive hlookup he hstate now
  rw [heq] at h
  cases hproto : e.device.toProtocolDevice with
  | error err' => exact ⟨err', rfl⟩
  | ok proto =>
      rw [hproto] at h
      cases h

/-- An entry that was not rewritten as active is the one from before. -/
theorem active_put {reg : ExportRegistry} {other : String} {e' new : ExportedDevice}
    {s : SessionId} (hnew : ∀ s, new.sessionState ≠ some (.active s))
    (hlookup : (reg.put other new).devices.lookup busId = some e')
    (hactive : e'.sessionState = some (.active s)) : reg.devices.lookup busId = some e' := by
  by_cases hbus : busId = other
  · subst hbus
    rw [lookup_put_self] at hlookup
    cases hlookup
    exact absurd hactive (hnew s)
  · rwa [lookup_put_ne reg new hbus] at hlookup

/-- An entry is active after a call only if it was before, or the call took the id;
its device is the same. -/
theorem active_of_apply (hreg : reg.Consistent) {c : Call} {e' : ExportedDevice} {s : SessionId}
    (hlookup : (reg.apply c).devices.lookup busId = some e')
    (hactive : e'.sessionState = some (.active s)) :
    reg.devices.lookup busId = some e' ∨
      ∃ now e, c = .tryAcquireExt now busId ∧ reg.devices.lookup busId = some e ∧
        e.device = e'.device ∧ s = reg.nextSessionId ∧ reg.takesSessionId c = true := by
  have hmove := apply_move hreg c
  generalize reg.apply c = reg' at hmove hlookup
  cases hmove with
  | keep => exact Or.inl hlookup
  | bind device handle => exact Or.inl (active_put (by simp [freshEntry]) hlookup hactive)
  | @unbind other e =>
      by_cases hbus : busId = other
      · subst hbus
        rw [AList.lookup_erase] at hlookup
        cases hlookup
      · rw [AList.lookup_erase_ne hbus] at hlookup
        exact Or.inl hlookup
  | @acquire now other e hold htakes =>
      by_cases hbus : busId = other
      · subst hbus
        rw [lookup_put_self] at hlookup
        cases hlookup
        cases hactive
        exact Or.inr ⟨now, e, rfl, hold, rfl, rfl, htakes⟩
      · exact Or.inl (by rwa [lookup_put_ne reg _ hbus] at hlookup)
  | suspend => exact Or.inl (active_put (by simp) hlookup hactive)
  | release => exact Or.inl (active_put (by simp [cleared]) hlookup hactive)
  | releaseImmediate => exact Or.inl (active_put (by simp [cleared]) hlookup hactive)
  | expire => exact Or.inl (active_put (by simp [cleared]) hlookup hactive)

theorem tryAcquireExt_deviceInUse_iff (hreg : reg.Consistent)
    (hlookup : reg.devices.lookup busId = some e) {proto : UsbDevice}
    (hproto : e.device.toProtocolDevice = .ok proto) (now : Instant) :
    (reg.tryAcquireExt now busId).1 = .error (.deviceInUse busId) ↔
      ∃ s, e.sessionState = some (.active s) := by
  have he := hreg busId e hlookup
  constructor
  · intro h
    by_contra hactive
    obtain ⟨isReconnect, heq⟩ :=
      tryAcquireExt_inactive hlookup he (fun s hs => hactive ⟨s, hs⟩) now
    rw [heq, hproto] at h
    cases h
  · rintro ⟨s, hs⟩
    rw [tryAcquireExt_active hlookup he hs now]

/-- A call that carries a session id other than the recorded one is no event of
the lease, and leaves the entry as it is. -/
theorem lookup_apply_of_other_session (hreg : reg.Consistent)
    (hlookup : reg.devices.lookup busId = some e) {sid : SessionId} (hsid : ¬ e.Stores sid)
    {c : Call} (hc : (∃ now b, c = .release now b sid) ∨ (∃ b, c = .releaseImmediate b sid) ∨
      ∃ b, c = .expireDisconnectedSession b sid) :
    (reg.apply c).devices.lookup busId = some e := by
  have hmove := apply_move hreg c
  generalize reg.apply c = reg' at hmove
  have hput : ∀ (other : String) (e' : ExportedDevice), busId ≠ other →
      (reg.put other e').devices.lookup busId = some e := by
    intro other e' hne
    rw [lookup_put_ne reg e' hne, hlookup]
  have hne : ∀ {other : String} {e' : ExportedDevice},
      reg.devices.lookup other = some e' → e'.Stores sid → busId ≠ other := by
    rintro other e' hlookup' hstores rfl
    rw [hlookup] at hlookup'
    cases hlookup'
    exact hsid hstores
  cases hmove with
  | keep => exact hlookup
  | bind _ _ hbinds =>
      rcases hbinds with ⟨enumerated, opened, rfl⟩ | ⟨device, handle, rfl⟩
      · simp at hc
      · simp at hc
  | unbind => simp at hc
  | acquire => simp at hc
  | suspend hlookup' hs =>
      obtain rfl : _ = sid := by simpa using hc
      exact hput _ _ (hne hlookup' (Or.inl hs))
  | release hlookup' hs =>
      obtain rfl : _ = sid := by simpa using hc
      exact hput _ _ (hne hlookup' (Or.inl hs))
  | releaseImmediate hlookup' hs =>
      obtain rfl : _ = sid := by simpa using hc
      exact hput _ _ (hne hlookup' (Or.inl hs))
  | @expire _ stored s e' deadline hlookup' hdisc =>
      obtain rfl : s = sid := by simpa using hc
      exact hput _ _ (hne hlookup' (Or.inr (Or.inr ⟨stored, deadline, hdisc⟩)))

end Exclusive

/-- **Exclusive import.** In any run of the registry: between two successful imports
of `busId` without an unbind the first session was released; an import of a bound
device is refused with `DeviceInUse` exactly when a session is active on
it; and a release or an expiry for a session other than the recorded one leaves
the entry alone. -/
theorem exclusive_import (timeoutSecs : UInt64) (calls : List Call) :
    let reg := (withSessionTimeout timeoutSecs).applyAll calls
    (∀ busId now a between now' a', (reg.tryAcquireExt now busId).1 = .ok a →
      (((reg.apply (.tryAcquireExt now busId)).applyAll between).tryAcquireExt now' busId).1 =
        .ok a' →
      .unbindDevice busId ∉ between →
      (∃ t, .release t busId a.2.2.1 ∈ between) ∨ .releaseImmediate busId a.2.2.1 ∈ between) ∧
    (∀ busId e proto now, reg.devices.lookup busId = some e →
      e.device.toProtocolDevice = .ok proto →
      ((reg.tryAcquireExt now busId).1 = .error (.deviceInUse busId) ↔
        ∃ s, e.sessionState = some (.active s))) ∧
    (∀ busId e sid, reg.devices.lookup busId = some e → ¬ e.Stores sid →
      (∀ now b, (reg.release now b sid).1.devices.lookup busId = some e) ∧
      (∀ b, (reg.releaseImmediate b sid).devices.lookup busId = some e) ∧
      ∀ b, (reg.expireDisconnectedSession b sid).devices.lookup busId = some e) := by
  intro reg
  have hreg : reg.Consistent := (consistent_withSessionTimeout timeoutSecs).applyAll calls
  refine ⟨?_, ?_, ?_⟩
  · intro busId now a between now' a' hfirst hsecond hbound
    have hmid : (reg.apply (.tryAcquireExt now busId)).Consistent :=
      hreg.move (apply_move hreg _)
    have hheld : (reg.apply (.tryAcquireExt now busId)).leaseOf busId = some (.held a.2.2.1) :=
      leaseOf_acquired hreg hfirst
    obtain ⟨evs, hpath, hrelease, hwithdraw⟩ := applyAll_lease_path hmid busId between
    rw [hheld] at hpath
    by_cases hrel : .release a.2.2.1 ∈ evs
    · exact hrelease _ hrel
    · have hstill := Lease.held_until_released hpath hrel (fun h => hbound (hwithdraw h))
      exact absurd hstill (not_held_of_acquired (hmid.applyAll between) hsecond)
  · intro busId e proto now hlookup hproto
    exact tryAcquireExt_deviceInUse_iff hreg hlookup hproto now
  · intro busId e sid hlookup hsid
    refine ⟨?_, ?_, ?_⟩
    · intro now b
      exact lookup_apply_of_other_session hreg hlookup hsid (Or.inl ⟨now, b, rfl⟩)
    · intro b
      exact lookup_apply_of_other_session hreg hlookup hsid (Or.inr (Or.inl ⟨b, rfl⟩))
    · intro b
      exact lookup_apply_of_other_session hreg hlookup hsid (Or.inr (Or.inr ⟨b, rfl⟩))

/-- The second session of the run above was granted after the first was released,
and the late cleanup task of the first leaves it alone. -/
theorem exclusive_import_reconnect :
    let reconnected := (withSessionTimeout 30).applyAll reconnectCalls
    ((∃ t, Call.release t "1-1" 1 ∈ [Call.release 5 "1-1" 1]) ∨
      Call.releaseImmediate "1-1" 1 ∈ [Call.release 5 "1-1" 1]) ∧
    ((reconnected.tryAcquireExt 7 "1-1").1 = .error (.deviceInUse "1-1") ↔
      ∃ s, some (.active 2) = some (SessionState.active s)) ∧
    (reconnected.expireDisconnectedSession "1-1" 1).devices.lookup "1-1" =
      some (marked (freshEntry sampleDevice sampleHandle) 2) := by
  intro reconnected
  refine ⟨?_, ?_, ?_⟩
  · exact (exclusive_import 30 [.bindDeviceWith "1-1" sampleDevice sampleHandle]).1 "1-1" 0
      (sampleHandle, sampleRecord, 1, false) [.release 5 "1-1" 1] 6
      (sampleHandle, sampleRecord, 2, true) (by decide +kernel) (by decide +kernel) (by simp)
  · exact (exclusive_import 30 reconnectCalls).2.1 "1-1"
      (marked (freshEntry sampleDevice sampleHandle) 2) sampleRecord 7 (by decide +kernel)
      toProtocolDevice_sampleDevice
  · exact ((exclusive_import 30 reconnectCalls).2.2 "1-1"
      (marked (freshEntry sampleDevice sampleHandle) 2) 1 (by decide +kernel)
      (by simp [ExportedDevice.Stores, marked])).2.2 "1-1"

end ExportRegistry

end Extender.Server
