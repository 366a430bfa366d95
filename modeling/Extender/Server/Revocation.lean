/-
Unbinding a device that is in use.

`unbind_device` removes the registry's entry and hands back the session that had the device
imported, "so the caller can clean it up". Its caller, `handle_unbind_device`, reports whether
there was one and does nothing else, and the session holds its own reference to the device
handle: it goes on executing what its client sends (`executes_after_unbind`).

What is executed is counted in submissions: each one a session has read becomes a task, and a
task hands its transfer to the device sooner or later. `revokedAt` notes how many there were
when the binding was removed, and `ExecutesFrom` says that a later one has reached the device.

Nothing more is executed when the device is unbound only after the clients that imported it
have gone (`UnbindsUnused`): a session past its reader loop takes no more submissions.
Transfers that were running at that moment may still finish; the claim is about those that
begin.

* `unbind_revokes` — in every run that meets the condition, nothing submitted after the unbind
  reaches the device.
* `executes_after_unbind` — a run in which a submission does.
-/

import Extender.Server.EngineMoves
import Extender.Server.InFlight

namespace Extender.Server

open Indexed Extender.Protocol

/-- The transfer has been handed to the device, which may be done with it by now. -/
def Task.Begun (t : Task) : Prop :=
  t.blocking = some .executing ∨ ∃ answer, t.blocking = some (.done answer)

namespace Connection

/-- The connection imported `busId` through a binding that has not been removed since. -/
def ImportedThrough (c : Connection) (busId : String) : Prop :=
  c.obtained.map Prod.fst = some busId ∧ c.revokedAt = none

/-- The connection reads no more submissions: its session is past the reader loop,
or the handler has returned without one. -/
def LeftLoop (c : Connection) : Prop :=
  (c.session = none ∧ c.pc = .returned) ∨ ∃ session ∈ c.session, Session.PastLoop session.reader

instance (c : Connection) (busId : String) : Decidable (c.ImportedThrough busId) :=
  inferInstanceAs (Decidable (_ ∧ _))

instance (c : Connection) : Decidable c.LeftLoop :=
  inferInstanceAs (Decidable (_ ∨ _))

/-- A submission the session read as number `n` or later has been executed; earlier ones were
read before the unbinding. -/
def ExecutesFrom (c : Connection) (n : Nat) : Prop :=
  ∃ session, c.session = some session ∧ ∃ k, n ≤ k ∧ At session.tasks k Task.Begun

/-- What is left of a revoked import: a session that has left its loop, and reads no
submission any more. -/
def Stopped (c : Connection) : Prop :=
  ∀ n, c.revokedAt = some n → c.LeftLoop ∧ c.submissions ≤ n

theorem Ok.not_leftLoop_of_early {c : Connection} (h : c.Ok) (hearly : c.pc.IsEarly) :
    ¬ c.LeftLoop := by
  obtain ⟨_, hsession⟩ := h.early hearly
  rintro (⟨_, hpc⟩ | ⟨session, hmem, _⟩)
  · rw [hpc] at hearly
    exact hearly
  · rw [hsession] at hmem
    cases hmem

theorem Ok.not_leftLoop_of_granted {c : Connection} (h : c.Ok) {busId : String}
    {handle : ManagedDevice} {device : UsbDevice} {sid : SessionId}
    (hpc : c.pc = .granted busId handle device sid) : ¬ c.LeftLoop := by
  obtain ⟨_, hsession⟩ := h.granted busId handle device sid hpc
  rintro (⟨_, hret⟩ | ⟨session, hmem, _⟩)
  · rw [hpc] at hret
    cases hret
  · rw [hsession] at hmem
    cases hmem

/-- A connection that has not left its loop is not revoked yet. -/
theorem Stopped.revokedAt_eq_none {c : Connection} (h : c.Stopped) (hleft : ¬ c.LeftLoop) :
    c.revokedAt = none := by
  cases hrevoked : c.revokedAt with
  | none => rfl
  | some n => exact absurd (h n hrevoked).1 hleft

theorem stopped_of_revokedAt_eq_none {c : Connection} (h : c.revokedAt = none) : c.Stopped := by
  intro n hn
  rw [h] at hn
  cases hn

/-- Unbinding revokes the imports that went through the binding. -/
theorem revokedAt_revoke {c : Connection} {busId : String} {n : Nat}
    (h : (c.revoke busId).revokedAt = some n) :
    c.revokedAt = some n ∨ c.ImportedThrough busId ∧ n = c.submissions := by
  unfold revoke at h
  split at h
  case h_2 => exact Or.inl h
  case h_1 imported sid hobtained hrevoked =>
    split at h
    case isFalse => exact Or.inl h
    case isTrue hbus =>
      cases h
      exact Or.inr ⟨⟨by rw [hobtained, Option.map_some, hbus], hrevoked⟩, rfl⟩

theorem Stopped.revoke {c : Connection} (h : c.Stopped) {busId : String}
    (hleft : c.ImportedThrough busId → c.LeftLoop) : (c.revoke busId).Stopped := by
  intro n hn
  have hsame : (c.revoke busId).LeftLoop ↔ c.LeftLoop := by simp [LeftLoop]
  have hcount : (c.revoke busId).submissions = c.submissions := by simp [submissions]
  rw [hsame, hcount]
  rcases revokedAt_revoke hn with hold | ⟨himported, rfl⟩
  · exact h n hold
  · exact ⟨hleft himported, le_rfl⟩

end Connection

namespace ServerEngine

/-- A device is unbound only when the connections that imported it have left their
reader loops. -/
def UnbindsUnused (s : ServerEngine) : Action → Prop
  | .unbindDevice busId => ∀ c ∈ s.conns, c.ImportedThrough busId → c.LeftLoop
  | _ => True

instance (s : ServerEngine) (a : Action) : Decidable (UnbindsUnused s a) :=
  decidable_of_iff
    ((match a with
      | .unbindDevice busId => decide (∀ c ∈ s.conns, c.ImportedThrough busId → c.LeftLoop)
      | _ => true) = true)
    (by cases a <;> simp [UnbindsUnused])

theorem stopped_moves {s s' : ServerEngine} {a : Action} (hok : All s.conns fun _ c => c.Ok)
    (h : All s.conns fun _ c => c.Stopped) (hguard : UnbindsUnused s a) (hmove : Moves s a s') :
    All s'.conns fun _ c => c.Stopped := by
  cases hmove with
  | bind => exact h
  | @unbind busId =>
      intro i c' hc'
      rw [List.getElem?_map] at hc'
      obtain ⟨c, hc, rfl⟩ := Option.map_eq_some_iff.mp hc'
      exact (h i c hc).revoke (hguard c (List.mem_of_getElem? hc))
  | unbindFail => exact h
  | expire => exact h
  | accept => exact h.append (Connection.stopped_of_revokedAt_eq_none rfl)
  | @discover _ i c input pc sent hc hearly =>
      have hleft := (hok i c hc).not_leftLoop_of_early hearly
      exact h.set (Connection.stopped_of_revokedAt_eq_none ((h i c hc).revokedAt_eq_none hleft))
  | @acquired i c now busId handle device sid isReconnect hc hpc =>
      have hleft := (hok i c hc).not_leftLoop_of_early (by rw [hpc]; trivial)
      exact h.set (Connection.stopped_of_revokedAt_eq_none ((h i c hc).revokedAt_eq_none hleft))
  | @rejected i c now busId err hc hpc =>
      have hleft := (hok i c hc).not_leftLoop_of_early (by rw [hpc]; trivial)
      exact h.set (Connection.stopped_of_revokedAt_eq_none ((h i c hc).revokedAt_eq_none hleft))
  | @replied i c busId handle device sid sent hc hpc =>
      have hleft := (hok i c hc).not_leftLoop_of_granted hpc
      exact h.set (Connection.stopped_of_revokedAt_eq_none ((h i c hc).revokedAt_eq_none hleft))
  | @replyLost i c busId handle device sid hc hpc =>
      have hleft := (hok i c hc).not_leftLoop_of_granted hpc
      exact h.set (Connection.stopped_of_revokedAt_eq_none ((h i c hc).revokedAt_eq_none hleft))
  | @session i c session session' a hc hsession hmoves =>
      apply h.set
      intro n hn
      obtain ⟨hleft, hle⟩ := h i c hc n hn
      rcases hleft with ⟨hnone, _⟩ | ⟨session₀, hmem, hpast⟩
      · rw [hsession] at hnone
        cases hnone
      · rw [hsession] at hmem
        cases hmem
        obtain ⟨hpast', hlength⟩ := hpast.moves hmoves
        refine ⟨Or.inr ⟨session', rfl, hpast'⟩, ?_⟩
        simp only [Connection.submissions, hsession] at hle ⊢
        rw [hlength]
        exact hle
  | @release i c session now busId handle sid timers hc hpc hsession hreturned =>
      apply h.set
      intro n hn
      obtain ⟨_, hle⟩ := h i c hc n hn
      exact ⟨Or.inr ⟨session, hsession, Or.inr (Or.inr hreturned)⟩, hle⟩

/-- **Unbinding revokes access.** In a run in which a device is unbound only when
the connections that imported it have left their reader loops, no submission read
after the unbinding is executed. -/
theorem unbind_revokes {timeoutSecs : UInt64} {actions : List Action} {s : ServerEngine}
    (hmeets : Transition.Meets step UnbindsUnused (start timeoutSecs) actions)
    (hrun : Transition.run step (start timeoutSecs) actions = some s) :
    ∀ c ∈ s.conns, ∀ n, c.revokedAt = some n → ¬ c.ExecutesFrom n := by
  have hboth := Transition.run_invariant
    (fun s : ServerEngine => (All s.conns fun _ c => c.Ok) ∧ All s.conns fun _ c => c.Stopped)
    (fun s a s' h hguard hstep =>
      ⟨ok_moves h.1 (moves_of_step hstep), stopped_moves h.1 h.2 hguard (moves_of_step hstep)⟩)
    ⟨all_conns_start timeoutSecs _, all_conns_start timeoutSecs _⟩ hmeets hrun
  intro c hc n hn
  obtain ⟨i, hi⟩ := List.mem_iff_getElem?.mp hc
  obtain ⟨_, hle⟩ := hboth.2 i c hi n hn
  rintro ⟨session, hsession, k, hk, t, ht, _⟩
  have hlt : k < session.tasks.length := (List.getElem?_eq_some_iff.mp ht).1
  simp only [Connection.submissions, hsession] at hle
  omega

/-! ### A session that outlives its binding -/

theorem length_importBusid : ([49, 45, 49] : List UInt8).length ≤ busidSize := by decide

/-- An import request for `1-1`, then what the client sends in the session. -/
def importStream (urbs : List UInt8) : List UInt8 :=
  writeOpMessage []
    (.reqImport { busid := BigEndian.Bytes.zeroPadded [49, 45, 49] length_importBusid }) ++ urbs

/-- The device is bound and imported by connection 0. -/
def imported (urbs : List UInt8) : List Action :=
  [.bindDevice "1-1" (.ok [ExportRegistry.sampleDevice]) (.ok ExportRegistry.sampleHandle),
    .accept (importStream urbs), .readOp 0, .acquire 0 0, .reply 0 true]

/-- The client has a transfer made, leaves, and the device is unbound when its session is
over. -/
def unboundAfterwards : List Action :=
  imported Session.oneSubmission ++
    [.session 0 .read, .session 0 .insert, .session 0 (.task 0 .poll),
      .session 0 (.task 0 .spawnBlocking), .session 0 (.task 0 .begin),
      .session 0 (.task 0 (.complete none)), .session 0 .read, .unbindDevice "1-1",
      .session 0 .cancelAll]

/-- The device is unbound and the client goes on: its session holds the handle, and reads
another submission. -/
def unboundMeanwhile : List Action :=
  imported Session.oneSubmission ++
    [.unbindDevice "1-1", .session 0 .read, .session 0 .insert, .session 0 (.task 0 .poll),
      .session 0 (.task 0 .spawnBlocking), .session 0 (.task 0 .begin)]

theorem unbind_revokes_unboundAfterwards :
    Transition.Meets step UnbindsUnused (start 30) unboundAfterwards ∧
    ∃ s, Transition.run step (start 30) unboundAfterwards = some s ∧
      ∃ c ∈ s.conns, c.revokedAt = some 1 ∧ c.ExecutesFrom 0 ∧ ¬ c.ExecutesFrom 1 := by
  have hmeets : Transition.Meets step UnbindsUnused (start 30) unboundAfterwards := by
    decide +kernel
  obtain ⟨s, hrun, c, hc, hrevoked, session, hsession, t, ht, hdone⟩ :=
    Transition.exists_run_of_any step (start 30) unboundAfterwards
      (fun s => ∃ c ∈ s.conns, c.revokedAt = some 1 ∧ ∃ session ∈ c.session,
        ∃ t ∈ session.tasks[0]?, t.blocking = some (.done none)) (by decide +kernel)
  have hexecutes : c.ExecutesFrom 0 :=
    ⟨session, hsession, 0, le_rfl, t, ht, Or.inr ⟨none, hdone⟩⟩
  exact ⟨hmeets, s, hrun, c, hc, hrevoked, hexecutes, unbind_revokes hmeets hrun c hc 1 hrevoked⟩

/-- The submission is read after the unbinding, and the transfer runs on the device. -/
theorem executes_after_unbind :
    ¬ ∀ (timeoutSecs : UInt64) (actions : List Action) (s : ServerEngine),
      Transition.run step (start timeoutSecs) actions = some s →
      ∀ c ∈ s.conns, ∀ n, c.revokedAt = some n → ¬ c.ExecutesFrom n := by
  intro hclaim
  obtain ⟨s, hrun, c, hc, hrevoked, session, hsession, t, ht, hbegun⟩ :=
    Transition.exists_run_of_any step (start 30) unboundMeanwhile
      (fun s => ∃ c ∈ s.conns, c.revokedAt = some 0 ∧ ∃ session ∈ c.session,
        ∃ t ∈ session.tasks[0]?, t.blocking = some .executing) (by decide +kernel)
  exact hclaim 30 unboundMeanwhile s hrun c hc 0 hrevoked
    ⟨session, hsession, 0, le_rfl, t, ht, Or.inl hbegun⟩

end ServerEngine

end Extender.Server
