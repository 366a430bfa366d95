/-
What a connection leaves behind when its handler returns.

`handle_connection` gives the session id it obtained to `release` after the session has run.
Between the acquisition and the session, `handle_import` writes its reply, and a write that
fails returns through `?` with the entry still active: the device is in use by nobody until it
is unbound (`strands_after_lost_reply`). With that write done the handler always reaches
`release`.

`RepliesWritten` is the condition on the steps of a run that leaves the defect out; it speaks
of the write of a reply that grants an import, and of no other. Under it every handler that
has returned is discharged of its session, and every session that is active on a device
belongs to a handler that still runs (`Owned`). A handler that never returns, because it waits
for its client or has panicked, is one that still runs; nothing is promised for it.

The exception in `Owned` is a device whose descriptor does not convert: the acquisition that
marked it returned an error, so no connection obtained the id, and the entry stays as it is
(see `Acquisition`).

* `returns_released` — no device is stranded, in every such run.
* `strands_after_lost_reply` — one client that leaves before its reply, and a device that
  stays in use.
-/

import Extender.Server.Ledger
import Extender.Server.Revocation

namespace Extender.Server

open Indexed Extender.Protocol

/-- The handler is about to write the reply that grants an import: the registry has marked the
device already. -/
def ConnPc.IsGranted : ConnPc → Prop
  | .granted _ _ _ _ => True
  | _ => False

instance : DecidablePred ConnPc.IsGranted
  | .accepted => isFalse id
  | .devlist => isFalse id
  | .importing _ => isFalse id
  | .granted _ _ _ _ => isTrue trivial
  | .refused => isFalse id
  | .running _ _ _ => isFalse id
  | .returned => isFalse id

namespace Connection

/-- A handler that has returned has released what it obtained, in one of `calls`. -/
def Discharged (calls : List ExportRegistry.Call) (c : Connection) : Prop :=
  ∀ busId sid, c.pc = .returned → c.obtained = some (busId, sid) →
    c.released = true ∧ ∃ now, .release now busId sid ∈ calls

/-- The handler obtained this session and still runs; it will come to its release unless it
fails before. -/
def Owns (busId : String) (sid : SessionId) (c : Connection) : Prop :=
  c.obtained = some (busId, sid) ∧ c.pc ≠ .returned

theorem Discharged.append {calls : List ExportRegistry.Call} {c : Connection}
    (h : c.Discharged calls) (more : List ExportRegistry.Call) : c.Discharged (calls ++ more) := by
  intro busId sid hpc hobtained
  obtain ⟨hreleased, now, hmem⟩ := h busId sid hpc hobtained
  exact ⟨hreleased, now, List.mem_append_left more hmem⟩

theorem discharged_of_ne_returned {calls : List ExportRegistry.Call} {c : Connection}
    (h : c.pc ≠ .returned) : c.Discharged calls :=
  fun _ _ hpc => absurd hpc h

end Connection

namespace ServerEngine

/-- The write of a reply that grants an import does not fail. This is about the step, in the
state in which it is made. -/
def RepliesWritten (s : ServerEngine) : Action → Prop
  | .reply i false => ∀ c ∈ s.conns[i]?, ¬ c.pc.IsGranted
  | _ => True

instance (s : ServerEngine) (a : Action) : Decidable (RepliesWritten s a) :=
  decidable_of_iff
    ((match a with
      | .reply i false => decide (∀ c ∈ s.conns[i]?, ¬ c.pc.IsGranted)
      | _ => true) = true)
    (by
      cases a with
      | reply i written => cases written <;> simp [RepliesWritten]
      | _ => simp [RepliesWritten])

/-- The session active on a device was obtained by a connection whose handler still
runs. The exception is a device whose descriptor does not convert: the acquisition
that marked it returned an error, so nobody obtained the id. -/
def Owned (s : ServerEngine) : Prop :=
  ∀ busId e sid, s.registry.devices.lookup busId = some e → e.sessionState = some (.active sid) →
    (∃ i, At s.conns i (Connection.Owns busId sid)) ∨
      ∃ err, e.device.toProtocolDevice = .error err

/-! ### What one step keeps -/

section Step

variable {s s' : ServerEngine} {a : Action}

theorem discharged_moves (hok : All s.conns fun _ c => c.Ok)
    (h : All s.conns fun _ c => c.Discharged s.calls) (hguard : RepliesWritten s a)
    (hmove : Moves s a s') : All s'.conns fun _ c => c.Discharged s'.calls := by
  have hcall : ∀ calls, All s.conns fun _ c => c.Discharged (s.calls ++ calls) :=
    fun calls => h.imp fun _ c _ hc => hc.append calls
  cases hmove with
  | bind => exact hcall _
  | unbind =>
      apply (hcall _).map
      intro i c hc
      simpa [Connection.Discharged] using hc
  | unbindFail => exact hcall _
  | expire => exact hcall _
  | accept => exact h.append (Connection.discharged_of_ne_returned (by simp [Connection.accept]))
  | @discover _ i c input pc sent hc hearly =>
      apply h.set
      intro busId sid _ hobtained
      rw [((hok i c hc).early hearly).1] at hobtained
      cases hobtained
  | acquired => exact (hcall _).set (Connection.discharged_of_ne_returned (by simp))
  | rejected => exact (hcall _).set (Connection.discharged_of_ne_returned (by simp))
  | replied => exact h.set (Connection.discharged_of_ne_returned (by simp))
  | @replyLost i c busId handle device sid hc hpc =>
      refine absurd ?_ (hguard c hc)
      rw [hpc]
      trivial
  | @session i c session session' a hc =>
      apply h.set
      intro busId sid hpc hobtained
      exact h i c hc busId sid hpc hobtained
  | @release i c session now busId handle sid timers hc hpc =>
      apply (hcall _).set
      intro busId' sid' _ hobtained
      rw [(hok i c hc).running busId handle sid hpc] at hobtained
      cases hobtained
      exact ⟨rfl, now, List.mem_append_right _ List.mem_cons_self⟩

/-- A call that takes no session id and lets every owner go on keeps every recorded session
owned. -/
theorem Owned.call (h : s.Owned) (hreg : s.registry.Consistent) (c : ExportRegistry.Call)
    (hregistry : s'.registry = s.registry.apply c)
    (hacquire : ∀ now busId, c ≠ .tryAcquireExt now busId)
    (howns : ∀ i busId sid, (s.registry.apply c).leaseOf busId = some (.held sid) →
      At s.conns i (Connection.Owns busId sid) → At s'.conns i (Connection.Owns busId sid)) :
    s'.Owned := by
  intro busId e sid hlookup hactive
  rw [hregistry] at hlookup
  have hheld := ExportRegistry.leaseOf_of_active hlookup hactive
  rcases ExportRegistry.active_of_apply hreg hlookup hactive with hold | ⟨now, _, hc, _⟩
  · exact (h busId e sid hold hactive).imp_left fun ⟨i, hi⟩ => ⟨i, howns i busId sid hheld hi⟩
  · exact absurd hc (hacquire now busId)

/-- A step that leaves the registry and lets every owner go on. -/
theorem Owned.same (h : s.Owned) (hregistry : s'.registry = s.registry)
    (howns : ∀ i busId sid, At s.conns i (Connection.Owns busId sid) →
      At s'.conns i (Connection.Owns busId sid)) : s'.Owned := by
  intro busId e sid hlookup hactive
  rw [hregistry] at hlookup
  exact (h busId e sid hlookup hactive).imp_left fun ⟨i, hi⟩ => ⟨i, howns i busId sid hi⟩

theorem owned_moves (hreg : s.registry.Consistent) (hok : All s.conns fun _ c => c.Ok)
    (h : s.Owned) (hguard : RepliesWritten s a) (hmove : Moves s a s') : s'.Owned := by
  cases hmove with
  | @bind _ c busId hbinds =>
      refine h.call hreg c rfl ?_ fun _ _ _ _ hi => hi
      rintro now busId rfl
      rcases hbinds with ⟨_, _, hc⟩ | ⟨_, _, hc⟩
      · cases hc
      · cases hc
  | @unbind busId =>
      apply h.call hreg (.unbindDevice busId) rfl (by simp)
      rintro i b sid _ ⟨c, hc, howns⟩
      refine ⟨c.revoke busId, ?_, by simpa [Connection.Owns] using howns⟩
      rw [List.getElem?_map, hc]
      rfl
  | @unbindFail busId =>
      exact h.call hreg (.unbindDevice busId) rfl (by simp) fun _ _ _ _ hi => hi
  | @expire timer busId sid =>
      exact h.call hreg (.expireDisconnectedSession busId sid) rfl (by simp) fun _ _ _ _ hi => hi
  | accept => exact h.same rfl fun i busId sid hi => hi.append _
  | @discover _ i c input pc sent hc hearly =>
      refine h.same rfl fun j busId sid hj => hj.set hc ?_
      rintro ⟨hobtained, _⟩
      rw [((hok i c hc).early hearly).1] at hobtained
      cases hobtained
  | @acquired i c now busId handle device sid isReconnect hc hpc hacquired =>
      intro b e sid' hlookup hactive
      rcases ExportRegistry.active_of_apply hreg hlookup hactive with
        hold | ⟨now', e₀, hcall, _, _, hfresh, _⟩
      · refine (h b e sid' hold hactive).imp_left fun ⟨j, hj⟩ => ⟨j, hj.set hc ?_⟩
        rintro ⟨hobtained, _⟩
        rw [((hok i c hc).early (by rw [hpc]; trivial)).1] at hobtained
        cases hobtained
      · cases hcall
        have hsession := (ExportRegistry.acquired_session hreg hacquired).2
        refine Or.inl ⟨i, At.set_self hc ⟨?_, by simp⟩⟩
        rw [hfresh, ← hsession]
  | @rejected i c now busId err hc hpc herr =>
      intro b e sid' hlookup hactive
      rcases ExportRegistry.active_of_apply hreg hlookup hactive with
        hold | ⟨now', e₀, hcall, hlookup₀, hdevice, _, htakes⟩
      · refine (h b e sid' hold hactive).imp_left fun ⟨j, hj⟩ => ⟨j, hj.set hc ?_⟩
        exact fun howns => ⟨howns.1, by simp⟩
      · cases hcall
        rw [← hdevice]
        exact Or.inr (ExportRegistry.not_converts_of_error hreg hlookup₀ herr htakes)
  | @replied i c busId handle device sid sent hc =>
      exact h.same rfl fun j b sid' hj => hj.set hc fun howns => ⟨howns.1, by simp⟩
  | @replyLost i c busId handle device sid hc hpc =>
      refine absurd ?_ (hguard c hc)
      rw [hpc]
      trivial
  | @session i c session session' a hc =>
      exact h.same rfl fun j b sid hj => hj.set hc fun howns => howns
  | @release i c session now busId handle sid timers hc hpc =>
      apply h.call hreg (.release now busId sid) rfl (by simp)
      intro j b sid' hheld hj
      apply hj.set hc
      -- The handler that returns is not the owner: what it held is free now.
      rintro ⟨hobtained, _⟩
      rw [(hok i c hc).running busId handle sid hpc] at hobtained
      cases hobtained
      exact absurd hheld (ExportRegistry.leaseOf_release_ne_held hreg now sid)

/-- As long as ids do not repeat, a session active on a device is the one its holder
obtained. -/
theorem tidy_moves {reg : ExportRegistry} (hreg : reg.Consistent) (hnum : reg.Numbered 0)
    (hregistry : s.registry = reg.applyAll s.calls) (hok : All s.conns fun _ c => c.Ok)
    (h : reg.acquisitions s.calls < 2 ^ 64 → s.ledger.Tidy (reg.acquisitions s.calls))
    (hmove : Moves s a s') (hlt : reg.acquisitions s'.calls < 2 ^ 64) :
    s'.ledger.Tidy (reg.acquisitions s'.calls) := by
  obtain ⟨calls, hcalls, hledger, _⟩ := hmove.ledger hok
  have hcount : reg.acquisitions s'.calls =
      reg.acquisitions s.calls + s.registry.acquisitions calls := by
    rw [hcalls, ExportRegistry.acquisitions_append, hregistry]
  rw [hcount] at hlt ⊢
  have hbefore : reg.acquisitions s.calls < 2 ^ 64 := by omega
  have hnumbered : s.registry.Numbered (reg.acquisitions s.calls) := by
    have happlied := hnum.applyAll hreg s.calls (by omega)
    rwa [Nat.zero_add, ← hregistry] at happlied
  refine (h hbefore).moves ?_ hnumbered hlt hledger
  show s.registry.Consistent
  rw [hregistry]
  exact hreg.applyAll s.calls

end Step

/-! ### What holds in every run -/

/-- What a run that meets `RepliesWritten` keeps: every recorded session has an owner or was
released, and who has returned has released. -/
structure Unstranded (reg : ExportRegistry) (s : ServerEngine) : Prop where
  registry : s.registry = reg.applyAll s.calls
  ok : All s.conns fun _ c => c.Ok
  discharged : All s.conns fun _ c => c.Discharged s.calls
  owned : s.Owned
  tidy : reg.acquisitions s.calls < 2 ^ 64 → s.ledger.Tidy (reg.acquisitions s.calls)

theorem Unstranded.moves {reg : ExportRegistry} (hreg : reg.Consistent) (hnum : reg.Numbered 0)
    {s s' : ServerEngine} {a : Action} (h : s.Unstranded reg) (hguard : RepliesWritten s a)
    (hmove : Moves s a s') : s'.Unstranded reg := by
  have hconsistent : s.registry.Consistent := by
    rw [h.registry]
    exact hreg.applyAll s.calls
  exact
    { registry := registry_moves h.registry hmove
      ok := ok_moves h.ok hmove
      discharged := discharged_moves h.ok h.discharged hguard hmove
      owned := owned_moves hconsistent h.ok h.owned hguard hmove
      tidy := tidy_moves hreg hnum h.registry h.ok h.tidy hmove }

theorem unstranded_start (timeoutSecs : UInt64) :
    (start timeoutSecs).Unstranded (.withSessionTimeout timeoutSecs) := by
  have howned : (start timeoutSecs).Owned := by
    intro busId e sid hlookup
    simp [start, ExportRegistry.withSessionTimeout] at hlookup
  have htidy : (start timeoutSecs).ledger.Tidy 0 := by
    constructor
    · intro i h hi
      simp [start, ledger] at hi
    · intro b sid hheld
      simp [start, ledger, ExportRegistry.leaseOf, ExportRegistry.withSessionTimeout] at hheld
  exact
    { registry := rfl
      ok := all_conns_start timeoutSecs _
      discharged := all_conns_start timeoutSecs _
      owned := howned
      tidy := fun _ => htidy }

/-- **No device is stranded.** In a run in which no reply that grants an import fails
to be written: a handler that has returned has given the session it obtained to
`release`; a session active on a device belongs to a handler that still runs, unless
the device's descriptor does not convert; and as long as the session ids have not
wrapped, no entry is active for a session of a handler that has returned. -/
theorem returns_released {timeoutSecs : UInt64} {actions : List Action} {s : ServerEngine}
    (hmeets : Transition.Meets step RepliesWritten (start timeoutSecs) actions)
    (hrun : Transition.run step (start timeoutSecs) actions = some s) :
    (∀ c ∈ s.conns, c.pc = .returned → ∀ busId sid, c.obtained = some (busId, sid) →
      (∃ now, .release now busId sid ∈ s.calls) ∧
      ((ExportRegistry.withSessionTimeout timeoutSecs).acquisitions s.calls < 2 ^ 64 →
        ∀ b e, s.registry.devices.lookup b = some e → e.sessionState ≠ some (.active sid))) ∧
    ∀ busId e sid, s.registry.devices.lookup busId = some e →
      e.sessionState = some (.active sid) →
      (∃ c ∈ s.conns, c.obtained = some (busId, sid) ∧ c.pc ≠ .returned) ∨
        ∃ err, e.device.toProtocolDevice = .error err := by
  have hinv := Transition.run_invariant
    (Unstranded (.withSessionTimeout timeoutSecs))
    (fun s a s' h hguard hstep =>
      h.moves (ExportRegistry.consistent_withSessionTimeout timeoutSecs)
        (ExportRegistry.numbered_withSessionTimeout timeoutSecs) hguard (moves_of_step hstep))
    (unstranded_start timeoutSecs) hmeets hrun
  constructor
  · intro c hc hpc busId sid hobtained
    obtain ⟨i, hi⟩ := List.mem_iff_getElem?.mp hc
    obtain ⟨hreleased, hcalled⟩ := hinv.discharged i c hi busId sid hpc hobtained
    refine ⟨hcalled, ?_⟩
    intro hlt b e hlookup hactive
    have hheld := ExportRegistry.leaseOf_of_active hlookup hactive
    obtain ⟨_, hkept⟩ :=
      (hinv.tidy hlt).holder b sid hheld i c.holding (holdings_getElem? hi) busId hobtained
    rw [show c.holding.released = c.released from rfl, hreleased] at hkept
    cases hkept
  · intro busId e sid hlookup hactive
    apply (hinv.owned busId e sid hlookup hactive).imp_left
    rintro ⟨i, c, hi, hobtained, hpc⟩
    exact ⟨c, List.mem_of_getElem? hi, hobtained, hpc⟩

/-! ### A reply that is lost -/

/-- The client imports the device and leaves; the handler returns. -/
def importedAndLeft : List Action :=
  imported [] ++ [.session 0 .read, .session 0 .cancelAll, .session 0 .close, .session 0 .join,
    .release 0 5]

/-- The client is gone when the reply is written: the `?` on the write returns before the
release. -/
def goneBeforeReply : List Action :=
  [.bindDevice "1-1" (.ok [ExportRegistry.sampleDevice]) (.ok ExportRegistry.sampleHandle),
    .accept (importStream []), .readOp 0, .acquire 0 0, .reply 0 false]

theorem returns_released_importedAndLeft :
    Transition.Meets step RepliesWritten (start 30) importedAndLeft ∧
    ∃ s, Transition.run step (start 30) importedAndLeft = some s ∧
      ∃ c ∈ s.conns, c.pc = .returned ∧ c.obtained = some ("1-1", 1) ∧
        (∃ now, .release now "1-1" 1 ∈ s.calls) ∧
        ∀ b e, s.registry.devices.lookup b = some e → e.sessionState ≠ some (.active 1) := by
  have hmeets : Transition.Meets step RepliesWritten (start 30) importedAndLeft := by
    decide +kernel
  obtain ⟨s, hrun, hlt, c, hc, hpc, hobtained⟩ :=
    Transition.exists_run_of_any step (start 30) importedAndLeft
      (fun s => (ExportRegistry.withSessionTimeout 30).acquisitions s.calls < 2 ^ 64 ∧
        ∃ c ∈ s.conns, c.pc = .returned ∧ c.obtained = some ("1-1", 1)) (by decide +kernel)
  obtain ⟨hcalled, hfree⟩ := (returns_released hmeets hrun).1 c hc hpc "1-1" 1 hobtained
  exact ⟨hmeets, s, hrun, c, hc, hpc, hobtained, hcalled, hfree hlt⟩

/-- The handler has returned, and the device is still active for its session, which nobody
will release. -/
theorem strands_after_lost_reply :
    ¬ ∀ (timeoutSecs : UInt64) (actions : List Action) (s : ServerEngine),
      Transition.run step (start timeoutSecs) actions = some s →
      ∀ c ∈ s.conns, c.pc = .returned → ∀ busId sid, c.obtained = some (busId, sid) →
        ∀ b e, s.registry.devices.lookup b = some e → e.sessionState ≠ some (.active sid) := by
  intro hclaim
  obtain ⟨s, hrun, ⟨c, hc, hpc, hobtained⟩, e, hlookup, hactive⟩ :=
    Transition.exists_run_of_any step (start 30) goneBeforeReply
      (fun s => (∃ c ∈ s.conns, c.pc = .returned ∧ c.obtained = some ("1-1", 1)) ∧
        ∃ e ∈ s.registry.devices.lookup "1-1", e.sessionState = some (.active 1))
      (by decide +kernel)
  exact hclaim 30 goneBeforeReply s hrun c hc hpc "1-1" 1 hobtained "1-1" e hlookup hactive

end ServerEngine

end Extender.Server
