/-
What a step of the server can do.

`Moves` lists the moves of `ServerEngine.step`, with what each needs and leaves. The discovery
phase of a connection is one kind of move: nothing in it touches the registry or a session,
whatever is read and whatever is answered. `moves_of_step` is the inversion every invariant of
the server starts from.

`run_registry` makes the registry of every run the result of the calls in its history, so that
what is known of all sequences of calls (`ExportLease`) is known of the registry of a server.
`Connection.Ok` is the other thing every invariant uses: a handler in its discovery phase has
nothing, one that was granted a device has obtained what its place says, and a handler that
has not returned has released nothing.

* `moves_of_step` — a step is one of the moves.
* `run_registry` — the registry is the result of its calls.
* `ok_moves` — the places of the handlers agree with what they hold.
-/

import Extender.Server.Engine
import Extender.Server.ExportLease
import Extender.Server.SessionMoves

namespace Extender.Server

open Indexed Extender.Protocol

/-- The handler has no device, and may still get one: it has not come to its acquisition. -/
def ConnPc.IsEarly : ConnPc → Prop
  | .accepted => True
  | .devlist => True
  | .importing _ => True
  | .refused => True
  | _ => False

namespace Connection

section Revoke

variable (busId : String) (c : Connection)

@[simp] theorem revoke_pc : (c.revoke busId).pc = c.pc := by
  unfold revoke
  grind

@[simp] theorem revoke_session : (c.revoke busId).session = c.session := by
  unfold revoke
  grind

@[simp] theorem revoke_obtained : (c.revoke busId).obtained = c.obtained := by
  unfold revoke
  grind

@[simp] theorem revoke_released : (c.revoke busId).released = c.released := by
  unfold revoke
  grind

end Revoke

end Connection

/-- What the handler's place says about what it holds: no device before its acquisition, the
granted one from then on, and nothing released before it returns. -/
structure Connection.Ok (c : Connection) : Prop where
  early : c.pc.IsEarly → c.obtained = none ∧ c.session = none
  granted : ∀ busId handle device sid, c.pc = .granted busId handle device sid →
    c.obtained = some (busId, sid) ∧ c.session = none
  running : ∀ busId handle sid, c.pc = .running busId handle sid → c.obtained = some (busId, sid)
  held : c.pc ≠ .returned → c.released = false

theorem Connection.Ok.released_of_early {c : Connection} (h : c.Ok) (hearly : c.pc.IsEarly) :
    c.released = false := by
  apply h.held
  intro hreturned
  rw [hreturned] at hearly
  exact hearly

namespace ServerEngine

/-- The moves of the server, one constructor for each thing a step can do, with the registry
call it makes. -/
inductive Moves (s : ServerEngine) : Action → ServerEngine → Prop where
  | bind {a : Action} {c : ExportRegistry.Call} {busId : String} :
      c.Binds busId → Moves s a (s.call c)
  | unbind {busId : String} {active : Option SessionId} :
      (s.registry.unbindDevice busId).1 = .ok active →
      Moves s (.unbindDevice busId)
        { s with
          registry := s.registry.apply (.unbindDevice busId)
          calls := s.calls ++ [.unbindDevice busId]
          conns := s.conns.map (Connection.revoke busId) }
  | unbindFail {busId : String} : Moves s (.unbindDevice busId) (s.call (.unbindDevice busId))
  | expire {timer : Nat} {busId : String} {sid : SessionId} :
      Moves s (.expire timer)
        { s with
          registry := s.registry.apply (.expireDisconnectedSession busId sid)
          calls := s.calls ++ [.expireDisconnectedSession busId sid]
          timers := s.timers.eraseIdx timer }
  | accept {input : List UInt8} :
      Moves s (.accept input) { s with conns := s.conns ++ [Connection.accept input] }
  | discover {a : Action} {i : Nat} (c : Connection) (input : List UInt8) (pc : ConnPc)
      (sent : List OpMessage) :
      s.conns[i]? = some c → c.pc.IsEarly → pc.IsEarly ∨ pc = .returned →
      Moves s a { s with conns := s.conns.set i { c with input, pc, sent } }
  | acquired {i : Nat} {c : Connection} {now : Instant} {busId : String} {handle : ManagedDevice}
      {device : UsbDevice} {sid : SessionId} {isReconnect : Bool} :
      s.conns[i]? = some c → c.pc = .importing busId →
      (s.registry.tryAcquireExt now busId).1 = .ok (handle, device, sid, isReconnect) →
      Moves s (.acquire i now)
        { s with
          registry := s.registry.apply (.tryAcquireExt now busId)
          calls := s.calls ++ [.tryAcquireExt now busId]
          conns := s.conns.set i
            { c with pc := .granted busId handle device sid, obtained := some (busId, sid) }
          grants := s.grants ++ [i] }
  | rejected {i : Nat} {c : Connection} {now : Instant} {busId : String} {err : ServerError} :
      s.conns[i]? = some c → c.pc = .importing busId →
      (s.registry.tryAcquireExt now busId).1 = .error err →
      Moves s (.acquire i now)
        { s with
          registry := s.registry.apply (.tryAcquireExt now busId)
          calls := s.calls ++ [.tryAcquireExt now busId]
          conns := s.conns.set i { c with pc := .refused } }
  | replied {i : Nat} {c : Connection} {busId : String} {handle : ManagedDevice}
      {device : UsbDevice} {sid : SessionId} {sent : List OpMessage} :
      s.conns[i]? = some c → c.pc = .granted busId handle device sid →
      Moves s (.reply i true)
        { s with
          conns := s.conns.set i
            { c with
              sent := sent
              session := some (.start c.input)
              pc := .running busId handle sid } }
  | replyLost {i : Nat} {c : Connection} {busId : String} {handle : ManagedDevice}
      {device : UsbDevice} {sid : SessionId} :
      s.conns[i]? = some c → c.pc = .granted busId handle device sid →
      Moves s (.reply i false) { s with conns := s.conns.set i { c with pc := .returned } }
  | session {i : Nat} {c : Connection} {session session' : Session} {a : Session.Action} :
      s.conns[i]? = some c → c.session = some session → Session.Moves session a session' →
      Moves s (.session i a) { s with conns := s.conns.set i { c with session := some session' } }
  | release {i : Nat} {c : Connection} {session : Session} {now : Instant} {busId : String}
      {handle : ManagedDevice} {sid : SessionId} {timers : List (String × SessionId)} :
      s.conns[i]? = some c → c.pc = .running busId handle sid → c.session = some session →
      session.reader = .returned →
      Moves s (.release i now)
        { s with
          registry := s.registry.apply (.release now busId sid)
          calls := s.calls ++ [.release now busId sid]
          conns := s.conns.set i { c with pc := .returned, released := true }
          timers := timers }

theorem dispatch_moves (s : ServerEngine) {a : Action} {i : Nat} {c : Connection}
    {rest : List UInt8} (hc : s.conns[i]? = some c) (hpc : c.pc = .accepted) (msg : OpMessage) :
    Moves s a (s.setConn i ({ c with input := rest }.dispatch msg)) := by
  have hearly : c.pc.IsEarly := by
    rw [hpc]
    trivial
  cases msg with
  | reqDevlist => exact .discover c rest .devlist c.sent hc hearly (Or.inl trivial)
  | reqImport req =>
      simp only [Connection.dispatch]
      split
      · exact .discover c rest (.importing (extractBusId req.busid)) c.sent hc hearly
          (Or.inl trivial)
      · exact .discover c rest .refused c.sent hc hearly (Or.inl trivial)
  | repDevlist m => exact .discover c rest .returned c.sent hc hearly (Or.inr rfl)
  | repImport m => exact .discover c rest .returned c.sent hc hearly (Or.inr rfl)

/-- **Inversion.** A step is one of the moves above; every invariant of the server is proved
by cases on them. -/
theorem moves_of_step {s s' : ServerEngine} {a : Action} (h : s.step a = some s') :
    Moves s a s' := by
  cases a with
  | bindDevice busId enumerated opened =>
      cases h
      exact .bind (Or.inl ⟨enumerated, opened, rfl⟩)
  | bindDeviceWith busId device handle =>
      cases h
      exact .bind (Or.inr ⟨device, handle, rfl⟩)
  | unbindDevice busId =>
      cases h
      unfold handleUnbindDevice
      split
      case h_1 => exact .unbindFail
      case h_2 active hok => exact .unbind hok
  | expire timer =>
      simp only [step] at h
      split at h
      case h_2 => cases h
      case h_1 busId sid htimer =>
        cases h
        exact .expire
  | accept input =>
      cases h
      exact .accept
  | readOp i =>
      simp only [step] at h
      split at h
      case h_2 => cases h
      case h_1 c hc =>
        split at h
        case isFalse => cases h
        case isTrue hpc =>
          split at h
          case h_1 msg rest hread =>
            cases h
            exact dispatch_moves s hc hpc msg
          case h_2 =>
            cases h
            exact .discover c c.input .returned _ hc (by rw [hpc]; trivial) (Or.inr rfl)
  | readOpFail i =>
      simp only [step] at h
      split at h
      case h_2 => cases h
      case h_1 c hc =>
        split at h
        case isFalse => cases h
        case isTrue hpc =>
          cases h
          exact .discover c c.input .returned _ hc (by rw [hpc]; trivial) (Or.inr rfl)
  | listDevices i written =>
      simp only [step] at h
      split at h
      case h_2 => cases h
      case h_1 c hc =>
        split at h
        case isFalse => cases h
        case isTrue hpc =>
          cases h
          unfold handleDevlist
          split
          all_goals exact .discover c c.input .returned _ hc (by rw [hpc]; trivial) (Or.inr rfl)
  | acquire i now =>
      simp only [step] at h
      split at h
      case h_2 => cases h
      case h_1 c hc =>
        split at h
        case h_2 => cases h
        case h_1 busId hpc =>
          cases h
          unfold acquire
          split
          case h_1 handle device sid isReconnect hok => exact .acquired hc hpc hok
          case h_2 err herr => exact .rejected hc hpc herr
  | reply i written =>
      simp only [step] at h
      split at h
      case h_2 => cases h
      case h_1 c hc =>
        split at h
        case h_1 busId handle device sid hpc =>
          cases written with
          | true =>
              cases h
              exact .replied hc hpc
          | false =>
              cases h
              exact .replyLost hc hpc
        case h_2 hpc =>
          cases h
          exact .discover c c.input .returned _ hc (by rw [hpc]; trivial) (Or.inr rfl)
        case h_3 => cases h
  | session i a =>
      simp only [step] at h
      split at h
      case h_2 => cases h
      case h_1 c hc =>
        split at h
        case h_2 => cases h
        case h_1 session hsession =>
          obtain ⟨session', hstep, rfl⟩ := Option.map_eq_some_iff.mp h
          exact .session hc hsession (Session.moves_of_step hstep)
  | release i now =>
      simp only [step] at h
      split at h
      case h_2 => cases h
      case h_1 c hc =>
        split at h
        case h_2 => cases h
        case h_1 busId handle sid session hpc hsession =>
          split at h
          case isFalse => cases h
          case isTrue hreturned =>
            cases h
            exact .release hc hpc hsession hreturned

/-! ### What holds in every run -/

theorem all_conns_start (timeoutSecs : UInt64) (Q : Nat → Connection → Prop) :
    All (start timeoutSecs).conns Q := by
  intro i c hc
  simp [start] at hc

/-- Each call of the history was made on the registry, and nothing else changed it. -/
theorem registry_moves {s s' : ServerEngine} {a : Action} {reg : ExportRegistry}
    (h : s.registry = reg.applyAll s.calls) (hmove : Moves s a s') :
    s'.registry = reg.applyAll s'.calls := by
  have hcall : ∀ c, s.registry.apply c = reg.applyAll (s.calls ++ [c]) := by
    intro c
    rw [ExportRegistry.applyAll_append, ← h]
    rfl
  cases hmove with
  | @bind _ c => exact hcall c
  | @unbind busId => exact hcall (.unbindDevice busId)
  | @unbindFail busId => exact hcall (.unbindDevice busId)
  | @expire timer busId sid => exact hcall (.expireDisconnectedSession busId sid)
  | @acquired i c now busId => exact hcall (.tryAcquireExt now busId)
  | @rejected i c now busId => exact hcall (.tryAcquireExt now busId)
  | @release i c session now busId handle sid => exact hcall (.release now busId sid)
  | accept => exact h
  | discover => exact h
  | replied => exact h
  | replyLost => exact h
  | session => exact h

/-- The registry of a server is the result of the calls of its history, so what holds of every
sequence of calls holds of it. -/
theorem run_registry {timeoutSecs : UInt64} {actions : List Action} {s : ServerEngine}
    (hrun : Transition.run step (start timeoutSecs) actions = some s) :
    s.registry = (ExportRegistry.withSessionTimeout timeoutSecs).applyAll s.calls :=
  Transition.run_invariant_of_step
    (fun s : ServerEngine =>
      s.registry = (ExportRegistry.withSessionTimeout timeoutSecs).applyAll s.calls)
    (fun _ _ _ h hstep => registry_moves h (moves_of_step hstep)) rfl hrun

/-- The places of the handlers agree with what they hold, and a step keeps it so. -/
theorem ok_moves {s s' : ServerEngine} {a : Action} (h : All s.conns fun _ c => c.Ok)
    (hmove : Moves s a s') : All s'.conns fun _ c => c.Ok := by
  cases hmove with
  | bind => exact h
  | unbind =>
      apply h.map
      intro i c hok
      exact ⟨by simpa using hok.early, by simpa using hok.granted, by simpa using hok.running,
        by simpa using hok.held⟩
  | unbindFail => exact h
  | expire => exact h
  | accept =>
      refine h.append ⟨fun _ => ⟨rfl, rfl⟩, ?_, ?_, fun _ => rfl⟩
      · intro busId handle device sid hpc
        cases hpc
      · intro busId handle sid hpc
        cases hpc
  | @discover _ i c input pc sent hc hearly hpc =>
      have hok := h i c hc
      refine h.set ⟨fun _ => hok.early hearly, ?_, ?_, fun _ => hok.released_of_early hearly⟩
      · rintro busId handle device sid rfl
        simp [ConnPc.IsEarly] at hpc
      · rintro busId handle sid rfl
        simp [ConnPc.IsEarly] at hpc
  | @acquired i c now busId handle device sid isReconnect hc hpc =>
      have hok := h i c hc
      have hearly := hok.early (by rw [hpc]; trivial)
      refine h.set ⟨fun he => absurd he (by simp [ConnPc.IsEarly]), ?_, ?_,
        fun _ => hok.held (by simp [hpc])⟩
      · intro busId' handle' device' sid' he
        cases he
        exact ⟨rfl, hearly.2⟩
      · intro busId' handle' sid' he
        cases he
  | @rejected i c now busId err hc hpc =>
      have hok := h i c hc
      refine h.set ⟨fun _ => hok.early (by rw [hpc]; trivial), ?_, ?_,
        fun _ => hok.held (by simp [hpc])⟩
      · intro busId' handle device sid he
        cases he
      · intro busId' handle sid he
        cases he
  | @replied i c busId handle device sid sent hc hpc =>
      have hok := h i c hc
      refine h.set ⟨fun he => absurd he (by simp [ConnPc.IsEarly]), ?_, ?_,
        fun _ => hok.held (by simp [hpc])⟩
      · intro busId' handle' device' sid' he
        cases he
      · intro busId' handle' sid' he
        cases he
        exact (hok.granted busId handle device sid hpc).1
  | replyLost =>
      refine h.set ⟨fun he => absurd he (by simp [ConnPc.IsEarly]), ?_, ?_,
        fun he => absurd rfl he⟩
      · intro busId handle device sid he
        cases he
      · intro busId handle sid he
        cases he
  | @session i c session session' a hc hsession =>
      have hok := h i c hc
      refine h.set ⟨?_, ?_, hok.running, hok.held⟩
      · intro hearly
        rw [(hok.early hearly).2] at hsession
        cases hsession
      · intro busId handle device sid hpc
        rw [(hok.granted busId handle device sid hpc).2] at hsession
        cases hsession
  | release =>
      refine h.set ⟨fun he => absurd he (by simp [ConnPc.IsEarly]), ?_, ?_,
        fun he => absurd rfl he⟩
      · intro busId handle device sid he
        cases he
      · intro busId handle sid he
        cases he

end ServerEngine

end Extender.Server
