/-
Two clients of one device, one after the other.

The registry grants a device only when the connection that had it has released it, and a
connection releases it when its session has ended. But a session ends by aborting its tasks,
and an aborted task leaves its closure to the blocking pool: a transfer of the first client
may still be running when the second is granted the device (`executes_after_grant`).

The clients are isolated when the sessions that are released have nothing left in the pool.
`ReleasesDrained` is that condition, on the state before each release; a session that is over
and has nothing in the pool stays so (`Over.moves`), since its reader spawns nothing more and
its tasks are done or dropped. Before the release the registry keeps the device from being
granted; after it, nothing of the old session moves.

* `sessions_isolated` — in every run without an unbind of the device under that condition, no
  transfer of an earlier client executes once the device is another's.
* `executes_after_grant` — a client that leaves while a transfer is running.
-/

import Extender.Server.Ledger
import Extender.Server.Revocation

namespace Extender.Server

open Indexed Extender.Protocol

namespace Task

/-- No transfer of the task runs, and none will: nothing of it is in the blocking
pool and it is past the point where it puts its closure there, or never gets to it. -/
def Quiet (t : Task) : Prop :=
  t.blocking ≠ some .queued ∧ t.blocking ≠ some .executing ∧ (t.pc = .spawned → t.Silenced)

instance (t : Task) : Decidable t.Silenced :=
  inferInstanceAs (Decidable (t.aborted = true ∧ t.polled = false))

instance (t : Task) : Decidable t.Quiet :=
  inferInstanceAs (Decidable (_ ∧ _ ∧ (_ → _)))

theorem Quiet.move {t t' : Task} {m : Move} (hq : t.Quiet) (h : t.move m = some t') :
    t'.Quiet := by
  unfold Quiet Silenced at *
  cases m <;> grind [Task.move]

theorem Quiet.advance {t : Task} (hq : t.Quiet) {pc : TaskPc} (hpc : pc ≠ .spawned)
    (polled : Bool) : Quiet { t with pc, polled } :=
  ⟨hq.1, hq.2.1, fun h => absurd h hpc⟩

end Task

namespace Session

/-- The session has ended and nothing of it runs any more, neither a task nor a closure on the
device. -/
def Over (s : Session) : Prop := s.reader = .returned ∧ All s.tasks fun _ t => t.Quiet

theorem Over.moves {s s' : Session} {a : Action} (h : s.Over) (hmove : Moves s a s') :
    s'.Over := by
  obtain ⟨hreader, htasks⟩ := h
  cases hmove with
  | readSubmit hready => simp [hreader] at hready
  | readUnlink hready => simp [hreader] at hready
  | readOther hready => simp [hreader] at hready
  | readError _ hready => simp [hreader] at hready
  | insert hinserting => simp [hreader] at hinserting
  | unlinkFound hunlinking => simp [hreader] at hunlinking
  | unlinkMissing hunlinking => simp [hreader] at hunlinking
  | replyClosed hreplying => simp [hreader] at hreplying
  | replyPut hreplying => simp [hreader] at hreplying
  | cancelAll hcleanup => simp [hreader] at hcleanup
  | join => exact ⟨rfl, htasks⟩
  | @task i t t' m ht htask => exact ⟨hreader, htasks.set ((htasks i t ht).move htask)⟩
  | @sendClosed i t answer ht =>
      exact ⟨hreader, htasks.set ((htasks i t ht).advance (by simp) t.polled)⟩
  | @sendPut i t answer ht =>
      exact ⟨hreader, htasks.set ((htasks i t ht).advance (by simp) t.polled)⟩
  | @remove i t ht => exact ⟨hreader, htasks.set ((htasks i t ht).advance (by simp) false)⟩
  | recv => exact ⟨hreader, htasks⟩
  | write => exact ⟨hreader, htasks⟩
  | writeFail => exact ⟨hreader, htasks⟩
  | close => exact ⟨hreader, htasks⟩

end Session

namespace Connection

/-- The connection was granted `busId`. -/
def Imports (busId : String) (c : Connection) : Prop := Ledger.Imports busId c.holding

instance (busId : String) : DecidablePred (Imports busId) :=
  fun c => inferInstanceAs (Decidable (Ledger.Imports busId c.holding))

/-- Some transfer of the session is on a thread of the blocking pool: it is with the
device. -/
def Executes (c : Connection) : Prop :=
  ∃ session ∈ c.session, ∃ t ∈ session.tasks, t.blocking = some .executing

/-- Once `busId` is released, nothing of the session runs any more: the release came after its
last transfer. -/
def Drained (busId : String) (c : Connection) : Prop :=
  c.Imports busId → c.released = true → ∃ session, c.session = some session ∧ session.Over

theorem drained_of_released_eq_false {busId : String} {c : Connection}
    (h : c.released = false) : c.Drained busId := by
  intro _ hreleased
  rw [h] at hreleased
  cases hreleased

end Connection

namespace ServerEngine

/-- A connection releases `busId` only when no transfer of its session is queued or
executing in the blocking pool, and no task can still put one there. -/
def ReleasesDrained (busId : String) (s : ServerEngine) : Action → Prop
  | .release i _ => ∀ c ∈ s.conns[i]?, c.Imports busId → ∀ session ∈ c.session,
      ∀ t ∈ session.tasks, t.Quiet
  | _ => True

instance (busId : String) (s : ServerEngine) (a : Action) :
    Decidable (ReleasesDrained busId s a) :=
  decidable_of_iff
    ((match a with
      | .release i _ => decide (∀ c ∈ s.conns[i]?, c.Imports busId → ∀ session ∈ c.session,
          ∀ t ∈ session.tasks, t.Quiet)
      | _ => true) = true)
    (by cases a <;> simp [ReleasesDrained])

section Step

variable {s s' : ServerEngine} {a : Action} {busId : String}

theorem drained_moves (hok : All s.conns fun _ c => c.Ok)
    (h : All s.conns fun _ c => c.Drained busId) (hguard : ReleasesDrained busId s a)
    (hmove : Moves s a s') : All s'.conns fun _ c => c.Drained busId := by
  cases hmove with
  | bind => exact h
  | unbind =>
      apply h.map
      intro i c hc
      simpa [Connection.Drained, Connection.Imports, Connection.holding] using hc
  | unbindFail => exact h
  | expire => exact h
  | accept => exact h.append (Connection.drained_of_released_eq_false rfl)
  | @discover _ i c input pc sent hc hearly =>
      have hreleased := (hok i c hc).released_of_early hearly
      exact h.set (Connection.drained_of_released_eq_false hreleased)
  | @acquired i c now b handle device sid isReconnect hc hpc =>
      exact h.set (Connection.drained_of_released_eq_false ((hok i c hc).held (by simp [hpc])))
  | @rejected i c now b err hc hpc =>
      exact h.set (Connection.drained_of_released_eq_false ((hok i c hc).held (by simp [hpc])))
  | @replied i c b handle device sid sent hc hpc =>
      exact h.set (Connection.drained_of_released_eq_false ((hok i c hc).held (by simp [hpc])))
  | @replyLost i c b handle device sid hc hpc =>
      exact h.set (Connection.drained_of_released_eq_false ((hok i c hc).held (by simp [hpc])))
  | @session i c session session' a hc hsession hmoves =>
      apply h.set
      intro himports hreleased
      obtain ⟨session₀, hsession₀, hover⟩ := h i c hc himports hreleased
      rw [hsession] at hsession₀
      cases hsession₀
      exact ⟨session', rfl, hover.moves hmoves⟩
  | @release i c session now b handle sid timers hc hpc hsession hreturned =>
      apply h.set
      intro himports _
      refine ⟨session, hsession, hreturned, ?_⟩
      intro k t ht
      exact hguard c hc himports session hsession t (List.mem_of_getElem? ht)

end Step

/-- What a run keeps that does not unbind `busId` and releases it only when drained: one
connection at most holds it, and those that have released it are drained. -/
structure Isolated (busId : String) (s : ServerEngine) : Prop where
  consistent : s.registry.Consistent
  ok : All s.conns fun _ c => c.Ok
  exclusive : s.ledger.Exclusive busId
  drained : All s.conns fun _ c => c.Drained busId

theorem Isolated.moves {busId : String} {s s' : ServerEngine} {a : Action} (h : s.Isolated busId)
    (hguard : ReleasesDrained busId s a) (hbound : a ≠ .unbindDevice busId)
    (hmove : Moves s a s') : s'.Isolated busId := by
  obtain ⟨calls, _, hledger, hunbinds⟩ := hmove.ledger h.ok
  have hregistry : s'.registry = s.registry.applyAll calls := hledger.registry
  exact
    { consistent := hregistry ▸ h.consistent.applyAll calls
      ok := ok_moves h.ok hmove
      exclusive := h.exclusive.moves h.consistent (fun hmem => hbound (hunbinds busId hmem)) hledger
      drained := drained_moves h.ok h.drained hguard hmove }

theorem isolated_start (timeoutSecs : UInt64) (busId : String) :
    (start timeoutSecs).Isolated busId := by
  have hexclusive : (start timeoutSecs).ledger.Exclusive busId := by
    refine ⟨fun i h hi => ?_, fun i j hi _ => ?_, List.Pairwise.nil, fun i hi => ?_⟩
    · simp [start, ledger] at hi
    · simp [start, ledger, At] at hi
    · simp [start, ledger] at hi
  exact
    { consistent := ExportRegistry.consistent_withSessionTimeout timeoutSecs
      ok := all_conns_start timeoutSecs _
      exclusive := hexclusive
      drained := all_conns_start timeoutSecs _ }

/-- **Session isolation.** In a run that does not unbind `busId` and in which it is
released only by sessions that have nothing left in the blocking pool: of two
connections that were granted it, no transfer of the earlier one executes. -/
theorem sessions_isolated {timeoutSecs : UInt64} {busId : String} {actions : List Action}
    {s : ServerEngine} (hbound : .unbindDevice busId ∉ actions)
    (hmeets : Transition.Meets step (ReleasesDrained busId) (start timeoutSecs) actions)
    (hrun : Transition.run step (start timeoutSecs) actions = some s) :
    s.grants.Pairwise fun i j =>
      At s.conns i (Connection.Imports busId) → At s.conns j (Connection.Imports busId) →
        At s.conns i fun c => ¬ c.Executes := by
  have hinv := Transition.run_invariant (Isolated busId)
    (fun s a s' h hguard hstep => h.moves hguard.1 hguard.2 (moves_of_step hstep))
    (isolated_start timeoutSecs busId)
    (hmeets.and_forall (P := fun a => a ≠ .unbindDevice busId) fun a ha he => hbound (he ▸ ha))
    hrun
  apply hinv.exclusive.earlier.imp
  intro i j hij hi hj
  obtain ⟨c, hc, hreleased⟩ := At.map_iff.mp (hij (At.map_iff.mpr hi) (At.map_iff.mpr hj))
  obtain ⟨c', hc', himports⟩ := hi
  rw [hc] at hc'
  cases hc'
  obtain ⟨session, hsession, _, hquiet⟩ := hinv.drained i c hc himports hreleased
  refine ⟨c, hc, ?_⟩
  rintro ⟨session', hsession', t, ht, hexecuting⟩
  rw [hsession] at hsession'
  cases hsession'
  obtain ⟨k, hk⟩ := List.mem_iff_getElem?.mp ht
  exact (hquiet k t hk).2.1 hexecuting

/-! ### A transfer that outlives its session -/

/-- The client submits a transfer, the device takes it, and the client leaves: the task is
aborted, the closure is not. -/
def leftWhileExecuting : List Action :=
  imported Session.oneSubmission ++
    [.session 0 .read, .session 0 .insert, .session 0 (.task 0 .poll),
      .session 0 (.task 0 .spawnBlocking), .session 0 (.task 0 .suspend),
      .session 0 (.task 0 .begin), .session 0 .read, .session 0 .cancelAll,
      .session 0 (.task 0 .drop), .session 0 .close, .session 0 .join]

/-- A second client imports the device. -/
def importedAgain : List Action :=
  [.release 0 5, .accept (importStream []), .readOp 1, .acquire 1 6]

/-- The transfer has ended when the device is released, and the second client has it for
itself. -/
def drainedBetween : List Action :=
  leftWhileExecuting ++ .session 0 (.task 0 (.complete none)) :: importedAgain

/-- It has not: the release does not wait for the closure. -/
def overlapping : List Action := leftWhileExecuting ++ importedAgain

theorem sessions_isolated_drainedBetween :
    .unbindDevice "1-1" ∉ drainedBetween ∧
    Transition.Meets step (ReleasesDrained "1-1") (start 30) drainedBetween ∧
    ∃ s, Transition.run step (start 30) drainedBetween = some s ∧ s.grants = [0, 1] ∧
      At s.conns 0 (Connection.Imports "1-1") ∧ At s.conns 1 (Connection.Imports "1-1") ∧
      At s.conns 0 fun c => ¬ c.Executes := by
  have hbound : .unbindDevice "1-1" ∉ drainedBetween := by
    simp [drainedBetween, leftWhileExecuting, importedAgain, imported]
  have hmeets : Transition.Meets step (ReleasesDrained "1-1") (start 30) drainedBetween := by
    decide +kernel
  obtain ⟨s, hrun, hgrants, ⟨c, hc, himports⟩, d, hd, himports'⟩ :=
    Transition.exists_run_of_any step (start 30) drainedBetween
      (fun s => s.grants = [0, 1] ∧ (∃ c ∈ s.conns[0]?, c.Imports "1-1") ∧
        ∃ d ∈ s.conns[1]?, d.Imports "1-1") (by decide +kernel)
  have hisolated := sessions_isolated hbound hmeets hrun
  rw [hgrants, List.pairwise_cons] at hisolated
  have hfirst := hisolated.1 1 List.mem_cons_self ⟨c, hc, himports⟩ ⟨d, hd, himports'⟩
  exact ⟨hbound, hmeets, s, hrun, hgrants, ⟨c, hc, himports⟩, ⟨d, hd, himports'⟩, hfirst⟩

/-- The second client has the device, and the first one's transfer is executing on it. -/
theorem executes_after_grant :
    ¬ ∀ (timeoutSecs : UInt64) (busId : String) (actions : List Action) (s : ServerEngine),
      .unbindDevice busId ∉ actions →
      Transition.run step (start timeoutSecs) actions = some s →
      s.grants.Pairwise fun i j =>
        At s.conns i (Connection.Imports busId) → At s.conns j (Connection.Imports busId) →
          At s.conns i fun c => ¬ c.Executes := by
  intro hclaim
  have hbound : .unbindDevice "1-1" ∉ overlapping := by
    simp [overlapping, leftWhileExecuting, importedAgain, imported]
  obtain ⟨s, hrun, hgrants, ⟨c, hc, himports, hexecutes⟩, d, hd, himports'⟩ :=
    Transition.exists_run_of_any step (start 30) overlapping
      (fun s => s.grants = [0, 1] ∧
        (∃ c ∈ s.conns[0]?, c.Imports "1-1" ∧
          ∃ session ∈ c.session, ∃ t ∈ session.tasks, t.blocking = some .executing) ∧
        ∃ d ∈ s.conns[1]?, d.Imports "1-1") (by decide +kernel)
  have hisolated := hclaim 30 "1-1" overlapping s hbound hrun
  rw [hgrants, List.pairwise_cons] at hisolated
  obtain ⟨c', hc', hnot⟩ :=
    hisolated.1 1 List.mem_cons_self ⟨c, hc, himports⟩ ⟨d, hd, himports'⟩
  rw [hc] at hc'
  cases hc'
  exact hnot hexecutes

end ServerEngine

end Extender.Server
