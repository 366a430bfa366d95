/-
Cancelled transfers.

A RET_UNLINK with `-ECONNRESET` tells the client that the transfer was cancelled and that no
RET_SUBMIT for it follows. The server answers so whenever `in_flight` has an entry under the
sequence number, and aborts the task the entry is for. It keeps to its word when the task is
then suspended and has not sent: the abort takes effect before the task can run again, and it
is dropped with its reply.

A task is in the table a little longer than that. Between its send and its removal it is still
found, the abort changes nothing, and the client is told of a cancellation behind a return.
`UnlinksSuspended` is the condition on the steps of a run that leaves this case out; it is
about the state before the unlink only.

The invariant (`Agree`) follows two kinds of tasks: one whose reply was put is past its send,
and one that was reported as cancelled will not run again and has put nothing. That sequence
numbers are distinct is needed, or an unlink would find the task of another submission.

* `unlink_agrees` — in a run under that condition the client never receives both.
* `cancelled_and_returned` — the schedule in which it does.
-/

import Extender.Server.InFlight

namespace Extender.Server

open Indexed Extender.Protocol

namespace Session

/-- The task that `handle_unlink` finds in the table: the one whose handle is under the number
that is to be unlinked. -/
def unlinkTarget (s : Session) : Option Task :=
  match s.reader with
  | .unlinking cmd => (s.inFlight.lookup cmd.unlinkSeqnum).bind fun i => s.tasks[i]?
  | _ => none

/-- An unlink that finds a task finds it suspended and before its send. The condition is on
the state in which the reader looks it up. -/
def UnlinksSuspended (s : Session) (a : Action) : Prop :=
  a = .unlink → ∀ t ∈ s.unlinkTarget, t.polled = false ∧ t.BeforeSend

instance (s : Session) (a : Action) : Decidable (UnlinksSuspended s a) :=
  inferInstanceAs (Decidable (a = .unlink → ∀ t ∈ s.unlinkTarget, t.polled = false ∧ t.BeforeSend))

/-- The client has received a RET_SUBMIT for sequence number `q`, whatever its status is. -/
def ReceivesReturn (wire : List Response) (q : UInt32) : Prop :=
  ∃ r ∈ wire, ∃ m, r.message = .retSubmit m ∧ m.header.seqnum = q

/-- The client has received a RET_UNLINK with `-ECONNRESET` for an unlink of
sequence number `q`. -/
def ReceivesCancelled (wire : List Response) (q : UInt32) : Prop :=
  ∃ cmd status m, .unlinked cmd status ∈ wire ∧ cmd.unlinkSeqnum = q ∧
    (Response.unlinked cmd status).message = .retUnlink m ∧ m.status = ECONNRESET

/-- The bookkeeping behind the agreement: a task whose reply was put is past its
send, and a task that was reported as cancelled will not run again and has put
nothing. -/
structure Agree (reader : ReaderPc) (tasks : List Task)
    (inFlight : AList (fun _ : UInt32 => Nat)) (trace : List Event) : Prop where
  entry : ∀ q i, inFlight.lookup q = some i → At tasks i fun t => t.seqnum = q
  sent : ∀ cmd answer, .put (.submitted cmd answer) ∈ trace →
    ∃ i, At tasks i fun t => t.cmd = cmd ∧ ¬ t.BeforeSend
  silenced : ∀ cmd, reader = .replying cmd ECONNRESET ∨ .put (.unlinked cmd ECONNRESET) ∈ trace →
    ∃ i, At tasks i fun t => t.seqnum = cmd.unlinkSeqnum ∧ t.Silenced
  unsent : ∀ cmd, reader = .replying cmd ECONNRESET ∨ .put (.unlinked cmd ECONNRESET) ∈ trace →
    ∀ sub answer, .put (.submitted sub answer) ∈ trace → sub.header.seqnum ≠ cmd.unlinkSeqnum

namespace Agree

variable {reader : ReaderPc} {tasks : List Task} {inFlight : AList (fun _ : UInt32 => Nat)}
  {trace : List Event}

/-- The reader moves to a state in which it has no cancellation to report. -/
theorem reader_ne (h : Agree reader tasks inFlight trace) (reader' : ReaderPc)
    (hreader : ∀ cmd, reader' ≠ .replying cmd ECONNRESET) : Agree reader' tasks inFlight trace := by
  refine ⟨h.entry, h.sent, ?_, ?_⟩
  · rintro cmd (hr | hput)
    · exact absurd hr (hreader cmd)
    · exact h.silenced cmd (Or.inr hput)
  · rintro cmd (hr | hput)
    · exact absurd hr (hreader cmd)
    · exact h.unsent cmd (Or.inr hput)

theorem read (h : Agree reader tasks inFlight trace) (msg : UrbMessage) :
    Agree reader tasks inFlight (trace ++ [.read msg]) := by
  have hput : ∀ r, .put r ∈ trace ++ [Event.read msg] ↔ .put r ∈ trace := by simp
  refine ⟨h.entry, ?_, ?_, ?_⟩
  · intro cmd answer hmem
    exact h.sent cmd answer ((hput _).mp hmem)
  · intro cmd hcmd
    exact h.silenced cmd (hcmd.imp_right (hput _).mp)
  · intro cmd hcmd sub answer hmem
    exact h.unsent cmd (hcmd.imp_right (hput _).mp) sub answer ((hput _).mp hmem)

theorem evolve (h : Agree reader tasks inFlight trace) {tasks' : List Task}
    (hev : ∀ i t, tasks[i]? = some t → At tasks' i t.Evolves) :
    Agree reader tasks' inFlight trace := by
  refine ⟨?_, ?_, ?_, h.unsent⟩
  · intro q i hlookup
    obtain ⟨t, ht, hseq⟩ := h.entry q i hlookup
    exact (hev i t ht).mono fun t' he => he.seqnum.trans hseq
  · intro cmd answer hmem
    obtain ⟨i, t, ht, hcmd, hsent⟩ := h.sent cmd answer hmem
    exact ⟨i, (hev i t ht).mono fun t' he =>
      ⟨he.cmd.trans hcmd, fun hb => hsent (he.beforeSend hb)⟩⟩
  · intro cmd hcmd
    obtain ⟨i, t, ht, hseq, hsil⟩ := h.silenced cmd hcmd
    exact ⟨i, (hev i t ht).mono fun t' he => ⟨he.seqnum.trans hseq, he.silenced hsil⟩⟩

theorem erase (h : Agree reader tasks inFlight trace) (q : UInt32) :
    Agree reader tasks (inFlight.erase q) trace := by
  refine ⟨?_, h.sent, h.silenced, h.unsent⟩
  intro q' i hlookup
  by_cases hq : q' = q
  · subst hq
    rw [AList.lookup_erase] at hlookup
    cases hlookup
  · rw [AList.lookup_erase_ne hq] at hlookup
    exact h.entry q' i hlookup

/-- A task that is being polled puts its reply: no unlink was reported for it. -/
theorem put_submitted (h : Agree reader tasks inFlight trace)
    (hnodup : (tasks.map Task.seqnum).Nodup) {i : Nat} {t : Task} {answer : Option UsbAnswer}
    (ht : tasks[i]? = some t) (hpolled : t.polled = true) {tasks' : List Task}
    (hev : ∀ i t, tasks[i]? = some t → At tasks' i t.Evolves)
    (ht' : At tasks' i fun t' => t'.cmd = t.cmd ∧ ¬ t'.BeforeSend) :
    Agree reader tasks' inFlight (trace ++ [.put (.submitted t.cmd answer)]) := by
  have hold := h.evolve hev
  have hback : ∀ cmd, reader = .replying cmd ECONNRESET ∨
      .put (.unlinked cmd ECONNRESET) ∈ trace ++ [Event.put (.submitted t.cmd answer)] →
      reader = .replying cmd ECONNRESET ∨ .put (.unlinked cmd ECONNRESET) ∈ trace := by
    simp
  refine ⟨hold.entry, ?_, fun cmd hcmd => hold.silenced cmd (hback cmd hcmd), ?_⟩
  · intro cmd answer' hmem
    rcases List.mem_append.mp hmem with hmem | hmem
    · exact hold.sent cmd answer' hmem
    · simp only [List.mem_singleton, Event.put.injEq, Response.submitted.injEq] at hmem
      obtain ⟨rfl, rfl⟩ := hmem
      exact ⟨i, ht'⟩
  · intro cmd hcmd sub answer' hmem
    rcases List.mem_append.mp hmem with hmem | hmem
    · exact h.unsent cmd (hback cmd hcmd) sub answer' hmem
    · simp only [List.mem_singleton, Event.put.injEq, Response.submitted.injEq] at hmem
      obtain ⟨rfl, rfl⟩ := hmem
      intro hseq
      -- The task reported as cancelled has this sequence number, so it is this one.
      obtain ⟨j, u, hu, hsequ, hsil⟩ := h.silenced cmd (hback cmd hcmd)
      obtain rfl := index_eq_of_seqnum hnodup ht hu (hseq.trans hsequ.symm)
      rw [ht] at hu
      cases hu
      rw [hsil.2] at hpolled
      cases hpolled

/-- The reader puts the reply it was about to report. -/
theorem put_unlinked {cmd : CmdUnlink} {status : Int32}
    (h : Agree (.replying cmd status) tasks inFlight trace) :
    Agree .ready tasks inFlight (trace ++ [.put (.unlinked cmd status)]) := by
  have hback : ∀ c, ReaderPc.ready = .replying c ECONNRESET ∨
      .put (.unlinked c ECONNRESET) ∈ trace ++ [Event.put (.unlinked cmd status)] →
      ReaderPc.replying cmd status = .replying c ECONNRESET ∨
        .put (.unlinked c ECONNRESET) ∈ trace := by
    rintro c (hr | hmem)
    · cases hr
    · rcases List.mem_append.mp hmem with hmem | hmem
      · exact Or.inr hmem
      · simp only [List.mem_singleton, Event.put.injEq, Response.unlinked.injEq] at hmem
        obtain ⟨rfl, rfl⟩ := hmem
        exact Or.inl rfl
  have hsub : ∀ sub answer,
      .put (.submitted sub answer) ∈ trace ++ [Event.put (.unlinked cmd status)] →
      .put (.submitted sub answer) ∈ trace := by
    simp
  refine ⟨h.entry, ?_, ?_, ?_⟩
  · intro sub answer hmem
    exact h.sent sub answer (hsub sub answer hmem)
  · intro c hc
    exact h.silenced c (hback c hc)
  · intro c hc sub answer hmem
    exact h.unsent c (hback c hc) sub answer (hsub sub answer hmem)

/-- An unlink finds a suspended task that has not sent and aborts it; from here on the task is
silenced. -/
theorem found {cmd : CmdUnlink} {i : Nat} {t : Task}
    (h : Agree reader tasks inFlight trace) (hnodup : (tasks.map Task.seqnum).Nodup)
    (hlookup : inFlight.lookup cmd.unlinkSeqnum = some i) (ht : tasks[i]? = some t)
    (hsuspended : t.polled = false) (hbefore : t.BeforeSend) {tasks' : List Task}
    (hev : ∀ i t, tasks[i]? = some t → At tasks' i t.Evolves)
    (ht' : tasks'[i]? = some t.abort) :
    Agree (.replying cmd ECONNRESET) tasks' (inFlight.erase cmd.unlinkSeqnum) trace := by
  have hold := (h.evolve hev).erase cmd.unlinkSeqnum
  obtain ⟨u, hu, hseq⟩ := h.entry _ i hlookup
  rw [ht] at hu
  cases hu
  refine ⟨hold.entry, hold.sent, ?_, ?_⟩
  · rintro c (hr | hput)
    · cases hr
      exact ⟨i, t.abort, ht', hseq, rfl, hsuspended⟩
    · exact hold.silenced c (Or.inr hput)
  · rintro c (hr | hput) sub answer hmem
    · cases hr
      intro hsub
      -- A reply put for this sequence number would be the task's own.
      obtain ⟨j, u, hu, rfl, hsent⟩ := h.sent sub answer hmem
      obtain rfl := index_eq_of_seqnum hnodup ht hu (hseq.trans hsub.symm)
      rw [ht] at hu
      cases hu
      exact hsent hbefore
    · exact h.unsent c (Or.inr hput) sub answer hmem

theorem moves {s s' : Session} {a : Action} (hnodup : (s.tasks.map Task.seqnum).Nodup)
    (h : Agree s.reader s.tasks s.inFlight s.trace) (hguard : UnlinksSuspended s a)
    (hmove : Moves s a s') : Agree s'.reader s'.tasks s'.inFlight s'.trace := by
  have hev : ∀ i t, s.tasks[i]? = some t → At s'.tasks i t.Evolves :=
    fun _ _ ht => hmove.evolves ht
  cases hmove with
  | readSubmit => exact ((h.evolve hev).read _).reader_ne _ (by simp)
  | readUnlink => exact (h.read _).reader_ne _ (by simp)
  | readOther => exact h.read _
  | readError => exact h.reader_ne _ (by simp)
  | @insert i t hreader ht =>
      have hready := h.reader_ne .ready (by simp)
      refine ⟨?_, hready.sent, hready.silenced, hready.unsent⟩
      intro q j hlookup
      by_cases hq : q = t.seqnum
      · subst hq
        simp only [AList.lookup_insert, Option.some.injEq] at hlookup
        subst hlookup
        exact ⟨t, ht, rfl⟩
      · rw [AList.lookup_insert_ne hq] at hlookup
        exact h.entry q j hlookup
  | @unlinkFound cmd i hreader hlookup =>
      obtain ⟨t, ht, _⟩ := h.entry _ i hlookup
      obtain ⟨hsuspended, hbefore⟩ := hguard rfl t (by simp [unlinkTarget, hreader, hlookup, ht])
      exact h.found hnodup hlookup ht hsuspended hbefore hev (by simp [ht])
  | unlinkMissing => exact h.reader_ne _ (by simp [ECONNRESET])
  | replyClosed => exact h.reader_ne _ (by simp)
  | replyPut hreader =>
      rw [hreader] at h
      exact h.put_unlinked
  | cancelAll =>
      have hold := (h.evolve hev).reader_ne .joining (by simp)
      exact ⟨by simp, hold.sent, hold.silenced, hold.unsent⟩
  | join => exact h.reader_ne _ (by simp)
  | task => exact h.evolve hev
  | sendClosed => exact h.evolve hev
  | @sendPut i t answer ht hpc hpolled =>
      exact h.put_submitted hnodup ht hpolled hev
        (At.set_self ht ⟨rfl, by simp [Task.BeforeSend]⟩)
  | remove => exact (h.evolve hev).erase _
  | recv => exact h
  | write => exact h
  | writeFail => exact h
  | close => exact h

end Agree

/-- **Unlink and return agree.** In a run in which every unlink that finds a task
finds it suspended and before its send, a client with distinct sequence numbers
never receives both a return and a cancellation of the same submission. -/
theorem unlink_agrees {input : List UInt8} {actions : List Action} {s : Session}
    (hmeets : Transition.Meets step UnlinksSuspended (start input) actions)
    (hrun : Transition.run step (start input) actions = some s) (hdistinct : s.DistinctSubmits)
    (q : UInt32) : ¬ (ReceivesReturn s.wire q ∧ ReceivesCancelled s.wire q) := by
  have hstart : Agree .ready [] ∅ [] := ⟨by simp, by simp, by simp, by simp⟩
  have hagree : Agree s.reader s.tasks s.inFlight s.trace :=
    run_invariant_distinct (fun s : Session => Agree s.reader s.tasks s.inFlight s.trace)
      (fun _ _ _ hnodup h hguard hmove => h.moves hnodup hguard hmove) hstart hmeets hrun
      hdistinct
  have hput : ∀ r ∈ s.wire, .put r ∈ s.trace :=
    fun r hr => mem_puts.mp ((wire_prefix_puts hrun).subset hr)
  rintro ⟨⟨r, hr, m, hm, hseq⟩, cmd, status, m', hcancelled, hq, hm', hstatus⟩
  cases hm'
  cases hstatus
  cases r with
  | unlinked cmd status => cases hm
  | submitted sub answer =>
      cases hm
      exact hagree.unsent cmd (Or.inr (hput _ hcancelled)) sub answer (hput _ hr)
        (hseq.trans hq.symm)

def sampleUnlink (seqnum target : UInt32) : CmdUnlink :=
  { header := { command := 2, seqnum, devid := 0x10004, direction := 0, ep := 0 }
    unlinkSeqnum := target }

/-- A submission and an unlink of it. -/
def submitThenUnlink : List UInt8 :=
  [UrbMessage.cmdSubmit (sampleSubmit 1), .cmdUnlink (sampleUnlink 2 1)].foldl writeUrbMessage []

/-- The unlink comes while the task waits for the transfer: the abort takes effect, and the
client hears of the unlink only. -/
def cancelledInTime : List Action :=
  [.read, .insert, .task 0 .poll, .task 0 .spawnBlocking, .task 0 .suspend, .task 0 .begin,
    .read, .unlink, .task 0 .drop, .task 0 (.complete sampleReport), .reply, .recv, .write]

/-- The unlink comes after the task has sent, and before it has removed itself: it is found,
and both replies go out. -/
def cancelledTooLate : List Action :=
  [.read, .insert] ++ untilSent 0 ++
    [.read, .unlink, .reply, .remove 0, .recv, .write, .recv, .write]

theorem unlink_agrees_cancelledInTime :
    Transition.Meets step UnlinksSuspended (start submitThenUnlink) cancelledInTime ∧
    ∃ s, Transition.run step (start submitThenUnlink) cancelledInTime = some s ∧
      s.wire = [.unlinked (sampleUnlink 2 1) ECONNRESET] ∧
      ¬ (ReceivesReturn s.wire 1 ∧ ReceivesCancelled s.wire 1) := by
  have hmeets : Transition.Meets step UnlinksSuspended (start submitThenUnlink)
      cancelledInTime := by decide +kernel
  obtain ⟨s, hrun, hdistinct, hwire⟩ :=
    Transition.exists_run_of_any step (start submitThenUnlink) cancelledInTime
      (fun s => s.DistinctSubmits ∧ s.wire = [.unlinked (sampleUnlink 2 1) ECONNRESET])
      (by decide +kernel)
  exact ⟨hmeets, s, hrun, hwire, unlink_agrees hmeets hrun hdistinct 1⟩

/-- Found between its send and its removal, a task is reported as cancelled after
its return. -/
theorem cancelled_and_returned :
    ¬ ∀ (input : List UInt8) (actions : List Action) (s : Session),
      Transition.run step (start input) actions = some s → s.DistinctSubmits →
      ∀ q, ¬ (ReceivesReturn s.wire q ∧ ReceivesCancelled s.wire q) := by
  intro hclaim
  obtain ⟨s, hrun, hdistinct, hwire⟩ :=
    Transition.exists_run_of_any step (start submitThenUnlink) cancelledTooLate
      (fun s => s.DistinctSubmits ∧ s.wire = [.submitted (sampleSubmit 1) sampleReport,
        .unlinked (sampleUnlink 2 1) ECONNRESET])
      (by decide +kernel)
  refine hclaim _ _ s hrun hdistinct 1 ⟨?_, ?_⟩
  · rw [hwire]
    exact ⟨_, List.mem_cons_self, _, rfl, rfl⟩
  · rw [hwire]
    exact ⟨sampleUnlink 2 1, ECONNRESET, _, by simp, rfl, rfl, rfl⟩

end Session

end Extender.Server
