/-
The in-flight table of a session.

`in_flight` maps sequence numbers to the handles of the tasks that are still running, so that
an unlink can abort one and the end of a session all of them. The reader inserts the handle of
a task after it has spawned it, and the task removes itself when it is done. The two are not
ordered: if the task is faster, its handle is inserted after the removal and stays for good
(`staleEntry`), under a sequence number that may be used again.

In the runs in which no task gets that far ahead of the reader (`RemovesAfterInsert`) the
table is exact: its keys belong to tasks that are neither over nor aborted. No assumption on
the client is needed: with a sequence number used twice the table keeps the task inserted
last, and the removal of the first takes its entry away, which leaves fewer keys and not a
wrong one.

* `inFlight_exact` — exactness after every such run, and an empty table once all tasks are
  over.
* `staleEntry` — one submission, and its handle in the table after it was answered.
-/

import Extender.Server.SessionMoves

namespace Extender.Server

open Indexed Extender.Protocol

namespace Session

/-- No task removes itself from the table before the reader has inserted it. The reader spawns
first, so this is up to the scheduler. -/
def RemovesAfterInsert (s : Session) (a : Action) : Prop :=
  ∀ i, a = .remove i → s.reader ≠ .inserting i

instance (s : Session) (a : Action) : Decidable (RemovesAfterInsert s a) :=
  decidable_of_iff
    ((match a with
      | .remove i => decide (s.reader ≠ .inserting i)
      | _ => true) = true)
    (by cases a <;> simp [RemovesAfterInsert])

/-- The handles in the table, and the one about to be inserted, are those of live
tasks. -/
structure TableExact (reader : ReaderPc) (tasks : List Task)
    (inFlight : AList (fun _ : UInt32 => Nat)) : Prop where
  entry : ∀ q i, inFlight.lookup q = some i → At tasks i fun t => t.seqnum = q ∧ t.Live
  inserting : ∀ i, reader = .inserting i → At tasks i Task.Live

namespace TableExact

variable {reader : ReaderPc} {tasks : List Task} {inFlight : AList (fun _ : UInt32 => Nat)}

theorem reader_ne (h : TableExact reader tasks inFlight) {reader' : ReaderPc}
    (hreader : ∀ i, reader' ≠ .inserting i) : TableExact reader' tasks inFlight :=
  ⟨h.entry, fun i hi => absurd hi (hreader i)⟩

/-- A move of one task that keeps it live keeps the table exact; its handle is where it
was. -/
theorem set (h : TableExact reader tasks inFlight) {i : Nat} {t t' : Task}
    (ht : tasks[i]? = some t) (hcmd : t'.cmd = t.cmd) (hlive : t.Live → t'.Live) :
    TableExact reader (tasks.set i t') inFlight := by
  constructor
  · intro q j hlookup
    refine (h.entry q j hlookup).set ht ?_
    rintro ⟨hseq, hl⟩
    exact ⟨by rw [Task.seqnum, hcmd]; exact hseq, hlive hl⟩
  · intro j hj
    exact (h.inserting j hj).set ht hlive

theorem ne_of_key_ne (h : TableExact reader tasks inFlight) {q : UInt32} {i j : Nat} {t : Task}
    (hlookup : inFlight.lookup q = some j) (ht : tasks[i]? = some t) (hne : t.seqnum ≠ q) :
    i ≠ j := by
  rintro rfl
  obtain ⟨u, hu, hseq, _⟩ := h.entry q i hlookup
  rw [ht] at hu
  cases hu
  exact hne hseq

theorem moves {s s' : Session} {a : Action} (h : TableExact s.reader s.tasks s.inFlight)
    (hguard : RemovesAfterInsert s a) (hmove : Moves s a s') :
    TableExact s'.reader s'.tasks s'.inFlight := by
  cases hmove with
  | readSubmit =>
      refine ⟨fun q i hlookup => (h.entry q i hlookup).append _, ?_⟩
      intro i hi
      cases hi
      exact At.append_new ⟨rfl, rfl⟩
  | readUnlink => exact h.reader_ne (by simp)
  | readOther => exact h
  | readError => exact h.reader_ne (by simp)
  | @insert i t hreader ht =>
      refine ⟨?_, by simp⟩
      intro q j hlookup
      by_cases hq : q = t.seqnum
      · subst hq
        simp only [AList.lookup_insert, Option.some.injEq] at hlookup
        subst hlookup
        obtain ⟨u, hu, hlive⟩ := h.inserting i hreader
        rw [ht] at hu
        cases hu
        exact ⟨t, ht, rfl, hlive⟩
      · rw [AList.lookup_insert_ne hq] at hlookup
        exact h.entry q j hlookup
  | @unlinkFound cmd i hreader hfound =>
      refine ⟨?_, by simp⟩
      intro q j hlookup
      -- The entry of the aborted task is gone; the others belong to other tasks.
      by_cases hq : q = cmd.unlinkSeqnum
      · subst hq
        simp only [AList.lookup_erase] at hlookup
        cases hlookup
      · rw [AList.lookup_erase_ne hq] at hlookup
        obtain ⟨t, ht, hseq, _⟩ := h.entry _ i hfound
        have hij : i ≠ j := h.ne_of_key_ne hlookup ht (fun e => hq (e.symm.trans hseq))
        exact (h.entry q j hlookup).modify_ne hij _
  | unlinkMissing => exact h.reader_ne (by simp)
  | replyClosed => exact h.reader_ne (by simp)
  | replyPut => exact h.reader_ne (by simp)
  | cancelAll =>
      refine ⟨?_, by simp⟩
      intro q i hlookup
      simp at hlookup
  | join => exact h.reader_ne (by simp)
  | task ht hmove => exact h.set ht (Task.move_cmd hmove) (fun hl => hl.move hmove)
  | @sendClosed i t answer ht hpc =>
      refine h.set ht rfl ?_
      rintro ⟨_, haborted⟩
      exact ⟨rfl, haborted⟩
  | @sendPut i t answer ht hpc =>
      refine h.set ht rfl ?_
      rintro ⟨_, haborted⟩
      exact ⟨rfl, haborted⟩
  | @remove i t ht hpc =>
      constructor
      · intro q j hlookup
        by_cases hq : q = t.seqnum
        · subst hq
          simp only [AList.lookup_erase] at hlookup
          cases hlookup
        · simp only [AList.lookup_erase_ne hq] at hlookup
          exact (h.entry q j hlookup).set_ne (h.ne_of_key_ne hlookup ht (Ne.symm hq)) _
      · intro j hj
        have hij : i ≠ j := by
          rintro rfl
          exact hguard i rfl hj
        exact (h.inserting j hj).set_ne hij _
  | recv => exact h
  | write => exact h
  | writeFail => exact h
  | close => exact h

end TableExact

/-- **Exactness of the table.** In a run in which no task removes itself before it
is inserted, every key of the table belongs to a task that is not over, and the
table is empty once all tasks are. -/
theorem inFlight_exact {input : List UInt8} {actions : List Action} {s : Session}
    (hmeets : Transition.Meets step RemovesAfterInsert (start input) actions)
    (hrun : Transition.run step (start input) actions = some s) :
    (∀ q i, s.inFlight.lookup q = some i →
      ∃ t, s.tasks[i]? = some t ∧ t.seqnum = q ∧ t.ended = false) ∧
    ((∀ t ∈ s.tasks, t.ended = true) → s.inFlight = ∅) := by
  have hstart : TableExact .ready [] ∅ := ⟨by simp, by simp⟩
  have hexact : TableExact s.reader s.tasks s.inFlight :=
    Transition.run_invariant (fun s : Session => TableExact s.reader s.tasks s.inFlight)
      (fun _ _ _ h hguard hstep => h.moves hguard (moves_of_step hstep)) hstart hmeets hrun
  have hentry : ∀ q i, s.inFlight.lookup q = some i →
      ∃ t, s.tasks[i]? = some t ∧ t.seqnum = q ∧ t.ended = false := by
    intro q i hlookup
    obtain ⟨t, ht, hseq, hlive⟩ := hexact.entry q i hlookup
    exact ⟨t, ht, hseq, hlive.1⟩
  refine ⟨hentry, ?_⟩
  intro hended
  refine AList.ext ?_
  cases hentries : s.inFlight.entries with
  | nil => rfl
  | cons e es =>
      have hmem : e ∈ s.inFlight.entries := by
        rw [hentries]
        exact List.mem_cons_self
      have hlookup : s.inFlight.lookup e.1 = some e.2 := AList.mem_lookup_iff.mpr hmem
      obtain ⟨t, ht, _, hlive⟩ := hentry e.1 e.2 hlookup
      rw [hended t (List.mem_of_getElem? ht)] at hlive
      cases hlive

/-! ### A task that overtakes the reader -/

/-- An interrupt transfer of eight bytes from endpoint 1. -/
def sampleSubmit (seqnum : UInt32) : CmdSubmit :=
  { header := { command := 1, seqnum, devid := 0x10004, direction := 1, ep := 1 }
    transferFlags := 0, transferBufferLength := 8, startFrame := 0
    numberOfPackets := 0xFFFFFFFF, interval := 10
    setup := ⟨List.replicate 8 0, rfl⟩, transferBuffer := [], isoPacketDescriptors := [] }

def sampleReport : Option UsbAnswer := some (.ok (2, [1, 2, 0, 0, 0, 0, 0, 0]))

/-- A stream of one submission. -/
def oneSubmission : List UInt8 := writeUrbMessage [] (.cmdSubmit (sampleSubmit 1))

/-- The life of task `i` from its first poll to its send, with nobody else moving. -/
def untilSent (i : Nat) : List Action :=
  [.task i .poll, .task i .spawnBlocking, .task i .suspend, .task i .begin,
    .task i (.complete sampleReport), .task i .poll, .task i .joinBlocking, .send i]

/-- The reader inserts the handle before the task runs. -/
def orderlyRun : List Action := [.read, .insert] ++ untilSent 0 ++ [.remove 0]

/-- The task is through before the reader inserts its handle, which then stays in the table
for good. -/
def overtakingRun : List Action := [.read] ++ untilSent 0 ++ [.remove 0, .insert]

theorem inFlight_exact_orderlyRun :
    Transition.Meets step RemovesAfterInsert (start oneSubmission) orderlyRun ∧
    ∃ s, Transition.run step (start oneSubmission) orderlyRun = some s ∧
      s.tasks.length = 1 ∧ s.inFlight = ∅ := by
  have hmeets : Transition.Meets step RemovesAfterInsert (start oneSubmission) orderlyRun := by
    decide +kernel
  obtain ⟨s, hrun, hlength, hended⟩ :=
    Transition.exists_run_of_any step (start oneSubmission) orderlyRun
      (fun s => s.tasks.length = 1 ∧ ∀ t ∈ s.tasks, t.ended = true) (by decide +kernel)
  exact ⟨hmeets, s, hrun, hlength, (inFlight_exact hmeets hrun).2 hended⟩

/-- When a task overtakes the reader, the reader goes on to the next message with
the handle of a finished task in the table. -/
theorem staleEntry :
    ¬ ∀ (input : List UInt8) (actions : List Action) (s : Session),
      Transition.run step (start input) actions = some s →
      s.DistinctSubmits → s.reader = .ready →
      ∀ q i, s.inFlight.lookup q = some i → ∃ t, s.tasks[i]? = some t ∧ t.ended = false := by
  intro hclaim
  obtain ⟨s, hrun, hready, hnodup, hlookup, hended⟩ :=
    Transition.exists_run_of_any step (start oneSubmission) overtakingRun
      (fun s => s.reader = .ready ∧ s.DistinctSubmits ∧
        s.inFlight.lookup 1 = some 0 ∧ s.tasks[0]?.map Task.ended = some true)
      (by decide +kernel)
  obtain ⟨t, ht, hlive⟩ := hclaim _ _ s hrun hnodup hready 1 0 hlookup
  rw [ht, Option.map_some, hlive] at hended
  cases hended

end Session

end Extender.Server
