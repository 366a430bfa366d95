/-
What a step of an import session can do.

`Moves` lists the moves of `Session.step`, one constructor for each way a critical section of
the source can end, with its guard and the state it leaves; `moves_of_step` says that there
are no others. Every invariant of a session is proved by cases on `Moves`, and none of them
unfolds the step function.

Facts about a session are stated over the components they are about, the reader, the tasks,
the table, the trace, so that the moves of the other parties leave them alone by definition.
What no step takes back from a single task is collected once (`Task.Evolves`): its submission,
that it is past its send, that it is over, that it was told to stop. Then:

* `Channel`, `wire_prefix_puts` — what was put into the channel is what the client has
  received and what is under way, in order; the rest is lost once the writer has gone.
* `submitSeqnums_moves` — there is one task for each submission that was read, in order.
* `run_invariant_distinct` — the invariant rule for clients that never use a sequence number
  twice, where a sequence number names one task.

These hold in every run, whatever the client sends.
-/

import Extender.Lib.Indexed
import Extender.Server.Session

namespace Extender.Server

open Indexed Extender.Protocol

/-! ### Tasks -/

namespace Task

/-- The task has not put its reply into the channel, and has not been dropped; it may still do
so. -/
def BeforeSend (t : Task) : Prop :=
  t.pc = .spawned ∨ t.pc = .waiting ∨ ∃ answer, t.pc = .sending answer

instance (t : Task) : Decidable t.BeforeSend :=
  match h : t.pc with
  | .spawned => isTrue (Or.inl h)
  | .waiting => isTrue (Or.inr (Or.inl h))
  | .sending answer => isTrue (Or.inr (Or.inr ⟨answer, h⟩))
  | .removing => isFalse (by simp [BeforeSend, h])
  | .finished => isFalse (by simp [BeforeSend, h])
  | .dropped => isFalse (by simp [BeforeSend, h])

/-- The task is aborted and suspended: it will not run again, so that no reply of it can reach
the channel. -/
def Silenced (t : Task) : Prop := t.aborted = true ∧ t.polled = false

/-- The task is neither over nor told to stop, which is what the table is to hold. -/
def Live (t : Task) : Prop := t.ended = false ∧ t.aborted = false

@[simp] theorem seqnum_abort (t : Task) : t.abort.seqnum = t.seqnum := rfl

section Moves

variable {t t' : Task} {m : Move}

theorem move_cmd (h : t.move m = some t') : t'.cmd = t.cmd := by
  cases m <;> grind [move]

/-- A silenced task can only be dropped; its transfer goes on, since a blocking closure is not
aborted. -/
theorem Silenced.move (hs : t.Silenced) (h : t.move m = some t') : t'.Silenced := by
  unfold Silenced at *
  cases m <;> grind [Task.move]

theorem Live.move (hl : t.Live) (h : t.move m = some t') : t'.Live := by
  unfold Live ended at *
  cases m <;> grind [Task.move]

theorem beforeSend_of_move (h : t.move m = some t') (hb : t'.BeforeSend) : t.BeforeSend := by
  unfold BeforeSend at *
  cases m <;> grind [move]

/-- A move that only the task sees does not get it past its send. -/
theorem pc_of_move (h : t.move m = some t') (hpc : t'.pc = .removing ∨ t'.pc = .finished) :
    t.pc = t'.pc := by
  cases m <;> grind [move]

/-- What a step never takes back from a task: its submission, that it is past its send, and
that it is silenced. -/
structure Evolves (t t' : Task) : Prop where
  cmd : t'.cmd = t.cmd
  beforeSend : t'.BeforeSend → t.BeforeSend
  silenced : t.Silenced → t'.Silenced

theorem Evolves.refl (t : Task) : t.Evolves t := ⟨rfl, id, id⟩

theorem Evolves.abort (t : Task) : t.Evolves t.abort := ⟨rfl, id, fun h => ⟨rfl, h.2⟩⟩

theorem Evolves.of_move (h : t.move m = some t') : t.Evolves t' :=
  ⟨move_cmd h, beforeSend_of_move h, fun hs => hs.move h⟩

/-- A task that is being polled is not silenced, and may get past its send. -/
theorem Evolves.of_polled (hpolled : t.polled = true) (hcmd : t'.cmd = t.cmd)
    (hpc : ¬ t'.BeforeSend) : t.Evolves t' :=
  ⟨hcmd, fun h => absurd h hpc, fun h => absurd hpolled (by simp [h.2])⟩

theorem Evolves.seqnum (h : t.Evolves t') : t'.seqnum = t.seqnum := by
  rw [Task.seqnum, h.cmd, Task.seqnum]

end Moves

end Task

/-! ### The session -/

namespace Session

/-- The moves of a session, one constructor for each branch of `step` that changes something,
with its guards. -/
inductive Moves (s : Session) : Action → Session → Prop where
  | readSubmit {cmd : CmdSubmit} {rest : List UInt8} :
      s.reader = .ready → readUrbMessage s.input = .ok (.cmdSubmit cmd, rest) →
      Moves s .read
        { s with
          input := rest
          trace := s.trace ++ [.read (.cmdSubmit cmd)]
          tasks := s.tasks ++ [Task.spawn cmd]
          reader := .inserting s.tasks.length }
  | readUnlink {cmd : CmdUnlink} {rest : List UInt8} :
      s.reader = .ready → readUrbMessage s.input = .ok (.cmdUnlink cmd, rest) →
      Moves s .read
        { s with
          input := rest
          trace := s.trace ++ [.read (.cmdUnlink cmd)]
          reader := .unlinking cmd }
  | readOther {msg : UrbMessage} {rest : List UInt8} :
      s.reader = .ready → readUrbMessage s.input = .ok (msg, rest) →
      (∀ cmd, msg ≠ .cmdSubmit cmd) → (∀ cmd, msg ≠ .cmdUnlink cmd) →
      Moves s .read { s with input := rest, trace := s.trace ++ [.read msg] }
  | readError {a : Action} :
      a = .read ∨ a = .readFail → s.reader = .ready → Moves s a { s with reader := .cleanup }
  | insert {i : Nat} {t : Task} :
      s.reader = .inserting i → s.tasks[i]? = some t →
      Moves s .insert { s with inFlight := s.inFlight.insert t.seqnum i, reader := .ready }
  | unlinkFound {cmd : CmdUnlink} {i : Nat} :
      s.reader = .unlinking cmd → s.inFlight.lookup cmd.unlinkSeqnum = some i →
      Moves s .unlink
        { s with
          tasks := s.tasks.modify i Task.abort
          inFlight := s.inFlight.erase cmd.unlinkSeqnum
          reader := .replying cmd ECONNRESET }
  | unlinkMissing {cmd : CmdUnlink} :
      s.reader = .unlinking cmd → s.inFlight.lookup cmd.unlinkSeqnum = none →
      Moves s .unlink { s with reader := .replying cmd 0 }
  | replyClosed {cmd : CmdUnlink} {status : Int32} :
      s.reader = .replying cmd status → s.isOpen = false →
      Moves s .reply { s with reader := .cleanup }
  | replyPut {cmd : CmdUnlink} {status : Int32} :
      s.reader = .replying cmd status → s.isOpen = true →
      Moves s .reply
        { s with
          queue := s.queue ++ [.unlinked cmd status]
          trace := s.trace ++ [.put (.unlinked cmd status)]
          reader := .ready }
  | cancelAll :
      s.reader = .cleanup →
      Moves s .cancelAll
        { s with tasks := abortAll s.tasks s.inFlight, inFlight := ∅, reader := .joining }
  | join :
      s.reader = .joining → s.isOpen = false → Moves s .join { s with reader := .returned }
  | task {i : Nat} {t t' : Task} {m : Task.Move} :
      s.tasks[i]? = some t → t.move m = some t' →
      Moves s (.task i m) { s with tasks := s.tasks.set i t' }
  | sendClosed {i : Nat} {t : Task} {answer : Option UsbAnswer} :
      s.tasks[i]? = some t → t.pc = .sending answer → t.polled = true → s.isOpen = false →
      Moves s (.send i) { s with tasks := s.tasks.set i { t with pc := .removing } }
  | sendPut {i : Nat} {t : Task} {answer : Option UsbAnswer} :
      s.tasks[i]? = some t → t.pc = .sending answer → t.polled = true → s.isOpen = true →
      Moves s (.send i)
        { s with
          queue := s.queue ++ [.submitted t.cmd answer]
          trace := s.trace ++ [.put (.submitted t.cmd answer)]
          tasks := s.tasks.set i { t with pc := .removing } }
  | remove {i : Nat} {t : Task} :
      s.tasks[i]? = some t → t.pc = .removing → t.polled = true →
      Moves s (.remove i)
        { s with
          tasks := s.tasks.set i { t with pc := .finished, polled := false }
          inFlight := s.inFlight.erase t.seqnum }
  | recv {r : Response} {queue : List Response} :
      s.writer = .idle → s.queue = r :: queue → Moves s .recv { s with writer := .writing r, queue }
  | write {r : Response} :
      s.writer = .writing r → Moves s .write { s with writer := .idle, wire := s.wire ++ [r] }
  | writeFail {r : Response} :
      s.writer = .writing r → Moves s .writeFail { s with writer := .exited }
  | close :
      s.writer = .idle → s.queue = [] → s.sendersGone = true →
      Moves s .close { s with writer := .exited }

/-- **Inversion.** A step is one of the moves above; every invariant of the session is proved
by cases on them, and none unfolds `step`. -/
theorem moves_of_step {s s' : Session} {a : Action} (h : s.step a = some s') : Moves s a s' := by
  cases a with
  | read =>
      simp only [step] at h
      split at h
      case isFalse => cases h
      case isTrue hready =>
        split at h
        case h_1 msg rest hread =>
          cases h
          cases msg with
          | cmdSubmit cmd => exact .readSubmit hready hread
          | cmdUnlink cmd => exact .readUnlink hready hread
          | retSubmit m => exact .readOther hready hread (by simp) (by simp)
          | retUnlink m => exact .readOther hready hread (by simp) (by simp)
        case h_2 =>
          cases h
          exact .readError (Or.inl rfl) hready
  | readFail =>
      simp only [step] at h
      split at h
      case isFalse => cases h
      case isTrue hready =>
        cases h
        exact .readError (Or.inr rfl) hready
  | insert =>
      simp only [step] at h
      split at h
      case h_2 => cases h
      case h_1 i hreader =>
        split at h
        case h_2 => cases h
        case h_1 t ht =>
          cases h
          exact .insert hreader ht
  | unlink =>
      simp only [step] at h
      split at h
      case h_2 => cases h
      case h_1 cmd hreader =>
        cases h
        unfold handleUnlink
        split
        case h_1 i hlookup => exact .unlinkFound hreader hlookup
        case h_2 hlookup => exact .unlinkMissing hreader hlookup
  | reply =>
      simp only [step] at h
      split at h
      case h_2 => cases h
      case h_1 cmd status hreader =>
        split at h
        case isTrue hclosed =>
          cases h
          exact .replyClosed hreader hclosed
        case isFalse hopen =>
          split at h
          case isFalse => cases h
          case isTrue =>
            cases h
            exact .replyPut hreader (by simpa using hopen)
  | cancelAll =>
      simp only [step] at h
      split at h
      case isFalse => cases h
      case isTrue hreader =>
        cases h
        exact .cancelAll hreader
  | join =>
      simp only [step] at h
      split at h
      case isFalse => cases h
      case isTrue hjoin =>
        cases h
        exact .join hjoin.1 hjoin.2
  | task i m =>
      simp only [step] at h
      split at h
      case h_2 => cases h
      case h_1 t ht =>
        obtain ⟨t', hmove, rfl⟩ := Option.map_eq_some_iff.mp h
        exact .task ht hmove
  | send i =>
      simp only [step] at h
      split at h
      case h_2 => cases h
      case h_1 t ht =>
        split at h
        case h_2 => cases h
        case h_1 answer hpc =>
          split at h
          case isTrue => cases h
          case isFalse hpolled =>
            have hpolled : t.polled = true := by simpa using hpolled
            split at h
            case isTrue hclosed =>
              cases h
              exact .sendClosed ht hpc hpolled hclosed
            case isFalse hopen =>
              split at h
              case isFalse => cases h
              case isTrue =>
                cases h
                exact .sendPut ht hpc hpolled (by simpa using hopen)
  | remove i =>
      simp only [step] at h
      split at h
      case h_2 => cases h
      case h_1 t ht =>
        split at h
        case isFalse => cases h
        case isTrue hrem =>
          cases h
          exact .remove ht hrem.2 hrem.1
  | recv =>
      simp only [step] at h
      split at h
      case h_2 => cases h
      case h_1 r queue hwriter hqueue =>
        cases h
        exact .recv hwriter hqueue
  | write =>
      simp only [step] at h
      split at h
      case h_2 => cases h
      case h_1 r hwriter =>
        cases h
        exact .write hwriter
  | writeFail =>
      simp only [step] at h
      split at h
      case h_2 => cases h
      case h_1 r hwriter =>
        cases h
        exact .writeFail hwriter
  | close =>
      simp only [step] at h
      split at h
      case isFalse => cases h
      case isTrue hclose =>
        cases h
        exact .close hclose.1 hclose.2.1 hclose.2.2

/-- **Evolution.** In every step every task stays where it is in the list and evolves, so an
index names one task for the whole run. -/
theorem Moves.evolves {s s' : Session} {a : Action} (hmove : Moves s a s') {j : Nat} {u : Task}
    (hu : s.tasks[j]? = some u) : At s'.tasks j u.Evolves := by
  have hself : At s.tasks j u.Evolves := ⟨u, hu, .refl u⟩
  have hset : ∀ {i : Nat} {t t' : Task}, s.tasks[i]? = some t → t.Evolves t' →
      At (s.tasks.set i t') j u.Evolves := by
    intro i t t' ht hev
    by_cases hij : i = j
    · subst hij
      rw [hu] at ht
      cases ht
      exact At.set_self hu hev
    · exact hself.set_ne hij t'
  cases hmove with
  | readSubmit => exact hself.append _
  | @unlinkFound cmd i =>
      by_cases hij : i = j
      · subst hij
        exact ⟨u.abort, by simp [hu], .abort u⟩
      · exact hself.modify_ne hij _
  | cancelAll =>
      refine ⟨if j ∈ s.inFlight.entries.map (·.2) then u.abort else u, ?_, ?_⟩
      · simp [abortAll, List.getElem?_mapIdx, hu]
      · by_cases hj : j ∈ s.inFlight.entries.map (·.2)
        · rw [if_pos hj]
          exact .abort u
        · rw [if_neg hj]
          exact .refl u
  | task ht hmove => exact hset ht (.of_move hmove)
  | sendClosed ht hpc hpolled => exact hset ht (.of_polled hpolled rfl (by simp [Task.BeforeSend]))
  | sendPut ht hpc hpolled => exact hset ht (.of_polled hpolled rfl (by simp [Task.BeforeSend]))
  | remove ht hpc hpolled => exact hset ht (.of_polled hpolled rfl (by simp [Task.BeforeSend]))
  | readUnlink => exact hself
  | readOther => exact hself
  | readError => exact hself
  | insert => exact hself
  | unlinkMissing => exact hself
  | replyClosed => exact hself
  | replyPut => exact hself
  | join => exact hself
  | recv => exact hself
  | write => exact hself
  | writeFail => exact hself
  | close => exact hself

/-- The reader has left its loop: it cancels what is left, waits for the writer, or is over. -/
def PastLoop (reader : ReaderPc) : Prop :=
  reader = .cleanup ∨ reader = .joining ∨ reader = .returned

instance (reader : ReaderPc) : Decidable (PastLoop reader) :=
  inferInstanceAs (Decidable (reader = .cleanup ∨ reader = .joining ∨ reader = .returned))

/-- Outside its loop the reader reads nothing more: no task is added. -/
theorem PastLoop.moves {s s' : Session} {a : Action} (h : PastLoop s.reader)
    (hmove : Moves s a s') : PastLoop s'.reader ∧ s'.tasks.length = s.tasks.length := by
  cases hmove with
  | readSubmit hreader => simp [PastLoop, hreader] at h
  | readUnlink hreader => simp [PastLoop, hreader] at h
  | readOther hreader => simp [PastLoop, hreader] at h
  | readError _ hreader => simp [PastLoop, hreader] at h
  | insert hreader => simp [PastLoop, hreader] at h
  | unlinkFound hreader => simp [PastLoop, hreader] at h
  | unlinkMissing hreader => simp [PastLoop, hreader] at h
  | replyClosed hreader => simp [PastLoop, hreader] at h
  | replyPut hreader => simp [PastLoop, hreader] at h
  | cancelAll => exact ⟨Or.inr (Or.inl rfl), by simp [abortAll]⟩
  | join => exact ⟨Or.inr (Or.inr rfl), rfl⟩
  | task => exact ⟨h, List.length_set⟩
  | sendClosed => exact ⟨h, List.length_set⟩
  | sendPut => exact ⟨h, List.length_set⟩
  | remove => exact ⟨h, List.length_set⟩
  | recv => exact ⟨h, rfl⟩
  | write => exact ⟨h, rfl⟩
  | writeFail => exact ⟨h, rfl⟩
  | close => exact ⟨h, rfl⟩

/-! ### The response channel -/

/-- The responses put into the channel, in order, with those that the client has received
already. -/
def puts (trace : List Event) : List Response :=
  trace.filterMap fun
    | .put r => some r
    | .read _ => none

/-- The messages read, in order; what is behind them in the stream has not been looked at. -/
def reads (trace : List Event) : List UrbMessage :=
  trace.filterMap fun
    | .read msg => some msg
    | .put _ => none

/-- What was put is what the client has received, then what is under way; once the
writer has gone the rest is lost. -/
def Channel (writer : WriterPc) (queue wire : List Response) (trace : List Event) : Prop :=
  match writer with
  | .idle => puts trace = wire ++ queue
  | .writing r => puts trace = wire ++ r :: queue
  | .exited => wire <+: puts trace

@[simp] theorem puts_append (trace trace' : List Event) :
    puts (trace ++ trace') = puts trace ++ puts trace' := List.filterMap_append

@[simp] theorem reads_append (trace trace' : List Event) :
    reads (trace ++ trace') = reads trace ++ reads trace' := List.filterMap_append

@[simp] theorem puts_put (r : Response) : puts [.put r] = [r] := rfl

@[simp] theorem puts_read (msg : UrbMessage) : puts [.read msg] = [] := rfl

@[simp] theorem reads_read (msg : UrbMessage) : reads [.read msg] = [msg] := rfl

@[simp] theorem reads_put (r : Response) : reads [.put r] = [] := rfl

theorem mem_puts {trace : List Event} {r : Response} : r ∈ puts trace ↔ .put r ∈ trace := by
  simp only [puts, List.mem_filterMap]
  constructor
  · rintro ⟨e, he, hr⟩
    cases e with
    | read msg => cases hr
    | put r' =>
        cases hr
        exact he
  · intro h
    exact ⟨.put r, h, rfl⟩

theorem Channel.read {writer : WriterPc} {queue wire : List Response} {trace : List Event}
    (h : Channel writer queue wire trace) (msg : UrbMessage) :
    Channel writer queue wire (trace ++ [.read msg]) := by
  cases writer with
  | idle => simpa [Channel] using h
  | writing r => simpa [Channel] using h
  | exited => simpa [Channel] using h

/-- A response put into the open channel goes to the end of the queue. -/
theorem Channel.put {writer : WriterPc} {queue wire : List Response} {trace : List Event}
    (h : Channel writer queue wire trace) (hopen : writer ≠ .exited) (r : Response) :
    Channel writer (queue ++ [r]) wire (trace ++ [.put r]) := by
  cases writer with
  | idle =>
      unfold Channel at h ⊢
      rw [puts_append, h, puts_put, List.append_assoc]
  | writing r' =>
      unfold Channel at h ⊢
      rw [puts_append, h, puts_put, List.append_assoc, List.cons_append]
  | exited => exact absurd rfl hopen

theorem Channel.moves {s s' : Session} {a : Action}
    (h : Channel s.writer s.queue s.wire s.trace) (hmove : Moves s a s') :
    Channel s'.writer s'.queue s'.wire s'.trace := by
  cases hmove with
  | readSubmit => exact h.read _
  | readUnlink => exact h.read _
  | readOther => exact h.read _
  | replyPut _ hopen => exact h.put (by simpa [isOpen] using hopen) _
  | sendPut _ _ _ hopen => exact h.put (by simpa [isOpen] using hopen) _
  | recv hwriter hqueue =>
      rw [hwriter, hqueue] at h
      exact h
  | @write r hwriter =>
      rw [hwriter] at h
      unfold Channel at h ⊢
      rw [h, List.append_assoc, List.singleton_append]
  | @writeFail r hwriter =>
      rw [hwriter] at h
      unfold Channel at h ⊢
      rw [h]
      exact List.prefix_append _ _
  | close hwriter hqueue =>
      rw [hwriter, hqueue] at h
      unfold Channel at h ⊢
      rw [h, List.append_nil]
  | readError => exact h
  | insert => exact h
  | unlinkFound => exact h
  | unlinkMissing => exact h
  | replyClosed => exact h
  | cancelAll => exact h
  | join => exact h
  | task => exact h
  | sendClosed => exact h
  | remove => exact h

/-! ### Submissions and tasks -/

/-- The sequence numbers of the submissions among some messages, which clients are to choose
apart. -/
def submitSeqnums (msgs : List UrbMessage) : List UInt32 :=
  msgs.filterMap fun
    | .cmdSubmit cmd => some cmd.header.seqnum
    | _ => none

/-- There is one task for each submission read, in order: nothing else spawns tasks, and none
is taken away. -/
theorem submitSeqnums_moves {s s' : Session} {a : Action}
    (h : submitSeqnums (reads s.trace) = s.tasks.map Task.seqnum) (hmove : Moves s a s') :
    submitSeqnums (reads s'.trace) = s'.tasks.map Task.seqnum := by
  have hset : ∀ {i : Nat} {t t' : Task}, s.tasks[i]? = some t → t'.seqnum = t.seqnum →
      (s.tasks.set i t').map Task.seqnum = s.tasks.map Task.seqnum := by
    intro i t t' ht hseq
    obtain ⟨hlt, rfl⟩ := List.getElem?_eq_some_iff.mp ht
    rw [List.map_set, hseq, ← List.getElem_map Task.seqnum (h := by simpa using hlt),
      List.set_getElem_self]
  cases hmove with
  | readSubmit => simp [submitSeqnums, ← h, Task.spawn, Task.seqnum]
  | readUnlink => simpa [submitSeqnums] using h
  | @readOther msg _ _ _ hsubmit =>
      have hnone : submitSeqnums [msg] = [] := by
        cases msg with
        | cmdSubmit cmd => exact absurd rfl (hsubmit cmd)
        | retSubmit m => rfl
        | cmdUnlink m => rfl
        | retUnlink m => rfl
      simp only [submitSeqnums] at h hnone ⊢
      simp only [reads_append, reads_read, List.filterMap_append, hnone, List.append_nil, h]
  | unlinkFound =>
      rw [h]
      refine List.ext_getElem? fun j => ?_
      simp only [List.getElem?_map, List.getElem?_modify]
      cases s.tasks[j]? with
      | none => rfl
      | some t => simp [apply_ite Task.seqnum]
  | cancelAll =>
      rw [h]
      refine List.ext_getElem? fun j => ?_
      simp only [abortAll, List.getElem?_map, List.getElem?_mapIdx]
      cases s.tasks[j]? with
      | none => rfl
      | some t => simp [apply_ite Task.seqnum]
  | task ht hmove =>
      exact h.trans (hset ht (congrArg (·.header.seqnum) (Task.move_cmd hmove))).symm
  | sendClosed ht => exact h.trans (hset ht (by rfl)).symm
  | sendPut ht =>
      simp only [reads_append, reads_put, List.append_nil]
      exact h.trans (hset ht (by rfl)).symm
  | remove ht => exact h.trans (hset ht (by rfl)).symm
  | replyPut => simpa using h
  | readError => exact h
  | insert => exact h
  | unlinkMissing => exact h
  | replyClosed => exact h
  | join => exact h
  | recv => exact h
  | write => exact h
  | writeFail => exact h
  | close => exact h

theorem Moves.trace_prefix {s s' : Session} {a : Action} (hmove : Moves s a s') :
    s.trace <+: s'.trace := by
  cases hmove with
  | readSubmit => exact List.prefix_append _ _
  | readUnlink => exact List.prefix_append _ _
  | readOther => exact List.prefix_append _ _
  | replyPut => exact List.prefix_append _ _
  | sendPut => exact List.prefix_append _ _
  | readError => exact List.prefix_rfl
  | insert => exact List.prefix_rfl
  | unlinkFound => exact List.prefix_rfl
  | unlinkMissing => exact List.prefix_rfl
  | replyClosed => exact List.prefix_rfl
  | cancelAll => exact List.prefix_rfl
  | join => exact List.prefix_rfl
  | task => exact List.prefix_rfl
  | sendClosed => exact List.prefix_rfl
  | remove => exact List.prefix_rfl
  | recv => exact List.prefix_rfl
  | write => exact List.prefix_rfl
  | writeFail => exact List.prefix_rfl
  | close => exact List.prefix_rfl

/-- No two submissions read so far have the same sequence number, as the protocol asks of a
client. -/
def DistinctSubmits (s : Session) : Prop := (submitSeqnums (reads s.trace)).Nodup

instance (s : Session) : Decidable s.DistinctSubmits :=
  inferInstanceAs (Decidable (submitSeqnums (reads s.trace)).Nodup)

theorem DistinctSubmits.of_moves {s s' : Session} {a : Action} (h : s'.DistinctSubmits)
    (hmove : Moves s a s') : s.DistinctSubmits := by
  have hprefix : submitSeqnums (reads s.trace) <+: submitSeqnums (reads s'.trace) :=
    (hmove.trace_prefix.filterMap _).filterMap _
  exact h.sublist hprefix.sublist

theorem index_eq_of_seqnum {tasks : List Task} (h : (tasks.map Task.seqnum).Nodup) {i j : Nat}
    {t u : Task} (ht : tasks[i]? = some t) (hu : tasks[j]? = some u)
    (hseq : t.seqnum = u.seqnum) : i = j := by
  have hlt : i < (tasks.map Task.seqnum).length := by
    rw [List.length_map]
    exact (List.getElem?_eq_some_iff.mp ht).1
  refine (List.getElem?_inj hlt h).mp ?_
  rw [List.getElem?_map, List.getElem?_map, ht, hu, Option.map_some, Option.map_some, hseq]

/-- **The invariant rule for clients with distinct sequence numbers.** A property that a step
keeps, as long as the tasks have different numbers, holds along every run of such a client. -/
theorem run_invariant_distinct {guard : Session → Action → Prop} (Inv : Session → Prop)
    (keeps : ∀ s a s', (s.tasks.map Task.seqnum).Nodup → Inv s → guard s a → Moves s a s' →
      Inv s')
    {input : List UInt8} {actions : List Action} {s : Session} (hstart : Inv (start input))
    (hmeets : Transition.Meets step guard (start input) actions)
    (hrun : Transition.run step (start input) actions = some s) (hdistinct : s.DistinctSubmits) :
    Inv s := by
  have hboth := Transition.run_invariant
    (fun s : Session => submitSeqnums (reads s.trace) = s.tasks.map Task.seqnum ∧
      (s.DistinctSubmits → Inv s)) ?_ ⟨rfl, fun _ => hstart⟩ hmeets hrun
  · exact hboth.2 hdistinct
  · rintro s a s' ⟨hspawned, hinv⟩ hguard hstep
    have hmove := moves_of_step hstep
    refine ⟨submitSeqnums_moves hspawned hmove, ?_⟩
    intro hdistinct'
    have hdistinct := hdistinct'.of_moves hmove
    refine keeps s a s' ?_ (hinv hdistinct) hguard hmove
    rw [← hspawned]
    exact hdistinct

/-- In every run the client has received a prefix of what was put: the writer keeps the order
and drops nothing between. -/
theorem wire_prefix_puts {input : List UInt8} {actions : List Action} {s : Session}
    (hrun : Transition.run step (start input) actions = some s) : s.wire <+: puts s.trace := by
  have hstart : Channel .idle [] [] [] := rfl
  have hchannel : Channel s.writer s.queue s.wire s.trace :=
    Transition.run_invariant_of_step
      (fun s : Session => Channel s.writer s.queue s.wire s.trace)
      (fun _ _ _ h hstep => h.moves (moves_of_step hstep)) hstart hrun
  cases hwriter : s.writer with
  | idle =>
      rw [hwriter] at hchannel
      exact ⟨s.queue, hchannel.symm⟩
  | writing r =>
      rw [hwriter] at hchannel
      exact ⟨r :: s.queue, hchannel.symm⟩
  | exited =>
      rw [hwriter] at hchannel
      exact hchannel

end Session

end Extender.Server
