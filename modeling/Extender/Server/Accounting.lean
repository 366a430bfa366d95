/-
Requests and responses of a session, counted.

The protocol has no acknowledgements: a client knows that the server has dealt with a request
by the response to it. `requests_conserved` says what it may rely on, whatever it sends and
however the tasks are scheduled. Every response answers a request of its own, and unlinks are
answered in order. As long as the writer is there, a request without a response is a transfer
that is still running, an unlink the reader is busy with, or a transfer that was dropped
because an unlink named it or the session is ending.

Messages are counted as multisets, since a client may send the same request twice and both are
answered. The books (`Books`) have one column for each place a request can be in: answered,
with a task, with the reader, or lost because the writer had gone; every step moves a request
from one to the next, and none appears or disappears.

A task that has put its reply can still be dropped, so where it stands does not say whether it
has answered. The invariant carries that bit beside each task (`Marked`).

* `Books.moves`, `UnlinksInOrder.moves`, `Stops.moves` — the three invariants, step by step.
* `requests_conserved` — what they say of a whole run.
-/

import Mathlib.Algebra.Order.Group.Multiset
import Mathlib.Tactic.Abel
import Extender.Server.Completion

namespace Extender.Server

open Indexed Extender.Protocol

/-! ### What is counted -/

/-- The request a response answers, as a message of the client. -/
def Response.request : Response → UrbMessage
  | .submitted cmd _ => .cmdSubmit cmd
  | .unlinked cmd _ => .cmdUnlink cmd

namespace Session

/-- The message is a request. -/
def IsRequest : UrbMessage → Bool
  | .cmdSubmit _ | .cmdUnlink _ => true
  | .retSubmit _ | .retUnlink _ => false

/-- The requests among some messages; other messages are read and passed over. -/
def requests (msgs : List UrbMessage) : List UrbMessage := msgs.filter IsRequest

/-- The unlinks among some messages. -/
def unlinkRequests (msgs : List UrbMessage) : List CmdUnlink :=
  msgs.filterMap fun
    | .cmdUnlink cmd => some cmd
    | _ => none

/-- The unlinks some responses answer. -/
def answeredUnlinks (responses : List Response) : List CmdUnlink :=
  responses.filterMap fun
    | .unlinked cmd _ => some cmd
    | .submitted _ _ => none

/-- The unlink the reader has read and not answered, if it has one in hand. -/
def underway : ReaderPc → List CmdUnlink
  | .unlinking cmd => [cmd]
  | .replying cmd _ => [cmd]
  | _ => []

/-- The responses on their way through the channel, the one the writer has in hand
included. -/
def inChannel (s : Session) : List Response :=
  match s.writer with
  | .writing r => r :: s.queue
  | _ => s.queue

/-! ### Tasks with their answers -/

/-- A task, and whether it has put its reply or tried to; the mark is history, and no party
reads it. -/
abbrev Marked : Type := Task × Bool

/-- Where a task stands, by whether it has answered: before its send, or behind it. -/
def Fits (p : Marked) : Prop :=
  if p.2 then p.1.pc = .removing ∨ p.1.pc = .finished ∨ p.1.pc = .dropped
  else p.1.BeforeSend ∨ p.1.pc = .dropped

/-- The submission of a task that has not answered. -/
def Marked.open (p : Marked) : List UrbMessage := if p.2 then [] else [.cmdSubmit p.1.cmd]

/-- The submissions of the tasks that have not answered, be they at work, aborted or
dropped. -/
def unanswered (marked : List Marked) : List UrbMessage := marked.flatMap Marked.open

theorem unanswered_eq (marked : List Marked) :
    unanswered marked = (marked.filter fun p => !p.2).map fun p => .cmdSubmit p.1.cmd := by
  induction marked with
  | nil => rfl
  | cons p marked ih =>
      obtain ⟨t, answered⟩ := p
      cases answered with
      | true => exact ih
      | false => exact congrArg (UrbMessage.cmdSubmit t.cmd :: ·) ih

theorem fits_spawn (cmd : CmdSubmit) : Fits (Task.spawn cmd, false) := Or.inl (Or.inl rfl)

theorem Fits.move {t t' : Task} {answered : Bool} {m : Task.Move} (h : Fits (t, answered))
    (hmove : t.move m = some t') : Fits (t', answered) := by
  cases answered with
  | true =>
      have hpc : t.pc = .removing ∨ t.pc = .finished ∨ t.pc = .dropped := h
      show t'.pc = .removing ∨ t'.pc = .finished ∨ t'.pc = .dropped
      unfold Task.move at hmove
      grind
  | false =>
      have hpc : t.BeforeSend ∨ t.pc = .dropped := h
      show t'.BeforeSend ∨ t'.pc = .dropped
      unfold Task.move at hmove
      unfold Task.BeforeSend at hpc ⊢
      grind

/-- A marked list is changed where its task is changed. -/
theorem exists_split {marked : List Marked} {i : Nat} {t : Task}
    (ht : (marked.map Prod.fst)[i]? = some t) :
    ∃ answered before after, marked = before ++ (t, answered) :: after ∧
      ∀ p : Marked, (marked.map Prod.fst).set i p.1 = (before ++ p :: after).map Prod.fst := by
  rw [List.getElem?_map] at ht
  obtain ⟨⟨u, answered⟩, hp, rfl⟩ := Option.map_eq_some_iff.mp ht
  obtain ⟨hlt, hget⟩ := List.getElem?_eq_some_iff.mp hp
  refine ⟨answered, marked.take i, marked.drop (i + 1), ?_, ?_⟩
  · rw [← hget, ← List.drop_eq_getElem_cons hlt, List.take_append_drop]
  · intro p
    rw [← List.map_set, List.set_eq_take_append_cons_drop, if_pos hlt]

/-- Messages, without their order: what is conserved is how often each request was made. -/
def tally (msgs : List UrbMessage) : Multiset UrbMessage := msgs

@[simp] theorem tally_nil : tally [] = 0 := rfl

@[simp] theorem tally_append (msgs msgs' : List UrbMessage) :
    tally (msgs ++ msgs') = tally msgs + tally msgs' := (Multiset.coe_add msgs msgs').symm

/-- The books of a session: a request that was read has been answered, belongs to a task
that has not answered, is with the reader, or was lost when the writer had gone. -/
structure Books (reader : ReaderPc) (tasks : List Task) (trace : List Event) (isOpen : Bool)
    (marked : List Marked) (lost : List UrbMessage) : Prop where
  tasks_eq : marked.map Prod.fst = tasks
  fits : ∀ p ∈ marked, Fits p
  balance : tally ((puts trace).map Response.request) + tally (unanswered marked) +
      tally ((underway reader).map .cmdUnlink) + tally lost = tally (requests (reads trace))
  lost_nil : isOpen = true → lost = []

namespace Books

variable {reader : ReaderPc} {tasks : List Task} {trace : List Event} {isOpen : Bool}
  {marked : List Marked} {lost : List UrbMessage}

/-- The reader goes on with the unlink it has, or with none. -/
theorem goOn (h : Books reader tasks trace isOpen marked lost) {reader' : ReaderPc}
    (hsame : underway reader' = underway reader) :
    Books reader' tasks trace isOpen marked lost :=
  ⟨h.tasks_eq, h.fits, by rw [hsame]; exact h.balance, h.lost_nil⟩

theorem closed (h : Books reader tasks trace isOpen marked lost) :
    Books reader tasks trace false marked lost := ⟨h.tasks_eq, h.fits, h.balance, nofun⟩

theorem read (h : Books .ready tasks trace isOpen marked lost) (msg : UrbMessage)
    (reader' : ReaderPc) (marked' : List Marked) (hfits : ∀ p ∈ marked', Fits p)
    (hmsg : tally (unanswered marked') + tally ((underway reader').map .cmdUnlink) =
      tally (requests [msg])) :
    Books reader' (tasks ++ marked'.map Prod.fst) (trace ++ [.read msg]) isOpen
      (marked ++ marked') lost := by
  refine ⟨by rw [List.map_append, h.tasks_eq], ?_, ?_, h.lost_nil⟩
  · intro p hp
    exact (List.mem_append.mp hp).elim (h.fits p) (hfits p)
  · have hbalance := h.balance
    simp only [unanswered, List.flatMap_append, puts_append, puts_read, List.append_nil,
      reads_append, reads_read, requests, List.filter_append, tally_append] at hbalance hmsg ⊢
    rw [← hbalance, ← hmsg]
    simp only [underway, List.map_nil, tally_nil]
    abel

/-- A task is changed and has answered, if at all, then as it had before; the books stay as
they are. -/
theorem setTask (h : Books reader tasks trace isOpen marked lost) {i : Nat} {t : Task} (t' : Task)
    (ht : tasks[i]? = some t) (hcmd : t'.cmd = t.cmd)
    (hfits : ∀ answered, Fits (t, answered) → Fits (t', answered)) :
    ∃ marked', Books reader (tasks.set i t') trace isOpen marked' lost := by
  obtain ⟨htasks, hfit, hbalance, hlost⟩ := h
  subst htasks
  obtain ⟨answered, before, after, rfl, hset⟩ := exists_split ht
  refine ⟨before ++ (t', answered) :: after, (hset (t', answered)).symm, ?_, ?_, hlost⟩
  · intro p hp
    rcases List.mem_append.mp hp with hbefore | hafter
    · exact hfit p (List.mem_append_left _ hbefore)
    · rcases List.mem_cons.mp hafter with rfl | hafter
      · exact hfits answered (hfit _ (List.mem_append_right _ List.mem_cons_self))
      · exact hfit p (List.mem_append_right _ (List.mem_cons_of_mem _ hafter))
  · rw [← hbalance]
    simp only [unanswered, List.flatMap_append, List.flatMap_cons, Marked.open, hcmd]

/-- A task sends its reply: into the channel, or after the writer has gone, when the reply is
lost. -/
theorem answer (h : Books reader tasks trace isOpen marked lost) {i : Nat} {t : Task}
    (ht : tasks[i]? = some t) {ans : Option UsbAnswer} (hpc : t.pc = .sending ans) (t' : Task)
    (hpc' : t'.pc = .removing) (events : List Event) (lost' : List UrbMessage)
    (hevents : reads events = [])
    (hcount : tally ((puts events).map Response.request) + tally lost' =
      tally lost + tally [.cmdSubmit t.cmd]) (hlost' : isOpen = true → lost' = []) :
    ∃ marked', Books reader (tasks.set i t') (trace ++ events) isOpen marked' lost' := by
  obtain ⟨htasks, hfit, hbalance, hlost⟩ := h
  subst htasks
  obtain ⟨answered, before, after, rfl, hset⟩ := exists_split ht
  obtain rfl : answered = false := by
    have hthis := hfit _ (List.mem_append_right before List.mem_cons_self)
    cases answered with
    | false => rfl
    | true => simp [Fits, hpc] at hthis
  refine ⟨before ++ (t', true) :: after, (hset (t', true)).symm, ?_, ?_, hlost'⟩
  · intro p hp
    rcases List.mem_append.mp hp with hbefore | hafter
    · exact hfit p (List.mem_append_left _ hbefore)
    · rcases List.mem_cons.mp hafter with rfl | hafter
      · exact Or.inl hpc'
      · exact hfit p (List.mem_append_right _ (List.mem_cons_of_mem _ hafter))
  · rw [reads_append, hevents, List.append_nil, ← hbalance]
    simp only [unanswered, List.flatMap_append, List.flatMap_cons, Marked.open, puts_append,
      List.map_append, tally_append, if_true, Bool.false_eq_true, if_false, List.nil_append]
    calc _ = tally ((puts trace).map Response.request) +
          tally (List.flatMap Marked.open before) + tally (List.flatMap Marked.open after) +
          tally ((underway reader).map .cmdUnlink) +
          (tally ((puts events).map Response.request) + tally lost') := by abel
      _ = _ := by rw [hcount]; abel

/-- Tasks are told to stop: they stay where they are. -/
theorem abort (h : Books reader tasks trace isOpen marked lost) (chosen : Nat → Prop)
    [DecidablePred chosen] :
    ∃ marked', Books reader (tasks.mapIdx fun i t => if chosen i then t.abort else t) trace isOpen
      marked' lost := by
  obtain ⟨htasks, hfit, hbalance, hlost⟩ := h
  subst htasks
  have hopen : ∀ (i : Nat) (p : Marked),
      Marked.open (if chosen i then p.1.abort else p.1, p.2) = p.open := by
    intro i p
    by_cases hi : chosen i
    · rw [if_pos hi]
      rfl
    · rw [if_neg hi]
  have hmap : (marked.mapIdx fun i p => (if chosen i then p.1.abort else p.1, p.2)).map
      Marked.open = marked.map Marked.open := by
    refine List.ext_getElem? fun i => ?_
    rw [List.getElem?_map, List.getElem?_mapIdx, List.getElem?_map, Option.map_map]
    exact Option.map_congr fun p _ => hopen i p
  refine ⟨marked.mapIdx fun i p => (if chosen i then p.1.abort else p.1, p.2), ?_, ?_, ?_, hlost⟩
  · refine List.ext_getElem? fun i => ?_
    simp only [List.getElem?_map, List.getElem?_mapIdx, Option.map_map]
    rfl
  · intro p hp
    obtain ⟨i, hlt, rfl⟩ := List.mem_mapIdx.mp hp
    have hold := hfit _ (List.getElem_mem hlt)
    by_cases hi : chosen i
    · rw [if_pos hi]
      exact hold
    · rw [if_neg hi]
      exact hold
  · rw [← hbalance, unanswered, List.flatMap_def, hmap, ← List.flatMap_def, ← unanswered]

/-- The reader is done with its unlink: the reply is in the channel, or the writer had gone. -/
theorem reply {cmd : CmdUnlink} {status : Int32}
    (h : Books (.replying cmd status) tasks trace isOpen marked lost) {reader' : ReaderPc}
    (hreader' : underway reader' = []) (events : List Event) (lost' : List UrbMessage)
    (hevents : reads events = [])
    (hcount : tally ((puts events).map Response.request) + tally lost' =
      tally lost + tally [.cmdUnlink cmd]) (hlost' : isOpen = true → lost' = []) :
    Books reader' tasks (trace ++ events) isOpen marked lost' := by
  refine ⟨h.tasks_eq, h.fits, ?_, hlost'⟩
  rw [reads_append, hevents, List.append_nil, ← h.balance]
  rw [hreader', puts_append, List.map_append, tally_append]
  show _ + tally (unanswered marked) + tally [] + _ = _ + _ + tally [.cmdUnlink cmd] + _
  rw [tally_nil]
  calc _ = tally ((puts trace).map Response.request) + tally (unanswered marked) +
        (tally ((puts events).map Response.request) + tally lost') := by abel
    _ = _ := by rw [hcount]; abel

theorem moves {s s' : Session} {a : Action}
    (h : Books s.reader s.tasks s.trace s.isOpen marked lost) (hmove : Moves s a s') :
    ∃ marked' lost', Books s'.reader s'.tasks s'.trace s'.isOpen marked' lost' := by
  cases hmove with
  | @readSubmit cmd rest hready hread =>
      rw [hready] at h
      have hfits : ∀ p ∈ [((Task.spawn cmd, false) : Marked)], Fits p := by
        simpa using fits_spawn cmd
      exact ⟨_, _, h.read (.cmdSubmit cmd) (.inserting s.tasks.length) _ hfits (add_zero _)⟩
  | @readUnlink cmd rest hready hread =>
      rw [hready] at h
      have hnext := h.read (.cmdUnlink cmd) (.unlinking cmd) [] (by simp) (zero_add _)
      rw [List.map_nil, List.append_nil] at hnext
      exact ⟨_, _, hnext⟩
  | @readOther msg rest hready hread hsubmit hunlink =>
      rw [hready] at h
      have hother : requests [msg] = [] := by
        cases msg with
        | cmdSubmit cmd => exact absurd rfl (hsubmit cmd)
        | cmdUnlink cmd => exact absurd rfl (hunlink cmd)
        | retSubmit m => rfl
        | retUnlink m => rfl
      have hnext := h.read msg .ready [] (by simp) (by rw [hother]; rfl)
      rw [List.map_nil, List.append_nil] at hnext
      rw [← hready] at hnext
      exact ⟨_, _, hnext⟩
  | readError _ hready => exact ⟨_, _, h.goOn (by rw [hready]; rfl)⟩
  | insert hreader => exact ⟨_, _, h.goOn (by rw [hreader]; rfl)⟩
  | @unlinkFound cmd i hreader hfound =>
      obtain ⟨marked', hnext⟩ := h.abort (i = ·)
      have htasks : s.tasks.modify i Task.abort =
          s.tasks.mapIdx fun j t => if i = j then t.abort else t := by
        refine List.ext_getElem? fun j => ?_
        rw [List.getElem?_modify, List.getElem?_mapIdx]
        rfl
      refine ⟨marked', lost, ?_⟩
      show Books _ (s.tasks.modify i Task.abort) _ _ _ _
      rw [htasks]
      exact hnext.goOn (by rw [hreader]; rfl)
  | unlinkMissing hreader => exact ⟨_, _, h.goOn (by rw [hreader]; rfl)⟩
  | @replyClosed cmd status hreader hclosed =>
      rw [hreader] at h
      have hleft : underway .cleanup = [] := rfl
      have hnext := h.reply hleft [] (lost ++ [.cmdUnlink cmd]) rfl (by simp [puts])
        (by simp [hclosed])
      rw [List.append_nil] at hnext
      exact ⟨_, _, hnext⟩
  | @replyPut cmd status hreader hopen =>
      rw [hreader] at h
      have hlost := h.lost_nil hopen
      have hleft : underway .ready = [] := rfl
      exact ⟨_, _, h.reply hleft _ [] rfl (by simp [hlost, Response.request]) fun _ => rfl⟩
  | cancelAll hreader =>
      obtain ⟨marked', hnext⟩ := h.abort (· ∈ s.inFlight.entries.map (·.2))
      exact ⟨marked', lost, hnext.goOn (by rw [hreader]; rfl)⟩
  | join hreader => exact ⟨_, _, h.goOn (by rw [hreader]; rfl)⟩
  | task ht hmove =>
      obtain ⟨marked', hnext⟩ :=
        h.setTask _ ht (Task.move_cmd hmove) fun _ hfits => hfits.move hmove
      exact ⟨marked', lost, hnext⟩
  | @sendClosed i t answer ht hpc _ hclosed =>
      obtain ⟨marked', hnext⟩ := h.answer ht hpc { t with pc := .removing } rfl []
        (lost ++ [.cmdSubmit t.cmd]) rfl (by simp [puts]) (by simp [hclosed])
      rw [List.append_nil] at hnext
      exact ⟨marked', _, hnext⟩
  | @sendPut i t answer ht hpc _ hopen =>
      have hlost := h.lost_nil hopen
      obtain ⟨marked', hnext⟩ := h.answer ht hpc { t with pc := .removing } rfl
        [.put (.submitted t.cmd answer)] [] rfl (by simp [hlost, Response.request]) fun _ => rfl
      exact ⟨marked', _, hnext⟩
  | @remove i t ht hpc _ =>
      obtain ⟨marked', hnext⟩ := h.setTask { t with pc := .finished, polled := false } ht rfl (by
        intro answered hfits
        cases answered with
        | true => exact Or.inr (Or.inl rfl)
        | false => simp [Fits, hpc, Task.BeforeSend] at hfits)
      exact ⟨marked', lost, hnext⟩
  | recv hwriter =>
      have hopen : s.isOpen = true := by simp [isOpen, hwriter]
      exact ⟨marked, lost, h.tasks_eq, h.fits, h.balance, fun _ => h.lost_nil hopen⟩
  | write hwriter =>
      have hopen : s.isOpen = true := by simp [isOpen, hwriter]
      exact ⟨marked, lost, h.tasks_eq, h.fits, h.balance, fun _ => h.lost_nil hopen⟩
  | writeFail => exact ⟨_, _, h.closed⟩
  | close => exact ⟨_, _, h.closed⟩

end Books

/-! ### Unlinks -/

/-- Unlinks are answered in the order they were read; only a reader that has left its loop
has an unlink it did not answer. -/
def UnlinksInOrder (reader : ReaderPc) (trace : List Event) : Prop :=
  ∃ lost, unlinkRequests (reads trace) = answeredUnlinks (puts trace) ++ (underway reader ++ lost) ∧
    (¬ PastLoop reader → lost = [])

namespace UnlinksInOrder

variable {reader : ReaderPc} {trace : List Event}

theorem goOn (h : UnlinksInOrder reader trace) {reader' : ReaderPc}
    (hsame : underway reader' = underway reader) (hloop : ¬ PastLoop reader' → ¬ PastLoop reader) :
    UnlinksInOrder reader' trace := by
  obtain ⟨lost, heq, hlost⟩ := h
  exact ⟨lost, by rw [hsame]; exact heq, fun hin => hlost (hloop hin)⟩

theorem read (h : UnlinksInOrder .ready trace) (msg : UrbMessage) {reader' : ReaderPc}
    (hreader' : underway reader' = unlinkRequests [msg]) :
    UnlinksInOrder reader' (trace ++ [.read msg]) := by
  obtain ⟨lost, heq, hlost⟩ := h
  obtain rfl := hlost (by simp [PastLoop])
  refine ⟨[], ?_, fun _ => rfl⟩
  rw [hreader', reads_append, reads_read, puts_append, puts_read, List.append_nil,
    List.append_nil, unlinkRequests, List.filterMap_append, ← unlinkRequests, heq]
  exact congrArg (· ++ _) (List.append_nil _)

theorem put_submitted (h : UnlinksInOrder reader trace) (cmd : CmdSubmit)
    (answer : Option UsbAnswer) :
    UnlinksInOrder reader (trace ++ [.put (.submitted cmd answer)]) := by
  obtain ⟨lost, heq, hlost⟩ := h
  refine ⟨lost, ?_, hlost⟩
  have hanswered : answeredUnlinks (puts trace ++ [.submitted cmd answer]) =
      answeredUnlinks (puts trace) := by
    rw [answeredUnlinks, List.filterMap_append]
    exact List.append_nil _
  rw [reads_append, reads_put, List.append_nil, heq, puts_append, puts_put, hanswered]

theorem moves {s s' : Session} {a : Action} (h : UnlinksInOrder s.reader s.trace)
    (hmove : Moves s a s') : UnlinksInOrder s'.reader s'.trace := by
  cases hmove with
  | readSubmit hready =>
      rw [hready] at h
      exact h.read _ rfl
  | readUnlink hready =>
      rw [hready] at h
      exact h.read _ rfl
  | @readOther msg rest hready hread hsubmit hunlink =>
      rw [hready] at h
      show UnlinksInOrder s.reader _
      rw [hready]
      refine h.read msg ?_
      cases msg with
      | cmdSubmit cmd => rfl
      | cmdUnlink cmd => exact absurd rfl (hunlink cmd)
      | retSubmit m => rfl
      | retUnlink m => rfl
  | readError _ hready => exact h.goOn (by rw [hready]; rfl) (by simp [PastLoop])
  | insert hreader => exact h.goOn (by rw [hreader]; rfl) (by simp [PastLoop, hreader])
  | unlinkFound hreader => exact h.goOn (by rw [hreader]; rfl) (by simp [PastLoop, hreader])
  | unlinkMissing hreader => exact h.goOn (by rw [hreader]; rfl) (by simp [PastLoop, hreader])
  | @replyClosed cmd status hreader =>
      rw [hreader] at h
      obtain ⟨lost, heq, -⟩ := h
      exact ⟨cmd :: lost, heq, fun hin => absurd (Or.inl rfl) hin⟩
  | @replyPut cmd status hreader =>
      rw [hreader] at h
      obtain ⟨lost, heq, hlost⟩ := h
      obtain rfl := hlost (by simp [PastLoop])
      refine ⟨[], ?_, fun _ => rfl⟩
      simp only [reads_append, reads_put, List.append_nil, heq, puts_append, puts_put,
        answeredUnlinks, List.filterMap_append, underway]
      rfl
  | cancelAll hreader => exact h.goOn (by rw [hreader]; rfl) (by simp [PastLoop])
  | join hreader => exact h.goOn (by rw [hreader]; rfl) (by simp [PastLoop])
  | sendPut => exact h.put_submitted _ _
  | task => exact h
  | sendClosed => exact h
  | remove => exact h
  | recv => exact h
  | write => exact h
  | writeFail => exact h
  | close => exact h

end UnlinksInOrder

/-! ### Dropped tasks -/

/-- A task is dropped because it was told to stop, and it is told to stop by an unlink that
names it or at the end of the session. -/
structure StoppedFor (reader : ReaderPc) (trace : List Event) (t : Task) : Prop where
  dropped : t.pc = .dropped → t.aborted = true
  aborted : t.aborted = true →
    Unlinks (reads trace) t.seqnum ∨ reader = .joining ∨ reader = .returned

/-- Every task was stopped for a reason that is in the history, and the entries of the table
lead to tasks of their own number. -/
structure Stops (reader : ReaderPc) (tasks : List Task)
    (inFlight : AList (fun _ : UInt32 => Nat)) (trace : List Event) : Prop where
  keys : ∀ q i, inFlight.lookup q = some i → At tasks i fun t => t.seqnum = q
  unlinking : ∀ cmd, reader = .unlinking cmd → .cmdUnlink cmd ∈ reads trace
  tasks : All tasks fun _ t => StoppedFor reader trace t

theorem StoppedFor.mono {reader reader' : ReaderPc} {trace trace' : List Event} {t : Task}
    (h : StoppedFor reader trace t) (htrace : reads trace ⊆ reads trace')
    (hreader : reader = .joining ∨ reader = .returned →
      reader' = .joining ∨ reader' = .returned) : StoppedFor reader' trace' t :=
  ⟨h.dropped, fun haborted => (h.aborted haborted).imp
    (fun ⟨cmd, hmem, hseq⟩ => ⟨cmd, htrace hmem, hseq⟩) hreader⟩

theorem StoppedFor.move {reader : ReaderPc} {trace : List Event} {t t' : Task} {m : Task.Move}
    (h : StoppedFor reader trace t) (hmove : t.move m = some t') :
    StoppedFor reader trace t' := by
  have hseq : t'.seqnum = t.seqnum := congrArg (·.header.seqnum) (Task.move_cmd hmove)
  obtain ⟨hdropped, haborted⟩ := h
  unfold Task.move at hmove
  constructor
  · grind
  · rw [hseq]
    grind

/-- A task that goes on to its end is stopped no more than it was. -/
theorem StoppedFor.pass {reader : ReaderPc} {trace : List Event} {t t' : Task}
    (h : StoppedFor reader trace t) (hcmd : t'.cmd = t.cmd) (haborted : t'.aborted = t.aborted)
    (hpc : t'.pc ≠ .dropped) : StoppedFor reader trace t' := by
  refine ⟨fun hdropped => absurd hdropped hpc, ?_⟩
  rw [Task.seqnum, hcmd, haborted]
  exact h.aborted

namespace Stops

variable {reader : ReaderPc} {tasks : List Task} {inFlight : AList (fun _ : UInt32 => Nat)}
  {trace : List Event}

theorem goOn (h : Stops reader tasks inFlight trace) {reader' : ReaderPc}
    (hunlinking : ∀ cmd, reader' ≠ .unlinking cmd)
    (hreader : reader = .joining ∨ reader = .returned →
      reader' = .joining ∨ reader' = .returned) : Stops reader' tasks inFlight trace :=
  ⟨h.keys, fun cmd hcmd => absurd hcmd (hunlinking cmd),
    h.tasks.imp fun _ _ _ ht => ht.mono (List.Subset.refl _) hreader⟩

theorem setTask (h : Stops reader tasks inFlight trace) {i : Nat} {t t' : Task}
    (ht : tasks[i]? = some t) (hseq : t'.seqnum = t.seqnum)
    (hstopped : StoppedFor reader trace t → StoppedFor reader trace t') :
    Stops reader (tasks.set i t') inFlight trace := by
  refine ⟨?_, h.unlinking, h.tasks.set (hstopped (h.tasks i t ht))⟩
  intro q j hlookup
  exact (h.keys q j hlookup).set ht fun hq => hseq.trans hq

theorem erase (h : Stops reader tasks inFlight trace) (q : UInt32) :
    Stops reader tasks (inFlight.erase q) trace := by
  refine ⟨?_, h.unlinking, h.tasks⟩
  intro q' i hlookup
  by_cases hq : q' = q
  · subst hq
    simp only [AList.lookup_erase] at hlookup
    cases hlookup
  · rw [AList.lookup_erase_ne hq] at hlookup
    exact h.keys q' i hlookup

theorem put (h : Stops reader tasks inFlight trace) (r : Response) :
    Stops reader tasks inFlight (trace ++ [.put r]) := by
  have hreads : reads (trace ++ [.put r]) = reads trace := by
    rw [reads_append, reads_put, List.append_nil]
  refine ⟨h.keys, ?_, h.tasks.imp fun _ _ _ ht => ht.mono ?_ id⟩
  · rw [hreads]
    exact h.unlinking
  · rw [hreads]
    exact List.Subset.refl _

theorem read (h : Stops reader tasks inFlight trace) (msg : UrbMessage) {reader' : ReaderPc}
    (hready : reader = .ready)
    (hunlinking : ∀ cmd, reader' = .unlinking cmd → msg = .cmdUnlink cmd) :
    Stops reader' tasks inFlight (trace ++ [.read msg]) := by
  refine ⟨h.keys, ?_, h.tasks.imp fun _ _ _ ht => ht.mono ?_ ?_⟩
  · intro cmd hcmd
    rw [reads_append, reads_read, hunlinking cmd hcmd]
    exact List.mem_append_right _ (List.mem_singleton.mpr rfl)
  · rw [reads_append]
    exact List.subset_append_left _ _
  · rw [hready]
    rintro (hjoining | hreturned)
    · cases hjoining
    · cases hreturned

theorem spawn (h : Stops reader tasks inFlight trace) (cmd : CmdSubmit) :
    Stops reader (tasks ++ [Task.spawn cmd]) inFlight trace :=
  ⟨fun q i hlookup => (h.keys q i hlookup).append _, h.unlinking,
    h.tasks.append ⟨nofun, nofun⟩⟩

theorem found {cmd : CmdUnlink} {i : Nat} (h : Stops (.unlinking cmd) tasks inFlight trace)
    (hfound : inFlight.lookup cmd.unlinkSeqnum = some i) (status : Int32) :
    Stops (.replying cmd status) (tasks.modify i Task.abort) (inFlight.erase cmd.unlinkSeqnum)
      trace := by
  refine Stops.erase ⟨?_, by simp, ?_⟩ _
  · intro q j hlookup
    obtain ⟨t, ht, hq⟩ := h.keys q j hlookup
    by_cases hij : i = j
    · subst hij
      exact ⟨t.abort, by simp [ht], hq⟩
    · exact At.modify_ne ⟨t, ht, hq⟩ hij _
  · intro j t ht
    rw [List.getElem?_modify] at ht
    obtain ⟨u, hu, rfl⟩ := Option.map_eq_some_iff.mp ht
    have hold : StoppedFor (.replying cmd status) trace u :=
      (h.tasks j u hu).mono (List.Subset.refl _) (by simp)
    by_cases hij : i = j
    · subst hij
      rw [if_pos rfl]
      obtain ⟨u', hu', hq⟩ := h.keys _ _ hfound
      rw [hu] at hu'
      cases hu'
      exact ⟨fun _ => rfl, fun _ => Or.inl ⟨cmd, h.unlinking cmd rfl, hq.symm⟩⟩
    · rw [if_neg hij]
      exact hold

theorem moves {s s' : Session} {a : Action} (h : Stops s.reader s.tasks s.inFlight s.trace)
    (hmove : Moves s a s') : Stops s'.reader s'.tasks s'.inFlight s'.trace := by
  cases hmove with
  | readSubmit hready => exact (h.read _ hready (by simp)).spawn _
  | readUnlink hready =>
      refine h.read _ hready ?_
      intro cmd hcmd
      cases hcmd
      rfl
  | readOther hready =>
      refine h.read _ hready ?_
      simp [hready]
  | readError _ hready => exact h.goOn (by simp) (by simp [hready])
  | @insert i t hreader ht =>
      refine ⟨?_, nofun, (h.goOn (by simp) (by simp [hreader])).tasks⟩
      intro q j hlookup
      by_cases hq : q = t.seqnum
      · subst hq
        simp only [AList.lookup_insert, Option.some.injEq] at hlookup
        subst hlookup
        exact ⟨t, ht, rfl⟩
      · rw [AList.lookup_insert_ne hq] at hlookup
        exact h.keys q j hlookup
  | unlinkFound hreader hfound =>
      rw [hreader] at h
      exact h.found hfound _
  | unlinkMissing hreader => exact h.goOn (by simp) (by simp [hreader])
  | replyClosed hreader => exact h.goOn (by simp) (by simp [hreader])
  | replyPut hreader =>
      exact (h.put _).goOn (by simp) (by simp [hreader])
  | cancelAll hreader =>
      refine ⟨by simp, nofun, ?_⟩
      have hjoining : All s.tasks fun _ t => StoppedFor .joining s.trace t := by
        intro i t ht
        exact (h.tasks i t ht).mono (List.Subset.refl _) (by simp [hreader])
      refine hjoining.mapIdx ?_
      intro i t ht
      by_cases hi : i ∈ s.inFlight.entries.map (·.2)
      · rw [if_pos hi]
        exact ⟨fun _ => rfl, fun _ => Or.inr (Or.inl rfl)⟩
      · rw [if_neg hi]
        exact ht
  | join hreader => exact h.goOn (by simp) (by simp)
  | task ht hmove =>
      exact h.setTask ht (congrArg (·.header.seqnum) (Task.move_cmd hmove)) fun hs => hs.move hmove
  | @sendClosed i t _ ht => exact h.setTask ht rfl fun hs => hs.pass rfl rfl (by simp)
  | @sendPut i t _ ht =>
      refine Stops.put ?_ _
      exact h.setTask ht rfl fun hs => hs.pass rfl rfl (by simp)
  | @remove i t ht =>
      refine Stops.erase ?_ _
      exact h.setTask ht rfl fun hs => hs.pass rfl rfl (by simp)
  | recv => exact h
  | write => exact h
  | writeFail => exact h
  | close => exact h

end Stops

/-! ### Every run -/

/-- What was put is what the client has, then what is in the channel, as long as there is a
writer. -/
theorem puts_eq_of_open {s : Session} (h : Channel s.writer s.queue s.wire s.trace)
    (hopen : s.isOpen = true) : puts s.trace = s.wire ++ s.inChannel := by
  unfold inChannel
  cases hwriter : s.writer with
  | idle =>
      rw [hwriter] at h
      exact h
  | writing r =>
      rw [hwriter] at h
      exact h
  | exited => simp [isOpen, hwriter] at hopen

/-- **Conservation of requests.** In every run, whatever the client sends, the responses it
has received answer different requests it made, its unlinks in order. While the writer is
there, what has been answered or is in the channel, what is unanswered and the unlink the
reader is busy with are together exactly the requests that were read; an unanswered
transfer is still on its way to its reply, or was dropped for an unlink that names it or
because the session is ending. -/
theorem requests_conserved {input : List UInt8} {actions : List Action} {s : Session}
    (hrun : Transition.run step (start input) actions = some s) :
    (s.wire.map Response.request).Subperm (requests (reads s.trace)) ∧
    answeredUnlinks s.wire <+: unlinkRequests (reads s.trace) ∧
    (s.isOpen = true → ∃ unanswered : List Task, unanswered.Sublist s.tasks ∧
      (∀ t ∈ unanswered, t.BeforeSend ∨ t.pc = .dropped ∧
        (Unlinks (reads s.trace) t.seqnum ∨ s.reader = .joining ∨ s.reader = .returned)) ∧
      ((s.wire ++ s.inChannel).map Response.request ++
        unanswered.map (fun t => UrbMessage.cmdSubmit t.cmd) ++
        (underway s.reader).map UrbMessage.cmdUnlink).Perm (requests (reads s.trace))) := by
  obtain ⟨marked, lost, hbooks⟩ := Transition.run_invariant_of_step
    (fun s : Session => ∃ marked lost, Books s.reader s.tasks s.trace s.isOpen marked lost)
    (fun _ _ _ ⟨_, _, h⟩ hstep => h.moves (moves_of_step hstep))
    ⟨[], [], ⟨rfl, by simp, rfl, fun _ => rfl⟩⟩ hrun
  obtain ⟨leftOver, hunlinks, -⟩ := Transition.run_invariant_of_step
    (fun s : Session => UnlinksInOrder s.reader s.trace)
    (fun _ _ _ h hstep => h.moves (moves_of_step hstep)) ⟨[], rfl, fun _ => rfl⟩ hrun
  have hstops₀ : Stops .ready [] ∅ [] := ⟨by simp, by simp, by simp [All]⟩
  have hstops : Stops s.reader s.tasks s.inFlight s.trace := Transition.run_invariant_of_step
    (fun s : Session => Stops s.reader s.tasks s.inFlight s.trace)
    (fun _ _ _ h hstep => h.moves (moves_of_step hstep)) hstops₀ hrun
  have hchannel₀ : Channel .idle [] [] [] := rfl
  have hchannel : Channel s.writer s.queue s.wire s.trace := Transition.run_invariant_of_step
    (fun s : Session => Channel s.writer s.queue s.wire s.trace)
    (fun _ _ _ h hstep => h.moves (moves_of_step hstep)) hchannel₀ hrun
  have hwire := wire_prefix_puts hrun
  refine ⟨?_, ?_, ?_⟩
  · have hle : tally ((puts s.trace).map Response.request) ≤ tally (requests (reads s.trace)) := by
      rw [← hbooks.balance, add_assoc, add_assoc]
      exact Multiset.le_add_right _ _
    exact (hwire.sublist.map _).subperm.trans (Multiset.coe_le.mp hle)
  · refine (hwire.filterMap _).trans ⟨underway s.reader ++ leftOver, ?_⟩
    exact hunlinks.symm
  · intro hopen
    refine ⟨(marked.filter fun p => !p.2).map Prod.fst, ?_, ?_, ?_⟩
    · rw [← hbooks.tasks_eq]
      exact List.filter_sublist.map _
    · intro t ht
      obtain ⟨p, hp, rfl⟩ := List.mem_map.mp ht
      obtain ⟨hmem, hopen⟩ := List.mem_filter.mp hp
      have hfits := hbooks.fits p hmem
      rw [Fits, if_neg (by simpa using hopen)] at hfits
      refine hfits.imp_right fun hdropped => ⟨hdropped, ?_⟩
      have htask : p.1 ∈ s.tasks := by
        rw [← hbooks.tasks_eq]
        exact List.mem_map_of_mem hmem
      obtain ⟨i, hi⟩ := List.mem_iff_getElem?.mp htask
      have hstopped := hstops.tasks i p.1 hi
      exact hstopped.aborted (hstopped.dropped hdropped)
    · have hbalance := hbooks.balance
      rw [hbooks.lost_nil hopen, tally_nil, add_zero, puts_eq_of_open hchannel hopen,
        unanswered_eq, ← tally_append, ← tally_append] at hbalance
      rw [List.map_map]
      exact Multiset.coe_eq_coe.mp hbalance

/-- A transfer that was unlinked in time: the unlink is answered, the transfer is not. -/
theorem requests_conserved_cancelledInTime :
    ∃ s, Transition.run step (start submitThenUnlink) cancelledInTime = some s ∧
      s.wire = [.unlinked (sampleUnlink 2 1) ECONNRESET] ∧
      (s.wire.map Response.request).Subperm (requests (reads s.trace)) := by
  obtain ⟨s, hrun, hwire⟩ :=
    Transition.exists_run_of_any step (start submitThenUnlink) cancelledInTime
      (fun s => s.wire = [.unlinked (sampleUnlink 2 1) ECONNRESET]) (by decide +kernel)
  exact ⟨s, hrun, hwire, (requests_conserved hrun).1⟩

end Session

end Extender.Server
