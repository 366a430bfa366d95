/-
Which answer a class driver takes for which submission.

A session is a driver in use: calls of its methods one after the other, each of which may be
dropped where it waits, and the messages of the server, which arrive in chunks. A call reads
whatever message comes next, so that an answer to a call that was dropped is taken by a later
one: a read that is given up leaves a message behind, and from then on every call gets the
answer to the one before it.

The run is orderly when every message is sent under the number of the read that takes it, and
no call is dropped, and no write fails, while a message is still unread. This is a condition
on what the server and the caller do, in the state before they do it. A server that answers
each submission once, in turn and under its own number, meets it, should no call be dropped
while it waits.

The pairing is an invariant of the session (`Session.Tracked`): no byte of the stream is lost,
and each message that was sent and is not read yet answers the read that will take it. The
number of that read can be told in advance, since a method numbers its submissions in a row
and waits for the answer to each (`Lib.Dialogue`, `Lib.Peer`). That is all that is used of the
five drivers, and `replies_paired` is about any of them.

* `replies_paired` — in an orderly run, for each of the five drivers, the calls that return
  `Ok` have used the answers to their own submissions only.
* `Session.orderly_of_inTurn` — the runs of a server that answers in turn are orderly.
* `late_reply_misused` — the answer to a report that was given up is returned as the next
  report.
-/

import Extender.Client.Audio
import Extender.Client.Hid
import Extender.Client.MassStorage
import Extender.Client.Network
import Extender.Client.Serial
import Extender.Lib.Inbound
import Extender.Lib.Indexed
import Extender.Lib.Transition

namespace Extender.Client

open ByteReader Dialogue Extender.Protocol

/-! ### Sessions -/

/-- A message read, with the submission of the step it was read for. -/
structure Exchange where
  submission : Option CmdSubmit
  message : UrbMessage
deriving DecidableEq, Repr

/-- A call in progress: where it waits, the submission of its current step, and what it has
read so far. -/
structure Running (δ : Type) where
  point : Point (ClassDevice δ) CmdSubmit (Except Failure UrbMessage) DriverError Output
  submission : Option CmdSubmit
  exchanges : List Exchange

/-- A call that has returned: its result, and what it read for which submission. -/
structure Returned where
  result : Except DriverError Output
  exchanges : List Exchange

/-- A driver in use. `device` is what the last call left; `sent` and `received` are the
messages the server has sent and those read, `written` the bytes sent to it. -/
structure Session (δ : Type) where
  device : ClassDevice δ
  call : Option (Running δ)
  inbound : Inbound
  sent : List UrbMessage
  received : List UrbMessage
  written : List UInt8
  returned : List Returned

/-- What happens next. A write that does not end well, and a call dropped in one, has written
the first `k` bytes; a read that fails has used up `k` of those that have arrived. -/
inductive Action (μ : Type) where
  | start (m : μ)
  | written
  | writeFailed (k : Nat)
  | drop (k : Nat)
  | send (msg : UrbMessage) (chunks : List (List UInt8))
  | arrive
  | close
  | poll (k : Nat)

namespace Session

variable {δ : Type}

/-- Right after `connect`: no call is running, and nothing has been sent either way. -/
def connected (devid : UInt32) (fields : δ) : Session δ :=
  { device := { devid, nextSeqnum := 1, fields }, call := none, inbound := .start [], sent := []
    received := [], written := [], returned := [] }

/-- The call has come to its next point: it returns, it begins to write a submission, or it
waits for a message. -/
def goOn (s : Session δ) (r : Running δ) : Session δ :=
  match r.point with
  | .done device result =>
    { s with device, call := none
             returned := s.returned ++ [{ result, exchanges := r.exchanges }] }
  | .write _ request _ => { s with call := some { r with submission := some request } }
  | .read _ _ => { s with call := some r }

/-- The bytes of a submission that is being written. -/
def inWriting (r : Running δ) : List UInt8 :=
  match r.point with
  | .write _ request _ => request.encode
  | _ => []

/-- One move of a session; there is none where the call does not wait for it. -/
def step (D : Driver) (s : Session D.Fields) : Action D.Method → Option (Session D.Fields)
  | .start m =>
    match s.call with
    | none => some (s.goOn { point := D.script m s.device, submission := none, exchanges := [] })
    | some _ => none
  | .written =>
    match s.call with
    | some ⟨.write _ request next, submission, exchanges⟩ =>
      some ({ s with written := s.written ++ request.encode }.goOn
        { point := next true, submission, exchanges })
    | _ => none
  | .writeFailed k =>
    match s.call with
    | some ⟨.write _ request next, submission, exchanges⟩ =>
      some ({ s with written := s.written ++ request.encode.take k }.goOn
        { point := next false, submission, exchanges })
    | _ => none
  | .drop k =>
    match s.call with
    | none => none
    | some r =>
      some { s with device := r.point.state, call := none, inbound := s.inbound.cancel
                    written := s.written ++ (inWriting r).take k }
  | .send msg chunks =>
    if msg.WellFormed ∧ chunks.flatten = msg.encode ∧ s.inbound.closed = false then
      some { s with sent := s.sent ++ [msg]
                    inbound := { s.inbound with chunks := s.inbound.chunks ++ chunks } }
    else none
  | .arrive => s.inbound.arrive.map fun inbound => { s with inbound }
  | .close => s.inbound.close.map fun inbound => { s with inbound }
  | .poll k =>
    match s.call with
    | some ⟨.read _ next, submission, exchanges⟩ =>
      match s.inbound.poll readUrbMessage Failure.IsEof with
      | (.done message, inbound) =>
        some ({ s with inbound, received := s.received ++ [message] }.goOn
          { point := next (.ok message), submission
            exchanges := exchanges ++ [Exchange.mk submission message] })
      | (.pending, inbound) => some { s with inbound }
      | (.failed e, inbound) =>
        some ({ s with
                inbound :=
                  { inbound with socket := (s.inbound.taken ++ s.inbound.socket).drop k } }.goOn
          { point := next (.error e), submission, exchanges })
    | _ => none

/-! ### Orderly runs -/

/-- The number of the `k`-th read from now on, should no call be dropped. -/
def expects (s : Session δ) (k : Nat) : UInt32 :=
  match s.call with
  | none => numberAfter^[k] s.device.nextSeqnum
  | some r =>
    match k with
    | 0 => (r.submission.map fun q => q.header.seqnum).getD 0
    | k + 1 => numberAfter^[k] r.point.state.nextSeqnum

end Session

/-- A message that does no harm when it is read for the submission `n`: a `RET_SUBMIT` under
that number, or one that ends the call. -/
def Answers (n : UInt32) : UrbMessage → Prop
  | .retSubmit ret => ret.status = 0 → ret.header.seqnum = n
  | _ => True

instance (n : UInt32) : DecidablePred (Answers n)
  | .retSubmit _ => inferInstanceAs (Decidable (_ → _))
  | .cmdSubmit _ => isTrue trivial
  | .cmdUnlink _ => isTrue trivial
  | .retUnlink _ => isTrue trivial

/-- The server answers the reads in turn, and a call is given up only between messages. -/
def Orderly {δ μ : Type} (s : Session δ) : Action μ → Prop
  | .send msg _ => Answers (s.expects (s.sent.length - s.received.length)) msg
  | .writeFailed _ => s.received.length = s.sent.length
  | .drop _ => s.received.length = s.sent.length
  | _ => True

instance {δ μ : Type} (s : Session δ) : ∀ a : Action μ, Decidable (Orderly s a)
  | .send _ _ => inferInstanceAs (Decidable (Answers _ _))
  | .writeFailed _ => inferInstanceAs (Decidable (_ = _))
  | .drop _ => inferInstanceAs (Decidable (_ = _))
  | .start _ => isTrue trivial
  | .written => isTrue trivial
  | .arrive => isTrue trivial
  | .close => isTrue trivial
  | .poll _ => isTrue trivial

/-- The message is a `RET_SUBMIT` with the number of the submission it was read for. -/
def Exchange.Paired (e : Exchange) : Prop :=
  match e.submission, e.message with
  | some q, .retSubmit ret => ret.header.seqnum = q.header.seqnum
  | _, _ => False

instance : DecidablePred Exchange.Paired
  | ⟨some _, .retSubmit _⟩ => inferInstanceAs (Decidable (_ = _))
  | ⟨some _, .cmdSubmit _⟩ => isFalse id
  | ⟨some _, .cmdUnlink _⟩ => isFalse id
  | ⟨some _, .retUnlink _⟩ => isFalse id
  | ⟨none, _⟩ => isFalse id

/-- A call that returns `Ok` has used the answers to its own submissions, each for the step
that asked for it. -/
def Returned.Paired (r : Returned) : Prop :=
  r.result.isOk = true → ∀ e ∈ r.exchanges, e.Paired

instance : DecidablePred Returned.Paired := fun r =>
  have := List.decidableBAll Exchange.Paired r.exchanges
  inferInstanceAs (Decidable (_ → _))

/-! ### What holds along a run -/

/-- A call in progress waits for its submission to be written or for the answer to it. -/
inductive Running.Tracked {δ : Type} : Running δ → Prop where
  | writing {d : ClassDevice δ} {q : CmdSubmit} {next : Bool → Point _ _ _ _ _}
      {exchanges : List Exchange}
      (hpaced : (Point.write d q next).Paced seqnums .idle .idle q.header.seqnum)
      (hpaired : ∀ e ∈ exchanges, e.Paired) :
      Tracked ⟨.write d q next, some q, exchanges⟩
  | reading {d : ClassDevice δ} {q : CmdSubmit} {next : _ → Point _ _ _ _ _}
      {exchanges : List Exchange}
      (hpaced : (Point.read d next).Paced seqnums .idle .awaiting d.nextSeqnum)
      (hpaired : ∀ e ∈ exchanges, e.Paired) :
      Tracked ⟨.read d next, some q, exchanges⟩

/-- Nothing is lost, every unread message answers the read that will take it, and so did
those read before. -/
structure Session.Tracked {δ : Type} (s : Session δ) : Prop where
  intact : Intact readUrbMessage Failure.IsEof UrbMessage.encode s.sent s.received s.inbound
  wellFormed : ∀ m ∈ s.sent, m.WellFormed
  due : Indexed.All (s.sent.drop s.received.length) fun k m => Answers (s.expects k) m
  running : ∀ r, s.call = some r → r.Tracked
  paired : ∀ r ∈ s.returned, r.Paired

namespace Session

variable {δ : Type} {s : Session δ}

/-- A call that is not waiting for an answer comes to a point from which the submissions are
numbered on from `n`. -/
theorem goOn_idle {r : Running δ} {n : UInt32} (hpaced : r.point.Paced seqnums .idle .idle n)
    (hpaired : r.point.Failed ∨ ∀ e ∈ r.exchanges, e.Paired)
    (hreturned : ∀ r ∈ s.returned, r.Paired) :
    (∀ k, (s.goOn r).expects k = numberAfter^[k] n) ∧
      (∀ r', (s.goOn r).call = some r' → r'.Tracked) ∧
      ∀ r' ∈ (s.goOn r).returned, r'.Paired := by
  obtain ⟨point, submission, exchanges⟩ := r
  cases point with
  | done d result =>
      refine ⟨fun k => ?_, ?_, ?_⟩
      · have hcounter : d.nextSeqnum = n := by
          cases result with
          | ok a => exact hpaced.2
          | error e => exact hpaced.2
        rw [← hcounter]
        rfl
      · intro r' hr'
        cases hr'
      · intro r' hr'
        rcases List.mem_append.mp hr' with hmem | hlast
        · exact hreturned r' hmem
        · rw [List.mem_singleton] at hlast
          rw [hlast]
          intro hok
          rcases hpaired with ⟨d', e, hfailed⟩ | hall
          · cases hfailed
            cases hok
          · exact hall
  | write d request next =>
      obtain ⟨hnumber, hcounter, -, -⟩ := id hpaced
      have hq : request.header.seqnum = n := hnumber
      have hall : ∀ e ∈ exchanges, e.Paired := by
        rcases hpaired with ⟨d', e, hfailed⟩ | hall
        · cases hfailed
        · exact hall
      refine ⟨fun k => ?_, ?_, hreturned⟩
      · cases k with
        | zero => exact hq
        | succ k =>
            show numberAfter^[k] d.nextSeqnum = numberAfter^[k] (numberAfter n)
            exact congrArg _ hcounter
      · intro r' hr'
        cases hr'
        subst hq
        exact .writing hpaced hall
  | read d next => exact hpaced.elim

/-- Going on sends nothing on behalf of the server. -/
@[simp] theorem sent_goOn (s : Session δ) (r : Running δ) : (s.goOn r).sent = s.sent := by
  unfold goOn
  split <;> rfl

@[simp] theorem received_goOn (s : Session δ) (r : Running δ) :
    (s.goOn r).received = s.received := by
  unfold goOn
  split <;> rfl

@[simp] theorem inbound_goOn (s : Session δ) (r : Running δ) :
    (s.goOn r).inbound = s.inbound := by
  unfold goOn
  split <;> rfl

namespace Tracked

/-- A call moves on while it waits for nothing. -/
theorem goOn {r : Running δ} {n : UInt32}
    (hintact : Intact readUrbMessage Failure.IsEof UrbMessage.encode s.sent s.received s.inbound)
    (hwf : ∀ m ∈ s.sent, m.WellFormed)
    (hdue : Indexed.All (s.sent.drop s.received.length) fun k m => Answers (numberAfter^[k] n) m)
    (hreturned : ∀ r ∈ s.returned, r.Paired)
    (hpaced : r.point.Paced seqnums .idle .idle n)
    (hpaired : r.point.Failed ∨ ∀ e ∈ r.exchanges, e.Paired) : (s.goOn r).Tracked := by
  obtain ⟨hexpects, hrunning, hpaired'⟩ := goOn_idle hpaced hpaired hreturned
  refine ⟨?_, ?_, ?_, hrunning, hpaired'⟩
  · rw [sent_goOn, received_goOn, inbound_goOn]
    exact hintact
  · rw [sent_goOn]
    exact hwf
  · rw [sent_goOn, received_goOn]
    simp only [hexpects]
    exact hdue

/-- With nothing unread, no message is out of turn. -/
theorem unread_nil (hall : s.received.length = s.sent.length) (Q : Nat → UrbMessage → Prop) :
    Indexed.All (s.sent.drop s.received.length) Q := by
  rw [hall, List.drop_length]
  intro k m hm
  cases hm

/-- A call begins: it runs to the first point where it waits. -/
theorem start {D : Driver} {s s' : Session D.Fields} (h : s.Tracked) (m : D.Method)
    (hstep : s.step D (.start m) = some s') : s'.Tracked := by
  simp only [step] at hstep
  split at hstep
  · rename_i hcall
    cases hstep
    have hdue := h.due
    simp only [expects, hcall] at hdue
    refine goOn h.intact h.wellFormed hdue h.paired (D.paced m s.device) (Or.inr ?_)
    intro e he
    cases he
  · cases hstep

/-- A submission is written: what comes next waits for its answer. -/
theorem written {D : Driver} {s s' : Session D.Fields} (h : s.Tracked)
    (hstep : s.step D .written = some s') : s'.Tracked := by
  simp only [step] at hstep
  split at hstep
  · rename_i d q next submission exchanges hcall
    cases hstep
    cases h.running _ hcall with
    | writing hpaced hpaired =>
        obtain ⟨-, hcounter, hdone, -⟩ := hpaced
        -- what follows is the read of the answer
        obtain ⟨d', next', hread, hcounter'⟩ := hdone.exists_read
        have hsame : d'.nextSeqnum = d.nextSeqnum := hcounter'.trans hcounter.symm
        rw [hread]
        rw [hread, ← hcounter'] at hdone
        refine ⟨h.intact, h.wellFormed, ?_, ?_, h.paired⟩
        · intro k m hm
          have hanswers := h.due k m hm
          simp only [expects, hcall] at hanswers
          cases k with
          | zero => exact hanswers
          | succ k =>
              show Answers (numberAfter^[k] d'.nextSeqnum) m
              rw [hsame]
              exact hanswers
        · intro r hr
          cases hr
          exact .reading hdone hpaired
  · cases hstep

/-- A write fails when nothing is unread, and ends the call. -/
theorem writeFailed {D : Driver} {s s' : Session D.Fields} (h : s.Tracked) (k : Nat)
    (hall : s.received.length = s.sent.length)
    (hstep : s.step D (.writeFailed k) = some s') : s'.Tracked := by
  simp only [step] at hstep
  split at hstep
  · rename_i d q next submission exchanges hcall
    cases hstep
    cases h.running _ hcall with
    | writing hpaced hpaired =>
        obtain ⟨-, -, -, hfailed⟩ := hpaced
        exact goOn h.intact h.wellFormed (unread_nil hall _) h.paired hfailed (Or.inr hpaired)
  · cases hstep

/-- A call is given up when nothing is unread. -/
theorem drop {D : Driver} {s s' : Session D.Fields} (h : s.Tracked) (k : Nat)
    (hall : s.received.length = s.sent.length)
    (hstep : s.step D (.drop k) = some s') : s'.Tracked := by
  simp only [step] at hstep
  split at hstep
  · cases hstep
  · cases hstep
    obtain ⟨htaken, -, -⟩ := h.intact.bytes_eq_nil hall
    refine ⟨h.intact.cancel htaken, h.wellFormed, unread_nil hall _, ?_, h.paired⟩
    intro r hr
    cases hr

/-- A message is sent that answers the read which will take it. -/
theorem send {D : Driver} {s s' : Session D.Fields} (h : s.Tracked) (msg : UrbMessage)
    (chunks : List (List UInt8))
    (hanswers : Answers (s.expects (s.sent.length - s.received.length)) msg)
    (hstep : s.step D (.send msg chunks) = some s') : s'.Tracked := by
  simp only [step] at hstep
  split at hstep
  · rename_i hsend
    cases hstep
    refine ⟨h.intact.send hsend.2.1 hsend.2.2, ?_, ?_, h.running, h.paired⟩
    · intro m hm
      rcases List.mem_append.mp hm with hmem | hlast
      · exact h.wellFormed m hmem
      · rw [List.mem_singleton] at hlast
        rw [hlast]
        exact hsend.1
    · have hle : s.received.length ≤ s.sent.length := h.intact.handled_isPrefix.length_le
      show Indexed.All ((s.sent ++ [msg]).drop s.received.length) _
      rw [List.drop_append_of_le_length hle]
      refine h.due.append ?_
      rw [List.length_drop]
      exact hanswers
  · cases hstep

/-- The message read next is the first one unread, which is the one that was sent for this
read. -/
theorem head_unread {message : UrbMessage} {inbound : Inbound}
    (h : Intact readUrbMessage Failure.IsEof UrbMessage.encode s.sent (s.received ++ [message])
      inbound) :
    s.sent.drop s.received.length = message :: s.sent.drop (s.received ++ [message]).length := by
  obtain ⟨rest, hsent⟩ := h.handled_isPrefix
  rw [← hsent, List.drop_left, List.append_assoc, List.drop_left]
  rfl

/-- A call reads: the message is the one it was to get. -/
theorem poll {D : Driver} {s s' : Session D.Fields} (h : s.Tracked) (k : Nat)
    (hstep : s.step D (.poll k) = some s') : s'.Tracked := by
  simp only [step] at hstep
  split at hstep
  · rename_i d next submission exchanges hcall
    cases h.running _ hcall with
    | @reading _ q _ _ hpaced hpaired =>
        obtain ⟨-, hnext⟩ := hpaced
        rcases h.intact.poll readUrbMessage_framed h.wellFormed with
          ⟨message, inbound, hpoll, hintact⟩ | ⟨inbound, hpoll, hintact⟩ | ⟨e, inbound, hpoll, hall⟩
        · -- a message: it is the answer to the submission, or the call ends
          rw [hpoll] at hstep
          cases hstep
          have hdue := h.due
          rw [head_unread hintact] at hdue
          simp only [expects, hcall] at hdue
          refine goOn hintact h.wellFormed (fun k m hm => hdue (k + 1) m hm) h.paired
            (hnext (.ok message)).1 ?_
          by_cases haccepted : Accepted (.ok message)
          · refine Or.inr ?_
            obtain ⟨ret, hret, hstatus⟩ := haccepted
            cases hret
            intro e he
            rcases List.mem_append.mp he with hmem | hlast
            · exact hpaired e hmem
            · rw [List.mem_singleton] at hlast
              rw [hlast]
              exact hdue 0 _ rfl hstatus
          · exact Or.inl ((hnext (.ok message)).2 haccepted)
        · -- no whole message yet
          rw [hpoll] at hstep
          cases hstep
          exact ⟨hintact, h.wellFormed, h.due, h.running, h.paired⟩
        · -- the server has closed: nothing was left
          rw [hpoll] at hstep
          cases hstep
          have hlen : s.received.length = s.sent.length := by rw [hall]
          obtain ⟨htaken, hsocket, -⟩ := h.intact.bytes_eq_nil hlen
          have hdrop : (s.inbound.taken ++ s.inbound.socket).drop k = [] := by
            rw [htaken, hsocket]
            exact List.drop_nil
          have hempty : Intact readUrbMessage Failure.IsEof UrbMessage.encode s.sent s.received
              { s.inbound with taken := [], socket := [] } := by
            rw [Inbound.eq_of_empty htaken hsocket]
            exact h.intact
          rw [Inbound.eq_of_poll_failed hpoll, hdrop]
          refine goOn hempty h.wellFormed (unread_nil hlen _) h.paired (hnext (.error e)).1 ?_
          refine Or.inl ((hnext (.error e)).2 ?_)
          rintro ⟨ret, hret, -⟩
          cases hret
  · cases hstep

/-- One move: every kind of it keeps what holds along an orderly run. -/
theorem step {D : Driver} {s s' : Session D.Fields} {a : Action D.Method} (h : s.Tracked)
    (horderly : Orderly s a) (hstep : s.step D a = some s') : s'.Tracked := by
  cases a with
  | start m => exact h.start m hstep
  | written => exact h.written hstep
  | writeFailed k => exact h.writeFailed k horderly hstep
  | drop k => exact h.drop k horderly hstep
  | send msg chunks => exact h.send msg chunks horderly hstep
  | arrive =>
      obtain ⟨inbound, harrive, rfl⟩ := Option.map_eq_some_iff.mp hstep
      exact ⟨h.intact.arrive harrive, h.wellFormed, h.due, h.running, h.paired⟩
  | close =>
      obtain ⟨inbound, hclose, rfl⟩ := Option.map_eq_some_iff.mp hstep
      exact ⟨h.intact.close hclose, h.wellFormed, h.due, h.running, h.paired⟩
  | poll k => exact h.poll k hstep

end Tracked

theorem tracked_connected (devid : UInt32) (fields : δ) : (connected devid fields).Tracked where
  intact := Intact.start readUrbMessage_framed rfl
  wellFormed := by
    intro m hm
    cases hm
  due := by
    intro k m hm
    cases hm
  running := by
    intro r hr
    cases hr
  paired := by
    intro r hr
    cases hr

end Session

/-! ### Servers that answer in turn -/

/-- The call waits for an answer. -/
def Running.Waiting {δ : Type} (r : Running δ) : Prop := ∃ d next, r.point = .read d next

/-- The server sends nothing but the answer to the submission of a call that waits for it,
once and under the number of the submission; and no call is dropped while it waits. -/
def InTurn {δ μ : Type} (s : Session δ) : Action μ → Prop
  | .send msg _ => s.received.length = s.sent.length ∧
      ∃ r q ret, s.call = some r ∧ r.Waiting ∧ r.submission = some q ∧ msg = .retSubmit ret ∧
        ret.header.seqnum = q.header.seqnum
  | .drop _ => ∀ r, s.call = some r → ¬ r.Waiting
  | _ => True

namespace Session

/-- At most one message is unread, and then a call waits for it; a server that answers in turn
keeps it so. -/
def Prompt {δ : Type} (s : Session δ) : Prop :=
  s.received.length = s.sent.length ∨
    s.sent.length = s.received.length + 1 ∧ ∃ r, s.call = some r ∧ r.Waiting

section InTurn

variable {D : Driver} {s s' : Session D.Fields} {a : Action D.Method}

theorem Prompt.all_read {δ : Type} {s : Session δ} (h : s.Prompt)
    (hcall : ∀ r, s.call = some r → ¬ r.Waiting) : s.received.length = s.sent.length := by
  rcases h with hall | ⟨-, r, hr, hwaiting⟩
  · exact hall
  · exact absurd hwaiting (hcall r hr)

/-- With nothing unread, a call may come to whatever point is next. -/
theorem prompt_goOn {δ : Type} {s : Session δ} (hall : s.received.length = s.sent.length)
    (r : Running δ) : (s.goOn r).Prompt := by
  refine Or.inl ?_
  rw [sent_goOn, received_goOn]
  exact hall

theorem not_waiting_of_write {δ : Type} {s : Session δ} {d : ClassDevice δ} {q : CmdSubmit}
    {next : Bool → Point _ _ _ _ _} {submission : Option CmdSubmit} {exchanges : List Exchange}
    (hcall : s.call = some ⟨.write d q next, submission, exchanges⟩) :
    ∀ r, s.call = some r → ¬ r.Waiting := by
  rintro r hr ⟨d', next', hpoint⟩
  rw [hcall] at hr
  cases hr
  cases hpoint

/-- A step of such a server is orderly: its message is for the call that waits, and nothing is
unread when a call is dropped. -/
theorem Prompt.orderly (h : s.Prompt) (hturn : InTurn s a) (hstep : s.step D a = some s') :
    Orderly s a := by
  cases a with
  | send msg chunks =>
      obtain ⟨hall, r, q, ret, hcall, -, hq, rfl, hnumber⟩ := hturn
      intro _
      have hexpects : s.expects (s.sent.length - s.received.length) = q.header.seqnum := by
        rw [hall, Nat.sub_self, expects, hcall]
        simp only [hq]
        rfl
      rw [hexpects]
      exact hnumber
  | writeFailed k =>
      simp only [step] at hstep
      split at hstep
      · rename_i hcall
        exact h.all_read (not_waiting_of_write hcall)
      · cases hstep
  | drop k => exact h.all_read hturn
  | start m => trivial
  | written => trivial
  | arrive => trivial
  | close => trivial
  | poll k => trivial

/-- It leaves at most one message unread. -/
theorem Prompt.step (h : s.Prompt) (htracked : s.Tracked) (hturn : InTurn s a)
    (hstep : s.step D a = some s') : s'.Prompt := by
  cases a with
  | send msg chunks =>
      obtain ⟨hall, r, -, -, hcall, hwaiting, -⟩ := hturn
      simp only [Session.step] at hstep
      split at hstep
      · cases hstep
        refine Or.inr ⟨?_, r, hcall, hwaiting⟩
        show (s.sent ++ [msg]).length = s.received.length + 1
        rw [List.length_append, List.length_singleton, hall]
      · cases hstep
  | start m =>
      simp only [Session.step] at hstep
      split at hstep
      · rename_i hcall
        cases hstep
        have hall : s.received.length = s.sent.length := by
          refine h.all_read ?_
          intro r hr
          rw [hcall] at hr
          cases hr
        refine prompt_goOn ?_ _
        exact hall
      · cases hstep
  | written =>
      simp only [Session.step] at hstep
      split at hstep
      · rename_i hcall
        cases hstep
        have hall := h.all_read (not_waiting_of_write hcall)
        refine prompt_goOn ?_ _
        exact hall
      · cases hstep
  | writeFailed k =>
      simp only [Session.step] at hstep
      split at hstep
      · rename_i hcall
        cases hstep
        have hall := h.all_read (not_waiting_of_write hcall)
        refine prompt_goOn ?_ _
        exact hall
      · cases hstep
  | drop k =>
      simp only [Session.step] at hstep
      split at hstep
      · cases hstep
      · cases hstep
        exact Or.inl (h.all_read hturn)
  | arrive =>
      obtain ⟨inbound, -, rfl⟩ := Option.map_eq_some_iff.mp hstep
      exact h
  | close =>
      obtain ⟨inbound, -, rfl⟩ := Option.map_eq_some_iff.mp hstep
      exact h
  | poll k =>
      simp only [Session.step] at hstep
      split at hstep
      · rcases htracked.intact.poll readUrbMessage_framed htracked.wellFormed with
          ⟨message, inbound, hpoll, hintact⟩ | ⟨inbound, hpoll, -⟩ | ⟨e, inbound, hpoll, hall⟩
        · -- the message read is the one that was unread
          rw [hpoll] at hstep
          cases hstep
          have hle := hintact.handled_isPrefix.length_le
          rw [List.length_append, List.length_singleton] at hle
          refine Or.inl ?_
          rw [sent_goOn, received_goOn, List.length_append, List.length_singleton]
          rcases h with hall | ⟨hone, -⟩
          · omega
          · exact hone.symm
        · rw [hpoll] at hstep
          cases hstep
          exact h
        · rw [hpoll] at hstep
          cases hstep
          refine prompt_goOn ?_ _
          exact congrArg List.length hall
      · cases hstep

/-- **A server that answers each submission once, in turn and under its own number, is
orderly**, as long as no call is dropped between its write and its read: every run of such a
session satisfies the condition under which the answers are paired. -/
theorem orderly_of_inTurn {as : List (Action D.Method)} {devid : UInt32} {fields : D.Fields}
    (hturn : Transition.Meets (Session.step D) InTurn (.connected devid fields) as)
    (hrun : Transition.run (Session.step D) (.connected devid fields) as = some s) :
    Transition.Meets (Session.step D) Orderly (.connected devid fields) as := by
  refine Transition.Meets.implies (fun s => s.Tracked ∧ s.Prompt) ?_ ?_ ?_ hturn hrun
  · intro s a s' h hguard hstep
    exact h.2.orderly hguard hstep
  · intro s a s' h hguard hstep
    exact ⟨h.1.step (h.2.orderly hguard hstep) hstep, h.2.step h.1 hguard hstep⟩
  · exact ⟨tracked_connected devid fields, Or.inl rfl⟩

end InTurn

end Session

/-! ### The five drivers -/

/-- The class drivers; the network driver depends on a setting of the build. -/
inductive ClassDriver where
  | massStorage
  | hid
  | network (overflowChecks : Bool)
  | serial
  | audio
deriving DecidableEq, Repr

/-- Their methods and their pacing, as each module gives them. -/
def ClassDriver.driver : ClassDriver → Driver
  | .massStorage => MassStorage.driver
  | .hid => Hid.driver
  | .network overflowChecks => Network.driver overflowChecks
  | .serial => Serial.driver
  | .audio => Audio.driver

/-- **Reply pairing.** In every orderly run of a driver's session, whatever is called and
however calls are dropped, a call that returns `Ok` has used, in each of its steps, the
`RET_SUBMIT` with the number of the submission of that step. -/
theorem replies_paired (c : ClassDriver) (devid : UInt32)
    (as : List (Action c.driver.Method)) (s : Session c.driver.Fields)
    (hrun : Transition.run (Session.step c.driver) (.connected devid c.driver.initial) as = some s)
    (horderly : Transition.Meets (Session.step c.driver) Orderly
      (.connected devid c.driver.initial) as) :
    ∀ r ∈ s.returned, r.Paired := by
  have hkept := Transition.run_invariant Session.Tracked
    (fun s a s' h hguard hstep => h.step hguard hstep)
    (Session.tracked_connected devid c.driver.initial) horderly hrun
  exact hkept.paired

/-- A report under the number `seqnum`. -/
def reportUnder (seqnum : UInt32) : UrbMessage :=
  .retSubmit
    { header := { command := 3, seqnum, devid := 0, direction := 1, ep := 1 }
      status := 0, actualLength := 1, startFrame := 0, numberOfPackets := 0xFFFFFFFF
      errorCount := 0, transferBuffer := [7], isoPacketDescriptors := [] }

/-- A report is asked for and given up; then another one is, and the server answers with the
report `seqnum`. -/
def reportsAsked (seqnum : UInt32) : List (Action ClassDriver.hid.driver.Method) :=
  [.start Hid.Call.readReport, .written, .drop 0, .start Hid.Call.readReport, .written,
    .send (reportUnder seqnum) [(reportUnder seqnum).encode], .arrive, .poll 0]

/-- A call was dropped, and the next one gets the answer to its own submission. -/
theorem replies_paired_afterDrop :
    ∃ s, Transition.run (Session.step ClassDriver.hid.driver)
        (.connected 0 ClassDriver.hid.driver.initial) (reportsAsked 2) = some s ∧
      s.returned.map (fun r => r.result.isOk) = [true] ∧ ∀ r ∈ s.returned, r.Paired := by
  obtain ⟨s, hrun, hok⟩ := Transition.exists_run_of_any (Session.step ClassDriver.hid.driver)
    (.connected 0 ClassDriver.hid.driver.initial) (reportsAsked 2)
    (fun s => s.returned.map (fun r => r.result.isOk) = [true]) (by decide +kernel)
  exact ⟨s, hrun, hok, replies_paired .hid 0 (reportsAsked 2) s hrun (by decide +kernel)⟩

/-- The report asked for first arrives late, and is returned as the second one. -/
theorem late_reply_misused :
    ¬ ∀ (c : ClassDriver) (devid : UInt32) (as : List (Action c.driver.Method))
      (s : Session c.driver.Fields),
      Transition.run (Session.step c.driver) (.connected devid c.driver.initial) as = some s →
      ∀ r ∈ s.returned, r.Paired := by
  intro hall
  obtain ⟨s, hrun, r, hmem, hunpaired⟩ :=
    Transition.exists_run_of_any (Session.step ClassDriver.hid.driver)
      (.connected 0 ClassDriver.hid.driver.initial) (reportsAsked 1)
      (fun s => ∃ r ∈ s.returned, ¬ r.Paired) (by decide +kernel)
  exact hunpaired (hall .hid 0 (reportsAsked 1) s hrun r hmem)

end Extender.Client
