/-
A class driver, the connection and the server's session, as one system.

The driver runs a script: it writes submissions and reads returns. The session reads the bytes
of the submissions, runs a task for each of them, makes the transfers on the device and writes
the bytes of the replies. All parties of the session keep their own pace. The session is the
model of `Server.Session`, and the driver any script of `Lib.Dialogue`; the device is a state
and a function on calls of the USB library (`Gadget`), whatever it does with them.

There is at most one submission under way, and `Carried` says where: among the bytes on their
way to the session, with the last task, in the response channel, or among the bytes on their
way back. It also says what the driver is going to read for it. That does not change on the
way, which is the invariant: the transfer is made on the device by a task, some time later and
in between other moves, but no other transfer is made before it, since the driver waits.

A connection that holds is part of the system: no byte is lost or changed, neither end closes
it, and a read waits for the bytes it needs. The tasks of earlier submissions may still be
cleaning up.

* `Remote.step` — the client, the parties of the session and the device move one at a time, in
  any order.
* `Remote.Laid.server`, `Remote.Laid.perform` — the moves of the session, and the transfer.
* `Remote.Headed.step` — every move keeps the system on its way to the end that the script has
  when its transfers are made on the device directly.
-/

import Extender.Lib.Peer
import Extender.Client.ClassDevice
import Extender.Server.Accounting
import Extender.Server.Reply

/-! ### Tasks -/

namespace Extender.Server.Task

open Extender.Protocol

/-- How the transfer of the task has ended, if it has: an answer, or a panic of the
closure. -/
def outcome (t : Task) : Option (Option UsbAnswer) :=
  match t.blocking with
  | some (.done answer) => some answer
  | _ => none

/-- The task is on its way to its reply: spawned, waiting for its closure, or about to
send. -/
def Working (t : Task) : Prop :=
  t.aborted = false ∧
    ((t.pc = .spawned ∧ t.blocking = none) ∨ (t.pc = .waiting ∧ t.blocking ≠ none) ∨
      ∃ answer, t.pc = .sending answer ∧ t.blocking = some (.done answer))

/-- The task has put its reply; what is left of it is its own removal from the table. -/
def Spent (t : Task) : Prop :=
  t.aborted = false ∧ (t.pc = .removing ∨ t.pc = .finished) ∧
    ∃ answer, t.blocking = some (.done answer)

variable {t t' : Task} {m : Move}

theorem working_spawn (cmd : CmdSubmit) : (spawn cmd).Working := ⟨rfl, Or.inl ⟨rfl, rfl⟩⟩

/-- Whatever such a task does, it has put its reply. -/
theorem Spent.move (h : t.Spent) (hmove : t.move m = some t') : t'.Spent := by
  unfold Spent at *
  cases m <;> grind [Task.move]

/-- A task that goes on is still on its way, and its transfer has ended as before. -/
theorem Working.move (h : t.Working) (hmove : t.move m = some t')
    (hm : ∀ answer, m ≠ .complete answer) : t'.Working ∧ t'.outcome = t.outcome := by
  unfold Working outcome at *
  cases m <;> grind [Task.move]

/-- Its transfer ends, and it is still on its way. -/
theorem Working.complete {answer : Option UsbAnswer} (h : t.Working)
    (hmove : t.move (.complete answer) = some t') :
    t'.Working ∧ t.outcome = none ∧ t'.outcome = some answer := by
  unfold Working outcome at *
  grind [Task.move]

theorem Working.blocking_of_sending {answer : Option UsbAnswer} (h : t.Working)
    (hpc : t.pc = .sending answer) : t.blocking = some (.done answer) := by
  unfold Working at h
  grind

theorem Working.pc_ne_removing (h : t.Working) : t.pc ≠ .removing := by
  unfold Working at h
  grind

theorem Spent.pc_ne_sending (h : t.Spent) (answer : Option UsbAnswer) : t.pc ≠ .sending answer := by
  unfold Spent at h
  grind

end Extender.Server.Task

namespace Extender.System

open Dialogue Extender.Protocol Extender.Server

/-! ### Devices -/

/-- A device behind the USB library: a call ends with an answer, or the closure that makes it
panics. -/
structure Gadget where
  State : Type
  perform : State → UsbCall → Option UsbAnswer × State
  admits : ∀ s call answer, (perform s call).1 = some answer → call.Admits answer

namespace Gadget

variable (g : Gadget)

/-- The transfer of a submission, made on the device: how the closure ends. -/
def transfer (device : g.State) (cmd : CmdSubmit) : Option UsbAnswer × g.State :=
  g.perform device (submitTransfer cmd).call

theorem admissible_transfer (device : g.State) (cmd : CmdSubmit) :
    Admissible cmd (g.transfer device cmd).1 :=
  fun answer h => g.admits device _ answer h

/-- What a driver reads when the transfer of its submission is made at once. -/
def answer (device : g.State) (cmd : CmdSubmit) : Except Failure UrbMessage × g.State :=
  (.ok (.retSubmit (handleSubmit cmd (g.transfer device cmd).1)), (g.transfer device cmd).2)

end Gadget

/-! ### The system -/

/-- A driver's script at work on a device that a server exports: the bytes on their way to
the client are in `inbox`, those on their way to the server in the session. -/
structure Remote (g : Gadget) (σ ε α : Type) where
  client : Point σ CmdSubmit (Except Failure UrbMessage) ε α
  session : Session
  inbox : List UInt8
  device : g.State

/-- The client moves, a party of the session does, or the device makes the transfer of a
task. -/
inductive Action where
  | client
  | server (a : Session.Action)
  | perform (task : Nat)
deriving DecidableEq, Repr

namespace Remote

variable {g : Gadget} {σ ε α : Type}

/-- A script about to run on an imported device. -/
def start (device : g.State) (script : Point σ CmdSubmit (Except Failure UrbMessage) ε α) :
    Remote g σ ε α :=
  { client := script, session := Session.start [], inbox := [], device }

/-- The moves of the session that do not depend on the device, on a connection that holds:
its reader waits until a whole message has arrived. -/
def allowed (s : Session) : Session.Action → Bool
  | .read =>
      match readUrbMessage s.input with
      | .ok _ => true
      | .error e => ¬ e.IsEof
  | .readFail | .writeFail | .task _ (.complete _) => false
  | _ => true

/-- What a move of the session writes to the connection: the bytes of the response the writer
has in hand. -/
def written (s : Session) : Session.Action → List UInt8
  | .write =>
      match s.writer with
      | .writing r => writeUrbMessage [] r.message
      | _ => []
  | _ => []

/-- One move; there is none where its party has to wait. -/
def step (r : Remote g σ ε α) : Action → Option (Remote g σ ε α)
  | .client =>
      match r.client with
      | .done _ _ => none
      | .write _ cmd next =>
          let input := writeUrbMessage r.session.input (.cmdSubmit cmd)
          some { r with client := next true, session := { r.session with input } }
      | .read _ next =>
          match readUrbMessage r.inbox with
          | .ok (msg, rest) => some { r with client := next (.ok msg), inbox := rest }
          | .error e =>
              if e.IsEof then none
              else some { r with client := next (.error e), inbox := [] }
  | .server a =>
      if allowed r.session a then
        (r.session.step a).map fun session =>
          { r with session, inbox := r.inbox ++ written r.session a }
      else none
  | .perform i =>
      match r.session.tasks[i]? with
      | some t =>
          let performed := g.transfer r.device t.cmd
          (r.session.step (.task i (.complete performed.1))).map fun session =>
            { r with session, device := performed.2 }
      | none => none

/-! ### Where the submission is -/

section Carried

variable (g : Gadget) (device : g.State)

/-- The submission under way, as a task that is not through, a message to be read by the
session, a response in the channel or one to be read by the driver; and the device's state
and the message to be read once its transfer is made. -/
inductive Carried : Phase → List Task → List CmdSubmit → List Response → List Response →
    g.State → Option (Except Failure UrbMessage) → Prop where
  | idle : Carried .idle [] [] [] [] device none
  | sent {cmd : CmdSubmit} : Accepted cmd →
      Carried .awaiting [] [cmd] [] [] (g.answer device cmd).2 (some (g.answer device cmd).1)
  | running {t : Task} : t.Working → Accepted t.cmd → t.outcome = none →
      Carried .awaiting [t] [] [] [] (g.answer device t.cmd).2 (some (g.answer device t.cmd).1)
  | executed {t : Task} {answer : Option UsbAnswer} : t.Working → Accepted t.cmd →
      t.outcome = some answer → Admissible t.cmd answer →
      Carried .awaiting [t] [] [] [] device (some (.ok (.retSubmit (handleSubmit t.cmd answer))))
  | replied {cmd : CmdSubmit} {answer : Option UsbAnswer} : Accepted cmd → Admissible cmd answer →
      Carried .awaiting [] [] [.submitted cmd answer] [] device
        (some (.ok (.retSubmit (handleSubmit cmd answer))))
  | delivered {cmd : CmdSubmit} {answer : Option UsbAnswer} : Accepted cmd →
      Admissible cmd answer →
      Carried .awaiting [] [] [] [.submitted cmd answer] device
        (some (.ok (.retSubmit (handleSubmit cmd answer))))

end Carried

/-- The session and the connection hold these tasks and messages and no others; it ties the
lists to the states. -/
structure Laid (s : Session) (inbox : List UInt8) (done live : List Task)
    (unread : List CmdSubmit) (channel delivered : List Response) : Prop where
  tasks : s.tasks = done ++ live
  spent : ∀ t ∈ done, t.Spent
  input : s.input = unread.flatMap fun cmd => (UrbMessage.cmdSubmit cmd).encode
  channel : s.inChannel = channel
  isOpen : s.isOpen = true
  inbox : inbox = delivered.flatMap fun r => r.message.encode
  reader : s.reader = .ready ∨ ∃ i < s.tasks.length, s.reader = .inserting i

/-- A response put into an empty channel is alone there. -/
theorem inChannel_put {s : Session} (h : s.inChannel = []) (r : Response)
    (trace : List Server.Event) (tasks : List Server.Task) :
    Session.inChannel { s with queue := s.queue ++ [r], trace, tasks } = [r] := by
  unfold Session.inChannel at h ⊢
  cases hwriter : s.writer with
  | writing r' =>
      rw [hwriter] at h
      cases h
  | idle =>
      rw [hwriter] at h
      exact congrArg (· ++ [r]) h
  | exited =>
      rw [hwriter] at h
      exact congrArg (· ++ [r]) h

theorem readUrbMessage_nil : readUrbMessage [] = .error (.error (.io .unexpectedEof)) := rfl

section Laid

variable {s s' : Session} {inbox : List UInt8} {done live : List Task} {unread : List CmdSubmit}
  {channel delivered : List Response} {device peer : g.State} {phase : Phase}
  {pending : Option (Except Failure UrbMessage)}

/-- At most one task is at work, since the driver has at most one submission under way. -/
theorem Carried.length_live
    (h : Carried g device phase live unread channel delivered peer pending) :
    live = [] ∨ ∃ t, live = [t] ∧ t.Working := by
  cases h with
  | idle => exact Or.inl rfl
  | sent => exact Or.inl rfl
  | running hworking => exact Or.inr ⟨_, rfl, hworking⟩
  | executed hworking => exact Or.inr ⟨_, rfl, hworking⟩
  | replied => exact Or.inl rfl
  | delivered => exact Or.inl rfl

theorem Carried.move {t t' : Task} {m : Task.Move}
    (h : Carried g device phase [t] unread channel delivered peer pending)
    (hmove : t.move m = some t') (hm : ∀ answer, m ≠ .complete answer) :
    Carried g device phase [t'] unread channel delivered peer pending := by
  have hcmd := Server.Task.move_cmd hmove
  cases h with
  | running hworking haccepted hnone =>
      obtain ⟨hworking', houtcome⟩ := hworking.move hmove hm
      rw [← hcmd]
      exact .running hworking' (hcmd ▸ haccepted) (houtcome.trans hnone)
  | executed hworking haccepted hsome hanswer =>
      obtain ⟨hworking', houtcome⟩ := hworking.move hmove hm
      rw [← hcmd]
      exact .executed hworking' (hcmd ▸ haccepted) (houtcome.trans hsome) (hcmd ▸ hanswer)

/-- The transfer of the task at work is made: the device moves to the state it was going to be
in. -/
theorem Carried.complete {t t' : Task}
    (h : Carried g device phase [t] unread channel delivered peer pending)
    (hmove : t.move (.complete (g.transfer device t.cmd).1) = some t') :
    Carried g (g.transfer device t.cmd).2 phase [t'] unread channel delivered peer pending := by
  have hcmd := Server.Task.move_cmd hmove
  cases h with
  | running hworking haccepted _ =>
      obtain ⟨hworking', -, hsome⟩ := hworking.complete hmove
      have hanswer := g.admissible_transfer device t.cmd
      simp only [Gadget.answer]
      rw [← hcmd] at haccepted hsome hanswer ⊢
      exact .executed hworking' haccepted hsome hanswer
  | executed hworking _ houtcome =>
      obtain ⟨-, hnone, -⟩ := hworking.complete hmove
      rw [hnone] at houtcome
      cases houtcome

/-- A task is one that is through, and can be changed to another such, or the one at work. -/
theorem Laid.task_cases (h : Laid s inbox done live unread channel delivered)
    (hlive : live = [] ∨ ∃ t, live = [t] ∧ t.Working) {i : Nat} {t : Task}
    (ht : s.tasks[i]? = some t) :
    (t.Spent ∧ ∀ t', t'.Spent → ∃ done', s.tasks.set i t' = done' ++ live ∧
      ∀ u ∈ done', u.Spent) ∨
    (t.Working ∧ live = [t] ∧ ∀ t', s.tasks.set i t' = done ++ [t']) := by
  rw [h.tasks] at ht ⊢
  by_cases hi : i < done.length
  · rw [List.getElem?_append_left hi] at ht
    refine Or.inl ⟨h.spent t (List.mem_of_getElem? ht), fun t' ht' => ⟨done.set i t', ?_, ?_⟩⟩
    · exact List.set_append_left _ _ hi
    · intro u hu
      rcases List.mem_or_eq_of_mem_set hu with hu | rfl
      · exact h.spent u hu
      · exact ht'
  · rw [List.getElem?_append_right (by omega)] at ht
    rcases hlive with rfl | ⟨u, rfl, hworking⟩
    · cases ht
    · have hindex : i - done.length = 0 := by
        have hlt := (List.getElem?_eq_some_iff.mp ht).1
        simp only [List.length_singleton] at hlt
        omega
      rw [hindex] at ht
      cases ht
      refine Or.inr ⟨hworking, rfl, fun t' => ?_⟩
      rw [List.set_append_right _ _ (by omega), hindex]
      rfl

theorem Laid.getElem?_live {t : Task} (h : Laid s inbox done [t] unread channel delivered) :
    s.tasks[done.length]? = some t := by
  rw [h.tasks, List.getElem?_append_right (Nat.le_refl _), Nat.sub_self]
  rfl

theorem Laid.setTask {t : Task} (h : Laid s inbox done [t] unread channel delivered)
    (t' : Task) :
    Laid (s.setTask done.length t') inbox done [t'] unread channel delivered := by
  refine ⟨?_, h.spent, h.input, h.channel, h.isOpen, h.inbox, ?_⟩
  · show s.tasks.set _ _ = _
    rw [h.tasks, List.set_append_right _ _ (Nat.le_refl _), Nat.sub_self]
    rfl
  · simpa [Session.setTask] using h.reader

theorem Laid.insert (h : Laid s inbox done live unread channel delivered)
    (inFlight : AList fun _ : UInt32 => Nat) :
    Laid { s with inFlight, reader := .ready } inbox done live unread channel delivered :=
  ⟨h.tasks, h.spent, h.input, h.channel, h.isOpen, h.inbox, Or.inl rfl⟩

/-- What the reader gets is the submission, which is then with a task. -/
theorem Laid.read (h : Laid s inbox done live unread channel delivered)
    (hcarried : Carried g device phase live unread channel delivered peer pending)
    (hallowed : allowed s .read = true) (hstep : s.step .read = some s') :
    ∃ live', Laid s' inbox done live' [] channel delivered ∧
      Carried g device phase live' [] channel delivered peer pending := by
  have hshort : unread = [] → False := by
    rintro rfl
    have hnil : s.input = [] := h.input
    rw [allowed, hnil, readUrbMessage_nil] at hallowed
    exact absurd hallowed (by decide)
  cases hcarried with
  | @sent cmd hcmd =>
      have hread : readUrbMessage s.input = .ok (.cmdSubmit cmd, []) := by
        rw [h.input, List.flatMap_singleton, ← List.append_nil (UrbMessage.encode _)]
        exact readUrbMessage_framed.reads _ (accepted_iff.mp hcmd) []
      simp only [Session.step] at hstep
      split at hstep
      · rw [hread] at hstep
        cases hstep
        refine ⟨[Server.Task.spawn cmd], ⟨?_, h.spent, rfl, h.channel, h.isOpen, h.inbox, ?_⟩,
            .running (Server.Task.working_spawn cmd) hcmd rfl⟩
        · show s.tasks ++ _ = _
          rw [h.tasks, List.append_nil]
        · refine Or.inr ⟨s.tasks.length, ?_, rfl⟩
          show s.tasks.length < (s.tasks ++ [Server.Task.spawn cmd]).length
          simp
      · cases hstep
  | idle => exact (hshort rfl).elim
  | running => exact (hshort rfl).elim
  | executed => exact (hshort rfl).elim
  | replied => exact (hshort rfl).elim
  | delivered => exact (hshort rfl).elim

/-- The last step of the writer: what was in the channel is on its way to the driver. -/
theorem Laid.write (h : Laid s inbox done live unread channel delivered)
    (hcarried : Carried g device phase live unread channel delivered peer pending)
    {r : Response} (hwriter : s.writer = .writing r) :
    Laid { s with writer := .idle, wire := s.wire ++ [r] } (inbox ++ r.message.encode) done live
        unread [] [r] ∧ Carried g device phase live unread [] [r] peer pending := by
  have hchannel : r :: s.queue = channel := by
    have hin := h.channel
    unfold Session.inChannel at hin
    rw [hwriter] at hin
    exact hin
  cases hcarried with
  | replied hcmd hanswer =>
      obtain ⟨rfl, hqueue⟩ := List.cons.inj hchannel
      refine ⟨⟨h.tasks, h.spent, h.input, hqueue, rfl, ?_, h.reader⟩, .delivered hcmd hanswer⟩
      rw [h.inbox, List.flatMap_singleton]
      rfl
  | idle => cases hchannel
  | sent => cases hchannel
  | running => cases hchannel
  | executed => cases hchannel
  | delivered => cases hchannel

/-- A task that sends has its reply in the channel, and is through. -/
theorem Laid.send (h : Laid s inbox done live unread channel delivered)
    (hcarried : Carried g device phase live unread channel delivered peer pending)
    {i : Nat} {t : Task} {answer : Option UsbAnswer} (ht : s.tasks[i]? = some t)
    (hpc : t.pc = .sending answer) (trace : List Server.Event) :
    ∃ done', Laid
        { s with
          queue := s.queue ++ [.submitted t.cmd answer], trace
          tasks := s.tasks.set i { t with pc := .removing } }
        inbox done' [] unread [.submitted t.cmd answer] delivered ∧
      Carried g device phase [] unread [.submitted t.cmd answer] delivered peer pending := by
  rcases h.task_cases hcarried.length_live ht with ⟨hspent, -⟩ | ⟨hworking, rfl, hset⟩
  · exact absurd hpc (hspent.pc_ne_sending answer)
  · have hblocking : t.blocking = some (.done answer) := hworking.blocking_of_sending hpc
    have hspent : ({ t with pc := .removing } : Task).Spent :=
      ⟨hworking.1, Or.inl rfl, answer, hblocking⟩
    cases hcarried with
    | running _ _ hnone =>
        rw [Server.Task.outcome, hblocking] at hnone
        cases hnone
    | executed _ hcmd houtcome hanswer =>
        rw [Server.Task.outcome, hblocking] at houtcome
        cases houtcome
        refine ⟨done ++ [{ t with pc := .removing }], ⟨?_, ?_, h.input, ?_, h.isOpen, h.inbox, ?_⟩,
          .replied hcmd hanswer⟩
        · rw [List.append_nil]
          exact hset _
        · intro u hu
          rcases List.mem_append.mp hu with hu | hu
          · exact h.spent u hu
          · rw [List.mem_singleton.mp hu]
            exact hspent
        · exact inChannel_put h.channel _ _ _
        · simpa using h.reader

/-- **The session's moves.** Whatever party moves, the submission stays in one place and what
is to be read for it stays the same. -/
theorem Laid.server (h : Laid s inbox done live unread channel delivered)
    (hcarried : Carried g device phase live unread channel delivered peer pending)
    {a : Session.Action} (hallowed : allowed s a = true) (hstep : s.step a = some s') :
    ∃ done' live' unread' channel' delivered',
      Laid s' (inbox ++ written s a) done' live' unread' channel' delivered' ∧
      Carried g device phase live' unread' channel' delivered' peer pending := by
  -- all moves but the writer's last write nothing to the connection
  have hsilent : ∀ {t done' live' unread' channel' delivered'}, written s a = [] →
      Laid t inbox done' live' unread' channel' delivered' →
      Laid t (inbox ++ written s a) done' live' unread' channel' delivered' := by
    intro t done' live' unread' channel' delivered' hnil ht
    rwa [hnil, List.append_nil]
  have hreader := h.reader
  have hclosed : s.isOpen = false → False := by
    intro hc
    rw [h.isOpen] at hc
    cases hc
  by_cases hread : a = .read
  · subst hread
    obtain ⟨live', hlaid, hc⟩ := h.read hcarried hallowed hstep
    exact ⟨done, live', [], channel, delivered, hsilent rfl hlaid, hc⟩
  cases Session.moves_of_step hstep with
  | readSubmit => exact absurd rfl hread
  | readUnlink => exact absurd rfl hread
  | readOther => exact absurd rfl hread
  | readError ha =>
      rcases ha with rfl | rfl
      · exact absurd rfl hread
      · cases hallowed
  | insert =>
      exact ⟨done, live, unread, channel, delivered, hsilent rfl (h.insert _), hcarried⟩
  | unlinkFound hr => simp [hr] at hreader
  | unlinkMissing hr => simp [hr] at hreader
  | replyClosed hr => simp [hr] at hreader
  | replyPut hr => simp [hr] at hreader
  | cancelAll hr => simp [hr] at hreader
  | join hr => simp [hr] at hreader
  | @task i t t' m ht hmove =>
      have hm : ∀ answer, m ≠ .complete answer := by
        rintro answer rfl
        cases hallowed
      rcases h.task_cases hcarried.length_live ht with ⟨hspent, hset⟩ | ⟨hworking, rfl, hset⟩
      · obtain ⟨done', htasks, hdone⟩ := hset t' (hspent.move hmove)
        exact ⟨done', live, unread, channel, delivered, hsilent rfl
          ⟨htasks, hdone, h.input, h.channel, h.isOpen, h.inbox, by simpa using hreader⟩, hcarried⟩
      · exact ⟨done, [t'], unread, channel, delivered, hsilent rfl
          ⟨hset t', h.spent, h.input, h.channel, h.isOpen, h.inbox, by simpa using hreader⟩,
          hcarried.move hmove hm⟩
  | sendClosed _ _ _ hc => exact (hclosed hc).elim
  | sendPut ht hpc =>
      obtain ⟨done', hlaid, hc⟩ := h.send hcarried ht hpc _
      exact ⟨done', [], unread, _, delivered, hsilent rfl hlaid, hc⟩
  | @remove i t ht hpc =>
      rcases h.task_cases hcarried.length_live ht with ⟨hspent, hset⟩ | ⟨hworking, -, -⟩
      · obtain ⟨done', htasks, hdone⟩ :=
          hset { t with pc := .finished, polled := false } ⟨hspent.1, Or.inr rfl, hspent.2.2⟩
        exact ⟨done', live, unread, channel, delivered, hsilent rfl
          ⟨htasks, hdone, h.input, h.channel, h.isOpen, h.inbox, by simpa using hreader⟩, hcarried⟩
      · exact absurd hpc hworking.pc_ne_removing
  | recv hwriter hqueue =>
      refine ⟨done, live, unread, channel, delivered, hsilent rfl
        ⟨h.tasks, h.spent, h.input, ?_, rfl, h.inbox, hreader⟩, hcarried⟩
      rw [← h.channel]
      simp only [Session.inChannel, hwriter, hqueue]
  | @write r hwriter =>
      obtain ⟨hlaid, hc⟩ := h.write hcarried hwriter
      refine ⟨done, live, unread, [], [r], ?_, hc⟩
      simp only [written, hwriter]
      exact hlaid
  | writeFail => cases hallowed
  | close _ _ hgone =>
      rcases hreader with hr | ⟨i, -, hr⟩
      · simp [Session.sendersGone, hr] at hgone
      · simp [Session.sendersGone, hr] at hgone

/-- **The transfer.** The device does for a task what it was going to do for the submission. -/
theorem Laid.perform (h : Laid s inbox done live unread channel delivered)
    (hcarried : Carried g device phase live unread channel delivered peer pending)
    {i : Nat} {t : Task} (ht : s.tasks[i]? = some t)
    (hstep : s.step (.task i (.complete (g.transfer device t.cmd).1)) = some s') :
    ∃ done' live' unread' channel' delivered',
      Laid s' inbox done' live' unread' channel' delivered' ∧
      Carried g (g.transfer device t.cmd).2 phase live' unread' channel' delivered' peer
        pending := by
  cases Session.moves_of_step hstep with
  | readError ha =>
      rcases ha with ha | ha
      · cases ha
      · cases ha
  | @task i t₀ t' m ht₀ hmove =>
      rw [ht] at ht₀
      cases ht₀
      rcases h.task_cases hcarried.length_live ht with ⟨hspent, -⟩ | ⟨hworking, rfl, hset⟩
      · obtain ⟨answer, hdone⟩ := hspent.2.2
        simp [Server.Task.move, hdone] at hmove
      · exact ⟨done, [t'], unread, channel, delivered,
          ⟨hset t', h.spent, h.input, h.channel, h.isOpen, h.inbox, by simpa using h.reader⟩,
          hcarried.complete hmove⟩

end Laid

/-! ### The invariant -/

section Invariant

variable {ν : Type} {N : Numbering σ CmdSubmit (Except Failure UrbMessage) ν}

/-- The system is on its way to `result`: the rest of the script, from here, ends there. -/
structure Heading (N : Numbering σ CmdSubmit (Except Failure UrbMessage) ν)
    (result : Option (g.State × σ × Except ε α)) (r : Remote g σ ε α) (done live : List Task)
    (unread : List CmdSubmit) (channel delivered : List Response) (phase : Phase) (peer : g.State)
    (pending : Option (Except Failure UrbMessage)) : Prop where
  laid : Laid r.session r.inbox done live unread channel delivered
  carried : Carried g r.device phase live unread channel delivered peer pending
  paced : ∃ n, r.client.Paced N .idle phase n
  asks : r.client.Asks Accepted
  outcome : r.client.outcome g.answer peer pending = result

/-- The system is on its way to `result`, from somewhere. -/
def Headed (N : Numbering σ CmdSubmit (Except Failure UrbMessage) ν)
    (result : Option (g.State × σ × Except ε α)) (r : Remote g σ ε α) : Prop :=
  ∃ done live unread channel delivered phase peer pending,
    Heading N result r done live unread channel delivered phase peer pending

variable {result : Option (g.State × σ × Except ε α)} {r r' : Remote g σ ε α}

/-- A script that asks for nothing the session refuses is on its way from the start. -/
theorem headed_start {device : g.State} {x : Script σ CmdSubmit (Except Failure UrbMessage) ε α}
    (hpaced : x.Paced N .idle .idle) (hasks : x.Asks Accepted) (s : σ) :
    Headed N ((x s).outcome g.answer device none) (start device (x s)) :=
  ⟨[], [], [], [], [], .idle, device, none,
    ⟨rfl, by simp, rfl, rfl, rfl, rfl, Or.inl rfl⟩, .idle, ⟨_, hpaced s⟩, hasks s, rfl⟩

theorem Headed.write (h : Headed N result r) {s : σ} {cmd : CmdSubmit}
    {next : Bool → Point σ CmdSubmit (Except Failure UrbMessage) ε α}
    (hclient : r.client = .write s cmd next) (hstep : r.step .client = some r') :
    r'.client = next true ∧ Headed N result r' := by
  obtain ⟨done, live, unread, channel, delivered, phase, peer, pending, h⟩ := h
  obtain ⟨n, hpaced⟩ := h.paced
  have hasks := h.asks
  have hcarried := h.carried
  have houtcome := h.outcome
  have hlaid := h.laid
  rw [hclient] at hpaced hasks houtcome
  simp only [step, hclient] at hstep
  cases hstep
  cases hcarried with
  | idle =>
      obtain ⟨-, -, hnext, -⟩ := hpaced
      refine ⟨rfl, done, [], [cmd], [], [], .awaiting, _, _,
        ⟨hlaid.tasks, hlaid.spent, ?_, hlaid.channel, hlaid.isOpen, hlaid.inbox, hlaid.reader⟩,
        .sent hasks.1, ⟨_, hnext⟩, hasks.2 true, houtcome⟩
      show writeUrbMessage r.session.input _ = _
      rw [hlaid.input, List.flatMap_singleton]
      rfl
  | sent => exact hpaced.elim
  | running => exact hpaced.elim
  | executed => exact hpaced.elim
  | replied => exact hpaced.elim
  | delivered => exact hpaced.elim

/-- A driver that reads gets what was to be read; until it has arrived there is nothing. -/
theorem Headed.read (h : Headed N result r) {s : σ}
    {next : Except Failure UrbMessage → Point σ CmdSubmit (Except Failure UrbMessage) ε α}
    (hclient : r.client = .read s next) (hstep : r.step .client = some r') :
    ∃ message, r'.client = next message ∧ Headed N result r' := by
  obtain ⟨done, live, unread, channel, delivered, phase, peer, pending, h⟩ := h
  obtain ⟨n, hpaced⟩ := h.paced
  have hasks := h.asks
  have hcarried := h.carried
  have houtcome := h.outcome
  have hlaid := h.laid
  rw [hclient] at hpaced hasks houtcome
  simp only [step, hclient] at hstep
  have hnothing : delivered = [] → False := by
    rintro rfl
    have hnil : r.inbox = [] := hlaid.inbox
    rw [hnil, readUrbMessage_nil] at hstep
    cases hstep
  cases hcarried with
  | @delivered cmd answer hcmd hanswer =>
      have hread : readUrbMessage r.inbox = .ok (.retSubmit (handleSubmit cmd answer), []) := by
        rw [hlaid.inbox, List.flatMap_singleton, ← List.append_nil (UrbMessage.encode _)]
        exact readUrbMessage_framed.reads _ (handleSubmit_wellFormed hcmd hanswer) []
      rw [hread] at hstep
      cases hstep
      exact ⟨_, rfl, done, [], [], [], [], .idle, r.device, none,
        ⟨hlaid.tasks, hlaid.spent, hlaid.input, hlaid.channel, hlaid.isOpen, rfl, hlaid.reader⟩,
        .idle, ⟨_, (hpaced.2 _).1⟩, hasks _, houtcome⟩
  | idle => exact (hnothing rfl).elim
  | sent => exact (hnothing rfl).elim
  | running => exact (hnothing rfl).elim
  | executed => exact (hnothing rfl).elim
  | replied => exact (hnothing rfl).elim

/-- **One step.** The system stays on its way, whichever of its parties moves. -/
theorem Headed.step {a : Action} (h : Headed N result r) (hstep : r.step a = some r') :
    Headed N result r' := by
  cases a with
  | client =>
      cases hclient : r.client with
      | done s outcome => simp [Remote.step, hclient] at hstep
      | write s cmd next => exact (h.write hclient hstep).2
      | read s next => exact (h.read hclient hstep).choose_spec.2
  | server a =>
      obtain ⟨done, live, unread, channel, delivered, phase, peer, pending, h⟩ := h
      simp only [Remote.step] at hstep
      split at hstep
      · rename_i hallowed
        obtain ⟨session, hs, rfl⟩ := Option.map_eq_some_iff.mp hstep
        obtain ⟨done', live', unread', channel', delivered', hlaid, hcarried⟩ :=
          h.laid.server h.carried hallowed hs
        exact ⟨done', live', unread', channel', delivered', phase, peer, pending, hlaid, hcarried,
          h.paced, h.asks, h.outcome⟩
      · cases hstep
  | perform i =>
      obtain ⟨done, live, unread, channel, delivered, phase, peer, pending, h⟩ := h
      simp only [Remote.step] at hstep
      split at hstep
      · rename_i t ht
        obtain ⟨session, hs, rfl⟩ := Option.map_eq_some_iff.mp hstep
        obtain ⟨done', live', unread', channel', delivered', hlaid, hcarried⟩ :=
          h.laid.perform h.carried ht hs
        exact ⟨done', live', unread', channel', delivered', phase, peer, pending, hlaid, hcarried,
          h.paced, h.asks, h.outcome⟩
      · cases hstep

end Invariant

end Remote

end Extender.System
