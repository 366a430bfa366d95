/-
One import session (`DeviceSession::run`), as an executable labelled transition system.

Four kinds of party move: the reader loop, one task per submission, the blocking pool that
runs the transfers, and the writer task. An action names the party and resolves what is
outside the program: which task a worker thread polls, how a transfer ends, whether a write
fails. A move is one critical section: what the source does under the `in_flight` lock, one
channel operation, one read of a message. A statement about every list of actions is one about
every schedule of the runtime, on any number of worker threads.

What is used of tokio is explicit. A task is polled (`poll`) or suspended at an `await`
(`suspend`); an aborted task that is suspended is dropped and never polled again, and one that
is being polled runs on until it suspends or ends. Dropping a task does not stop the closure
it gave to `spawn_blocking`. The channel holds `responseChannelSize` responses; a party that
finds it full waits. When the writer has gone, a task goes on as if it had sent, and the
reader leaves its loop.

The bytes of the client are given whole: the reader takes the next message from them, or
fails, at any time it gets to run. The device is not part of the system; what a transfer
answers is chosen by the action that completes it, so results hold for every device.
The URB counter of `SessionHealth`, which no reply depends on, is left out.

The history is recorded in `trace`. Each response carries the request it answers, which the
protocol does not: a RET_UNLINK names its CMD_UNLINK by sequence number only, and a client may
reuse those.
-/

import Mathlib.Data.List.AList
import Extender.Lib.Transition
import Extender.Protocol.Codec
import Extender.Server.Transfer

namespace Extender.Server

open Extender.Protocol

/-- Channel capacity for response messages. A task that finds the channel full waits in its
send, and can be aborted there. -/
def responseChannelSize : Nat := 64

/-- A response on its way to the client, with the request it answers; the request is history,
which the code does not send. -/
inductive Response where
  | submitted (cmd : CmdSubmit) (answer : Option UsbAnswer)
  | unlinked (cmd : CmdUnlink) (status : Int32)
deriving DecidableEq, Repr

/-- The reply `handle_unlink` builds: the header of the request, and whether a task was found
for it. -/
def unlinkReply (cmd : CmdUnlink) (status : Int32) : RetUnlink :=
  { header :=
      { command := Command.retUnlink.code
        seqnum := cmd.header.seqnum
        devid := cmd.header.devid
        direction := cmd.header.direction
        ep := cmd.header.ep }
    status }

/-- The message a response is sent as; for a submission it depends on how the transfer has
ended. -/
def Response.message : Response → UrbMessage
  | .submitted cmd answer => .retSubmit (handleSubmit cmd answer)
  | .unlinked cmd status => .retUnlink (unlinkReply cmd status)

/-! ### Transfer tasks -/

/-- The closure given to `spawn_blocking`: in the queue of the pool, on one of its threads, or
done with an answer. It goes on whether or not anyone waits for it. -/
inductive Blocking where
  | queued
  | executing
  | done (answer : Option UsbAnswer)
deriving DecidableEq, Repr

/-- Where a transfer task stands: before its first poll, waiting for the transfer,
sending the reply, about to remove itself from `in_flight`, over, or dropped. -/
inductive TaskPc where
  | spawned
  | waiting
  | sending (answer : Option UsbAnswer)
  | removing
  | finished
  | dropped
deriving DecidableEq, Repr

/-- A transfer task: the submission it is for, where it stands, its closure, whether a worker
is polling it and whether it was told to stop. -/
structure Task where
  cmd : CmdSubmit
  pc : TaskPc
  blocking : Option Blocking
  polled : Bool
  aborted : Bool
deriving DecidableEq, Repr

namespace Task

/-- What `tokio::spawn` makes of a submission: a task that has not been polled yet and has no
closure. -/
def spawn (cmd : CmdSubmit) : Task :=
  { cmd, pc := .spawned, blocking := none, polled := false, aborted := false }

def seqnum (t : Task) : UInt32 := t.cmd.header.seqnum

/-- The task is over and its future, with the sender it owns, is gone; its handle may still be
in the table. -/
def ended (t : Task) : Bool := t.pc = .finished ∨ t.pc = .dropped

def abort (t : Task) : Task := { t with aborted := true }

/-- The moves of a task and its closure that nobody else sees: polls, the start and the end of
the transfer, and being dropped. -/
inductive Move where
  | poll
  | suspend
  | spawnBlocking
  | joinBlocking
  | drop
  | begin
  | complete (answer : Option UsbAnswer)
deriving DecidableEq, Repr

def move (t : Task) : Move → Option Task
  | .poll =>
      if ¬ t.polled ∧ ¬ t.aborted ∧ ¬ t.ended then some { t with polled := true } else none
  | .suspend =>
      -- The first poll goes at least as far as the await of the transfer.
      if t.polled ∧ t.pc ≠ .spawned then some { t with polled := false } else none
  | .spawnBlocking =>
      if t.polled ∧ t.pc = .spawned then
        some { t with pc := .waiting, blocking := some .queued }
      else none
  | .joinBlocking =>
      match t.blocking with
      | some (.done answer) =>
          if t.polled ∧ t.pc = .waiting then some { t with pc := .sending answer } else none
      | _ => none
  | .drop =>
      if t.aborted ∧ ¬ t.polled ∧ ¬ t.ended then some { t with pc := .dropped } else none
  | .begin =>
      if t.blocking = some .queued then some { t with blocking := some .executing } else none
  | .complete answer =>
      if t.blocking = some .executing then some { t with blocking := some (.done answer) } else none

end Task

/-! ### The session -/

/-- Where the reader loop stands: about to read, about to insert a task's handle
into `in_flight`, about to handle an unlink, sending its reply, about to cancel
what is left, waiting for the writer, over. -/
inductive ReaderPc where
  | ready
  | inserting (task : Nat)
  | unlinking (cmd : CmdUnlink)
  | replying (cmd : CmdUnlink) (status : Int32)
  | cleanup
  | joining
  | returned
deriving DecidableEq, Repr

/-- The writer task: waiting for a response, writing one, or over, with the
receiving end of the channel dropped. -/
inductive WriterPc where
  | idle
  | writing (response : Response)
  | exited
deriving DecidableEq, Repr

/-- What the history keeps: a message was read, or a response was put into the channel. -/
inductive Event where
  | read (msg : UrbMessage)
  | put (response : Response)
deriving DecidableEq, Repr

structure Session where
  /-- The bytes the client sends, up to the end of the stream. -/
  input : List UInt8
  reader : ReaderPc
  /-- All tasks spawned so far, in order; a `JoinHandle` is an index. -/
  tasks : List Task
  inFlight : AList (fun _ : UInt32 => Nat)
  queue : List Response
  writer : WriterPc
  /-- What the client has received. -/
  wire : List Response
  trace : List Event

namespace Session

/-- `DeviceSession::new`, with the writer task spawned; `input` is everything the client will
ever send. -/
def start (input : List UInt8) : Session :=
  { input, reader := .ready, tasks := [], inFlight := ∅, queue := [], writer := .idle
    wire := [], trace := [] }

/-- The moves of the four parties, the reader, the tasks, their closures and the writer, with
what the outside decides about each. -/
inductive Action where
  | read
  | readFail
  | insert
  | unlink
  | reply
  | cancelAll
  | join
  | task (i : Nat) (m : Task.Move)
  | send (i : Nat)
  | remove (i : Nat)
  | recv
  | write
  | writeFail
  | close
deriving DecidableEq, Repr

/-- The receiving end of the channel still exists: the writer task has not returned. -/
def isOpen (s : Session) : Bool := s.writer ≠ .exited

/-- Put a response into the channel, and record in the history that it was put. -/
def put (s : Session) (r : Response) : Session :=
  { s with queue := s.queue ++ [r], trace := s.trace ++ [.put r] }

def setTask (s : Session) (i : Nat) (t : Task) : Session := { s with tasks := s.tasks.set i t }

/-- The reader has read a message: a submission is spawned as a task, an unlink is to be
looked up, and any other message is passed over. -/
def dispatch (s : Session) (msg : UrbMessage) (rest : List UInt8) : Session :=
  let s := { s with input := rest, trace := s.trace ++ [.read msg] }
  match msg with
  | .cmdSubmit cmd =>
      { s with tasks := s.tasks ++ [Task.spawn cmd], reader := .inserting s.tasks.length }
  | .cmdUnlink cmd => { s with reader := .unlinking cmd }
  | _ => s

/-- `handle_unlink` under the lock: the entry is taken out of the table and its task aborted,
and what the client is told depends only on whether there was one. -/
def handleUnlink (s : Session) (cmd : CmdUnlink) : Session :=
  match s.inFlight.lookup cmd.unlinkSeqnum with
  | some i =>
      { s with
        tasks := s.tasks.modify i Task.abort
        inFlight := s.inFlight.erase cmd.unlinkSeqnum
        reader := .replying cmd ECONNRESET }
  | none => { s with reader := .replying cmd 0 }

/-- Abort every task whose handle is in the table; a task that was overtaken by its own
removal is not among them. -/
def abortAll (tasks : List Task) (inFlight : AList (fun _ : UInt32 => Nat)) : List Task :=
  tasks.mapIdx fun i t => if i ∈ inFlight.entries.map (·.2) then t.abort else t

/-- `cancel_all_in_flight`, then `drop(tx)`: the reader has left its loop, and the tasks own
the last senders. -/
def cancelAllInFlight (s : Session) : Session :=
  { s with tasks := abortAll s.tasks s.inFlight, inFlight := ∅, reader := .joining }

/-- Nobody holds a sender any more: the reader has dropped its own and every task
is over. -/
def sendersGone (s : Session) : Bool :=
  (s.reader = .joining ∨ s.reader = .returned) ∧ s.tasks.all Task.ended

/-- One move, if it is enabled; which of the parties moves is the scheduler's choice, and so
is every label. -/
def step (s : Session) : Action → Option Session
  | .read =>
      if s.reader = .ready then
        match readUrbMessage s.input with
        | .ok (msg, rest) => some (s.dispatch msg rest)
        | .error _ => some { s with reader := .cleanup }
      else none
  | .readFail => if s.reader = .ready then some { s with reader := .cleanup } else none
  | .insert =>
      match s.reader with
      | .inserting i =>
          match s.tasks[i]? with
          | some t => some { s with inFlight := s.inFlight.insert t.seqnum i, reader := .ready }
          | none => none
      | _ => none
  | .unlink =>
      match s.reader with
      | .unlinking cmd => some (s.handleUnlink cmd)
      | _ => none
  | .reply =>
      match s.reader with
      | .replying cmd status =>
          if s.isOpen = false then some { s with reader := .cleanup }
          else if s.queue.length < responseChannelSize then
            some { s.put (.unlinked cmd status) with reader := .ready }
          else none
      | _ => none
  | .cancelAll => if s.reader = .cleanup then some s.cancelAllInFlight else none
  | .join =>
      if s.reader = .joining ∧ s.isOpen = false then some { s with reader := .returned } else none
  | .task i m =>
      match s.tasks[i]? with
      | some t => (t.move m).map (s.setTask i)
      | none => none
  | .send i =>
      match s.tasks[i]? with
      | some t =>
          match t.pc with
          | .sending answer =>
              if t.polled = false then none
              else if s.isOpen = false then some (s.setTask i { t with pc := .removing })
              else if s.queue.length < responseChannelSize then
                some ((s.put (.submitted t.cmd answer)).setTask i { t with pc := .removing })
              else none
          | _ => none
      | none => none
  | .remove i =>
      match s.tasks[i]? with
      | some t =>
          if t.polled ∧ t.pc = .removing then
            some { s.setTask i { t with pc := .finished, polled := false } with
              inFlight := s.inFlight.erase t.seqnum }
          else none
      | none => none
  | .recv =>
      match s.writer, s.queue with
      | .idle, r :: queue => some { s with writer := .writing r, queue }
      | _, _ => none
  | .write =>
      match s.writer with
      | .writing r => some { s with writer := .idle, wire := s.wire ++ [r] }
      | _ => none
  | .writeFail =>
      match s.writer with
      | .writing _ => some { s with writer := .exited }
      | _ => none
  | .close =>
      if s.writer = .idle ∧ s.queue = [] ∧ s.sendersGone then some { s with writer := .exited }
      else none

end Session

end Extender.Server
