/-
The URB forwarding loop of an attached macOS device (`urb_forward_loop`).

One task multiplexes two things with `select!`: reading URB messages from the server, and a 5
ms tick on which it polls the driver for host requests and sends them. A select drops the
branch that loses, so a tick that wins while a message has been read in part drops that read,
and the bytes it had taken are gone: what is read next begins in the middle of a message.

The loop is a transition system whose labels resolve what is outside it: chunks arriving, the
server closing, which branch wins, what the driver has queued and whether a write succeeds.
The stream and its abandoned reads are those of `Lib.Inbound`, with the URB reader, which is
framed (`readUrbMessage_framed`).

`TickBetweenMessages` is the condition on the steps under which nothing is dropped. It is
about the state before a tick, and a server that sends each message in one piece does not
guarantee it: the network may cut the bytes anywhere.

* `forward_exact` — as long as no tick wins while a message is partly read, the messages
  handled are those the server sent, for every chunking and interleaving.
* `forward_loses_bytes` — a message split around a tick ends the loop instead.
-/

import Extender.Lib.Transition
import Extender.Protocol.UrbGrammar

namespace Extender.Client

open ByteReader Extender.Protocol

/-- A host request the driver has queued (`PendingRequest`). -/
structure PendingRequest where
  deviceId : UInt32
  endpoint : UInt32
  requestId : UInt32
  data : List UInt8
deriving DecidableEq, Repr

/-- What `get_pending_output` returns: nothing queued, an error that is logged, or a
request. -/
inductive PendingOutput where
  | nothing
  | failed
  | request (r : PendingRequest)
deriving DecidableEq, Repr

/-- One call of `complete_request`: the request it completes, with which status and data. -/
structure CompleteRequest where
  deviceId : UInt32
  requestId : UInt32
  status : Int32
  data : List UInt8
deriving DecidableEq, Repr

/-- Why the loop ended. -/
inductive LoopExit where
  | readFailed
  | writeFailed
deriving DecidableEq, Repr

/-- The loop's variables, the stream it reads from, and what it has done so far:
messages returned by the reader, calls into the driver, messages written. -/
structure ForwardLoop where
  devid : UInt32
  inbound : Inbound
  pending : List (UInt32 × UInt32)
  nextSeqnum : UInt32
  handled : List UrbMessage
  completed : List CompleteRequest
  written : List UrbMessage
  exited : Option LoopExit
deriving DecidableEq, Repr

namespace ForwardLoop

def start (devid : UInt32) (chunks : List (List UInt8)) : ForwardLoop :=
  { devid, inbound := Inbound.start chunks, pending := [], nextSeqnum := 1, handled := []
    completed := [], written := [], exited := none }

/-! ### The two branches -/

/-- `HashMap::insert` on the pending table: an entry with this number is replaced. -/
def insertPending (pending : List (UInt32 × UInt32)) (seqnum requestId : UInt32) :
    List (UInt32 × UInt32) :=
  (seqnum, requestId) :: pending.filter (fun entry => entry.1 ≠ seqnum)

/-- `HashMap::remove` on the pending table. -/
def removePending (pending : List (UInt32 × UInt32)) (seqnum : UInt32) :
    List (UInt32 × UInt32) :=
  pending.filter (fun entry => entry.1 ≠ seqnum)

def kIOReturnError : Int32 := (0xE00002BC : UInt32).toInt32

/-- A message arrived: a return completes the request it answers, anything else is
only logged. -/
def handleMessage (s : ForwardLoop) : UrbMessage → ForwardLoop
  | .retSubmit ret =>
    match s.pending.lookup ret.header.seqnum with
    | none => s
    | some requestId =>
      { s with
        pending := removePending s.pending ret.header.seqnum
        completed := s.completed ++ [
          { deviceId := s.devid, requestId, data := ret.transferBuffer
            status := if ret.status = 0 then 0 else kIOReturnError }] }
  | .retUnlink _ => s
  | .cmdSubmit _ => s
  | .cmdUnlink _ => s

/-- The submission built from a queued request: direction from bit 7 of the endpoint
address, the payload as transfer buffer, no setup packet. -/
def submissionOf (devid seqnum : UInt32) (r : PendingRequest) : CmdSubmit :=
  { header :=
      { command := Command.cmdSubmit.code, seqnum, devid
        direction := if r.endpoint &&& 0x80 ≠ 0 then 1 else 0, ep := r.endpoint &&& 0x0F }
    transferFlags := 0
    transferBufferLength := UInt32.ofNat r.data.length
    startFrame := 0
    numberOfPackets := nonIsoPacketsSentinel
    interval := 0
    setup := ⟨[0, 0, 0, 0, 0, 0, 0, 0], length_zeroSetup⟩
    transferBuffer := r.data
    isoPacketDescriptors := [] }

/-- The body of the tick branch: ask the driver for a request, and send a submission for
it. -/
def pollDriver (s : ForwardLoop) (output : PendingOutput) (writeOk : Bool) : ForwardLoop :=
  match output with
  | .nothing => s
  | .failed => s
  | .request r =>
    let seqnum := s.nextSeqnum
    let pending := insertPending s.pending seqnum r.requestId
    if writeOk then
      { s with nextSeqnum := s.nextSeqnum + 1, pending
               written := s.written ++ [.cmdSubmit (submissionOf s.devid seqnum r)] }
    else
      { s with nextSeqnum := s.nextSeqnum + 1, pending := removePending pending seqnum
               exited := some .writeFailed }

/-! ### The loop as a transition system -/

inductive Action where
  | arrive
  | close
  | poll
  | tick (output : PendingOutput) (writeOk : Bool)
deriving DecidableEq, Repr

/-- The read branch is polled: it wins with a message or an error, or waits. -/
def pollRead (s : ForwardLoop) : ForwardLoop :=
  match s.inbound.poll readUrbMessage Failure.IsEof with
  | (.done msg, inbound) =>
    { s with inbound, handled := s.handled ++ [msg] }.handleMessage msg
  | (.pending, inbound) => { s with inbound }
  | (.failed _, inbound) => { s with inbound, exited := some .readFailed }

/-- The tick wins the select: the read in progress is dropped first, with the bytes it had
taken. -/
def tick (s : ForwardLoop) (output : PendingOutput) (writeOk : Bool) : ForwardLoop :=
  { s with inbound := s.inbound.cancel }.pollDriver output writeOk

/-- One move; a loop that has ended makes none. -/
def step (s : ForwardLoop) (a : Action) : Option ForwardLoop :=
  if s.exited.isSome then none
  else
    match a with
    | .arrive => s.inbound.arrive.map fun inbound => { s with inbound }
    | .close => s.inbound.close.map fun inbound => { s with inbound }
    | .poll => some s.pollRead
    | .tick output writeOk => some (s.tick output writeOk)

/-! ### Frame lemmas -/

@[simp] theorem handleMessage_inbound (s : ForwardLoop) (msg : UrbMessage) :
    (s.handleMessage msg).inbound = s.inbound := by
  unfold handleMessage
  split
  · split <;> rfl
  all_goals rfl

@[simp] theorem handleMessage_handled (s : ForwardLoop) (msg : UrbMessage) :
    (s.handleMessage msg).handled = s.handled := by
  unfold handleMessage
  split
  · split <;> rfl
  all_goals rfl

@[simp] theorem handleMessage_exited (s : ForwardLoop) (msg : UrbMessage) :
    (s.handleMessage msg).exited = s.exited := by
  unfold handleMessage
  split
  · split <;> rfl
  all_goals rfl

/-- The tick branch does not touch the stream; it can only end the loop by a failed
write. -/
theorem pollDriver_frame (s : ForwardLoop) (output : PendingOutput) (writeOk : Bool) :
    (s.pollDriver output writeOk).inbound = s.inbound ∧
      (s.pollDriver output writeOk).handled = s.handled ∧
      ((s.pollDriver output writeOk).exited = s.exited ∨
        (s.pollDriver output writeOk).exited = some .writeFailed) := by
  cases output with
  | nothing => exact ⟨rfl, rfl, Or.inl rfl⟩
  | failed => exact ⟨rfl, rfl, Or.inl rfl⟩
  | request r =>
      cases writeOk with
      | true => exact ⟨rfl, rfl, Or.inl rfl⟩
      | false => exact ⟨rfl, rfl, Or.inr rfl⟩

/-! ### Stream integrity -/

/-- What the loop is doing with its reader. -/
def status (s : ForwardLoop) : ReadStatus :=
  match s.exited with
  | none => .reading
  | some .readFailed => .failed
  | some .writeFailed => .stopped

theorem status_of_running {s : ForwardLoop} (h : s.exited = none) : s.status = .reading := by
  rw [status, h]

/-- The messages handled are exactly those sent: all of them once the stream is read
through, and a front part before. -/
def HandlesExactly (sent : List UrbMessage) (s : ForwardLoop) : Prop :=
  Exact sent s.handled s.status s.inbound

instance (sent : List UrbMessage) (s : ForwardLoop) : Decidable (HandlesExactly sent s) :=
  inferInstanceAs (Decidable (Exact _ _ _ _))

/-- No tick wins while a message has been read in part; the condition is on the state before
the tick. -/
def TickBetweenMessages (s : ForwardLoop) : Action → Prop
  | .tick _ _ => s.inbound.taken = []
  | _ => True

instance (s : ForwardLoop) : DecidablePred s.TickBetweenMessages
  | .tick _ _ => inferInstanceAs (Decidable (s.inbound.taken = []))
  | .arrive => .isTrue trivial
  | .close => .isTrue trivial
  | .poll => .isTrue trivial

def StreamKept (sent : List UrbMessage) (s : ForwardLoop) : Prop :=
  Kept readUrbMessage Failure.IsEof UrbMessage.encode sent s.handled s.status s.inbound

theorem streamKept_of_reading {sent : List UrbMessage} {s : ForwardLoop} (h : s.exited = none)
    (hs : Intact readUrbMessage Failure.IsEof UrbMessage.encode sent s.handled s.inbound) :
    s.StreamKept sent :=
  (kept_iff_of_reading (status_of_running h)).mpr hs

theorem StreamKept.intact {sent : List UrbMessage} {s : ForwardLoop} (hs : s.StreamKept sent)
    (h : s.exited = none) :
    Intact readUrbMessage Failure.IsEof UrbMessage.encode sent s.handled s.inbound :=
  (kept_iff_of_reading (status_of_running h)).mp hs

theorem StreamKept.pollRead {sent : List UrbMessage} {s : ForwardLoop}
    (hvalid : ∀ m ∈ sent, m.WellFormed) (hs : s.StreamKept sent) (h : s.exited = none) :
    s.pollRead.StreamKept sent := by
  unfold ForwardLoop.pollRead
  rcases (hs.intact h).poll readUrbMessage_framed hvalid with
    ⟨msg, inbound, hpoll, hnext⟩ | ⟨inbound, hpoll, hnext⟩ | ⟨e, inbound, hpoll, hall⟩
  · rw [hpoll]
    apply streamKept_of_reading
    · rw [handleMessage_exited]
      exact h
    · rw [handleMessage_handled, handleMessage_inbound]
      exact hnext
  · rw [hpoll]
    exact streamKept_of_reading h hnext
  · rw [hpoll]
    exact hall

theorem StreamKept.tick {sent : List UrbMessage} {s : ForwardLoop} (hs : s.StreamKept sent)
    (h : s.exited = none) (htaken : s.inbound.taken = []) (output : PendingOutput)
    (writeOk : Bool) : (s.tick output writeOk).StreamKept sent := by
  have hintact := (hs.intact h).cancel htaken
  obtain ⟨hinbound, hhandled, hexited⟩ :=
    pollDriver_frame { s with inbound := s.inbound.cancel } output writeOk
  rcases hexited with hexited | hexited
  · apply streamKept_of_reading (hexited.trans h)
    rw [hinbound, hhandled]
    exact hintact
  · unfold StreamKept status
    rw [ForwardLoop.tick, hexited, hinbound, hhandled]
    exact hintact.handled_isPrefix

/-- One step of the loop loses nothing, a tick in the middle of a message apart. -/
theorem StreamKept.step {sent : List UrbMessage} {s s' : ForwardLoop} {a : Action}
    (hvalid : ∀ m ∈ sent, m.WellFormed) (hs : s.StreamKept sent)
    (hguard : s.TickBetweenMessages a) (hstep : s.step a = some s') : s'.StreamKept sent := by
  unfold ForwardLoop.step at hstep
  split at hstep
  · cases hstep
  · rename_i hrunning
    have h : s.exited = none := Option.not_isSome_iff_eq_none.mp hrunning
    cases a with
    | arrive =>
        obtain ⟨inbound, harrive, rfl⟩ := Option.map_eq_some_iff.mp hstep
        exact streamKept_of_reading h ((hs.intact h).arrive harrive)
    | close =>
        obtain ⟨inbound, hclose, rfl⟩ := Option.map_eq_some_iff.mp hstep
        exact streamKept_of_reading h ((hs.intact h).close hclose)
    | poll =>
        cases hstep
        exact hs.pollRead hvalid h
    | tick output writeOk =>
        cases hstep
        exact hs.tick h hguard output writeOk

/-- **Stream integrity.** For every list of well-formed messages, every chunking of
their bytes and every interleaving of arrivals, polls and ticks in which no tick wins
while a message is partly read, the messages handled are exactly those sent. -/
theorem forward_exact (devid : UInt32) (sent : List UrbMessage) (chunks : List (List UInt8))
    (as : List Action) (s : ForwardLoop) (hvalid : ∀ m ∈ sent, m.WellFormed)
    (hchunks : chunks.flatten = sent.flatMap UrbMessage.encode)
    (hguard : Transition.Meets step TickBetweenMessages (start devid chunks) as)
    (hrun : Transition.run step (start devid chunks) as = some s) :
    s.HandlesExactly sent := by
  have hstart : (start devid chunks).StreamKept sent :=
    Intact.start readUrbMessage_framed hchunks
  have hkept := Transition.run_invariant (StreamKept sent)
    (fun s a s' h hg hs => h.step hvalid hg hs) hstart hguard hrun
  exact Kept.exact readUrbMessage_framed hvalid hkept

/-- Two answers of the server. -/
def sampleAnswers : List UrbMessage :=
  [ .retUnlink
      { header := { command := 4, seqnum := 1, devid := 0, direction := 0, ep := 0 }
        status := ECONNRESET },
    .retSubmit
      { header := { command := 3, seqnum := 1, devid := 0, direction := 1, ep := 1 }
        status := 0, actualLength := 2, startFrame := 0, numberOfPackets := 0xFFFFFFFF
        errorCount := 0, transferBuffer := [7, 8], isoPacketDescriptors := [] } ]

/-- Their bytes in two arrivals, the first ending in the middle of a header. -/
def sampleChunks (cut : Nat) : List (List UInt8) :=
  [(sampleAnswers.flatMap UrbMessage.encode).take cut,
   (sampleAnswers.flatMap UrbMessage.encode).drop cut]

/-- A request queued by the driver, sent between the two answers. -/
def sampleOutput : PendingOutput :=
  .request { deviceId := 0, endpoint := 0x81, requestId := 9, data := [] }

theorem forward_exact_sampleAnswers :
    ∃ s, Transition.run step (start 0 (sampleChunks 55))
        [.tick sampleOutput true, .arrive, .poll, .poll, .arrive, .poll, .tick .nothing true]
        = some s ∧
      s.handled = sampleAnswers ∧ s.HandlesExactly sampleAnswers := by
  obtain ⟨s, hrun, hhandled⟩ := Transition.exists_run_of_any step (start 0 (sampleChunks 55))
    [.tick sampleOutput true, .arrive, .poll, .poll, .arrive, .poll, .tick .nothing true]
    (fun s => s.handled = sampleAnswers) (by decide +kernel)
  exact ⟨s, hrun, hhandled, forward_exact 0 sampleAnswers (sampleChunks 55) _ s (by decide)
    (by decide +kernel) (by decide +kernel) hrun⟩

/-- A tick that wins after the first 20 bytes of an answer: the rest of the answer is
read as a header and the loop ends with nothing handled. -/
theorem forward_loses_bytes :
    ¬ ∀ (devid : UInt32) (sent : List UrbMessage) (chunks : List (List UInt8))
      (as : List Action) (s : ForwardLoop), (∀ m ∈ sent, m.WellFormed) →
      chunks.flatten = sent.flatMap UrbMessage.encode →
      Transition.run step (start devid chunks) as = some s → s.HandlesExactly sent := by
  intro hall
  obtain ⟨s, hrun, hlost⟩ := Transition.exists_run_of_any step (start 0 (sampleChunks 20))
    [.arrive, .poll, .tick .nothing true, .arrive, .poll]
    (fun s => ¬ s.HandlesExactly sampleAnswers) (by decide +kernel)
  exact hlost (hall 0 sampleAnswers (sampleChunks 20) _ s (by decide) (by decide +kernel) hrun)

end ForwardLoop

end Extender.Client
