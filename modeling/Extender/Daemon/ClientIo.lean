/-
One API client of the daemon (`handle_client_io`).

A task selects between three things: the next frame of the client, the next event broadcast to
subscribers, and shutdown. The event branch exists only once the client has subscribed. As in
every `select!`, the branch that loses is dropped, and with it the bytes of a frame that had
been read in part. What the client sends after that is read from the middle of a frame.

What a request does and what its response is are decided by `dispatch`; they are labels here,
so the results hold for every behaviour of the handlers. Whether a write succeeds is a label
too, and a response or notification above the limit of the framing ends the task as a failed
write does.

The stream, its chunks and its abandoned reads are those of `Lib.Inbound`, here with the
frames of `Api.Framing`; the forwarding loop of the client has the same defect with URB
messages (`Client.Forward`), and both proofs are the rules of that library at their own
reader.

* `StreamKept` — the invariant: what was sent is what was dispatched, what is still on its
  way, and nothing else.
* `clientIo_exact` — as long as no event wins while a frame is partly read, the payloads
  dispatched are exactly the frames sent.
* `clientIo_loses_bytes` — an event between a length and its payload makes the next read take
  the payload for a length.
-/

import Extender.Api.Framing
import Extender.Lib.Transition

namespace Extender.Daemon

open ByteReader Extender.Api

/-- How one request is answered: the serialised response, whether the request was a
subscription, and whether the response could be written. -/
structure Reply where
  response : List UInt8
  subscribes : Bool
  writeOk : Bool
deriving DecidableEq, Repr

/-- Why the task returned. -/
inductive ClientExit where
  | disconnected
  | readFailed
  | writeFailed
  | shutdown
deriving DecidableEq, Repr

/-- The task's variables, the stream it reads, and what it has done so far: payloads
parsed and dispatched, messages written. -/
structure ClientIo where
  inbound : Inbound
  subscribed : Bool
  handled : List (List UInt8)
  written : List (List UInt8)
  exited : Option ClientExit
deriving DecidableEq, Repr

namespace ClientIo

/-- A client that has just connected, with what it will send. -/
def start (chunks : List (List UInt8)) : ClientIo :=
  { inbound := Inbound.start chunks, subscribed := false, handled := [], written := []
    exited := none }

/-! ### The branches -/

/-- `write_message` of a serialised response or notification; an error returns. -/
def writeOut (s : ClientIo) (msg : List UInt8) (writeOk : Bool) : ClientIo :=
  match writeMessage msg with
  | .error _ => { s with exited := some .writeFailed }
  | .ok _ =>
    if writeOk then { s with written := s.written ++ [msg] }
    else { s with exited := some .writeFailed }

/-- A frame was read: parse it, dispatch it, write the response. -/
def handlePayload (s : ClientIo) (payload : List UInt8) (reply : Reply) : ClientIo :=
  { s with handled := s.handled ++ [payload]
           subscribed := s.subscribed || reply.subscribes }.writeOut reply.response reply.writeOk

/-- The read branch is polled. -/
def pollRead (s : ClientIo) (reply : Reply) : ClientIo :=
  match s.inbound.poll readMessage FramingError.IsEof with
  | (.done payload, inbound) => { s with inbound }.handlePayload payload reply
  | (.pending, inbound) => { s with inbound }
  | (.failed .connectionClosed, inbound) => { s with inbound, exited := some .disconnected }
  | (.failed _, inbound) => { s with inbound, exited := some .readFailed }

/-- The event branch wins: the read in progress is dropped first. A lagged receiver
yields no notification to write. -/
def event (s : ClientIo) (notification : Option (List UInt8)) (writeOk : Bool) : ClientIo :=
  match notification with
  | some notif => { s with inbound := s.inbound.cancel }.writeOut notif writeOk
  | none => { s with inbound := s.inbound.cancel }

/-- Bytes arrive, the client closes, the read is polled, an event wins, or the daemon shuts
down. -/
inductive Action where
  | arrive
  | close
  | poll (reply : Reply)
  | event (notification : Option (List UInt8)) (writeOk : Bool)
  | shutdown
deriving DecidableEq, Repr

/-- One step; a task that has returned makes none. -/
def step (s : ClientIo) (a : Action) : Option ClientIo :=
  if s.exited.isSome then none
  else
    match a with
    | .arrive => s.inbound.arrive.map fun inbound => { s with inbound }
    | .close => s.inbound.close.map fun inbound => { s with inbound }
    | .poll reply => some (s.pollRead reply)
    | .event notification writeOk =>
      -- without a subscription the branch is `pending()` and never completes
      if s.subscribed then some (s.event notification writeOk) else none
    | .shutdown => some { s with exited := some .shutdown }

/-! ### Framing integrity -/

/-- What the task is doing with its reader. -/
def status (s : ClientIo) : ReadStatus :=
  match s.exited with
  | none => .reading
  | some .disconnected => .failed
  | some .readFailed => .failed
  | some .writeFailed => .stopped
  | some .shutdown => .stopped

theorem status_of_running {s : ClientIo} (h : s.exited = none) : s.status = .reading := by
  rw [status, h]

/-- The payloads dispatched are exactly the frames sent. -/
def HandlesExactly (sent : List (List UInt8)) (s : ClientIo) : Prop :=
  Exact sent s.handled s.status s.inbound

instance (sent : List (List UInt8)) (s : ClientIo) : Decidable (HandlesExactly sent s) :=
  inferInstanceAs (Decidable (Exact _ _ _ _))

/-- No event wins while a frame has been read in part. -/
def EventBetweenFrames (s : ClientIo) : Action → Prop
  | .event _ _ => s.inbound.taken = []
  | _ => True

instance (s : ClientIo) : DecidablePred s.EventBetweenFrames
  | .event _ _ => inferInstanceAs (Decidable (s.inbound.taken = []))
  | .arrive => .isTrue trivial
  | .close => .isTrue trivial
  | .poll _ => .isTrue trivial
  | .shutdown => .isTrue trivial

/-- No byte of the stream has been lost. -/
def StreamKept (sent : List (List UInt8)) (s : ClientIo) : Prop :=
  Kept readMessage FramingError.IsEof frame sent s.handled s.status s.inbound

/-- For a running task that is what the stream says itself. -/
theorem streamKept_of_reading {sent : List (List UInt8)} {s : ClientIo} (h : s.exited = none)
    (hs : Intact readMessage FramingError.IsEof frame sent s.handled s.inbound) :
    s.StreamKept sent :=
  (kept_iff_of_reading (status_of_running h)).mpr hs

theorem StreamKept.intact {sent : List (List UInt8)} {s : ClientIo} (hs : s.StreamKept sent)
    (h : s.exited = none) :
    Intact readMessage FramingError.IsEof frame sent s.handled s.inbound :=
  (kept_iff_of_reading (status_of_running h)).mp hs

/-- Writing touches neither the stream nor the dispatched payloads; it can only end
the task by a failed write. -/
theorem StreamKept.writeOut {sent : List (List UInt8)} {s : ClientIo} (h : s.exited = none)
    (hs : Intact readMessage FramingError.IsEof frame sent s.handled s.inbound)
    (msg : List UInt8) (writeOk : Bool) : (s.writeOut msg writeOk).StreamKept sent := by
  unfold ClientIo.writeOut
  split
  · exact hs.handled_isPrefix
  · split
    · exact streamKept_of_reading h hs
    · exact hs.handled_isPrefix

/-- A poll takes the next frame that was sent, or waits. -/
theorem StreamKept.pollRead {sent : List (List UInt8)} {s : ClientIo}
    (hvalid : ∀ p ∈ sent, Fits p) (hs : s.StreamKept sent) (h : s.exited = none)
    (reply : Reply) : (s.pollRead reply).StreamKept sent := by
  unfold ClientIo.pollRead
  rcases (hs.intact h).poll readMessage_framed hvalid with
    ⟨payload, inbound, hpoll, hnext⟩ | ⟨inbound, hpoll, hnext⟩ | ⟨e, inbound, hpoll, hall⟩
  · rw [hpoll]
    exact StreamKept.writeOut (s := { s with
      inbound, handled := s.handled ++ [payload], subscribed := s.subscribed || reply.subscribes })
      h hnext reply.response reply.writeOk
  · rw [hpoll]
    exact streamKept_of_reading h hnext
  · rw [hpoll]
    cases e with
    | connectionClosed => exact hall
    | io kind => exact hall
    | messageTooLarge len => exact hall

theorem StreamKept.event {sent : List (List UInt8)} {s : ClientIo} (hs : s.StreamKept sent)
    (h : s.exited = none) (htaken : s.inbound.taken = []) (notification : Option (List UInt8))
    (writeOk : Bool) : (s.event notification writeOk).StreamKept sent := by
  have hintact := (hs.intact h).cancel htaken
  cases notification with
  | none => exact streamKept_of_reading h hintact
  | some notif =>
      exact StreamKept.writeOut (s := { s with inbound := s.inbound.cancel }) h hintact notif
        writeOk

/-- One step of the task loses nothing, an event in the middle of a frame apart. -/
theorem StreamKept.step {sent : List (List UInt8)} {s s' : ClientIo} {a : Action}
    (hvalid : ∀ p ∈ sent, Fits p) (hs : s.StreamKept sent) (hguard : s.EventBetweenFrames a)
    (hstep : s.step a = some s') : s'.StreamKept sent := by
  unfold ClientIo.step at hstep
  split at hstep
  · cases hstep
  · rename_i hrunning
    have h : s.exited = none := Option.not_isSome_iff_eq_none.mp hrunning
    cases a with
    | arrive =>
        obtain ⟨inbound, harrive, rfl⟩ := Option.map_eq_some_iff.mp hstep
        exact streamKept_of_reading h ((hs.intact h).arrive harrive)
    | close =>
        obtain ⟨inbound, hclose, rfl⟩ := Option.map_eq_some_iff.mp hstep
        exact streamKept_of_reading h ((hs.intact h).close hclose)
    | poll reply =>
        cases hstep
        exact hs.pollRead hvalid h reply
    | event notification writeOk =>
        simp only at hstep
        split at hstep
        · cases hstep
          exact hs.event h hguard notification writeOk
        · cases hstep
    | shutdown =>
        cases hstep
        exact (hs.intact h).handled_isPrefix

/-- **Framing integrity.** For every list of payloads a client frames, every chunking
of the bytes, every answer to each request and every interleaving of arrivals, polls,
events and shutdown in which no event wins while a frame is partly read, the payloads
dispatched are exactly the frames sent. -/
theorem clientIo_exact (sent : List (List UInt8)) (chunks : List (List UInt8))
    (as : List Action) (s : ClientIo) (hvalid : ∀ p ∈ sent, Fits p)
    (hchunks : chunks.flatten = sent.flatMap frame)
    (hguard : Transition.Meets step EventBetweenFrames (start chunks) as)
    (hrun : Transition.run step (start chunks) as = some s) : s.HandlesExactly sent := by
  have hstart : (start chunks).StreamKept sent := Intact.start readMessage_framed hchunks
  have hkept := Transition.run_invariant (StreamKept sent)
    (fun s a s' h hg hs => h.step hvalid hg hs) hstart hguard hrun
  exact Kept.exact readMessage_framed hvalid hkept

/-- A subscription and two more requests. -/
def sampleRequests : List (List UInt8) := [[115], [108, 105], []]

/-- Their frames in two arrivals. -/
def sampleChunks (cut : Nat) : List (List UInt8) :=
  [(sampleRequests.flatMap frame).take cut, (sampleRequests.flatMap frame).drop cut]

/-- The answer to the subscription, and to a request that is not one. -/
def subscription : Reply := { response := [111, 107], subscribes := true, writeOk := true }

/-- The answer to a request that is no subscription. -/
def answer : Reply := { response := [111, 107], subscribes := false, writeOk := true }

/-- The frames are cut apart, and an event wins between two of them. -/
theorem clientIo_exact_sampleRequests :
    ∃ s, Transition.run step (start (sampleChunks 7))
        [.arrive, .poll subscription, .event (some [101]) true, .poll answer, .arrive,
          .poll answer, .poll answer, .event none true, .close, .poll answer] = some s ∧
      s.handled = sampleRequests ∧ s.HandlesExactly sampleRequests := by
  obtain ⟨s, hrun, hhandled⟩ := Transition.exists_run_of_any step (start (sampleChunks 7))
    [.arrive, .poll subscription, .event (some [101]) true, .poll answer, .arrive,
      .poll answer, .poll answer, .event none true, .close, .poll answer]
    (fun s => s.handled = sampleRequests) (by decide +kernel)
  exact ⟨s, hrun, hhandled, clientIo_exact sampleRequests (sampleChunks 7) _ s (by decide)
    (by decide +kernel) (by decide +kernel) hrun⟩

/-- An event that wins after a length has been read: the payload that follows is
taken for the next length, and the client is dropped. -/
theorem clientIo_loses_bytes :
    ¬ ∀ (sent : List (List UInt8)) (chunks : List (List UInt8)) (as : List Action) (s : ClientIo),
      (∀ p ∈ sent, Fits p) → chunks.flatten = sent.flatMap frame →
      Transition.run step (start chunks) as = some s → s.HandlesExactly sent := by
  intro hall
  obtain ⟨s, hrun, hlost⟩ := Transition.exists_run_of_any step (start (sampleChunks 9))
    [.arrive, .poll subscription, .poll answer, .event (some [101]) true, .arrive,
      .poll answer]
    (fun s => ¬ s.HandlesExactly sampleRequests) (by decide +kernel)
  exact hlost (hall sampleRequests (sampleChunks 9) _ s (by decide) (by decide +kernel) hrun)

end ClientIo

end Extender.Daemon
