/-
The pending ring as a queue (`ExtenderVirtualHID.cpp`).

A ring of 64 slots has a head, a tail and a count, and each slot a mark that it is valid.
Head, tail and count say the same thing twice, and the marks say it once more. `Sound` is what
holds between them, and `entries` reads the ring from its head on; pushing and popping are
then what they are on a list. The slots of a ring and how to read them in a row are those of
`Lib.Fifo`.

Pushing does not look at the count: `enqueuePending` checks it before, and the storage device
has another reason why there is room (`StorageRing`). So the lemma about a push has room as
its hypothesis, and each device gives its own.

The specification is the bounded queue of `Lib.Fifo`, with its answers: a request is accepted
under a number or refused, and a call for an entry gives the first one or nothing. The calls
of the device are run on the ring, and the queue makes the same moves with the same answers. A
call with less room than an entry may have would cut it, and is left out; the handler always
calls with room for the largest.

* `Sound.push`, `Sound.pop` — a push onto a ring that is not full appends, a pop of one that
  is not empty takes the first entry.
* `ringCalls_refine` — the ring of the HID device refines a queue of 64 entries.
-/

import Extender.Driver.VirtualDevices
import Extender.Lib.Fifo

namespace Extender.Driver

namespace OutputRing

/-- The entries that have been queued and not taken, oldest first: as many slots as the count
says, from the head on. -/
def entries (ring : OutputRing) : List PendingOutputEntry :=
  Fifo.contents ring.pending ring.pendingHead ring.pendingCount.toNat

@[simp] theorem length_entries (ring : OutputRing) :
    ring.entries.length = ring.pendingCount.toNat := Fifo.length_contents

/-- The counters agree, and a slot that is marked valid is among those still to be read. -/
structure Sound (ring : OutputRing) : Prop where
  consistent : ring.Consistent
  count_le : ring.pendingCount.toNat ≤ maxPendingOutputs
  marked : ∀ i, (ring.pending i).valid = true →
    ∃ k < ring.pendingCount.toNat, ring.pendingHead + Fin.ofNat maxPendingOutputs k = i

theorem sound_zero : OutputRing.zero.Sound := ⟨consistent_zero, Nat.zero_le _, nofun⟩

namespace Sound

variable {ring : OutputRing}

/-- A push onto a ring with room keeps it sound, and appends the request. -/
theorem push (h : ring.Sound) (hroom : ring.pendingCount.toNat < maxPendingOutputs)
    (requestType requestId : UInt32) {src : List UInt8} (hsrc : src.length ≤ maxTransferSize) :
    (ring.push requestType requestId src hsrc).Sound ∧
      (ring.push requestType requestId src hsrc).entries =
        ring.entries ++ [(ring.pending ring.pendingTail).fill requestType requestId src hsrc] := by
  have hcount : (ring.pendingCount + 1).toNat = ring.pendingCount.toNat + 1 := by
    rw [UInt32.toNat_add, UInt32.toNat_one]
    exact Nat.mod_eq_of_lt (by unfold maxPendingOutputs at hroom; omega)
  refine ⟨⟨h.consistent.push requestType requestId hsrc, ?_, ?_⟩, ?_⟩
  · show (ring.pendingCount + 1).toNat ≤ maxPendingOutputs
    rw [hcount]
    exact hroom
  · show ∀ i, (Function.update ring.pending ring.pendingTail _ i).valid = true →
      ∃ k < (ring.pendingCount + 1).toNat, ring.pendingHead + Fin.ofNat _ k = i
    intro i hi
    rw [hcount]
    by_cases htail : i = ring.pendingTail
    · exact ⟨ring.pendingCount.toNat, Nat.lt_succ_self _, h.consistent.symm.trans htail.symm⟩
    · rw [Function.update_of_ne htail] at hi
      obtain ⟨k, hk, hplace⟩ := h.marked i hi
      exact ⟨k, Nat.lt_succ_of_lt hk, hplace⟩
  · show Fifo.contents (Function.update ring.pending ring.pendingTail _) ring.pendingHead
      (ring.pendingCount + 1).toNat = _
    rw [hcount, h.consistent]
    exact Fifo.contents_push hroom _

/-- A pop of a ring that is not empty keeps it sound, and takes the first entry. -/
theorem pop (h : ring.Sound) (hpending : ring.pendingCount ≠ 0) :
    ring.pop.Sound ∧ ring.entries = ring.front :: ring.pop.entries := by
  have hpos : 0 < ring.pendingCount.toNat :=
    Nat.pos_of_ne_zero fun hzero => hpending (UInt32.toNat_inj.mp hzero)
  have hle := h.count_le
  have hcount : (ring.pendingCount - 1).toNat = ring.pendingCount.toNat - 1 :=
    UInt32.toNat_sub_of_le _ _ (UInt32.le_iff_toNat_le.mpr hpos)
  refine ⟨⟨h.consistent.pop, ?_, ?_⟩, ?_⟩
  · show (ring.pendingCount - 1).toNat ≤ maxPendingOutputs
    omega
  · show ∀ i, (Function.update ring.pending ring.pendingHead _ i).valid = true →
      ∃ k < (ring.pendingCount - 1).toNat, ring.pendingHead + 1 + Fin.ofNat _ k = i
    intro i hi
    by_cases hhead : i = ring.pendingHead
    · rw [hhead, Function.update_self] at hi
      cases hi
    · rw [Function.update_of_ne hhead] at hi
      obtain ⟨k, hk, hplace⟩ := h.marked i hi
      cases k with
      | zero => exact absurd (hplace.symm.trans (add_zero _)) hhead
      | succ k =>
          rw [Fifo.place_succ] at hplace
          exact ⟨k, by omega, hplace⟩
  · have hsucc : ring.pendingCount.toNat = (ring.pendingCount - 1).toNat + 1 := by omega
    show Fifo.contents ring.pending ring.pendingHead ring.pendingCount.toNat = _
    rw [hsucc]
    exact Fifo.contents_pop (by omega) _

/-- The slot at the tail holds no entry that is still to be taken. -/
theorem tail_free (h : ring.Sound) (hroom : ring.pendingCount.toNat < maxPendingOutputs) :
    ∀ k < ring.pendingCount.toNat,
      ring.pendingHead + Fin.ofNat maxPendingOutputs k ≠ ring.pendingTail := by
  intro k hk heq
  rw [h.consistent] at heq
  exact Nat.ne_of_lt hk (Fifo.place_inj (Nat.lt_trans hk hroom) hroom heq)

/-- What is written next is a slot that is marked free. -/
theorem tail_unmarked (h : ring.Sound) (hroom : ring.pendingCount.toNat < maxPendingOutputs) :
    (ring.pending ring.pendingTail).valid = false := by
  rw [← Bool.not_eq_true]
  intro hvalid
  obtain ⟨k, hk, hplace⟩ := h.marked _ hvalid
  exact h.tail_free hroom k hk hplace

/-- The tail is the head and the count, round the ring. -/
theorem tail_eq (h : ring.Sound) :
    ring.pendingTail.val =
      (ring.pendingHead.val + ring.pendingCount.toNat) % maxPendingOutputs := by
  rw [h.consistent, Fin.val_add, Fin.val_ofNat, Nat.add_mod_mod]

end Sound

end OutputRing

/-! ### Entries as they travel -/

/-- What an entry is for the daemon: its type, its id and its bytes. -/
structure QueuedOutput where
  requestType : UInt32
  requestId : UInt32
  length : Nat
  bytes : List UInt8
deriving DecidableEq, Repr

/-- An entry as the daemon will see it. -/
def PendingOutputEntry.queued (e : PendingOutputEntry) : QueuedOutput :=
  { requestType := e.requestType, requestId := e.requestId, length := e.length.toNat
    bytes := e.payload }

/-- A request of `src` under an id. -/
def QueuedOutput.ofRequest (requestType requestId : UInt32) (src : List UInt8) : QueuedOutput :=
  { requestType, requestId, length := src.length, bytes := src }

/-- What the daemon gets. -/
def QueuedOutput.ofOutput (hdr : PendingOutputHeader) (bytes : List UInt8) : QueuedOutput :=
  { requestType := hdr.requestType, requestId := hdr.requestId
    length := hdr.dataLength.toNat, bytes }

/-- A slot that was filled with a request is that request. -/
theorem PendingOutputEntry.queued_fill (e : PendingOutputEntry) (requestType requestId : UInt32)
    {src : List UInt8} (h : src.length ≤ maxTransferSize) :
    (e.fill requestType requestId src h).queued = .ofRequest requestType requestId src := by
  have hlength := length_payload (e.fill requestType requestId src h)
  rw [payload_fill] at hlength
  unfold queued QueuedOutput.ofRequest
  rw [payload_fill, ← hlength]
  rfl

/-- The header and the payload the device writes are the entry. -/
theorem PendingOutputEntry.ofOutput_ofEntry (deviceId : UInt32) (e : PendingOutputEntry) :
    QueuedOutput.ofOutput (.ofEntry deviceId e e.length) e.payload = e.queued := rfl

/-! ### The operations of the HID device -/

/-- What `enqueuePending` can queue: a request that is not longer than an entry. -/
def Admits (request : UInt32 × List UInt8) : Prop := request.2.length ≤ maxTransferSize

/-- The request an entry was made of. -/
def QueuedOutput.request (o : QueuedOutput) : UInt32 × List UInt8 := (o.requestType, o.bytes)

/-- What the caller of one of them sees. -/
abbrev RingEvent : Type := Fifo.Event QueuedOutput (UInt32 × List UInt8)

/-- The two calls on the ring, with their arguments. -/
inductive RingCall where
  | enqueue (requestType : UInt32) (src : List UInt8)
  | dequeue (maxLen : UInt32)
deriving DecidableEq, Repr

namespace HidIVars

/-- One call, and what its caller sees of it: the id of an accepted request, or the entry that
was taken. -/
def ringCall (ivars : HidIVars) : RingCall → RingEvent × HidIVars
  | .enqueue requestType src =>
      let (rid, ivars') := ivars.enqueuePending requestType src
      (if rid = 0 then .refused (requestType, src)
        else .accepted (.ofRequest requestType rid src), ivars')
  | .dequeue maxLen =>
      match ivars.dequeuePendingOutput maxLen with
      | (none, ivars') => (.nothing, ivars')
      | (some (hdr, bytes), ivars') => (.taken (.ofOutput hdr bytes), ivars')

/-- Calls one after the other, with what is seen of each. -/
def ringCalls (ivars : HidIVars) : List RingCall → List RingEvent × HidIVars
  | [] => ([], ivars)
  | call :: calls =>
      let (event, ivars') := ivars.ringCall call
      let (events, ivars'') := ivars'.ringCalls calls
      (event :: events, ivars'')

/-- What `enqueuePending` does: nothing, or a push under an id that is not zero. -/
theorem enqueuePending_cases (ivars : HidIVars) (requestType : UInt32) (src : List UInt8) :
    (ivars.enqueuePending requestType src = (0, ivars) ∧
      (¬ src.length ≤ maxTransferSize ∨ maxPendingOutputs ≤ ivars.ring.pendingCount.toNat)) ∨
    ∃ rid next, rid ≠ 0 ∧ ∃ h : src.length ≤ maxTransferSize,
      ivars.ring.pendingCount.toNat < maxPendingOutputs ∧
      ivars.enqueuePending requestType src =
        (rid, { ivars with ring := ivars.ring.push requestType rid src h, nextRequestId := next })
      := by
  unfold enqueuePending
  by_cases hlen : src.length ≤ maxTransferSize
  · rw [dif_pos hlen]
    by_cases hfull : ivars.ring.pendingCount ≥ UInt32.ofNat maxPendingOutputs
    · rw [if_pos hfull]
      exact Or.inl ⟨rfl, Or.inr (UInt32.le_iff_toNat_le.mp hfull)⟩
    · rw [if_neg hfull]
      refine Or.inr ⟨_, _, ?_, hlen, ?_, rfl⟩
      · split
        · decide
        · assumption
      · exact Nat.not_le.mp fun hle => hfull (UInt32.le_iff_toNat_le.mpr hle)
  · rw [dif_neg hlen]
    exact Or.inl ⟨rfl, Or.inl hlen⟩

/-- What a dequeue with room for every entry does: nothing, or a pop that gives the whole
entry. -/
theorem ringCall_dequeue_cases (ivars : HidIVars) {maxLen : UInt32}
    (hroom : maxTransferSize ≤ maxLen.toNat) :
    (ivars.ring.pendingCount = 0 ∧ ivars.ringCall (.dequeue maxLen) = (.nothing, ivars)) ∨
    (ivars.ring.pendingCount ≠ 0 ∧
      ivars.ringCall (.dequeue maxLen) =
        (.taken ivars.ring.front.queued, { ivars with ring := ivars.ring.pop })) := by
  unfold ringCall dequeuePendingOutput
  by_cases hpending : ivars.ring.pendingCount = 0
  · have hempty : ivars.ring.dequeue (.ofEntry ivars.deviceId) maxLen = (none, ivars.ring) :=
      if_pos hpending
    refine Or.inl ⟨hpending, ?_⟩
    simp only [hempty]
  · refine Or.inr ⟨hpending, ?_⟩
    simp only [ivars.ring.dequeue_of_room hpending _ hroom, PendingOutputEntry.ofOutput_ofEntry]

/-- The device's ring is this queue: its counters are sound, and its entries are the items. -/
def Refines (ivars : HidIVars) (q : Fifo.Queue maxPendingOutputs QueuedOutput) : Prop :=
  ivars.ring.Sound ∧ ivars.ring.entries.map PendingOutputEntry.queued = q.items

theorem Refines.length {ivars : HidIVars} {q : Fifo.Queue maxPendingOutputs QueuedOutput}
    (h : ivars.Refines q) : q.items.length = ivars.ring.pendingCount.toNat := by
  rw [← h.2, List.length_map, OutputRing.length_entries]

section Simulation

variable {ivars : HidIVars} {q : Fifo.Queue maxPendingOutputs QueuedOutput}

/-- An enqueue is one of the queue, with the same answer. -/
theorem Refines.enqueue (h : ivars.Refines q) (requestType : UInt32) (src : List UInt8) :
    ∃ q', Fifo.Step Admits QueuedOutput.request q (ivars.ringCall (.enqueue requestType src)).1 q' ∧
      (ivars.ringCall (.enqueue requestType src)).2.Refines q' ∧
      ∀ o, (ivars.ringCall (.enqueue requestType src)).1 = .accepted o → o.requestId ≠ 0 := by
  unfold ringCall
  rcases ivars.enqueuePending_cases requestType src with
    ⟨heq, hrefused⟩ | ⟨rid, next, hrid, hlen, hroom, heq⟩
  · simp only [heq, if_true]
    refine ⟨q, .refuse (hrefused.imp_right fun hfull => ?_), h, nofun⟩
    exact Nat.le_antisymm q.bounded (h.length.symm ▸ hfull)
  · simp only [heq, if_neg hrid]
    obtain ⟨hsound, hentries⟩ := h.1.push hroom requestType rid hlen
    obtain ⟨q', hq', hitems⟩ :=
      Fifo.Queue.enqueue_eq (h.length.symm ▸ hroom) (.ofRequest requestType rid src)
    refine ⟨q', .accept hlen hq', ⟨hsound, ?_⟩, ?_⟩
    · rw [hentries, List.map_append, List.map_singleton, PendingOutputEntry.queued_fill, h.2,
        hitems]
    · rintro o ⟨⟩
      exact hrid

/-- And so is a dequeue with room for every entry. -/
theorem Refines.dequeue (h : ivars.Refines q) {maxLen : UInt32}
    (hroom : maxTransferSize ≤ maxLen.toNat) :
    ∃ q', Fifo.Step Admits QueuedOutput.request q (ivars.ringCall (.dequeue maxLen)).1 q' ∧
      (ivars.ringCall (.dequeue maxLen)).2.Refines q' ∧
      ∀ o, (ivars.ringCall (.dequeue maxLen)).1 ≠ .accepted o := by
  rcases ivars.ringCall_dequeue_cases hroom with ⟨hpending, heq⟩ | ⟨hpending, heq⟩
  · have hnil : q.items = [] := by
      rw [← List.length_eq_zero_iff, h.length, hpending]
      rfl
    rw [heq]
    exact ⟨q, .idle (Fifo.Queue.dequeue_eq_none hnil), h, nofun⟩
  · obtain ⟨hsound, hentries⟩ := h.1.pop hpending
    have hitems : q.items =
        ivars.ring.front.queued :: ivars.ring.pop.entries.map PendingOutputEntry.queued := by
      rw [← h.2, hentries, List.map_cons]
    obtain ⟨q', hq', hrest⟩ := Fifo.Queue.dequeue_eq hitems
    rw [heq]
    exact ⟨q', .take hq', ⟨hsound, hrest.symm⟩, nofun⟩

/-- Calls one after the other: the queue makes as many moves, with the same answers. -/
theorem Refines.calls (h : ivars.Refines q) {calls : List RingCall}
    (hroom : ∀ maxLen, RingCall.dequeue maxLen ∈ calls → maxTransferSize ≤ maxLen.toNat) :
    ∃ q', Fifo.Run Admits QueuedOutput.request q (ivars.ringCalls calls).1 q' ∧
      (ivars.ringCalls calls).2.Refines q' ∧
      ∀ o ∈ Fifo.accepted (ivars.ringCalls calls).1, o.requestId ≠ 0 := by
  induction calls generalizing ivars q with
  | nil => exact ⟨q, .nil q, h, nofun⟩
  | cons call calls ih =>
      have hfirst : ∃ q', Fifo.Step Admits QueuedOutput.request q (ivars.ringCall call).1 q' ∧
          (ivars.ringCall call).2.Refines q' ∧
          ∀ o, (ivars.ringCall call).1 = .accepted o → o.requestId ≠ 0 := by
        cases call with
        | enqueue requestType src => exact h.enqueue requestType src
        | dequeue maxLen =>
            obtain ⟨q', hstep, hrefines, hnone⟩ := h.dequeue (hroom maxLen List.mem_cons_self)
            exact ⟨q', hstep, hrefines, fun o ho => absurd ho (hnone o)⟩
      obtain ⟨mid, hstep, hmid, hid⟩ := hfirst
      obtain ⟨q', hrun, hq', hids⟩ :=
        ih hmid fun maxLen hmem => hroom maxLen (List.mem_cons_of_mem _ hmem)
      refine ⟨q', .cons hstep hrun, hq', ?_⟩
      intro o ho
      obtain ⟨e, he, hsome⟩ := List.mem_filterMap.mp ho
      rcases List.mem_cons.mp he with rfl | he
      · refine hid o ?_
        split at hsome
        · cases hsome
          assumption
        · cases hsome
      · exact hids o (List.mem_filterMap.mpr ⟨e, he, hsome⟩)

end Simulation

/-- **The pending ring is a bounded queue.** Whatever is enqueued and dequeued, the calls
are those of a queue of 64 entries, which refuses a request iff it is full or the request is
too long. What was accepted, under ids that are not zero, is what has been taken and what is
still there, in this order and unchanged, and the three counters agree. -/
theorem ringCalls_refine (calls : List RingCall)
    (hroom : ∀ maxLen, RingCall.dequeue maxLen ∈ calls → maxTransferSize ≤ maxLen.toNat) :
    ∃ q : Fifo.Queue maxPendingOutputs QueuedOutput,
      Fifo.Run Admits QueuedOutput.request .empty (init.ringCalls calls).1 q ∧
      (init.ringCalls calls).2.ring.entries.map PendingOutputEntry.queued = q.items ∧
      Fifo.accepted (init.ringCalls calls).1 =
        Fifo.taken (init.ringCalls calls).1 ++ q.items ∧
      (∀ o ∈ Fifo.accepted (init.ringCalls calls).1, o.requestId ≠ 0) ∧
      (init.ringCalls calls).2.ring.pendingCount.toNat = q.items.length ∧
      (init.ringCalls calls).2.ring.pendingCount.toNat ≤ maxPendingOutputs ∧
      (init.ringCalls calls).2.ring.pendingTail.val =
        ((init.ringCalls calls).2.ring.pendingHead.val +
          (init.ringCalls calls).2.ring.pendingCount.toNat) % maxPendingOutputs := by
  have hstart : init.Refines .empty := ⟨OutputRing.sound_zero, rfl⟩
  obtain ⟨q, hrun, hrefines, hids⟩ := hstart.calls hroom
  exact ⟨q, hrun, hrefines.2, hrun.conservation, hids, hrefines.length.symm,
    hrefines.1.count_le, hrefines.1.tail_eq⟩

/-- Two requests, the first of them taken. -/
def sampleRingCalls : List RingCall := [.enqueue 2 [1, 0], .enqueue 2 [3, 0], .dequeue 65536]

/-- The ring answers them as a queue does: it accepts both under ids of their own and gives
back the first, and the second is what is left. -/
theorem ringCalls_refine_two :
    ∃ q : Fifo.Queue maxPendingOutputs QueuedOutput,
      Fifo.Run Admits QueuedOutput.request .empty (init.ringCalls sampleRingCalls).1 q ∧
      (init.ringCalls sampleRingCalls).1 =
        [.accepted (.ofRequest 2 1 [1, 0]), .accepted (.ofRequest 2 2 [3, 0]),
          .taken (.ofRequest 2 1 [1, 0])] ∧
      q.items = [.ofRequest 2 2 [3, 0]] ∧
      (init.ringCalls sampleRingCalls).2.ring.pendingCount.toNat = 1 := by
  have hroom : ∀ maxLen, RingCall.dequeue maxLen ∈ sampleRingCalls →
      maxTransferSize ≤ maxLen.toNat := by
    intro maxLen hmem
    simp only [sampleRingCalls, List.mem_cons, reduceCtorEq, RingCall.dequeue.injEq,
      List.not_mem_nil, or_false, false_or] at hmem
    rw [hmem]
    decide
  have hevents : (init.ringCalls sampleRingCalls).1 =
      [.accepted (.ofRequest 2 1 [1, 0]), .accepted (.ofRequest 2 2 [3, 0]),
        .taken (.ofRequest 2 1 [1, 0])] := rfl
  obtain ⟨q, hrun, -, hconservation, -, hcount, -⟩ := ringCalls_refine sampleRingCalls hroom
  have hitems : q.items = [.ofRequest 2 2 [3, 0]] := by
    rw [hevents] at hconservation
    exact (List.cons.inj hconservation).2.symm
  rw [hitems] at hcount
  exact ⟨q, hrun, hevents, hitems, hcount⟩

end HidIVars

end Extender.Driver
