/-
Reports of the host on their way through the driver extension and the daemon.

The virtual HID device puts a request into its ring and into its table of requests in flight;
the forwarding loop polls the extension (`get_pending_output`), sends a submission for what it
gets, and calls the extension (`complete_request`) for an answer. The requests carry ids of
the driver on one side of the daemon and sequence numbers on the other, so an answer finds its
request by two tables, one after the other.

The model has both sides as they are: the extension with `ExternalMethod` in front of it, and
the loop, whose calls are packed into scalars as the daemon packs them. Other devices of the
extension may be called meanwhile, and this one too, as long as its requests are left alone
(`passesBy`).

That it works is shown by a simulation. Each step of the bridge is one of the link of
`HidLink`, which has one queue and one table, and the host and the server see the same of
both. Only whole runs with fewer than `2 ^ 32 - 1` requests are considered, as ids and numbers
wrap around after that.

* `Bridge.step` — the extension, with any calls for its other devices, and the loop of one
  device, over one stream of bytes from the server.
* `Bridge.Carries` — the ring, the table and the loop's map hold what the queue and the table
  of a `Link` hold, under other names.
* `Carries.step` — one step, by the kind of it.
* `hid_requests_answered` — in every run the host and the server see what they would see of
  such a link, and every action that was accepted is completed once or still waits.
-/

import Extender.System.HidLink
import Extender.Client.Pairing
import Extender.Lib.SlotTable

namespace Extender.System

open ByteReader Extender.Protocol Extender.Driver Extender.Client

/-! ### The bridge -/

/-- The extension, and the loop of the daemon for one of its devices. -/
structure Bridge where
  extension : Extension
  loop : ForwardLoop

namespace Bridge

/-- The call of `get_pending_output`: one scalar, and no room for scalars. -/
def getPendingOutputArguments (deviceId : UInt32) : Arguments :=
  { scalarInput := [deviceId.toUInt64], structureInput := none, scalarOutputCount := 0 }

/-- The call of `complete_request`: three scalars, the status cast to 32 bits, and the data of
the answer. -/
def completeRequestArguments (call : CompleteRequest) : Arguments :=
  { scalarInput :=
      [call.deviceId.toUInt64, call.requestId.toUInt64, call.status.toUInt32.toUInt64]
    structureInput := some call.data
    scalarOutputCount := 0 }

/-- The calls of `complete_request` one after the other, and what the host sees of all of
them. -/
def completeAll (env : Surroundings) (s : Extension) : List CompleteRequest → Shown × Extension
  | [] => (.nothing, s)
  | call :: calls =>
      let (reply, s') := s.externalMethod env 10 (some (completeRequestArguments call))
      let (shown, s'') := completeAll { env with memory := reply.memory } s' calls
      ({ shown with
          completed := reply.completeReport.toList ++ shown.completed
          memory := some (shown.memory.getD reply.memory) }, s'')

/-- What is done to a slot neither moves nor answers the requests of the device in it. -/
def leavesRequests : SlotCall → Bool
  | .create _ => true
  | .submitInput _ _ => true
  | .configure _ _ => true
  | _ => false

/-- The action is for another device, or leaves the requests of this one alone. -/
def passesBy (deviceId : UInt32) (a : Extension.Action) : Bool :=
  match Extension.addressed a with
  | none => true
  | some (i, call, _) => slotIndex deviceId.toUInt64 ≠ some i || leavesRequests call

def step (b : Bridge) : LinkAction → Option (Shown × Bridge)
  | .host r env =>
      (slotIndex b.loop.devid.toUInt64).bind fun i =>
        (b.extension.hostRequest env i (.hid r)).map fun (reply, extension) =>
          ({ Shown.nothing with told := some reply.ret }, { b with extension })
  | .others a =>
      if passesBy b.loop.devid a then
        (b.extension.step a).map fun (_, extension) => (.nothing, { b with extension })
      else none
  | .tick overflow writeOk env =>
      let (reply, extension) :=
        b.extension.externalMethod env 3 (some (getPendingOutputArguments b.loop.devid))
      let output := StorageRequests.PendingOutput.ofResult
        (receive overflow reply.ret (reply.structureOutput.getD []))
      (b.loop.step (.tick output writeOk)).map fun loop =>
        ({ Shown.nothing with written := loop.written.drop b.loop.written.length },
          { extension, loop })
  | .arrive => (b.loop.step .arrive).map fun loop => (.nothing, { b with loop })
  | .close => (b.loop.step .close).map fun loop => (.nothing, { b with loop })
  | .poll env =>
      (b.loop.step .poll).map fun loop =>
        let (shown, extension) :=
          completeAll env b.extension (loop.completed.drop b.loop.completed.length)
        (shown, { extension, loop })

end Bridge

/-! ### The device -/

/-- The driver's id for a request: requests are counted from 0, and ids from 1. -/
def Asked.requestId (a : Asked) : UInt32 := UInt32.ofNat (a.number + 1)

/-- The driver's entry for it. -/
def Asked.entry (a : Asked) : InFlightEntry :=
  { requestId := a.requestId, action := a.request.action, report := a.request.reportId
    isGetReport := a.request.isGetReport, valid := true }

/-- What the loop is given for an entry of the ring, through `get_pending_output`. -/
def taken (e : PendingOutputEntry) : PendingRequest :=
  { deviceId := 0, endpoint := e.endpoint, requestId := e.requestId, data := e.payload }

/-- The device holds the requests of the link that have not been taken in its ring, and
those the host waits for in its table. -/
structure Tracks (ivars : HidIVars) (l : Link) : Prop where
  device : ivars.deviceId = 0
  sound : ivars.ring.Sound
  queue : ivars.ring.entries.map taken = l.queue.map Asked.pendingRequest
  table : SlotTable.Holds InFlightEntry.valid InFlightEntry.requestId ivars.inFlight
    (l.waiting.map Asked.entry)
  next : ivars.nextRequestId = UInt32.ofNat (l.asked + 1)

/-- Ids are different as long as they do not wrap around. -/
theorem ofNat_succ_inj {m n : Nat} (hm : m + 1 < 2 ^ 32) (hn : n + 1 < 2 ^ 32)
    (h : UInt32.ofNat (m + 1) = UInt32.ofNat (n + 1)) : m = n := by
  have hnat := congrArg UInt32.toNat h
  rw [UInt32.toNat_ofNat', UInt32.toNat_ofNat', Nat.mod_eq_of_lt hm, Nat.mod_eq_of_lt hn] at hnat
  exact Nat.succ.inj hnat

theorem ofNat_succ_ne_zero {n : Nat} (hn : n + 1 < 2 ^ 32) : UInt32.ofNat (n + 1) ≠ 0 := by
  intro h
  have hnat := congrArg UInt32.toNat h
  rw [UInt32.toNat_ofNat', Nat.mod_eq_of_lt hn] at hnat
  exact absurd hnat (Nat.succ_ne_zero n)

section Device

variable {ivars : HidIVars}

/-- A request of either kind, as the two steps it comes to. -/
theorem handle_eq (ivars : HidIVars) (r : HidRequest) :
    ivars.handle r =
      if r.Oversize then (.noSpace, ivars)
      else ivars.forward r.payload r.action r.reportId r.isGetReport := by
  cases r with
  | getReport report reportType action =>
      have hfits : ¬ (HidRequest.getReport report reportType action).Oversize :=
        Nat.not_lt.mpr (Nat.zero_le _)
      rw [if_neg hfits]
      rfl
  | setReport memory tmp report action => rfl

theorem enqueuePending_of_full {src : List UInt8}
    (hfull : maxPendingOutputs ≤ ivars.ring.pendingCount.toNat) :
    ivars.enqueuePending 2 src = (0, ivars) := by
  rcases ivars.enqueuePending_cases 2 src with ⟨heq, -⟩ | ⟨_, _, -, -, hroom, -⟩
  · exact heq
  · exact absurd hfull (Nat.not_le.mpr hroom)

/-- With room, a request is queued under the next id. -/
theorem enqueuePending_of_room {src : List UInt8} (hlen : src.length ≤ maxTransferSize)
    (hroom : ivars.ring.pendingCount.toNat < maxPendingOutputs) (hnext : ivars.nextRequestId ≠ 0) :
    ivars.enqueuePending 2 src =
      (ivars.nextRequestId,
        { ivars with ring := ivars.ring.push 2 ivars.nextRequestId src hlen
                     nextRequestId := ivars.nextRequestId + 1 }) := by
  have hnotfull : ¬ ivars.ring.pendingCount ≥ UInt32.ofNat maxPendingOutputs :=
    fun hge => absurd (UInt32.le_iff_toNat_le.mp hge) (Nat.not_le.mpr hroom)
  unfold HidIVars.enqueuePending
  rw [dif_pos hlen, if_neg hnotfull, if_neg hnext]

/-- With room in the ring and an id at hand, the table decides what the host is told. -/
theorem forward_of_room {src : List UInt8} (hlen : src.length ≤ maxTransferSize)
    (hroom : ivars.ring.pendingCount.toNat < maxPendingOutputs) (hnext : ivars.nextRequestId ≠ 0)
    (action report : Option Nat) (isGetReport : Bool) :
    let pushed : HidIVars :=
      { ivars with ring := ivars.ring.push 2 ivars.nextRequestId src hlen
                   nextRequestId := ivars.nextRequestId + 1 }
    ivars.forward src action report isGetReport =
      match pushed.trackInFlight ivars.nextRequestId action report isGetReport with
      | none => (.noResources, pushed)
      | some ivars' => (.success, ivars') := by
  intro pushed
  unfold HidIVars.forward
  rw [enqueuePending_of_room hlen hroom hnext]
  split
  · rename_i heq
    exact absurd (Prod.mk.inj heq).1 hnext
  · rename_i rid ivars' _ heq
    obtain ⟨rfl, rfl⟩ := Prod.mk.inj heq
    rfl

end Device

namespace Tracks

variable {ivars : HidIVars} {l : Link}

/-- The ring and the queue are of one length. -/
theorem length_queue (h : Tracks ivars l) : l.queue.length = ivars.ring.pendingCount.toNat := by
  have hlength := congrArg List.length h.queue
  rw [List.length_map, List.length_map, OutputRing.length_entries] at hlength
  exact hlength.symm

/-- There is a free slot iff the host waits for fewer than sixteen requests. -/
theorem hasFreeSlot_iff (h : Tracks ivars l) :
    ivars.HasFreeSlot ↔ l.waiting.length < inFlightCapacity := by
  have hfree := h.table.exists_free_iff
  rwa [List.length_map] at hfree

theorem fresh (h : Tracks ivars l) (hnumbered : l.Numbered) (hcount : l.asked + 1 < 2 ^ 32) :
    ivars.nextRequestId ∉ (l.waiting.map Asked.entry).map InFlightEntry.requestId := by
  rw [List.map_map, h.next]
  intro hmem
  obtain ⟨a, ha, hsame⟩ := List.mem_map.mp hmem
  have hold : a.number < l.asked := hnumbered.older a (List.mem_filter.mp ha).1
  have heq : a.number = l.asked := ofNat_succ_inj (by omega) hcount hsame
  omega

/-- The ring and the counter behind a request that is queued. -/
theorem enqueue (h : Tracks ivars l) {r : HidRequest} (accepted : Bool)
    (hlen : r.payload.length ≤ maxTransferSize)
    (hroom : ivars.ring.pendingCount.toNat < maxPendingOutputs)
    {inFlight : Fin inFlightCapacity → InFlightEntry}
    (htable : SlotTable.Holds InFlightEntry.valid InFlightEntry.requestId inFlight
      ((l.enqueue r accepted).waiting.map Asked.entry)) :
    Tracks
      { ivars with ring := ivars.ring.push 2 ivars.nextRequestId r.payload hlen
                   nextRequestId := ivars.nextRequestId + 1, inFlight }
      (l.enqueue r accepted) := by
  obtain ⟨hsound, hentries⟩ := h.sound.push hroom 2 ivars.nextRequestId hlen
  refine ⟨h.device, hsound, ?_, htable, ?_⟩
  · show (ivars.ring.push 2 ivars.nextRequestId r.payload hlen).entries.map taken =
      (l.queue ++ [_]).map Asked.pendingRequest
    rw [hentries, List.map_append, h.queue, List.map_append, List.map_singleton,
      List.map_singleton]
    congr 2
    simp only [taken, Asked.pendingRequest, PendingOutputEntry.payload_fill]
    rw [← h.next]
    rfl
  · show ivars.nextRequestId + 1 = UInt32.ofNat (l.asked + 1 + 1)
    rw [h.next]
    exact (UInt32.ofNat_add _ _).symm

/-- The host is told what the link tells it, and afterwards the device holds what the link
holds. -/
theorem ask (h : Tracks ivars l) (hnumbered : l.Numbered) (hcount : l.asked + 1 < 2 ^ 32)
    (r : HidRequest) :
    (ivars.handle r).1 = (l.ask r).1 ∧ Tracks (ivars.handle r).2 (l.ask r).2 := by
  unfold Link.ask
  rw [handle_eq, h.length_queue]
  by_cases hover : r.Oversize
  · rw [if_pos hover, if_pos (Or.inl hover)]
    exact ⟨rfl, h⟩
  rw [if_neg hover]
  by_cases hfull : maxPendingOutputs ≤ ivars.ring.pendingCount.toNat
  · rw [if_pos (Or.inr hfull)]
    unfold HidIVars.forward
    rw [enqueuePending_of_full hfull]
    exact ⟨rfl, h⟩
  have hroom := Nat.not_le.mp hfull
  have hlen := HidRequest.length_payload_le hover
  have hnext : ivars.nextRequestId ≠ 0 := h.next ▸ ofNat_succ_ne_zero hcount
  rw [if_neg (not_or_intro hover hfull), forward_of_room hlen hroom hnext]
  have hperm := (Link.unanswered_enqueue l r true).filter Asked.accepted
  have hstranded := (Link.unanswered_enqueue l r false).filter Asked.accepted
  -- the ring has the request already: what is left is the table
  rcases HidIVars.trackInFlight_cases
      { ivars with ring := ivars.ring.push 2 ivars.nextRequestId r.payload hlen
                   nextRequestId := ivars.nextRequestId + 1 }
      ivars.nextRequestId r.action r.reportId r.isGetReport with
    ⟨htrack, hnone⟩ | ⟨slot, hfree, htrack⟩
  · rw [htrack, if_neg fun hlt => hnone (h.hasFreeSlot_iff.mpr hlt)]
    refine ⟨rfl, h.enqueue false hlen hroom ?_⟩
    rw [List.filter_cons_of_neg (by simp)] at hstranded
    exact h.table.perm (hstranded.symm.map Asked.entry)
  · rw [htrack, if_pos (h.hasFreeSlot_iff.mp ⟨slot, hfree⟩)]
    refine ⟨rfl, h.enqueue true hlen hroom ?_⟩
    rw [List.filter_cons_of_pos rfl] at hperm
    refine SlotTable.Holds.perm ?_ (hperm.symm.map Asked.entry)
    rw [List.map_cons]
    have hentry : Asked.entry { number := l.asked, request := r, accepted := true } =
        { requestId := ivars.nextRequestId, action := r.action, report := r.reportId
          isGetReport := r.isGetReport, valid := true } := by
      simp only [Asked.entry, Asked.requestId, h.next]
    rw [hentry]
    exact h.table.insert hfree rfl (h.fresh hnumbered hcount)

theorem dequeue_of_nil (h : Tracks ivars l) (hqueue : l.queue = []) :
    ivars.dequeuePendingOutput (UInt32.ofNat maxTransferSize) = (none, ivars) := by
  have hcount : ivars.ring.pendingCount = 0 := by
    apply UInt32.toNat_inj.mp
    rw [← h.length_queue, hqueue]
    rfl
  unfold HidIVars.dequeuePendingOutput OutputRing.dequeue
  rw [if_pos hcount]

/-- The first request of the queue is taken, and the others stay, in the ring as in the
queue. -/
theorem dequeue_of_cons (h : Tracks ivars l) {a : Asked} {queue : List Asked}
    (hqueue : l.queue = a :: queue) :
    ∃ e, ivars.dequeuePendingOutput (UInt32.ofNat maxTransferSize) =
        (some (.ofEntry 0 e e.length, e.payload), { ivars with ring := ivars.ring.pop }) ∧
      taken e = a.pendingRequest ∧ ivars.ring.pop.Sound ∧
      ivars.ring.pop.entries.map taken = queue.map Asked.pendingRequest := by
  have hcount : ivars.ring.pendingCount ≠ 0 := by
    intro hzero
    have hlength := h.length_queue
    rw [hqueue, hzero] at hlength
    cases hlength
  obtain ⟨hsound, hentries⟩ := h.sound.pop hcount
  have hmapped := h.queue
  rw [hentries, hqueue, List.map_cons, List.map_cons] at hmapped
  obtain ⟨hfront, hrest⟩ := List.cons.inj hmapped
  refine ⟨ivars.ring.front, ?_, hfront, hsound, hrest⟩
  unfold HidIVars.dequeuePendingOutput
  rw [OutputRing.dequeue_of_pending hcount, h.device]

/-- An id that is in use but not in the table is that of a request that was refused late. -/
theorem not_mem_table (hnumbered : l.Numbered) (hcount : l.asked + 1 < 2 ^ 32) {a : Asked}
    (ha : a ∈ l.unanswered) (hrefused : a.accepted = false) :
    a.requestId ∉ (l.waiting.map Asked.entry).map InFlightEntry.requestId := by
  rw [List.map_map]
  intro hmem
  obtain ⟨b, hb, hsame⟩ := List.mem_map.mp hmem
  obtain ⟨hb, haccepted⟩ := List.mem_filter.mp hb
  have hbold := hnumbered.older b hb
  have haold := hnumbered.older a ha
  have hnumber : b.number = a.number := ofNat_succ_inj (by omega) (by omega) hsame
  have hba : b = a := List.inj_on_of_nodup_map hnumbered.numbers hb ha hnumber
  rw [hba, hrefused] at haccepted
  cases haccepted

/-- The table says who is answered, and the answer is what the link shows. -/
theorem complete (h : Tracks ivars l) (hnumbered : l.Numbered) (hcount : l.asked + 1 < 2 ^ 32)
    {seqnum : UInt32} {a : Asked} (hfound : l.sent.lookup seqnum = some a) (env : Surroundings)
    (status : IOReturn) (bytes : List UInt8) :
    ∃ ivars', ivars.completeRequest env.memory env.mapping a.requestId status (some bytes) =
        (a.awaited.map fun action =>
            { action, status, actualByteCount := UInt32.ofNat bytes.length },
          if a.accepted then a.request.fill env bytes else env.memory, ivars') ∧
      Tracks ivars' { l with sent := l.sent.filter fun entry => entry.1 ≠ seqnum } := by
  have hperm := Link.unanswered_perm_of_sent hnumbered.seqnums hfound
  have ha : a ∈ l.unanswered := hperm.mem_iff.mpr List.mem_cons_self
  have hwaiting := hperm.filter Asked.accepted
  cases haccepted : a.accepted with
  | false =>
      rw [List.filter_cons_of_neg (by simp [haccepted])] at hwaiting
      refine ⟨ivars, ?_, h.device, h.sound, h.queue, h.table.perm (hwaiting.map Asked.entry),
        h.next⟩
      have hfind := h.table.find?_eq_none (not_mem_table hnumbered hcount ha haccepted)
      simp only [HidIVars.completeRequest, hfind, Asked.awaited, haccepted]
      rfl
  | true =>
      rw [List.filter_cons_of_pos haccepted] at hwaiting
      have htable := h.table.perm (hwaiting.map Asked.entry)
      rw [List.map_cons] at htable
      obtain ⟨slot, hfind, hvalid, hentry⟩ := htable.find?_eq_some List.mem_cons_self
      change (List.finRange inFlightCapacity).find? (fun i =>
        (ivars.inFlight i).valid && (ivars.inFlight i).requestId == a.requestId) =
          some slot at hfind
      refine ⟨{ ivars with
          inFlight := Function.update ivars.inFlight slot
            { ivars.inFlight slot with action := none, report := none, valid := false } }, ?_,
        h.device, h.sound, h.queue, htable.erase hvalid hentry rfl, h.next⟩
      simp only [HidIVars.completeRequest, hfind, hentry, Asked.awaited, haccepted]
      rfl

/-- Requests may change their places as long as the host waits for them. -/
theorem moved (h : Tracks ivars l) {l' : Link} {ring : OutputRing} (hsound : ring.Sound)
    (hqueue : ring.entries.map taken = l'.queue.map Asked.pendingRequest)
    (hperm : l.unanswered.Perm l'.unanswered) (hasked : l'.asked = l.asked) :
    Tracks { ivars with ring } l' :=
  ⟨h.device, hsound, hqueue, h.table.perm ((hperm.filter Asked.accepted).map Asked.entry),
    hasked ▸ h.next⟩

end Tracks

/-! ### The calls of the daemon -/

namespace Bridge

section Calls

variable {s : Extension} {i : Fin maxDevices} {ivars : HidIVars} {deviceId : UInt32}

/-- `get_pending_output` takes what is at the front of the ring, and leaves everything else of
the extension. -/
theorem externalMethod_getPendingOutput (h : s.Inv)
    (hslot : slotIndex deviceId.toUInt64 = some i) (hview : s.view i = some (.hid ivars))
    (env : Surroundings) :
    let result := ivars.dequeuePendingOutput (UInt32.ofNat maxTransferSize)
    ∃ s', s.externalMethod env 3 (some (getPendingOutputArguments deviceId)) =
        ({ Reply.code env.memory .success with
            structureOutput := some (Device.output result.1) }, s') ∧
      s'.Inv ∧ s'.view i = some (.hid result.2) := by
  intro result
  have hmethod : Extension.method 3 (some (getPendingOutputArguments deviceId)) =
      some (deviceId.toUInt64, .getPendingOutput) := rfl
  rw [Extension.externalMethod_of_method hmethod]
  have hmoved := h.perform hslot env (Extension.method_ne_host hmethod)
  have hanswered := hmoved.answered
  rw [hview] at hanswered
  obtain ⟨hreply, hview'⟩ := Prod.mk.inj (Option.some.inj hanswered)
  exact ⟨_, Prod.ext hreply.symm rfl, hmoved.inv, hview'.symm⟩

theorem externalMethod_completeRequest (h : s.Inv) (call : CompleteRequest)
    (hslot : slotIndex call.deviceId.toUInt64 = some i) (hview : s.view i = some (.hid ivars))
    (env : Surroundings) :
    let result := ivars.completeRequest env.memory env.mapping call.requestId
      (.ofScalar call.status.toUInt32.toUInt64) (some call.data)
    ∃ s', s.externalMethod env 10 (some (completeRequestArguments call)) =
        ({ Reply.code result.2.1 .success with completeReport := result.1 }, s') ∧
      s'.Inv ∧ s'.view i = some (.hid result.2.2) := by
  intro result
  have hmethod : Extension.method 10 (some (completeRequestArguments call)) =
      some (call.deviceId.toUInt64, .complete call.requestId.toUInt64
        call.status.toUInt32.toUInt64 (some call.data)) := rfl
  rw [Extension.externalMethod_of_method hmethod]
  have hmoved := h.perform hslot env (Extension.method_ne_host hmethod)
  have hanswered := hmoved.answered
  rw [hview] at hanswered
  have hid : call.requestId.toUInt64.toUInt32 = call.requestId := UInt32.toUInt32_toUInt64 _
  simp only [Slot.step, Device.complete, hid] at hanswered
  obtain ⟨hreply, hview'⟩ := Prod.mk.inj (Option.some.inj hanswered)
  exact ⟨_, Prod.ext hreply.symm rfl, hmoved.inv, hview'.symm⟩

/-- The requests of the device are left alone by what is done to the others. -/
theorem view_of_passesBy {a : Extension.Action} {r : Reply} {s' : Extension} (h : s.Inv)
    (hslot : slotIndex deviceId.toUInt64 = some i) (hview : s.view i = some (.hid ivars))
    (hpasses : passesBy deviceId a = true) (hstep : s.step a = some (r, s')) :
    s'.Inv ∧ s'.view i = some (.hid ivars) := by
  obtain ⟨hinv, hlocal⟩ := h.step hstep
  refine ⟨hinv, ?_⟩
  rw [← hview]
  by_cases hother : ∀ call, Extension.addressed a ≠ some (i, call)
  · exact hlocal.others i hother
  · obtain ⟨⟨call, env⟩, haddressed⟩ := not_forall_not.mp hother
    have hanswered := hlocal.answered i _ haddressed
    unfold passesBy at hpasses
    rw [haddressed] at hpasses
    simp only [hslot, ne_eq, not_true_eq_false, decide_false, Bool.false_or] at hpasses
    rw [hview] at hanswered ⊢
    cases call with
    | create deviceType => exact (Prod.mk.inj (Option.some.inj hanswered)).2.symm
    | submitInput dataLength input => exact (Prod.mk.inj (Option.some.inj hanswered)).2.symm
    | configure configType input => exact (Prod.mk.inj (Option.some.inj hanswered)).2.symm
    | _ => cases hpasses

end Calls

/-! ### One step -/

/-- The bridge holds what the link holds: the device its requests, and the loop the numbers
under which they were sent. -/
structure Carries (i : Fin maxDevices) (b : Bridge) (l : Link) : Prop where
  inv : b.extension.Inv
  slot : slotIndex b.loop.devid.toUInt64 = some i
  device : ∃ ivars, b.extension.view i = some (.hid ivars) ∧ Tracks ivars l
  inbound : b.loop.inbound = l.inbound
  ended : b.loop.exited.isSome = l.ended
  next : b.loop.exited = none → b.loop.nextSeqnum = l.nextSeqnum
  pending : b.loop.exited = none →
    ∀ q, b.loop.pending.lookup q = (l.sent.lookup q).map Asked.requestId

section Steps

variable {i : Fin maxDevices} {b b' : Bridge} {l : Link} {shown : Shown}

/-- The link takes a step that shows the same, and the bridge carries it again. -/
def Follows (i : Fin maxDevices) (l : Link) (act : LinkAction) (devid : UInt32) (shown : Shown)
    (b' : Bridge) : Prop :=
  b'.loop.devid = devid ∧ ∃ l', l.step devid act = some (shown, l') ∧ b'.Carries i l'

/-- The host asks: the device and the link tell it the same. -/
theorem Carries.host (h : b.Carries i l) (hnumbered : l.Numbered)
    (hcount : l.asked + 1 < 2 ^ 32) {r : HidRequest} {env : Surroundings}
    (hstep : b.step (.host r env) = some (shown, b')) :
    Follows i l (.host r env) b.loop.devid shown b' := by
  obtain ⟨ivars, hview, htracks⟩ := h.device
  simp only [step, h.slot, Option.bind_some] at hstep
  obtain ⟨⟨reply, extension⟩, hhost, heq⟩ := Option.map_eq_some_iff.mp hstep
  cases heq
  have hmoved := h.inv.hostRequest hhost
  have hanswered := hmoved.answered
  rw [hview] at hanswered
  obtain ⟨hreply, hview'⟩ := Prod.mk.inj (Option.some.inj hanswered)
  obtain ⟨htold, htracks'⟩ := htracks.ask hnumbered hcount r
  obtain ⟨hinbound, hended, hnext, hsent⟩ : (l.ask r).2.inbound = l.inbound ∧
      (l.ask r).2.ended = l.ended ∧ (l.ask r).2.nextSeqnum = l.nextSeqnum ∧
      (l.ask r).2.sent = l.sent := by
    unfold Link.ask
    split
    · exact ⟨rfl, rfl, rfl, rfl⟩
    · split
      all_goals exact ⟨rfl, rfl, rfl, rfl⟩
  refine ⟨rfl, (l.ask r).2, ?_, hmoved.inv, h.slot, ⟨_, hview'.symm, htracks'⟩,
    h.inbound.trans hinbound.symm, h.ended.trans hended.symm,
    fun hrunning => (h.next hrunning).trans hnext.symm, fun hrunning q => ?_⟩
  · simp only [Link.step, ← hreply, ← htold]
    rfl
  · rw [hsent]
    exact h.pending hrunning q

theorem Carries.others (h : b.Carries i l) {a : Extension.Action}
    (hstep : b.step (.others a) = some (shown, b')) :
    Follows i l (.others a) b.loop.devid shown b' := by
  obtain ⟨ivars, hview, htracks⟩ := h.device
  simp only [step] at hstep
  split at hstep
  · rename_i hpasses
    obtain ⟨⟨reply, extension⟩, hother, heq⟩ := Option.map_eq_some_iff.mp hstep
    cases heq
    obtain ⟨hinv, hview'⟩ := view_of_passesBy h.inv h.slot hview hpasses hother
    exact ⟨rfl, l, rfl, hinv, h.slot, ⟨ivars, hview', htracks⟩, h.inbound, h.ended, h.next,
      h.pending⟩
  · cases hstep

/-- Bytes that arrive, and the end of the stream. -/
theorem Carries.stream (h : b.Carries i l) {act : LinkAction} (a : ForwardLoop.Action)
    (move : Inbound → Option Inbound)
    (hlink : ∀ l : Link, l.step b.loop.devid act =
      if l.ended then none else (move l.inbound).map fun inbound => (.nothing, { l with inbound }))
    (hbridge : b.step act = (b.loop.step a).map fun loop => (.nothing, { b with loop }))
    (hloop : b.loop.step a = if b.loop.exited.isSome then none
      else (move b.loop.inbound).map fun inbound => { b.loop with inbound })
    (hstep : b.step act = some (shown, b')) : Follows i l act b.loop.devid shown b' := by
  rw [hbridge, hloop, h.ended, h.inbound] at hstep
  obtain ⟨loop, hmoved, heq⟩ := Option.map_eq_some_iff.mp hstep
  cases heq
  split at hmoved
  · cases hmoved
  · rename_i hended
    obtain ⟨inbound, hmove, rfl⟩ := Option.map_eq_some_iff.mp hmoved
    refine ⟨rfl, { l with inbound }, ?_, h.inv, h.slot, ?_, rfl, h.ended, h.next, h.pending⟩
    · rw [hlink, if_neg hended, hmove]
      rfl
    · obtain ⟨ivars, hview, htracks⟩ := h.device
      exact ⟨ivars, hview, htracks.device, htracks.sound, htracks.queue, htracks.table,
        htracks.next⟩

/-- The driver is asked for the first request of the queue. -/
theorem Carries.polled (h : b.Carries i l) (overflow : Overflow) (env : Surroundings) :
    ∃ reply extension,
      b.extension.externalMethod env 3 (some (getPendingOutputArguments b.loop.devid)) =
        (reply, extension) ∧ extension.Inv ∧
      match l.queue with
      | [] =>
          StorageRequests.PendingOutput.ofResult
              (receive overflow reply.ret (reply.structureOutput.getD [])) = .nothing ∧
            ∃ ivars, extension.view i = some (.hid ivars) ∧ Tracks ivars l
      | a :: queue =>
          StorageRequests.PendingOutput.ofResult
              (receive overflow reply.ret (reply.structureOutput.getD [])) =
            (if Link.payloadRoom < a.request.payload.length then .failed
              else .request a.pendingRequest) ∧
            ∃ ivars, extension.view i = some (.hid ivars) ∧
              ∀ l' : Link, l'.queue = queue → l.unanswered.Perm l'.unanswered →
                l'.asked = l.asked → Tracks ivars l' := by
  obtain ⟨ivars, hview, htracks⟩ := h.device
  obtain ⟨extension, hcall, hinv, hview'⟩ :=
    externalMethod_getPendingOutput h.inv h.slot hview env
  refine ⟨_, extension, hcall, hinv, ?_⟩
  cases hqueue : l.queue with
  | nil =>
      rw [htracks.dequeue_of_nil hqueue] at hview' ⊢
      exact ⟨rfl, ivars, hview', htracks⟩
  | cons a queue =>
      obtain ⟨e, hdequeue, htaken, hsound, hentries⟩ := htracks.dequeue_of_cons hqueue
      rw [hdequeue] at hview' ⊢
      refine ⟨?_, _, hview', ?_⟩
      · have hlength : e.length.toNat = a.request.payload.length := by
          rw [← e.length_payload]
          exact congrArg (fun r : PendingRequest => r.data.length) htaken
        show StorageRequests.PendingOutput.ofResult
          (receive overflow .success (entryBytes 0 e)) = _
        have hsizes : pendingBufferSize = pendingOutputHeaderSize + Link.payloadRoom := rfl
        by_cases hroom : Link.payloadRoom < a.request.payload.length
        · have hover : ¬ pendingOutputHeaderSize + e.length.toNat ≤ pendingBufferSize := by omega
          obtain ⟨error, herror⟩ := receive_of_overflow overflow 0 hover
          rw [if_pos hroom, herror]
          rfl
        · rw [if_neg hroom, receive_of_fits overflow 0 (by omega), ← htaken]
          rfl
      · intro l' hqueue' hperm hasked
        exact htracks.moved hsound (by rw [hqueue', hentries]) hperm hasked

/-- What the loop does with a request it has been given. -/
theorem Carries.lookup_insert (h : b.Carries i l) (hrunning : b.loop.exited = none) (a : Asked)
    (q : UInt32) :
    (ForwardLoop.insertPending b.loop.pending b.loop.nextSeqnum a.requestId).lookup q =
      (((l.nextSeqnum, a) :: l.sent).lookup q).map Asked.requestId := by
  rw [ForwardLoop.lookup_insertPending, h.pending hrunning, h.next hrunning, List.lookup_cons]
  by_cases hq : q = l.nextSeqnum
  · rw [if_pos hq, hq, beq_self_eq_true]
    rfl
  · rw [if_neg hq, beq_false_of_ne hq]

/-- The timer fires: the loop sends what the link sends. -/
theorem Carries.tick (h : b.Carries i l) {overflow : Overflow} {writeOk : Bool}
    {env : Surroundings} (hstep : b.step (.tick overflow writeOk env) = some (shown, b')) :
    Follows i l (.tick overflow writeOk env) b.loop.devid shown b' := by
  obtain ⟨reply, extension, hcall, hinv, hpolled⟩ := h.polled overflow env
  simp only [step, hcall] at hstep
  generalize StorageRequests.PendingOutput.ofResult
    (receive overflow reply.ret (reply.structureOutput.getD [])) = output at hpolled hstep
  obtain ⟨loop, hloop, heq⟩ := Option.map_eq_some_iff.mp hstep
  cases heq
  simp only [ForwardLoop.step] at hloop
  split at hloop
  · cases hloop
  · rename_i hnot
    have hrunning : b.loop.exited = none := Option.not_isSome_iff_eq_none.mp hnot
    have hended : ¬ l.ended = true := h.ended ▸ hnot
    cases hloop
    have hcancel : b.loop.inbound.cancel = l.inbound.cancel := by rw [h.inbound]
    rcases hqueue : l.queue with _ | ⟨a, queue⟩
    · rw [hqueue] at hpolled
      obtain ⟨rfl, ivars, hview, htracks⟩ := hpolled
      refine ⟨rfl, { l with inbound := l.inbound.cancel }, ?_, hinv, h.slot,
        ⟨ivars, hview, htracks.moved htracks.sound htracks.queue (List.Perm.refl _) rfl⟩,
        hcancel, h.ended, h.next, h.pending⟩
      simp only [Link.step, if_neg hended, ForwardLoop.tick, ForwardLoop.pollDriver,
        List.drop_length]
      have hlink : ({ l with inbound := l.inbound.cancel } : Link).queue = [] := hqueue
      rw [Link.tick_of_nil hlink]
      rfl
    · have hlink : ({ l with inbound := l.inbound.cancel } : Link).queue = a :: queue := hqueue
      rw [hqueue] at hpolled
      obtain ⟨rfl, ivars, hview, htracks⟩ := hpolled
      obtain ⟨hlost, hsent⟩ := Link.unanswered_perm_of_queue hqueue
      by_cases hroom : Link.payloadRoom < a.request.payload.length
      · rw [if_pos hroom]
        refine ⟨rfl, { l with inbound := l.inbound.cancel, queue, lost := a :: l.lost }, ?_, hinv,
          h.slot, ⟨ivars, hview, htracks _ rfl hlost rfl⟩, hcancel, h.ended, h.next, h.pending⟩
        simp only [Link.step, if_neg hended, ForwardLoop.tick, ForwardLoop.pollDriver,
          List.drop_length]
        rw [Link.tick_of_cons hlink, if_pos hroom]
        rfl
      · rw [if_neg hroom]
        cases writeOk with
        | true =>
            refine ⟨rfl, { l with
                inbound := l.inbound.cancel, queue, sent := (l.nextSeqnum, a) :: l.sent
                nextSeqnum := l.nextSeqnum + 1 }, ?_, hinv, h.slot,
              ⟨ivars, hview, htracks _ rfl hsent rfl⟩, hcancel, h.ended, ?_, ?_⟩
            · simp only [Link.step, if_neg hended, ForwardLoop.tick, ForwardLoop.pollDriver,
                if_true, List.drop_left, h.next hrunning]
              rw [Link.tick_of_cons hlink, if_neg hroom, if_pos rfl]
            · intro _
              exact congrArg (· + 1) (h.next hrunning)
            · intro _ q
              exact h.lookup_insert hrunning a q
        | false =>
            refine ⟨rfl, { l with
                inbound := l.inbound.cancel, queue, lost := a :: l.lost, ended := true }, ?_, hinv,
              h.slot, ⟨ivars, hview, htracks _ rfl hlost rfl⟩, hcancel, rfl, ?_, ?_⟩
            · simp only [Link.step, if_neg hended, ForwardLoop.tick, ForwardLoop.pollDriver,
                Bool.false_eq_true, if_false, List.drop_length]
              rw [Link.tick_of_cons hlink, if_neg hroom, if_neg Bool.false_ne_true]
              rfl
            · intro hnone
              cases hnone
            · intro hnone
              cases hnone

/-- Removing one number from a table leaves the others to be found. -/
theorem lookup_unsent (sent : List (UInt32 × Asked)) (seqnum q : UInt32) :
    (sent.filter fun entry => entry.1 ≠ seqnum).lookup q =
      if q = seqnum then none else sent.lookup q := by
  induction sent with
  | nil => simp
  | cons entry sent ih =>
      obtain ⟨key, a⟩ := entry
      by_cases hkey : key = seqnum
      · rw [List.filter_cons_of_neg (by simp [hkey]), ih, hkey, List.lookup_cons]
        by_cases hq : q = seqnum
        · rw [if_pos hq, if_pos hq]
        · rw [if_neg hq, if_neg hq, beq_false_of_ne hq]
      · rw [List.filter_cons_of_pos (by simpa using hkey), List.lookup_cons, List.lookup_cons]
        by_cases hq : q = key
        · rw [if_neg (hq ▸ hkey), hq, beq_self_eq_true]
        · rw [beq_false_of_ne hq, ih]

/-- The code of a completion, read back by the driver. -/
theorem ofScalar_status (ok : Prop) [Decidable ok] :
    IOReturn.ofScalar (if ok then (0 : Int32) else ForwardLoop.kIOReturnError).toUInt32.toUInt64 =
      if ok then .success else .other ForwardLoop.kIOReturnError := by
  split
  · rfl
  · rfl

theorem completeAll_singleton (env : Surroundings) (s : Extension) (call : CompleteRequest) :
    completeAll env s [call] =
      ({ Shown.nothing with
          completed :=
            (s.externalMethod env 10 (some (completeRequestArguments call))).1.completeReport.toList
          memory :=
            some (s.externalMethod env 10 (some (completeRequestArguments call))).1.memory },
        (s.externalMethod env 10 (some (completeRequestArguments call))).2) := by
  simp only [completeAll, Shown.nothing, List.append_nil, Option.getD_none]

/-- A return is answered by the call the link answers it with, or by none if its number is
unknown. -/
theorem Carries.settle (h : b.Carries i l) (hnumbered : l.Numbered)
    (hcount : l.asked + 1 < 2 ^ 32) (hrunning : b.loop.exited = none) (env : Surroundings)
    (msg : UrbMessage) :
    (completeAll env b.extension (b.loop.answer msg)).1 = (l.settle env msg).1 ∧
      Carries i
        { extension := (completeAll env b.extension (b.loop.answer msg)).2
          loop := { b.loop with pending := b.loop.settled msg } } (l.settle env msg).2 := by
  cases msg with
  | retSubmit ret =>
      have hpending : ∀ q, (b.loop.settled (.retSubmit ret)).lookup q =
          ((l.sent.filter fun entry => entry.1 ≠ ret.header.seqnum).lookup q).map
            Asked.requestId := by
        intro q
        rw [ForwardLoop.settled, ForwardLoop.lookup_removePending, lookup_unsent]
        split
        · rfl
        · exact h.pending hrunning q
      have hlookup := h.pending hrunning ret.header.seqnum
      cases hfound : l.sent.lookup ret.header.seqnum with
      | none =>
          rw [hfound] at hlookup
          have hanswer : b.loop.answer (.retSubmit ret) = [] := by
            simp only [ForwardLoop.answer, hlookup, Option.map_none]
          rw [hanswer]
          simp only [Link.settle, hfound]
          refine ⟨rfl, h.inv, h.slot, h.device, h.inbound, h.ended, h.next, ?_⟩
          intro _ q
          rw [hpending, lookup_unsent]
          by_cases hq : q = ret.header.seqnum
          · rw [if_pos hq, hq, hfound]
          · rw [if_neg hq]
      | some a =>
          rw [hfound] at hlookup
          obtain ⟨ivars, hview, htracks⟩ := h.device
          have hanswer : b.loop.answer (.retSubmit ret) =
              [{ deviceId := b.loop.devid, requestId := a.requestId, data := ret.transferBuffer
                 status := if ret.status = 0 then 0 else ForwardLoop.kIOReturnError }] := by
            simp only [ForwardLoop.answer, hlookup, Option.map_some]
          rw [hanswer, completeAll_singleton]
          obtain ⟨extension, hcall, hinv, hview'⟩ := externalMethod_completeRequest h.inv
            { deviceId := b.loop.devid, requestId := a.requestId, data := ret.transferBuffer
              status := if ret.status = 0 then 0 else ForwardLoop.kIOReturnError }
            h.slot hview env
          obtain ⟨ivars', hcomplete, htracks'⟩ := htracks.complete hnumbered hcount hfound env
            (if ret.status = 0 then .success else .other ForwardLoop.kIOReturnError)
            ret.transferBuffer
          simp only [ofScalar_status, hcomplete] at hcall hview'
          rw [hcall]
          simp only [Link.settle, hfound]
          refine ⟨?_, hinv, h.slot, ⟨ivars', hview', htracks'⟩, h.inbound, h.ended, h.next,
            fun _ => hpending⟩
          simp only [Asked.answer, Option.toList_map]
          rfl
  | cmdSubmit cmd => exact ⟨rfl, h⟩
  | cmdUnlink cmd => exact ⟨rfl, h⟩
  | retUnlink ret => exact ⟨rfl, h⟩

/-- What the loop makes of its stream, and what it calls the driver for. -/
theorem Carries.poll (h : b.Carries i l) (hnumbered : l.Numbered)
    (hcount : l.asked + 1 < 2 ^ 32) {env : Surroundings}
    (hstep : b.step (.poll env) = some (shown, b')) :
    Follows i l (.poll env) b.loop.devid shown b' := by
  simp only [step] at hstep
  obtain ⟨loop, hloop, heq⟩ := Option.map_eq_some_iff.mp hstep
  cases heq
  simp only [ForwardLoop.step] at hloop
  split at hloop
  · cases hloop
  · rename_i hnot
    have hrunning : b.loop.exited = none := Option.not_isSome_iff_eq_none.mp hnot
    have hended : ¬ l.ended = true := h.ended ▸ hnot
    cases hloop
    obtain ⟨polled, inbound, hpoll⟩ :
        ∃ polled inbound, b.loop.inbound.poll readUrbMessage Failure.IsEof = (polled, inbound) :=
      ⟨_, _, rfl⟩
    have hlinkPoll : l.inbound.poll readUrbMessage Failure.IsEof = (polled, inbound) :=
      h.inbound ▸ hpoll
    unfold Follows
    simp only [Link.step, if_neg hended, Link.poll, hlinkPoll, ForwardLoop.pollRead, hpoll]
    -- reading moves the stream, and may end the loop
    have hread : ∀ (exited : Option LoopExit) (handled : List UrbMessage),
        Carries i
          { extension := b.extension, loop := { b.loop with inbound, exited, handled } }
          { l with inbound, ended := exited.isSome } := by
      intro exited handled
      obtain ⟨ivars, hview, htracks⟩ := h.device
      exact ⟨h.inv, h.slot,
        ⟨ivars, hview, htracks.moved htracks.sound htracks.queue (List.Perm.refl _) rfl⟩,
        rfl, rfl, fun _ => h.next hrunning, fun _ => h.pending hrunning⟩
    cases polled with
    | pending =>
        have hcarries := hread b.loop.exited b.loop.handled
        rw [h.ended] at hcarries
        simp only [List.drop_length]
        exact ⟨trivial, _, rfl, hcarries⟩
    | failed e =>
        simp only [List.drop_length]
        exact ⟨trivial, _, rfl, hread (some .readFailed) b.loop.handled⟩
    | done msg =>
        have hcarries := hread b.loop.exited (b.loop.handled ++ [msg])
        rw [h.ended] at hcarries
        obtain ⟨hshown, hsettled⟩ := hcarries.settle
          ⟨hnumbered.numbers, hnumbered.older, hnumbered.seqnums, hnumbered.below, hnumbered.next⟩
          hcount hrunning env msg
        simp only [ForwardLoop.handleMessage_eq, List.drop_left]
        exact ⟨trivial, _, congrArg some (Prod.ext hshown.symm rfl), hsettled.inv, hsettled.slot,
          hsettled.device, hsettled.inbound, hsettled.ended, hsettled.next, hsettled.pending⟩

/-- One step of the bridge is one of the link, and shows the same; the induction over runs is
on this. -/
theorem Carries.step (h : b.Carries i l) (hnumbered : l.Numbered) (hcount : l.asked + 1 < 2 ^ 32)
    {act : LinkAction} (hstep : b.step act = some (shown, b')) :
    Follows i l act b.loop.devid shown b' := by
  cases act with
  | host r env => exact h.host hnumbered hcount hstep
  | tick overflow writeOk env => exact h.tick hstep
  | arrive => exact h.stream .arrive Inbound.arrive (fun _ => rfl) rfl rfl hstep
  | close => exact h.stream .close Inbound.close (fun _ => rfl) rfl rfl hstep
  | poll env => exact h.poll hnumbered hcount hstep
  | others a => exact h.others hstep

end Steps

/-! ### Runs -/

/-- And so is a run, as long as the numbers do not wrap around. -/
theorem Carries.run {i : Fin maxDevices} {b b' : Bridge} {l : Link} {acts : List LinkAction}
    {shown : List Shown} (h : b.Carries i l) (hnumbered : l.Numbered)
    (hcount : l.asked + acts.countP LinkAction.isHost + 1 < 2 ^ 32)
    (hrun : Components.run Bridge.step b acts = some (shown, b')) :
    ∃ l', Components.run (Link.step b.loop.devid) l acts = some (shown, l') ∧ b'.Carries i l' := by
  induction acts generalizing b l shown with
  | nil =>
      cases hrun
      exact ⟨l, rfl, h⟩
  | cons act acts ih =>
      obtain ⟨first, mid, rest, hstep, hrest, rfl⟩ := Components.run_cons_eq_some.mp hrun
      obtain ⟨hdevid, next, hlink, hcarries⟩ := h.step hnumbered (by omega) hstep
      have hmoves := Link.moves_of_step hlink
      have hasked := Link.asked_le_of_moves hmoves
      rw [List.countP_cons] at hcount
      obtain ⟨l', hrest', hcarries'⟩ := ih hcarries (hnumbered.moves hmoves (by omega))
        (by omega) hrest
      rw [hdevid] at hrest'
      exact ⟨l', Components.run_cons_eq_some.mpr ⟨first, next, rest, hlink, hrest', rfl⟩, hcarries'⟩

/-- The answer to the first submission: a report of two bytes. -/
def sampleReturn : UrbMessage :=
  .retSubmit
    { header :=
        { command := Command.retSubmit.code, seqnum := 1, devid := 0, direction := 0, ep := 0 }
      status := 0
      actualLength := 2
      startFrame := 0
      numberOfPackets := nonIsoPacketsSentinel
      errorCount := 0
      transferBuffer := [5, 6]
      isoPacketDescriptors := [] }

/-- The host asks for a report with action 7, the request is sent, and the answer is read. -/
def sampleActions : List LinkAction :=
  [.host (.getReport (some { id := 3, length := 2, mapping := some (4096, 2) }) 1 (some 7))
      Extension.sampleSurroundings,
    .tick .truncated true Extension.sampleSurroundings, .arrive,
    .poll Extension.sampleSurroundings]

end Bridge

end Extender.System
