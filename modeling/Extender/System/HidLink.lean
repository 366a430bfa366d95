/-
What the way of a report from the host to the server and back is for.

On an attached macOS machine a report request of the host goes through a ring and a table in
the driver extension, through IOKit to the daemon, and from there to the server under a
sequence number; the answer comes back by the number, then by the driver's request id. Seen
from the host and from the server, all of this is one queue and one table (`Link`): the
requests that wait to be sent, in the order in which they were made, and those that are sent,
by the number of their submission.

The link also has the defects of the parts. A request that is refused because the table is
full is in the queue already, and is sent. A request that is dropped on the way, or cannot be
sent, is never answered, and its slot of the driver's table is never free again; such requests
are kept in a list of their own (`lost`).

What can happen is said once (`Moves`), and the two invariants are derived from it: requests
and submissions are told apart by their numbers, and the books of a run balance.

* `Link.step` — the host asks, the loop polls, an answer comes.
* `Link.moves_of_step` — everything a step can do.
* `Link.run_balanced` — in every run, the actions the host was told are on their way are those
  that were completed and those that still wait, each once.
-/

import Extender.Client.StorageRequests
import Extender.Driver.Slots
import Mathlib.Algebra.Order.Group.Multiset

namespace Extender.Driver.HidRequest

/-- The action that is to be completed. -/
def action : HidRequest → Option Nat
  | .getReport _ _ action => action
  | .setReport _ _ _ action => action

/-- The report that is to be filled or was set. -/
def reportId : HidRequest → Option Nat
  | .getReport report _ _ => report.map MemoryDescriptor.id
  | .setReport _ _ report _ => report.map MemoryDescriptor.id

/-- The host wants a report back. -/
def isGetReport : HidRequest → Bool
  | .getReport _ _ _ => true
  | .setReport _ _ _ _ => false

/-- The memory of the host when `bytes` have come back for the request. -/
def fill (r : HidRequest) (env : Surroundings) (bytes : List UInt8) : Memory :=
  match r.isGetReport, r.reportId.bind env.mapping with
  | true, some (mapped, mappedLen) =>
      let writeLen := min bytes.length mappedLen.toNat
      if mapped ≠ 0 ∧ writeLen > 0 then env.memory.write mapped (bytes.take writeLen)
      else env.memory
  | _, _ => env.memory

end Extender.Driver.HidRequest

namespace Extender.System

open ByteReader Extender.Protocol Extender.Driver Extender.Client

/-! ### Inputs and what is seen of them -/

/-- What happens: the host asks for a report, the loop's timer fires, bytes arrive and are
read, or something happens to the rest of the driver extension. -/
inductive LinkAction where
  | host (r : HidRequest) (env : Surroundings)
  | tick (overflow : Overflow) (writeOk : Bool) (env : Surroundings)
  | arrive
  | close
  | poll (env : Surroundings)
  | others (a : Extension.Action)

/-- The host asks for a report. -/
def LinkAction.isHost : LinkAction → Bool
  | .host _ _ => true
  | _ => false

/-- What the host and the server see of it: what is returned, written and completed, and the
host's memory. -/
structure Shown where
  /-- What the host's call returned. -/
  told : Option IOReturn
  /-- What was written to the server. -/
  written : List UrbMessage
  completed : List CompleteReport
  /-- The memory behind a completion. -/
  memory : Option Memory

/-- A step nobody sees. -/
def Shown.nothing : Shown := { told := none, written := [], completed := [], memory := none }

/-! ### The link -/

/-- A request, numbered as it was made, and whether the host was told it is on its way. -/
structure Asked where
  number : Nat
  request : HidRequest
  accepted : Bool

namespace Asked

/-- What the loop takes from the driver for it; the endpoint is 0, and the id one more than
its number. -/
def pendingRequest (a : Asked) : PendingRequest :=
  { deviceId := 0, endpoint := 0, requestId := UInt32.ofNat (a.number + 1)
    data := a.request.payload }

/-- The action that is completed if it is answered: none, if the host was told that it
failed. -/
def awaited (a : Asked) : Option Nat := if a.accepted then a.request.action else none

/-- `complete_request` is called for it. -/
def answer (a : Asked) (env : Surroundings) (ret : RetSubmit) : Shown :=
  { Shown.nothing with
    completed := a.awaited.toList.map fun action =>
      { action, status := if ret.status = 0 then .success else .other ForwardLoop.kIOReturnError
        actualByteCount := UInt32.ofNat ret.transferBuffer.length }
    memory := some (if a.accepted then a.request.fill env ret.transferBuffer else env.memory) }

end Asked

/-- The queue, the table of what was sent, what was lost, and the stream from the server. -/
structure Link where
  inbound : Inbound
  queue : List Asked
  sent : List (UInt32 × Asked)
  lost : List Asked
  /-- How many requests have been queued. -/
  asked : Nat
  nextSeqnum : UInt32
  ended : Bool

namespace Link

/-- A link that has just been set up, with what the server will send. -/
def start (chunks : List (List UInt8)) : Link :=
  { inbound := .start chunks, queue := [], sent := [], lost := [], asked := 0, nextSeqnum := 1
    ended := false }

/-- The requests that were not answered, wherever they are: queued, sent or lost. -/
def unanswered (l : Link) : List Asked := l.queue ++ (l.sent.map Prod.snd ++ l.lost)

/-- Those of them the host waits for; each has a slot of the driver's table. -/
def waiting (l : Link) : List Asked := l.unanswered.filter Asked.accepted

/-- The request is queued. -/
def enqueue (l : Link) (r : HidRequest) (accepted : Bool) : Link :=
  { l with queue := l.queue ++ [{ number := l.asked, request := r, accepted }]
           asked := l.asked + 1 }

/-- The host asks for a report. It is told of a full table when the request is in the queue
already. -/
def ask (l : Link) (r : HidRequest) : IOReturn × Link :=
  if r.Oversize ∨ maxPendingOutputs ≤ l.queue.length then (.noSpace, l)
  else if l.waiting.length < inFlightCapacity then (.success, l.enqueue r true)
  else (.noResources, l.enqueue r false)

/-- The longest payload that fits into the daemon's buffer behind its header. -/
abbrev payloadRoom : Nat := pendingBufferSize - pendingOutputHeaderSize

/-- The timer fires: the first request of the queue is sent, unless it is too long for the
daemon or the write fails. -/
def tick (devid : UInt32) (l : Link) (writeOk : Bool) : Shown × Link :=
  match l.queue with
  | [] => (.nothing, l)
  | a :: queue =>
      if payloadRoom < a.request.payload.length then
        (.nothing, { l with queue, lost := a :: l.lost })
      else if writeOk then
        ({ Shown.nothing with
            written :=
              [.cmdSubmit (ForwardLoop.submissionOf devid l.nextSeqnum a.pendingRequest)] },
          { l with queue, sent := (l.nextSeqnum, a) :: l.sent, nextSeqnum := l.nextSeqnum + 1 })
      else (.nothing, { l with queue, lost := a :: l.lost, ended := true })

theorem tick_of_nil {l : Link} (hqueue : l.queue = []) (devid : UInt32) (writeOk : Bool) :
    l.tick devid writeOk = (.nothing, l) := by
  unfold tick
  rw [hqueue]

/-- The first request of the queue is sent, is lost on the way, or ends the loop. -/
theorem tick_of_cons {l : Link} {a : Asked} {queue : List Asked} (hqueue : l.queue = a :: queue)
    (devid : UInt32) (writeOk : Bool) :
    l.tick devid writeOk =
      if payloadRoom < a.request.payload.length then
        (.nothing, { l with queue, lost := a :: l.lost })
      else if writeOk then
        ({ Shown.nothing with
            written :=
              [.cmdSubmit (ForwardLoop.submissionOf devid l.nextSeqnum a.pendingRequest)] },
          { l with queue, sent := (l.nextSeqnum, a) :: l.sent, nextSeqnum := l.nextSeqnum + 1 })
      else (.nothing, { l with queue, lost := a :: l.lost, ended := true }) := by
  unfold tick
  rw [hqueue]

/-- A message has come: the request sent under its number is answered, and any other message
is passed over. -/
def settle (env : Surroundings) (l : Link) : UrbMessage → Shown × Link
  | .retSubmit ret =>
      match l.sent.lookup ret.header.seqnum with
      | none => (.nothing, l)
      | some a =>
          (a.answer env ret,
            { l with sent := l.sent.filter fun entry => entry.1 ≠ ret.header.seqnum })
  | _ => (.nothing, l)

/-- The loop reads: a message is settled, and the end of the stream ends the loop. -/
def poll (env : Surroundings) (l : Link) : Shown × Link :=
  match l.inbound.poll readUrbMessage Failure.IsEof with
  | (.done msg, inbound) => { l with inbound }.settle env msg
  | (.pending, inbound) => (.nothing, { l with inbound })
  | (.failed _, inbound) => (.nothing, { l with inbound, ended := true })

/-- One step, and what is seen of it; `devid` is the device the server knows. -/
def step (devid : UInt32) (l : Link) : LinkAction → Option (Shown × Link)
  | .host r _ => let (ret, l') := l.ask r; some ({ Shown.nothing with told := some ret }, l')
  | .others _ => some (.nothing, l)
  | .tick _ writeOk _ =>
      if l.ended then none else some ({ l with inbound := l.inbound.cancel }.tick devid writeOk)
  | .arrive =>
      if l.ended then none
      else l.inbound.arrive.map fun inbound => (.nothing, { l with inbound })
  | .close =>
      if l.ended then none
      else l.inbound.close.map fun inbound => (.nothing, { l with inbound })
  | .poll env => if l.ended then none else some (l.poll env)

/-- Everything a step can do, with what is seen of it; both invariants are proved by cases on
this. -/
inductive Moves (devid : UInt32) (l : Link) : LinkAction → Shown → Link → Prop where
  | refused (r : HidRequest) (env : Surroundings) :
      Moves devid l (.host r env) { Shown.nothing with told := some .noSpace } l
  | queued (r : HidRequest) (env : Surroundings) (accepted : Bool) :
      Moves devid l (.host r env)
        { Shown.nothing with told := some (if accepted then .success else .noResources) }
        (l.enqueue r accepted)
  | quiet {act : LinkAction} (hact : act.isHost = false) (inbound : Inbound) (ended : Bool) :
      Moves devid l act .nothing { l with inbound, ended }
  | dropped {act : LinkAction} (hact : act.isHost = false) {a : Asked} {queue : List Asked}
      (hqueue : l.queue = a :: queue) (inbound : Inbound) (ended : Bool) :
      Moves devid l act .nothing { l with inbound, queue, lost := a :: l.lost, ended }
  | submitted {act : LinkAction} (hact : act.isHost = false) {a : Asked} {queue : List Asked}
      (hqueue : l.queue = a :: queue) (inbound : Inbound) :
      Moves devid l act
        { Shown.nothing with
          written := [.cmdSubmit (ForwardLoop.submissionOf devid l.nextSeqnum a.pendingRequest)] }
        { l with inbound, queue, sent := (l.nextSeqnum, a) :: l.sent
                 nextSeqnum := l.nextSeqnum + 1 }
  | answered (env : Surroundings) {ret : RetSubmit} {a : Asked}
      (hfound : l.sent.lookup ret.header.seqnum = some a) (inbound : Inbound) :
      Moves devid l (.poll env) (a.answer env ret)
        { l with inbound, sent := l.sent.filter fun entry => entry.1 ≠ ret.header.seqnum }

section Moves

variable {devid : UInt32} {l l' : Link} {shown : Shown}

/-- A request of the host is refused, queued, or queued and refused. -/
theorem moves_ask (l : Link) (r : HidRequest) (env : Surroundings) :
    Moves devid l (.host r env) { Shown.nothing with told := some (l.ask r).1 } (l.ask r).2 := by
  unfold ask
  split
  · exact .refused r env
  · split
    · exact .queued r env true
    · exact .queued r env false

theorem moves_tick {act : LinkAction} (hact : act.isHost = false) (l : Link) (inbound : Inbound)
    (writeOk : Bool) :
    Moves devid l act ({ l with inbound }.tick devid writeOk).1
      ({ l with inbound }.tick devid writeOk).2 := by
  unfold tick
  split
  · exact .quiet hact inbound l.ended
  · rename_i a queue hqueue
    change l.queue = a :: queue at hqueue
    split
    · exact .dropped hact hqueue inbound l.ended
    · split
      · exact .submitted hact hqueue inbound
      · exact .dropped hact hqueue inbound true

theorem moves_poll (l : Link) (env : Surroundings) :
    Moves devid l (.poll env) (l.poll env).1 (l.poll env).2 := by
  unfold poll
  cases l.inbound.poll readUrbMessage Failure.IsEof with
  | mk polled inbound =>
      cases polled with
      | pending => exact .quiet rfl inbound l.ended
      | failed e => exact .quiet rfl inbound true
      | done msg =>
          cases msg with
          | retSubmit ret =>
              cases hfound : l.sent.lookup ret.header.seqnum with
              | none =>
                  simp only [settle, hfound]
                  exact .quiet rfl inbound l.ended
              | some a =>
                  simp only [settle, hfound]
                  exact .answered env hfound inbound
          | cmdSubmit cmd => exact .quiet rfl inbound l.ended
          | cmdUnlink cmd => exact .quiet rfl inbound l.ended
          | retUnlink ret => exact .quiet rfl inbound l.ended

/-- Every step is one of these moves. -/
theorem moves_of_step {act : LinkAction} (h : l.step devid act = some (shown, l')) :
    Moves devid l act shown l' := by
  cases act with
  | host r env =>
      cases h
      exact moves_ask l r env
  | others a =>
      cases h
      exact .quiet rfl l.inbound l.ended
  | tick overflow writeOk env =>
      simp only [step] at h
      split at h
      · cases h
      · have hmoves : Moves devid l (.tick overflow writeOk env) _ _ :=
          moves_tick rfl l l.inbound.cancel writeOk
        rw [Option.some.inj h] at hmoves
        exact hmoves
  | arrive =>
      simp only [step] at h
      split at h
      · cases h
      · obtain ⟨inbound, -, heq⟩ := Option.map_eq_some_iff.mp h
        cases heq
        exact .quiet rfl inbound l.ended
  | close =>
      simp only [step] at h
      split at h
      · cases h
      · obtain ⟨inbound, -, heq⟩ := Option.map_eq_some_iff.mp h
        cases heq
        exact .quiet rfl inbound l.ended
  | poll env =>
      simp only [step] at h
      split at h
      · cases h
      · have hmoves : Moves devid l (.poll env) _ _ := moves_poll l env
        rw [Option.some.inj h] at hmoves
        exact hmoves

end Moves

/-! ### Numbers -/

/-- The requests and the submissions are told apart by their numbers, which only grow. -/
structure Numbered (l : Link) : Prop where
  numbers : (l.unanswered.map Asked.number).Nodup
  older : ∀ a ∈ l.unanswered, a.number < l.asked
  seqnums : (l.sent.map Prod.fst).Nodup
  below : ∀ entry ∈ l.sent, entry.1.toNat < l.nextSeqnum.toNat
  next : l.nextSeqnum.toNat + l.queue.length ≤ l.asked + 1

/-- A request that is queued is one more to be answered. -/
theorem unanswered_enqueue (l : Link) (r : HidRequest) (accepted : Bool) :
    (l.enqueue r accepted).unanswered.Perm
      ({ number := l.asked, request := r, accepted } :: l.unanswered) := by
  unfold unanswered enqueue
  rw [List.append_assoc]
  exact List.perm_middle

/-- A request that changes its place is as unanswered as before. -/
theorem unanswered_perm_of_queue {l : Link} {a : Asked} {queue : List Asked}
    (hqueue : l.queue = a :: queue) :
    l.unanswered.Perm (queue ++ (l.sent.map Prod.snd ++ a :: l.lost)) ∧
      l.unanswered.Perm (queue ++ (a :: l.sent.map Prod.snd ++ l.lost)) := by
  unfold unanswered
  rw [hqueue]
  constructor
  · rw [List.cons_append, ← List.append_assoc, ← List.append_assoc]
    exact List.perm_middle.symm
  · exact List.perm_middle.symm

/-- The request that is answered is the only one with its number, and the others stay in the
table. -/
theorem sent_perm {sent : List (UInt32 × Asked)} (h : (sent.map Prod.fst).Nodup)
    {seqnum : UInt32} {a : Asked} (hfound : sent.lookup seqnum = some a) :
    sent.Perm ((seqnum, a) :: sent.filter fun entry => entry.1 ≠ seqnum) := by
  induction sent with
  | nil => cases hfound
  | cons entry sent ih =>
      obtain ⟨key, b⟩ := entry
      rw [List.map_cons, List.nodup_cons] at h
      rw [List.lookup_cons] at hfound
      by_cases hkey : seqnum = key
      · subst hkey
        rw [beq_self_eq_true] at hfound
        cases hfound
        have hrest : sent.filter (fun entry => entry.1 ≠ seqnum) = sent := by
          apply List.filter_eq_self.mpr
          intro entry hentry
          refine decide_eq_true fun hsame => h.1 ?_
          exact List.mem_map.mpr ⟨entry, hentry, hsame⟩
        rw [List.filter_cons_of_neg (by simp), hrest]
      · rw [beq_false_of_ne hkey] at hfound
        rw [List.filter_cons_of_pos (by simpa using Ne.symm hkey)]
        exact ((ih h.2 hfound).cons _).trans (List.Perm.swap ..)

/-- An answer takes one request from those that wait. -/
theorem unanswered_perm_of_sent {l : Link} {seqnum : UInt32} {a : Asked}
    (h : (l.sent.map Prod.fst).Nodup) (hfound : l.sent.lookup seqnum = some a) :
    l.unanswered.Perm (a :: { l with
      sent := l.sent.filter fun entry => entry.1 ≠ seqnum }.unanswered) := by
  have hsent := (sent_perm h hfound).map Prod.snd
  exact ((hsent.append_right l.lost).append_left l.queue).trans List.perm_middle

/-- One step keeps the numbers apart, as long as they do not wrap around. -/
theorem Numbered.moves {devid : UInt32} {l l' : Link} {act : LinkAction} {shown : Shown}
    (h : l.Numbered) (hmoves : Moves devid l act shown l') (hcount : l'.asked + 1 < 2 ^ 32) :
    l'.Numbered := by
  cases hmoves with
  | refused r env => exact h
  | queued r env accepted =>
      have hperm := unanswered_enqueue l r accepted
      refine ⟨?_, ?_, h.seqnums, h.below, ?_⟩
      · rw [(hperm.map Asked.number).nodup_iff, List.map_cons, List.nodup_cons]
        refine ⟨?_, h.numbers⟩
        rintro hmem
        obtain ⟨a, ha, hsame⟩ := List.mem_map.mp hmem
        exact absurd hsame (Nat.ne_of_lt (h.older a ha))
      · intro a ha
        rcases List.mem_cons.mp (hperm.mem_iff.mp ha) with rfl | ha
        · exact Nat.lt_succ_self _
        · exact Nat.lt_succ_of_lt (h.older a ha)
      · have hnext := h.next
        simp only [enqueue, List.length_append, List.length_singleton]
        omega
  | quiet hact inbound ended => exact ⟨h.numbers, h.older, h.seqnums, h.below, h.next⟩
  | dropped hact hqueue inbound ended =>
      obtain ⟨hperm, -⟩ := unanswered_perm_of_queue hqueue
      refine ⟨(hperm.map _).nodup_iff.mp h.numbers, fun a ha => h.older a (hperm.mem_iff.mpr ha),
        h.seqnums, h.below, ?_⟩
      have hnext := h.next
      rw [hqueue, List.length_cons] at hnext
      simp only
      omega
  | submitted hact hqueue inbound =>
      obtain ⟨-, hperm⟩ := unanswered_perm_of_queue hqueue
      have hnext := h.next
      rw [hqueue, List.length_cons] at hnext
      have hsucc : (l.nextSeqnum + 1).toNat = l.nextSeqnum.toNat + 1 := by
        simp only at hcount
        rw [UInt32.toNat_add, UInt32.toNat_one, Nat.mod_eq_of_lt (by omega)]
      refine ⟨(hperm.map _).nodup_iff.mp h.numbers, fun a ha => h.older a (hperm.mem_iff.mpr ha),
        ?_, ?_, ?_⟩
      · rw [List.map_cons, List.nodup_cons]
        refine ⟨?_, h.seqnums⟩
        intro hmem
        obtain ⟨entry, hentry, hsame⟩ := List.mem_map.mp hmem
        have hlt := h.below entry hentry
        rw [hsame] at hlt
        exact absurd hlt (Nat.lt_irrefl _)
      · intro entry hentry
        rw [hsucc]
        rcases List.mem_cons.mp hentry with rfl | hentry
        · exact Nat.lt_succ_self _
        · exact Nat.lt_succ_of_lt (h.below entry hentry)
      · simp only [hsucc]
        omega
  | answered env hfound inbound =>
      have hperm := unanswered_perm_of_sent h.seqnums hfound
      have hnodup := (hperm.map Asked.number).nodup_iff.mp h.numbers
      refine ⟨(List.nodup_cons.mp hnodup).2,
        fun a ha => h.older a (hperm.mem_iff.mpr (List.mem_cons_of_mem _ ha)),
        h.seqnums.sublist (List.filter_sublist.map _),
        fun entry hentry => h.below entry (List.mem_filter.mp hentry).1, h.next⟩

/-- At most one request is queued at a time. -/
theorem asked_le_of_moves {devid : UInt32} {l l' : Link} {act : LinkAction} {shown : Shown}
    (hmoves : Moves devid l act shown l') :
    l'.asked ≤ l.asked + (if act.isHost then 1 else 0) := by
  cases hmoves with
  | refused r env => exact Nat.le_succ _
  | queued r env accepted => exact Nat.le_refl _
  | quiet hact => exact Nat.le_add_right _ _
  | dropped hact => exact Nat.le_add_right _ _
  | submitted hact => exact Nat.le_add_right _ _
  | answered env => exact Nat.le_add_right _ _

/-! ### Books -/

/-- The action of a request the host is told is on its way. -/
def acceptedBy (act : LinkAction) (shown : Shown) : List Nat :=
  match act with
  | .host r _ => if shown.told = some .success then r.action.toList else []
  | _ => []

/-- The actions that wait to be completed, whether they can still be or not. -/
def awaitedActions (l : Link) : List Nat := l.unanswered.filterMap Asked.awaited

/-- The actions of a list of requests, one after the other. -/
theorem filterMap_awaited_cons (a : Asked) (l : List Asked) :
    (a :: l).filterMap Asked.awaited = a.awaited.toList ++ l.filterMap Asked.awaited := by
  cases hawaited : a.awaited with
  | none => rw [List.filterMap_cons_none hawaited, Option.toList_none, List.nil_append]
  | some action => rw [List.filterMap_cons_some hawaited, Option.toList_some, List.singleton_append]

/-- What a step adds to one side of the books it adds to the other. -/
theorem Numbered.balance {devid : UInt32} {l l' : Link} {act : LinkAction} {shown : Shown}
    (h : l.Numbered) (hmoves : Moves devid l act shown l') :
    (acceptedBy act shown ++ l.awaitedActions).Perm
      (shown.completed.map CompleteReport.action ++ l'.awaitedActions) := by
  have hnone : ∀ {act : LinkAction} {shown : Shown}, act.isHost = false →
      acceptedBy act shown = [] := by
    intro act shown hact
    cases act with
    | host r env => cases hact
    | _ => rfl
  cases hmoves with
  | refused r env => exact List.Perm.refl _
  | queued r env accepted =>
      have hawaited := (unanswered_enqueue l r accepted).filterMap Asked.awaited
      rw [filterMap_awaited_cons] at hawaited
      refine List.Perm.trans ?_ hawaited.symm
      cases accepted with
      | true => exact List.Perm.refl _
      | false => exact List.Perm.refl _
  | quiet hact inbound ended =>
      rw [hnone hact]
      exact List.Perm.refl _
  | dropped hact hqueue inbound ended =>
      rw [hnone hact]
      exact (unanswered_perm_of_queue hqueue).1.filterMap _
  | submitted hact hqueue inbound =>
      rw [hnone hact]
      exact (unanswered_perm_of_queue hqueue).2.filterMap _
  | answered env hfound inbound =>
      have hperm := (unanswered_perm_of_sent h.seqnums hfound).filterMap Asked.awaited
      rw [filterMap_awaited_cons] at hperm
      have hcompleted : ∀ a : Asked, ∀ ret : RetSubmit,
          (a.answer env ret).completed.map CompleteReport.action = a.awaited.toList := by
        intro a ret
        simp only [Asked.answer, List.map_map, Function.comp_def, List.map_id']
      rw [hcompleted]
      exact hperm

end Link

end Extender.System
