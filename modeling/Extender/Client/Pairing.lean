/-
What the forwarding loop sends, and which answer completes which request.

The loop gives each request it takes from the driver the next sequence number, and completes
it when a return with that number is read. The journal of a run records both sides in the
order in which they happened: each request taken with what was written for it, each message
read with the calls of `complete_request` made for it. It is kept beside the run and changes
no step.

What a request becomes on the wire is stated over the whole stream of submissions. The encoder
writes the payload of every request, while the server takes one only with an OUT header; an IN
request with data therefore shifts everything behind it.

The pairing is an invariant of the table of pending requests (`Tracked`): it holds the
requests that were sent and not completed, each under its number. It needs numbers to be
different, which they are for fewer than `2 ^ 32` submissions.

* `submissions_framed_iff` — the bytes written are read back as the submissions built exactly
  when no request for an IN endpoint carries data.
* `completions_paired` — whatever the server sends and however the two sides interleave, a
  request is completed at most once, by the return that carries its sequence number.
-/

import Extender.Client.Forward
import Extender.Lib.Indexed

namespace Extender.Client.ForwardLoop

open ByteReader Extender.Protocol

/-! ### The journal of a run -/

/-- What a step did that the other side can see: a request taken from the driver with the
messages written for it, or a message read with the completions called for it. -/
inductive Event where
  | took (r : PendingRequest) (written : List UrbMessage)
  | received (msg : UrbMessage) (calls : List CompleteRequest)
deriving DecidableEq, Repr

/-- What a step leaves in the journal, seen from the state before it. -/
def observe (s : ForwardLoop) : Action → List Event
  | .tick (.request r) writeOk =>
      [.took r ((s.tick (.request r) writeOk).written.drop s.written.length)]
  | .poll =>
      match s.inbound.poll readUrbMessage Failure.IsEof with
      | (.done msg, _) => [.received msg (s.pollRead.completed.drop s.completed.length)]
      | _ => []
  | _ => []

/-- The messages written for a request. -/
def Event.messages : Event → List UrbMessage
  | .took _ written => written
  | .received _ _ => []

/-- The completions called for a message. -/
def Event.calls : Event → List CompleteRequest
  | .took _ _ => []
  | .received _ calls => calls

/-- The calls a message leads to, given the table of pending requests. -/
def answer (s : ForwardLoop) : UrbMessage → List CompleteRequest
  | .retSubmit ret =>
      match s.pending.lookup ret.header.seqnum with
      | none => []
      | some requestId =>
          [{ deviceId := s.devid, requestId, data := ret.transferBuffer
             status := if ret.status = 0 then 0 else kIOReturnError }]
  | _ => []

/-- The table of pending requests behind a message. -/
def settled (s : ForwardLoop) : UrbMessage → List (UInt32 × UInt32)
  | .retSubmit ret => removePending s.pending ret.header.seqnum
  | _ => s.pending

theorem handleMessage_eq (s : ForwardLoop) (msg : UrbMessage) :
    s.handleMessage msg =
      { s with pending := s.settled msg, completed := s.completed ++ s.answer msg } := by
  cases msg with
  | retSubmit ret =>
      cases hfound : s.pending.lookup ret.header.seqnum with
      | some requestId => simp only [handleMessage, settled, answer, hfound]
      | none =>
          -- a number that is not in the table has no entry to remove
          have hsame : removePending s.pending ret.header.seqnum = s.pending := by
            apply List.filter_eq_self.mpr
            intro entry hentry
            have hnone := List.lookup_eq_none_iff.mp hfound entry hentry
            exact decide_eq_true (Ne.symm (bne_iff_ne.mp hnone))
          simp only [handleMessage, settled, answer, hfound]
          rw [hsame, List.append_nil]
  | cmdSubmit _ => simp only [handleMessage, settled, answer, List.append_nil]
  | cmdUnlink _ => simp only [handleMessage, settled, answer, List.append_nil]
  | retUnlink _ => simp only [handleMessage, settled, answer, List.append_nil]

/-- The requests a schedule takes from the driver and sends, in order. -/
def sentRequests : List Action → List PendingRequest
  | [] => []
  | .tick (.request r) true :: as => r :: sentRequests as
  | _ :: as => sentRequests as

/-- Everything a step can do, with its journal: a request is sent, a message is answered, or
neither. -/
inductive Moves (s : ForwardLoop) : Action → List Event → ForwardLoop → Prop where
  | quiet {a : Action} (inbound : Inbound) (exited : Option LoopExit)
      (hsent : ∀ as, sentRequests (a :: as) = sentRequests as) :
      Moves s a [] { s with inbound, exited }
  | received (msg : UrbMessage) (inbound : Inbound) :
      Moves s .poll [.received msg (s.answer msg)]
        { s with inbound, handled := s.handled ++ [msg], pending := s.settled msg
                 completed := s.completed ++ s.answer msg }
  | submitted (r : PendingRequest) :
      Moves s (.tick (.request r) true)
        [.took r [.cmdSubmit (submissionOf s.devid s.nextSeqnum r)]]
        { s with inbound := s.inbound.cancel, nextSeqnum := s.nextSeqnum + 1
                 pending := insertPending s.pending s.nextSeqnum r.requestId
                 written := s.written ++ [.cmdSubmit (submissionOf s.devid s.nextSeqnum r)] }
  | unsent (r : PendingRequest) (pending : List (UInt32 × UInt32)) :
      Moves s (.tick (.request r) false) [.took r []]
        { s with inbound := s.inbound.cancel, nextSeqnum := s.nextSeqnum + 1, pending
                 exited := some .writeFailed }

theorem moves_of_step {s s' : ForwardLoop} {a : Action} (h : s.step a = some s') :
    s.exited = none ∧ Moves s a (s.observe a) s' := by
  unfold step at h
  split at h
  · cases h
  · rename_i hrunning
    refine ⟨Option.not_isSome_iff_eq_none.mp hrunning, ?_⟩
    cases a with
    | arrive =>
        obtain ⟨inbound, -, rfl⟩ := Option.map_eq_some_iff.mp h
        exact .quiet inbound s.exited fun _ => rfl
    | close =>
        obtain ⟨inbound, -, rfl⟩ := Option.map_eq_some_iff.mp h
        exact .quiet inbound s.exited fun _ => rfl
    | poll =>
        cases h
        obtain ⟨polled, inbound, hpoll⟩ :
            ∃ polled inbound, s.inbound.poll readUrbMessage Failure.IsEof = (polled, inbound) :=
          ⟨_, _, rfl⟩
        simp only [observe, pollRead, hpoll]
        cases polled with
        | done msg =>
            simp only [handleMessage_eq, List.drop_left]
            exact .received msg inbound
        | pending => exact .quiet inbound s.exited fun _ => rfl
        | failed e => exact .quiet inbound _ fun _ => rfl
    | tick output writeOk =>
        cases h
        cases output with
        | nothing => exact .quiet _ s.exited fun _ => by cases writeOk <;> rfl
        | failed => exact .quiet _ s.exited fun _ => by cases writeOk <;> rfl
        | request r =>
            cases writeOk with
            | true =>
                simp only [observe, tick, pollDriver, if_true, List.drop_left]
                exact .submitted r
            | false =>
                simp only [observe, tick, pollDriver, Bool.false_eq_true, if_false,
                  List.drop_length]
                exact .unsent r _

/-! ### Submissions in frame -/

/-- The submissions for a list of requests, numbered from `seqnum` on; what the server should
read of the stream. -/
def submissions (devid : UInt32) : UInt32 → List PendingRequest → List UrbMessage
  | _, [] => []
  | seqnum, r :: rs =>
      .cmdSubmit (submissionOf devid seqnum r) :: submissions devid (seqnum + 1) rs

theorem run_of_exited {s s' : ForwardLoop} {as : List Action} (h : s.exited.isSome = true)
    (hrun : Transition.run step s as = some s') : as = [] ∧ s' = s := by
  cases as with
  | nil =>
      cases hrun
      exact ⟨rfl, rfl⟩
  | cons a as =>
      obtain ⟨mid, hstep, -⟩ := Transition.run_cons_eq_some.mp hrun
      unfold step at hstep
      rw [if_pos h] at hstep
      cases hstep

/-- One submission is written for each request sent, in order and numbered in order. -/
theorem run_written {s s' : ForwardLoop} {as : List Action}
    (hrun : Transition.run step s as = some s') :
    s'.written = s.written ++ submissions s.devid s.nextSeqnum (sentRequests as) := by
  induction as generalizing s with
  | nil =>
      cases hrun
      exact (List.append_nil _).symm
  | cons a as ih =>
      obtain ⟨mid, hstep, hrest⟩ := Transition.run_cons_eq_some.mp hrun
      have hwritten := ih hrest
      obtain ⟨-, hmoves⟩ := moves_of_step hstep
      generalize s.observe a = events at hmoves
      cases hmoves with
      | quiet inbound exited hsent =>
          rw [hsent]
          exact hwritten
      | received msg inbound => exact hwritten
      | submitted r =>
          rw [hwritten, List.append_assoc]
          rfl
      | unsent r pending =>
          obtain ⟨rfl, -⟩ := run_of_exited rfl hrest
          exact hwritten

/-- Bit 7 of the endpoint address is clear, or there is no data: the server then takes as much
as is written. -/
def InFrame (r : PendingRequest) : Prop := r.endpoint &&& 0x80 ≠ 0 → r.data = []

instance : DecidablePred InFrame := fun _ => inferInstanceAs (Decidable (_ → _))

theorem wellFormed_submission_iff {r : PendingRequest} (hlen : r.data.length ≤ 65536)
    (devid seqnum : UInt32) :
    (UrbMessage.cmdSubmit (submissionOf devid seqnum r)).WellFormed ↔ InFrame r := by
  have hlength : (UInt32.ofNat r.data.length).toNat = r.data.length := by
    rw [UInt32.toNat_ofNat']
    omega
  have hsmall : UInt32.ofNat r.data.length ≤ maxTransferBufferLength := by
    rw [UInt32.le_iff_toNat_le, hlength]
    exact Nat.le_trans hlen (by decide)
  by_cases hin : r.endpoint &&& 0x80 ≠ 0
  · have hdirection : ((submissionOf devid seqnum r).header.direction == 0) = false := by
      show ((if r.endpoint &&& 0x80 ≠ 0 then 1 else 0) == (0 : UInt32)) = false
      rw [if_pos hin]
      rfl
    constructor
    · rintro ⟨-, htail⟩ -
      have hbuffer := htail.buffer_length
      rw [hdirection] at hbuffer
      exact List.length_eq_zero_iff.mp hbuffer
    · intro hframe
      refine ⟨rfl, hsmall, ?_, Or.inl ⟨rfl, rfl⟩⟩
      rw [hdirection]
      exact List.length_eq_zero_iff.mpr (hframe hin)
  · have hdirection : ((submissionOf devid seqnum r).header.direction == 0) = true := by
      show ((if r.endpoint &&& 0x80 ≠ 0 then 1 else 0) == (0 : UInt32)) = true
      rw [if_neg hin]
      rfl
    refine iff_of_true ⟨rfl, hsmall, ?_, Or.inl ⟨rfl, rfl⟩⟩ fun h => absurd h hin
    rw [hdirection]
    exact hlength.symm

theorem forall_mem_submissions {P : UrbMessage → Prop} {devid : UInt32}
    {rs : List PendingRequest}
    (hP : ∀ r ∈ rs, ∀ seqnum, P (.cmdSubmit (submissionOf devid seqnum r)) ↔ InFrame r) :
    ∀ seqnum, (∀ m ∈ submissions devid seqnum rs, P m) ↔ ∀ r ∈ rs, InFrame r := by
  induction rs with
  | nil => simp [submissions]
  | cons r rs ih =>
      intro seqnum
      rw [submissions, List.forall_mem_cons, List.forall_mem_cons,
        hP r List.mem_cons_self, ih fun r hr => hP r (List.mem_cons_of_mem _ hr)]

theorem length_submissions (devid seqnum : UInt32) (rs : List PendingRequest) :
    (submissions devid seqnum rs).length = rs.length := by
  induction rs generalizing seqnum with
  | nil => rfl
  | cons r rs ih => rw [submissions, List.length_cons, ih, List.length_cons]

/-- **Submissions in frame.** In every run the loop writes one submission for each request
it sends, in order, and the server's reader returns exactly these and stops at the end if
and only if no request for an IN endpoint carries data. -/
theorem submissions_framed_iff (devid : UInt32) (chunks : List (List UInt8)) (as : List Action)
    (s : ForwardLoop) (hrun : Transition.run step (start devid chunks) as = some s)
    (hlen : ∀ r ∈ sentRequests as, r.data.length ≤ 65536) :
    s.written = submissions devid 1 (sentRequests as) ∧
      (items readUrbMessage (sentRequests as).length (s.written.foldl writeUrbMessage []) =
          .ok (s.written, []) ↔ ∀ r ∈ sentRequests as, InFrame r) := by
  have hwritten : s.written = submissions devid 1 (sentRequests as) := run_written hrun
  have hframe : (∀ m ∈ submissions devid 1 (sentRequests as), m.WellFormed) ↔
      ∀ r ∈ sentRequests as, InFrame r :=
    forall_mem_submissions (fun r hr seqnum => wellFormed_submission_iff (hlen r hr) devid seqnum) 1
  have hitems := items_readUrbMessage_iff (submissions devid 1 (sentRequests as)) []
  rw [length_submissions, List.append_nil] at hitems
  exact ⟨hwritten, by rw [hwritten, hitems, hframe]⟩

/-- Two requests: output for endpoint 2, and an input request without data. -/
def sampleRequests : List PendingRequest :=
  [ { deviceId := 0, endpoint := 0x02, requestId := 5, data := [1, 2, 3] },
    { deviceId := 0, endpoint := 0x81, requestId := 6, data := [] } ]

theorem submissions_framed_sampleRequests :
    ∃ s, Transition.run step (start 0 [])
        (sampleRequests.map fun r => .tick (.request r) true) = some s ∧
      items readUrbMessage 2 (s.written.foldl writeUrbMessage []) = .ok (s.written, []) := by
  obtain ⟨s, hrun, -⟩ := Transition.exists_run_of_any step (start 0 [])
    (sampleRequests.map fun r => .tick (.request r) true) (fun _ => True) (by decide +kernel)
  refine ⟨s, hrun, ?_⟩
  exact (submissions_framed_iff 0 [] _ s hrun (by decide)).2.mpr (by decide)

/-- An input request with one byte of data: the server reads a submission without it, and
the byte is left over. -/
theorem submission_out_of_frame :
    ¬ ∀ (devid : UInt32) (chunks : List (List UInt8)) (as : List Action) (s : ForwardLoop),
      Transition.run step (start devid chunks) as = some s →
      (∀ r ∈ sentRequests as, r.data.length ≤ 65536) →
      items readUrbMessage (sentRequests as).length (s.written.foldl writeUrbMessage []) =
        .ok (s.written, []) := by
  intro hall
  obtain ⟨s, hrun, hlost⟩ := Transition.exists_run_of_any step (start 0 [])
    [.tick (.request { deviceId := 0, endpoint := 0x81, requestId := 6, data := [7] }) true]
    (fun s => items readUrbMessage 1 (s.written.foldl writeUrbMessage []) ≠ .ok (s.written, []))
    (by decide +kernel)
  exact hlost (hall 0 [] _ s hrun (by decide))

/-! ### Which answer completes which request -/

/-- The request `requestId` was sent under `seqnum`, at some time of the run. -/
def Assigned (journal : List Event) (seqnum requestId : UInt32) : Prop :=
  ∃ r cmd, .took r [.cmdSubmit cmd] ∈ journal ∧ cmd.header.seqnum = seqnum ∧
    r.requestId = requestId

/-- A return with this number has completed a request; a second one finds no entry any
more. -/
def Used (journal : List Event) (seqnum : UInt32) : Prop :=
  ∃ ret calls, .received (.retSubmit ret) calls ∈ journal ∧ ret.header.seqnum = seqnum ∧
    calls ≠ []

/-- `call` completes the request sent under the number of `ret` with what `ret` carries. -/
structure Completes (devid : UInt32) (before : List Event) (ret : RetSubmit)
    (call : CompleteRequest) : Prop where
  assigned : Assigned before ret.header.seqnum call.requestId
  unused : ¬ Used before ret.header.seqnum
  device : call.deviceId = devid
  data : call.data = ret.transferBuffer
  status : call.status = 0 ↔ ret.status = 0

/-- An entry of the journal in view of those before it. A request is sent at most once and
under a number no request before it has; a message completes at most one request, which it
answers and which was not completed before, and completes it if there is one. -/
def PairedAt (devid : UInt32) (before : List Event) : Event → Prop
  | .took _ written => written = [] ∨ ∃ cmd, written = [.cmdSubmit cmd] ∧
      ∀ requestId, ¬ Assigned before cmd.header.seqnum requestId
  | .received msg calls =>
      (calls = [] ∧ ∀ ret requestId, msg = .retSubmit ret →
        Assigned before ret.header.seqnum requestId → Used before ret.header.seqnum) ∨
      ∃ ret call, msg = .retSubmit ret ∧ calls = [call] ∧ Completes devid before ret call

theorem lookup_removePending (pending : List (UInt32 × UInt32)) (seqnum q : UInt32) :
    (removePending pending seqnum).lookup q = if q = seqnum then none else pending.lookup q := by
  induction pending with
  | nil => simp [removePending]
  | cons entry pending ih =>
      obtain ⟨key, requestId⟩ := entry
      unfold removePending at ih ⊢
      by_cases hkey : key = seqnum
      · subst hkey
        rw [List.filter_cons_of_neg (by simp), ih]
        by_cases hq : q = key
        · rw [if_pos hq, if_pos hq]
        · have hne : (q == key) = false := beq_false_of_ne hq
          rw [if_neg hq, if_neg hq, List.lookup_cons, hne]
      · rw [List.filter_cons_of_pos (by simpa using hkey), List.lookup_cons, List.lookup_cons]
        by_cases hq : q = key
        · subst hq
          rw [beq_self_eq_true, if_neg hkey]
        · have hne : (q == key) = false := beq_false_of_ne hq
          rw [hne]
          exact ih

theorem lookup_insertPending (pending : List (UInt32 × UInt32)) (seqnum requestId q : UInt32) :
    (insertPending pending seqnum requestId).lookup q =
      if q = seqnum then some requestId else pending.lookup q := by
  have hremove := lookup_removePending pending seqnum q
  unfold removePending at hremove
  unfold insertPending
  rw [List.lookup_cons]
  by_cases hq : q = seqnum
  · subst hq
    rw [beq_self_eq_true, if_pos rfl]
  · have hne : (q == seqnum) = false := beq_false_of_ne hq
    rw [hne, hremove, if_neg hq, if_neg hq]

/-- The numbers in use are `1, 2, ..`, and the table holds the requests that were sent and
not completed. -/
structure Tracked (s : ForwardLoop) (journal : List Event) : Prop where
  numbered : Indexed.All s.written fun i m => m.header.seqnum = UInt32.ofNat (i + 1)
  next : s.exited = none → s.nextSeqnum = UInt32.ofNat (s.written.length + 1)
  assigned : ∀ q requestId, Assigned journal q requestId → ∃ m ∈ s.written, m.header.seqnum = q
  used : ∀ q, Used journal q → ∃ requestId, Assigned journal q requestId
  pending : s.exited = none → ∀ q requestId, s.pending.lookup q = some requestId ↔
    Assigned journal q requestId ∧ ¬ Used journal q

section Append

variable {journal : List Event} {q requestId : UInt32}

theorem assigned_took (r : PendingRequest) (cmd : CmdSubmit) :
    Assigned (journal ++ [.took r [.cmdSubmit cmd]]) q requestId ↔
      Assigned journal q requestId ∨ (cmd.header.seqnum = q ∧ r.requestId = requestId) := by
  simp only [Assigned, List.mem_append, List.mem_singleton]
  constructor
  · rintro ⟨r', cmd', hmem | hlast, hrest⟩
    · exact Or.inl ⟨r', cmd', hmem, hrest⟩
    · cases hlast
      exact Or.inr hrest
  · rintro (⟨r', cmd', hmem, hrest⟩ | hlast)
    · exact ⟨r', cmd', Or.inl hmem, hrest⟩
    · exact ⟨r, cmd, Or.inr rfl, hlast⟩

theorem assigned_of_not_took {e : Event} (he : ∀ r cmd, e ≠ .took r [.cmdSubmit cmd]) :
    Assigned (journal ++ [e]) q requestId ↔ Assigned journal q requestId := by
  simp only [Assigned, List.mem_append, List.mem_singleton]
  constructor
  · rintro ⟨r, cmd, hmem | hlast, hrest⟩
    · exact ⟨r, cmd, hmem, hrest⟩
    · exact absurd hlast.symm (he r cmd)
  · rintro ⟨r, cmd, hmem, hrest⟩
    exact ⟨r, cmd, Or.inl hmem, hrest⟩

theorem used_received (msg : UrbMessage) (calls : List CompleteRequest) :
    Used (journal ++ [.received msg calls]) q ↔
      Used journal q ∨ ∃ ret, msg = .retSubmit ret ∧ ret.header.seqnum = q ∧ calls ≠ [] := by
  simp only [Used, List.mem_append, List.mem_singleton]
  constructor
  · rintro ⟨ret, calls', hmem | hlast, hrest⟩
    · exact Or.inl ⟨ret, calls', hmem, hrest⟩
    · cases hlast
      exact Or.inr ⟨ret, rfl, hrest⟩
  · rintro (⟨ret, calls', hmem, hrest⟩ | ⟨ret, rfl, hrest⟩)
    · exact ⟨ret, calls', Or.inl hmem, hrest⟩
    · exact ⟨ret, calls, Or.inr rfl, hrest⟩

theorem used_took (r : PendingRequest) (written : List UrbMessage) :
    Used (journal ++ [.took r written]) q ↔ Used journal q := by
  simp only [Used, List.mem_append, List.mem_singleton]
  constructor
  · rintro ⟨ret, calls, hmem | hlast, hrest⟩
    · exact ⟨ret, calls, hmem, hrest⟩
    · cases hlast
  · rintro ⟨ret, calls, hmem, hrest⟩
    exact ⟨ret, calls, Or.inl hmem, hrest⟩

end Append

namespace Tracked

variable {s : ForwardLoop} {journal : List Event}

/-- The next number is not in use, as long as the numbers have not wrapped around. -/
theorem fresh (h : Tracked s journal) (hrunning : s.exited = none)
    (hcount : s.written.length + 1 < 2 ^ 32) (requestId : UInt32) :
    ¬ Assigned journal s.nextSeqnum requestId := by
  intro hassigned
  obtain ⟨m, hm, hseqnum⟩ := h.assigned _ _ hassigned
  obtain ⟨i, hi⟩ := List.mem_iff_getElem?.mp hm
  have hlt : i < s.written.length := (List.getElem?_eq_some_iff.mp hi).1
  rw [h.numbered i m hi, h.next hrunning] at hseqnum
  have hnat := congrArg UInt32.toNat hseqnum
  rw [UInt32.toNat_ofNat', UInt32.toNat_ofNat', Nat.mod_eq_of_lt (by omega),
    Nat.mod_eq_of_lt hcount] at hnat
  omega

/-- A message is answered exactly as the table says. -/
theorem received (h : Tracked s journal) (hrunning : s.exited = none) (msg : UrbMessage) :
    PairedAt s.devid journal (.received msg (s.answer msg)) := by
  cases msg with
  | retSubmit ret =>
      have htable := h.pending hrunning ret.header.seqnum
      cases hfound : s.pending.lookup ret.header.seqnum with
      | none =>
          refine Or.inl ⟨by simp only [answer, hfound], ?_⟩
          intro ret' requestId heq hassigned
          cases heq
          by_contra hunused
          rw [(htable requestId).mpr ⟨hassigned, hunused⟩] at hfound
          cases hfound
      | some requestId =>
          obtain ⟨hassigned, hunused⟩ := (htable requestId).mp hfound
          refine Or.inr ⟨ret, _, rfl, by simp only [answer, hfound]; rfl,
            hassigned, hunused, rfl, rfl, ?_⟩
          by_cases hok : ret.status = 0
          · simp [hok]
          · simp only [hok, if_false, iff_false]
            decide
  | cmdSubmit _ => exact Or.inl ⟨rfl, fun ret _ h _ => nomatch h⟩
  | cmdUnlink _ => exact Or.inl ⟨rfl, fun ret _ h _ => nomatch h⟩
  | retUnlink _ => exact Or.inl ⟨rfl, fun ret _ h _ => nomatch h⟩

/-- What the table says of a number after a message. -/
theorem pending_received (h : Tracked s journal) (hrunning : s.exited = none)
    (msg : UrbMessage) (q requestId : UInt32) :
    (s.settled msg).lookup q = some requestId ↔
      Assigned journal q requestId ∧ ¬ (Used journal q ∨
        ∃ ret, msg = .retSubmit ret ∧ ret.header.seqnum = q ∧ s.answer msg ≠ []) := by
  have htable := h.pending hrunning q requestId
  cases msg with
  | retSubmit ret =>
      rw [settled, lookup_removePending]
      by_cases hq : q = ret.header.seqnum
      · -- the entry is gone: either it was not there, or it has just been used
        subst hq
        rw [if_pos rfl]
        constructor
        · intro hnone
          cases hnone
        · rintro ⟨hassigned, hunused⟩
          have hfound := htable.mpr ⟨hassigned, fun hu => hunused (Or.inl hu)⟩
          refine absurd (Or.inr ⟨ret, rfl, rfl, ?_⟩) hunused
          simp [answer, hfound]
      · rw [if_neg hq, htable]
        constructor
        · rintro ⟨hassigned, hunused⟩
          refine ⟨hassigned, ?_⟩
          rintro (hu | ⟨ret', heq, hseqnum, -⟩)
          · exact hunused hu
          · cases heq
            exact hq hseqnum.symm
        · rintro ⟨hassigned, hunused⟩
          exact ⟨hassigned, fun hu => hunused (Or.inl hu)⟩
  | cmdSubmit _ => simpa [settled] using htable
  | cmdUnlink _ => simpa [settled] using htable
  | retUnlink _ => simpa [settled] using htable

theorem after_received (h : Tracked s journal) (hrunning : s.exited = none) (msg : UrbMessage)
    (inbound : Inbound) :
    Tracked
      { s with inbound, handled := s.handled ++ [msg], pending := s.settled msg
               completed := s.completed ++ s.answer msg }
      (journal ++ [.received msg (s.answer msg)]) := by
  have hassigned : ∀ q requestId, Assigned (journal ++ [.received msg (s.answer msg)]) q
      requestId ↔ Assigned journal q requestId :=
    fun q requestId => assigned_of_not_took fun r cmd heq => nomatch heq
  refine ⟨h.numbered, h.next, ?_, ?_, ?_⟩
  · intro q requestId hq
    exact h.assigned q requestId ((hassigned q requestId).mp hq)
  · intro q hq
    simp only [hassigned]
    rcases (used_received msg _).mp hq with hu | ⟨ret, rfl, rfl, hcalls⟩
    · exact h.used q hu
    · rcases h.received hrunning (.retSubmit ret) with ⟨hnone, -⟩ | ⟨ret', call, heq, -, hc⟩
      · exact absurd hnone hcalls
      · cases heq
        exact ⟨call.requestId, hc.assigned⟩
  · intro _ q requestId
    rw [hassigned, used_received]
    exact h.pending_received hrunning msg q requestId

theorem after_submitted (h : Tracked s journal) (hrunning : s.exited = none)
    (hcount : s.written.length + 1 < 2 ^ 32) (r : PendingRequest) :
    Tracked
      { s with inbound := s.inbound.cancel, nextSeqnum := s.nextSeqnum + 1
               pending := insertPending s.pending s.nextSeqnum r.requestId
               written := s.written ++ [.cmdSubmit (submissionOf s.devid s.nextSeqnum r)] }
      (journal ++ [.took r [.cmdSubmit (submissionOf s.devid s.nextSeqnum r)]]) := by
  have hfresh := h.fresh hrunning hcount
  refine ⟨h.numbered.append (h.next hrunning), ?_, ?_, ?_, ?_⟩
  · intro _
    show s.nextSeqnum + 1 = _
    rw [h.next hrunning, List.length_append, List.length_singleton]
    exact (UInt32.ofNat_add _ _).symm
  · intro q requestId hq
    rcases (assigned_took r _).mp hq with hq | ⟨hq, -⟩
    · obtain ⟨m, hm, hseqnum⟩ := h.assigned q requestId hq
      exact ⟨m, List.mem_append_left _ hm, hseqnum⟩
    · exact ⟨_, List.mem_append_right _ List.mem_cons_self, hq⟩
  · intro q hq
    obtain ⟨requestId, hassigned⟩ := h.used q ((used_took r _).mp hq)
    exact ⟨requestId, (assigned_took r _).mpr (Or.inl hassigned)⟩
  · intro _ q requestId
    rw [assigned_took, used_took]
    show (insertPending s.pending s.nextSeqnum r.requestId).lookup q = _ ↔
      (_ ∨ (s.nextSeqnum = q ∧ _)) ∧ _
    rw [lookup_insertPending]
    by_cases hq : q = s.nextSeqnum
    · subst hq
      have hunused : ¬ Used journal s.nextSeqnum := by
        intro hu
        obtain ⟨requestId', hassigned⟩ := h.used _ hu
        exact hfresh requestId' hassigned
      simp [hfresh requestId, hunused]
    · rw [if_neg hq, h.pending hrunning]
      simp [Ne.symm hq]

/-- One step keeps the table and the numbers right, and its journal entry is paired. -/
theorem moves {s' : ForwardLoop} {a : Action} {events : List Event} (h : Tracked s journal)
    (hrunning : s.exited = none) (hmoves : Moves s a events s')
    (hcount : s'.written.length < 2 ^ 32) :
    Tracked s' (journal ++ events) ∧
      (events = [] ∨ ∃ e, events = [e] ∧ PairedAt s.devid journal e) := by
  cases hmoves with
  | quiet inbound exited hsent =>
      rw [List.append_nil]
      exact ⟨⟨h.numbered, fun _ => h.next hrunning, h.assigned, h.used,
        fun _ => h.pending hrunning⟩, Or.inl rfl⟩
  | received msg inbound =>
      exact ⟨h.after_received hrunning msg inbound,
        Or.inr ⟨_, rfl, h.received hrunning msg⟩⟩
  | submitted r =>
      simp only [List.length_append, List.length_singleton] at hcount
      exact ⟨h.after_submitted hrunning hcount r,
        Or.inr ⟨_, rfl, Or.inr ⟨_, rfl, h.fresh hrunning hcount⟩⟩⟩
  | unsent r pending =>
      -- the loop has ended: nothing is asked of the table any more
      have hassigned : ∀ q requestId, Assigned (journal ++ [.took r []]) q requestId ↔
          Assigned journal q requestId :=
        fun q requestId => assigned_of_not_took fun r cmd heq => nomatch heq
      refine ⟨⟨h.numbered, ?_, ?_, ?_, ?_⟩, Or.inr ⟨_, rfl, Or.inl rfl⟩⟩
      · intro hnone
        cases hnone
      · intro q requestId hq
        exact h.assigned q requestId ((hassigned q requestId).mp hq)
      · intro q hq
        simp only [hassigned]
        exact h.used q ((used_took r _).mp hq)
      · intro hnone
        cases hnone

end Tracked

/-- The journal holds every call and every message written, and is paired; this is what a step
keeps. -/
structure Accounted (devid : UInt32) (s : ForwardLoop) (journal : List Event) : Prop where
  completed : s.completed = journal.flatMap Event.calls
  written : s.written = journal.flatMap Event.messages
  paired : Transition.Justified (PairedAt devid) journal

theorem Moves.frame {s s' : ForwardLoop} {a : Action} {events : List Event}
    (h : Moves s a events s') :
    s'.devid = s.devid ∧ s'.completed = s.completed ++ events.flatMap Event.calls ∧
      s'.written = s.written ++ events.flatMap Event.messages := by
  cases h with
  | quiet inbound exited hsent => simp
  | received msg inbound => simp [Event.calls, Event.messages]
  | submitted r => simp [Event.calls, Event.messages]
  | unsent r pending => simp [Event.calls, Event.messages]

/-- **Completion pairing.** For every stream of bytes the server sends, every sequence of
requests and every interleaving, with fewer than `2 ^ 32` submissions: each completion is
called for a return with the number of a request sent before and not completed yet, with
the payload of that return and its status, and no two requests have one number. -/
theorem completions_paired (devid : UInt32) (chunks : List (List UInt8)) (as : List Action)
    (s : ForwardLoop) (hrun : Transition.run step (start devid chunks) as = some s)
    (hcount : s.written.length < 2 ^ 32) :
    ∃ journal, Transition.run (Transition.recorded step observe) (start devid chunks, []) as =
        some (s, journal) ∧ Accounted devid s journal := by
  obtain ⟨journal, hrecorded⟩ := Transition.exists_recorded observe [] hrun
  refine ⟨journal, hrecorded, ?_⟩
  have hkept := Transition.run_invariant_of_step
    (fun sj : ForwardLoop × List Event => sj.1.devid = devid ∧ (sj.1.written.length < 2 ^ 32 →
      Tracked sj.1 sj.2 ∧ Accounted devid sj.1 sj.2)) ?_ ?_ hrecorded
  · exact (hkept.2 hcount).2
  · rintro ⟨s, journal⟩ a ⟨s', journal'⟩ ⟨hdevid, hinv⟩ hstep
    obtain ⟨mid, hmid, heq⟩ := Option.map_eq_some_iff.mp hstep
    cases heq
    obtain ⟨hrunning, hmoves⟩ := moves_of_step hmid
    obtain ⟨hsame, hcompleted, hwritten⟩ := hmoves.frame
    refine ⟨hsame.trans hdevid, fun hcount => ?_⟩
    have hbefore : s.written.length < 2 ^ 32 := by
      rw [hwritten, List.length_append] at hcount
      omega
    obtain ⟨htracked, haccounted⟩ := hinv hbefore
    obtain ⟨hnext, hentry⟩ := htracked.moves hrunning hmoves hcount
    refine ⟨hnext, ?_, ?_, ?_⟩
    · rw [hcompleted, haccounted.completed, List.flatMap_append]
    · rw [hwritten, haccounted.written, List.flatMap_append]
    · rw [hdevid] at hentry
      rcases hentry with hnone | ⟨e, hone, hpaired⟩
      · rw [hnone, List.append_nil]
        exact haccounted.paired
      · rw [hone]
        exact haccounted.paired.concat hpaired
  · refine ⟨rfl, fun _ => ⟨⟨?_, fun _ => rfl, ?_, ?_, ?_⟩, rfl, rfl, .nil _⟩⟩
    · intro i m hm
      cases hm
    · rintro q requestId ⟨r, cmd, hmem, -⟩
      cases hmem
    · rintro q ⟨ret, calls, hmem, -⟩
      cases hmem
    · intro _ q requestId
      constructor
      · intro hnone
        cases hnone
      · rintro ⟨⟨r, cmd, hmem, -⟩, -⟩
        cases hmem

/-- An answer under `seqnum`. -/
def answerUnder (seqnum : UInt32) (status : Int32) : UrbMessage :=
  .retSubmit
    { header := { command := 3, seqnum, devid := 0, direction := 1, ep := 1 }
      status, actualLength := 1, startFrame := 0, numberOfPackets := 0xFFFFFFFF
      errorCount := 0, transferBuffer := [7], isoPacketDescriptors := [] }

/-- Two requests, and answers to the second one, twice, and to none: one completion. -/
theorem completions_paired_secondOnly :
    ∃ s journal, Transition.run (Transition.recorded step observe)
        (start 0 ([answerUnder 2 0, answerUnder 2 0, answerUnder 9 0].map UrbMessage.encode), [])
        (sampleRequests.map (fun r => .tick (.request r) true) ++
          [.arrive, .poll, .arrive, .poll, .arrive, .poll]) = some (s, journal) ∧
      s.completed = [{ deviceId := 0, requestId := 6, status := 0, data := [7] }] ∧
      Accounted 0 s journal := by
  obtain ⟨s, hrun, hcompleted, hcount⟩ := Transition.exists_run_of_any step
    (start 0 ([answerUnder 2 0, answerUnder 2 0, answerUnder 9 0].map UrbMessage.encode))
    (sampleRequests.map (fun r => .tick (.request r) true) ++
      [.arrive, .poll, .arrive, .poll, .arrive, .poll])
    (fun s => s.completed = [{ deviceId := 0, requestId := 6, status := 0, data := [7] }] ∧
      s.written.length < 2 ^ 32)
    (by decide +kernel)
  obtain ⟨journal, hrecorded, haccounted⟩ := completions_paired 0 _ _ s hrun hcount
  exact ⟨s, journal, hrecorded, hcompleted, haccounted⟩

end Extender.Client.ForwardLoop
