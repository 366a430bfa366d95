/-
Reports the host asks for (`getReport` and `setReport` of `ExtenderVirtualHID.cpp`).

A request goes into two structures of different size, the pending ring and the table of
requests in flight, one after the other. When the second is full the host is told that the
request failed, and the entry stays in the first: the daemon will take it, and the device at
the other end will carry out a report that its sender believes was refused.

Both methods end in the same two steps (`forward`). What a request can do is said once, as a
relation with three cases (`Outcome`): it is refused, it is stranded in the ring, or it is in
both structures. Everything else is derived from these.

The device over time takes requests of the host, the daemon's calls that empty the ring, and
its completions, in any order. A journal records what the host was told is on its way and what
the daemon was sent, and the counters of the ring are sound along every run, so that the ring
is the queue of `PendingRing`.

* `handle_cases` — what a request can do: nothing, a push only, or both.
* `traceless_iff` — one request, in any state with a sound ring.
* `requests_traceless_iff` — a request that fails leaves no trace, unless the ring has room
  and the table has none; as long as that does not happen, the daemon is sent exactly what the
  host was told is on its way.
* `refused_request_queued` — the seventeenth request in flight is refused, and sent.
-/

import Extender.Driver.PendingRing
import Extender.Lib.Transition

namespace Extender.Driver

open BigEndian

/-! ### Requests -/

/-- A request of the host, with the memory its report lies in. -/
inductive HidRequest where
  | getReport (report : Option MemoryDescriptor) (reportType : UInt32) (action : Option Nat)
  | setReport (memory : Memory) (tmp : Bytes maxTransferSize) (report : Option MemoryDescriptor)
      (action : Option Nat)

namespace HidRequest

/-- The length of the report that is to be set. -/
def reportLength : HidRequest → UInt64
  | .getReport _ _ _ => 0
  | .setReport _ _ report _ => (report.map MemoryDescriptor.length).getD 0

/-- The report is longer than an entry can be, which `setReport` checks before anything
else. -/
def Oversize (r : HidRequest) : Prop := r.reportLength.toNat > maxTransferSize

instance (r : HidRequest) : Decidable r.Oversize := inferInstanceAs (Decidable (_ > _))

/-- The bytes that are queued for it: two bytes for a report that is wanted, else what was
copied. -/
def payload : HidRequest → List UInt8
  | .getReport _ reportType _ => [reportType.toUInt8, 0]
  | .setReport memory tmp report _ =>
      let length := (report.map MemoryDescriptor.length).getD 0
      if length > 0 then
        HidIVars.reportBytes memory tmp length (report.bind MemoryDescriptor.mapping)
      else []

theorem length_reportBytes_le (memory : Memory) (tmp : Bytes maxTransferSize) (length : UInt64)
    (mapping : Option (UInt64 × UInt64)) :
    (HidIVars.reportBytes memory tmp length mapping).length ≤ length.toNat := by
  unfold HidIVars.reportBytes
  split
  · exact Nat.zero_le _
  · rename_i mapped mappedLen
    have hcopied : (if length < mappedLen then length else mappedLen).toNat ≤ length.toNat := by
      split
      · exact Nat.le_refl _
      · exact UInt64.le_iff_toNat_le.mp (UInt64.not_lt.mp ‹_›)
    generalize (if length < mappedLen then length else mappedLen) = copied at hcopied
    simp only
    split
    · rw [Memory.length_read]
      exact hcopied
    · rw [List.length_take]
      exact Nat.le_trans (Nat.min_le_left _ _) hcopied

/-- No more is copied than the report has, and so the payload fits an entry unless the report is
oversize. -/
theorem length_payload_le {r : HidRequest} (h : ¬ r.Oversize) :
    r.payload.length ≤ maxTransferSize := by
  cases r with
  | getReport => exact (by decide : 2 ≤ maxTransferSize)
  | setReport memory tmp report action =>
      have hlength := Nat.not_lt.mp h
      unfold payload
      simp only
      split
      · exact Nat.le_trans (length_reportBytes_le _ _ _ _) hlength
      · exact Nat.zero_le _

end HidRequest

namespace HidIVars

/-- The method a request is for. -/
def handle (ivars : HidIVars) : HidRequest → IOReturn × HidIVars
  | .getReport report reportType action => ivars.getReport report reportType action
  | .setReport memory tmp report action => ivars.setReport memory tmp report action

/-- A slot of the table is free, so that a request can be tracked. -/
def HasFreeSlot (ivars : HidIVars) : Prop := ∃ i, (ivars.inFlight i).valid = false

instance (ivars : HidIVars) : Decidable ivars.HasFreeSlot := inferInstanceAs (Decidable (∃ _, _))

/-- What `trackInFlight` does: nothing, or it fills a free slot. -/
theorem trackInFlight_cases (ivars : HidIVars) (requestId : UInt32) (action report : Option Nat)
    (isGetReport : Bool) :
    (ivars.trackInFlight requestId action report isGetReport = none ∧ ¬ ivars.HasFreeSlot) ∨
    ∃ slot, (ivars.inFlight slot).valid = false ∧
      ivars.trackInFlight requestId action report isGetReport =
        some { ivars with
          inFlight := Function.update ivars.inFlight slot
            { requestId, action, report, isGetReport, valid := true } } := by
  unfold trackInFlight
  cases hfind : (List.finRange inFlightCapacity).find? fun i => !(ivars.inFlight i).valid with
  | none =>
      refine Or.inl ⟨rfl, ?_⟩
      rintro ⟨i, hi⟩
      have hvalid := List.find?_eq_none.mp hfind i (List.mem_finRange i)
      rw [hi] at hvalid
      exact hvalid rfl
  | some slot =>
      refine Or.inr ⟨slot, ?_, rfl⟩
      have hfree := List.find?_some hfind
      rwa [Bool.not_eq_true'] at hfree

/-- The common part of both methods: first the ring, then the table. A full table is noticed
after the push. -/
def forward (ivars : HidIVars) (src : List UInt8) (action report : Option Nat)
    (isGetReport : Bool) : IOReturn × HidIVars :=
  match ivars.enqueuePending 2 src with
  | (0, ivars) => (.noSpace, ivars)
  | (rid, ivars) =>
      match ivars.trackInFlight rid action report isGetReport with
      | none => (.noResources, ivars)
      | some ivars => (.success, ivars)

/-- A request that is not oversize comes to these two steps. -/
theorem exists_forward (ivars : HidIVars) {r : HidRequest} (h : ¬ r.Oversize) :
    ∃ action report isGetReport,
      ivars.handle r = ivars.forward r.payload action report isGetReport := by
  cases r with
  | getReport report reportType action =>
      exact ⟨action, report.map MemoryDescriptor.id, true, rfl⟩
  | setReport memory tmp report action =>
      exact ⟨action, report.map MemoryDescriptor.id, false, if_neg h⟩

/-- What a request can do, with the condition of each case: it is refused, stranded in the
ring, or accepted. -/
inductive Outcome (ivars : HidIVars) (r : HidRequest) : IOReturn × HidIVars → Prop where
  | refused : r.Oversize ∨ maxPendingOutputs ≤ ivars.ring.pendingCount.toNat →
      Outcome ivars r (.noSpace, ivars)
  | stranded (rid next : UInt32) (h : r.payload.length ≤ maxTransferSize) : ¬ r.Oversize →
      ivars.ring.pendingCount.toNat < maxPendingOutputs → ¬ ivars.HasFreeSlot →
      Outcome ivars r
        (.noResources,
          { ivars with ring := ivars.ring.push 2 rid r.payload h, nextRequestId := next })
  | accepted (rid next : UInt32) (h : r.payload.length ≤ maxTransferSize)
      (slot : Fin inFlightCapacity) (entry : InFlightEntry) :
      rid ≠ 0 → ivars.ring.pendingCount.toNat < maxPendingOutputs →
      (ivars.enqueuePending 2 r.payload).1 = rid →
      (ivars.inFlight slot).valid = false → entry.valid = true → entry.requestId = rid →
      Outcome ivars r
        (.success,
          { ivars with
            ring := ivars.ring.push 2 rid r.payload h, nextRequestId := next
            inFlight := Function.update ivars.inFlight slot entry })

/-- A report that is too long is refused before anything is queued. -/
theorem handle_oversize (ivars : HidIVars) {r : HidRequest} (h : r.Oversize) :
    ivars.handle r = (.noSpace, ivars) := by
  cases r with
  | getReport => exact absurd h (Nat.not_lt.mpr (Nat.zero_le _))
  | setReport => exact if_pos h

/-- A request is refused, is queued without being tracked, or is queued and tracked, and what
decides it is stated in each case. -/
theorem handle_cases (ivars : HidIVars) (r : HidRequest) : Outcome ivars r (ivars.handle r) := by
  by_cases hover : r.Oversize
  · rw [ivars.handle_oversize hover]
    exact .refused (Or.inl hover)
  · obtain ⟨action, report, isGetReport, hforward⟩ := ivars.exists_forward hover
    rw [hforward]
    unfold forward
    rcases ivars.enqueuePending_cases 2 r.payload with
      ⟨heq, hrefused⟩ | ⟨rid, next, hrid, hlen, hroom, heq⟩
    · rw [heq]
      exact .refused (Or.inr (hrefused.resolve_left (not_not.mpr (r.length_payload_le hover))))
    · have hqueued : (ivars.enqueuePending 2 r.payload).1 = rid := by rw [heq]
      rw [heq]
      split
      · rename_i hzero
        exact absurd (Prod.mk.inj hzero).1 hrid
      · rename_i rid' pushed _ hpair
        obtain ⟨rfl, rfl⟩ := Prod.mk.inj hpair
        rcases trackInFlight_cases _ rid action report isGetReport with
          ⟨htrack, hfull⟩ | ⟨slot, hfree, htrack⟩
        · rw [htrack]
          exact .stranded rid next hlen hover hroom hfull
        · rw [htrack]
          exact .accepted rid next hlen slot _ hrid hroom hqueued hfree rfl rfl

/-! ### Traces -/

/-- If the request fails, the ring and the table are as before; if it succeeds, each has one
entry more, under the same id. -/
structure Traceless (ivars : HidIVars) (r : HidRequest) : Prop where
  failed : (ivars.handle r).1 ≠ .success →
    (ivars.handle r).2.ring = ivars.ring ∧ (ivars.handle r).2.inFlight = ivars.inFlight
  succeeded : (ivars.handle r).1 = .success → ∃ rid : UInt32, rid ≠ 0 ∧
    (∃ e : PendingOutputEntry, e.requestId = rid ∧
      (ivars.handle r).2.ring.entries = ivars.ring.entries ++ [e]) ∧
    ∃ slot entry, (ivars.inFlight slot).valid = false ∧ entry.valid = true ∧
      entry.requestId = rid ∧
      (ivars.handle r).2.inFlight = Function.update ivars.inFlight slot entry

/-- The request is not one that fits into the ring and not into the table. -/
def Fitting (ivars : HidIVars) (r : HidRequest) : Prop :=
  r.Oversize ∨ maxPendingOutputs ≤ ivars.ring.pendingCount.toNat ∨ ivars.HasFreeSlot

instance (ivars : HidIVars) (r : HidRequest) : Decidable (ivars.Fitting r) :=
  inferInstanceAs (Decidable (_ ∨ _ ∨ _))

theorem not_fitting {ivars : HidIVars} {r : HidRequest} (hover : ¬ r.Oversize)
    (hroom : ivars.ring.pendingCount.toNat < maxPendingOutputs) (hfull : ¬ ivars.HasFreeSlot) :
    ¬ ivars.Fitting r := by
  rintro (hover' | hfull' | hfree)
  · exact hover hover'
  · exact Nat.not_le.mpr hroom hfull'
  · exact hfull hfree

/-- A request leaves no trace when it fails iff it is not one that fits the ring and not the
table. -/
theorem traceless_iff {ivars : HidIVars} (h : ivars.ring.Sound) (r : HidRequest) :
    ivars.Traceless r ↔ ivars.Fitting r := by
  have hcases := ivars.handle_cases r
  constructor
  · intro htraceless
    have hfailed := htraceless.failed
    generalize ivars.handle r = result at hcases hfailed
    cases hcases with
    | refused hrefused => exact hrefused.imp_right Or.inl
    | stranded rid next hlen hover hroom hfull =>
        obtain ⟨-, hentries⟩ := h.push hroom 2 rid hlen
        have hsame := congrArg OutputRing.entries (hfailed nofun).1
        rw [hentries] at hsame
        exact absurd hsame (by simp)
    | accepted rid next hlen slot entry _ _ _ hfree => exact Or.inr (Or.inr ⟨slot, hfree⟩)
  · intro hfitting
    constructor
    · intro hne
      generalize ivars.handle r = result at hcases hne ⊢
      cases hcases with
      | refused => exact ⟨rfl, rfl⟩
      | stranded rid next hlen hover hroom hfull =>
          exact absurd hfitting (not_fitting hover hroom hfull)
      | accepted => exact absurd rfl hne
    · intro hsuccess
      generalize ivars.handle r = result at hcases hsuccess ⊢
      cases hcases with
      | refused => cases hsuccess
      | stranded => cases hsuccess
      | accepted rid next hlen slot entry hrid hroom _ hfree hvalid hid =>
          obtain ⟨-, hentries⟩ := h.push hroom 2 rid hlen
          exact ⟨rid, hrid, ⟨_, rfl, hentries⟩, slot, entry, hfree, hvalid, hid, rfl⟩

/-! ### The device over time -/

/-- The host makes a request, the daemon takes an entry as `handleGetPendingOutput` does, or
it completes a request. -/
inductive HidAction where
  | request (r : HidRequest)
  | takeOutput
  | complete (memory : Memory) (mapping : Nat → Option (UInt64 × UInt64)) (requestId : UInt32)
      (status : IOReturn) (payload : Option (List UInt8))

/-- One step of the device. -/
def step (ivars : HidIVars) : HidAction → Option HidIVars
  | .request r => some (ivars.handle r).2
  | .takeOutput => some (ivars.ringCall (.dequeue (UInt32.ofNat maxTransferSize))).2
  | .complete memory mapping requestId status payload =>
      some (ivars.completeRequest memory mapping requestId status payload).2.2

/-- What the host was told is on its way, and what the daemon is sent. -/
def observe (ivars : HidIVars) : HidAction → List RingEvent
  | .request r =>
      if (ivars.handle r).1 = .success then
        [.accepted (.ofRequest 2 (ivars.enqueuePending 2 r.payload).1 r.payload)]
      else []
  | .takeOutput => [(ivars.ringCall (.dequeue (UInt32.ofNat maxTransferSize))).1]
  | .complete _ _ _ _ _ => []

/-- No request of the run fits into the ring and not into the table. -/
def RequestsFit (ivars : HidIVars) : HidAction → Prop
  | .request r => ivars.Fitting r
  | _ => True

instance : ∀ (ivars : HidIVars) (a : HidAction), Decidable (ivars.RequestsFit a)
  | ivars, .request r => inferInstanceAs (Decidable (ivars.Fitting r))
  | _, .takeOutput => isTrue trivial
  | _, .complete _ _ _ _ _ => isTrue trivial

theorem ring_completeRequest (ivars : HidIVars) (memory : Memory)
    (mapping : Nat → Option (UInt64 × UInt64)) (requestId : UInt32) (status : IOReturn)
    (payload : Option (List UInt8)) :
    (ivars.completeRequest memory mapping requestId status payload).2.2.ring = ivars.ring := by
  unfold completeRequest
  split
  · rfl
  · rfl

theorem room_maxTransferSize : maxTransferSize ≤ (UInt32.ofNat maxTransferSize).toNat :=
  Nat.le_refl _

/-- No step of the device confuses the counters of its ring. -/
theorem sound_step {ivars ivars' : HidIVars} {a : HidAction} (h : ivars.ring.Sound)
    (hstep : ivars.step a = some ivars') : ivars'.ring.Sound := by
  cases a with
  | request r =>
      cases hstep
      have hcases := ivars.handle_cases r
      generalize ivars.handle r = result at hcases
      cases hcases with
      | refused => exact h
      | stranded rid next hlen _ hroom => exact (h.push hroom 2 rid hlen).1
      | accepted rid next hlen slot entry _ hroom => exact (h.push hroom 2 rid hlen).1
  | takeOutput =>
      cases hstep
      rcases ivars.ringCall_dequeue_cases room_maxTransferSize with ⟨-, heq⟩ | ⟨hpending, heq⟩
      · rw [heq]
        exact h
      · rw [heq]
        exact (h.pop hpending).1
  | complete memory mapping requestId status payload =>
      cases hstep
      rw [ring_completeRequest]
      exact h

/-- So they agree in every state it reaches, and the ring can be read as a list. -/
theorem sound_run {actions : List HidAction} {ivars : HidIVars}
    (hrun : Transition.run step init actions = some ivars) : ivars.ring.Sound :=
  Transition.run_invariant_of_step (fun s : HidIVars => s.ring.Sound)
    (fun _ _ _ h hstep => sound_step h hstep) OutputRing.sound_zero hrun

/-- The entries in the ring, as they will be sent: under their ids, oldest first. -/
def queued (ivars : HidIVars) : List QueuedOutput :=
  ivars.ring.entries.map PendingOutputEntry.queued

/-- One step: what was in the ring and what is accepted is what is sent and what is in the
ring. -/
theorem queued_step {ivars ivars' : HidIVars} {a : HidAction} (h : ivars.ring.Sound)
    (hfit : ivars.RequestsFit a) (hstep : ivars.step a = some ivars') :
    ivars.queued ++ Fifo.accepted (ivars.observe a) =
      Fifo.taken (ivars.observe a) ++ ivars'.queued := by
  cases a with
  | request r =>
      cases hstep
      have hcases := ivars.handle_cases r
      change ivars.queued ++ Fifo.accepted (if (ivars.handle r).1 = .success then _ else []) =
        Fifo.taken (if (ivars.handle r).1 = .success then _ else []) ++ (ivars.handle r).2.queued
      generalize ivars.handle r = result at hcases
      cases hcases with
      | refused => exact List.append_nil _
      | stranded rid next hlen hover hroom hfull =>
          exact absurd hfit (not_fitting hover hroom hfull)
      | accepted rid next hlen slot entry _ hroom hrid =>
          obtain ⟨-, hentries⟩ := h.push hroom 2 rid hlen
          rw [if_pos rfl, hrid]
          change ivars.queued ++ [_] = (ivars.ring.push 2 rid r.payload hlen).entries.map _
          rw [hentries, List.map_append, List.map_singleton, PendingOutputEntry.queued_fill]
          rfl
  | takeOutput =>
      cases hstep
      change ivars.queued ++ Fifo.accepted [(ivars.ringCall _).1] =
        Fifo.taken [(ivars.ringCall _).1] ++ (ivars.ringCall _).2.queued
      rcases ivars.ringCall_dequeue_cases room_maxTransferSize with
        ⟨-, heq⟩ | ⟨hpending, heq⟩
      · rw [heq]
        exact List.append_nil _
      · rw [heq]
        obtain ⟨-, hentries⟩ := h.pop hpending
        change ivars.ring.entries.map PendingOutputEntry.queued ++ [] = _
        rw [hentries, List.map_cons, List.append_nil]
        rfl
  | complete memory mapping requestId status payload =>
      cases hstep
      change ivars.queued ++ [] = [] ++ List.map _ (HidIVars.ring _).entries
      rw [ring_completeRequest]
      exact List.append_nil _

/-- What the host was told is on its way has been sent or is in the ring. -/
structure Conserved (sj : HidIVars × List RingEvent) : Prop where
  sound : sj.1.ring.Sound
  conserved : Fifo.accepted sj.2 = Fifo.taken sj.2 ++ sj.1.queued

/-- One step, with what it adds to the journal. -/
theorem Conserved.step {sj sj' : HidIVars × List RingEvent} {a : HidAction} (h : Conserved sj)
    (hfit : sj.1.RequestsFit a)
    (hstep : Transition.recorded HidIVars.step observe sj a = some sj') : Conserved sj' := by
  obtain ⟨ivars, journal⟩ := sj
  obtain ⟨ivars', hivars, rfl⟩ := Option.map_eq_some_iff.mp hstep
  refine ⟨sound_step h.sound hivars, ?_⟩
  rw [Fifo.accepted_append, Fifo.taken_append, h.conserved, List.append_assoc,
    queued_step h.sound hfit hivars, List.append_assoc]

/-- **Requests that fail.** In every state the device can reach, a request leaves no trace if
it fails and one entry in each structure if it succeeds, exactly unless the ring has room for
it and the table has none. In a run without such requests, what the daemon has been sent
and what it will be sent is what the host was told is on its way. -/
theorem requests_traceless_iff {actions : List HidAction} {ivars : HidIVars}
    (hrun : Transition.run step init actions = some ivars) :
    (∀ r, ivars.Traceless r ↔ ivars.Fitting r) ∧
    (Transition.Meets step RequestsFit init actions →
      ∃ journal, Transition.run (Transition.recorded step observe) (init, []) actions =
          some (ivars, journal) ∧
        Fifo.accepted journal = Fifo.taken journal ++ ivars.queued) := by
  refine ⟨fun r => traceless_iff (sound_run hrun) r, ?_⟩
  intro hmeets
  obtain ⟨journal, hrecorded⟩ := Transition.exists_recorded observe [] hrun
  have hconserved : Conserved (ivars, journal) := Transition.run_invariant Conserved
    (fun _ _ _ h hfit hstep => h.step hfit hstep) ⟨OutputRing.sound_zero, rfl⟩
    (hmeets.recorded observe []) hrecorded
  exact ⟨journal, hrecorded, hconserved.conserved⟩

/-- The host asks for an input report. -/
def sampleGetReport : HidRequest := .getReport none 1 none

/-- The host sets a report that is longer than an entry of the ring. -/
def sampleSetReport : HidRequest :=
  .setReport (fun _ => 0) ⟨List.replicate maxTransferSize 0, List.length_replicate⟩
    (some { id := 1, length := 65537, mapping := none }) none

/-- Two requests of the host, the first of them sent to the daemon. -/
def sampleHidActions : List HidAction :=
  [.request sampleGetReport, .takeOutput, .request sampleGetReport]

/-- With two requests in flight, a report that is too long is refused without a trace, and
what the host was told is on its way has been sent or is in the ring. -/
theorem requests_traceless_twoInFlight :
    ∃ ivars, Transition.run step init sampleHidActions = some ivars ∧
      (ivars.handle sampleSetReport).1 = .noSpace ∧ ivars.Traceless sampleSetReport ∧
      ivars.queued = [.ofRequest 2 2 [1, 0]] ∧
      ∃ journal, Transition.run (Transition.recorded step observe) (init, []) sampleHidActions =
          some (ivars, journal) ∧
        Fifo.accepted journal = Fifo.taken journal ++ ivars.queued := by
  have hmeets : Transition.Meets step RequestsFit init sampleHidActions := by decide +kernel
  obtain ⟨ivars, hrun, hqueued⟩ := Transition.exists_run_of_any step init sampleHidActions
    (fun ivars => ivars.queued = [.ofRequest 2 2 [1, 0]]) (by decide +kernel)
  have hover : sampleSetReport.Oversize := by decide
  have hrefused : ivars.handle sampleSetReport = (.noSpace, ivars) := ivars.handle_oversize hover
  obtain ⟨htraceless, hjournal⟩ := requests_traceless_iff hrun
  exact ⟨ivars, hrun, congrArg Prod.fst hrefused,
    (htraceless sampleSetReport).mpr (Or.inl hover), hqueued, hjournal hmeets⟩

/-- Sixteen requests in flight, none of them taken or completed. -/
def SixteenInFlight (ivars : HidIVars) : Prop :=
  ¬ ivars.HasFreeSlot ∧ ivars.ring.pendingCount = 16

instance : DecidablePred SixteenInFlight := fun _ => inferInstanceAs (Decidable (_ ∧ _))

/-- The seventeenth request is refused, and its entry is in the ring: the daemon will send it
all the same. -/
theorem refused_request_queued :
    ∃ ivars, Transition.run step init (List.replicate 16 (.request sampleGetReport)) =
        some ivars ∧
      (ivars.handle sampleGetReport).1 = .noResources ∧ ¬ ivars.Traceless sampleGetReport := by
  obtain ⟨ivars, hrun, hfull, hcount⟩ := Transition.exists_run_of_any step init
    (List.replicate 16 (.request sampleGetReport)) SixteenInFlight (by decide +kernel)
  have hover : ¬ sampleGetReport.Oversize := by decide
  have hroom : ivars.ring.pendingCount.toNat < maxPendingOutputs := by
    rw [hcount]
    decide
  have hnot : ¬ ivars.Fitting sampleGetReport := not_fitting hover hroom hfull
  refine ⟨ivars, hrun, ?_, fun h => hnot ((traceless_iff (sound_run hrun) _).mp h)⟩
  have hcases := ivars.handle_cases sampleGetReport
  generalize ivars.handle sampleGetReport = result at hcases
  cases hcases with
  | refused hrefused => exact absurd (hrefused.resolve_left hover) (Nat.not_le.mpr hroom)
  | stranded => rfl
  | accepted _ _ _ slot _ _ _ _ hfree => exact absurd ⟨slot, hfree⟩ hfull

end HidIVars

end Extender.Driver
