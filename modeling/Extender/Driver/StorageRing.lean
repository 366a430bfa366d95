/-
The ring of the storage device (`ExtenderVirtualStorage.cpp`).

`DoAsyncReadWrite` takes a slot of the table of requests in flight, of which there are 16, and
then writes to the ring without asking whether it is full. That the ring has room follows from
who calls what: the OS does not reuse the id of a request it still waits for, and the daemon
completes a request only after it has taken it from the ring. Then every entry of the ring
belongs to a slot of its own, and there are fewer slots than places.

The two conditions are about the environment and are made on each step of a run, in the state
before it (`Orderly`). For this the run carries two sets beside the device: the ids the OS
waits for, and those whose latest request the daemon has taken. No operation of the device
reads them.

The invariant says more than the result needs: an id in the ring is different from the others,
waited for, not yet fetched, and in the table. A completion can then only release a slot whose
entry has left the ring, and a new request has an id that is not in it.

* `Inv` — the ids in the ring are different, waited for, not yet fetched, and in the table.
* `pendingCount_le_card` — different ids have different slots, so they can be counted.
* `orderly_run_room` — the ring never holds more entries than there are slots in use.
-/

import Extender.Driver.PendingRing
import Extender.Lib.Transition
import Mathlib.Data.Finset.Card

namespace Extender.Driver

open BigEndian

namespace OutputRing

/-- The ids of the entries still to be taken. -/
def requestIds (ring : OutputRing) : List UInt32 :=
  ring.entries.map PendingOutputEntry.requestId

@[simp] theorem length_requestIds (ring : OutputRing) :
    ring.requestIds.length = ring.pendingCount.toNat := by
  rw [requestIds, List.length_map, length_entries]

theorem Sound.requestIds_push {ring : OutputRing} (h : ring.Sound)
    (hroom : ring.pendingCount.toNat < maxPendingOutputs) (requestType requestId : UInt32)
    {src : List UInt8} (hsrc : src.length ≤ maxTransferSize) :
    (ring.push requestType requestId src hsrc).requestIds = ring.requestIds ++ [requestId] := by
  obtain ⟨-, hentries⟩ := h.push hroom requestType requestId hsrc
  unfold requestIds
  rw [hentries, List.map_append]
  rfl

theorem Sound.requestIds_pop {ring : OutputRing} (h : ring.Sound)
    (hpending : ring.pendingCount ≠ 0) :
    ring.requestIds = ring.front.requestId :: ring.pop.requestIds := by
  unfold requestIds
  rw [(h.pop hpending).2, List.map_cons]

end OutputRing

namespace StorageIVars

/-- The slots that are in use. -/
def validSlots (ivars : StorageIVars) : Finset (Fin inFlightCapacity) :=
  Finset.univ.filter fun i => (ivars.inFlight i).valid = true

theorem card_validSlots_le (ivars : StorageIVars) :
    ivars.validSlots.card ≤ inFlightCapacity := by
  have hle := ivars.validSlots.card_le_univ
  rwa [Fintype.card_fin] at hle

/-- A slot in use is for this id; more than one could be, as the table does not look. -/
def Tracks (ivars : StorageIVars) (requestId : UInt32) : Prop :=
  ∃ i ∈ ivars.validSlots, (ivars.inFlight i).requestId = requestId

/-- Different ids have different slots, so a ring of tracked ids is no longer than the
table. -/
theorem pendingCount_le_card {ivars : StorageIVars} (hnodup : ivars.ring.requestIds.Nodup)
    (htracked : ∀ id ∈ ivars.ring.requestIds, ivars.Tracks id) :
    ivars.ring.pendingCount.toNat ≤ ivars.validSlots.card := by
  have hsubset : ivars.ring.requestIds.toFinset ⊆
      ivars.validSlots.image fun i => (ivars.inFlight i).requestId := by
    intro id hid
    obtain ⟨i, hi, heq⟩ := htracked id (List.mem_toFinset.mp hid)
    exact Finset.mem_image.mpr ⟨i, hi, heq⟩
  calc ivars.ring.pendingCount.toNat
      = ivars.ring.requestIds.toFinset.card := by
        rw [List.toFinset_card_of_nodup hnodup, OutputRing.length_requestIds]
    _ ≤ (ivars.validSlots.image fun i => (ivars.inFlight i).requestId).card :=
        Finset.card_le_card hsubset
    _ ≤ ivars.validSlots.card := Finset.card_image_le

/-! ### What the operations do -/

/-- A request is refused, or takes a free slot of the table and the next place of the ring. -/
theorem doAsyncReadWrite_cases (ivars : StorageIVars) (memory : Memory) (stack : Bytes 16)
    (r : ReadWrite) :
    (∃ io, io.requestId = r.requestId ∧
      ivars.doAsyncReadWrite memory stack r = (some io, ivars)) ∨
    ∃ slot entry, ivars.freeSlot = some slot ∧ (ivars.inFlight slot).valid = false ∧
      entry.valid = true ∧ entry.requestId = r.requestId ∧
      ivars.doAsyncReadWrite memory stack r =
        (none,
          { inFlight := Function.update ivars.inFlight slot entry
            ring := ivars.ring.push (if r.isRead then 0 else 1) r.requestId
              (r.scratchBytes memory stack) (r.length_scratchBytes_le memory stack) }) := by
  unfold doAsyncReadWrite
  cases hslot : ivars.freeSlot with
  | none => exact Or.inl ⟨_, rfl, rfl⟩
  | some slot =>
      have hfree := List.find?_some hslot
      rw [Bool.not_eq_true'] at hfree
      exact Or.inr ⟨slot, _, rfl, hfree, rfl, rfl, rfl⟩

/-- Nothing, or a slot of this id is released and the OS is told. -/
theorem completeRequest_cases (ivars : StorageIVars) (memory : Memory) (requestId : UInt32)
    (status : IOReturn) (payload : Option (List UInt8)) :
    ivars.completeRequest memory requestId status payload = (none, memory, ivars) ∨
    ∃ slot entry io memory', (ivars.inFlight slot).requestId = requestId ∧
      io.requestId = requestId ∧
      ivars.completeRequest memory requestId status payload =
        (some io, memory',
          { ivars with inFlight := Function.update ivars.inFlight slot entry }) := by
  unfold completeRequest
  split
  · exact Or.inl rfl
  · rename_i slot hslot
    have hfound := List.find?_some hslot
    rw [Bool.and_eq_true, beq_iff_eq] at hfound
    refine Or.inr ⟨slot, { ivars.inFlight slot with valid := false }, ?_⟩
    simp only
    split
    · exact ⟨_, _, hfound.2, rfl, rfl⟩
    · split
      · exact ⟨_, _, hfound.2, rfl, rfl⟩
      · exact ⟨_, _, hfound.2, rfl, rfl⟩

/-- Nothing, or the entry at the front, under its id. -/
theorem dequeuePendingOutput_cases (ivars : StorageIVars) (maxLen : UInt32) :
    ivars.dequeuePendingOutput maxLen = (none, ivars) ∨
    ∃ hdr bytes, ivars.ring.pendingCount ≠ 0 ∧ hdr.requestId = ivars.ring.front.requestId ∧
      ivars.dequeuePendingOutput maxLen =
        (some (hdr, bytes), { ivars with ring := ivars.ring.pop }) := by
  unfold dequeuePendingOutput OutputRing.dequeue
  by_cases hpending : ivars.ring.pendingCount = 0
  · rw [if_pos hpending]
    exact Or.inl rfl
  · rw [if_neg hpending]
    exact Or.inr ⟨_, _, hpending, rfl, rfl⟩

theorem Tracks.update {ivars : StorageIVars} {id : UInt32} (h : ivars.Tracks id)
    {slot : Fin inFlightCapacity} (entry : InFlightIO) (ring : OutputRing)
    (hother : (ivars.inFlight slot).valid = false ∨ (ivars.inFlight slot).requestId ≠ id) :
    Tracks { inFlight := Function.update ivars.inFlight slot entry, ring } id := by
  obtain ⟨i, hi, hid⟩ := h
  have hvalid := (Finset.mem_filter.mp hi).2
  have hne : i ≠ slot := by
    rintro rfl
    rcases hother with hfree | hdiff
    · rw [hfree] at hvalid
      cases hvalid
    · exact hdiff hid
  refine ⟨i, Finset.mem_filter.mpr ⟨Finset.mem_univ i, ?_⟩, ?_⟩
  · show (Function.update ivars.inFlight slot entry i).valid = true
    rw [Function.update_of_ne hne]
    exact hvalid
  · show (Function.update ivars.inFlight slot entry i).requestId = id
    rw [Function.update_of_ne hne]
    exact hid

end StorageIVars

/-! ### The device between the OS and the daemon -/

/-- A request of the OS, a call of the daemon for an entry, or a completion by the daemon. -/
inductive StorageAction where
  | readWrite (memory : Memory) (stack : Bytes 16) (r : ReadWrite)
  | dequeue (maxLen : UInt32)
  | complete (memory : Memory) (requestId : UInt32) (status : IOReturn)
      (payload : Option (List UInt8))

/-- The device, the ids the OS waits for, and the ids whose latest request the daemon has
taken from the ring. -/
structure StorageRun where
  ivars : StorageIVars
  outstanding : Finset UInt32
  fetched : Finset UInt32

namespace StorageRun

/-- A device that has just been made; nobody waits. -/
def init : StorageRun := { ivars := .init, outstanding := ∅, fetched := ∅ }

/-- `CompleteIO` ends the wait for a request; its id may be used again. -/
def settle (outstanding : Finset UInt32) : Option CompleteIO → Finset UInt32
  | none => outstanding
  | some io => outstanding.erase io.requestId

/-- One step, with what it does to the two sets. -/
def step (s : StorageRun) : StorageAction → Option StorageRun
  | .readWrite memory stack r =>
      let (done, ivars) := s.ivars.doAsyncReadWrite memory stack r
      some {
        ivars
        outstanding := settle (insert r.requestId s.outstanding) done
        -- a request that was queued is a new one for the daemon
        fetched := if done.isSome then s.fetched else s.fetched.erase r.requestId }
  | .dequeue maxLen =>
      let (out, ivars) := s.ivars.dequeuePendingOutput maxLen
      some { s with
        ivars
        fetched :=
          match out with
          | none => s.fetched
          | some (hdr, _) => insert hdr.requestId s.fetched }
  | .complete memory requestId status payload =>
      let (done, _, ivars) := s.ivars.completeRequest memory requestId status payload
      some { s with ivars, outstanding := settle s.outstanding done }

/-- The OS does not reuse an id it waits for, the daemon completes only what it has taken. -/
def Orderly (s : StorageRun) : StorageAction → Prop
  | .readWrite _ _ r => r.requestId ∉ s.outstanding
  | .dequeue _ => True
  | .complete _ requestId _ _ => requestId ∈ s.fetched

instance : ∀ (s : StorageRun) (a : StorageAction), Decidable (s.Orderly a)
  | s, .readWrite _ _ r => inferInstanceAs (Decidable (r.requestId ∉ s.outstanding))
  | _, .dequeue _ => isTrue trivial
  | s, .complete _ requestId _ _ => inferInstanceAs (Decidable (requestId ∈ s.fetched))

/-- What holds along an orderly run, about the ring, the table and the two sets. -/
structure Inv (s : StorageRun) : Prop where
  sound : s.ivars.ring.Sound
  nodup : s.ivars.ring.requestIds.Nodup
  waited : ∀ id ∈ s.ivars.ring.requestIds, id ∈ s.outstanding
  unfetched : ∀ id ∈ s.ivars.ring.requestIds, id ∉ s.fetched
  tracked : ∀ id ∈ s.ivars.ring.requestIds, s.ivars.Tracks id

theorem inv_init : init.Inv :=
  { sound := OutputRing.sound_zero, nodup := List.nodup_nil, waited := nofun
    unfetched := nofun, tracked := nofun }

namespace Inv

variable {s : StorageRun}

/-- There are no more entries than slots in use. -/
theorem pendingCount_le (h : s.Inv) :
    s.ivars.ring.pendingCount.toNat ≤ s.ivars.validSlots.card :=
  StorageIVars.pendingCount_le_card h.nodup h.tracked

/-- Sixteen slots in flight leave room in a ring of 64, and so a push never overwrites an
entry. -/
theorem room (h : s.Inv) : s.ivars.ring.pendingCount.toNat < maxPendingOutputs :=
  calc s.ivars.ring.pendingCount.toNat
      ≤ s.ivars.validSlots.card := h.pendingCount_le
    _ ≤ inFlightCapacity := s.ivars.card_validSlots_le
    _ < maxPendingOutputs := by decide

/-- A new id goes to the end of the ring; that it is new is the condition on the OS. -/
theorem readWrite (h : s.Inv) (memory : Memory) (stack : Bytes 16) {r : ReadWrite}
    (hnew : r.requestId ∉ s.outstanding) {s' : StorageRun}
    (hstep : s.step (.readWrite memory stack r) = some s') : s'.Inv := by
  have hfresh : r.requestId ∉ s.ivars.ring.requestIds := fun hmem => hnew (h.waited _ hmem)
  rcases s.ivars.doAsyncReadWrite_cases memory stack r with
    ⟨io, hid, heq⟩ | ⟨slot, entry, -, hfree, hvalid, hid, heq⟩
  · simp only [step, heq] at hstep
    cases hstep
    refine { h with waited := ?_ }
    intro id hmem
    refine Finset.mem_erase.mpr ⟨?_, Finset.mem_insert_of_mem (h.waited id hmem)⟩
    rw [hid]
    exact ne_of_mem_of_not_mem hmem hfresh
  · simp only [step, heq] at hstep
    cases hstep
    have hsrc := r.length_scratchBytes_le memory stack
    have hids := h.sound.requestIds_push h.room (if r.isRead then 0 else 1) r.requestId hsrc
    have hsound := (h.sound.push h.room (if r.isRead then 0 else 1) r.requestId hsrc).1
    refine { sound := hsound, nodup := ?_, waited := ?_, unfetched := ?_, tracked := ?_ }
    · rw [hids]
      exact List.nodup_append_comm.mp (List.nodup_cons.mpr ⟨hfresh, h.nodup⟩)
    · rw [hids]
      intro id hmem
      rcases List.mem_append.mp hmem with hold | hlast
      · exact Finset.mem_insert_of_mem (h.waited id hold)
      · rw [List.mem_singleton.mp hlast]
        exact Finset.mem_insert_self _ _
    · rw [hids]
      intro id hmem hfetched
      obtain ⟨hne, hfetched⟩ := Finset.mem_erase.mp hfetched
      rcases List.mem_append.mp hmem with hold | hlast
      · exact h.unfetched id hold hfetched
      · exact hne (List.mem_singleton.mp hlast)
    · rw [hids]
      intro id hmem
      rcases List.mem_append.mp hmem with hold | hlast
      · exact (h.tracked id hold).update entry _ (Or.inl hfree)
      · refine ⟨slot, Finset.mem_filter.mpr ⟨Finset.mem_univ slot, ?_⟩, ?_⟩
        · show (Function.update s.ivars.inFlight slot entry slot).valid = true
          rw [Function.update_self]
          exact hvalid
        · show (Function.update s.ivars.inFlight slot entry slot).requestId = id
          rw [Function.update_self, hid, List.mem_singleton.mp hlast]

/-- What is taken is no longer in the ring, and may be completed from now on. -/
theorem dequeue (h : s.Inv) (maxLen : UInt32) {s' : StorageRun}
    (hstep : s.step (.dequeue maxLen) = some s') : s'.Inv := by
  rcases s.ivars.dequeuePendingOutput_cases maxLen with
    heq | ⟨hdr, bytes, hpending, hid, heq⟩
  · simp only [step, heq] at hstep
    cases hstep
    exact h
  · simp only [step, heq] at hstep
    cases hstep
    have hids := h.sound.requestIds_pop hpending
    rw [← hid] at hids
    have hnodup := h.nodup
    rw [hids, List.nodup_cons] at hnodup
    have hbehind : ∀ id ∈ s.ivars.ring.pop.requestIds, id ∈ s.ivars.ring.requestIds := by
      intro id hmem
      rw [hids]
      exact List.mem_cons_of_mem _ hmem
    refine {
      sound := (h.sound.pop hpending).1, nodup := hnodup.2
      waited := ?_, unfetched := ?_, tracked := ?_ }
    · intro id hmem
      exact h.waited id (hbehind id hmem)
    · intro id hmem hfetched
      rcases Finset.mem_insert.mp hfetched with rfl | hfetched
      · exact hnodup.1 hmem
      · exact h.unfetched id (hbehind id hmem) hfetched
    · intro id hmem
      exact h.tracked id (hbehind id hmem)

theorem complete (h : s.Inv) (memory : Memory) {requestId : UInt32} (status : IOReturn)
    (payload : Option (List UInt8)) (hfetched : requestId ∈ s.fetched) {s' : StorageRun}
    (hstep : s.step (.complete memory requestId status payload) = some s') : s'.Inv := by
  have hother : ∀ id ∈ s.ivars.ring.requestIds, requestId ≠ id := by
    rintro id hmem rfl
    exact h.unfetched requestId hmem hfetched
  rcases s.ivars.completeRequest_cases memory requestId status payload with
    heq | ⟨slot, entry, io, memory', hslot, hio, heq⟩
  · simp only [step, heq] at hstep
    cases hstep
    exact h
  · simp only [step, heq] at hstep
    cases hstep
    refine { h with waited := ?_, tracked := ?_ }
    · intro id hmem
      refine Finset.mem_erase.mpr ⟨?_, h.waited id hmem⟩
      rw [hio]
      exact (hother id hmem).symm
    · intro id hmem
      exact (h.tracked id hmem).update entry _ (Or.inr (hslot ▸ hother id hmem))

end Inv

/-- One step of an orderly run, by the kind of it. -/
theorem inv_step (s : StorageRun) (a : StorageAction) (s' : StorageRun) (h : s.Inv)
    (horderly : s.Orderly a) (hstep : s.step a = some s') : s'.Inv := by
  cases a with
  | readWrite memory stack r => exact h.readWrite memory stack horderly hstep
  | dequeue maxLen => exact h.dequeue maxLen hstep
  | complete memory requestId status payload =>
      exact h.complete memory status payload horderly hstep

/-- **The storage ring has room.** In every state of an orderly run there are no more
entries in the ring than slots in use, of which there are at most 16, and every entry is for
the id of a slot in use. So the slot at the tail is free, and an accepted request is
appended to what is still to be read. -/
theorem orderly_run_room {actions : List StorageAction} {s : StorageRun}
    (horderly : Transition.Meets step Orderly init actions)
    (hrun : Transition.run step init actions = some s) :
    s.ivars.ring.pendingCount.toNat ≤ s.ivars.validSlots.card ∧
    s.ivars.validSlots.card ≤ inFlightCapacity ∧
    (∀ e ∈ s.ivars.ring.entries,
      ∃ i, (s.ivars.inFlight i).valid = true ∧ (s.ivars.inFlight i).requestId = e.requestId) ∧
    (∀ k < s.ivars.ring.pendingCount.toNat,
      s.ivars.ring.pendingHead + Fin.ofNat maxPendingOutputs k ≠ s.ivars.ring.pendingTail) ∧
    (s.ivars.ring.pending s.ivars.ring.pendingTail).valid = false ∧
    ∀ memory stack r, s.ivars.freeSlot ≠ none →
      ∃ e : PendingOutputEntry, e.requestId = r.requestId ∧
        e.payload = r.scratchBytes memory stack ∧
        (s.ivars.doAsyncReadWrite memory stack r).2.ring.entries = s.ivars.ring.entries ++ [e] := by
  have h : s.Inv := Transition.run_invariant Inv inv_step inv_init horderly hrun
  refine ⟨h.pendingCount_le, s.ivars.card_validSlots_le, ?_, h.sound.tail_free h.room,
    h.sound.tail_unmarked h.room, ?_⟩
  · intro e he
    obtain ⟨i, hi, hid⟩ := h.tracked e.requestId (List.mem_map_of_mem he)
    exact ⟨i, (Finset.mem_filter.mp hi).2, hid⟩
  · intro memory stack r hfree
    obtain ⟨slot, hslot⟩ := Option.ne_none_iff_exists'.mp hfree
    obtain ⟨-, hentries⟩ := h.sound.push h.room (if r.isRead then 0 else 1) r.requestId
      (r.length_scratchBytes_le memory stack)
    rw [StorageIVars.ring_doAsyncReadWrite hslot]
    exact ⟨_, rfl, PendingOutputEntry.payload_fill _ _ _ _, hentries⟩

/-- A block is read, the daemon answers, and the OS uses the id again. -/
def readTwice : List StorageAction :=
  let read : ReadWrite :=
    { isRead := true, requestId := 5, dmaAddr := 4096, size := 512, lba := 8, numOfBlocks := 1
      options := 0 }
  let stack : Bytes 16 := ⟨List.replicate 16 0, rfl⟩
  [.readWrite (fun _ => 0) stack read, .dequeue 65536,
    .complete (fun _ => 0) 5 .success (some []), .readWrite (fun _ => 0) stack read]

/-- The run is orderly, and the second request is in the ring. -/
theorem orderly_run_room_readTwice :
    ∃ s, Transition.run step init readTwice = some s ∧
      s.ivars.ring.pendingCount = 1 ∧
      s.ivars.ring.pendingCount.toNat ≤ s.ivars.validSlots.card := by
  obtain ⟨s, hrun, hcount⟩ := Transition.exists_run_of_any step init readTwice
    (fun s => s.ivars.ring.pendingCount = 1) (by decide +kernel)
  exact ⟨s, hrun, hcount, (orderly_run_room (by decide +kernel) hrun).1⟩

end StorageRun

end Extender.Driver
