/-
The virtual devices of the driver extension (`ExtenderVirtualHID.cpp`,
`ExtenderVirtualStorage.cpp`), as far as they exchange requests with the daemon.

A device queues what the host asks of it in a ring of 64 entries of up to 64 KiB. The daemon
takes the entries out one by one (`dequeuePendingOutput`) and later completes the request an
entry was queued for (`completeRequest`), which the device finds in a table of sixteen
requests in flight. The HID device fills the ring before it looks at the table, which has less
room; the storage device finds a place in the table first.

The ring is the same in all five classes of device; they differ in the header they write for
an entry. `OutputRing` is the ring, and each class keeps its own `dequeuePendingOutput`. The
serial, network and audio devices leave two fields of the header as they were on the stack,
and have no completions.

Buffers on the stack are not initialised: where the source copies such bytes, the model takes
their content as an argument. Memory behind an address is a function, and what
`completeRequest` writes to it is a new function.

* `OutputRing.Consistent` — head, tail and count agree; kept by every operation.
* `OutputRing.front_iterate_pop` — entries leave the ring in the order of their slots.
* `OutputRing.dequeue_of_pending` — a ring with an entry gives it away whole, as the handler
  calls it.
* `handleGetPendingOutput` — the header and payload of the next entry of a slot's device.
-/

import Extender.Driver.UserClient

namespace Extender.Driver

open BigEndian

/-- `EXTENDER_MAX_TRANSFER_SIZE`: the room for the bytes of an entry. -/
abbrev maxTransferSize : Nat := 65536

/-- `EXTENDER_MAX_PENDING_OUTPUTS`: the size of a ring. -/
abbrev maxPendingOutputs : Nat := 64

instance : NeZero maxPendingOutputs := ⟨by decide⟩

/-- `kInFlightCapacity`: the size of a table of requests in flight. -/
abbrev inFlightCapacity : Nat := 16

/-! ### Memory -/

/-- `memcpy` to the front of an array. -/
def memcpy {n : Nat} (dst : Bytes n) (src : List UInt8) (h : src.length ≤ n) : Bytes n :=
  ⟨src ++ dst.val.drop src.length, by
    rw [List.length_append, List.length_drop, dst.property]
    omega⟩

@[simp] theorem take_memcpy {n : Nat} (dst : Bytes n) (src : List UInt8) (h : src.length ≤ n) :
    (memcpy dst src h).val.take src.length = src := List.take_left

/-- The bytes of memory, by address. -/
abbrev Memory : Type := UInt64 → UInt8

/-- The `n` bytes at `addr`. -/
def Memory.read (memory : Memory) (addr : UInt64) (n : Nat) : List UInt8 :=
  (List.range n).map fun i => memory (addr + UInt64.ofNat i)

@[simp] theorem Memory.length_read (memory : Memory) (addr : UInt64) (n : Nat) :
    (memory.read addr n).length = n := by
  simp [Memory.read]

/-- `bytes` written from `addr` on. -/
def Memory.write (memory : Memory) (addr : UInt64) (bytes : List UInt8) : Memory :=
  fun a => (bytes[(a - addr).toNat]?).getD (memory a)

/-! ### The ring of pending outputs -/

/-- A slot of the ring; only the first `length` bytes of `data` belong to the entry. -/
structure PendingOutputEntry where
  data : Bytes maxTransferSize
  length : UInt32
  endpoint : UInt32
  requestType : UInt32
  requestId : UInt32
  valid : Bool
  length_le : length.toNat ≤ maxTransferSize

namespace PendingOutputEntry

/-- The bytes of the entry. -/
def payload (e : PendingOutputEntry) : List UInt8 := e.data.val.take e.length.toNat

@[simp] theorem length_payload (e : PendingOutputEntry) : e.payload.length = e.length.toNat := by
  rw [payload, List.length_take, e.data.property]
  exact Nat.min_eq_left e.length_le

/-- The slot after `IONewZero`. -/
def zero : PendingOutputEntry :=
  { data := Bytes.zeroPadded [] (Nat.zero_le _), length := 0, endpoint := 0, requestType := 0
    requestId := 0, valid := false, length_le := Nat.zero_le _ }

/-- The slot filled with a request of `src`; bytes behind it stay. -/
def fill (e : PendingOutputEntry) (requestType requestId : UInt32) (src : List UInt8)
    (h : src.length ≤ maxTransferSize) : PendingOutputEntry :=
  { data := memcpy e.data src h, length := UInt32.ofNat src.length, endpoint := 0, requestType
    requestId, valid := true
    length_le := Nat.le_trans (UInt32.toNat_ofNat' ▸ Nat.mod_le _ _) h }

/-- The bytes of a filled slot are those it was filled with. -/
@[simp] theorem payload_fill (e : PendingOutputEntry) (requestType requestId : UInt32)
    {src : List UInt8} (h : src.length ≤ maxTransferSize) :
    (e.fill requestType requestId src h).payload = src := by
  have hlen : (UInt32.ofNat src.length).toNat = src.length := by
    have hmax : src.length ≤ 65536 := h
    rw [UInt32.toNat_ofNat']
    omega
  show (memcpy e.data src h).val.take (UInt32.ofNat src.length).toNat = src
  rw [hlen, take_memcpy]

end PendingOutputEntry

/-- The ring of one device. Its indices are taken modulo its capacity. -/
structure OutputRing where
  pending : Fin maxPendingOutputs → PendingOutputEntry
  pendingHead : Fin maxPendingOutputs
  pendingTail : Fin maxPendingOutputs
  pendingCount : UInt32

namespace OutputRing

def zero : OutputRing :=
  { pending := fun _ => .zero, pendingHead := 0, pendingTail := 0, pendingCount := 0 }

/-- Fill the slot at the tail and advance; whether the ring is full is not looked at here. -/
def push (ring : OutputRing) (requestType requestId : UInt32) (src : List UInt8)
    (h : src.length ≤ maxTransferSize) : OutputRing :=
  { ring with
    pending := Function.update ring.pending ring.pendingTail
      ((ring.pending ring.pendingTail).fill requestType requestId src h)
    pendingTail := ring.pendingTail + 1
    pendingCount := ring.pendingCount + 1 }

/-- The entry at the head. -/
def front (ring : OutputRing) : PendingOutputEntry := ring.pending ring.pendingHead

/-- Drop the entry at the head: its mark is cleared, and its bytes stay in the slot. -/
def pop (ring : OutputRing) : OutputRing :=
  { ring with
    pending := Function.update ring.pending ring.pendingHead { ring.front with valid := false }
    pendingHead := ring.pendingHead + 1
    pendingCount := ring.pendingCount - 1 }

end OutputRing

/-- The tail is as far behind the head as there are entries, round the ring. -/
def OutputRing.Consistent (ring : OutputRing) : Prop :=
  ring.pendingTail = ring.pendingHead + Fin.ofNat maxPendingOutputs ring.pendingCount.toNat

/-- An empty ring has its tail at its head. -/
theorem OutputRing.consistent_zero : OutputRing.zero.Consistent := rfl

/-- Counting round 32 bits agrees with counting round the ring, since 64 divides the number of
counts. -/
theorem OutputRing.Consistent.push {ring : OutputRing} (h : ring.Consistent)
    (requestType requestId : UInt32) {src : List UInt8} (hsrc : src.length ≤ maxTransferSize) :
    (ring.push requestType requestId src hsrc).Consistent := by
  show ring.pendingTail + 1 =
    ring.pendingHead + Fin.ofNat maxPendingOutputs (ring.pendingCount + 1).toNat
  rw [h]
  apply Fin.ext
  simp only [Fin.val_add, Fin.val_ofNat, UInt32.toNat_add, UInt32.toNat_one, Fin.val_one,
    maxPendingOutputs]
  omega

theorem OutputRing.Consistent.pop {ring : OutputRing} (h : ring.Consistent) :
    ring.pop.Consistent := by
  show ring.pendingTail =
    ring.pendingHead + 1 + Fin.ofNat maxPendingOutputs (ring.pendingCount - 1).toNat
  rw [h]
  apply Fin.ext
  have hlt := ring.pendingCount.toNat_lt
  simp only [Fin.val_add, Fin.val_ofNat, UInt32.toNat_sub, UInt32.toNat_one, Fin.val_one,
    maxPendingOutputs]
  omega

/-- Taking entries from the front leaves those behind them. -/
theorem OutputRing.front_iterate_pop (ring : OutputRing) {k : Nat} (hk : k < maxPendingOutputs) :
    (OutputRing.pop^[k] ring).front = ring.pending (ring.pendingHead + Fin.ofNat _ k) := by
  induction k generalizing ring with
  | zero =>
      show ring.pending ring.pendingHead = ring.pending (ring.pendingHead + 0)
      rw [Fin.add_zero]
  | succ k ih =>
      have hbehind : ring.pendingHead + 1 + Fin.ofNat _ k =
          ring.pendingHead + Fin.ofNat maxPendingOutputs (k + 1) := by
        apply Fin.ext
        simp only [Fin.val_add, Fin.val_ofNat, Fin.val_one, maxPendingOutputs]
        omega
      have hne : ring.pendingHead + Fin.ofNat maxPendingOutputs (k + 1) ≠ ring.pendingHead := by
        intro heq
        have hval := congrArg Fin.val heq
        have hhead := ring.pendingHead.isLt
        simp only [Fin.val_add, Fin.val_ofNat, maxPendingOutputs] at hval hhead hk
        omega
      rw [Function.iterate_succ_apply, ih ring.pop (Nat.lt_of_succ_lt hk)]
      show Function.update ring.pending _ _ (ring.pendingHead + 1 + Fin.ofNat _ k) = _
      rw [hbehind, Function.update_of_ne hne]

/-- Pushed onto an empty ring, a request is at the front. -/
theorem OutputRing.front_push {ring : OutputRing} (h : ring.pendingHead = ring.pendingTail)
    (requestType requestId : UInt32) {src : List UInt8} (hsrc : src.length ≤ maxTransferSize) :
    (ring.push requestType requestId src hsrc).front =
      (ring.pending ring.pendingTail).fill requestType requestId src hsrc := by
  unfold OutputRing.front OutputRing.push
  simp only [h, Function.update_self]

/-- `ExtenderPendingOutputHeader`, six numbers of 32 bits. -/
structure PendingOutputHeader where
  deviceId : UInt32
  endpoint : UInt32
  dataLength : UInt32
  requestType : UInt32
  requestId : UInt32
  reserved : UInt32
deriving DecidableEq, Repr

/-- A 32-bit number in host order, least significant byte first. -/
def u32HostBytes (x : UInt32) : List UInt8 := (u32Bytes x).reverse

/-- The header as it lies in memory. -/
def PendingOutputHeader.toBytes (hdr : PendingOutputHeader) : List UInt8 :=
  u32HostBytes hdr.deviceId ++ (u32HostBytes hdr.endpoint ++ (u32HostBytes hdr.dataLength ++
    (u32HostBytes hdr.requestType ++ (u32HostBytes hdr.requestId ++ u32HostBytes hdr.reserved))))

/-- The header the HID and storage devices write for an entry. -/
def PendingOutputHeader.ofEntry (deviceId : UInt32) (entry : PendingOutputEntry)
    (dataLength : UInt32) : PendingOutputHeader :=
  { deviceId, endpoint := entry.endpoint, dataLength, requestType := entry.requestType
    requestId := entry.requestId, reserved := 0 }

/-- The common part of `dequeuePendingOutput`: the entry at the head, cut to `maxLen`
bytes, with the header the device class writes for it and for that length. -/
def OutputRing.dequeue (ring : OutputRing)
    (header : PendingOutputEntry → UInt32 → PendingOutputHeader) (maxLen : UInt32) :
    Option (PendingOutputHeader × List UInt8) × OutputRing :=
  if ring.pendingCount = 0 then (none, ring)
  else
    let entry := ring.front
    let copyLen := if entry.length < maxLen then entry.length else maxLen
    (some (header entry copyLen, entry.data.val.take copyLen.toNat), ring.pop)

/-- With room for the largest entry nothing is cut. -/
theorem OutputRing.dequeue_of_room {ring : OutputRing} (h : ring.pendingCount ≠ 0)
    (header : PendingOutputEntry → UInt32 → PendingOutputHeader) {maxLen : UInt32}
    (hroom : maxTransferSize ≤ maxLen.toNat) :
    ring.dequeue header maxLen =
      (some (header ring.front ring.front.length, ring.front.payload), ring.pop) := by
  have hcopy : (if ring.front.length < maxLen then ring.front.length else maxLen) =
      ring.front.length := by
    split
    · rfl
    · rename_i hge
      apply UInt32.toNat_inj.mp
      exact Nat.le_antisymm (Nat.not_lt.mp hge) (ring.front.length_le.trans hroom)
  unfold OutputRing.dequeue
  rw [if_neg h]
  simp only [hcopy]
  rfl

theorem OutputRing.dequeue_of_pending {ring : OutputRing} (h : ring.pendingCount ≠ 0)
    (header : PendingOutputEntry → UInt32 → PendingOutputHeader) :
    ring.dequeue header (UInt32.ofNat maxTransferSize) =
      (some (header ring.front ring.front.length, ring.front.payload), ring.pop) :=
  ring.dequeue_of_room h header (Nat.le_refl _)

/-! ### The HID device -/

/-- A report the host waits for; objects are known by their identity, and may be absent. -/
structure InFlightEntry where
  requestId : UInt32
  action : Option Nat
  report : Option Nat
  isGetReport : Bool
  valid : Bool
deriving DecidableEq, Repr

/-- `ExtenderVirtualHID_IVars`: the ring, the counter of ids and the table. -/
structure HidIVars where
  deviceId : UInt32
  ring : OutputRing
  inFlight : Fin inFlightCapacity → InFlightEntry
  nextRequestId : UInt32

/-- The report of a request: its length, and address and length of its mapping if one can
be made. -/
structure MemoryDescriptor where
  id : Nat
  length : UInt64
  mapping : Option (UInt64 × UInt64)
deriving DecidableEq, Repr

/-- A call of `CompleteReport`: the action to be completed, the status and the number of
bytes. -/
structure CompleteReport where
  action : Nat
  status : IOReturn
  actualByteCount : UInt32
deriving DecidableEq, Repr

namespace HidIVars

/-- After `init`: an empty ring and an empty table, and the next id is 1. -/
def init : HidIVars :=
  { deviceId := 0, ring := .zero, nextRequestId := 1
    inFlight := fun _ =>
      { requestId := 0, action := none, report := none, isGetReport := false, valid := false } }

/-- `enqueuePending`; `src` is the `length` bytes at `bytes`. The answer is the id of the
request, or 0 if it is too long or the ring is full. -/
def enqueuePending (ivars : HidIVars) (requestType : UInt32) (src : List UInt8) :
    UInt32 × HidIVars :=
  if h : src.length ≤ maxTransferSize then
    if ivars.ring.pendingCount ≥ UInt32.ofNat maxPendingOutputs then (0, ivars)
    else
      -- zero is never used as an id
      let rid := if ivars.nextRequestId = 0 then 1 else ivars.nextRequestId
      (rid, { ivars with ring := ivars.ring.push requestType rid src h, nextRequestId := rid + 1 })
  else (0, ivars)

/-- `trackInFlight`: the first free slot of the table, if there is one. -/
def trackInFlight (ivars : HidIVars) (requestId : UInt32) (action report : Option Nat)
    (isGetReport : Bool) : Option HidIVars :=
  match (List.finRange inFlightCapacity).find? fun i => !(ivars.inFlight i).valid with
  | none => none
  | some i =>
      some { ivars with
        inFlight := Function.update ivars.inFlight i
          { requestId, action, report, isGetReport, valid := true } }

/-- `getReport`: an entry of two bytes is queued before the table is looked at. -/
def getReport (ivars : HidIVars) (report : Option MemoryDescriptor) (reportType : UInt32)
    (action : Option Nat) : IOReturn × HidIVars :=
  match ivars.enqueuePending 2 [reportType.toUInt8, 0] with
  | (0, ivars) => (.noSpace, ivars)
  | (rid, ivars) =>
      match ivars.trackInFlight rid action (report.map MemoryDescriptor.id) true with
      | none => (.noResources, ivars)
      | some ivars => (.success, ivars)

/-- What `setReport` copies out of the report: as much of it as is mapped. `tmp` is the
buffer on the stack it is copied to. -/
def reportBytes (memory : Memory) (tmp : Bytes maxTransferSize) (length : UInt64) :
    Option (UInt64 × UInt64) → List UInt8
  | none => []
  | some (mapped, mappedLen) =>
      let copied := if length < mappedLen then length else mappedLen
      if copied > 0 ∧ mapped ≠ 0 then memory.read mapped copied.toNat
      else tmp.val.take copied.toNat

/-- `setReport`: the length is checked first, the report queued, and then the table looked
at. -/
def setReport (ivars : HidIVars) (memory : Memory) (tmp : Bytes maxTransferSize)
    (report : Option MemoryDescriptor) (action : Option Nat) : IOReturn × HidIVars :=
  let length := (report.map MemoryDescriptor.length).getD 0
  if length.toNat > maxTransferSize then (.noSpace, ivars)
  else
    let src :=
      if length > 0 then reportBytes memory tmp length (report.bind MemoryDescriptor.mapping)
      else []
    match ivars.enqueuePending 2 src with
    | (0, ivars) => (.noSpace, ivars)
    | (rid, ivars) =>
        match ivars.trackInFlight rid action (report.map MemoryDescriptor.id) false with
        | none => (.noResources, ivars)
        | some ivars => (.success, ivars)

/-- `completeRequest`; the payload is absent when the daemon sent no structure. `mapping` is
what mapping a report into memory gives. An id that is not in the table is ignored. -/
def completeRequest (ivars : HidIVars) (memory : Memory)
    (mapping : Nat → Option (UInt64 × UInt64)) (requestId : UInt32) (status : IOReturn)
    (payload : Option (List UInt8)) : Option CompleteReport × Memory × HidIVars :=
  match (List.finRange inFlightCapacity).find? fun i =>
      (ivars.inFlight i).valid && (ivars.inFlight i).requestId == requestId with
  | none => (none, memory, ivars)
  | some slot =>
      let entry := ivars.inFlight slot
      let bytes := payload.getD []
      let memory' :=
        match entry.isGetReport, entry.report.bind mapping with
        | true, some (mapped, mappedLen) =>
            let writeLen := min bytes.length mappedLen.toNat
            if mapped ≠ 0 ∧ writeLen > 0 then memory.write mapped (bytes.take writeLen)
            else memory
        | _, _ => memory
      (entry.action.map fun action =>
          { action, status, actualByteCount := UInt32.ofNat bytes.length },
        memory',
        { ivars with
          inFlight := Function.update ivars.inFlight slot
            { entry with action := none, report := none, valid := false } })

/-- `dequeuePendingOutput` of the HID device, with its own id in the header. -/
def dequeuePendingOutput (ivars : HidIVars) (maxLen : UInt32) :
    Option (PendingOutputHeader × List UInt8) × HidIVars :=
  let (out, ring) := ivars.ring.dequeue (.ofEntry ivars.deviceId) maxLen
  (out, { ivars with ring })

end HidIVars

/-! ### The storage device -/

/-- A read or write the host waits for: where its data lies and how much of it there is. -/
structure InFlightIO where
  requestId : UInt32
  dmaAddr : UInt64
  expectedSize : UInt64
  isRead : Bool
  valid : Bool
deriving DecidableEq, Repr

/-- `ExtenderVirtualStorage_IVars`: the ring and the table; ids are the host's. -/
structure StorageIVars where
  ring : OutputRing
  inFlight : Fin inFlightCapacity → InFlightIO

/-- The arguments of `DoAsyncReadWrite`: direction, id, memory and blocks of one request. -/
structure ReadWrite where
  isRead : Bool
  requestId : UInt32
  dmaAddr : UInt64
  size : UInt64
  lba : UInt64
  numOfBlocks : UInt64
  options : UInt32
deriving DecidableEq, Repr

/-- A call of `CompleteIO`: the id, the bytes transferred and the status. -/
structure CompleteIO where
  requestId : UInt32
  transferred : UInt64
  status : IOReturn
deriving DecidableEq, Repr

namespace StorageIVars

def init : StorageIVars :=
  { ring := .zero
    inFlight := fun _ =>
      { requestId := 0, dmaAddr := 0, expectedSize := 0, isRead := false, valid := false } }

/-- The free slot `DoAsyncReadWrite` takes. -/
def freeSlot (ivars : StorageIVars) : Option (Fin inFlightCapacity) :=
  (List.finRange inFlightCapacity).find? fun i => !(ivars.inFlight i).valid

end StorageIVars

namespace ReadWrite

/-- The request carries data from memory: a write with an address and a size. -/
def CarriesData (r : ReadWrite) : Prop := r.isRead = false ∧ r.dmaAddr ≠ 0 ∧ r.size > 0

instance (r : ReadWrite) : Decidable r.CarriesData := inferInstanceAs (Decidable (_ ∧ _ ∧ _))

/-- The number of bytes copied for a write. -/
def copyLength (r : ReadWrite) : Nat := min r.size.toNat maxTransferSize

/-- The first bytes of the scratch buffer: the data of a write, or else a READ(10) command
with the low 32 bits of the address and the low 16 bits of the count. Bytes 6 and 9 to 15
of the command are what was on the stack. -/
def scratchBytes (r : ReadWrite) (memory : Memory) (stack : Bytes 16) : List UInt8 :=
  if r.CarriesData then memory.read r.dmaAddr r.copyLength
  else
    [0x28, r.options.toUInt8, (r.lba >>> 24).toUInt8, (r.lba >>> 16).toUInt8,
      (r.lba >>> 8).toUInt8, r.lba.toUInt8, stack.val.getD 6 0,
      (r.numOfBlocks >>> 8).toUInt8, r.numOfBlocks.toUInt8] ++ stack.val.drop 9

theorem length_scratchBytes_le (r : ReadWrite) (memory : Memory) (stack : Bytes 16) :
    (r.scratchBytes memory stack).length ≤ maxTransferSize := by
  unfold scratchBytes
  split
  · rw [Memory.length_read]
    exact Nat.min_le_right _ _
  · rw [List.length_append, List.length_drop, stack.property]
    exact (by decide : 9 + (16 - 9) ≤ maxTransferSize)

end ReadWrite

namespace StorageIVars

/-- `DoAsyncReadWrite`: without a free slot the request is completed at once, and otherwise
queued without asking the ring. -/
def doAsyncReadWrite (ivars : StorageIVars) (memory : Memory) (stack : Bytes 16) (r : ReadWrite) :
    Option CompleteIO × StorageIVars :=
  match ivars.freeSlot with
  | none => (some { requestId := r.requestId, transferred := 0, status := .noResources }, ivars)
  | some slot =>
      (none,
        { inFlight := Function.update ivars.inFlight slot
            { requestId := r.requestId, dmaAddr := r.dmaAddr, expectedSize := r.size
              isRead := r.isRead, valid := true }
          ring := ivars.ring.push (if r.isRead then 0 else 1) r.requestId
            (r.scratchBytes memory stack) (r.length_scratchBytes_le memory stack) })

/-- An accepted request is queued behind what is in the ring already. -/
theorem ring_doAsyncReadWrite {ivars : StorageIVars} {slot : Fin inFlightCapacity}
    (hfree : ivars.freeSlot = some slot) (memory : Memory) (stack : Bytes 16) (r : ReadWrite) :
    (ivars.doAsyncReadWrite memory stack r).2.ring =
      ivars.ring.push (if r.isRead then 0 else 1) r.requestId
        (r.scratchBytes memory stack) (r.length_scratchBytes_le memory stack) := by
  unfold doAsyncReadWrite
  rw [hfree]

/-- `completeRequest`; the payload is absent when the daemon sent no structure. The data of a
read goes to the host's memory, and a write is reported with its whole size. -/
def completeRequest (ivars : StorageIVars) (memory : Memory) (requestId : UInt32)
    (status : IOReturn) (payload : Option (List UInt8)) :
    Option CompleteIO × Memory × StorageIVars :=
  match (List.finRange inFlightCapacity).find? fun i =>
      (ivars.inFlight i).valid && (ivars.inFlight i).requestId == requestId with
  | none => (none, memory, ivars)
  | some slot =>
      let io := ivars.inFlight slot
      let bytes := payload.getD []
      let ivars' := { ivars with
        inFlight := Function.update ivars.inFlight slot { io with valid := false } }
      if status = .success ∧ io.isRead = true ∧ io.dmaAddr ≠ 0 ∧ bytes.length > 0 then
        let copy := min bytes.length io.expectedSize.toNat
        (some { requestId, transferred := UInt64.ofNat copy, status },
          memory.write io.dmaAddr (bytes.take copy), ivars')
      else if status = .success ∧ io.isRead = false then
        (some { requestId, transferred := io.expectedSize, status }, memory, ivars')
      else (some { requestId, transferred := 0, status }, memory, ivars')

/-- `dequeuePendingOutput` of the storage device, whose headers have the id 0. -/
def dequeuePendingOutput (ivars : StorageIVars) (maxLen : UInt32) :
    Option (PendingOutputHeader × List UInt8) × StorageIVars :=
  let (out, ring) := ivars.ring.dequeue (.ofEntry 0) maxLen
  (out, { ivars with ring })

end StorageIVars

/-! ### `handleGetPendingOutput` -/

/-- The virtual devices by the identity of their service. Of the classes whose completions
are not wired, only the ring matters. -/
structure VirtualDevices where
  hid : Nat → HidIVars
  storage : Nat → StorageIVars
  serial : Nat → OutputRing
  network : Nat → OutputRing
  audio : Nat → OutputRing

/-- `dequeuePendingOutput` of the serial, network and audio devices, which write four of
the header's fields and leave two as they are on the stack. -/
def OutputRing.dequeueUnnumbered (ring : OutputRing) (stack : PendingOutputHeader)
    (maxLen : UInt32) : Option (PendingOutputHeader × List UInt8) × OutputRing :=
  ring.dequeue
    (fun entry dataLength =>
      { stack with
        deviceId := 0, endpoint := entry.endpoint, requestType := entry.requestType, dataLength })
    maxLen

/-- The `switch` over the device type; nothing is dequeued from a device of another class. -/
def VirtualDevices.dequeue (devices : VirtualDevices) (stack : PendingOutputHeader)
    (deviceType : UInt32) (device : Option Service) :
    Option (PendingOutputHeader × List UInt8) × VirtualDevices :=
  let maxLen := UInt32.ofNat maxTransferSize
  match DeviceType.ofRaw deviceType.toUInt64, device with
  | some .hid, some { id, cls := .hid } =>
      let (out, ivars) := (devices.hid id).dequeuePendingOutput maxLen
      (out, { devices with hid := Function.update devices.hid id ivars })
  | some .storage, some { id, cls := .storage } =>
      let (out, ivars) := (devices.storage id).dequeuePendingOutput maxLen
      (out, { devices with storage := Function.update devices.storage id ivars })
  | some .serial, some { id, cls := .serial } =>
      let (out, ring) := (devices.serial id).dequeueUnnumbered stack maxLen
      (out, { devices with serial := Function.update devices.serial id ring })
  | some .network, some { id, cls := .network } =>
      let (out, ring) := (devices.network id).dequeueUnnumbered stack maxLen
      (out, { devices with network := Function.update devices.network id ring })
  | some .audio, some { id, cls := .audio } =>
      let (out, ring) := (devices.audio id).dequeueUnnumbered stack maxLen
      (out, { devices with audio := Function.update devices.audio id ring })
  | _, _ => (none, devices)

/-- `handleGetPendingOutput`: header and payload of the next entry; the structure returned is
empty when nothing is pending. -/
def handleGetPendingOutput (driver : DriverIVars) (devices : VirtualDevices)
    (stack : PendingOutputHeader) (deviceId : UInt64) :
    IOReturn × List UInt8 × VirtualDevices :=
  match slotIndex deviceId with
  | none => (.notFound, [], devices)
  | some i =>
      let slot := driver.devices i
      if ¬ slot.active then (.notFound, [], devices)
      else
        match devices.dequeue stack slot.deviceType slot.device with
        | (none, devices') => (.success, [], devices')
        | (some (hdr, payload), devices') => (.success, hdr.toBytes ++ payload, devices')

end Extender.Driver
