/-
Taking host requests from the driver (`get_pending_output` of `vhci_macos.rs`).

The driver answers `kGetPendingOutput` with a header of 24 bytes and up to 64 KiB of payload,
and has removed the entry from its queue by then. The daemon passes a buffer of 64 KiB for
both, so the largest payloads do not fit.

The daemon's call is made on `handleGetPendingOutput` directly, to which `ExternalMethod`
passes the device id (`Driver.ExternalMethod`). Between the two lies IOKit, of which only this
is assumed: a structure that does not fit the caller's buffer is cut to it, or fails the call
with a code of its choice (`Overflow`). The results are for either behaviour.

Header fields are read back in the host's byte order. The header the driver writes lies on its
stack, and a field that is not written is whatever was there; it is an argument here, and no
result depends on it.

* `receive_of_fits`, `receive_of_overflow` — what the daemon makes of an entry, by its size.
* `handsOver_iff` — the daemon gets the entry exactly when header and payload fit.
* `largest_write_lost` — a write of 64 KiB is taken from the queue and reaches nobody.
-/

import Extender.Driver.VirtualDevices
import Extender.Client.Attach
import Extender.Client.Forward

namespace Extender.Client

open BigEndian Extender.Driver

/-! ### Structures through IOKit -/

/-- What IOKit does with a structure longer than the caller's buffer: it is cut, or the call
fails with a code. -/
inductive Overflow where
  | truncated
  | failed (code : IOReturn) (ne_success : code ≠ .success)

/-- What the caller of `IOConnectCallMethod` sees: the return code and the bytes put at the
front of its buffer. -/
def deliver (overflow : Overflow) (capacity : Nat) (ret : IOReturn) (structureOutput : List UInt8) :
    IOReturn × List UInt8 :=
  if ret ≠ .success then (ret, [])
  else if structureOutput.length ≤ capacity then (.success, structureOutput)
  else
    match overflow with
    | .truncated => (.success, structureOutput.take capacity)
    | .failed code _ => (code, [])

/-- `u32::from_ne_bytes` of the four bytes at `offset`. -/
def u32At (buf : List UInt8) (offset : Nat) : UInt32 :=
  UInt32.ofNat (ofBytes ((buf.drop offset).take 4).reverse)

@[simp] theorem u32At_zero_append (x : UInt32) (rest : List UInt8) :
    u32At (u32HostBytes x ++ rest) 0 = x := by
  have hlen : (u32HostBytes x).length = 4 := by simp [u32HostBytes]
  rw [u32At, List.drop_zero, List.take_append_of_le_length hlen.ge, ← hlen, List.take_length,
    u32HostBytes, List.reverse_reverse, u32Bytes, ofBytes_toBytes (w := 4) x.toNat_lt,
    UInt32.ofNat_toNat]

theorem u32At_append (front rest : List UInt8) (offset : Nat) :
    u32At (front ++ rest) (front.length + offset) = u32At rest offset := by
  rw [u32At, List.drop_append, List.drop_eq_nil_of_le (Nat.le_add_right _ _), List.nil_append,
    Nat.add_sub_cancel_left, u32At]

@[simp] theorem u32At_add_four (x : UInt32) (rest : List UInt8) (offset : Nat) :
    u32At (u32HostBytes x ++ rest) (offset + 4) = u32At rest offset := by
  have hlen : (u32HostBytes x).length = 4 := by simp [u32HostBytes]
  rw [Nat.add_comm, ← hlen, u32At_append]

/-! ### `get_pending_output` -/

/-- The capacity of the daemon's buffer. -/
abbrev pendingBufferSize : Nat := 65536

abbrev pendingOutputHeaderSize : Nat := 24

/-- The part after the call: `buf` is what was put into the buffer, which may be empty, too
short or a header and its data. -/
def parsePendingOutput (buf : List UInt8) : Except AttachError (Option PendingRequest) :=
  if buf.length = 0 then .ok none
  else if buf.length < pendingOutputHeaderSize then
    .error (.ioKit (.other (-1)) ("get_pending_output: short header " ++ toString buf.length ++
      " < " ++ toString pendingOutputHeaderSize))
  else
    let payloadEnd := pendingOutputHeaderSize + (u32At buf 8).toNat
    if payloadEnd > buf.length then
      .error (.ioKit (.other (-1)) ("get_pending_output: truncated payload " ++
        toString payloadEnd ++ " > " ++ toString buf.length))
    else
      .ok (some
        { deviceId := u32At buf 0, endpoint := u32At buf 4, requestId := u32At buf 16
          data := (buf.take payloadEnd).drop pendingOutputHeaderSize })

/-- The daemon's side of the call: the bytes IOKit delivers into the buffer, parsed if the
call succeeded. -/
def receive (overflow : Overflow) (ret : IOReturn) (structureOutput : List UInt8) :
    Except AttachError (Option PendingRequest) :=
  match deliver overflow pendingBufferSize ret structureOutput with
  | (.success, buf) => parsePendingOutput buf
  | (kr, _) => .error (.ioKit kr "get_pending_output failed")

/-- `get_pending_output`, by a direct call of `handleGetPendingOutput`: the structure it
returns goes to the daemon through IOKit, which `receive` has in it, and the devices are left
without the entry. -/
def getPendingOutput (overflow : Overflow) (driver : DriverIVars) (devices : VirtualDevices)
    (stack : PendingOutputHeader) (deviceId : UInt32) :
    Except AttachError (Option PendingRequest) × VirtualDevices :=
  let (ret, structureOutput, devices') :=
    handleGetPendingOutput driver devices stack deviceId.toUInt64
  (receive overflow ret structureOutput, devices')

/-! ### The header read back -/

theorem length_toBytes_pendingOutputHeader (hdr : PendingOutputHeader) :
    hdr.toBytes.length = pendingOutputHeaderSize := by
  simp [PendingOutputHeader.toBytes, u32HostBytes]

/-- A header is read back, and the payload behind it if all of it is there. -/
theorem parsePendingOutput_header (hdr : PendingOutputHeader) (rest : List UInt8) :
    parsePendingOutput (hdr.toBytes ++ rest) =
      if hdr.dataLength.toNat ≤ rest.length then
        .ok (some
          { deviceId := hdr.deviceId, endpoint := hdr.endpoint, requestId := hdr.requestId
            data := rest.take hdr.dataLength.toNat })
      else
        .error (.ioKit (.other (-1)) ("get_pending_output: truncated payload " ++
          toString (pendingOutputHeaderSize + hdr.dataLength.toNat) ++ " > " ++
          toString (pendingOutputHeaderSize + rest.length))) := by
  have hlen : (hdr.toBytes ++ rest).length = pendingOutputHeaderSize + rest.length := by
    rw [List.length_append, length_toBytes_pendingOutputHeader]
  have hdevice : u32At (hdr.toBytes ++ rest) 0 = hdr.deviceId := by
    simp [PendingOutputHeader.toBytes]
  have hendpoint : u32At (hdr.toBytes ++ rest) (0 + 4) = hdr.endpoint := by
    simp only [PendingOutputHeader.toBytes, List.append_assoc, u32At_add_four, u32At_zero_append]
  have hdata : u32At (hdr.toBytes ++ rest) (0 + 4 + 4) = hdr.dataLength := by
    simp only [PendingOutputHeader.toBytes, List.append_assoc, u32At_add_four, u32At_zero_append]
  have hrequest : u32At (hdr.toBytes ++ rest) (0 + 4 + 4 + 4 + 4) = hdr.requestId := by
    simp only [PendingOutputHeader.toBytes, List.append_assoc, u32At_add_four, u32At_zero_append]
  have hpayload : ((hdr.toBytes ++ rest).take (pendingOutputHeaderSize + hdr.dataLength.toNat)).drop
      pendingOutputHeaderSize = rest.take hdr.dataLength.toNat := by
    rw [List.drop_take, Nat.add_sub_cancel_left,
      List.drop_left' (length_toBytes_pendingOutputHeader hdr)]
  unfold parsePendingOutput
  have hsize : pendingOutputHeaderSize = 24 := rfl
  rw [hlen, if_neg (by omega), if_neg (by omega), hdata]
  by_cases hfits : hdr.dataLength.toNat ≤ rest.length
  · rw [if_pos hfits, if_neg (by omega), hdevice, hendpoint, hrequest, hpayload]
  · rw [if_neg hfits, if_pos (by omega)]

/-! ### Handing an entry over -/

/-- The queue of the HID or storage device in a slot; the other classes number nothing. -/
def outputRing (devices : VirtualDevices) (slot : DeviceSlot) : Option OutputRing :=
  match DeviceType.ofRaw slot.deviceType.toUInt64, slot.device with
  | some .hid, some { id, cls := .hid } => some (devices.hid id).ring
  | some .storage, some { id, cls := .storage } => some (devices.storage id).ring
  | _, _ => none

/-- The entry a call for `deviceId` dequeues from a HID or storage device, if it has one
queued. -/
def nextOutput (driver : DriverIVars) (devices : VirtualDevices) (deviceId : UInt32) :
    Option PendingOutputEntry :=
  match slotIndex deviceId.toUInt64 with
  | none => none
  | some i =>
      if (driver.devices i).active then
        match outputRing devices (driver.devices i) with
        | none => none
        | some ring => if ring.pendingCount = 0 then none else some ring.front
      else none

/-- The daemon got the entry: its endpoint, its request id and all of its payload. -/
def HandsOver (entry : PendingOutputEntry) (result : Except AttachError (Option PendingRequest)) :
    Prop :=
  ∃ request, result = .ok (some request) ∧ request.endpoint = entry.endpoint ∧
    request.requestId = entry.requestId ∧ request.data = entry.payload

/-- The device dequeues the entry at the head of its queue whole. -/
theorem dequeue_of_outputRing {devices : VirtualDevices} {slot : DeviceSlot} {ring : OutputRing}
    (hring : outputRing devices slot = some ring) (hcount : ring.pendingCount ≠ 0)
    (stack : PendingOutputHeader) :
    ∃ id devices', devices.dequeue stack slot.deviceType slot.device =
        (some (.ofEntry id ring.front ring.front.length, ring.front.payload), devices') ∧
      outputRing devices' slot = some ring.pop := by
  unfold outputRing at hring
  split at hring
  · rename_i id htype hdevice
    cases hring
    let ivars := { devices.hid id with ring := (devices.hid id).ring.pop }
    refine ⟨(devices.hid id).deviceId,
      { devices with hid := Function.update devices.hid id ivars }, ?_, ?_⟩
    · unfold VirtualDevices.dequeue HidIVars.dequeuePendingOutput
      rw [htype, hdevice]
      simp only [OutputRing.dequeue_of_pending hcount]
      rfl
    · unfold outputRing
      rw [htype, hdevice]
      simp only [Function.update_self, ivars]
  · rename_i id htype hdevice
    cases hring
    let ivars := { devices.storage id with ring := (devices.storage id).ring.pop }
    refine ⟨0, { devices with storage := Function.update devices.storage id ivars }, ?_, ?_⟩
    · unfold VirtualDevices.dequeue StorageIVars.dequeuePendingOutput
      rw [htype, hdevice]
      simp only [OutputRing.dequeue_of_pending hcount]
      rfl
    · unfold outputRing
      rw [htype, hdevice]
      simp only [Function.update_self, ivars]
  · cases hring

theorem nextOutput_eq_some_iff {driver : DriverIVars} {devices : VirtualDevices}
    {deviceId : UInt32} {entry : PendingOutputEntry} :
    nextOutput driver devices deviceId = some entry ↔
      ∃ i ring, slotIndex deviceId.toUInt64 = some i ∧ (driver.devices i).active = true ∧
        outputRing devices (driver.devices i) = some ring ∧ ring.pendingCount ≠ 0 ∧
        ring.front = entry := by
  unfold nextOutput
  cases hslot : slotIndex deviceId.toUInt64 with
  | none => simp
  | some i =>
      cases hactive : (driver.devices i).active with
      | false => simp [hactive]
      | true =>
          cases hring : outputRing devices (driver.devices i) with
          | none => simp [hactive, hring]
          | some ring =>
              by_cases hcount : ring.pendingCount = 0
              · simp [hactive, hring, hcount]
              · simp [hactive, hring, hcount]

/-- The structure the driver returns for an entry: the header of 24 bytes, then the
payload. -/
def entryBytes (id : UInt32) (entry : PendingOutputEntry) : List UInt8 :=
  (PendingOutputHeader.ofEntry id entry entry.length).toBytes ++ entry.payload

theorem ofEntry_dataLength (id : UInt32) (entry : PendingOutputEntry) (n : UInt32) :
    (PendingOutputHeader.ofEntry id entry n).dataLength = n := rfl

theorem length_entryBytes (id : UInt32) (entry : PendingOutputEntry) :
    (entryBytes id entry).length = pendingOutputHeaderSize + entry.length.toNat := by
  rw [entryBytes, List.length_append, length_toBytes_pendingOutputHeader, entry.length_payload]

/-- The driver returns the entry at the head of the queue, and it is gone from the queue. -/
theorem handleGetPendingOutput_of_pending {driver : DriverIVars} {devices : VirtualDevices}
    {deviceId : UInt64} {i : Fin maxDevices} {ring : OutputRing}
    (hslot : slotIndex deviceId = some i) (hactive : (driver.devices i).active = true)
    (hring : outputRing devices (driver.devices i) = some ring) (hcount : ring.pendingCount ≠ 0)
    (stack : PendingOutputHeader) :
    ∃ id devices', handleGetPendingOutput driver devices stack deviceId =
        (.success, entryBytes id ring.front, devices') ∧
      outputRing devices' (driver.devices i) = some ring.pop := by
  obtain ⟨id, devices', hdequeue, hpop⟩ := dequeue_of_outputRing hring hcount stack
  refine ⟨id, devices', ?_, hpop⟩
  unfold handleGetPendingOutput
  rw [hslot]
  simp [hactive, hdequeue, entryBytes]

/-- An entry is read back from its header and payload if both fit into the buffer. -/
theorem receive_of_fits (overflow : Overflow) (id : UInt32) {entry : PendingOutputEntry}
    (hfits : pendingOutputHeaderSize + entry.length.toNat ≤ pendingBufferSize) :
    receive overflow .success (entryBytes id entry) =
      .ok (some
        { deviceId := id, endpoint := entry.endpoint, requestId := entry.requestId
          data := entry.payload }) := by
  have hdelivered : deliver overflow pendingBufferSize .success (entryBytes id entry) =
      (.success, entryBytes id entry) := by
    unfold deliver
    rw [if_neg (by simp), length_entryBytes, if_pos hfits]
  have hparse := parsePendingOutput_header (.ofEntry id entry entry.length) entry.payload
  rw [ofEntry_dataLength, if_pos entry.length_payload.ge, ← entry.length_payload,
    List.take_length] at hparse
  rw [receive, hdelivered]
  exact hparse

/-- Otherwise the call fails, whatever IOKit does: cut to the buffer, the header announces
more payload than there is. -/
theorem receive_of_overflow (overflow : Overflow) (id : UInt32) {entry : PendingOutputEntry}
    (hfits : ¬ pendingOutputHeaderSize + entry.length.toNat ≤ pendingBufferSize) :
    ∃ e, receive overflow .success (entryBytes id entry) = .error e := by
  unfold receive deliver
  rw [if_neg (by simp), length_entryBytes, if_neg hfits]
  cases overflow with
  | truncated =>
      have hsizes : pendingBufferSize = pendingOutputHeaderSize + 65512 := rfl
      have hcut : (entryBytes id entry).take pendingBufferSize =
          (PendingOutputHeader.ofEntry id entry entry.length).toBytes ++
            entry.payload.take 65512 := by
        rw [entryBytes, hsizes, ← length_toBytes_pendingOutputHeader, List.take_length_add_append]
      have hshort : ¬ entry.length.toNat ≤ (entry.payload.take 65512).length := by
        rw [List.length_take]
        omega
      have hparse := parsePendingOutput_header (.ofEntry id entry entry.length)
        (entry.payload.take 65512)
      rw [← hcut, ofEntry_dataLength, if_neg hshort] at hparse
      exact ⟨_, hparse⟩
  | failed code hcode =>
      cases code with
      | success => exact absurd rfl hcode
      | _ => exact ⟨_, rfl⟩

/-- A call that dequeues an entry returns what the daemon makes of the entry's bytes. -/
theorem getPendingOutput_of_next (overflow : Overflow) {driver : DriverIVars}
    {devices : VirtualDevices} (stack : PendingOutputHeader) {deviceId : UInt32}
    {entry : PendingOutputEntry} (hnext : nextOutput driver devices deviceId = some entry) :
    ∃ id, (getPendingOutput overflow driver devices stack deviceId).1 =
      receive overflow .success (entryBytes id entry) := by
  obtain ⟨i, ring, hslot, hactive, hring, hcount, rfl⟩ := nextOutput_eq_some_iff.mp hnext
  obtain ⟨id, devices', hhandle, -⟩ :=
    handleGetPendingOutput_of_pending hslot hactive hring hcount stack
  refine ⟨id, ?_⟩
  unfold getPendingOutput
  rw [hhandle]

theorem not_handsOver_error (entry : PendingOutputEntry) (e : AttachError) :
    ¬ HandsOver entry (.error e) := by
  rintro ⟨request, hsome, -⟩
  cases hsome

/-- **Handing over.** For every state of the driver and its HID and storage devices, every
behaviour of IOKit for long structures and every entry a call dequeues, the daemon gets the
entry if and only if its payload leaves room for the header in the daemon's buffer. -/
theorem handsOver_iff (overflow : Overflow) (driver : DriverIVars) (devices : VirtualDevices)
    (stack : PendingOutputHeader) (deviceId : UInt32) (entry : PendingOutputEntry)
    (hnext : nextOutput driver devices deviceId = some entry) :
    HandsOver entry (getPendingOutput overflow driver devices stack deviceId).1 ↔
      entry.length.toNat ≤ 65512 := by
  obtain ⟨id, hresult⟩ := getPendingOutput_of_next overflow stack hnext
  have hroom : entry.length.toNat ≤ 65512 ↔
      pendingOutputHeaderSize + entry.length.toNat ≤ pendingBufferSize :=
    (Nat.add_le_add_iff_left (n := pendingOutputHeaderSize)).symm
  rw [hresult, hroom]
  by_cases hfits : pendingOutputHeaderSize + entry.length.toNat ≤ pendingBufferSize
  · refine iff_of_true ?_ hfits
    rw [receive_of_fits overflow id hfits]
    exact ⟨_, rfl, rfl, rfl, rfl⟩
  · refine iff_of_false ?_ hfits
    obtain ⟨e, he⟩ := receive_of_overflow overflow id hfits
    rw [he]
    exact not_handsOver_error entry e

/-- A driver with a storage device in slot 0. -/
def storageDriver : DriverIVars :=
  (handleCreateDevice (fun _ => (.success, some { id := 0, cls := .storage })) .zero 2 0).2

/-- A write of `size` zero bytes to the first blocks. -/
def sampleWrite (size : UInt64) : ReadWrite :=
  { isRead := false, requestId := 9, dmaAddr := 4096, size, lba := 0, numOfBlocks := size / 512
    options := 0 }

/-- The devices when the host has asked the storage device for that write. -/
def devicesAfterWrite (size : UInt64) : VirtualDevices :=
  { hid := fun _ => .init
    storage := fun _ =>
      (StorageIVars.init.doAsyncReadWrite (fun _ => 0) (Bytes.zeroPadded [] (by decide))
        (sampleWrite size)).2
    serial := fun _ => .zero
    network := fun _ => .zero
    audio := fun _ => .zero }

/-- The entry queued for it. -/
def sampleEntry (size : UInt64) : PendingOutputEntry :=
  ((devicesAfterWrite size).storage 0).ring.front

theorem freeSlot_init : StorageIVars.init.freeSlot = some 0 := rfl

theorem nextOutput_sampleEntry (size : UInt64) :
    nextOutput storageDriver (devicesAfterWrite size) 0 = some (sampleEntry size) := by
  have hcount : ((devicesAfterWrite size).storage 0).ring.pendingCount ≠ 0 := by
    show (StorageIVars.doAsyncReadWrite _ _ _ _).2.ring.pendingCount ≠ 0
    rw [StorageIVars.ring_doAsyncReadWrite freeSlot_init]
    show (0 : UInt32) + 1 ≠ 0
    decide
  exact nextOutput_eq_some_iff.mpr ⟨0, _, rfl, rfl, rfl, hcount, rfl⟩

theorem length_sampleEntry {size : UInt64} (hpos : size > 0) :
    (sampleEntry size).length.toNat = min size.toNat maxTransferSize := by
  have hdata : (sampleWrite size).CarriesData := ⟨rfl, (by decide : (4096 : UInt64) ≠ 0), hpos⟩
  have hfill : sampleEntry size = PendingOutputEntry.zero.fill 1 9
      ((sampleWrite size).scratchBytes (fun _ => 0) (Bytes.zeroPadded [] (by decide)))
      (ReadWrite.length_scratchBytes_le _ _ _) := by
    unfold sampleEntry devicesAfterWrite
    rw [StorageIVars.ring_doAsyncReadWrite freeSlot_init]
    exact OutputRing.front_push rfl _ _ _
  rw [← PendingOutputEntry.length_payload, hfill, PendingOutputEntry.payload_fill,
    ReadWrite.scratchBytes, if_pos hdata, Memory.length_read]
  rfl

/-- What is on the stack when the header is written. -/
def sampleStack : PendingOutputHeader :=
  { deviceId := 0, endpoint := 0, dataLength := 0, requestType := 0, requestId := 0
    reserved := 0 }

/-- A write of 127 blocks is handed over. -/
theorem handsOver_sampleWrite :
    nextOutput storageDriver (devicesAfterWrite 65024) 0 = some (sampleEntry 65024) ∧
      HandsOver (sampleEntry 65024)
        (getPendingOutput .truncated storageDriver (devicesAfterWrite 65024) sampleStack 0).1 := by
  have hlen : (sampleEntry 65024).length.toNat = 65024 := length_sampleEntry (by decide)
  have hnext := nextOutput_sampleEntry 65024
  refine ⟨hnext, (handsOver_iff .truncated _ _ sampleStack 0 _ hnext).mpr ?_⟩
  rw [hlen]
  decide

/-- A write of 128 blocks is the largest the device queues, and it is lost. -/
theorem largest_write_lost :
    ¬ ∀ (overflow : Overflow) (driver : DriverIVars) (devices : VirtualDevices)
      (stack : PendingOutputHeader) (deviceId : UInt32) (entry : PendingOutputEntry),
      nextOutput driver devices deviceId = some entry →
      HandsOver entry (getPendingOutput overflow driver devices stack deviceId).1 := by
  intro hall
  have hlen : (sampleEntry 65536).length.toNat = 65536 := length_sampleEntry (by decide)
  have hnext := nextOutput_sampleEntry 65536
  obtain ⟨id, hresult⟩ := getPendingOutput_of_next .truncated sampleStack hnext
  have hlost := hall .truncated _ _ sampleStack 0 _ hnext
  have hover : ¬ pendingOutputHeaderSize + (sampleEntry 65536).length.toNat ≤
      pendingBufferSize := by
    rw [hlen]
    decide
  obtain ⟨e, he⟩ := receive_of_overflow .truncated id hover
  rw [hresult, he] at hlost
  exact not_handsOver_error _ _ hlost

end Extender.Client
