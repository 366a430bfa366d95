/-
Reads and writes of the virtual storage device on their way to the server.

`DoAsyncReadWrite` queues an entry, `get_pending_output` takes it to the daemon and
`urb_forward_loop` sends a submission for it. The entry of a write is its data, that of a read
a READ(10) command; the request type, the only field that tells them apart, is dropped by the
daemon, and the endpoint is always 0.

What arrives at the server is therefore an OUT transfer on endpoint 0 with one or the other as
its data: a write has lost its address, and a read has lost its direction. Both are shown by
exhibiting another request with the same submission, whatever the state of the device, the
contents of memory and the buffer of the daemon are. For a write it is the same data elsewhere
on the disk, for a read the same command with an address that agrees in its low 32 bits.

The completion of a write reports the size that was asked for. Since a payload of 64 KiB does
not reach the daemon (`PendingOutput`), a write of that size is reported without having been
sent.

* `submission_eq` — the submission of a request, or none if its entry is lost.
* `never_faithful` — no request is determined by its submission.
* `direction_submission` — no read is submitted as an IN transfer.
* `countsSent_iff` — which writes are reported with the bytes they sent.
-/

import Extender.Client.PendingOutput

namespace Extender.Client

open BigEndian Extender.Protocol Extender.Driver

namespace StorageRequests

/-! ### From the queue to the server -/

/-- The submission the forward loop sends for an entry of the storage device; there is none
when the entry is lost on the way to the daemon. -/
def submissionFor (overflow : Overflow) (devid seqnum : UInt32) (entry : PendingOutputEntry) :
    Option CmdSubmit :=
  match receive overflow .success (entryBytes 0 entry) with
  | .ok (some request) => some (ForwardLoop.submissionOf devid seqnum request)
  | _ => none

/-- What the forward loop makes of the result of `get_pending_output`. -/
def PendingOutput.ofResult : Except AttachError (Option PendingRequest) → PendingOutput
  | .ok none => .nothing
  | .ok (some request) => .request request
  | .error _ => .failed

/-- An entry that fits the daemon's buffer becomes an OUT submission of its payload. -/
theorem submissionFor_of_fits (overflow : Overflow) (devid seqnum : UInt32)
    {entry : PendingOutputEntry}
    (hfits : pendingOutputHeaderSize + entry.length.toNat ≤ pendingBufferSize) :
    submissionFor overflow devid seqnum entry = some (ForwardLoop.submissionOf devid seqnum
      { deviceId := 0, endpoint := entry.endpoint, requestId := entry.requestId
        data := entry.payload }) := by
  rw [submissionFor, receive_of_fits overflow 0 hfits]

theorem submissionFor_of_overflow (overflow : Overflow) (devid seqnum : UInt32)
    {entry : PendingOutputEntry}
    (hfits : ¬ pendingOutputHeaderSize + entry.length.toNat ≤ pendingBufferSize) :
    submissionFor overflow devid seqnum entry = none := by
  obtain ⟨e, he⟩ := receive_of_overflow overflow 0 hfits
  rw [submissionFor, he]

/-- A tick on which the driver dequeues `entry` writes that submission, with the loop's next
sequence number, and nothing else. -/
theorem written_pollDriver (overflow : Overflow) {driver : DriverIVars}
    {devices : VirtualDevices} (stack : PendingOutputHeader) {deviceId : UInt32}
    {entry : PendingOutputEntry} (hnext : nextOutput driver devices deviceId = some entry)
    (s : ForwardLoop) :
    (s.pollDriver (PendingOutput.ofResult
        (getPendingOutput overflow driver devices stack deviceId).1) true).written =
      s.written ++
        (submissionFor overflow s.devid s.nextSeqnum entry).toList.map UrbMessage.cmdSubmit := by
  obtain ⟨id, hresult⟩ := getPendingOutput_of_next overflow stack hnext
  rw [hresult]
  by_cases hfits : pendingOutputHeaderSize + entry.length.toNat ≤ pendingBufferSize
  · rw [receive_of_fits overflow id hfits, submissionFor_of_fits overflow _ _ hfits]
    rfl
  · obtain ⟨e, he⟩ := receive_of_overflow overflow id hfits
    rw [he, submissionFor_of_overflow overflow _ _ hfits]
    exact (List.append_nil _).symm

/-! ### The entry of a request -/

/-- The request finds a free slot in the table of those in flight; otherwise the driver
refuses it. -/
def Accepted (ivars : StorageIVars) : Prop := ivars.freeSlot.isSome

/-- The entry `DoAsyncReadWrite` queues for a request, read from the place of the ring it was
put in. -/
def queuedEntry (ivars : StorageIVars) (memory : Memory) (stack : Bytes 16) (r : ReadWrite) :
    PendingOutputEntry :=
  (ivars.doAsyncReadWrite memory stack r).2.ring.pending ivars.ring.pendingTail

/-- An accepted request has its entry at the place the ring put it in. -/
theorem queuedEntry_eq {ivars : StorageIVars} (h : Accepted ivars) (memory : Memory)
    (stack : Bytes 16) (r : ReadWrite) :
    queuedEntry ivars memory stack r =
      (ivars.ring.pending ivars.ring.pendingTail).fill (if r.isRead then 0 else 1) r.requestId
        (r.scratchBytes memory stack) (r.length_scratchBytes_le memory stack) := by
  obtain ⟨slot, hfree⟩ := Option.isSome_iff_exists.mp h
  rw [queuedEntry, StorageIVars.ring_doAsyncReadWrite hfree]
  exact Function.update_self ..

/-- The payload of the entry is the data of a write or the command of a read. -/
@[simp] theorem payload_queuedEntry {ivars : StorageIVars} (h : Accepted ivars) (memory : Memory)
    (stack : Bytes 16) (r : ReadWrite) :
    (queuedEntry ivars memory stack r).payload = r.scratchBytes memory stack := by
  rw [queuedEntry_eq h, PendingOutputEntry.payload_fill]

theorem endpoint_queuedEntry {ivars : StorageIVars} (h : Accepted ivars) (memory : Memory)
    (stack : Bytes 16) (r : ReadWrite) : (queuedEntry ivars memory stack r).endpoint = 0 := by
  rw [queuedEntry_eq h]
  rfl

/-- Once the entries in front of it are taken, the entry of the request is at the front. -/
theorem front_queuedEntry {ivars : StorageIVars} (h : Accepted ivars)
    (hring : ivars.ring.Consistent)
    (hcount : ivars.ring.pendingCount.toNat < maxPendingOutputs)
    (memory : Memory) (stack : Bytes 16) (r : ReadWrite) :
    (OutputRing.pop^[ivars.ring.pendingCount.toNat]
        (ivars.doAsyncReadWrite memory stack r).2.ring).front =
      queuedEntry ivars memory stack r := by
  obtain ⟨slot, hfree⟩ := Option.isSome_iff_exists.mp h
  rw [OutputRing.front_iterate_pop _ hcount, queuedEntry,
    StorageIVars.ring_doAsyncReadWrite hfree, hring]
  rfl

/-- Whether a request has data does not depend on its blocks. -/
theorem carriesData_setBlocks (r : ReadWrite) (lba numOfBlocks : UInt64) :
    ({ r with lba, numOfBlocks } : ReadWrite).CarriesData ↔ r.CarriesData := Iff.rfl

/-- The data of a write and the address of its blocks are never in one entry. -/
theorem scratchBytes_of_carriesData {r : ReadWrite} (h : r.CarriesData) (lba numOfBlocks : UInt64)
    (memory : Memory) (stack : Bytes 16) :
    ({ r with lba, numOfBlocks } : ReadWrite).scratchBytes memory stack =
      r.scratchBytes memory stack := by
  have h' := (carriesData_setBlocks r lba numOfBlocks).mpr h
  rw [ReadWrite.scratchBytes, ReadWrite.scratchBytes, if_pos h, if_pos h']
  rfl

/-- The four low bytes of a number do not see its upper half. -/
theorem toUInt8_shiftRight_add (x : UInt64) {k : UInt64}
    (hk : k.toNat = 0 ∨ k.toNat = 8 ∨ k.toNat = 16 ∨ k.toNat = 24) :
    ((x + 0x100000000) >>> k).toUInt8 = (x >>> k).toUInt8 := by
  have hhalf : (0x100000000 : UInt64).toNat = 2 ^ 32 := rfl
  apply UInt8.toNat_inj.mp
  simp only [UInt64.toNat_toUInt8, UInt64.toNat_shiftRight, UInt64.toNat_add, hhalf,
    Nat.shiftRight_eq_div_pow]
  rcases hk with hk | hk | hk | hk
  all_goals
    simp only [hk, Nat.reduceMod, Nat.reducePow]
    omega

/-- Of the address at most the low 32 bits are: a request for a block `2 ^ 32` further has the
same entry. -/
theorem scratchBytes_add_lba (r : ReadWrite) (memory : Memory) (stack : Bytes 16) :
    ({ r with lba := r.lba + 0x100000000 } : ReadWrite).scratchBytes memory stack =
      r.scratchBytes memory stack := by
  by_cases h : r.CarriesData
  · exact scratchBytes_of_carriesData h (r.lba + 0x100000000) r.numOfBlocks memory stack
  · have h' := mt (carriesData_setBlocks r (r.lba + 0x100000000) r.numOfBlocks).mp h
    rw [ReadWrite.scratchBytes, ReadWrite.scratchBytes, if_neg h, if_neg h']
    have h0 : (r.lba + 0x100000000).toUInt8 = r.lba.toUInt8 := by
      have hzero := toUInt8_shiftRight_add r.lba (k := 0) (Or.inl rfl)
      rw [UInt64.shiftRight_zero, UInt64.shiftRight_zero] at hzero
      exact hzero
    have h8 := toUInt8_shiftRight_add r.lba (k := 8) (Or.inr (Or.inl rfl))
    have h16 := toUInt8_shiftRight_add r.lba (k := 16) (Or.inr (Or.inr (Or.inl rfl)))
    have h24 := toUInt8_shiftRight_add r.lba (k := 24) (Or.inr (Or.inr (Or.inr rfl)))
    simp only [h0, h8, h16, h24]

/-! ### Faithful requests -/

/-- The same direction, the same blocks and, for a write, the same data: what a faithful
submission would have to tell. -/
def SameRequest (memory memory' : Memory) (r r' : ReadWrite) : Prop :=
  r.isRead = r'.isRead ∧ r.lba = r'.lba ∧ r.numOfBlocks = r'.numOfBlocks ∧
    (r.isRead = false →
      memory.read r.dmaAddr r.size.toNat = memory'.read r'.dmaAddr r'.size.toNat)

section Faithful

variable (overflow : Overflow) (devid seqnum : UInt32) (ivars : StorageIVars)

/-- The submission sent for a request. -/
def submission (memory : Memory) (stack : Bytes 16) (r : ReadWrite) : Option CmdSubmit :=
  submissionFor overflow devid seqnum (queuedEntry ivars memory stack r)

/-- A submission is sent, and only for this request: no other request, memory or scratch
buffer leads to it. -/
def Determined (memory : Memory) (stack : Bytes 16) (r : ReadWrite) : Prop :=
  (submission overflow devid seqnum ivars memory stack r).isSome ∧
    ∀ memory' stack' r', submission overflow devid seqnum ivars memory' stack' r' =
      submission overflow devid seqnum ivars memory stack r → SameRequest memory memory' r r'

/-- A read is submitted as an IN transfer, so that data can come back for it. -/
def ReadsIn (memory : Memory) (stack : Bytes 16) (r : ReadWrite) : Prop :=
  r.isRead = true →
    ∀ cmd ∈ submission overflow devid seqnum ivars memory stack r, cmd.header.direction = 1

/-- How many bytes of the request's data the submission carries; a command is no data. -/
def dataSent (memory : Memory) (stack : Bytes 16) (r : ReadWrite) : Nat :=
  match submission overflow devid seqnum ivars memory stack r with
  | none => 0
  | some cmd => if r.CarriesData then cmd.transferBuffer.length else 0

/-- A successful completion of a write reports the bytes that were sent, and no others. -/
def CountsSent (memory : Memory) (stack : Bytes 16) (r : ReadWrite) : Prop :=
  r.isRead = false →
    ∀ memory' payload done,
      ((ivars.doAsyncReadWrite memory stack r).2.completeRequest memory' r.requestId .success
        payload).1 = some done →
      done.transferred.toNat = dataSent overflow devid seqnum ivars memory stack r

/-- The request reaches the device as it was made: the submission determines it, has its
direction, and its data is counted. -/
def Faithful (memory : Memory) (stack : Bytes 16) (r : ReadWrite) : Prop :=
  Determined overflow devid seqnum ivars memory stack r ∧
    ReadsIn overflow devid seqnum ivars memory stack r ∧
    CountsSent overflow devid seqnum ivars memory stack r

variable {ivars} (haccepted : Accepted ivars)

include haccepted

/-- Requests with one entry have one submission: nothing else of a request reaches the
daemon. -/
theorem submission_congr {memory memory' : Memory} {stack stack' : Bytes 16} {r r' : ReadWrite}
    (hread : r.isRead = r'.isRead) (hid : r.requestId = r'.requestId)
    (hscratch : r.scratchBytes memory stack = r'.scratchBytes memory' stack') :
    submission overflow devid seqnum ivars memory stack r =
      submission overflow devid seqnum ivars memory' stack' r' := by
  unfold submission
  rw [queuedEntry_eq haccepted, queuedEntry_eq haccepted]
  simp only [hread, hid, hscratch]

/-- The submission of a request, if its entry fits into the daemon's buffer. -/
theorem submission_eq (memory : Memory) (stack : Bytes 16) (r : ReadWrite) :
    submission overflow devid seqnum ivars memory stack r =
      if (r.scratchBytes memory stack).length ≤ 65512 then
        some (ForwardLoop.submissionOf devid seqnum
          { deviceId := 0, endpoint := 0, requestId := r.requestId
            data := r.scratchBytes memory stack })
      else none := by
  have hlen : (queuedEntry ivars memory stack r).length.toNat =
      (r.scratchBytes memory stack).length := by
    rw [← PendingOutputEntry.length_payload, payload_queuedEntry haccepted]
  have hroom : (r.scratchBytes memory stack).length ≤ 65512 ↔
      pendingOutputHeaderSize + (queuedEntry ivars memory stack r).length.toNat ≤
        pendingBufferSize := by
    rw [hlen]
    exact (Nat.add_le_add_iff_left (n := pendingOutputHeaderSize)).symm
  unfold submission
  split
  · rename_i hfits
    rw [submissionFor_of_fits overflow devid seqnum (hroom.mp hfits),
      endpoint_queuedEntry haccepted, payload_queuedEntry haccepted, queuedEntry_eq haccepted]
    rfl
  · rename_i hover
    exact submissionFor_of_overflow overflow devid seqnum (mt hroom.mpr hover)

/-- No read is submitted as an IN transfer: every submission is an OUT one. -/
theorem direction_submission {memory : Memory} {stack : Bytes 16} {r : ReadWrite}
    {cmd : CmdSubmit} (hcmd : submission overflow devid seqnum ivars memory stack r = some cmd) :
    cmd.header.direction = 0 := by
  rw [submission_eq overflow devid seqnum haccepted] at hcmd
  split at hcmd
  · cases hcmd
    exact if_neg (not_not_intro (by rfl : (0 : UInt32) &&& 0x80 = 0))
  · cases hcmd

/-- A write that completes is reported with its whole size, however much of it was sent. -/
theorem completeRequest_write {r : ReadWrite} (hwrite : r.isRead = false)
    (hfresh : ∀ i, (ivars.inFlight i).valid = true → (ivars.inFlight i).requestId ≠ r.requestId)
    (memory memory' : Memory) (stack : Bytes 16) (payload : Option (List UInt8)) :
    ((ivars.doAsyncReadWrite memory stack r).2.completeRequest memory' r.requestId .success
      payload).1 =
      some { requestId := r.requestId, transferred := r.size, status := .success } := by
  obtain ⟨slot, hfree⟩ := Option.isSome_iff_exists.mp haccepted
  have hentry : (ivars.doAsyncReadWrite memory stack r).2.inFlight =
      Function.update ivars.inFlight slot
        { requestId := r.requestId, dmaAddr := r.dmaAddr, expectedSize := r.size
          isRead := r.isRead, valid := true } := by
    unfold StorageIVars.doAsyncReadWrite
    rw [hfree]
  have hfound : ((List.finRange inFlightCapacity).find? fun i =>
      ((ivars.doAsyncReadWrite memory stack r).2.inFlight i).valid &&
        ((ivars.doAsyncReadWrite memory stack r).2.inFlight i).requestId == r.requestId) =
      some slot := by
    rw [hentry]
    cases hfind : (List.finRange inFlightCapacity).find? _ with
    | none =>
        have hnone := List.find?_eq_none.mp hfind slot (List.mem_finRange slot)
        simp at hnone
    | some i =>
        -- any other slot that matches was there before the request
        have hmatch := List.find?_some hfind
        by_cases hi : i = slot
        · rw [hi]
        · rw [Function.update_of_ne hi, Bool.and_eq_true, beq_iff_eq] at hmatch
          exact absurd hmatch.2 (hfresh i hmatch.1)
  unfold StorageIVars.completeRequest
  rw [hfound]
  simp [hentry, hwrite]

/-- The bytes sent of a write that carries data. -/
theorem dataSent_eq (memory : Memory) (stack : Bytes 16) (r : ReadWrite) :
    dataSent overflow devid seqnum ivars memory stack r =
      if r.CarriesData ∧ r.size.toNat ≤ 65512 then r.size.toNat else 0 := by
  unfold dataSent
  rw [submission_eq overflow devid seqnum haccepted]
  by_cases hdata : r.CarriesData
  · have hlen : (r.scratchBytes memory stack).length = min r.size.toNat maxTransferSize := by
      rw [ReadWrite.scratchBytes, if_pos hdata, Memory.length_read]
      rfl
    by_cases hsize : r.size.toNat ≤ 65512
    · have hfits : (r.scratchBytes memory stack).length = r.size.toNat := by
        rw [hlen]
        exact Nat.min_eq_left (Nat.le_trans hsize (by decide))
      rw [if_pos (hfits.le.trans hsize), if_pos ⟨hdata, hsize⟩]
      exact (if_pos hdata).trans hfits
    · have hover : ¬ (r.scratchBytes memory stack).length ≤ 65512 := by
        rw [hlen, min_le_iff]
        exact fun hle => hle.elim hsize (by decide)
      rw [if_neg hover, if_neg (fun h => hsize h.2)]
  · have hnone : ¬ (r.CarriesData ∧ r.size.toNat ≤ 65512) := fun h => hdata h.1
    rw [if_neg hnone]
    split
    · rfl
    · exact if_neg hdata

/-- Which writes are reported with the bytes they sent: those sent whole, and those of
nothing. -/
theorem countsSent_iff {r : ReadWrite} (hwrite : r.isRead = false)
    (hfresh : ∀ i, (ivars.inFlight i).valid = true → (ivars.inFlight i).requestId ≠ r.requestId)
    (memory : Memory) (stack : Bytes 16) :
    CountsSent overflow devid seqnum ivars memory stack r ↔
      r.size = 0 ∨ r.dmaAddr ≠ 0 ∧ r.size.toNat ≤ 65512 := by
  have hcount : CountsSent overflow devid seqnum ivars memory stack r ↔
      r.size.toNat = dataSent overflow devid seqnum ivars memory stack r := by
    constructor
    · intro h
      exact h hwrite memory none _
        (completeRequest_write haccepted hwrite hfresh memory memory stack none)
    · intro h _ memory' payload done hdone
      rw [completeRequest_write haccepted hwrite hfresh] at hdone
      cases hdone
      exact h
  have hzero : r.size = 0 ↔ r.size.toNat = 0 := UInt64.toNat_inj.symm
  rw [hcount, dataSent_eq overflow devid seqnum haccepted]
  by_cases hdata : r.CarriesData ∧ r.size.toNat ≤ 65512
  · rw [if_pos hdata]
    exact iff_of_true rfl (Or.inr ⟨hdata.1.2.1, hdata.2⟩)
  · rw [if_neg hdata, hzero]
    constructor
    · exact Or.inl
    · rintro (h | ⟨haddr, hsize⟩)
      · exact h
      · by_contra hne
        exact hdata ⟨⟨hwrite, haddr, UInt64.pos_iff_ne_zero.mpr (mt hzero.mp hne)⟩, hsize⟩

/-- **Storage requests.** Whatever the state of the device, its memory and the scratch buffer,
no accepted request is determined by what is sent for it: of a block address only the lower
half is ever put into a command, so another request, 2^32 blocks further on, is sent as the
same submission. -/
theorem never_faithful (memory : Memory) (stack : Bytes 16) (r : ReadWrite) :
    ¬ Faithful overflow devid seqnum ivars memory stack r := by
  rintro ⟨⟨-, hdetermined⟩, -, -⟩
  have hsame : submission overflow devid seqnum ivars memory stack
        { r with lba := r.lba + 0x100000000 } =
      submission overflow devid seqnum ivars memory stack r :=
    submission_congr overflow devid seqnum haccepted rfl rfl (scratchBytes_add_lba r memory stack)
  obtain ⟨-, hlba, -, -⟩ := hdetermined memory stack _ hsame
  have hmoved := congrArg UInt64.toNat hlba
  have hhalf : (0x100000000 : UInt64).toNat = 2 ^ 32 := rfl
  rw [UInt64.toNat_add, hhalf] at hmoved
  have hlt := r.lba.toNat_lt
  omega

end Faithful

theorem accepted_init : Accepted StorageIVars.init := rfl

/-- What is in the scratch buffer before it is written to. -/
def sampleScratch : Bytes 16 := Bytes.zeroPadded [] (Nat.zero_le _)

/-- A write of one block, on a device with nothing in flight, is not faithful. -/
theorem never_faithful_sampleWrite :
    Accepted StorageIVars.init ∧
      ¬ Faithful .truncated 1 1 StorageIVars.init (fun _ => 0) sampleScratch (sampleWrite 512) :=
  ⟨accepted_init, never_faithful .truncated 1 1 accepted_init _ _ _⟩

/-- Writes of the same block of zeros to two places are one submission, so that the server
cannot tell which was meant. -/
theorem write_address_lost :
    ¬ ∀ (overflow : Overflow) (devid seqnum : UInt32) (ivars : StorageIVars) (memory : Memory)
      (stack : Bytes 16) (r : ReadWrite), Accepted ivars →
      Faithful overflow devid seqnum ivars memory stack r := by
  intro hall
  obtain ⟨⟨-, hdetermined⟩, -, -⟩ :=
    hall .truncated 1 1 StorageIVars.init (fun _ => 0) sampleScratch (sampleWrite 512) accepted_init
  have hdata : (sampleWrite 512).CarriesData := by decide
  have hsame : submission .truncated 1 1 .init (fun _ => 0) sampleScratch
        { sampleWrite 512 with lba := 7 } =
      submission .truncated 1 1 .init (fun _ => 0) sampleScratch (sampleWrite 512) :=
    submission_congr .truncated 1 1 accepted_init rfl rfl
      (scratchBytes_of_carriesData hdata 7 _ (fun _ => 0) sampleScratch)
  obtain ⟨-, hlba, -, -⟩ := hdetermined (fun _ => 0) sampleScratch _ hsame
  exact absurd hlba (by decide)

end StorageRequests

end Extender.Client
