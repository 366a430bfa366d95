/-
Disks over a connection.

The mass storage driver reads and writes blocks of a disk through three layers: its commands
are wrapped for bulk-only transport, the wrappers and the data travel as USB transfers, and
the transfers are submitted to a server that makes them on the device. This module says what
is left of all that for the user of the driver: the disk is an array of bytes.

The disk is any device of `Extender.System.Gadget` that keeps the laws of bulk-only transport,
`BulkOnly`. There is one law for each command the driver uses, one for each direction of the
data, and one for the status. They speak only about commands within the disk, with the
direction and the length of their data announced as they are, and about transfers made in
their turn; a disk may do as it likes with everything else. Which state of the device stands
for which content is for the disk to say (`BulkOnly.At`).

* `BulkOnly` — the laws.
* `BulkOnly.yields_call` — a call within the disk reads or writes the array.
* `disk_over_connection` — however the client, the session's parties and the disk are
  interleaved on a connection that holds, the calls of a session return what the array says,
  each read what the writes before it have left.
* `gadget`, `bulkOnly` — a disk that keeps the laws.

The bounds are those of the code. A block count is cast to 16 bits and a block address to 32
bits, so a call has a count from 1 to 65535 and the disk at most 2^32 blocks; the server takes
no transfer above 1048576 bytes, so the buffers are no longer than that. The driver always
uses the endpoints 0x02 and 0x81.
-/

import Extender.Client.BlockTransfers
import Extender.Client.Wrappers
import Extender.System.ClassTransfers
import Extender.System.RemoteSession

namespace Extender.System.Disk

open BigEndian Dialogue Extender.Protocol Extender.Client Extender.Client.MassStorage
open Extender.Server (UsbCall UsbAnswer)

/-! ### The array -/

/-- The bytes of `content` from `offset` on. -/
def readAt (content : List UInt8) (offset n : Nat) : List UInt8 := (content.drop offset).take n

/-- `content` with `data` at `offset`. -/
def writeAt (content : List UInt8) (offset : Nat) (data : List UInt8) : List UInt8 :=
  content.take offset ++ (data ++ content.drop (offset + data.length))

theorem length_readAt {content : List UInt8} {offset n : Nat} (h : offset + n ≤ content.length) :
    (readAt content offset n).length = n := by
  rw [readAt, List.length_take, List.length_drop]
  omega

theorem length_writeAt {content data : List UInt8} {offset : Nat}
    (h : offset + data.length ≤ content.length) :
    (writeAt content offset data).length = content.length := by
  simp only [writeAt, List.length_append, List.length_take, List.length_drop]
  omega

/-! ### The laws of a disk -/

/-- What a disk is made with. The address of its last block fits the 32 bits that READ
CAPACITY(10) has for it. -/
structure Geometry where
  blockSize : UInt32
  blocks : Nat
  blockSize_pos : 0 < blockSize.toNat
  blocks_pos : 0 < blocks
  blocks_le : blocks ≤ 2 ^ 32

namespace Geometry

variable (geo : Geometry)

/-- The size of a disk in bytes. -/
def size : Nat := geo.blocks * geo.blockSize.toNat

/-- The answer to READ CAPACITY(10): the address of the last block and the size of a block. -/
def capacity : List UInt8 :=
  u32Bytes (UInt32.ofNat (geo.blocks - 1)) ++ u32Bytes geo.blockSize

/-- The first byte of the blocks that a command names. -/
def offset (cb : Bytes 16) : Nat := cdbLba cb * geo.blockSize.toNat

/-- The number of bytes in the blocks that a command names. -/
def extent (cb : Bytes 16) : Nat := cdbBlocks cb * geo.blockSize.toNat

end Geometry

/-- Where a disk stands in the exchange of a command: it waits for one, it has data for the
host, it waits for data of the host, or it has the status wrapper. -/
inductive Stage where
  | command
  | dataIn (data : List UInt8) (tag : UInt32)
  | dataOut (offset length : Nat) (tag : UInt32)
  | status (tag : UInt32) (status : CswStatus)
deriving DecidableEq, Repr

/-- The status wrapper of a command; no data is left over. -/
def statusBytes (tag : UInt32) (status : CswStatus) : List UInt8 :=
  (Csw.toBytes { signature := cswSignature, tag, dataResidue := 0, status }).val

/-- The wrapper is valid, and announces a command with `length` bytes of data, in the
direction its flags have. -/
structure Announces (cbw : Cbw) (opcode : UInt8) (direction : Direction) (length : Nat) : Prop where
  signature : cbw.signature = cbwSignature
  opcode : cbw.cb.val.getD 0 0 = opcode
  flags : cbw.flags = if direction = .inward then 0x80 else 0x00
  length : cbw.dataTransferLength.toNat = length

/-- The device takes a transfer of `data` on its OUT endpoint and then satisfies `P`. -/
def Takes (g : Gadget) (s : g.State) (data : List UInt8) (P : g.State → Prop) : Prop :=
  ∃ n buf s', g.perform s (.writeBulk 0x02 data) = (some (.ok (n, buf)), s') ∧ P s'

/-- The device fills a buffer of `length` bytes with `data` on its IN endpoint, reports how
many bytes that are, and then satisfies `P`. -/
def Gives (g : Gadget) (s : g.State) (length : Nat) (data : List UInt8)
    (P : g.State → Prop) : Prop :=
  ∃ n buf s', g.perform s (.readBulk 0x81 length) = (some (.ok (n, buf)), s') ∧
    buf.take n = data ∧ P s'

/-- A disk that follows bulk-only transport. `At s stage content` says that the device in
state `s` stands at `stage` and that its blocks hold `content`. -/
structure BulkOnly (geo : Geometry) (g : Gadget) where
  At : g.State → Stage → List UInt8 → Prop
  /-- INQUIRY is answered with what the disk has to say about itself, at most 36 bytes. -/
  inquiry : ∀ {s content cbw}, At s .command content → Announces cbw 0x12 .inward 36 →
    ∃ data, data.length ≤ 36 ∧ Takes g s cbw.toBytes.val (At · (.dataIn data cbw.tag) content)
  /-- READ CAPACITY(10) is answered with the geometry. -/
  readCapacity : ∀ {s content cbw}, At s .command content → Announces cbw 0x25 .inward 8 →
    Takes g s cbw.toBytes.val (At · (.dataIn geo.capacity cbw.tag) content)
  /-- READ(10) within the disk is answered with the blocks it names. -/
  read : ∀ {s content cbw}, At s .command content →
    Announces cbw 0x28 .inward (geo.extent cbw.cb) →
    geo.offset cbw.cb + geo.extent cbw.cb ≤ geo.size →
    Takes g s cbw.toBytes.val
      (At · (.dataIn (readAt content (geo.offset cbw.cb) (geo.extent cbw.cb)) cbw.tag) content)
  /-- WRITE(10) within the disk waits for the blocks it names. -/
  write : ∀ {s content cbw}, At s .command content →
    Announces cbw 0x2A .outward (geo.extent cbw.cb) →
    geo.offset cbw.cb + geo.extent cbw.cb ≤ geo.size →
    Takes g s cbw.toBytes.val
      (At · (.dataOut (geo.offset cbw.cb) (geo.extent cbw.cb) cbw.tag) content)
  /-- Data for the host is given into a buffer that has room for it; then the command passed. -/
  giveData : ∀ {s content data tag length}, At s (.dataIn data tag) content →
    data.length ≤ length → Gives g s length data (At · (.status tag .passed) content)
  /-- Data of the host, all of it, is written to its place; then the command passed. -/
  takeData : ∀ {s content data offset tag}, At s (.dataOut offset data.length tag) content →
    Takes g s data (At · (.status tag .passed) (writeAt content offset data))
  /-- The status wrapper is given once, and the disk waits for the next command. -/
  giveStatus : ∀ {s content tag}, At s (.status tag .passed) content →
    Gives g s cswSize (statusBytes tag .passed) (At · .command content)

/-! ### Transfers of the driver -/

/-- The driver uses the endpoints of the disk: 0x02 for what goes to it, and 0x81 for what
comes from it. -/
def Wired (d : ClassDevice Fields) : Prop := d.fields.epOut = 0x02 ∧ d.fields.epIn = 0x81

/-- The devices differ in their counters only: tags and sequence numbers go on, whoever is at
the other end. -/
def Alike (d d' : ClassDevice Fields) : Prop :=
  ∃ seqnum tag, d' = { d with nextSeqnum := seqnum, fields := { d.fields with nextTag := tag } }

theorem Alike.trans {d d' d'' : ClassDevice Fields} (h : Alike d d') (h' : Alike d' d'') :
    Alike d d'' := by
  obtain ⟨seqnum, tag, rfl⟩ := h
  obtain ⟨seqnum', tag', rfl⟩ := h'
  exact ⟨seqnum', tag', rfl⟩

theorem alike_advance (d : ClassDevice Fields) : Alike d d.advance := ⟨_, _, rfl⟩

theorem alike_tagged (d : ClassDevice Fields) : Alike d (tagged d) := ⟨_, _, rfl⟩

theorem Wired.alike {d d' : ClassDevice Fields} (h : Wired d) (halike : Alike d d') : Wired d' := by
  obtain ⟨seqnum, tag, rfl⟩ := halike
  exact h

section Transfers

variable {g : Gadget} {s : g.State} {d : ClassDevice Fields} {P : g.State → Prop}

theorem submitTransfer_out (hwired : Wired d) (payload : List UInt8) :
    Server.submitTransfer (outSubmission d payload) =
      ⟨.writeBulk 0x02 payload, Server.writeFinish⟩ := by
  have hep : endpointNumber d.fields.epOut ≠ 0 := by
    rw [hwired.1]
    decide
  exact (submitTransfer_bulkOut hep payload).trans (by rw [hwired.1]; rfl)

theorem submitTransfer_in (hwired : Wired d) (length : UInt32) :
    Server.submitTransfer (inSubmission d length) =
      ⟨.readBulk 0x81 length.toNat, Server.readFinish⟩ := by
  have hep : endpointNumber d.fields.epIn ≠ 0 := by
    rw [hwired.2]
    decide
  exact (submitTransfer_bulkIn hep length).trans (by rw [hwired.2]; rfl)

theorem yields_getFields : Script.Yields g.answer getFields d s none d s none d.fields :=
  Script.Yields.get.bind (.pure _)

theorem yields_sendBulkOut (hwired : Wired d) {payload : List UInt8} (h : Takes g s payload P) :
    ∃ pending s', P s' ∧ Returns pending [] ∧
      Script.Yields g.answer (sendBulkOut payload) d s none d.advance s' pending () := by
  obtain ⟨n, buf, s', hperform, hafter⟩ := h
  obtain ⟨pending, hreturns, hsent⟩ := yields_toDevice (submitTransfer_out hwired payload) hperform
  exact ⟨pending, s', hafter, hreturns, yields_getFields.bind hsent⟩

theorem yields_receiveBulkIn (hwired : Wired d) {length : UInt32} {data : List UInt8}
    (h : Gives g s length.toNat data P) :
    ∃ s', P s' ∧
      Script.Yields g.answer (receiveBulkIn length) d s none d.advance s' none data := by
  obtain ⟨n, buf, s', hperform, rfl, hafter⟩ := h
  have hread := yields_fromDevice .massStorage (submitTransfer_in hwired length) hperform
  exact ⟨s', hafter, yields_getFields.bind hread⟩

end Transfers

/-! ### Commands -/

namespace BulkOnly

section Commands

variable {geo : Geometry} {g : Gadget} (disk : BulkOnly geo g) {s : g.State}
  {d : ClassDevice Fields} {content : List UInt8}

/-- A wrapper that the disk takes gets to it, under the next tag. -/
theorem yields_sendCbw (hwired : Wired d) {command : ScsiCommand} {dataLen : UInt32}
    {direction : Direction} {P : g.State → Prop}
    (h : Takes g s (cbwOf command dataLen direction d.fields.nextTag).toBytes.val P) :
    ∃ pending s', P s' ∧ Returns pending [] ∧
      Script.Yields g.answer (sendCbw command dataLen direction) d s none (tagged d).advance s'
        pending d.fields.nextTag := by
  obtain ⟨pending, s', hafter, hreturns, hsent⟩ :=
    yields_sendBulkOut (hwired.alike (alike_tagged d)) h
  have hcounted : Script.Yields g.answer
      (updateFields fun f : Fields => { f with nextTag := numberAfter f.nextTag }) d s none
      (tagged d) s none () :=
    .modify _
  have htag : Script.Yields g.answer nextTag d s none (tagged d) s none d.fields.nextTag :=
    yields_getFields.bind (hcounted.bind (.pure _))
  exact ⟨pending, s', hafter, hreturns, htag.bind (hsent.bind (.pure _))⟩

/-- The status of a command that passed, which names the command by its tag. -/
theorem yields_receiveCsw (hwired : Wired d) {tag : UInt32}
    (hat : disk.At s (.status tag .passed) content) :
    ∃ s', disk.At s' .command content ∧
      Script.Yields g.answer (receiveCsw tag) d s none d.advance s' none .passed := by
  have hgives : Gives g s (UInt32.ofNat cswSize).toNat (statusBytes tag .passed)
      (disk.At · .command content) := disk.giveStatus hat
  obtain ⟨s', hafter, hread⟩ := yields_receiveBulkIn hwired hgives
  have hlength : (statusBytes tag .passed).length = cswSize := Bytes.length_val _
  have hchecked : checkCsw tag (statusBytes tag .passed) = .ok .passed := by
    rw [checkCsw_eq_ok_iff]
    refine ⟨{ signature := cswSignature, tag, dataResidue := 0, status := .passed }, ?_, rfl, rfl⟩
    have hfull : (⟨(statusBytes tag .passed).take cswSize, List.length_take_of_le hlength.ge⟩ :
        Bytes cswSize) = Csw.toBytes _ := Subtype.ext (List.take_of_length_le hlength.le)
    rw [cswOf, dif_pos hlength.ge, hfull, Csw.fromBytes_toBytes _ rfl rfl]
    rfl
  exact ⟨s', hafter, hread.bind (.liftExcept hchecked)⟩

/-- A command whose status is that it passed ends with its data. -/
theorem yields_passed (data : List UInt8) :
    Script.Yields g.answer
      (Script.liftExcept (checkStatus .passed) >>= fun _ => pure data : Method (List UInt8))
      d s none d s none data := by
  have hchecked : Script.Yields g.answer
      (Script.liftExcept (checkStatus .passed) : Method Unit) d s none d s none () :=
    .liftExcept rfl
  exact hchecked.bind (.pure _)

/-- A command that reads returns what the disk has for it, and leaves the disk ready for the
next. -/
theorem yields_scsiCommand_in (hwired : Wired d) {command : ScsiCommand} {length : UInt32}
    {data : List UInt8} (hpos : 0 < length) (hlength : data.length ≤ length.toNat)
    (htakes : Takes g s (cbwOf command length .inward d.fields.nextTag).toBytes.val
      (disk.At · (.dataIn data d.fields.nextTag) content)) :
    ∃ d' s', Alike d d' ∧ disk.At s' .command content ∧
      Script.Yields g.answer (scsiCommand command none length) d s none d' s' none data := by
  obtain ⟨pending, s₁, hat₁, hreturns, hcbw⟩ := yields_sendCbw hwired htakes
  have halike₁ : Alike d (tagged d).advance := (alike_tagged d).trans (alike_advance _)
  have hreturn : Script.Yields g.answer (readRetSubmit .massStorage) (tagged d).advance s₁
      pending (tagged d).advance s₁ none [] :=
    yields_readRetSubmit .massStorage hreturns
  obtain ⟨s₂, hat₂, hreceived⟩ :=
    yields_receiveBulkIn (hwired.alike halike₁) (disk.giveData hat₁ hlength)
  have halike₂ : Alike d (tagged d).advance.advance := halike₁.trans (alike_advance _)
  have hdata : Script.Yields g.answer (transferData none length) (tagged d).advance s₁ none
      (tagged d).advance.advance s₂ none data := by
    unfold transferData
    rw [if_pos hpos]
    exact hreceived
  obtain ⟨s₃, hat₃, hcsw⟩ := disk.yields_receiveCsw (hwired.alike halike₂) hat₂
  refine ⟨_, s₃, halike₂.trans (alike_advance _), hat₃, ?_⟩
  unfold scsiCommand announced
  rw [if_pos hpos]
  exact hcbw.bind (hreturn.bind (hdata.bind (hcsw.bind (yields_passed _))))

/-- A command that writes changes the content of the disk, and leaves it ready for the
next. -/
theorem yields_scsiCommand_out (hwired : Wired d) {command : ScsiCommand} {data : List UInt8}
    {offset : Nat}
    (htakes : Takes g s
      (cbwOf command (UInt32.ofNat data.length) .outward d.fields.nextTag).toBytes.val
      (disk.At · (.dataOut offset data.length d.fields.nextTag) content)) :
    ∃ d' s', Alike d d' ∧ disk.At s' .command (writeAt content offset data) ∧
      Script.Yields g.answer (scsiCommand command (some data) 0) d s none d' s' none [] := by
  obtain ⟨pending, s₁, hat₁, hreturns, hcbw⟩ := yields_sendCbw hwired htakes
  have halike₁ : Alike d (tagged d).advance := (alike_tagged d).trans (alike_advance _)
  have hreturn : Script.Yields g.answer (readRetSubmit .massStorage) (tagged d).advance s₁
      pending (tagged d).advance s₁ none [] :=
    yields_readRetSubmit .massStorage hreturns
  obtain ⟨pending', s₂, hat₂, hreturns', hsent⟩ :=
    yields_sendBulkOut (hwired.alike halike₁) (disk.takeData hat₁)
  have halike₂ : Alike d (tagged d).advance.advance := halike₁.trans (alike_advance _)
  have hreturn' : Script.Yields g.answer (readRetSubmit .massStorage) (tagged d).advance.advance
      s₂ pending' (tagged d).advance.advance s₂ none [] :=
    yields_readRetSubmit .massStorage hreturns'
  have hdata : Script.Yields g.answer (transferData (some data) 0) (tagged d).advance s₁ none
      (tagged d).advance.advance s₂ none [] :=
    hsent.bind (hreturn'.bind (.pure _))
  obtain ⟨s₃, hat₃, hcsw⟩ := disk.yields_receiveCsw (hwired.alike halike₂) hat₂
  refine ⟨_, s₃, halike₂.trans (alike_advance _), hat₃, ?_⟩
  exact hcbw.bind (hreturn.bind (hdata.bind (hcsw.bind (yields_passed _))))

end Commands

end BulkOnly

/-! ### Calls -/

/-- The call stays within the disk, in a number of blocks a command can name, and its buffer
has room for them. -/
def Within (geo : Geometry) : Call → Prop
  | .initializeDevice => True
  | .readBlocks lba count buf => 0 < count.toNat ∧ count.toNat < 2 ^ 16 ∧
      lba.toNat + count.toNat ≤ geo.blocks ∧ count.toNat * geo.blockSize.toNat ≤ buf.length
  | .writeBlocks lba count data => 0 < count.toNat ∧ count.toNat < 2 ^ 16 ∧
      lba.toNat + count.toNat ≤ geo.blocks ∧ count.toNat * geo.blockSize.toNat ≤ data.length

instance (geo : Geometry) : DecidablePred (Within geo)
  | .initializeDevice => isTrue trivial
  | .readBlocks _ _ _ => inferInstanceAs (Decidable (_ ∧ _ ∧ _ ∧ _))
  | .writeBlocks _ _ _ => inferInstanceAs (Decidable (_ ∧ _ ∧ _ ∧ _))

/-- What a call does to the array, and what it returns: a block device, with no transport in
it. -/
def apply (geo : Geometry) (content : List UInt8) : Call → List UInt8 × Output
  | .initializeDevice => (content, .unit)
  | .readBlocks lba count buf =>
      let n := count.toNat * geo.blockSize.toNat
      (content, .filled n (readAt content (lba.toNat * geo.blockSize.toNat) n ++ buf.drop n))
  | .writeBlocks lba count data =>
      let n := count.toNat * geo.blockSize.toNat
      (writeAt content (lba.toNat * geo.blockSize.toNat) (data.take n), .count n)

/-- What a sequence of calls does to the array, each call after the ones before it, and what
the calls return. -/
def applyAll (geo : Geometry) : List UInt8 → List Call → List UInt8 × List Output
  | content, [] => (content, [])
  | content, call :: calls =>
      let (content', outputs) := applyAll geo (apply geo content call).1 calls
      (content', (apply geo content call).2 :: outputs)

/-- The driver has found out about the disk: it will address it with the right block size. -/
def Known (geo : Geometry) (d : ClassDevice Fields) : Prop :=
  Wired d ∧ d.fields.blockSize = geo.blockSize

theorem Known.alike {geo : Geometry} {d d' : ClassDevice Fields} (h : Known geo d)
    (halike : Alike d d') : Known geo d' := by
  obtain ⟨seqnum, tag, rfl⟩ := halike
  exact h

section Calls

variable {geo : Geometry} {g : Gadget} {s : g.State} {d : ClassDevice Fields} {content : List UInt8}

/-- The numbers of a call that stays within the disk are kept by every cast. -/
theorem casts_exact {lba : UInt64} {count : UInt32} {len : Nat} (hpos : 0 < count.toNat)
    (hcount : count.toNat < 2 ^ 16) (hrange : lba.toNat + count.toNat ≤ geo.blocks)
    (hlen : count.toNat * geo.blockSize.toNat ≤ len) (hlimit : len ≤ transferLimit) :
    lba.toUInt32.toNat = lba.toNat ∧ count.toUInt16.toNat = count.toNat ∧
      (UInt32.ofNat (count.toNat * geo.blockSize.toNat)).toNat =
        count.toNat * geo.blockSize.toNat ∧
      lba.toNat * geo.blockSize.toNat + count.toNat * geo.blockSize.toNat ≤ geo.size := by
  have hblocks := geo.blocks_le
  refine ⟨?_, ?_, ?_, ?_⟩
  · rw [UInt64.toNat_toUInt32]
    exact Nat.mod_eq_of_lt (by omega)
  · rw [UInt32.toNat_toUInt16]
    exact Nat.mod_eq_of_lt hcount
  · refine UInt32.toNat_ofNat_of_lt' (Nat.lt_of_le_of_lt (hlen.trans hlimit) ?_)
    decide
  · rw [← Nat.add_mul]
    exact Nat.mul_le_mul_right _ hrange

/-- So the command of such a call names the blocks of the call, and they are in the disk. -/
theorem blocksCdb_exact (opcode : UInt8) {lba : UInt64} {count : UInt32}
    (hlba : lba.toUInt32.toNat = lba.toNat) (hcount : count.toUInt16.toNat = count.toNat)
    (hsize : lba.toNat * geo.blockSize.toNat + count.toNat * geo.blockSize.toNat ≤ geo.size) :
    geo.offset (blocksCdb opcode lba.toUInt32 count.toUInt16) =
        lba.toNat * geo.blockSize.toNat ∧
      geo.extent (blocksCdb opcode lba.toUInt32 count.toUInt16) =
        count.toNat * geo.blockSize.toNat ∧
      geo.offset (blocksCdb opcode lba.toUInt32 count.toUInt16) +
        geo.extent (blocksCdb opcode lba.toUInt32 count.toUInt16) ≤ geo.size := by
  rw [Geometry.offset, Geometry.extent, cdbLba_blocksCdb, cdbBlocks_blocksCdb, hlba, hcount]
  exact ⟨rfl, rfl, hsize⟩

/-- The wrapper of a command announces what the driver says. -/
theorem announces_cbwOf {command : ScsiCommand} {dataLen : UInt32} {direction : Direction}
    {tag : UInt32} {opcode : UInt8} {length : Nat}
    (hopcode : command.encodeCdb.val.getD 0 0 = opcode) (hlength : dataLen.toNat = length) :
    Announces (cbwOf command dataLen direction tag) opcode direction length :=
  ⟨rfl, hopcode, rfl, hlength⟩

/-- What the driver keeps of INQUIRY is not what it addresses the disk with. -/
theorem Wired.keepInquiry (h : Wired d) (data : List UInt8) :
    Wired { d with fields := MassStorage.keepInquiry data d.fields } := by
  unfold MassStorage.keepInquiry
  split
  · exact h
  · exact h

/-- What it keeps of READ CAPACITY(10) is the size of a block. -/
theorem Wired.keepCapacity {data : List UInt8} (h : Wired d) (hlength : data.length = 8)
    (hsize : UInt32.ofNat (ofBytes ((data.drop 4).take 4)) = geo.blockSize) :
    Known geo { d with fields := MassStorage.keepCapacity data d.fields } := by
  unfold MassStorage.keepCapacity
  rw [if_pos (Nat.le_of_eq hlength.symm)]
  exact ⟨h, hsize⟩

theorem length_capacity (geo : Geometry) : geo.capacity.length = 8 := by
  simp [Geometry.capacity]

theorem blockSize_capacity (geo : Geometry) :
    UInt32.ofNat (ofBytes ((geo.capacity.drop 4).take 4)) = geo.blockSize := by
  rw [Geometry.capacity, List.drop_left' (length_u32Bytes _),
    List.take_of_length_le (Nat.le_of_eq (length_u32Bytes _)), u32Bytes,
    ofBytes_toBytes geo.blockSize.toNat_lt, UInt32.ofNat_toNat]

namespace BulkOnly

variable (disk : BulkOnly geo g)

/-- After `initialize` the driver knows the disk, and the disk is as it was. -/
theorem yields_initializeDevice (hwired : Wired d) (hat : disk.At s .command content) :
    ∃ d' s', Known geo d' ∧ disk.At s' .command content ∧
      Script.Yields g.answer MassStorage.initializeDevice d s none d' s' none () := by
  have hinquiry : Announces (cbwOf .inquiry 36 .inward d.fields.nextTag) 0x12 .inward 36 :=
    announces_cbwOf (by decide) (by decide)
  obtain ⟨data, hlength, htakes⟩ := disk.inquiry hat hinquiry
  obtain ⟨d₁, s₁, halike₁, hat₁, hfirst⟩ :=
    disk.yields_scsiCommand_in hwired (by decide) hlength htakes
  have hwired₁ := (hwired.alike halike₁).keepInquiry data
  have hcapacity : Announces (cbwOf .readCapacity10 8 .inward
      (MassStorage.keepInquiry data d₁.fields).nextTag) 0x25 .inward 8 :=
    announces_cbwOf (by decide) (by decide)
  obtain ⟨d₂, s₂, halike₂, hat₂, hsecond⟩ :=
    disk.yields_scsiCommand_in hwired₁ (by decide) (length_capacity geo).le
      (disk.readCapacity hat₁ hcapacity)
  have hknown := (hwired₁.alike halike₂).keepCapacity (length_capacity geo) (blockSize_capacity geo)
  have hkeep : Script.Yields g.answer (updateFields (MassStorage.keepCapacity geo.capacity)) d₂ s₂
      none { d₂ with fields := MassStorage.keepCapacity geo.capacity d₂.fields } s₂ none () :=
    .modify _
  exact ⟨_, s₂, hknown, hat₂, hfirst.bind (Script.Yields.bind (.modify _) (hsecond.bind hkeep))⟩

theorem yields_readBlocks {lba : UInt64} {count : UInt32} {buf : List UInt8}
    (hknown : Known geo d) (hat : disk.At s .command content)
    (hcontent : content.length = geo.size) (hwithin : Within geo (.readBlocks lba count buf))
    (hlimit : buf.length ≤ transferLimit) :
    ∃ d' s', Known geo d' ∧ disk.At s' .command content ∧
      Script.Yields g.answer (MassStorage.readBlocks lba count buf) d s none d' s' none
        (count.toNat * geo.blockSize.toNat,
          readAt content (lba.toNat * geo.blockSize.toNat) (count.toNat * geo.blockSize.toNat) ++
            buf.drop (count.toNat * geo.blockSize.toNat)) := by
  obtain ⟨hpos, hcount, hrange, hbuf⟩ := hwithin
  obtain ⟨hlba, hblocks, hlen, hsize⟩ := casts_exact hpos hcount hrange hbuf hlimit
  obtain ⟨hoffset, hextent, hnamed⟩ := blocksCdb_exact 0x28 hlba hblocks hsize
  have hdata : (readAt content (lba.toNat * geo.blockSize.toNat)
      (count.toNat * geo.blockSize.toNat)).length = count.toNat * geo.blockSize.toNat :=
    length_readAt (hsize.trans_eq hcontent.symm)
  have hcommand : Announces (cbwOf (.read10 lba.toUInt32 count.toUInt16)
      (UInt32.ofNat (count.toNat * geo.blockSize.toNat)) .inward d.fields.nextTag) 0x28 .inward
      (geo.extent (blocksCdb 0x28 lba.toUInt32 count.toUInt16)) :=
    announces_cbwOf rfl (hlen.trans hextent.symm)
  have htakes := disk.read hat hcommand hnamed
  simp only [cbwOf, ScsiCommand.encodeCdb, hoffset, hextent] at htakes
  have hlenPos : 0 < UInt32.ofNat (count.toNat * geo.blockSize.toNat) := by
    rw [UInt32.lt_iff_toNat_lt, hlen]
    exact Nat.mul_pos hpos geo.blockSize_pos
  obtain ⟨d', s', halike, hat', hyields⟩ :=
    disk.yields_scsiCommand_in hknown.1 hlenPos (hdata.trans hlen.symm).le htakes
  refine ⟨d', s', hknown.alike halike, hat', yields_getFields.bind ?_⟩
  simp only [hknown.2]
  rw [if_neg (Nat.not_lt.mpr hbuf)]
  refine hyields.bind ?_
  rw [hdata, Nat.min_eq_left hbuf, List.take_of_length_le hdata.le]
  exact .pure _

theorem yields_writeBlocks {lba : UInt64} {count : UInt32} {data : List UInt8}
    (hknown : Known geo d) (hat : disk.At s .command content)
    (hwithin : Within geo (.writeBlocks lba count data)) (hlimit : data.length ≤ transferLimit) :
    ∃ d' s', Known geo d' ∧
      disk.At s' .command (writeAt content (lba.toNat * geo.blockSize.toNat)
        (data.take (count.toNat * geo.blockSize.toNat))) ∧
      Script.Yields g.answer (MassStorage.writeBlocks lba count data) d s none d' s' none
        (count.toNat * geo.blockSize.toNat) := by
  obtain ⟨hpos, hcount, hrange, hbuf⟩ := hwithin
  obtain ⟨hlba, hblocks, hlen, hsize⟩ := casts_exact hpos hcount hrange hbuf hlimit
  obtain ⟨hoffset, hextent, hnamed⟩ := blocksCdb_exact 0x2A hlba hblocks hsize
  have hdata : (data.take (count.toNat * geo.blockSize.toNat)).length =
      count.toNat * geo.blockSize.toNat := List.length_take_of_le hbuf
  have hcommand : Announces (cbwOf (.write10 lba.toUInt32 count.toUInt16)
      (UInt32.ofNat (data.take (count.toNat * geo.blockSize.toNat)).length) .outward
      d.fields.nextTag) 0x2A .outward
      (geo.extent (blocksCdb 0x2A lba.toUInt32 count.toUInt16)) := by
    refine announces_cbwOf rfl ?_
    rw [hdata]
    exact hlen.trans hextent.symm
  have htakes := disk.write hat hcommand hnamed
  simp only [cbwOf, ScsiCommand.encodeCdb, hoffset, hextent] at htakes
  -- the length the disk waits for is that of the data which is sent
  have htakes' : Takes g s (cbwOf (.write10 lba.toUInt32 count.toUInt16)
      (UInt32.ofNat (data.take (count.toNat * geo.blockSize.toNat)).length) .outward
      d.fields.nextTag).toBytes.val
      (disk.At · (.dataOut (lba.toNat * geo.blockSize.toNat)
        (data.take (count.toNat * geo.blockSize.toNat)).length d.fields.nextTag) content) := by
    nth_rewrite 2 [hdata]
    exact htakes
  obtain ⟨d', s', halike, hat', hyields⟩ := disk.yields_scsiCommand_out hknown.1 htakes'
  refine ⟨d', s', hknown.alike halike, hat', yields_getFields.bind ?_⟩
  simp only [hknown.2]
  rw [if_neg (Nat.not_lt.mpr hbuf)]
  exact hyields.bind (.pure _)

/-- A call within the disk does to the disk what it does to the array, and returns what it
returns there. -/
theorem yields_call {call : Call} (hknown : Known geo d) (hat : disk.At s .command content)
    (hcontent : content.length = geo.size) (hwithin : Within geo call)
    (hlimit : (massStorageBuffer call).length ≤ transferLimit) :
    ∃ d' s', Known geo d' ∧ disk.At s' .command (apply geo content call).1 ∧
      Script.Yields g.answer call.script d s none d' s' none (apply geo content call).2 := by
  cases call with
  | initializeDevice =>
      obtain ⟨d', s', hknown', hat', hyields⟩ := disk.yields_initializeDevice hknown.1 hat
      exact ⟨d', s', hknown', hat', hyields.bind (.pure _)⟩
  | readBlocks lba count buf =>
      obtain ⟨d', s', hknown', hat', hyields⟩ :=
        disk.yields_readBlocks hknown hat hcontent hwithin hlimit
      exact ⟨d', s', hknown', hat', hyields.bind (.pure _)⟩
  | writeBlocks lba count data =>
      obtain ⟨d', s', hknown', hat', hyields⟩ := disk.yields_writeBlocks hknown hat hwithin hlimit
      exact ⟨d', s', hknown', hat', hyields.bind (.pure _)⟩

end BulkOnly

theorem length_apply {call : Call} (hcontent : content.length = geo.size)
    (hwithin : Within geo call) : (apply geo content call).1.length = geo.size := by
  cases call with
  | initializeDevice => exact hcontent
  | readBlocks lba count buf => exact hcontent
  | writeBlocks lba count data =>
      obtain ⟨-, -, hrange, hlen⟩ := hwithin
      have hend : lba.toNat * geo.blockSize.toNat + count.toNat * geo.blockSize.toNat ≤
          content.length := by
        rw [hcontent, ← Nat.add_mul]
        exact Nat.mul_le_mul_right _ hrange
      refine (length_writeAt ?_).trans hcontent
      rw [List.length_take_of_le hlen]
      exact hend

/-- The calls of a session, each on what the ones before it have left. -/
theorem BulkOnly.yields_attemptAll (disk : BulkOnly geo g) {calls : List Call}
    (hknown : Known geo d) (hat : disk.At s .command content)
    (hcontent : content.length = geo.size)
    (hcalls : ∀ call ∈ calls,
      Within geo call ∧ (massStorageBuffer call).length ≤ transferLimit) :
    ∃ d' s', disk.At s' .command (applyAll geo content calls).1 ∧
      Script.Yields g.answer (Script.attemptAll (calls.map Call.script)) d s none d' s' none
        ((applyAll geo content calls).2.map .ok) := by
  induction calls generalizing d s content with
  | nil => exact ⟨d, s, hat, .pure _⟩
  | cons call calls ih =>
      obtain ⟨hwithin, hlimit⟩ := hcalls call List.mem_cons_self
      obtain ⟨d₁, s₁, hknown₁, hat₁, hcall⟩ :=
        disk.yields_call hknown hat hcontent hwithin hlimit
      obtain ⟨d₂, s₂, hat₂, hrest⟩ := ih hknown₁ hat₁ (length_apply hcontent hwithin)
        fun c hc => hcalls c (List.mem_cons_of_mem call hc)
      exact ⟨d₂, s₂, hat₂, hcall.attempt.bind (hrest.bind (.pure _))⟩

end Calls

/-! ### Sessions -/

/-- **A disk over a connection is an array.** Take any device that keeps the laws of
bulk-only transport and waits for a command, a driver that has imported it and uses its
endpoints, a connection that holds, and any sequence of calls within the disk, each for 1 to
65535 blocks and with a buffer of at most 1048576 bytes, after `initialize`. For every
interleaving of the client, the session's parties and the disk: when the calls are through,
each read has returned what the writes before it have left in the array, each write what it
wrote, and the disk waits for a command and holds the array; and whatever has happened so far,
the calls can be brought to their end. -/
theorem disk_over_connection {geo : Geometry} {g : Gadget} (disk : BulkOnly geo g)
    (calls : List Call)
    (hcalls : ∀ call ∈ calls,
      Within geo call ∧ (massStorageBuffer call).length ≤ transferLimit)
    (imported : ClassDevice Fields) (hwired : Wired imported) (device : g.State)
    (content : List UInt8) (hcontent : content.length = geo.size)
    (hready : disk.At device .command content) (actions : List Action)
    (r : Remote g (ClassDevice Fields) DriverError (List (Except DriverError Output)))
    (hrun : Transition.run Remote.step
      (Remote.start device
        (callAll MassStorage.driver (.initializeDevice :: calls) imported)) actions = some r) :
    (∀ fields results, r.client = .done fields results →
      results = .ok ((.unit :: (applyAll geo content calls).2).map .ok) ∧
      disk.At r.device .command (applyAll geo content calls).1) ∧
    ∃ more r' fields results, Transition.run Remote.step r more = some r' ∧
      r'.client = .done fields results := by
  have hasks : ∀ call ∈ Call.initializeDevice :: calls, AsksAccepted call.script := by
    intro call hcall
    rcases List.mem_cons.mp hcall with rfl | hcall
    · exact asks_massStorage _ (Nat.zero_le _)
    · exact asks_massStorage call (hcalls call hcall).2
  have hheaded := headed_run (d := MassStorage.driver) hasks hrun
  constructor
  · intro fields results hdone
    obtain ⟨d₁, s₁, hknown, hat, hfirst⟩ := disk.yields_initializeDevice hwired hready
    have hinitialize : Script.Yields g.answer Call.initializeDevice.script imported device none d₁
        s₁ none .unit :=
      hfirst.bind (.pure _)
    obtain ⟨d₂, s₂, hend, hrest⟩ := disk.yields_attemptAll hknown hat hcontent hcalls
    have hsession : Script.Yields g.answer
        (callAll MassStorage.driver (.initializeDevice :: calls)) imported device none d₂ s₂ none
        ((.unit :: (applyAll geo content calls).2).map .ok) :=
      hinitialize.attempt.bind (hrest.bind (.pure _))
    have houtcome := (Point.Yields.outcome hsession).symm.trans (hheaded.outcome_of_done hdone)
    obtain ⟨hdevice, hpair⟩ := Prod.mk.inj (Option.some.inj houtcome)
    obtain ⟨-, hresults⟩ := Prod.mk.inj hpair
    rw [← hdevice]
    exact ⟨hresults.symm, hend⟩
  · obtain ⟨r', fields, results, ⟨more, hmore⟩, hdone⟩ := hheaded.exists_done
    exact ⟨more, r', fields, results, hmore, hdone⟩

/-! ### A disk that keeps the laws -/

/-- A disk in memory. -/
structure State where
  content : List UInt8
  stage : Stage
deriving DecidableEq, Repr

/-- What follows a command; a command that is out of range or not known fails. -/
def accept (geo : Geometry) (inquiry : Bytes 36) (content : List UInt8) (cbw : Cbw) : Stage :=
  let opcode := cbw.cb.val.getD 0 0
  if opcode = 0x12 then .dataIn inquiry.val cbw.tag
  else if opcode = 0x25 then .dataIn geo.capacity cbw.tag
  else if geo.size < geo.offset cbw.cb + geo.extent cbw.cb then .status cbw.tag .failed
  else if opcode = 0x28 then
    .dataIn (readAt content (geo.offset cbw.cb) (geo.extent cbw.cb)) cbw.tag
  else if opcode = 0x2A then .dataOut (geo.offset cbw.cb) (geo.extent cbw.cb) cbw.tag
  else .status cbw.tag .failed

/-- A transfer to the disk. -/
def take (geo : Geometry) (inquiry : Bytes 36) (s : State) (data : List UInt8) :
    Option UsbAnswer × State :=
  match s.stage with
  | .command =>
      if h : data.length = cbwSize then
        match Cbw.fromBytes ⟨data, h⟩ with
        | .ok cbw =>
            (some (.ok (data.length, [])), { s with stage := accept geo inquiry s.content cbw })
        | .error _ => stall s
      else stall s
  | .dataOut offset length tag =>
      if data.length = length then
        (some (.ok (data.length, [])),
          { content := writeAt s.content offset data, stage := .status tag .passed })
      else stall s
  | _ => stall s

/-- A transfer from the disk into a buffer of `n` bytes. -/
def give (s : State) (n : Nat) : Option UsbAnswer × State :=
  match s.stage with
  | .dataIn data tag => (some (fill data n), { s with stage := .status tag .passed })
  | .status tag status => (some (fill (statusBytes tag status) n), { s with stage := .command })
  | _ => stall s

def perform (geo : Geometry) (inquiry : Bytes 36) (s : State) :
    UsbCall → Option UsbAnswer × State
  | .writeBulk endpoint data => if endpoint = 0x02 then take geo inquiry s data else stall s
  | .readBulk endpoint n => if endpoint = 0x81 then give s n else stall s
  | .writeControl _ _ _ _ _ => stall s
  | .readControl _ _ _ _ _ => stall s

theorem admits_take {geo : Geometry} {inquiry : Bytes 36} {s : State} {endpoint : UInt8}
    {data : List UInt8} {answer : UsbAnswer} (h : (take geo inquiry s data).1 = some answer) :
    (UsbCall.writeBulk endpoint data).Admits answer := by
  unfold take at h
  split at h
  · split at h
    · split at h
      · cases h
        exact ⟨Nat.le_refl _, fun hread => absurd hread Bool.false_ne_true⟩
      · exact admits_stall _ h
    · exact admits_stall _ h
  · split at h
    · cases h
      exact ⟨Nat.le_refl _, fun hread => absurd hread Bool.false_ne_true⟩
    · exact admits_stall _ h
  · exact admits_stall _ h

theorem admits_give {s : State} {endpoint : UInt8} {n : Nat} {answer : UsbAnswer}
    (h : (give s n).1 = some answer) : (UsbCall.readBulk endpoint n).Admits answer := by
  unfold give at h
  split at h
  · cases h
    exact admits_fill endpoint _ n
  · cases h
    exact admits_fill endpoint _ n
  · exact admits_stall _ h

theorem admits_perform (geo : Geometry) (inquiry : Bytes 36) (s : State) (call : UsbCall)
    (answer : UsbAnswer) (h : (perform geo inquiry s call).1 = some answer) :
    call.Admits answer := by
  cases call with
  | writeBulk endpoint data =>
      simp only [perform] at h
      split at h
      · exact admits_take h
      · exact admits_stall _ h
  | readBulk endpoint n =>
      simp only [perform] at h
      split at h
      · exact admits_give h
      · exact admits_stall _ h
  | writeControl => exact admits_stall _ h
  | readControl => exact admits_stall _ h

/-- The disk in memory behind the USB library: one device that keeps the laws, and the witness
that they can be kept. -/
def gadget (geo : Geometry) (inquiry : Bytes 36) : Gadget where
  State := State
  perform := perform geo inquiry
  admits := admits_perform geo inquiry

section Laws

variable {geo : Geometry} {inquiry : Bytes 36} {content : List UInt8}

/-- A valid wrapper is taken, and the disk goes to the stage that follows the command. -/
theorem takes_command {cbw : Cbw} (hsignature : cbw.signature = cbwSignature) {stage : Stage}
    (hstage : accept geo inquiry content cbw = stage) :
    Takes (gadget geo inquiry) { content, stage := .command } cbw.toBytes.val
      (· = { content, stage }) := by
  have hread : Cbw.fromBytes cbw.toBytes = .ok cbw := Cbw.fromBytes_toBytes cbw hsignature
  have htaken : take geo inquiry { content, stage := .command } cbw.toBytes.val =
      (some (.ok (cbwSize, [])), { content, stage }) := by
    generalize cbw.toBytes = bytes at hread ⊢
    obtain ⟨data, hlength⟩ := bytes
    unfold take
    simp only
    rw [dif_pos hlength, hread, hlength]
    simp only [hstage]
  refine ⟨cbwSize, [], { content, stage }, ?_, rfl⟩
  simp only [gadget, perform, if_true, htaken]

/-- What is in a buffer that was filled with `data` and has room for it. -/
theorem take_fill_self {data : List UInt8} {n : Nat} (h : data.length ≤ n) :
    (data.take n ++ List.replicate (n - data.length) 0).take (min data.length n) = data := by
  rw [take_fill, List.take_of_length_le h]

/-- The disk in memory keeps the laws, for every geometry and whatever it answers to
INQUIRY. -/
def bulkOnly (geo : Geometry) (inquiry : Bytes 36) : BulkOnly geo (gadget geo inquiry) where
  At s stage content := s = { content, stage }
  inquiry := by
    rintro _ content cbw rfl hannounces
    refine ⟨inquiry.val, inquiry.length_val.le, takes_command hannounces.signature ?_⟩
    simp only [accept, hannounces.opcode, if_true]
  readCapacity := by
    rintro _ content cbw rfl hannounces
    refine takes_command hannounces.signature ?_
    have hother : (0x25 : UInt8) ≠ 0x12 := by decide
    simp only [accept, hannounces.opcode, hother, if_true, if_false]
  read := by
    rintro _ content cbw rfl hannounces hrange
    refine takes_command hannounces.signature ?_
    simp only [accept, hannounces.opcode, if_neg (Nat.not_lt.mpr hrange)]
    rfl
  write := by
    rintro _ content cbw rfl hannounces hrange
    refine takes_command hannounces.signature ?_
    simp only [accept, hannounces.opcode, if_neg (Nat.not_lt.mpr hrange)]
    rfl
  giveData := by
    rintro _ content data tag length rfl hlength
    exact ⟨_, _, _, rfl, take_fill_self hlength, rfl⟩
  takeData := by
    rintro _ content data offset tag rfl
    refine ⟨data.length, [], _, ?_, rfl⟩
    simp only [gadget, perform, take, if_true]
  giveStatus := by
    rintro _ content tag rfl
    exact ⟨_, _, _, rfl, take_fill_self (Bytes.length_val _).le, rfl⟩

end Laws

/-- Two blocks of four bytes. -/
def sampleGeometry : Geometry where
  blockSize := 4
  blocks := 2
  blockSize_pos := by decide
  blocks_pos := by decide
  blocks_le := by decide

def sampleInquiry : Bytes 36 := ⟨List.replicate 36 0, rfl⟩

/-- A block is written, and the disk is read. -/
def sampleCalls : List Call := [.writeBlocks 1 1 [1, 2, 3, 4], .readBlocks 0 2 (List.replicate 8 9)]

theorem disk_over_connection_sample :
    ∃ r, Transition.run Remote.step
        (Remote.start (g := gadget sampleGeometry sampleInquiry)
          { content := List.replicate 8 0, stage := .command }
          (callAll MassStorage.driver (.initializeDevice :: sampleCalls) sampleDisk))
        ((List.range 12).flatMap taskLife) = some r ∧
      resultsOf r = some (.ok [.ok .unit, .ok (.count 4),
        .ok (.filled 8 [0, 0, 0, 0, 1, 2, 3, 4])]) ∧
      r.device = { content := [0, 0, 0, 0, 1, 2, 3, 4], stage := .command } := by
  obtain ⟨r, hrun, hresults⟩ := Transition.exists_run_of_any Remote.step
    (Remote.start (g := gadget sampleGeometry sampleInquiry)
      { content := List.replicate 8 0, stage := .command }
      (callAll MassStorage.driver (.initializeDevice :: sampleCalls) sampleDisk))
    ((List.range 12).flatMap taskLife)
    (fun r => resultsOf r = some (.ok [.ok .unit, .ok (.count 4),
      .ok (.filled 8 [0, 0, 0, 0, 1, 2, 3, 4])])) (by decide +kernel)
  have hcalls : ∀ call ∈ sampleCalls,
      Within sampleGeometry call ∧ (massStorageBuffer call).length ≤ transferLimit := by
    decide
  cases hclient : r.client with
  | done fields results =>
      have hdone := (disk_over_connection (bulkOnly sampleGeometry sampleInquiry) sampleCalls hcalls
        sampleDisk ⟨rfl, rfl⟩ _ (List.replicate 8 0) (by decide) rfl _ r hrun).1 fields results
          hclient
      exact ⟨r, hrun, hresults, hdone.2⟩
  | write s cmd next => simp [resultsOf, hclient] at hresults
  | read s next => simp [resultsOf, hclient] at hresults

end Extender.System.Disk
