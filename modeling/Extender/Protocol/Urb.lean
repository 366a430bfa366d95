/-
URB messages (`urb.rs`): the data types, what `encode` writes for each and the size
`wire_size` promises.

Every message is 48 header bytes (the basic header of 20 and 28 command-specific bytes), then
a transfer buffer, then ISO packet descriptors. Whether the last two are present depends on
the direction and on the packet-count sentinel, and not in the same way for a submission and
its return: a submission carries its data on the way out, a return on the way in.

`encode` writes the fields it is given and does not check them against each other. A message
can therefore be built whose buffer is longer than the length it announces, and what the other
side makes of it is another message. `WellFormed` collects the conditions under which the
pieces agree with the fields that announce them; it is what the decoder guarantees and what a
round trip needs, and it is decidable.

Fixed arrays (`setup`) carry their length; variable payloads (`Bytes`, `Vec`) are byte lists.
The parts of fixed size decode themselves from a cursor, behind one check of `remaining()`:
`UsbipHeaderBasic.decode_accepts` and `decode_avoids_panic` say that they read back what
`encode` wrote and that the check is enough.
-/

import Extender.Protocol.Codes

namespace Extender.Protocol

open BigEndian ByteReader

/-! ### Constants -/

/-- The status `-ECONNRESET` of a successful unlink. -/
def ECONNRESET : Int32 := -104

abbrev headerBasicSize : Nat := 20
abbrev cmdSubmitFieldsSize : Nat := 28
abbrev retSubmitFieldsSize : Nat := 28
abbrev cmdUnlinkFieldsSize : Nat := 28
abbrev retUnlinkFieldsSize : Nat := 28

/-- Maximum transfer buffer length (1 MB); a message that announces more is refused by every
decoder. -/
def maxTransferBufferLength : UInt32 := 1048576

/-- Maximum number of devices in a DEVLIST reply. -/
def maxDevicesInDevlist : UInt32 := 256

/-- Maximum number of ISO packet descriptors. -/
def maxIsoPackets : UInt32 := 1024

abbrev isoPacketDescriptorSize : Nat := 16

/-- `number_of_packets` of a transfer that is not isochronous. -/
def nonIsoPacketsSentinel : UInt32 := 0xFFFFFFFF

/-- Basic header and command-specific fields together: the 48 bytes every URB message begins
with. -/
def urbHeaderTotalSize : Nat := 48

/-! ### Message types -/

/-- Header common to all URB messages: the command, the sequence number that pairs a return
with its request, the device, the direction and the endpoint. -/
structure UsbipHeaderBasic where
  command : UInt32
  seqnum : UInt32
  devid : UInt32
  direction : UInt32
  ep : UInt32
deriving DecidableEq, Repr

/-- Where one packet of an isochronous transfer lies in the buffer, how much of it was
transferred, and how it ended. -/
structure IsoPacketDescriptor where
  offset : UInt32
  length : UInt32
  actualLength : UInt32
  status : UInt32
deriving DecidableEq, Repr

/-- The setup packet of a transfer that is not a control transfer. -/
theorem length_zeroSetup : ([0, 0, 0, 0, 0, 0, 0, 0] : List UInt8).length = 8 := rfl

/-- Submit a USB request block: the client asks for one transfer, with the data if it goes to
the device. -/
structure CmdSubmit where
  header : UsbipHeaderBasic
  transferFlags : UInt32
  transferBufferLength : UInt32
  startFrame : UInt32
  numberOfPackets : UInt32
  interval : UInt32
  setup : Bytes 8
  transferBuffer : List UInt8
  isoPacketDescriptors : List IsoPacketDescriptor
deriving DecidableEq, Repr

/-- Return the result of a submitted URB, under the sequence number of the submission. -/
structure RetSubmit where
  header : UsbipHeaderBasic
  status : Int32
  actualLength : UInt32
  startFrame : UInt32
  numberOfPackets : UInt32
  errorCount : UInt32
  transferBuffer : List UInt8
  isoPacketDescriptors : List IsoPacketDescriptor
deriving DecidableEq, Repr

/-- Cancel a previously submitted URB, named by its sequence number. -/
structure CmdUnlink where
  header : UsbipHeaderBasic
  unlinkSeqnum : UInt32
deriving DecidableEq, Repr

/-- Answer to an unlink: `-ECONNRESET` if cancelled, 0 if already completed. -/
structure RetUnlink where
  header : UsbipHeaderBasic
  status : Int32
deriving DecidableEq, Repr

inductive UrbMessage where
  | cmdSubmit (m : CmdSubmit)
  | retSubmit (m : RetSubmit)
  | cmdUnlink (m : CmdUnlink)
  | retUnlink (m : RetUnlink)
deriving DecidableEq, Repr

/-! ### Encoding -/

def UsbipHeaderBasic.encode (h : UsbipHeaderBasic) : List UInt8 :=
  u32Bytes h.command ++ u32Bytes h.seqnum ++ u32Bytes h.devid ++ u32Bytes h.direction ++
    u32Bytes h.ep

def IsoPacketDescriptor.encode (d : IsoPacketDescriptor) : List UInt8 :=
  u32Bytes d.offset ++ u32Bytes d.length ++ u32Bytes d.actualLength ++ u32Bytes d.status

/-- `is_iso_transfer`: every packet count but the sentinel announces descriptors, zero
included. -/
def isIsoTransfer (numberOfPackets : UInt32) : Bool :=
  numberOfPackets != nonIsoPacketsSentinel

/-- The two trailing parts of a submission or a return: the transfer buffer if it
is not empty, then the descriptors if the packet count is not the sentinel. -/
def encodeTail (transferBuffer : List UInt8) (numberOfPackets : UInt32)
    (isoPacketDescriptors : List IsoPacketDescriptor) : List UInt8 :=
  (if transferBuffer.isEmpty then [] else transferBuffer) ++
    (if isIsoTransfer numberOfPackets then
      isoPacketDescriptors.flatMap IsoPacketDescriptor.encode
    else [])

def CmdSubmit.encode (m : CmdSubmit) : List UInt8 :=
  m.header.encode ++ u32Bytes m.transferFlags ++ u32Bytes m.transferBufferLength ++
    u32Bytes m.startFrame ++ u32Bytes m.numberOfPackets ++ u32Bytes m.interval ++ m.setup.val ++
    encodeTail m.transferBuffer m.numberOfPackets m.isoPacketDescriptors

def RetSubmit.encode (m : RetSubmit) : List UInt8 :=
  m.header.encode ++ i32Bytes m.status ++ u32Bytes m.actualLength ++
    u32Bytes m.startFrame ++ u32Bytes m.numberOfPackets ++ u32Bytes m.errorCount ++ u64Bytes 0 ++
    encodeTail m.transferBuffer m.numberOfPackets m.isoPacketDescriptors

def CmdUnlink.encode (m : CmdUnlink) : List UInt8 :=
  m.header.encode ++ u32Bytes m.unlinkSeqnum ++ u64Bytes 0 ++ u64Bytes 0 ++ u64Bytes 0

def RetUnlink.encode (m : RetUnlink) : List UInt8 :=
  m.header.encode ++ i32Bytes m.status ++ u64Bytes 0 ++ u64Bytes 0 ++ u64Bytes 0

/-- The bytes `encode` appends to the buffer, by variant. A buffer or a descriptor list is
appended whatever the header says. -/
def UrbMessage.encode : UrbMessage → List UInt8
  | .cmdSubmit m => m.encode
  | .retSubmit m => m.encode
  | .cmdUnlink m => m.encode
  | .retUnlink m => m.encode

/-- `wire_size`, by variant. -/
def UrbMessage.wireSize : UrbMessage → Nat
  | .cmdSubmit m => urbHeaderTotalSize + m.transferBuffer.length +
      m.isoPacketDescriptors.length * isoPacketDescriptorSize
  | .retSubmit m => urbHeaderTotalSize + m.transferBuffer.length +
      m.isoPacketDescriptors.length * isoPacketDescriptorSize
  | .cmdUnlink _ => urbHeaderTotalSize
  | .retUnlink _ => urbHeaderTotalSize

/-! ### Decoding the fixed-size parts -/

/-- The error of a `remaining()` check: what was needed and what there was. -/
def bufferTooShort (needed : Nat) (available : Nat) : Failure :=
  .error (.bufferTooShort needed available)

def UsbipHeaderBasic.decode : Reader Failure UsbipHeaderBasic :=
  needs headerBasicSize (bufferTooShort headerBasicSize) do
    let command ← getU32
    let seqnum ← getU32
    let devid ← getU32
    let direction ← getU32
    let ep ← getU32
    pure { command, seqnum, devid, direction, ep }

def IsoPacketDescriptor.decode : Reader Failure IsoPacketDescriptor :=
  needs isoPacketDescriptorSize (bufferTooShort isoPacketDescriptorSize) do
    let offset ← getU32
    let length ← getU32
    let actualLength ← getU32
    let status ← getU32
    pure { offset, length, actualLength, status }

@[simp] theorem UsbipHeaderBasic.length_encode (h : UsbipHeaderBasic) :
    h.encode.length = 20 := by
  simp [encode]

@[simp] theorem IsoPacketDescriptor.length_encode (d : IsoPacketDescriptor) :
    d.encode.length = 16 := by
  simp [encode]

theorem UsbipHeaderBasic.decode_accepts :
    Accepts UsbipHeaderBasic.decode (fun p h => p = h.encode) := by
  refine Accepts.needs ?_ fun p h hp => by rw [hp, length_encode]
  refine (getU32_accepts.bind fun command => getU32_accepts.bind fun seqnum =>
    getU32_accepts.bind fun devid => getU32_accepts.bind fun direction =>
    getU32_accepts.bind fun ep => Accepts.pure _).congr fun p h => ?_
  constructor
  · rintro ⟨_, _, _, rfl, rfl, _, _, _, rfl, rfl, _, _, _, rfl, rfl, _, _, _, rfl, rfl,
      _, _, _, rfl, rfl, rfl, rfl⟩
    simp [encode]
  · rintro rfl
    exact ⟨_, _, h.command, by simp only [encode, List.append_assoc], rfl, _, _, h.seqnum, rfl,
      rfl, _, _, h.devid, rfl, rfl, _, _, h.direction, rfl, rfl, _, [], h.ep,
      (List.append_nil _).symm, rfl, rfl, rfl⟩

theorem IsoPacketDescriptor.decode_accepts :
    Accepts IsoPacketDescriptor.decode (fun p d => p = d.encode) := by
  refine Accepts.needs ?_ fun p h hp => by rw [hp, length_encode]
  refine (getU32_accepts.bind fun offset => getU32_accepts.bind fun length =>
    getU32_accepts.bind fun actualLength => getU32_accepts.bind fun status =>
    Accepts.pure _).congr fun p d => ?_
  constructor
  · rintro ⟨_, _, _, rfl, rfl, _, _, _, rfl, rfl, _, _, _, rfl, rfl, _, _, _, rfl, rfl, rfl, rfl⟩
    simp [encode]
  · rintro rfl
    exact ⟨_, _, d.offset, by simp only [encode, List.append_assoc], rfl, _, _, d.length, rfl,
      rfl, _, _, d.actualLength, rfl, rfl, _, [], d.status, (List.append_nil _).symm, rfl,
      rfl, rfl⟩

/-- The header decoder never panics: its check covers its five reads. -/
theorem UsbipHeaderBasic.decode_avoids_panic :
    Avoids Failure.IsPanic UsbipHeaderBasic.decode :=
  Avoids.needs (getU32_covers.bind fun _ => getU32_covers.bind fun _ => getU32_covers.bind
    fun _ => getU32_covers.bind fun _ => getU32_covers.bind fun _ => Covers.pure _)
    fun _ => Failure.not_isPanic_error _

theorem IsoPacketDescriptor.decode_avoids_panic :
    Avoids Failure.IsPanic IsoPacketDescriptor.decode :=
  Avoids.needs (getU32_covers.bind fun _ => getU32_covers.bind fun _ => getU32_covers.bind
    fun _ => getU32_covers.bind fun _ => Covers.pure _)
    fun _ => Failure.not_isPanic_error _

/-! ### Well-formed messages -/

/-- The trailing parts agree with the fields that announce them: the buffer has
the declared length exactly when it travels, and the descriptors are as many as
declared, or none under the sentinel. -/
structure TailOk (travels : Bool) (length : UInt32) (transferBuffer : List UInt8)
    (numberOfPackets : UInt32) (isoPacketDescriptors : List IsoPacketDescriptor) : Prop where
  length_le : length ≤ maxTransferBufferLength
  buffer_length : transferBuffer.length = if travels then length.toNat else 0
  packets : (numberOfPackets = nonIsoPacketsSentinel ∧ isoPacketDescriptors = []) ∨
    (isoPacketDescriptors.length = numberOfPackets.toNat ∧ isoPacketDescriptors.length ≤ 1024)

instance (travels : Bool) (length : UInt32) (transferBuffer : List UInt8)
    (numberOfPackets : UInt32) (isoPacketDescriptors : List IsoPacketDescriptor) :
    Decidable (TailOk travels length transferBuffer numberOfPackets isoPacketDescriptors) :=
  decidable_of_iff
    (length ≤ maxTransferBufferLength ∧
      transferBuffer.length = (if travels then length.toNat else 0) ∧
      ((numberOfPackets = nonIsoPacketsSentinel ∧ isoPacketDescriptors = []) ∨
        (isoPacketDescriptors.length = numberOfPackets.toNat ∧
          isoPacketDescriptors.length ≤ 1024)))
    ⟨fun h => ⟨h.1, h.2.1, h.2.2⟩, fun h => ⟨h.length_le, h.buffer_length, h.packets⟩⟩

/-- A message whose header names its variant and whose trailing parts agree with
its fields. A submission carries its buffer when the direction is OUT (0), a
return when it is IN (1). -/
def UrbMessage.WellFormed : UrbMessage → Prop
  | .cmdSubmit m => m.header.command = Command.cmdSubmit.code ∧
      TailOk (m.header.direction == 0) m.transferBufferLength m.transferBuffer
        m.numberOfPackets m.isoPacketDescriptors
  | .retSubmit m => m.header.command = Command.retSubmit.code ∧
      TailOk (m.header.direction == 1) m.actualLength m.transferBuffer
        m.numberOfPackets m.isoPacketDescriptors
  | .cmdUnlink m => m.header.command = Command.cmdUnlink.code
  | .retUnlink m => m.header.command = Command.retUnlink.code

instance : DecidablePred UrbMessage.WellFormed
  | .cmdSubmit _ => inferInstanceAs (Decidable (_ ∧ _))
  | .retSubmit _ => inferInstanceAs (Decidable (_ ∧ _))
  | .cmdUnlink _ => inferInstanceAs (Decidable (_ = _))
  | .retUnlink _ => inferInstanceAs (Decidable (_ = _))

end Extender.Protocol
