/-
Reading and writing URB messages over a byte stream (`codec.rs`).

`readUrbMessage` is the incremental reader of the async path: the 20-byte header, 28
command-specific bytes, then the transfer buffer and the ISO descriptors the fields announce,
each piece taken from the stream before the next check is made. The lengths are checked
against their limits before anything of that length is taken. A stream is the list of bytes it
will deliver; a read past its end fails the way `read_exact` does at EOF.

The four commands have an arm each. The arms of a submission and of a return take the same
fields in the same places; they differ in which length is the one of the buffer, in the
direction in which the buffer travels, and in what follows the five words (the setup packet,
or padding that is not looked at).

The grammar the reader implements is `readUrbMessage_accepts`, in `UrbGrammar`: it succeeds on
exactly the encodings of the well-formed messages, up to the padding bytes the decoder never
looks at (`UrbMessage.ignored`). What the fixed part of an arm needs for that is here: how 28
bytes fall into words (`fields_eq_iff`).
-/

import Extender.Protocol.Urb

namespace Extender.Protocol

open BigEndian ByteReader

/-! ### The reader -/

/-- Take the transfer buffer if it travels in this direction and is not empty; otherwise take
nothing. -/
def readTransferBuffer (travels : Bool) (length : UInt32) : Reader Failure (List UInt8) :=
  if travels = true ∧ length > 0 then do
    let buf ← readExact length.toNat
    pure buf.val
  else pure []

/-- Take the ISO packet descriptors unless the count is the non-ISO sentinel. A count above
the limit is an error before anything is taken. -/
def readIsoPacketDescriptors (numberOfPackets : UInt32) :
    Reader Failure (List IsoPacketDescriptor) :=
  if isIsoTransfer numberOfPackets = true then
    if numberOfPackets > maxIsoPackets then
      throw (.error (.tooManyIsoPackets numberOfPackets maxIsoPackets))
    else do
      let isoBuf ← readExact (numberOfPackets.toNat * isoPacketDescriptorSize)
      onBuffer (items IsoPacketDescriptor.decode numberOfPackets.toNat) isoBuf.val
  else pure []

/-- The `Command::CmdSubmit` arm: fixed fields, the buffer of an OUT transfer, and the
descriptors of an isochronous one. -/
def readCmdSubmit (header : UsbipHeaderBasic) : Reader Failure CmdSubmit := do
  let fields ← readExact cmdSubmitFieldsSize
  let transferFlags := u32At fields 0 (by decide)
  let transferBufferLength := u32At fields 4 (by decide)
  if transferBufferLength > maxTransferBufferLength then
    throw (.error (.transferTooLarge transferBufferLength maxTransferBufferLength))
  else
    let startFrame := u32At fields 8 (by decide)
    let numberOfPackets := u32At fields 12 (by decide)
    let interval := u32At fields 16 (by decide)
    let setup := fields.slice 20 8 (by decide)
    let transferBuffer ← readTransferBuffer (header.direction == 0) transferBufferLength
    let isoPacketDescriptors ← readIsoPacketDescriptors numberOfPackets
    pure { header, transferFlags, transferBufferLength, startFrame, numberOfPackets, interval,
           setup, transferBuffer, isoPacketDescriptors }

/-- The `Command::RetSubmit` arm; `fields[20..28]` is padding. -/
def readRetSubmit (header : UsbipHeaderBasic) : Reader Failure RetSubmit := do
  let fields ← readExact retSubmitFieldsSize
  let status := i32At fields 0 (by decide)
  let actualLength := u32At fields 4 (by decide)
  if actualLength > maxTransferBufferLength then
    throw (.error (.transferTooLarge actualLength maxTransferBufferLength))
  else
    let startFrame := u32At fields 8 (by decide)
    let numberOfPackets := u32At fields 12 (by decide)
    let errorCount := u32At fields 16 (by decide)
    let transferBuffer ← readTransferBuffer (header.direction == 1) actualLength
    let isoPacketDescriptors ← readIsoPacketDescriptors numberOfPackets
    pure { header, status, actualLength, startFrame, numberOfPackets, errorCount,
           transferBuffer, isoPacketDescriptors }

/-- The `Command::CmdUnlink` arm. -/
def readCmdUnlink (header : UsbipHeaderBasic) : Reader Failure CmdUnlink := do
  let fields ← readExact cmdUnlinkFieldsSize
  pure { header, unlinkSeqnum := u32At fields 0 (by decide) }

/-- The `Command::RetUnlink` arm. -/
def readRetUnlink (header : UsbipHeaderBasic) : Reader Failure RetUnlink := do
  let fields ← readExact retUnlinkFieldsSize
  pure { header, status := i32At fields 0 (by decide) }

/-- The `match command` of `read_urb_message`: an arm for each of the four messages. -/
def readAfterHeader (header : UsbipHeaderBasic) : Reader Failure UrbMessage :=
  match Command.fromRaw header.command with
  | none => throw (.error (.invalidCommand header.command))
  | some .cmdSubmit => do
    let m ← readCmdSubmit header
    pure (.cmdSubmit m)
  | some .retSubmit => do
    let m ← readRetSubmit header
    pure (.retSubmit m)
  | some .cmdUnlink => do
    let m ← readCmdUnlink header
    pure (.cmdUnlink m)
  | some .retUnlink => do
    let m ← readRetUnlink header
    pure (.retUnlink m)

/-- `read_urb_message`: the header out of a buffer of its own, then the arm its command
selects. -/
def readUrbMessage : Reader Failure UrbMessage := do
  let headerBuf ← readExact headerBasicSize
  let header ← onBuffer UsbipHeaderBasic.decode headerBuf.val
  readAfterHeader header

/-- `write_urb_message` on a writer that accepts every byte: what has been written
so far, then the encoding. -/
def writeUrbMessage (written : List UInt8) (msg : UrbMessage) : List UInt8 :=
  written ++ msg.encode

/-! ### The 28 command-specific bytes -/

theorem append_inj_iff {x y s t : List UInt8} (h : x.length = y.length) :
    x ++ s = y ++ t ↔ x = y ∧ s = t := by
  constructor
  · intro e
    exact List.append_inj e h
  · rintro ⟨rfl, rfl⟩
    rfl

/-- Five words and eight last bytes: where a submission or a return keeps its
fields. -/
theorem fields_eq_iff (fields : Bytes 28) {a b c d e z : List UInt8} (ha : a.length = 4)
    (hb : b.length = 4) (hc : c.length = 4) (hd : d.length = 4) (he : e.length = 4) :
    fields.val = a ++ (b ++ (c ++ (d ++ (e ++ z)))) ↔
      (fields.slice 0 4 (by decide)).val = a ∧ (fields.slice 4 4 (by decide)).val = b ∧
      (fields.slice 8 4 (by decide)).val = c ∧ (fields.slice 12 4 (by decide)).val = d ∧
      (fields.slice 16 4 (by decide)).val = e ∧ (fields.slice 20 8 (by decide)).val = z := by
  have hsplit : fields.val = (fields.slice 0 4 (by decide)).val ++
      ((fields.slice 4 4 (by decide)).val ++ ((fields.slice 8 4 (by decide)).val ++
      ((fields.slice 12 4 (by decide)).val ++ ((fields.slice 16 4 (by decide)).val ++
      (fields.slice 20 8 (by decide)).val)))) := by
    rw [fields.slice_eq_drop 20 8 (by decide), fields.slice_append_drop 16 4,
      fields.slice_append_drop 12 4, fields.slice_append_drop 8 4, fields.slice_append_drop 4 4,
      fields.slice_append_drop 0 4, List.drop_zero]
  rw [hsplit, append_inj_iff (by simp [ha]), append_inj_iff (by simp [hb]),
    append_inj_iff (by simp [hc]), append_inj_iff (by simp [hd]), append_inj_iff (by simp [he])]

end Extender.Protocol
