/-
The mass storage driver (`mass_storage.rs`): SCSI commands over bulk-only transport.

A command is three exchanges, each of them a submission and its answer: the command block
wrapper, the data in one direction or none, and the command status wrapper, which names the
tag of the command it answers. Both wrappers are little-endian, the addresses inside a command
big-endian. The tag is counted by the device and has nothing to do with the sequence numbers
of the connection below it.

Once all three have been answered, the status alone decides whether the command has succeeded.
The wrapper also tells how much of the data was not transferred (`dataResidue`);
`scsi_command` does not look at it, and so neither do the calls built on it (`BlockTransfers`).

Where the source checks and casts in the middle of a method, these steps are functions of
their own here (`announced`, `checkCsw`, `checkStatus`, `keepInquiry`, `keepCapacity`), so
that the results can speak of them without a run.

* `paced_scsiCommand` — every phase of a command waits for its answer.
* `Call.paced` — and so does each of `initialize`, `read_blocks` and `write_blocks`.
* `MassStorage.driver` — the methods of the device, as the results on pairing and on remote
  devices take them.
-/

import Extender.Client.ClassDevice

namespace Extender.Client.MassStorage

open BigEndian Dialogue Extender.Protocol

/-! ### Wrappers -/

def cbwSignature : UInt32 := 0x43425355
def cswSignature : UInt32 := 0x53425355
/-- Size of a command block wrapper. -/
abbrev cbwSize : Nat := 31
/-- Size of a command status wrapper. -/
abbrev cswSize : Nat := 13

/-- Direction of the data of a command, seen from the host. -/
inductive Direction where
  | outward
  | inward
deriving DecidableEq, Repr

/-- Status of a command; any byte above 2 is kept as it is. -/
inductive CswStatus where
  | passed
  | failed
  | phaseError
  | unknown (b : UInt8)
deriving DecidableEq, Repr

def CswStatus.fromByte (b : UInt8) : CswStatus :=
  if b = 0 then .passed else if b = 1 then .failed else if b = 2 then .phaseError else .unknown b

/-- The commands the driver sends, with what they address. -/
inductive ScsiCommand where
  | testUnitReady
  | inquiry
  | readCapacity10
  | read10 (lba : UInt32) (blocks : UInt16)
  | write10 (lba : UInt32) (blocks : UInt16)
  | requestSense
  | modeSense6
deriving DecidableEq, Repr

/-- The command block of READ(10) and WRITE(10): a 32-bit block address and a 16-bit count. -/
def blocksCdb (opcode : UInt8) (lba : UInt32) (blocks : UInt16) : Bytes 16 :=
  ⟨opcode :: 0 :: (u32Bytes lba ++ 0 :: (u16Bytes blocks ++ [0, 0, 0, 0, 0, 0, 0])), by simp⟩

/-- `encode_cdb`: the sixteen bytes of a command, filled up with zeros. -/
def ScsiCommand.encodeCdb : ScsiCommand → Bytes 16
  | .testUnitReady => .zeroPadded [0x00] (by decide)
  | .inquiry => .zeroPadded [0x12, 0, 0, 0, 36] (by decide)
  | .readCapacity10 => .zeroPadded [0x25] (by decide)
  | .read10 lba blocks => blocksCdb 0x28 lba blocks
  | .write10 lba blocks => blocksCdb 0x2A lba blocks
  | .requestSense => .zeroPadded [0x03, 0, 0, 0, 18] (by decide)
  | .modeSense6 => .zeroPadded [0x1A, 0, 0x3F, 0, 192] (by decide)

/-- `cdb_length`: how many of these bytes are the command. -/
def ScsiCommand.cdbLength : ScsiCommand → UInt8
  | .testUnitReady => 6
  | .inquiry => 6
  | .readCapacity10 => 10
  | .read10 _ _ => 10
  | .write10 _ _ => 10
  | .requestSense => 6
  | .modeSense6 => 6

/-- Command block wrapper: tag, length and direction of the data, and the command itself. -/
structure Cbw where
  signature : UInt32
  tag : UInt32
  dataTransferLength : UInt32
  flags : UInt8
  lun : UInt8
  cbLength : UInt8
  cb : Bytes 16
deriving DecidableEq, Repr

def Cbw.toBytes (cbw : Cbw) : Bytes cbwSize :=
  ⟨u32LeBytes cbw.signature ++ (u32LeBytes cbw.tag ++ (u32LeBytes cbw.dataTransferLength ++
    cbw.flags :: cbw.lun :: cbw.cbLength :: cbw.cb.val)), by simp⟩

/-- Command status wrapper: the tag it answers, what was not transferred, and the status. -/
structure Csw where
  signature : UInt32
  tag : UInt32
  dataResidue : UInt32
  status : CswStatus
deriving DecidableEq, Repr

/-- An error of this driver with its text. -/
def error (text : String) : DriverError := .device .massStorage text

/-- `Csw::from_bytes`: the signature is checked, every status byte is accepted. -/
def Csw.fromBytes (buf : Bytes cswSize) : Except DriverError Csw :=
  let signature := UInt32.ofNat (leAt buf.val 0 4)
  if signature ≠ cswSignature then .error (error ("invalid CSW signature: " ++ hex signature))
  else .ok
    { signature, tag := UInt32.ofNat (leAt buf.val 4 4)
      dataResidue := UInt32.ofNat (leAt buf.val 8 4)
      status := .fromByte (buf.val.get ⟨12, by rw [Bytes.length_val]; decide⟩) }

/-! ### The device -/

/-- `MassStorageDevice`; of the two texts of INQUIRY the bytes are kept. -/
structure Fields where
  epOut : UInt8
  epIn : UInt8
  nextTag : UInt32
  blockSize : UInt32
  totalBlocks : UInt64
  vendor : List UInt8
  product : List UInt8
deriving DecidableEq, Repr

/-- The device as `connect` returns it: its size is unknown until `initialize`. -/
def Fields.initial : Fields :=
  { epOut := 0x02, epIn := 0x81, nextTag := 1, blockSize := 0, totalBlocks := 0, vendor := []
    product := [] }

/-- A method of the device. -/
abbrev Method (α : Type) : Type := ClassScript Fields α

/-- `next_tag`: the counter as it is, which is advanced past 0. -/
def nextTag : Method UInt32 := do
  let f ← getFields
  updateFields fun f => { f with nextTag := numberAfter f.nextTag }
  pure f.nextTag

/-- `send_bulk_out`: the submission alone; its caller reads the answer. -/
def sendBulkOut (payload : List UInt8) : Method Unit := do
  let f ← getFields
  submit (.toDevice (endpointNumber f.epOut) noSetup payload)

/-- `receive_bulk_in`: the submission, and the data of its answer. -/
def receiveBulkIn (length : UInt32) : Method (List UInt8) := do
  let f ← getFields
  submit (.fromDevice (endpointNumber f.epIn) noSetup length)
  readRetSubmit .massStorage

/-- The wrapper of a command, under its tag and with the direction in the top bit of the
flags. -/
def cbwOf (command : ScsiCommand) (dataLen : UInt32) (direction : Direction) (tag : UInt32) :
    Cbw :=
  { signature := cbwSignature, tag, dataTransferLength := dataLen
    flags := if direction = .inward then 0x80 else 0x00, lun := 0
    cbLength := command.cdbLength, cb := command.encodeCdb }

/-- `send_cbw`: a new tag, which is the result. -/
def sendCbw (command : ScsiCommand) (dataLen : UInt32) (direction : Direction) :
    Method UInt32 := do
  let tag ← nextTag
  sendBulkOut (cbwOf command dataLen direction tag).toBytes.val
  pure tag

/-- What `receive_csw` makes of the data it reads: too short, not a wrapper, or of another
command. -/
def checkCsw (expectedTag : UInt32) (data : List UInt8) : Except DriverError CswStatus :=
  if h : cswSize ≤ data.length then do
    let csw ← Csw.fromBytes ⟨data.take cswSize, by rw [List.length_take]; omega⟩
    if csw.tag ≠ expectedTag then
      .error (error ("CSW tag mismatch: expected " ++ hex expectedTag ++ ", got " ++ hex csw.tag))
    else .ok csw.status
  else .error (error ("CSW too short: expected 13 bytes, got " ++ toString data.length))

/-- `receive_csw`: 13 bytes are asked for and checked. -/
def receiveCsw (expectedTag : UInt32) : Method CswStatus := do
  let data ← receiveBulkIn (UInt32.ofNat cswSize)
  Script.liftExcept (checkCsw expectedTag data)

/-- The direction and the length a command announces for its data: those of the data to send,
or of the response expected. -/
def announced (data : Option (List UInt8)) (responseLen : UInt32) : Direction × UInt32 :=
  match data with
  | some d => (.outward, UInt32.ofNat d.length)
  | none => if 0 < responseLen then (.inward, responseLen) else (.outward, 0)

/-- How a command ends on the status of its wrapper: without an error only if it passed. -/
def checkStatus : CswStatus → Except DriverError Unit
  | .passed => .ok ()
  | .failed => .error (error "SCSI command failed (CSW status=failed)")
  | .phaseError => .error (error "SCSI phase error (device needs reset)")
  | .unknown b => .error (error ("unknown CSW status: 0x" ++
      String.ofList ((Text.padded 2 (Nat.toDigits 16 b.toNat)).map Char.toUpper)))

/-- Phase 2 of `scsi_command`: data to the device, data from it, or nothing. -/
def transferData (data : Option (List UInt8)) (responseLen : UInt32) : Method (List UInt8) :=
  match data with
  | some d => do
    sendBulkOut d
    let _ ← readRetSubmit .massStorage
    pure []
  | none => if 0 < responseLen then receiveBulkIn responseLen else pure []

/-- `scsi_command`: the wrapper, the data, the status. The data is kept until the status is
known. -/
def scsiCommand (cmd : ScsiCommand) (data : Option (List UInt8)) (responseLen : UInt32) :
    Method (List UInt8) := do
  let (direction, dataLen) := announced data responseLen
  let tag ← sendCbw cmd dataLen direction
  let _ ← readRetSubmit .massStorage
  let responseData ← transferData data responseLen
  let status ← receiveCsw tag
  Script.liftExcept (checkStatus status)
  pure responseData

/-- What `initialize` keeps of the answer to INQUIRY: nothing, if it is short. -/
def keepInquiry (data : List UInt8) (f : Fields) : Fields :=
  if 36 ≤ data.length then
    { f with vendor := (data.drop 8).take 8, product := (data.drop 16).take 16 }
  else f

/-- What `initialize` keeps of the answer to READ CAPACITY(10): the last block address plus
one, and the block size. -/
def keepCapacity (data : List UInt8) (f : Fields) : Fields :=
  if 8 ≤ data.length then
    { f with
      blockSize := UInt32.ofNat (ofBytes ((data.drop 4).take 4))
      totalBlocks := (UInt32.ofNat (ofBytes (data.take 4))).toUInt64 + 1 }
  else f

/-- `initialize`: INQUIRY for the two names, then READ CAPACITY(10) for the size. -/
def initializeDevice : Method Unit := do
  let inquiryData ← scsiCommand .inquiry none 36
  updateFields (keepInquiry inquiryData)
  let capData ← scsiCommand .readCapacity10 none 8
  updateFields (keepCapacity capData)

/-- `read_blocks`: the number of bytes copied, and the buffer they are copied into. Address
and count are cast to what READ(10) has. -/
def readBlocks (lba : UInt64) (count : UInt32) (buf : List UInt8) :
    Method (Nat × List UInt8) := do
  let f ← getFields
  let expectedLen := count.toNat * f.blockSize.toNat
  if buf.length < expectedLen then
    Script.throw (error ("buffer too small: need " ++ toString expectedLen ++ " bytes, got " ++
      toString buf.length))
  else do
    let data ← scsiCommand (.read10 lba.toUInt32 count.toUInt16) none (UInt32.ofNat expectedLen)
    let copyLen := min data.length buf.length
    pure (copyLen, data.take copyLen ++ buf.drop copyLen)

/-- `write_blocks`: the data must not be shorter than the blocks; what is beyond them is not
sent, and their length is returned. -/
def writeBlocks (lba : UInt64) (count : UInt32) (data : List UInt8) : Method Nat := do
  let f ← getFields
  let expectedLen := count.toNat * f.blockSize.toNat
  if data.length < expectedLen then
    Script.throw (error ("data too small: need " ++ toString expectedLen ++ " bytes, got " ++
      toString data.length))
  else do
    let _ ← scsiCommand (.write10 lba.toUInt32 count.toUInt16) (some (data.take expectedLen)) 0
    pure expectedLen

/-! ### Pacing -/

/-- A bulk OUT submission leaves its answer to be read. -/
theorem paced_sendBulkOut (payload : List UInt8) : Paced .idle .awaiting (sendBulkOut payload) :=
  (Paced.getFields _).bind fun _ => Paced.submit _

theorem paced_receiveBulkIn (length : UInt32) : Paced .idle .idle (receiveBulkIn length) :=
  (Paced.getFields _).bind fun _ => (Paced.submit _).bind fun _ => Paced.readRetSubmit _

theorem paced_sendCbw (command : ScsiCommand) (dataLen : UInt32) (direction : Direction) :
    Paced .idle .awaiting (sendCbw command dataLen direction) := by
  refine Script.Paced.bind ?_ fun tag => (paced_sendBulkOut _).bind fun _ => Script.Paced.pure _
  exact (Paced.getFields _).bind fun _ => (Paced.updateFields _ _).bind fun _ =>
    Script.Paced.pure _

theorem paced_receiveCsw (expectedTag : UInt32) : Paced .idle .idle (receiveCsw expectedTag) :=
  (paced_receiveBulkIn _).bind fun _ => Script.Paced.liftExcept _

/-- The data phase has its answer read, in either direction and when there is no data. -/
theorem paced_transferData (data : Option (List UInt8)) (responseLen : UInt32) :
    Paced .idle .idle (transferData data responseLen) := by
  cases data with
  | some d =>
      exact (paced_sendBulkOut d).bind fun _ => (Paced.readRetSubmit _).bind fun _ =>
        Script.Paced.pure _
  | none => exact Script.Paced.ite (fun _ => paced_receiveBulkIn _) fun _ => Script.Paced.pure _

/-- Each of the phases of a command ends with the answer to its submission read. -/
theorem paced_scsiCommand (cmd : ScsiCommand) (data : Option (List UInt8))
    (responseLen : UInt32) : Paced .idle .idle (scsiCommand cmd data responseLen) :=
  (paced_sendCbw _ _ _).bind fun _ => (Paced.readRetSubmit _).bind fun _ =>
    (paced_transferData _ _).bind fun _ => (paced_receiveCsw _).bind fun _ =>
    (Script.Paced.liftExcept _).bind fun _ => Script.Paced.pure _

theorem paced_initializeDevice : Paced .idle .idle initializeDevice :=
  (paced_scsiCommand _ _ _).bind fun _ => (Paced.updateFields _ _).bind fun _ =>
    (paced_scsiCommand _ _ _).bind fun _ => Paced.updateFields _ _

theorem paced_readBlocks (lba : UInt64) (count : UInt32) (buf : List UInt8) :
    Paced .idle .idle (readBlocks lba count buf) :=
  (Paced.getFields _).bind fun _ => Script.Paced.ite (fun _ => Script.Paced.throw _) fun _ =>
    (paced_scsiCommand _ _ _).bind fun _ => Script.Paced.pure _

theorem paced_writeBlocks (lba : UInt64) (count : UInt32) (data : List UInt8) :
    Paced .idle .idle (writeBlocks lba count data) :=
  (Paced.getFields _).bind fun _ => Script.Paced.ite (fun _ => Script.Paced.throw _) fun _ =>
    (paced_scsiCommand _ _ _).bind fun _ => Script.Paced.pure _

/-! ### The driver -/

/-- The calls a client can make, with their arguments. -/
inductive Call where
  | initializeDevice
  | readBlocks (lba : UInt64) (count : UInt32) (buf : List UInt8)
  | writeBlocks (lba : UInt64) (count : UInt32) (data : List UInt8)
deriving DecidableEq, Repr

/-- The method that a call runs, and its result as an `Output`. -/
def Call.script : Call → Method Output
  | .initializeDevice => do
    MassStorage.initializeDevice
    pure .unit
  | .readBlocks lba count buf => do
    let (n, buf) ← MassStorage.readBlocks lba count buf
    pure (.filled n buf)
  | .writeBlocks lba count data => do
    let n ← MassStorage.writeBlocks lba count data
    pure (.count n)

/-- Every call leaves nothing outstanding. -/
theorem Call.paced (call : Call) : Paced .idle .idle call.script := by
  cases call with
  | initializeDevice => exact paced_initializeDevice.bind fun _ => Script.Paced.pure _
  | readBlocks lba count buf =>
      exact (paced_readBlocks lba count buf).bind fun _ => Script.Paced.pure _
  | writeBlocks lba count data =>
      exact (paced_writeBlocks lba count data).bind fun _ => Script.Paced.pure _

/-- The mass storage driver, as an instance of what the class drivers share. -/
def driver : Driver where
  Fields := Fields
  Method := Call
  initial := .initial
  script := Call.script
  paced := Call.paced

end Extender.Client.MassStorage
