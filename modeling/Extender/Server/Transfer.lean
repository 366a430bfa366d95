/-
USB transfers (`transfer.rs`) and the reply to a submission (`handle_submit` in `session.rs`).

A submission becomes one call on the device handle, made in a blocking thread. The model keeps
the call and what is made of its answer apart: `DeviceCall` is what the blocking closure does,
and `handleSubmit` builds the reply from the answer, `none` standing for a closure that
panicked, which the join turns into an error reply.

On endpoint 0 the direction comes from the setup packet, on the others from the header; a read
is given a zeroed buffer, of `wLength` bytes on endpoint 0 and of the announced length
elsewhere. The library reports a length and, for a read, the buffer as it left it. Timeouts
are not arguments here: how long the library may take is not part of what it answers.

What the library may answer is not restricted in this module. The results on replies, with the
condition that an answer stays within the buffer of its call, are in `Reply`.
-/

import Extender.Server.Device

namespace Extender.Server

open BigEndian Extender.Protocol

/-- `rusb_error_to_errno`: the status code of a `rusb::Error`, a negative Linux errno. -/
def rusbErrorToErrno : RusbError → Int32
  | .pipe => -32
  | .noDevice => -19
  | .timeout => -110
  | .busy => -16
  | .overflow => -75
  | .notFound => -2
  | .access => -13
  | .io => -5
  | .invalidParam => -22
  | .notSupported => -95
  | .badDescriptor => -5
  | .interrupted => -4
  | .noMem => -12
  | .other => -5

/-- What a transfer has come to: the status of the reply, the length it reports, and the bytes
read. -/
structure TransferResult where
  status : Int32
  actualLength : UInt32
  data : List UInt8
deriving DecidableEq, Repr

/-- A call on the `rusb` handle, with the arguments it is made with. Reads are given a zeroed
buffer of some length. -/
inductive UsbCall where
  | writeControl (requestType request : UInt8) (value index : UInt16) (data : List UInt8)
  | readControl (requestType request : UInt8) (value index : UInt16) (bufferLength : Nat)
  | writeBulk (endpoint : UInt8) (data : List UInt8)
  | readBulk (endpoint : UInt8) (bufferLength : Nat)
deriving DecidableEq, Repr

/-- What the library answers: the length it reports and, for a read, the buffer as
it left it. -/
abbrev UsbAnswer : Type := Except RusbError (Nat × List UInt8)

/-- One transfer: the call that is made on the device, and the result its answer gives. -/
structure DeviceCall where
  call : UsbCall
  finish : UsbAnswer → TransferResult

/-- A write: the data is not looked at again, and the result has none. -/
def writeFinish : UsbAnswer → TransferResult
  | .ok (len, _) => { status := 0, actualLength := UInt32.ofNat len, data := [] }
  | .error e => { status := rusbErrorToErrno e, actualLength := 0, data := [] }

/-- A read: the buffer is truncated to the reported length, which is not more than the buffer
has. -/
def readFinish : UsbAnswer → TransferResult
  | .ok (len, buf) => { status := 0, actualLength := UInt32.ofNat len, data := buf.take len }
  | .error e => { status := rusbErrorToErrno e, actualLength := 0, data := [] }

inductive ControlDirection where
  | out
  | in
deriving DecidableEq, Repr

/-- The direction bit of `bmRequestType`, which decides on endpoint 0. -/
def controlDirection (bmRequestType : UInt8) : ControlDirection :=
  if bmRequestType &&& 0x80 ≠ 0 then .in else .out

/-- `u16::from_le_bytes` of two bytes of the setup packet. -/
def setupWord (setup : Bytes 8) (offset : Nat) : UInt16 :=
  (setup.val.getD offset 0).toUInt16 + 256 * (setup.val.getD (offset + 1) 0).toUInt16

/-- `execute_control_transfer`: the four fields of the setup packet, a read of `wLength` bytes
or a write of the data. -/
def executeControlTransfer (setup : Bytes 8) (data : List UInt8) : DeviceCall :=
  let bmRequestType := setup.val.getD 0 0
  let bRequest := setup.val.getD 1 0
  let wValue := setupWord setup 2
  let wIndex := setupWord setup 4
  let wLength := setupWord setup 6
  match controlDirection bmRequestType with
  | .out => ⟨.writeControl bmRequestType bRequest wValue wIndex data, writeFinish⟩
  | .in => ⟨.readControl bmRequestType bRequest wValue wIndex wLength.toNat, readFinish⟩

/-- `execute_bulk_transfer`: the direction is the highest bit of the endpoint address.
Interrupt transfers are made the same way. -/
def executeBulkTransfer (endpoint : UInt8) (data : List UInt8) (bufferLength : Nat) : DeviceCall :=
  if endpoint &&& 0x80 ≠ 0 then ⟨.readBulk endpoint bufferLength, readFinish⟩
  else ⟨.writeBulk endpoint data, writeFinish⟩

/-! ### The reply to a submission -/

/-- What the blocking closure of `handle_submit` runs: a control transfer on endpoint 0, a
bulk or interrupt one elsewhere. -/
def submitTransfer (cmd : CmdSubmit) : DeviceCall :=
  if cmd.header.ep = 0 then executeControlTransfer cmd.setup cmd.transferBuffer
  else
    let endpoint :=
      if cmd.header.direction = 1 then cmd.header.ep.toUInt8 ||| 0x80 else cmd.header.ep.toUInt8
    executeBulkTransfer endpoint cmd.transferBuffer cmd.transferBufferLength.toNat

/-- `handle_submit`, given how the blocking closure ended: the header is echoed, and the data
goes into the reply when the header says IN. -/
def handleSubmit (cmd : CmdSubmit) (answer : Option UsbAnswer) : RetSubmit :=
  let result :=
    match answer with
    | some answer => (submitTransfer cmd).finish answer
    | none => { status := -5, actualLength := 0, data := [] }
  { header :=
      { command := Command.retSubmit.code
        seqnum := cmd.header.seqnum
        devid := cmd.header.devid
        direction := cmd.header.direction
        ep := cmd.header.ep }
    status := result.status
    actualLength := result.actualLength
    startFrame := 0
    numberOfPackets := 0xFFFFFFFF
    errorCount := 0
    transferBuffer :=
      if cmd.header.direction = 1 ∧ ¬ result.data.isEmpty then result.data else []
    isoPacketDescriptors := [] }

end Extender.Server
