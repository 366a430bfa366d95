/-
Discovery messages (`discovery.rs`) and their stream reader (`read_op_message` and
`write_op_message` of `codec.rs`).

A connection opens with one of these: a request for the device list or a request to import one
device. Both requests have a status field that no reader looks at. The device list nests two
counts, the number of devices in the message header and the number of interfaces inside each
record; the reply to an import carries a record, without interfaces, if and only if its status
is zero.

As with the URB messages there are two implementations of the format. `readOpMessage` takes a
message from a stream piece by piece; the `decode` of each message type reads it from a cursor
behind checks of `remaining()`. Which type that is, is chosen by the caller from the operation
code (`decodeOp`).

`wire_size` is what a message is to take on the wire; that `encode` emits just as many bytes
is shown with the grammar, in `DiscoveryGrammar`.
-/

import Extender.Protocol.Device

namespace Extender.Protocol

open BigEndian ByteReader

/-- Reply with the list of exported devices, each with its interfaces. -/
structure OpRepDevlist where
  status : UInt32
  devices : List UsbDevice
deriving DecidableEq, Repr

/-- Request to import a device by bus id; the id is the 32 bytes as they travel. -/
structure OpReqImport where
  busid : BusId
deriving DecidableEq, Repr

/-- Reply to an import request; the record is present only on success, and its interfaces are
not sent. -/
structure OpRepImport where
  status : UInt32
  device : Option UsbDevice
deriving DecidableEq, Repr

/-- A message of the discovery phase: two requests and their replies. -/
inductive OpMessage where
  | reqDevlist
  | repDevlist (m : OpRepDevlist)
  | reqImport (m : OpReqImport)
  | repImport (m : OpRepImport)
deriving DecidableEq, Repr

/-! ### Encoding -/

def OpRepDevlist.encode (m : OpRepDevlist) : List UInt8 :=
  u16Bytes usbipVersion ++ u16Bytes OpCode.opRepDevlist.code ++ u32Bytes m.status ++
    u32Bytes (UInt32.ofNat m.devices.length) ++ m.devices.flatMap encodeDeviceWithInterfaces

def OpReqImport.encode (m : OpReqImport) : List UInt8 :=
  u16Bytes usbipVersion ++ u16Bytes OpCode.opReqImport.code ++ u32Bytes 0 ++ m.busid.val

def OpRepImport.encode (m : OpRepImport) : List UInt8 :=
  u16Bytes usbipVersion ++ u16Bytes OpCode.opRepImport.code ++ u32Bytes m.status ++
    (match m.device with
    | some device => device.encode
    | none => [])

def OpMessage.encode : OpMessage → List UInt8
  | .reqDevlist => u16Bytes usbipVersion ++ u16Bytes OpCode.opReqDevlist.code ++ u32Bytes 0
  | .repDevlist m => m.encode
  | .reqImport m => m.encode
  | .repImport m => m.encode

/-- `write_op_message` on a writer that accepts every byte. -/
def writeOpMessage (written : List UInt8) (msg : OpMessage) : List UInt8 :=
  written ++ msg.encode

abbrev opHeaderSize : Nat := 8
abbrev opReqImportSize : Nat := 40

/-- `wire_size`, by variant. -/
def OpMessage.wireSize : OpMessage → Nat
  | .reqDevlist => opHeaderSize
  | .repDevlist m => opHeaderSize + 4 + (m.devices.map fun d =>
      usbDeviceWireSize + d.interfaces.length * usbInterfaceWireSize).sum
  | .reqImport _ => opReqImportSize
  | .repImport m => opHeaderSize + if m.device.isSome then usbDeviceWireSize else 0

/-! ### The synchronous decoders -/

/-- The version and the operation code every discovery message starts with; another version is
an error. -/
def decodeOpHeader {α : Type} (opcode : OpCode) (x : Reader Failure α) : Reader Failure α := do
  let version ← getU16
  if version ≠ usbipVersion then throw (.error (.unsupportedVersion version))
  else do
    let code ← getU16
    if code ≠ opcode.code then throw (.error (.invalidOpCode code))
    else x

/-- The request carries nothing but its header. -/
def OpReqDevlist.decode : Reader Failure Unit :=
  needs opHeaderSize (bufferTooShort opHeaderSize) <|
    decodeOpHeader .opReqDevlist do
      let _status ← getU32
      pure ()

def OpRepDevlist.decode : Reader Failure OpRepDevlist :=
  needs (opHeaderSize + 4) (bufferTooShort (opHeaderSize + 4)) <|
    decodeOpHeader .opRepDevlist do
      let status ← getU32
      let numDevicesRaw ← getU32
      if numDevicesRaw > maxDevicesInDevlist then
        throw (.error (.tooManyDevices numDevicesRaw maxDevicesInDevlist))
      else do
        let devices ← items decodeDeviceWithInterfaces numDevicesRaw.toNat
        pure { status, devices }

def OpReqImport.decode : Reader Failure OpReqImport :=
  needs opReqImportSize (bufferTooShort opReqImportSize) <|
    decodeOpHeader .opReqImport do
      let _status ← getU32
      let busid ← copyToSlice 32
      pure { busid }

def OpRepImport.decode : Reader Failure OpRepImport :=
  needs opHeaderSize (bufferTooShort opHeaderSize) <|
    decodeOpHeader .opRepImport do
      let status ← getU32
      if status = 0 then do
        let device ← UsbDevice.decode
        pure { status, device := some device }
      else pure { status, device := none }

/-- The `WireFormat::decode` of the type an operation code selects, from a buffer that holds
the message. -/
def decodeOp : OpCode → Reader Failure OpMessage
  | .opReqDevlist => do
    let _ ← OpReqDevlist.decode
    pure .reqDevlist
  | .opRepDevlist => do
    let m ← OpRepDevlist.decode
    pure (.repDevlist m)
  | .opReqImport => do
    let m ← OpReqImport.decode
    pure (.reqImport m)
  | .opRepImport => do
    let m ← OpRepImport.decode
    pure (.repImport m)

/-! ### The stream reader -/

/-- One device of a device list: its record, then as many interfaces as it says. -/
def readDevice : Reader Failure UsbDevice := do
  let devBuf ← readExact usbDeviceWireSize
  let device ← onBuffer UsbDevice.decode devBuf.val
  if device.numInterfaces > 0 then do
    let ifaceBuf ← readExact (device.numInterfaces.toNat * usbInterfaceWireSize)
    let interfaces ← onBuffer (items UsbInterface.decode device.numInterfaces.toNat) ifaceBuf.val
    pure { device with interfaces := device.interfaces ++ interfaces }
  else pure device

/-- The `match opcode` of `read_op_message`: what is read depends on the operation alone. -/
def readAfterOpCode : OpCode → Reader Failure OpMessage
  | .opReqDevlist => do
    let _ ← readExact 4
    pure .reqDevlist
  | .opRepDevlist => do
    let rest ← readExact 8
    let status := u32At rest 0 (by decide)
    let numDevices := u32At rest 4 (by decide)
    if numDevices > maxDevicesInDevlist then
      throw (.error (.tooManyDevices numDevices maxDevicesInDevlist))
    else do
      let devices ← items readDevice numDevices.toNat
      pure (.repDevlist { status, devices })
  | .opReqImport => do
    let rest ← readExact 36
    pure (.reqImport { busid := rest.slice 4 32 (by decide) })
  | .opRepImport => do
    let statusBuf ← readExact 4
    let status := u32At statusBuf 0 (by decide)
    if status = 0 then do
      let devBuf ← readExact usbDeviceWireSize
      let device ← onBuffer UsbDevice.decode devBuf.val
      pure (.repImport { status, device := some device })
    else pure (.repImport { status, device := none })

/-- `read_op_message`: version and operation code, then the body the code selects. A wrong
version is an error before the code is looked at. -/
def readOpMessage : Reader Failure OpMessage := do
  let header ← readExact 4
  let version := u16At header 0 (by decide)
  if version ≠ usbipVersion then throw (.error (.unsupportedVersion version))
  else
    let opcodeRaw := u16At header 2 (by decide)
    match OpCode.fromRaw opcodeRaw with
    | none => throw (.error (.invalidOpCode opcodeRaw))
    | some opcode => readAfterOpCode opcode

end Extender.Protocol
