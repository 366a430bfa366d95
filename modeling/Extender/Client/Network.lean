/-
The CDC-ECM/NCM network driver (`network.rs`): Ethernet frames over bulk endpoints, one in a
transfer. Under NCM a frame travels inside a transfer block: a block header (NTH16), which
points to a table of datagrams (NDP16), which points to the frame.

`wrap_ncm_ntb` and `unwrap_ncm_ntb` are pure functions and stand first. Reading a byte outside
the block is a panic, and so is a 16-bit sum that overflows when the build checks for it;
without the check the sum wraps around. Which of the two a build does is an argument here
(`overflowChecks`), so that the results hold for both. What the two functions do with every
frame and every block is in `NcmBlocks`.

The methods of the device are scripts over its connection. `read_frame` asks for 512 bytes
more than a frame has, for the headers around it, and under ECM returns what it reads as it
is.

* `wrapNcmNtb`, `unwrapNcmNtb` — a frame in a transfer block, and the frame of a block.
* `Call.paced` — every method waits for the answer to each of its submissions.
* `Network.driver` — the methods of the device, as the results on pairing and on remote
  devices take them.
-/

import Extender.Client.ClassDevice

namespace Extender.Client.Network

open BigEndian Dialogue Extender.Protocol

/-! ### Constants -/

def cdcRequestType : UInt8 := 0x21
def setEthernetPacketFilterRequest : UInt8 := 0x43
def defaultMaxSegmentSize : UInt16 := 1514
def nth16Signature : UInt32 := 0x484D434E
def ndp16Signature : UInt32 := 0x304D434E
abbrev nth16HeaderSize : Nat := 12
abbrev ndp16MinSize : Nat := 16

def packetTypeDirected : UInt16 := 0x0001
def packetTypeBroadcast : UInt16 := 0x0002
def packetTypeMulticast : UInt16 := 0x0010

def defaultPacketFilter : UInt16 :=
  packetTypeDirected ||| packetTypeBroadcast ||| packetTypeMulticast

inductive NetworkProtocol where
  | ecm
  | ncm
deriving DecidableEq, Repr

/-- `build_set_packet_filter_setup`: the filter is in the value field, the lower byte
first. -/
def buildSetPacketFilterSetup (interface : UInt8) (filter : UInt16) : Bytes 8 :=
  ⟨[cdcRequestType, setEthernetPacketFilterRequest, (filter &&& 0xFF).toUInt8,
    ((filter >>> 8) &&& 0xFF).toUInt8, interface, 0x00, 0x00, 0x00], rfl⟩

/-! ### Transfer blocks -/

/-- An error of this driver with its text. -/
def error (text : String) : DriverError := .device .network text

/-- `wrap_ncm_ntb`: both headers and the frame behind them; `overflowChecks` is the setting of
the build. The sums are of sixteen bits. -/
def wrapNcmNtb (overflowChecks : Bool) (frame : List UInt8) : Except DriverError (List UInt8) :=
  let ndpOffset := UInt16.ofNat nth16HeaderSize
  let datagramOffset := UInt16.ofNat (nth16HeaderSize + ndp16MinSize)
  let datagramLen := UInt16.ofNat frame.length
  if overflowChecks ∧ 2 ^ 16 ≤ datagramOffset.toNat + datagramLen.toNat then .error .panicked
  else
    let blockLen := datagramOffset + datagramLen
    .ok (u32LeBytes nth16Signature ++ u16LeBytes 12 ++ u16LeBytes 0 ++ u16LeBytes blockLen ++
      u16LeBytes ndpOffset ++ u32LeBytes ndp16Signature ++ u16LeBytes 16 ++ u16LeBytes 0 ++
      u16LeBytes datagramOffset ++ u16LeBytes datagramLen ++ u16LeBytes 0 ++ u16LeBytes 0 ++
      frame)

/-- `data[i..i + n]`, which panics when the block ends before. -/
def slice (data : List UInt8) (i n : Nat) : Except DriverError (List UInt8) :=
  if i + n ≤ data.length then .ok ((data.drop i).take n) else .error .panicked

/-- `from_le_bytes` of the `n` bytes at `i`, each of them indexed. -/
def numberAt (data : List UInt8) (i n : Nat) : Except DriverError Nat := do
  let bytes ← slice data i n
  .ok (ofBytes bytes.reverse)

/-- `unwrap_ncm_ntb`: both signatures and the first datagram of the table are checked against
the length of the block. -/
def unwrapNcmNtb (data : List UInt8) : Except DriverError (List UInt8) := do
  if data.length < nth16HeaderSize then .error (error "NTB too short for NTH16 header")
  else
    let sig ← numberAt data 0 4
    if UInt32.ofNat sig ≠ nth16Signature then
      .error (error ("invalid NTH16 signature: " ++ hex (UInt32.ofNat sig)))
    else
      let ndpOffset ← numberAt data 10 2
      if data.length < ndpOffset + ndp16MinSize then
        .error (error "NTB too short for NDP16 header")
      else
        let ndpSig ← numberAt data ndpOffset 4
        if UInt32.ofNat ndpSig ≠ ndp16Signature then
          .error (error ("invalid NDP16 signature: " ++ hex (UInt32.ofNat ndpSig)))
        else
          let entryOffset := ndpOffset + 8
          if data.length < entryOffset + 4 then
            .error (error "NDP16 too short for datagram entry")
          else
            let datagramIndex ← numberAt data entryOffset 2
            let datagramLength ← numberAt data (entryOffset + 2) 2
            if datagramIndex = 0 ∨ datagramLength = 0 then
              .error (error "NDP16 contains no datagrams")
            else if data.length < datagramIndex + datagramLength then
              .error (error ("datagram extends past NTB: offset=" ++ toString datagramIndex ++
                ", len=" ++ toString datagramLength ++ ", total=" ++ toString data.length))
            else slice data datagramIndex datagramLength

/-! ### The device -/

/-- `NetworkDevice`: its data endpoints, the encapsulation in use and the largest segment. -/
structure Fields where
  epDataIn : UInt8
  epDataOut : UInt8
  protocol : NetworkProtocol
  maxSegmentSize : UInt16
  controlInterface : UInt8
deriving DecidableEq, Repr

/-- The device as `connect` returns it: ECM, until `set_protocol` is called. -/
def Fields.initial : Fields :=
  { epDataIn := 0x81, epDataOut := 0x02, protocol := .ecm
    maxSegmentSize := defaultMaxSegmentSize, controlInterface := 0 }

/-- A method of the device: a script over these fields. -/
abbrev Method (α : Type) : Type := ClassScript Fields α

/-- `send_control_out`: the submission alone; its caller reads the answer. -/
def sendControlOut (setup : Bytes 8) (data : List UInt8) : Method Unit :=
  submit (.toDevice 0 setup data)

/-- `send_bulk_out`: the submission alone; its caller reads the answer. -/
def sendBulkOut (endpoint : UInt8) (payload : List UInt8) : Method Unit :=
  submit (.toDevice (endpointNumber endpoint) noSetup payload)

/-- `receive_bulk_in`: the submission, and the data of its answer. -/
def receiveBulkIn (endpoint : UInt8) (length : UInt32) : Method (List UInt8) := do
  submit (.fromDevice (endpointNumber endpoint) noSetup length)
  readRetSubmit .network

/-- `set_packet_filter`: which frames the device passes on, by a control request whose answer
is awaited. -/
def setPacketFilter (filter : UInt16) : Method Unit := do
  let f ← getFields
  sendControlOut (buildSetPacketFilterSetup f.controlInterface filter) []
  let _ ← readRetSubmit .network

/-- `initialize`: directed, broadcast and multicast frames are let through. -/
def initializeDevice : Method Unit := setPacketFilter defaultPacketFilter

/-- `set_protocol`: a field of the driver; the device is not told. -/
def setProtocol (protocol : NetworkProtocol) : Method Unit :=
  updateFields fun f => { f with protocol }

/-- `read_frame`: one transfer, unwrapped under NCM, where only the first datagram of a block
is returned. -/
def readFrame : Method (List UInt8) := do
  let f ← getFields
  let data ← receiveBulkIn f.epDataIn (f.maxSegmentSize.toUInt32 + 512)
  Script.liftExcept <|
    match f.protocol with
    | .ecm => .ok data
    | .ncm => unwrapNcmNtb data

/-- `write_frame`: wrapped under NCM, before anything is submitted. -/
def writeFrame (overflowChecks : Bool) (frame : List UInt8) : Method Unit := do
  let f ← getFields
  let payload ← Script.liftExcept <|
    match f.protocol with
    | .ecm => .ok frame
    | .ncm => wrapNcmNtb overflowChecks frame
  sendBulkOut f.epDataOut payload
  let _ ← readRetSubmit .network

/-! ### Pacing -/

theorem paced_setPacketFilter (filter : UInt16) : Paced .idle .idle (setPacketFilter filter) :=
  (Paced.getFields _).bind fun _ => (Paced.submit _).bind fun _ =>
    (Paced.readRetSubmit _).bind fun _ => Script.Paced.pure _

theorem paced_readFrame : Paced .idle .idle readFrame :=
  (Paced.getFields _).bind fun _ => Script.Paced.bind
    ((Paced.submit _).bind fun _ => Paced.readRetSubmit _) fun _ => Script.Paced.liftExcept _

theorem paced_writeFrame (overflowChecks : Bool) (frame : List UInt8) :
    Paced .idle .idle (writeFrame overflowChecks frame) :=
  (Paced.getFields _).bind fun _ => (Script.Paced.liftExcept _).bind fun _ =>
    (Paced.submit _).bind fun _ => (Paced.readRetSubmit _).bind fun _ => Script.Paced.pure _

/-! ### The driver -/

/-- The calls a client can make, with their arguments. -/
inductive Call where
  | initializeDevice
  | setProtocol (protocol : NetworkProtocol)
  | setPacketFilter (filter : UInt16)
  | readFrame
  | writeFrame (frame : List UInt8)
deriving DecidableEq, Repr

/-- The method that a call runs, and its result as an `Output`. -/
def Call.script (overflowChecks : Bool) : Call → Method Output
  | .initializeDevice => do
    Network.initializeDevice
    pure .unit
  | .setProtocol protocol => do
    Network.setProtocol protocol
    pure .unit
  | .setPacketFilter filter => do
    Network.setPacketFilter filter
    pure .unit
  | .readFrame => do
    let frame ← Network.readFrame
    pure (.bytes frame)
  | .writeFrame frame => do
    Network.writeFrame overflowChecks frame
    pure .unit

/-- Every call leaves nothing outstanding, in builds of either setting. -/
theorem Call.paced (overflowChecks : Bool) (call : Call) :
    Paced .idle .idle (call.script overflowChecks) := by
  cases call with
  | initializeDevice => exact (paced_setPacketFilter _).bind fun _ => Script.Paced.pure _
  | setProtocol protocol => exact (Paced.updateFields _ _).bind fun _ => Script.Paced.pure _
  | setPacketFilter filter => exact (paced_setPacketFilter _).bind fun _ => Script.Paced.pure _
  | readFrame => exact paced_readFrame.bind fun _ => Script.Paced.pure _
  | writeFrame frame =>
      exact (paced_writeFrame overflowChecks frame).bind fun _ => Script.Paced.pure _

/-- The network driver of a build, as an instance of what the class drivers share. -/
def driver (overflowChecks : Bool) : Driver where
  Fields := Fields
  Method := Call
  initial := .initial
  script := Call.script overflowChecks
  paced := Call.paced overflowChecks

end Extender.Client.Network
