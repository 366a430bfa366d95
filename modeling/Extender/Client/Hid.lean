/-
The HID driver (`hid.rs`): reports over interrupt endpoints, class requests over endpoint 0.

A client that has imported a keyboard or a gamepad owns the connection to its server and calls
these methods one after another. Each class request is a control transfer, whose setup packet
is built byte by byte; the setup packets stand first, as the source has them, and the methods
that send them after.

`write_report` has two ways to the device. With an interrupt OUT endpoint the report is a
transfer of its own; without one it goes out as a `SET_REPORT` on endpoint 0, whose length
field has sixteen bits. Either way the method reads one message before it returns, and does
not look at which submission that message answers.

`connect` sets the endpoints to fixed values, and this is how a device begins
(`Fields.initial`): nothing is read from the descriptors of the device.

* `Call.paced` — every method waits for the answer to each of its submissions before it sends
  the next, and has none outstanding when it returns.
* `Hid.driver` — the driver as the results on pairing and on remote devices take it: its
  methods, how it begins and its pacing.
-/

import Extender.Client.ClassDevice

namespace Extender.Client.Hid

open BigEndian Dialogue Extender.Protocol

/-! ### Setup packets -/

def defaultReportDescriptorMaxLen : UInt16 := 4096
def hidDescriptorTypeReport : UInt8 := 0x22
def hidRequestSetIdle : UInt8 := 0x0A
def hidRequestSetProtocol : UInt8 := 0x0B
def hidRequestSetReport : UInt8 := 0x09
def usbRtHidInterfaceIn : UInt8 := 0x81
def usbRtHidInterfaceOut : UInt8 := 0x21
def usbRequestGetDescriptor : UInt8 := 0x06

/-- `build_get_report_descriptor_setup`: GET_DESCRIPTOR for the report descriptor of an
interface; the length is in the last two bytes, the lower one first. -/
def buildGetReportDescriptorSetup (interface : UInt8) (length : UInt16) : Bytes 8 :=
  ⟨[usbRtHidInterfaceIn, usbRequestGetDescriptor, 0x00, hidDescriptorTypeReport, interface, 0x00,
    (length &&& 0xFF).toUInt8, ((length >>> 8) &&& 0xFF).toUInt8], rfl⟩

/-- `build_set_idle_setup`: the idle rate of a report, which has no data stage. -/
def buildSetIdleSetup (interface duration reportId : UInt8) : Bytes 8 :=
  ⟨[usbRtHidInterfaceOut, hidRequestSetIdle, reportId, duration, interface, 0x00, 0x00, 0x00], rfl⟩

/-- `build_set_protocol_setup`: boot or report protocol, again without a data stage. -/
def buildSetProtocolSetup (interface protocol : UInt8) : Bytes 8 :=
  ⟨[usbRtHidInterfaceOut, hidRequestSetProtocol, protocol, 0x00, interface, 0x00, 0x00, 0x00], rfl⟩

/-- `build_set_report_setup`: an output report, with the report number 0 always. -/
def buildSetReportSetup (interface : UInt8) (length : UInt16) : Bytes 8 :=
  ⟨[usbRtHidInterfaceOut, hidRequestSetReport, 0x00, 0x02, interface, 0x00,
    (length &&& 0xFF).toUInt8, ((length >>> 8) &&& 0xFF).toUInt8], rfl⟩

/-! ### The device -/

/-- `HidDevice`: its endpoints, the report descriptor that `initialize` keeps and the
interface of its class requests. -/
structure Fields where
  epIn : UInt8
  epOut : Option UInt8
  reportDescriptor : List UInt8
  interfaceNumber : UInt8
deriving DecidableEq, Repr

/-- The device as `connect` returns it, before any request. -/
def Fields.initial : Fields :=
  { epIn := 0x81, epOut := some 0x02, reportDescriptor := [], interfaceNumber := 0 }

/-- A method of the device: a script over these fields. -/
abbrev Method (α : Type) : Type := ClassScript Fields α

/-- `control_transfer_in`: the data of the answer is the result. -/
def controlTransferIn (setup : Bytes 8) (length : UInt32) : Method (List UInt8) := do
  submit (.fromDevice 0 setup length)
  readRetSubmit .hid

/-- `control_transfer_out`: the answer is read for its status only. -/
def controlTransferOut (setup : Bytes 8) (data : List UInt8) : Method Unit := do
  submit (.toDevice 0 setup data)
  let _ ← readRetSubmit .hid

/-- `receive_interrupt_in`: an IN transfer of the given length on the interrupt endpoint. -/
def receiveInterruptIn (length : UInt32) : Method (List UInt8) := do
  let f ← getFields
  submit (.fromDevice (endpointNumber f.epIn) noSetup length)
  readRetSubmit .hid

/-- `send_interrupt_out`: the submission alone; its caller reads the answer. -/
def sendInterruptOut (epOut : UInt8) (payload : List UInt8) : Method Unit :=
  submit (.toDevice (endpointNumber epOut) noSetup payload)

/-- `get_report_descriptor`, asking for up to 4096 bytes. -/
def getReportDescriptor : Method (List UInt8) := do
  let f ← getFields
  let len := defaultReportDescriptorMaxLen
  controlTransferIn (buildGetReportDescriptorSetup f.interfaceNumber len) len.toUInt32

def setIdle (duration reportId : UInt8) : Method Unit := do
  let f ← getFields
  controlTransferOut (buildSetIdleSetup f.interfaceNumber duration reportId) []

def setProtocol (protocol : UInt8) : Method Unit := do
  let f ← getFields
  controlTransferOut (buildSetProtocolSetup f.interfaceNumber protocol) []

/-- The report by a control transfer; its length is cast to sixteen bits in the setup
packet. -/
def setReport (report : List UInt8) : Method Unit := do
  let f ← getFields
  controlTransferOut (buildSetReportSetup f.interfaceNumber (UInt16.ofNat report.length)) report

/-- `initialize`: the report descriptor is fetched and kept, then the idle rate and the report
protocol are set. -/
def initializeDevice : Method Unit := do
  let descriptor ← getReportDescriptor
  updateFields fun f => { f with reportDescriptor := descriptor }
  setIdle 0 0
  setProtocol 1

/-- `read_report`: one report of at most 64 bytes. -/
def readReport : Method (List UInt8) := receiveInterruptIn 64

/-- `write_report`: by the interrupt OUT endpoint where there is one, else by `SET_REPORT`. -/
def writeReport (report : List UInt8) : Method Unit := do
  let f ← getFields
  match f.epOut with
  | some epOut => do
    sendInterruptOut epOut report
    let _ ← readRetSubmit .hid
  | none => setReport report

/-! ### Pacing -/

theorem paced_controlTransferIn (setup : Bytes 8) (length : UInt32) :
    Paced .idle .idle (controlTransferIn setup length) :=
  (Paced.submit _).bind fun _ => Paced.readRetSubmit _

theorem paced_controlTransferOut (setup : Bytes 8) (data : List UInt8) :
    Paced .idle .idle (controlTransferOut setup data) :=
  (Paced.submit _).bind fun _ => (Paced.readRetSubmit _).bind fun _ => Script.Paced.pure _

theorem paced_getReportDescriptor : Paced .idle .idle getReportDescriptor :=
  (Paced.getFields _).bind fun _ => paced_controlTransferIn _ _

theorem paced_setIdle (duration reportId : UInt8) : Paced .idle .idle (setIdle duration reportId) :=
  (Paced.getFields _).bind fun _ => paced_controlTransferOut _ _

theorem paced_setProtocol (protocol : UInt8) : Paced .idle .idle (setProtocol protocol) :=
  (Paced.getFields _).bind fun _ => paced_controlTransferOut _ _

theorem paced_initializeDevice : Paced .idle .idle initializeDevice :=
  paced_getReportDescriptor.bind fun _ => (Paced.updateFields _ _).bind fun _ =>
    (paced_setIdle 0 0).bind fun _ => paced_setProtocol 1

theorem paced_readReport : Paced .idle .idle readReport :=
  (Paced.getFields _).bind fun _ => (Paced.submit _).bind fun _ => Paced.readRetSubmit _

theorem paced_writeReport (report : List UInt8) : Paced .idle .idle (writeReport report) := by
  refine (Paced.getFields _).bind fun f => ?_
  split
  · exact (Paced.submit _).bind fun _ => (Paced.readRetSubmit _).bind fun _ => Script.Paced.pure _
  · exact (Paced.getFields _).bind fun _ => paced_controlTransferOut _ _

/-! ### The driver -/

/-- The calls a client can make, with their arguments. -/
inductive Call where
  | initializeDevice
  | readReport
  | writeReport (report : List UInt8)
deriving DecidableEq, Repr

/-- The method that a call runs, and its result as an `Output`. -/
def Call.script : Call → Method Output
  | .initializeDevice => do
    Hid.initializeDevice
    pure .unit
  | .readReport => do
    let data ← Hid.readReport
    pure (.bytes data)
  | .writeReport report => do
    Hid.writeReport report
    pure .unit

/-- Every call leaves nothing outstanding. -/
theorem Call.paced (call : Call) : Paced .idle .idle call.script := by
  cases call with
  | initializeDevice => exact paced_initializeDevice.bind fun _ => Script.Paced.pure _
  | readReport => exact paced_readReport.bind fun _ => Script.Paced.pure _
  | writeReport report => exact (paced_writeReport report).bind fun _ => Script.Paced.pure _

/-- The HID driver, as an instance of what the class drivers share. -/
def driver : Driver where
  Fields := Fields
  Method := Call
  initial := .initial
  script := Call.script
  paced := Call.paced

end Extender.Client.Hid
