/-
The CDC/ACM serial driver (`serial.rs`): bulk data, line settings over endpoint 0.

The driver holds a copy of the line settings. It is replaced only when the device has answered
`SET_LINE_CODING` without an error, so what a driver holds are the settings of the last
request that succeeded, or 9600 baud with eight data bits if there was none. A control line
state has no copy.

Reading and writing are one transfer each. `read` asks for as much as the caller's buffer
holds and copies what comes, cut to the buffer should a server send more; `write` returns the
length of the data once the submission is answered. The buffer a caller passes is an argument
of the method, and comes back in its result as the call leaves it.

* `Call.paced` — every method waits for the answer to each of its submissions.
* `Serial.driver` — the methods of the device, as the results on pairing and on remote devices
  take them: calls, how a device begins after `connect`, and the pacing.
-/

import Extender.Client.ClassDevice

namespace Extender.Client.Serial

open BigEndian Dialogue Extender.Protocol

/-! ### Line settings -/

abbrev lineCodingSize : Nat := 7
def setLineCodingRequest : UInt8 := 0x20
def setControlLineStateRequest : UInt8 := 0x22
def cdcRequestType : UInt8 := 0x21

/-- `LineCoding`: baud rate, stop bits, parity and data bits. -/
structure LineCoding where
  baudRate : UInt32
  stopBits : UInt8
  parity : UInt8
  dataBits : UInt8
deriving DecidableEq, Repr

/-- `to_bytes`: seven bytes, the baud rate with its lowest byte first. -/
def LineCoding.toBytes (coding : LineCoding) : Bytes lineCodingSize :=
  ⟨u32LeBytes coding.baudRate ++ [coding.stopBits, coding.parity, coding.dataBits], by simp⟩

/-! ### The device -/

/-- `SerialDevice`: its data endpoints, the control interface and the settings it holds. -/
structure Fields where
  epDataIn : UInt8
  epDataOut : UInt8
  controlInterface : UInt8
  lineCoding : LineCoding
deriving DecidableEq, Repr

/-- The device as `connect` returns it. -/
def Fields.initial : Fields :=
  { epDataIn := 0x82, epDataOut := 0x02, controlInterface := 0
    lineCoding := { baudRate := 9600, stopBits := 0, parity := 0, dataBits := 8 } }

/-- A method of the device: a script over these fields. -/
abbrev Method (α : Type) : Type := ClassScript Fields α

/-- `send_control_out`: the submission alone; its caller reads the answer. -/
def sendControlOut (setup : Bytes 8) (data : List UInt8) : Method Unit :=
  submit (.toDevice 0 setup data)

/-- `send_bulk_out`: the submission alone; its caller reads the answer. -/
def sendBulkOut (endpoint : UInt8) (payload : List UInt8) : Method Unit :=
  submit (.toDevice (endpointNumber endpoint) noSetup payload)

/-- `receive_bulk_in`: the submission, and the data of its answer. -/
def receiveBulkIn (endpoint : UInt8) (length : UInt32) : Method (List UInt8) := do
  submit (.fromDevice (endpointNumber endpoint) noSetup length)
  readRetSubmit .serial

/-- `set_line_coding`: the settings are kept once the device has answered without an error. -/
def setLineCoding (coding : LineCoding) : Method Unit := do
  let f ← getFields
  sendControlOut ⟨[cdcRequestType, setLineCodingRequest, 0x00, 0x00, f.controlInterface, 0x00,
    UInt8.ofNat lineCodingSize, 0x00], rfl⟩ coding.toBytes.val
  let _ ← readRetSubmit .serial
  updateFields fun f => { f with lineCoding := coding }

/-- `set_control_line_state`: DTR and RTS in the two lowest bits of the value. -/
def setControlLineState (dtr rts : Bool) : Method Unit := do
  let f ← getFields
  let state : UInt16 := dtr.toUInt16 ||| (rts.toUInt16 <<< 1)
  sendControlOut ⟨[cdcRequestType, setControlLineStateRequest, (state &&& 0xFF).toUInt8,
    ((state >>> 8) &&& 0xFF).toUInt8, f.controlInterface, 0x00, 0x00, 0x00], rfl⟩ []
  let _ ← readRetSubmit .serial

/-- `initialize`: a baud rate with eight data bits and no parity, then both lines on. -/
def initializeDevice (baudRate : UInt32) : Method Unit := do
  setLineCoding { baudRate, stopBits := 0, parity := 0, dataBits := 8 }
  setControlLineState true true

/-- `read`: the number of bytes copied, and the buffer they are copied into. -/
def read (buf : List UInt8) : Method (Nat × List UInt8) := do
  let f ← getFields
  let data ← receiveBulkIn f.epDataIn (UInt32.ofNat buf.length)
  let copyLen := min data.length buf.length
  pure (copyLen, data.take copyLen ++ buf.drop copyLen)

/-- `write`: the data in one transfer; its whole length is returned. -/
def write (data : List UInt8) : Method Nat := do
  let f ← getFields
  sendBulkOut f.epDataOut data
  let _ ← readRetSubmit .serial
  pure data.length

/-! ### Pacing -/

theorem paced_setLineCoding (coding : LineCoding) : Paced .idle .idle (setLineCoding coding) :=
  (Paced.getFields _).bind fun _ => (Paced.submit _).bind fun _ =>
    (Paced.readRetSubmit _).bind fun _ => Paced.updateFields _ _

theorem paced_setControlLineState (dtr rts : Bool) :
    Paced .idle .idle (setControlLineState dtr rts) :=
  (Paced.getFields _).bind fun _ => (Paced.submit _).bind fun _ =>
    (Paced.readRetSubmit _).bind fun _ => Script.Paced.pure _

theorem paced_read (buf : List UInt8) : Paced .idle .idle (read buf) :=
  (Paced.getFields _).bind fun _ => Script.Paced.bind
    ((Paced.submit _).bind fun _ => Paced.readRetSubmit _) fun _ => Script.Paced.pure _

theorem paced_write (data : List UInt8) : Paced .idle .idle (write data) :=
  (Paced.getFields _).bind fun _ => (Paced.submit _).bind fun _ =>
    (Paced.readRetSubmit _).bind fun _ => Script.Paced.pure _

/-! ### The driver -/

/-- The calls a client can make, with their arguments. -/
inductive Call where
  | initializeDevice (baudRate : UInt32)
  | read (buf : List UInt8)
  | write (data : List UInt8)
  | setLineCoding (coding : LineCoding)
  | setControlLineState (dtr rts : Bool)
deriving DecidableEq, Repr

/-- The method that a call runs, and its result as an `Output`. -/
def Call.script : Call → Method Output
  | .initializeDevice baudRate => do
    Serial.initializeDevice baudRate
    pure .unit
  | .read buf => do
    let (n, buf) ← Serial.read buf
    pure (.filled n buf)
  | .write data => do
    let n ← Serial.write data
    pure (.count n)
  | .setLineCoding coding => do
    Serial.setLineCoding coding
    pure .unit
  | .setControlLineState dtr rts => do
    Serial.setControlLineState dtr rts
    pure .unit

/-- Every call leaves nothing outstanding. -/
theorem Call.paced (call : Call) : Paced .idle .idle call.script := by
  cases call with
  | initializeDevice baudRate =>
      exact ((paced_setLineCoding _).bind fun _ => paced_setControlLineState _ _).bind fun _ =>
        Script.Paced.pure _
  | read buf => exact (paced_read buf).bind fun _ => Script.Paced.pure _
  | write data => exact (paced_write data).bind fun _ => Script.Paced.pure _
  | setLineCoding coding => exact (paced_setLineCoding coding).bind fun _ => Script.Paced.pure _
  | setControlLineState dtr rts =>
      exact (paced_setControlLineState dtr rts).bind fun _ => Script.Paced.pure _

/-- The serial driver, as an instance of what the class drivers share. -/
def driver : Driver where
  Fields := Fields
  Method := Call
  initial := .initial
  script := Call.script
  paced := Call.paced

end Extender.Client.Serial
