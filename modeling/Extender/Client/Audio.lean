/-
The audio driver (`audio.rs`): samples over isochronous endpoints, at most 32 packets in a
transfer; sample rate, volume and mute over endpoint 0.

An isochronous submission lists its packets, each with an offset into the buffer and a length.
`read_audio` asks for packets of full size, as many as the caller's buffer takes;
`write_audio` cuts the data into packets in a loop, the last of which may be shorter. Both
count packets by the same expression and stop at 32. What a longer buffer then comes to is in
`IsoPackets`.

The settings are control transfers. `get_sample_rates` asks the device for its current rate,
and returns it before a table of common rates; the table alone, should the answer be too
short.

* `packetCount`, `captureDescriptors`, `playbackDescriptors` — the packets of a transfer.
* `Call.paced` — every method waits for the answer to each of its submissions.
* `Audio.driver` — the methods of the device, as the results on pairing and on remote devices
  take them.
-/

import Extender.Client.ClassDevice

namespace Extender.Client.Audio

open BigEndian Dialogue Extender.Protocol

/-! ### The device -/

def defaultFeatureUnitId : UInt8 := 0x02
def setCur : UInt8 := 0x01
def getCur : UInt8 := 0x81
def volumeControl : UInt8 := 0x02
def muteControl : UInt8 := 0x01

/-- An error of this driver with its text. -/
def error (text : String) : DriverError := .device .audio text

/-- `AudioDevice`: an endpoint for each direction it has, the sample rate and the packet
size. -/
structure Fields where
  epPlayback : Option UInt8
  epCapture : Option UInt8
  sampleRate : UInt32
  maxPacketSize : UInt16
deriving DecidableEq, Repr

/-- The device as `connect` returns it: stereo samples at 48 kHz in packets of 192 bytes. -/
def Fields.initial : Fields :=
  { epPlayback := some 0x01, epCapture := some 0x82, sampleRate := 48000, maxPacketSize := 192 }

/-- A method of the device: a script over these fields. -/
abbrev Method (α : Type) : Type := ClassScript Fields α

/-- `send_control_out`: the answer is read, for its status. -/
def sendControlOut (setup : Bytes 8) (data : List UInt8) : Method Unit := do
  submit (.toDevice 0 setup data)
  let _ ← awaitReturn .audio "control OUT transfer"

/-- `send_control_in`: the data of the answer. -/
def sendControlIn (setup : Bytes 8) (length : UInt16) : Method (List UInt8) := do
  submit (.fromDevice 0 setup length.toUInt32)
  let ret ← awaitReturn .audio "control IN transfer"
  pure ret.transferBuffer

/-- `initialize`: the device descriptor is fetched, and not looked at. -/
def initializeDevice : Method Unit := do
  let _ ← sendControlIn ⟨[0x80, 0x06, 0x00, 0x01, 0x00, 0x00, 0x12, 0x00], rfl⟩ 18

/-! ### Samples -/

/-- The endpoint of a transfer and the size of its packets, or the error of a device without
it. -/
def isoEndpoint (endpoint : Option UInt8) (missing : String) (f : Fields) :
    Except DriverError (UInt32 × Nat) :=
  match endpoint with
  | none => .error (error missing)
  | some ep =>
    if f.maxPacketSize = 0 then .error (error "max_packet_size is zero")
    else .ok (endpointNumber ep, f.maxPacketSize.toNat)

/-- How many packets a transfer of `len` bytes takes, up to 32. -/
def packetCount (len maxPkt : Nat) : Nat := min ((len + maxPkt - 1) / maxPkt) 32

/-- The descriptors of `read_audio`: packets of full size. -/
def captureDescriptors (maxPacketSize : UInt16) (numPackets : Nat) : List IsoPacketDescriptor :=
  (List.range numPackets).map fun i =>
    { offset := UInt32.ofNat i * maxPacketSize.toUInt32, length := maxPacketSize.toUInt32
      actualLength := 0, status := 0 }

/-- The loop of `write_audio`: each packet takes what is left of the data, up to its size. -/
def playbackDescriptors (len maxPkt : Nat) : Nat → UInt32 → List IsoPacketDescriptor
  | 0, _ => []
  | n + 1, offset =>
    let pktLen := UInt32.ofNat (min (len - offset.toNat) maxPkt)
    { offset, length := pktLen, actualLength := 0, status := 0 } ::
      playbackDescriptors len maxPkt n (offset + pktLen)

/-- `read_audio`: the number of bytes copied, and the buffer they are copied into; the
packets' own lengths are not looked at. -/
def readAudio (buf : List UInt8) : Method (Nat × List UInt8) := do
  let f ← getFields
  let (ep, maxPkt) ← Script.liftExcept
    (isoEndpoint f.epCapture "no capture endpoint configured" f)
  let numPackets := packetCount buf.length maxPkt
  submit
    { direction := 1, ep, length := UInt32.ofNat (numPackets * maxPkt), setup := noSetup
      numberOfPackets := UInt32.ofNat numPackets, interval := 1, payload := []
      packets := captureDescriptors f.maxPacketSize numPackets }
  let ret ← awaitReturn .audio "ISO IN transfer"
  let copyLen := min ret.transferBuffer.length buf.length
  pure (copyLen, ret.transferBuffer.take copyLen ++ buf.drop copyLen)

/-- `write_audio`: all of the data in one submission, and its length; only the descriptors
stop at 32 packets. -/
def writeAudio (data : List UInt8) : Method Nat := do
  let f ← getFields
  let (ep, maxPkt) ← Script.liftExcept
    (isoEndpoint f.epPlayback "no playback endpoint configured" f)
  let numPackets := packetCount data.length maxPkt
  submit
    { direction := 0, ep, length := UInt32.ofNat data.length, setup := noSetup
      numberOfPackets := UInt32.ofNat numPackets, interval := 1, payload := data
      packets := playbackDescriptors data.length maxPkt numPackets 0 }
  let _ ← awaitReturn .audio "ISO OUT transfer"
  pure data.length

/-! ### Settings -/

/-- The endpoint the sample rate is set on: that of playback, else that of capture. -/
def rateEndpoint (f : Fields) : Except DriverError UInt8 :=
  match f.epPlayback.or f.epCapture with
  | none => .error (error "no audio endpoint configured")
  | some ep => .ok ep

/-- `set_sample_rate`: three bytes of the rate; the field is updated after the answer. -/
def setSampleRate (rate : UInt32) : Method Unit := do
  let f ← getFields
  let epAddr ← Script.liftExcept (rateEndpoint f)
  sendControlOut ⟨[0x22, setCur, 0x00, 0x01, epAddr, 0x00, 0x03, 0x00], rfl⟩
    [(rate &&& 0xFF).toUInt8, ((rate >>> 8) &&& 0xFF).toUInt8, ((rate >>> 16) &&& 0xFF).toUInt8]
  updateFields fun f => { f with sampleRate := rate }

/-- The rates reported whatever the device answers. -/
def commonRates : List UInt32 := [8000, 16000, 22050, 44100, 48000, 96000]

/-- `get_sample_rates`: the current rate is listed once, in front of the common ones. -/
def getSampleRates : Method (List UInt32) := do
  let f ← getFields
  let epAddr ← Script.liftExcept (rateEndpoint f)
  let response ← sendControlIn ⟨[0xA2, getCur, 0x00, 0x01, epAddr, 0x00, 0x03, 0x00], rfl⟩ 3
  if 3 ≤ response.length then
    let currentRate := UInt32.ofNat (leAt response 0 3)
    pure (currentRate :: commonRates.filter (· ≠ currentRate))
  else pure commonRates

/-- `set_volume` of a channel, in the feature unit with the default number. -/
def setVolume (channel : UInt8) (volume : UInt16) : Method Unit :=
  sendControlOut ⟨[0x21, setCur, channel, defaultFeatureUnitId, volumeControl, 0x00, 0x02, 0x00],
    rfl⟩ (u16LeBytes volume)

/-- `set_mute` of a channel, in the same unit. -/
def setMute (channel : UInt8) (mute : Bool) : Method Unit :=
  sendControlOut ⟨[0x21, setCur, channel, defaultFeatureUnitId, muteControl, 0x00, 0x01, 0x00],
    rfl⟩ [if mute then 1 else 0]

/-! ### Pacing -/

theorem paced_sendControlOut (setup : Bytes 8) (data : List UInt8) :
    Paced .idle .idle (sendControlOut setup data) :=
  (Paced.submit _).bind fun _ => (Paced.awaitReturn _ _).bind fun _ => Script.Paced.pure _

theorem paced_sendControlIn (setup : Bytes 8) (length : UInt16) :
    Paced .idle .idle (sendControlIn setup length) :=
  (Paced.submit _).bind fun _ => (Paced.awaitReturn _ _).bind fun _ => Script.Paced.pure _

theorem paced_readAudio (buf : List UInt8) : Paced .idle .idle (readAudio buf) :=
  (Paced.getFields _).bind fun _ => (Script.Paced.liftExcept _).bind fun _ =>
    (Paced.submit _).bind fun _ => (Paced.awaitReturn _ _).bind fun _ => Script.Paced.pure _

theorem paced_writeAudio (data : List UInt8) : Paced .idle .idle (writeAudio data) :=
  (Paced.getFields _).bind fun _ => (Script.Paced.liftExcept _).bind fun _ =>
    (Paced.submit _).bind fun _ => (Paced.awaitReturn _ _).bind fun _ => Script.Paced.pure _

theorem paced_setSampleRate (rate : UInt32) : Paced .idle .idle (setSampleRate rate) :=
  (Paced.getFields _).bind fun _ => (Script.Paced.liftExcept _).bind fun _ =>
    (paced_sendControlOut _ _).bind fun _ => Paced.updateFields _ _

theorem paced_getSampleRates : Paced .idle .idle getSampleRates :=
  (Paced.getFields _).bind fun _ => (Script.Paced.liftExcept _).bind fun _ =>
    (paced_sendControlIn _ _).bind fun _ =>
    Script.Paced.ite (fun _ => Script.Paced.pure _) fun _ => Script.Paced.pure _

/-! ### The driver -/

/-- The calls a client can make, with their arguments. -/
inductive Call where
  | initializeDevice
  | readAudio (buf : List UInt8)
  | writeAudio (data : List UInt8)
  | setSampleRate (rate : UInt32)
  | getSampleRates
  | setVolume (channel : UInt8) (volume : UInt16)
  | setMute (channel : UInt8) (mute : Bool)
deriving DecidableEq, Repr

/-- The method that a call runs, and its result as an `Output`. -/
def Call.script : Call → Method Output
  | .initializeDevice => do
    Audio.initializeDevice
    pure .unit
  | .readAudio buf => do
    let (n, buf) ← Audio.readAudio buf
    pure (.filled n buf)
  | .writeAudio data => do
    let n ← Audio.writeAudio data
    pure (.count n)
  | .setSampleRate rate => do
    Audio.setSampleRate rate
    pure .unit
  | .getSampleRates => do
    let rates ← Audio.getSampleRates
    pure (.rates rates)
  | .setVolume channel volume => do
    Audio.setVolume channel volume
    pure .unit
  | .setMute channel mute => do
    Audio.setMute channel mute
    pure .unit

/-- Every call leaves nothing outstanding. -/
theorem Call.paced (call : Call) : Paced .idle .idle call.script := by
  cases call with
  | initializeDevice =>
      exact ((paced_sendControlIn _ _).bind fun _ => Script.Paced.pure _).bind fun _ =>
        Script.Paced.pure _
  | readAudio buf => exact (paced_readAudio buf).bind fun _ => Script.Paced.pure _
  | writeAudio data => exact (paced_writeAudio data).bind fun _ => Script.Paced.pure _
  | setSampleRate rate => exact (paced_setSampleRate rate).bind fun _ => Script.Paced.pure _
  | getSampleRates => exact paced_getSampleRates.bind fun _ => Script.Paced.pure _
  | setVolume channel volume =>
      exact (paced_sendControlOut _ _).bind fun _ => Script.Paced.pure _
  | setMute channel mute => exact (paced_sendControlOut _ _).bind fun _ => Script.Paced.pure _

/-- The audio driver, as an instance of what the class drivers share. -/
def driver : Driver where
  Fields := Fields
  Method := Call
  initial := .initial
  script := Call.script
  paced := Call.paced

end Extender.Client.Audio
