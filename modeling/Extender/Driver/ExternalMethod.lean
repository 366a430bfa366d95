/-
The driver extension as a whole: `ExternalMethod` (`ExtenderUserClient.cpp`) over the slot
table and the virtual devices behind it, and the requests the host sends to the devices.

A call of the daemon names a selector and carries scalars and perhaps a structure.
`ExternalMethod` checks how many scalars there are, and dispatches to the handlers of
`UserClient` and to the devices of `VirtualDevices`. What DriverKit does for the methods, and
what they find on the stack and in the host's memory, is given with each call
(`Surroundings`). `Create` makes services of the class that the `Info.plist` of the extension
names, each a new one, so that two slots never share a device.

What a call has for an effect outside the extension is in its `Reply`: the code, the outputs,
a report passed on to the host, a request completed, and the host's memory afterwards. The
host's own requests go to the device of a slot through the interface of its class, and may
come between any two calls of the daemon.

The export selectors 6 to 9 are stubs in the source: they answer without doing anything.

* `externalMethod` — the dispatch, with the answer to every selector and every number of
  scalars.
* `hostRequest` — a request of the host to one device.
* `step` — the extension as a state machine, whose runs are the subject of `Slots`.
-/

import Extender.Driver.HidRequests

namespace Extender.Driver

open BigEndian

/-! ### Calls and replies -/

/-- `ExtenderSelector`, the methods of the user client. -/
inductive Selector where
  | createDevice | destroyDevice | submitInput | getPendingOutput | getDeviceCount
  | configureDevice | exportClaimDevice | exportReleaseDevice | exportSubmitUrb
  | exportGetPendingResponse | completeRequest
deriving DecidableEq, Repr

/-- The cast to `ExtenderSelector`, whose values have 64 bits: nothing is cut off here. -/
def Selector.ofRaw : UInt64 → Option Selector
  | 0 => some .createDevice
  | 1 => some .destroyDevice
  | 2 => some .submitInput
  | 3 => some .getPendingOutput
  | 4 => some .getDeviceCount
  | 5 => some .configureDevice
  | 6 => some .exportClaimDevice
  | 7 => some .exportReleaseDevice
  | 8 => some .exportSubmitUrb
  | 9 => some .exportGetPendingResponse
  | 10 => some .completeRequest
  | _ => none

/-- `IOUserClientMethodArguments`: scalars, a structure, and room for the answer. -/
structure Arguments where
  scalarInput : List UInt64
  structureInput : Option (List UInt8)
  scalarOutputCount : Nat

/-- What a call meets outside the extension. -/
structure Surroundings where
  /-- What `Create` returns, and whether it has made a service. -/
  create : IOReturn × Bool
  /-- A buffer for an input report can be made and addressed. -/
  allocated : Bool
  /-- What is on the stack where the header of an output goes. -/
  stack : PendingOutputHeader
  memory : Memory
  /-- What mapping a report into memory gives. -/
  mapping : Nat → Option (UInt64 × UInt64)

/-- What becomes of a call: its code, its outputs, and what the host gets to see of it. -/
structure Reply where
  ret : IOReturn
  scalarOutput : Option UInt64
  structureOutput : Option (List UInt8)
  /-- The input report that is passed to `handleReport`. -/
  report : Option (List UInt8)
  completeReport : Option CompleteReport
  completeIO : Option CompleteIO
  memory : Memory

/-- A call that only returns a code. -/
def Reply.code (memory : Memory) (ret : IOReturn) : Reply :=
  { ret, scalarOutput := none, structureOutput := none, report := none, completeReport := none
    completeIO := none, memory }

/-- `kIOReturnUnsupported`, the answer of the stubs. -/
def unsupported : IOReturn := .other (0xe00002c7 : UInt32).toInt32

/-- `(kern_return_t)` of a scalar: only its low 32 bits count. -/
def IOReturn.ofScalar (value : UInt64) : IOReturn :=
  match value.toUInt32 with
  | 0 => .success
  | 0xe00002c2 => .badArgument
  | 0xe00002c5 => .exclusiveAccess
  | 0xe00002be => .noResources
  | 0xe00002db => .noSpace
  | 0xe00002f0 => .notFound
  | 0xe00002d8 => .notReady
  | code => .other code.toInt32

/-! ### The extension -/

/-- The class of the service that `Create` makes for a key of the `Info.plist`. -/
def serviceClass : String → Option DeviceType
  | "VirtualHIDProperties" => some .hid
  | "VirtualStorageProperties" => some .storage
  | "VirtualSerialProperties" => some .serial
  | "VirtualNetworkProperties" => some .network
  | "VirtualAudioProperties" => some .audio
  | _ => none

/-- A new service has the variables its `init` gives it; those of the services before it
stay. -/
def VirtualDevices.install (devices : VirtualDevices) (id : Nat) : VirtualDevices :=
  { hid := Function.update devices.hid id .init
    storage := Function.update devices.storage id .init
    serial := Function.update devices.serial id .zero
    network := Function.update devices.network id .zero
    audio := Function.update devices.audio id .zero }

/-- The extension: the slot table, the devices and the number of the next service. -/
structure Extension where
  ivars : DriverIVars
  devices : VirtualDevices
  /-- History: how many services have been made. -/
  created : Nat

namespace Extension

/-- The extension before the first call: empty slots, and no service made yet. -/
def start : Extension :=
  { ivars := .zero
    devices :=
      { hid := fun _ => .init, storage := fun _ => .init, serial := fun _ => .zero
        network := fun _ => .zero, audio := fun _ => .zero }
    created := 0 }

/-- `Create`: the services are numbered as they are made, so that no number is used twice. -/
def create (s : Extension) (env : Surroundings) (propsKey : String) : IOReturn × Option Service :=
  (env.create.1,
    if env.create.2 then
      (serviceClass propsKey).map fun cls => { id := s.created, cls }
    else none)

/-- `kCreateDevice`: the service in a new slot has the variables its `init` gives it. -/
def createDevice (s : Extension) (env : Surroundings) (deviceType deviceId : UInt64) :
    Reply × Extension :=
  match handleCreateDevice (s.create env) s.ivars deviceType deviceId with
  | (.success, ivars) =>
      (.code env.memory .success,
        { ivars, devices := s.devices.install s.created, created := s.created + 1 })
  | (ret, ivars) => (.code env.memory ret, { s with ivars })

/-- `kDestroyDevice`: the service loses its slot, and is not reached any more. -/
def destroyDevice (s : Extension) (env : Surroundings) (deviceId : UInt64) : Reply × Extension :=
  let (ret, ivars) := handleDestroyDevice s.ivars deviceId
  (.code env.memory ret, { s with ivars })

/-- `submitInputReport` of the HID device: nothing is passed on of an empty or an oversize
report. -/
def submitInputReport (env : Surroundings) (data : List UInt8) : Option (List UInt8) :=
  if data.length = 0 then none
  else if data.length > maxTransferSize then none
  else if env.allocated then some data
  else none

/-- `handleSubmitInput`: the structure must be as long as the caller says. The devices of the
other classes drop what they are given. -/
def handleSubmitInput (s : Extension) (env : Surroundings) (deviceId dataLength : UInt64)
    (structureInput : Option (List UInt8)) : Reply :=
  match slotIndex deviceId with
  | none => .code env.memory .notFound
  | some i =>
      let slot := s.ivars.devices i
      if ¬ slot.active then .code env.memory .notFound
      else
        match structureInput with
        | none => .code env.memory .badArgument
        -- the bytes of an empty `OSData` are null
        | some [] => .code env.memory .badArgument
        | some inputBytes =>
            if (UInt32.ofNat inputBytes.length).toUInt64 < dataLength then
              .code env.memory .badArgument
            else
              match DeviceType.ofRaw slot.deviceType.toUInt64, slot.device with
              | some .hid, some { cls := .hid, .. } =>
                  { Reply.code env.memory .success with
                    report := submitInputReport env (inputBytes.take dataLength.toNat) }
              | some .storage, some { cls := .storage, .. } => .code env.memory .success
              | some .serial, some { cls := .serial, .. } => .code env.memory .success
              | some .network, some { cls := .network, .. } => .code env.memory .success
              | some .audio, some { cls := .audio, .. } => .code env.memory .success
              | some _, _ => .code env.memory .notReady
              | none, _ => .code env.memory .badArgument

/-- `kGetPendingOutput`: the structure of the handler, when it succeeds. -/
def getPendingOutput (s : Extension) (env : Surroundings) (deviceId : UInt64) :
    Reply × Extension :=
  match handleGetPendingOutput s.ivars s.devices env.stack deviceId with
  | (.success, out, devices) =>
      ({ Reply.code env.memory .success with structureOutput := some out }, { s with devices })
  | (ret, _, devices) => (.code env.memory ret, { s with devices })

/-- `kConfigureDevice`, by its handler. -/
def configureDevice (s : Extension) (env : Surroundings) (deviceId configType : UInt64)
    (structureInput : Option (List UInt8)) : Reply × Extension :=
  let (ret, ivars) := handleConfigureDevice s.ivars deviceId configType structureInput
  (.code env.memory ret, { s with ivars })

/-- `kCompleteRequest`: the HID and storage devices complete the request, and the others drop
it. -/
def completeRequest (s : Extension) (env : Surroundings) (deviceId requestId status : UInt64)
    (structureInput : Option (List UInt8)) : Reply × Extension :=
  match slotIndex deviceId with
  | none => (.code env.memory .notFound, s)
  | some i =>
      let slot := s.ivars.devices i
      if ¬ slot.active then (.code env.memory .notFound, s)
      else
        match DeviceType.ofRaw slot.deviceType.toUInt64, slot.device with
        | some .hid, some { id, cls := .hid } =>
            let (completed, memory, ivars) := (s.devices.hid id).completeRequest env.memory
              env.mapping requestId.toUInt32 (.ofScalar status) structureInput
            ({ Reply.code memory .success with completeReport := completed },
              { s with
                devices := { s.devices with hid := Function.update s.devices.hid id ivars } })
        | some .hid, _ => (.code env.memory .notReady, s)
        | some .storage, some { id, cls := .storage } =>
            let (completed, memory, ivars) := (s.devices.storage id).completeRequest env.memory
              requestId.toUInt32 (.ofScalar status) structureInput
            ({ Reply.code memory .success with completeIO := completed },
              { s with
                devices :=
                  { s.devices with storage := Function.update s.devices.storage id ivars } })
        | some .storage, _ => (.code env.memory .notReady, s)
        -- the completion path of the other classes is not wired
        | some _, _ => (.code env.memory .success, s)
        | none, _ => (.code env.memory .badArgument, s)

/-- `kGetDeviceCount`, which takes null arguments too: the counter, if there is room for a
scalar. -/
def getDeviceCount (s : Extension) (env : Surroundings) (arguments : Option Arguments) : Reply :=
  { Reply.code env.memory .success with
    scalarOutput :=
      match arguments with
      | some arguments =>
          if arguments.scalarOutputCount ≥ 1 then some s.ivars.deviceCount.toUInt64 else none
      | none => none }

/-- `ExternalMethod`, once the client has its driver: too few scalars, no arguments and an
unknown selector are bad arguments alike. -/
def externalMethod (s : Extension) (env : Surroundings) (selector : UInt64)
    (arguments : Option Arguments) : Reply × Extension :=
  match Selector.ofRaw selector, arguments with
  | some .getDeviceCount, arguments => (s.getDeviceCount env arguments, s)
  | some selector, some arguments =>
      match selector, arguments.scalarInput with
      | .createDevice, deviceType :: deviceId :: _ => s.createDevice env deviceType deviceId
      | .destroyDevice, deviceId :: _ => s.destroyDevice env deviceId
      | .submitInput, deviceId :: _ :: dataLength :: _ =>
          (s.handleSubmitInput env deviceId dataLength arguments.structureInput, s)
      | .getPendingOutput, deviceId :: _ => s.getPendingOutput env deviceId
      | .configureDevice, deviceId :: configType :: _ =>
          s.configureDevice env deviceId configType arguments.structureInput
      | .exportClaimDevice, _ :: _ =>
          ({ Reply.code env.memory unsupported with
              scalarOutput := if arguments.scalarOutputCount ≥ 1 then some 0 else none }, s)
      | .exportReleaseDevice, _ :: _ => (.code env.memory unsupported, s)
      | .exportSubmitUrb, _ :: _ :: _ :: _ => (.code env.memory unsupported, s)
      | .exportGetPendingResponse, _ :: _ =>
          ({ Reply.code env.memory .success with structureOutput := some [] }, s)
      | .completeRequest, deviceId :: requestId :: status :: _ =>
          s.completeRequest env deviceId requestId status arguments.structureInput
      | _, _ => (.code env.memory .badArgument, s)
  | _, _ => (.code env.memory .badArgument, s)

end Extension

/-! ### The host -/

/-- What the host asks of a device: a report, or a read or write. -/
inductive HostRequest where
  | hid (r : HidRequest)
  | readWrite (stack : Bytes 16) (r : ReadWrite)

namespace Extension

/-- A request of the host to the device of a slot, through the interface of its class. -/
def hostRequest (s : Extension) (env : Surroundings) (i : Fin maxDevices)
    (request : HostRequest) : Option (Reply × Extension) :=
  let slot := s.ivars.devices i
  if ¬ slot.active then none
  else
    match request, slot.device with
    | .hid r, some { id, cls := .hid } =>
        let (ret, ivars) := (s.devices.hid id).handle r
        some (.code env.memory ret,
          { s with devices := { s.devices with hid := Function.update s.devices.hid id ivars } })
    | .readWrite stack r, some { id, cls := .storage } =>
        let (completed, ivars) := (s.devices.storage id).doAsyncReadWrite env.memory stack r
        some ({ Reply.code env.memory .success with completeIO := completed },
          { s with
            devices := { s.devices with storage := Function.update s.devices.storage id ivars } })
    | _, _ => none

/-- A call of the daemon or a request of the host, with what it meets. -/
inductive Action where
  | call (selector : UInt64) (arguments : Option Arguments) (env : Surroundings)
  | host (i : Fin maxDevices) (request : HostRequest) (env : Surroundings)

/-- One step of the extension, with the reply to it. -/
def step (s : Extension) : Action → Option (Reply × Extension)
  | .call selector arguments env => some (s.externalMethod env selector arguments)
  | .host i request env => s.hostRequest env i request

end Extension

end Extender.Driver
