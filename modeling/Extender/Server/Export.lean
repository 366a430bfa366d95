/-
The export registry (`export.rs`): which devices are bound, and who has each of them imported.

Every method takes the registry's write lock for its whole critical section, so a method is
one function from registry to registry; the clock reading it makes is an argument.
`bind_device` looks at the map twice, before and after opening the device, and the second look
decides; as one function it makes both at once, which is what the second look makes of any
interleaving.

An entry keeps its session twice, as `active_session` and in `session_state`; the methods
write both, and that they agree is an invariant (`ExportLease`) and no part of the types.
Session ids come from an `AtomicU64` and wrap at `2 ^ 64` as `fetch_add` does.

Instants and durations are nanoseconds and have no upper end, while `Instant + Duration` of
the source panics when the deadline does not fit, which takes a timeout near `2 ^ 63` seconds.
A `release` that panics has changed nothing and its caller does not return; a run of the model
in which that call is not made stands for it. The cleanup task that `release` spawns is its
second result, and calls `expire_disconnected_session` at a time of its own choice.

`apply` and `Reachable` say what a history of the registry is: any calls, in any order, with
any clock readings and any answers of the USB library.
-/

import Mathlib.Data.List.AList
import Extender.Server.Device

namespace Extender.Server

open Extender.Protocol

/-- What an import is known by. Ids are never taken back, and are handed out again only after
the counter has wrapped. -/
abbrev SessionId : Type := UInt64

/-- A point of the monotonic clock, in nanoseconds. -/
abbrev Instant : Type := Nat

def defaultSessionTimeoutSecs : UInt64 := 30

/-- `Duration::from_secs`, in nanoseconds, so that no rounding comes in. -/
def durationFromSecs (secs : UInt64) : Nat := secs.toNat * 1000000000

/-- State of an import session on an exported device: in use, or in its grace period until a
deadline. -/
inductive SessionState where
  | active (sessionId : SessionId)
  | disconnected (sessionId : SessionId) (busId : String) (deadline : Instant)
deriving DecidableEq, Repr

/-- A bound device: its metadata, the opened handle, and the session that has it imported,
recorded twice. -/
structure ExportedDevice where
  device : LocalUsbDevice
  handle : ManagedDevice
  activeSession : Option SessionId
  sessionState : Option SessionState
deriving DecidableEq, Repr

/-- The map of bound devices by bus id, the counter of session ids and the grace period of
dropped sessions. -/
structure ExportRegistry where
  devices : AList (fun _ : String => ExportedDevice)
  nextSessionId : UInt64
  sessionTimeout : Nat

namespace ExportRegistry

/-- `with_session_timeout`: nothing is bound, and the first session will be number 1. -/
def withSessionTimeout (timeoutSecs : UInt64) : ExportRegistry :=
  { devices := ∅, nextSessionId := 1, sessionTimeout := durationFromSecs timeoutSecs }

def new : ExportRegistry := withSessionTimeout defaultSessionTimeoutSecs

/-- Write an entry through `get_mut`, or insert it; the other entries are as they were. -/
def put (reg : ExportRegistry) (busId : String) (exported : ExportedDevice) : ExportRegistry :=
  { reg with devices := reg.devices.insert busId exported }

/-! ### Binding -/

/-- The entry both `bind_device` and `bind_device_with` insert: the device and its handle, and
no session. -/
def freshEntry (device : LocalUsbDevice) (handle : ManagedDevice) : ExportedDevice :=
  { device, handle, activeSession := none, sessionState := none }

/-- `bind_device_with`: the entry is made for any record the caller gives, under the bus id
the caller gives. -/
def bindDeviceWith (reg : ExportRegistry) (busId : String) (device : LocalUsbDevice)
    (handle : ManagedDevice) : Except ServerError Unit × ExportRegistry :=
  if (reg.devices.lookup busId).isSome then (.error (.deviceAlreadyBound busId), reg)
  else (.ok (), reg.put busId (freshEntry device handle))

/-- `bind_device`: `enumerated` is what `enumerate_devices` returns and `opened`
what `ManagedDevice::open` does. -/
def bindDevice (reg : ExportRegistry) (busId : String)
    (enumerated : Except ServerError (List LocalUsbDevice))
    (opened : Except ServerError ManagedDevice) : Except ServerError Unit × ExportRegistry :=
  if (reg.devices.lookup busId).isSome then (.error (.deviceAlreadyBound busId), reg)
  else
    match enumerated with
    | .error e => (.error e, reg)
    | .ok localDevices =>
        match localDevices.find? (fun d => d.busId = busId) with
        | none => (.error (.deviceNotFound busId), reg)
        | some device =>
            match opened with
            | .error e => (.error e, reg)
            | .ok handle => (.ok (), reg.put busId (freshEntry device handle))

/-- `unbind_device`: the entry goes, and the caller is told the session that had
the device imported. -/
def unbindDevice (reg : ExportRegistry) (busId : String) :
    Except ServerError (Option SessionId) × ExportRegistry :=
  match reg.devices.lookup busId with
  | none => (.error (.deviceNotBound busId), reg)
  | some exported =>
      (.ok exported.activeSession, { reg with devices := reg.devices.erase busId })

/-- `list_devices`: one record that does not convert makes an error of the whole list. -/
def listDevices (reg : ExportRegistry) : Except ServerError (List UsbDevice) :=
  reg.devices.entries.mapM fun entry => entry.2.device.toProtocolDevice

/-! ### Acquiring -/

/-- What an import is given: the handle, the wire record, the session id and
whether it resumes a dropped session. -/
abbrev Acquired : Type := ManagedDevice × UsbDevice × SessionId × Bool

/-- Take the next session id, mark the entry active, and only then convert the
descriptor: a failing conversion leaves the mark behind. -/
def grant (reg : ExportRegistry) (busId : String) (exported : ExportedDevice)
    (isReconnect : Bool) : Except ServerError Acquired × ExportRegistry :=
  let sessionId := reg.nextSessionId
  let marked := { exported with
    activeSession := some sessionId, sessionState := some (.active sessionId) }
  let reg' := { reg.put busId marked with nextSessionId := reg.nextSessionId + 1 }
  match exported.device.toProtocolDevice with
  | .error e => (.error e, reg')
  | .ok protoDevice => (.ok (exported.handle, protoDevice, sessionId, isReconnect), reg')

/-- The part of `try_acquire_ext` after the reconnection check: a device that is in use is
refused, any other is granted. -/
def acquireFresh (reg : ExportRegistry) (busId : String) (exported : ExportedDevice) :
    Except ServerError Acquired × ExportRegistry :=
  if exported.activeSession.isSome then (.error (.deviceInUse busId), reg)
  else reg.grant busId exported false

/-- An entry without a session, as a release without grace and an expiry leave it. -/
def cleared (exported : ExportedDevice) : ExportedDevice :=
  { exported with activeSession := none, sessionState := none }

/-- `try_acquire_ext`: a reserved entry is granted to whoever comes back in time, as a
reconnection, and one whose deadline has passed is cleared first. -/
def tryAcquireExt (reg : ExportRegistry) (now : Instant) (busId : String) :
    Except ServerError Acquired × ExportRegistry :=
  match reg.devices.lookup busId with
  | none => (.error (.deviceNotBound busId), reg)
  | some exported =>
      match exported.sessionState with
      | some (.disconnected _ disconnectedBusId deadline) =>
          if disconnectedBusId = busId ∧ now < deadline then reg.grant busId exported true
          else (reg.put busId (cleared exported)).acquireFresh busId (cleared exported)
      | _ => reg.acquireFresh busId exported

/-! ### Releasing -/

/-- `release`: without a grace period the entry is cleared; with one it is kept for the
session until the deadline and a cleanup task is spawned, to be run by
`expireDisconnectedSession`. The second component is that task. A deadline beyond what an
`Instant` holds, at which the source panics before it writes anything, is not excluded here. -/
def release (reg : ExportRegistry) (now : Instant) (busId : String) (sessionId : SessionId) :
    ExportRegistry × Option (String × SessionId) :=
  match reg.devices.lookup busId with
  | none => (reg, none)
  | some exported =>
      if exported.activeSession = some sessionId then
        if reg.sessionTimeout = 0 then (reg.put busId (cleared exported), none)
        else
          (reg.put busId { exported with
              sessionState := some (.disconnected sessionId busId (now + reg.sessionTimeout)) },
            some (busId, sessionId))
      else (reg, none)

/-- `release_immediate`: the entry is cleared without a grace period, if the session is the
one it records. -/
def releaseImmediate (reg : ExportRegistry) (busId : String) (sessionId : SessionId) :
    ExportRegistry :=
  match reg.devices.lookup busId with
  | none => reg
  | some exported =>
      if exported.activeSession = some sessionId then reg.put busId (cleared exported) else reg

/-- `expire_disconnected_session`: the entry is cleared if it is still reserved for this
session, and left alone if another has taken it since. -/
def expireDisconnectedSession (reg : ExportRegistry) (busId : String) (sessionId : SessionId) :
    ExportRegistry :=
  match reg.devices.lookup busId with
  | none => reg
  | some exported =>
      match exported.sessionState with
      | some (.disconnected sid _ _) =>
          if sid = sessionId then reg.put busId (cleared exported) else reg
      | _ => reg

/-! ### Calls and runs -/

/-- A call on the registry with its arguments, its clock reading and, for
`bind_device`, what the USB library answered. -/
inductive Call where
  | bindDevice (busId : String) (enumerated : Except ServerError (List LocalUsbDevice))
      (opened : Except ServerError ManagedDevice)
  | bindDeviceWith (busId : String) (device : LocalUsbDevice) (handle : ManagedDevice)
  | unbindDevice (busId : String)
  | tryAcquireExt (now : Instant) (busId : String)
  | release (now : Instant) (busId : String) (sessionId : SessionId)
  | releaseImmediate (busId : String) (sessionId : SessionId)
  | expireDisconnectedSession (busId : String) (sessionId : SessionId)

/-- The registry after a call, with its answer left aside. -/
def apply (reg : ExportRegistry) : Call → ExportRegistry
  | .bindDevice busId enumerated opened => (reg.bindDevice busId enumerated opened).2
  | .bindDeviceWith busId device handle => (reg.bindDeviceWith busId device handle).2
  | .unbindDevice busId => (reg.unbindDevice busId).2
  | .tryAcquireExt now busId => (reg.tryAcquireExt now busId).2
  | .release now busId sessionId => (reg.release now busId sessionId).1
  | .releaseImmediate busId sessionId => reg.releaseImmediate busId sessionId
  | .expireDisconnectedSession busId sessionId => reg.expireDisconnectedSession busId sessionId

/-- The registry after a sequence of calls, expiry tasks included; every order of them is such
a sequence. -/
def applyAll (reg : ExportRegistry) (calls : List Call) : ExportRegistry :=
  calls.foldl apply reg

/-- A registry some sequence of calls leads to, from the one the server starts with. -/
def Reachable (reg : ExportRegistry) : Prop :=
  ∃ timeoutSecs calls, reg = (withSessionTimeout timeoutSecs).applyAll calls

end ExportRegistry

end Extender.Server
