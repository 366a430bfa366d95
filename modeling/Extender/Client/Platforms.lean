/-
The client engine on every platform (`engine.rs`, `remote.rs`, `vhci.rs`, `vhci_windows.rs`).

On Linux and macOS the engine connects to the server itself. On Linux it then hands the socket
to the kernel through a file. On Windows the driver makes the connection: it is told host,
port and bus id as text. Elsewhere there is no client.

What the engine does outside itself is a list of calls, in order; how the calls end is an
argument. The engine of a request is gone when the request is answered, and its registry with
it, so entries are not modelled here. The registry on macOS, with what is done on it by one
engine after another, is in `Engine`.

A call carries its port in a form of its own: a socket address, a decimal text in a buffer of
32 bytes, the text written to a file, a signed number. `connectTarget` and `detachTarget` read
these forms the way the other side does, so that a result can say that the port of a request
is the port that is used, whichever platform it is made on (`Daemon.PortParams`). Reading the
host of an address is the standard library's, and a parameter here.

* `connectTarget`, `detachTarget` — the port a call is for, as the other side reads it.
* `servicePort_new` — the port in the text for the Windows driver is the one put there.
* `attachDevice_connects` — one connection, to the port of the address, or an error and no
  call.
* `detachDeviceLinux_cases` — the same for a detach on Linux.
-/

import Extender.Client.Engine
import Extender.Client.Vhci

namespace Extender.Client

open BigEndian Text Extender.Protocol Extender.Driver

/-- The platforms the client is built for, and all others. -/
inductive Platform where
  | linux
  | windows
  | macos
  | other
deriving DecidableEq, Repr

/-! ### Addresses -/

/-- An IP address, as `ip()` prints it and as it is shown in front of a port. -/
structure HostAddr where
  ip : String
  shown : String
deriving DecidableEq, Repr

/-- An address of the standard library: the host and the TCP port. -/
structure SocketAddr where
  host : HostAddr
  port : UInt16
deriving DecidableEq, Repr

theorem toList_port (port : UInt16) :
    (toString port).toList = Nat.toDigits 10 port.toNat := String.toList_ofList

namespace SocketAddr

/-- `Display`: the host as it is shown, a colon and the port. -/
def toText (addr : SocketAddr) : String := addr.host.shown ++ ":" ++ toString addr.port

/-- The port of a socket address: decimal digits, at most 65535, with nothing before or behind
them. -/
def readPort (cs : List Char) : Option UInt16 :=
  if cs = [] then none
  else
    match valueFrom 10 0 cs with
    | none => none
    | some n => if n < 2 ^ 16 then some (UInt16.ofNat n) else none

/-- `SocketAddr::from_str`; `hostFromStr` reads what stands before the last colon, an IPv4
address or an IPv6 address in brackets. -/
def fromStr (hostFromStr : List Char → Option HostAddr) (text : String) : Option SocketAddr :=
  match rsplitOnce ':' text.toList with
  | none => none
  | some (before, after) =>
      match hostFromStr before, readPort after with
      | some host, some port => some { host, port }
      | _, _ => none

theorem readPort_toDigits (port : UInt16) :
    readPort (Nat.toDigits 10 port.toNat) = some port := by
  unfold readPort
  rw [if_neg Nat.toDigits_ne_nil, valueFrom_toDigits_self]
  simp only
  rw [if_pos port.toNat_lt, UInt16.ofNat_toNat]

/-- The address the handlers put together: the host decides, the port is read back. -/
theorem fromStr_format (hostFromStr : List Char → Option HostAddr) (host : String)
    (port : UInt16) :
    fromStr hostFromStr (host ++ ":" ++ toString port) =
      (hostFromStr host.toList).map fun host => { host, port } := by
  have htext : (host ++ ":" ++ toString port).toList =
      host.toList ++ ':' :: Nat.toDigits 10 port.toNat := by
    rw [String.toList_append, String.toList_append, toList_port, List.append_assoc]
    rfl
  have hcolon : ':' ∉ Nat.toDigits 10 port.toNat := by
    intro hmem
    obtain ⟨d, hd, heq⟩ := exists_digit_of_mem_toDigits (by decide) hmem
    have hall : ∀ d < 10, ':' ≠ Nat.digitChar d := by decide
    exact hall d hd heq
  unfold fromStr
  rw [htext, rsplitOnce_append hcolon]
  simp only [readPort_toDigits]
  cases hostFromStr host.toList with
  | none => rfl
  | some addr => rfl

end SocketAddr

/-! ### Calls -/

/-- `PluginHardwareRequest`: three NUL-terminated texts in buffers of fixed size, for host,
port and bus id. -/
structure PluginHardwareRequest where
  host : Bytes 256
  service : Bytes 32
  busid : Bytes 32
deriving DecidableEq, Repr

/-- `UnplugHardwareRequest`: the port as a signed number, of which −1 detaches all ports. -/
structure UnplugHardwareRequest where
  port : Int32
deriving DecidableEq, Repr

/-- What the engine does outside itself: it connects, sends a control request to the Windows
driver, writes to a file of the Linux driver, or calls the macOS driver or its runtime. -/
inductive ClientCall where
  | connect (addr : SocketAddr)
  | plugin (req : PluginHardwareRequest)
  | unplug (req : UnplugHardwareRequest)
  | writeAttach (data : String)
  | writeDetach (data : String)
  | driver (effect : Effect)
deriving DecidableEq, Repr

/-- The number in a NUL-terminated decimal text, as the driver reads its service field. -/
def PluginHardwareRequest.servicePort (req : PluginHardwareRequest) : Option Nat :=
  valueFrom 10 0 ((req.service.val.takeWhile (· ≠ 0)).map fun b => Char.ofNat b.toNat)

/-- The TCP port a call connects to, if it connects. -/
def ClientCall.connectTarget : ClientCall → Option Nat
  | .connect addr => some addr.port.toNat
  | .plugin req => req.servicePort
  | _ => none

/-- The port a call detaches, if it detaches one. -/
def ClientCall.detachTarget : ClientCall → Option Int
  | .unplug req => some req.port.toInt
  | .writeDetach data => (valueFrom 10 0 data.toList).map Int.ofNat
  | .driver (.destroyDevice devid) => some devid.toNat
  | _ => none

/-- How the calls of a request end. `fd` is the descriptor of the connection, `ioctl` the
port in the driver's reply, `task` the number of the next task. -/
structure ClientAnswers where
  connect : Connect
  fd : Int32
  write : Except IoErrorKind Unit
  ioctl : Except IoErrorKind Int32
  driver : DriverAnswers
  task : Nat

/-- The errors of the engine on any platform. -/
inductive EngineError where
  | client (e : ClientError)
  | vhci (e : VhciError)
  | devlistError (status : UInt32)
  | platformNotSupported
deriving DecidableEq, Repr

/-- An I/O error. -/
def EngineError.io (kind : IoErrorKind) : EngineError := .client (.attach (.io kind))

/-- The error of a text that does not fit. -/
def tooLong (name : String) (length max : Nat) : EngineError :=
  .client (.vhciNotAvailable (name ++ " too long: " ++ toString length ++ " bytes (max " ++
    toString (max - 1) ++ ")"))

/-- `PluginHardwareRequest::new`: each text must leave room for the NUL behind it. -/
def PluginHardwareRequest.new (server : String) (port : UInt16) (busid : String) :
    Except EngineError PluginHardwareRequest :=
  if hhost : (strBytes server).length < 256 then
    if hport : (strBytes (toString port)).length < 32 then
      if hbusid : (strBytes busid).length < 32 then
        .ok { host := Bytes.zeroPadded (strBytes server) (Nat.le_of_lt hhost)
              service := Bytes.zeroPadded (strBytes (toString port)) (Nat.le_of_lt hport)
              busid := Bytes.zeroPadded (strBytes busid) (Nat.le_of_lt hbusid) }
      else .error (tooLong "busid" (strBytes busid).length 32)
    else .error (tooLong "port string" (strBytes (toString port)).length 32)
  else .error (tooLong "hostname" (strBytes server).length 256)

/-- The exchange of an import, from the connection on: the request goes out, and the reply is
read. -/
def importExchange (addr busid : String) : Connect → Except AttachError UsbDevice
  | .timedOut => .error (.connectTimeout addr connectTimeoutSecs)
  | .failed kind => .error (.io kind)
  | .connected (.error e) _ => .error (.protocol (.error e))
  | .connected (.ok ()) input => importedDevice busid input

/-- The machine the request is handled on: whether the driver can be opened, and the status
file of the Linux driver. -/
structure Machine where
  opened : Except EngineError Unit
  status : Except IoErrorKind String

namespace Machine

/-- `ClientEngine::new`: it opens the driver, where the platform has one. -/
def newEngine (machine : Machine) : Platform → Except EngineError Unit
  | .linux | .windows | .macos => machine.opened
  | .other => .ok ()

/-! ### Attaching -/

/-- `list_ports` of the Linux driver: its status file, parsed. -/
def listPorts (machine : Machine) : Except EngineError (List VhciPort) :=
  match machine.status with
  | .error kind => .error (.io kind)
  | .ok content => (parseVhciStatus content).mapError .vhci

/-- `attach_device_linux`: connect and import, find a free port, write the socket to the
driver's file. -/
def attachDeviceLinux (machine : Machine) (answers : ClientAnswers) (addr : SocketAddr)
    (busid : String) : Except EngineError AttachedDevice × List ClientCall :=
  match busidFromStr busid with
  | .error _ => (.error (.client (.attach (.invalidBusId busid))), [])
  | .ok _ =>
      match importExchange addr.toText busid answers.connect with
      | .error e => (.error (.client (.attach e)), [.connect addr])
      | .ok device =>
          let devid := device.busnum <<< 16 ||| device.devnum
          match machine.listPorts.bind fun ports =>
              (findFreePortInList ports device.speed).mapError .vhci with
          | .error e => (.error e, [.connect addr])
          | .ok port =>
              let data := toString port ++ " " ++ toString answers.fd ++ " " ++ toString devid ++
                " " ++ toString device.speed
              match answers.write with
              | .error kind => (.error (.io kind), [.connect addr, .writeAttach data])
              | .ok () =>
                  (.ok { port, busid, serverAddr := addr.toText, idVendor := device.idVendor
                         idProduct := device.idProduct, speed := device.speed },
                    [.connect addr, .writeAttach data])

/-- `attach_device_windows`, with `attach` of the Windows driver: one control request, and the
port is in its reply. -/
def attachDeviceWindows (answers : ClientAnswers) (addr : SocketAddr) (busid : String) :
    Except EngineError AttachedDevice × List ClientCall :=
  match PluginHardwareRequest.new addr.host.ip addr.port busid with
  | .error e => (.error e, [])
  | .ok req =>
      match answers.ioctl with
      | .error kind => (.error (.io kind), [.plugin req])
      | .ok port =>
          if port < 0 then
            (.error (.client (.vhciNotAvailable ("driver returned negative port: " ++
              toString port))), [.plugin req])
          else
            (.ok { port := port.toUInt32, busid, serverAddr := addr.toText, idVendor := 0
                   idProduct := 0, speed := 0 }, [.plugin req])

/-- `attach_device_macos`: the engine connects once the bus id is valid. It is the engine of
`Engine`, with an empty registry. -/
def attachDeviceMacos (answers : ClientAnswers) (addr : SocketAddr) (busid : String) :
    Except EngineError AttachedDevice × List ClientCall :=
  let (result, _, effects) :=
    ClientEngine.new.attachDevice answers.driver answers.task addr.toText busid answers.connect
  let connects :=
    match busidFromStr busid with
    | .error _ => []
    | .ok _ => [.connect addr]
  (result.mapError .client, connects ++ effects.map .driver)

/-- `attach_device`, as it is built for the platform. -/
def attachDevice (platform : Platform) (machine : Machine) (answers : ClientAnswers)
    (addr : SocketAddr) (busid : String) : Except EngineError AttachedDevice × List ClientCall :=
  match platform with
  | .linux => attachDeviceLinux machine answers addr busid
  | .windows => attachDeviceWindows answers addr busid
  | .macos => attachDeviceMacos answers addr busid
  | .other => (.error .platformNotSupported, [])

/-! ### Detaching -/

/-- `detach_device` on Linux: the port must be in the status file and not free; its number is
then written to the driver. -/
def detachDeviceLinux (machine : Machine) (answers : ClientAnswers) (port : UInt32) :
    Except EngineError Unit × List ClientCall :=
  match machine.listPorts with
  | .error e => (.error e, [])
  | .ok ports =>
      match ports.find? fun p => p.port == port with
      | none => (.error (.client (.portNotAttached port)), [])
      | some p =>
          if p.status.isFree then (.error (.client (.portNotAttached port)), [])
          else (answers.write.mapError .io, [.writeDetach (toString port)])

/-- `detach_device` on Windows: the port is cast to a signed number. -/
def detachDeviceWindows (answers : ClientAnswers) (port : UInt32) :
    Except EngineError Unit × List ClientCall :=
  let req : UnplugHardwareRequest := { port := port.toInt32 }
  match answers.ioctl with
  | .error kind => (.error (.io kind), [.unplug req])
  | .ok _ => (.ok (), [.unplug req])

/-- `detach_device` on macOS, by the engine of `Engine`, whose registry is empty. -/
def detachDeviceMacos (answers : ClientAnswers) (port : UInt32) :
    Except EngineError Unit × List ClientCall :=
  let (result, _, effects) := ClientEngine.new.detachDevice answers.driver.destroy port
  (result.mapError .client, effects.map .driver)

/-- `detach_device`, as it is built for the platform. -/
def detachDevice (platform : Platform) (machine : Machine) (answers : ClientAnswers)
    (port : UInt32) : Except EngineError Unit × List ClientCall :=
  match platform with
  | .linux => detachDeviceLinux machine answers port
  | .windows => detachDeviceWindows answers port
  | .macos => detachDeviceMacos answers port
  | .other => (.error .platformNotSupported, [])

end Machine

/-! ### Listing (`remote.rs`) -/

/-- A device of a server's list, as the client shows it. -/
structure RemoteDevice where
  busid : String
  path : String
  idVendor : UInt16
  idProduct : UInt16
  bcdDevice : UInt16
  deviceClass : UInt8
  deviceSubclass : UInt8
  deviceProtocol : UInt8
  speed : UInt32
  numInterfaces : UInt8
  interfaceClasses : List UInt8
deriving DecidableEq, Repr

/-- `RemoteDevice::from`: the record of the wire, its two texts without their NULs. -/
def RemoteDevice.ofUsbDevice (dev : UsbDevice) : RemoteDevice :=
  { busid := dev.busidString, path := dev.pathString
    idVendor := dev.idVendor, idProduct := dev.idProduct, bcdDevice := dev.bcdDevice
    deviceClass := dev.deviceClass, deviceSubclass := dev.deviceSubclass
    deviceProtocol := dev.deviceProtocol, speed := dev.speed
    numInterfaces := dev.numInterfaces
    interfaceClasses := dev.interfaces.map UsbInterface.interfaceClass }

/-- The code an unexpected reply is reported with: that of its own kind. -/
def unexpectedOpCode : OpMessage → UInt16
  | .reqDevlist => 0x8005
  | .repDevlist _ => 0x0005
  | .reqImport _ => 0x8003
  | .repImport _ => 0x0003

/-- `devlist_exchange`, from the connection on: the request goes out, and the reply is
read. -/
def devlistExchange (addr : String) : Connect → Except EngineError (List RemoteDevice)
  | .timedOut => .error (.client (.attach (.connectTimeout addr connectTimeoutSecs)))
  | .failed kind => .error (.io kind)
  | .connected (.error e) _ => .error (.client (.attach (.protocol (.error e))))
  | .connected (.ok ()) input =>
      match readOpMessage input with
      | .error e => .error (.client (.attach (.protocol e)))
      | .ok (.repDevlist rep, _) =>
          if rep.status ≠ 0 then .error (.devlistError rep.status)
          else .ok (rep.devices.map RemoteDevice.ofUsbDevice)
      | .ok (msg, _) =>
          .error (.client (.attach (.protocol (.error (.invalidOpCode (unexpectedOpCode msg))))))

/-- `list_remote_devices`: one connection to the address. -/
def listRemoteDevices (answers : ClientAnswers) (addr : SocketAddr) :
    Except EngineError (List RemoteDevice) × List ClientCall :=
  (devlistExchange addr.toText answers.connect, [.connect addr])

/-! ### The port of a call -/

theorem strBytes_port (port : UInt16) :
    strBytes (toString port) =
      (Nat.toDigits 10 port.toNat).map fun c => UInt8.ofNat c.toNat := by
  have hascii : ∀ c ∈ Nat.toDigits 10 port.toNat, c.toNat < 128 := by
    intro c hc
    obtain ⟨d, hd, rfl⟩ := exists_digit_of_mem_toDigits (by decide) hc
    have hall : ∀ d < 10, (Nat.digitChar d).toNat < 128 := by decide
    exact hall d hd
  unfold strBytes
  rw [toList_port, flatMap_utf8EncodeChar_ascii hascii]

theorem length_strBytes_port_lt (port : UInt16) : (strBytes (toString port)).length < 32 := by
  have hdigits : (Nat.toDigits 10 port.toNat).length ≤ 5 :=
    (Nat.length_toDigits_le_iff (by decide) (by decide)).mpr
      (Nat.lt_trans port.toNat_lt (by decide))
  rw [strBytes_port, List.length_map]
  omega

namespace PluginHardwareRequest

/-- The port is read back from the field it is written to. -/
theorem servicePort_new {server busid : String} {port : UInt16} {req : PluginHardwareRequest}
    (h : new server port busid = .ok req) : req.servicePort = some port.toNat := by
  have hdigit : ∀ c ∈ Nat.toDigits 10 port.toNat, ∃ d < 10, c = Nat.digitChar d :=
    fun c hc => exists_digit_of_mem_toDigits (by decide) hc
  have hnul : (0 : UInt8) ∉ strBytes (toString port) := by
    rw [strBytes_port]
    intro hmem
    obtain ⟨c, hc, hzero⟩ := List.mem_map.mp hmem
    obtain ⟨d, hd, rfl⟩ := hdigit c hc
    have hall : ∀ d < 10, UInt8.ofNat (Nat.digitChar d).toNat ≠ 0 := by decide
    exact hall d hd hzero
  have hback : (strBytes (toString port)).map (fun b => Char.ofNat b.toNat) =
      Nat.toDigits 10 port.toNat := by
    rw [strBytes_port, List.map_map]
    refine (List.map_congr_left ?_).trans (List.map_id _)
    intro c hc
    obtain ⟨d, hd, rfl⟩ := hdigit c hc
    have hall : ∀ d < 10,
        Char.ofNat (UInt8.ofNat (Nat.digitChar d).toNat).toNat = Nat.digitChar d := by decide
    exact hall d hd
  unfold new at h
  split at h
  · split at h
    · split at h
      · cases h
        unfold servicePort Bytes.zeroPadded
        rw [Server.takeWhile_field hnul, hback, valueFrom_toDigits_self]
      · cases h
    · cases h
  · cases h

/-- Only the host and the bus id can be too long; the digits of a port always fit. -/
theorem new_cases (server : String) (port : UInt16) (busid : String) :
    ((strBytes server).length < 256 ∧ (strBytes busid).length < 32 ∧
      ∃ req, new server port busid = .ok req) ∨
    (¬ ((strBytes server).length < 256 ∧ (strBytes busid).length < 32) ∧
      ∃ e, new server port busid = .error e) := by
  unfold new
  by_cases hhost : (strBytes server).length < 256
  · rw [dif_pos hhost, dif_pos (length_strBytes_port_lt port)]
    by_cases hbusid : (strBytes busid).length < 32
    · rw [dif_pos hbusid]
      exact Or.inl ⟨hhost, hbusid, _, rfl⟩
    · rw [dif_neg hbusid]
      exact Or.inr ⟨fun h => hbusid h.2, _, rfl⟩
  · rw [dif_neg hhost]
    exact Or.inr ⟨fun h => hhost h.1, _, rfl⟩

end PluginHardwareRequest

namespace Machine

/-- The engine can ask for this device: the request has room for its bus id, and on Windows
for the text of the address. -/
def Sendable (platform : Platform) (host : HostAddr) (busid : String) : Prop :=
  match platform with
  | .linux | .macos => ∃ wire, busidFromStr busid = .ok wire
  | .windows => (strBytes host.ip).length < 256 ∧ (strBytes busid).length < 32
  | .other => False

/-- The macOS driver is told of no TCP port. -/
theorem filterMap_connectTarget_driver (effects : List Effect) :
    (effects.map ClientCall.driver).filterMap ClientCall.connectTarget = [] := by
  rw [List.filterMap_map]
  exact List.filterMap_eq_nil_iff.mpr fun _ _ => rfl

/-- One connection, to the port of the address, if the condition holds, or an error and no
call. -/
def ConnectsIff (sendable : Prop) (addr : SocketAddr)
    (out : Except EngineError AttachedDevice × List ClientCall) : Prop :=
  (sendable ∧ out.2.filterMap ClientCall.connectTarget = [addr.port.toNat]) ∨
    (¬ sendable ∧ ∃ e, out = (.error e, []))

/-- On Linux: the address is the one connected to. -/
theorem attachDeviceLinux_connects (machine : Machine) (answers : ClientAnswers)
    (addr : SocketAddr) (busid : String) :
    ConnectsIff (∃ wire, busidFromStr busid = .ok wire) addr
      (machine.attachDeviceLinux answers addr busid) := by
  unfold attachDeviceLinux
  cases busidFromStr busid with
  | error e => exact Or.inr ⟨nofun, _, rfl⟩
  | ok wire =>
      refine Or.inl ⟨⟨wire, rfl⟩, ?_⟩
      simp only
      split
      · rfl
      · split
        · rfl
        · split
          · rfl
          · rfl

/-- On Windows: the driver reads the port of the address from its text. -/
theorem attachDeviceWindows_connects (answers : ClientAnswers) (addr : SocketAddr)
    (busid : String) :
    ConnectsIff ((strBytes addr.host.ip).length < 256 ∧ (strBytes busid).length < 32) addr
      (attachDeviceWindows answers addr busid) := by
  unfold attachDeviceWindows
  rcases PluginHardwareRequest.new_cases addr.host.ip addr.port busid with
    ⟨hhost, hbusid, req, hnew⟩ | ⟨hlong, e, hnew⟩
  · have htarget : [ClientCall.plugin req].filterMap ClientCall.connectTarget =
        [addr.port.toNat] :=
      List.filterMap_cons_some (f := ClientCall.connectTarget)
        (PluginHardwareRequest.servicePort_new hnew)
    refine Or.inl ⟨⟨hhost, hbusid⟩, ?_⟩
    rw [hnew]
    simp only
    split
    · exact htarget
    · split
      · exact htarget
      · exact htarget
  · rw [hnew]
    exact Or.inr ⟨hlong, e, rfl⟩

/-- On macOS: the address is the one connected to. -/
theorem attachDeviceMacos_connects (answers : ClientAnswers) (addr : SocketAddr)
    (busid : String) :
    ConnectsIff (∃ wire, busidFromStr busid = .ok wire) addr
      (attachDeviceMacos answers addr busid) := by
  unfold attachDeviceMacos
  cases hbusid : busidFromStr busid with
  | error e =>
      refine Or.inr ⟨nofun, .client (.attach (.invalidBusId busid)), ?_⟩
      unfold ClientEngine.attachDevice
      rw [hbusid]
      rfl
  | ok wire =>
      refine Or.inl ⟨⟨wire, rfl⟩, ?_⟩
      simp only [List.filterMap_append, filterMap_connectTarget_driver, List.append_nil]
      rfl

/-- On every platform an attach makes one connection, to the port of the address it is given,
if the device can be asked for; otherwise it is an error without a call. -/
theorem attachDevice_connects (platform : Platform) (machine : Machine)
    (answers : ClientAnswers) (addr : SocketAddr) (busid : String) :
    ConnectsIff (Sendable platform addr.host busid) addr
      (machine.attachDevice platform answers addr busid) := by
  cases platform with
  | linux => exact attachDeviceLinux_connects machine answers addr busid
  | windows => exact attachDeviceWindows_connects answers addr busid
  | macos => exact attachDeviceMacos_connects answers addr busid
  | other => exact Or.inr ⟨id, _, rfl⟩

/-- The status file has the port, and not as a free one; the first row with its number
decides. -/
def InUse (machine : Machine) (port : UInt32) : Prop :=
  ∃ ports p, machine.listPorts = .ok ports ∧ (ports.find? fun p => p.port == port) = some p ∧
    p.status.isFree = false

/-- The port is written in decimal, or there is an error and no call. -/
theorem detachDeviceLinux_cases (machine : Machine) (answers : ClientAnswers) (port : UInt32) :
    (machine.InUse port ∧
      machine.detachDeviceLinux answers port =
        (answers.write.mapError .io, [.writeDetach (toString port)])) ∨
    (¬ machine.InUse port ∧ ∃ e, machine.detachDeviceLinux answers port = (.error e, [])) := by
  unfold detachDeviceLinux InUse
  cases hports : machine.listPorts with
  | error e =>
      refine Or.inr ⟨?_, _, rfl⟩
      rintro ⟨_, _, hlist, -⟩
      cases hlist
  | ok ports =>
      simp only
      cases hfind : ports.find? fun p => p.port == port with
      | none =>
          refine Or.inr ⟨?_, _, rfl⟩
          rintro ⟨_, _, hlist, hsome, -⟩
          cases hlist
          rw [hfind] at hsome
          cases hsome
      | some p =>
          simp only
          cases hfree : p.status.isFree with
          | true =>
              refine Or.inr ⟨?_, _, rfl⟩
              rintro ⟨_, _, hlist, hsome, hused⟩
              cases hlist
              rw [hfind] at hsome
              cases hsome
              rw [hfree] at hused
              cases hused
          | false => exact Or.inl ⟨⟨ports, p, rfl, hfind, hfree⟩, rfl⟩

/-- The number written to the Linux driver's file is the number read from it. -/
theorem detachTarget_writeDetach (port : UInt32) :
    (ClientCall.writeDetach (toString port)).detachTarget = some (port.toNat : Int) := by
  have hdigits : (toString port).toList = Nat.toDigits 10 port.toNat := String.toList_ofList
  unfold ClientCall.detachTarget
  simp only [hdigits, valueFrom_toDigits_self]
  rfl

end Machine

end Extender.Client
