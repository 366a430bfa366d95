/-
Locally connected USB devices (`extender-server/src/device.rs`), opening one of them
(`handle.rs`) and the errors of the server crate (`error.rs`).

`RusbDevice` is a device as libusb lists it, with what it answers when it is asked for its
descriptors; it may fail to give them. `enumerateDevices` gathers the metadata the daemon
keeps of a device, with the bus id `formatBusId` prints: devices that cannot be read are
skipped, and the first configuration stands in for the active one.

`toProtocolDevice` turns the metadata gathered by enumeration into the wire record. It can
fail: the bus id has to fit the 32-byte field and be ASCII, and a device bound with
`bind_device_with` may carry any string.

`ManagedDevice.openDevice` looks for a bus id in one enumeration and opens what it finds at
that bus number and address in another; between the two the devices may have changed. Its
result keeps the device the handle is open on, which the source does not, so that results can
speak of it.
-/

import Extender.Protocol.Discovery

namespace Extender.Server

open Extender.Protocol

/-- `rusb::Error`, all its variants, since each has a status code of its own. -/
inductive RusbError where
  | io | invalidParam | access | noDevice | notFound | busy | timeout | overflow | pipe
  | interrupted | noMem | notSupported | badDescriptor | other
deriving DecidableEq, Repr

/-- The errors of the server crate that a modelled function returns. -/
inductive ServerError where
  | usbContextInit (e : RusbError)
  | enumeration (e : RusbError)
  | deviceNotFound (busId : String)
  | deviceInUse (busId : String)
  | openDevice (busId : String) (source : RusbError)
  | claimInterface (busId : String) (interface : UInt8) (source : RusbError)
  | protocol (e : ProtocolError)
  | deviceAlreadyBound (busId : String)
  | deviceNotBound (busId : String)
deriving DecidableEq, Repr

structure LocalUsbInterface where
  interfaceNumber : UInt8
  interfaceClass : UInt8
  interfaceSubclass : UInt8
  interfaceProtocol : UInt8
deriving DecidableEq, Repr

/-- The metadata the daemon keeps of a device, which is also what it lists and exports. -/
structure LocalUsbDevice where
  busNumber : UInt8
  deviceAddress : UInt8
  vendorId : UInt16
  productId : UInt16
  deviceClass : UInt8
  deviceSubclass : UInt8
  deviceProtocol : UInt8
  bcdDevice : UInt16
  busId : String
  speed : UInt32
  numConfigurations : UInt8
  interfaces : List LocalUsbInterface
deriving DecidableEq, Repr

/-! ### What libusb lists -/

inductive Speed where
  | unknown | low | full | high | super | superPlus
deriving DecidableEq, Repr

structure Version where
  major : UInt8
  minor : UInt8
  subMinor : UInt8
deriving DecidableEq, Repr

structure DeviceDescriptor where
  vendorId : UInt16
  productId : UInt16
  classCode : UInt8
  subClassCode : UInt8
  protocolCode : UInt8
  deviceVersion : Version
  numConfigurations : UInt8
deriving DecidableEq, Repr

structure InterfaceDescriptor where
  interfaceNumber : UInt8
  classCode : UInt8
  subClassCode : UInt8
  protocolCode : UInt8
deriving DecidableEq, Repr

/-- A configuration: its interfaces, each with its alternate settings. -/
abbrev ConfigDescriptor : Type := List (List InterfaceDescriptor)

/-- An attached device (`rusb::Device`), with what it answers when it is asked. A
descriptor exists also where reading it fails. -/
structure RusbDevice where
  busNumber : UInt8
  address : UInt8
  portNumbers : Except RusbError (List UInt8)
  descriptor : DeviceDescriptor
  descriptorError : Option RusbError
  speed : Speed
  activeConfigDescriptor : Except RusbError ConfigDescriptor
  configDescriptorZero : Except RusbError ConfigDescriptor
deriving DecidableEq, Repr

def RusbDevice.deviceDescriptor (device : RusbDevice) : Except RusbError DeviceDescriptor :=
  match device.descriptorError with
  | none => .ok device.descriptor
  | some e => .error e

/-! ### Enumeration -/

def mapSpeed : Speed → UInt32
  | .low => 1
  | .full => 2
  | .high => 3
  | .super => 5
  | _ => 0

/-- `format_bus_id`: the bus number and the ports down to the device, as Linux writes
them; a root hub has no ports. -/
def formatBusId (busNumber : UInt8) (portNumbers : List UInt8) : String :=
  match portNumbers.map (fun p => toString p.toNat) with
  | [] => toString busNumber.toNat ++ "-0"
  | [first] => toString busNumber.toNat ++ "-" ++ first
  | first :: rest => toString busNumber.toNat ++ "-" ++ first ++ "." ++ ".".intercalate rest

/-- The first alternate setting of every interface; the others are not described. -/
def localInterfaces (config : ConfigDescriptor) : List LocalUsbInterface :=
  config.filterMap fun settings => settings.head?.map fun d =>
    { interfaceNumber := d.interfaceNumber
      interfaceClass := d.classCode
      interfaceSubclass := d.subClassCode
      interfaceProtocol := d.protocolCode }

/-- One turn of the loop of `enumerate_devices`: a device without a readable descriptor
is skipped, and the first configuration stands in for the active one. -/
def RusbDevice.describe (device : RusbDevice) : Option LocalUsbDevice :=
  match device.deviceDescriptor with
  | .error _ => none
  | .ok desc =>
      let v := desc.deviceVersion
      some
        { busNumber := device.busNumber
          deviceAddress := device.address
          vendorId := desc.vendorId
          productId := desc.productId
          deviceClass := desc.classCode
          deviceSubclass := desc.subClassCode
          deviceProtocol := desc.protocolCode
          bcdDevice := v.major.toUInt16 <<< 8 ||| v.minor.toUInt16 <<< 4 ||| v.subMinor.toUInt16
          busId := formatBusId device.busNumber (device.portNumbers.toOption.getD [])
          speed := mapSpeed device.speed
          numConfigurations := desc.numConfigurations
          interfaces :=
            match device.activeConfigDescriptor, device.configDescriptorZero with
            | .ok config, _ => localInterfaces config
            | .error _, .ok config => localInterfaces config
            | .error _, .error _ => [] }

/-- `enumerate_devices`; `devices` is the list libusb returns, or its error. A device that
cannot be described is left out. -/
def enumerateDevices (devices : Except ServerError (List RusbDevice)) :
    Except ServerError (List LocalUsbDevice) :=
  devices.map fun deviceList => deviceList.filterMap RusbDevice.describe

/-! ### The wire record -/

def LocalUsbInterface.toProtocolInterface (i : LocalUsbInterface) : UsbInterface :=
  { interfaceClass := i.interfaceClass
    interfaceSubclass := i.interfaceSubclass
    interfaceProtocol := i.interfaceProtocol
    padding := 0 }

def LocalUsbDevice.toProtocolDevice (d : LocalUsbDevice) : Except ServerError UsbDevice :=
  match busidFromStr d.busId with
  | .error e => .error (.protocol e)
  | .ok busid =>
      let interfaces := d.interfaces.map LocalUsbInterface.toProtocolInterface
      .ok
        { path := pathFromStr ("/sys/devices/usb" ++ toString d.busNumber.toNat ++ "/" ++ d.busId)
          busid
          busnum := d.busNumber.toUInt32
          devnum := d.deviceAddress.toUInt32
          speed := d.speed
          idVendor := d.vendorId
          idProduct := d.productId
          bcdDevice := d.bcdDevice
          deviceClass := d.deviceClass
          deviceSubclass := d.deviceSubclass
          deviceProtocol := d.deviceProtocol
          configurationValue := 0
          numConfigurations := d.numConfigurations
          numInterfaces := UInt8.ofNat interfaces.length
          interfaces }

/-! ### Opening (`handle.rs`) -/

/-- An opened and claimed device (`handle.rs`). The `rusb` handle is known by its
identity only. -/
structure ManagedDevice where
  handle : Nat
  claimedInterfaces : List UInt8
  busId : String
deriving DecidableEq, Repr

/-- The loop over `claim_interface`: the first interface that cannot be claimed ends it with
an error. -/
def claimInterfaces (busId : String) (claim : UInt8 → Except RusbError Unit) :
    List UInt8 → Except ServerError (List UInt8)
  | [] => .ok []
  | ifaceNum :: rest =>
      match claim ifaceNum with
      | .error .busy => .error (.deviceInUse busId)
      | .error e => .error (.claimInterface busId ifaceNum e)
      | .ok () => (claimInterfaces busId claim rest).map (ifaceNum :: ·)

/-- The first attached device at a bus number and address, as `open` looks for it. -/
def deviceAt (usbDevices : List RusbDevice) (busNumber address : UInt8) : Option RusbDevice :=
  usbDevices.find? fun d => d.busNumber = busNumber ∧ d.address = address

/-- `ManagedDevice::open`, with the device the handle is open on. `devices` is one enumeration
and `usbDevices` the list libusb returns for the next, `opened` what opening the device does
and `claim` what claiming an interface does. -/
def ManagedDevice.openDevice (devices : List LocalUsbDevice) (busId : String)
    (usbDevices : Except ServerError (List RusbDevice)) (opened : Except RusbError Nat)
    (claim : UInt8 → Except RusbError Unit) : Except ServerError (RusbDevice × ManagedDevice) :=
  match devices.find? (fun d => d.busId = busId) with
  | none => .error (.deviceNotFound busId)
  | some localDevice =>
      match usbDevices with
      | .error e => .error e
      | .ok usbDevices =>
          match deviceAt usbDevices localDevice.busNumber localDevice.deviceAddress with
          | none => .error (.deviceNotFound busId)
          | some rusbDevice =>
              match opened with
              | .error .access => .error (.deviceInUse busId)
              | .error .busy => .error (.deviceInUse busId)
              | .error e => .error (.openDevice busId e)
              | .ok handle =>
                  match claimInterfaces busId claim
                      (localDevice.interfaces.map LocalUsbInterface.interfaceNumber) with
                  | .error e => .error e
                  | .ok claimedInterfaces =>
                      .ok (rusbDevice, { handle, claimedInterfaces, busId })

end Extender.Server
