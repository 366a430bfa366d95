/-
USB device records as they travel (`device.rs`).

A record is 312 bytes: a path and a bus id, both NUL-padded, and fourteen numeric fields. The
interface list follows the record only where the message says so: in a device list it does, in
the reply to an import it does not. `encode` and `decode` therefore leave it out, and the
`withInterfaces` pair adds it, as many interfaces as the record announces.

Rust strings are byte strings: `s.len()` and `s.as_bytes()` are the length and the bytes of
the UTF-8 encoding (`strBytes`), not of the character list. A bus id that is too long or not
ASCII is refused with the text of the source (`busidFromStr`), a path that is too long is cut
(`pathFromStr`), and both are read back up to the first NUL, as the empty string if that is
not UTF-8 (`busidString`, `pathString`).

What the decoders accept is in `DiscoveryGrammar`, with the messages the records are part of.
-/

import Extender.Protocol.Urb

namespace Extender.Protocol

open BigEndian ByteReader

/-- `str::as_bytes`: the UTF-8 spelling of a string, whose length is what `len()` returns. -/
def strBytes (s : String) : List UInt8 := s.toList.flatMap String.utf8EncodeChar

abbrev devicePathSize : Nat := 256
abbrev busidSize : Nat := 32

/-- Size of a device record, interfaces apart. -/
abbrev usbDeviceWireSize : Nat := 312
abbrev usbInterfaceWireSize : Nat := 4

/-- A bus id as it travels: 32 bytes, NUL-padded. -/
abbrev BusId : Type := Bytes busidSize

/-- The class triple of one interface, four bytes on the wire. -/
structure UsbInterface where
  interfaceClass : UInt8
  interfaceSubclass : UInt8
  interfaceProtocol : UInt8
  padding : UInt8
deriving DecidableEq, Repr

/-- A device as it is announced to clients. `num_interfaces` is a field of its own and may
differ from the length of the list. -/
structure UsbDevice where
  path : Bytes devicePathSize
  busid : BusId
  busnum : UInt32
  devnum : UInt32
  speed : UInt32
  idVendor : UInt16
  idProduct : UInt16
  bcdDevice : UInt16
  deviceClass : UInt8
  deviceSubclass : UInt8
  deviceProtocol : UInt8
  configurationValue : UInt8
  numConfigurations : UInt8
  numInterfaces : UInt8
  interfaces : List UsbInterface
deriving DecidableEq, Repr

/-! ### Strings in fixed fields -/

/-- `UsbDevice::busid_from_str`: at most 31 ASCII bytes, NUL-padded to 32; a NUL inside the
text is not refused. -/
def busidFromStr (s : String) : Except ProtocolError BusId :=
  if h : (strBytes s).length ≥ busidSize then
    .error (.invalidBusId ("bus ID too long: " ++ toString (strBytes s).length ++
      " bytes (max " ++ toString (busidSize - 1) ++ ")"))
  else if ¬ (strBytes s).all (fun b => b < 128) then
    .error (.invalidBusId "bus ID must be ASCII")
  else .ok (Bytes.zeroPadded (strBytes s) (Nat.le_of_lt (Nat.lt_of_not_le h)))

/-- `UsbDevice::path_from_str`: cut to 255 bytes, NUL-padded. -/
def pathFromStr (s : String) : Bytes devicePathSize :=
  Bytes.zeroPadded ((strBytes s).take (min (strBytes s).length (devicePathSize - 1))) (by
    rw [List.length_take]
    omega)

def fromUtf8 (bytes : List UInt8) : Option String := String.fromUTF8? bytes.toByteArray

/-- `busid_string`: the field up to its first NUL, empty if that is not UTF-8. -/
def UsbDevice.busidString (d : UsbDevice) : String :=
  (fromUtf8 (d.busid.val.takeWhile (· ≠ 0))).getD ""

/-- `path_string`: the field up to its first NUL, empty if that is not UTF-8. -/
def UsbDevice.pathString (d : UsbDevice) : String :=
  (fromUtf8 (d.path.val.takeWhile (· ≠ 0))).getD ""

/-! ### Encoding -/

def UsbDevice.encode (d : UsbDevice) : List UInt8 :=
  d.path.val ++ d.busid.val ++ u32Bytes d.busnum ++ u32Bytes d.devnum ++ u32Bytes d.speed ++
    u16Bytes d.idVendor ++ u16Bytes d.idProduct ++ u16Bytes d.bcdDevice ++
    [d.deviceClass, d.deviceSubclass, d.deviceProtocol, d.configurationValue,
      d.numConfigurations, d.numInterfaces]

def UsbInterface.encode (i : UsbInterface) : List UInt8 :=
  [i.interfaceClass, i.interfaceSubclass, i.interfaceProtocol, i.padding]

/-- The record, and behind it every interface of the list, whatever the count in the record
says. -/
def encodeDeviceWithInterfaces (d : UsbDevice) : List UInt8 :=
  d.encode ++ d.interfaces.flatMap UsbInterface.encode

/-! ### Decoding -/

/-- `UsbDevice::decode`; the interfaces are decoded separately by the caller, as only a device
list has them. -/
def UsbDevice.decode : Reader Failure UsbDevice :=
  needs usbDeviceWireSize (bufferTooShort usbDeviceWireSize) do
    let path ← copyToSlice devicePathSize
    let busid ← copyToSlice busidSize
    let busnum ← getU32
    let devnum ← getU32
    let speed ← getU32
    let idVendor ← getU16
    let idProduct ← getU16
    let bcdDevice ← getU16
    let deviceClass ← getU8
    let deviceSubclass ← getU8
    let deviceProtocol ← getU8
    let configurationValue ← getU8
    let numConfigurations ← getU8
    let numInterfaces ← getU8
    pure { path, busid, busnum, devnum, speed, idVendor, idProduct, bcdDevice, deviceClass,
           deviceSubclass, deviceProtocol, configurationValue, numConfigurations, numInterfaces,
           interfaces := [] }

def UsbInterface.decode : Reader Failure UsbInterface :=
  needs usbInterfaceWireSize (bufferTooShort usbInterfaceWireSize) do
    let interfaceClass ← getU8
    let interfaceSubclass ← getU8
    let interfaceProtocol ← getU8
    let padding ← getU8
    pure { interfaceClass, interfaceSubclass, interfaceProtocol, padding }

/-- A device record and as many interfaces as its count announces, behind a check for all of
them. -/
def decodeDeviceWithInterfaces : Reader Failure UsbDevice := do
  let device ← UsbDevice.decode
  let numIfaces := device.numInterfaces.toNat
  let needed := numIfaces * usbInterfaceWireSize
  needs needed (bufferTooShort needed) do
    let interfaces ← items UsbInterface.decode numIfaces
    pure { device with interfaces := device.interfaces ++ interfaces }

end Extender.Protocol
