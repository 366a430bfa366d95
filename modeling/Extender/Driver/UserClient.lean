/-
The user client of the macOS driver extension (`ExtenderUserClient.cpp`), and the structures
it shares with the daemon (`ExtenderProtocol.h`).

The driver keeps a table of 32 device slots. The daemon names a slot by its index:
`handleCreateDevice` fills it, `handleConfigureDevice` gives it descriptors and
`handleDestroyDevice` empties it. What `Create` of DriverKit does is a parameter: a code, and
a service or none, which may come together in any way.

Selectors and configuration types arrive as 64-bit scalars and are cast to 32-bit enumerations
before they are compared, so that the upper half of a scalar is not seen. A device id is
compared with the size of the table as it is. Structures arrive as bytes in host order, which
is little-endian on every Mac; an absent structure and an empty one are refused alike.

Of the configuration types only the device descriptor is kept. The others are checked for
their length and for the class of the device, and logged.

* `handleCreateDevice_success_iff` — a device is created in a free slot and with a known type,
  and in no other case.
* `handleConfigureDevice_short` — fewer than 198 bytes are no device descriptor, which is what
  the attach of the client runs into (`Client.Attach`).
-/

import Extender.Lib.BigEndian
import Mathlib.Logic.Function.Basic

namespace Extender.Driver

open BigEndian

/-! ### Shared definitions -/

/-- `EXTENDER_MAX_DEVICES`: the size of the slot table. -/
abbrev maxDevices : Nat := 32

/-- `EXTENDER_MAX_REPORT_DESCRIPTOR_SIZE`. -/
abbrev maxReportDescriptorSize : Nat := 4096

/-- `ExtenderDeviceType`: the classes of virtual device the extension has. -/
inductive DeviceType where
  | hid | storage | serial | network | audio
deriving DecidableEq, Repr

/-- The value of the enumerator. -/
def DeviceType.code : DeviceType → UInt32
  | .hid => 1
  | .storage => 2
  | .serial => 3
  | .network => 4
  | .audio => 5

/-- The cast to `ExtenderDeviceType`, as far as a `switch` sees it. -/
def DeviceType.ofRaw (value : UInt64) : Option DeviceType :=
  match value.toUInt32 with
  | 1 => some .hid
  | 2 => some .storage
  | 3 => some .serial
  | 4 => some .network
  | 5 => some .audio
  | _ => none

/-- `ExtenderConfigType`: what a device can be configured with. -/
inductive ConfigType where
  | hidReportDescriptor | storageGeometry | serialLineState | networkMac | audioFormat
  | deviceDescriptor
deriving DecidableEq, Repr

/-- The cast to `ExtenderConfigType`, as far as a `switch` sees it. -/
def ConfigType.ofRaw (value : UInt64) : Option ConfigType :=
  match value.toUInt32 with
  | 1 => some .hidReportDescriptor
  | 2 => some .storageGeometry
  | 3 => some .serialLineState
  | 4 => some .networkMac
  | 5 => some .audioFormat
  | 6 => some .deviceDescriptor
  | _ => none

/-- `sizeof(ExtenderDeviceDescriptorConfig)`: three 16-bit numbers and three strings of
64 bytes, with no padding between them. -/
abbrev deviceDescriptorConfigSize : Nat := 3 * 2 + 3 * 64

/-- `sizeof` of the settings of a storage device, and of the other classes. -/
abbrev storageGeometrySize : Nat := 16
abbrev serialLineStateSize : Nat := 8
abbrev networkMacSize : Nat := 8
abbrev audioFormatSize : Nat := 8

/-- A 16-bit number in host order at `offset`. -/
def u16At (bytes : List UInt8) (offset : Nat) : UInt16 :=
  (bytes.getD offset 0).toUInt16 ||| (bytes.getD (offset + 1) 0).toUInt16 <<< 8

/-- `kern_return_t`, by the names the driver uses; `other` is what DriverKit returns. -/
inductive IOReturn where
  | success | badArgument | exclusiveAccess | noResources | noSpace | notFound | notReady
  | other (code : Int32)
deriving DecidableEq, Repr

/-! ### The slot table -/

/-- The service `Create` returns, known by its identity and its class. -/
structure Service where
  id : Nat
  cls : DeviceType
deriving DecidableEq, Repr

/-- `DeviceSlot` of the driver; a slot that is not active may hold what its last device
left. -/
structure DeviceSlot where
  device : Option Service
  deviceType : UInt32
  active : Bool
  vendorId : UInt16
  productId : UInt16
  productName : Bytes 64
deriving DecidableEq

/-- `ExtenderDriver_IVars`: the slots, and how many of them are active. -/
structure DriverIVars where
  devices : Fin maxDevices → DeviceSlot
  deviceCount : UInt32

/-- The table after `IONewZero`: no slot is active, and all texts are zeros. -/
def DriverIVars.zero : DriverIVars :=
  { devices := fun _ =>
      { device := none, deviceType := 0, active := false, vendorId := 0, productId := 0
        productName := Bytes.zeroPadded [] (by decide) }
    deviceCount := 0 }

/-- Replace one slot. -/
def DriverIVars.setSlot (driver : DriverIVars) (i : Fin maxDevices) (slot : DeviceSlot) :
    DriverIVars :=
  { driver with devices := Function.update driver.devices i slot }

/-- The slot a 64-bit device id names, if it is below 32. -/
def slotIndex (deviceId : UInt64) : Option (Fin maxDevices) :=
  if h : deviceId.toNat < maxDevices then some ⟨deviceId.toNat, h⟩ else none

theorem slotIndex_eq_some_iff {deviceId : UInt64} {i : Fin maxDevices} :
    slotIndex deviceId = some i ↔ deviceId.toNat = i.val := by
  unfold slotIndex
  split
  · rw [Option.some.injEq, Fin.ext_iff]
  · rename_i hge
    constructor
    · intro h
      cases h
    · intro h
      rw [h] at hge
      exact absurd i.isLt hge

/-! ### The handlers -/

/-- `propertiesKeyForDeviceType`: where the `Info.plist` has the properties of a class. -/
def propertiesKeyForDeviceType (deviceType : UInt64) : Option String :=
  match DeviceType.ofRaw deviceType with
  | some .hid => some "VirtualHIDProperties"
  | some .storage => some "VirtualStorageProperties"
  | some .serial => some "VirtualSerialProperties"
  | some .network => some "VirtualNetworkProperties"
  | some .audio => some "VirtualAudioProperties"
  | none => none

/-- `handleCreateDevice`; `create` is DriverKit's `Create` for a properties key. Ids and
product of a new device are empty until it is configured. -/
def handleCreateDevice (create : String → IOReturn × Option Service) (driver : DriverIVars)
    (deviceType deviceId : UInt64) : IOReturn × DriverIVars :=
  match slotIndex deviceId with
  | none => (.badArgument, driver)
  | some i =>
      if (driver.devices i).active then (.exclusiveAccess, driver)
      else
        match propertiesKeyForDeviceType deviceType with
        | none => (.badArgument, driver)
        | some propsKey =>
            match create propsKey with
            | (.success, some service) =>
                let slot :=
                  { driver.devices i with
                    active := true
                    deviceType := deviceType.toUInt32
                    device := some service
                    vendorId := 0
                    productId := 0
                    productName := ⟨(driver.devices i).productName.val.set 0 0, by simp⟩ }
                (.success, { driver.setSlot i slot with deviceCount := driver.deviceCount + 1 })
            | (.success, none) => (.noResources, driver)
            | (ret, _) => (ret, driver)

/-- `handleDestroyDevice`: the service is dropped, the ids stay in the slot. -/
def handleDestroyDevice (driver : DriverIVars) (deviceId : UInt64) : IOReturn × DriverIVars :=
  match slotIndex deviceId with
  | none => (.badArgument, driver)
  | some i =>
      if ¬ (driver.devices i).active then (.notFound, driver)
      else
        let slot := { driver.devices i with active := false, deviceType := 0, device := none }
        (.success, { driver.setSlot i slot with deviceCount := driver.deviceCount - 1 })

/-- `strncpy(dst, src, sizeof(dst) - 1)`: up to the first NUL of `src`, then zeros; the last
byte of `dst` stays. -/
def strncpy (dst : Bytes 64) (src : List UInt8) : Bytes 64 :=
  ⟨((src.takeWhile (· ≠ 0)).take 63 ++
      List.replicate (63 - ((src.takeWhile (· ≠ 0)).take 63).length) 0) ++ dst.val.drop 63, by
    rw [List.length_append, List.length_append, List.length_replicate, List.length_drop,
      List.length_take, dst.property]
    omega⟩

/-- `handleConfigureDevice`; `structureInput` is the structure the caller passed, if any. Only
a device descriptor changes the slot. -/
def handleConfigureDevice (driver : DriverIVars) (deviceId configType : UInt64)
    (structureInput : Option (List UInt8)) : IOReturn × DriverIVars :=
  match slotIndex deviceId with
  | none => (.notFound, driver)
  | some i =>
      let slot := driver.devices i
      if ¬ slot.active then (.notFound, driver)
      else
        match structureInput with
        | none => (.badArgument, driver)
        | some [] => (.badArgument, driver)
        | some configData =>
            -- the settings of one class of device: accepted and only logged
            let logged (cls : DeviceType) (size : Nat) : IOReturn × DriverIVars :=
              if slot.deviceType ≠ cls.code then (.badArgument, driver)
              else if configData.length < size then (.badArgument, driver)
              else (.success, driver)
            match ConfigType.ofRaw configType with
            | some .deviceDescriptor =>
                if configData.length < deviceDescriptorConfigSize then (.badArgument, driver)
                else
                  (.success, driver.setSlot i { slot with
                    vendorId := u16At configData 0
                    productId := u16At configData 2
                    productName := strncpy slot.productName ((configData.drop 70).take 64) })
            | some .hidReportDescriptor =>
                if slot.deviceType ≠ DeviceType.hid.code then (.badArgument, driver)
                else if configData.length > maxReportDescriptorSize then (.badArgument, driver)
                else
                  match slot.device with
                  | some { cls := .hid, .. } => (.success, driver)
                  | _ => (.notReady, driver)
            | some .storageGeometry => logged .storage storageGeometrySize
            | some .serialLineState => logged .serial serialLineStateSize
            | some .networkMac => logged .network networkMacSize
            | some .audioFormat => logged .audio audioFormatSize
            | none => (.badArgument, driver)

/-! ### What the handlers accept -/

theorem isSome_propertiesKey (deviceType : UInt64) :
    (propertiesKeyForDeviceType deviceType).isSome = (DeviceType.ofRaw deviceType).isSome := by
  unfold propertiesKeyForDeviceType
  cases DeviceType.ofRaw deviceType with
  | none => rfl
  | some t =>
      cases t
      all_goals rfl

/-- With `Create` succeeding, a device is created exactly in a free slot of the table and
with a known type. -/
theorem handleCreateDevice_success_iff {create : String → IOReturn × Option Service}
    (hcreate : ∀ key, ∃ service, create key = (.success, some service)) (driver : DriverIVars)
    (deviceType deviceId : UInt64) :
    (handleCreateDevice create driver deviceType deviceId).1 = .success ↔
      (∃ i, slotIndex deviceId = some i ∧ (driver.devices i).active = false) ∧
        (DeviceType.ofRaw deviceType).isSome := by
  rw [← isSome_propertiesKey]
  unfold handleCreateDevice
  cases hslot : slotIndex deviceId with
  | none => simp
  | some i =>
      cases hactive : (driver.devices i).active with
      | true => simp [hactive]
      | false =>
          cases hkey : propertiesKeyForDeviceType deviceType with
          | none => simp [hactive]
          | some key =>
              obtain ⟨service, hservice⟩ := hcreate key
              simp [hactive, hservice]

/-- Too few bytes are never taken for a device descriptor: the call is refused, whatever the
slot holds. -/
theorem handleConfigureDevice_short (driver : DriverIVars) (deviceId : UInt64)
    {configData : List UInt8} (hshort : configData.length < deviceDescriptorConfigSize) :
    (handleConfigureDevice driver deviceId 6 (some configData)).1 ≠ .success := by
  have htype : ConfigType.ofRaw 6 = some .deviceDescriptor := rfl
  unfold handleConfigureDevice
  cases slotIndex deviceId with
  | none => simp
  | some i =>
      cases hactive : (driver.devices i).active with
      | false => simp [hactive]
      | true =>
          cases configData with
          | nil => simp [hactive]
          | cons b bytes =>
              simp only [hactive, not_true_eq_false, if_false, htype]
              rw [if_pos hshort]
              exact IOReturn.noConfusion

end Extender.Driver
