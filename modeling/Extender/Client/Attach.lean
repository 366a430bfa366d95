/-
Attaching a device on macOS (`attach_device_macos` of `engine.rs`, and `vhci_macos.rs`).

The client imports a device over the network and then creates a virtual one in the driver
extension: it picks a device type from the class codes of the record it received, uses bus and
device number as the device id, and sends an 18-byte USB device descriptor. The driver reads
the id as an index into 32 slots, and the descriptor as a structure of its own.

The methods of `vhci_macos.rs` pack their arguments into scalars and call `ExternalMethod`
through IOKit. Here each of them calls the driver's handler directly: `ExternalMethod` hands
these scalars to that handler and returns its code (`Driver.ExternalMethod`), so nothing is
lost between the two, and a failing `Create` of DriverKit is still a parameter.

* `classification_kept_iff` — when the device type is the one the server's device would be
  given: the import reply carries no interfaces, so only devices that are told by their device
  class, or that the classifier takes for HID anyway.
* `attach_never_agrees` — no device is both created and configured: the descriptor is shorter
  than the structure the driver reads.
* `createDevice_success_iff` — the device id is a slot index only where the low sixteen bits
  of the bus number are zero and the device number is a free slot.
* `attachDeviceMacos_fails` — so an attach never succeeds, and leaves nothing registered.
-/

import Extender.Driver.UserClient
import Extender.Protocol.DiscoveryGrammar
import Extender.Server.Devlist

namespace Extender.Client

open BigEndian Extender.Protocol Extender.Driver

/-! ### Device types -/

def deviceTypeHid : UInt32 := 1
def deviceTypeStorage : UInt32 := 2
def deviceTypeSerial : UInt32 := 3
def deviceTypeNetwork : UInt32 := 4
def deviceTypeAudio : UInt32 := 5

/-- The device type of an interface class, if it is recognised; the first recognised interface
decides. -/
def interfaceType : UInt8 → Option UInt32
  | 0x03 => some deviceTypeHid
  | 0x08 => some deviceTypeStorage
  | 0x02 => some deviceTypeSerial
  | 0x0A => some deviceTypeSerial
  | 0x01 => some deviceTypeAudio
  | 0xE0 => some deviceTypeNetwork
  | _ => none

/-- `device_type_from_usb`: the device class decides if it can; then a composite device with
a CDC interface is a network device; then the first recognised interface decides. -/
def deviceTypeFromUsb (deviceClass : UInt8) (interfaceClasses : List UInt8) : UInt32 :=
  match deviceClass with
  | 0x03 => deviceTypeHid
  | 0x08 => deviceTypeStorage
  | 0x02 => deviceTypeSerial
  | 0x0A => deviceTypeSerial
  | 0x01 => deviceTypeAudio
  | _ =>
      if deviceClass = 0xEF ∧ 0x02 ∈ interfaceClasses then deviceTypeNetwork
      else (interfaceClasses.findSome? interfaceType).getD deviceTypeHid

/-! ### The driver's methods (`vhci_macos.rs`) -/

/-- The errors of an attach (`ClientError`). A read of the reply fails with what the
reader failed with. -/
inductive AttachError where
  | invalidBusId (busid : String)
  | connectTimeout (addr : String) (timeoutSecs : UInt64)
  | io (kind : IoErrorKind)
  | protocol (e : Failure)
  | importRejected (busid : String) (status : UInt32)
  | importMissingDevice
  | ioKit (code : IOReturn) (message : String)
deriving DecidableEq, Repr

def configDeviceDescriptor : UInt32 := 6

/-- `check_kr`: every return code but success is an error that names the operation. -/
def checkKr (kr : IOReturn) (operation : String) : Except AttachError Unit :=
  if kr = .success then .ok () else .error (.ioKit kr (operation ++ " failed"))

section Methods

-- `create` is DriverKit's `Create`.
variable (create : String → IOReturn × Option Service) (driver : DriverIVars)

/-- `create_device`. The scalars go to `handleCreateDevice` directly, which is where
`ExternalMethod` dispatches them; the new driver state is kept also when the call fails. -/
def createDevice (deviceType deviceId : UInt32) : Except AttachError Unit × DriverIVars :=
  let (kr, driver') := handleCreateDevice create driver deviceType.toUInt64 deviceId.toUInt64
  (checkKr kr "create_device", driver')

/-- `destroy_device`, by a direct call of `handleDestroyDevice` as above. -/
def destroyDevice (deviceId : UInt32) : Except AttachError Unit × DriverIVars :=
  let (kr, driver') := handleDestroyDevice driver deviceId.toUInt64
  (checkKr kr "destroy_device", driver')

/-- `configure_device`, by a direct call of `handleConfigureDevice` with the structure the
caller passes, and its length. -/
def configureDevice (deviceId configType : UInt32) (data : List UInt8) :
    Except AttachError Unit × DriverIVars :=
  let (kr, driver') :=
    handleConfigureDevice driver deviceId.toUInt64 configType.toUInt64 (some data)
  (checkKr kr "configure_device", driver')

end Methods

/-! ### Attaching (`engine.rs`) -/

/-- `build_device_descriptor`: the 18 bytes of a USB device descriptor, with numbers in
little-endian order. -/
def buildDeviceDescriptor (dev : UsbDevice) : List UInt8 :=
  let bcdUsb : UInt16 := if dev.speed ≥ 5 then 0x0300 else 0x0200
  [18, 0x01, bcdUsb.toUInt8, (bcdUsb >>> 8).toUInt8,
    dev.deviceClass, dev.deviceSubclass, dev.deviceProtocol, 64,
    dev.idVendor.toUInt8, (dev.idVendor >>> 8).toUInt8,
    dev.idProduct.toUInt8, (dev.idProduct >>> 8).toUInt8,
    dev.bcdDevice.toUInt8, (dev.bcdDevice >>> 8).toUInt8,
    0, 0, 0, dev.numConfigurations]

/-- What `attach_device_macos` passes to `create_device`: the type by the record's classes,
and bus and device number as the id. -/
def createArguments (device : UsbDevice) : UInt32 × UInt32 :=
  (deviceTypeFromUsb device.deviceClass (device.interfaces.map UsbInterface.interfaceClass),
    device.busnum <<< 16 ||| device.devnum)

/-- Read the import reply from what the server sends: a reply that grants nothing, and a
message of another kind, are errors. -/
def importedDevice (busid : String) (input : List UInt8) : Except AttachError UsbDevice :=
  match readOpMessage input with
  | .error e => .error (.protocol e)
  | .ok (.repImport rep, _) =>
      if rep.status ≠ 0 then .error (.importRejected busid rep.status)
      else
        match rep.device with
        | none => .error .importMissingDevice
        | some device => .ok device
  | .ok _ => .error (.protocol (.error (.invalidOpCode 0)))

/-- What the engine keeps of an attached device: where it came from. -/
structure RegistryEntry where
  serverAddr : String
  busid : String
  idVendor : UInt16
  idProduct : UInt16
  speed : UInt32
deriving DecidableEq, Repr

structure AttachedDevice where
  port : UInt32
  busid : String
  serverAddr : String
  idVendor : UInt16
  idProduct : UInt16
  speed : UInt32
deriving DecidableEq, Repr

/-- The client engine and the driver behind it, as one attach request sees them. -/
structure MacosClient where
  driver : DriverIVars
  registry : AList (fun _ : UInt32 => RegistryEntry)

/-- What becomes of the connection: it is not made, or the request is written (or not) and
the server sends its bytes. -/
inductive Connect where
  | timedOut
  | failed (kind : IoErrorKind)
  | connected (written : Except ProtocolError Unit) (input : List UInt8)

def connectTimeoutSecs : UInt64 := 5

/-- The part of `attach_device_macos` behind the import: create, configure, register. A
device that cannot be configured is destroyed again. -/
def attachImported (create : String → IOReturn × Option Service) (c : MacosClient)
    (addr busid : String) (device : UsbDevice) : Except AttachError AttachedDevice × MacosClient :=
  let (deviceType, devid) := createArguments device
  match createDevice create c.driver deviceType devid with
  | (.error e, driver) => (.error e, { c with driver })
  | (.ok (), driver) =>
      match configureDevice driver devid configDeviceDescriptor (buildDeviceDescriptor device) with
      | (.error e, driver) => (.error e, { c with driver := (destroyDevice driver devid).2 })
      | (.ok (), driver) =>
          (.ok { port := devid, busid, serverAddr := addr, idVendor := device.idVendor
                 idProduct := device.idProduct, speed := device.speed },
            { driver
              registry := c.registry.insert devid
                { serverAddr := addr, busid, idVendor := device.idVendor
                  idProduct := device.idProduct, speed := device.speed } })

/-- `attach_device_macos`: connect, ask for the device, read the reply, and attach what was
imported. Every error before that leaves the client as it was. -/
def attachDeviceMacos (create : String → IOReturn × Option Service) (c : MacosClient)
    (addr busid : String) (connect : Connect) :
    Except AttachError AttachedDevice × MacosClient :=
  match busidFromStr busid with
  | .error _ => (.error (.invalidBusId busid), c)
  | .ok _ =>
      match connect with
      | .timedOut => (.error (.connectTimeout addr connectTimeoutSecs), c)
      | .failed kind => (.error (.io kind), c)
      | .connected (.error e) _ => (.error (.protocol (.error e)), c)
      | .connected (.ok ()) input =>
          match importedDevice busid input with
          | .error e => (.error e, c)
          | .ok device => attachImported create c addr busid device

/-! ### Classification -/

/-- The interface classes the classifier knows. -/
def recognisedClasses : List UInt8 := [0x01, 0x02, 0x03, 0x08, 0x0A, 0xE0]

/-- The device classes that decide alone, before the interfaces are looked at. -/
def decisiveClasses : List UInt8 := [0x01, 0x02, 0x03, 0x08, 0x0A]

theorem interfaceType_of_mem {cls : UInt8} (h : cls ∈ recognisedClasses) :
    ∃ t, interfaceType cls = some t ∧ (t = deviceTypeHid ↔ cls = 0x03) := by
  simp only [recognisedClasses, List.mem_cons, List.not_mem_nil, or_false] at h
  rcases h with rfl | rfl | rfl | rfl | rfl | rfl
  all_goals exact ⟨_, rfl, by decide⟩

theorem interfaceType_of_notMem {cls : UInt8} (h : cls ∉ recognisedClasses) :
    interfaceType cls = none := by
  unfold interfaceType
  split
  all_goals first
    | exact absurd (by decide) h
    | rfl

/-- The interfaces make a HID device iff the first recognised one is HID, or none is. -/
theorem findSome_interfaceType_iff (classes : List UInt8) :
    (classes.findSome? interfaceType).getD deviceTypeHid = deviceTypeHid ↔
      ∀ cls, classes.find? (· ∈ recognisedClasses) = some cls → cls = 0x03 := by
  induction classes with
  | nil => simp
  | cons cls classes ih =>
      by_cases hmem : cls ∈ recognisedClasses
      · obtain ⟨t, ht, hiff⟩ := interfaceType_of_mem hmem
        rw [List.findSome?_cons, ht, List.find?_cons_of_pos (by simpa using hmem)]
        simpa using hiff
      · rw [List.findSome?_cons, interfaceType_of_notMem hmem,
          List.find?_cons_of_neg (by simpa using hmem)]
        exact ih

/-- What the classifier says without interfaces is what it says with them exactly for
devices told by their class, and for those whose interfaces make them HID. -/
theorem deviceTypeFromUsb_nil_iff (deviceClass : UInt8) (classes : List UInt8) :
    deviceTypeFromUsb deviceClass [] = deviceTypeFromUsb deviceClass classes ↔
      deviceClass ∈ decisiveClasses ∨
        (¬ (deviceClass = 0xEF ∧ 0x02 ∈ classes) ∧
          ∀ cls, classes.find? (· ∈ recognisedClasses) = some cls → cls = 0x03) := by
  unfold deviceTypeFromUsb
  split
  case h_6 h3 h8 h2 ha h1 =>
    have hother : deviceClass ∉ decisiveClasses := by
      simp only [decisiveClasses, List.mem_cons, List.not_mem_nil, or_false, not_or]
      exact ⟨h1, h2, h3, h8, ha⟩
    rw [← findSome_interfaceType_iff, if_neg (by simp), or_iff_right hother]
    by_cases hnet : deviceClass = 0xEF ∧ 0x02 ∈ classes
    · rw [if_pos hnet]
      exact iff_of_false (by decide) fun h => h.1 hnet
    · rw [if_neg hnet, and_iff_right hnet]
      exact eq_comm
  all_goals exact iff_of_true rfl (Or.inl (by decide))

/-- The client receives the server's record without its interfaces, whatever interfaces there
were. -/
theorem importedDevice_reply (record : UsbDevice) (busid : String) (rest : List UInt8) :
    importedDevice busid
        (OpMessage.encode (.repImport { status := 0, device := some record }) ++ rest) =
      .ok { record with interfaces := [] } := by
  have hread := readOpMessage_encode
    (m := .repImport { status := 0, device := some { record with interfaces := [] } })
    ⟨rfl, rfl⟩ rest
  have hsame : OpMessage.encode (.repImport { status := 0, device := some record }) =
      OpMessage.encode (.repImport
        { status := 0, device := some { record with interfaces := [] } }) := rfl
  rw [importedDevice, hsame, hread]
  rfl

/-- **Classification through the import exchange.** The device type the client passes to
the driver, after reading the reply that grants it `d`, is the one `d` itself would be given
exactly when the device class of `d` decides, or `d` is not a composite device with a CDC
interface and its first interface of a recognised class, if it has one, is HID. -/
theorem classification_kept_iff {d : Server.LocalUsbDevice} {record : UsbDevice}
    (h : d.toProtocolDevice = .ok record) (busid : String) (rest : List UInt8) :
    ∃ device, importedDevice busid
        (OpMessage.encode (.repImport { status := 0, device := some record }) ++ rest) =
          .ok device ∧
      ((createArguments device).1 = deviceTypeFromUsb d.deviceClass
          (d.interfaces.map Server.LocalUsbInterface.interfaceClass) ↔
        d.deviceClass ∈ decisiveClasses ∨
          (¬ (d.deviceClass = 0xEF ∧
              0x02 ∈ d.interfaces.map Server.LocalUsbInterface.interfaceClass) ∧
            ∀ cls, (d.interfaces.map Server.LocalUsbInterface.interfaceClass).find?
              (· ∈ recognisedClasses) = some cls → cls = 0x03)) := by
  refine ⟨_, importedDevice_reply record busid rest, ?_⟩
  have hcarries := (Server.toProtocolDevice_cases h).2.2
  rw [← deviceTypeFromUsb_nil_iff, ← hcarries.deviceClass]
  rfl

theorem classification_kept_iff_keyboard :
    ∃ record, (Server.keyboardAt "1-1").toProtocolDevice = .ok record ∧
      ∃ device, importedDevice "1-1"
          (OpMessage.encode (.repImport { status := 0, device := some record }) ++ []) =
            .ok device ∧
        (createArguments device).1 = deviceTypeHid := by
  obtain ⟨record, hrecord⟩ := Server.toProtocolDevice_of_travels (d := Server.keyboardAt "1-1")
    (by decide +kernel)
  obtain ⟨device, hdevice, hiff⟩ := classification_kept_iff hrecord "1-1" []
  refine ⟨record, hrecord, device, hdevice, hiff.mpr (Or.inr ⟨by decide, ?_⟩)⟩
  intro cls hcls
  cases hcls
  rfl

/-- A flash drive: told by its one interface, not by its device class. -/
def flashDrive : Server.LocalUsbDevice :=
  { Server.keyboardAt "1-2" with
    interfaces := [{ interfaceNumber := 0, interfaceClass := 0x08, interfaceSubclass := 6,
                     interfaceProtocol := 0x50 }] }

/-- It is created as a HID device. -/
theorem flashDrive_misclassified :
    ∃ record device, flashDrive.toProtocolDevice = .ok record ∧
      importedDevice "1-2"
        (OpMessage.encode (.repImport { status := 0, device := some record })) = .ok device ∧
      (createArguments device).1 ≠ deviceTypeFromUsb flashDrive.deviceClass
        (flashDrive.interfaces.map Server.LocalUsbInterface.interfaceClass) := by
  obtain ⟨record, hrecord⟩ := Server.toProtocolDevice_of_travels (d := flashDrive)
    (by decide +kernel)
  have himport := importedDevice_reply record "1-2" []
  rw [List.append_nil] at himport
  refine ⟨record, _, hrecord, himport, ?_⟩
  have hclass : record.deviceClass = 0 := (Server.toProtocolDevice_cases hrecord).2.2.deviceClass
  show deviceTypeFromUsb record.deviceClass [] ≠ _
  rw [hclass]
  decide

/-! ### Creation and configuration -/

/-- The daemon and the driver agree on a device: its type and id are accepted for a new
device, its descriptor is accepted for that device, and the slot then has its vendor and
product ids. -/
def DriverAgrees (create : String → IOReturn × Option Service) (driver : DriverIVars)
    (device : UsbDevice) : Prop :=
  ∃ created configured,
    handleCreateDevice create driver (createArguments device).1.toUInt64
        (createArguments device).2.toUInt64 = (.success, created) ∧
    handleConfigureDevice created (createArguments device).2.toUInt64
        configDeviceDescriptor.toUInt64 (some (buildDeviceDescriptor device)) =
      (.success, configured) ∧
    ∃ i, slotIndex (createArguments device).2.toUInt64 = some i ∧
      (configured.devices i).vendorId = device.idVendor ∧
      (configured.devices i).productId = device.idProduct

theorem buildDeviceDescriptor_short (device : UsbDevice) :
    (buildDeviceDescriptor device).length < deviceDescriptorConfigSize := by
  show 18 < 198
  decide

/-- **The driver never accepts the descriptor.** Whatever the device and whatever the slot
table, the 18 bytes of a USB device descriptor are fewer than the structure the driver
reads, so no device is ever created and configured. -/
theorem attach_never_agrees (create : String → IOReturn × Option Service) (driver : DriverIVars)
    (device : UsbDevice) : ¬ DriverAgrees create driver device := by
  rintro ⟨created, configured, -, hconfigured, -⟩
  have hrefused := handleConfigureDevice_short created (createArguments device).2.toUInt64
    (buildDeviceDescriptor_short device)
  rw [show (6 : UInt64) = configDeviceDescriptor.toUInt64 from rfl, hconfigured] at hrefused
  exact hrefused rfl

/-- The type the client sends is always one the driver knows, so that it is not what makes an
attach fail. -/
theorem isSome_ofRaw_deviceTypeFromUsb (deviceClass : UInt8) (classes : List UInt8) :
    (DeviceType.ofRaw (deviceTypeFromUsb deviceClass classes).toUInt64).isSome = true := by
  have hinterface : ∀ cls t, interfaceType cls = some t →
      (DeviceType.ofRaw t.toUInt64).isSome = true := by
    intro cls t ht
    unfold interfaceType at ht
    split at ht
    all_goals cases ht
    all_goals rfl
  unfold deviceTypeFromUsb
  split
  case h_6 =>
    split
    · rfl
    · cases hfound : classes.findSome? interfaceType with
      | none => rfl
      | some t =>
          obtain ⟨cls, -, ht⟩ := List.exists_of_findSome?_eq_some hfound
          exact hinterface cls t ht
  all_goals rfl

/-- A device id is a slot index only if the low sixteen bits of the bus number are zero. -/
theorem devid_eq_iff (busnum devnum : UInt32) (i : Fin maxDevices) :
    (busnum <<< 16 ||| devnum).toUInt64.toNat = i.val ↔
      busnum.toNat % 2 ^ 16 = 0 ∧ devnum.toNat = i.val := by
  have hi : i.val < 32 := i.isLt
  have hshift : (busnum <<< 16).toNat = busnum.toNat % 2 ^ 16 * 2 ^ 16 := by
    rw [UInt32.toNat_shiftLeft, Nat.shiftLeft_eq]
    show busnum.toNat * 2 ^ 16 % (2 ^ 16 * 2 ^ 16) = _
    rw [Nat.mul_mod_mul_right]
  rw [UInt32.toNat_toUInt64, UInt32.toNat_or, hshift]
  constructor
  · intro h
    have hle : busnum.toNat % 2 ^ 16 * 2 ^ 16 ≤ i.val := h ▸ Nat.left_le_or
    have hbus : busnum.toNat % 2 ^ 16 = 0 := by omega
    rw [hbus, Nat.zero_mul, Nat.zero_or] at h
    exact ⟨hbus, h⟩
  · rintro ⟨hbus, hdev⟩
    rw [hbus, Nat.zero_mul, Nat.zero_or]
    exact hdev

theorem checkKr_eq_ok_iff {kr : IOReturn} {operation : String} :
    checkKr kr operation = .ok () ↔ kr = .success := by
  unfold checkKr
  split
  · exact iff_of_true rfl ‹_›
  · exact iff_of_false (by simp) ‹_›

/-- With `Create` succeeding, the driver creates the device exactly if its bus number is a
multiple of 65536 and its device number names a free slot. -/
theorem createDevice_success_iff {create : String → IOReturn × Option Service}
    (hcreate : ∀ key, ∃ service, create key = (.success, some service)) (driver : DriverIVars)
    (device : UsbDevice) :
    (createDevice create driver (createArguments device).1 (createArguments device).2).1 =
        .ok () ↔
      device.busnum.toNat % 2 ^ 16 = 0 ∧
        ∃ i : Fin maxDevices, device.devnum.toNat = i.val ∧ (driver.devices i).active = false := by
  have htype := isSome_ofRaw_deviceTypeFromUsb device.deviceClass
    (device.interfaces.map UsbInterface.interfaceClass)
  rw [createDevice, checkKr_eq_ok_iff, handleCreateDevice_success_iff hcreate, createArguments,
    and_iff_left htype]
  simp only [slotIndex_eq_some_iff, devid_eq_iff]
  constructor
  · rintro ⟨i, ⟨hbus, hdev⟩, hfree⟩
    exact ⟨hbus, i, hdev, hfree⟩
  · rintro ⟨hbus, i, hdev, hfree⟩
    exact ⟨i, ⟨hbus, hdev⟩, hfree⟩

/-- An attach never succeeds, and registers nothing: either the id is no free slot or the
descriptor is too short. -/
theorem attachDeviceMacos_fails (create : String → IOReturn × Option Service) (c : MacosClient)
    (addr busid : String) (connect : Connect) :
    (∃ e, (attachDeviceMacos create c addr busid connect).1 = .error e) ∧
      (attachDeviceMacos create c addr busid connect).2.registry = c.registry := by
  have himported : ∀ device, (∃ e, (attachImported create c addr busid device).1 = .error e) ∧
      (attachImported create c addr busid device).2.registry = c.registry := by
    intro device
    unfold attachImported
    obtain ⟨deviceType, devid⟩ := createArguments device
    dsimp only
    split
    · exact ⟨⟨_, rfl⟩, rfl⟩
    · split
      · exact ⟨⟨_, rfl⟩, rfl⟩
      · rename_i hconfigured
        have hok := checkKr_eq_ok_iff.mp (congrArg Prod.fst hconfigured)
        exact absurd hok (handleConfigureDevice_short _ _ (buildDeviceDescriptor_short device))
  unfold attachDeviceMacos
  split
  · exact ⟨⟨_, rfl⟩, rfl⟩
  · split
    · exact ⟨⟨_, rfl⟩, rfl⟩
    · exact ⟨⟨_, rfl⟩, rfl⟩
    · exact ⟨⟨_, rfl⟩, rfl⟩
    · split
      · exact ⟨⟨_, rfl⟩, rfl⟩
      · exact himported _

/-- A device on the first bus of a server, refused by a driver with every slot free. -/
theorem attach_refused_sampleUsbDevice :
    (∀ i, (DriverIVars.zero.devices i).active = false) ∧
      ¬ DriverAgrees (fun _ => (.success, some { id := 0, cls := .hid })) DriverIVars.zero
        { sampleUsbDevice with interfaces := [] } := by
  refine ⟨fun _ => rfl, ?_⟩
  rintro ⟨created, configured, hcreated, -, -⟩
  have hrefused : (handleCreateDevice (fun _ => (.success, some { id := 0, cls := .hid }))
      DriverIVars.zero (createArguments { sampleUsbDevice with interfaces := [] }).1.toUInt64
      (createArguments { sampleUsbDevice with interfaces := [] }).2.toUInt64).1 ≠ .success := by
    decide +kernel
  exact hrefused (congrArg Prod.fst hcreated)

end Extender.Client
