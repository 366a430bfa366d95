/-
The device list reply, end to end.

`handle_devlist` converts every bound device and writes one message; the client reads it with
`read_op_message`. The two sides count differently: the writer casts the number of interfaces
to a byte and writes them all, the reader takes as many as the byte says and refuses more than
256 devices. So a list can be written that is read as another, or not at all.

Faithfulness is stated on the client's side (`DevlistFaithful`): the bytes are read to the
last one, as a list of records that describe the bound devices in some order, the map being
walked in no order a client could rely on. Describing a device takes its numbers, its
interfaces and its bus id as text; the bus id is the text up to the first NUL, which is why an
id with a NUL in it is not listable although it is written.

* `Listable` — at most 256 devices, each with a bus id that travels and at most 255
  interfaces.
* `devlistFaithful_iff` — exactly then the reply is read back, to its last byte, as the bound
  devices.
* `devlist_reply` — what the two guards do: a bus id that does not convert leaves the request
  without a reply, a longer list is refused by the reader.
-/

import Extender.Protocol.DiscoveryGrammar
import Extender.Server.BusId

namespace Extender.Server

open BigEndian ByteReader Extender.Protocol

/-! ### The handler -/

namespace ExportRegistry

/-- `handle_devlist`: the bytes it writes, or the error with which the handler returns. -/
def handleDevlist (reg : ExportRegistry) : Except ServerError (List UInt8) := do
  let devices ← reg.listDevices
  pure (writeOpMessage [] (.repDevlist { status := 0, devices }))

/-- The bound devices, in the order the map is walked, which the source does not fix. -/
def boundDevices (reg : ExportRegistry) : List LocalUsbDevice :=
  reg.devices.entries.map fun entry => entry.2.device

theorem listDevices_eq (reg : ExportRegistry) :
    reg.listDevices = reg.boundDevices.mapM LocalUsbDevice.toProtocolDevice := by
  rw [listDevices, boundDevices, List.mapM_map]
  rfl

end ExportRegistry

/-! ### Wire records -/

/-- `device` has the numbers of `d` and its full interface list in order; the bus id is not
looked at. -/
structure Carries (d : LocalUsbDevice) (device : UsbDevice) : Prop where
  busnum : device.busnum = d.busNumber.toUInt32
  devnum : device.devnum = d.deviceAddress.toUInt32
  speed : device.speed = d.speed
  idVendor : device.idVendor = d.vendorId
  idProduct : device.idProduct = d.productId
  bcdDevice : device.bcdDevice = d.bcdDevice
  deviceClass : device.deviceClass = d.deviceClass
  deviceSubclass : device.deviceSubclass = d.deviceSubclass
  deviceProtocol : device.deviceProtocol = d.deviceProtocol
  numConfigurations : device.numConfigurations = d.numConfigurations
  interfaces : device.interfaces = d.interfaces.map LocalUsbInterface.toProtocolInterface

/-- `device` describes `d`: it carries its own bus id as text as well. -/
structure Describes (d : LocalUsbDevice) (device : UsbDevice) : Prop extends Carries d device where
  busId : device.busidString = d.busId

/-- A conversion fails with the error of the bus id, and in no other way. -/
theorem toProtocolDevice_eq_error_iff {d : LocalUsbDevice} {e : ServerError} :
    d.toProtocolDevice = .error e ↔ ∃ p, busidFromStr d.busId = .error p ∧ e = .protocol p := by
  unfold LocalUsbDevice.toProtocolDevice
  cases hfield : busidFromStr d.busId with
  | error p =>
      constructor
      · intro h
        cases h
        exact ⟨p, rfl, rfl⟩
      · rintro ⟨_, ⟨rfl⟩, rfl⟩
        rfl
  | ok field =>
      constructor
      · intro h
        cases h
      · rintro ⟨_, h, -⟩
        cases h

/-- A converted device: the bus id is in its field, the interface count is cut to a byte,
and everything else is carried over. -/
theorem toProtocolDevice_cases {d : LocalUsbDevice} {device : UsbDevice}
    (h : d.toProtocolDevice = .ok device) :
    busidFromStr d.busId = .ok device.busid ∧
      device.numInterfaces = UInt8.ofNat d.interfaces.length ∧ Carries d device := by
  unfold LocalUsbDevice.toProtocolDevice at h
  split at h
  · cases h
  · rename_i field hfield
    rw [← Except.ok.inj h]
    refine ⟨hfield, by simp only [List.length_map], ?_⟩
    exact ⟨rfl, rfl, rfl, rfl, rfl, rfl, rfl, rfl, rfl, rfl, rfl⟩

theorem describes_of_travels {d : LocalUsbDevice} {device : UsbDevice} (htravels : Travels d.busId)
    (h : d.toProtocolDevice = .ok device) : Describes d device := by
  obtain ⟨hfield, -, hcarries⟩ := toProtocolDevice_cases h
  obtain ⟨field, hfield', -, hread⟩ := busidFromStr_of_travels htravels
  rw [hfield] at hfield'
  exact ⟨hcarries, hread device (Except.ok.inj hfield')⟩

/-- The interface count is right for at most 255 interfaces. -/
theorem countOk_of_length_le {d : LocalUsbDevice} {device : UsbDevice}
    (h : d.toProtocolDevice = .ok device) (hlen : d.interfaces.length ≤ 255) :
    device.CountOk := by
  obtain ⟨-, hcount, hcarries⟩ := toProtocolDevice_cases h
  rw [UsbDevice.CountOk, hcount, hcarries.interfaces, List.length_map, UInt8.toNat_ofNat',
    Nat.mod_eq_of_lt (by omega)]

/-! ### Which lists arrive -/

/-- At most 256 devices, each with a bus id that travels and at most 255 interfaces. -/
def Listable (reg : ExportRegistry) : Prop :=
  reg.boundDevices.length ≤ 256 ∧
    ∀ d ∈ reg.boundDevices, Travels d.busId ∧ d.interfaces.length ≤ 255

instance (reg : ExportRegistry) : Decidable (Listable reg) :=
  inferInstanceAs (Decidable (_ ∧ ∀ d ∈ reg.boundDevices, _ ∧ _))

/-- The reply is read, with no byte left over, as a list that describes the bound devices
in some order. -/
def DevlistFaithful (reg : ExportRegistry) : Prop :=
  ∃ bytes devices, reg.handleDevlist = .ok bytes ∧
    readOpMessage bytes = .ok (.repDevlist { status := 0, devices }, []) ∧
    ∃ order : List LocalUsbDevice, order.Perm reg.boundDevices ∧
      List.Forall₂ Describes order devices

/-- Everything the reader returns has counts that agree with its lists, since it reads as many
as it is told. -/
theorem counts_of_readOpMessage {bytes rest : List UInt8} {m : OpRepDevlist}
    (h : readOpMessage bytes = .ok (.repDevlist m, rest)) :
    m.devices.length ≤ 256 ∧ ∀ device ∈ m.devices, device.CountOk := by
  obtain ⟨p, -, opcode, q, -, hbody⟩ := (readOpMessage_accepts _ _ _).mp h
  cases opcode with
  | opRepDevlist =>
      obtain ⟨status, devices, hm, hcounts, -⟩ := hbody
      cases hm
      exact hcounts
  | opReqDevlist =>
      obtain ⟨_, hm, -⟩ := hbody
      cases hm
  | opReqImport =>
      obtain ⟨_, _, hm, -⟩ := hbody
      cases hm
  | opRepImport =>
      obtain ⟨_, ⟨-, _, -, hm, -⟩ | ⟨-, hm, -⟩⟩ := hbody
      · cases hm
      · cases hm

/-- Where every bus id converts, the list is written; a single one that does not leaves the
client without a reply. -/
theorem handleDevlist_eq_ok {reg : ExportRegistry}
    (h : ∀ d ∈ reg.boundDevices, ∃ device, d.toProtocolDevice = .ok device) :
    ∃ devices, reg.handleDevlist = .ok (OpMessage.encode (.repDevlist { status := 0, devices })) ∧
      List.Forall₂ (fun d device => d.toProtocolDevice = .ok device) reg.boundDevices devices := by
  cases hlist : reg.boundDevices.mapM LocalUsbDevice.toProtocolDevice with
  | error e =>
      obtain ⟨d, hd, herror⟩ := exists_error_of_mapM hlist
      obtain ⟨device, hok⟩ := h d hd
      rw [herror] at hok
      cases hok
  | ok devices =>
      refine ⟨devices, ?_, mapM_eq_ok_iff.mp hlist⟩
      rw [ExportRegistry.handleDevlist, reg.listDevices_eq, hlist]
      rfl

/-- A device of a list whose reply was written converts. -/
theorem exists_record_of_handleDevlist {reg : ExportRegistry} {bytes : List UInt8}
    (h : reg.handleDevlist = .ok bytes) {d : LocalUsbDevice} (hd : d ∈ reg.boundDevices) :
    ∃ device, d.toProtocolDevice = .ok device := by
  obtain ⟨devices, hlist, -⟩ := exceptBind_eq_ok.mp h
  rw [reg.listDevices_eq, mapM_eq_ok_iff] at hlist
  obtain ⟨device, -, hdevice⟩ := exists_of_forall₂ hlist hd
  exact ⟨device, hdevice⟩

theorem Listable.faithful {reg : ExportRegistry} (h : Listable reg) : DevlistFaithful reg := by
  obtain ⟨hcount, hall⟩ := h
  obtain ⟨devices, hwritten, hdevices⟩ := handleDevlist_eq_ok fun d hd =>
    toProtocolDevice_of_travels (hall d hd).1
  refine ⟨_, devices, hwritten, ?_, reg.boundDevices, List.Perm.refl _, ?_⟩
  · have hwf : (OpMessage.repDevlist { status := 0, devices }).WellFormed := by
      constructor
      · rw [← hdevices.length_eq]
        exact hcount
      · intro device hmem
        obtain ⟨d, hd, hok⟩ := exists_of_forall₂ (List.Forall₂.flip hdevices) hmem
        exact countOk_of_length_le hok (hall d hd).2
    have hread := readOpMessage_encode hwf []
    rw [List.append_nil] at hread
    exact hread
  · have hboth := (List.forall₂_and_left reg.boundDevices devices).mpr ⟨hall, hdevices⟩
    exact hboth.imp fun d device h => describes_of_travels h.1.1 h.2

theorem DevlistFaithful.listable {reg : ExportRegistry} (h : DevlistFaithful reg) :
    Listable reg := by
  obtain ⟨bytes, devices, hwritten, hread, order, hperm, hdescribe⟩ := h
  obtain ⟨hcount, hcounts⟩ := counts_of_readOpMessage hread
  constructor
  · rw [← hperm.length_eq, hdescribe.length_eq]
    exact hcount
  · intro d hd
    -- the decoded record that describes `d` bounds its interfaces and its bus id
    obtain ⟨device, hmem, hdevice⟩ :=
      exists_of_forall₂ hdescribe (hperm.mem_iff.mpr hd)
    obtain ⟨record, hrecord⟩ := exists_record_of_handleDevlist hwritten hd
    have hok : device.numInterfaces.toNat = device.interfaces.length := hcounts device hmem
    rw [hdevice.interfaces, List.length_map] at hok
    have hbyte := device.numInterfaces.toNat_lt
    exact ⟨travels_of_busidString (toProtocolDevice_cases hrecord).1 hdevice.busId, by omega⟩

/-- The reply describes the bound devices exactly when the list fits the wire format: its
length, the interface counts and the bus ids. -/
theorem devlistFaithful_iff (reg : ExportRegistry) : DevlistFaithful reg ↔ Listable reg :=
  ⟨DevlistFaithful.listable, Listable.faithful⟩

/-! ### The guards -/

/-- A list longer than the reader accepts is refused at its count. -/
theorem readOpMessage_tooMany {devices : List UsbDevice} (hmany : 256 < devices.length)
    (hword : devices.length < 2 ^ 32) :
    readOpMessage (OpMessage.encode (.repDevlist { status := 0, devices })) =
      .error (.error (.tooManyDevices (UInt32.ofNat devices.length) maxDevicesInDevlist)) := by
  let counts : List UInt8 := u32Bytes 0 ++ u32Bytes (UInt32.ofNat devices.length)
  let rest := devices.flatMap encodeDeviceWithInterfaces
  have hspell : OpMessage.encode (.repDevlist { status := 0, devices }) =
      opHeader .opRepDevlist ++ (counts ++ rest) := by
    simp only [OpMessage.encode, OpRepDevlist.encode, opHeader, counts, rest, List.append_assoc]
  let header : Bytes 4 := ⟨opHeader .opRepDevlist, rfl⟩
  let body : Bytes 8 := ⟨counts, by simp [counts]⟩
  obtain ⟨hversion, hopcode⟩ := (opHeader_eq_iff header .opRepDevlist).mp rfl
  have hnum : u32At body 4 (by decide) = UInt32.ofNat devices.length :=
    ((u32At_pair_iff body 0 _).mpr rfl).2
  have hbig : UInt32.ofNat devices.length > maxDevicesInDevlist := by
    show maxDevicesInDevlist < UInt32.ofNat devices.length
    rw [UInt32.lt_iff_toNat_lt, UInt32.toNat_ofNat', Nat.mod_eq_of_lt hword]
    exact hmany
  have hheader : readExact 4 (opHeader .opRepDevlist ++ (counts ++ rest)) =
      .ok (header, counts ++ rest) :=
    (Accepts.takeExact _ 4).read (a := header) rfl _
  have hbody : readExact 8 (counts ++ rest) = .ok (body, rest) :=
    (Accepts.takeExact _ 8).read (a := body) rfl _
  rw [hspell, readOpMessage, Accepts.bind_of_ok hheader]
  simp only [hversion, hopcode, ne_eq, not_true_eq_false, if_false]
  rw [show OpCode.fromRaw OpCode.opRepDevlist.code = some .opRepDevlist from rfl]
  simp only [readAfterOpCode]
  rw [Accepts.bind_of_ok hbody, hnum, if_pos hbig]
  rfl

/-- **The device list, end to end.** A bus id that does not convert leaves the request
without a reply; a list of more than 256 devices is refused by the reader; otherwise, with
bus ids free of NUL and at most 255 interfaces a device, the reply is read back to its last
byte as a list of the bound devices, each with its bus id and all its interfaces. -/
theorem devlist_reply (reg : ExportRegistry) :
    (∀ d ∈ reg.boundDevices, ∀ e, busidFromStr d.busId = .error e →
      ∃ e', reg.handleDevlist = .error e') ∧
    ((∀ d ∈ reg.boundDevices, ∃ field, busidFromStr d.busId = .ok field) →
      256 < reg.boundDevices.length → reg.boundDevices.length < 2 ^ 32 →
        ∃ bytes, reg.handleDevlist = .ok bytes ∧
          readOpMessage bytes = .error (.error (.tooManyDevices
            (UInt32.ofNat reg.boundDevices.length) maxDevicesInDevlist))) ∧
    (Listable reg → DevlistFaithful reg) := by
  refine ⟨?_, ?_, Listable.faithful⟩
  · intro d hd e hbad
    cases hwritten : reg.handleDevlist with
    | error e' => exact ⟨e', rfl⟩
    | ok bytes =>
        obtain ⟨device, hdevice⟩ := exists_record_of_handleDevlist hwritten hd
        rw [(toProtocolDevice_cases hdevice).1] at hbad
        cases hbad
  · intro hgood hmany hword
    have hrecords : ∀ d ∈ reg.boundDevices, ∃ device, d.toProtocolDevice = .ok device := by
      intro d hd
      obtain ⟨field, hfield⟩ := hgood d hd
      cases hdevice : d.toProtocolDevice with
      | ok device => exact ⟨device, rfl⟩
      | error e =>
          obtain ⟨p, hp, -⟩ := toProtocolDevice_eq_error_iff.mp hdevice
          rw [hfield] at hp
          cases hp
    obtain ⟨devices, hwritten, hdevices⟩ := handleDevlist_eq_ok hrecords
    rw [hdevices.length_eq] at hmany hword ⊢
    exact ⟨_, hwritten, readOpMessage_tooMany hmany hword⟩

/-- A keyboard with a second interface, at `busId`. -/
def keyboardAt (busId : String) : LocalUsbDevice :=
  { busNumber := 1, deviceAddress := 4, vendorId := 0x046d, productId := 0xc31c
    deviceClass := 0, deviceSubclass := 0, deviceProtocol := 0, bcdDevice := 0x6402
    busId, speed := 2, numConfigurations := 1
    interfaces := [{ interfaceNumber := 0, interfaceClass := 3, interfaceSubclass := 1,
                     interfaceProtocol := 1 },
                   { interfaceNumber := 1, interfaceClass := 3, interfaceSubclass := 0,
                     interfaceProtocol := 0 }] }

/-- A registry with one keyboard bound at each of `busIds`. -/
def keyboards (busIds : List String) : ExportRegistry :=
  busIds.foldl (fun reg busId => (reg.bindDeviceWith busId (keyboardAt busId)
    { handle := 0, claimedInterfaces := [0, 1], busId }).2) .new

theorem devlist_reply_keyboards :
    Listable (keyboards ["1-1", "2-4.1"]) ∧ DevlistFaithful (keyboards ["1-1", "2-4.1"]) :=
  ⟨by decide +kernel, (devlist_reply (keyboards ["1-1", "2-4.1"])).2.2 (by decide +kernel)⟩

/-- One device with a bus id of 32 bytes, bound with `bind_device_with`, and the list is
never sent. -/
theorem devlist_refused_long_busId :
    ¬ DevlistFaithful (keyboards ["11-11.11.11.11.11.11.11.11.11.11"]) := by
  rw [devlistFaithful_iff]
  decide +kernel

end Extender.Server
