/-
The driver extension as 32 independent slots.

The code keeps a table of flags, type codes and pointers, one counter for the whole table, and
the variables of each device behind its pointer. What it is for is simpler: 32 slots, each of
them empty or with one device in it (`Slot.step`). The two are compared over whole runs: the
answers a slot gives to its own calls, in an extension where the other slots are busy too, are
those it would give if it were the only one.

`Slot.step` is the specification. It knows nothing of identifiers, pointers and classes: a
call is for an empty slot or for a device, and the device answers it. What a call is for is
found by `addressed`, from its selector and its scalars; a call that names no slot of the
table is answered without touching any.

Each handler has one lemma that says how its slot moves and that no other does (`Moved`). They
rest on an invariant of the table, of which the part that matters most is that no service is
in two slots, since writing the variables of one would then be seen in the other. The rule
that takes such steps to runs is that of `Lib.Components`.

* `Extension.view` — the device of a slot, as the table and the pointers have it.
* `Extension.Inv` — the flag, the type code and the class of the service agree, no service is
  in two slots, and the counter counts the flags.
* `Extension.Inv.step` — one action, by the handler it comes to.
* `run_eq_slots` — whatever the daemon calls and the host requests, in any order over any of
  the slots, each slot answers as it would if it were the only one.
-/

import Extender.Driver.ExternalMethod
import Extender.Lib.Components
import Mathlib.Data.Fintype.Card

namespace Extender.Driver

open BigEndian Components

/-! ### One slot -/

/-- A virtual device. Nothing is ever queued by those whose data paths are not wired. -/
inductive Device where
  | hid (ivars : HidIVars)
  | storage (ivars : StorageIVars)
  | serial
  | network
  | audio

/-- The class of a device. -/
def Device.cls : Device → DeviceType
  | .hid _ => .hid
  | .storage _ => .storage
  | .serial => .serial
  | .network => .network
  | .audio => .audio

/-- A new device, with the variables that `init` gives it. -/
def Device.new : DeviceType → Device
  | .hid => .hid .init
  | .storage => .storage .init
  | .serial => .serial
  | .network => .network
  | .audio => .audio

/-- What is accepted as a configuration of a device: the settings of its own class, and a
descriptor for any. -/
def DeviceType.configures (cls : DeviceType) (configType : UInt64) (configData : List UInt8) :
    Bool :=
  match ConfigType.ofRaw configType with
  | some .deviceDescriptor => deviceDescriptorConfigSize ≤ configData.length
  | some .hidReportDescriptor => cls = .hid ∧ configData.length ≤ maxReportDescriptorSize
  | some .storageGeometry => cls = .storage ∧ storageGeometrySize ≤ configData.length
  | some .serialLineState => cls = .serial ∧ serialLineStateSize ≤ configData.length
  | some .networkMac => cls = .network ∧ networkMacSize ≤ configData.length
  | some .audioFormat => cls = .audio ∧ audioFormatSize ≤ configData.length
  | none => false

/-- What is done to the device of a slot, by a call of the daemon or a request of the host. -/
inductive SlotCall where
  | create (deviceType : UInt64)
  | destroy
  | submitInput (dataLength : UInt64) (structureInput : Option (List UInt8))
  | getPendingOutput
  | configure (configType : UInt64) (structureInput : Option (List UInt8))
  | complete (requestId status : UInt64) (structureInput : Option (List UInt8))
  | host (request : HostRequest)

namespace Device

/-- The next pending output, as it is returned. -/
def output : Option (PendingOutputHeader × List UInt8) → List UInt8
  | none => []
  | some (hdr, payload) => hdr.toBytes ++ payload

/-- `kGetPendingOutput` of a device: its next entry leaves the ring. -/
def getPendingOutput : Device → List UInt8 × Device
  | .hid ivars =>
      let (out, ivars') := ivars.dequeuePendingOutput (UInt32.ofNat maxTransferSize)
      (output out, .hid ivars')
  | .storage ivars =>
      let (out, ivars') := ivars.dequeuePendingOutput (UInt32.ofNat maxTransferSize)
      (output out, .storage ivars')
  | device => ([], device)

/-- `kCompleteRequest` of a device; only two classes have requests to complete. -/
def complete (env : Surroundings) (requestId status : UInt64)
    (structureInput : Option (List UInt8)) : Device → Reply × Device
  | .hid ivars =>
      let (completed, memory, ivars') := ivars.completeRequest env.memory env.mapping
        requestId.toUInt32 (.ofScalar status) structureInput
      ({ Reply.code memory .success with completeReport := completed }, .hid ivars')
  | .storage ivars =>
      let (completed, memory, ivars') := ivars.completeRequest env.memory requestId.toUInt32
        (.ofScalar status) structureInput
      ({ Reply.code memory .success with completeIO := completed }, .storage ivars')
  | device => (.code env.memory .success, device)

/-- `kConfigureDevice` of a device: what its class accepts. -/
def configure (device : Device) (configType : UInt64) : Option (List UInt8) → IOReturn
  | none => .badArgument
  | some [] => .badArgument
  | some configData =>
      if device.cls.configures configType configData then .success else .badArgument

/-- `kSubmitInput` of a device: a HID device passes the report on, the others drop it. -/
def submitInput (env : Surroundings) (dataLength : UInt64) (device : Device) :
    Option (List UInt8) → Reply
  | none => .code env.memory .badArgument
  | some [] => .code env.memory .badArgument
  | some inputBytes =>
      if (UInt32.ofNat inputBytes.length).toUInt64 < dataLength then
        .code env.memory .badArgument
      else if device.cls = .hid then
        { Reply.code env.memory .success with
          report := Extension.submitInputReport env (inputBytes.take dataLength.toNat) }
      else .code env.memory .success

/-- A request of the host, to a device of the class that has such requests. -/
def host (env : Surroundings) : Device → HostRequest → Option (Reply × Device)
  | .hid ivars, .hid r =>
      let (ret, ivars') := ivars.handle r
      some (.code env.memory ret, .hid ivars')
  | .storage ivars, .readWrite stack r =>
      let (completed, ivars') := ivars.doAsyncReadWrite env.memory stack r
      some ({ Reply.code env.memory .success with completeIO := completed }, .storage ivars')
  | _, _ => none

end Device

namespace Slot

/-- What `kCreateDevice` does to an empty slot. -/
def create (env : Surroundings) (deviceType : UInt64) : Reply × Option Device :=
  match DeviceType.ofRaw deviceType, env.create with
  | none, _ => (.code env.memory .badArgument, none)
  | some cls, (.success, true) => (.code env.memory .success, some (.new cls))
  | some _, (.success, false) => (.code env.memory .noResources, none)
  | some _, (ret, _) => (.code env.memory ret, none)

/-- A slot: empty, or with a device. This is what the extension is for, with no table behind
it. -/
def step : Option Device → SlotCall × Surroundings → Option (Reply × Option Device)
  | none, (.create deviceType, env) => some (create env deviceType)
  | none, (.host _, _) => none
  | none, (_, env) => some (.code env.memory .notFound, none)
  | some device, (.create _, env) => some (.code env.memory .exclusiveAccess, some device)
  | some _, (.destroy, env) => some (.code env.memory .success, none)
  | some device, (.submitInput dataLength structureInput, env) =>
      some (device.submitInput env dataLength structureInput, some device)
  | some device, (.getPendingOutput, env) =>
      let (out, device') := device.getPendingOutput
      some ({ Reply.code env.memory .success with structureOutput := some out }, some device')
  | some device, (.configure configType structureInput, env) =>
      some (.code env.memory (device.configure configType structureInput), some device)
  | some device, (.complete requestId status structureInput, env) =>
      let (reply, device') := device.complete env requestId status structureInput
      some (reply, some device')
  | some device, (.host request, env) =>
      (device.host env request).map fun (reply, device') => (reply, some device')

end Slot

/-! ### The slots of the extension -/

/-- The variables of a service, by its class. -/
def VirtualDevices.read (devices : VirtualDevices) (service : Service) : Device :=
  match service.cls with
  | .hid => .hid (devices.hid service.id)
  | .storage => .storage (devices.storage service.id)
  | .serial => .serial
  | .network => .network
  | .audio => .audio

/-- Nothing is queued where nothing queues: the rings of the three unwired classes are as they
were made. -/
def VirtualDevices.Idle (devices : VirtualDevices) : Prop :=
  ∀ id, devices.serial id = .zero ∧ devices.network id = .zero ∧ devices.audio id = .zero

namespace Extension

/-- The device in a slot, if it is active: its variables are behind the pointer. -/
def view (s : Extension) (i : Fin maxDevices) : Option Device :=
  let slot := s.ivars.devices i
  if slot.active then slot.device.map s.devices.read else none

/-- The device id in a call, and what is to be done to that device. -/
def method (selector : UInt64) : Option Arguments → Option (UInt64 × SlotCall)
  | none => none
  | some arguments =>
      match Selector.ofRaw selector, arguments.scalarInput with
      | some .createDevice, deviceType :: deviceId :: _ => some (deviceId, .create deviceType)
      | some .destroyDevice, deviceId :: _ => some (deviceId, .destroy)
      | some .submitInput, deviceId :: _ :: dataLength :: _ =>
          some (deviceId, .submitInput dataLength arguments.structureInput)
      | some .getPendingOutput, deviceId :: _ => some (deviceId, .getPendingOutput)
      | some .configureDevice, deviceId :: configType :: _ =>
          some (deviceId, .configure configType arguments.structureInput)
      | some .completeRequest, deviceId :: requestId :: status :: _ =>
          some (deviceId, .complete requestId status arguments.structureInput)
      | _, _ => none

/-- The slot an action is for, and what it does there. -/
def addressed : Action → Option (Fin maxDevices × (SlotCall × Surroundings))
  | .host i request env => some (i, .host request, env)
  | .call selector arguments env =>
      (method selector arguments).bind fun (deviceId, call) =>
        (slotIndex deviceId).map fun i => (i, call, env)

/-- The table and what it points to are in order: flags, types and pointers agree, and no
service is in two slots. -/
structure Inv (s : Extension) : Prop where
  typed : ∀ i, (s.ivars.devices i).active = true → ∃ service,
    (s.ivars.devices i).device = some service ∧
      (s.ivars.devices i).deviceType = service.cls.code ∧ service.id < s.created
  distinct : ∀ i j service service', (s.ivars.devices i).active = true →
    (s.ivars.devices j).active = true → (s.ivars.devices i).device = some service →
    (s.ivars.devices j).device = some service' → service.id = service'.id → i = j
  idle : s.devices.Idle
  counted : s.ivars.deviceCount.toNat =
    (Finset.univ.filter fun i => (s.ivars.devices i).active = true).card

end Extension

/-- The code of a type is read back as the type. -/
@[simp] theorem DeviceType.ofRaw_code (cls : DeviceType) :
    DeviceType.ofRaw cls.code.toUInt64 = some cls := by
  cases cls
  all_goals rfl

@[simp] theorem DeviceType.code_inj {cls cls' : DeviceType} :
    cls.code = cls'.code ↔ cls = cls' := by
  cases cls
  all_goals
    cases cls'
    all_goals decide

/-- The class of a service is the class of its device. -/
@[simp] theorem VirtualDevices.cls_read (devices : VirtualDevices) (service : Service) :
    (devices.read service).cls = service.cls := by
  obtain ⟨id, cls⟩ := service
  cases cls
  all_goals rfl

namespace Extension

section Views

variable {s : Extension} {i : Fin maxDevices}

/-- An active slot holds the device of its service. -/
theorem view_of_active {service : Service} (hactive : (s.ivars.devices i).active = true)
    (hdevice : (s.ivars.devices i).device = some service) :
    s.view i = some (s.devices.read service) := by
  simp [view, hactive, hdevice]

/-- A slot that is not active holds none, whatever it points to. -/
theorem view_of_inactive (hactive : (s.ivars.devices i).active = false) : s.view i = none := by
  simp [view, hactive]

theorem Inv.isSome_view (h : s.Inv) (i : Fin maxDevices) :
    (s.view i).isSome = (s.ivars.devices i).active := by
  cases hactive : (s.ivars.devices i).active with
  | false => rw [view_of_inactive hactive, Option.isSome_none]
  | true =>
      obtain ⟨service, hdevice, _⟩ := h.typed i hactive
      rw [view_of_active hactive hdevice, Option.isSome_some]

end Views

/-- What an action for slot `i` does: the slot answers and moves, and no other slot does. -/
structure Moved (s : Extension) (i : Fin maxDevices) (call : SlotCall × Surroundings) (r : Reply)
    (s' : Extension) : Prop where
  inv : s'.Inv
  answered : Slot.step (s.view i) call = some (r, s'.view i)
  others : ∀ j, j ≠ i → s'.view j = s.view j

section Methods

variable {s : Extension} {i : Fin maxDevices} {env : Surroundings} {deviceId : UInt64}

/-- A call that changes nothing moves its slot nowhere. -/
theorem Moved.stays {call : SlotCall × Surroundings} {r : Reply} (h : s.Inv)
    (hstep : Slot.step (s.view i) call = some (r, s.view i)) : Moved s i call r s :=
  ⟨h, hstep, fun _ _ => rfl⟩

/-- Writing the variables of the service in slot `i` changes the device of that slot and no
other. -/
theorem Inv.stored {service : Service} (h : s.Inv)
    (hactive : (s.ivars.devices i).active = true)
    (hdevice : (s.ivars.devices i).device = some service) (devices : VirtualDevices)
    (hidle : devices.Idle)
    (hagree : ∀ service', service'.id ≠ service.id →
      devices.read service' = s.devices.read service') :
    Inv { s with devices } ∧ view { s with devices } i = some (devices.read service) ∧
      ∀ j, j ≠ i → view { s with devices } j = s.view j := by
  refine ⟨⟨h.typed, h.distinct, hidle, h.counted⟩, ?_, ?_⟩
  · exact view_of_active hactive hdevice
  · intro j hj
    cases hother : (s.ivars.devices j).active with
    | false =>
        rw [view_of_inactive hother]
        exact view_of_inactive hother
    | true =>
        obtain ⟨service', hdevice', -, -⟩ := h.typed j hother
        have hne : service'.id ≠ service.id := by
          intro hid
          exact hj (h.distinct j i service' service hother hactive hdevice' hdevice hid)
        rw [view_of_active hother hdevice', ← hagree service' hne]
        exact view_of_active hother hdevice'

/-- Writing the variables of one service leaves those of the others. -/
theorem read_update_hid (devices : VirtualDevices) (ivars : HidIVars) {id : Nat}
    (service : Service) (hne : service.id ≠ id) :
    VirtualDevices.read { devices with hid := Function.update devices.hid id ivars } service =
      devices.read service := by
  unfold VirtualDevices.read
  cases service.cls with
  | hid => simp only [Function.update_of_ne hne]
  | _ => rfl

theorem read_update_storage (devices : VirtualDevices) (ivars : StorageIVars) {id : Nat}
    (service : Service) (hne : service.id ≠ id) :
    VirtualDevices.read { devices with storage := Function.update devices.storage id ivars }
      service = devices.read service := by
  unfold VirtualDevices.read
  cases service.cls with
  | storage => simp only [Function.update_of_ne hne]
  | _ => rfl

/-- A device of slot `i` that is written back moves the slot. -/
theorem Inv.moved_hid {id : Nat} (h : s.Inv) (hactive : (s.ivars.devices i).active = true)
    (hdevice : (s.ivars.devices i).device = some { id, cls := .hid }) {ivars : HidIVars}
    {call : SlotCall × Surroundings} {r : Reply}
    (hstep : Slot.step (some (.hid (s.devices.hid id))) call = some (r, some (.hid ivars))) :
    Moved s i call r
      { s with devices := { s.devices with hid := Function.update s.devices.hid id ivars } } := by
  obtain ⟨hinv, hview, hothers⟩ := h.stored hactive hdevice
    { s.devices with hid := Function.update s.devices.hid id ivars } h.idle
    (read_update_hid s.devices ivars)
  refine ⟨hinv, ?_, hothers⟩
  rw [hview, view_of_active hactive hdevice]
  simpa [VirtualDevices.read] using hstep

theorem Inv.moved_storage {id : Nat} (h : s.Inv)
    (hactive : (s.ivars.devices i).active = true)
    (hdevice : (s.ivars.devices i).device = some { id, cls := .storage }) {ivars : StorageIVars}
    {call : SlotCall × Surroundings} {r : Reply}
    (hstep : Slot.step (some (.storage (s.devices.storage id))) call =
      some (r, some (.storage ivars))) :
    Moved s i call r
      { s with
        devices := { s.devices with storage := Function.update s.devices.storage id ivars } } := by
  obtain ⟨hinv, hview, hothers⟩ := h.stored hactive hdevice
    { s.devices with storage := Function.update s.devices.storage id ivars } h.idle
    (read_update_storage s.devices ivars)
  refine ⟨hinv, ?_, hothers⟩
  rw [hview, view_of_active hactive hdevice]
  simpa [VirtualDevices.read] using hstep

/-- There is nothing to take out of an empty ring. -/
theorem dequeueUnnumbered_zero (stack : PendingOutputHeader) (maxLen : UInt32) :
    OutputRing.zero.dequeueUnnumbered stack maxLen = (none, OutputRing.zero) := by
  unfold OutputRing.dequeueUnnumbered OutputRing.dequeue
  exact if_pos rfl

theorem update_zero {rings : Nat → OutputRing} {id : Nat} (h : rings id = .zero) :
    Function.update rings id .zero = rings := by
  rw [← h, Function.update_eq_self]

theorem Inv.getPendingOutput (h : s.Inv) (hslot : slotIndex deviceId = some i) :
    Moved s i (.getPendingOutput, env) (s.getPendingOutput env deviceId).1
      (s.getPendingOutput env deviceId).2 := by
  cases hactive : (s.ivars.devices i).active with
  | false =>
      have hcall : s.getPendingOutput env deviceId = (.code env.memory .notFound, s) := by
        simp [Extension.getPendingOutput, handleGetPendingOutput, hslot, hactive]
      rw [hcall]
      apply Moved.stays h
      rw [view_of_inactive hactive]
      rfl
  | true =>
      obtain ⟨⟨id, cls⟩, hdevice, htype, -⟩ := h.typed i hactive
      have hview := view_of_active hactive hdevice
      obtain ⟨hserial, hnetwork, haudio⟩ := h.idle id
      cases cls with
      | hid =>
          cases hout : (s.devices.hid id).dequeuePendingOutput (UInt32.ofNat maxTransferSize) with
          | mk out ivars =>
              have hcall : s.getPendingOutput env deviceId =
                  ({ Reply.code env.memory .success with
                      structureOutput := some (Device.output out) },
                    { s with devices :=
                      { s.devices with hid := Function.update s.devices.hid id ivars } }) := by
                simp only [Extension.getPendingOutput, handleGetPendingOutput, hslot, hactive,
                  VirtualDevices.dequeue, htype, hdevice, DeviceType.ofRaw_code, hout]
                cases out
                all_goals rfl
              rw [hcall]
              apply h.moved_hid hactive hdevice
              simp [Slot.step, Device.getPendingOutput, hout]
      | storage =>
          cases hout :
              (s.devices.storage id).dequeuePendingOutput (UInt32.ofNat maxTransferSize) with
          | mk out ivars =>
              have hcall : s.getPendingOutput env deviceId =
                  ({ Reply.code env.memory .success with
                      structureOutput := some (Device.output out) },
                    { s with devices :=
                      { s.devices with
                        storage := Function.update s.devices.storage id ivars } }) := by
                simp only [Extension.getPendingOutput, handleGetPendingOutput, hslot, hactive,
                  VirtualDevices.dequeue, htype, hdevice, DeviceType.ofRaw_code, hout]
                cases out
                all_goals rfl
              rw [hcall]
              apply h.moved_storage hactive hdevice
              simp [Slot.step, Device.getPendingOutput, hout]
      | _ =>
          have hcall : s.getPendingOutput env deviceId =
              ({ Reply.code env.memory .success with structureOutput := some [] }, s) := by
            simp [Extension.getPendingOutput, handleGetPendingOutput, hslot, hactive,
              VirtualDevices.dequeue, htype, hdevice, hserial, hnetwork, haudio,
              dequeueUnnumbered_zero, update_zero]
          rw [hcall]
          apply Moved.stays h
          rw [hview]
          rfl

theorem Inv.completeRequest (h : s.Inv) (hslot : slotIndex deviceId = some i)
    (requestId status : UInt64) (structureInput : Option (List UInt8)) :
    Moved s i (.complete requestId status structureInput, env)
      (s.completeRequest env deviceId requestId status structureInput).1
      (s.completeRequest env deviceId requestId status structureInput).2 := by
  cases hactive : (s.ivars.devices i).active with
  | false =>
      have hcall : s.completeRequest env deviceId requestId status structureInput =
          (.code env.memory .notFound, s) := by
        simp [Extension.completeRequest, hslot, hactive]
      rw [hcall]
      apply Moved.stays h
      rw [view_of_inactive hactive]
      rfl
  | true =>
      obtain ⟨⟨id, cls⟩, hdevice, htype, -⟩ := h.typed i hactive
      have hview := view_of_active hactive hdevice
      cases cls with
      | hid =>
          cases hout : (s.devices.hid id).completeRequest env.memory env.mapping
              requestId.toUInt32 (.ofScalar status) structureInput with
          | mk completed rest =>
              obtain ⟨memory, ivars⟩ := rest
              have hcall : s.completeRequest env deviceId requestId status structureInput =
                  ({ Reply.code memory .success with completeReport := completed },
                    { s with devices :=
                      { s.devices with hid := Function.update s.devices.hid id ivars } }) := by
                simp [Extension.completeRequest, hslot, hactive, htype, hdevice, hout]
              rw [hcall]
              apply h.moved_hid hactive hdevice
              simp [Slot.step, Device.complete, hout]
      | storage =>
          cases hout : (s.devices.storage id).completeRequest env.memory requestId.toUInt32
              (.ofScalar status) structureInput with
          | mk completed rest =>
              obtain ⟨memory, ivars⟩ := rest
              have hcall : s.completeRequest env deviceId requestId status structureInput =
                  ({ Reply.code memory .success with completeIO := completed },
                    { s with devices :=
                      { s.devices with
                        storage := Function.update s.devices.storage id ivars } }) := by
                simp [Extension.completeRequest, hslot, hactive, htype, hdevice, hout]
              rw [hcall]
              apply h.moved_storage hactive hdevice
              simp [Slot.step, Device.complete, hout]
      | _ =>
          have hcall : s.completeRequest env deviceId requestId status structureInput =
              (.code env.memory .success, s) := by
            simp [Extension.completeRequest, hslot, hactive, htype, hdevice]
          rw [hcall]
          apply Moved.stays h
          rw [hview]
          rfl

/-- Submitting input is local to its slot, and changes nothing. -/
theorem Inv.handleSubmitInput (h : s.Inv) (hslot : slotIndex deviceId = some i)
    (dataLength : UInt64) (structureInput : Option (List UInt8)) :
    Moved s i (.submitInput dataLength structureInput, env)
      (s.handleSubmitInput env deviceId dataLength structureInput) s := by
  apply Moved.stays h
  cases hactive : (s.ivars.devices i).active with
  | false =>
      rw [view_of_inactive hactive]
      simp [Slot.step, Extension.handleSubmitInput, hslot, hactive]
  | true =>
      obtain ⟨⟨id, cls⟩, hdevice, htype, -⟩ := h.typed i hactive
      rw [view_of_active hactive hdevice]
      simp only [Slot.step, Extension.handleSubmitInput, Device.submitInput, hslot, hactive,
        htype, hdevice, DeviceType.ofRaw_code, VirtualDevices.cls_read]
      rcases structureInput with _ | (_ | ⟨b, bytes⟩)
      · rfl
      · rfl
      · simp only [not_true_eq_false, if_false]
        cases cls
        all_goals simp

/-- A request of the host is local to its slot. -/
theorem Inv.hostRequest (h : s.Inv) {request : HostRequest} {r : Reply} {s' : Extension}
    (hstep : s.hostRequest env i request = some (r, s')) :
    Moved s i (.host request, env) r s' := by
  cases hactive : (s.ivars.devices i).active with
  | false => simp [Extension.hostRequest, hactive] at hstep
  | true =>
      obtain ⟨⟨id, cls⟩, hdevice, -, -⟩ := h.typed i hactive
      simp only [Extension.hostRequest, hactive, hdevice, not_true_eq_false, if_false] at hstep
      cases request with
      | hid req =>
          cases cls with
          | hid =>
              cases hstep
              apply h.moved_hid hactive hdevice
              rfl
          | _ => cases hstep
      | readWrite stack req =>
          cases cls with
          | storage =>
              cases hstep
              apply h.moved_storage hactive hdevice
              rfl
          | _ => cases hstep

/-! ### Configuring -/

/-- The slot with the identity that a descriptor gives it. -/
def identified (slot : DeviceSlot) (configData : List UInt8) : DeviceSlot :=
  { slot with
    vendorId := u16At configData 0
    productId := u16At configData 2
    productName := strncpy slot.productName ((configData.drop 70).take 64) }

/-- The settings of one class are accepted for a device of that class, and refused for the
others. -/
theorem logged_eq (driver : DriverIVars) (cls cls' : DeviceType) (size length : Nat) :
    (if cls.code ≠ cls'.code then (IOReturn.badArgument, driver)
      else if length < size then (.badArgument, driver) else (.success, driver)) =
      if decide (cls = cls' ∧ size ≤ length) = true then (.success, driver)
      else (.badArgument, driver) := by
  by_cases hcls : cls = cls'
  · by_cases hshort : length < size
    · simp only [hcls, ne_eq, not_true_eq_false, if_false, if_pos hshort, true_and,
        decide_eq_true_eq, if_neg (Nat.not_le.mpr hshort)]
    · simp only [hcls, ne_eq, not_true_eq_false, if_false, if_neg hshort, true_and,
        decide_eq_true_eq, if_pos (Nat.not_lt.mp hshort)]
  · simp [hcls]

/-- Configuring a device accepts what its class says, and writes at most the identity. -/
theorem handleConfigureDevice_eq {driver : DriverIVars} {service : Service}
    (hslot : slotIndex deviceId = some i) (hactive : (driver.devices i).active = true)
    (hdevice : (driver.devices i).device = some service)
    (htype : (driver.devices i).deviceType = service.cls.code) (configType : UInt64) (b : UInt8)
    (bytes : List UInt8) :
    handleConfigureDevice driver deviceId configType (some (b :: bytes)) =
      if service.cls.configures configType (b :: bytes) then
        (.success,
          if ConfigType.ofRaw configType = some .deviceDescriptor then
            driver.setSlot i (identified (driver.devices i) (b :: bytes))
          else driver)
      else (.badArgument, driver) := by
  obtain ⟨id, cls⟩ := service
  obtain ⟨tag, htag⟩ : ∃ tag, ConfigType.ofRaw configType = tag := ⟨_, rfl⟩
  simp only [handleConfigureDevice, DeviceType.configures, hslot, hactive, hdevice, htype, htag,
    not_true_eq_false, if_false]
  cases tag with
  | none => simp
  | some tag =>
      cases tag with
      | deviceDescriptor =>
          by_cases hshort : (b :: bytes).length < deviceDescriptorConfigSize
          · simp only [if_pos hshort, decide_eq_true_eq, if_neg (Nat.not_le.mpr hshort)]
          · simp only [if_neg hshort, decide_eq_true_eq, if_pos (Nat.not_lt.mp hshort), if_true,
              identified, hdevice, htype, hactive]
      | hidReportDescriptor =>
          by_cases hcls : cls = .hid
          · subst hcls
            by_cases hlong : (b :: bytes).length > maxReportDescriptorSize
            · simp only [ne_eq, not_true_eq_false, if_false, if_pos hlong, true_and,
                decide_eq_true_eq, if_neg (Nat.not_le.mpr hlong)]
            · simp only [ne_eq, not_true_eq_false, if_false, if_neg hlong, true_and,
                decide_eq_true_eq, if_pos (Nat.not_lt.mp hlong), reduceCtorEq,
                Option.some.injEq]
          · simp [hcls]
      | storageGeometry => exact logged_eq driver cls .storage _ _
      | serialLineState => exact logged_eq driver cls .serial _ _
      | networkMac => exact logged_eq driver cls .network _ _
      | audioFormat => exact logged_eq driver cls .audio _ _

/-- Writing a slot without touching its flag, its type or its pointer changes no view. -/
theorem Inv.relabelled (h : s.Inv) (slot : DeviceSlot)
    (hactive : slot.active = (s.ivars.devices i).active)
    (hdevice : slot.device = (s.ivars.devices i).device)
    (htype : slot.deviceType = (s.ivars.devices i).deviceType) :
    Inv { s with ivars := s.ivars.setSlot i slot } ∧
      ∀ j, view { s with ivars := s.ivars.setSlot i slot } j = s.view j := by
  have hsame : ∀ j, ((s.ivars.setSlot i slot).devices j).active = (s.ivars.devices j).active ∧
      ((s.ivars.setSlot i slot).devices j).device = (s.ivars.devices j).device ∧
      ((s.ivars.setSlot i slot).devices j).deviceType = (s.ivars.devices j).deviceType := by
    intro j
    by_cases hj : j = i
    · subst hj
      simp [DriverIVars.setSlot, hactive, hdevice, htype]
    · simp [DriverIVars.setSlot, hj]
  refine ⟨⟨?_, ?_, h.idle, ?_⟩, ?_⟩
  · intro j hj
    obtain ⟨ha, hd, ht⟩ := hsame j
    rw [hd, ht]
    exact h.typed j (ha ▸ hj)
  · intro j k service service' hj hk
    rw [(hsame j).1] at hj
    rw [(hsame k).1] at hk
    rw [(hsame j).2.1, (hsame k).2.1]
    exact h.distinct j k service service' hj hk
  · simp only [hsame]
    exact h.counted
  · intro j
    obtain ⟨ha, hd, -⟩ := hsame j
    simp only [view, ha, hd]

theorem Inv.configureDevice (h : s.Inv) (hslot : slotIndex deviceId = some i)
    (configType : UInt64) (structureInput : Option (List UInt8)) :
    Moved s i (.configure configType structureInput, env)
      (s.configureDevice env deviceId configType structureInput).1
      (s.configureDevice env deviceId configType structureInput).2 := by
  -- every outcome but one leaves the table as it is
  have hstays : ∀ ret,
      handleConfigureDevice s.ivars deviceId configType structureInput = (ret, s.ivars) →
      Slot.step (s.view i) (.configure configType structureInput, env) =
        some (.code env.memory ret, s.view i) →
      Moved s i (.configure configType structureInput, env)
        (s.configureDevice env deviceId configType structureInput).1
        (s.configureDevice env deviceId configType structureInput).2 := by
    intro ret hret hstep
    rw [Extension.configureDevice, hret]
    exact Moved.stays h hstep
  cases hactive : (s.ivars.devices i).active with
  | false =>
      apply hstays .notFound
      · simp [handleConfigureDevice, hslot, hactive]
      · rw [view_of_inactive hactive]
        rfl
  | true =>
      obtain ⟨service, hdevice, htype, -⟩ := h.typed i hactive
      have hview := view_of_active hactive hdevice
      rcases structureInput with _ | (_ | ⟨b, bytes⟩)
      · apply hstays .badArgument
        · simp [handleConfigureDevice, hslot, hactive]
        · rw [hview]
          rfl
      · apply hstays .badArgument
        · simp [handleConfigureDevice, hslot, hactive]
        · rw [hview]
          rfl
      · have heq := handleConfigureDevice_eq hslot hactive hdevice htype configType b bytes
        cases haccepted : service.cls.configures configType (b :: bytes) with
        | false =>
            apply hstays .badArgument
            · rw [heq, haccepted, if_neg Bool.false_ne_true]
            · rw [hview]
              simp [Slot.step, Device.configure, haccepted]
        | true =>
            rw [haccepted, if_pos rfl] at heq
            by_cases hdescriptor : ConfigType.ofRaw configType = some .deviceDescriptor
            · rw [if_pos hdescriptor] at heq
              obtain ⟨hinv, hviews⟩ :=
                h.relabelled (identified (s.ivars.devices i) (b :: bytes)) rfl rfl rfl
              rw [Extension.configureDevice, heq]
              refine ⟨hinv, ?_, fun j _ => hviews j⟩
              rw [hviews i, hview]
              simp [Slot.step, Device.configure, haccepted]
            · apply hstays .success
              · rw [heq, if_neg hdescriptor]
              · rw [hview]
                simp [Slot.step, Device.configure, haccepted]

/-! ### Creating and destroying -/

/-- Writing a slot, with the counter and whatever new services there are, changes no view but
its own. -/
theorem view_setSlot_ne (count : UInt32) (devices : VirtualDevices) (created : Nat)
    (slot : DeviceSlot) {j : Fin maxDevices} (hj : j ≠ i)
    (hread : ∀ service, (s.ivars.devices j).active = true →
      (s.ivars.devices j).device = some service →
      devices.read service = s.devices.read service) :
    view { ivars := { s.ivars.setSlot i slot with deviceCount := count }, devices, created } j =
      s.view j := by
  simp only [view, DriverIVars.setSlot, Function.update_of_ne hj]
  cases hactive : (s.ivars.devices j).active with
  | false => rfl
  | true =>
      cases hdevice : (s.ivars.devices j).device with
      | none => rfl
      | some service => simp [hread service hactive hdevice]

theorem card_active_le (driver : DriverIVars) :
    (Finset.univ.filter fun i => (driver.devices i).active = true).card ≤ maxDevices :=
  (Finset.card_le_univ _).trans_eq (Fintype.card_fin maxDevices)

theorem filter_active_setSlot (driver : DriverIVars) (i : Fin maxDevices) (slot : DeviceSlot) :
    (Finset.univ.filter fun j => ((driver.setSlot i slot).devices j).active = true) =
      if slot.active = true then
        insert i (Finset.univ.filter fun j => (driver.devices j).active = true)
      else (Finset.univ.filter fun j => (driver.devices j).active = true).erase i := by
  ext j
  have hflag : ((driver.setSlot i slot).devices j).active =
      if j = i then slot.active else (driver.devices j).active := by
    unfold DriverIVars.setSlot
    by_cases hj : j = i
    · rw [if_pos hj, hj]
      simp
    · rw [if_neg hj]
      simp [hj]
  simp only [Finset.mem_filter, Finset.mem_univ, true_and, hflag]
  cases slot.active with
  | false => by_cases hj : j = i <;> simp [hj]
  | true => by_cases hj : j = i <;> simp [hj]

/-- Destroying a device empties its slot, and is counted. -/
theorem Inv.destroyDevice (h : s.Inv) (hslot : slotIndex deviceId = some i) :
    Moved s i (.destroy, env) (s.destroyDevice env deviceId).1
      (s.destroyDevice env deviceId).2 := by
  cases hactive : (s.ivars.devices i).active with
  | false =>
      have hcall : s.destroyDevice env deviceId = (.code env.memory .notFound, s) := by
        simp [Extension.destroyDevice, handleDestroyDevice, hslot, hactive]
      rw [hcall]
      apply Moved.stays h
      rw [view_of_inactive hactive]
      rfl
  | true =>
      obtain ⟨service, hdevice, -, -⟩ := h.typed i hactive
      have hcall : s.destroyDevice env deviceId = (.code env.memory .success,
          { s with ivars := { s.ivars.setSlot i
              { s.ivars.devices i with active := false, deviceType := 0, device := none } with
            deviceCount := s.ivars.deviceCount - 1 } }) := by
        simp [Extension.destroyDevice, handleDestroyDevice, hslot, hactive]
      rw [hcall]
      refine ⟨⟨?_, ?_, h.idle, ?_⟩, ?_, ?_⟩
      · intro j hj
        by_cases hji : j = i
        · simp [DriverIVars.setSlot, hji] at hj
        · simp only [DriverIVars.setSlot, Function.update_of_ne hji] at hj ⊢
          exact h.typed j hj
      · intro j k service service' hj hk
        by_cases hji : j = i
        · simp [DriverIVars.setSlot, hji] at hj
        by_cases hki : k = i
        · simp [DriverIVars.setSlot, hki] at hk
        simp only [DriverIVars.setSlot, Function.update_of_ne hji, Function.update_of_ne hki]
          at hj hk ⊢
        exact h.distinct j k service service' hj hk
      · have hmem : i ∈ Finset.univ.filter fun j => (s.ivars.devices j).active = true := by
          simp [hactive]
        have hpos := Finset.card_pos.mpr ⟨i, hmem⟩
        have hone : 1 ≤ s.ivars.deviceCount := by
          rw [UInt32.le_iff_toNat_le, h.counted]
          exact hpos
        show (s.ivars.deviceCount - 1).toNat = _
        rw [filter_active_setSlot, if_neg Bool.false_ne_true, Finset.card_erase_of_mem hmem,
          UInt32.toNat_sub_of_le _ _ hone, h.counted]
        rfl
      · have hempty : view { s with ivars := { s.ivars.setSlot i
              { s.ivars.devices i with active := false, deviceType := 0, device := none } with
            deviceCount := s.ivars.deviceCount - 1 } } i = none :=
          view_of_inactive (by simp [DriverIVars.setSlot])
        rw [hempty, view_of_active hactive hdevice]
        rfl
      · intro j hj
        exact view_setSlot_ne _ _ _ _ hj fun _ _ _ => rfl

/-- The key of a device type names a service of its class. -/
theorem exists_key {deviceType : UInt64} {cls : DeviceType}
    (h : DeviceType.ofRaw deviceType = some cls) :
    ∃ key, propertiesKeyForDeviceType deviceType = some key ∧ serviceClass key = some cls := by
  unfold propertiesKeyForDeviceType
  rw [h]
  cases cls
  all_goals exact ⟨_, rfl, by decide⟩

/-- A scalar that is read as a type has the code of that type in its low half. -/
theorem code_of_ofRaw {deviceType : UInt64} {cls : DeviceType}
    (h : DeviceType.ofRaw deviceType = some cls) : deviceType.toUInt32 = cls.code := by
  unfold DeviceType.ofRaw at h
  split at h
  case h_6 => cases h
  all_goals
    cases h
    assumption

/-- A new service is none of those there were. -/
theorem read_install_ne (devices : VirtualDevices) {id : Nat} (service : Service)
    (hne : service.id ≠ id) : (devices.install id).read service = devices.read service := by
  unfold VirtualDevices.read VirtualDevices.install
  cases service.cls with
  | hid => simp only [Function.update_of_ne hne]
  | storage => simp only [Function.update_of_ne hne]
  | _ => rfl

/-- And it is a new device of its class. -/
theorem read_install_self (devices : VirtualDevices) (id : Nat) (cls : DeviceType) :
    (devices.install id).read { id, cls } = .new cls := by
  unfold VirtualDevices.read VirtualDevices.install Device.new
  cases cls with
  | hid => simp
  | storage => simp
  | _ => rfl

theorem idle_install {devices : VirtualDevices} (h : devices.Idle) (id : Nat) :
    (devices.install id).Idle := by
  intro id'
  by_cases hid : id' = id
  · simp [VirtualDevices.install, hid]
  · simpa [VirtualDevices.install, hid] using h id'

/-- The slot of a new service. -/
def occupied (s : Extension) (i : Fin maxDevices) (deviceType : UInt64) (cls : DeviceType) :
    DeviceSlot :=
  { s.ivars.devices i with
    active := true
    deviceType := deviceType.toUInt32
    device := some { id := s.created, cls }
    vendorId := 0
    productId := 0
    productName := ⟨(s.ivars.devices i).productName.val.set 0 0, by simp⟩ }

/-- The extension with a new service in slot `i`. -/
def occupy (s : Extension) (i : Fin maxDevices) (deviceType : UInt64) (cls : DeviceType) :
    Extension :=
  { ivars :=
      { s.ivars.setSlot i (occupied s i deviceType cls) with
        deviceCount := s.ivars.deviceCount + 1 }
    devices := s.devices.install s.created
    created := s.created + 1 }

/-- A free slot with a new service in it: the table stays in order. -/
theorem Inv.occupy (h : s.Inv) (hactive : (s.ivars.devices i).active = false)
    {deviceType : UInt64} {cls : DeviceType}
    (hcls : DeviceType.ofRaw deviceType = some cls) : (s.occupy i deviceType cls).Inv := by
  have hself : (s.occupy i deviceType cls).ivars.devices i = occupied s i deviceType cls := by
    simp [Extension.occupy, DriverIVars.setSlot]
  have hother : ∀ j, j ≠ i →
      (s.occupy i deviceType cls).ivars.devices j = s.ivars.devices j := by
    intro j hj
    simp [Extension.occupy, DriverIVars.setSlot, hj]
  refine ⟨?_, ?_, idle_install h.idle s.created, ?_⟩
  · intro j hj
    by_cases hji : j = i
    · subst hji
      rw [hself]
      exact ⟨_, rfl, code_of_ofRaw hcls, Nat.lt_succ_self _⟩
    · rw [hother j hji] at hj ⊢
      obtain ⟨service, hdevice, htype, hid⟩ := h.typed j hj
      exact ⟨service, hdevice, htype, Nat.lt_succ_of_lt hid⟩
  · -- the new service has a number no other has
    have hnew : ∀ j service, j ≠ i → (s.ivars.devices j).active = true →
        (s.ivars.devices j).device = some service → service.id ≠ s.created := by
      intro j service _ hj hdevice
      obtain ⟨service', hdevice', -, hid⟩ := h.typed j hj
      rw [hdevice] at hdevice'
      cases hdevice'
      exact Nat.ne_of_lt hid
    intro j k service service' hj hk hdevice hdevice' hids
    by_cases hji : j = i
    · by_cases hki : k = i
      · rw [hji, hki]
      · rw [hji, hself] at hdevice
        cases hdevice
        rw [hother k hki] at hk hdevice'
        exact absurd hids.symm (hnew k service' hki hk hdevice')
    · rw [hother j hji] at hj hdevice
      by_cases hki : k = i
      · rw [hki, hself] at hdevice'
        cases hdevice'
        exact absurd hids (hnew j service hji hj hdevice)
      · rw [hother k hki] at hk hdevice'
        exact h.distinct j k service service' hj hk hdevice hdevice' hids
  · have hmem : i ∉ Finset.univ.filter fun j => (s.ivars.devices j).active = true := by
      simp [hactive]
    have hle := card_active_le s.ivars
    have hflag : (occupied s i deviceType cls).active = true := rfl
    show (s.ivars.deviceCount + 1).toNat = Finset.card (Finset.univ.filter fun j =>
      ((s.ivars.setSlot i (occupied s i deviceType cls)).devices j).active = true)
    rw [filter_active_setSlot, if_pos hflag, Finset.card_insert_of_notMem hmem, UInt32.toNat_add,
      h.counted, Nat.mod_eq_of_lt]
    · rfl
    · exact Nat.lt_of_le_of_lt (Nat.add_le_add_right hle 1) (by decide)

/-- Creating a device is local to its slot, and is counted. -/
theorem Inv.createDevice (h : s.Inv) (hslot : slotIndex deviceId = some i) (deviceType : UInt64) :
    Moved s i (.create deviceType, env) (s.createDevice env deviceType deviceId).1
      (s.createDevice env deviceType deviceId).2 := by
  -- every outcome but one leaves the table as it is
  have hstays : ∀ ret, ret ≠ .success →
      handleCreateDevice (s.create env) s.ivars deviceType deviceId = (ret, s.ivars) →
      Slot.step (s.view i) (.create deviceType, env) = some (.code env.memory ret, s.view i) →
      Moved s i (.create deviceType, env) (s.createDevice env deviceType deviceId).1
        (s.createDevice env deviceType deviceId).2 := by
    intro ret hne hret hstep
    have hcall : s.createDevice env deviceType deviceId = (.code env.memory ret, s) := by
      unfold Extension.createDevice
      rw [hret]
      cases ret with
      | success => exact absurd rfl hne
      | _ => rfl
    rw [hcall]
    exact Moved.stays h hstep
  cases hactive : (s.ivars.devices i).active with
  | true =>
      obtain ⟨service, hdevice, -, -⟩ := h.typed i hactive
      apply hstays .exclusiveAccess (by decide)
      · simp [handleCreateDevice, hslot, hactive]
      · rw [view_of_active hactive hdevice]
        rfl
  | false =>
      have hview := view_of_inactive hactive
      cases hcls : DeviceType.ofRaw deviceType with
      | none =>
          have hkey : propertiesKeyForDeviceType deviceType = none := by
            rw [← Option.not_isSome_iff_eq_none, isSome_propertiesKey, hcls]
            exact Bool.false_ne_true
          apply hstays .badArgument (by decide)
          · simp [handleCreateDevice, hslot, hactive, hkey]
          · rw [hview]
            simp [Slot.step, Slot.create, hcls]
      | some cls =>
          obtain ⟨key, hkey, hclass⟩ := exists_key hcls
          obtain ⟨⟨ret, made⟩, hcreate⟩ : ∃ result, env.create = result := ⟨_, rfl⟩
          by_cases hret : ret = .success
          · subst hret
            cases made with
            | false =>
                apply hstays .noResources (by decide)
                · simp [handleCreateDevice, hslot, hactive, hkey, Extension.create, hcreate]
                · rw [hview]
                  simp [Slot.step, Slot.create, hcls, hcreate]
            | true =>
                have hcall : s.createDevice env deviceType deviceId =
                    (.code env.memory .success, s.occupy i deviceType cls) := by
                  simp [Extension.createDevice, handleCreateDevice, hslot, hactive, hkey,
                    Extension.create, hcreate, hclass, Extension.occupy, occupied]
                have hnew : (s.occupy i deviceType cls).view i = some (.new cls) := by
                  rw [← read_install_self s.devices s.created cls]
                  apply view_of_active
                  · simp [Extension.occupy, DriverIVars.setSlot, occupied]
                  · simp [Extension.occupy, DriverIVars.setSlot, occupied]
                rw [hcall]
                refine ⟨h.occupy hactive hcls, ?_, ?_⟩
                · rw [hview, hnew]
                  simp [Slot.step, Slot.create, hcls, hcreate]
                · intro j hj
                  refine view_setSlot_ne _ _ _ _ hj fun service hactive' hdevice => ?_
                  obtain ⟨service', hdevice', -, hid⟩ := h.typed j hactive'
                  rw [hdevice] at hdevice'
                  cases hdevice'
                  exact read_install_ne s.devices service (Nat.ne_of_lt hid)
          · apply hstays ret hret
            · simp [handleCreateDevice, hslot, hactive, hkey, Extension.create, hcreate, hret]
            · rw [hview]
              simp [Slot.step, Slot.create, hcls, hcreate, hret]

end Methods

/-! ### Runs -/

section Runs

variable {s s' : Extension} {a : Action} {r : Reply}

/-- An action for one slot is local to it, in the sense of `Lib.Components`. -/
theorem Moved.isLocal {i : Fin maxDevices} {call : SlotCall × Surroundings}
    (haddressed : addressed a = some (i, call)) (h : Moved s i call r s') :
    s'.Inv ∧ Local Slot.step addressed view s a r s' := by
  refine ⟨h.inv, ⟨?_, ?_⟩⟩
  · intro j call' hj
    rw [haddressed] at hj
    cases hj
    exact h.answered
  · intro j hj
    apply h.others
    rintro rfl
    exact hj call haddressed

/-- An action for no slot leaves them all as they are. -/
theorem Inv.isLocal (h : s.Inv) (haddressed : addressed a = none) :
    s.Inv ∧ Local Slot.step addressed view s a r s := by
  refine ⟨h, ⟨?_, fun _ _ => rfl⟩⟩
  intro j call hj
  rw [haddressed] at hj
  cases hj

/-- What `ExternalMethod` does about a device id, once it has found the method. -/
def perform (s : Extension) (env : Surroundings) (deviceId : UInt64) :
    SlotCall → Reply × Extension
  | .create deviceType => s.createDevice env deviceType deviceId
  | .destroy => s.destroyDevice env deviceId
  | .submitInput dataLength structureInput =>
      (s.handleSubmitInput env deviceId dataLength structureInput, s)
  | .getPendingOutput => s.getPendingOutput env deviceId
  | .configure configType structureInput =>
      s.configureDevice env deviceId configType structureInput
  | .complete requestId status structureInput =>
      s.completeRequest env deviceId requestId status structureInput
  | .host _ => (.code env.memory .badArgument, s)

/-- A call that has a method for a device does that method. -/
theorem externalMethod_of_method {selector deviceId : UInt64} {arguments : Option Arguments}
    {call : SlotCall} (h : method selector arguments = some (deviceId, call))
    (env : Surroundings) :
    s.externalMethod env selector arguments = s.perform env deviceId call := by
  cases arguments with
  | none => cases h
  | some arguments =>
      simp only [method] at h
      split at h
      case h_7 => cases h
      all_goals
        cases h
        simp only [externalMethod, perform, *]

theorem externalMethod_of_none {selector : UInt64} {arguments : Option Arguments}
    (h : method selector arguments = none) (env : Surroundings) :
    (s.externalMethod env selector arguments).2 = s := by
  unfold externalMethod
  split
  case h_1 => rfl
  case h_3 => rfl
  case h_2 =>
    simp only [method] at h
    split
    all_goals first | rfl | simp_all

theorem perform_of_none {deviceId : UInt64} (h : slotIndex deviceId = none) (env : Surroundings)
    (call : SlotCall) : (s.perform env deviceId call).2 = s := by
  cases call with
  | create deviceType => simp [perform, createDevice, handleCreateDevice, h]
  | destroy => simp [perform, destroyDevice, handleDestroyDevice, h]
  | submitInput dataLength structureInput => rfl
  | getPendingOutput => simp [perform, getPendingOutput, handleGetPendingOutput, h]
  | configure configType structureInput =>
      simp [perform, configureDevice, handleConfigureDevice, h]
  | complete requestId status structureInput => simp [perform, completeRequest, h]
  | host request => rfl

/-- Each method is local to the slot of its device id. -/
theorem Inv.perform {deviceId : UInt64} {i : Fin maxDevices} (h : s.Inv)
    (hslot : slotIndex deviceId = some i) (env : Surroundings) {call : SlotCall}
    (hcall : ∀ request, call ≠ .host request) :
    Moved s i (call, env) (s.perform env deviceId call).1 (s.perform env deviceId call).2 := by
  cases call with
  | create deviceType => exact h.createDevice hslot deviceType
  | destroy => exact h.destroyDevice hslot
  | submitInput dataLength structureInput =>
      exact h.handleSubmitInput hslot dataLength structureInput
  | getPendingOutput => exact h.getPendingOutput hslot
  | configure configType structureInput => exact h.configureDevice hslot configType structureInput
  | complete requestId status structureInput =>
      exact h.completeRequest hslot requestId status structureInput
  | host request => exact absurd rfl (hcall request)

/-- No selector makes a request in the host's place. -/
theorem method_ne_host {selector deviceId : UInt64} {arguments : Option Arguments}
    {call : SlotCall} (h : method selector arguments = some (deviceId, call))
    (request : HostRequest) : call ≠ .host request := by
  rintro rfl
  cases arguments with
  | none => cases h
  | some arguments =>
      simp only [method] at h
      split at h
      all_goals cases h

/-- **One action.** It keeps the table in order, and is local to the slot it is for. -/
theorem Inv.step (h : s.Inv) (hstep : s.step a = some (r, s')) :
    s'.Inv ∧ Local Slot.step addressed view s a r s' := by
  cases a with
  | host i request env => exact (h.hostRequest hstep).isLocal rfl
  | call selector arguments env =>
      obtain ⟨rfl, rfl⟩ : (s.externalMethod env selector arguments).1 = r ∧
          (s.externalMethod env selector arguments).2 = s' := by
        rw [Option.some.inj hstep]
        exact ⟨rfl, rfl⟩
      cases hmethod : method selector arguments with
      | none =>
          rw [externalMethod_of_none hmethod]
          exact h.isLocal (by simp [addressed, hmethod])
      | some target =>
          obtain ⟨deviceId, call⟩ := target
          rw [externalMethod_of_method hmethod]
          cases hslot : slotIndex deviceId with
          | none =>
              rw [perform_of_none hslot]
              exact h.isLocal (by simp [addressed, hmethod, hslot])
          | some i =>
              exact (h.perform hslot env (method_ne_host hmethod)).isLocal
                (by simp [addressed, hmethod, hslot])

end Runs

theorem inv_start : start.Inv := by
  refine ⟨?_, ?_, ?_, ?_⟩
  · intro i hi
    cases hi
  · intro i j service service' hi
    cases hi
  · intro id
    exact ⟨rfl, rfl, rfl⟩
  · simp [start, DriverIVars.zero]

/-- **The extension is 32 independent slots.** Whatever the daemon calls and the host asks
for, in any order over any of the slots: each slot has given the answers it gives to its
own calls when there are no others, and holds the device it then holds; and the counter is
the number of slots that hold one. -/
theorem run_eq_slots {actions : List Action} {replies : List Reply} {s : Extension}
    (hrun : Components.run step start actions = some (replies, s)) :
    (∀ i, Components.run Slot.step none (inputsFor addressed i actions) =
      some (answersFor addressed i actions replies, s.view i)) ∧
    s.ivars.deviceCount.toNat =
      (Finset.univ.filter fun i => (s.view i).isSome = true).card := by
  obtain ⟨hinv, hslots⟩ := run_component Inv (fun s a r s' h hstep => h.step hstep) inv_start hrun
  refine ⟨hslots, ?_⟩
  rw [hinv.counted]
  congr 1
  ext i
  simp only [Finset.mem_filter, hinv.isSome_view]

/-- `Create` succeeds, and memory is empty. -/
def sampleSurroundings : Surroundings :=
  { create := (.success, true)
    allocated := true
    stack :=
      { deviceId := 0, endpoint := 0, dataLength := 0, requestType := 0, requestId := 0
        reserved := 0 }
    memory := fun _ => 0
    mapping := fun _ => none }

/-- A call with scalars only. -/
def sampleCall (selector : UInt64) (scalarInput : List UInt64) : Action :=
  .call selector (some { scalarInput, structureInput := none, scalarOutputCount := 1 })
    sampleSurroundings

/-- A HID device in slot 0 and a serial one in slot 5; the host asks the first for a report,
the daemon polls both and removes the first. -/
def sampleActions : List Action :=
  [sampleCall 0 [1, 0], sampleCall 0 [3, 5],
    .host 0 (.hid (.getReport none 1 none)) sampleSurroundings,
    sampleCall 3 [5], sampleCall 3 [0], sampleCall 1 [0], sampleCall 4 []]

/-- Slot 0 answers as if slot 5 were not there, and the other way round. -/
theorem run_eq_slots_sampleActions :
    ∃ replies s, Components.run step start sampleActions = some (replies, s) ∧
      s.ivars.deviceCount = 1 ∧
      (∀ i, Components.run Slot.step none (inputsFor addressed i sampleActions) =
        some (answersFor addressed i sampleActions replies, s.view i)) ∧
      s.ivars.deviceCount.toNat =
        (Finset.univ.filter fun i => (s.view i).isSome = true).card := by
  have hany : (Components.run step start sampleActions).any
      (fun result => decide (result.2.ivars.deviceCount = 1)) = true := by
    decide +kernel
  obtain ⟨⟨replies, s⟩, hrun, hcount⟩ := (Option.any_eq_true _ _).mp hany
  obtain ⟨hslots, hcounted⟩ := run_eq_slots hrun
  exact ⟨replies, s, hrun, of_decide_eq_true hcount, hslots, hcounted⟩

end Extension

end Extender.Driver
