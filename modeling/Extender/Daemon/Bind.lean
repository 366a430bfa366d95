/-
Binding devices under the access control list (`handle_bind_device` of `api_server.rs`).

A bind request looks at the attached devices three times: the handler checks the vendor and
product ids of the device under the requested bus id, `bind_device` enumerates again for the
record it will keep, and `ManagedDevice::open` lists once more for the device at the record's
bus number and address. Devices come and go between the looks, and nothing ties the second and
third look to the device that was checked.

The system is the attached devices, the registry and any number of bind requests, each at one
of its steps; hot-plugging, unbinding and import sessions interleave freely. The USB library
may fail in any of its calls. A handle is a number, and the host keeps which device each was
opened on, so that the property can speak of the device behind a handle.

The condition is on hot-plugging: no denied device is put where a request that has passed its
check will look next, which is under its bus id until it has chosen a record, and then at the
record's bus number and address. It is about the state before the step.

* `Guarded` — the invariant: what the registry holds is allowed, and so is what every request
  has learned and what it will find at its next look.
* `bind_allowed` — as long as no denied device is plugged in where a request that has passed
  its check will look next, every entry of the registry has an allowed record and a handle
  open on an allowed device, in every run.
* `bind_swapped` — a device swapped behind the check is exported.
-/

import Extender.Api.Framing
import Extender.Daemon.DeviceAcl
import Extender.Lib.Transition
import Extender.Server.ExportLease

namespace Extender.Daemon

open Extender.Api Extender.Server Text

/-! ### Requests -/

/-- Where a bind request stands: received, its device allowed, not bound yet, its record
chosen, its device opened, answered. The parameters are missing, or the bus id in them is. -/
inductive BindRequest where
  | received (params : Option (Option String))
  | checked (busId : String)
  | unbound (busId : String)
  | enumerated (busId : String) (localDevices : List LocalUsbDevice) (localDevice : LocalUsbDevice)
  | opened (busId : String) (localDevice : LocalUsbDevice) (handle : ManagedDevice)
  | answered (result : Except JsonRpcError String)
deriving DecidableEq

/-- What the USB library answers during one step: each of its calls may fail. -/
structure UsbAnswers where
  listError : Option ServerError
  openError : Option RusbError
  claimErrors : List (UInt8 × RusbError)
deriving DecidableEq, Repr

/-- No call fails. -/
def UsbAnswers.fine : UsbAnswers := { listError := none, openError := none, claimErrors := [] }

/-- The attached devices. libusb tells them apart by bus number and address, so no two have
both in common. -/
structure Attached where
  devices : List RusbDevice
  distinct : (devices.map fun d => (d.busNumber, d.address)).Nodup
deriving DecidableEq

/-- The daemon and the devices attached to its host, with the bind requests it is handling and
the handles it has opened. -/
structure Host where
  security : SecurityConfig
  attached : Attached
  registry : ExportRegistry
  requests : List BindRequest
  /-- History: the device each handle was opened on. -/
  handles : List RusbDevice

namespace Host

/-- A daemon that has just started: nothing bound, no requests, no handles. -/
def start (security : SecurityConfig) (attached : Attached) (timeoutSecs : UInt64) : Host :=
  { security, attached, registry := .withSessionTimeout timeoutSecs, requests := [], handles := [] }

/-! ### One step of a request -/

/-- The list libusb returns, of the devices attached at that moment. -/
def listed (h : Host) (usb : UsbAnswers) : Except ServerError (List RusbDevice) :=
  match usb.listError with
  | some e => .error e
  | none => .ok h.attached.devices

/-- The record enumeration gives for a bus id: the first description that has it. -/
def recordOf (devices : List RusbDevice) (busId : String) : Option LocalUsbDevice :=
  (devices.filterMap RusbDevice.describe).find? fun d => d.busId = busId

/-- Four hexadecimal digits, as the refusal prints an id. -/
def hex4 (x : UInt16) : String := String.ofList (padded 4 (Nat.toDigits 16 x.toNat))

/-- The error of every failure inside `bind_device`; the cause is logged, and not told to the
caller. -/
def bindFailed : BindRequest := .answered (.error (.internalError "bind device failed"))

/-- The handler up to its call of `bind_device`: look the device up and check it. -/
def check (h : Host) (usb : UsbAnswers) (busId : String) : BindRequest :=
  match enumerateDevices (h.listed usb) with
  | .error _ => .answered (.error (.internalError "USB enumeration failed"))
  | .ok localDevices =>
      match localDevices.find? (fun d => d.busId = busId) with
      | none => .answered (.error (.invalidParams ("device '" ++ busId ++ "' not found")))
      | some device =>
          if ¬ isDeviceAllowed device.vendorId device.productId h.security then
            .answered (.error (.internalError ("device " ++ hex4 device.vendorId ++ ":" ++
              hex4 device.productId ++ " is not allowed by ACL policy")))
          else .checked busId

/-- The second enumeration, which `bind_device` makes for itself. -/
def enumerate (h : Host) (usb : UsbAnswers) (busId : String) : BindRequest :=
  match enumerateDevices (h.listed usb) with
  | .error _ => bindFailed
  | .ok localDevices =>
      match localDevices.find? (fun d => d.busId = busId) with
      | none => bindFailed
      | some localDevice => .enumerated busId localDevices localDevice

/-- `ManagedDevice::open`; a handle is numbered by the ones opened before it. -/
def openHandle (h : Host) (usb : UsbAnswers) (busId : String)
    (localDevices : List LocalUsbDevice) : Except ServerError (RusbDevice × ManagedDevice) :=
  ManagedDevice.openDevice localDevices busId (h.listed usb)
    (match usb.openError with
    | some e => .error e
    | none => .ok h.handles.length)
    fun ifaceNum =>
      match usb.claimErrors.lookup ifaceNum with
      | some e => .error e
      | none => .ok ()

/-- The request takes its next step, up to the next look at the attached devices. -/
def advance (h : Host) (usb : UsbAnswers) : BindRequest → Option (BindRequest × Host)
  | .received none => some (.answered (.error (.invalidParams "missing params")), h)
  | .received (some none) => some (.answered (.error (.invalidParams "missing 'bus_id'")), h)
  | .received (some (some busId)) => some (h.check usb busId, h)
  | .checked busId =>
      if (h.registry.devices.lookup busId).isSome then some (bindFailed, h)
      else some (.unbound busId, h)
  | .unbound busId => some (h.enumerate usb busId, h)
  | .enumerated busId localDevices localDevice =>
      match h.openHandle usb busId localDevices with
      | .error _ => some (bindFailed, h)
      | .ok (rusbDevice, handle) =>
          some (.opened busId localDevice handle, { h with handles := h.handles ++ [rusbDevice] })
  | .opened busId localDevice handle =>
      match h.registry.bindDeviceWith busId localDevice handle with
      | (.error _, registry) => some (bindFailed, { h with registry })
      | (.ok (), registry) => some (.answered (.ok busId), { h with registry })
  | .answered _ => none

/-! ### The system -/

/-- A request arrives, a request takes a step, the attached devices change, or the registry
is called by another part of the daemon. -/
inductive Action where
  | request (params : Option (Option String))
  | advance (i : Nat) (usb : UsbAnswers)
  | plug (attached : Attached)
  | call (c : ExportRegistry.Call)

/-- The calls of the registry that bind nothing; these are made by the sessions and by other
requests. -/
def bindsNothing : ExportRegistry.Call → Bool
  | .bindDevice .. => false
  | .bindDeviceWith .. => false
  | _ => true

/-- One step of the system. -/
def step (h : Host) : Action → Option Host
  | .request params => some { h with requests := h.requests ++ [.received params] }
  | .advance i usb =>
      match h.requests[i]? with
      | none => none
      | some r =>
          (h.advance usb r).map fun next => { next.2 with requests := h.requests.set i next.1 }
  | .plug attached => some { h with attached }
  | .call c => if bindsNothing c then some { h with registry := h.registry.apply c } else none

/-! ### Allowed entries -/

/-- The access control list allows the device, by the ids it reports. -/
def Allows (h : Host) (vendorId productId : UInt16) : Prop :=
  isDeviceAllowed vendorId productId h.security = true

instance (h : Host) (vendorId productId : UInt16) : Decidable (h.Allows vendorId productId) :=
  inferInstanceAs (Decidable (_ = true))

/-- The record is allowed, and so is the device the handle is open on, which need not be the
same. -/
def EntryAllowed (h : Host) (device : LocalUsbDevice) (handle : ManagedDevice) : Prop :=
  h.Allows device.vendorId device.productId ∧
    ∃ opened, h.handles[handle.handle]? = some opened ∧
      h.Allows opened.descriptor.vendorId opened.descriptor.productId

/-- Every entry of the registry is allowed: nothing is exported that the list denies. -/
def RegistryAllowed (h : Host) : Prop :=
  ∀ busId exported, h.registry.devices.lookup busId = some exported →
    h.EntryAllowed exported.device exported.handle

/-- No denied device is where the request will look next, with `attached` attached: under
its bus id until its record is chosen, and then at the record's bus number and address. -/
def LooksAtAllowed (h : Host) (attached : Attached) : BindRequest → Prop
  | .checked busId => ∀ d ∈ recordOf attached.devices busId, h.Allows d.vendorId d.productId
  | .unbound busId => ∀ d ∈ recordOf attached.devices busId, h.Allows d.vendorId d.productId
  | .enumerated _ _ d => ∀ r ∈ deviceAt attached.devices d.busNumber d.deviceAddress,
      h.Allows r.descriptor.vendorId r.descriptor.productId
  | _ => True

instance (h : Host) (attached : Attached) : DecidablePred (h.LooksAtAllowed attached)
  | .checked busId => inferInstanceAs (Decidable (∀ d ∈ recordOf attached.devices busId, _))
  | .unbound busId => inferInstanceAs (Decidable (∀ d ∈ recordOf attached.devices busId, _))
  | .enumerated _ _ d =>
      inferInstanceAs
        (Decidable (∀ r ∈ deviceAt attached.devices d.busNumber d.deviceAddress, _))
  | .received _ => .isTrue trivial
  | .opened _ _ _ => .isTrue trivial
  | .answered _ => .isTrue trivial

/-- No hot-plug step puts a denied device where a request that has passed its check will look
next. -/
def PlugsAllowed (h : Host) : Action → Prop
  | .plug attached => ∀ r ∈ h.requests, h.LooksAtAllowed attached r
  | _ => True

instance (h : Host) : DecidablePred h.PlugsAllowed
  | .plug attached => inferInstanceAs (Decidable (∀ r ∈ h.requests, h.LooksAtAllowed attached r))
  | .request _ => .isTrue trivial
  | .advance _ _ => .isTrue trivial
  | .call _ => .isTrue trivial

/-! ### What each look finds -/

/-- A description has the bus number, the address and the ids of its device. -/
theorem describe_ids {r : RusbDevice} {d : LocalUsbDevice} (h : r.describe = some d) :
    d.busNumber = r.busNumber ∧ d.deviceAddress = r.address ∧
      d.vendorId = r.descriptor.vendorId ∧ d.productId = r.descriptor.productId := by
  unfold RusbDevice.describe RusbDevice.deviceDescriptor at h
  cases herror : r.descriptorError with
  | some e =>
      rw [herror] at h
      cases h
  | none =>
      rw [herror] at h
      cases h
      exact ⟨rfl, rfl, rfl, rfl⟩

/-- The device at the bus number and address of a record enumerated from the same list is
the device the record describes. -/
theorem ids_of_deviceAt {attached : Attached} {d : LocalUsbDevice} {r : RusbDevice}
    (hd : d ∈ attached.devices.filterMap RusbDevice.describe)
    (hr : deviceAt attached.devices d.busNumber d.deviceAddress = some r) :
    r.descriptor.vendorId = d.vendorId ∧ r.descriptor.productId = d.productId := by
  obtain ⟨described, hmem, hdescribe⟩ := List.mem_filterMap.mp hd
  obtain ⟨hbus, haddress, hvendor, hproduct⟩ := describe_ids hdescribe
  have hkey : r.busNumber = d.busNumber ∧ r.address = d.deviceAddress := by
    simpa using List.find?_some hr
  have hsame : r = described := by
    apply List.inj_on_of_nodup_map attached.distinct (List.mem_of_find?_eq_some hr) hmem
    rw [hkey.1, hkey.2, hbus, haddress]
  rw [hsame]
  exact ⟨hvendor.symm, hproduct.symm⟩

/-- A handle is open on the device at the bus number and address of the record. -/
theorem openHandle_cases {h : Host} {usb : UsbAnswers} {busId : String}
    {localDevices : List LocalUsbDevice} {d : LocalUsbDevice} {r : RusbDevice}
    {handle : ManagedDevice} (hfind : localDevices.find? (fun d => d.busId = busId) = some d)
    (hopen : h.openHandle usb busId localDevices = .ok (r, handle)) :
    deviceAt h.attached.devices d.busNumber d.deviceAddress = some r ∧
      handle.handle = h.handles.length := by
  unfold openHandle ManagedDevice.openDevice listed at hopen
  rw [hfind] at hopen
  cases hlist : usb.listError with
  | some e =>
      rw [hlist] at hopen
      cases hopen
  | none =>
      cases hat : deviceAt h.attached.devices d.busNumber d.deviceAddress with
      | none =>
          simp only [hlist, hat] at hopen
          cases hopen
      | some found =>
          cases herror : usb.openError with
          | some e =>
              simp only [hlist, hat, herror] at hopen
              cases e <;> cases hopen
          | none =>
              simp only [hlist, hat, herror] at hopen
              split at hopen
              · cases hopen
              · cases hopen
                exact ⟨rfl, rfl⟩

/-! ### The invariant -/

/-- What a request has learned: the record it chose is allowed, and so is what it opened. -/
def RecordAllowed (h : Host) : BindRequest → Prop
  | .enumerated busId localDevices d =>
      localDevices.find? (fun d => d.busId = busId) = some d ∧ h.Allows d.vendorId d.productId
  | .opened _ d handle => h.EntryAllowed d handle
  | _ => True

/-- A request that is safe to go on: what it will find at its next look is allowed, and so is
what it has found. -/
def RequestAllowed (h : Host) (r : BindRequest) : Prop :=
  h.LooksAtAllowed h.attached r ∧ h.RecordAllowed r

/-- What holds along every run that meets the condition. -/
structure Guarded (h : Host) : Prop where
  consistent : h.registry.Consistent
  entries : h.RegistryAllowed
  requests : ∀ r ∈ h.requests, h.RequestAllowed r

theorem guarded_start (security : SecurityConfig) (attached : Attached) (timeoutSecs : UInt64) :
    (start security attached timeoutSecs).Guarded where
  consistent := ExportRegistry.consistent_withSessionTimeout timeoutSecs
  entries := by
    intro busId exported hlookup
    cases hlookup
  requests := by
    intro r hr
    cases hr

theorem enumerateDevices_listed {h : Host} {usb : UsbAnswers} {localDevices : List LocalUsbDevice}
    (henum : enumerateDevices (h.listed usb) = .ok localDevices) :
    localDevices = h.attached.devices.filterMap RusbDevice.describe := by
  unfold listed at henum
  cases hlist : usb.listError with
  | some e =>
      rw [hlist] at henum
      cases henum
  | none =>
      rw [hlist] at henum
      exact (Except.ok.inj henum).symm

/-- A checked request has an allowed device under its bus id, at the moment of the check. -/
theorem requestAllowed_check (h : Host) (usb : UsbAnswers) (busId : String) :
    h.RequestAllowed (h.check usb busId) := by
  unfold check
  split
  · exact ⟨trivial, trivial⟩
  · rename_i localDevices henum
    rw [enumerateDevices_listed henum]
    split
    · exact ⟨trivial, trivial⟩
    · rename_i device hfind
      split
      · exact ⟨trivial, trivial⟩
      · rename_i hallowed
        refine ⟨?_, trivial⟩
        intro d hd
        have hsame : some device = some d := hfind.symm.trans hd
        cases hsame
        exact not_not.mp hallowed

/-- The record of the second enumeration is allowed, and so is the device behind it. -/
theorem requestAllowed_enumerate {h : Host} {busId : String}
    (hlooks : h.LooksAtAllowed h.attached (.unbound busId)) (usb : UsbAnswers) :
    h.RequestAllowed (h.enumerate usb busId) := by
  unfold enumerate
  split
  · exact ⟨trivial, trivial⟩
  · rename_i localDevices henum
    rw [enumerateDevices_listed henum]
    split
    · exact ⟨trivial, trivial⟩
    · rename_i d hfind
      have hallowed : h.Allows d.vendorId d.productId := hlooks d hfind
      refine ⟨?_, hfind, hallowed⟩
      intro r hr
      obtain ⟨hvendor, hproduct⟩ := ids_of_deviceAt (List.mem_of_find?_eq_some hfind) hr
      rw [hvendor, hproduct]
      exact hallowed

theorem EntryAllowed.append {h : Host} {d : LocalUsbDevice} {handle : ManagedDevice}
    (hentry : h.EntryAllowed d handle) (r : RusbDevice) :
    Host.EntryAllowed { h with handles := h.handles ++ [r] } d handle := by
  obtain ⟨hrecord, opened, hopened, hallowed⟩ := hentry
  have hlt : handle.handle < h.handles.length := (List.getElem?_eq_some_iff.mp hopened).1
  refine ⟨hrecord, opened, ?_, hallowed⟩
  show (h.handles ++ [r])[handle.handle]? = some opened
  rw [List.getElem?_append_left hlt]
  exact hopened

theorem RequestAllowed.append {h : Host} {request : BindRequest}
    (hrequest : h.RequestAllowed request) (r : RusbDevice) :
    Host.RequestAllowed { h with handles := h.handles ++ [r] } request := by
  constructor
  · cases request with
    | received => trivial
    | checked => exact hrequest.1
    | unbound => exact hrequest.1
    | enumerated => exact hrequest.1
    | opened => trivial
    | answered => trivial
  · cases request with
    | received => trivial
    | checked => trivial
    | unbound => trivial
    | enumerated => exact hrequest.2
    | opened busId d handle => exact EntryAllowed.append hrequest.2 r
    | answered => trivial

theorem RegistryAllowed.bind {h : Host} (hentries : h.RegistryAllowed) {d : LocalUsbDevice}
    {handle : ManagedDevice} (hentry : h.EntryAllowed d handle) (busId : String) :
    Host.RegistryAllowed { h with registry := (h.registry.bindDeviceWith busId d handle).2 } := by
  intro other exported hlookup
  unfold ExportRegistry.bindDeviceWith at hlookup
  split at hlookup
  · exact hentries other exported hlookup
  · by_cases hbus : other = busId
    · subst hbus
      rw [ExportRegistry.lookup_put_self] at hlookup
      cases hlookup
      exact hentry
    · rw [ExportRegistry.lookup_put_ne _ _ hbus] at hlookup
      exact hentries other exported hlookup

/-- A call that binds nothing writes no new device and no new handle. -/
theorem lookup_of_bindsNothing {reg : ExportRegistry} (hreg : reg.Consistent)
    {c : ExportRegistry.Call} (hc : bindsNothing c = true) {busId : String}
    {exported : ExportedDevice} (hlookup : (reg.apply c).devices.lookup busId = some exported) :
    ∃ before, reg.devices.lookup busId = some before ∧ before.device = exported.device ∧
      before.handle = exported.handle := by
  have hput : ∀ {other : String} {e e' : ExportedDevice}, reg.devices.lookup other = some e →
      (reg.put other e').devices.lookup busId = some exported →
      e.device = e'.device → e.handle = e'.handle →
      ∃ before, reg.devices.lookup busId = some before ∧ before.device = exported.device ∧
        before.handle = exported.handle := by
    intro other e e' he hlookup hdevice hhandle
    by_cases hbus : busId = other
    · subst hbus
      rw [ExportRegistry.lookup_put_self] at hlookup
      cases hlookup
      exact ⟨e, he, hdevice, hhandle⟩
    · rw [ExportRegistry.lookup_put_ne _ _ hbus] at hlookup
      exact ⟨exported, hlookup, rfl, rfl⟩
  have hmove := ExportRegistry.apply_move hreg c
  generalize reg.apply c = reg' at hmove hlookup
  cases hmove with
  | keep => exact ⟨exported, hlookup, rfl, rfl⟩
  | bind device handle hbinds =>
      rcases hbinds with ⟨_, _, rfl⟩ | ⟨_, _, rfl⟩
      · cases hc
      · cases hc
  | @unbind other e he =>
      by_cases hbus : busId = other
      · subst hbus
        rw [AList.lookup_erase] at hlookup
        cases hlookup
      · rw [AList.lookup_erase_ne hbus] at hlookup
        exact ⟨exported, hlookup, rfl, rfl⟩
  | acquire he => exact hput he hlookup rfl rfl
  | suspend he => exact hput he hlookup rfl rfl
  | release he => exact hput he hlookup rfl rfl
  | releaseImmediate he => exact hput he hlookup rfl rfl
  | expire he => exact hput he hlookup rfl rfl

/-- The step of a request keeps the registry and every other request as they should be, and
leaves the request safe to go on. -/
theorem Guarded.advance {h h' : Host} {usb : UsbAnswers} {r r' : BindRequest} (hg : h.Guarded)
    (hr : r ∈ h.requests) (hadvance : h.advance usb r = some (r', h')) :
    h'.registry.Consistent ∧ h'.RegistryAllowed ∧ h'.RequestAllowed r' ∧
      ∀ other ∈ h.requests, h'.RequestAllowed other := by
  have hrequest := hg.requests r hr
  -- all but the last two steps leave the host as it is
  have hsame : ∀ {next : BindRequest}, some (next, h) = some (r', h') → h.RequestAllowed next →
      h'.registry.Consistent ∧ h'.RegistryAllowed ∧ h'.RequestAllowed r' ∧
        ∀ other ∈ h.requests, h'.RequestAllowed other := by
    intro next heq hnext
    cases heq
    exact ⟨hg.consistent, hg.entries, hnext, hg.requests⟩
  cases r with
  | received params =>
      match params with
      | none => exact hsame hadvance ⟨trivial, trivial⟩
      | some none => exact hsame hadvance ⟨trivial, trivial⟩
      | some (some busId) => exact hsame hadvance (requestAllowed_check h usb busId)
  | checked busId =>
      simp only [Host.advance] at hadvance
      split at hadvance
      · exact hsame hadvance ⟨trivial, trivial⟩
      · exact hsame hadvance ⟨hrequest.1, trivial⟩
  | unbound busId => exact hsame hadvance (requestAllowed_enumerate hrequest.1 usb)
  | enumerated busId localDevices d =>
      obtain ⟨hlooks, hfind, hallowed⟩ := hrequest
      simp only [Host.advance] at hadvance
      split at hadvance
      · exact hsame hadvance ⟨trivial, trivial⟩
      · rename_i opened handle hopen
        cases hadvance
        obtain ⟨hat, hhandle⟩ := openHandle_cases hfind hopen
        refine ⟨hg.consistent, ?_, ⟨trivial, hallowed, opened, ?_, hlooks opened hat⟩, ?_⟩
        · intro other exported hlookup
          exact EntryAllowed.append (hg.entries other exported hlookup) opened
        · show (h.handles ++ [opened])[handle.handle]? = some opened
          rw [hhandle, List.getElem?_concat_length]
        · intro other hother
          exact RequestAllowed.append (hg.requests other hother) opened
  | opened busId d handle =>
      have hentries := hg.entries.bind hrequest.2 busId
      have hconsistent := hg.consistent.move
        (ExportRegistry.apply_move hg.consistent (.bindDeviceWith busId d handle))
      simp only [Host.advance] at hadvance
      split at hadvance
      all_goals
        rename_i registry hbind
        cases hadvance
        rw [hbind] at hentries
        rw [ExportRegistry.apply, hbind] at hconsistent
        exact ⟨hconsistent, hentries, ⟨trivial, trivial⟩, hg.requests⟩
  | answered result => cases hadvance

/-- **Step.** Whatever is done, the registry and the requests stay allowed. -/
theorem Guarded.step {h h' : Host} {a : Action} (hg : h.Guarded) (hplug : h.PlugsAllowed a)
    (hstep : h.step a = some h') : h'.Guarded := by
  cases a with
  | request params =>
      cases hstep
      refine ⟨hg.consistent, hg.entries, ?_⟩
      intro r hr
      rcases List.mem_append.mp hr with hr | hr
      · exact hg.requests r hr
      · rw [List.mem_singleton.mp hr]
        exact ⟨trivial, trivial⟩
  | advance i usb =>
      simp only [Host.step] at hstep
      split at hstep
      · cases hstep
      · rename_i r hi
        obtain ⟨⟨r', mid⟩, hadvance, rfl⟩ := Option.map_eq_some_iff.mp hstep
        obtain ⟨hconsistent, hentries, hnext, hothers⟩ :=
          hg.advance (List.mem_of_getElem? hi) hadvance
        refine ⟨hconsistent, hentries, ?_⟩
        intro other hother
        rcases List.mem_or_eq_of_mem_set hother with hother | rfl
        · exact hothers other hother
        · exact hnext
  | plug attached =>
      cases hstep
      refine ⟨hg.consistent, hg.entries, ?_⟩
      intro r hr
      exact ⟨hplug r hr, (hg.requests r hr).2⟩
  | call c =>
      simp only [Host.step] at hstep
      split at hstep
      · rename_i hc
        cases hstep
        refine ⟨hg.consistent.move (ExportRegistry.apply_move hg.consistent c), ?_, hg.requests⟩
        intro busId exported hlookup
        obtain ⟨before, hbefore, hdevice, hhandle⟩ :=
          lookup_of_bindsNothing hg.consistent hc hlookup
        have hentry := hg.entries busId before hbefore
        rw [hdevice, hhandle] at hentry
        exact hentry
      · cases hstep

/-- **The registry respects the access control list.** In every run of bind requests,
hot-plugging, unbinding and import sessions in which no denied device is plugged in where a
request that has passed its check will look next, every entry of the registry has a record,
and a handle open on a device, whose vendor and product ids are allowed. -/
theorem bind_allowed (security : SecurityConfig) (attached : Attached) (timeoutSecs : UInt64)
    (as : List Action) (h : Host)
    (hguard : Transition.Meets step PlugsAllowed (start security attached timeoutSecs) as)
    (hrun : Transition.run step (start security attached timeoutSecs) as = some h) :
    h.RegistryAllowed :=
  (Transition.run_invariant Guarded (fun _ _ _ hg hp hs => hg.step hp hs)
    (guarded_start security attached timeoutSecs) hguard hrun).entries

/-- A device of one interface on port 1 of bus 1. -/
def onPortOne (address : UInt8) (vendorId productId : UInt16) : RusbDevice :=
  { busNumber := 1, address, portNumbers := .ok [1]
    descriptor := { vendorId, productId, classCode := 0, subClassCode := 0, protocolCode := 0
                    deviceVersion := { major := 1, minor := 0, subMinor := 0 }
                    numConfigurations := 1 }
    descriptorError := none, speed := .high
    activeConfigDescriptor := .ok [[{ interfaceNumber := 0, classCode := 3, subClassCode := 1
                                      protocolCode := 1 }]]
    configDescriptorZero := .ok [] }

/-- A keyboard, and a network adapter in its place. -/
def keyboard : Attached := { devices := [onPortOne 4 0x046d 0xc31c], distinct := by decide }

/-- The network adapter, at another address. -/
def networkAdapter : Attached := { devices := [onPortOne 5 0x0bda 0x8153], distinct := by decide }

/-- The vendor of the network adapter is denied. -/
def noAdapters : SecurityConfig := { allowedDevices := [], deniedDevices := ["0bda:*"] }

/-- The keyboard is bound and imported, then replaced; binding the adapter is refused. -/
theorem bind_allowed_keyboard :
    ∃ h, Transition.run step (start noAdapters keyboard 30)
        [.request (some (some "1-1")), .advance 0 .fine, .advance 0 .fine, .advance 0 .fine,
          .advance 0 .fine, .advance 0 .fine, .call (.tryAcquireExt 0 "1-1"),
          .plug networkAdapter, .call (.unbindDevice "1-1"), .request (some (some "1-1")),
          .advance 1 .fine] = some h ∧
      h.requests = [.answered (.ok "1-1"), .answered (.error (.internalError
        "device 0bda:8153 is not allowed by ACL policy"))] ∧ h.RegistryAllowed := by
  obtain ⟨h, hrun, hanswers⟩ := Transition.exists_run_of_any step (start noAdapters keyboard 30)
    [.request (some (some "1-1")), .advance 0 .fine, .advance 0 .fine, .advance 0 .fine,
      .advance 0 .fine, .advance 0 .fine, .call (.tryAcquireExt 0 "1-1"),
      .plug networkAdapter, .call (.unbindDevice "1-1"), .request (some (some "1-1")),
      .advance 1 .fine]
    (fun h => h.requests = [.answered (.ok "1-1"), .answered (.error (.internalError
      "device 0bda:8153 is not allowed by ACL policy"))]) (by decide +kernel)
  exact ⟨h, hrun, hanswers, bind_allowed noAdapters keyboard 30 _ h (by decide +kernel) hrun⟩

/-- The keyboard passes the check and the adapter that takes its place is exported, though its
vendor is denied. -/
theorem bind_swapped :
    ¬ ∀ (security : SecurityConfig) (attached : Attached) (timeoutSecs : UInt64)
        (as : List Action) (h : Host),
      Transition.run step (start security attached timeoutSecs) as = some h →
        h.RegistryAllowed := by
  intro hall
  obtain ⟨h, hrun, hdenied⟩ := Transition.exists_run_of_any step (start noAdapters keyboard 30)
    [.request (some (some "1-1")), .advance 0 .fine, .plug networkAdapter, .advance 0 .fine,
      .advance 0 .fine, .advance 0 .fine, .advance 0 .fine]
    (fun h => (h.registry.devices.lookup "1-1").any (fun exported =>
      ¬ h.Allows exported.device.vendorId exported.device.productId) = true) (by decide +kernel)
  cases hlookup : h.registry.devices.lookup "1-1" with
  | none =>
      rw [hlookup] at hdenied
      cases hdenied
  | some exported =>
      rw [hlookup] at hdenied
      have hallowed := (hall noAdapters keyboard 30 _ h hrun "1-1" exported hlookup).1
      exact of_decide_eq_true hdenied hallowed

end Host

end Extender.Daemon
