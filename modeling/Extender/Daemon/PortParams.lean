/-
Ports in API requests (`handle_list_remote_devices`, `handle_attach_device` and
`handle_detach_device` of `api_server.rs`).

A port arrives as a JSON number of up to 64 bits. The handlers cut it to 16 bits for a
connection and to 32 bits for a detach, and the Windows driver is sent a signed number.
Nothing is checked on the way, so a request may act on another port than it names: 68776
connects to 3240, and 4294967295 becomes −1 on Windows, which detaches every port.

The three handlers are modelled on all platforms, with the client engine of
`Client.Platforms`. Reading the host of an address is the standard library's and a parameter;
no result assumes anything of it. How the calls of the engine end is an argument, and a
request is said to act on a port by the calls it makes, read as the other side reads them.

The conditions are on the request and the machine. A number that does not fit does no harm
where it is not used: the request is refused before, or nothing is attached under what the
number is cut to.

* `handleDetachDevice_macos` — on macOS a detach is handled as in the system of `AttachApi`,
  and so no detach request succeeds there (`handleDetachDevice_macos_error`).
* `lists_iff`, `attaches_iff`, `detaches_iff` — each of the three requests.
* `port_kept_iff` — a request acts on the port it names iff the number fits, or if it is
  refused before the port is used.
-/

import Extender.Client.Platforms
import Extender.Daemon.AttachApi

namespace Extender.Daemon

open Text Extender.Api Extender.Client Extender.Protocol Extender.Driver

/-! ### Answers -/

/-- Speeds as the API names them. -/
inductive UsbSpeed where
  | low
  | full
  | high
  | super
  | superPlus
  | unknown
deriving DecidableEq, Repr

def speedToApi (speed : UInt32) : UsbSpeed :=
  if speed = 1 then .low
  else if speed = 2 then .full
  else if speed = 3 then .high
  else if speed = 5 then .super
  else .unknown

/-- A device in the answer to a list request. -/
structure DeviceInfo where
  busId : String
  vendorId : UInt16
  productId : UInt16
  manufacturer : Option String
  product : Option String
  deviceClass : UInt8
  speed : UsbSpeed
  isBound : Bool
deriving DecidableEq, Repr

/-- What a device of another server is listed as: without texts, and not bound here. -/
def DeviceInfo.ofRemote (d : RemoteDevice) : DeviceInfo :=
  { busId := d.busid, vendorId := d.idVendor, productId := d.idProduct, manufacturer := none
    product := none, deviceClass := d.deviceClass, speed := speedToApi d.speed
    isBound := false }

/-- The parameters of `list_remote_devices`. -/
structure ListParams where
  host : Option String
  port : Option UInt64
deriving DecidableEq, Repr

/-! ### The handlers -/

/-- The answer to a request the client has handled: what went wrong is logged, and the caller
is told which step it was. -/
def answer {α β : Type} (failed : String) (value : α → β)
    (out : Except EngineError α × List ClientCall) : Except JsonRpcError β × List ClientCall :=
  (match out.1 with
    | .error _ => .error (.internalError failed)
    | .ok a => .ok (value a),
    out.2)

/-- The caller is told of an error iff there was one. -/
theorem answer_error_iff {α β : Type} (failed : String) (value : α → β)
    (out : Except EngineError α × List ClientCall) :
    (∃ e, (answer failed value out).1 = .error e) ↔ ∃ e, out.1 = .error e := by
  obtain ⟨result, calls⟩ := out
  cases result with
  | error e => exact iff_of_true ⟨_, rfl⟩ ⟨e, rfl⟩
  | ok a => exact iff_of_false nofun nofun

section Handlers

variable (hostFromStr : List Char → Option HostAddr) (platform : Platform) (machine : Machine)
  (answers : ClientAnswers)

/-- `AddrParseError` as it is displayed. -/
def addrParseError : String := "invalid socket address syntax"

/-- The address of host and port, read back from the text that is made of them. -/
def parseAddr (host : String) (port : UInt16) : Except JsonRpcError SocketAddr :=
  match SocketAddr.fromStr hostFromStr (host ++ ":" ++ toString port) with
  | none => .error (.invalidParams ("invalid address: " ++ addrParseError))
  | some addr => .ok addr

/-- `handle_list_remote_devices`: every parameter is required,
and the port is cut to 16 bits. -/
def handleListRemoteDevices (params : Option ListParams) :
    Except JsonRpcError (List DeviceInfo) × List ClientCall :=
  match params with
  | none => (.error (.invalidParams "missing params"), [])
  | some params =>
      match params.host with
      | none => (.error (.invalidParams "missing 'host'"), [])
      | some host =>
          match params.port with
          | none => (.error (.invalidParams "missing 'port'"), [])
          | some port =>
              match parseAddr hostFromStr host port.toUInt16 with
              | .error e => (.error e, [])
              | .ok addr =>
                  answer "remote list failed" (List.map DeviceInfo.ofRemote)
                    (listRemoteDevices answers addr)

/-- The checks of `handle_attach_device`, up to the address and the bus id. -/
def attachAddress (params : Option AttachParams) : Except JsonRpcError (SocketAddr × String) :=
  match params with
  | none => .error (.invalidParams "missing params")
  | some params =>
      match params.host with
      | none => .error (.invalidParams "missing 'host'")
      | some host =>
          match params.port with
          | none => .error (.invalidParams "missing 'port'")
          | some port =>
              match params.busId with
              | none => .error (.invalidParams "missing 'bus_id'")
              | some busId =>
                  match parseAddr hostFromStr host port.toUInt16 with
                  | .error e => .error e
                  | .ok addr => .ok (addr, busId)

/-- `handle_attach_device` with a new engine, on the platform it is built for. -/
def handleAttachDevice (params : Option AttachParams) :
    Except JsonRpcError AttachAnswer × List ClientCall :=
  match attachAddress hostFromStr params with
  | .error e => (.error e, [])
  | .ok (addr, busId) =>
      match machine.newEngine platform with
      | .error _ => (.error (.internalError "client initialization failed"), [])
      | .ok () =>
          answer "attach device failed" (fun attached => { port := attached.port, busId })
            (machine.attachDevice platform answers addr busId)

/-- `handle_detach_device` with a new engine; the port is cut to 32 bits. -/
def handleDetachDevice (params : Option DetachParams) :
    Except JsonRpcError UInt32 × List ClientCall :=
  match params with
  | none => (.error (.invalidParams "missing params"), [])
  | some params =>
      match params.port with
      | none => (.error (.invalidParams "missing 'port'"), [])
      | some port =>
          let port := port.toUInt32
          match machine.newEngine platform with
          | .error _ => (.error (.internalError "client initialization failed"), [])
          | .ok () =>
              answer "detach device failed" (fun () => port)
                (machine.detachDevice platform answers port)

end Handlers

/-! ### The requests of `AttachApi` -/

/-- A detach request on macOS is answered as the model of `AttachApi` answers it: the two
models of the handler agree. -/
theorem handleDetachDevice_macos (params : Option DetachParams)
    (opened : Except ClientError Unit) (status : Except IoErrorKind String)
    (answers : ClientAnswers) :
    ∃ port cause, (ApiDaemon.handleDetachDevice params opened answers.driver.destroy).1 =
      .detachAnswered port cause
        (handleDetachDevice .macos { opened := opened.mapError .client, status } answers
          params).1 := by
  unfold ApiDaemon.handleDetachDevice handleDetachDevice
  cases params with
  | none => exact ⟨_, _, rfl⟩
  | some params =>
      obtain ⟨port⟩ := params
      cases port with
      | none => exact ⟨_, _, rfl⟩
      | some port =>
          cases opened with
          | error e => exact ⟨_, _, rfl⟩
          | ok u =>
              cases u
              refine ⟨some port.toUInt32, some (.portNotAttached port.toUInt32), ?_⟩
              simp only [ClientEngine.detachDevice_new]
              rfl

/-! ### The port that is acted on -/

section Kept

variable {α : Type}

/-- The request is refused as invalid, or it makes one connection, to TCP port `v`. -/
def Lists (v : UInt64) (out : Except JsonRpcError α × List ClientCall) : Prop :=
  (∃ detail, out = (.error (.invalidParams detail), [])) ∨
    out.2.filterMap ClientCall.connectTarget = [v.toNat]

/-- The request is refused with nothing done, or it makes one connection, to TCP port `v`. -/
def Attaches (v : UInt64) (out : Except JsonRpcError α × List ClientCall) : Prop :=
  (∃ e, out = (.error e, [])) ∨ out.2.filterMap ClientCall.connectTarget = [v.toNat]

/-- The request is answered with an error, or it detaches port `v` and no other. -/
def DetachesPort (v : UInt64) (out : Except JsonRpcError α × List ClientCall) : Prop :=
  (∃ e, out.1 = .error e) ∨ out.2.filterMap ClientCall.detachTarget = [(v.toNat : Int)]

end Kept

section Conditions

variable (hostFromStr : List Char → Option HostAddr) (platform : Platform) (machine : Machine)

/-- The address of a request, without its port: whether it can be read does not depend on the
port. -/
def hostAddr (host : Option String) : Option HostAddr := host.bind fun h => hostFromStr h.toList

/-- Host and bus id are such that the client engine is reached and can ask for the device. -/
def AttachReaches (host busId : Option String) : Prop :=
  ∃ addr id, hostAddr hostFromStr host = some addr ∧ busId = some id ∧
    machine.newEngine platform = .ok () ∧ Machine.Sendable platform addr id

/-- The number survives the casts, or it is not used: there is no engine, or nothing is in
use under what it is cast to. An engine on macOS has no ports. -/
def DetachSafe (v : UInt64) : Prop :=
  machine.newEngine platform ≠ .ok () ∨
    match platform with
    | .linux => v.toNat < 2 ^ 32 ∨ ¬ machine.InUse v.toUInt32
    | .windows => v.toNat < 2 ^ 31
    | .macos | .other => True

end Conditions

/-- The address is the host's, with the port that was put behind it. -/
theorem parseAddr_eq (hostFromStr : List Char → Option HostAddr) (host : String)
    (port : UInt16) :
    parseAddr hostFromStr host port =
      match hostFromStr host.toList with
      | none => .error (.invalidParams ("invalid address: " ++ addrParseError))
      | some host => .ok { host, port } := by
  unfold parseAddr
  rw [SocketAddr.fromStr_format]
  cases hostFromStr host.toList with
  | none => rfl
  | some addr => rfl

/-- A cast to 16 bits keeps a number iff it fits. -/
theorem singleton_toUInt16_eq_iff (v : UInt64) :
    [v.toUInt16.toNat] = [v.toNat] ↔ v.toNat < 2 ^ 16 := by
  rw [List.singleton_inj, UInt64.toNat_toUInt16]
  exact Nat.mod_eq_iff_lt (by decide)

/-- The same for 32 bits, as a detach reports a port. -/
theorem singleton_toUInt32_eq_iff (v : UInt64) :
    [(v.toUInt32.toNat : Int)] = [(v.toNat : Int)] ↔ v.toNat < 2 ^ 32 := by
  rw [List.singleton_inj, Int.ofNat_inj, UInt64.toNat_toUInt32]
  exact Nat.mod_eq_iff_lt (by decide)

/-- The cast to a signed number keeps it iff its highest bit is not set. -/
theorem singleton_toInt32_eq_iff (v : UInt64) :
    [v.toUInt32.toInt32.toInt] = [(v.toNat : Int)] ↔ v.toNat < 2 ^ 31 := by
  have hsigned : v.toUInt32.toInt32.toInt =
      if 2 * (v.toNat % 2 ^ 32) < 2 ^ 32 then ((v.toNat % 2 ^ 32 : Nat) : Int)
      else ((v.toNat % 2 ^ 32 : Nat) : Int) - (2 ^ 32 : Nat) := rfl
  rw [List.singleton_inj, hsigned]
  split
  · omega
  · omega

/-- A request that acted on a port was not refused, so that the two alternatives of the
property exclude each other. -/
theorem ne_refused {α τ : Type} {out : Except JsonRpcError α × List ClientCall} {n : τ}
    {target : ClientCall → Option τ} (h : out.2.filterMap target = [n])
    (result : Except JsonRpcError α) : out ≠ (result, []) := by
  rintro rfl
  cases h

/-- What a list request does: nothing, or one connection to the port it has cut. -/
theorem handleListRemoteDevices_cases (hostFromStr : List Char → Option HostAddr)
    (answers : ClientAnswers) (host : Option String) (v : UInt64) :
    (hostAddr hostFromStr host = none ∧
      ∃ detail, handleListRemoteDevices hostFromStr answers (some { host, port := some v }) =
        (.error (.invalidParams detail), [])) ∨
    (hostAddr hostFromStr host ≠ none ∧
      (handleListRemoteDevices hostFromStr answers
        (some { host, port := some v })).2.filterMap ClientCall.connectTarget =
          [v.toUInt16.toNat]) := by
  cases host with
  | none => exact Or.inl ⟨rfl, _, rfl⟩
  | some host =>
      unfold handleListRemoteDevices hostAddr listRemoteDevices
      simp only [parseAddr_eq, Option.bind_some]
      cases hostFromStr host.toList with
      | none => exact Or.inl ⟨rfl, _, rfl⟩
      | some addr =>
          exact Or.inr ⟨Option.some_ne_none addr, rfl⟩

/-- A list request connects to the port it names iff the number fits or the host is
refused. -/
theorem lists_iff (hostFromStr : List Char → Option HostAddr) (answers : ClientAnswers)
    (host : Option String) (v : UInt64) :
    Lists v (handleListRemoteDevices hostFromStr answers (some { host, port := some v })) ↔
      v.toNat < 2 ^ 16 ∨ hostAddr hostFromStr host = none := by
  rcases handleListRemoteDevices_cases hostFromStr answers host v with
    ⟨hnone, hrefused⟩ | ⟨hsome, htarget⟩
  · exact iff_of_true (Or.inl hrefused) (Or.inr hnone)
  · have hcalled : ¬ ∃ detail, handleListRemoteDevices hostFromStr answers
        (some { host, port := some v }) = (.error (.invalidParams detail), []) := by
      rintro ⟨detail, hrefused⟩
      exact ne_refused htarget _ hrefused
    rw [or_iff_left hsome, ← singleton_toUInt16_eq_iff, ← htarget]
    exact or_iff_right hcalled

/-- What an attach request does: nothing, or one connection to the port it has cut. -/
theorem handleAttachDevice_cases (hostFromStr : List Char → Option HostAddr)
    (platform : Platform) (machine : Machine) (answers : ClientAnswers)
    (host busId : Option String) (v : UInt64) :
    (¬ AttachReaches hostFromStr platform machine host busId ∧
      ∃ e, handleAttachDevice hostFromStr platform machine answers
        (some { host, port := some v, busId }) = (.error e, [])) ∨
    (AttachReaches hostFromStr platform machine host busId ∧
      (handleAttachDevice hostFromStr platform machine answers
        (some { host, port := some v, busId })).2.filterMap ClientCall.connectTarget =
          [v.toUInt16.toNat]) := by
  unfold handleAttachDevice attachAddress AttachReaches
  cases host with
  | none => exact Or.inl ⟨fun ⟨_, _, h, _⟩ => (nomatch h), _, rfl⟩
  | some host =>
      cases busId with
      | none => exact Or.inl ⟨fun ⟨_, _, _, h, _⟩ => (nomatch h), _, rfl⟩
      | some id =>
          simp only [parseAddr_eq, hostAddr, Option.bind_some]
          cases hostFromStr host.toList with
          | none => exact Or.inl ⟨fun ⟨_, _, h, _⟩ => (nomatch h), _, rfl⟩
          | some addr =>
              simp only
              cases machine.newEngine platform with
              | error e => exact Or.inl ⟨fun ⟨_, _, _, _, h, _⟩ => (nomatch h), _, rfl⟩
              | ok u =>
                  cases u
                  have hconnects := machine.attachDevice_connects platform answers
                    { host := addr, port := v.toUInt16 } id
                  rcases hconnects with ⟨hsendable, htarget⟩ | ⟨hnot, e, hrefused⟩
                  · exact Or.inr ⟨⟨addr, id, rfl, rfl, rfl, hsendable⟩, htarget⟩
                  · rw [hrefused]
                    refine Or.inl ⟨?_, _, rfl⟩
                    rintro ⟨addr', id', haddr, hid, -, hsendable⟩
                    cases haddr
                    cases hid
                    exact hnot hsendable

/-- An attach request does iff the number fits or the request goes no further than its
checks. -/
theorem attaches_iff (hostFromStr : List Char → Option HostAddr) (platform : Platform)
    (machine : Machine) (answers : ClientAnswers) (host busId : Option String) (v : UInt64) :
    Attaches v (handleAttachDevice hostFromStr platform machine answers
        (some { host, port := some v, busId })) ↔
      v.toNat < 2 ^ 16 ∨ ¬ AttachReaches hostFromStr platform machine host busId := by
  rcases handleAttachDevice_cases hostFromStr platform machine answers host busId v with
    ⟨hnot, hrefused⟩ | ⟨hreaches, htarget⟩
  · exact iff_of_true (Or.inl hrefused) (Or.inr hnot)
  · have hcalled : ¬ ∃ e, handleAttachDevice hostFromStr platform machine answers
        (some { host, port := some v, busId }) = (.error e, []) := by
      rintro ⟨e, hrefused⟩
      exact ne_refused htarget _ hrefused
    rw [or_iff_left (not_not_intro hreaches), ← singleton_toUInt16_eq_iff, ← htarget]
    exact or_iff_right hcalled

/-- The drivers accept every call, and no server answers. -/
def accepting : ClientAnswers :=
  { connect := .timedOut, fd := 0, write := .ok (), ioctl := .ok 0, task := 0
    driver := { create := .success, configure := .success, destroy := .success } }

/-- The answer keeps the calls of the engine, and its error. -/
theorem detachesPort_answer {v : UInt64} {out : Except EngineError Unit × List ClientCall}
    {failed : String} {port : UInt32} :
    DetachesPort v (answer failed (fun () => port) out) ↔
      (∃ e, out.1 = .error e) ∨
        out.2.filterMap ClientCall.detachTarget = [(v.toNat : Int)] :=
  or_congr_left (answer_error_iff failed _ out)

/-- On Linux a port is detached if the status file has what the number is cast to. -/
theorem detachesLinux_iff (machine : Machine) (v : UInt64) :
    (∀ answers, DetachesPort v (answer "detach device failed" (fun () => v.toUInt32)
        (machine.detachDeviceLinux answers v.toUInt32))) ↔
      v.toNat < 2 ^ 32 ∨ ¬ machine.InUse v.toUInt32 := by
  have htarget : [ClientCall.writeDetach (toString v.toUInt32)].filterMap
      ClientCall.detachTarget = [(v.toUInt32.toNat : Int)] :=
    List.filterMap_cons_some (f := ClientCall.detachTarget)
      (Machine.detachTarget_writeDetach v.toUInt32)
  simp only [detachesPort_answer]
  constructor
  · intro hall
    rcases machine.detachDeviceLinux_cases accepting v.toUInt32 with ⟨-, heq⟩ | ⟨hfree, -⟩
    · have hwrites := hall accepting
      rw [heq, htarget] at hwrites
      exact Or.inl ((singleton_toUInt32_eq_iff v).mp (hwrites.resolve_left nofun))
    · exact Or.inr hfree
  · intro hsafe answers
    rcases machine.detachDeviceLinux_cases answers v.toUInt32 with ⟨hused, heq⟩ | ⟨-, e, heq⟩
    · rw [heq, htarget]
      exact Or.inr ((singleton_toUInt32_eq_iff v).mpr
        (hsafe.resolve_right (not_not_intro hused)))
    · rw [heq]
      exact Or.inl ⟨e, rfl⟩

/-- The Windows driver is sent what the two casts make of the number, and takes −1 for all
ports. -/
theorem detachesWindows_iff (v : UInt64) :
    (∀ answers, DetachesPort v (answer "detach device failed" (fun () => v.toUInt32)
        (Machine.detachDeviceWindows answers v.toUInt32))) ↔ v.toNat < 2 ^ 31 := by
  simp only [detachesPort_answer]
  constructor
  · intro hall
    exact (singleton_toInt32_eq_iff v).mp ((hall accepting).resolve_left nofun)
  · intro hfits answers
    refine Or.inr ?_
    unfold Machine.detachDeviceWindows
    simp only
    split
    · exact (singleton_toInt32_eq_iff v).mpr hfits
    · exact (singleton_toInt32_eq_iff v).mpr hfits

/-- No detach request succeeds on macOS, where the handler is the one of `AttachApi`. -/
theorem handleDetachDevice_macos_error (machine : Machine) (hopened : machine.opened = .ok ())
    (answers : ClientAnswers) (params : Option DetachParams) :
    ∃ e, (handleDetachDevice .macos machine answers params).1 = .error e := by
  obtain ⟨opened, status⟩ := machine
  obtain rfl : opened = .ok () := hopened
  obtain ⟨port, cause, hanswered⟩ := handleDetachDevice_macos params (.ok ()) status answers
  have hfails := ApiDaemon.failsDetach_handleDetachDevice params (.ok ()) answers.driver.destroy
  rw [hanswered] at hfails
  cases hresult : (handleDetachDevice .macos { opened := .ok (), status } answers params).1 with
  | error e => exact ⟨e, rfl⟩
  | ok port =>
      have hmachine :
          ({ opened := Except.mapError EngineError.client (.ok ()), status } : Machine) =
            { opened := .ok (), status } := rfl
      rw [hmachine, hresult] at hfails
      exact hfails.elim

/-- A detach request acts on the port it names iff the number survives the casts of its
platform or is not used. -/
theorem detaches_iff (platform : Platform) (machine : Machine) (v : UInt64) :
    (∀ answers, DetachesPort v
        (handleDetachDevice platform machine answers (some { port := some v }))) ↔
      DetachSafe platform machine v := by
  cases hengine : machine.newEngine platform with
  | error e =>
      refine iff_of_true ?_ (Or.inl (by rw [hengine]; exact nofun))
      intro answers
      unfold handleDetachDevice
      simp only [hengine]
      exact Or.inl ⟨_, rfl⟩
  | ok u =>
      have hanswer : ∀ answers, handleDetachDevice platform machine answers
          (some { port := some v }) = answer "detach device failed" (fun () => v.toUInt32)
            (machine.detachDevice platform answers v.toUInt32) := by
        intro answers
        unfold handleDetachDevice
        simp only [hengine]
      simp only [DetachSafe, hanswer]
      rw [or_iff_right (not_not_intro hengine)]
      cases platform with
      | linux => exact detachesLinux_iff machine v
      | windows => exact detachesWindows_iff v
      | macos =>
          refine iff_of_true ?_ trivial
          intro answers
          rw [← hanswer]
          exact Or.inl (handleDetachDevice_macos_error machine hengine answers _)
      | other => exact iff_of_true (fun _ => Or.inl ⟨_, rfl⟩) trivial

/-- **The port of a request.** On every platform and for every number `v` a request can
carry, it is acted on as port `v` or the request is refused, exactly when the number fits or
is not used. -/
theorem port_kept_iff (hostFromStr : List Char → Option HostAddr) (platform : Platform)
    (machine : Machine) (v : UInt64) :
    (∀ answers host,
      Lists v (handleListRemoteDevices hostFromStr answers (some { host, port := some v })) ↔
        v.toNat < 2 ^ 16 ∨ hostAddr hostFromStr host = none) ∧
    (∀ answers host busId,
      Attaches v (handleAttachDevice hostFromStr platform machine answers
          (some { host, port := some v, busId })) ↔
        v.toNat < 2 ^ 16 ∨ ¬ AttachReaches hostFromStr platform machine host busId) ∧
    ((∀ answers, DetachesPort v
        (handleDetachDevice platform machine answers (some { port := some v }))) ↔
      DetachSafe platform machine v) :=
  ⟨fun answers host => lists_iff hostFromStr answers host v,
    fun answers host busId => attaches_iff hostFromStr platform machine answers host busId v,
    detaches_iff platform machine v⟩

/-- Four octets, without leading zeros. -/
def ipv4FromStr (cs : List Char) : Option HostAddr :=
  let octets := cs.splitOn '.'
  let isOctet : List Char → Bool := fun octet =>
    match valueFrom 10 0 octet with
    | none => false
    | some n => n < 256 && Nat.toDigits 10 n == octet
  if octets.length = 4 && octets.all isOctet then
    some { ip := String.ofList cs, shown := String.ofList cs }
  else none

/-- A machine with a device on port 2, by its status file. -/
def machineInUse : Machine :=
  { opened := .ok (), status := .ok "hs  0002 006 002 00010002 000003 1-1" }

/-- A list request and an attach request for port 68776 connect to port 3240; a detach of
port 4294967298 detaches port 2 on Linux, and one of port 4294967295 detaches all ports on
Windows. -/
theorem port_reinterpreted :
    ((handleListRemoteDevices ipv4FromStr accepting
          (some { host := some "127.0.0.1", port := some 68776 })).2 =
        [.connect { host := { ip := "127.0.0.1", shown := "127.0.0.1" }, port := 3240 }] ∧
      ¬ Lists 68776 (handleListRemoteDevices ipv4FromStr accepting
          (some { host := some "127.0.0.1", port := some 68776 }))) ∧
    ((handleAttachDevice ipv4FromStr .linux machineInUse accepting
          (some { host := some "127.0.0.1", port := some 68776, busId := some "1-2" })).2 =
        [.connect { host := { ip := "127.0.0.1", shown := "127.0.0.1" }, port := 3240 }] ∧
      ¬ Attaches 68776 (handleAttachDevice ipv4FromStr .linux machineInUse accepting
          (some { host := some "127.0.0.1", port := some 68776, busId := some "1-2" }))) ∧
    (handleDetachDevice .linux machineInUse accepting (some { port := some 4294967298 }) =
        (.ok 2, [.writeDetach "2"]) ∧
      ¬ DetachesPort 4294967298
        (handleDetachDevice .linux machineInUse accepting (some { port := some 4294967298 }))) ∧
    (handleDetachDevice .windows machineInUse accepting (some { port := some 4294967295 }) =
        (.ok 4294967295, [.unplug { port := -1 }]) ∧
      ¬ DetachesPort 4294967295
        (handleDetachDevice .windows machineInUse accepting
          (some { port := some 4294967295 }))) := by
  have hlist : handleListRemoteDevices ipv4FromStr accepting
      (some { host := some "127.0.0.1", port := some 68776 }) =
        (.error (.internalError "remote list failed"),
          [.connect { host := { ip := "127.0.0.1", shown := "127.0.0.1" }, port := 3240 }]) := by
    decide +kernel
  have hattach : handleAttachDevice ipv4FromStr .linux machineInUse accepting
      (some { host := some "127.0.0.1", port := some 68776, busId := some "1-2" }) =
        (.error (.internalError "attach device failed"),
          [.connect { host := { ip := "127.0.0.1", shown := "127.0.0.1" }, port := 3240 }]) := by
    decide +kernel
  have hlinux : handleDetachDevice .linux machineInUse accepting
      (some { port := some 4294967298 }) = (.ok 2, [.writeDetach "2"]) := by
    decide +kernel
  have hwindows : handleDetachDevice .windows machineInUse accepting
      (some { port := some 4294967295 }) = (.ok 4294967295, [.unplug { port := -1 }]) := by
    decide +kernel
  refine ⟨⟨congrArg Prod.snd hlist, ?_⟩, ⟨congrArg Prod.snd hattach, ?_⟩, ⟨hlinux, ?_⟩,
    hwindows, ?_⟩
  · rw [hlist]
    rintro (⟨detail, h⟩ | h)
    · cases h
    · exact absurd h (by decide)
  · rw [hattach]
    rintro (⟨e, h⟩ | h)
    · cases h
    · exact absurd h (by decide)
  · rw [hlinux]
    rintro (⟨e, h⟩ | h)
    · cases h
    · exact absurd h (by decide)
  · rw [hwindows]
    rintro (⟨e, h⟩ | h)
    · cases h
    · exact absurd h (by decide)

end Extender.Daemon
