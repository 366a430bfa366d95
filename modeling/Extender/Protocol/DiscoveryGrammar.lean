/-
The grammar of the discovery phase: what `readOpMessage` and the synchronous decoders accept,
exactly.

A message is a four-byte prefix (version and operation code) and a body. `OpBody` is the body
of each operation: the status of a request is never looked at, the device list nests two
counts, and the import reply carries a record without interfaces exactly when its status is
zero. The stream reader and the cursor decoders are two implementations of this one relation,
so neither accepts anything the other rejects.

The proofs follow the text of the readers: each accessor has its relation, sequencing
concatenates, and a check in front of a read disappears because every spelling is long enough.
A round trip is then a reading of a spelling, with no further induction on the messages than
the one over the stream.

* `readOpMessage_accepts`, `decodeOp_accepts` — the relation each of them decides.
* `decodeOp_avoids_panic`, `readOpMessage_avoids_panic` — the checks of `remaining()` cover
  the reads behind them, on every input.
* `OpMessage.length_encode` — a message takes the `wire_size` bytes it promises.
* `opStream_roundtrip` — any list of well-formed messages written one after the other is read
  back as that list, each emitted in `wire_size` bytes.
-/

import Extender.Protocol.Discovery
import Extender.Protocol.UrbGrammar

namespace Extender.Protocol

open BigEndian ByteReader

/-! ### Device records -/

@[simp] theorem UsbDevice.length_encode (d : UsbDevice) : d.encode.length = 312 := by
  simp [encode, devicePathSize, busidSize]

@[simp] theorem UsbInterface.length_encode (i : UsbInterface) : i.encode.length = 4 := rfl

theorem length_flatMap_interfaces (is : List UsbInterface) :
    (is.flatMap UsbInterface.encode).length = is.length * 4 :=
  length_flatMap_const UsbInterface.length_encode is

theorem UsbDevice.decode_accepts :
    Accepts UsbDevice.decode (fun p d => d.interfaces = [] ∧ p = d.encode) := by
  refine Accepts.needs ?_ fun p d hp => by rw [hp.2, length_encode]
  refine ((copyToSlice_accepts _).bind_spelled fun path =>
    (copyToSlice_accepts _).bind_spelled fun busid => getU32_accepts.bind_spelled fun busnum =>
    getU32_accepts.bind_spelled fun devnum => getU32_accepts.bind_spelled fun speed =>
    getU16_accepts.bind_spelled fun idVendor => getU16_accepts.bind_spelled fun idProduct =>
    getU16_accepts.bind_spelled fun bcdDevice => getU8_accepts.bind_spelled fun deviceClass =>
    getU8_accepts.bind_spelled fun deviceSubclass => getU8_accepts.bind_spelled
    fun deviceProtocol => getU8_accepts.bind_spelled fun configurationValue =>
    getU8_accepts.bind_spelled fun numConfigurations => getU8_accepts.bind_spelled
    fun numInterfaces => Accepts.pure _).congr fun p d => ?_
  constructor
  · rintro ⟨path, _, rfl, busid, _, rfl, busnum, _, rfl, devnum, _, rfl, speed, _, rfl,
      idVendor, _, rfl, idProduct, _, rfl, bcdDevice, _, rfl, deviceClass, _, rfl,
      deviceSubclass, _, rfl, deviceProtocol, _, rfl, configurationValue, _, rfl,
      numConfigurations, _, rfl, numInterfaces, _, rfl, rfl, rfl⟩
    simp [encode]
  · rintro ⟨hnone, rfl⟩
    refine ⟨d.path, _, by simp only [encode, List.append_assoc]; rfl, d.busid, _, rfl, d.busnum, _,
      rfl, d.devnum, _, rfl, d.speed, _, rfl, d.idVendor, _, rfl, d.idProduct, _, rfl,
      d.bcdDevice, _, rfl, d.deviceClass, _, rfl, d.deviceSubclass, _, rfl, d.deviceProtocol, _,
      rfl, d.configurationValue, _, rfl, d.numConfigurations, _, rfl, d.numInterfaces, [], rfl, rfl,
      ?_⟩
    rw [← hnone]

theorem UsbInterface.decode_accepts :
    Accepts UsbInterface.decode (fun p i => p = i.encode) := by
  refine Accepts.needs ?_ fun p i hp => by rw [hp, length_encode]
  refine (getU8_accepts.bind_spelled fun cls => getU8_accepts.bind_spelled fun sub =>
    getU8_accepts.bind_spelled fun proto => getU8_accepts.bind_spelled fun padding =>
    Accepts.pure _).congr fun p i => ?_
  constructor
  · rintro ⟨cls, _, rfl, sub, _, rfl, proto, _, rfl, padding, _, rfl, rfl, rfl⟩
    rfl
  · rintro rfl
    exact ⟨i.interfaceClass, _, rfl, i.interfaceSubclass, _, rfl, i.interfaceProtocol, _, rfl,
      i.padding, [], rfl, rfl, rfl⟩

/-- The interface count of the record is the number of interfaces it is sent with. -/
def UsbDevice.CountOk (d : UsbDevice) : Prop := d.numInterfaces.toNat = d.interfaces.length

instance : DecidablePred UsbDevice.CountOk :=
  fun d => inferInstanceAs (Decidable (d.numInterfaces.toNat = d.interfaces.length))

/-- A record and then its interfaces: how a device of a list is spelled, the count in the
record being their number. -/
theorem deviceWithInterfaces_iff (p : List UInt8) (d : UsbDevice) :
    (∃ p₁ p₂, ∃ base : UsbDevice, p = p₁ ++ p₂ ∧ (base.interfaces = [] ∧ p₁ = base.encode) ∧
      ∃ is : List UsbInterface, is.length = base.numInterfaces.toNat ∧
        p₂ = is.flatMap UsbInterface.encode ∧
        d = { base with interfaces := base.interfaces ++ is }) ↔
    d.CountOk ∧ p = encodeDeviceWithInterfaces d := by
  constructor
  · rintro ⟨_, _, base, rfl, ⟨hnone, rfl⟩, is, hlen, rfl, rfl⟩
    rw [hnone, List.nil_append]
    exact ⟨hlen.symm, rfl⟩
  · rintro ⟨hcount, rfl⟩
    exact ⟨_, _, { d with interfaces := [] }, rfl, ⟨rfl, rfl⟩, d.interfaces, hcount.symm, rfl, rfl⟩

/-- The interfaces behind a record, taken only when the record announces some. -/
theorem readInterfaces_accepts (base : UsbDevice) :
    Accepts (if base.numInterfaces > 0 then do
        let ifaceBuf ← readExact (base.numInterfaces.toNat * usbInterfaceWireSize)
        let interfaces ← onBuffer (items UsbInterface.decode base.numInterfaces.toNat) ifaceBuf.val
        pure { base with interfaces := base.interfaces ++ interfaces }
      else pure base)
      (fun p d => ∃ is : List UsbInterface, is.length = base.numInterfaces.toNat ∧
        p = is.flatMap UsbInterface.encode ∧
        d = { base with interfaces := base.interfaces ++ is }) := by
  refine (((UsbInterface.decode_accepts.items _).onTaken_bind (fun p is h => by
    rw [h.2, length_flatMap_interfaces, h.1]) fun is => Accepts.pure _).ite
    (Accepts.pure base)).congr fun p d => ?_
  have hpos : base.numInterfaces > 0 ↔ 0 < base.numInterfaces.toNat := UInt8.lt_iff_toNat_lt
  constructor
  · rintro (⟨-, _, _, is, rfl, ⟨hlen, rfl⟩, rfl, rfl⟩ | ⟨hzero, rfl, rfl⟩)
    · exact ⟨is, hlen, List.append_nil _, rfl⟩
    · refine ⟨[], ?_, rfl, ?_⟩
      · rw [hpos] at hzero
        simp only [List.length_nil]
        omega
      · rw [List.append_nil]
  · rintro ⟨is, hlen, rfl, rfl⟩
    by_cases h : base.numInterfaces > 0
    · exact Or.inl ⟨h, _, [], is, (List.append_nil _).symm, ⟨hlen, rfl⟩, rfl, rfl⟩
    · have hnil : is = [] := by
        rw [hpos] at h
        exact List.length_eq_zero_iff.mp (by omega)
      refine Or.inr ⟨h, ?_, ?_⟩
      · rw [hnil, List.flatMap_nil]
      · rw [hnil, List.append_nil]

theorem readDevice_accepts :
    Accepts readDevice (fun p d => d.CountOk ∧ p = encodeDeviceWithInterfaces d) := by
  refine (UsbDevice.decode_accepts.onTaken_bind ?_ readInterfaces_accepts).congr
    deviceWithInterfaces_iff
  rintro p d ⟨-, rfl⟩
  exact d.length_encode

theorem decodeDeviceWithInterfaces_accepts :
    Accepts decodeDeviceWithInterfaces
      (fun p d => d.CountOk ∧ p = encodeDeviceWithInterfaces d) := by
  refine (UsbDevice.decode_accepts.bind fun base => Accepts.needs
    (R := fun p d => ∃ is : List UsbInterface, is.length = base.numInterfaces.toNat ∧
      p = is.flatMap UsbInterface.encode ∧
      d = { base with interfaces := base.interfaces ++ is }) ?_ ?_).congr deviceWithInterfaces_iff
  · refine ((UsbInterface.decode_accepts.items _).bind fun is => Accepts.pure _).congr
      fun p d => ?_
    constructor
    · rintro ⟨_, _, is, rfl, ⟨hlen, rfl⟩, rfl, rfl⟩
      exact ⟨is, hlen, List.append_nil _, rfl⟩
    · rintro ⟨is, hlen, rfl, rfl⟩
      exact ⟨_, [], is, (List.append_nil _).symm, ⟨hlen, rfl⟩, rfl, rfl⟩
  · rintro p d ⟨is, hlen, rfl, -⟩
    rw [length_flatMap_interfaces, hlen]

/-! ### Messages -/

/-- Version and operation code, the prefix of every message. -/
def opHeader (opcode : OpCode) : List UInt8 :=
  u16Bytes usbipVersion ++ u16Bytes opcode.code

/-- What follows the prefix of a message of each operation: the grammar against which both
readers are proved. -/
def OpBody : OpCode → List UInt8 → OpMessage → Prop
  | .opReqDevlist, p, m => ∃ status : UInt32, m = .reqDevlist ∧ p = u32Bytes status
  | .opRepDevlist, p, m => ∃ (status : UInt32) (devices : List UsbDevice),
      m = .repDevlist { status, devices } ∧
      (devices.length ≤ 256 ∧ ∀ d ∈ devices, d.CountOk) ∧
      p = u32Bytes status ++ (u32Bytes (UInt32.ofNat devices.length) ++
        devices.flatMap encodeDeviceWithInterfaces)
  | .opReqImport, p, m => ∃ (status : UInt32) (busid : BusId),
      m = .reqImport { busid } ∧ p = u32Bytes status ++ busid.val
  | .opRepImport, p, m => ∃ status : UInt32,
      (status = 0 ∧ ∃ d : UsbDevice, d.interfaces = [] ∧
        m = .repImport { status, device := some d } ∧ p = u32Bytes status ++ d.encode) ∨
      (status ≠ 0 ∧ m = .repImport { status, device := none } ∧ p = u32Bytes status)

/-- A device list behind a count, whichever way the devices are read; both readers take it
from here. -/
theorem devlist_accepts {readDev : Reader Failure UsbDevice} {n : UInt32}
    (hdev : Accepts readDev (fun p d => d.CountOk ∧ p = encodeDeviceWithInterfaces d))
    {α : Type} (build : List UsbDevice → α) {e : Failure} :
    Accepts (if n > maxDevicesInDevlist then throw e
        else items readDev n.toNat >>= fun devices => pure (build devices))
      (fun p a => ∃ devices, a = build devices ∧
        (devices.length ≤ 256 ∧ ∀ d ∈ devices, d.CountOk) ∧
        n = UInt32.ofNat devices.length ∧ p = devices.flatMap encodeDeviceWithInterfaces) := by
  refine (((hdev.items_where n.toNat).bind fun devices => Accepts.pure (build devices)).guard).congr
    fun p a => ?_
  have hmax : n > maxDevicesInDevlist ↔ 256 < n.toNat := UInt32.lt_iff_toNat_lt
  rw [hmax]
  constructor
  · rintro ⟨hle, _, _, devices, rfl, ⟨hlen, hok, rfl⟩, rfl, rfl⟩
    refine ⟨devices, rfl, ⟨by omega, hok⟩, ?_, List.append_nil _⟩
    rw [hlen, UInt32.ofNat_toNat]
  · rintro ⟨devices, rfl, ⟨hle, hok⟩, rfl, rfl⟩
    have hlen : (UInt32.ofNat devices.length).toNat = devices.length := by
      rw [UInt32.toNat_ofNat']
      omega
    exact ⟨by omega, _, [], devices, (List.append_nil _).symm, ⟨hlen.symm, hok, rfl⟩, rfl, rfl⟩

theorem u32At_pair_iff (rest : Bytes 8) (a b : UInt32) :
    (u32At rest 0 (by decide) = a ∧ u32At rest 4 (by decide) = b) ↔
      rest.val = u32Bytes a ++ u32Bytes b := by
  rw [rest.eq_append_iff (m := 4) (n := 4) (length_u32Bytes a), ← u32OfBytes_eq_iff,
    ← u32OfBytes_eq_iff]
  rfl

theorem u32At_zero_iff (rest : Bytes 4) (a : UInt32) :
    u32At rest 0 (by decide) = a ↔ rest.val = u32Bytes a := by
  have hslice : rest.slice 0 4 (by decide) = rest :=
    Subtype.ext (by rw [rest.slice_eq_drop 0 4 rfl, List.drop_zero])
  rw [u32At, hslice, u32OfBytes_eq_iff]

theorem readAfterOpCode_accepts (opcode : OpCode) :
    Accepts (readAfterOpCode opcode) (OpBody opcode) := by
  cases opcode with
  | opReqDevlist =>
      refine ((Accepts.takeExact _ 4).bind_spelled fun _ => Accepts.pure _).congr fun p m => ?_
      constructor
      · rintro ⟨rest, _, rfl, rfl, rfl⟩
        refine ⟨u32OfBytes rest, rfl, ?_⟩
        rw [u32Bytes_u32OfBytes, List.append_nil]
      · rintro ⟨status, rfl, rfl⟩
        exact ⟨⟨_, length_u32Bytes status⟩, [], (List.append_nil _).symm, rfl, rfl⟩
  | opRepDevlist =>
      refine ((Accepts.takeExact _ 8).bind_spelled fun rest =>
        devlist_accepts readDevice_accepts _).congr fun p m => ?_
      constructor
      · rintro ⟨rest, _, rfl, devices, rfl, hok, hcount, rfl⟩
        refine ⟨_, devices, rfl, hok, ?_⟩
        rw [(u32At_pair_iff rest _ _).mp ⟨rfl, hcount⟩, List.append_assoc]
      · rintro ⟨status, devices, rfl, hok, rfl⟩
        have hpair := (u32At_pair_iff ⟨u32Bytes status ++ u32Bytes (UInt32.ofNat devices.length),
          by simp⟩ status (UInt32.ofNat devices.length)).mpr rfl
        refine ⟨⟨_, _⟩, _, (List.append_assoc ..).symm, devices, ?_, hok, hpair.2, rfl⟩
        rw [hpair.1]
  | opReqImport =>
      refine ((Accepts.takeExact _ 36).bind_spelled fun _ => Accepts.pure _).congr fun p m => ?_
      constructor
      · rintro ⟨rest, _, rfl, rfl, rfl⟩
        refine ⟨u32OfBytes (rest.slice 0 4 (by decide)), rest.slice 4 32 (by decide), rfl, ?_⟩
        rw [List.append_nil, rest.eq_append_iff (m := 4) (n := 32) (length_u32Bytes _),
          u32Bytes_u32OfBytes]
        exact ⟨rfl, rfl⟩
      · rintro ⟨status, busid, rfl, rfl⟩
        have hsize : (u32Bytes status ++ busid.val).length = 36 := by simp [busidSize]
        have hpair := (Bytes.eq_append_iff (m := 4) (n := 32) ⟨u32Bytes status ++ busid.val, hsize⟩
          (length_u32Bytes status)).mp rfl
        refine ⟨⟨_, hsize⟩, [], (List.append_nil _).symm, rfl, ?_⟩
        rw [Subtype.ext hpair.2]
  | opRepImport =>
      refine ((Accepts.takeExact _ 4).bind_spelled fun rest => Accepts.ite
        (UsbDevice.decode_accepts.onTaken_bind (fun p d h => by rw [h.2, d.length_encode])
          fun d => Accepts.pure _) (Accepts.pure _)).congr fun p m => ?_
      constructor
      · rintro ⟨rest, _, rfl, ⟨hzero, _, _, d, rfl, ⟨hnone, rfl⟩, rfl, rfl⟩ | ⟨hne, rfl, rfl⟩⟩
        · refine ⟨_, Or.inl ⟨hzero, d, hnone, rfl, ?_⟩⟩
          rw [← (u32At_zero_iff rest _).mp rfl, List.append_nil]
        · refine ⟨_, Or.inr ⟨hne, rfl, ?_⟩⟩
          rw [← (u32At_zero_iff rest _).mp rfl, List.append_nil]
      · rintro ⟨status, h⟩
        have hword := (u32At_zero_iff ⟨_, length_u32Bytes status⟩ status).mpr rfl
        rcases h with ⟨hzero, d, hnone, rfl, rfl⟩ | ⟨hne, rfl, rfl⟩
        · refine ⟨⟨_, length_u32Bytes status⟩, _, rfl, Or.inl ?_⟩
          rw [hword]
          exact ⟨hzero, _, [], d, (List.append_nil _).symm, ⟨hnone, rfl⟩, rfl, rfl⟩
        · refine ⟨⟨_, length_u32Bytes status⟩, [], (List.append_nil _).symm, Or.inr ?_⟩
          rw [hword]
          exact ⟨hne, rfl, rfl⟩

theorem OpCode.fromRaw_eq_some_iff {value : UInt16} {opcode : OpCode} :
    OpCode.fromRaw value = some opcode ↔ value = opcode.code := by
  constructor
  · unfold OpCode.fromRaw
    intro h
    split at h
    · cases h
      assumption
    · split at h
      · cases h
        assumption
      · split at h
        · cases h
          assumption
        · split at h
          · cases h
            assumption
          · cases h
  · rintro rfl
    cases opcode <;> rfl

theorem opHeader_eq_iff (header : Bytes 4) (opcode : OpCode) :
    header.val = opHeader opcode ↔
      u16At header 0 (by decide) = usbipVersion ∧ u16At header 2 (by decide) = opcode.code := by
  rw [opHeader, header.eq_append_iff (m := 2) (n := 2) (length_u16Bytes _),
    ← u16OfBytes_eq_iff, ← u16OfBytes_eq_iff]
  rfl

theorem readOpCode_accepts (raw : UInt16) :
    Accepts (match OpCode.fromRaw raw with
        | none => throw (.error (.invalidOpCode raw))
        | some opcode => readAfterOpCode opcode)
      (fun q m => ∃ opcode : OpCode, raw = opcode.code ∧ OpBody opcode q m) := by
  cases hraw : OpCode.fromRaw raw with
  | none =>
      refine (Accepts.throw _).congr fun q m => ⟨False.elim, ?_⟩
      rintro ⟨opcode, hc, -⟩
      rw [OpCode.fromRaw_eq_some_iff.mpr hc] at hraw
      cases hraw
  | some opcode =>
      refine (readAfterOpCode_accepts opcode).congr fun q m => ?_
      constructor
      · intro hbody
        exact ⟨opcode, OpCode.fromRaw_eq_some_iff.mp hraw, hbody⟩
      · rintro ⟨opcode', hc, hbody⟩
        rw [OpCode.fromRaw_eq_some_iff.mpr hc] at hraw
        cases hraw
        exact hbody

/-- **The grammar of the discovery stream.** The reader succeeds on a version, an operation
code and a body of that operation, and on nothing else. -/
theorem readOpMessage_accepts :
    Accepts readOpMessage
      (fun p m => ∃ opcode q, p = opHeader opcode ++ q ∧ OpBody opcode q m) := by
  refine ((Accepts.takeExact _ 4).bind_spelled (S := fun header q m =>
    ∃ opcode, header.val = opHeader opcode ∧ OpBody opcode q m) fun header => ?_).congr
    fun p m => ?_
  · refine Accepts.congr (R := fun q m => ¬ u16At header 0 (by decide) ≠ usbipVersion ∧
      ∃ opcode : OpCode, u16At header 2 (by decide) = opcode.code ∧ OpBody opcode q m)
      (Accepts.guard ?_) fun q m => ?_
    · exact readOpCode_accepts _
    · simp only [opHeader_eq_iff, ne_eq, not_not]
      constructor
      · rintro ⟨hv, opcode, hc, hbody⟩
        exact ⟨opcode, ⟨hv, hc⟩, hbody⟩
      · rintro ⟨opcode, ⟨hv, hc⟩, hbody⟩
        exact ⟨hv, opcode, hc, hbody⟩
  · constructor
    · rintro ⟨header, q, rfl, opcode, hheader, hbody⟩
      rw [hheader]
      exact ⟨opcode, q, rfl, hbody⟩
    · rintro ⟨opcode, q, rfl, hbody⟩
      exact ⟨⟨opHeader opcode, by simp [opHeader]⟩, q, rfl, opcode, rfl, hbody⟩

/-! ### The synchronous decoders -/

/-- Behind the check for `n` bytes, the two header fields and then the body. -/
theorem decodeOpHeader_accepts {α : Type} {n : Nat} {short : Nat → Failure} (opcode : OpCode)
    {x : Reader Failure α} {R : List UInt8 → α → Prop} (hx : Accepts x R)
    (hlen : ∀ q a, R q a → n ≤ 4 + q.length) :
    Accepts (needs n short (decodeOpHeader opcode x))
      (fun p a => ∃ q, p = opHeader opcode ++ q ∧ R q a) := by
  apply Accepts.needs
  · refine (getU16_accepts.bind_spelled fun version => Accepts.guard
      (getU16_accepts.bind_spelled fun code => Accepts.guard hx)).congr fun p a => ?_
    simp only [ne_eq, not_not, opHeader]
    constructor
    · rintro ⟨_, _, rfl, rfl, _, q, rfl, rfl, h⟩
      exact ⟨q, (List.append_assoc ..).symm, h⟩
    · rintro ⟨q, rfl, h⟩
      exact ⟨_, _, List.append_assoc .., rfl, _, q, rfl, rfl, h⟩
  · rintro p a ⟨q, rfl, h⟩
    have := hlen q a h
    rw [List.length_append]
    simp [opHeader]
    omega

/-- A decoded value and the message it is the payload of. -/
theorem accepts_payload {α : Type} {x : Reader Failure α} {build : α → OpMessage}
    {opcode : OpCode} {R : List UInt8 → α → Prop}
    (hx : Accepts x (fun p a => ∃ q, p = opHeader opcode ++ q ∧ R q a))
    (hR : ∀ q m, (∃ a, m = build a ∧ R q a) ↔ OpBody opcode q m) :
    Accepts (x >>= fun a => pure (build a))
      (fun p m => ∃ q, p = opHeader opcode ++ q ∧ OpBody opcode q m) := by
  refine (hx.bind fun a => Accepts.pure (build a)).congr fun p m => ?_
  constructor
  · rintro ⟨_, _, a, rfl, ⟨q, rfl, h⟩, rfl, rfl⟩
    exact ⟨q, List.append_nil _, (hR q _).mp ⟨a, rfl, h⟩⟩
  · rintro ⟨q, rfl, h⟩
    obtain ⟨a, rfl, ha⟩ := (hR q m).mpr h
    exact ⟨_, [], a, (List.append_nil _).symm, ⟨q, rfl, ha⟩, rfl, rfl⟩

/-- **The grammar of one operation.** The decoder of each message type accepts the bodies of
its own operation behind the prefix that names it. -/
theorem decodeOp_accepts (opcode : OpCode) :
    Accepts (decodeOp opcode) (fun p m => ∃ q, p = opHeader opcode ++ q ∧ OpBody opcode q m) := by
  cases opcode with
  | opReqDevlist =>
      refine accepts_payload (decodeOpHeader_accepts _
        (getU32_accepts.bind_spelled fun _ => Accepts.pure ()) ?_) fun q m => ?_
      · rintro _ _ ⟨status, _, rfl, rfl, -⟩
        simp
      · constructor
        · rintro ⟨_, rfl, status, _, rfl, rfl, -⟩
          exact ⟨status, rfl, List.append_nil _⟩
        · rintro ⟨status, rfl, rfl⟩
          exact ⟨(), rfl, status, [], (List.append_nil _).symm, rfl, rfl⟩
  | opRepDevlist =>
      refine accepts_payload (decodeOpHeader_accepts _
        (getU32_accepts.bind_spelled fun status => getU32_accepts.bind_spelled fun n =>
          devlist_accepts decodeDeviceWithInterfaces_accepts _) ?_) fun q m => ?_
      · rintro _ _ ⟨status, _, rfl, n, _, rfl, -⟩
        simp [opHeaderSize]
        omega
      · constructor
        · rintro ⟨_, rfl, status, _, rfl, _, _, rfl, devices, rfl, hok, rfl, rfl⟩
          exact ⟨status, devices, rfl, hok, rfl⟩
        · rintro ⟨status, devices, rfl, hok, rfl⟩
          exact ⟨_, rfl, status, _, rfl, _, _, rfl, devices, rfl, hok, rfl, rfl⟩
  | opReqImport =>
      refine accepts_payload (decodeOpHeader_accepts _
        (getU32_accepts.bind_spelled fun _ => (copyToSlice_accepts 32).bind_spelled fun busid =>
          Accepts.pure _) ?_) fun q m => ?_
      · rintro _ _ ⟨status, _, rfl, busid, _, rfl, rfl, -⟩
        simp
      · constructor
        · rintro ⟨_, rfl, status, _, rfl, busid, _, rfl, rfl, rfl⟩
          exact ⟨status, busid, rfl, by rw [List.append_nil]⟩
        · rintro ⟨status, busid, rfl, rfl⟩
          exact ⟨_, rfl, status, _, rfl, busid, [], (List.append_nil _).symm, rfl, rfl⟩
  | opRepImport =>
      refine accepts_payload (decodeOpHeader_accepts _
        (getU32_accepts.bind_spelled fun status => Accepts.ite
          (UsbDevice.decode_accepts.bind fun d => Accepts.pure _) (Accepts.pure _)) ?_)
        fun q m => ?_
      · rintro _ _ ⟨status, _, rfl, -⟩
        simp [opHeaderSize]
        omega
      · constructor
        · rintro ⟨_, rfl, status, _, rfl, ⟨hzero, _, _, d, rfl, ⟨hnone, rfl⟩, rfl, rfl⟩ |
            ⟨hne, rfl, rfl⟩⟩
          · exact ⟨status, Or.inl ⟨hzero, d, hnone, rfl, by rw [List.append_nil]⟩⟩
          · exact ⟨status, Or.inr ⟨hne, rfl, List.append_nil _⟩⟩
        · rintro ⟨status, ⟨hzero, d, hnone, rfl, rfl⟩ | ⟨hne, rfl, rfl⟩⟩
          · exact ⟨_, rfl, status, _, rfl, Or.inl ⟨hzero, _, [], d, (List.append_nil _).symm,
              ⟨hnone, rfl⟩, rfl, rfl⟩⟩
          · exact ⟨_, rfl, status, [], (List.append_nil _).symm, Or.inr ⟨hne, rfl, rfl⟩⟩

/-! ### The checks cover the reads -/

theorem UsbDevice.decode_avoids_panic : Avoids Failure.IsPanic UsbDevice.decode := by
  apply Avoids.needs
  · exact (copyToSlice_covers devicePathSize).bind fun _ =>
      (copyToSlice_covers busidSize).bind fun _ =>
      getU32_covers.bind fun _ => getU32_covers.bind fun _ => getU32_covers.bind fun _ =>
      getU16_covers.bind fun _ => getU16_covers.bind fun _ => getU16_covers.bind fun _ =>
      getU8_covers.bind fun _ => getU8_covers.bind fun _ => getU8_covers.bind fun _ =>
      getU8_covers.bind fun _ => getU8_covers.bind fun _ => getU8_covers.bind fun _ =>
      Covers.pure _
  · intro _
    exact Failure.not_isPanic_error _

theorem UsbInterface.decode_avoids_panic : Avoids Failure.IsPanic UsbInterface.decode := by
  apply Avoids.needs
  · exact getU8_covers.bind fun _ => getU8_covers.bind fun _ => getU8_covers.bind fun _ =>
      getU8_covers.bind fun _ => Covers.pure _
  · intro _
    exact Failure.not_isPanic_error _

theorem decodeDeviceWithInterfaces_avoids_panic :
    Avoids Failure.IsPanic decodeDeviceWithInterfaces := by
  refine UsbDevice.decode_avoids_panic.bind fun base => ?_
  apply Avoids.needs_from
  · exact ((UsbInterface.decode_avoids_panic.items _).bind fun _ => Avoids.pure _).from _
  · intro _
    exact Failure.not_isPanic_error _

/-- The check for `4 + n` bytes covers the two header fields and leaves `n` bytes
for the body. -/
theorem decodeOpHeader_avoids_panic {α : Type} {n : Nat} {k : Nat} (opcode : OpCode)
    {x : Reader Failure α} (hx : AvoidsFrom n Failure.IsPanic x) :
    Avoids Failure.IsPanic (needs (2 + (2 + n)) (bufferTooShort k) (decodeOpHeader opcode x)) := by
  apply Avoids.needs_from
  · exact AvoidsFrom.bind getU16_covers fun _ => AvoidsFrom.ite
      ((Avoids.throw (Failure.not_isPanic_error _)).from _)
      (AvoidsFrom.bind getU16_covers fun _ => AvoidsFrom.ite
        ((Avoids.throw (Failure.not_isPanic_error _)).from _) hx)
  · intro _
    exact Failure.not_isPanic_error _

/-- No decoder reaches an accessor with too few bytes left. -/
theorem decodeOp_avoids_panic (opcode : OpCode) : Avoids Failure.IsPanic (decodeOp opcode) := by
  cases opcode with
  | opReqDevlist =>
      refine (decodeOpHeader_avoids_panic (n := 4) _ ?_).bind fun _ => Avoids.pure _
      exact AvoidsFrom.bind getU32_covers fun _ => (Avoids.pure _).from 0
  | opRepDevlist =>
      refine (decodeOpHeader_avoids_panic (n := 8) _ ?_).bind fun _ => Avoids.pure _
      exact AvoidsFrom.bind getU32_covers fun _ => AvoidsFrom.bind (n := 0) getU32_covers fun _ =>
        AvoidsFrom.ite ((Avoids.throw (Failure.not_isPanic_error _)).from _)
          (((decodeDeviceWithInterfaces_avoids_panic.items _).bind fun _ => Avoids.pure _).from _)
  | opReqImport =>
      refine (decodeOpHeader_avoids_panic (n := 36) _ ?_).bind fun _ => Avoids.pure _
      exact AvoidsFrom.bind getU32_covers fun _ => AvoidsFrom.bind (copyToSlice_covers 32) fun _ =>
        (Avoids.pure _).from 0
  | opRepImport =>
      refine (decodeOpHeader_avoids_panic (n := 4) _ ?_).bind fun _ => Avoids.pure _
      exact AvoidsFrom.bind (n := 0) getU32_covers fun _ => AvoidsFrom.ite
        ((UsbDevice.decode_avoids_panic.bind fun _ => Avoids.pure _).from _)
        ((Avoids.pure _).from _)

theorem readDevice_avoids_panic : Avoids Failure.IsPanic readDevice :=
  (readExact_avoids_panic _).bind fun _ => (UsbDevice.decode_avoids_panic.onBuffer _).bind fun _ =>
    Avoids.ite ((readExact_avoids_panic _).bind fun _ =>
      ((UsbInterface.decode_avoids_panic.items _).onBuffer _).bind fun _ => .pure _) (.pure _)

theorem readAfterOpCode_avoids_panic (opcode : OpCode) :
    Avoids Failure.IsPanic (readAfterOpCode opcode) := by
  cases opcode with
  | opReqDevlist => exact (readExact_avoids_panic _).bind fun _ => .pure _
  | opRepDevlist =>
      exact (readExact_avoids_panic _).bind fun _ => Avoids.ite
        (Avoids.throw (Failure.not_isPanic_error _))
        ((readDevice_avoids_panic.items _).bind fun _ => .pure _)
  | opReqImport => exact (readExact_avoids_panic _).bind fun _ => .pure _
  | opRepImport =>
      exact (readExact_avoids_panic _).bind fun _ => Avoids.ite
        ((readExact_avoids_panic _).bind fun _ =>
          (UsbDevice.decode_avoids_panic.onBuffer _).bind fun _ => .pure _) (.pure _)

theorem readOpMessage_avoids_panic : Avoids Failure.IsPanic readOpMessage := by
  refine (readExact_avoids_panic _).bind fun header => Avoids.ite
    (Avoids.throw (Failure.not_isPanic_error _)) ?_
  show Avoids Failure.IsPanic (match OpCode.fromRaw (u16At header 2 (by decide)) with
    | none => throw (.error (.invalidOpCode (u16At header 2 (by decide))))
    | some opcode => readAfterOpCode opcode)
  split
  · exact Avoids.throw (Failure.not_isPanic_error _)
  · exact readAfterOpCode_avoids_panic _

/-! ### Round trip -/

/-- The variant's operation code. -/
def OpMessage.opcode : OpMessage → OpCode
  | .reqDevlist => .opReqDevlist
  | .repDevlist _ => .opRepDevlist
  | .reqImport _ => .opReqImport
  | .repImport _ => .opRepImport

/-- A message whose counts agree with its lists and whose import reply carries a
record, without interfaces, exactly when its status is zero. -/
def OpMessage.WellFormed : OpMessage → Prop
  | .reqDevlist => True
  | .repDevlist m => m.devices.length ≤ 256 ∧ ∀ d ∈ m.devices, d.CountOk
  | .reqImport _ => True
  | .repImport m => match m.device with
    | some d => m.status = 0 ∧ d.interfaces = []
    | none => m.status ≠ 0

instance : DecidablePred OpMessage.WellFormed
  | .reqDevlist => .isTrue trivial
  | .repDevlist _ => inferInstanceAs (Decidable (_ ∧ _))
  | .reqImport _ => .isTrue trivial
  | .repImport ⟨_, some _⟩ => inferInstanceAs (Decidable (_ ∧ _))
  | .repImport ⟨_, none⟩ => inferInstanceAs (Decidable (_ ≠ _))

/-- The encoding of a well-formed message is in the grammar, and with it what the writer sends
is read. -/
theorem OpMessage.WellFormed.spelled {m : OpMessage} (h : m.WellFormed) :
    ∃ q, m.encode = opHeader m.opcode ++ q ∧ OpBody m.opcode q m := by
  cases m with
  | reqDevlist => exact ⟨u32Bytes 0, rfl, 0, rfl, rfl⟩
  | repDevlist m =>
      refine ⟨_, ?_, m.status, m.devices, rfl, h, rfl⟩
      simp only [encode, OpRepDevlist.encode, opHeader, opcode, List.append_assoc]
  | reqImport m =>
      refine ⟨_, ?_, 0, m.busid, rfl, rfl⟩
      simp only [encode, OpReqImport.encode, opHeader, opcode, List.append_assoc]
  | repImport m =>
      obtain ⟨status, device⟩ := m
      cases device with
      | some d =>
          refine ⟨_, ?_, status, Or.inl ⟨h.1, d, h.2, rfl, rfl⟩⟩
          simp only [encode, OpRepImport.encode, opHeader, opcode, List.append_assoc]
      | none =>
          refine ⟨_, ?_, status, Or.inr ⟨h, rfl, rfl⟩⟩
          simp only [encode, OpRepImport.encode, opHeader, opcode, List.append_assoc,
            List.append_nil]

/-- Every message is as long on the wire as `wire_size` says, well formed or not. -/
theorem OpMessage.length_encode (m : OpMessage) : m.encode.length = m.wireSize := by
  cases m with
  | reqDevlist => simp [encode, wireSize, opHeaderSize]
  | repDevlist m =>
      have hdevice : ∀ d : UsbDevice, (encodeDeviceWithInterfaces d).length =
          usbDeviceWireSize + d.interfaces.length * usbInterfaceWireSize := by
        intro d
        rw [encodeDeviceWithInterfaces, List.length_append, d.length_encode,
          length_flatMap_interfaces]
      simp [encode, OpRepDevlist.encode, wireSize, opHeaderSize, List.length_flatMap, hdevice]
      omega
  | reqImport m => simp [encode, OpReqImport.encode, wireSize, opReqImportSize, busidSize]
  | repImport m =>
      obtain ⟨status, device⟩ := m
      cases device with
      | some d => simp [encode, OpRepImport.encode, wireSize, opHeaderSize, usbDeviceWireSize]
      | none => simp [encode, OpRepImport.encode, wireSize, opHeaderSize]

/-- A well-formed message is read back from its own encoding, whatever follows; the induction
over streams rests on this. -/
theorem readOpMessage_encode {m : OpMessage} (h : m.WellFormed) (rest : List UInt8) :
    readOpMessage (m.encode ++ rest) = .ok (m, rest) := by
  obtain ⟨q, hencode, hbody⟩ := h.spelled
  exact readOpMessage_accepts.read ⟨m.opcode, q, hencode, hbody⟩ rest

theorem foldl_writeOpMessage (msgs : List OpMessage) (written : List UInt8) :
    msgs.foldl writeOpMessage written = written ++ msgs.flatMap OpMessage.encode := by
  induction msgs generalizing written with
  | nil => simp
  | cons m msgs ih => rw [List.foldl_cons, ih, writeOpMessage, List.flatMap_cons,
      List.append_assoc]

/-- **Discovery round trip.** Well-formed messages written one after the other,
with any bytes behind them, are read back as the same list by as many reads, which
stop exactly at the trailing bytes; each message is emitted in `wire_size` bytes. -/
theorem opStream_roundtrip (msgs : List OpMessage) (trailing : List UInt8)
    (hwf : ∀ m ∈ msgs, m.WellFormed) :
    items readOpMessage msgs.length (msgs.foldl writeOpMessage [] ++ trailing) =
        .ok (msgs, trailing) ∧
      ∀ m ∈ msgs, (writeOpMessage [] m).length = m.wireSize := by
  refine ⟨?_, fun m _ => m.length_encode⟩
  rw [foldl_writeOpMessage, List.nil_append]
  exact items_encodeAll msgs (fun m hm rest => readOpMessage_encode (hwf m hm) rest) trailing

/-- A keyboard with two interfaces. -/
def sampleUsbDevice : UsbDevice :=
  { path := pathFromStr "/sys/bus/1-2", busid := Bytes.zeroPadded [49, 45, 50] (by decide)
    busnum := 1, devnum := 4, speed := 3, idVendor := 0x046d, idProduct := 0xc31c
    bcdDevice := 0x0110, deviceClass := 0, deviceSubclass := 0, deviceProtocol := 0
    configurationValue := 1, numConfigurations := 1, numInterfaces := 2
    interfaces := [{ interfaceClass := 3, interfaceSubclass := 1, interfaceProtocol := 1
                     padding := 0 },
                   { interfaceClass := 3, interfaceSubclass := 0, interfaceProtocol := 0
                     padding := 0 }] }

/-- One message of each kind, with a failed import beside a successful one. -/
def sampleDiscovery : List OpMessage :=
  [.reqDevlist,
   .repDevlist { status := 0, devices := [sampleUsbDevice, sampleUsbDevice] },
   .reqImport { busid := sampleUsbDevice.busid },
   .repImport { status := 0, device := some { sampleUsbDevice with interfaces := [] } },
   .repImport { status := 1, device := none }]

theorem opStream_roundtrip_sampleDiscovery :
    (∀ m ∈ sampleDiscovery, m.WellFormed) ∧
      items readOpMessage 5 (sampleDiscovery.foldl writeOpMessage [] ++ [255]) =
        .ok (sampleDiscovery, [255]) :=
  ⟨by decide +kernel, (opStream_roundtrip sampleDiscovery [255] (by decide +kernel)).1⟩

end Extender.Protocol
