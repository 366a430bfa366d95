/-
The two decoders of the crate agree.

Every message is decoded by two hand-written implementations: the incremental stream reader of
`codec.rs` and the `WireFormat::decode` of the message type. Both were shown to decide the
same grammar (`UrbGrammar`, `UrbDecode`, `DiscoveryGrammar`), so on one byte string they
succeed together, with the same message and the same bytes left, or fail together, and a
failure is always an error and never a panic. Which error it is may differ: the stream reader
runs out of input where the cursor decoder finds its buffer too short.

Which type's decoder the stream reader is compared with is read off the input: the command
field of a URB message is its first word, the operation code of a discovery message its second
half-word. An input too short to have one, or with a code that names no type, is an error of
the stream reader.

* `readUrbMessage_selects`, `readOpMessage_selects` — a message that was read is of the type
  its selecting field names.
* `decoders_agree` — the agreement, over every byte string and both phases.
-/

import Extender.Protocol.DiscoveryGrammar
import Extender.Protocol.UrbDecode

namespace Extender.Protocol

open BigEndian ByteReader

/-- Two decodings of one input: the same message with the same bytes left, or an
error on both sides. -/
def Agree {α : Type} (a b : Except Failure (α × List UInt8)) : Prop :=
  (∃ r, a = .ok r ∧ b = .ok r) ∨ ((∃ e, a = .error (.error e)) ∧ ∃ e, b = .error (.error e))

/-- Readers with the same successes that never panic agree. -/
theorem agree_of_eq_ok_iff {α : Type} {x y : Reader Failure α} {w : List UInt8}
    (hx : Avoids Failure.IsPanic x) (hy : Avoids Failure.IsPanic y)
    (h : ∀ r, x w = .ok r ↔ y w = .ok r) : Agree (x w) (y w) := by
  cases hxw : x w with
  | ok r => exact Or.inl ⟨r, rfl, (h r).mp hxw⟩
  | error f =>
      cases hyw : y w with
      | ok r =>
          rw [(h r).mpr hyw] at hxw
          cases hxw
      | error g =>
          cases f with
          | panic => exact absurd rfl (hx w _ hxw)
          | error e =>
              cases g with
              | panic => exact absurd rfl (hy w _ hyw)
              | error e' => exact Or.inr ⟨⟨e, rfl⟩, e', rfl⟩

/-! ### The selecting field -/

/-- The command field of a URB message, if the input is long enough to have one. -/
def commandField (w : List UInt8) : Option UInt32 :=
  if h : 4 ≤ w.length then some (u32OfBytes ⟨w.take 4, by rw [List.length_take]; omega⟩) else none

/-- The operation code of a discovery message, if the input is long enough to have
one. -/
def opcodeField (w : List UInt8) : Option UInt16 :=
  if h : 4 ≤ w.length then
    some (u16OfBytes ⟨(w.drop 2).take 2, by rw [List.length_take, List.length_drop]; omega⟩)
  else none

theorem commandField_append (header : UsbipHeaderBasic) (rest : List UInt8) :
    commandField (header.encode ++ rest) = some header.command := by
  have hle : 4 ≤ (header.encode ++ rest).length := by
    rw [List.length_append, header.length_encode]
    omega
  have htake : (header.encode ++ rest).take 4 = u32Bytes header.command := by
    simp only [UsbipHeaderBasic.encode, List.append_assoc]
    exact List.take_left' (length_u32Bytes _)
  rw [commandField, dif_pos hle, Option.some_inj, u32OfBytes_eq_iff]
  exact htake

theorem opcodeField_append (opcode : OpCode) (rest : List UInt8) :
    opcodeField (opHeader opcode ++ rest) = some opcode.code := by
  have hle : 4 ≤ (opHeader opcode ++ rest).length := by
    rw [List.length_append]
    simp [opHeader]
  have hdrop : ((opHeader opcode ++ rest).drop 2).take 2 = u16Bytes opcode.code := by
    rw [opHeader, List.append_assoc, List.drop_left' (length_u16Bytes _)]
    exact List.take_left' (length_u16Bytes _)
  rw [opcodeField, dif_pos hle, Option.some_inj, u16OfBytes_eq_iff]
  exact hdrop

/-- A URB message read from the stream is of the type its first word selects, which is how a
decoder is chosen for it. -/
theorem readUrbMessage_selects {w : List UInt8} {m : UrbMessage} {rest : List UInt8}
    (h : readUrbMessage w = .ok (m, rest)) :
    (commandField w).bind Command.fromRaw = some m.command := by
  obtain ⟨p, rfl, hwf, heq⟩ := (readUrbMessage_accepts _ _ _).mp h
  obtain ⟨q, rfl⟩ := exists_eq_header_append heq
  rw [List.append_assoc, commandField_append, Option.bind_some, Command.fromRaw_eq_some_iff]
  exact hwf.header_command

/-- The body of an operation makes a message of that operation. -/
theorem OpBody.opcode_eq {opcode : OpCode} {q : List UInt8} {m : OpMessage}
    (h : OpBody opcode q m) : m.opcode = opcode := by
  cases opcode with
  | opReqDevlist =>
      obtain ⟨_, rfl, -⟩ := h
      rfl
  | opRepDevlist =>
      obtain ⟨_, _, rfl, -⟩ := h
      rfl
  | opReqImport =>
      obtain ⟨_, _, rfl, -⟩ := h
      rfl
  | opRepImport =>
      obtain ⟨_, ⟨-, _, -, rfl, -⟩ | ⟨-, rfl, -⟩⟩ := h
      · rfl
      · rfl

/-- A discovery message read from the stream is of the type its opcode selects. -/
theorem readOpMessage_selects {w : List UInt8} {m : OpMessage} {rest : List UInt8}
    (h : readOpMessage w = .ok (m, rest)) :
    (opcodeField w).bind OpCode.fromRaw = some m.opcode := by
  obtain ⟨p, rfl, opcode, q, rfl, hbody⟩ := (readOpMessage_accepts _ _ _).mp h
  rw [List.append_assoc, opcodeField_append, Option.bind_some, OpCode.fromRaw_eq_some_iff,
    hbody.opcode_eq]

/-! ### Agreement -/

theorem readUrbMessage_eq_ok_iff {w : List UInt8} {command : Command}
    (hw : (commandField w).bind Command.fromRaw = some command) (r : UrbMessage × List UInt8) :
    readUrbMessage w = .ok r ↔ decodeUrb command w = .ok r := by
  obtain ⟨m, rest⟩ := r
  rw [decodeUrb_accepts command w m rest]
  constructor
  · intro h
    obtain ⟨p, rfl, hm⟩ := (readUrbMessage_accepts _ _ _).mp h
    have hselect := readUrbMessage_selects h
    rw [hw, Option.some_inj] at hselect
    exact ⟨p, rfl, hselect.symm, hm⟩
  · rintro ⟨p, rfl, -, hm⟩
    exact readUrbMessage_accepts.read hm rest

theorem readOpMessage_eq_ok_iff {w : List UInt8} {opcode : OpCode}
    (hw : (opcodeField w).bind OpCode.fromRaw = some opcode) (r : OpMessage × List UInt8) :
    readOpMessage w = .ok r ↔ decodeOp opcode w = .ok r := by
  obtain ⟨m, rest⟩ := r
  rw [decodeOp_accepts opcode w m rest]
  constructor
  · intro h
    obtain ⟨p, rfl, opcode', q, rfl, hbody⟩ := (readOpMessage_accepts _ _ _).mp h
    have hselect := readOpMessage_selects h
    rw [hw, Option.some_inj, hbody.opcode_eq] at hselect
    subst hselect
    exact ⟨_, rfl, q, rfl, hbody⟩
  · rintro ⟨p, rfl, q, rfl, hbody⟩
    exact readOpMessage_accepts.read ⟨opcode, q, rfl, hbody⟩ rest

/-- A reader without a success on this input ends in an error. -/
theorem exists_error_of_avoids {α : Type} {x : Reader Failure α} {w : List UInt8}
    (hx : Avoids Failure.IsPanic x) (h : ∀ r, x w ≠ .ok r) : ∃ e, x w = .error (.error e) := by
  cases hxw : x w with
  | ok r => exact absurd hxw (h r)
  | error f =>
      cases f with
      | panic => exact absurd rfl (hx w _ hxw)
      | error e => exact ⟨e, rfl⟩

/-- **The two decoders agree.** On every byte string the stream reader and the
decoder of the type the input selects agree on the message and on the bytes left,
or both return an error; an input that selects no type is an error. None of the
synchronous decoders panics on any input. -/
theorem decoders_agree (w : List UInt8) :
    (match (commandField w).bind Command.fromRaw with
      | some command => Agree (readUrbMessage w) (decodeUrb command w)
      | none => ∃ e, readUrbMessage w = .error (.error e)) ∧
    (match (opcodeField w).bind OpCode.fromRaw with
      | some opcode => Agree (readOpMessage w) (decodeOp opcode w)
      | none => ∃ e, readOpMessage w = .error (.error e)) ∧
    (∀ command, decodeUrb command w ≠ .error .panic) ∧
    (∀ opcode, decodeOp opcode w ≠ .error .panic) ∧
    UsbipHeaderBasic.decode w ≠ .error .panic ∧ IsoPacketDescriptor.decode w ≠ .error .panic ∧
    UsbDevice.decode w ≠ .error .panic ∧ UsbInterface.decode w ≠ .error .panic ∧
    decodeDeviceWithInterfaces w ≠ .error .panic := by
  have hno : ∀ {α : Type} {x : Reader Failure α}, Avoids Failure.IsPanic x →
      x w ≠ .error .panic := fun hx h => hx w _ h rfl
  refine ⟨?_, ?_, fun command => hno (decodeUrb_avoids_panic command),
    fun opcode => hno (decodeOp_avoids_panic opcode), hno UsbipHeaderBasic.decode_avoids_panic,
    hno IsoPacketDescriptor.decode_avoids_panic, hno UsbDevice.decode_avoids_panic,
    hno UsbInterface.decode_avoids_panic, hno decodeDeviceWithInterfaces_avoids_panic⟩
  · split
    · rename_i command hw
      exact agree_of_eq_ok_iff readUrbMessage_avoids_panic (decodeUrb_avoids_panic command)
        (readUrbMessage_eq_ok_iff hw)
    · rename_i hw
      apply exists_error_of_avoids readUrbMessage_avoids_panic
      rintro ⟨m, rest⟩ h
      rw [readUrbMessage_selects h] at hw
      cases hw
  · split
    · rename_i opcode hw
      exact agree_of_eq_ok_iff readOpMessage_avoids_panic (decodeOp_avoids_panic opcode)
        (readOpMessage_eq_ok_iff hw)
    · rename_i hw
      apply exists_error_of_avoids readOpMessage_avoids_panic
      rintro ⟨m, rest⟩ h
      rw [readOpMessage_selects h] at hw
      cases hw

end Extender.Protocol
