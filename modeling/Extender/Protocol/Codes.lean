/-
Protocol codes and errors of the USB/IP crate (`codes.rs`, `error.rs`), and its two sources of
bytes.

USB/IP has two phases. Discovery messages start with a version and an operation code
(`OpCode`), URB messages with a command (`Command`); both codes are closed sets, and
`from_raw` rejects everything outside them.

A decoder of the crate ends in one of three ways: a value, a `ProtocolError` returned to the
caller, or a panic (the `Buf::get_*` calls panic when the buffer is too short). `Failure`
keeps the last two apart, so that "returns an error" is a statement about the code and not
about the model's option type. Of `std::io::Error` only the kind at the end of a stream is
told apart from the others.

Bytes come from an async reader, through `read_exact`, or from a byte cursor, through the
`Buf` accessors. Both take bytes from the front; they differ in how they end when there are
not enough, `read_exact` with an error and the accessors with a panic. For each accessor there
is one lemma that says what it accepts (`getU32_accepts` and its siblings) and one that says
how many bytes are enough for it (`getU32_covers` and its siblings): with these, a decoder is
read off its text, and a check of `remaining()` in front of it is seen to cover its reads.
-/

import Extender.Lib.ByteReader

namespace Extender.Protocol

open BigEndian ByteReader

/-! ### Codes (`codes.rs`) -/

/-- USB/IP protocol version v1.1.1, which every discovery message starts with. -/
def usbipVersion : UInt16 := 0x0111

/-- Operation codes of the discovery phase; the highest bit marks a request. -/
inductive OpCode where
  | opReqDevlist
  | opRepDevlist
  | opReqImport
  | opRepImport
deriving DecidableEq, Repr

/-- `OpCode as u16`. -/
def OpCode.code : OpCode → UInt16
  | .opReqDevlist => 0x8005
  | .opRepDevlist => 0x0005
  | .opReqImport => 0x8003
  | .opRepImport => 0x0003

/-- `OpCode::from_raw`: every value that is not one of the four codes is rejected. -/
def OpCode.fromRaw (value : UInt16) : Option OpCode :=
  if value = 0x8005 then some .opReqDevlist
  else if value = 0x0005 then some .opRepDevlist
  else if value = 0x8003 then some .opReqImport
  else if value = 0x0003 then some .opRepImport
  else none

/-- Command codes of the URB phase. -/
inductive Command where
  | cmdSubmit
  | cmdUnlink
  | retSubmit
  | retUnlink
deriving DecidableEq, Repr

/-- `Command as u32`. -/
def Command.code : Command → UInt32
  | .cmdSubmit => 0x00000001
  | .cmdUnlink => 0x00000002
  | .retSubmit => 0x00000003
  | .retUnlink => 0x00000004

/-- `Command::from_raw`: every value that is not one of the four commands is rejected. -/
def Command.fromRaw (value : UInt32) : Option Command :=
  if value = 0x00000001 then some .cmdSubmit
  else if value = 0x00000002 then some .cmdUnlink
  else if value = 0x00000003 then some .retSubmit
  else if value = 0x00000004 then some .retUnlink
  else none

theorem Command.fromRaw_eq_some_iff {value : UInt32} {command : Command} :
    Command.fromRaw value = some command ↔ value = command.code := by
  constructor
  · unfold Command.fromRaw
    intro h
    split at h
    · cases h
      assumption
    · split at h
      · cases h
        assumption
      · split at h
        · cases h
          assumption
        · split at h
          · cases h
            assumption
          · cases h
  · rintro rfl
    cases command <;> rfl

/-! ### Errors (`error.rs`) -/

/-- The kinds of `std::io::Error` the code tells apart. -/
inductive IoErrorKind where
  | unexpectedEof
  | other
deriving DecidableEq, Repr

/-- The errors of the crate that a modelled function returns, each with the values it reports. -/
inductive ProtocolError where
  | invalidCommand (code : UInt32)
  | invalidOpCode (code : UInt16)
  | bufferTooShort (needed available : Nat)
  | invalidBusId (reason : String)
  | unsupportedVersion (version : UInt16)
  | io (kind : IoErrorKind)
  | remoteError (status : UInt32)
  | transferTooLarge (length max : UInt32)
  | tooManyDevices (count max : UInt32)
  | tooManyIsoPackets (count max : UInt32)
deriving DecidableEq, Repr

/-- How a decoder ends without a value: an error for the caller, or a panic. -/
inductive Failure where
  | error (e : ProtocolError)
  | panic
deriving DecidableEq, Repr

def Failure.IsPanic (f : Failure) : Prop := f = .panic

theorem Failure.not_isPanic_error (e : ProtocolError) : ¬ (Failure.error e).IsPanic := by
  intro h
  cases h

/-- The stream ended, or has not delivered enough yet. -/
def Failure.IsEof (f : Failure) : Prop := f = .error (.io .unexpectedEof)

instance : DecidablePred Failure.IsEof :=
  fun f => inferInstanceAs (Decidable (f = .error (.io .unexpectedEof)))

/-! ### The two byte sources

`read_exact` on an async reader, and the `Buf` accessors of a byte cursor. -/

/-- `AsyncReadExt::read_exact` on a stream that ends after the given bytes: it takes all `n`,
or fails as at the end of the stream. -/
def readExact (n : Nat) : Reader Failure (Bytes n) :=
  takeExact (.error (.io .unexpectedEof)) n

/-- `Buf::copy_to_slice` into an array of `n` bytes, which panics on a short buffer. -/
def copyToSlice (n : Nat) : Reader Failure (Bytes n) := takeExact .panic n

/-- `Buf::get_u8`, which panics on a short buffer. -/
def getU8 : Reader Failure UInt8 := do
  let bs ← takeExact .panic 1
  pure (UInt8.ofNat (ofBytes bs.val))

/-- `Buf::get_u16`, which panics on a short buffer. -/
def getU16 : Reader Failure UInt16 := do
  let bs ← takeExact .panic 2
  pure (u16OfBytes bs)

/-- `Buf::get_u32`, which panics on a short buffer. -/
def getU32 : Reader Failure UInt32 := do
  let bs ← takeExact .panic 4
  pure (u32OfBytes bs)

/-- `Buf::get_i32`, which panics on a short buffer. -/
def getI32 : Reader Failure Int32 := do
  let bs ← takeExact .panic 4
  pure (i32OfBytes bs)

/-- `Buf::get_u64`, which panics on a short buffer. -/
def getU64 : Reader Failure UInt64 := do
  let bs ← takeExact .panic 8
  pure (UInt64.ofNat (ofBytes bs.val))

/-- `Buf::advance`, which panics on a short buffer. -/
def advance (n : Nat) : Reader Failure Unit := do
  let _ ← takeExact .panic n
  pure ()

/-- `Buf::copy_to_bytes`, which panics on a short buffer. -/
def copyToBytes (n : Nat) : Reader Failure (List UInt8) := do
  let bs ← takeExact .panic n
  pure bs.val

/-- `u32::from_be_bytes` of the four bytes at `i`. -/
def u32At {n : Nat} (fields : Bytes n) (i : Nat) (h : i + 4 ≤ n) : UInt32 :=
  u32OfBytes (fields.slice i 4 h)

/-- `u16::from_be_bytes` of the two bytes at `i`. -/
def u16At {n : Nat} (fields : Bytes n) (i : Nat) (h : i + 2 ≤ n) : UInt16 :=
  u16OfBytes (fields.slice i 2 h)

/-- `i32::from_be_bytes` of the four bytes at `i`. -/
def i32At {n : Nat} (fields : Bytes n) (i : Nat) (h : i + 4 ≤ n) : Int32 :=
  i32OfBytes (fields.slice i 4 h)

theorem getU8_accepts : Accepts getU8 (fun p x => p = [x]) :=
  Accepts.word (fun _ => rfl) ofNat_ofBytes_eq_iff

theorem getU16_accepts : Accepts getU16 (fun p x => p = u16Bytes x) :=
  Accepts.word length_u16Bytes u16OfBytes_eq_iff

theorem getU32_accepts : Accepts getU32 (fun p x => p = u32Bytes x) :=
  Accepts.word length_u32Bytes u32OfBytes_eq_iff

theorem getI32_accepts : Accepts getI32 (fun p x => p = i32Bytes x) :=
  Accepts.word length_i32Bytes i32OfBytes_eq_iff

theorem copyToSlice_accepts (n : Nat) : Accepts (copyToSlice n) (fun p bs => p = bs.val) :=
  Accepts.takeExact _ n

/-- `copy_to_bytes` accepts every byte string of the length asked for. -/
theorem copyToBytes_accepts (n : Nat) :
    Accepts (copyToBytes n) (fun p bs => p = bs ∧ bs.length = n) :=
  ((Accepts.takeExact _ n).bind_spelled fun bs => Accepts.pure bs.val).congr fun p bs => by
    constructor
    · rintro ⟨bs, _, rfl, rfl, rfl⟩
      exact ⟨List.append_nil _, bs.property⟩
    · rintro ⟨rfl, hlen⟩
      exact ⟨⟨p, hlen⟩, [], (List.append_nil p).symm, rfl, rfl⟩

theorem advance_accepts (n : Nat) : Accepts (advance n) (fun p _ => p.length = n) :=
  ((Accepts.takeExact _ n).bind_spelled fun _ => Accepts.pure ()).congr fun p _ => by
    constructor
    · rintro ⟨bs, _, rfl, rfl, -⟩
      rw [List.append_nil, bs.property]
    · intro hlen
      exact ⟨⟨p, hlen⟩, [], (List.append_nil p).symm, rfl, rfl⟩

/-- `get_u64` whose value is not used accepts any eight bytes. -/
theorem getU64_accepts :
    Accepts getU64 (fun p x => p.length = 8 ∧ x = UInt64.ofNat (ofBytes p)) :=
  ((Accepts.takeExact _ 8).bind_spelled fun bs =>
    Accepts.pure (UInt64.ofNat (ofBytes bs.val))).congr fun p x => by
    constructor
    · rintro ⟨bs, _, rfl, rfl, rfl⟩
      rw [List.append_nil]
      exact ⟨bs.property, rfl⟩
    · rintro ⟨hlen, rfl⟩
      exact ⟨⟨p, hlen⟩, [], (List.append_nil p).symm, rfl, rfl⟩

theorem getU8_covers : Covers 1 getU8 :=
  (Covers.takeExact _ 1).bind fun _ => Covers.pure _

theorem getU16_covers : Covers 2 getU16 :=
  (Covers.takeExact _ 2).bind fun _ => Covers.pure _

theorem getU32_covers : Covers 4 getU32 :=
  (Covers.takeExact _ 4).bind fun _ => Covers.pure _

theorem getI32_covers : Covers 4 getI32 :=
  (Covers.takeExact _ 4).bind fun _ => Covers.pure _

theorem getU64_covers : Covers 8 getU64 :=
  (Covers.takeExact _ 8).bind fun _ => Covers.pure _

theorem advance_covers (n : Nat) : Covers n (advance n) :=
  (Covers.takeExact _ n).bind fun _ => Covers.pure _

theorem copyToBytes_covers (n : Nat) : Covers n (copyToBytes n) :=
  (Covers.takeExact _ n).bind fun _ => Covers.pure _

theorem copyToSlice_covers (n : Nat) : Covers n (copyToSlice n) :=
  Covers.takeExact _ n

end Extender.Protocol
