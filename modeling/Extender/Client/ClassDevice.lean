/-
What the class drivers have in common (`mass_storage.rs`, `hid.rs`, `network.rs`, `serial.rs`,
`audio.rs`).

Each driver owns the connection to a server it has imported a device from. A method is a
script: it numbers submissions, writes them and reads the next message as the answer. The
number of the answer is not looked at, so that which answer a method gets is decided by what
was read before it: a message too many or too few moves every later answer to another request.

The helpers that build a submission differ from driver to driver in the endpoint, the setup
packet and the buffer only. They are one function of a `Transfer` here, and each driver keeps
its helpers under the source's names as this function at their own values.

A `Driver` is what the results about all five drivers quantify over: its methods, what its
device is right after `connect`, and the proof that every method waits for the answer to each
of its submissions. Scripts and their conversations are those of `Lib.Dialogue`.

* `Paced.submit`, `Paced.awaitReturn` — a submission takes the next number, and what is read
  for it is a `RET_SUBMIT` with status 0 or ends the method.
* `ends_submit`, `ends_awaitReturn_ok` — the conversations of these two.
* `requests_submit` — what a method has written by its end, if it submits once.
-/

import Extender.Lib.Dialogue
import Extender.Lib.Text
import Extender.Protocol.UrbGrammar

namespace Extender.Client

open BigEndian Dialogue Extender.Protocol

/-! ### Drivers and their errors -/

/-- The drivers; each has a variant of `ClientError` for errors of its own. -/
inductive DeviceClass where
  | massStorage
  | hid
  | network
  | serial
  | audio
deriving DecidableEq, Repr

/-- How a method ends without a value. `unexpected` is the error of a driver whose text is
`expected RetSubmit, got` and the message. -/
inductive DriverError where
  | io
  | protocol (e : Failure)
  | device (kind : DeviceClass) (text : String)
  | unexpected (kind : DeviceClass) (other : UrbMessage)
  | panicked
deriving DecidableEq, Repr

/-- What a method returns with `Ok`; for one that fills a buffer of the caller, with the
buffer as it leaves it. -/
inductive Output where
  | unit
  | bytes (data : List UInt8)
  | count (n : Nat)
  | filled (n : Nat) (buf : List UInt8)
  | rates (rates : List UInt32)
deriving DecidableEq, Repr

/-- A driver's fields: the imported device, the next sequence number, and those of the class. -/
structure ClassDevice (δ : Type) where
  devid : UInt32
  nextSeqnum : UInt32
  fields : δ
deriving DecidableEq, Repr

/-- A method of a driver: it keeps the fields, writes submissions and reads messages. -/
abbrev ClassScript (δ α : Type) : Type :=
  Script (ClassDevice δ) CmdSubmit (Except Failure UrbMessage) DriverError α

variable {δ α : Type}

/-! ### Submissions -/

/-- The number behind `n`, as sequence numbers and tags are counted: 0 is left out. -/
def numberAfter (n : UInt32) : UInt32 := if n + 1 = 0 then 1 else n + 1

/-- `next_seqnum`: the device behind it; the number allocated is the one before. -/
def ClassDevice.advance (d : ClassDevice δ) : ClassDevice δ :=
  { d with nextSeqnum := numberAfter d.nextSeqnum }

/-- Setup packet of a transfer that is not a control transfer. -/
def noSetup : Bytes 8 := ⟨[0, 0, 0, 0, 0, 0, 0, 0], length_zeroSetup⟩

/-- What the caller of a submission decides; the rest of the header is the driver's. -/
structure Transfer where
  direction : UInt32
  ep : UInt32
  length : UInt32
  setup : Bytes 8
  numberOfPackets : UInt32
  interval : UInt32
  payload : List UInt8
  packets : List IsoPacketDescriptor
deriving DecidableEq, Repr

/-- Endpoint address without its direction bit. -/
def endpointNumber (endpoint : UInt8) : UInt32 := (endpoint &&& 0x0F).toUInt32

/-- An OUT transfer of `payload`: the length is that of the payload, and there are no
packets. -/
def Transfer.toDevice (ep : UInt32) (setup : Bytes 8) (payload : List UInt8) : Transfer :=
  { direction := 0, ep, length := UInt32.ofNat payload.length, setup
    numberOfPackets := 0xFFFFFFFF, interval := 0, payload, packets := [] }

/-- An IN transfer of at most `length` bytes, with no packets and no data of its own. -/
def Transfer.fromDevice (ep : UInt32) (setup : Bytes 8) (length : UInt32) : Transfer :=
  { direction := 1, ep, length, setup
    numberOfPackets := 0xFFFFFFFF, interval := 0, payload := [], packets := [] }

/-- The submission every helper builds, under the number `seqnum`. -/
def Transfer.submission (t : Transfer) (devid seqnum : UInt32) : CmdSubmit :=
  { header := { command := Command.cmdSubmit.code, seqnum, devid, direction := t.direction
                ep := t.ep }
    transferFlags := 0, transferBufferLength := t.length, startFrame := 0
    numberOfPackets := t.numberOfPackets, interval := t.interval, setup := t.setup
    transferBuffer := t.payload, isoPacketDescriptors := t.packets }

/-- Number a submission by the counter, advance the counter and write it. -/
def submit (t : Transfer) : ClassScript δ Unit := fun d =>
  Script.send .io (t.submission d.devid d.nextSeqnum) d.advance

/-- The next message, as the return of a transfer; `what` names the transfer in the error. -/
def awaitReturn (kind : DeviceClass) (what : String) : ClassScript δ RetSubmit := do
  match ← Script.receive with
  | .error e => Script.throw (.protocol e)
  | .ok (.retSubmit ret) =>
    if ret.status ≠ 0 then
      Script.throw (.device kind (what ++ " failed with status " ++ toString ret.status.toInt))
    else pure ret
  | .ok other => Script.throw (.unexpected kind other)

/-- `read_ret_submit`: the data of the answer. -/
def readRetSubmit (kind : DeviceClass) : ClassScript δ (List UInt8) := do
  let ret ← awaitReturn kind "URB transfer"
  pure ret.transferBuffer

/-- Update the fields of the class. -/
def updateFields (f : δ → δ) : ClassScript δ Unit :=
  Script.modify fun d => { d with fields := f d.fields }

/-- The fields of the class, leaving the device as it is. -/
def getFields : ClassScript δ δ := do
  let d ← Script.get
  pure d.fields

/-! ### Little-endian fields -/

/-- `u16::to_le_bytes`: the bytes of the codec in the other order. -/
def u16LeBytes (x : UInt16) : List UInt8 := (u16Bytes x).reverse

/-- `u32::to_le_bytes`, likewise. -/
def u32LeBytes (x : UInt32) : List UInt8 := (u32Bytes x).reverse

@[simp] theorem length_u16LeBytes (x : UInt16) : (u16LeBytes x).length = 2 := by
  simp [u16LeBytes]

@[simp] theorem length_u32LeBytes (x : UInt32) : (u32LeBytes x).length = 4 := by
  simp [u32LeBytes]

/-- The bytes `i..i + n` of a buffer, as a number, the lowest byte first. -/
def leAt (buf : List UInt8) (i n : Nat) : Nat := ofBytes ((buf.drop i).take n).reverse

/-- `0x{:08X}`, as the errors print a signature. -/
def hex (x : UInt32) : String :=
  "0x" ++ String.ofList ((Text.padded 8 (Nat.toDigits 16 x.toNat)).map Char.toUpper)

/-! ### Pacing -/

/-- A message a method goes on with: a `RET_SUBMIT` of a transfer that succeeded. -/
def Accepted (message : Except Failure UrbMessage) : Prop :=
  ∃ ret : RetSubmit, message = .ok (.retSubmit ret) ∧ ret.status = 0

/-- Submissions are numbered by the driver's counter, which each of them advances. -/
def seqnums : Numbering (ClassDevice δ) CmdSubmit (Except Failure UrbMessage) UInt32 where
  counter d := d.nextSeqnum
  number q := q.header.seqnum
  succ := numberAfter
  accepts := Accepted

/-- A step of a method: from one phase to another, so that pacing composes along a script. -/
abbrev Paced (before after : Phase) (x : ClassScript δ α) : Prop :=
  Script.Paced seqnums before after x

namespace Paced

theorem submit (t : Transfer) : Paced .idle .awaiting (submit t : ClassScript δ Unit) :=
  Script.Paced.request .io (fun _ => rfl) fun _ => rfl

theorem awaitReturn (kind : DeviceClass) (what : String) :
    Paced .awaiting .idle (awaitReturn kind what : ClassScript δ RetSubmit) := by
  refine Script.Paced.answer (fun message => ?_) fun message hrefused s => ?_
  · split
    · exact Script.Paced.throw _
    · exact Script.Paced.ite (fun _ => Script.Paced.throw _) fun _ => Script.Paced.pure _
    · exact Script.Paced.throw _
  · split
    · exact ⟨s, _, rfl⟩
    · rename_i ret
      have hstatus : ret.status ≠ 0 := fun h => hrefused ⟨ret, rfl, h⟩
      rw [if_pos hstatus]
      exact ⟨s, _, rfl⟩
    · exact ⟨s, _, rfl⟩

theorem readRetSubmit (kind : DeviceClass) :
    Paced .awaiting .idle (readRetSubmit kind : ClassScript δ (List UInt8)) :=
  (awaitReturn kind _).bind fun _ => Script.Paced.pure _

theorem updateFields (phase : Phase) (f : δ → δ) :
    Paced phase phase (updateFields f : ClassScript δ Unit) :=
  Script.Paced.modify fun _ => rfl

theorem getFields (phase : Phase) : Paced phase phase (getFields : ClassScript δ δ) :=
  Script.Paced.get.bind fun _ => Script.Paced.pure _

end Paced

/-! ### Conversations -/

/-- What is said between a driver and its server. -/
abbrev DriverEvent : Type := Event CmdSubmit (Except Failure UrbMessage)

section Conversations

variable {d d' : ClassDevice δ} {conversation : List DriverEvent}

/-- The conversation of a submission is that submission, under the number the counter had. -/
theorem ends_submit {t : Transfer} {result : Except DriverError Unit} :
    Script.Ends (submit t : ClassScript δ Unit) d conversation d' result ↔
      ∃ ok, conversation = [.wrote (t.submission d.devid d.nextSeqnum) ok] ∧ d' = d.advance ∧
        result = if ok then .ok () else .error .io :=
  Script.ends_send

theorem ends_submit_ok {t : Transfer} :
    Script.Ends (submit t : ClassScript δ Unit) d conversation d' (.ok ()) ↔
      conversation = [.wrote (t.submission d.devid d.nextSeqnum) true] ∧ d' = d.advance := by
  rw [ends_submit]
  constructor
  · rintro ⟨ok, rfl, rfl, hok⟩
    cases ok with
    | true => exact ⟨rfl, rfl⟩
    | false => cases hok
  · rintro ⟨rfl, rfl⟩
    exact ⟨true, rfl, rfl, rfl⟩

/-- However it ends, the wait for a return takes one message, and leaves the device as it
was. -/
theorem ends_awaitReturn {kind : DeviceClass} {what : String}
    {result : Except DriverError RetSubmit}
    (h : Script.Ends (awaitReturn kind what : ClassScript δ RetSubmit) d conversation d' result) :
    ∃ message, conversation = [.got message] ∧ d' = d := by
  obtain ⟨message, rest, rfl, hnext⟩ := h
  refine ⟨message, ?_⟩
  simp only [Point.andThen] at hnext
  split at hnext
  · obtain ⟨rfl, rfl, -⟩ := hnext
    exact ⟨rfl, rfl⟩
  · split at hnext
    · obtain ⟨rfl, rfl, -⟩ := hnext
      exact ⟨rfl, rfl⟩
    · obtain ⟨rfl, rfl, -⟩ := hnext
      exact ⟨rfl, rfl⟩
  · obtain ⟨rfl, rfl, -⟩ := hnext
    exact ⟨rfl, rfl⟩

/-- The wait for a return succeeds on a `RET_SUBMIT` with status 0, and only on one. -/
theorem ends_awaitReturn_ok {kind : DeviceClass} {what : String} {ret : RetSubmit} :
    Script.Ends (awaitReturn kind what : ClassScript δ RetSubmit) d conversation d' (.ok ret) ↔
      conversation = [.got (.ok (.retSubmit ret))] ∧ ret.status = 0 ∧ d' = d := by
  constructor
  · intro h
    obtain ⟨message, rest, rfl, hnext⟩ := h
    simp only [Point.andThen] at hnext
    split at hnext
    · cases hnext.2.2
    · split at hnext
      · cases hnext.2.2
      · obtain ⟨rfl, rfl, hret⟩ := hnext
        cases hret
        exact ⟨rfl, not_not.mp ‹_›, rfl⟩
    · cases hnext.2.2
  · rintro ⟨rfl, hstatus, rfl⟩
    refine ⟨_, [], rfl, ?_⟩
    simp only [Point.andThen, hstatus, ne_eq, not_true_eq_false, if_false]
    exact ⟨rfl, rfl, rfl⟩

theorem ends_readRetSubmit_ok {kind : DeviceClass} {data : List UInt8} :
    Script.Ends (readRetSubmit kind : ClassScript δ _) d conversation d' (.ok data) ↔
      ∃ ret : RetSubmit, conversation = [.got (.ok (.retSubmit ret))] ∧ ret.status = 0 ∧
        data = ret.transferBuffer ∧ d' = d := by
  unfold readRetSubmit
  rw [Script.ends_bind_ok]
  constructor
  · rintro ⟨first, rest, ret, d₁, rfl, hfirst, rfl, rfl, hdata⟩
    obtain ⟨rfl, hstatus, rfl⟩ := ends_awaitReturn_ok.mp hfirst
    cases hdata
    exact ⟨ret, rfl, hstatus, rfl, rfl⟩
  · rintro ⟨ret, rfl, hstatus, rfl, rfl⟩
    exact ⟨_, [], ret, d', (List.append_nil _).symm, ends_awaitReturn_ok.mpr ⟨rfl, hstatus, rfl⟩,
      rfl, rfl, rfl⟩

theorem silent_awaitReturn (kind : DeviceClass) (what : String) :
    Script.Silent (awaitReturn kind what : ClassScript δ RetSubmit) := by
  intro d conversation d' result h
  obtain ⟨message, rfl, -⟩ := ends_awaitReturn h
  rfl

theorem silent_readRetSubmit (kind : DeviceClass) :
    Script.Silent (readRetSubmit kind : ClassScript δ (List UInt8)) :=
  (silent_awaitReturn kind _).bind fun ret => .pure ret.transferBuffer

/-- A submission is the first thing its script writes. -/
theorem opens_submit (t : Transfer) :
    Script.Opens (submit t : ClassScript δ Unit) d (t.submission d.devid d.nextSeqnum) := by
  intro conversation d' result h
  obtain ⟨ok, rfl, -⟩ := ends_submit.mp h
  exact ⟨ok, [], rfl⟩

theorem requests_submit {t : Transfer} {f : Unit → ClassScript δ α} {result : Except DriverError α}
    (hf : ∀ a, Script.Silent (f a)) (h : Script.Ends (submit t >>= f) d conversation d' result) :
    requests conversation = [t.submission d.devid d.nextSeqnum] := by
  rcases Script.ends_bind.mp h with ⟨e, he, -⟩ | ⟨first, rest, a, d₁, rfl, hfirst, hrest⟩
  · obtain ⟨ok, rfl, -⟩ := ends_submit.mp he
    rfl
  · obtain ⟨ok, rfl, -⟩ := ends_submit.mp hfirst
    rw [requests_append, hf a _ _ _ _ hrest]
    rfl

end Conversations

/-- A driver: its methods, what a device is right after `connect`, and that every method
waits for the answer to each of its submissions. -/
structure Driver where
  Fields : Type
  Method : Type
  initial : Fields
  script : Method → ClassScript Fields Output
  paced : ∀ m, Paced .idle .idle (script m)

end Extender.Client
