/-
Replies to submissions (`handle_submit`).

A submission comes from a client that need not be honest: its header, its setup packet and its
lengths may contradict each other. `Accepted` is what `read_urb_message` lets through,
`Admits` is what the library may answer to a call (an error, or a length within the buffer it
was given), `Admissible` what may become of a submission, a panicking closure included. The
results are for all of these.

A submission becomes one of four calls, read or write, on endpoint 0 or another; which one,
and with what buffer, is said once (`submitTransfer_submits`), and the other lemmas go through
it. The endpoint is cut to eight bits on its way to the device, so a header with an endpoint
above 15 is not one the results on addresses speak of.

* `Submits` — the calls a submission can become.
* `submitResult_bounds` — a result is no longer than the buffer of its call.
* `handleSubmit_in_frame` — every reply is well formed and is read back where it ends.
* `actualLength_le_requested_iff` — a reply fits the buffer the client announced unless the
  setup packet of a control read asks for more.
* `deviceCalls_addressed` — where the transfer goes, and which way.
-/

import Extender.Protocol.UrbGrammar
import Extender.Server.Transfer

namespace Extender.Server

open BigEndian ByteReader Extender.Protocol

/-! ### Calls and what the library may answer -/

namespace UsbCall

/-- The call reads from the device. -/
def isRead : UsbCall → Bool
  | .writeControl _ _ _ _ _ => false
  | .readControl _ _ _ _ _ => true
  | .writeBulk _ _ => false
  | .readBulk _ _ => true

/-- What a write sends. -/
def data : UsbCall → List UInt8
  | .writeControl _ _ _ _ data => data
  | .readControl _ _ _ _ _ => []
  | .writeBulk _ data => data
  | .readBulk _ _ => []

/-- How long the buffer is that the call is given. -/
def size : UsbCall → Nat
  | .writeControl _ _ _ _ data => data.length
  | .readControl _ _ _ _ bufferLength => bufferLength
  | .writeBulk _ data => data.length
  | .readBulk _ bufferLength => bufferLength

/-- Bits 0 to 3 of the endpoint address; control transfers are on endpoint 0. -/
def endpointNumber : UsbCall → Nat
  | .writeControl _ _ _ _ _ => 0
  | .readControl _ _ _ _ _ => 0
  | .writeBulk endpoint _ => (endpoint &&& 0x0F).toNat
  | .readBulk endpoint _ => (endpoint &&& 0x0F).toNat

/-- An error, or a length within the buffer; a read does not change the buffer's size. -/
def Admits (call : UsbCall) : UsbAnswer → Prop
  | .error _ => True
  | .ok (len, buf) => len ≤ call.size ∧ (call.isRead = true → buf.length = call.size)

theorem size_of_not_isRead {call : UsbCall} (h : call.isRead = false) :
    call.size = call.data.length := by
  cases call with
  | writeControl => rfl
  | readControl => cases h
  | writeBulk => rfl
  | readBulk => cases h

end UsbCall

/-- `read_urb_message` returns the submission from some bytes: it is one a client can send,
with all that the codec checks. -/
def Accepted (cmd : CmdSubmit) : Prop :=
  ∃ w rest, readUrbMessage w = .ok (.cmdSubmit cmd, rest)

theorem accepted_iff {cmd : CmdSubmit} :
    Accepted cmd ↔ UrbMessage.WellFormed (.cmdSubmit cmd) := by
  constructor
  · rintro ⟨w, rest, hread⟩
    obtain ⟨p, -, hwf, -⟩ := (readUrbMessage_accepts _ _ _).mp hread
    exact hwf
  · intro hwf
    exact ⟨_, [], readUrbMessage_framed.reads _ hwf []⟩

/-- How the blocking closure of a submission may end: with an answer the library can give to
its call, or not at all, by a panic. -/
def Admissible (cmd : CmdSubmit) (outcome : Option UsbAnswer) : Prop :=
  ∀ answer, outcome = some answer → (submitTransfer cmd).call.Admits answer

/-! ### The call of a submission -/

/-- The endpoint byte of a submission that is not on endpoint 0: the number cut to a byte,
with the bit of its direction. -/
def endpointAddress (header : UsbipHeaderBasic) : UInt8 :=
  if header.direction = 1 then header.ep.toUInt8 ||| 0x80 else header.ep.toUInt8

/-- The four calls a submission can become: by the endpoint, and then by a direction bit, of
the setup packet or of the header. -/
inductive Submits (cmd : CmdSubmit) : DeviceCall → Prop where
  | controlOut (request : UInt8) (value index : UInt16) :
      cmd.header.ep = 0 → cmd.setup.val.getD 0 0 &&& 0x80 = 0 →
      Submits cmd
        ⟨.writeControl (cmd.setup.val.getD 0 0) request value index cmd.transferBuffer, writeFinish⟩
  | controlIn (request : UInt8) (value index : UInt16) :
      cmd.header.ep = 0 → cmd.setup.val.getD 0 0 &&& 0x80 ≠ 0 →
      Submits cmd
        ⟨.readControl (cmd.setup.val.getD 0 0) request value index (setupWord cmd.setup 6).toNat,
          readFinish⟩
  | bulkOut :
      cmd.header.ep ≠ 0 → endpointAddress cmd.header &&& 0x80 = 0 →
      Submits cmd ⟨.writeBulk (endpointAddress cmd.header) cmd.transferBuffer, writeFinish⟩
  | bulkIn :
      cmd.header.ep ≠ 0 → endpointAddress cmd.header &&& 0x80 ≠ 0 →
      Submits cmd
        ⟨.readBulk (endpointAddress cmd.header) cmd.transferBufferLength.toNat, readFinish⟩

theorem executeControlTransfer_submits {cmd : CmdSubmit} (hep : cmd.header.ep = 0) :
    Submits cmd (executeControlTransfer cmd.setup cmd.transferBuffer) := by
  unfold executeControlTransfer controlDirection
  by_cases hbit : cmd.setup.val.getD 0 0 &&& 0x80 ≠ 0
  · simp only [if_pos hbit]
    exact .controlIn _ _ _ hep hbit
  · simp only [if_neg hbit]
    exact .controlOut _ _ _ hep (not_not.mp hbit)

theorem submitTransfer_submits (cmd : CmdSubmit) : Submits cmd (submitTransfer cmd) := by
  unfold submitTransfer
  split
  · exact executeControlTransfer_submits ‹_›
  · rename_i hep
    change Submits cmd (executeBulkTransfer (endpointAddress cmd.header) _ _)
    unfold executeBulkTransfer
    split
    · exact .bulkIn hep ‹_›
    · exact .bulkOut hep (not_not.mp ‹_›)

namespace Submits

variable {cmd : CmdSubmit} {c : DeviceCall}

theorem finish_eq (h : Submits cmd c) :
    c.finish = if c.call.isRead then readFinish else writeFinish := by
  cases h with
  | controlOut => rfl
  | controlIn => rfl
  | bulkOut => rfl
  | bulkIn => rfl

theorem isRead_iff (h : Submits cmd c) :
    c.call.isRead = true ↔
      if cmd.header.ep = 0 then cmd.setup.val.getD 0 0 &&& 0x80 ≠ 0
      else endpointAddress cmd.header &&& 0x80 ≠ 0 := by
  cases h with
  | controlOut _ _ _ hep hbit =>
      rw [if_pos hep]
      exact iff_of_false Bool.false_ne_true (not_not.mpr hbit)
  | controlIn _ _ _ hep hbit =>
      rw [if_pos hep]
      exact iff_of_true rfl hbit
  | bulkOut hep hbit =>
      rw [if_neg hep]
      exact iff_of_false Bool.false_ne_true (not_not.mpr hbit)
  | bulkIn hep hbit =>
      rw [if_neg hep]
      exact iff_of_true rfl hbit

theorem size_of_read (h : Submits cmd c) (hread : c.call.isRead = true) :
    c.call.size =
      if cmd.header.ep = 0 then (setupWord cmd.setup 6).toNat
      else cmd.transferBufferLength.toNat := by
  cases h with
  | controlOut => cases hread
  | controlIn _ _ _ hep => exact (if_pos hep).symm
  | bulkOut => cases hread
  | bulkIn hep => exact (if_neg hep).symm

theorem data_of_write (h : Submits cmd c) (hwrite : c.call.isRead = false) :
    c.call.data = cmd.transferBuffer := by
  cases h with
  | controlOut => rfl
  | controlIn => cases hwrite
  | bulkOut => rfl
  | bulkIn => cases hwrite

theorem endpointNumber_eq (h : Submits cmd c) :
    c.call.endpointNumber =
      if cmd.header.ep = 0 then 0 else (endpointAddress cmd.header &&& 0x0F).toNat := by
  cases h with
  | controlOut _ _ _ hep => exact (if_pos hep).symm
  | controlIn _ _ _ hep => exact (if_pos hep).symm
  | bulkOut hep => exact (if_neg hep).symm
  | bulkIn hep => exact (if_neg hep).symm

end Submits

/-! ### The result and the reply -/

/-- What the reply is built from: the result of the transfer, or the error that stands for a
panic. -/
def submitResult (cmd : CmdSubmit) (outcome : Option UsbAnswer) : TransferResult :=
  match outcome with
  | some answer => (submitTransfer cmd).finish answer
  | none => { status := -5, actualLength := 0, data := [] }

section Bounds

variable {cmd : CmdSubmit} (hcmd : Accepted cmd)

include hcmd

theorem transferBufferLength_le : cmd.transferBufferLength.toNat ≤ 1048576 :=
  UInt32.le_iff_toNat_le.mp (accepted_iff.mp hcmd).2.length_le

theorem length_transferBuffer :
    cmd.transferBuffer.length =
      if cmd.header.direction == 0 then cmd.transferBufferLength.toNat else 0 :=
  (accepted_iff.mp hcmd).2.buffer_length

/-- No call is given more than the 16 bits of `wLength` or the announced length. -/
theorem size_submitTransfer_le : (submitTransfer cmd).call.size ≤ 1048576 := by
  have hlen := transferBufferLength_le hcmd
  cases hread : (submitTransfer cmd).call.isRead with
  | true =>
      rw [(submitTransfer_submits cmd).size_of_read hread]
      split
      · have hword := (setupWord cmd.setup 6).toNat_lt
        omega
      · exact hlen
  | false =>
      rw [UsbCall.size_of_not_isRead hread, (submitTransfer_submits cmd).data_of_write hread,
        length_transferBuffer hcmd]
      split
      · exact hlen
      · exact Nat.zero_le _

/-- A result reports no more bytes than the call's buffer has, and a read returns as many
as it reports. -/
theorem submitResult_bounds {outcome : Option UsbAnswer} (h : Admissible cmd outcome) :
    (submitResult cmd outcome).actualLength.toNat ≤ (submitTransfer cmd).call.size ∧
      (submitResult cmd outcome).data.length =
        if (submitTransfer cmd).call.isRead then (submitResult cmd outcome).actualLength.toNat
        else 0 := by
  have hsize := size_submitTransfer_le hcmd
  have hfinish := (submitTransfer_submits cmd).finish_eq
  match outcome with
  | none => simp [submitResult]
  | some answer =>
      have hadmits := h answer rfl
      simp only [submitResult]
      rw [hfinish]
      match answer with
      | .error e => cases (submitTransfer cmd).call.isRead <;> simp [readFinish, writeFinish]
      | .ok (len, buf) =>
          obtain ⟨hlen, hbuf⟩ := hadmits
          have hword : (UInt32.ofNat len).toNat = len :=
            UInt32.toNat_ofNat_of_lt' (Nat.lt_of_le_of_lt (hlen.trans hsize) (by decide))
          cases hread : (submitTransfer cmd).call.isRead with
          | true =>
              rw [if_pos rfl, if_pos rfl]
              refine ⟨hword.symm ▸ hlen, ?_⟩
              simp only [readFinish]
              rw [List.length_take, hbuf hread, hword]
              exact Nat.min_eq_left hlen
          | false =>
              exact ⟨hword.symm ▸ hlen, rfl⟩

/-- An OUT call in a submission whose header says IN has nothing to send: such a submission
came without data. -/
theorem size_of_write_in (hdir : cmd.header.direction = 1)
    (hwrite : (submitTransfer cmd).call.isRead = false) : (submitTransfer cmd).call.size = 0 := by
  rw [UsbCall.size_of_not_isRead hwrite, (submitTransfer_submits cmd).data_of_write hwrite,
    length_transferBuffer hcmd, hdir]
  rfl

theorem length_reply_transferBuffer {outcome : Option UsbAnswer} (h : Admissible cmd outcome) :
    (handleSubmit cmd outcome).transferBuffer.length =
      if cmd.header.direction = 1 then (handleSubmit cmd outcome).actualLength.toNat else 0 := by
  obtain ⟨hlen, hdata⟩ := submitResult_bounds hcmd h
  change (if cmd.header.direction = 1 ∧ ¬ (submitResult cmd outcome).data.isEmpty then
      (submitResult cmd outcome).data else []).length =
    if cmd.header.direction = 1 then (submitResult cmd outcome).actualLength.toNat else 0
  have hempty : (if ¬ (submitResult cmd outcome).data.isEmpty then
      (submitResult cmd outcome).data else []) = (submitResult cmd outcome).data := by
    cases (submitResult cmd outcome).data <;> rfl
  by_cases hdir : cmd.header.direction = 1
  · simp only [hdir, true_and, if_true, hempty]
    rw [hdata]
    cases hread : (submitTransfer cmd).call.isRead with
    | true => rfl
    | false =>
        rw [size_of_write_in hcmd hdir hread] at hlen
        exact (Nat.le_zero.mp hlen).symm
  · simp only [hdir, false_and, if_false, List.length_nil]

theorem handleSubmit_wellFormed {outcome : Option UsbAnswer} (h : Admissible cmd outcome) :
    UrbMessage.WellFormed (.retSubmit (handleSubmit cmd outcome)) where
  left := rfl
  right :=
    { length_le :=
        UInt32.le_iff_toNat_le.mpr
          ((submitResult_bounds hcmd h).1.trans (size_submitTransfer_le hcmd))
      buffer_length := by
        rw [length_reply_transferBuffer hcmd h]
        simp only [handleSubmit, beq_iff_eq]
      packets := Or.inl ⟨rfl, rfl⟩ }

end Bounds

/-- **Replies stay in frame.** For every submission the reader returns and every way its
transfer can end, the reply echoes the header, carries no descriptors, reports at most
1048576 bytes, has exactly the reported bytes behind it when the header says IN and none
otherwise; the client's reader gets it back and stops where it ends. -/
theorem handleSubmit_in_frame {cmd : CmdSubmit} (hcmd : Accepted cmd)
    {outcome : Option UsbAnswer} (h : Admissible cmd outcome) :
    (handleSubmit cmd outcome).header =
      { cmd.header with command := Command.retSubmit.code } ∧
    (handleSubmit cmd outcome).numberOfPackets = 0xFFFFFFFF ∧
    (handleSubmit cmd outcome).isoPacketDescriptors = [] ∧
    (handleSubmit cmd outcome).actualLength ≤ 1048576 ∧
    (handleSubmit cmd outcome).transferBuffer.length =
      (if cmd.header.direction = 1 then (handleSubmit cmd outcome).actualLength.toNat else 0) ∧
    ∀ written rest, ∃ reply, writeUrbMessage written (.retSubmit (handleSubmit cmd outcome)) =
        written ++ reply ∧
      readUrbMessage (reply ++ rest) = .ok (.retSubmit (handleSubmit cmd outcome), rest) := by
  have hwf := handleSubmit_wellFormed hcmd h
  refine ⟨rfl, rfl, rfl, hwf.2.length_le, length_reply_transferBuffer hcmd h, ?_⟩
  intro written rest
  exact ⟨_, rfl, readUrbMessage_framed.reads _ hwf rest⟩

/-- A control submission on endpoint 0 that announces `length` bytes. -/
def sampleControl (direction length : UInt32) (setup : Bytes 8) : CmdSubmit :=
  { header := { command := 1, seqnum := 7, devid := 2, direction, ep := 0 }
    transferFlags := 0, transferBufferLength := length, startFrame := 0
    numberOfPackets := 0xFFFFFFFF, interval := 0, setup, transferBuffer := []
    isoPacketDescriptors := [] }

/-- `GET_DESCRIPTOR` for 18 bytes. -/
def getDescriptorSetup : Bytes 8 := ⟨[0x80, 6, 0, 1, 0, 0, 18, 0], by decide⟩

/-- The device returns eight bytes of the eighteen. -/
theorem handleSubmit_in_frame_short :
    (handleSubmit (sampleControl 1 18 getDescriptorSetup)
      (some (.ok (8, List.replicate 18 1)))).transferBuffer.length = 8 := by
  have hcmd : Accepted (sampleControl 1 18 getDescriptorSetup) := accepted_iff.mpr (by decide)
  have h : Admissible (sampleControl 1 18 getDescriptorSetup)
      (some (.ok (8, List.replicate 18 1))) := by
    rintro answer ⟨⟩
    exact ⟨by decide, fun _ => rfl⟩
  exact (handleSubmit_in_frame hcmd h).2.2.2.2.1

/-! ### The requested length -/

/-- The setup packet of a control read asks for more than the client announced; the server
believes the packet. -/
def AsksForMore (cmd : CmdSubmit) : Prop :=
  cmd.header.ep = 0 ∧ cmd.setup.val.getD 0 0 &&& 0x80 ≠ 0 ∧
    cmd.transferBufferLength.toNat < (setupWord cmd.setup 6).toNat

instance (cmd : CmdSubmit) : Decidable (AsksForMore cmd) := inferInstanceAs (Decidable (_ ∧ _ ∧ _))

theorem size_le_requested {cmd : CmdSubmit} (hcmd : Accepted cmd) (h : ¬ AsksForMore cmd) :
    (submitTransfer cmd).call.size ≤ cmd.transferBufferLength.toNat := by
  cases hread : (submitTransfer cmd).call.isRead with
  | true =>
      have hbit := (submitTransfer_submits cmd).isRead_iff.mp hread
      rw [(submitTransfer_submits cmd).size_of_read hread]
      split
      · rename_i hep
        rw [if_pos hep] at hbit
        exact Nat.not_lt.mp fun hlt => h ⟨hep, hbit, hlt⟩
      · exact Nat.le_refl _
  | false =>
      rw [UsbCall.size_of_not_isRead hread, (submitTransfer_submits cmd).data_of_write hread,
        length_transferBuffer hcmd]
      split
      · exact Nat.le_refl _
      · exact Nat.zero_le _

/-- The device may fill the whole buffer it is given, and the reply then has all of it. -/
theorem exists_full_read {cmd : CmdSubmit} (hcmd : Accepted cmd) :
    ∃ outcome, Admissible cmd outcome ∧
      (handleSubmit cmd outcome).actualLength.toNat = (submitTransfer cmd).call.size := by
  have hsize := size_submitTransfer_le hcmd
  refine ⟨some (.ok ((submitTransfer cmd).call.size,
    List.replicate (submitTransfer cmd).call.size 0)), ?_, ?_⟩
  · rintro answer ⟨⟩
    exact ⟨Nat.le_refl _, fun _ => List.length_replicate⟩
  · have hword := UInt32.toNat_ofNat_of_lt' (Nat.lt_of_le_of_lt hsize (by decide))
    change ((submitTransfer cmd).finish _).actualLength.toNat = _
    rw [(submitTransfer_submits cmd).finish_eq]
    split
    · exact hword
    · exact hword

/-- **The requested length.** Whatever the device answers, the reply reports at most the
announced length, exactly if the setup packet of a control read does not ask for more. -/
theorem actualLength_le_requested_iff {cmd : CmdSubmit} (hcmd : Accepted cmd) :
    (∀ outcome, Admissible cmd outcome →
      (handleSubmit cmd outcome).actualLength ≤ cmd.transferBufferLength) ↔
    ¬ AsksForMore cmd := by
  constructor
  · rintro h ⟨hep, hbit, hlt⟩
    obtain ⟨outcome, hadm, hfull⟩ := exists_full_read hcmd
    have hread : (submitTransfer cmd).call.isRead = true := by
      rw [(submitTransfer_submits cmd).isRead_iff, if_pos hep]
      exact hbit
    rw [(submitTransfer_submits cmd).size_of_read hread, if_pos hep] at hfull
    have hle := UInt32.le_iff_toNat_le.mp (h outcome hadm)
    omega
  · intro h outcome hadm
    rw [UInt32.le_iff_toNat_le]
    exact (submitResult_bounds hcmd hadm).1.trans (size_le_requested hcmd h)

theorem actualLength_le_requested_getDescriptor :
    Accepted (sampleControl 1 18 getDescriptorSetup) ∧
    ∀ outcome, Admissible (sampleControl 1 18 getDescriptorSetup) outcome →
      (handleSubmit (sampleControl 1 18 getDescriptorSetup) outcome).actualLength ≤ 18 := by
  have hcmd : Accepted (sampleControl 1 18 getDescriptorSetup) := accepted_iff.mpr (by decide)
  exact ⟨hcmd, (actualLength_le_requested_iff hcmd).mpr (by decide)⟩

/-- Eight bytes announced, eighteen asked for, eighteen returned. -/
theorem reply_exceeds_request :
    Accepted (sampleControl 1 8 getDescriptorSetup) ∧
    Admissible (sampleControl 1 8 getDescriptorSetup) (some (.ok (18, List.replicate 18 1))) ∧
    ¬ (handleSubmit (sampleControl 1 8 getDescriptorSetup)
      (some (.ok (18, List.replicate 18 1)))).actualLength ≤ 8 := by
  refine ⟨accepted_iff.mpr (by decide), ?_, by decide⟩
  rintro answer ⟨⟩
  exact ⟨by decide, fun _ => rfl⟩

/-! ### Where the transfer goes -/

/-- The calls `handle_submit` makes on the device: one, whatever the header says. -/
def deviceCalls (cmd : CmdSubmit) : List UsbCall := [(submitTransfer cmd).call]

/-- A header that no transfer agrees with: its endpoint is beyond fifteen, or its direction on
endpoint 0 is not that of the setup packet. -/
def Unhonourable (cmd : CmdSubmit) : Prop :=
  15 < cmd.header.ep ∨
    (cmd.header.ep = 0 ∧ ¬ (cmd.setup.val.getD 0 0 &&& 0x80 ≠ 0 ↔ cmd.header.direction = 1))

/-- A transfer goes where the header says, and a header that cannot be honoured is
answered with an error and no transfer. -/
def FollowsHeader (cmd : CmdSubmit) : Prop :=
  (∀ call ∈ deviceCalls cmd,
    call.endpointNumber = cmd.header.ep.toNat ∧
    (call.isRead = true ↔ cmd.header.direction = 1) ∧
    (call.isRead = false → call.data = cmd.transferBuffer)) ∧
  (Unhonourable cmd → deviceCalls cmd = [] ∧
    ∀ outcome, Admissible cmd outcome → (handleSubmit cmd outcome).status ≠ 0)

/-- An endpoint address of at most four bits, with or without the direction bit. -/
theorem endpointAddress_bits {header : UsbipHeaderBasic} (hep : header.ep ≤ 15) :
    (endpointAddress header &&& 0x0F).toNat = header.ep.toNat ∧
      (endpointAddress header &&& 0x80 ≠ 0 ↔ header.direction = 1) := by
  have hbits : ∀ n < 16, (UInt8.ofNat n &&& 0x0F).toNat = n ∧ UInt8.ofNat n &&& 0x80 = 0 ∧
      ((UInt8.ofNat n ||| 0x80) &&& 0x0F).toNat = n ∧ (UInt8.ofNat n ||| 0x80) &&& 0x80 ≠ 0 := by
    decide
  have hlt : header.ep.toNat < 16 := Nat.lt_succ_of_le (UInt32.le_iff_toNat_le.mp hep)
  obtain ⟨hout, houtBit, hin, hinBit⟩ := hbits header.ep.toNat hlt
  have hbyte : header.ep.toUInt8 = UInt8.ofNat header.ep.toNat := rfl
  unfold endpointAddress
  rw [hbyte]
  split
  · exact ⟨hin, iff_of_true hinBit ‹_›⟩
  · exact ⟨hout, iff_of_false (not_not.mpr houtBit) ‹_›⟩

/-- **Where the transfer goes.** Every submission on endpoints 0 to 15 makes one call, on
the header's endpoint, which reads iff the header says IN or, on endpoint 0, iff the setup
packet does, and which sends exactly the submission's bytes when it writes. -/
theorem deviceCalls_addressed (cmd : CmdSubmit) (hep : cmd.header.ep ≤ 15) :
    ∃ call, deviceCalls cmd = [call] ∧ call.endpointNumber = cmd.header.ep.toNat ∧
      (call.isRead = true ↔
        if cmd.header.ep = 0 then cmd.setup.val.getD 0 0 &&& 0x80 ≠ 0
        else cmd.header.direction = 1) ∧
      (call.isRead = false → call.data = cmd.transferBuffer) := by
  have hsubmits := submitTransfer_submits cmd
  obtain ⟨hnumber, hbit⟩ := endpointAddress_bits hep
  refine ⟨(submitTransfer cmd).call, rfl, ?_, ?_, hsubmits.data_of_write⟩
  · rw [hsubmits.endpointNumber_eq, hnumber]
    split
    · rename_i hzero
      rw [hzero]
      rfl
    · rfl
  · rw [hsubmits.isRead_iff, hbit]

theorem deviceCalls_addressed_getDescriptor :
    ∃ call, deviceCalls (sampleControl 1 18 getDescriptorSetup) = [call] ∧
      call.endpointNumber = 0 ∧ call.isRead = true := by
  obtain ⟨call, hcall, hnumber, hread, -⟩ :=
    deviceCalls_addressed (sampleControl 1 18 getDescriptorSetup) (by decide)
  exact ⟨call, hcall, hnumber, hread.mpr (by decide)⟩

/-- A control read in a submission whose header says OUT is made all the same, as the setup
packet says. -/
theorem control_direction_from_setup :
    Accepted (sampleControl 0 0 getDescriptorSetup) ∧
    deviceCalls (sampleControl 0 0 getDescriptorSetup) = [.readControl 0x80 6 256 0 18] ∧
    ¬ FollowsHeader (sampleControl 0 0 getDescriptorSetup) := by
  refine ⟨accepted_iff.mpr (by decide), by decide, ?_⟩
  rintro ⟨hcalls, -⟩
  obtain ⟨-, hread, -⟩ := hcalls _ (List.mem_singleton.mpr rfl)
  exact absurd (hread.mp (by decide)) (by decide)

end Extender.Server
