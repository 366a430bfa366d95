/-
The transfers of the class drivers, made on a device.

A driver names an endpoint and hands over or asks for bytes. The server makes a call of the
USB library out of the submission, and a reply out of the answer of the library. For a
transfer that succeeds, what is between the driver and the device is only this: which call is
made, and that the bytes which are read are the ones the call has put into its buffer.

The first part says which calls these are. An endpoint address has its direction in the
highest bit; a driver strips the bit and sends the number of the endpoint together with a
direction, and the server puts the two together again (`submitTransfer_bulkOut`,
`submitTransfer_bulkIn`). The second part follows a transfer from its submission to the data
the driver gets (`yields_toDevice`, `yields_fromDevice`), for any device that answers the
call. A driver for a class of devices goes through its own commands with these two.
-/

import Extender.System.DriverRequests
import Extender.System.RemoteDevice

namespace Extender.System

open BigEndian Dialogue Extender.Protocol Extender.Client
open Extender.Server (UsbCall UsbAnswer)

/-! ### Answers -/

/-- The answer of an endpoint that is halted, which leaves the device as it is. -/
def stall {σ : Type} (s : σ) : Option UsbAnswer × σ := (some (.error .pipe), s)

theorem admits_stall {σ : Type} (call : UsbCall) {s : σ} {answer : UsbAnswer}
    (h : (stall s).1 = some answer) : call.Admits answer := by
  cases h
  trivial

/-- Fill a buffer of `n` bytes from its start; what the data does not reach keeps its zeros. -/
def fill (data : List UInt8) (n : Nat) : UsbAnswer :=
  .ok (min data.length n, data.take n ++ List.replicate (n - data.length) 0)

theorem admits_fill (endpoint : UInt8) (data : List UInt8) (n : Nat) :
    (UsbCall.readBulk endpoint n).Admits (fill data n) := by
  refine ⟨Nat.min_le_right _ _, fun _ => ?_⟩
  simp only [List.length_append, List.length_take, List.length_replicate, UsbCall.size]
  omega

/-- The server cuts the buffer to the length that is reported, so what is read out of it is
the data as far as the buffer had room. -/
theorem take_fill (data : List UInt8) (n : Nat) :
    (data.take n ++ List.replicate (n - data.length) 0).take (min data.length n) =
      data.take n := by
  have hlength : min data.length n = (data.take n).length := by
    rw [List.length_take, Nat.min_comm]
  rw [hlength, List.take_left]

/-! ### Calls -/

section Calls

variable {devid seqnum : UInt32} {setup : Bytes 8}

theorem toUInt8_endpointNumber (ep : UInt8) : (endpointNumber ep).toUInt8 = ep &&& 0x0F :=
  UInt8.toUInt8_toUInt32 _

theorem endpoint_out (ep : UInt8) : ¬ ((ep &&& 0x0F) &&& 0x80 ≠ 0) := by
  rw [UInt8.and_assoc]
  exact not_not.mpr UInt8.and_zero

theorem endpoint_in (ep : UInt8) : ((ep &&& 0x0F) ||| 0x80) &&& 0x80 ≠ 0 := by
  have hbit : ((ep &&& 0x0F) ||| 0x80) &&& 0x80 = 0x80 := by
    apply UInt8.toBitVec_inj.mp
    have hdistrib := @BitVec.and_or_distrib_right 8 (ep &&& 0x0F).toBitVec 0x80 0x80
    have hout : (ep &&& 0x0F).toBitVec &&& 0x80 = 0 :=
      congrArg UInt8.toBitVec (not_not.mp (endpoint_out ep))
    rw [hout] at hdistrib
    exact hdistrib
  rw [hbit]
  decide

theorem submitTransfer_bulkOut {ep : UInt8} (hep : endpointNumber ep ≠ 0) (payload : List UInt8) :
    Server.submitTransfer
        ((Transfer.toDevice (endpointNumber ep) setup payload).submission devid seqnum) =
      ⟨.writeBulk (ep &&& 0x0F) payload, Server.writeFinish⟩ := by
  simp only [Server.submitTransfer, Transfer.submission, Transfer.toDevice, hep, if_false,
    toUInt8_endpointNumber, Server.executeBulkTransfer]
  exact if_neg (endpoint_out ep)

theorem submitTransfer_bulkIn {ep : UInt8} (hep : endpointNumber ep ≠ 0) (length : UInt32) :
    Server.submitTransfer
        ((Transfer.fromDevice (endpointNumber ep) setup length).submission devid seqnum) =
      ⟨.readBulk ((ep &&& 0x0F) ||| 0x80) length.toNat, Server.readFinish⟩ := by
  simp only [Server.submitTransfer, Transfer.submission, Transfer.fromDevice, hep, if_false,
    if_true, toUInt8_endpointNumber, Server.executeBulkTransfer]
  exact if_pos (endpoint_in ep)

end Calls

/-! ### Transfers -/

section Transfers

variable {δ : Type} {g : Gadget} {device device' : g.State} {d : ClassDevice δ} {n : Nat}
  {buf : List UInt8} {ep : UInt32} {setup : Bytes 8} {call : UsbCall}

/-- The answer that waits for the driver is the return of a transfer that succeeded, with
`data` in its buffer. -/
def Returns (pending : Option (Except Failure UrbMessage)) (data : List UInt8) : Prop :=
  ∃ ret : RetSubmit, pending = some (.ok (.retSubmit ret)) ∧ ret.status = 0 ∧
    ret.transferBuffer = data

theorem yields_readRetSubmit (kind : DeviceClass) {pending : Option (Except Failure UrbMessage)}
    {data : List UInt8} (h : Returns pending data) :
    Script.Yields g.answer (readRetSubmit kind) d device pending d device none data := by
  obtain ⟨ret, rfl, hstatus, rfl⟩ := h
  have hawait : Script.Yields g.answer (awaitReturn kind "URB transfer") d device
      (some (.ok (.retSubmit ret))) d device none ret := by
    refine Script.Yields.bind (.receive _) ?_
    show Script.Yields g.answer (if ret.status ≠ 0 then _ else _) _ _ _ _ _ _ _
    rw [if_neg (not_not.mpr hstatus)]
    exact .pure _
  exact hawait.bind (.pure _)

/-- What is sent to the device gets there: if the call for it succeeds on the device, the
submission leaves the device behind the call and a return without data for the driver. -/
theorem yields_toDevice {payload : List UInt8}
    (hcall : Server.submitTransfer
        ((Transfer.toDevice ep setup payload).submission d.devid d.nextSeqnum) =
      ⟨call, Server.writeFinish⟩)
    (h : g.perform device call = (some (.ok (n, buf)), device')) :
    ∃ pending, Returns pending [] ∧
      Script.Yields g.answer (submit (.toDevice ep setup payload)) d device none d.advance device'
        pending () := by
  have htransfer : g.transfer device
      ((Transfer.toDevice ep setup payload).submission d.devid d.nextSeqnum) =
        (some (.ok (n, buf)), device') := by
    rw [Gadget.transfer, hcall]
    exact h
  have hsent : Script.Yields g.answer (submit (.toDevice ep setup payload)) d device none d.advance
      (g.answer device ((Transfer.toDevice ep setup payload).submission d.devid d.nextSeqnum)).2
      (some (g.answer device
        ((Transfer.toDevice ep setup payload).submission d.devid d.nextSeqnum)).1) () :=
    .request DriverError.io ClassDevice.advance _
  rw [Gadget.answer, htransfer] at hsent
  refine ⟨_, ⟨_, rfl, ?_, ?_⟩, hsent⟩
  · simp only [Server.handleSubmit, hcall, Server.writeFinish]
  · simp only [Server.handleSubmit, hcall, Server.writeFinish]
    exact if_neg fun hdata => hdata.2 rfl

/-- What the device gives is read: if the call succeeds with a buffer, the driver gets the part
of the buffer that was filled. -/
theorem yields_fromDevice (kind : DeviceClass) {length : UInt32}
    (hcall : Server.submitTransfer
        ((Transfer.fromDevice ep setup length).submission d.devid d.nextSeqnum) =
      ⟨call, Server.readFinish⟩)
    (h : g.perform device call = (some (.ok (n, buf)), device')) :
    Script.Yields g.answer (do submit (.fromDevice ep setup length); readRetSubmit kind) d device
      none d.advance device' none (buf.take n) := by
  have htransfer : g.transfer device
      ((Transfer.fromDevice ep setup length).submission d.devid d.nextSeqnum) =
        (some (.ok (n, buf)), device') := by
    rw [Gadget.transfer, hcall]
    exact h
  refine .bind (.request DriverError.io ClassDevice.advance _) ?_
  rw [Gadget.answer, htransfer]
  refine yields_readRetSubmit kind ⟨_, rfl, ?_, ?_⟩
  · simp only [Server.handleSubmit, hcall, Server.readFinish]
  · simp only [Server.handleSubmit, hcall, Server.readFinish]
    change (if (1 : UInt32) = 1 ∧ _ then _ else _) = _
    cases buf.take n with
    | nil => rfl
    | cons b bs => rfl

end Transfers

end Extender.System
