/-
What the class drivers ask of a server.

The server's reader refuses a submission that announces more than 1048576 bytes
(`transferLimit`), or more than 1024 packets, and ends the session with that. A driver does
not check its caller's buffers against either bound, so whether its submissions are taken
depends on the buffer it is handed, on what it adds to the buffer, and on the fields it has
kept from earlier answers of the device. `driver_asks_accepted` settles this for all five
drivers at once: no call whose own buffer is within `bufferLimit` gets a session ended,
whatever the server has answered before and whatever fields the driver has come to.

The limit on a buffer is lower than the limit on a transfer because of what drivers add. The
last packet of an audio transfer is read at its full size, which is up to 65535 bytes more
than the caller asked for, and a frame of an NCM adapter is wrapped into a block that is 28
bytes longer. A mass storage device adds nothing, and `asks_massStorage` goes up to the limit
of the server itself.

Each driver has a section of its own, which follows the text of its methods: one lemma for
every helper that submits something, and one that goes through the calls.
-/

import Extender.Lib.Peer
import Extender.Client.Hid
import Extender.Client.IsoPackets
import Extender.Client.MassStorage
import Extender.Client.Network
import Extender.Client.Serial
import Extender.Server.Reply

namespace Extender.System

open BigEndian Dialogue Extender.Protocol Extender.Client

variable {δ α : Type}

/-! ### Submissions -/

/-- Every submission of the script is accepted by the server's reader, in whatever state the
script is started and whatever it reads on its way. -/
abbrev AsksAccepted (x : ClassScript δ α) : Prop := x.Asks Server.Accepted

/-- The longest transfer buffer the server's reader takes: a submission with more of it ends
the session. -/
def transferLimit : Nat := 1048576

theorem accepted_submission {t : Transfer} {devid seqnum : UInt32}
    (h : TailOk (t.direction == 0) t.length t.payload t.numberOfPackets t.packets) :
    Server.Accepted (t.submission devid seqnum) :=
  Server.accepted_iff.mpr ⟨rfl, h⟩

theorem asks_submit {t : Transfer}
    (h : TailOk (t.direction == 0) t.length t.payload t.numberOfPackets t.packets) :
    AsksAccepted (submit t : ClassScript δ Unit) :=
  Script.Asks.request DriverError.io fun _ => accepted_submission h

/-- An OUT transfer announces the length of its payload, which is exact within the limit. -/
theorem asks_toDevice {ep : UInt32} {setup : Bytes 8} {payload : List UInt8}
    (h : payload.length ≤ transferLimit) :
    AsksAccepted (submit (.toDevice ep setup payload) : ClassScript δ Unit) := by
  have hword : (UInt32.ofNat payload.length).toNat = payload.length :=
    UInt32.toNat_ofNat_of_lt' (Nat.lt_of_le_of_lt h (by decide))
  have hannounced : UInt32.ofNat payload.length ≤ 1048576 := by
    rw [UInt32.le_iff_toNat_le, hword]
    exact h
  exact asks_submit ⟨hannounced, hword.symm, Or.inl ⟨rfl, rfl⟩⟩

/-- An IN transfer announces the length it asks for and carries nothing. -/
theorem asks_fromDevice {ep : UInt32} {setup : Bytes 8} {length : UInt32}
    (h : length.toNat ≤ transferLimit) :
    AsksAccepted (submit (.fromDevice ep setup length) : ClassScript δ Unit) :=
  asks_submit ⟨UInt32.le_iff_toNat_le.mpr h, rfl, Or.inl ⟨rfl, rfl⟩⟩

/-- A length that is cast to a word does not grow. -/
theorem toNat_ofNat_le (n : Nat) : (UInt32.ofNat n).toNat ≤ n := by
  rw [UInt32.toNat_ofNat']
  exact Nat.mod_le _ _

theorem asks_awaitReturn (kind : DeviceClass) (what : String) :
    AsksAccepted (awaitReturn kind what : ClassScript δ RetSubmit) := by
  apply Script.Asks.bind Script.Asks.receive
  intro message
  split
  · exact .throw _
  · exact .ite (fun _ => .throw _) fun _ => .pure _
  · exact .throw _

theorem asks_readRetSubmit (kind : DeviceClass) :
    AsksAccepted (readRetSubmit kind : ClassScript δ (List UInt8)) := by
  apply Script.Asks.bind (asks_awaitReturn kind _)
  intro ret
  exact .pure _

theorem asks_getFields : AsksAccepted (getFields : ClassScript δ δ) := by
  apply Script.Asks.bind Script.Asks.get
  intro d
  exact .pure _

theorem asks_updateFields (f : δ → δ) : AsksAccepted (updateFields f : ClassScript δ Unit) :=
  Script.Asks.modify _

/-- What a call makes of its value asks for nothing more. -/
theorem asks_output {x : ClassScript δ α} {f : α → Output} (hx : AsksAccepted x) :
    AsksAccepted (x >>= fun a => pure (f a)) := by
  apply Script.Asks.bind hx
  intro a
  exact .pure _

/-- Most helpers submit one transfer and read its return: what they ask for is what that
transfer asks for. -/
theorem asks_exchange {kind : DeviceClass} {x : ClassScript δ Unit}
    {f : List UInt8 → ClassScript δ α} (hx : AsksAccepted x) (hf : ∀ data, AsksAccepted (f data)) :
    AsksAccepted (x >>= fun _ => readRetSubmit kind >>= f) := by
  apply Script.Asks.bind hx
  intro _
  apply Script.Asks.bind (asks_readRetSubmit kind)
  exact hf

/-! ### The drivers -/

/-- The longest buffer a caller may hand to a driver: the limit of a transfer, less the 65536
bytes a driver may add to it. -/
def bufferLimit : Nat := 983040

/-- The buffer of a call, if it has one; the lengths a driver chooses itself are small. -/
def hidBuffer : Hid.Call → List UInt8
  | .writeReport report => report
  | _ => []

def massStorageBuffer : MassStorage.Call → List UInt8
  | .readBlocks _ _ buf => buf
  | .writeBlocks _ _ data => data
  | _ => []

def networkBuffer : Network.Call → List UInt8
  | .writeFrame frame => frame
  | _ => []

def serialBuffer : Serial.Call → List UInt8
  | .read buf => buf
  | .write data => data
  | _ => []

def audioBuffer : Audio.Call → List UInt8
  | .readAudio buf => buf
  | .writeAudio data => data
  | _ => []

theorem le_transferLimit {n extra : Nat} (h : n ≤ bufferLimit) (hextra : extra ≤ 65535) :
    n + extra ≤ transferLimit := by
  unfold bufferLimit at h
  unfold transferLimit
  omega

section Hid

open Hid

theorem asks_controlTransferOut {setup : Bytes 8} {data : List UInt8}
    (h : data.length ≤ bufferLimit) : AsksAccepted (controlTransferOut setup data) := by
  have hlength : data.length ≤ transferLimit := le_transferLimit h (Nat.zero_le _)
  apply asks_exchange (asks_toDevice hlength)
  intro data
  exact .pure _

/-- The report descriptor is asked for with a buffer of fixed size, and the two settings carry
no data. -/
theorem asks_initializeHid : AsksAccepted Hid.initializeDevice := by
  have hdescriptor : AsksAccepted Hid.getReportDescriptor := by
    apply Script.Asks.bind asks_getFields
    intro f
    apply Script.Asks.bind (asks_fromDevice (by decide))
    intro _
    exact asks_readRetSubmit _
  have hidle : AsksAccepted (Hid.setIdle 0 0) := by
    apply Script.Asks.bind asks_getFields
    intro f
    exact asks_controlTransferOut (Nat.zero_le _)
  have hprotocol : AsksAccepted (Hid.setProtocol 1) := by
    apply Script.Asks.bind asks_getFields
    intro f
    exact asks_controlTransferOut (Nat.zero_le _)
  apply Script.Asks.bind hdescriptor
  intro descriptor
  apply Script.Asks.bind (asks_updateFields _)
  intro _
  apply Script.Asks.bind hidle
  intro _
  exact hprotocol

theorem asks_hid (call : Hid.Call) (h : (hidBuffer call).length ≤ bufferLimit) :
    AsksAccepted call.script := by
  cases call with
  | initializeDevice => exact asks_output asks_initializeHid
  | readReport =>
      apply asks_output
      apply Script.Asks.bind asks_getFields
      intro f
      apply Script.Asks.bind (asks_fromDevice (by decide))
      intro _
      exact asks_readRetSubmit _
  | writeReport report =>
      have hlength : report.length ≤ transferLimit := le_transferLimit h (Nat.zero_le _)
      apply asks_output
      apply Script.Asks.bind asks_getFields
      intro f
      -- the report goes to the interrupt endpoint if there is one, over endpoint 0 otherwise
      split
      · apply asks_exchange (asks_toDevice hlength)
        intro data
        exact .pure _
      · apply Script.Asks.bind asks_getFields
        intro f
        exact asks_controlTransferOut h

end Hid

section MassStorage

open MassStorage

theorem asks_sendBulkOut {payload : List UInt8} (h : payload.length ≤ transferLimit) :
    AsksAccepted (MassStorage.sendBulkOut payload) := by
  apply Script.Asks.bind asks_getFields
  intro f
  exact asks_toDevice h

theorem asks_receiveBulkIn {length : UInt32} (h : length.toNat ≤ transferLimit) :
    AsksAccepted (MassStorage.receiveBulkIn length) := by
  apply Script.Asks.bind asks_getFields
  intro f
  apply Script.Asks.bind (asks_fromDevice h)
  intro _
  exact asks_readRetSubmit _

theorem asks_sendCbw (cmd : ScsiCommand) (dataLen : UInt32) (direction : Direction) :
    AsksAccepted (sendCbw cmd dataLen direction) := by
  have htag : AsksAccepted nextTag := by
    apply Script.Asks.bind asks_getFields
    intro f
    apply Script.Asks.bind (asks_updateFields _)
    intro _
    exact .pure _
  apply Script.Asks.bind htag
  intro tag
  apply Script.Asks.bind (asks_sendBulkOut _)
  · intro _
    exact .pure _
  · rw [Bytes.length_val]
    decide

/-- A command asks for three transfers: its wrapper and its status, which are short, and its
data, which is as long as the caller says. -/
theorem asks_scsiCommand (cmd : ScsiCommand) {data : Option (List UInt8)} {responseLen : UInt32}
    (hdata : ∀ d, data = some d → d.length ≤ transferLimit)
    (hlen : responseLen.toNat ≤ transferLimit) :
    AsksAccepted (scsiCommand cmd data responseLen) := by
  have htransfer : AsksAccepted (transferData data responseLen) := by
    cases data with
    | some d =>
        apply asks_exchange (asks_sendBulkOut (hdata d rfl))
        intro _
        exact .pure _
    | none => exact .ite (fun _ => asks_receiveBulkIn hlen) fun _ => .pure _
  have hstatus : ∀ tag, AsksAccepted (receiveCsw tag) := by
    intro tag
    apply Script.Asks.bind (asks_receiveBulkIn (by decide))
    intro data
    exact .liftExcept _
  apply Script.Asks.bind (asks_sendCbw cmd _ _)
  intro tag
  apply Script.Asks.bind (asks_readRetSubmit _)
  intro _
  apply Script.Asks.bind htransfer
  intro responseData
  apply Script.Asks.bind (hstatus tag)
  intro status
  apply Script.Asks.bind (Script.Asks.liftExcept _)
  intro _
  exact .pure _

theorem asks_massStorage (call : MassStorage.Call)
    (h : (massStorageBuffer call).length ≤ transferLimit) : AsksAccepted call.script := by
  cases call with
  | initializeDevice =>
      apply asks_output
      apply Script.Asks.bind (asks_scsiCommand _ (by simp) (by decide))
      intro inquiry
      apply Script.Asks.bind (asks_updateFields _)
      intro _
      apply Script.Asks.bind (asks_scsiCommand _ (by simp) (by decide))
      intro capacity
      exact asks_updateFields _
  | readBlocks lba count buf =>
      have hbuf : buf.length ≤ transferLimit := h
      apply asks_output
      apply Script.Asks.bind asks_getFields
      intro f
      -- the buffer is checked first, so what is asked for is no longer than it
      refine .ite (fun _ => .throw _) fun hlen => ?_
      have hasked : (UInt32.ofNat (count.toNat * f.blockSize.toNat)).toNat ≤ transferLimit :=
        (toNat_ofNat_le _).trans ((Nat.not_lt.mp hlen).trans hbuf)
      apply Script.Asks.bind (asks_scsiCommand _ (by simp) hasked)
      intro data
      exact .pure _
  | writeBlocks lba count data =>
      have hdata : data.length ≤ transferLimit := h
      apply asks_output
      apply Script.Asks.bind asks_getFields
      intro f
      refine .ite (fun _ => .throw _) fun _ => ?_
      have hsent : ∀ d, some (data.take (count.toNat * f.blockSize.toNat)) = some d →
          d.length ≤ transferLimit := by
        rintro d ⟨⟩
        rw [List.length_take]
        exact (Nat.min_le_right _ _).trans hdata
      apply Script.Asks.bind (asks_scsiCommand _ hsent (Nat.zero_le _))
      intro _
      exact .pure _

end MassStorage

section Network

open Network

theorem asks_setPacketFilter (filter : UInt16) : AsksAccepted (setPacketFilter filter) := by
  apply Script.Asks.bind asks_getFields
  intro f
  apply asks_exchange (asks_toDevice (Nat.zero_le _))
  intro data
  exact .pure _

/-- A block is 28 bytes longer than its frame. -/
theorem length_wrapNcmNtb {overflowChecks : Bool} {frame payload : List UInt8}
    (h : wrapNcmNtb overflowChecks frame = .ok payload) : payload.length = frame.length + 28 := by
  unfold wrapNcmNtb at h
  simp only at h
  split at h
  · cases h
  · cases h
    simp only [List.length_append, length_u32LeBytes, length_u16LeBytes]
    omega

/-- A frame is asked for with the segment size of the adapter and some room above it. -/
theorem asks_readFrame : AsksAccepted readFrame := by
  apply Script.Asks.bind asks_getFields
  intro f
  have hasked : (f.maxSegmentSize.toUInt32 + 512).toNat ≤ transferLimit := by
    have hsegment := f.maxSegmentSize.toNat_lt
    rw [UInt32.toNat_add, UInt16.toNat_toUInt32]
    exact (Nat.mod_le _ _).trans (Nat.add_le_add_right (Nat.le_of_lt hsegment) _ |>.trans
      (by decide))
  have hreceive : AsksAccepted
      (receiveBulkIn f.epDataIn (f.maxSegmentSize.toUInt32 + 512) : Network.Method _) := by
    apply Script.Asks.bind (asks_fromDevice hasked)
    intro _
    exact asks_readRetSubmit _
  apply Script.Asks.bind hreceive
  intro data
  exact .liftExcept _

/-- A frame is sent as it is, or in a block of its own. -/
theorem asks_writeFrame (overflowChecks : Bool) {frame : List UInt8}
    (h : frame.length ≤ bufferLimit) : AsksAccepted (writeFrame overflowChecks frame) := by
  apply Script.Asks.bind asks_getFields
  intro f
  apply Script.Asks.liftExcept_bind
  intro payload hpayload
  have hlength : payload.length ≤ transferLimit := by
    split at hpayload
    · cases hpayload
      exact le_transferLimit h (Nat.zero_le _)
    · rw [length_wrapNcmNtb hpayload]
      exact le_transferLimit h (by decide)
  apply asks_exchange (asks_toDevice hlength)
  intro data
  exact .pure _

theorem asks_network (overflowChecks : Bool) (call : Network.Call)
    (h : (networkBuffer call).length ≤ bufferLimit) :
    AsksAccepted (call.script overflowChecks) := by
  cases call with
  | initializeDevice => exact asks_output (asks_setPacketFilter _)
  | setProtocol protocol => exact asks_output (asks_updateFields _)
  | setPacketFilter filter => exact asks_output (asks_setPacketFilter _)
  | readFrame => exact asks_output asks_readFrame
  | writeFrame frame => exact asks_output (asks_writeFrame overflowChecks h)

end Network

section Serial

open Serial

theorem asks_setLineCoding (coding : LineCoding) : AsksAccepted (setLineCoding coding) := by
  have hlength : coding.toBytes.val.length ≤ transferLimit := by
    rw [Bytes.length_val]
    decide
  apply Script.Asks.bind asks_getFields
  intro f
  apply asks_exchange (asks_toDevice hlength)
  intro data
  exact asks_updateFields _

theorem asks_setControlLineState (dtr rts : Bool) : AsksAccepted (setControlLineState dtr rts) := by
  apply Script.Asks.bind asks_getFields
  intro f
  apply asks_exchange (asks_toDevice (Nat.zero_le _))
  intro data
  exact .pure _

theorem asks_serial (call : Serial.Call) (h : (serialBuffer call).length ≤ bufferLimit) :
    AsksAccepted call.script := by
  cases call with
  | initializeDevice baudRate =>
      apply asks_output
      apply Script.Asks.bind (asks_setLineCoding _)
      intro _
      exact asks_setControlLineState _ _
  | read buf =>
      have hasked : (UInt32.ofNat buf.length).toNat ≤ transferLimit :=
        (toNat_ofNat_le _).trans (le_transferLimit h (Nat.zero_le _))
      have hreceive : ∀ ep, AsksAccepted
          (receiveBulkIn ep (UInt32.ofNat buf.length) : Serial.Method _) := by
        intro ep
        apply Script.Asks.bind (asks_fromDevice hasked)
        intro _
        exact asks_readRetSubmit _
      apply asks_output
      apply Script.Asks.bind asks_getFields
      intro f
      apply Script.Asks.bind (hreceive f.epDataIn)
      intro data
      exact .pure _
  | write data =>
      have hlength : data.length ≤ transferLimit := le_transferLimit h (Nat.zero_le _)
      apply asks_output
      apply Script.Asks.bind asks_getFields
      intro f
      apply asks_exchange (asks_toDevice hlength)
      intro data
      exact .pure _
  | setLineCoding coding => exact asks_output (asks_setLineCoding coding)
  | setControlLineState dtr rts => exact asks_output (asks_setControlLineState dtr rts)

end Serial

section Audio

open Audio

theorem asks_sendControlOut {setup : Bytes 8} {data : List UInt8} (h : data.length ≤ bufferLimit) :
    AsksAccepted (Audio.sendControlOut setup data) := by
  have hlength : data.length ≤ transferLimit := le_transferLimit h (Nat.zero_le _)
  apply Script.Asks.bind (asks_toDevice hlength)
  intro _
  apply Script.Asks.bind (asks_awaitReturn _ _)
  intro ret
  exact .pure _

theorem asks_sendControlIn (setup : Bytes 8) (length : UInt16) :
    AsksAccepted (Audio.sendControlIn setup length) := by
  have hasked : length.toUInt32.toNat ≤ transferLimit := by
    rw [UInt16.toNat_toUInt32]
    exact (Nat.le_of_lt length.toNat_lt).trans (by decide)
  apply Script.Asks.bind (asks_fromDevice hasked)
  intro _
  apply Script.Asks.bind (asks_awaitReturn _ _)
  intro ret
  exact .pure _

/-- The packets of a transfer cover its bytes with less than one packet to spare. -/
theorem packetCount_mul_le (len : Nat) {maxPkt : Nat} (h : 0 < maxPkt) :
    packetCount len maxPkt * maxPkt ≤ len + (maxPkt - 1) :=
  calc packetCount len maxPkt * maxPkt
      ≤ (len + maxPkt - 1) / maxPkt * maxPkt := Nat.mul_le_mul_right _ (Nat.min_le_left _ _)
    _ ≤ len + maxPkt - 1 := Nat.div_mul_le_self _ _
    _ = len + (maxPkt - 1) := Nat.add_sub_assoc h len

/-- The packets of a transfer are announced as they are. -/
theorem packets_ok {packets : List IsoPacketDescriptor} {len maxPkt : Nat}
    (h : packets.length = packetCount len maxPkt) :
    packets.length = (UInt32.ofNat (packetCount len maxPkt)).toNat ∧ packets.length ≤ 1024 := by
  have hle := packetCount_le len maxPkt
  rw [h, UInt32.toNat_ofNat_of_lt' (Nat.lt_of_le_of_lt hle (by decide))]
  exact ⟨rfl, hle.trans (by decide)⟩

/-- A transfer is made only when the packet size of the endpoint is not zero. -/
theorem isoEndpoint_pos {ep : Option UInt8} {missing : String} {f : Fields} {found : UInt32 × Nat}
    (h : isoEndpoint ep missing f = .ok found) : 0 < found.2 ∧ found.2 ≤ 65536 := by
  unfold isoEndpoint at h
  split at h
  · cases h
  · split at h
    · cases h
    · rename_i hzero
      cases h
      refine ⟨Nat.pos_of_ne_zero fun hnat => hzero (UInt16.toNat_inj.mp hnat), ?_⟩
      exact Nat.le_of_lt f.maxPacketSize.toNat_lt

theorem asks_readAudio {buf : List UInt8} (h : buf.length ≤ bufferLimit) :
    AsksAccepted (readAudio buf) := by
  apply Script.Asks.bind asks_getFields
  intro f
  apply Script.Asks.liftExcept_bind
  rintro ⟨ep, maxPkt⟩ hendpoint
  have hpacket := isoEndpoint_pos hendpoint
  simp only at hpacket
  obtain ⟨hpos, hmax⟩ := hpacket
  -- every packet is read at its full size, the last one too
  have hasked : UInt32.ofNat (packetCount buf.length maxPkt * maxPkt) ≤ 1048576 := by
    rw [UInt32.le_iff_toNat_le]
    refine (toNat_ofNat_le _).trans ((packetCount_mul_le _ hpos).trans ?_)
    exact le_transferLimit h (by omega)
  have hcount : (captureDescriptors f.maxPacketSize (packetCount buf.length maxPkt)).length =
      packetCount buf.length maxPkt := by
    simp [captureDescriptors]
  apply Script.Asks.bind (asks_submit ⟨hasked, rfl, Or.inr (packets_ok hcount)⟩)
  intro _
  apply Script.Asks.bind (asks_awaitReturn _ _)
  intro ret
  exact .pure _

theorem asks_writeAudio {data : List UInt8} (h : data.length ≤ bufferLimit) :
    AsksAccepted (writeAudio data) := by
  apply Script.Asks.bind asks_getFields
  intro f
  apply Script.Asks.liftExcept_bind
  rintro ⟨ep, maxPkt⟩ -
  have hmax : data.length ≤ 1048576 := le_transferLimit h (Nat.zero_le _)
  have hword : (UInt32.ofNat data.length).toNat = data.length :=
    UInt32.toNat_ofNat_of_lt' (Nat.lt_of_le_of_lt hmax (by decide))
  have hannounced : UInt32.ofNat data.length ≤ 1048576 := by
    rw [UInt32.le_iff_toNat_le, hword]
    exact hmax
  have hpackets := packets_ok
    (length_playbackDescriptors data.length maxPkt (packetCount data.length maxPkt) 0)
  apply Script.Asks.bind (asks_submit ⟨hannounced, hword.symm, Or.inr hpackets⟩)
  intro _
  apply Script.Asks.bind (asks_awaitReturn _ _)
  intro ret
  exact .pure _

theorem asks_audio (call : Audio.Call) (h : (audioBuffer call).length ≤ bufferLimit) :
    AsksAccepted call.script := by
  cases call with
  | initializeDevice =>
      apply asks_output
      apply Script.Asks.bind (asks_sendControlIn _ _)
      intro data
      exact .pure _
  | readAudio buf => exact asks_output (asks_readAudio h)
  | writeAudio data => exact asks_output (asks_writeAudio h)
  | setSampleRate rate =>
      apply asks_output
      apply Script.Asks.bind asks_getFields
      intro f
      apply Script.Asks.bind (Script.Asks.liftExcept _)
      intro ep
      apply Script.Asks.bind (asks_sendControlOut (by simp [bufferLimit]))
      intro _
      exact asks_updateFields _
  | getSampleRates =>
      apply asks_output
      apply Script.Asks.bind asks_getFields
      intro f
      apply Script.Asks.bind (Script.Asks.liftExcept _)
      intro ep
      apply Script.Asks.bind (asks_sendControlIn _ _)
      intro data
      exact .ite (fun _ => .pure _) fun _ => .pure _
  | setVolume channel volume =>
      apply asks_output
      apply asks_sendControlOut
      rw [length_u16LeBytes]
      decide
  | setMute channel mute => exact asks_output (asks_sendControlOut (by simp [bufferLimit]))

end Audio

/-! ### All of them -/

/-- The driver of a class; `overflowChecks` is the setting of the build, which only the
network driver looks at. -/
def driverOf (overflowChecks : Bool) : DeviceClass → Driver
  | .massStorage => MassStorage.driver
  | .hid => Hid.driver
  | .network => Network.driver overflowChecks
  | .serial => Serial.driver
  | .audio => Audio.driver

/-- The buffer of a call to the driver of a class. -/
def callBuffer (overflowChecks : Bool) :
    (kind : DeviceClass) → (driverOf overflowChecks kind).Method → List UInt8
  | .massStorage => massStorageBuffer
  | .hid => hidBuffer
  | .network => networkBuffer
  | .serial => serialBuffer
  | .audio => audioBuffer

/-- **Requests are accepted.** For every class of device, every submission of a call whose
buffer is within the limit passes the checks of the server's reader, whatever the driver has
been answered before. -/
theorem driver_asks_accepted (overflowChecks : Bool) (kind : DeviceClass)
    (call : (driverOf overflowChecks kind).Method)
    (h : (callBuffer overflowChecks kind call).length ≤ bufferLimit) :
    AsksAccepted ((driverOf overflowChecks kind).script call) := by
  cases kind with
  | massStorage => exact asks_massStorage call (h.trans (by decide))
  | hid => exact asks_hid call h
  | network => exact asks_network overflowChecks call h
  | serial => exact asks_serial call h
  | audio => exact asks_audio call h

end Extender.System
