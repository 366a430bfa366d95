/-
Blocks read and written through the mass storage driver (`read_blocks`, `write_blocks`).

A request names its blocks with 64 bits and their number with 32; READ(10) and WRITE(10) have
32 and 16 bits for them, the wrapper 32 bits for the length, and the server takes at most
1048576 bytes in a submission. All four narrowings are casts, so that a request beyond them is
not refused but addressed to other blocks, or announced with another length.

The first half is about what is sent. A call may be abandoned at any moment, and so the
property speaks of every beginning of its conversation (`SendsAsAsked`): if anything has been
sent, it is a wrapper for the blocks asked for, and then data of the length the wrapper has.

The second half is about what a write reports. It reports all that it was asked for as soon as
the command passed, and neither the residue in the status wrapper nor the length returned for
the data phase is looked at. A `scsi_command` succeeds on three replies and no others
(`PassingReplies`); the write reports too much on those that pass short (`PassesShort`).

* `requests_scsiCommand` — what a command sends: its wrapper, then its data.
* `blockRequests_sendAsAsked_iff` — a request is sent as it was asked for, or refused, iff it
  can be expressed or the caller's buffer is too small.
* `write_beyond_32_bits_wraps` — a write of block `2 ^ 32` overwrites block 0.
* `replies_of_writeBlocks_ok`, `exists_writeBlocks_ok` — the replies on which a write
  succeeds.
* `writeBlocks_counts_iff` — a write that succeeds reports what was written iff the device
  took all of it.
-/

import Extender.Client.MassStorage

namespace Extender.Client.MassStorage

open BigEndian Dialogue Extender.Protocol

variable {d d' : ClassDevice Fields} {conversation : List DriverEvent}

/-! ### The phases of a command -/

/-- The submission `send_bulk_out` makes. -/
def outSubmission (d : ClassDevice Fields) (payload : List UInt8) : CmdSubmit :=
  (Transfer.toDevice (endpointNumber d.fields.epOut) noSetup payload).submission d.devid
    d.nextSeqnum

/-- The submission `receive_bulk_in` makes. -/
def inSubmission (d : ClassDevice Fields) (length : UInt32) : CmdSubmit :=
  (Transfer.fromDevice (endpointNumber d.fields.epIn) noSetup length).submission d.devid
    d.nextSeqnum

/-- The device after `next_tag`. -/
def tagged (d : ClassDevice Fields) : ClassDevice Fields :=
  { d with fields := { d.fields with nextTag := numberAfter d.fields.nextTag } }

/-- The submission of the wrapper of a command. -/
def wrapperSubmission (d : ClassDevice Fields) (command : ScsiCommand) (dataLen : UInt32)
    (direction : Direction) : CmdSubmit :=
  outSubmission (tagged d) (cbwOf command dataLen direction d.fields.nextTag).toBytes.val

/-- The submission of the data of a command, in the direction it has. -/
def dataSubmission (d : ClassDevice Fields) (data : Option (List UInt8)) (responseLen : UInt32) :
    CmdSubmit :=
  match data with
  | some payload => outSubmission d payload
  | none => inSubmission d responseLen

/-- A bulk OUT submission is all that is said, and the counter has moved on. -/
theorem ends_sendBulkOut {payload : List UInt8} {result : Except DriverError Unit} :
    Script.Ends (sendBulkOut payload) d conversation d' result ↔
      ∃ ok, conversation = [.wrote (outSubmission d payload) ok] ∧ d' = d.advance ∧
        result = if ok then .ok () else .error .io :=
  ends_submit

/-- A wrapper goes out under the device's next tag, and the tag is the result. -/
theorem ends_sendCbw {command : ScsiCommand} {dataLen : UInt32} {direction : Direction}
    {result : Except DriverError UInt32} :
    Script.Ends (sendCbw command dataLen direction) d conversation d' result ↔
      ∃ ok, conversation = [.wrote (wrapperSubmission d command dataLen direction) ok] ∧
        d' = (tagged d).advance ∧
        result = if ok then .ok d.fields.nextTag else .error .io := by
  change Script.Ends (sendBulkOut _ >>= fun _ => pure d.fields.nextTag) (tagged d) conversation
    d' result ↔ _
  rw [Script.ends_bind]
  constructor
  · rintro (⟨e, he, rfl⟩ | ⟨first, rest, a, d₁, rfl, hfirst, rfl, rfl, rfl⟩)
    · obtain ⟨ok, rfl, rfl, hok⟩ := ends_sendBulkOut.mp he
      cases ok with
      | true => cases hok
      | false =>
          cases hok
          exact ⟨false, rfl, rfl, rfl⟩
    · obtain ⟨ok, rfl, rfl, hok⟩ := ends_sendBulkOut.mp hfirst
      cases ok with
      | true => exact ⟨true, rfl, rfl, rfl⟩
      | false => cases hok
  · rintro ⟨ok, rfl, rfl, rfl⟩
    cases ok with
    | true =>
        exact Or.inr ⟨_, [], (), _, rfl, ends_sendBulkOut.mpr ⟨true, rfl, rfl, rfl⟩, rfl, rfl, rfl⟩
    | false => exact Or.inl ⟨.io, ends_sendBulkOut.mpr ⟨false, rfl, rfl, rfl⟩, rfl⟩

theorem opens_sendBulkOut (payload : List UInt8) :
    Script.Opens (sendBulkOut payload) d (outSubmission d payload) :=
  opens_submit _

/-- An IN submission is written before anything is read. -/
theorem opens_receiveBulkIn (length : UInt32) :
    Script.Opens (receiveBulkIn length) d (inSubmission d length) := by
  have hopens : Script.Opens (submit (.fromDevice (endpointNumber d.fields.epIn) noSetup length)
      >>= fun _ => readRetSubmit .massStorage : Method (List UInt8)) d (inSubmission d length) :=
    (opens_submit _).bind
  exact hopens

/-- The data phase begins with its submission, when there is one. -/
theorem opens_transferData {data : Option (List UInt8)} {responseLen : UInt32}
    (h : data.isSome ∨ 0 < responseLen) :
    Script.Opens (transferData data responseLen) d (dataSubmission d data responseLen) := by
  cases data with
  | some payload => exact (opens_sendBulkOut payload).bind
  | none =>
      have hlen : 0 < responseLen := h.resolve_left Bool.false_ne_true
      simp only [transferData, hlen, if_true]
      exact opens_receiveBulkIn responseLen

/-- That submission asks for the length the wrapper announced. -/
theorem dataSubmission_length {data : Option (List UInt8)} {responseLen : UInt32}
    (h : data.isSome ∨ 0 < responseLen) (d : ClassDevice Fields) :
    (dataSubmission d data responseLen).transferBufferLength = (announced data responseLen).2 := by
  cases data with
  | some payload => rfl
  | none =>
      have hlen : 0 < responseLen := h.resolve_left Bool.false_ne_true
      simp only [announced, hlen, if_true]
      rfl

/-- A command sends its wrapper first and then, if it has data, a submission of the length
the wrapper announces. -/
theorem requests_scsiCommand {cmd : ScsiCommand} {data : Option (List UInt8)}
    {responseLen : UInt32} {result : Except DriverError (List UInt8)}
    (h : Script.Ends (scsiCommand cmd data responseLen) d conversation d' result) :
    ∃ more, requests conversation =
        wrapperSubmission d cmd (announced data responseLen).2 (announced data responseLen).1 ::
          more ∧
      (data.isSome ∨ 0 < responseLen → ∀ next rest, more = next :: rest →
        next.transferBufferLength = (announced data responseLen).2) := by
  rcases Script.ends_bind.mp h with ⟨e, he, -⟩ | ⟨first, rest, tag, d₁, rfl, hfirst, hrest⟩
  · obtain ⟨ok, rfl, -⟩ := ends_sendCbw.mp he
    exact ⟨[], rfl, fun _ _ _ => nofun⟩
  · obtain ⟨ok, rfl, -⟩ := ends_sendCbw.mp hfirst
    refine ⟨requests rest, by rw [requests_append]; rfl, fun hdata next more hmore => ?_⟩
    rcases Script.ends_bind.mp hrest with ⟨e, he, -⟩ | ⟨got, phase, _, d₂, rfl, hgot, hphase⟩
    · rw [silent_readRetSubmit _ _ _ _ _ he] at hmore
      cases hmore
    · obtain ⟨ok, tail, rfl⟩ := (opens_transferData hdata).bind _ _ _ hphase
      rw [requests_append, silent_readRetSubmit _ _ _ _ _ hgot] at hmore
      rw [← (List.cons.inj hmore).1]
      exact dataSubmission_length hdata d₂

/-! ### Addresses and lengths -/

/-- The address of a 10-byte command: bytes 2 to 5. -/
def cdbLba (cb : Bytes 16) : Nat := ofBytes ((cb.val.drop 2).take 4)

/-- The transfer length of a 10-byte command, in blocks: bytes 7 and 8. -/
def cdbBlocks (cb : Bytes 16) : Nat := ofBytes ((cb.val.drop 7).take 2)

/-- The address is read back from where READ(10) and WRITE(10) have it. -/
theorem cdbLba_blocksCdb (opcode : UInt8) (lba : UInt32) (blocks : UInt16) :
    cdbLba (blocksCdb opcode lba blocks) = lba.toNat := by
  have hfield : ((blocksCdb opcode lba blocks).val.drop 2).take 4 = u32Bytes lba :=
    List.take_left' (length_u32Bytes lba)
  rw [cdbLba, hfield]
  exact ofBytes_toBytes lba.toNat_lt

theorem cdbBlocks_blocksCdb (opcode : UInt8) (lba : UInt32) (blocks : UInt16) :
    cdbBlocks (blocksCdb opcode lba blocks) = blocks.toNat := by
  have hdrop : (blocksCdb opcode lba blocks).val.drop 7 =
      u16Bytes blocks ++ [0, 0, 0, 0, 0, 0, 0] := by
    change ([opcode, 0] ++ (u32Bytes lba ++ ([0] ++ (u16Bytes blocks ++ _)))).drop 7 = _
    rw [← List.append_assoc, ← List.append_assoc]
    exact List.drop_left' (by simp)
  rw [cdbBlocks, hdrop, List.take_left' (length_u16Bytes blocks)]
  exact ofBytes_toBytes blocks.toNat_lt

/-- The request fits the fields of the command and a submission the server takes: 32 bits of
address, 16 bits of count, 1048576 bytes. -/
def Expressible (lba : UInt64) (count blockSize : UInt32) : Prop :=
  lba.toNat < 2 ^ 32 ∧ count.toNat < 2 ^ 16 ∧ count.toNat * blockSize.toNat ≤ 1048576

instance (lba : UInt64) (count blockSize : UInt32) : Decidable (Expressible lba count blockSize) :=
  inferInstanceAs (Decidable (_ ∧ _ ∧ _))

/-- If anything has been sent, it is the wrapper of a command for `count` blocks from `lba`
on, with the length of the data; and the data phase, if it has begun and there is data, is
of the same length. -/
def Addresses (opcode : UInt8) (lba count length : Nat) (sent : List CmdSubmit) : Prop :=
  ∀ wrapper more, sent = wrapper :: more →
    (∃ cbw : Cbw, wrapper.transferBuffer = cbw.toBytes.val ∧ cbw.cb.val.head? = some opcode ∧
      cdbLba cbw.cb = lba ∧ cdbBlocks cbw.cb = count ∧ cbw.dataTransferLength.toNat = length ∧
      length ≤ 1048576) ∧
    (0 < length → ∀ data rest, more = data :: rest → data.transferBufferLength.toNat = length)

/-- Sending less of it keeps the addresses. -/
theorem Addresses.of_append {opcode : UInt8} {lba count length : Nat} {a b : List CmdSubmit}
    (h : Addresses opcode lba count length (a ++ b)) : Addresses opcode lba count length a := by
  rintro wrapper more rfl
  obtain ⟨hcbw, hdata⟩ := h wrapper (more ++ b) rfl
  refine ⟨hcbw, ?_⟩
  rintro hpos data rest rfl
  exact hdata hpos data (rest ++ b) rfl

/-- At any moment of the call what was sent addresses what was asked for, and what cannot be
expressed is refused before anything is sent. -/
def SendsAsAsked {α : Type} (x : Method α) (d : ClassDevice Fields) (opcode : UInt8)
    (lba : UInt64) (count : UInt32) : Prop :=
  (∀ sofar rest d' result, Script.Ends x d (sofar ++ rest) d' result →
    Addresses opcode lba.toNat count.toNat (count.toNat * d.fields.blockSize.toNat)
      (requests sofar)) ∧
  (¬ Expressible lba count d.fields.blockSize → ∀ conversation d' result,
    Script.Ends x d conversation d' result →
      requests conversation = [] ∧ ∃ e, result = .error e)

section Command

variable {α : Type} {cmd : ScsiCommand} {data : Option (List UInt8)} {responseLen : UInt32}
  {finish : List UInt8 → α} {result : Except DriverError α} {opcode : UInt8} {lba : UInt64}
  {count : UInt32}

/-- The value of a command is only looked at when it has ended, so that what was sent does not
depend on it. -/
theorem requests_command
    (h : Script.Ends (scsiCommand cmd data responseLen >>= fun a => pure (finish a)) d
      conversation d' result) :
    ∃ result', Script.Ends (scsiCommand cmd data responseLen) d conversation d' result' := by
  rcases Script.ends_bind.mp h with ⟨e, he, -⟩ | ⟨first, rest, a, d₁, rfl, hfirst, rfl, rfl, -⟩
  · exact ⟨_, he⟩
  · rw [List.append_nil]
    exact ⟨_, hfirst⟩

/-- A command whose block and length are those of the request addresses it. -/
theorem addresses_command
    (hcdb : cmd.encodeCdb = blocksCdb opcode lba.toUInt32 count.toUInt16)
    (hfits : Expressible lba count d.fields.blockSize)
    (hlen : (announced data responseLen).2.toNat = count.toNat * d.fields.blockSize.toNat)
    (hphase : 0 < count.toNat * d.fields.blockSize.toNat → data.isSome ∨ 0 < responseLen)
    (h : Script.Ends (scsiCommand cmd data responseLen >>= fun a => pure (finish a)) d
      conversation d' result) :
    Addresses opcode lba.toNat count.toNat (count.toNat * d.fields.blockSize.toNat)
      (requests conversation) := by
  obtain ⟨hlba, hcount, hmax⟩ := hfits
  obtain ⟨_, hends⟩ := requests_command h
  obtain ⟨sent, hsent, hnext⟩ := requests_scsiCommand hends
  rw [hsent]
  rintro wrapper more hcons
  obtain ⟨rfl, rfl⟩ := List.cons.inj hcons
  refine ⟨⟨cbwOf cmd _ _ d.fields.nextTag, rfl, ?_, ?_, ?_, hlen, hmax⟩, ?_⟩
  · change cmd.encodeCdb.val.head? = _
    rw [hcdb]
    rfl
  · change cdbLba cmd.encodeCdb = _
    rw [hcdb, cdbLba_blocksCdb, UInt64.toNat_toUInt32, Nat.mod_eq_of_lt hlba]
  · change cdbBlocks cmd.encodeCdb = _
    rw [hcdb, cdbBlocks_blocksCdb, UInt32.toNat_toUInt16, Nat.mod_eq_of_lt hcount]
  · intro hpos next rest hmore
    rw [hnext (hphase hpos) next rest hmore, hlen]

/-- A request that is refused when the buffer is small and becomes a command otherwise. -/
theorem sendsAsAsked_iff {x : Method α} {small : Prop} [Decidable small] {e : DriverError}
    (hx : x d = (if small then Script.throw e
      else scsiCommand cmd data responseLen >>= fun a => pure (finish a) : Method α) d)
    (hcdb : cmd.encodeCdb = blocksCdb opcode lba.toUInt32 count.toUInt16)
    (hlen : Expressible lba count d.fields.blockSize → ¬ small →
      (announced data responseLen).2.toNat = count.toNat * d.fields.blockSize.toNat ∧
      (0 < count.toNat * d.fields.blockSize.toNat → data.isSome ∨ 0 < responseLen)) :
    SendsAsAsked x d opcode lba count ↔ Expressible lba count d.fields.blockSize ∨ small := by
  unfold SendsAsAsked Script.Ends
  rw [hx]
  by_cases hsmall : small
  · simp only [hsmall, if_true, or_true, iff_true]
    constructor
    · rintro sofar rest d' result ⟨hnil, -⟩
      rw [(List.append_eq_nil_iff.mp hnil).1]
      exact fun wrapper more => nofun
    · rintro - conversation d' result ⟨rfl, -, rfl⟩
      exact ⟨rfl, e, rfl⟩
  · simp only [hsmall, if_false, or_false]
    constructor
    · rintro ⟨-, hrefused⟩
      by_contra hfits
      -- the wrapper is handed to the connection, even if the write then fails
      have hsent : Script.Ends (scsiCommand cmd data responseLen >>= fun a => pure (finish a)) d
          [.wrote (wrapperSubmission d cmd (announced data responseLen).2
            (announced data responseLen).1) false] (tagged d).advance (.error .io) := by
        refine Script.ends_bind.mpr (Or.inl ⟨.io, ?_, rfl⟩)
        exact Script.ends_bind.mpr (Or.inl ⟨.io, ends_sendCbw.mpr ⟨false, rfl, rfl, rfl⟩, rfl⟩)
      exact absurd (hrefused hfits _ _ _ hsent).1 (List.cons_ne_nil _ _)
    · intro hfits
      obtain ⟨hlength, hphase⟩ := hlen hfits hsmall
      refine ⟨?_, fun h => absurd hfits h⟩
      intro sofar rest d' result h
      have haddr := addresses_command hcdb hfits hlength hphase h
      rw [requests_append] at haddr
      exact haddr.of_append

end Command

/-- The length of a request that can be expressed is a 32-bit number. -/
theorem toNat_ofNat_length {lba : UInt64} {count blockSize : UInt32}
    (h : Expressible lba count blockSize) :
    (UInt32.ofNat (count.toNat * blockSize.toNat)).toNat = count.toNat * blockSize.toNat :=
  UInt32.toNat_ofNat_of_lt' (Nat.lt_of_le_of_lt h.2.2 (by decide))

theorem readBlocks_sendsAsAsked_iff (lba : UInt64) (count : UInt32) (buf : List UInt8)
    (d : ClassDevice Fields) :
    SendsAsAsked (readBlocks lba count buf) d 0x28 lba count ↔
      Expressible lba count d.fields.blockSize ∨
        buf.length < count.toNat * d.fields.blockSize.toNat := by
  refine sendsAsAsked_iff rfl rfl fun hfits _ => ?_
  have hword := toNat_ofNat_length hfits
  have hpos : 0 < UInt32.ofNat (count.toNat * d.fields.blockSize.toNat) ↔
      0 < count.toNat * d.fields.blockSize.toNat := by
    rw [UInt32.lt_iff_toNat_lt, hword]
    rfl
  refine ⟨?_, fun h => Or.inr (hpos.mpr h)⟩
  simp only [announced]
  split
  · exact hword
  · rename_i hzero
    exact (Nat.eq_zero_of_not_pos (mt hpos.mpr hzero)).symm

theorem writeBlocks_sendsAsAsked_iff (lba : UInt64) (count : UInt32) (data : List UInt8)
    (d : ClassDevice Fields) :
    SendsAsAsked (writeBlocks lba count data) d 0x2A lba count ↔
      Expressible lba count d.fields.blockSize ∨
        data.length < count.toNat * d.fields.blockSize.toNat := by
  refine sendsAsAsked_iff rfl rfl fun hfits hlarge => ?_
  refine ⟨?_, fun _ => Or.inl rfl⟩
  change (UInt32.ofNat (data.take _).length).toNat = _
  rw [List.length_take_of_le (Nat.not_lt.mp hlarge)]
  exact toNat_ofNat_length hfits

/-- **Block addressing.** Whatever the device answers and wherever the call is abandoned,
`read_blocks` and `write_blocks` address exactly the blocks asked for, and refuse what
cannot be expressed, iff the request can be expressed or the buffer is too small. -/
theorem blockRequests_sendAsAsked_iff (lba : UInt64) (count : UInt32) (buf data : List UInt8)
    (d : ClassDevice Fields) :
    (SendsAsAsked (readBlocks lba count buf) d 0x28 lba count ↔
      Expressible lba count d.fields.blockSize ∨
        buf.length < count.toNat * d.fields.blockSize.toNat) ∧
    (SendsAsAsked (writeBlocks lba count data) d 0x2A lba count ↔
      Expressible lba count d.fields.blockSize ∨
        data.length < count.toNat * d.fields.blockSize.toNat) :=
  ⟨readBlocks_sendsAsAsked_iff lba count buf d, writeBlocks_sendsAsAsked_iff lba count data d⟩

/-- A disk with blocks of 512 bytes. -/
def sampleDisk : ClassDevice Fields :=
  { devid := 0x10002, nextSeqnum := 1, fields := { Fields.initial with blockSize := 512 } }

/-- Block `2 ^ 32` cannot be expressed: the wrapper for it addresses block 0. -/
theorem write_beyond_32_bits_wraps :
    ¬ SendsAsAsked (writeBlocks 4294967296 1 (List.replicate 512 0)) sampleDisk 0x2A 4294967296 1 ∧
    cdbLba (ScsiCommand.write10 (4294967296 : UInt64).toUInt32 (1 : UInt32).toUInt16).encodeCdb =
      0 := by
  constructor
  · rw [writeBlocks_sendsAsAsked_iff, List.length_replicate]
    decide
  · decide

/-! ### What a write reports -/

/-- The status wrapper in the data of the last reply, if there is one: thirteen bytes with the
signature. -/
def cswOf (data : List UInt8) : Option Csw :=
  if h : cswSize ≤ data.length then
    (Csw.fromBytes ⟨data.take cswSize, List.length_take_of_le h⟩).toOption
  else none

/-- The check of the status wrapper succeeds on a wrapper of the same tag. -/
theorem checkCsw_eq_ok_iff {tag : UInt32} {data : List UInt8} {status : CswStatus} :
    checkCsw tag data = .ok status ↔
      ∃ csw, cswOf data = some csw ∧ csw.tag = tag ∧ csw.status = status := by
  unfold checkCsw cswOf
  by_cases hlen : cswSize ≤ data.length
  · simp only [hlen, dif_pos]
    cases Csw.fromBytes ⟨data.take cswSize, List.length_take_of_le hlen⟩ with
    | error e => exact iff_of_false nofun nofun
    | ok csw =>
        change (if csw.tag ≠ tag then _ else Except.ok csw.status) = Except.ok status ↔ _
        by_cases htag : csw.tag = tag
        · simp only [htag, ne_eq, not_true_eq_false, if_false, Except.ok.injEq]
          constructor
          · rintro rfl
            exact ⟨csw, rfl, htag, rfl⟩
          · rintro ⟨csw', hcsw, -, hstatus⟩
            cases hcsw
            exact hstatus
        · simp only [htag, ne_eq, not_false_eq_true, if_true]
          refine iff_of_false nofun ?_
          rintro ⟨csw', hcsw, htag', -⟩
          cases hcsw
          exact htag htag'
  · simp only [hlen, dif_neg, not_false_eq_true]
    exact iff_of_false nofun nofun

/-- Only a command that passed ends without an error. -/
theorem checkStatus_eq_ok_iff {status : CswStatus} :
    checkStatus status = .ok () ↔ status = .passed := by
  cases status with
  | passed => exact iff_of_true rfl rfl
  | failed => exact iff_of_false nofun nofun
  | phaseError => exact iff_of_false nofun nofun
  | unknown b => exact iff_of_false nofun nofun

/-- What a bulk IN transfer says when it succeeds: its submission, and one return. -/
theorem ends_receiveBulkIn_ok {length : UInt32} {data : List UInt8} :
    Script.Ends (receiveBulkIn length) d conversation d' (.ok data) ↔
      ∃ ret : RetSubmit, conversation =
          [.wrote (inSubmission d length) true, .got (.ok (.retSubmit ret))] ∧
        ret.status = 0 ∧ data = ret.transferBuffer ∧ d' = d.advance := by
  change Script.Ends (submit _ >>= fun _ => readRetSubmit .massStorage) d conversation d'
    (.ok data) ↔ _
  rw [Script.ends_bind_ok]
  constructor
  · rintro ⟨first, rest, _, d₁, rfl, hfirst, hrest⟩
    obtain ⟨rfl, rfl⟩ := ends_submit_ok.mp hfirst
    obtain ⟨ret, rfl, hstatus, hdata, rfl⟩ := ends_readRetSubmit_ok.mp hrest
    exact ⟨ret, rfl, hstatus, hdata, rfl⟩
  · rintro ⟨ret, rfl, hstatus, hdata, rfl⟩
    exact ⟨[_], [_], (), d.advance, rfl, ends_submit_ok.mpr ⟨rfl, rfl⟩,
      ends_readRetSubmit_ok.mpr ⟨ret, rfl, hstatus, hdata, rfl⟩⟩

/-- The reply with the status wrapper says that the command passed. -/
def Passed (tag : UInt32) (csw : Csw) (ret : RetSubmit) : Prop :=
  ret.status = 0 ∧ cswOf ret.transferBuffer = some csw ∧ csw.tag = tag ∧ csw.status = .passed

/-- The status phase is passed on exactly such a reply. -/
theorem ends_receiveCsw_passed {tag : UInt32} :
    Script.Ends (receiveCsw tag) d conversation d' (.ok .passed) ↔
      ∃ (ret : RetSubmit) (csw : Csw), conversation =
          [.wrote (inSubmission d (UInt32.ofNat cswSize)) true, .got (.ok (.retSubmit ret))] ∧
        Passed tag csw ret ∧ d' = d.advance := by
  unfold receiveCsw
  rw [Script.ends_bind_ok]
  constructor
  · rintro ⟨first, rest, data, d₁, rfl, hfirst, rfl, rfl, hcheck⟩
    obtain ⟨ret, rfl, hstatus, rfl, rfl⟩ := ends_receiveBulkIn_ok.mp hfirst
    obtain ⟨csw, hcsw, htag, hpassed⟩ := checkCsw_eq_ok_iff.mp hcheck.symm
    exact ⟨ret, csw, rfl, ⟨hstatus, hcsw, htag, hpassed⟩, rfl⟩
  · rintro ⟨ret, csw, rfl, ⟨hstatus, hcsw, htag, hpassed⟩, rfl⟩
    exact ⟨_, [], _, _, (List.append_nil _).symm,
      ends_receiveBulkIn_ok.mpr ⟨ret, rfl, hstatus, rfl, rfl⟩, rfl, rfl,
      (checkCsw_eq_ok_iff.mpr ⟨csw, hcsw, htag, hpassed⟩).symm⟩

/-- A data phase towards the device succeeds on any return with status 0, however few bytes it
says were taken. -/
theorem ends_transferData_out {payload data : List UInt8} :
    Script.Ends (transferData (some payload) 0) d conversation d' (.ok data) ↔
      ∃ ret : RetSubmit, conversation =
          [.wrote (outSubmission d payload) true, .got (.ok (.retSubmit ret))] ∧
        ret.status = 0 ∧ data = [] ∧ d' = d.advance := by
  change Script.Ends (sendBulkOut payload >>= fun _ => readRetSubmit .massStorage >>= fun _ =>
    pure []) d conversation d' (.ok data) ↔ _
  rw [Script.ends_bind_ok]
  constructor
  · rintro ⟨first, rest, _, d₁, rfl, hfirst, hrest⟩
    obtain ⟨rfl, rfl⟩ := ends_submit_ok.mp hfirst
    obtain ⟨got, tail, _, d₂, rfl, hgot, rfl, rfl, hdata⟩ := Script.ends_bind_ok.mp hrest
    obtain ⟨ret, rfl, hstatus, -, rfl⟩ := ends_readRetSubmit_ok.mp hgot
    cases hdata
    exact ⟨ret, rfl, hstatus, rfl, rfl⟩
  · rintro ⟨ret, rfl, hstatus, rfl, rfl⟩
    refine ⟨[_], [_], (), d.advance, rfl, ends_submit_ok.mpr ⟨rfl, rfl⟩, ?_⟩
    exact Script.ends_bind_ok.mpr ⟨[_], [], _, _, rfl,
      ends_readRetSubmit_ok.mpr ⟨ret, rfl, hstatus, rfl, rfl⟩, rfl, rfl, rfl⟩

/-- The replies a command with data for the device succeeds on: two returns with status 0, and
a wrapper that passed. -/
def PassingReplies (tag : UInt32) (cbwRet dataRet cswRet : RetSubmit) (csw : Csw) : Prop :=
  cbwRet.status = 0 ∧ dataRet.status = 0 ∧ Passed tag csw cswRet

/-- Three replies, in the order they are read. -/
def threeReplies (cbwRet dataRet cswRet : RetSubmit) : List (Except Failure UrbMessage) :=
  [.ok (.retSubmit cbwRet), .ok (.retSubmit dataRet), .ok (.retSubmit cswRet)]

/-- A command with data for the device has ended well on three passing replies. -/
theorem replies_of_scsiCommand_ok {cmd : ScsiCommand} {payload out : List UInt8}
    (h : Script.Ends (scsiCommand cmd (some payload) 0) d conversation d' (.ok out)) :
    ∃ cbwRet dataRet cswRet csw,
      messages conversation = threeReplies cbwRet dataRet cswRet ∧
        PassingReplies d.fields.nextTag cbwRet dataRet cswRet csw := by
  obtain ⟨first, rest, tag, d₁, rfl, hfirst, hrest⟩ := Script.ends_bind_ok.mp h
  obtain ⟨ok, rfl, rfl, hok⟩ := ends_sendCbw.mp hfirst
  cases ok with
  | false => cases hok
  | true =>
      cases hok
      obtain ⟨got, tail, _, d₂, rfl, hgot, hdata⟩ := Script.ends_bind_ok.mp hrest
      obtain ⟨cbwRet, rfl, hcbw, -, rfl⟩ := ends_readRetSubmit_ok.mp hgot
      obtain ⟨phase, last, _, d₃, rfl, hphase, hlast⟩ := Script.ends_bind_ok.mp hdata
      obtain ⟨dataRet, rfl, hret, -, rfl⟩ := ends_transferData_out.mp hphase
      obtain ⟨wrapper, tail, status, d₄, rfl, hwrapper, hend⟩ := Script.ends_bind_ok.mp hlast
      obtain ⟨_, _, _, d₅, rfl, ⟨rfl, rfl, hstatus⟩, rfl, rfl, -⟩ := Script.ends_bind_ok.mp hend
      rw [checkStatus_eq_ok_iff.mp hstatus.symm] at hwrapper
      obtain ⟨cswRet, csw, rfl, hpassed, rfl⟩ := ends_receiveCsw_passed.mp hwrapper
      exact ⟨cbwRet, dataRet, cswRet, csw, rfl, hcbw, hret, hpassed⟩

theorem exists_scsiCommand_ok (cmd : ScsiCommand) (payload : List UInt8)
    {cbwRet dataRet cswRet : RetSubmit} {csw : Csw}
    (h : PassingReplies d.fields.nextTag cbwRet dataRet cswRet csw) :
    ∃ conversation d', Script.Ends (scsiCommand cmd (some payload) 0) d conversation d' (.ok []) ∧
      messages conversation = threeReplies cbwRet dataRet cswRet := by
  obtain ⟨hcbw, hdata, hpassed⟩ := h
  refine ⟨[.wrote (wrapperSubmission d cmd (UInt32.ofNat payload.length) .outward) true,
    .got (.ok (.retSubmit cbwRet)), .wrote (outSubmission (tagged d).advance payload) true,
    .got (.ok (.retSubmit dataRet)),
    .wrote (inSubmission (tagged d).advance.advance (UInt32.ofNat cswSize)) true,
    .got (.ok (.retSubmit cswRet))], (tagged d).advance.advance.advance, ?_, rfl⟩
  refine Script.ends_bind_ok.mpr ⟨[_], _, _, _, rfl, ends_sendCbw.mpr ⟨true, rfl, rfl, rfl⟩, ?_⟩
  refine Script.ends_bind_ok.mpr ⟨[_], _, _, _, rfl,
    ends_readRetSubmit_ok.mpr ⟨cbwRet, rfl, hcbw, rfl, rfl⟩, ?_⟩
  refine Script.ends_bind_ok.mpr ⟨[_, _], _, _, _, rfl,
    ends_transferData_out.mpr ⟨dataRet, rfl, hdata, rfl, rfl⟩, ?_⟩
  refine Script.ends_bind_ok.mpr ⟨[_, _], [], _, _, rfl,
    ends_receiveCsw_passed.mpr ⟨cswRet, csw, rfl, hpassed, rfl⟩, ?_⟩
  exact Script.ends_bind_ok.mpr ⟨[], [], (), _, rfl, ⟨rfl, rfl, rfl⟩, rfl, rfl, rfl⟩

section Write

variable {lba : UInt64} {count : UInt32} {data : List UInt8} {n : Nat}

/-- A write that succeeds has had three passing replies, and reports all it was asked for. -/
theorem replies_of_writeBlocks_ok
    (h : Script.Ends (writeBlocks lba count data) d conversation d' (.ok n)) :
    n = count.toNat * d.fields.blockSize.toNat ∧
      count.toNat * d.fields.blockSize.toNat ≤ data.length ∧
      ∃ cbwRet dataRet cswRet csw, messages conversation = threeReplies cbwRet dataRet cswRet ∧
        PassingReplies d.fields.nextTag cbwRet dataRet cswRet csw := by
  change Script.Ends (if data.length < count.toNat * d.fields.blockSize.toNat then _ else
    scsiCommand _ _ 0 >>= fun _ => pure _ : Method Nat) d conversation d' (.ok n) at h
  split at h
  · cases h.2.2
  · obtain ⟨first, rest, _, d₁, rfl, hfirst, rfl, rfl, hn⟩ := Script.ends_bind_ok.mp h
    cases hn
    rw [List.append_nil]
    exact ⟨rfl, Nat.not_lt.mp ‹_›, replies_of_scsiCommand_ok hfirst⟩

/-- Any three passing replies make a write of enough data succeed. -/
theorem exists_writeBlocks_ok (lba : UInt64)
    (hlen : count.toNat * d.fields.blockSize.toNat ≤ data.length)
    {cbwRet dataRet cswRet : RetSubmit} {csw : Csw}
    (h : PassingReplies d.fields.nextTag cbwRet dataRet cswRet csw) :
    ∃ conversation d', Script.Ends (writeBlocks lba count data) d conversation d'
        (.ok (count.toNat * d.fields.blockSize.toNat)) ∧
      messages conversation = threeReplies cbwRet dataRet cswRet := by
  obtain ⟨conversation, d', hends, hmessages⟩ :=
    exists_scsiCommand_ok (.write10 lba.toUInt32 count.toUInt16)
      (data.take (count.toNat * d.fields.blockSize.toNat)) h
  refine ⟨conversation, d', ?_, hmessages⟩
  change Script.Ends (if data.length < count.toNat * d.fields.blockSize.toNat then _ else
    scsiCommand _ _ 0 >>= fun _ => pure _ : Method Nat) d conversation d' _
  rw [if_neg (Nat.not_lt.mpr hlen)]
  exact Script.ends_bind_ok.mpr ⟨conversation, [], [], d', (List.append_nil _).symm, hends, rfl,
    rfl, rfl⟩

end Write

/-- `n` is what the replies say was written of `requested` bytes: what the status wrapper
leaves, and not everything when the data phase was short. -/
def CountsWritten (requested n : Nat) (tag : UInt32) (replies : List (Except Failure UrbMessage)) :
    Prop :=
  ∃ cbwRet dataRet cswRet csw, replies = threeReplies cbwRet dataRet cswRet ∧
    cswOf cswRet.transferBuffer = some csw ∧ csw.tag = tag ∧
    n + csw.dataResidue.toNat = requested ∧
    (dataRet.actualLength.toNat < requested → n ≠ requested)

/-- The replies pass, and yet some of the data was not taken: the status wrapper has a
residue, or the data phase returned fewer bytes than were sent. -/
def PassesShort (requested : Nat) (tag : UInt32) (replies : List (Except Failure UrbMessage)) :
    Prop :=
  ∃ cbwRet dataRet cswRet csw, replies = threeReplies cbwRet dataRet cswRet ∧
    PassingReplies tag cbwRet dataRet cswRet csw ∧
    (csw.dataResidue ≠ 0 ∨ dataRet.actualLength.toNat < requested)

/-- **What a write reports.** On any replies of the server, a successful `write_blocks` reports
the number of bytes that were written, exactly unless the caller has handed over enough data
and the replies pass the command although the disk has left a residue, or the server has sent
on less than it was given. -/
theorem writeBlocks_counts_iff (lba : UInt64) (count : UInt32) (data : List UInt8)
    (d : ClassDevice Fields) (replies : List (Except Failure UrbMessage)) :
    (∀ conversation d' n, Script.Ends (writeBlocks lba count data) d conversation d' (.ok n) →
      messages conversation = replies →
      CountsWritten (count.toNat * d.fields.blockSize.toNat) n d.fields.nextTag replies) ↔
    ¬ (count.toNat * d.fields.blockSize.toNat ≤ data.length ∧
      PassesShort (count.toNat * d.fields.blockSize.toNat) d.fields.nextTag replies) := by
  constructor
  · rintro hcounts ⟨hlen, cbwRet, dataRet, cswRet, csw, rfl, hpass, hshort⟩
    obtain ⟨conversation, d', hends, hmessages⟩ := exists_writeBlocks_ok lba hlen hpass
    obtain ⟨_, dataRet', cswRet', csw', heq, hcsw, -, hsum, hfull⟩ :=
      hcounts conversation d' _ hends hmessages
    simp only [threeReplies, List.cons.injEq, Except.ok.injEq, UrbMessage.retSubmit.injEq] at heq
    obtain ⟨-, rfl, rfl, -⟩ := heq
    rw [hpass.2.2.2.1, Option.some.injEq] at hcsw
    subst hcsw
    rcases hshort with hresidue | hactual
    · apply hresidue
      apply UInt32.toNat_inj.mp
      change csw.dataResidue.toNat = 0
      omega
    · exact hfull hactual rfl
  · rintro hnot conversation d' n hends rfl
    obtain ⟨rfl, hlen, cbwRet, dataRet, cswRet, csw, hmessages, hpass⟩ :=
      replies_of_writeBlocks_ok hends
    have hfull : ¬ (csw.dataResidue ≠ 0 ∨
        dataRet.actualLength.toNat < count.toNat * d.fields.blockSize.toNat) := by
      intro hshort
      exact hnot ⟨hlen, cbwRet, dataRet, cswRet, csw, hmessages, hpass, hshort⟩
    obtain ⟨hresidue, hactual⟩ := not_or.mp hfull
    refine ⟨cbwRet, dataRet, cswRet, csw, hmessages, hpass.2.2.2.1, hpass.2.2.2.2.1, ?_, ?_⟩
    · rw [not_not.mp hresidue]
      rfl
    · exact fun h => absurd h hactual

/-- The return of a transfer to or from the sample disk. -/
def sampleReturn (seqnum direction ep actualLength : UInt32) (transferBuffer : List UInt8) :
    RetSubmit :=
  { header := { command := 3, seqnum, devid := 0x10002, direction, ep }
    status := 0, actualLength, startFrame := 0, numberOfPackets := 0xFFFFFFFF, errorCount := 0
    transferBuffer, isoPacketDescriptors := [] }

/-- Command 1 passed, but none of its 512 bytes were taken. -/
def sampleCsw : Csw :=
  { signature := cswSignature, tag := 1, dataResidue := 512, status := .passed }

/-- The return of the status phase, with this wrapper as its data. -/
def sampleCswReturn : RetSubmit :=
  sampleReturn 3 1 1 13 [0x55, 0x53, 0x42, 0x53, 1, 0, 0, 0, 0, 2, 0, 0, 0]

/-- The data phase takes no byte, the wrapper has the residue, and 512 bytes are reported. -/
theorem short_write_reported_in_full :
    (∀ ret ∈ [sampleReturn 1 0 2 31 [], sampleReturn 2 0 2 0 [], sampleCswReturn],
      UrbMessage.WellFormed (.retSubmit ret)) ∧
    (∃ conversation d', Script.Ends (writeBlocks 0 1 (List.replicate 512 0)) sampleDisk
        conversation d' (.ok 512) ∧
      messages conversation =
        threeReplies (sampleReturn 1 0 2 31 []) (sampleReturn 2 0 2 0 []) sampleCswReturn) ∧
    ¬ CountsWritten 512 512 1
      (threeReplies (sampleReturn 1 0 2 31 []) (sampleReturn 2 0 2 0 []) sampleCswReturn) := by
  have hcsw : cswOf sampleCswReturn.transferBuffer = some sampleCsw := by decide
  refine ⟨by decide, ?_, ?_⟩
  · have hpass : PassingReplies sampleDisk.fields.nextTag (sampleReturn 1 0 2 31 [])
        (sampleReturn 2 0 2 0 []) sampleCswReturn sampleCsw :=
      ⟨rfl, rfl, rfl, hcsw, rfl, rfl⟩
    exact exists_writeBlocks_ok 0 (by rw [List.length_replicate]; decide) hpass
  · rintro ⟨_, _, cswRet, csw, heq, hcsw', -, hsum, -⟩
    simp only [threeReplies, List.cons.injEq, Except.ok.injEq, UrbMessage.retSubmit.injEq] at heq
    obtain ⟨-, -, rfl, -⟩ := heq
    rw [hcsw, Option.some.injEq] at hcsw'
    subst hcsw'
    exact absurd hsum (by decide)

end Extender.Client.MassStorage
