/-
Transfer blocks of the network driver (`wrap_ncm_ntb`, `unwrap_ncm_ntb`).

The parser follows two offsets that the device chooses: the block header points to a datagram
table, whose first entry points to the frame. Everything it reads must be covered by a check
made before, or the access is a panic. What a block is to hold is stated without the parser
(`Datagram`): at which position there is a frame, and that header, table and frame are inside
the block.

The builder computes the offsets and lengths of its one frame in 16 bits. A frame of more than
65507 bytes has a block whose length does not fit: a build that checks overflow panics in the
sum, and one that does not writes a length the parser refuses or takes for another. Neither is
noticed by `write_frame`, which sends what the builder returns.

* `Datagram` — the block, as a whole, holds a frame at some position.
* `RightFor.check`, `RightFor.number` — the rules of the parser: a check that refuses only
  blocks without a datagram, and an access that stays inside.
* `unwrapNcmNtb_accepts_iff` — the parser stays inside the block and returns exactly that
  frame.
* `datagram_block` — the block of a frame holds it, as long as its length is right.
* `writeFrame_carries_iff` — a frame survives the round trip iff its block has a length.
-/

import Extender.Client.Network

namespace Extender.Client.Network

open BigEndian Dialogue Extender.Protocol

/-! ### Parsing -/

theorem slice_of_le {data : List UInt8} {i n : Nat} (h : i + n ≤ data.length) :
    slice data i n = .ok ((data.drop i).take n) :=
  if_pos h

theorem numberAt_of_le {data : List UInt8} {i n : Nat} (h : i + n ≤ data.length) :
    numberAt data i n = .ok (leAt data i n) := by
  unfold numberAt
  rw [slice_of_le h]
  rfl

/-- A field of `n` bytes holds less than `256 ^ n`. -/
theorem leAt_lt (data : List UInt8) (i n : Nat) : leAt data i n < 256 ^ n := by
  have hlt := ofBytes_lt ((data.drop i).take n).reverse
  have hlen : ((data.drop i).take n).reverse.length ≤ n := by
    rw [List.length_reverse, List.length_take]
    exact Nat.min_le_left _ _
  exact Nat.lt_of_lt_of_le hlt (Nat.pow_le_pow_right (by decide) hlen)

/-- A four-byte field holds a number iff the 32-bit word read from it does. -/
theorem ofNat_leAt_eq_iff (data : List UInt8) (i : Nat) (x : UInt32) :
    UInt32.ofNat (leAt data i 4) = x ↔ leAt data i 4 = x.toNat := by
  rw [← UInt32.toNat_inj, UInt32.toNat_ofNat_of_lt' (leAt_lt data i 4)]

/-- The block has a header, the header points to a table with room for an entry and its
terminator, and the first entry is of `n` bytes at `i`, inside the block. -/
structure Datagram (data : List UInt8) (i n : Nat) : Prop where
  header : 12 ≤ data.length
  signature : leAt data 0 4 = nth16Signature.toNat
  table : leAt data 10 2 + 16 ≤ data.length
  tableSignature : leAt data (leAt data 10 2) 4 = ndp16Signature.toNat
  index : leAt data (leAt data 10 2 + 8) 2 = i
  length : leAt data (leAt data 10 2 + 10) 2 = n
  index_pos : 0 < i
  length_pos : 0 < n
  within : i + n ≤ data.length

/-- The result is right for the block: its datagram, or an error of the driver if it has
none. In particular it is no panic. -/
def RightFor (data : List UInt8) (result : Except DriverError (List UInt8)) : Prop :=
  (∃ i n, Datagram data i n ∧ result = .ok ((data.drop i).take n)) ∨
    ((¬ ∃ i n, Datagram data i n) ∧ ∃ text, result = .error (error text))

namespace RightFor

variable {data : List UInt8} {result : Except DriverError (List UInt8)}

/-- A check that fails only for blocks without a datagram: refusing such a block is right. -/
theorem check {c : Prop} [Decidable c] {text : String} (hc : c → ∀ i n, ¬ Datagram data i n)
    (hr : ¬ c → RightFor data result) :
    RightFor data (if c then .error (error text) else result) := by
  split
  · rename_i h
    exact Or.inr ⟨fun ⟨i, n, hdatagram⟩ => hc h i n hdatagram, text, rfl⟩
  · exact hr ‹_›

theorem number {i n : Nat} {f : Nat → Except DriverError (List UInt8)}
    (h : i + n ≤ data.length) (hf : RightFor data (f (leAt data i n))) :
    RightFor data (numberAt data i n >>= f) := by
  rw [numberAt_of_le h]
  exact hf

end RightFor

/-- Every access of the parser is covered by a check in front of it, and every check refuses
only blocks that hold no frame. -/
theorem unwrapNcmNtb_rightFor (data : List UInt8) : RightFor data (unwrapNcmNtb data) := by
  unfold unwrapNcmNtb
  refine .check (fun hshort i n h => absurd h.header (Nat.not_le.mpr hshort)) fun hlong => ?_
  have hheader : 12 ≤ data.length := Nat.not_lt.mp hlong
  refine .number (by omega) ?_
  refine .check (fun hsig i n h => hsig ((ofNat_leAt_eq_iff data 0 _).mpr h.signature))
    fun hsig => ?_
  refine .number (by omega) ?_
  refine .check (fun hshort i n h => absurd h.table (Nat.not_le.mpr hshort)) fun hlong => ?_
  have htable : leAt data 10 2 + 16 ≤ data.length := Nat.not_lt.mp hlong
  refine .number (by omega) ?_
  refine .check (fun hsig i n h => hsig ((ofNat_leAt_eq_iff data _ _).mpr h.tableSignature))
    fun htableSig => ?_
  -- the room for the table covers its first entry, so the next check never fails
  refine .check (fun hshort => absurd hshort (by omega)) fun _ => ?_
  refine .number (by omega) (.number (by omega) ?_)
  refine .check ?_ fun hentry => .check ?_ fun hinside => ?_
  · rintro (hzero | hzero) i n h
    · exact absurd h.index_pos (by rw [← h.index, hzero]; decide)
    · exact absurd h.length_pos (by rw [← h.length, hzero]; decide)
  · intro hpast i n h
    have hwithin := h.within
    rw [← h.index, ← h.length] at hwithin
    exact absurd hwithin (Nat.not_le.mpr hpast)
  · obtain ⟨hindex, hlength⟩ := not_or.mp hentry
    have hwithin := Nat.not_lt.mp hinside
    refine Or.inl ⟨_, _, ?_, slice_of_le hwithin⟩
    exact
      { header := hheader
        signature := (ofNat_leAt_eq_iff data 0 _).mp (not_not.mp hsig)
        table := htable
        tableSignature := (ofNat_leAt_eq_iff data _ _).mp (not_not.mp htableSig)
        index := rfl
        length := rfl
        index_pos := Nat.pos_of_ne_zero hindex
        length_pos := Nat.pos_of_ne_zero hlength
        within := hwithin }

/-- The datagram of a block is what the parser returns. -/
theorem unwrapNcmNtb_of_datagram {data : List UInt8} {i n : Nat} (h : Datagram data i n) :
    unwrapNcmNtb data = .ok ((data.drop i).take n) := by
  rcases unwrapNcmNtb_rightFor data with ⟨i', n', h', heq⟩ | ⟨hnone, -⟩
  · rw [heq, ← h'.index, ← h'.length, h.index, h.length]
  · exact absurd ⟨i, n, h⟩ hnone

/-- **What the parser accepts.** For every byte string, whoever made it: the parser reads
nothing outside the block, so it does not panic; and it returns a frame iff the headers of the
block describe a datagram inside it, of which the frame is then the bytes. -/
theorem unwrapNcmNtb_accepts_iff (data : List UInt8) :
    unwrapNcmNtb data ≠ .error .panicked ∧
    ∀ frame, unwrapNcmNtb data = .ok frame ↔
      ∃ i n, Datagram data i n ∧ frame = (data.drop i).take n := by
  constructor
  · rcases unwrapNcmNtb_rightFor data with ⟨i, n, -, heq⟩ | ⟨-, text, heq⟩
    · rw [heq]
      nofun
    · rw [heq]
      nofun
  · intro frame
    constructor
    · intro hframe
      rcases unwrapNcmNtb_rightFor data with ⟨i, n, hdatagram, heq⟩ | ⟨-, text, heq⟩
      · rw [heq] at hframe
        exact ⟨i, n, hdatagram, (Except.ok.inj hframe).symm⟩
      · rw [heq] at hframe
        cases hframe
    · rintro ⟨i, n, hdatagram, rfl⟩
      exact unwrapNcmNtb_of_datagram hdatagram

/-! ### Building -/

/-- The 28 bytes in front of a frame, with the two lengths as they are written. -/
def blockHeader (blockLen datagramLen : UInt16) : List UInt8 :=
  u32LeBytes nth16Signature ++ (u16LeBytes 12 ++ (u16LeBytes 0 ++ (u16LeBytes blockLen ++
    (u16LeBytes 12 ++ (u32LeBytes ndp16Signature ++ (u16LeBytes 16 ++ (u16LeBytes 0 ++
    (u16LeBytes 28 ++ (u16LeBytes datagramLen ++ (u16LeBytes 0 ++ u16LeBytes 0))))))))))

theorem length_blockHeader (blockLen datagramLen : UInt16) :
    (blockHeader blockLen datagramLen).length = 28 := by
  simp [blockHeader]

/-- The 16-bit lengths of a frame and of its block hold both numbers, without wrapping
around. -/
def LengthsFit (frame : List UInt8) : Prop :=
  (UInt16.ofNat frame.length).toNat = frame.length ∧ 28 + (UInt16.ofNat frame.length).toNat < 2 ^ 16

/-- Both lengths fit for frames of at most 65507 bytes. -/
theorem lengthsFit_iff (frame : List UInt8) : LengthsFit frame ↔ frame.length ≤ 65507 := by
  unfold LengthsFit
  rw [UInt16.toNat_ofNat']
  constructor
  · rintro ⟨hlen, hsum⟩
    omega
  · intro h
    rw [Nat.mod_eq_of_lt (by omega)]
    omega

/-- The block of a frame, unless the build checks the sum and it overflows. -/
theorem wrapNcmNtb_eq (overflowChecks : Bool) (frame : List UInt8) :
    wrapNcmNtb overflowChecks frame =
      if overflowChecks ∧ 2 ^ 16 ≤ 28 + (UInt16.ofNat frame.length).toNat then .error .panicked
      else .ok (blockHeader (28 + UInt16.ofNat frame.length) (UInt16.ofNat frame.length) ++
        frame) := by
  unfold wrapNcmNtb blockHeader
  simp only [List.append_assoc]
  rfl

section Fields

variable (blockLen datagramLen : UInt16) (frame : List UInt8)

theorem leAt_of_u16 {data : List UInt8} {i : Nat} {x : UInt16}
    (h : (data.drop i).take 2 = u16LeBytes x) : leAt data i 2 = x.toNat := by
  rw [leAt, h, u16LeBytes, List.reverse_reverse]
  exact ofBytes_toBytes x.toNat_lt

theorem leAt_of_u32 {data : List UInt8} {i : Nat} {x : UInt32}
    (h : (data.drop i).take 4 = u32LeBytes x) : leAt data i 4 = x.toNat := by
  rw [leAt, h, u32LeBytes, List.reverse_reverse]
  exact ofBytes_toBytes x.toNat_lt

theorem blockLength_block : leAt (blockHeader blockLen datagramLen ++ frame) 8 2 = blockLen.toNat :=
  leAt_of_u16 rfl

theorem drop_block : (blockHeader blockLen datagramLen ++ frame).drop 28 = frame :=
  List.drop_left' (length_blockHeader blockLen datagramLen)

/-- A block with the length of its frame holds the frame, at the offset the table says. -/
theorem datagram_block (hlen : datagramLen.toNat = frame.length) (hne : frame ≠ []) :
    Datagram (blockHeader blockLen datagramLen ++ frame) 28 frame.length := by
  have htable : leAt (blockHeader blockLen datagramLen ++ frame) 10 2 = 12 :=
    leAt_of_u16 (x := 12) rfl
  have hlength : (blockHeader blockLen datagramLen ++ frame).length = 28 + frame.length := by
    rw [List.length_append, length_blockHeader]
  exact
    { header := by omega
      signature := leAt_of_u32 rfl
      table := by omega
      tableSignature := by
        rw [htable]
        exact leAt_of_u32 rfl
      index := by
        rw [htable]
        exact leAt_of_u16 (x := 28) rfl
      length := by
        rw [htable, ← hlen]
        exact leAt_of_u16 rfl
      index_pos := by decide
      length_pos := List.length_pos_of_ne_nil hne
      within := Nat.le_of_eq hlength.symm }

end Fields

/-- The block says how long it is, nothing overflowed while it was built, and the parser
gets the frame out of it. -/
structure CarriesFrame (frame block : List UInt8) : Prop where
  blockLength : leAt block 8 2 = block.length
  fits : LengthsFit frame
  unwraps : unwrapNcmNtb block = .ok frame

/-- The block of a frame that is not too long carries it. -/
theorem carriesFrame_block {frame : List UInt8} (hfits : frame.length ≤ 65507) (hne : frame ≠ []) :
    CarriesFrame frame (blockHeader (28 + UInt16.ofNat frame.length)
      (UInt16.ofNat frame.length) ++ frame) := by
  obtain ⟨hlen, hsum⟩ := (lengthsFit_iff frame).mpr hfits
  refine ⟨?_, ⟨hlen, hsum⟩, ?_⟩
  · rw [blockLength_block, List.length_append, length_blockHeader, UInt16.toNat_add]
    change (28 + (UInt16.ofNat frame.length).toNat) % 2 ^ 16 = 28 + frame.length
    rw [Nat.mod_eq_of_lt hsum, hlen]
  · rw [unwrapNcmNtb_of_datagram (datagram_block _ _ frame hlen hne), drop_block,
      List.take_length]

/-! ### The round trip -/

section Write

variable {d d' : ClassDevice Fields} {conversation : List DriverEvent} {overflowChecks : Bool}
  {frame : List UInt8} {result : Except DriverError Unit}

/-- The submission of a payload. -/
def payloadSubmission (d : ClassDevice Fields) (payload : List UInt8) : CmdSubmit :=
  (Transfer.toDevice (endpointNumber d.fields.epDataOut) noSetup payload).submission d.devid
    d.nextSeqnum

/-- In NCM mode a call wraps the frame first, and sends what that gives. -/
theorem writeFrame_ncm (hncm : d.fields.protocol = .ncm) :
    writeFrame overflowChecks frame d =
      (Script.liftExcept (wrapNcmNtb overflowChecks frame) >>= fun payload =>
        sendBulkOut d.fields.epDataOut payload >>= fun _ => readRetSubmit .network >>= fun _ =>
        pure () : Method Unit) d := by
  obtain ⟨devid, nextSeqnum, fields⟩ := d
  obtain ⟨epDataIn, epDataOut, protocol, maxSegmentSize, controlInterface⟩ := fields
  cases hncm
  rfl

theorem ends_writeFrame_ok {block : List UInt8} (hncm : d.fields.protocol = .ncm)
    (hblock : wrapNcmNtb overflowChecks frame = .ok block) :
    Script.Ends (writeFrame overflowChecks frame) d conversation d' result ↔
      Script.Ends (sendBulkOut d.fields.epDataOut block >>= fun _ => readRetSubmit .network >>=
        fun _ => pure ()) d conversation d' result := by
  unfold Script.Ends
  rw [writeFrame_ncm hncm, hblock]
  rfl

/-- A call that wraps the frame sends exactly its block, in one submission. -/
theorem requests_writeFrame {block : List UInt8} (hncm : d.fields.protocol = .ncm)
    (hblock : wrapNcmNtb overflowChecks frame = .ok block)
    (h : Script.Ends (writeFrame overflowChecks frame) d conversation d' result) :
    requests conversation = [payloadSubmission d block] :=
  requests_submit (fun _ => (silent_readRetSubmit _).bind fun _ => .pure _)
    ((ends_writeFrame_ok hncm hblock).mp h)

theorem ends_writeFrame_success {block : List UInt8} {ret : RetSubmit}
    (hncm : d.fields.protocol = .ncm) (hblock : wrapNcmNtb overflowChecks frame = .ok block)
    (hstatus : ret.status = 0) :
    Script.Ends (writeFrame overflowChecks frame) d
      [.wrote (payloadSubmission d block) true, .got (.ok (.retSubmit ret))] d.advance
      (.ok ()) := by
  rw [ends_writeFrame_ok hncm hblock]
  refine Script.ends_bind_ok.mpr ⟨[_], [_], (), d.advance, rfl, ends_submit_ok.mpr ⟨rfl, rfl⟩, ?_⟩
  exact Script.ends_bind_ok.mpr ⟨[_], [], _, d.advance, rfl,
    ends_readRetSubmit_ok.mpr ⟨ret, rfl, hstatus, rfl, rfl⟩, rfl, rfl, rfl⟩

theorem ends_writeFrame_error {e : DriverError} (hncm : d.fields.protocol = .ncm)
    (herror : wrapNcmNtb overflowChecks frame = .error e) :
    Script.Ends (writeFrame overflowChecks frame) d [] d (.error e) := by
  unfold Script.Ends
  rw [writeFrame_ncm hncm, herror]
  exact ⟨rfl, rfl, rfl⟩

end Write

/-- `write_frame` returns an error, or has sent a block that carries the frame; a panic is
neither. -/
def SendsCarrying (overflowChecks : Bool) (frame : List UInt8) (d : ClassDevice Fields) : Prop :=
  ∀ conversation d' result, Script.Ends (writeFrame overflowChecks frame) d conversation d' result →
    (∃ e, e ≠ .panicked ∧ result = .error e) ∨
      ∃ q, requests conversation = [q] ∧ CarriesFrame frame q.transferBuffer

/-- The return of a bulk transfer that succeeded. -/
def sampleReturn : RetSubmit :=
  { header := { command := 3, seqnum := 1, devid := 0x10002, direction := 0, ep := 2 }
    status := 0, actualLength := 0, startFrame := 0, numberOfPackets := 0xFFFFFFFF
    errorCount := 0, transferBuffer := [], isoPacketDescriptors := [] }

/-- What a call sends for a frame it cannot describe is not noticed: the call succeeds, or
panics. -/
theorem SendsCarrying.fits {overflowChecks : Bool} {frame : List UInt8} {d : ClassDevice Fields}
    (h : SendsCarrying overflowChecks frame d) (hncm : d.fields.protocol = .ncm) :
    frame.length ≤ 65507 := by
  cases hwrap : wrapNcmNtb overflowChecks frame with
  | error e =>
      have hpanic : e = .panicked := by
        rw [wrapNcmNtb_eq] at hwrap
        split at hwrap
        · exact (Except.error.inj hwrap).symm
        · cases hwrap
      subst hpanic
      rcases h _ _ _ (ends_writeFrame_error hncm hwrap) with ⟨e, hne, he⟩ | ⟨q, hq, -⟩
      · exact absurd (Except.error.inj he).symm hne
      · cases hq
  | ok block =>
      have hstatus : sampleReturn.status = 0 := rfl
      rcases h _ _ _ (ends_writeFrame_success hncm hwrap hstatus) with
        ⟨e, -, he⟩ | ⟨q, -, hcarries⟩
      · cases he
      · exact (lengthsFit_iff frame).mp hcarries.fits

/-- **Frames through transfer blocks.** In NCM mode and in either build, a call with a frame
returns an error or sends a block of its own length from which the parser gets the frame
back, iff the frame has at most 65507 bytes. -/
theorem writeFrame_carries_iff (overflowChecks : Bool) {frame : List UInt8}
    {d : ClassDevice Fields} (hncm : d.fields.protocol = .ncm) (hne : frame ≠ []) :
    SendsCarrying overflowChecks frame d ↔ frame.length ≤ 65507 := by
  constructor
  · intro h
    exact h.fits hncm
  · intro hfits conversation d' result hends
    have hblock : wrapNcmNtb overflowChecks frame =
        .ok (blockHeader (28 + UInt16.ofNat frame.length) (UInt16.ofNat frame.length) ++
          frame) := by
      rw [wrapNcmNtb_eq, if_neg]
      rintro ⟨-, hover⟩
      exact absurd ((lengthsFit_iff frame).mpr hfits).2 (Nat.not_lt.mpr hover)
    exact Or.inr ⟨_, requests_writeFrame hncm hblock hends, carriesFrame_block hfits hne⟩

/-- A device in NCM mode. -/
def sampleNcmDevice : ClassDevice Fields :=
  { devid := 0x10002, nextSeqnum := 1, fields := { Fields.initial with protocol := .ncm } }

/-- A minimal Ethernet frame of 60 bytes, in a build with checks. -/
theorem writeFrame_carries_minimal :
    SendsCarrying true (List.replicate 60 0) sampleNcmDevice :=
  (writeFrame_carries_iff true rfl (by decide)).mpr (by decide)

/-- The block of a frame of 65508 bytes has 65536 bytes, and says it has none. -/
theorem long_frame_not_carried :
    ¬ SendsCarrying false (List.replicate 65508 0) sampleNcmDevice ∧
    ¬ SendsCarrying true (List.replicate 65508 0) sampleNcmDevice := by
  have hlong : ¬ (List.replicate 65508 (0 : UInt8)).length ≤ 65507 := by
    rw [List.length_replicate]
    decide
  exact ⟨fun h => hlong (h.fits rfl), fun h => hlong (h.fits rfl)⟩

end Extender.Client.Network
