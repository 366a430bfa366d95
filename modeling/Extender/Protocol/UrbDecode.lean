/-
The synchronous URB decoders (`WireFormat::decode` of `urb.rs`).

Each message type decodes itself from a byte cursor: it checks `remaining()` before each group
of reads and then calls the `Buf` accessors, which panic on a short cursor. The stream reader
of `codec.rs` is a separate implementation of the same format, written out by hand a second
time: it takes the fields from slices of a buffer where these use accessors, and knows the
header before it chooses an arm where these compare it with the command of their type.

The two are related through the grammar: every decoder here accepts exactly the encodings of
the well-formed messages of its own type, up to ignored bytes (`decodeUrb_accepts`), as the
stream reader does for all four types at once. The pieces of the proof that do not depend on
how bytes are taken (`TailAccepts`, the shape of an unlink) are stated over any reader in
`UrbGrammar` and used by both. That stream reader and decoder agree on every input follows in
`Agreement`.

* `decodeUrb_accepts` — the grammar of one type.
* `decodeUrb_avoids_panic` — the checks cover the reads on every input: no accessor is reached
  with too few bytes left.
-/

import Extender.Protocol.UrbGrammar

namespace Extender.Protocol

open BigEndian ByteReader

/-! ### The decoders -/

/-- The transfer buffer behind its own `remaining()` check, which is for nothing when the
buffer does not travel in this direction. -/
def takeTransferBuffer (travels : Bool) (length : UInt32) : Reader Failure (List UInt8) :=
  let bufLen := if travels then length.toNat else 0
  needs bufLen (bufferTooShort bufLen) <|
    if bufLen > 0 then copyToBytes bufLen else pure []

/-- The ISO packet descriptors behind their own `remaining()` check, which covers all of them
at once. -/
def takeIsoPacketDescriptors (numberOfPackets : UInt32) :
    Reader Failure (List IsoPacketDescriptor) :=
  if isIsoTransfer numberOfPackets = true then
    if numberOfPackets > maxIsoPackets then
      throw (.error (.tooManyIsoPackets numberOfPackets maxIsoPackets))
    else
      let isoBytesNeeded := numberOfPackets.toNat * isoPacketDescriptorSize
      needs isoBytesNeeded (bufferTooShort isoBytesNeeded)
        (items IsoPacketDescriptor.decode numberOfPackets.toNat)
  else pure []

/-- Decode the header and go on only if it names the command of this type; the four decoders
begin so. -/
def decodeHeaderOf {α : Type} (command : Command) (x : UsbipHeaderBasic → Reader Failure α) :
    Reader Failure α := do
  let header ← UsbipHeaderBasic.decode
  if header.command ≠ command.code then throw (.error (.invalidCommand header.command))
  else x header

def CmdSubmit.decode : Reader Failure CmdSubmit :=
  decodeHeaderOf .cmdSubmit fun header =>
    needs cmdSubmitFieldsSize (bufferTooShort cmdSubmitFieldsSize) do
      let transferFlags ← getU32
      let transferBufferLength ← getU32
      if transferBufferLength > maxTransferBufferLength then
        throw (.error (.transferTooLarge transferBufferLength maxTransferBufferLength))
      else do
        let startFrame ← getU32
        let numberOfPackets ← getU32
        let interval ← getU32
        let setup ← copyToSlice 8
        let transferBuffer ← takeTransferBuffer (header.direction == 0) transferBufferLength
        let isoPacketDescriptors ← takeIsoPacketDescriptors numberOfPackets
        pure { header, transferFlags, transferBufferLength, startFrame, numberOfPackets,
               interval, setup, transferBuffer, isoPacketDescriptors }

def RetSubmit.decode : Reader Failure RetSubmit :=
  decodeHeaderOf .retSubmit fun header =>
    needs retSubmitFieldsSize (bufferTooShort retSubmitFieldsSize) do
      let status ← getI32
      let actualLength ← getU32
      if actualLength > maxTransferBufferLength then
        throw (.error (.transferTooLarge actualLength maxTransferBufferLength))
      else do
        let startFrame ← getU32
        let numberOfPackets ← getU32
        let errorCount ← getU32
        let _padding ← getU64
        let transferBuffer ← takeTransferBuffer (header.direction == 1) actualLength
        let isoPacketDescriptors ← takeIsoPacketDescriptors numberOfPackets
        pure { header, status, actualLength, startFrame, numberOfPackets, errorCount,
               transferBuffer, isoPacketDescriptors }

def CmdUnlink.decode : Reader Failure CmdUnlink :=
  decodeHeaderOf .cmdUnlink fun header =>
    needs cmdUnlinkFieldsSize (bufferTooShort cmdUnlinkFieldsSize) do
      let unlinkSeqnum ← getU32
      advance 24
      pure { header, unlinkSeqnum }

def RetUnlink.decode : Reader Failure RetUnlink :=
  decodeHeaderOf .retUnlink fun header =>
    needs retUnlinkFieldsSize (bufferTooShort retUnlinkFieldsSize) do
      let status ← getI32
      advance 24
      pure { header, status }

/-- The `WireFormat::decode` of the type a command selects, from a buffer that holds the
message. -/
def decodeUrb : Command → Reader Failure UrbMessage
  | .cmdSubmit => do
    let m ← CmdSubmit.decode
    pure (.cmdSubmit m)
  | .retSubmit => do
    let m ← RetSubmit.decode
    pure (.retSubmit m)
  | .cmdUnlink => do
    let m ← CmdUnlink.decode
    pure (.cmdUnlink m)
  | .retUnlink => do
    let m ← RetUnlink.decode
    pure (.retUnlink m)

/-! ### The variable-length parts -/

theorem takeTransferBuffer_accepts (travels : Bool) (length : UInt32) :
    Accepts (takeTransferBuffer travels length)
      (fun p buf => p = buf ∧ buf.length = if travels then length.toNat else 0) := by
  unfold takeTransferBuffer
  generalize (if travels then length.toNat else 0) = bufLen
  apply Accepts.needs
  · refine ((copyToBytes_accepts bufLen).ite (Accepts.pure [])).congr fun p buf => ?_
    constructor
    · rintro (⟨-, h⟩ | ⟨hzero, rfl, rfl⟩)
      · exact h
      · exact ⟨rfl, by simp; omega⟩
    · rintro ⟨rfl, hlen⟩
      by_cases hpos : bufLen > 0
      · exact Or.inl ⟨hpos, rfl, hlen⟩
      · have hnil : p = [] := List.length_eq_zero_iff.mp (by omega)
        exact Or.inr ⟨hpos, hnil, hnil⟩
  · rintro p buf ⟨rfl, hlen⟩
    omega

/-- The cursor takes the descriptors the stream reader takes. -/
theorem takeIsoPacketDescriptors_accepts (n : UInt32) :
    Accepts (takeIsoPacketDescriptors n) (fun p ds =>
      ((n = nonIsoPacketsSentinel ∧ ds = []) ∨ (ds.length = n.toNat ∧ ds.length ≤ 1024)) ∧
        p = if isIsoTransfer n then ds.flatMap IsoPacketDescriptor.encode else []) := by
  have hitems : Accepts (needs (n.toNat * isoPacketDescriptorSize)
      (bufferTooShort (n.toNat * isoPacketDescriptorSize))
      (items IsoPacketDescriptor.decode n.toNat))
      (fun p ds => ds.length = n.toNat ∧ p = ds.flatMap IsoPacketDescriptor.encode) := by
    apply (IsoPacketDescriptor.decode_accepts.items n.toNat).needs
    rintro p ds ⟨hlen, rfl⟩
    rw [length_flatMap_encode, hlen]
  exact ((Accepts.guard hitems).ite (Accepts.pure [])).congr (isoTail_iff n)

theorem takeTail_accepts {α : Type} (travels : Bool) (length n : UInt32)
    (build : List UInt8 → List IsoPacketDescriptor → α) :
    TailAccepts travels length n build (do
      let buf ← takeTransferBuffer travels length
      let ds ← takeIsoPacketDescriptors n
      pure (build buf ds)) :=
  tailAccepts_bind (takeTransferBuffer_accepts travels length)
    (takeIsoPacketDescriptors_accepts n) build

/-! ### The grammar of each type -/

theorem decodeHeaderOf_accepts {α : Type} (command : Command)
    {x : UsbipHeaderBasic → Reader Failure α} {R : UsbipHeaderBasic → List UInt8 → α → Prop}
    (hx : ∀ header, Accepts (x header) (R header)) :
    Accepts (decodeHeaderOf command x) (fun p a => ∃ header q, p = header.encode ++ q ∧
      header.command = command.code ∧ R header q a) := by
  refine (UsbipHeaderBasic.decode_accepts.bind_spelled fun header => (hx header).guard).congr
    fun p a => ?_
  simp only [ne_eq, not_not]

theorem CmdSubmit.decode_accepts :
    Accepts CmdSubmit.decode (fun p m => (UrbMessage.cmdSubmit m).WellFormed ∧
      p = m.header.encode ++ (m.fieldBytes ++ encodeTail m.transferBuffer m.numberOfPackets
        m.isoPacketDescriptors)) := by
  refine (decodeHeaderOf_accepts _ fun header => Accepts.needs
    (R := fun p m => m.header = header ∧
      TailOk (header.direction == 0) m.transferBufferLength m.transferBuffer m.numberOfPackets
        m.isoPacketDescriptors ∧
      p = m.fieldBytes ++ encodeTail m.transferBuffer m.numberOfPackets m.isoPacketDescriptors)
    ?_ ?_).congr fun p m => ?_
  · refine (getU32_accepts.bind_spelled fun flags => getU32_accepts.bind_spelled fun length =>
      Accepts.guard (getU32_accepts.bind_spelled fun frame =>
        getU32_accepts.bind_spelled fun packets => getU32_accepts.bind_spelled fun interval =>
        (copyToSlice_accepts 8).bind_spelled fun setup => takeTail_accepts _ _ _ _)).congr
      fun p m => ?_
    constructor
    · rintro ⟨flags, _, rfl, length, _, rfl, hle, frame, _, rfl, packets, _, rfl, interval, _, rfl,
        setup, _, rfl, buf, ds, rfl, rfl, hlen, hpackets⟩
      refine ⟨rfl, ⟨UInt32.not_lt.mp hle, hlen, hpackets⟩, ?_⟩
      simp only [CmdSubmit.fieldBytes, List.append_assoc]
    · rintro ⟨rfl, htail, rfl⟩
      refine ⟨m.transferFlags, _, by simp only [CmdSubmit.fieldBytes, List.append_assoc],
        m.transferBufferLength, _, rfl, UInt32.not_lt.mpr htail.length_le, m.startFrame, _, rfl,
        m.numberOfPackets, _, rfl, m.interval, _, rfl, m.setup, _, rfl, m.transferBuffer,
        m.isoPacketDescriptors, rfl, rfl, htail.buffer_length, htail.packets⟩
  · rintro p m ⟨-, -, rfl⟩
    simp [CmdSubmit.fieldBytes, cmdSubmitFieldsSize]
    omega
  · constructor
    · rintro ⟨_, _, rfl, hc, rfl, htail, rfl⟩
      exact ⟨⟨hc, htail⟩, rfl⟩
    · rintro ⟨⟨hc, htail⟩, rfl⟩
      exact ⟨m.header, _, rfl, hc, rfl, htail, rfl⟩

theorem RetSubmit.decode_accepts :
    Accepts RetSubmit.decode (fun p m => (UrbMessage.retSubmit m).WellFormed ∧
      ∃ pad : Bytes 8, p = m.header.encode ++ (m.fieldBytes pad.val ++
        encodeTail m.transferBuffer m.numberOfPackets m.isoPacketDescriptors)) := by
  refine (decodeHeaderOf_accepts _ fun header => Accepts.needs
    (R := fun p m => m.header = header ∧
      TailOk (header.direction == 1) m.actualLength m.transferBuffer m.numberOfPackets
        m.isoPacketDescriptors ∧
      ∃ pad : Bytes 8, p = m.fieldBytes pad.val ++ encodeTail m.transferBuffer
        m.numberOfPackets m.isoPacketDescriptors)
    ?_ ?_).congr fun p m => ?_
  · refine (getI32_accepts.bind_spelled fun status => getU32_accepts.bind_spelled fun length =>
      Accepts.guard (getU32_accepts.bind_spelled fun frame =>
        getU32_accepts.bind_spelled fun packets => getU32_accepts.bind_spelled fun errors =>
        getU64_accepts.bind fun padding => takeTail_accepts _ _ _ _)).congr fun p m => ?_
    constructor
    · rintro ⟨status, _, rfl, length, _, rfl, hle, frame, _, rfl, packets, _, rfl, errors, _, rfl,
        pad, _, _, rfl, ⟨hpad, -⟩, buf, ds, rfl, rfl, hlen, hpackets⟩
      refine ⟨rfl, ⟨UInt32.not_lt.mp hle, hlen, hpackets⟩, ⟨pad, hpad⟩, ?_⟩
      simp only [RetSubmit.fieldBytes, List.append_assoc]
    · rintro ⟨rfl, htail, pad, rfl⟩
      refine ⟨m.status, _, by simp only [RetSubmit.fieldBytes, List.append_assoc],
        m.actualLength, _, rfl, UInt32.not_lt.mpr htail.length_le, m.startFrame, _, rfl,
        m.numberOfPackets, _, rfl, m.errorCount, _, rfl, pad.val, _, _, rfl,
        ⟨pad.property, rfl⟩, m.transferBuffer, m.isoPacketDescriptors, rfl, rfl,
        htail.buffer_length, htail.packets⟩
  · rintro p m ⟨-, -, pad, rfl⟩
    simp [RetSubmit.fieldBytes, retSubmitFieldsSize]
    omega
  · constructor
    · rintro ⟨_, _, rfl, hc, rfl, htail, pad, rfl⟩
      exact ⟨⟨hc, htail⟩, pad, rfl⟩
    · rintro ⟨⟨hc, htail⟩, pad, rfl⟩
      exact ⟨m.header, _, rfl, hc, rfl, htail, pad, rfl⟩

/-- A first word and 24 skipped bytes, the shape of an unlink and its answer. -/
theorem wordAndPadding_accepts {α β : Type} {word : Reader Failure α} {spell : α → List UInt8}
    (hword : Accepts word (fun p a => p = spell a)) (hlen : ∀ a, (spell a).length = 4)
    (build : α → β) {short : Nat → Failure} :
    Accepts (needs 28 short do
        let a ← word
        advance 24
        pure (build a))
      (fun p b => ∃ a, ∃ pad : Bytes 24, b = build a ∧ p = spell a ++ pad.val) := by
  apply Accepts.needs
  · refine (hword.bind_spelled fun a => (advance_accepts 24).bind fun _ =>
      Accepts.pure (build a)).congr fun p b => ?_
    constructor
    · rintro ⟨a, _, rfl, pad, _, _, rfl, hpad, rfl, rfl⟩
      exact ⟨a, ⟨pad, hpad⟩, rfl, by rw [List.append_nil]⟩
    · rintro ⟨a, pad, rfl, rfl⟩
      exact ⟨a, _, rfl, pad.val, [], (), (List.append_nil _).symm, pad.property, rfl, rfl⟩
  · rintro p b ⟨a, pad, rfl, rfl⟩
    simp [hlen]

theorem CmdUnlink.decode_accepts :
    Accepts CmdUnlink.decode (fun p m => (UrbMessage.cmdUnlink m).WellFormed ∧
      ∃ pad : Bytes 24, p = m.header.encode ++ (u32Bytes m.unlinkSeqnum ++ pad.val)) := by
  refine (decodeHeaderOf_accepts _ fun header =>
    wordAndPadding_accepts getU32_accepts length_u32Bytes _).congr fun p m => ?_
  constructor
  · rintro ⟨header, _, rfl, hc, word, pad, rfl, rfl⟩
    exact ⟨hc, pad, rfl⟩
  · rintro ⟨hc, pad, rfl⟩
    exact ⟨m.header, _, rfl, hc, m.unlinkSeqnum, pad, rfl, rfl⟩

theorem RetUnlink.decode_accepts :
    Accepts RetUnlink.decode (fun p m => (UrbMessage.retUnlink m).WellFormed ∧
      ∃ pad : Bytes 24, p = m.header.encode ++ (i32Bytes m.status ++ pad.val)) := by
  refine (decodeHeaderOf_accepts _ fun header =>
    wordAndPadding_accepts getI32_accepts length_i32Bytes _).congr fun p m => ?_
  constructor
  · rintro ⟨header, _, rfl, hc, word, pad, rfl, rfl⟩
    exact ⟨hc, pad, rfl⟩
  · rintro ⟨hc, pad, rfl⟩
    exact ⟨m.header, _, rfl, hc, m.status, pad, rfl, rfl⟩

/-- A message of the variant `command` names, out of a decoder of that type. -/
theorem accepts_variant {α : Type} {x : Reader Failure α} {build : α → UrbMessage}
    {command : Command} {R : List UInt8 → α → Prop} (hx : Accepts x R)
    (hR : ∀ p a, R p a ↔ (build a).WellFormed ∧ EqOutside (build a).ignored p (build a).encode)
    (hbuild : ∀ m : UrbMessage, m.command = command ↔ ∃ a, m = build a) :
    Accepts (x >>= fun a => pure (build a)) (fun p m =>
      m.command = command ∧ m.WellFormed ∧ EqOutside m.ignored p m.encode) := by
  refine (hx.bind fun a => Accepts.pure (build a)).congr fun p m => ?_
  constructor
  · rintro ⟨q, _, a, rfl, ha, rfl, rfl⟩
    rw [List.append_nil]
    exact ⟨(hbuild _).mpr ⟨a, rfl⟩, (hR q a).mp ha⟩
  · rintro ⟨hm, h⟩
    obtain ⟨a, rfl⟩ := (hbuild m).mp hm
    exact ⟨p, [], a, (List.append_nil p).symm, (hR p a).mpr h, rfl, rfl⟩

/-- **The grammar of one type.** The decoder a command selects accepts the
encodings of the well-formed messages of that variant, up to ignored bytes, and
nothing else. -/
theorem decodeUrb_accepts (command : Command) :
    Accepts (decodeUrb command) (fun p m =>
      m.command = command ∧ m.WellFormed ∧ EqOutside m.ignored p m.encode) := by
  cases command with
  | cmdSubmit =>
      apply accepts_variant CmdSubmit.decode_accepts
      · intro p m
        rw [cmdSubmit_eqOutside_iff]
      · intro m
        cases m <;> simp [UrbMessage.command]
  | retSubmit =>
      apply accepts_variant RetSubmit.decode_accepts
      · intro p m
        rw [retSubmit_eqOutside_iff]
      · intro m
        cases m <;> simp [UrbMessage.command]
  | cmdUnlink =>
      apply accepts_variant CmdUnlink.decode_accepts
      · intro p m
        exact and_congr_right fun _ => (unlink_eqOutside_iff m.header.length_encode
          (length_u32Bytes m.unlinkSeqnum)).symm
      · intro m
        cases m <;> simp [UrbMessage.command]
  | retUnlink =>
      apply accepts_variant RetUnlink.decode_accepts
      · intro p m
        exact and_congr_right fun _ => (unlink_eqOutside_iff m.header.length_encode
          (length_i32Bytes m.status)).symm
      · intro m
        cases m <;> simp [UrbMessage.command]

/-! ### The checks cover the reads -/

theorem takeTransferBuffer_avoids_panic (travels : Bool) (length : UInt32) :
    Avoids Failure.IsPanic (takeTransferBuffer travels length) := by
  apply Avoids.needs
  · by_cases hpos : (if travels then length.toNat else 0) > 0
    · rw [if_pos hpos]
      exact copyToBytes_covers _
    · rw [if_neg hpos, Nat.eq_zero_of_not_pos hpos]
      exact Covers.pure []
  · intro _
    exact Failure.not_isPanic_error _

theorem takeIsoPacketDescriptors_avoids_panic (n : UInt32) :
    Avoids Failure.IsPanic (takeIsoPacketDescriptors n) := by
  apply Avoids.ite
  · apply Avoids.ite
    · exact Avoids.throw (Failure.not_isPanic_error _)
    · apply Avoids.needs_from
      · exact (IsoPacketDescriptor.decode_avoids_panic.items _).from _
      · intro _
        exact Failure.not_isPanic_error _
  · exact Avoids.pure []

theorem takeTail_avoids_panic {α : Type} (travels : Bool) (length n : UInt32)
    (build : List UInt8 → List IsoPacketDescriptor → α) :
    Avoids Failure.IsPanic (do
      let buf ← takeTransferBuffer travels length
      let ds ← takeIsoPacketDescriptors n
      pure (build buf ds)) :=
  (takeTransferBuffer_avoids_panic travels length).bind fun _ =>
    (takeIsoPacketDescriptors_avoids_panic n).bind fun _ => .pure _

theorem decodeHeaderOf_avoids_panic {α : Type} (command : Command)
    {x : UsbipHeaderBasic → Reader Failure α} (hx : ∀ h, Avoids Failure.IsPanic (x h)) :
    Avoids Failure.IsPanic (decodeHeaderOf command x) :=
  UsbipHeaderBasic.decode_avoids_panic.bind fun header =>
    (Avoids.throw (Failure.not_isPanic_error _)).ite (hx header)

theorem CmdSubmit.decode_avoids_panic : Avoids Failure.IsPanic CmdSubmit.decode := by
  apply decodeHeaderOf_avoids_panic
  intro header
  -- 28 bytes: two words before the length check, three words and the setup after it
  apply Avoids.needs_from
  · exact AvoidsFrom.bind getU32_covers fun _ => AvoidsFrom.bind (n := 20) getU32_covers fun _ =>
      AvoidsFrom.ite ((Avoids.throw (Failure.not_isPanic_error _)).from _)
        (AvoidsFrom.bind getU32_covers fun _ => AvoidsFrom.bind getU32_covers fun _ =>
          AvoidsFrom.bind getU32_covers fun _ => AvoidsFrom.bind (copyToSlice_covers 8) fun _ =>
          (takeTail_avoids_panic _ _ _ _).from 0)
  · intro _
    exact Failure.not_isPanic_error _

theorem RetSubmit.decode_avoids_panic : Avoids Failure.IsPanic RetSubmit.decode := by
  apply decodeHeaderOf_avoids_panic
  intro header
  apply Avoids.needs_from
  · exact AvoidsFrom.bind getI32_covers fun _ => AvoidsFrom.bind (n := 20) getU32_covers fun _ =>
      AvoidsFrom.ite ((Avoids.throw (Failure.not_isPanic_error _)).from _)
        (AvoidsFrom.bind getU32_covers fun _ => AvoidsFrom.bind getU32_covers fun _ =>
          AvoidsFrom.bind getU32_covers fun _ => AvoidsFrom.bind getU64_covers fun _ =>
          (takeTail_avoids_panic _ _ _ _).from 0)
  · intro _
    exact Failure.not_isPanic_error _

theorem CmdUnlink.decode_avoids_panic : Avoids Failure.IsPanic CmdUnlink.decode := by
  apply decodeHeaderOf_avoids_panic
  intro header
  apply Avoids.needs
  · exact getU32_covers.bind fun _ => (advance_covers 24).bind fun _ => Covers.pure _
  · intro _
    exact Failure.not_isPanic_error _

theorem RetUnlink.decode_avoids_panic : Avoids Failure.IsPanic RetUnlink.decode := by
  apply decodeHeaderOf_avoids_panic
  intro header
  apply Avoids.needs
  · exact getI32_covers.bind fun _ => (advance_covers 24).bind fun _ => Covers.pure _
  · intro _
    exact Failure.not_isPanic_error _

/-- No decoder reaches an accessor with too few bytes left: each read is covered by a check
before it. -/
theorem decodeUrb_avoids_panic (command : Command) :
    Avoids Failure.IsPanic (decodeUrb command) := by
  cases command with
  | cmdSubmit => exact CmdSubmit.decode_avoids_panic.bind fun _ => .pure _
  | retSubmit => exact RetSubmit.decode_avoids_panic.bind fun _ => .pure _
  | cmdUnlink => exact CmdUnlink.decode_avoids_panic.bind fun _ => .pure _
  | retUnlink => exact RetUnlink.decode_avoids_panic.bind fun _ => .pure _

end Extender.Protocol
