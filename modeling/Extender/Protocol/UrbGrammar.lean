/-
The grammar of the URB stream: what `readUrbMessage` accepts, exactly.

A message is well formed when its header names its variant and its trailing parts agree with
the fields that announce them. The reader decides the spellings of such messages, with one
allowance: there are bytes it never looks at (`UrbMessage.ignored`), and any bytes may stand
there. The grammar is assembled arm by arm from the reader's own text, by the rules of
`Accepts`, and everything below is a corollary of it.

Nothing here bounds the direction field: any value other than the one that carries a payload
means that no payload travels.

* `readUrbMessage_accepts` — the reader succeeds with message `m` after consuming `p` iff `m`
  is well formed and `p` is the encoding of `m` up to the padding the decoder skips (bytes
  40..48 of a return, 24..48 of an unlink and its answer).
* `readUrbMessage_iff_encoding` — the acceptance characterisation over every byte string:
  consumed prefix, message, uniqueness, and an error (never a panic) everywhere else.
* `items_readUrbMessage_iff` — messages written one after the other are read back as they were
  if and only if every one of them is well formed.
* `urbStream_roundtrip` — any list of well-formed messages written one after the other is read
  back as that list, the trailing bytes untouched.
* `readUrbMessage_framed` — the reader asks for more bytes or has decided, which is what a
  loop that polls it on arriving bytes relies on.
-/

import Extender.Lib.Inbound
import Extender.Protocol.Codec

namespace Extender.Protocol

open BigEndian ByteReader

/-! ### The variable-length parts -/

theorem readTransferBuffer_accepts (travels : Bool) (length : UInt32) :
    Accepts (readTransferBuffer travels length)
      (fun p buf => p = buf ∧ buf.length = if travels then length.toNat else 0) := by
  refine (((Accepts.takeExact _ _).bind fun buf => Accepts.pure buf.val).ite
    (Accepts.pure [])).congr fun p buf => ?_
  have hpos : length > 0 ↔ 0 < length.toNat := UInt32.lt_iff_toNat_lt
  constructor
  · rintro (⟨⟨rfl, -⟩, _, _, bs, rfl, rfl, rfl, rfl⟩ | ⟨hnot, rfl, rfl⟩)
    · exact ⟨List.append_nil _, bs.property⟩
    · refine ⟨rfl, ?_⟩
      cases travels with
      | false => rfl
      | true =>
          have hzero : length.toNat = 0 := by
            rw [hpos] at hnot
            simp only [true_and] at hnot
            omega
          simp [hzero]
  · rintro ⟨rfl, hlen⟩
    by_cases htake : travels = true ∧ length > 0
    · rw [if_pos htake.1] at hlen
      exact Or.inl ⟨htake, p, [], ⟨p, hlen⟩, (List.append_nil p).symm, rfl, rfl, rfl⟩
    · refine Or.inr ⟨htake, ?_⟩
      have hnil : p = [] := by
        apply List.length_eq_zero_iff.mp
        rw [hlen]
        split
        · rename_i htrue
          rw [hpos] at htake
          simp only [htrue, true_and] at htake
          omega
        · rfl
      exact ⟨hnil, hnil⟩

theorem length_flatMap_encode (ds : List IsoPacketDescriptor) :
    (ds.flatMap IsoPacketDescriptor.encode).length = ds.length * 16 :=
  length_flatMap_const IsoPacketDescriptor.length_encode ds

theorem isIsoTransfer_eq_true {n : UInt32} :
    isIsoTransfer n = true ↔ n ≠ nonIsoPacketsSentinel := by
  simp [isIsoTransfer]

/-- What the packet count says of the descriptors: as many as it counts up to the
limit, none under the sentinel. -/
theorem isoTail_iff (n : UInt32) (p : List UInt8) (ds : List IsoPacketDescriptor) :
    ((isIsoTransfer n = true ∧ ¬ n > maxIsoPackets ∧ ds.length = n.toNat ∧
        p = ds.flatMap IsoPacketDescriptor.encode) ∨
      (¬ isIsoTransfer n = true ∧ p = [] ∧ ds = [])) ↔
    ((n = nonIsoPacketsSentinel ∧ ds = []) ∨ (ds.length = n.toNat ∧ ds.length ≤ 1024)) ∧
      p = if isIsoTransfer n then ds.flatMap IsoPacketDescriptor.encode else [] := by
  have hmax : n > maxIsoPackets ↔ 1024 < n.toNat := UInt32.lt_iff_toNat_lt
  by_cases hiso : isIsoTransfer n = true
  · have hne := isIsoTransfer_eq_true.mp hiso
    rw [hmax]
    simp only [hiso, hne, if_true, true_and, not_true_eq_false, false_and, or_false, false_or]
    constructor
    · rintro ⟨hle, hlen, rfl⟩
      exact ⟨⟨hlen, by omega⟩, rfl⟩
    · rintro ⟨⟨hlen, hle⟩, rfl⟩
      exact ⟨by omega, hlen, rfl⟩
  · have hsent : n = nonIsoPacketsSentinel := by
      by_contra hne
      exact hiso (isIsoTransfer_eq_true.mpr hne)
    rw [if_neg hiso]
    constructor
    · rintro (⟨h, -⟩ | ⟨-, rfl, rfl⟩)
      · exact absurd h hiso
      · exact ⟨Or.inl ⟨hsent, rfl⟩, rfl⟩
    · rintro ⟨⟨-, rfl⟩ | ⟨hlen, hle⟩, rfl⟩
      · exact Or.inr ⟨hiso, rfl, rfl⟩
      · rw [hlen, hsent] at hle
        exact absurd hle (by decide)

theorem readIsoPacketDescriptors_accepts (n : UInt32) :
    Accepts (readIsoPacketDescriptors n) (fun p ds =>
      ((n = nonIsoPacketsSentinel ∧ ds = []) ∨ (ds.length = n.toNat ∧ ds.length ≤ 1024)) ∧
        p = if isIsoTransfer n then ds.flatMap IsoPacketDescriptor.encode else []) := by
  have hitems : Accepts (do
      let isoBuf ← readExact (n.toNat * isoPacketDescriptorSize)
      onBuffer (items IsoPacketDescriptor.decode n.toNat) isoBuf.val)
      (fun p ds => ds.length = n.toNat ∧ p = ds.flatMap IsoPacketDescriptor.encode) := by
    apply (IsoPacketDescriptor.decode_accepts.items n.toNat).onTaken
    rintro p ds ⟨hlen, rfl⟩
    rw [length_flatMap_encode, hlen]
  exact ((Accepts.guard hitems).ite (Accepts.pure [])).congr (isoTail_iff n)

theorem encodeTail_eq (buf : List UInt8) (n : UInt32) (ds : List IsoPacketDescriptor) :
    encodeTail buf n ds =
      buf ++ if isIsoTransfer n then ds.flatMap IsoPacketDescriptor.encode else [] := by
  unfold encodeTail
  cases buf <;> rfl

/-- What the end of a submission or a return spells: a buffer and descriptors of
the announced shape. -/
def TailAccepts {α : Type} (travels : Bool) (length n : UInt32)
    (build : List UInt8 → List IsoPacketDescriptor → α) (x : Reader Failure α) : Prop :=
  Accepts x (fun p a => ∃ buf ds, a = build buf ds ∧ p = encodeTail buf n ds ∧
    buf.length = (if travels then length.toNat else 0) ∧
    ((n = nonIsoPacketsSentinel ∧ ds = []) ∨ (ds.length = n.toNat ∧ ds.length ≤ 1024)))

/-- The transfer buffer and then the descriptors, whichever way the two are read; both tails
of a message are of this shape. -/
theorem tailAccepts_bind {α : Type} {travels : Bool} {length n : UInt32}
    {readBuf : Reader Failure (List UInt8)} {readIso : Reader Failure (List IsoPacketDescriptor)}
    (hbuf : Accepts readBuf
      (fun p buf => p = buf ∧ buf.length = if travels then length.toNat else 0))
    (hiso : Accepts readIso (fun p ds =>
      ((n = nonIsoPacketsSentinel ∧ ds = []) ∨ (ds.length = n.toNat ∧ ds.length ≤ 1024)) ∧
        p = if isIsoTransfer n then ds.flatMap IsoPacketDescriptor.encode else []))
    (build : List UInt8 → List IsoPacketDescriptor → α) :
    TailAccepts travels length n build (do
      let buf ← readBuf
      let ds ← readIso
      pure (build buf ds)) := by
  refine (hbuf.bind fun buf => hiso.bind fun ds => Accepts.pure (build buf ds)).congr
    fun p a => ?_
  constructor
  · rintro ⟨_, _, buf, rfl, ⟨rfl, hlen⟩, _, _, ds, rfl, ⟨hpackets, rfl⟩, rfl, rfl⟩
    refine ⟨_, ds, rfl, ?_, hlen, hpackets⟩
    rw [encodeTail_eq, List.append_nil]
  · rintro ⟨buf, ds, rfl, rfl, hlen, hpackets⟩
    exact ⟨buf, _, buf, encodeTail_eq .., ⟨rfl, hlen⟩, _, [], ds, (List.append_nil _).symm,
      ⟨hpackets, rfl⟩, rfl, rfl⟩

theorem readTail_accepts {α : Type} (travels : Bool) (length n : UInt32)
    (build : List UInt8 → List IsoPacketDescriptor → α) :
    TailAccepts travels length n build (do
      let buf ← readTransferBuffer travels length
      let ds ← readIsoPacketDescriptors n
      pure (build buf ds)) :=
  tailAccepts_bind (readTransferBuffer_accepts travels length)
    (readIsoPacketDescriptors_accepts n) build

/-! ### The four arms -/

/-- The fields of a submission, in the order they are written. -/
def CmdSubmit.fieldBytes (m : CmdSubmit) : List UInt8 :=
  u32Bytes m.transferFlags ++ (u32Bytes m.transferBufferLength ++ (u32Bytes m.startFrame ++
    (u32Bytes m.numberOfPackets ++ (u32Bytes m.interval ++ m.setup.val))))

/-- The fields of a return with `pad` where its padding stands. -/
def RetSubmit.fieldBytes (m : RetSubmit) (pad : List UInt8) : List UInt8 :=
  i32Bytes m.status ++ (u32Bytes m.actualLength ++ (u32Bytes m.startFrame ++
    (u32Bytes m.numberOfPackets ++ (u32Bytes m.errorCount ++ pad))))

theorem readCmdSubmit_accepts (header : UsbipHeaderBasic) :
    Accepts (readCmdSubmit header) (fun p m => m.header = header ∧
      TailOk (header.direction == 0) m.transferBufferLength m.transferBuffer m.numberOfPackets
        m.isoPacketDescriptors ∧
      p = m.fieldBytes ++ encodeTail m.transferBuffer m.numberOfPackets
        m.isoPacketDescriptors) := by
  refine ((Accepts.takeExact _ cmdSubmitFieldsSize).bind fun fields =>
    (readTail_accepts _ _ _ _).guard).congr fun p m => ?_
  have hwords := fun fields : Bytes 28 => fields_eq_iff fields (z := m.setup.val)
    (length_u32Bytes m.transferFlags) (length_u32Bytes m.transferBufferLength)
    (length_u32Bytes m.startFrame) (length_u32Bytes m.numberOfPackets) (length_u32Bytes m.interval)
  simp only [← u32OfBytes_eq_iff, ← Subtype.ext_iff] at hwords
  constructor
  · rintro ⟨_, _, fields, rfl, rfl, hle, buf, ds, rfl, rfl, hlen, hpackets⟩
    refine ⟨rfl, ⟨UInt32.not_lt.mp hle, hlen, hpackets⟩, ?_⟩
    exact congrArg (· ++ _) ((hwords fields).mpr ⟨rfl, rfl, rfl, rfl, rfl, rfl⟩)
  · rintro ⟨rfl, htail, rfl⟩
    have hsize : m.fieldBytes.length = cmdSubmitFieldsSize := by
      simp [CmdSubmit.fieldBytes, cmdSubmitFieldsSize]
    obtain ⟨h0, h4, h8, h12, h16, h20⟩ := (hwords ⟨m.fieldBytes, hsize⟩).mp rfl
    refine ⟨m.fieldBytes, _, ⟨m.fieldBytes, hsize⟩, rfl, rfl, ?_, m.transferBuffer,
      m.isoPacketDescriptors, ?_⟩
    · rw [u32At, h4]
      exact UInt32.not_lt.mpr htail.length_le
    · simp only [u32At]
      rw [h0, h4, h8, h12, h16, h20]
      exact ⟨rfl, rfl, htail.buffer_length, htail.packets⟩

theorem readRetSubmit_accepts (header : UsbipHeaderBasic) :
    Accepts (readRetSubmit header) (fun p m => m.header = header ∧
      TailOk (header.direction == 1) m.actualLength m.transferBuffer m.numberOfPackets
        m.isoPacketDescriptors ∧
      ∃ pad : Bytes 8, p = m.fieldBytes pad.val ++ encodeTail m.transferBuffer
        m.numberOfPackets m.isoPacketDescriptors) := by
  refine ((Accepts.takeExact _ retSubmitFieldsSize).bind fun fields =>
    (readTail_accepts _ _ _ _).guard).congr fun p m => ?_
  have hwords := fun (fields : Bytes 28) (pad : Bytes 8) => fields_eq_iff fields (z := pad.val)
    (length_i32Bytes m.status) (length_u32Bytes m.actualLength)
    (length_u32Bytes m.startFrame) (length_u32Bytes m.numberOfPackets)
    (length_u32Bytes m.errorCount)
  simp only [← u32OfBytes_eq_iff, ← i32OfBytes_eq_iff, ← Subtype.ext_iff] at hwords
  constructor
  · rintro ⟨_, _, fields, rfl, rfl, hle, buf, ds, rfl, rfl, hlen, hpackets⟩
    refine ⟨rfl, ⟨UInt32.not_lt.mp hle, hlen, hpackets⟩, fields.slice 20 8 (by decide), ?_⟩
    exact congrArg (· ++ _) ((hwords fields _).mpr ⟨rfl, rfl, rfl, rfl, rfl, rfl⟩)
  · rintro ⟨rfl, htail, pad, rfl⟩
    have hsize : (m.fieldBytes pad.val).length = retSubmitFieldsSize := by
      simp [RetSubmit.fieldBytes, retSubmitFieldsSize]
    obtain ⟨h0, h4, h8, h12, h16, -⟩ := (hwords ⟨m.fieldBytes pad.val, hsize⟩ pad).mp rfl
    refine ⟨m.fieldBytes pad.val, _, ⟨m.fieldBytes pad.val, hsize⟩, rfl, rfl, ?_,
      m.transferBuffer, m.isoPacketDescriptors, ?_⟩
    · rw [u32At, h4]
      exact UInt32.not_lt.mpr htail.length_le
    · simp only [u32At, i32At]
      rw [h0, h4, h8, h12, h16]
      exact ⟨rfl, rfl, htail.buffer_length, htail.packets⟩

theorem readCmdUnlink_accepts (header : UsbipHeaderBasic) :
    Accepts (readCmdUnlink header) (fun p m => m.header = header ∧
      ∃ pad : Bytes 24, p = u32Bytes m.unlinkSeqnum ++ pad.val) := by
  refine ((Accepts.takeExact _ cmdUnlinkFieldsSize).bind fun fields =>
    Accepts.pure _).congr fun p m => ?_
  have hwords := fun (fields : Bytes 28) (pad : Bytes 24) =>
    fields.eq_append_iff (m := 4) (n := 24) (y := pad.val) (length_u32Bytes m.unlinkSeqnum)
  simp only [← u32OfBytes_eq_iff, ← Subtype.ext_iff] at hwords
  constructor
  · rintro ⟨_, _, fields, rfl, rfl, rfl, rfl⟩
    rw [List.append_nil]
    exact ⟨rfl, fields.slice 4 24 (by decide), (hwords fields _).mpr ⟨rfl, rfl⟩⟩
  · rintro ⟨rfl, pad, rfl⟩
    have hsize : (u32Bytes m.unlinkSeqnum ++ pad.val).length = cmdUnlinkFieldsSize := by
      simp [cmdUnlinkFieldsSize]
    obtain ⟨h0, -⟩ := (hwords ⟨_, hsize⟩ pad).mp rfl
    refine ⟨_, [], ⟨_, hsize⟩, (List.append_nil _).symm, rfl, rfl, ?_⟩
    rw [u32At, h0]

theorem readRetUnlink_accepts (header : UsbipHeaderBasic) :
    Accepts (readRetUnlink header) (fun p m => m.header = header ∧
      ∃ pad : Bytes 24, p = i32Bytes m.status ++ pad.val) := by
  refine ((Accepts.takeExact _ retUnlinkFieldsSize).bind fun fields =>
    Accepts.pure _).congr fun p m => ?_
  have hwords := fun (fields : Bytes 28) (pad : Bytes 24) =>
    fields.eq_append_iff (m := 4) (n := 24) (y := pad.val) (length_i32Bytes m.status)
  simp only [← i32OfBytes_eq_iff, ← Subtype.ext_iff] at hwords
  constructor
  · rintro ⟨_, _, fields, rfl, rfl, rfl, rfl⟩
    rw [List.append_nil]
    exact ⟨rfl, fields.slice 4 24 (by decide), (hwords fields _).mpr ⟨rfl, rfl⟩⟩
  · rintro ⟨rfl, pad, rfl⟩
    have hsize : (i32Bytes m.status ++ pad.val).length = retUnlinkFieldsSize := by
      simp [retUnlinkFieldsSize]
    obtain ⟨h0, -⟩ := (hwords ⟨_, hsize⟩ pad).mp rfl
    refine ⟨_, [], ⟨_, hsize⟩, (List.append_nil _).symm, rfl, rfl, ?_⟩
    rw [i32At, h0]

/-! ### The padding -/

/-- The byte positions of an encoding that the decoder never looks at: the padding behind the
fields of a return, and of an unlink and its answer. -/
def UrbMessage.ignored : UrbMessage → Nat → Bool
  | .cmdSubmit _ => fun _ => false
  | .retSubmit _ => fun i => decide (40 ≤ i) && decide (i < 48)
  | .cmdUnlink _ => fun i => decide (24 ≤ i) && decide (i < 48)
  | .retUnlink _ => fun i => decide (24 ≤ i) && decide (i < 48)

def UrbMessage.header : UrbMessage → UsbipHeaderBasic
  | .cmdSubmit m => m.header
  | .retSubmit m => m.header
  | .cmdUnlink m => m.header
  | .retUnlink m => m.header

/-- The variant's command. -/
def UrbMessage.command : UrbMessage → Command
  | .cmdSubmit _ => .cmdSubmit
  | .retSubmit _ => .retSubmit
  | .cmdUnlink _ => .cmdUnlink
  | .retUnlink _ => .retUnlink

theorem UrbMessage.WellFormed.header_command {m : UrbMessage} (h : m.WellFormed) :
    m.header.command = m.command.code := by
  cases m with
  | cmdSubmit m => exact h.1
  | retSubmit m => exact h.1
  | cmdUnlink m => exact h
  | retUnlink m => exact h

theorem cmdSubmit_eqOutside_iff {m : CmdSubmit} {p : List UInt8} :
    EqOutside (UrbMessage.cmdSubmit m).ignored p (UrbMessage.cmdSubmit m).encode ↔
      p = m.header.encode ++ (m.fieldBytes ++ encodeTail m.transferBuffer m.numberOfPackets
        m.isoPacketDescriptors) := by
  have hencode : m.encode = m.header.encode ++ (m.fieldBytes ++
      encodeTail m.transferBuffer m.numberOfPackets m.isoPacketDescriptors) := by
    simp only [CmdSubmit.encode, CmdSubmit.fieldBytes, List.append_assoc]
  rw [← hencode]
  exact eqOutside_none

theorem retSubmit_eqOutside_iff {m : RetSubmit} {p : List UInt8} :
    EqOutside (UrbMessage.retSubmit m).ignored p (UrbMessage.retSubmit m).encode ↔
      ∃ pad : Bytes 8, p = m.header.encode ++ (m.fieldBytes pad.val ++
        encodeTail m.transferBuffer m.numberOfPackets m.isoPacketDescriptors) := by
  have hencode : m.encode = (m.header.encode ++ i32Bytes m.status ++ u32Bytes m.actualLength ++
      u32Bytes m.startFrame ++ u32Bytes m.numberOfPackets ++ u32Bytes m.errorCount) ++
      (u64Bytes 0 ++ encodeTail m.transferBuffer m.numberOfPackets m.isoPacketDescriptors) := by
    simp only [RetSubmit.encode, List.append_assoc]
  show EqOutside (fun i => decide (40 ≤ i) && decide (i < 48)) p m.encode ↔ _
  rw [hencode, eqOutside_block_iff (by simp) (by simp)]
  simp only [length_u64Bytes, RetSubmit.fieldBytes, List.append_assoc, Subtype.exists,
    exists_prop]

/-- A first word and 24 bytes of padding, the shape of an unlink and its answer. -/
theorem unlink_eqOutside_iff {head word p : List UInt8} (hh : head.length = 20)
    (hw : word.length = 4) :
    EqOutside (fun i => decide (24 ≤ i) && decide (i < 48)) p
        (head ++ word ++ u64Bytes 0 ++ u64Bytes 0 ++ u64Bytes 0) ↔
      ∃ pad : Bytes 24, p = head ++ (word ++ pad.val) := by
  have hencode : head ++ word ++ u64Bytes 0 ++ u64Bytes 0 ++ u64Bytes 0 =
      (head ++ word) ++ ((u64Bytes 0 ++ u64Bytes 0 ++ u64Bytes 0) ++ []) := by
    simp only [List.append_assoc, List.append_nil]
  rw [hencode, eqOutside_block_iff (by simp [hh, hw]) (by simp)]
  simp only [List.length_append, length_u64Bytes, List.append_assoc, List.append_nil,
    Subtype.exists, exists_prop]

/-! ### The whole message -/

/-- What the arm for `header` still has to read: the rest of the encoding of a
well-formed message with that header. -/
def ArmAccepts (header : UsbipHeaderBasic) (x : Reader Failure UrbMessage) : Prop :=
  Accepts x (fun p m => m.header = header ∧ m.WellFormed ∧
    EqOutside m.ignored (header.encode ++ p) m.encode)

/-- A message with this header is of the variant the header names. -/
theorem command_eq_of_header {m : UrbMessage} {header : UsbipHeaderBasic} {command : Command}
    (hc : header.command = command.code) (hm : m.header = header) (hwf : m.WellFormed) :
    m.command = command := by
  have hcode : m.command.code = command.code := by
    rw [← hwf.header_command, hm, hc]
  rw [← Option.some_inj, ← Command.fromRaw_eq_some_iff.mpr (rfl : m.command.code = _), hcode,
    Command.fromRaw_eq_some_iff]

theorem cmdSubmit_arm {header : UsbipHeaderBasic}
    (hc : header.command = Command.cmdSubmit.code) :
    ArmAccepts header (do
      let m ← readCmdSubmit header
      pure (.cmdSubmit m)) := by
  refine ((readCmdSubmit_accepts header).bind fun m => Accepts.pure _).congr fun p msg => ?_
  constructor
  · rintro ⟨_, _, m, rfl, ⟨rfl, htail, rfl⟩, rfl, rfl⟩
    refine ⟨rfl, ⟨hc, htail⟩, ?_⟩
    rw [cmdSubmit_eqOutside_iff, List.append_nil]
  · rintro ⟨hm, hwf, heq⟩
    have hcommand := command_eq_of_header hc hm hwf
    cases msg with
    | cmdSubmit m =>
        subst hm
        rw [cmdSubmit_eqOutside_iff] at heq
        exact ⟨p, [], m, (List.append_nil p).symm,
          ⟨rfl, hwf.2, List.append_cancel_left heq⟩, rfl, rfl⟩
    | retSubmit m => cases hcommand
    | cmdUnlink m => cases hcommand
    | retUnlink m => cases hcommand

theorem retSubmit_arm {header : UsbipHeaderBasic}
    (hc : header.command = Command.retSubmit.code) :
    ArmAccepts header (do
      let m ← readRetSubmit header
      pure (.retSubmit m)) := by
  refine ((readRetSubmit_accepts header).bind fun m => Accepts.pure _).congr fun p msg => ?_
  constructor
  · rintro ⟨_, _, m, rfl, ⟨rfl, htail, pad, rfl⟩, rfl, rfl⟩
    refine ⟨rfl, ⟨hc, htail⟩, retSubmit_eqOutside_iff.mpr ⟨pad, ?_⟩⟩
    rw [List.append_nil]
  · rintro ⟨hm, hwf, heq⟩
    have hcommand := command_eq_of_header hc hm hwf
    cases msg with
    | retSubmit m =>
        subst hm
        obtain ⟨pad, hp⟩ := retSubmit_eqOutside_iff.mp heq
        exact ⟨p, [], m, (List.append_nil p).symm,
          ⟨rfl, hwf.2, pad, List.append_cancel_left hp⟩, rfl, rfl⟩
    | cmdSubmit m => cases hcommand
    | cmdUnlink m => cases hcommand
    | retUnlink m => cases hcommand

theorem cmdUnlink_arm {header : UsbipHeaderBasic}
    (hc : header.command = Command.cmdUnlink.code) :
    ArmAccepts header (do
      let m ← readCmdUnlink header
      pure (.cmdUnlink m)) := by
  refine ((readCmdUnlink_accepts header).bind fun m => Accepts.pure _).congr fun p msg => ?_
  have hpad := fun (m : CmdUnlink) (q : List UInt8) =>
    unlink_eqOutside_iff (p := q) m.header.length_encode (length_u32Bytes m.unlinkSeqnum)
  constructor
  · rintro ⟨_, _, m, rfl, ⟨rfl, pad, rfl⟩, rfl, rfl⟩
    refine ⟨rfl, hc, (hpad m _).mpr ⟨pad, ?_⟩⟩
    rw [List.append_nil]
  · rintro ⟨hm, hwf, heq⟩
    have hcommand := command_eq_of_header hc hm hwf
    cases msg with
    | cmdUnlink m =>
        subst hm
        obtain ⟨pad, hp⟩ := (hpad m _).mp heq
        exact ⟨p, [], m, (List.append_nil p).symm,
          ⟨rfl, pad, List.append_cancel_left hp⟩, rfl, rfl⟩
    | cmdSubmit m => cases hcommand
    | retSubmit m => cases hcommand
    | retUnlink m => cases hcommand

theorem retUnlink_arm {header : UsbipHeaderBasic}
    (hc : header.command = Command.retUnlink.code) :
    ArmAccepts header (do
      let m ← readRetUnlink header
      pure (.retUnlink m)) := by
  refine ((readRetUnlink_accepts header).bind fun m => Accepts.pure _).congr fun p msg => ?_
  have hpad := fun (m : RetUnlink) (q : List UInt8) =>
    unlink_eqOutside_iff (p := q) m.header.length_encode (length_i32Bytes m.status)
  constructor
  · rintro ⟨_, _, m, rfl, ⟨rfl, pad, rfl⟩, rfl, rfl⟩
    refine ⟨rfl, hc, (hpad m _).mpr ⟨pad, ?_⟩⟩
    rw [List.append_nil]
  · rintro ⟨hm, hwf, heq⟩
    have hcommand := command_eq_of_header hc hm hwf
    cases msg with
    | retUnlink m =>
        subst hm
        obtain ⟨pad, hp⟩ := (hpad m _).mp heq
        exact ⟨p, [], m, (List.append_nil p).symm,
          ⟨rfl, pad, List.append_cancel_left hp⟩, rfl, rfl⟩
    | cmdSubmit m => cases hcommand
    | retSubmit m => cases hcommand
    | cmdUnlink m => cases hcommand

theorem readAfterHeader_accepts (header : UsbipHeaderBasic) :
    ArmAccepts header (readAfterHeader header) := by
  unfold readAfterHeader
  cases hraw : Command.fromRaw header.command with
  | none =>
      refine (Accepts.throw _).congr fun p m => ⟨False.elim, ?_⟩
      rintro ⟨hm, hwf, -⟩
      have hsome := Command.fromRaw_eq_some_iff.mpr hwf.header_command
      rw [hm, hraw] at hsome
      cases hsome
  | some command =>
      have hc := Command.fromRaw_eq_some_iff.mp hraw
      cases command with
      | cmdSubmit => exact cmdSubmit_arm hc
      | retSubmit => exact retSubmit_arm hc
      | cmdUnlink => exact cmdUnlink_arm hc
      | retUnlink => exact retUnlink_arm hc

/-- A spelling of a message starts with the spelling of its header, from which a reader knows
what comes. -/
theorem exists_eq_header_append {m : UrbMessage} {p : List UInt8}
    (heq : EqOutside m.ignored p m.encode) : ∃ rest, p = m.header.encode ++ rest := by
  cases m with
  | cmdSubmit m => exact ⟨_, cmdSubmit_eqOutside_iff.mp heq⟩
  | retSubmit m =>
      obtain ⟨pad, hp⟩ := retSubmit_eqOutside_iff.mp heq
      exact ⟨_, hp⟩
  | cmdUnlink m =>
      obtain ⟨pad, hp⟩ := (unlink_eqOutside_iff m.header.length_encode
        (length_u32Bytes m.unlinkSeqnum)).mp heq
      exact ⟨_, hp⟩
  | retUnlink m =>
      obtain ⟨pad, hp⟩ := (unlink_eqOutside_iff m.header.length_encode
        (length_i32Bytes m.status)).mp heq
      exact ⟨_, hp⟩

/-- **The grammar of the URB stream.** The reader accepts the encodings of the
well-formed messages, up to ignored bytes, and nothing else. -/
theorem readUrbMessage_accepts :
    Accepts readUrbMessage (fun p m => m.WellFormed ∧ EqOutside m.ignored p m.encode) := by
  refine (UsbipHeaderBasic.decode_accepts.onTaken_bind ?_ readAfterHeader_accepts).congr
    fun p m => ?_
  · rintro _ header rfl
    exact header.length_encode
  constructor
  · rintro ⟨_, p₂, header, rfl, rfl, -, hwf, heq⟩
    exact ⟨hwf, heq⟩
  · rintro ⟨hwf, heq⟩
    obtain ⟨rest, rfl⟩ := exists_eq_header_append heq
    exact ⟨_, rest, m.header, rfl, rfl, rfl, hwf, heq⟩

/-! ### Errors -/

theorem readExact_avoids_panic (n : Nat) : Avoids Failure.IsPanic (readExact n) :=
  Avoids.takeExact (Failure.not_isPanic_error _) n

theorem readTransferBuffer_avoids_panic (travels : Bool) (length : UInt32) :
    Avoids Failure.IsPanic (readTransferBuffer travels length) :=
  ((readExact_avoids_panic _).bind fun _ => .pure _).ite (.pure [])

theorem readIsoPacketDescriptors_avoids_panic (n : UInt32) :
    Avoids Failure.IsPanic (readIsoPacketDescriptors n) :=
  ((Avoids.throw (Failure.not_isPanic_error _)).ite ((readExact_avoids_panic _).bind fun _ =>
    (IsoPacketDescriptor.decode_avoids_panic.items _).onBuffer _)).ite (.pure [])

theorem readTail_avoids_panic {α : Type} (travels : Bool) (length n : UInt32)
    (build : List UInt8 → List IsoPacketDescriptor → α) :
    Avoids Failure.IsPanic (do
      let buf ← readTransferBuffer travels length
      let ds ← readIsoPacketDescriptors n
      pure (build buf ds)) :=
  (readTransferBuffer_avoids_panic travels length).bind fun _ =>
    (readIsoPacketDescriptors_avoids_panic n).bind fun _ => .pure _

/-- The reader fails with an error only: the one decoder it calls on a buffer of
its own checks the length first. -/
theorem readUrbMessage_avoids_panic : Avoids Failure.IsPanic readUrbMessage := by
  refine (readExact_avoids_panic _).bind fun _ =>
    (UsbipHeaderBasic.decode_avoids_panic.onBuffer _).bind fun header => ?_
  unfold readAfterHeader
  split
  · exact Avoids.throw (Failure.not_isPanic_error _)
  · exact ((readExact_avoids_panic _).bind fun _ =>
      (Avoids.throw (Failure.not_isPanic_error _)).ite (readTail_avoids_panic _ _ _ _)).bind
      fun _ => .pure _
  · exact ((readExact_avoids_panic _).bind fun _ =>
      (Avoids.throw (Failure.not_isPanic_error _)).ite (readTail_avoids_panic _ _ _ _)).bind
      fun _ => .pure _
  · exact ((readExact_avoids_panic _).bind fun _ => .pure _).bind fun _ => .pure _
  · exact ((readExact_avoids_panic _).bind fun _ => .pure _).bind fun _ => .pure _

/-! ### Acceptance and round trip -/

/-- **Acceptance, exactly.** On any byte string the reader succeeds after
consuming `p` iff `p` encodes a well-formed message up to ignored bytes; that
message is the one returned, no other message has the spelling `p`, and its own
encoding is `p` up to ignored bytes. On every other string it returns an error. -/
theorem readUrbMessage_iff_encoding (w : List UInt8) :
    (∀ p, (∃ m rest, w = p ++ rest ∧ readUrbMessage w = .ok (m, rest)) ↔
      p <+: w ∧ ∃ m : UrbMessage, m.WellFormed ∧ EqOutside m.ignored p m.encode) ∧
    (∀ p m rest, w = p ++ rest → readUrbMessage w = .ok (m, rest) →
      m.WellFormed ∧ EqOutside m.ignored p m.encode ∧
      ∀ m' : UrbMessage, m'.WellFormed → EqOutside m'.ignored p m'.encode → m' = m) ∧
    ((¬ ∃ p, p <+: w ∧ ∃ m : UrbMessage, m.WellFormed ∧ EqOutside m.ignored p m.encode) →
      ∃ e, readUrbMessage w = .error (.error e)) := by
  refine ⟨fun p => ⟨?_, ?_⟩, ?_, ?_⟩
  · rintro ⟨m, rest, rfl, hread⟩
    obtain ⟨q, hq, hm⟩ := (readUrbMessage_accepts _ _ _).mp hread
    rw [List.append_left_inj] at hq
    subst hq
    exact ⟨List.prefix_append p rest, m, hm⟩
  · rintro ⟨⟨rest, rfl⟩, m, hm⟩
    exact ⟨m, rest, rfl, readUrbMessage_accepts.read hm rest⟩
  · rintro p m rest rfl hread
    obtain ⟨q, hq, hwf, heq⟩ := (readUrbMessage_accepts _ _ _).mp hread
    rw [List.append_left_inj] at hq
    subst hq
    refine ⟨hwf, heq, fun m' hwf' heq' => ?_⟩
    have hread' := readUrbMessage_accepts.read ⟨hwf', heq'⟩ rest
    rw [hread] at hread'
    cases hread'
    rfl
  · intro hnone
    cases hread : readUrbMessage w with
    | ok r =>
        obtain ⟨m, rest⟩ := r
        obtain ⟨p, rfl, hm⟩ := (readUrbMessage_accepts _ _ _).mp hread
        exact absurd ⟨p, List.prefix_append p rest, m, hm⟩ hnone
    | error f =>
        cases f with
        | error e => exact ⟨e, rfl⟩
        | panic => exact absurd rfl (readUrbMessage_avoids_panic w _ hread)

/-- A tail of the announced shape has the size `wire_size` computes. -/
theorem TailOk.length_encodeTail {travels : Bool} {length n : UInt32} {buf : List UInt8}
    {ds : List IsoPacketDescriptor} (h : TailOk travels length buf n ds) :
    (encodeTail buf n ds).length = buf.length + ds.length * 16 := by
  rw [encodeTail_eq, List.length_append]
  rcases h.packets with ⟨hsent, rfl⟩ | ⟨hlen, hle⟩
  · rw [hsent]
    rfl
  · have hiso : isIsoTransfer n = true := by
      rw [isIsoTransfer_eq_true]
      rintro rfl
      rw [hlen] at hle
      exact absurd hle (by decide)
    rw [if_pos hiso, length_flatMap_encode]

/-- A well-formed message is as long on the wire as `wire_size` says. -/
theorem UrbMessage.WellFormed.length_encode {m : UrbMessage} (h : m.WellFormed) :
    m.encode.length = m.wireSize := by
  cases m with
  | cmdSubmit m =>
      have htail := h.2.length_encodeTail
      simp [UrbMessage.encode, CmdSubmit.encode, wireSize, urbHeaderTotalSize,
        isoPacketDescriptorSize, htail]
      omega
  | retSubmit m =>
      have htail := h.2.length_encodeTail
      simp [UrbMessage.encode, RetSubmit.encode, wireSize, urbHeaderTotalSize,
        isoPacketDescriptorSize, htail]
      omega
  | cmdUnlink m => simp [UrbMessage.encode, CmdUnlink.encode, wireSize, urbHeaderTotalSize]
  | retUnlink m => simp [UrbMessage.encode, RetUnlink.encode, wireSize, urbHeaderTotalSize]

theorem foldl_writeUrbMessage (msgs : List UrbMessage) (written : List UInt8) :
    msgs.foldl writeUrbMessage written = written ++ msgs.flatMap UrbMessage.encode := by
  induction msgs generalizing written with
  | nil => simp
  | cons m msgs ih => rw [List.foldl_cons, ih, writeUrbMessage, List.flatMap_cons,
      List.append_assoc]

/-- As many reads as there are messages return them, up to the bytes behind them, exactly
if every one is well formed. -/
theorem items_readUrbMessage_iff (msgs : List UrbMessage) (trailing : List UInt8) :
    items readUrbMessage msgs.length (msgs.foldl writeUrbMessage [] ++ trailing) =
        .ok (msgs, trailing) ↔ ∀ m ∈ msgs, m.WellFormed := by
  constructor
  · intro h m hm
    obtain ⟨w, rest, hread⟩ := exists_read_of_mem_items h hm
    obtain ⟨p, -, hwf, -⟩ := (readUrbMessage_accepts _ _ _).mp hread
    exact hwf
  · intro hwf
    rw [foldl_writeUrbMessage, List.nil_append]
    refine items_encodeAll msgs (fun m hm rest => ?_) trailing
    exact readUrbMessage_accepts.read ⟨hwf m hm, rfl, fun _ _ => rfl⟩ rest

/-- **Stream round trip.** Well-formed messages written one after the other, with
any bytes behind them, are read back as the same list by as many reads, which
stop exactly at the trailing bytes; each message is emitted in `wire_size` bytes. -/
theorem urbStream_roundtrip (msgs : List UrbMessage) (trailing : List UInt8)
    (hwf : ∀ m ∈ msgs, m.WellFormed) :
    items readUrbMessage msgs.length (msgs.foldl writeUrbMessage [] ++ trailing) =
        .ok (msgs, trailing) ∧
      ∀ m ∈ msgs, (writeUrbMessage [] m).length = m.wireSize := by
  constructor
  · exact (items_readUrbMessage_iff msgs trailing).mpr hwf
  · intro m hm
    exact (hwf m hm).length_encode

/-- Four messages in a row: an isochronous OUT submission, an IN return with a
payload, and an unlink with its answer, one of them in a direction above 1. -/
def sampleStream : List UrbMessage :=
  [ .cmdSubmit
      { header := { command := 1, seqnum := 7, devid := 2, direction := 0, ep := 1 }
        transferFlags := 0, transferBufferLength := 3, startFrame := 0, numberOfPackets := 1
        interval := 8, setup := ⟨[0, 0, 0, 0, 0, 0, 0, 0], length_zeroSetup⟩
        transferBuffer := [10, 11, 12]
        isoPacketDescriptors := [{ offset := 0, length := 3, actualLength := 0, status := 0 }] },
    .retSubmit
      { header := { command := 3, seqnum := 7, devid := 2, direction := 1, ep := 1 }
        status := -32, actualLength := 2, startFrame := 0, numberOfPackets := 0xFFFFFFFF
        errorCount := 0, transferBuffer := [1, 2], isoPacketDescriptors := [] },
    .cmdUnlink
      { header := { command := 2, seqnum := 8, devid := 2, direction := 5, ep := 1 }
        unlinkSeqnum := 7 },
    .retUnlink
      { header := { command := 4, seqnum := 8, devid := 2, direction := 0, ep := 1 }
        status := ECONNRESET } ]

theorem urbStream_roundtrip_sampleStream :
    (∀ m ∈ sampleStream, m.WellFormed) ∧
      items readUrbMessage 4 (sampleStream.foldl writeUrbMessage [] ++ [255]) =
        .ok (sampleStream, [255]) :=
  ⟨by decide, (urbStream_roundtrip sampleStream [255] (by decide)).1⟩

/-! ### Reading what has arrived so far -/

theorem readExact_incremental (n : Nat) : Incremental Failure.IsEof (readExact n) := by
  apply Incremental.takeExact
  rfl

theorem readTail_incremental {α : Type} (travels : Bool) (length n : UInt32)
    (build : List UInt8 → List IsoPacketDescriptor → α) :
    Incremental Failure.IsEof (do
      let buf ← readTransferBuffer travels length
      let ds ← readIsoPacketDescriptors n
      pure (build buf ds)) := by
  refine Incremental.bind ?_ fun _ => Incremental.bind ?_ fun _ => .pure _
  · exact ((readExact_incremental _).bind fun _ => .pure _).ite (.pure [])
  · exact ((Incremental.throw _).ite ((readExact_incremental _).bind fun _ =>
      Incremental.onBuffer _ _)).ite (.pure [])

/-- The reader asks for more bytes or has decided: no later byte changes an outcome
other than end of stream. -/
theorem readUrbMessage_incremental : Incremental Failure.IsEof readUrbMessage := by
  refine (readExact_incremental _).bind fun _ => (Incremental.onBuffer _ _).bind fun header => ?_
  unfold readAfterHeader
  split
  · exact Incremental.throw _
  · exact ((readExact_incremental _).bind fun _ =>
      (Incremental.throw _).ite (readTail_incremental _ _ _ _)).bind fun _ => .pure _
  · exact ((readExact_incremental _).bind fun _ =>
      (Incremental.throw _).ite (readTail_incremental _ _ _ _)).bind fun _ => .pure _
  · exact ((readExact_incremental _).bind fun _ => .pure _).bind fun _ => .pure _
  · exact ((readExact_incremental _).bind fun _ => .pure _).bind fun _ => .pure _

/-- URB messages are framed: the reader finds the end of each by itself, and on less than a
message it asks for more. -/
theorem readUrbMessage_framed :
    Framed readUrbMessage Failure.IsEof UrbMessage.encode UrbMessage.WellFormed where
  incremental := readUrbMessage_incremental
  reads _ hwf rest := readUrbMessage_accepts.read ⟨hwf, rfl, fun _ _ => rfl⟩ rest
  empty := ⟨.error (.io .unexpectedEof), rfl, rfl⟩

end Extender.Protocol
