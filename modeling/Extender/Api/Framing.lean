/-
Length-prefixed frames of the daemon's local API, and the errors a request is answered with
(`jsonrpc.rs`).

A message is four big-endian bytes of length and the payload, at most 64 KiB. The reader tells
a connection that ends before a length from one that ends inside a frame; on a connection that
is still open both mean that the read waits. A connection that ends inside the four bytes of a
length is reported as one that ended before it.

The reader is built from those of `Lib.ByteReader`, whose rules give what it accepts: the
frames of the payloads that fit, and nothing else. That the length is cast to 32 bits before
it is compared with the maximum is kept, and so `write_message` refuses a payload above 64 KiB
only while its length has 32 bits.

A stream is cut by taking any front part of the bytes written for a list of payloads. Reading
it again and again is the run of `Lib.ByteReader` over the remaining bytes, and the proof
follows the payloads, one frame at a time, until the frame the cut lies in.

* `readMessage_framed` — frames are delimited, as the daemon's loop relies on
  (`Daemon.ClientIo`).
* `framing_truncated` — whatever is cut off a stream of messages, what is left is read as the
  messages that are wholly there, and then an error that says where the cut is.
-/

import Extender.Lib.Inbound
import Extender.Protocol.Codes

namespace Extender.Api

open BigEndian ByteReader Extender.Protocol

/-- The errors of reading and writing frames; a connection that ends is told apart by where it
ends. -/
inductive FramingError where
  | io (kind : IoErrorKind)
  | messageTooLarge (len : UInt32)
  | connectionClosed
deriving DecidableEq, Repr

/-- Maximum message size: 64 KiB. -/
def maxMessageSize : UInt32 := 65536

/-- `write_message` on a writer that accepts every byte. The length is cast to `u32`
before it is compared with the maximum. -/
def writeMessage (msg : List UInt8) : Except FramingError (List UInt8) :=
  let len := UInt32.ofNat msg.length
  if len > maxMessageSize then .error (.messageTooLarge len)
  else .ok (u32Bytes len ++ msg)

/-- `write_message` with the writer it writes to, which has taken `out` so far. -/
def writeMessageTo (out msg : List UInt8) : Except FramingError Unit × List UInt8 :=
  let len := UInt32.ofNat msg.length
  if len > maxMessageSize then (.error (.messageTooLarge len), out)
  else
    let out := out ++ u32Bytes len
    let out := out ++ msg
    (.ok (), out)

/-- The bytes of messages written one after the other, those that are refused left out. -/
def written (msgs : List (List UInt8)) : List UInt8 :=
  msgs.foldl (fun out msg => (writeMessageTo out msg).2) []

/-- `read_message`: the length, the check of it, and that many bytes. -/
def readMessage : Reader FramingError (List UInt8) := do
  let lenBuf ← takeExact .connectionClosed 4
  let len := u32OfBytes lenBuf
  if len > maxMessageSize then throw (.messageTooLarge len)
  else do
    let buf ← takeExact (.io .unexpectedEof) len.toNat
    pure buf.val

/-- The two errors of a stream that ends too early; on an open connection the read waits
instead. -/
def FramingError.IsEof (e : FramingError) : Prop :=
  e = .connectionClosed ∨ e = .io .unexpectedEof

instance : DecidablePred FramingError.IsEof := fun _ => inferInstanceAs (Decidable (_ ∨ _))

/-! ### Errors of a request -/

/-- The error object of a response: a code, its text and a detail. -/
structure JsonRpcError where
  code : Int
  message : String
  data : Option String
deriving DecidableEq, Repr

def JsonRpcError.invalidParams (detail : String) : JsonRpcError :=
  { code := -32602, message := "Invalid params", data := some detail }

def JsonRpcError.internalError (detail : String) : JsonRpcError :=
  { code := -32603, message := "Internal error", data := some detail }

/-! ### The grammar -/

/-- The bytes of one frame. -/
def frame (payload : List UInt8) : List UInt8 :=
  u32Bytes (UInt32.ofNat payload.length) ++ payload

/-- A payload the framing can carry: at most 64 KiB. -/
def Fits (payload : List UInt8) : Prop := payload.length ≤ 65536

instance : DecidablePred Fits := fun _ => inferInstanceAs (Decidable (_ ≤ _))

/-- The length of a payload that fits is told by 32 bits. -/
theorem toNat_length_of_fits {payload : List UInt8} (h : Fits payload) :
    (UInt32.ofNat payload.length).toNat = payload.length := by
  have : payload.length ≤ 65536 := h
  rw [UInt32.toNat_ofNat']
  omega

theorem length_le_max {payload : List UInt8} (h : Fits payload) :
    ¬ UInt32.ofNat payload.length > maxMessageSize := by
  rw [gt_iff_lt, UInt32.lt_iff_toNat_lt, toNat_length_of_fits h]
  exact Nat.not_lt.mpr h

/-- The reader accepts the frames of the payloads that fit, and nothing else, from any
stream. -/
theorem readMessage_accepts :
    Accepts readMessage (fun p payload => Fits payload ∧ p = frame payload) := by
  refine ((Accepts.takeExact _ 4).bind_spelled fun lenBuf => Accepts.guard
    ((Accepts.takeExact _ _).bind_spelled fun buf => Accepts.pure buf.val)).congr
    fun p payload => ?_
  have hmax : ∀ len : UInt32, len > maxMessageSize ↔ 65536 < len.toNat :=
    fun _ => UInt32.lt_iff_toNat_lt
  simp only [hmax]
  constructor
  · rintro ⟨lenBuf, _, rfl, hle, buf, _, rfl, rfl, rfl⟩
    have hlen : UInt32.ofNat buf.val.length = u32OfBytes lenBuf := by
      rw [buf.property, UInt32.ofNat_toNat]
    constructor
    · show buf.val.length ≤ 65536
      rw [buf.property]
      omega
    · rw [frame, hlen, u32Bytes_u32OfBytes, List.append_nil]
  · rintro ⟨hfits, rfl⟩
    have hlen := toNat_length_of_fits hfits
    have hword : u32OfBytes ⟨u32Bytes (UInt32.ofNat payload.length), length_u32Bytes _⟩
        = UInt32.ofNat payload.length := (u32OfBytes_eq_iff _ _).mpr rfl
    refine ⟨⟨u32Bytes (UInt32.ofNat payload.length), length_u32Bytes _⟩, payload, rfl, ?_, ?_⟩
    · rw [hword, hlen]
      exact Nat.not_lt.mpr hfits
    · rw [hword]
      exact ⟨⟨payload, hlen.symm⟩, [], (List.append_nil _).symm, rfl, rfl⟩

/-- A payload that fits is written as its frame. -/
theorem writeMessage_of_fits {payload : List UInt8} (h : Fits payload) :
    writeMessage payload = .ok (frame payload) := by
  rw [writeMessage, if_neg (length_le_max h), frame]

/-- More bytes do not change a message that has been read. -/
theorem readMessage_incremental : Incremental FramingError.IsEof readMessage := by
  have hlen : FramingError.IsEof .connectionClosed := Or.inl rfl
  have hpayload : FramingError.IsEof (.io .unexpectedEof) := Or.inr rfl
  exact (Incremental.takeExact hlen 4).bind fun _ => (Incremental.throw _).ite
    ((Incremental.takeExact hpayload _).bind fun _ => .pure _)

/-- Frames are delimited: the reader finds the end of each by itself. -/
theorem readMessage_framed : Framed readMessage FramingError.IsEof frame Fits where
  incremental := readMessage_incremental
  reads _ hfits rest := readMessage_accepts.read ⟨hfits, rfl⟩ rest
  empty := ⟨.connectionClosed, rfl, Or.inl rfl⟩

/-! ### Truncated streams -/

/-- The writer takes the bytes of `writeMessage`, or nothing. -/
theorem writeMessageTo_eq (out msg : List UInt8) :
    writeMessageTo out msg =
      match writeMessage msg with
      | .ok bytes => (.ok (), out ++ bytes)
      | .error e => (.error e, out) := by
  unfold writeMessageTo writeMessage
  simp only
  split
  · rfl
  · rw [List.append_assoc]

/-- A payload that fits is appended as its frame. -/
theorem writeMessageTo_of_fits (out : List UInt8) {payload : List UInt8} (h : Fits payload) :
    writeMessageTo out payload = (.ok (), out ++ frame payload) := by
  rw [writeMessageTo_eq, writeMessage_of_fits h]

/-- A longer payload is refused before anything is written, as long as its length is told
by 32 bits. -/
theorem writeMessageTo_too_large (out : List UInt8) {payload : List UInt8}
    (hlarge : 65536 < payload.length) (h32 : payload.length < 2 ^ 32) :
    writeMessageTo out payload =
      (.error (.messageTooLarge (UInt32.ofNat payload.length)), out) := by
  have hgt : UInt32.ofNat payload.length > maxMessageSize := by
    rw [gt_iff_lt, UInt32.lt_iff_toNat_lt, UInt32.toNat_ofNat', Nat.mod_eq_of_lt h32]
    exact hlarge
  rw [writeMessageTo, if_pos hgt]

/-- What is written for payloads that fit is their frames in a row. -/
theorem written_of_fits {payloads : List (List UInt8)} (h : ∀ payload ∈ payloads, Fits payload) :
    written payloads = payloads.flatMap frame := by
  have hfold : ∀ out, payloads.foldl (fun out msg => (writeMessageTo out msg).2) out =
      out ++ payloads.flatMap frame := by
    induction payloads with
    | nil => exact fun out => (List.append_nil out).symm
    | cons payload payloads ih =>
        intro out
        rw [List.foldl_cons, writeMessageTo_of_fits out (h payload List.mem_cons_self),
          ih (fun q hq => h q (List.mem_cons_of_mem _ hq)), List.flatMap_cons, List.append_assoc]
  exact hfold []

/-- The error at the end of a stream that stops `n` bytes into a frame. -/
def cutError (n : Nat) : FramingError :=
  if n < 4 then .connectionClosed else .io .unexpectedEof

/-- Behind a length within the limit that many bytes are read. -/
theorem readMessage_length {len : UInt32} (hle : ¬ len > maxMessageSize) (rest : List UInt8) :
    readMessage (u32Bytes len ++ rest) =
      (takeExact (.io .unexpectedEof) len.toNat >>= fun buf => pure buf.val) rest := by
  have htake : takeExact FramingError.connectionClosed 4 (u32Bytes len ++ rest) =
      .ok (⟨u32Bytes len, length_u32Bytes len⟩, rest) :=
    (Accepts.takeExact _ 4).read (a := ⟨u32Bytes len, length_u32Bytes len⟩) rfl rest
  have hword : u32OfBytes ⟨u32Bytes len, length_u32Bytes len⟩ = len :=
    (u32OfBytes_eq_iff _ _).mpr rfl
  rw [readMessage, Accepts.bind_of_ok htake, hword, if_neg hle]

/-- The front of a frame is not a message: reading it is the error of the place where it
ends. -/
theorem readMessage_cut {payload left missing : List UInt8} (hfits : Fits payload)
    (hne : missing ≠ []) (hframe : frame payload = left ++ missing) :
    readMessage left = .error (cutError left.length) := by
  unfold cutError
  split
  · rename_i hshort
    have htake : takeExact FramingError.connectionClosed 4 left = .error .connectionClosed :=
      dif_neg (Nat.not_le.mpr hshort)
    show Except.bind (takeExact FramingError.connectionClosed 4 left) _ = _
    rw [htake]
    rfl
  · rename_i hlen
    -- the length is there, and says more than is left behind it
    obtain ⟨front, rfl, hpayload⟩ : ∃ front,
        left = u32Bytes (UInt32.ofNat payload.length) ++ front ∧ payload = front ++ missing := by
      rw [frame, List.append_eq_append_iff] at hframe
      rcases hframe with ⟨front, hleft, hpayload⟩ | ⟨rest, hword, hmissing⟩
      · exact ⟨front, hleft, hpayload⟩
      · have hrest : rest = [] := by
          have hsize := congrArg List.length hword
          rw [length_u32Bytes, List.length_append] at hsize
          exact List.length_eq_zero_iff.mp (by omega)
        subst hrest
        rw [List.append_nil] at hword
        exact ⟨[], by rw [hword, List.append_nil], hmissing.symm⟩
    have hmissing : ¬ payload.length ≤ front.length := by
      have hpos := List.length_pos_iff.mpr hne
      rw [hpayload, List.length_append]
      omega
    rw [readMessage_length (length_le_max hfits), toNat_length_of_fits hfits]
    show Except.bind (takeExact (FramingError.io .unexpectedEof) payload.length front) _ = _
    rw [takeExact, dif_neg hmissing]
    rfl

/-- **Truncation.** For every sequence of payloads of at most 64 KiB and every front part of
the bytes written for them, repeated reading returns the payloads whose frames lie wholly
inside it, in order, and then the error of the place it ends at; and longer payloads, up to
32-bit lengths, are refused without a byte written. -/
theorem framing_truncated (payloads : List (List UInt8)) (p : List UInt8)
    (hfits : ∀ payload ∈ payloads, payload.length ≤ 65536) (hp : p <+: written payloads) :
    (∃ k ≤ payloads.length,
      (∀ i < payloads.length, i < k ↔ endOf frame payloads (i + 1) ≤ p.length) ∧
      ReadsUntil readMessage p (payloads.take k)
        (if p.length - endOf frame payloads k < 4 then .connectionClosed
          else .io .unexpectedEof)) ∧
    ∀ out payload : List UInt8, 65536 < payload.length → payload.length < 2 ^ 32 →
      ∃ e, writeMessageTo out payload = (.error e, out) := by
  constructor
  · rw [written_of_fits hfits] at hp
    obtain ⟨later, hlater⟩ := hp
    obtain ⟨k, left, hk, rfl, hend, hinside⟩ := exists_cut hlater
    have hshort : ∀ hk : k < payloads.length, left.length < (frame payloads[k]).length := by
      intro hk
      obtain ⟨missing, hne, hframe⟩ := hinside hk
      rw [hframe, List.length_append]
      exact Nat.lt_add_of_pos_right (List.length_pos_iff.mpr hne)
    have hleft : readMessage left = .error (cutError left.length) := by
      rcases Nat.lt_or_eq_of_le hk with hlt | heq
      · obtain ⟨missing, hne, hframe⟩ := hinside hlt
        exact readMessage_cut (hfits _ (List.getElem_mem hlt)) hne hframe
      · rw [hend heq]
        rfl
    have hpos : ((payloads.take k).flatMap frame ++ left).length - endOf frame payloads k =
        left.length := by
      rw [List.length_append, endOf, Nat.add_sub_cancel_left]
    refine ⟨k, hk, fun i hi => (endOf_le_iff hshort hi).symm, ?_⟩
    rw [hpos]
    refine ReadsUntil.append (fun payload hmem rest => ?_) hleft
    exact readMessage_framed.reads payload (hfits payload (List.mem_of_mem_take hmem)) rest
  · intro out payload hlarge h32
    exact ⟨_, writeMessageTo_too_large out hlarge h32⟩

/-- Three messages, cut inside the payload of the third. -/
theorem framing_truncated_sample :
    ([0, 0, 0, 2, 7, 8, 0, 0, 0, 0, 0, 0, 0, 2, 9] : List UInt8) <+:
        written [[7, 8], [], [9, 9]] ∧
      (∃ k ≤ 3,
        (∀ i < 3, i < k ↔ endOf frame [[7, 8], [], [9, 9]] (i + 1) ≤ 15) ∧
        ReadsUntil readMessage [0, 0, 0, 2, 7, 8, 0, 0, 0, 0, 0, 0, 0, 2, 9]
          ([[7, 8], [], [9, 9]].take k)
          (if 15 - endOf frame [[7, 8], [], [9, 9]] k < 4 then .connectionClosed
            else .io .unexpectedEof)) := by
  have hp : ([0, 0, 0, 2, 7, 8, 0, 0, 0, 0, 0, 0, 0, 2, 9] : List UInt8) <+:
      written [[7, 8], [], [9, 9]] := ⟨[9], by decide⟩
  refine ⟨hp, (framing_truncated [[7, 8], [], [9, 9]] _ ?_ hp).1⟩
  intro payload hmem
  simp only [List.mem_cons, List.not_mem_nil, or_false] at hmem
  rcases hmem with rfl | rfl | rfl
  all_goals decide

end Extender.Api
