/-
The other side of bulk-only transport (`mass_storage.rs`): a device reads command wrappers
(`Cbw::from_bytes`) and writes status wrappers (`Csw::to_bytes`).

The client writes the first kind and reads the second, so that these two functions are not on
its way to the device. They are what a device of the repository's own would use, and the disk
at the end of the connection is one (`System.Disk`): it takes a wrapper apart with
`Cbw.fromBytes` and answers with the bytes of `Csw.toBytes`.

Both wrappers begin with three little-endian words, and are read by fixed offsets from an
array of fixed size. Reading such a word back from where it was written is one lemma
(`leAt_append`), and the two round trips follow from it.

* `Cbw.fromBytes_toBytes`, `Csw.fromBytes_toBytes` — both wrappers are read back as they were
  written; a status that is written as a byte which means another status is left out.
-/

import Extender.Client.MassStorage

namespace Extender.Client.MassStorage

open BigEndian Extender.Protocol

/-! ### Three words -/

/-- Three little-endian words, as both wrappers begin. -/
def words (a b c : UInt32) (rest : List UInt8) : List UInt8 :=
  u32LeBytes a ++ (u32LeBytes b ++ (u32LeBytes c ++ rest))

/-- A little-endian word is read back from behind whatever stands before it. -/
theorem leAt_append (front : List UInt8) (x : UInt32) (rest : List UInt8) :
    UInt32.ofNat (leAt (front ++ (u32LeBytes x ++ rest)) front.length 4) = x := by
  rw [leAt, List.drop_left, List.take_left' (length_u32LeBytes x), u32LeBytes, List.reverse_reverse,
    u32Bytes, ofBytes_toBytes x.toNat_lt, UInt32.ofNat_toNat]

/-- The words are read back, and what is behind them is where it was. -/
theorem leAt_words (a b c : UInt32) (rest : List UInt8) :
    UInt32.ofNat (leAt (words a b c rest) 0 4) = a ∧
      UInt32.ofNat (leAt (words a b c rest) 4 4) = b ∧
      UInt32.ofNat (leAt (words a b c rest) 8 4) = c ∧
      (words a b c rest).drop 12 = rest := by
  have hsecond := leAt_append (u32LeBytes a) b (u32LeBytes c ++ rest)
  have hthird := leAt_append (u32LeBytes a ++ u32LeBytes b) c rest
  rw [length_u32LeBytes] at hsecond
  rw [List.length_append, length_u32LeBytes, length_u32LeBytes, List.append_assoc] at hthird
  refine ⟨leAt_append [] a _, hsecond, hthird, ?_⟩
  rw [words, ← List.append_assoc, ← List.append_assoc]
  exact List.drop_left' (by simp)

/-! ### Command wrappers -/

/-- `Cbw::from_bytes`: the signature is checked, all other fields are taken as they are. -/
def Cbw.fromBytes (buf : Bytes cbwSize) : Except DriverError Cbw :=
  let signature := UInt32.ofNat (leAt buf.val 0 4)
  if signature ≠ cbwSignature then .error (error ("invalid CBW signature: " ++ hex signature))
  else .ok
    { signature, tag := UInt32.ofNat (leAt buf.val 4 4)
      dataTransferLength := UInt32.ofNat (leAt buf.val 8 4)
      flags := buf.val.getD 12 0, lun := buf.val.getD 13 0, cbLength := buf.val.getD 14 0
      cb := buf.slice 15 16 (by decide) }

/-- A command wrapper that is sent is received, whatever the command and its length. -/
theorem Cbw.fromBytes_toBytes (cbw : Cbw) (h : cbw.signature = cbwSignature) :
    Cbw.fromBytes cbw.toBytes = .ok cbw := by
  obtain ⟨hsignature, htag, hlength, hdrop⟩ := leAt_words cbw.signature cbw.tag
    cbw.dataTransferLength (cbw.flags :: cbw.lun :: cbw.cbLength :: cbw.cb.val)
  change UInt32.ofNat (leAt cbw.toBytes.val 0 4) = _ at hsignature
  change UInt32.ofNat (leAt cbw.toBytes.val 4 4) = _ at htag
  change UInt32.ofNat (leAt cbw.toBytes.val 8 4) = _ at hlength
  change cbw.toBytes.val.drop 12 = _ at hdrop
  have hbyte : ∀ i, cbw.toBytes.val.getD (12 + i) 0 =
      (cbw.flags :: cbw.lun :: cbw.cbLength :: cbw.cb.val).getD i 0 := by
    intro i
    rw [← hdrop, List.getD_eq_getElem?_getD, List.getD_eq_getElem?_getD, List.getElem?_drop]
  have hcb : cbw.toBytes.slice 15 16 (by decide) = cbw.cb := by
    refine Subtype.ext ?_
    show (cbw.toBytes.val.drop (12 + 3)).take 16 = cbw.cb.val
    rw [← List.drop_drop, hdrop]
    exact List.take_of_length_le (Nat.le_of_eq cbw.cb.length_val)
  simp only [Cbw.fromBytes, hsignature, htag, hlength, hcb, h, ne_eq, not_true_eq_false, if_false]
  rw [hbyte 0, hbyte 1, hbyte 2, ← h]
  rfl

/-! ### Status wrappers -/

/-- `CswStatus::to_byte`: the inverse of `fromByte`, except for an unknown byte below 3. -/
def CswStatus.toByte : CswStatus → UInt8
  | .passed => 0
  | .failed => 1
  | .phaseError => 2
  | .unknown b => b

def Csw.toBytes (csw : Csw) : Bytes cswSize :=
  ⟨u32LeBytes csw.signature ++ (u32LeBytes csw.tag ++ (u32LeBytes csw.dataResidue ++
    [csw.status.toByte])), by simp⟩

theorem Csw.fromBytes_toBytes (csw : Csw) (h : csw.signature = cswSignature)
    (hstatus : CswStatus.fromByte csw.status.toByte = csw.status) :
    Csw.fromBytes csw.toBytes = .ok csw := by
  obtain ⟨hsignature, htag, hresidue, hdrop⟩ := leAt_words csw.signature csw.tag
    csw.dataResidue [csw.status.toByte]
  change UInt32.ofNat (leAt csw.toBytes.val 0 4) = _ at hsignature
  change UInt32.ofNat (leAt csw.toBytes.val 4 4) = _ at htag
  change UInt32.ofNat (leAt csw.toBytes.val 8 4) = _ at hresidue
  change csw.toBytes.val.drop 12 = _ at hdrop
  have hlast : csw.toBytes.val[12]? = some csw.status.toByte := by
    rw [← Nat.add_zero 12, ← List.getElem?_drop, hdrop]
    rfl
  have hbyte : csw.toBytes.val.get ⟨12, by rw [Bytes.length_val]; decide⟩ = csw.status.toByte :=
    Option.some.inj ((List.getElem?_eq_getElem _).symm.trans hlast)
  simp only [Csw.fromBytes, hsignature, htag, hresidue, hbyte, hstatus, h, ne_eq, not_true_eq_false,
    if_false]
  rw [← h]

end Extender.Client.MassStorage
