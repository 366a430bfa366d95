/-
Fixed-width big-endian bytes.

Network formats spell an integer in a fixed number of bytes, the most significant one first.
`toBytes w n` writes the low `w` bytes of `n` in that order and `ofBytes` reads a byte list
back as a number. Both directions are exact: `ofBytes_toBytes` (a number below `256 ^ w`
survives the trip) and `toBytes_ofBytes` (every byte list of length `w` is the spelling of its
own value), so a reader built on them accepts every spelling and no two numbers share one. A
number that does not fit is cut to its low bytes, which is what a cast to the narrower type
does (`ofBytes_toBytes_mod`).

The fixed-width integer codecs (`u16`, `u32`, `u64`, `i32`) are the two functions at widths 2,
4 and 8; a signed integer is spelled by its two's complement. For each width one equivalence
says both directions at once (`u16OfBytes_eq_iff` and its siblings): the bytes read as `x` if
and only if they are the spelling of `x`.

`Bytes n` is a byte array of length `n`. The length is a property of the value, as it is of a
fixed array in a typed language: a slice needs a proof that it lies inside and no check at run
time, and the results about slices (`Bytes.slice_append_drop`, `Bytes.eq_append_iff`) say how
an array falls into its fields.

Nothing here names a protocol. The codecs of headers and packets are sequences of these
spellings, and their round trips are those of the fields.
-/

import Mathlib.Data.Nat.ModEq
import Mathlib.Tactic.Positivity
import Mathlib.Tactic.Ring

namespace BigEndian

/-! ### Byte arrays of a fixed length -/

/-- A byte array of length `n`, the length being part of the value: no function on arrays has
to check it again. -/
abbrev Bytes (n : Nat) : Type := { bs : List UInt8 // bs.length = n }

@[simp] theorem Bytes.length_val {n : Nat} (bs : Bytes n) : bs.val.length = n := bs.property

/-- The `len` bytes of `bs` from position `i` on, as an array of its own; the proof that they
lie inside is an argument. -/
def Bytes.slice {n : Nat} (bs : Bytes n) (i len : Nat) (h : i + len ≤ n) : Bytes len :=
  ⟨(bs.val.drop i).take len, by
    rw [List.length_take, List.length_drop, bs.property]
    omega⟩

/-- Slices that meet, the second running to the end, put the array together. -/
theorem Bytes.slice_append_drop {n : Nat} (bs : Bytes n) (i len : Nat) (h : i + len ≤ n) :
    (bs.slice i len h).val ++ bs.val.drop (i + len) = bs.val.drop i := by
  show (bs.val.drop i).take len ++ bs.val.drop (i + len) = bs.val.drop i
  rw [← List.drop_drop, List.take_append_drop]

/-- A slice that runs to the end is the rest of the array. -/
theorem Bytes.slice_eq_drop {n : Nat} (bs : Bytes n) (i len : Nat) (h : i + len = n) :
    (bs.slice i len (Nat.le_of_eq h)).val = bs.val.drop i := by
  apply List.take_of_length_le
  rw [List.length_drop, bs.property]
  omega

/-- An array in two parts is its two slices. -/
theorem Bytes.eq_append_iff {m n : Nat} (bs : Bytes (m + n)) {x y : List UInt8}
    (hx : x.length = m) :
    bs.val = x ++ y ↔ (bs.slice 0 m (by omega)).val = x ∧ (bs.slice m n (by omega)).val = y := by
  have hsplit : bs.val = (bs.slice 0 m (by omega)).val ++ (bs.slice m n (by omega)).val := by
    rw [bs.slice_eq_drop m n rfl]
    exact (List.take_append_drop m bs.val).symm
  constructor
  · intro h
    rw [hsplit] at h
    exact List.append_inj h (by rw [hx, Bytes.length_val])
  · rintro ⟨h₁, h₂⟩
    rw [hsplit, h₁, h₂]

/-- `bs` in front, zeros behind it up to length `n`: a fixed field that holds less than it has
room for. -/
def Bytes.zeroPadded {n : Nat} (bs : List UInt8) (h : bs.length ≤ n) : Bytes n :=
  ⟨bs ++ List.replicate (n - bs.length) 0, by
    rw [List.length_append, List.length_replicate]
    omega⟩

/-! ### Numbers as big-endian bytes -/

/-- The low `w` bytes of `n`, most significant byte first. What lies above them is dropped. -/
def toBytes : Nat → Nat → List UInt8
  | 0, _ => []
  | w + 1, n => UInt8.ofNat (n / 256 ^ w) :: toBytes w n

/-- The number a big-endian byte list spells: each byte counts with the place it has from the
right. -/
def ofBytes : List UInt8 → Nat
  | [] => 0
  | b :: bs => b.toNat * 256 ^ bs.length + ofBytes bs

@[simp] theorem length_toBytes (w n : Nat) : (toBytes w n).length = w := by
  induction w with
  | zero => rfl
  | succ w ih => simp [toBytes, ih]

/-- A spelling of `w` bytes stays below `256 ^ w`. -/
theorem ofBytes_lt (bs : List UInt8) : ofBytes bs < 256 ^ bs.length := by
  induction bs with
  | nil => simp [ofBytes]
  | cons b bs ih =>
      have hb : b.toNat ≤ 255 := Nat.le_of_lt_succ b.toNat_lt
      calc b.toNat * 256 ^ bs.length + ofBytes bs
          < b.toNat * 256 ^ bs.length + 256 ^ bs.length := by omega
        _ = (b.toNat + 1) * 256 ^ bs.length := by ring
        _ ≤ 256 * 256 ^ bs.length := Nat.mul_le_mul_right _ (by omega)
        _ = 256 ^ (b :: bs).length := by rw [List.length_cons, pow_succ']

/-- Writing keeps the low `w` bytes only. -/
theorem ofBytes_toBytes_mod (w n : Nat) : ofBytes (toBytes w n) = n % 256 ^ w := by
  induction w with
  | zero => simp [toBytes, ofBytes, Nat.mod_one]
  | succ w ih =>
      have hsplit : n % 256 ^ (w + 1) = n % 256 ^ w + 256 ^ w * (n / 256 ^ w % 256) :=
        Nat.mod_pow_succ
      simp only [toBytes, ofBytes, length_toBytes, ih, UInt8.toNat_ofNat']
      rw [hsplit, show (2 : Nat) ^ 8 = 256 from rfl]
      ring

/-- A number that fits in `w` bytes is read back exactly. -/
theorem ofBytes_toBytes {w n : Nat} (h : n < 256 ^ w) : ofBytes (toBytes w n) = n := by
  rw [ofBytes_toBytes_mod, Nat.mod_eq_of_lt h]

/-- Only the low `w` bytes of a number reach its spelling: a multiple of `256 ^ w` on top of
it is not seen. -/
theorem toBytes_add_mul (w n k : Nat) : toBytes w (k * 256 ^ w + n) = toBytes w n := by
  induction w generalizing k with
  | zero => rfl
  | succ w ih =>
      have hshift : k * 256 ^ (w + 1) + n = k * 256 * 256 ^ w + n := by ring
      have hdiv : (k * 256 * 256 ^ w + n) / 256 ^ w = k * 256 + n / 256 ^ w := by
        rw [Nat.add_comm, Nat.add_mul_div_right _ _ (by positivity), Nat.add_comm]
      have hbyte : UInt8.ofNat (k * 256 + n / 256 ^ w) = UInt8.ofNat (n / 256 ^ w) := by
        apply UInt8.toNat_inj.mp
        simp only [UInt8.toNat_ofNat']
        omega
      simp only [toBytes]
      rw [hshift, ih, hdiv, hbyte]

/-- Every byte list is the spelling of its own value. -/
theorem toBytes_ofBytes (bs : List UInt8) : toBytes bs.length (ofBytes bs) = bs := by
  induction bs with
  | nil => rfl
  | cons b bs ih =>
      have hdiv : (b.toNat * 256 ^ bs.length + ofBytes bs) / 256 ^ bs.length = b.toNat := by
        rw [Nat.add_comm, Nat.add_mul_div_right _ _ (by positivity),
          Nat.div_eq_of_lt (ofBytes_lt bs), Nat.zero_add]
      simp only [List.length_cons, toBytes, ofBytes, toBytes_add_mul, ih, hdiv]
      rw [UInt8.ofNat_toNat]

/-! ### Fixed-width integers -/

/-- `put_u16`: the two bytes of a `u16`, in network order. -/
def u16Bytes (x : UInt16) : List UInt8 := toBytes 2 x.toNat

/-- `put_u32`: the four bytes of a `u32`, in network order. -/
def u32Bytes (x : UInt32) : List UInt8 := toBytes 4 x.toNat

/-- `put_u64`: the eight bytes of a `u64`, in network order. -/
def u64Bytes (x : UInt64) : List UInt8 := toBytes 8 x.toNat

/-- `put_i32`: the two's complement spelling, which is that of the `u32` with the same bits. -/
def i32Bytes (x : Int32) : List UInt8 := u32Bytes x.toUInt32

/-- `u16::from_be_bytes` of an array of exactly two bytes. -/
def u16OfBytes (bs : Bytes 2) : UInt16 := UInt16.ofNat (ofBytes bs.val)

/-- `u32::from_be_bytes` of an array of exactly four bytes. -/
def u32OfBytes (bs : Bytes 4) : UInt32 := UInt32.ofNat (ofBytes bs.val)

/-- `i32::from_be_bytes` of an array of exactly four bytes, the first bit being the sign. -/
def i32OfBytes (bs : Bytes 4) : Int32 := (u32OfBytes bs).toInt32

@[simp] theorem length_u16Bytes (x : UInt16) : (u16Bytes x).length = 2 := length_toBytes ..

@[simp] theorem length_u32Bytes (x : UInt32) : (u32Bytes x).length = 4 := length_toBytes ..

@[simp] theorem length_u64Bytes (x : UInt64) : (u64Bytes x).length = 8 := length_toBytes ..

@[simp] theorem length_i32Bytes (x : Int32) : (i32Bytes x).length = 4 := length_toBytes ..

/-- One byte is the spelling of itself. -/
theorem ofNat_ofBytes_eq_iff (bs : Bytes 1) (x : UInt8) :
    UInt8.ofNat (ofBytes bs.val) = x ↔ bs.val = [x] := by
  obtain ⟨b, hb⟩ := List.length_eq_one_iff.mp bs.property
  have hvalue : UInt8.ofNat (ofBytes bs.val) = b := by
    rw [hb]
    simp [ofBytes]
  rw [hvalue, hb, List.cons.injEq, and_iff_left rfl]

/-- Two bytes are the spelling of exactly one `u16`: reading and writing are inverse to each
other, in both directions at once. -/
theorem u16OfBytes_eq_iff (bs : Bytes 2) (x : UInt16) :
    u16OfBytes bs = x ↔ bs.val = u16Bytes x := by
  have hlt : ofBytes bs.val < 2 ^ 16 := by
    have := ofBytes_lt bs.val
    rw [bs.property] at this
    exact this
  constructor
  · rintro rfl
    have hspell := toBytes_ofBytes bs.val
    rw [bs.property] at hspell
    rw [u16Bytes, u16OfBytes, UInt16.toNat_ofNat', Nat.mod_eq_of_lt hlt, hspell]
  · intro h
    rw [u16OfBytes, h, u16Bytes, ofBytes_toBytes (w := 2) x.toNat_lt, UInt16.ofNat_toNat]

/-- Four bytes are the spelling of exactly one `u32`. -/
theorem u32OfBytes_eq_iff (bs : Bytes 4) (x : UInt32) :
    u32OfBytes bs = x ↔ bs.val = u32Bytes x := by
  have hlt : ofBytes bs.val < 2 ^ 32 := by
    have := ofBytes_lt bs.val
    rw [bs.property] at this
    exact this
  constructor
  · rintro rfl
    have hspell := toBytes_ofBytes bs.val
    rw [bs.property] at hspell
    rw [u32Bytes, u32OfBytes, UInt32.toNat_ofNat', Nat.mod_eq_of_lt hlt, hspell]
  · intro h
    rw [u32OfBytes, h, u32Bytes, ofBytes_toBytes (w := 4) x.toNat_lt, UInt32.ofNat_toNat]

/-- Four bytes are the spelling of exactly one `i32`. -/
theorem i32OfBytes_eq_iff (bs : Bytes 4) (x : Int32) :
    i32OfBytes bs = x ↔ bs.val = i32Bytes x := by
  rw [i32Bytes, ← u32OfBytes_eq_iff, i32OfBytes]
  constructor
  · rintro rfl
    rfl
  · rintro h
    rw [h]
    rfl

/-- Reading a `u32` out of its own spelling. -/
@[simp] theorem u32Bytes_u32OfBytes (bs : Bytes 4) : u32Bytes (u32OfBytes bs) = bs.val :=
  ((u32OfBytes_eq_iff bs _).mp rfl).symm

end BigEndian
