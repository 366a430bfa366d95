/-
Readers of a byte stream, and the relation a reader decides.

A `Reader` consumes bytes from the front of a list and fails with an error of
its own. `Accepts x R` says that `x` is an exact recogniser: it succeeds with
value `a` and remainder `rest` on precisely the inputs `p ++ rest` with `R p a`.
The relation composes the way the reader does (`Accepts.pure`, `Accepts.bind`,
`Accepts.ite`, ...), so the grammar a reader implements is read off its text,
with no separate soundness and completeness argument per reader.

* `takeExact` — take exactly `n` bytes or fail.
* `onBuffer` — run a reader over a buffer already taken from the stream.
* `items` — run one reader a fixed number of times; `items_encodeAll` is the
  round trip of a whole stream from the round trip of one item.
* `needs` — check how many bytes are left before reading on.
* `Incremental` — a reader that can be run on the bytes arrived so far: more input
  changes only an outcome that asked for more.
* `ReadsUntil` — repeated reading up to the first failure; `exists_cut` finds the item a
  stream was cut in.
* `EqOutside` — two byte lists that may differ only at ignored positions.
* `Covers`, `Avoids`, `AvoidsFrom` — how many bytes are always enough for a reader,
  and which errors it can never end in, on any input or on one of a given length; a
  check by `needs` turns the first into the second.
-/

import Extender.Lib.BigEndian
import Mathlib.Data.List.Forall2

namespace ByteReader

open BigEndian

variable {ε α β : Type}

/-! ### Results -/

theorem exceptBind_eq_ok {x : Except ε α} {f : α → Except ε β} {b : β} :
    (x >>= f) = .ok b ↔ ∃ a, x = .ok a ∧ f a = .ok b := by
  cases x with
  | error e => simp [bind, Except.bind]
  | ok a => simp [bind, Except.bind]

/-- A function that may fail, applied along a list, succeeds iff it does so on every
element, with the results in order. -/
theorem mapM_eq_ok_iff {f : α → Except ε β} {as : List α} {bs : List β} :
    as.mapM f = .ok bs ↔ List.Forall₂ (fun a b => f a = .ok b) as bs := by
  induction as generalizing bs with
  | nil =>
      rw [List.mapM_nil, List.forall₂_nil_left_iff]
      exact ⟨fun h => (Except.ok.inj h).symm, fun h => h ▸ rfl⟩
  | cons a as ih =>
      simp only [List.mapM_cons, exceptBind_eq_ok, List.forall₂_cons_left_iff, ih]
      constructor
      · rintro ⟨b, hb, bs, hbs, heq⟩
        exact ⟨b, bs, hb, hbs, (Except.ok.inj heq).symm⟩
      · rintro ⟨b, bs, hb, hbs, rfl⟩
        exact ⟨b, hb, bs, hbs, rfl⟩

/-- A partner of an element of a list related to another, element by element. -/
theorem exists_of_forall₂ {R : α → β → Prop} {as : List α} {bs : List β}
    (h : List.Forall₂ R as bs) {a : α} (ha : a ∈ as) : ∃ b ∈ bs, R a b := by
  induction h with
  | nil => cases ha
  | cons hR _ ih =>
      rcases List.mem_cons.mp ha with rfl | ha
      · exact ⟨_, List.mem_cons_self, hR⟩
      · obtain ⟨b, hb, hab⟩ := ih ha
        exact ⟨b, List.mem_cons_of_mem _ hb, hab⟩

/-- If it fails along a list, it fails with that error on some element. -/
theorem exists_error_of_mapM {f : α → Except ε β} {as : List α} {e : ε}
    (h : as.mapM f = .error e) : ∃ a ∈ as, f a = .error e := by
  induction as with
  | nil => cases h
  | cons a as ih =>
      rw [List.mapM_cons] at h
      cases ha : f a with
      | error e' =>
          rw [ha] at h
          cases h
          exact ⟨a, List.mem_cons_self, ha⟩
      | ok b =>
          cases has : as.mapM f with
          | error e' =>
              rw [ha, has] at h
              cases h
              obtain ⟨a', hmem, ha'⟩ := ih has
              exact ⟨a', List.mem_cons_of_mem _ hmem, ha'⟩
          | ok bs =>
              rw [ha, has] at h
              cases h

/-! ### Readers -/

/-- A fallible consumer of a byte stream: it takes bytes from the front and either returns a
value with what is left, or fails with an error of its own. -/
abbrev Reader (ε α : Type) : Type := StateT (List UInt8) (Except ε) α

/-- Take exactly `n` bytes; with fewer bytes left, fail with `short`. -/
def takeExact (short : ε) (n : Nat) : Reader ε (Bytes n) := fun w =>
  if h : n ≤ w.length then
    .ok (⟨w.take n, by rw [List.length_take]; omega⟩, w.drop n)
  else .error short

/-- Run `x` over a separate buffer, leaving the stream where it is; what `x` leaves of the
buffer is dropped. -/
def onBuffer (x : Reader ε α) (buf : List UInt8) : Reader ε α := fun w =>
  match x buf with
  | .ok (a, _) => .ok (a, w)
  | .error e => .error e

/-- Read on with `x` only if at least `n` bytes are left; otherwise fail with
`short`, told how many there are. -/
def needs (n : Nat) (short : Nat → ε) (x : Reader ε α) : Reader ε α := fun w =>
  if w.length < n then .error (short w.length) else x w

/-- Run `x` exactly `n` times and collect what it returns, in order; the first failure is the
failure of the whole. -/
def items (x : Reader ε α) : Nat → Reader ε (List α)
  | 0 => pure []
  | n + 1 => do
    let a ← x
    let rest ← items x n
    pure (a :: rest)

/-! ### Exact recognition -/

/-- `x` succeeds with `a` after consuming exactly the `p` with `R p a`, whatever follows. Both
directions are in it: nothing else is accepted, and everything in the relation is. -/
def Accepts (x : Reader ε α) (R : List UInt8 → α → Prop) : Prop :=
  ∀ w a rest, x w = .ok (a, rest) ↔ ∃ p, w = p ++ rest ∧ R p a

namespace Accepts

variable {x : Reader ε α} {R : List UInt8 → α → Prop}

/-- The relation may be replaced by an equivalent one. -/
theorem congr {R' : List UInt8 → α → Prop} (hx : Accepts x R) (h : ∀ p a, R p a ↔ R' p a) :
    Accepts x R' := by
  intro w a rest
  rw [hx w a rest]
  simp only [h]

/-- A spelled value is read back whatever follows it. -/
theorem read (hx : Accepts x R) {p : List UInt8} {a : α} (h : R p a) (rest : List UInt8) :
    x (p ++ rest) = .ok (a, rest) :=
  (hx _ _ _).mpr ⟨p, rfl, h⟩

/-- A reader that consumes nothing and always answers `a`. -/
protected theorem pure (a : α) :
    Accepts (pure a : Reader ε α) (fun p b => p = [] ∧ b = a) := by
  intro w b rest
  constructor
  · intro h
    cases h
    exact ⟨[], rfl, rfl, rfl⟩
  · rintro ⟨p, rfl, rfl, rfl⟩
    rfl

/-- A reader that always fails accepts nothing. -/
protected theorem throw (e : ε) :
    Accepts (throw e : Reader ε α) (fun _ _ => False) := by
  intro w a rest
  constructor
  · intro h
    cases h
  · rintro ⟨_, _, h⟩
    exact h.elim

theorem bind_eq_ok {f : α → Reader ε β} {w : List UInt8} {b : β} {rest : List UInt8} :
    (x >>= f) w = .ok (b, rest) ↔
      ∃ a mid, x w = .ok (a, mid) ∧ f a mid = .ok (b, rest) := by
  show Except.bind (x w) (fun r => f r.1 r.2) = _ ↔ _
  cases hx : x w with
  | error e => simp [Except.bind]
  | ok r =>
      obtain ⟨a, mid⟩ := r
      simp [Except.bind]

theorem bind_of_ok {f : α → Reader ε β} {w mid : List UInt8} {a : α}
    (h : x w = .ok (a, mid)) : (x >>= f) w = f a mid := by
  show Except.bind (x w) (fun r => f r.1 r.2) = f a mid
  rw [h]
  rfl

/-- Sequencing concatenates the two spellings. -/
protected theorem bind {f : α → Reader ε β} {S : α → List UInt8 → β → Prop}
    (hx : Accepts x R) (hf : ∀ a, Accepts (f a) (S a)) :
    Accepts (x >>= f) (fun p b => ∃ p₁ p₂ a, p = p₁ ++ p₂ ∧ R p₁ a ∧ S a p₂ b) := by
  intro w b rest
  rw [bind_eq_ok]
  constructor
  · rintro ⟨a, mid, hxw, hfm⟩
    obtain ⟨p₁, rfl, hR⟩ := (hx _ _ _).mp hxw
    obtain ⟨p₂, rfl, hS⟩ := (hf _ _ _ _).mp hfm
    exact ⟨p₁ ++ p₂, (List.append_assoc ..).symm, p₁, p₂, a, rfl, hR, hS⟩
  · rintro ⟨_, rfl, p₁, p₂, a, rfl, hR, hS⟩
    refine ⟨a, p₂ ++ rest, ?_, (hf a).read hS rest⟩
    rw [List.append_assoc]
    exact hx.read hR _

/-- A first reader that accepts one spelling of each value puts that spelling in
front. -/
theorem bind_spelled {spell : α → List UInt8} {f : α → Reader ε β}
    {S : α → List UInt8 → β → Prop} (hx : Accepts x (fun p a => p = spell a))
    (hf : ∀ a, Accepts (f a) (S a)) :
    Accepts (x >>= f) (fun p b => ∃ a q, p = spell a ++ q ∧ S a q b) := by
  refine (hx.bind hf).congr fun p b => ?_
  constructor
  · rintro ⟨_, q, a, rfl, rfl, hS⟩
    exact ⟨a, q, rfl, hS⟩
  · rintro ⟨a, q, rfl, hS⟩
    exact ⟨spell a, q, a, rfl, rfl, hS⟩

/-- A branch on a condition known before reading. -/
protected theorem ite {c : Prop} [Decidable c] {y : Reader ε α} {S : List UInt8 → α → Prop}
    (hx : Accepts x R) (hy : Accepts y S) :
    Accepts (if c then x else y) (fun p a => (c ∧ R p a) ∨ (¬ c ∧ S p a)) := by
  by_cases hc : c
  · simpa only [hc, if_true, true_and, not_true_eq_false, false_and, or_false] using hx
  · simpa only [hc, if_false, false_and, not_false_eq_true, true_and, false_or] using hy

/-- A check that fails the read when it does not pass. -/
protected theorem guard {c : Prop} [Decidable c] {e : ε} (hx : Accepts x R) :
    Accepts (if c then throw e else x) (fun p a => ¬ c ∧ R p a) :=
  ((Accepts.throw e).ite hx).congr fun p a => by
    simp only [and_false, false_or]

/-- Taking `n` bytes accepts every spelling of `n` bytes as itself. -/
protected theorem takeExact (short : ε) (n : Nat) :
    Accepts (takeExact short n) (fun p bs => p = bs.val) := by
  intro w bs rest
  constructor
  · intro h
    unfold ByteReader.takeExact at h
    split at h
    · cases h
      exact ⟨w.take n, (List.take_append_drop n w).symm, rfl⟩
    · cases h
  · rintro ⟨_, rfl, rfl⟩
    have hle : n ≤ (bs.val ++ rest).length := by
      rw [List.length_append, bs.property]
      omega
    have htake : (bs.val ++ rest).take n = bs.val := List.take_left' bs.property
    have hdrop : (bs.val ++ rest).drop n = rest := List.drop_left' bs.property
    simp only [ByteReader.takeExact, hle, dite_true, htake, hdrop]

/-- Reading a buffer consumes nothing of the stream and accepts what the buffer
starts with. -/
protected theorem onBuffer (hx : Accepts x R) (buf : List UInt8) :
    Accepts (onBuffer x buf) (fun p a => p = [] ∧ ∃ q left, buf = q ++ left ∧ R q a) := by
  intro w a rest
  have hbuf : (∃ q left, buf = q ++ left ∧ R q a) ↔ ∃ left, x buf = .ok (a, left) := by
    simp only [hx buf a]
    exact exists_comm
  simp only [hbuf]
  unfold ByteReader.onBuffer
  cases hrun : x buf with
  | error e => simp
  | ok r =>
      obtain ⟨a', left⟩ := r
      constructor
      · intro h
        cases h
        exact ⟨[], rfl, rfl, left, rfl⟩
      · rintro ⟨_, rfl, rfl, left', h⟩
        cases h
        rfl

/-- A check on the bytes left changes nothing when every spelling is that long. -/
protected theorem needs {n : Nat} {short : Nat → ε} (hx : Accepts x R)
    (hlen : ∀ p a, R p a → n ≤ p.length) : Accepts (needs n short x) R := by
  intro w a rest
  rw [← hx w a rest]
  unfold ByteReader.needs
  split
  · rename_i hshort
    constructor
    · intro h
      cases h
    · intro h
      obtain ⟨p, rfl, hR⟩ := (hx _ _ _).mp h
      have := hlen p a hR
      rw [List.length_append] at hshort
      omega
  · rfl

/-- A buffer of the length every spelling has, read whole: the same as reading
the stream. -/
theorem onTaken {short : ε} {n : Nat} (hx : Accepts x R) (hlen : ∀ p a, R p a → p.length = n) :
    Accepts (takeExact short n >>= fun buf => onBuffer x buf.val) R := by
  refine ((Accepts.takeExact short n).bind_spelled fun buf => hx.onBuffer buf.val).congr
    fun p a => ?_
  constructor
  · rintro ⟨buf, _, rfl, rfl, q, left, hbuf, hR⟩
    have hleft : left = [] := by
      have hsize := congrArg List.length hbuf
      rw [buf.property, List.length_append, hlen q a hR] at hsize
      exact List.length_eq_zero_iff.mp (by omega)
    rw [hbuf, hleft, List.append_nil, List.append_nil]
    exact hR
  · intro hR
    exact ⟨⟨p, hlen p a hR⟩, [], (List.append_nil p).symm, rfl, p, [], (List.append_nil p).symm, hR⟩

/-- The same with more to read behind the buffer. -/
theorem onTaken_bind {short : ε} {n : Nat} {f : α → Reader ε β} {S : α → List UInt8 → β → Prop}
    (hx : Accepts x R) (hlen : ∀ p a, R p a → p.length = n) (hf : ∀ a, Accepts (f a) (S a)) :
    Accepts (takeExact short n >>= fun buf => onBuffer x buf.val >>= f)
      (fun p b => ∃ p₁ p₂ a, p = p₁ ++ p₂ ∧ R p₁ a ∧ S a p₂ b) := by
  rw [← bind_assoc]
  exact (hx.onTaken hlen).bind hf

/-- Reading `n` items accepts the concatenated spellings of `n` items, each of
which the item reader admits. -/
theorem items_where {ok : α → Prop} {enc : α → List UInt8}
    (hx : Accepts x (fun p a => ok a ∧ p = enc a)) (n : Nat) :
    Accepts (items x n)
      (fun p as => as.length = n ∧ (∀ a ∈ as, ok a) ∧ p = as.flatMap enc) := by
  induction n with
  | zero =>
      refine (Accepts.pure []).congr fun p as => ?_
      constructor
      · rintro ⟨rfl, rfl⟩
        simp
      · rintro ⟨hlen, -, rfl⟩
        rw [List.length_eq_zero_iff.mp hlen]
        exact ⟨rfl, rfl⟩
  | succ n ih =>
      refine (hx.bind fun a => ih.bind fun as => Accepts.pure (a :: as)).congr fun p as => ?_
      constructor
      · rintro ⟨p₁, p₂, a, rfl, ⟨ha, rfl⟩, q₁, q₂, rest, rfl, ⟨hlen, hok, rfl⟩, rfl, rfl⟩
        refine ⟨by simp [hlen], ?_, by simp⟩
        intro b hb
        rcases List.mem_cons.mp hb with rfl | hb
        · exact ha
        · exact hok b hb
      · rintro ⟨hlen, hok, rfl⟩
        cases as with
        | nil => simp at hlen
        | cons a rest =>
            have htail : ∀ b ∈ rest, ok b := fun b hb => hok b (List.mem_cons_of_mem _ hb)
            refine ⟨enc a, rest.flatMap enc, a, by simp, ⟨hok a List.mem_cons_self, rfl⟩,
              rest.flatMap enc, [], rest, by simp, ⟨by simpa using hlen, htail, rfl⟩, rfl, rfl⟩

/-- Reading `n` items accepts the concatenated spellings of `n` items. -/
protected theorem items {enc : α → List UInt8} (hx : Accepts x (fun p a => p = enc a))
    (n : Nat) :
    Accepts (items x n) (fun p as => as.length = n ∧ p = as.flatMap enc) := by
  have hx' : Accepts x (fun p a => True ∧ p = enc a) := hx.congr fun p a => by rw [true_and]
  refine (hx'.items_where n).congr fun p as => ?_
  simp

end Accepts

/-- A reader of one number, from the spelling of that number: the bytes taken read as `a`
exactly when they spell `a`. -/
theorem Accepts.word {short : ε} {n : Nat} {value : Bytes n → α} {spell : α → List UInt8}
    (hlen : ∀ a, (spell a).length = n) (hiff : ∀ bs a, value bs = a ↔ bs.val = spell a) :
    Accepts (takeExact short n >>= fun bs => pure (value bs)) (fun p a => p = spell a) :=
  ((Accepts.takeExact short n).bind fun bs => Accepts.pure (value bs)).congr fun p a => by
    constructor
    · rintro ⟨_, _, bs, rfl, rfl, rfl, rfl⟩
      rw [List.append_nil]
      exact (hiff bs _).mp rfl
    · rintro rfl
      refine ⟨spell a, [], ⟨spell a, hlen a⟩, (List.append_nil _).symm, rfl, rfl, ?_⟩
      exact ((hiff _ a).mpr rfl).symm

/-! ### Ignored bytes -/

/-- Two lists of one length that agree at every position not ignored. -/
def EqOutside (ignored : Nat → Bool) (p q : List UInt8) : Prop :=
  p.length = q.length ∧ ∀ i, ignored i = false → p[i]? = q[i]?

theorem eqOutside_none {p q : List UInt8} : EqOutside (fun _ => false) p q ↔ p = q := by
  constructor
  · rintro ⟨-, h⟩
    exact List.ext_getElem? fun i => h i rfl
  · rintro rfl
    exact ⟨rfl, fun _ _ => rfl⟩

/-- Ignoring the positions of one block means that any block of the same length
may stand in its place. -/
theorem eqOutside_block_iff {p x z y : List UInt8} {lo hi : Nat} (hx : x.length = lo)
    (hz : lo + z.length = hi) :
    EqOutside (fun i => decide (lo ≤ i) && decide (i < hi)) p (x ++ (z ++ y)) ↔
      ∃ pad : List UInt8, pad.length = z.length ∧ p = x ++ (pad ++ y) := by
  subst hx
  subst hz
  constructor
  · rintro ⟨hlen, hagree⟩
    simp only [List.length_append] at hlen
    refine ⟨(p.drop x.length).take z.length, ?_, ?_⟩
    · rw [List.length_take, List.length_drop]
      omega
    -- position by position: before the block, inside it, after it
    apply List.ext_getElem?
    intro i
    by_cases hbefore : i < x.length
    · rw [List.getElem?_append_left hbefore, hagree i (by simp [hbefore]),
        List.getElem?_append_left hbefore]
    · have hge : x.length ≤ i := Nat.le_of_not_lt hbefore
      rw [List.getElem?_append_right hge]
      have hblock : ((p.drop x.length).take z.length).length = z.length := by
        rw [List.length_take, List.length_drop]
        omega
      by_cases hinside : i - x.length < z.length
      · rw [List.getElem?_append_left (by omega), List.getElem?_take_of_lt hinside,
          List.getElem?_drop, Nat.add_sub_cancel' hge]
      · have hafter := hagree i (by simp; omega)
        rw [List.getElem?_append_right hge, List.getElem?_append_right (by omega)] at hafter
        rw [List.getElem?_append_right (by omega), hblock, hafter]
  · rintro ⟨pad, hpad, rfl⟩
    refine ⟨by simp [hpad], fun i hi => ?_⟩
    by_cases hbefore : i < x.length
    · rw [List.getElem?_append_left hbefore, List.getElem?_append_left hbefore]
    · have hafter : z.length ≤ i - x.length := by
        simp at hi
        omega
      rw [List.getElem?_append_right (by omega), List.getElem?_append_right (by omega),
        List.getElem?_append_right (by omega), List.getElem?_append_right (by omega), hpad]

/-! ### Errors a reader cannot end in -/

/-- With `n` bytes left `x` never fails, and it consumes exactly `n`: a reader of fixed size,
seen from what is enough for it. -/
def Covers (n : Nat) (x : Reader ε α) : Prop :=
  ∀ w, n ≤ w.length → ∃ a, x w = .ok (a, w.drop n)

theorem Covers.pure (a : α) : Covers 0 (pure a : Reader ε α) :=
  fun _ _ => ⟨a, rfl⟩

theorem Covers.takeExact (short : ε) (n : Nat) : Covers n (takeExact short n) := by
  intro w h
  simp only [ByteReader.takeExact, h, dite_true]
  exact ⟨_, rfl⟩

theorem Covers.bind {m n : Nat} {x : Reader ε α} {f : α → Reader ε β}
    (hx : Covers m x) (hf : ∀ a, Covers n (f a)) : Covers (m + n) (x >>= f) := by
  intro w h
  obtain ⟨a, ha⟩ := hx w (by omega)
  obtain ⟨b, hb⟩ := hf a (w.drop m) (by rw [List.length_drop]; omega)
  rw [List.drop_drop] at hb
  exact ⟨b, Accepts.bind_eq_ok.mpr ⟨a, _, ha, hb⟩⟩

/-- `x` never fails with an error `bad` holds of, on any input. It says which branches of an
error type are dead. -/
def Avoids (bad : ε → Prop) (x : Reader ε α) : Prop :=
  ∀ w e, x w = .error e → ¬ bad e

/-- With at least `n` bytes left `x` never fails with an error `bad` holds of. -/
def AvoidsFrom (n : Nat) (bad : ε → Prop) (x : Reader ε α) : Prop :=
  ∀ w e, n ≤ w.length → x w = .error e → ¬ bad e

theorem Avoids.from {bad : ε → Prop} {x : Reader ε α} (hx : Avoids bad x) (n : Nat) :
    AvoidsFrom n bad x :=
  fun w e _ h => hx w e h

/-- The bytes a first reader takes for certain are no longer there for the second. -/
theorem AvoidsFrom.bind {m n : Nat} {bad : ε → Prop} {x : Reader ε α} {f : α → Reader ε β}
    (hx : Covers m x) (hf : ∀ a, AvoidsFrom n bad (f a)) : AvoidsFrom (m + n) bad (x >>= f) := by
  intro w e hle h
  obtain ⟨a, ha⟩ := hx w (by omega)
  change Except.bind (x w) (fun r => f r.1 r.2) = .error e at h
  rw [ha] at h
  exact hf a _ e (by rw [List.length_drop]; omega) h

theorem AvoidsFrom.ite {n : Nat} {bad : ε → Prop} {x y : Reader ε α} {c : Prop} [Decidable c]
    (hx : AvoidsFrom n bad x) (hy : AvoidsFrom n bad y) :
    AvoidsFrom n bad (if c then x else y) := by
  split
  · exact hx
  · exact hy

namespace Avoids

variable {bad : ε → Prop} {x y : Reader ε α}

protected theorem pure (a : α) : Avoids bad (pure a : Reader ε α) := by
  intro w e h
  cases h

protected theorem throw {e : ε} (he : ¬ bad e) : Avoids bad (throw e : Reader ε α) := by
  intro w e' h
  cases h
  exact he

protected theorem takeExact {short : ε} (hs : ¬ bad short) (n : Nat) :
    Avoids bad (takeExact short n) := by
  intro w e h
  unfold ByteReader.takeExact at h
  split at h
  · cases h
  · cases h
    exact hs

protected theorem bind {f : α → Reader ε β} (hx : Avoids bad x) (hf : ∀ a, Avoids bad (f a)) :
    Avoids bad (x >>= f) := by
  intro w e h
  change Except.bind (x w) (fun r => f r.1 r.2) = .error e at h
  cases hrun : x w with
  | error e' =>
      rw [hrun] at h
      cases h
      exact hx w e hrun
  | ok r =>
      rw [hrun] at h
      exact hf r.1 r.2 e h

protected theorem ite {c : Prop} [Decidable c] (hx : Avoids bad x) (hy : Avoids bad y) :
    Avoids bad (if c then x else y) := by
  split
  · exact hx
  · exact hy

/-- Behind a check for `n` bytes only the inputs of at least `n` bytes matter. -/
protected theorem needs_from {n : Nat} {short : Nat → ε} (hx : AvoidsFrom n bad x)
    (hs : ∀ k, ¬ bad (short k)) : Avoids bad (needs n short x) := by
  intro w e h
  unfold ByteReader.needs at h
  split at h
  · cases h
    exact hs _
  · rename_i hle
    exact hx w e (Nat.le_of_not_lt hle) h

/-- A reader that `n` bytes always satisfy cannot fail behind a check for them. -/
protected theorem needs {n : Nat} {short : Nat → ε} (hx : Covers n x)
    (hs : ∀ k, ¬ bad (short k)) : Avoids bad (needs n short x) := by
  refine Avoids.needs_from (fun w e hle h => ?_) hs
  obtain ⟨a, ha⟩ := hx w hle
  rw [ha] at h
  cases h

protected theorem onBuffer (hx : Avoids bad x) (buf : List UInt8) :
    Avoids bad (onBuffer x buf) := by
  intro w e h
  unfold ByteReader.onBuffer at h
  split at h
  · cases h
  · rename_i e' herr
    cases h
    exact hx buf e herr

protected theorem items (hx : Avoids bad x) (n : Nat) : Avoids bad (items x n) := by
  induction n with
  | zero => exact .pure []
  | succ n ih => exact hx.bind fun _ => ih.bind fun _ => .pure _

end Avoids

/-! ### Reading what has arrived so far -/

/-- More input changes only an outcome that asked for more: unless `x` stops for
want of bytes, it ends on `p` as it ends on every extension of `p`. -/
def Incremental (short : ε → Prop) (x : Reader ε α) : Prop :=
  ∀ p q, (∃ e, x p = .error e ∧ short e) ∨
    (∃ a rest, x p = .ok (a, rest) ∧ x (p ++ q) = .ok (a, rest ++ q)) ∨
    (∃ e, x p = .error e ∧ x (p ++ q) = .error e)

namespace Incremental

variable {short : ε → Prop} {x y : Reader ε α}

protected theorem pure (a : α) : Incremental short (pure a : Reader ε α) :=
  fun p _ => Or.inr (Or.inl ⟨a, p, rfl, rfl⟩)

protected theorem throw (e : ε) : Incremental short (throw e : Reader ε α) :=
  fun _ _ => Or.inr (Or.inr ⟨e, rfl, rfl⟩)

protected theorem takeExact {e : ε} (he : short e) (n : Nat) :
    Incremental short (takeExact e n) := by
  intro p q
  by_cases hle : n ≤ p.length
  · have hmore : n ≤ (p ++ q).length := by
      rw [List.length_append]
      omega
    refine Or.inr (Or.inl ⟨⟨p.take n, by rw [List.length_take]; omega⟩, p.drop n, ?_, ?_⟩)
    · simp only [ByteReader.takeExact, hle, dite_true]
    · simp only [ByteReader.takeExact, hmore, dite_true, List.take_append_of_le_length hle,
        List.drop_append_of_le_length hle]
  · refine Or.inl ⟨e, ?_, he⟩
    simp only [ByteReader.takeExact, hle, dite_false]

protected theorem bind {f : α → Reader ε β} (hx : Incremental short x)
    (hf : ∀ a, Incremental short (f a)) : Incremental short (x >>= f) := by
  intro p q
  have hrun : ∀ w, (x >>= f) w = Except.bind (x w) (fun r => f r.1 r.2) := fun _ => rfl
  rw [hrun, hrun]
  rcases hx p q with ⟨e, hxe, he⟩ | ⟨a, rest, hxp, hxq⟩ | ⟨e, hxp, hxq⟩
  · rw [hxe]
    exact Or.inl ⟨e, rfl, he⟩
  · rw [hxp, hxq]
    exact hf a rest q
  · rw [hxp, hxq]
    exact Or.inr (Or.inr ⟨e, rfl, rfl⟩)

protected theorem ite {c : Prop} [Decidable c] (hx : Incremental short x)
    (hy : Incremental short y) : Incremental short (if c then x else y) := by
  split
  · exact hx
  · exact hy

/-- A buffer already taken does not change when more bytes arrive. -/
protected theorem onBuffer (x : Reader ε α) (buf : List UInt8) :
    Incremental short (onBuffer x buf) := by
  intro p q
  unfold ByteReader.onBuffer
  cases x buf with
  | error e => exact Or.inr (Or.inr ⟨e, rfl, rfl⟩)
  | ok r => exact Or.inr (Or.inl ⟨r.1, p, rfl, rfl⟩)

/-- A spelling cut short asks for more. -/
theorem short_of_cut {p q : List UInt8} {a : α} (hx : Incremental short x)
    (hread : x (p ++ q) = .ok (a, [])) (hq : q ≠ []) : ∃ e, x p = .error e ∧ short e := by
  rcases hx p q with h | ⟨b, rest, -, hxq⟩ | ⟨e, -, hxq⟩
  · exact h
  · rw [hread] at hxq
    cases hxq' : rest ++ q with
    | nil => exact absurd (List.append_eq_nil_iff.mp hxq').2 hq
    | cons c cs =>
        rw [hxq'] at hxq
        cases hxq
  · rw [hread] at hxq
    cases hxq

end Incremental

/-! ### Streams -/

/-- Items of one size take that size each. -/
theorem length_flatMap_const {enc : α → List UInt8} {size : Nat}
    (h : ∀ a, (enc a).length = size) (as : List α) :
    (as.flatMap enc).length = as.length * size := by
  simp [List.length_flatMap, h]

/-- Every item of a list that was read is one the item reader returned. -/
theorem exists_read_of_mem_items {x : Reader ε α} {n : Nat} {w rest : List UInt8} {as : List α}
    (h : items x n w = .ok (as, rest)) {a : α} (ha : a ∈ as) :
    ∃ w' rest', x w' = .ok (a, rest') := by
  induction n generalizing w as with
  | zero =>
      cases h
      cases ha
  | succ n ih =>
      obtain ⟨b, mid, hb, hrest⟩ := Accepts.bind_eq_ok.mp h
      obtain ⟨bs, mid', hbs, hpure⟩ := Accepts.bind_eq_ok.mp hrest
      cases hpure
      rcases List.mem_cons.mp ha with rfl | hmem
      · exact ⟨w, mid, hb⟩
      · exact ih hbs hmem

/-- **A stream of items is read back item by item.** If every item of a list is
read back from its own spelling whatever follows, reading as many items as were
written returns the list and stops exactly at the bytes after it. -/
theorem items_encodeAll {x : Reader ε α} {enc : α → List UInt8} :
    ∀ (as : List α), (∀ a ∈ as, ∀ rest, x (enc a ++ rest) = .ok (a, rest)) →
      ∀ rest, items x as.length (as.flatMap enc ++ rest) = .ok (as, rest)
  | [], _, _ => rfl
  | a :: as, h, rest => by
      have ih := items_encodeAll as (fun b hb => h b (List.mem_cons_of_mem _ hb)) rest
      have ha := h a List.mem_cons_self (as.flatMap enc ++ rest)
      show (x >>= fun a => items x as.length >>= fun l => pure (a :: l)) _ = _
      rw [List.flatMap_cons, List.append_assoc]
      refine Accepts.bind_eq_ok.mpr ⟨a, _, ha, Accepts.bind_eq_ok.mpr ⟨as, rest, ih, rfl⟩⟩

/-! ### Reading a cut stream -/

/-- Run again and again, `x` returns `as` and then fails with `e`. -/
inductive ReadsUntil (x : Reader ε α) : List UInt8 → List α → ε → Prop where
  | fail {w : List UInt8} {e : ε} (h : x w = .error e) : ReadsUntil x w [] e
  | read {w rest : List UInt8} {a : α} {as : List α} {e : ε} (h : x w = .ok (a, rest))
      (hrest : ReadsUntil x rest as e) : ReadsUntil x w (a :: as) e

/-- Spelled items are read one after the other, up to what is left behind them. -/
theorem ReadsUntil.append {x : Reader ε α} {enc : α → List UInt8} {as : List α}
    (hx : ∀ a ∈ as, ∀ rest, x (enc a ++ rest) = .ok (a, rest)) {left : List UInt8} {e : ε}
    (hleft : x left = .error e) : ReadsUntil x (as.flatMap enc ++ left) as e := by
  induction as with
  | nil => exact .fail hleft
  | cons a as ih =>
      rw [List.flatMap_cons, List.append_assoc]
      exact .read (hx a List.mem_cons_self _) (ih fun b hb => hx b (List.mem_cons_of_mem _ hb))

/-- Where the first `i` items end in the stream, counted in bytes from its beginning. -/
def endOf (enc : α → List UInt8) (as : List α) (i : Nat) : Nat :=
  ((as.take i).flatMap enc).length

theorem endOf_succ (enc : α → List UInt8) {as : List α} {i : Nat} (hi : i < as.length) :
    endOf enc as (i + 1) = endOf enc as i + (enc as[i]).length := by
  rw [endOf, List.take_succ_eq_append_getElem hi, List.flatMap_append, List.length_append,
    List.flatMap_singleton, endOf]

theorem endOf_mono (enc : α → List UInt8) (as : List α) {i j : Nat} (hij : i ≤ j) :
    endOf enc as i ≤ endOf enc as j := by
  obtain ⟨later, hlater⟩ := List.take_prefix_take_left (l := as) hij
  rw [endOf, endOf, ← hlater, List.flatMap_append, List.length_append]
  exact Nat.le_add_right _ _

/-- A stream that stops early stops between two items or inside one. -/
theorem exists_cut {enc : α → List UInt8} {as : List α} {p later : List UInt8}
    (h : p ++ later = as.flatMap enc) :
    ∃ k left, k ≤ as.length ∧ p = (as.take k).flatMap enc ++ left ∧
      (k = as.length → left = []) ∧
      ∀ hk : k < as.length, ∃ missing, missing ≠ [] ∧ enc as[k] = left ++ missing := by
  induction as generalizing p with
  | nil =>
      obtain ⟨rfl, -⟩ := List.append_eq_nil_iff.mp h
      exact ⟨0, [], Nat.le_refl 0, rfl, fun _ => rfl, fun hk => absurd hk (Nat.lt_irrefl 0)⟩
  | cons a as ih =>
      -- once `p` holds the first item, the rest of it is a cut of the rest
      have hwhole : ∀ q, p = enc a ++ q → q ++ later = as.flatMap enc →
          ∃ k left, k ≤ (a :: as).length ∧ p = ((a :: as).take k).flatMap enc ++ left ∧
            (k = (a :: as).length → left = []) ∧ ∀ hk : k < (a :: as).length,
              ∃ missing, missing ≠ [] ∧ enc (a :: as)[k] = left ++ missing := by
        rintro q rfl hq
        obtain ⟨k, left, hk, rfl, hend, hinside⟩ := ih hq
        refine ⟨k + 1, left, Nat.succ_le_succ hk, ?_, fun h => hend (Nat.succ.inj h), ?_⟩
        · rw [List.take_succ_cons, List.flatMap_cons, List.append_assoc]
        · intro hlt
          exact hinside (Nat.lt_of_succ_lt_succ hlt)
      rw [List.flatMap_cons, List.append_eq_append_iff] at h
      rcases h with ⟨missing, hmissing, hlater⟩ | ⟨q, hq, hlater⟩
      · by_cases hnil : missing = []
        · subst hnil
          rw [List.append_nil] at hmissing
          exact hwhole [] (by rw [hmissing, List.append_nil]) hlater
        · exact ⟨0, p, Nat.zero_le _, rfl, fun h => absurd h (by simp),
            fun _ => ⟨missing, hnil, hmissing⟩⟩
      · exact hwhole q hq hlater.symm

/-- The items wholly inside the part that is there are those before the cut. -/
theorem endOf_le_iff {enc : α → List UInt8} {as : List α} {k i : Nat} {left : List UInt8}
    (hinside : ∀ hk : k < as.length, left.length < (enc as[k]).length) (hi : i < as.length) :
    endOf enc as (i + 1) ≤ ((as.take k).flatMap enc ++ left).length ↔ i < k := by
  rw [List.length_append]
  constructor
  · intro hle
    by_contra hge
    have hk : k < as.length := by omega
    have hmono := endOf_mono enc as (Nat.add_le_add_right (Nat.not_lt.mp hge) 1)
    rw [endOf_succ enc hk] at hmono
    have hcut := hinside hk
    unfold endOf at hmono hle
    omega
  · intro hlt
    exact Nat.le_trans (endOf_mono enc as hlt) (Nat.le_add_right _ _)

end ByteReader
