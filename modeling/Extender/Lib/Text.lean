/-
Text as a list of characters: lines, words and numerals.

The splitting functions follow the string functions of the Rust standard library
(`str::lines`, `str::trim`, `str::split_whitespace`, `str::rsplit_once`,
`from_str_radix`), numerals are those of `%u` and `%x` (`Nat.toDigits`), zero-padded to a
width.

* `splitWhitespace_cons`, `splitWhitespace_singleton` — words come back from a line
  in which they are separated by spaces.
* `lines_flatMap` — lines come back from a text in which each ends in a newline.
* `splitOn_eq_pair_iff` — a text in two parts has exactly one separator.
* `rsplitOnce_append` — the part behind the last separator has none.
* `all_ascii_iff`, `fromUTF8_eq_some_iff` — texts and their UTF-8 spellings.
* `valueFrom_toDigits` — what a numeral of one base is worth when it is read in
  another: the number itself iff it is a single digit or the bases agree.
* `fromStrRadix_padded` — the same through the parser, with its overflow check.
* `fromStrRadix_eq_ok_iff` — the parser accepts the numerals (`IsNumeral`) of values below
  its limit, and nothing else, and returns what their digits are worth.
* `map_toLower_eq_iff` — a word compared without regard to ASCII case.
-/

import Mathlib.Data.List.DropRight
import Mathlib.Data.Nat.Digits.Lemmas
import Mathlib.Tactic.Linarith
import Mathlib.Tactic.Ring

namespace Text

/-! ### Lines and words -/

/-- `char::is_whitespace`: the Unicode property `White_Space`. -/
def isWhitespace (c : Char) : Bool :=
  let n := c.toNat
  (9 ≤ n && n ≤ 13) || n == 0x20 || n == 0x85 || n == 0xA0 || n == 0x1680 ||
    (0x2000 ≤ n && n ≤ 0x200A) || n == 0x2028 || n == 0x2029 || n == 0x202F || n == 0x205F ||
    n == 0x3000

/-- `str::trim`. -/
def trim (cs : List Char) : List Char := (cs.dropWhile isWhitespace).rdropWhile isWhitespace

/-- `str::split_whitespace`: the non-empty pieces between whitespace. -/
def splitWhitespace (cs : List Char) : List (List Char) :=
  (cs.splitOnP isWhitespace).filter (fun w => !w.isEmpty)

/-- Strip one trailing carriage return, as `str::lines` does before a line feed. -/
def stripCr (cs : List Char) : List Char :=
  if cs.getLast? = some '\r' then cs.dropLast else cs

/-- `str::lines`: a line ends in a line feed or a carriage return and a line feed; the
last line may lack it, and is not a line when empty. -/
def lines (cs : List Char) : List (List Char) :=
  let parts := cs.splitOnP (· == '\n')
  parts.dropLast.map stripCr ++ (parts.getLast?.toList.filter fun l => !l.isEmpty)

/-- A non-empty run of characters without whitespace. -/
def IsWord (w : List Char) : Prop := w ≠ [] ∧ ∀ c ∈ w, isWhitespace c = false

instance : DecidablePred IsWord := fun w =>
  have := List.decidableBAll (fun c => isWhitespace c = false) w
  inferInstanceAs (Decidable (_ ∧ _))

theorem IsWord.filter_cons {w : List Char} (h : IsWord w) (ws : List (List Char)) :
    (w :: ws).filter (fun w => !w.isEmpty) = w :: ws.filter (fun w => !w.isEmpty) := by
  simp [h.1]

/-- A word in front of a space is the first word. -/
theorem splitWhitespace_cons {w : List Char} (h : IsWord w) (cs : List Char) :
    splitWhitespace (w ++ ' ' :: cs) = w :: splitWhitespace cs := by
  rw [splitWhitespace, List.splitOnP_append_cons_of_forall_mem h.2 ' ' (by decide) cs,
    h.filter_cons, splitWhitespace]

/-- Further spaces change nothing. -/
theorem splitWhitespace_space (cs : List Char) :
    splitWhitespace (' ' :: cs) = splitWhitespace cs := by
  rw [splitWhitespace, ← List.nil_append (' ' :: cs),
    List.splitOnP_append_cons_of_forall_mem (by simp) ' ' (by decide) cs]
  rfl

theorem splitWhitespace_singleton {w : List Char} (h : IsWord w) : splitWhitespace w = [w] := by
  rw [splitWhitespace, List.splitOnP_eq_singleton h.2, h.filter_cons, List.filter_nil]

/-- Nothing is dropped in front of a word. -/
theorem dropWhile_word {v : List Char} (hv : IsWord v) (cs : List Char) :
    (v ++ cs).dropWhile isWhitespace = v ++ cs := by
  obtain ⟨c, v', rfl⟩ := List.exists_cons_of_ne_nil hv.1
  have hc := hv.2 c List.mem_cons_self
  rw [List.cons_append, List.dropWhile_cons_of_neg (by simp [hc])]

/-- Nothing is dropped behind a word. -/
theorem rdropWhile_word {w : List Char} (hw : IsWord w) (cs : List Char) :
    (cs ++ w).rdropWhile isWhitespace = cs ++ w := by
  rw [List.rdropWhile_eq_self_iff]
  intro hne
  rw [List.getLast_append_of_ne_nil hne hw.1]
  simp [hw.2 _ (List.getLast_mem hw.1)]

/-- A line that starts and ends with a word is already trimmed. -/
theorem trim_words {v w : List Char} (hv : IsWord v) (hw : IsWord w) (cs : List Char) :
    trim (v ++ (cs ++ w)) = v ++ (cs ++ w) := by
  rw [trim, dropWhile_word hv, ← List.append_assoc, rdropWhile_word hw]

/-- Trimming keeps a word at the front where it is. -/
theorem isPrefix_trim {v : List Char} (hv : IsWord v) (cs : List Char) :
    v <+: trim (v ++ cs) := by
  rw [trim, dropWhile_word hv]
  induction cs using List.reverseRecOn with
  | nil =>
      have hsame := rdropWhile_word hv []
      rw [List.nil_append] at hsame
      exact ⟨[], by rw [List.append_nil, hsame]⟩
  | append_singleton cs c ih =>
      rw [← List.append_assoc, List.rdropWhile_concat]
      split
      · exact ih
      · rw [List.append_assoc]
        exact List.prefix_append _ _

/-- Lines that each end in a line feed are read back one by one. -/
theorem lines_flatMap (ls : List (List Char)) (h : ∀ l ∈ ls, '\n' ∉ l) :
    lines (ls.flatMap fun l => l ++ ['\n']) = ls.map stripCr := by
  have hsplit : (ls.flatMap fun l => l ++ ['\n']).splitOnP (· == '\n') = ls ++ [[]] := by
    induction ls with
    | nil => rfl
    | cons l ls ih =>
        have hl : ∀ c ∈ l, (c == '\n') = false := by
          intro c hc
          rw [beq_eq_false_iff_ne]
          rintro rfl
          exact h l List.mem_cons_self hc
        rw [List.flatMap_cons, List.append_assoc, List.singleton_append,
          List.splitOnP_append_cons_of_forall_mem hl '\n' rfl,
          ih fun l hl => h l (List.mem_cons_of_mem _ hl), List.cons_append]
  rw [lines, hsplit]
  simp

/-- A text splits into two parts iff it has exactly one separator, between them. -/
theorem splitOn_eq_pair_iff {cs before after : List Char} {sep : Char} :
    cs.splitOn sep = [before, after] ↔
      cs = before ++ sep :: after ∧ sep ∉ before ∧ sep ∉ after := by
  constructor
  · intro h
    have hcs : cs = before ++ sep :: after := by
      calc cs = [sep].intercalate (cs.splitOn sep) := (List.intercalate_splitOn sep).symm
        _ = before ++ sep :: after := by
          rw [h, List.intercalate_cons_cons, List.intercalate_singleton, List.append_assoc,
            List.singleton_append]
    have hbefore : sep ∉ before := by
      intro hmem
      obtain ⟨front, back, rfl, hfront⟩ := List.eq_append_cons_of_mem hmem
      rw [hcs, List.append_assoc, List.cons_append,
        List.splitOn_append_cons_self_of_not_mem hfront, List.cons.injEq] at h
      have hlength := congrArg List.length h.1
      rw [List.length_append, List.length_cons] at hlength
      omega
    refine ⟨hcs, hbefore, ?_⟩
    intro hmem
    obtain ⟨front, back, rfl, hfront⟩ := List.eq_append_cons_of_mem hmem
    rw [hcs, List.splitOn_append_cons_self_of_not_mem hbefore,
      List.splitOn_append_cons_self_of_not_mem hfront, List.cons.injEq, List.cons.injEq] at h
    exact List.splitOn_ne_nil sep back h.2.2
  · rintro ⟨rfl, hbefore, hafter⟩
    rw [List.splitOn_append_cons_self_of_not_mem hbefore, List.splitOn_eq_singleton hafter]

/-- `str::rsplit_once`: what stands before the last separator and behind it. -/
def rsplitOnce (sep : Char) (cs : List Char) : Option (List Char × List Char) :=
  match cs.rdropWhile (· != sep) with
  | [] => none
  | c :: front => some ((c :: front).dropLast, cs.rtakeWhile (· != sep))

theorem rsplitOnce_append {sep : Char} {after : List Char} (h : sep ∉ after)
    (before : List Char) : rsplitOnce sep (before ++ sep :: after) = some (before, after) := by
  have hne : ∀ c ∈ after.reverse, (c != sep) = true := by
    intro c hc
    rw [bne_iff_ne]
    rintro rfl
    exact h (List.mem_reverse.mp hc)
  have hrev : (before ++ sep :: after).reverse = after.reverse ++ sep :: before.reverse := by
    rw [List.reverse_append, List.reverse_cons, List.append_assoc, List.singleton_append]
  have hdrop : (before ++ sep :: after).rdropWhile (· != sep) = before ++ [sep] := by
    unfold List.rdropWhile
    rw [hrev, List.dropWhile_append_of_pos hne, List.dropWhile_cons_of_neg (by simp),
      List.reverse_cons, List.reverse_reverse]
  have htake : (before ++ sep :: after).rtakeWhile (· != sep) = after := by
    unfold List.rtakeWhile
    rw [hrev, List.takeWhile_append_of_pos hne, List.takeWhile_cons_of_neg (by simp),
      List.append_nil, List.reverse_reverse]
  unfold rsplitOnce
  rw [hdrop, htake]
  cases before with
  | nil => rfl
  | cons c before =>
      show some (((c :: before) ++ [sep]).dropLast, after) = _
      rw [List.dropLast_concat]

/-! ### ASCII -/

theorem utf8EncodeChar_ascii {c : Char} (h : c.toNat < 128) :
    String.utf8EncodeChar c = [UInt8.ofNat c.toNat] := by
  apply String.utf8EncodeChar_eq_singleton
  rw [Char.utf8Size_eq_one_iff, UInt32.le_iff_toNat_le]
  exact Nat.le_of_lt_succ h

/-- A character beyond ASCII is spelled with bytes beyond ASCII. -/
theorem exists_nonAscii_byte {c : Char} (h : ¬ c.toNat < 128) :
    ∃ b ∈ String.utf8EncodeChar c, ¬ b < 128 := by
  have hbyte : ∀ n, 128 ≤ n → n < 256 → ¬ UInt8.ofNat n < 128 := by
    intro n hlow hhigh
    rw [UInt8.lt_iff_toNat_lt, UInt8.toNat_ofNat', Nat.mod_eq_of_lt hhigh]
    exact Nat.not_lt.mpr hlow
  fun_cases String.utf8EncodeChar
  case case1 v hle => exact absurd (Nat.lt_succ_of_le hle) h
  all_goals exact ⟨_, List.mem_cons_self, hbyte _ (by omega) (by omega)⟩

/-- ASCII text is its own spelling. -/
theorem flatMap_utf8EncodeChar_ascii {cs : List Char} (h : ∀ c ∈ cs, c.toNat < 128) :
    cs.flatMap String.utf8EncodeChar = cs.map (fun c => UInt8.ofNat c.toNat) := by
  induction cs with
  | nil => rfl
  | cons c cs ih =>
      rw [List.flatMap_cons, utf8EncodeChar_ascii (h c List.mem_cons_self),
        ih fun c hc => h c (List.mem_cons_of_mem _ hc)]
      rfl

/-- The bytes of a text are ASCII iff its characters are. -/
theorem all_ascii_iff (cs : List Char) :
    ((cs.flatMap String.utf8EncodeChar).all fun b => b < 128) = true ↔
      ∀ c ∈ cs, c.toNat < 128 := by
  rw [List.all_eq_true]
  constructor
  · intro h c hc
    by_contra hbig
    obtain ⟨b, hb, hnot⟩ := exists_nonAscii_byte hbig
    exact hnot (of_decide_eq_true (h b (List.mem_flatMap.mpr ⟨c, hc, hb⟩)))
  · intro h b hb
    rw [flatMap_utf8EncodeChar_ascii h] at hb
    obtain ⟨c, hc, rfl⟩ := List.mem_map.mp hb
    rw [decide_eq_true_eq, UInt8.lt_iff_toNat_lt, UInt8.toNat_ofNat']
    exact Nat.lt_of_le_of_lt (Nat.mod_le _ _) (h c hc)

/-- Only the spelling of a string is read as that string. -/
theorem fromUTF8_eq_some_iff (bytes : List UInt8) (s : String) :
    String.fromUTF8? bytes.toByteArray = some s ↔
      bytes = s.toList.flatMap String.utf8EncodeChar := by
  have hspell : (s.toList.flatMap String.utf8EncodeChar).toByteArray = s.toByteArray := by
    calc (s.toList.flatMap String.utf8EncodeChar).toByteArray
        = (String.ofList s.toList).toByteArray := String.toByteArray_ofList.symm
      _ = s.toByteArray := by rw [String.ofList_toList]
  constructor
  · intro h
    unfold String.fromUTF8? at h
    split at h
    · cases h
      apply List.toByteArray_inj.mp
      rw [hspell]
      rfl
    · cases h
  · rintro rfl
    rw [hspell, String.fromUTF8?, dif_pos s.isValidUTF8]
    rfl

/-- A letter in lower case is the lower case of itself and of its capital, and of nothing
else. -/
theorem toLower_eq_iff (c : Char) {letter : Char}
    (h : 'a'.val ≤ letter.val ∧ letter.val ≤ 'z'.val) :
    c.toLower = letter ↔ c = letter ∨ c = letter.toUpper := by
  have hlow : 97 ≤ letter.val.toNat := UInt32.le_iff_toNat_le.mp h.1
  have hhigh : letter.val.toNat ≤ 122 := UInt32.le_iff_toNat_le.mp h.2
  have hupper : letter.toUpper.val.toNat = letter.val.toNat - 32 := by
    unfold Char.toUpper
    rw [dif_pos h]
    show (letter.val + _).toNat = _
    rw [UInt32.toNat_add]
    show (letter.val.toNat + 4294967264) % 2 ^ 32 = _
    omega
  have hcapital : (c.val ≥ 'A'.val ∧ c.val ≤ 'Z'.val) ↔ 65 ≤ c.val.toNat ∧ c.val.toNat ≤ 90 :=
    and_congr UInt32.le_iff_toNat_le UInt32.le_iff_toNat_le
  have hlower : c.toLower.val.toNat =
      if 65 ≤ c.val.toNat ∧ c.val.toNat ≤ 90 then c.val.toNat + 32 else c.val.toNat := by
    unfold Char.toLower
    by_cases hc : c.val ≥ 'A'.val ∧ c.val ≤ 'Z'.val
    · have hrange := hcapital.mp hc
      rw [dif_pos hc, if_pos hrange]
      show (c.val + _).toNat = _
      rw [UInt32.toNat_add]
      show (c.val.toNat + 32) % 2 ^ 32 = _
      omega
    · rw [dif_neg hc, if_neg (fun h => hc (hcapital.mpr h))]
  rw [Char.ext_iff, Char.ext_iff, Char.ext_iff, ← UInt32.toNat_inj, ← UInt32.toNat_inj,
    ← UInt32.toNat_inj, hlower, hupper]
  split <;> omega

/-- A text in lower case is a word exactly when it spells the word letter by letter, each in
either case. -/
theorem map_toLower_eq_iff {word : List Char}
    (h : ∀ letter ∈ word, 'a'.val ≤ letter.val ∧ letter.val ≤ 'z'.val) (cs : List Char) :
    cs.map Char.toLower = word ↔
      List.Forall₂ (fun c letter => c = letter ∨ c = letter.toUpper) cs word := by
  induction word generalizing cs with
  | nil => rw [List.map_eq_nil_iff, List.forall₂_nil_right_iff]
  | cons letter word ih =>
      cases cs with
      | nil => simp
      | cons c cs =>
          rw [List.map_cons, List.cons.injEq, List.forall₂_cons,
            toLower_eq_iff c (h letter List.mem_cons_self),
            ih fun l hl => h l (List.mem_cons_of_mem _ hl)]

/-! ### Numerals -/

/-- Zero-padded to at least `width` characters. -/
def padded (width : Nat) (cs : List Char) : List Char :=
  List.replicate (width - cs.length) '0' ++ cs

/-- `char::to_digit`. -/
def toDigit (radix : Nat) (c : Char) : Option Nat :=
  let digit :=
    if '0' ≤ c ∧ c ≤ '9' then some (c.toNat - '0'.toNat)
    else if 'a' ≤ c ∧ c ≤ 'z' then some (c.toNat - 'a'.toNat + 10)
    else if 'A' ≤ c ∧ c ≤ 'Z' then some (c.toNat - 'A'.toNat + 10)
    else none
  digit.filter (· < radix)

inductive ParseIntError where
  | empty
  | invalidDigit
  | posOverflow
deriving DecidableEq, Repr

/-- The digit loop of `from_str_radix` over an unsigned type with values below
`limit`. -/
def accumulate (radix limit : Nat) : Nat → List Char → Except ParseIntError Nat
  | acc, [] => .ok acc
  | acc, c :: cs =>
    match toDigit radix c with
    | none => .error .invalidDigit
    | some d =>
      if acc * radix + d < limit then accumulate radix limit (acc * radix + d) cs
      else .error .posOverflow

/-- `from_str_radix` of an unsigned type: one leading plus sign is allowed, if a digit
follows. -/
def fromStrRadix (radix limit : Nat) : List Char → Except ParseIntError Nat
  | [] => .error .empty
  | '+' :: [] => .error .invalidDigit
  | '+' :: cs => accumulate radix limit 0 cs
  | cs => accumulate radix limit 0 cs

/-- The value of a digit string behind `acc`, without a limit. -/
def valueFrom (radix : Nat) : Nat → List Char → Option Nat
  | acc, [] => some acc
  | acc, c :: cs => (toDigit radix c).bind fun d => valueFrom radix (acc * radix + d) cs

/-- `cs` is a numeral of base `radix` worth `n`: at least one digit, the most significant
first, behind at most one plus sign. -/
def IsNumeral (radix : Nat) (cs : List Char) (n : Nat) : Prop :=
  ∃ digits : List Nat, digits ≠ [] ∧ n = Nat.ofDigits radix digits.reverse ∧
    ∃ spelled, (cs = spelled ∨ cs = '+' :: spelled) ∧
      List.Forall₂ (fun c d => toDigit radix c = some d) spelled digits

theorem valueFrom_append (radix : Nat) (xs ys : List Char) (acc : Nat) :
    valueFrom radix acc (xs ++ ys) =
      (valueFrom radix acc xs).bind fun v => valueFrom radix v ys := by
  induction xs generalizing acc with
  | nil => rfl
  | cons c xs ih =>
      simp only [List.cons_append, valueFrom]
      cases toDigit radix c with
      | none => rfl
      | some d => exact ih _

theorem le_valueFrom {radix : Nat} (hr : 0 < radix) {cs : List Char} {acc v : Nat}
    (h : valueFrom radix acc cs = some v) : acc ≤ v := by
  induction cs generalizing acc with
  | nil =>
      cases h
      exact Nat.le_refl _
  | cons c cs ih =>
      obtain ⟨d, -, hrest⟩ := Option.bind_eq_some_iff.mp h
      have hle := ih hrest
      have : acc ≤ acc * radix := Nat.le_mul_of_pos_right _ hr
      omega

/-- A digit written in front counts with its place. -/
theorem ofDigits_reverse_cons (radix d : Nat) (digits : List Nat) :
    Nat.ofDigits radix (d :: digits).reverse =
      Nat.ofDigits radix digits.reverse + radix ^ digits.length * d := by
  rw [List.reverse_cons, Nat.ofDigits_append, Nat.ofDigits_singleton, List.length_reverse]

/-- The digits behind `acc` are worth their own value and that of `acc` in front of them. -/
theorem valueFrom_eq_some_iff {radix : Nat} {cs : List Char} {acc v : Nat} :
    valueFrom radix acc cs = some v ↔
      ∃ digits, List.Forall₂ (fun c d => toDigit radix c = some d) cs digits ∧
        v = Nat.ofDigits radix digits.reverse + radix ^ digits.length * acc := by
  induction cs generalizing acc with
  | nil => simp [valueFrom, eq_comm]
  | cons c cs ih =>
      have hshift : ∀ (d : Nat) (digits : List Nat),
          Nat.ofDigits radix digits.reverse + radix ^ digits.length * (acc * radix + d) =
            Nat.ofDigits radix (d :: digits).reverse + radix ^ (d :: digits).length * acc := by
        intro d digits
        rw [ofDigits_reverse_cons, List.length_cons, pow_succ]
        ring
      rw [valueFrom, Option.bind_eq_some_iff]
      constructor
      · rintro ⟨d, hd, hrest⟩
        obtain ⟨digits, hdigits, rfl⟩ := ih.mp hrest
        exact ⟨d :: digits, .cons hd hdigits, hshift d digits⟩
      · rintro ⟨_, hdigits, rfl⟩
        cases hdigits with
        | cons hd hdigits => exact ⟨_, hd, ih.mpr ⟨_, hdigits, (hshift _ _).symm⟩⟩

/-- The loop returns the value of the digits unless it reaches the limit. -/
theorem accumulate_eq {radix limit : Nat} (hr : 0 < radix) {cs : List Char} {acc v : Nat}
    (hacc : acc < limit) (h : valueFrom radix acc cs = some v) :
    accumulate radix limit acc cs = if v < limit then .ok v else .error .posOverflow := by
  induction cs generalizing acc with
  | nil =>
      cases h
      rw [accumulate, if_pos hacc]
  | cons c cs ih =>
      obtain ⟨d, hd, hrest⟩ := Option.bind_eq_some_iff.mp h
      have hle := le_valueFrom hr hrest
      simp only [accumulate, hd]
      by_cases hnext : acc * radix + d < limit
      · rw [if_pos hnext]
        exact ih hnext hrest
      · rw [if_neg hnext, if_neg (by omega)]

/-- The loop returns a value exactly when the digits are worth it and it fits. -/
theorem accumulate_eq_ok_iff {radix limit : Nat} (hr : 0 < radix) {cs : List Char} {acc v : Nat}
    (hacc : acc < limit) :
    accumulate radix limit acc cs = .ok v ↔ valueFrom radix acc cs = some v ∧ v < limit := by
  cases hvalue : valueFrom radix acc cs with
  | some w =>
      rw [accumulate_eq hr hacc hvalue]
      by_cases hw : w < limit
      · rw [if_pos hw]
        simp only [Except.ok.injEq, Option.some.injEq]
        exact ⟨fun h => ⟨h, h ▸ hw⟩, And.left⟩
      · rw [if_neg hw]
        simp only [reduceCtorEq, Option.some.injEq, false_iff, not_and]
        exact fun h => h ▸ hw
  | none =>
      refine iff_of_false ?_ (fun h => nomatch h.1)
      induction cs generalizing acc with
      | nil => cases hvalue
      | cons c cs ih =>
          intro h
          simp only [accumulate] at h
          simp only [valueFrom] at hvalue
          split at h
          · cases h
          · rename_i d hd
            rw [hd, Option.bind_some] at hvalue
            split at h
            · rename_i hlt
              exact ih hlt hvalue h
            · cases h

/-- A digit character is worth its digit in every base that has it. -/
theorem toDigit_digitChar {radix d : Nat} (hd : d < 16) (hr : d < radix) :
    toDigit radix (Nat.digitChar d) = some d := by
  have hvalue : ∀ d < 16, (toDigit 16 (Nat.digitChar d)) = some d := by decide
  have h := hvalue d hd
  unfold toDigit at h ⊢
  rw [Option.filter_eq_some_iff] at h ⊢
  exact ⟨h.1, by simpa using hr⟩

/-- **A numeral read in another base.** The digits of `n` in base `b`, read in a base
at least as large, are worth at least `n`, and exactly `n` iff `n` is a single digit or
the bases are the same. -/
theorem valueFrom_toDigits {b radix : Nat} (hb : 2 ≤ b) (hle : b ≤ radix) (h16 : radix ≤ 16)
    (n : Nat) :
    ∃ v, valueFrom radix 0 (Nat.toDigits b n) = some v ∧ n ≤ v ∧ (v = n ↔ n < b ∨ b = radix) := by
  induction n using Nat.strongRecOn with
  | ind n ih =>
      by_cases hn : n < b
      · refine ⟨n, ?_, Nat.le_refl n, by simp [hn]⟩
        rw [Nat.toDigits_of_lt_base hn]
        simp [valueFrom, toDigit_digitChar (by omega : n < 16) (by omega : n < radix)]
      · have hdigit : n % b < b := Nat.mod_lt _ (by omega)
        obtain ⟨v, hv, hge, hiff⟩ := ih (n / b) (Nat.div_lt_self (by omega) (by omega))
        have hsplit : b * (n / b) + n % b = n := Nat.div_add_mod n b
        have hpos : 0 < n / b := Nat.div_pos (by omega) (by omega)
        refine ⟨v * radix + n % b, ?_, ?_, ?_⟩
        · rw [Nat.toDigits_of_base_le (by omega) (by omega), valueFrom_append, hv]
          simp [valueFrom, toDigit_digitChar (by omega : n % b < 16) (by omega : n % b < radix)]
        · have : b * (n / b) ≤ v * radix := by
            rw [Nat.mul_comm b]
            exact Nat.mul_le_mul hge hle
          omega
        · constructor
          · intro heq
            right
            by_contra hne
            have hlt : b * (n / b) < v * radix :=
              calc b * (n / b) < radix * (n / b) :=
                    Nat.mul_lt_mul_of_pos_right (by omega) hpos
                _ = (n / b) * radix := Nat.mul_comm _ _
                _ ≤ v * radix := Nat.mul_le_mul_right _ hge
            omega
          · rintro (hlt | rfl)
            · exact absurd hlt hn
            · rw [hiff.mpr (Or.inr rfl), Nat.mul_comm]
              exact hsplit

/-- A numeral is worth its number. -/
theorem valueFrom_toDigits_self (n : Nat) : valueFrom 10 0 (Nat.toDigits 10 n) = some n := by
  obtain ⟨v, hv, -, hiff⟩ := valueFrom_toDigits (by decide : 2 ≤ 10) (Nat.le_refl 10) (by decide) n
  rw [hv, hiff.mpr (Or.inr rfl)]

/-- Leading zeros are worth nothing. -/
theorem valueFrom_zeros {radix : Nat} (hr : 0 < radix) (k : Nat) (cs : List Char) :
    valueFrom radix 0 (List.replicate k '0' ++ cs) = valueFrom radix 0 cs := by
  induction k with
  | zero => rfl
  | succ k ih =>
      have hzero : toDigit radix '0' = some 0 := toDigit_digitChar (d := 0) (by decide) hr
      simp only [List.replicate_succ, List.cons_append, valueFrom, hzero, Option.bind_some,
        Nat.zero_mul, Nat.add_zero]
      exact ih

/-- A digit of a numeral is a digit character. -/
theorem exists_digit_of_mem_toDigits {b : Nat} (hb : 2 ≤ b) {n : Nat} {c : Char}
    (h : c ∈ Nat.toDigits b n) : ∃ d < b, c = Nat.digitChar d := by
  induction n using Nat.strongRecOn with
  | ind n ih =>
      by_cases hn : n < b
      · rw [Nat.toDigits_of_lt_base hn, List.mem_singleton] at h
        exact ⟨n, hn, h⟩
      · rw [Nat.toDigits_of_base_le (by omega) (by omega), List.mem_append,
          List.mem_singleton] at h
        rcases h with h | h
        · exact ih (n / b) (Nat.div_lt_self (by omega) (by omega)) h
        · exact ⟨n % b, Nat.mod_lt _ (by omega), h⟩

/-- A padded numeral is made of digit characters. -/
theorem exists_digit_of_mem_padded {b : Nat} (hb : 2 ≤ b) {width n : Nat} {c : Char}
    (h : c ∈ padded width (Nat.toDigits b n)) : ∃ d < b, c = Nat.digitChar d := by
  rcases List.mem_append.mp h with h | h
  · exact ⟨0, by omega, List.eq_of_mem_replicate h⟩
  · exact exists_digit_of_mem_toDigits hb h

/-- A padded numeral is one word. -/
theorem isWord_padded {b : Nat} (hb : 2 ≤ b) (h16 : b ≤ 16) (width n : Nat) :
    IsWord (padded width (Nat.toDigits b n)) := by
  constructor
  · intro h
    exact Nat.toDigits_ne_nil (List.append_eq_nil_iff.mp h).2
  · intro c hc
    obtain ⟨d, hd, rfl⟩ := exists_digit_of_mem_padded hb hc
    have hall : ∀ d < 16, isWhitespace (Nat.digitChar d) = false := by decide
    exact hall d (by omega)

/-- Without a leading plus sign the parser is the digit loop. -/
theorem fromStrRadix_eq_accumulate {radix limit : Nat} {cs : List Char} (hne : cs ≠ [])
    (hplus : '+' ∉ cs) : fromStrRadix radix limit cs = accumulate radix limit 0 cs := by
  cases cs with
  | nil => exact absurd rfl hne
  | cons c cs =>
      have hc : c ≠ '+' := fun h => hplus (h ▸ List.mem_cons_self)
      unfold fromStrRadix
      split
      · cases ‹_ = _›
      · rename_i heq
        cases heq
        exact absurd rfl hc
      · rename_i heq
        cases heq
        exact absurd rfl hc
      · rfl

theorem accumulate_lt {radix limit : Nat} {cs : List Char} {acc v : Nat} (hacc : acc < limit)
    (h : accumulate radix limit acc cs = .ok v) : v < limit := by
  induction cs generalizing acc with
  | nil =>
      cases h
      exact hacc
  | cons c cs ih =>
      unfold accumulate at h
      split at h
      · cases h
      · split at h
        · rename_i hlt
          exact ih hlt h
        · cases h

/-- What the parser returns is a value of its type. -/
theorem fromStrRadix_lt {radix limit : Nat} (hpos : 0 < limit) {cs : List Char} {v : Nat}
    (h : fromStrRadix radix limit cs = .ok v) : v < limit := by
  unfold fromStrRadix at h
  split at h
  · cases h
  · cases h
  · exact accumulate_lt hpos h
  · exact accumulate_lt hpos h

/-- A plus sign is no digit. -/
theorem toDigit_plus (radix : Nat) : toDigit radix '+' = none := rfl

/-- Digits without a plus sign in front are a numeral of their value. -/
theorem isNumeral_iff_valueFrom {radix : Nat} {cs : List Char} {n : Nat} (hne : cs ≠ [])
    (hplus : ∀ rest, cs ≠ '+' :: rest) :
    IsNumeral radix cs n ↔ valueFrom radix 0 cs = some n := by
  rw [valueFrom_eq_some_iff]
  constructor
  · rintro ⟨digits, hdigits, hn, spelled, rfl | rfl, hspelled⟩
    · exact ⟨digits, hspelled, by rw [hn, Nat.mul_zero, Nat.add_zero]⟩
    · exact absurd rfl (hplus spelled)
  · rintro ⟨digits, hspelled, hn⟩
    refine ⟨digits, ?_, by rw [hn, Nat.mul_zero, Nat.add_zero], cs, .inl rfl, hspelled⟩
    rintro rfl
    cases hspelled
    exact hne rfl

/-- Behind a plus sign the digits decide. -/
theorem isNumeral_plus_iff {radix : Nat} {cs : List Char} {n : Nat} :
    IsNumeral radix ('+' :: cs) n ↔ cs ≠ [] ∧ valueFrom radix 0 cs = some n := by
  rw [valueFrom_eq_some_iff]
  constructor
  · rintro ⟨digits, hdigits, hn, spelled, rfl | heq, hspelled⟩
    · cases hspelled with
      | cons hd _ => cases hd
    · cases heq
      refine ⟨?_, digits, hspelled, by rw [hn, Nat.mul_zero, Nat.add_zero]⟩
      rintro rfl
      cases hspelled
      exact hdigits rfl
  · rintro ⟨hne, digits, hspelled, hn⟩
    refine ⟨digits, ?_, by rw [hn, Nat.mul_zero, Nat.add_zero], cs, .inr rfl, hspelled⟩
    rintro rfl
    cases hspelled
    exact hne rfl

/-- **The parser.** It accepts exactly the numerals of values of its type, and returns what
they are worth. -/
theorem fromStrRadix_eq_ok_iff {radix limit : Nat} (hr : 0 < radix) (hpos : 0 < limit)
    {cs : List Char} {n : Nat} :
    fromStrRadix radix limit cs = .ok n ↔ IsNumeral radix cs n ∧ n < limit := by
  fun_cases fromStrRadix radix limit cs with
  | case1 =>
      refine iff_of_false nofun ?_
      rintro ⟨⟨digits, hne, -, spelled, rfl | heq, hspelled⟩, -⟩
      · cases hspelled
        exact hne rfl
      · cases heq
  | case2 =>
      rw [isNumeral_plus_iff]
      exact iff_of_false nofun fun h => h.1.1 rfl
  | case3 cs hne =>
      rw [isNumeral_plus_iff, accumulate_eq_ok_iff hr hpos]
      exact and_congr_left fun _ => (and_iff_right fun h => hne (by rw [h])).symm
  | case4 cs hne hlone hplus =>
      rw [isNumeral_iff_valueFrom hne hplus, accumulate_eq_ok_iff hr hpos]

/-- **A padded numeral through the parser.** It is read as `n` iff `n` is a single
digit of its base or the parser's base is the numeral's. -/
theorem fromStrRadix_padded {b radix limit : Nat} (hb : 2 ≤ b) (hle : b ≤ radix)
    (h16 : radix ≤ 16) (width : Nat) {n : Nat} (hn : n < limit) :
    fromStrRadix radix limit (padded width (Nat.toDigits b n)) = .ok n ↔ n < b ∨ b = radix := by
  obtain ⟨v, hv, -, hiff⟩ := valueFrom_toDigits hb hle h16 n
  have hplus : '+' ∉ padded width (Nat.toDigits b n) := by
    intro hmem
    obtain ⟨d, hd, heq⟩ := exists_digit_of_mem_padded hb hmem
    have hall : ∀ d < 16, '+' ≠ Nat.digitChar d := by decide
    exact hall d (by omega) heq
  have hvalue : valueFrom radix 0 (padded width (Nat.toDigits b n)) = some v :=
    (valueFrom_zeros (by omega) _ _).trans hv
  rw [fromStrRadix_eq_accumulate (isWord_padded hb (by omega) width n).1 hplus,
    accumulate_eq (by omega) (by omega) hvalue, ← hiff]
  constructor
  · intro h
    split at h
    · cases h
      rfl
    · cases h
  · rintro rfl
    rw [if_pos hn]

end Text
