/-
Bus ids on their way through the two crates.

Enumeration prints a bus id (`format_bus_id`), `busid_from_str` puts it into a 32-byte field,
`busid_string` and `extract_bus_id` read it back, and `is_valid_bus_id` decides whether a
request to import it is looked up at all. Each of the five is code of its own, and a device
can be imported only if they agree on its name.

The validity check is documented by a pattern, `[0-9]+-[0-9]+(\.[0-9]+)*`, and implemented by
splitting. The pattern is taken for a regular expression over characters (Mathlib's), and the
two are compared through the lists of digit groups both describe.

* `Travels` — the strings that survive the field: at most 31 ASCII characters, none of them
  NUL. `busidFromStr_of_travels` and `travels_of_busidString` are the two directions.
* `formatBusId_toList` — the printed form as characters: digits, a dash, digit groups between
  dots.
* `isValidBusId_iff_matches` — the validity check decides the language of `busIdPattern`, on
  every string.
* `busId_pipeline` — a printed bus id is valid, travels, and is the key an import request for
  it looks up; without port zero, it names one topology. The bound of seven ports is that of
  USB, and is what makes the longest id fit.
-/

import Extender.Lib.Separated
import Extender.Lib.Text
import Extender.Server.Connection
import Mathlib.Tactic.IntervalCases

namespace Extender.Server

open BigEndian Extender.Protocol

/-! ### Strings in the field -/

/-- `s` survives the 32-byte field: it fits with a NUL behind it, is ASCII and has no
NUL of its own. -/
def Travels (s : String) : Prop :=
  (strBytes s).length < busidSize ∧ (∀ c ∈ s.toList, c.toNat < 128) ∧ (0 : UInt8) ∉ strBytes s

instance (s : String) : Decidable (Travels s) :=
  have := List.decidableBAll (fun c : Char => c.toNat < 128) s.toList
  inferInstanceAs (Decidable (_ ∧ _ ∧ _))

/-- The field is written for every short ASCII string, NUL or not; a NUL inside the text cuts
it when it is read. -/
theorem busidFromStr_eq_ok_iff (s : String) (field : BusId) :
    busidFromStr s = .ok field ↔
      (strBytes s).length < busidSize ∧ (∀ c ∈ s.toList, c.toNat < 128) ∧
        field.val = strBytes s ++ List.replicate (busidSize - (strBytes s).length) 0 := by
  have hascii := Text.all_ascii_iff s.toList
  rw [← strBytes] at hascii
  unfold busidFromStr
  by_cases hlong : (strBytes s).length ≥ busidSize
  · rw [dif_pos hlong]
    constructor
    · intro h
      cases h
    · rintro ⟨hshort, -, -⟩
      exact absurd hshort (Nat.not_lt.mpr hlong)
  · rw [dif_neg hlong]
    by_cases hall : ∀ c ∈ s.toList, c.toNat < 128
    · rw [if_neg (not_not.mpr (hascii.mpr hall)), Except.ok.injEq, Subtype.ext_iff]
      constructor
      · intro h
        exact ⟨Nat.lt_of_not_le hlong, hall, h.symm⟩
      · rintro ⟨-, -, h⟩
        exact h.symm
    · rw [if_pos (mt hascii.mp hall)]
      constructor
      · intro h
        cases h
      · rintro ⟨-, h, -⟩
        exact absurd h hall

theorem fromUtf8_eq_some_iff (bytes : List UInt8) (s : String) :
    fromUtf8 bytes = some s ↔ bytes = strBytes s :=
  Text.fromUTF8_eq_some_iff bytes s

/-- Up to the first NUL, a field without one in its text is the text. -/
theorem takeWhile_field {bytes : List UInt8} (h : (0 : UInt8) ∉ bytes) (k : Nat) :
    (bytes ++ List.replicate k 0).takeWhile (fun b => decide (b ≠ 0)) = bytes := by
  rw [List.takeWhile_append_of_pos]
  · cases k with
    | zero => simp
    | succ k => simp [List.replicate_succ]
  · intro b hb
    rw [decide_eq_true_eq]
    rintro rfl
    exact h hb

theorem decodeLossyChars_ascii {cs : List Char} (h : ∀ c ∈ cs, c.toNat < 128) :
    decodeLossyChars cs.length (cs.map fun c => UInt8.ofNat c.toNat) = cs := by
  induction cs with
  | nil => rfl
  | cons c cs ih =>
      have hc := h c List.mem_cons_self
      have hbyte : (UInt8.ofNat c.toNat).toNat = c.toNat := by
        rw [UInt8.toNat_ofNat', Nat.mod_eq_of_lt (by omega)]
      have hfirst : decodeLossy (UInt8.ofNat c.toNat :: cs.map fun c => UInt8.ofNat c.toNat) =
          (c, 1) := by
        simp only [decodeLossy, hbyte]
        rw [if_pos hc, Char.ofNat_toNat]
      rw [List.map_cons, List.length_cons, decodeLossyChars, hfirst]
      · simp only [List.drop_succ_cons, List.drop_zero]
        rw [ih fun c hc => h c (List.mem_cons_of_mem _ hc)]
      · intro hnil
        cases hnil

theorem fromUtf8Lossy_ascii {s : String} (h : ∀ c ∈ s.toList, c.toNat < 128) :
    fromUtf8Lossy (strBytes s) = s := by
  rw [fromUtf8Lossy, strBytes, Text.flatMap_utf8EncodeChar_ascii h, List.length_map,
    decodeLossyChars_ascii h, String.ofList_toList]

/-- A string that travels is written, and both readers of the field, the client's and the
server's, return it. -/
theorem busidFromStr_of_travels {s : String} (h : Travels s) :
    ∃ field, busidFromStr s = .ok field ∧ extractBusId field = s ∧
      ∀ d : UsbDevice, d.busid = field → d.busidString = s := by
  obtain ⟨hshort, hascii, hnul⟩ := h
  refine ⟨Bytes.zeroPadded (strBytes s) (Nat.le_of_lt hshort), ?_, ?_, ?_⟩
  · exact (busidFromStr_eq_ok_iff s _).mpr ⟨hshort, hascii, rfl⟩
  · rw [extractBusId, Bytes.zeroPadded, takeWhile_field hnul]
    exact fromUtf8Lossy_ascii hascii
  · intro d hd
    rw [UsbDevice.busidString, hd, Bytes.zeroPadded, takeWhile_field hnul,
      (fromUtf8_eq_some_iff _ s).mpr rfl]
    rfl

/-- Conversely, a string some field can be written for and some field is read as
travels: a NUL is never read. -/
theorem travels_of_busidString {s : String} {field : BusId} {d : UsbDevice}
    (h : busidFromStr s = .ok field) (hread : d.busidString = s) : Travels s := by
  obtain ⟨hshort, hascii, -⟩ := (busidFromStr_eq_ok_iff s _).mp h
  refine ⟨hshort, hascii, ?_⟩
  unfold UsbDevice.busidString at hread
  cases hdecoded : fromUtf8 (d.busid.val.takeWhile fun b => decide (b ≠ 0)) with
  | none =>
      rw [hdecoded] at hread
      rw [← hread]
      decide
  | some t =>
      rw [hdecoded] at hread
      have hbytes := (fromUtf8_eq_some_iff _ t).mp hdecoded
      rw [show t = s from hread] at hbytes
      intro hmem
      rw [← hbytes] at hmem
      have hzero := List.mem_takeWhile_imp hmem
      exact absurd rfl (of_decide_eq_true hzero)

/-! ### The printed form -/

/-- A non-empty run of decimal digits, as the source accepts it: ASCII digits only. -/
def IsGroup (cs : List Char) : Prop := cs ≠ [] ∧ ∀ c ∈ cs, c.isDigit = true

theorem isGroup_toDigits (n : Nat) : IsGroup (Nat.toDigits 10 n) :=
  ⟨Nat.toDigits_ne_nil, fun _ hc => Nat.isDigit_of_mem_toDigits (by decide) (by decide) hc⟩

theorem toDigits_inj {m n : Nat} (h : Nat.toDigits 10 m = Nat.toDigits 10 n) : m = n := by
  calc m = Nat.ofDigitChars 10 (Nat.toDigits 10 m) 0 := Nat.ofDigitChars_ten_toDigits.symm
    _ = Nat.ofDigitChars 10 (Nat.toDigits 10 n) 0 := by rw [h]
    _ = n := Nat.ofDigitChars_ten_toDigits

/-- The digit groups behind the dash. -/
def portGroups (ports : List UInt8) : List (List Char) :=
  if ports = [] then [['0']] else ports.map fun p => Nat.toDigits 10 p.toNat

theorem formatBusId_toList (bus : UInt8) (ports : List UInt8) :
    (formatBusId bus ports).toList =
      Nat.toDigits 10 bus.toNat ++ '-' :: ['.'].intercalate (portGroups ports) := by
  have hdigits : ∀ n : Nat, (toString n).toList = Nat.toDigits 10 n := by
    intro n
    rw [Nat.toString_eq_ofList_toDigits, String.toList_ofList]
  match ports with
  | [] =>
      simp only [formatBusId, List.map_nil, String.toList_append, hdigits]
      rfl
  | [p] =>
      simp only [formatBusId, List.map_cons, List.map_nil, String.toList_append, hdigits,
        portGroups, List.cons_ne_nil, if_false, List.intercalate_singleton, List.append_assoc]
      rfl
  | p :: q :: ports =>
      have hrest : ports.map (String.toList ∘ fun p : UInt8 => toString p.toNat) =
          ports.map fun p => Nat.toDigits 10 p.toNat :=
        List.map_congr_left fun p _ => hdigits p.toNat
      simp only [formatBusId, List.map_cons, String.toList_append, String.toList_intercalate,
        hdigits, portGroups, List.cons_ne_nil, if_false, List.intercalate_cons_cons,
        List.append_assoc, List.map_map, hrest]
      rfl

theorem portGroups_ne_nil (ports : List UInt8) : portGroups ports ≠ [] := by
  unfold portGroups
  split
  · exact List.cons_ne_nil _ _
  · simpa using ‹_›

theorem isGroup_of_mem_portGroups {ports : List UInt8} {group : List Char}
    (h : group ∈ portGroups ports) : IsGroup group := by
  unfold portGroups at h
  split at h
  · rw [List.mem_singleton.mp h]
    exact isGroup_toDigits 0
  · obtain ⟨p, -, rfl⟩ := List.mem_map.mp h
    exact isGroup_toDigits p.toNat

/-- A dash or a dot is not a digit. -/
theorem IsGroup.notMem {cs : List Char} (h : IsGroup cs) {c : Char} (hc : c.isDigit = false) :
    c ∉ cs := by
  intro hmem
  rw [h.2 c hmem] at hc
  cases hc

/-- The text in front of the dash and the text behind it. -/
theorem split_at_dash {bus : List Char} (hbus : IsGroup bus) (rest : List Char) :
    (bus ++ '-' :: rest).takeWhile (fun c => decide (c ≠ '-')) = bus ∧
      (bus ++ '-' :: rest).dropWhile (fun c => decide (c ≠ '-')) = '-' :: rest := by
  have hno : ∀ c ∈ bus, decide (c ≠ '-') = true := by
    intro c hc
    rw [decide_eq_true_eq]
    rintro rfl
    exact hbus.notMem (by decide) hc
  constructor
  · rw [List.takeWhile_append_of_pos hno, List.takeWhile_cons_of_neg (by decide),
      List.append_nil]
  · rw [List.dropWhile_append_of_pos hno, List.dropWhile_cons_of_neg (by decide)]

/-- Digit groups between dots, behind a digit group and a dash, are a valid bus id. -/
theorem isValidBusId_of_groups {s : String} {bus : List Char} {groups : List (List Char)}
    (hs : s.toList = bus ++ '-' :: ['.'].intercalate groups) (hbus : IsGroup bus)
    (hne : groups ≠ []) (hgroups : ∀ group ∈ groups, IsGroup group) :
    isValidBusId s = true := by
  have hdots : ∀ group ∈ groups, '.' ∉ group := by
    intro group hmem
    exact (hgroups group hmem).notMem (by decide)
  have hsplit := List.splitOn_intercalate '.' hdots hne
  have hrest : ['.'].intercalate groups ≠ [] := by
    intro hnil
    rw [hnil] at hsplit
    have hmem : [] ∈ groups := by
      rw [← hsplit]
      exact List.mem_singleton.mpr rfl
    exact (hgroups [] hmem).1 rfl
  obtain ⟨htake, hdrop⟩ := split_at_dash hbus (['.'].intercalate groups)
  unfold isValidBusId
  rw [hs, htake, hdrop]
  simp only [hsplit]
  rw [if_neg, if_neg]
  · rw [List.all_eq_true]
    intro group hmem
    simpa [IsGroup] using hgroups group hmem
  · simpa using hrest
  · simpa [IsGroup] using hbus

/-! ### The language of valid bus ids -/

/-- Only digit groups between dots, behind a digit group and a dash, are valid; with the lemma
above this is exact. -/
theorem groups_of_isValidBusId {s : String} (h : isValidBusId s = true) :
    ∃ (bus : List Char) (groups : List (List Char)), IsGroup bus ∧ groups ≠ [] ∧
      (∀ group ∈ groups, IsGroup group) ∧ s.toList = bus ++ '-' :: ['.'].intercalate groups := by
  have happend : s.toList.takeWhile (fun c => decide (c ≠ '-')) ++
      s.toList.dropWhile (fun c => decide (c ≠ '-')) = s.toList :=
    List.takeWhile_append_dropWhile
  unfold isValidBusId at h
  generalize s.toList.takeWhile (fun c => decide (c ≠ '-')) = bus at h happend
  simp only at h
  split at h
  · cases h
  · rename_i hbus
    split at h
    · cases h
    · rename_i head dev hdrop
      split at h
      · cases h
      · rw [hdrop] at happend
        -- the scan stops at a dash only
        have hhead : head = '-' := by
          have hne : s.toList.dropWhile (fun c => decide (c ≠ '-')) ≠ [] := by
            rw [hdrop]
            exact List.cons_ne_nil head dev
          have hstop := List.head_dropWhile_not (fun c => decide (c ≠ '-')) hne
          simpa only [hdrop, List.head_cons, decide_eq_false_iff_not, not_not] using hstop
        refine ⟨bus, dev.splitOn '.', ?_, List.splitOn_ne_nil '.' dev, ?_, ?_⟩
        · simpa [IsGroup] using hbus
        · intro group hgroup
          simpa [IsGroup] using List.all_eq_true.mp h group hgroup
        · rw [List.intercalate_splitOn, ← hhead]
          exact happend.symm

/-- `[0-9]`, over the ASCII digits. -/
def digitPattern : RegularExpression Char :=
  .char '0' + .char '1' + .char '2' + .char '3' + .char '4' + .char '5' + .char '6' +
    .char '7' + .char '8' + .char '9'

/-- `[0-9]+`. -/
def groupPattern : RegularExpression Char := digitPattern * digitPattern.star

/-- `[0-9]+-[0-9]+(\.[0-9]+)*`, the expression in the comment of `is_valid_bus_id`. -/
def busIdPattern : RegularExpression Char :=
  groupPattern * (.char '-' * (groupPattern * (.char '.' * groupPattern).star))

theorem mem_char (c : Char) (w : List Char) :
    w ∈ (RegularExpression.char c).matches' ↔ w = [c] :=
  Iff.rfl

theorem mem_digitPattern (w : List Char) :
    w ∈ digitPattern.matches' ↔ ∃ c : Char, c.isDigit = true ∧ w = [c] := by
  simp only [digitPattern, RegularExpression.matches'_add, Language.mem_add, mem_char]
  constructor
  · rintro (((((((((rfl | rfl) | rfl) | rfl) | rfl) | rfl) | rfl) | rfl) | rfl) | rfl) <;>
      exact ⟨_, rfl, rfl⟩
  · rintro ⟨c, hc, rfl⟩
    have hrange : 48 ≤ c.toNat ∧ c.toNat ≤ 57 := Char.isDigit_iff_toNat.mp hc
    have hchar : c = Char.ofNat c.toNat := (Char.ofNat_toNat c).symm
    generalize c.toNat = n at hrange hchar
    obtain ⟨hlow, hhigh⟩ := hrange
    subst hchar
    interval_cases n <;> simp

theorem mem_groupPattern (w : List Char) : w ∈ groupPattern.matches' ↔ IsGroup w := by
  rw [groupPattern, RegularExpression.matches'_mul, RegularExpression.matches'_star]
  exact Separated.mem_plus_of_single mem_digitPattern w

theorem mem_busIdPattern (w : List Char) :
    w ∈ busIdPattern.matches' ↔ ∃ (bus : List Char) (groups : List (List Char)),
      IsGroup bus ∧ groups ≠ [] ∧ (∀ group ∈ groups, IsGroup group) ∧
        w = bus ++ '-' :: ['.'].intercalate groups := by
  simp only [busIdPattern, RegularExpression.matches'_mul, RegularExpression.matches'_star,
    RegularExpression.matches'_char]
  rw [Language.mem_mul]
  constructor
  · rintro ⟨bus, hbus, rest, hrest, rfl⟩
    obtain ⟨dash, hdash, dev, hdev, rfl⟩ := Language.mem_mul.mp hrest
    obtain ⟨groups, hne, hgroups, rfl⟩ := (Separated.mem_separated '.' dev).mp hdev
    rw [Set.mem_singleton_iff.mp hdash]
    exact ⟨bus, groups, (mem_groupPattern bus).mp hbus, hne,
      fun group hgroup => (mem_groupPattern group).mp (hgroups group hgroup), rfl⟩
  · rintro ⟨bus, groups, hbus, hne, hgroups, rfl⟩
    have hdev := (Separated.mem_separated (l := groupPattern.matches') '.' _).mpr
      ⟨groups, hne, fun group hgroup => (mem_groupPattern group).mpr (hgroups group hgroup), rfl⟩
    exact ⟨bus, (mem_groupPattern bus).mpr hbus, _, Language.mem_mul.mpr ⟨['-'], rfl, _, hdev, rfl⟩,
      rfl⟩

/-- **The grammar of bus ids.** The check accepts exactly the language of the pattern it
is documented with, over the ASCII digits. -/
theorem isValidBusId_iff_matches (s : String) :
    isValidBusId s = true ↔ s.toList ∈ busIdPattern.matches' := by
  rw [mem_busIdPattern]
  constructor
  · exact groups_of_isValidBusId
  · rintro ⟨bus, groups, hbus, hne, hgroups, hs⟩
    exact isValidBusId_of_groups hs hbus hne hgroups

theorem formatBusId_valid (bus : UInt8) (ports : List UInt8) :
    isValidBusId (formatBusId bus ports) = true :=
  isValidBusId_of_groups (formatBusId_toList bus ports) (isGroup_toDigits _)
    (portGroups_ne_nil ports) fun _ h => isGroup_of_mem_portGroups h

/-! ### Printed bus ids travel -/

/-- A short string of ASCII characters other than NUL travels. -/
theorem travels_of_chars {s : String} (hlen : s.toList.length < busidSize)
    (hchars : ∀ c ∈ s.toList, 0 < c.toNat ∧ c.toNat < 128) : Travels s := by
  have hascii : ∀ c ∈ s.toList, c.toNat < 128 := fun c hc => (hchars c hc).2
  have hbytes : strBytes s = s.toList.map fun c => UInt8.ofNat c.toNat :=
    Text.flatMap_utf8EncodeChar_ascii hascii
  refine ⟨?_, hascii, ?_⟩
  · rw [hbytes, List.length_map]
    exact hlen
  · rw [hbytes]
    intro hmem
    obtain ⟨c, hc, hzero⟩ := List.mem_map.mp hmem
    have hpos := hchars c hc
    have hnat := congrArg UInt8.toNat hzero
    rw [UInt8.toNat_ofNat', Nat.mod_eq_of_lt (by omega)] at hnat
    simp at hnat
    omega

theorem mem_intercalate {groups : List (List Char)} {c : Char}
    (h : c ∈ ['.'].intercalate groups) : c = '.' ∨ ∃ group ∈ groups, c ∈ group := by
  induction groups with
  | nil => cases h
  | cons group groups ih =>
      by_cases hnil : groups = []
      · rw [hnil, List.intercalate_singleton] at h
        exact Or.inr ⟨group, List.mem_cons_self, h⟩
      · rw [List.intercalate_cons_of_ne_nil hnil, List.append_assoc, List.mem_append,
          List.mem_append, List.mem_singleton] at h
        rcases h with h | h | h
        · exact Or.inr ⟨group, List.mem_cons_self, h⟩
        · exact Or.inl h
        · rcases ih h with hdot | ⟨group', hmem, hc⟩
          · exact Or.inl hdot
          · exact Or.inr ⟨group', List.mem_cons_of_mem _ hmem, hc⟩

/-- Groups of at most `k` characters, with the dots between them. -/
theorem length_intercalate_le {groups : List (List Char)} {k : Nat} (hne : groups ≠ [])
    (h : ∀ group ∈ groups, group.length ≤ k) :
    (['.'].intercalate groups).length + 1 ≤ groups.length * (k + 1) := by
  induction groups with
  | nil => exact absurd rfl hne
  | cons group groups ih =>
      have hfirst := h group List.mem_cons_self
      by_cases hnil : groups = []
      · rw [hnil, List.intercalate_singleton, List.length_singleton]
        omega
      · have hrest := ih hnil fun g hg => h g (List.mem_cons_of_mem _ hg)
        rw [List.intercalate_cons_of_ne_nil hnil, List.length_append, List.length_append,
          List.length_singleton, List.length_cons, Nat.add_mul]
        omega

theorem length_toDigits_u8 (x : UInt8) : (Nat.toDigits 10 x.toNat).length ≤ 3 := by
  rw [Nat.length_toDigits_le_iff (by decide) (by decide)]
  exact Nat.lt_trans x.toNat_lt (by decide)

/-- Three digits, a dash, and seven groups of three digits with six dots: 31 bytes. -/
theorem length_formatBusId_le (bus : UInt8) {ports : List UInt8} (hdepth : ports.length ≤ 7) :
    (formatBusId bus ports).toList.length ≤ 31 := by
  have hgroups : ∀ group ∈ portGroups ports, group.length ≤ 3 := by
    intro group hmem
    unfold portGroups at hmem
    split at hmem
    · rw [List.mem_singleton.mp hmem]
      decide
    · obtain ⟨p, -, rfl⟩ := List.mem_map.mp hmem
      exact length_toDigits_u8 p
  have hcount : (portGroups ports).length ≤ 7 := by
    unfold portGroups
    split
    · decide
    · rw [List.length_map]
      exact hdepth
  have hbus := length_toDigits_u8 bus
  have hrest := length_intercalate_le (portGroups_ne_nil ports) hgroups
  rw [formatBusId_toList, List.length_append, List.length_cons]
  omega

theorem formatBusId_chars (bus : UInt8) (ports : List UInt8) :
    ∀ c ∈ (formatBusId bus ports).toList, 0 < c.toNat ∧ c.toNat < 128 := by
  have hdigit : ∀ {group : List Char}, IsGroup group →
      ∀ c ∈ group, 0 < c.toNat ∧ c.toNat < 128 := by
    intro group hgroup c hc
    have hrange : 48 ≤ c.toNat ∧ c.toNat ≤ 57 := Char.isDigit_iff_toNat.mp (hgroup.2 c hc)
    omega
  intro c hc
  rw [formatBusId_toList, List.mem_append, List.mem_cons] at hc
  rcases hc with hbus | rfl | hrest
  · exact hdigit (isGroup_toDigits _) c hbus
  · decide
  · rcases mem_intercalate hrest with rfl | ⟨group, hmem, hc⟩
    · decide
    · exact hdigit (isGroup_of_mem_portGroups hmem) c hc

theorem formatBusId_travels (bus : UInt8) {ports : List UInt8} (hdepth : ports.length ≤ 7) :
    Travels (formatBusId bus ports) :=
  travels_of_chars (Nat.lt_succ_of_le (length_formatBusId_le bus hdepth))
    (formatBusId_chars bus ports)

/-! ### One topology for one bus id -/

/-- Without port zero the digit groups give the ports, so that different ports are printed
differently. -/
theorem portGroups_inj {ports ports' : List UInt8} (h : ∀ p ∈ ports, 1 ≤ p)
    (h' : ∀ p ∈ ports', 1 ≤ p) (heq : portGroups ports = portGroups ports') : ports = ports' := by
  have hroot : ∀ {ports : List UInt8}, (∀ p ∈ ports, 1 ≤ p) →
      [['0']] = (ports.map fun p => Nat.toDigits 10 p.toNat) → False := by
    intro ports hpos heq
    obtain ⟨p, hp, hdigits⟩ : ∃ p ∈ ports, Nat.toDigits 10 p.toNat = ['0'] :=
      List.mem_map.mp (heq ▸ List.mem_singleton.mpr rfl)
    have hzero : p.toNat = 0 := toDigits_inj hdigits
    have hle := UInt8.le_iff_toNat_le.mp (hpos p hp)
    rw [hzero] at hle
    exact absurd hle (by decide)
  have hinj : Function.Injective fun p : UInt8 => Nat.toDigits 10 p.toNat :=
    fun p q hpq => UInt8.toNat_inj.mp (toDigits_inj hpq)
  unfold portGroups at heq
  split at heq
  · split at heq
    · simp_all
    · exact absurd heq (hroot h')
  · split at heq
    · exact absurd heq.symm (hroot h)
    · exact List.map_injective_iff.mpr hinj heq

theorem formatBusId_inj {bus bus' : UInt8} {ports ports' : List UInt8} (h : ∀ p ∈ ports, 1 ≤ p)
    (h' : ∀ p ∈ ports', 1 ≤ p) (heq : formatBusId bus ports = formatBusId bus' ports') :
    bus = bus' ∧ ports = ports' := by
  have hchars := congrArg String.toList heq
  rw [formatBusId_toList, formatBusId_toList] at hchars
  obtain ⟨htake, hdrop⟩ := split_at_dash (isGroup_toDigits bus.toNat)
    (['.'].intercalate (portGroups ports))
  obtain ⟨htake', hdrop'⟩ := split_at_dash (isGroup_toDigits bus'.toNat)
    (['.'].intercalate (portGroups ports'))
  have hdots : ∀ ports, ∀ group ∈ portGroups ports, '.' ∉ group := by
    intro ports group hmem
    exact (isGroup_of_mem_portGroups hmem).notMem (by decide)
  constructor
  · rw [hchars, htake'] at htake
    exact UInt8.toNat_inj.mp (toDigits_inj htake.symm)
  · rw [hchars, hdrop'] at hdrop
    have hrest := (List.cons.inj hdrop).2
    apply portGroups_inj h h'
    rw [← List.splitOn_intercalate '.' (hdots ports) (portGroups_ne_nil ports), ← hrest,
      List.splitOn_intercalate '.' (hdots ports') (portGroups_ne_nil ports')]

/-! ### The pipeline -/

/-- `busid_from_str` takes the string: ASCII, and short enough for a NUL behind it in 32
bytes. -/
def FitsBusidField (s : String) : Prop :=
  (strBytes s).length < busidSize ∧ ∀ c ∈ s.toList, c.toNat < 128

instance (s : String) : Decidable (FitsBusidField s) :=
  have := List.decidableBAll (fun c : Char => c.toNat < 128) s.toList
  inferInstanceAs (Decidable (_ ∧ _))

/-- A descriptor converts iff its bus id fits the field; no other field of it can fail to
convert. -/
theorem toProtocolDevice_converts_iff (d : LocalUsbDevice) :
    (∃ record, d.toProtocolDevice = .ok record) ↔ FitsBusidField d.busId := by
  unfold LocalUsbDevice.toProtocolDevice
  constructor
  · rintro ⟨record, h⟩
    cases hfield : busidFromStr d.busId with
    | error e =>
        rw [hfield] at h
        cases h
    | ok field =>
        obtain ⟨hlen, hascii, -⟩ := (busidFromStr_eq_ok_iff d.busId field).mp hfield
        exact ⟨hlen, hascii⟩
  · rintro ⟨hlen, hascii⟩
    have hsize : (strBytes d.busId ++
        List.replicate (busidSize - (strBytes d.busId).length) 0).length = busidSize := by
      rw [List.length_append, List.length_replicate]
      omega
    have hfield := (busidFromStr_eq_ok_iff d.busId ⟨_, hsize⟩).mpr ⟨hlen, hascii, rfl⟩
    rw [hfield]
    exact ⟨_, rfl⟩

theorem toProtocolDevice_of_travels {d : LocalUsbDevice} (h : Travels d.busId) :
    ∃ device, d.toProtocolDevice = .ok device :=
  (toProtocolDevice_converts_iff d).mpr ⟨h.1, h.2.1⟩

theorem describe_busId {attached : RusbDevice} {d : LocalUsbDevice}
    (h : attached.describe = some d) :
    d.busId = formatBusId attached.busNumber (attached.portNumbers.toOption.getD []) := by
  unfold RusbDevice.describe at h
  split at h
  · cases h
  · cases h
    rfl

/-- **Bus ids from enumeration to import.** What `format_bus_id` prints for a device at
most seven ports deep is valid, fits the field and is read back from it by both readers;
a device enumerated there carries it and is converted to its wire record, an import
request that carries it looks up exactly this key, and no other topology without a port
zero prints the same. -/
theorem busId_pipeline (bus : UInt8) (ports : List UInt8) (hdepth : ports.length ≤ 7) :
    isValidBusId (formatBusId bus ports) = true ∧
    (∃ field, busidFromStr (formatBusId bus ports) = .ok field ∧
      extractBusId field = formatBusId bus ports ∧
      (∀ device : UsbDevice, device.busid = field →
        device.busidString = formatBusId bus ports) ∧
      ∀ c : Connection,
        (c.dispatch (.reqImport { busid := field })).pc = .importing (formatBusId bus ports)) ∧
    (∀ (attached : RusbDevice) (d : LocalUsbDevice), attached.describe = some d →
      attached.busNumber = bus → attached.portNumbers.toOption.getD [] = ports →
        d.busId = formatBusId bus ports ∧ ∃ device, d.toProtocolDevice = .ok device) ∧
    ((∀ p ∈ ports, 1 ≤ p) → ∀ bus' ports', (∀ p ∈ ports', 1 ≤ p) →
      formatBusId bus' ports' = formatBusId bus ports → bus' = bus ∧ ports' = ports) := by
  have hvalid := formatBusId_valid bus ports
  have htravels := formatBusId_travels bus hdepth
  refine ⟨hvalid, ?_, ?_, ?_⟩
  · obtain ⟨field, hfield, hextract, hread⟩ := busidFromStr_of_travels htravels
    refine ⟨field, hfield, hextract, hread, ?_⟩
    intro c
    simp only [Connection.dispatch, hextract, hvalid, if_true]
  · intro attached d hd hbus hports
    have hbusId : d.busId = formatBusId bus ports := by
      rw [← hbus, ← hports]
      exact describe_busId hd
    exact ⟨hbusId, toProtocolDevice_of_travels (hbusId ▸ htravels)⟩
  · intro hports bus' ports' hports' heq
    exact formatBusId_inj hports' hports heq

/-- The longest printed bus id has 31 bytes and fits. -/
theorem busId_pipeline_deepest :
    (strBytes (formatBusId 255 (List.replicate 7 255))).length = 31 ∧
      isValidBusId (formatBusId 255 (List.replicate 7 255)) = true :=
  ⟨by decide +kernel, (busId_pipeline 255 (List.replicate 7 255) (by decide)).1⟩

end Extender.Server
