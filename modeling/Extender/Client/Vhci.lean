/-
The vhci status file of Linux (`vhci.rs`).

The kernel prints one row for each port of its virtual host controller, with port, status,
speed and socket in decimal and the device id in hexadecimal. The client parses the file to
find a free port and writes that port's number back to attach a device. `parse_vhci_status`
reads every numeric column as hexadecimal, which is the same number only while it has one
digit: port ten of a controller is printed `0010`, and is read as sixteen.

The file is stated from the kernel's side. A `Row` is what a port is, with the words in it
being words, and `render` prints it with the widths of the kernel's format; header lines may
stand anywhere. The parser is translated from the source, down to the errors of the standard
library's integer reader, and the result compares the two for every file there can be.

* `Row`, `render` — the file as the kernel writes it, under any number of header lines.
* `parseColumn_eq_ok_iff` — when a numeral of another base is read as the number it is.
* `mapM_parseLine_iff` — the same for the lines of a file, one after the other.
* `portIdentity_iff` — the file is read back as it was written, and the port found is a free
  port of the right hub, exactly when every decimal column is a single digit.
* `port_ten_misread` — port ten is taken for port sixteen.
-/

import Extender.Lib.ByteReader
import Extender.Lib.Text
import Mathlib.Data.List.ReduceOption

namespace Extender.Client

open ByteReader Text

/-! ### Parsed rows (`types.rs`) -/

/-- Status of a port; a value the client does not know is kept. -/
inductive PortStatus where
  | free
  | inUse
  | unknown (val : UInt32)
deriving DecidableEq, Repr

/-- `from_raw`: 4 is a free port and 6 one in use. -/
def PortStatus.fromRaw (val : UInt32) : PortStatus :=
  if val = 4 then .free else if val = 6 then .inUse else .unknown val

def PortStatus.isFree (s : PortStatus) : Bool := s == .free

/-- One row of the status file, as the client keeps it. -/
structure VhciPort where
  hub : String
  port : UInt32
  status : PortStatus
  speed : UInt32
  devid : UInt32
  sockfd : UInt32
  localBusid : String
deriving DecidableEq, Repr

/-- The errors of this module (`ClientError`). -/
inductive VhciError where
  | vhciParseError (reason : String)
  | noFreePort (speed : UInt32)
deriving DecidableEq, Repr

/-! ### The parser -/

/-- `ParseIntError` as it is displayed. -/
def describe : ParseIntError → String
  | .empty => "cannot parse integer from empty string"
  | .invalidDigit => "invalid digit found in string"
  | .posOverflow => "number too large to fit in target type"

/-- `parse_hex_u32`: `from_str_radix` with base 16, for every column. -/
def parseHexU32 (s : List Char) : Except ParseIntError UInt32 :=
  (fromStrRadix 16 (2 ^ 32) s).map UInt32.ofNat

/-- One column, with the error the row's parser gives for it. -/
def parseColumn (name : String) (field : List Char) : Except VhciError UInt32 :=
  (parseHexU32 field).mapError fun e =>
    .vhciParseError ("bad " ++ name ++ " '" ++ String.ofList field ++ "': " ++ describe e)

/-- A line of at least seven fields; anything shorter is skipped, and what is behind the
seventh is not looked at. -/
def parseFields : List (List Char) → Except VhciError (Option VhciPort)
  | hub :: f1 :: f2 :: f3 :: f4 :: f5 :: f6 :: _ => do
    let port ← parseColumn "port number" f1
    let statusVal ← parseColumn "status" f2
    let speed ← parseColumn "speed" f3
    let devid ← parseColumn "devid" f4
    let sockfd ← parseColumn "sockfd" f5
    pure (some { hub := String.ofList hub, port, status := PortStatus.fromRaw statusVal, speed,
                 devid, sockfd, localBusid := String.ofList f6 })
  | _ => pure none

/-- One line: empty and header lines are skipped. -/
def parseLine (line : List Char) : Except VhciError (Option VhciPort) :=
  let line := trim line
  if line.isEmpty || "hub".toList.isPrefixOf line then pure none
  else parseFields (splitWhitespace line)

/-- `parse_vhci_status`: the rows in the order of the file. The first line that cannot be read
ends it with an error. -/
def parseVhciStatus (content : String) : Except VhciError (List VhciPort) := do
  let ports ← (lines content.toList).mapM parseLine
  pure ports.reduceOption

/-- Super-speed devices go on the `ss` hub, all others on `hs`. -/
def targetHub (speed : UInt32) : String := if speed ≥ 5 then "ss" else "hs"

/-- `find_free_port_in_list`: the first free port of the hub, in the order of the file. -/
def findFreePortInList (ports : List VhciPort) (speed : UInt32) : Except VhciError UInt32 :=
  match ports.find? (fun p => p.hub == targetHub speed && p.status.isFree) with
  | some p => .ok p.port
  | none => .error (.noFreePort speed)

/-- `find_free_port`: list the ports, then search. What it returns is written to the driver as
it is. -/
def findFreePort (content : String) (speed : UInt32) : Except VhciError UInt32 := do
  let ports ← parseVhciStatus content
  findFreePortInList ports speed

/-! ### The file as the kernel writes it -/

/-- One port: its hub and bus id are words, and the hub's name is not that of a header
line. -/
structure Row where
  hub : String
  port : UInt32
  status : UInt32
  speed : UInt32
  devid : UInt32
  sockfd : UInt32
  localBusid : String
  hub_isWord : IsWord hub.toList
  hub_not_header : ("hub".toList.isPrefixOf hub.toList) = false
  busid_isWord : IsWord localBusid.toList

/-- A line of the file: one that begins with `hub`, or a port. -/
inductive Line where
  | header (text : List Char) (one_line : '\n' ∉ text)
  | row (r : Row)

/-- The columns of a row: `%04u`, `%03u`, `%03u`, `%08x`, `%06u`. -/
def Row.columns (r : Row) : List (List Char) :=
  [padded 4 (Nat.toDigits 10 r.port.toNat), padded 3 (Nat.toDigits 10 r.status.toNat),
   padded 3 (Nat.toDigits 10 r.speed.toNat), padded 8 (Nat.toDigits 16 r.devid.toNat),
   padded 6 (Nat.toDigits 10 r.sockfd.toNat)]

/-- `hs 0000 004 000 00000000 000000 0-0`: the hub, the columns and the bus id on the local
side. -/
def Row.render (r : Row) : List Char :=
  r.hub.toList ++ (' ' :: ' ' :: r.columns.flatMap (fun c => c ++ [' ']) ++ r.localBusid.toList)

/-- A line as the kernel prints it, without its line feed. -/
def Line.render : Line → List Char
  | .header text _ => "hub".toList ++ text
  | .row r => r.render

/-- The whole file: every line with a line feed behind it. -/
def render (ls : List Line) : String :=
  String.ofList ((ls.map Line.render).flatMap fun l => l ++ ['\n'])

/-- The rows of a file, in order. -/
def rows (ls : List Line) : List Row :=
  ls.filterMap fun
    | .header _ _ => none
    | .row r => some r

/-- What a row is to be read as: each number as the kernel meant it. -/
def Row.toPort (r : Row) : VhciPort :=
  { hub := r.hub, port := r.port, status := PortStatus.fromRaw r.status, speed := r.speed
    devid := r.devid, sockfd := r.sockfd, localBusid := r.localBusid }

/-- A free port of the hub a device of this speed goes on. -/
def Row.FreeFor (speed : UInt32) (r : Row) : Prop := r.hub = targetHub speed ∧ r.status = 4

/-- The file is read back as it was written, and a search returns the number of a free
port of the right hub, or finds that there is none. -/
def PortIdentity (ls : List Line) : Prop :=
  parseVhciStatus (render ls) = .ok ((rows ls).map Row.toPort) ∧
  ∀ speed, (∀ port, findFreePort (render ls) speed = .ok port →
      ∃ r ∈ rows ls, r.FreeFor speed ∧ r.port = port) ∧
    (findFreePort (render ls) speed = .error (.noFreePort speed) →
      ∀ r ∈ rows ls, ¬ r.FreeFor speed)

/-! ### Columns -/

/-- A number is read back from its numeral iff the base is 16 or it has one digit. -/
theorem parseColumn_eq_ok_iff {name : String} {b : Nat} (hb : 2 ≤ b) (h16 : b ≤ 16)
    (width : Nat) (n : UInt32) :
    parseColumn name (padded width (Nat.toDigits b n.toNat)) = .ok n ↔
      n.toNat < b ∨ b = 16 := by
  rw [← fromStrRadix_padded hb h16 (Nat.le_refl 16) width n.toNat_lt]
  unfold parseColumn parseHexU32
  cases hparse : fromStrRadix 16 (2 ^ 32) (padded width (Nat.toDigits b n.toNat)) with
  | error e => simp [Except.map, Except.mapError]
  | ok v =>
      simp only [Except.map, Except.mapError, Except.ok.injEq]
      constructor
      · rintro rfl
        -- what the parser returns is below its limit
        have hlt : v < 2 ^ 32 := fromStrRadix_lt (by decide) hparse
        rw [UInt32.toNat_ofNat', Nat.mod_eq_of_lt hlt]
      · rintro rfl
        exact UInt32.ofNat_toNat

/-- No two values of the status column are read as one. -/
theorem PortStatus.fromRaw_inj {a b : UInt32} : fromRaw a = fromRaw b ↔ a = b := by
  constructor
  · unfold fromRaw
    grind
  · rintro rfl
    rfl

/-! ### Rows -/

/-- Every decimal column of the row is a single digit, so that it is the same number in either
base. -/
def Row.SingleDigits (r : Row) : Prop :=
  r.port < 10 ∧ r.status < 10 ∧ r.speed < 10 ∧ r.sockfd < 10

instance : DecidablePred Row.SingleDigits := fun _ => inferInstanceAs (Decidable (_ ∧ _ ∧ _ ∧ _))

theorem splitWhitespace_render (r : Row) :
    splitWhitespace r.render = r.hub.toList :: (r.columns ++ [r.localBusid.toList]) := by
  have h10 := fun width n => isWord_padded (b := 10) (by decide) (by decide) width n
  have h16 := fun width n => isWord_padded (b := 16) (by decide) (by decide) width n
  simp only [Row.render, Row.columns, List.flatMap_cons, List.flatMap_nil, List.append_nil,
    List.cons_append, List.append_assoc, List.nil_append]
  rw [splitWhitespace_cons r.hub_isWord, splitWhitespace_space, splitWhitespace_cons (h10 _ _),
    splitWhitespace_cons (h10 _ _), splitWhitespace_cons (h10 _ _),
    splitWhitespace_cons (h16 _ _), splitWhitespace_cons (h10 _ _),
    splitWhitespace_singleton r.busid_isWord]

/-- A printed column has no blank in it, so splitting finds it again. -/
theorem Row.isWord_of_mem_columns {r : Row} {c : List Char} (h : c ∈ r.columns) : IsWord c := by
  simp only [Row.columns, List.mem_cons, List.not_mem_nil, or_false] at h
  rcases h with rfl | rfl | rfl | rfl | rfl
  all_goals exact isWord_padded (by decide) (by decide) _ _

theorem Row.newline_notMem_render (r : Row) : '\n' ∉ r.render := by
  have hword : ∀ {w : List Char}, IsWord w → '\n' ∉ w := by
    intro w hw hmem
    exact absurd (hw.2 _ hmem) (by decide)
  intro hmem
  simp only [Row.render, List.mem_append, List.mem_cons, List.mem_flatMap, List.cons_append] at hmem
  rcases hmem with hhub | hspace | hspace | ⟨c, hc, hcol | hspace⟩ | hbusid
  · exact hword r.hub_isWord hhub
  · exact absurd hspace (by decide)
  · exact absurd hspace (by decide)
  · exact hword (Row.isWord_of_mem_columns hc) hcol
  · exact absurd hspace (by decide)
  · exact hword r.busid_isWord hbusid

/-- A row is not taken for a header line. -/
theorem Row.render_not_header (r : Row) : ("hub".toList.isPrefixOf r.render) = false := by
  rw [Bool.eq_false_iff]
  intro h
  have hheader := List.isPrefixOf_iff_prefix.mp h
  have hhub : r.hub.toList ++ [' '] <+: r.render := by
    unfold Row.render
    rw [List.cons_append, List.prefix_append_right_inj]
    exact ⟨_, rfl⟩
  rcases Nat.lt_or_ge r.hub.toList.length 3 with hshort | hlong
  · -- a shorter name is followed by a space, which the header's name does not have
    have hspace := List.prefix_of_prefix_length_le hhub hheader
      (by rw [List.length_append]; exact hshort)
    have hmem : ' ' ∈ "hub".toList := hspace.subset (by simp)
    exact absurd hmem (by decide)
  · have hname := List.prefix_of_prefix_length_le hheader
      ((List.prefix_append _ [' ']).trans hhub) (by simpa using hlong)
    rw [← List.isPrefixOf_iff_prefix, r.hub_not_header] at hname
    cases hname

theorem parseLine_row (r : Row) :
    parseLine (stripCr r.render) =
      parseFields (r.hub.toList :: (r.columns ++ [r.localBusid.toList])) := by
  have htrim : trim r.render = r.render := trim_words r.hub_isWord r.busid_isWord _
  have hlast : stripCr r.render = r.render := by
    unfold stripCr
    rw [if_neg]
    intro hcr
    rw [Row.render, ← List.append_assoc, List.getLast?_append_of_ne_nil _ r.busid_isWord.1] at hcr
    have hword := r.busid_isWord.2 _ (List.mem_of_getLast? hcr)
    exact absurd hword (by decide)
  have hne : r.render.isEmpty = false := by
    rw [List.isEmpty_eq_false_iff, Row.render]
    exact List.append_ne_nil_of_left_ne_nil r.hub_isWord.1 _
  unfold parseLine
  simp only [hlast, htrim, r.render_not_header, hne, Bool.or_self, Bool.false_eq_true, if_false,
    splitWhitespace_render]

/-- A row is read as the row it is iff its decimal columns are single digits; in any
case it is not skipped. -/
theorem parseFields_row (r : Row) (o : Option VhciPort)
    (h : parseFields (r.hub.toList :: (r.columns ++ [r.localBusid.toList])) = .ok o) :
    ∃ p, o = some p ∧ (p = r.toPort → r.SingleDigits) := by
  simp only [Row.columns, List.cons_append, List.nil_append, parseFields] at h
  obtain ⟨port, hport, h⟩ := exceptBind_eq_ok.mp h
  obtain ⟨statusVal, hstatus, h⟩ := exceptBind_eq_ok.mp h
  obtain ⟨speed, hspeed, h⟩ := exceptBind_eq_ok.mp h
  obtain ⟨devid, -, h⟩ := exceptBind_eq_ok.mp h
  obtain ⟨sockfd, hsockfd, h⟩ := exceptBind_eq_ok.mp h
  cases h
  refine ⟨_, rfl, fun heq => ?_⟩
  simp only [Row.toPort, VhciPort.mk.injEq, PortStatus.fromRaw_inj] at heq
  obtain ⟨-, rfl, rfl, rfl, -, rfl, -⟩ := heq
  have hdigit : ∀ {name : String} {width : Nat} {n : UInt32},
      parseColumn name (padded width (Nat.toDigits 10 n.toNat)) = .ok n → n < 10 := by
    intro name width n hn
    rcases (parseColumn_eq_ok_iff (by decide) (by decide) width n).mp hn with hlt | hbase
    · exact UInt32.lt_iff_toNat_lt.mpr hlt
    · exact absurd hbase (by decide)
  exact ⟨hdigit hport, hdigit hstatus, hdigit hspeed, hdigit hsockfd⟩

/-- A row of single digits is read without an error. -/
theorem parseFields_singleDigits {r : Row} (h : r.SingleDigits) :
    parseFields (r.hub.toList :: (r.columns ++ [r.localBusid.toList])) = .ok (some r.toPort) := by
  have hdecimal : ∀ (name : String) (width : Nat) {n : UInt32}, n < 10 →
      parseColumn name (padded width (Nat.toDigits 10 n.toNat)) = .ok n := by
    intro name width n hn
    exact (parseColumn_eq_ok_iff (by decide) (by decide) width n).mpr
      (Or.inl (UInt32.lt_iff_toNat_lt.mp hn))
  have hhex : parseColumn "devid" (padded 8 (Nat.toDigits 16 r.devid.toNat)) = .ok r.devid :=
    (parseColumn_eq_ok_iff (by decide) (by decide) 8 r.devid).mpr (Or.inr rfl)
  simp only [Row.columns, List.cons_append, List.nil_append, parseFields, hdecimal _ _ h.1,
    hdecimal _ _ h.2.1, hdecimal _ _ h.2.2.1, hdecimal _ _ h.2.2.2, hhex, bind, Except.bind,
    String.ofList_toList, Row.toPort]
  rfl

/-! ### Files -/

theorem parseLine_header (text : List Char) :
    parseLine (stripCr ("hub".toList ++ text)) = .ok none := by
  have hword : IsWord "hub".toList := by decide
  obtain ⟨text', htext⟩ : ∃ text', stripCr ("hub".toList ++ text) = "hub".toList ++ text' := by
    unfold stripCr
    split
    · rename_i hcr
      cases text using List.reverseRecOn with
      | nil => exact absurd hcr (by decide)
      | append_singleton text c =>
          exact ⟨text, by rw [← List.append_assoc, List.dropLast_concat]⟩
    · exact ⟨text, rfl⟩
  have hheader := List.isPrefixOf_iff_prefix.mpr (isPrefix_trim hword text')
  unfold parseLine
  simp only [htext, hheader, Bool.or_true, if_true]
  rfl

/-- Splitting the file into lines gives the lines it was made of. -/
theorem lines_render (ls : List Line) :
    lines (render ls).toList = ls.map (fun l => stripCr l.render) := by
  rw [render, String.toList_ofList, lines_flatMap, List.map_map]
  · rfl
  · intro l hl
    obtain ⟨line, -, rfl⟩ := List.mem_map.mp hl
    cases line with
    | header text hone =>
        intro hmem
        rcases List.mem_append.mp hmem with h | h
        · exact absurd h (by decide)
        · exact hone h
    | row r => exact r.newline_notMem_render

/-- Reading the lines of a file one after the other gives its rows iff every decimal
column of every row is a single digit. -/
theorem mapM_parseLine_iff (ls : List Line) :
    (∃ os, (ls.map fun l => stripCr l.render).mapM parseLine = .ok os ∧
        os.reduceOption = (rows ls).map Row.toPort) ↔
      ∀ r ∈ rows ls, r.SingleDigits := by
  induction ls with
  | nil => exact ⟨fun _ r hr => absurd hr (by simp [rows]), fun _ => ⟨[], rfl, rfl⟩⟩
  | cons l ls ih =>
      simp only [List.map_cons, List.mapM_cons, exceptBind_eq_ok]
      cases l with
      | header text hone =>
          have hrows : rows (.header text hone :: ls) = rows ls := rfl
          simp only [Line.render, parseLine_header]
          rw [hrows, ← ih]
          constructor
          · rintro ⟨_, ⟨o, ho, os, hos, hcons⟩, heq⟩
            cases ho
            cases hcons
            exact ⟨os, hos, heq⟩
          · rintro ⟨os, hos, heq⟩
            exact ⟨none :: os, ⟨none, rfl, os, hos, rfl⟩, heq⟩
      | row r =>
          have hrows : rows (.row r :: ls) = r :: rows ls := rfl
          simp only [Line.render, parseLine_row]
          rw [hrows, List.forall_mem_cons, ← ih]
          constructor
          · rintro ⟨_, ⟨o, ho, os, hos, hcons⟩, heq⟩
            cases hcons
            obtain ⟨p, rfl, hdigits⟩ := parseFields_row r o ho
            rw [List.reduceOption_cons_of_some, List.map_cons, List.cons.injEq] at heq
            exact ⟨hdigits heq.1, os, hos, heq.2⟩
          · rintro ⟨hdigits, os, hos, heq⟩
            refine ⟨some r.toPort :: os, ⟨_, parseFields_singleDigits hdigits, os, hos, rfl⟩, ?_⟩
            rw [List.reduceOption_cons_of_some, heq, List.map_cons]

/-- The parser gives the rows of a file iff every decimal column is a single digit. -/
theorem parseVhciStatus_render_iff (ls : List Line) :
    parseVhciStatus (render ls) = .ok ((rows ls).map Row.toPort) ↔
      ∀ r ∈ rows ls, r.SingleDigits := by
  rw [← mapM_parseLine_iff, parseVhciStatus, lines_render, exceptBind_eq_ok]
  constructor
  · rintro ⟨os, hos, heq⟩
    exact ⟨os, hos, Except.ok.inj heq⟩
  · rintro ⟨os, hos, heq⟩
    exact ⟨os, hos, by rw [heq]; rfl⟩

theorem isFree_fromRaw {val : UInt32} : (PortStatus.fromRaw val).isFree = true ↔ val = 4 := by
  unfold PortStatus.isFree
  rw [beq_iff_eq, show PortStatus.free = PortStatus.fromRaw 4 from rfl, PortStatus.fromRaw_inj]

/-- A search through the rows as they were written finds a free port of the right hub,
or there is none. -/
theorem findFreePortInList_toPort (rs : List Row) (speed : UInt32) :
    (∀ port, findFreePortInList (rs.map Row.toPort) speed = .ok port →
      ∃ r ∈ rs, r.FreeFor speed ∧ r.port = port) ∧
    (findFreePortInList (rs.map Row.toPort) speed = .error (.noFreePort speed) →
      ∀ r ∈ rs, ¬ r.FreeFor speed) := by
  have hmatch : ∀ r : Row, (r.toPort.hub == targetHub speed && r.toPort.status.isFree) = true ↔
      r.FreeFor speed := by
    intro r
    rw [Bool.and_eq_true, beq_iff_eq]
    exact and_congr_right fun _ => isFree_fromRaw
  unfold findFreePortInList
  cases hfind : (rs.map Row.toPort).find?
      (fun p => p.hub == targetHub speed && p.status.isFree) with
  | none =>
      constructor
      · rintro port ⟨⟩
      · intro _ r hr hfree
        have hnone := List.find?_eq_none.mp hfind r.toPort (List.mem_map_of_mem hr)
        exact hnone ((hmatch r).mpr hfree)
  | some p =>
      constructor
      · rintro port ⟨⟩
        have hp := List.find?_some hfind
        obtain ⟨r, hr, rfl⟩ := List.mem_map.mp (List.mem_of_find?_eq_some hfind)
        exact ⟨r, hr, (hmatch r).mp hp, rfl⟩
      · rintro ⟨⟩

/-- **Port identity.** The status file is read back as the kernel wrote it, and the
port found for a device is the number of a free port of the right hub, exactly when the
port, status, speed and socket of every row are below ten. -/
theorem portIdentity_iff (ls : List Line) :
    PortIdentity ls ↔ ∀ r ∈ rows ls, r.SingleDigits := by
  rw [← parseVhciStatus_render_iff]
  constructor
  · rintro ⟨h, -⟩
    exact h
  · intro h
    have hfind : ∀ speed, findFreePort (render ls) speed =
        findFreePortInList ((rows ls).map Row.toPort) speed := by
      intro speed
      rw [findFreePort, h]
      rfl
    refine ⟨h, fun speed => ?_⟩
    rw [hfind speed]
    exact findFreePortInList_toPort (rows ls) speed

/-- Port ten of a controller, free, as a controller with more than ten ports has it. -/
def portTen : Row :=
  { hub := "hs", port := 10, status := 4, speed := 0, devid := 0, sockfd := 0
    localBusid := "0-0", hub_isWord := by decide, hub_not_header := by decide
    busid_isWord := by decide }

/-- Port ten is printed `0010` and read as sixteen, which is then the number written
to attach a device. -/
theorem port_ten_misread :
    ¬ PortIdentity [.row portTen] ∧ findFreePort (render [.row portTen]) 3 = .ok 16 := by
  constructor
  · rintro ⟨h, -⟩
    rw [parseVhciStatus_render_iff] at h
    exact absurd h (by decide)
  · decide

end Extender.Client
