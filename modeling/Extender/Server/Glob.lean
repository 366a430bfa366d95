/-
Bus id patterns (`glob_match` of `device.rs`).

The matcher walks over pattern and text with one cursor each. At a star it goes on behind the
star and remembers where it was; on a mismatch it returns to the last star it passed and lets
it take one more character. Earlier stars are forgotten. A second loop skips the stars that
are left of the pattern.

The two loops are a `Loop` whose state is the four variables of the first or the cursor of the
second. An index out of bounds is an outcome of its own, so that its absence is a theorem. A
star in the text would be taken for a character the pattern spells out; bus ids have none, and
the result asks for that.

What a pattern means does not mention the matcher: it is a list of symbols of `Wildcard`, a
star for any number of characters and a question mark for one. That the matcher may forget
earlier stars is `Wildcard.Matches.resume`; that it ends is a lexicographic measure, the text
behind the last star, and then what is left of text and pattern behind the cursors.

* `Tracks` — what the cursors know: the whole text matches iff the rest does, or the last star
  may take more than it has so far.
* `globMatchInner_decides` — the matcher ends, within the bounds, with the right answer.
-/

import Extender.Lib.Loop
import Extender.Lib.Wildcard

namespace Extender.Server

open Wildcard

/-! ### The matcher -/

/-- The variables of the first loop: the two cursors, and where the last star was met in
pattern and text. -/
structure Cursors where
  pi : Nat
  ti : Nat
  starPi : Option Nat
  starTi : Nat
deriving DecidableEq, Repr

/-- In the first loop, with its variables, or in the second, which skips trailing stars. -/
inductive GlobState where
  | scanning (c : Cursors)
  | skippingStars (pi : Nat)
deriving DecidableEq, Repr

inductive GlobOutcome where
  | returned (b : Bool)
  | outOfBounds
deriving DecidableEq, Repr

section Matcher

variable (pattern text : List Char)

/-- `pi < pattern.len() && (pattern[pi] == '?' || pattern[pi] == text[ti])`; `none` is an
index out of bounds. -/
def consumes (pi ti : Nat) : Option Bool :=
  if pi < pattern.length then do
    let p ← pattern[pi]?
    if p = '?' then some true
    else do
      let t ← text[ti]?
      some (p == t)
  else some false

/-- `pi < pattern.len() && pattern[pi] == '*'`. -/
def atStar (pi : Nat) : Option Bool :=
  if pi < pattern.length then do
    let p ← pattern[pi]?
    some (p == '*')
  else some false

/-- One turn of the first loop: a match, a star, a step back to the last star, or the end
without a match. -/
def scanTurn (c : Cursors) : Loop.Turn GlobState GlobOutcome :=
  if c.ti < text.length then
    match consumes pattern text c.pi c.ti with
    | none => .leave .outOfBounds
    | some true => .again (.scanning { c with pi := c.pi + 1, ti := c.ti + 1 })
    | some false =>
        match atStar pattern c.pi with
        | none => .leave .outOfBounds
        | some true =>
            .again (.scanning { c with starPi := some c.pi, starTi := c.ti, pi := c.pi + 1 })
        | some false =>
            match c.starPi with
            | some spi =>
                .again (.scanning
                  { c with pi := spi + 1, starTi := c.starTi + 1, ti := c.starTi + 1 })
            | none => .leave (.returned false)
  else .again (.skippingStars c.pi)

/-- One turn of either loop, or the answer. -/
def globTurn : GlobState → Loop.Turn GlobState GlobOutcome
  | .scanning c => scanTurn pattern text c
  | .skippingStars pi =>
      match atStar pattern pi with
      | none => .leave .outOfBounds
      | some true => .again (.skippingStars (pi + 1))
      | some false => .leave (.returned (pi == pattern.length))

/-- `glob_match_inner` in at most `fuel` turns; enough of them are given in terms of the two
lengths. -/
def globMatchInner (fuel : Nat) : Option GlobOutcome :=
  Loop.run (globTurn pattern text) fuel
    (.scanning { pi := 0, ti := 0, starPi := none, starTi := 0 })

end Matcher

/-! ### The meaning of a pattern -/

/-- What a character of a pattern stands for. -/
def symbol (c : Char) : Symbol Char :=
  if c = '*' then .many
  else if c = '?' then .one fun _ => True
  else .one fun a => a = c

/-- The text matches the pattern: a star is any sequence of characters, a question mark any
character, and every other character is itself. -/
def GlobMatches (pattern text : List Char) : Prop := Matches (pattern.map symbol) text

theorem globMatches_star_iff {pattern text : List Char} :
    GlobMatches ('*' :: pattern) text ↔ ∃ k ≤ text.length, GlobMatches pattern (text.drop k) :=
  matches_many_iff

/-- A symbol that is no star takes one character. -/
theorem globMatches_cons_iff {pattern text : List Char} {p t : Char} (hp : p ≠ '*') :
    GlobMatches (p :: pattern) (t :: text) ↔ (p = '?' ∨ p = t) ∧ GlobMatches pattern text := by
  unfold GlobMatches
  rw [List.map_cons, symbol, if_neg hp]
  by_cases hany : p = '?'
  · rw [if_pos hany, matches_one_iff, true_and, and_iff_right (Or.inl hany)]
  · rw [if_neg hany, matches_one_iff, or_iff_right hany, eq_comm]

theorem not_globMatches_cons_nil {pattern : List Char} {p : Char} (hp : p ≠ '*') :
    ¬ GlobMatches (p :: pattern) [] := by
  unfold GlobMatches
  rw [List.map_cons, symbol, if_neg hp]
  split
  · rintro ⟨_, _, h, -⟩
    cases h
  · rintro ⟨_, _, h, -⟩
    cases h

theorem isOne_of_no_star {segment : List Char} (h : '*' ∉ segment) :
    ∀ s ∈ segment.map symbol, s.IsOne := by
  intro s hs
  obtain ⟨c, hc, rfl⟩ := List.mem_map.mp hs
  have hstar : c ≠ '*' := fun heq => h (heq ▸ hc)
  unfold symbol
  rw [if_neg hstar]
  split
  · trivial
  · trivial

/-! ### Reading at the cursors -/

section Reads

variable {pattern text : List Char} {pi ti : Nat}

theorem getElem?_of_drop {l rest : List Char} {c : Char} {i : Nat} (h : l.drop i = c :: rest) :
    i < l.length ∧ l[i]? = some c ∧ l.drop (i + 1) = rest := by
  have hlt : i < l.length := by
    by_contra hge
    rw [List.drop_eq_nil_of_le (Nat.not_lt.mp hge)] at h
    cases h
  rw [List.drop_eq_getElem_cons hlt, List.cons.injEq] at h
  exact ⟨hlt, (List.getElem?_eq_getElem hlt).trans (congrArg some h.1), h.2⟩

theorem consumes_end (h : pattern.length ≤ pi) : consumes pattern text pi ti = some false := by
  rw [consumes, if_neg (Nat.not_lt.mpr h)]

theorem atStar_end (h : pattern.length ≤ pi) : atStar pattern pi = some false := by
  rw [atStar, if_neg (Nat.not_lt.mpr h)]

theorem consumes_cons {p t : Char} {pattern' text' : List Char}
    (hp : pattern.drop pi = p :: pattern') (ht : text.drop ti = t :: text') :
    consumes pattern text pi ti = some (decide (p = '?' ∨ p = t)) := by
  obtain ⟨hlt, hread, -⟩ := getElem?_of_drop hp
  obtain ⟨-, hread', -⟩ := getElem?_of_drop ht
  rw [consumes, if_pos hlt, hread, hread']
  by_cases hany : p = '?'
  · simp [hany]
  · simp [hany, beq_eq_decide]

theorem atStar_cons {p : Char} {pattern' : List Char} (hp : pattern.drop pi = p :: pattern') :
    atStar pattern pi = some (decide (p = '*')) := by
  obtain ⟨hlt, hread, -⟩ := getElem?_of_drop hp
  rw [atStar, if_pos hlt, hread]
  rfl

end Reads

/-! ### What the cursors know -/

/-- Between the last star and the cursor the pattern has no further star and has matched
character by character; the text matches as it stands, or the star has to take more. -/
structure BehindStar (pattern text : List Char) (spi : Nat) (c : Cursors) : Prop where
  segment : ∃ segment, pattern.drop (spi + 1) = segment ++ pattern.drop c.pi ∧ '*' ∉ segment ∧
    c.pi = spi + 1 + segment.length ∧ c.ti = c.starTi + segment.length
  verdict : GlobMatches pattern text ↔
    GlobMatches (pattern.drop c.pi) (text.drop c.ti) ∨
      ∃ k, c.starTi < k ∧ k ≤ text.length ∧ GlobMatches (pattern.drop (spi + 1)) (text.drop k)

structure Tracks (pattern text : List Char) (c : Cursors) : Prop where
  pi_le : c.pi ≤ pattern.length
  ti_le : c.ti ≤ text.length
  starTi_le : c.starTi ≤ c.ti
  without_star : c.starPi = none →
    (GlobMatches pattern text ↔ GlobMatches (pattern.drop c.pi) (text.drop c.ti))
  behind_star : ∀ spi, c.starPi = some spi → BehindStar pattern text spi c

/-- A star takes nothing here, or it takes more, which is the choice the loop makes by going
back. -/
theorem globMatches_star_drop_iff {pattern text : List Char} {ti : Nat} (hti : ti ≤ text.length) :
    GlobMatches ('*' :: pattern) (text.drop ti) ↔
      GlobMatches pattern (text.drop ti) ∨
        ∃ k, ti < k ∧ k ≤ text.length ∧ GlobMatches pattern (text.drop k) := by
  rw [globMatches_star_iff, List.length_drop]
  constructor
  · rintro ⟨k, hk, hmatches⟩
    rw [List.drop_drop] at hmatches
    rcases Nat.eq_zero_or_pos k with rfl | hpos
    · exact Or.inl hmatches
    · exact Or.inr ⟨ti + k, by omega, by omega, hmatches⟩
  · rintro (hmatches | ⟨k, hlt, hle, hmatches⟩)
    · exact ⟨0, Nat.zero_le _, hmatches⟩
    · refine ⟨k - ti, by omega, ?_⟩
      rw [List.drop_drop, Nat.add_sub_cancel' (Nat.le_of_lt hlt)]
      exact hmatches

section Turns

variable {pattern text : List Char} {c : Cursors}

theorem tracks_start :
    Tracks pattern text { pi := 0, ti := 0, starPi := none, starTi := 0 } where
  pi_le := Nat.zero_le _
  ti_le := Nat.zero_le _
  starTi_le := Nat.le_refl _
  without_star := fun _ => Iff.rfl
  behind_star := fun _ h => nomatch h

/-- Both cursors move on over a character that matches. -/
theorem Tracks.consume (h : Tracks pattern text c) {p t : Char} {pattern' text' : List Char}
    (hp : pattern.drop c.pi = p :: pattern') (ht : text.drop c.ti = t :: text') (hstar : p ≠ '*')
    (hmatch : p = '?' ∨ p = t) :
    Tracks pattern text { c with pi := c.pi + 1, ti := c.ti + 1 } := by
  obtain ⟨hpi, -, hp'⟩ := getElem?_of_drop hp
  obtain ⟨hti, -, ht'⟩ := getElem?_of_drop ht
  have hrest : GlobMatches (pattern.drop c.pi) (text.drop c.ti) ↔
      GlobMatches (pattern.drop (c.pi + 1)) (text.drop (c.ti + 1)) := by
    rw [hp, ht, hp', ht', globMatches_cons_iff hstar, and_iff_right hmatch]
  refine ⟨hpi, hti, Nat.le_succ_of_le h.starTi_le, ?_, ?_⟩
  · intro hnone
    exact (h.without_star hnone).trans hrest
  · intro spi hspi
    obtain ⟨⟨segment, hsegment, hno, hpi', hti'⟩, hverdict⟩ := h.behind_star spi hspi
    refine ⟨⟨segment ++ [p], ?_, ?_, ?_, ?_⟩, ?_⟩
    · rw [hsegment, hp, List.append_assoc, List.singleton_append]
      exact congrArg (segment ++ p :: ·) hp'.symm
    · intro hmem
      rcases List.mem_append.mp hmem with hmem | hmem
      · exact hno hmem
      · exact hstar (List.mem_singleton.mp hmem).symm
    · rw [List.length_append, List.length_singleton, ← Nat.add_assoc, ← hpi']
    · rw [List.length_append, List.length_singleton, ← Nat.add_assoc, ← hti']
    · rw [hverdict, hrest]

/-- At a star the one before it can be forgotten. -/
theorem Tracks.at_star (h : Tracks pattern text c) {pattern' : List Char}
    (hp : pattern.drop c.pi = '*' :: pattern') :
    GlobMatches pattern text ↔ GlobMatches ('*' :: pattern') (text.drop c.ti) := by
  cases hstar : c.starPi with
  | none =>
      rw [h.without_star hstar, hp]
  | some spi =>
      obtain ⟨⟨segment, hsegment, hno, -, hti⟩, hverdict⟩ := h.behind_star spi hstar
      rw [hverdict, hp, or_iff_left_of_imp]
      rintro ⟨k, hk, -, hmatches⟩
      rw [hsegment, hp] at hmatches
      unfold GlobMatches at hmatches
      rw [List.map_append] at hmatches
      have hresume := hmatches.resume (isOne_of_no_star hno) (Nat.le_of_lt hk)
      rw [List.length_map, ← hti] at hresume
      exact hresume

/-- The cursors go on behind a star, which is remembered. -/
theorem Tracks.star (h : Tracks pattern text c) {pattern' : List Char}
    (hp : pattern.drop c.pi = '*' :: pattern') :
    Tracks pattern text { c with starPi := some c.pi, starTi := c.ti, pi := c.pi + 1 } := by
  obtain ⟨hpi, -, hp'⟩ := getElem?_of_drop hp
  refine ⟨hpi, h.ti_le, Nat.le_refl _, nofun, ?_⟩
  rintro spi ⟨⟩
  refine ⟨⟨[], rfl, List.not_mem_nil, rfl, rfl⟩, ?_⟩
  rw [h.at_star hp, globMatches_star_drop_iff h.ti_le, hp']

/-- On a mismatch the last star takes one more character, and nothing that was given up could
have matched. -/
theorem Tracks.backtrack (h : Tracks pattern text c) (hti : c.ti < text.length) {spi : Nat}
    (hstar : c.starPi = some spi)
    (hmismatch : ¬ GlobMatches (pattern.drop c.pi) (text.drop c.ti)) :
    Tracks pattern text
      { c with pi := spi + 1, starTi := c.starTi + 1, ti := c.starTi + 1 } := by
  obtain ⟨⟨segment, -, -, hpi, -⟩, hverdict⟩ := h.behind_star spi hstar
  have hpi_le := h.pi_le
  have hstar_lt : c.starTi < text.length := Nat.lt_of_le_of_lt h.starTi_le hti
  refine ⟨by show spi + 1 ≤ _; omega, hstar_lt, Nat.le_refl _, ?_, ?_⟩
  · intro hnone
    rw [hstar] at hnone
    cases hnone
  · intro spi' hspi'
    cases hstar.symm.trans hspi'
    refine ⟨⟨[], rfl, List.not_mem_nil, rfl, rfl⟩, ?_⟩
    rw [hverdict, or_iff_right hmismatch]
    constructor
    · rintro ⟨k, hlt, hle, hmatches⟩
      rcases Nat.eq_or_lt_of_le (Nat.succ_le_of_lt hlt) with rfl | hlt'
      · exact Or.inl hmatches
      · exact Or.inr ⟨k, hlt', hle, hmatches⟩
    · rintro (hmatches | ⟨k, hlt, hle, hmatches⟩)
      · exact ⟨c.starTi + 1, Nat.lt_succ_self _, hstar_lt, hmatches⟩
      · exact ⟨k, Nat.lt_of_succ_lt hlt, hle, hmatches⟩

/-- At the end of the text the last star cannot take more: the characters behind it would
not fit. -/
theorem Tracks.finish (h : Tracks pattern text c) (hend : c.ti = text.length) :
    GlobMatches pattern text ↔ GlobMatches (pattern.drop c.pi) [] := by
  have hnil : text.drop c.ti = [] := by rw [hend, List.drop_length]
  cases hstar : c.starPi with
  | none => rw [h.without_star hstar, hnil]
  | some spi =>
      obtain ⟨⟨segment, hsegment, hno, -, hti⟩, hverdict⟩ := h.behind_star spi hstar
      rw [hverdict, hnil, or_iff_left]
      rintro ⟨k, hlt, hle, hmatches⟩
      rw [hsegment] at hmatches
      unfold GlobMatches at hmatches
      rw [List.map_append] at hmatches
      obtain ⟨hroom, -⟩ := hmatches.of_append (isOne_of_no_star hno)
      rw [List.length_map, List.length_drop] at hroom
      omega

/-- A mismatch: the pattern is at its end, or at a character that is not the text's. -/
theorem not_globMatches_of_mismatch {t : Char} {text' : List Char}
    (ht : text.drop c.ti = t :: text') (hconsumes : consumes pattern text c.pi c.ti = some false)
    (hstar : atStar pattern c.pi = some false) :
    ¬ GlobMatches (pattern.drop c.pi) (text.drop c.ti) := by
  rw [ht]
  cases hp : pattern.drop c.pi with
  | nil =>
      intro h
      cases h
  | cons p pattern' =>
      rw [consumes_cons hp ht, Option.some.injEq, decide_eq_false_iff_not] at hconsumes
      rw [atStar_cons hp, Option.some.injEq, decide_eq_false_iff_not] at hstar
      rw [globMatches_cons_iff hstar]
      exact fun h => hconsumes h.1

end Turns

/-! ### The loops end -/

/-- The invariant of both loops: the pattern matches the text exactly if what is left of it,
or what the last star leaves, does. -/
def GlobInv (pattern text : List Char) : GlobState → Prop
  | .scanning c => Tracks pattern text c
  | .skippingStars pi =>
      pi ≤ pattern.length ∧ (GlobMatches pattern text ↔ GlobMatches (pattern.drop pi) [])

/-- Both cursors may move back, but then the star has taken more: the measure is
lexicographic, and bounds the turns. -/
def globMeasure (pattern text : List Char) : GlobState → Nat × Nat
  | .scanning c =>
      (text.length - c.starTi + 1, (text.length - c.ti) + (pattern.length - c.pi))
  | .skippingStars pi => (0, pattern.length - pi)

/-- The answer is the right one: whether the pattern matches the text, in the language of
`Lib.Wildcard`. -/
def GlobPost (pattern text : List Char) (outcome : GlobOutcome) : Prop :=
  ∃ b, outcome = .returned b ∧ (b = true ↔ GlobMatches pattern text)

section Rule

variable (pattern text : List Char)

/-- What the rule for loops asks of a turn: it keeps the invariant and lowers the measure, or
it answers rightly. -/
def TurnsRight (s : GlobState) : Prop :=
  (∃ s', globTurn pattern text s = .again s' ∧ GlobInv pattern text s' ∧
    WellFoundedRelation.rel (globMeasure pattern text s') (globMeasure pattern text s)) ∨
  ∃ r, globTurn pattern text s = .leave r ∧ GlobPost pattern text r

variable {pattern text} {c : Cursors}

theorem rel_of_lex {a b x y : Nat} (h : a < b ∨ a = b ∧ x < y) :
    WellFoundedRelation.rel (a, x) (b, y) :=
  Prod.lex_def.mpr h

theorem turnsRight_mismatch (h : Tracks pattern text c) (hti : c.ti < text.length)
    (hconsumes : consumes pattern text c.pi c.ti = some false)
    (hatStar : atStar pattern c.pi = some false) : TurnsRight pattern text (.scanning c) := by
  have hmismatch := not_globMatches_of_mismatch (List.drop_eq_getElem_cons hti) hconsumes hatStar
  have hstarTi := h.starTi_le
  cases hstar : c.starPi with
  | some spi =>
      refine Or.inl ⟨.scanning { c with pi := spi + 1, starTi := c.starTi + 1, ti := c.starTi + 1 },
        ?_, h.backtrack hti hstar hmismatch, rel_of_lex (Or.inl ?_)⟩
      · simp only [globTurn, scanTurn, if_pos hti, hconsumes, hatStar, hstar]
      · show text.length - (c.starTi + 1) + 1 < text.length - c.starTi + 1
        omega
  | none =>
      refine Or.inr ⟨.returned false, ?_, false, rfl, ?_⟩
      · simp only [globTurn, scanTurn, if_pos hti, hconsumes, hatStar, hstar]
      · rw [h.without_star hstar]
        exact iff_of_false Bool.false_ne_true hmismatch

theorem turnsRight_scanning (hno : '*' ∉ text) (h : Tracks pattern text c) :
    TurnsRight pattern text (.scanning c) := by
  have hti_le := h.ti_le
  have hstarTi := h.starTi_le
  by_cases hti : c.ti < text.length
  · obtain ⟨t, text', ht⟩ : ∃ t text', text.drop c.ti = t :: text' :=
      ⟨_, _, List.drop_eq_getElem_cons hti⟩
    have htext : t ≠ '*' := by
      rintro rfl
      exact hno (List.mem_of_mem_drop (ht ▸ List.mem_cons_self))
    cases hp : pattern.drop c.pi with
    | nil =>
        have hend : pattern.length ≤ c.pi := List.drop_eq_nil_iff.mp hp
        exact turnsRight_mismatch h hti (consumes_end hend) (atStar_end hend)
    | cons p pattern' =>
        have hpi := (getElem?_of_drop hp).1
        have hconsumes := consumes_cons hp ht
        have hatStar := atStar_cons hp
        by_cases hmatch : p = '?' ∨ p = t
        · rw [decide_eq_true hmatch] at hconsumes
          have hstar : p ≠ '*' := by
            rintro rfl
            rcases hmatch with hany | hsame
            · exact absurd hany (by decide)
            · exact htext hsame.symm
          refine Or.inl ⟨.scanning { c with pi := c.pi + 1, ti := c.ti + 1 }, ?_,
            h.consume hp ht hstar hmatch, rel_of_lex (Or.inr ⟨rfl, ?_⟩)⟩
          · simp only [globTurn, scanTurn, if_pos hti, hconsumes]
          · show text.length - (c.ti + 1) + (pattern.length - (c.pi + 1)) <
              text.length - c.ti + (pattern.length - c.pi)
            omega
        · rw [decide_eq_false hmatch] at hconsumes
          by_cases hstar : p = '*'
          · rw [decide_eq_true hstar] at hatStar
            rw [hstar] at hp
            refine Or.inl ⟨.scanning { c with starPi := some c.pi, starTi := c.ti, pi := c.pi + 1 },
              ?_, h.star hp, rel_of_lex ?_⟩
            · simp only [globTurn, scanTurn, if_pos hti, hconsumes, hatStar]
            · show text.length - c.ti + 1 < text.length - c.starTi + 1 ∨
                text.length - c.ti + 1 = text.length - c.starTi + 1 ∧
                  text.length - c.ti + (pattern.length - (c.pi + 1)) <
                    text.length - c.ti + (pattern.length - c.pi)
              omega
          · rw [decide_eq_false hstar] at hatStar
            exact turnsRight_mismatch h hti hconsumes hatStar
  · refine Or.inl ⟨.skippingStars c.pi, ?_, ⟨h.pi_le, h.finish (by omega)⟩,
      rel_of_lex (Or.inl (Nat.succ_pos _))⟩
    simp only [globTurn, scanTurn, if_neg hti]

theorem turnsRight_skippingStars {pi : Nat} (hpi : pi ≤ pattern.length)
    (hverdict : GlobMatches pattern text ↔ GlobMatches (pattern.drop pi) []) :
    TurnsRight pattern text (.skippingStars pi) := by
  cases hp : pattern.drop pi with
  | nil =>
      have hend : pattern.length ≤ pi := List.drop_eq_nil_iff.mp hp
      refine Or.inr ⟨.returned (pi == pattern.length), ?_, _, rfl, ?_⟩
      · simp only [globTurn, atStar_end hend]
      · rw [hverdict, hp]
        exact iff_of_true (beq_iff_eq.mpr (Nat.le_antisymm hpi hend)) rfl
  | cons p pattern' =>
      obtain ⟨hlt, -, hp'⟩ := getElem?_of_drop hp
      have hatStar := atStar_cons hp
      by_cases hstar : p = '*'
      · rw [decide_eq_true hstar] at hatStar
        refine Or.inl ⟨.skippingStars (pi + 1), ?_, ⟨hlt, ?_⟩, rel_of_lex (Or.inr ⟨rfl, ?_⟩)⟩
        · simp only [globTurn, hatStar]
        · rw [hverdict, hp, hp', hstar]
          exact matches_many_nil_iff
        · omega
      · rw [decide_eq_false hstar] at hatStar
        refine Or.inr ⟨.returned (pi == pattern.length), ?_, _, rfl, ?_⟩
        · simp only [globTurn, hatStar]
        · rw [hverdict, hp]
          refine iff_of_false ?_ (not_globMatches_cons_nil hstar)
          rw [beq_iff_eq]
          exact Nat.ne_of_lt hlt

end Rule

/-- **Glob matching.** On a text without a star, `glob_match_inner` ends without reading out
of bounds, and returns whether the text matches the pattern. -/
theorem globMatchInner_decides (pattern text : List Char) (hno : '*' ∉ text) :
    ∃ b turns, (∀ fuel, turns ≤ fuel → globMatchInner pattern text fuel = some (.returned b)) ∧
      (b = true ↔ GlobMatches pattern text) := by
  obtain ⟨r, ⟨turns, hturns⟩, b, rfl, hb⟩ := Loop.exists_returns (globMeasure pattern text)
    (GlobInv pattern text) (GlobPost pattern text)
    (fun s hs => match s, hs with
      | .scanning _, h => turnsRight_scanning hno h
      | .skippingStars _, h => turnsRight_skippingStars h.1 h.2)
    (.scanning { pi := 0, ti := 0, starPi := none, starTi := 0 }) tracks_start
  exact ⟨b, turns, hturns, hb⟩

/-- Devices behind port 4 of bus 1. -/
theorem globMatchInner_decides_port :
    GlobMatches ['1', '-', '4', '.', '*'] ['1', '-', '4', '.', '2', '.', '3'] ∧
    ∃ turns, ∀ fuel, turns ≤ fuel →
      globMatchInner ['1', '-', '4', '.', '*'] ['1', '-', '4', '.', '2', '.', '3'] fuel =
        some (.returned true) := by
  have hmatches : GlobMatches ['1', '-', '4', '.', '*'] ['1', '-', '4', '.', '2', '.', '3'] :=
    ⟨'1', _, rfl, rfl, '-', _, rfl, rfl, '4', _, rfl, rfl, '.', _, rfl, rfl,
      ['2', '.', '3'], [], rfl, rfl⟩
  obtain ⟨b, turns, hturns, hb⟩ := globMatchInner_decides ['1', '-', '4', '.', '*']
    ['1', '-', '4', '.', '2', '.', '3'] (by decide)
  rw [hb.mpr hmatches] at hturns
  exact ⟨hmatches, turns, hturns⟩

end Extender.Server
