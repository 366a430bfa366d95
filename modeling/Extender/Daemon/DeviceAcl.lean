/-
The device access control list (`device_acl.rs`).

Patterns are `vendor:product`. Each side is `*` or a hexadecimal number of sixteen bits:
blanks around it are trimmed, and what is left goes to `u16::from_str_radix`. So any number of
digits will do, not four alone, as long as the value fits, and a `+` in front of it is read
over: `bda:*` is the pattern `0bda:*`. A text without exactly one colon is no pattern.

A pattern that does not parse matches nothing and is not reported. Deny patterns take
priority, and an empty allow list allows everything that is not denied. A list of allow
patterns of which none parses is not empty, and allows nothing.

Patterns are specified as they are written (`Sides`, `IsSide`, `SideMatches`): a text, the two
sides of its colon, and what each of them says about an id. The parser and `matches` are
proved to decide that, and the result about the decision speaks of texts only. What a side is
as a number is the reader of `Lib.Text`, where `fromStrRadix_eq_ok_iff` tells which texts it
takes.

* `parse_any_matchesIds` — a pattern as it is written: the parser and `matches` together.
* `isDeviceAllowed_decides` — the decision by the sets of patterns in the two lists, and what
  adding a pattern can do to it.
-/

import Extender.Lib.Text

namespace Extender.Daemon

open Text

/-- `SecurityConfig` of the daemon's configuration (`config.rs`). -/
structure SecurityConfig where
  allowedDevices : List String
  deniedDevices : List String
deriving DecidableEq, Repr

/-- A parsed pattern; `none` is the wildcard. -/
structure DevicePattern where
  vendorId : Option UInt16
  productId : Option UInt16
deriving DecidableEq, Repr

namespace DevicePattern

/-- `parse_component`: a hexadecimal number or a wildcard, trimmed. -/
def parseComponent (s : List Char) : Option (Option UInt16) :=
  if trim s = ['*'] then some none
  else
    match fromStrRadix 16 (2 ^ 16) (trim s) with
    | .ok value => some (some (UInt16.ofNat value))
    | .error _ => none

/-- `parse`: exactly one colon, and a component on either side of it. -/
def parse (pattern : String) : Option DevicePattern :=
  match pattern.toList.splitOn ':' with
  | [vendor, product] => do
    let vendorId ← parseComponent vendor
    let productId ← parseComponent product
    some { vendorId, productId }
  | _ => none

/-- `matches`: each component is a wildcard or the id. -/
def matchesIds (p : DevicePattern) (vid pid : UInt16) : Bool :=
  p.vendorId.all (· = vid) && p.productId.all (· = pid)

end DevicePattern

/-- Some pattern of the list parses and matches. -/
def anyMatches (patterns : List String) (vid pid : UInt16) : Bool :=
  patterns.any fun s => (DevicePattern.parse s).any fun p => p.matchesIds vid pid

/-- `is_device_allowed`: the deny list first, then the allow list unless it is empty. -/
def isDeviceAllowed (vid pid : UInt16) (config : SecurityConfig) : Bool :=
  if anyMatches config.deniedDevices vid pid then false
  else if config.allowedDevices.isEmpty then true
  else anyMatches config.allowedDevices vid pid

/-! ### Patterns as they are written -/

/-- The text has exactly one colon, with `vendor` before it and `product` behind. -/
def Sides (s : String) (vendor product : List Char) : Prop :=
  s.toList = vendor ++ ':' :: product ∧ ':' ∉ vendor ∧ ':' ∉ product

/-- A side is, trimmed, the wildcard or a hexadecimal number of 16 bits. -/
def IsSide (side : List Char) : Prop :=
  trim side = ['*'] ∨ ∃ n, fromStrRadix 16 (2 ^ 16) (trim side) = .ok n

/-- A side matches an id: it is the wildcard, or the number is the id. -/
def SideMatches (side : List Char) (id : UInt16) : Prop :=
  trim side = ['*'] ∨ fromStrRadix 16 (2 ^ 16) (trim side) = .ok id.toNat

/-- The text is a pattern. -/
def WellFormed (s : String) : Prop :=
  ∃ vendor product, Sides s vendor product ∧ IsSide vendor ∧ IsSide product

/-- The text is a pattern whose sides match the two ids. -/
def MatchesDevice (s : String) (vid pid : UInt16) : Prop :=
  ∃ vendor product, Sides s vendor product ∧ SideMatches vendor vid ∧ SideMatches product pid

/-- A side that matches an id is one a pattern can have. -/
theorem SideMatches.isSide {side : List Char} {id : UInt16} (h : SideMatches side id) :
    IsSide side := by
  rcases h with hstar | hnumber
  · exact Or.inl hstar
  · exact Or.inr ⟨_, hnumber⟩

/-- A pattern that is not well formed matches nothing. -/
theorem MatchesDevice.wellFormed {s : String} {vid pid : UInt16} (h : MatchesDevice s vid pid) :
    WellFormed s := by
  obtain ⟨vendor, product, hsides, hvendor, hproduct⟩ := h
  exact ⟨vendor, product, hsides, hvendor.isSide, hproduct.isSide⟩

namespace DevicePattern

/-- A component that matches an id was read from a side that does. -/
theorem parseComponent_any_all (side : List Char) (id : UInt16) :
    (∃ c, parseComponent side = some c ∧ c.all (· = id) = true) ↔ SideMatches side id := by
  unfold parseComponent SideMatches
  by_cases hstar : trim side = ['*']
  · rw [if_pos hstar]
    exact iff_of_true ⟨none, rfl, rfl⟩ (Or.inl hstar)
  · rw [if_neg hstar, or_iff_right hstar]
    cases hparse : fromStrRadix 16 (2 ^ 16) (trim side) with
    | error e => exact iff_of_false (fun ⟨_, h, _⟩ => nomatch h) (fun h => nomatch h)
    | ok n =>
        have hlt : n < 2 ^ 16 := fromStrRadix_lt (by decide) hparse
        have hword : (UInt16.ofNat n).toNat = n := UInt16.toNat_ofNat_of_lt' hlt
        simp only [Option.some.injEq, exists_eq_left', Option.all_some, decide_eq_true_eq,
          Except.ok.injEq]
        rw [← UInt16.toNat_inj, hword]

/-- The parser and `matches` together: a text matches iff its sides do. -/
theorem parse_any_matchesIds (s : String) (vid pid : UInt16) :
    ((parse s).any fun p => p.matchesIds vid pid) = true ↔ MatchesDevice s vid pid := by
  rw [Option.any_eq_true]
  constructor
  · rintro ⟨p, hparse, hmatches⟩
    unfold parse at hparse
    split at hparse
    · rename_i vendor product hsplit
      obtain ⟨vendorId, hvendor, hrest⟩ := Option.bind_eq_some_iff.mp hparse
      obtain ⟨productId, hproduct, hp⟩ := Option.bind_eq_some_iff.mp hrest
      cases hp
      obtain ⟨hvid, hpid⟩ := Bool.and_eq_true_iff.mp hmatches
      exact ⟨vendor, product, splitOn_eq_pair_iff.mp hsplit,
        (parseComponent_any_all vendor vid).mp ⟨vendorId, hvendor, hvid⟩,
        (parseComponent_any_all product pid).mp ⟨productId, hproduct, hpid⟩⟩
    · cases hparse
  · rintro ⟨vendor, product, hsides, hvendor, hproduct⟩
    obtain ⟨vendorId, hvendorId, hvid⟩ := (parseComponent_any_all vendor vid).mpr hvendor
    obtain ⟨productId, hproductId, hpid⟩ := (parseComponent_any_all product pid).mpr hproduct
    refine ⟨{ vendorId, productId }, ?_, Bool.and_eq_true_iff.mpr ⟨hvid, hpid⟩⟩
    unfold parse
    rw [splitOn_eq_pair_iff.mpr hsides]
    simp only [hvendorId, hproductId]
    rfl

end DevicePattern

/-! ### The decision -/

theorem anyMatches_iff (patterns : List String) (vid pid : UInt16) :
    anyMatches patterns vid pid = true ↔ ∃ s ∈ patterns, MatchesDevice s vid pid := by
  unfold anyMatches
  rw [List.any_eq_true]
  simp only [DevicePattern.parse_any_matchesIds]

/-- The loops and the special case of the empty allow list. -/
theorem isDeviceAllowed_iff (vid pid : UInt16) (config : SecurityConfig) :
    isDeviceAllowed vid pid config = true ↔
      (∀ s ∈ config.deniedDevices, ¬ MatchesDevice s vid pid) ∧
      (config.allowedDevices = [] ∨ ∃ s ∈ config.allowedDevices, MatchesDevice s vid pid) := by
  unfold isDeviceAllowed
  by_cases hdenied : anyMatches config.deniedDevices vid pid = true
  · rw [if_pos hdenied]
    obtain ⟨s, hs, hmatches⟩ := (anyMatches_iff _ _ _).mp hdenied
    exact iff_of_false Bool.false_ne_true fun h => h.1 s hs hmatches
  · rw [if_neg hdenied]
    have hnone : ∀ s ∈ config.deniedDevices, ¬ MatchesDevice s vid pid := by
      intro s hs hmatches
      exact hdenied ((anyMatches_iff _ _ _).mpr ⟨s, hs, hmatches⟩)
    rw [and_iff_right hnone]
    by_cases hempty : config.allowedDevices = []
    · rw [if_pos (List.isEmpty_iff.mpr hempty)]
      exact iff_of_true rfl (Or.inl hempty)
    · rw [if_neg (fun h => hempty (List.isEmpty_iff.mp h)), anyMatches_iff, or_iff_right hempty]

/-- **Access control.** A device is allowed iff no well-formed pattern of the deny list
matches it and the allow list is empty or has a well-formed pattern that does. So only the
sets of patterns count, further deny patterns never allow a device, and further allow
patterns never deny one unless the list was empty. -/
theorem isDeviceAllowed_decides (vid pid : UInt16) :
    (∀ config, isDeviceAllowed vid pid config = true ↔
      (∀ s ∈ config.deniedDevices, WellFormed s → ¬ MatchesDevice s vid pid) ∧
      (config.allowedDevices = [] ∨
        ∃ s ∈ config.allowedDevices, WellFormed s ∧ MatchesDevice s vid pid)) ∧
    (∀ config config' : SecurityConfig,
      (∀ s, s ∈ config.deniedDevices ↔ s ∈ config'.deniedDevices) →
      (∀ s, s ∈ config.allowedDevices ↔ s ∈ config'.allowedDevices) →
      isDeviceAllowed vid pid config = isDeviceAllowed vid pid config') ∧
    (∀ (config : SecurityConfig) (denied : List String), config.deniedDevices ⊆ denied →
      isDeviceAllowed vid pid config = false →
      isDeviceAllowed vid pid { config with deniedDevices := denied } = false) ∧
    (∀ (config : SecurityConfig) (allowed : List String), config.allowedDevices ≠ [] →
      config.allowedDevices ⊆ allowed → isDeviceAllowed vid pid config = true →
      isDeviceAllowed vid pid { config with allowedDevices := allowed } = true) := by
  refine ⟨?_, ?_, ?_, ?_⟩
  · intro config
    have hdenied : ∀ s, (WellFormed s → ¬ MatchesDevice s vid pid) ↔
        ¬ MatchesDevice s vid pid := by
      intro s
      exact ⟨fun h hmatches => h hmatches.wellFormed hmatches, fun h _ => h⟩
    have hallowed : ∀ s, (WellFormed s ∧ MatchesDevice s vid pid) ↔
        MatchesDevice s vid pid := by
      intro s
      exact ⟨And.right, fun h => ⟨h.wellFormed, h⟩⟩
    simp only [hdenied, hallowed]
    exact isDeviceAllowed_iff vid pid config
  · intro config config' hdenied hallowed
    have hempty : config.allowedDevices = [] ↔ config'.allowedDevices = [] := by
      simp only [List.eq_nil_iff_forall_not_mem, hallowed]
    rw [Bool.eq_iff_iff, isDeviceAllowed_iff, isDeviceAllowed_iff, hempty]
    simp only [hdenied, hallowed]
  · intro config denied hsub hfalse
    rw [Bool.eq_false_iff] at hfalse ⊢
    intro htrue
    obtain ⟨hdenied, hallowed⟩ := (isDeviceAllowed_iff vid pid _).mp htrue
    exact hfalse ((isDeviceAllowed_iff vid pid config).mpr
      ⟨fun s hs => hdenied s (hsub hs), hallowed⟩)
  · intro config allowed hne hsub htrue
    obtain ⟨hdenied, hallowed⟩ := (isDeviceAllowed_iff vid pid config).mp htrue
    obtain ⟨s, hs, hmatches⟩ := hallowed.resolve_left hne
    exact (isDeviceAllowed_iff vid pid _).mpr ⟨hdenied, Or.inr ⟨s, hsub hs, hmatches⟩⟩

/-- Deny takes priority over allow, and a malformed pattern is ignored. -/
example : isDeviceAllowed 0x0bda 0x8153
    { allowedDevices := ["*:*"], deniedDevices := ["0bda:*"] } = false ∧
    isDeviceAllowed 0x0bda 0x8153
      { allowedDevices := [], deniedDevices := ["0bda", "0bda:8153:1"] } = true := by
  decide +kernel

end Extender.Daemon
