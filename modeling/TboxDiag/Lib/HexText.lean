import TboxDiag.Lib.Bytes

/-!
# Lib.HexText

Hexadecimal text, as a string of byte-sized characters.

* `Spells`: the text that has two digits for each byte, in either case, the high digit first.
  Hexadecimal text spells one byte string (`exists_spells`, `Spells.unique`).
* `stoi16`: the base-16 number at the head of a text, as `std::stoi` reads it, and what that makes
  of two characters.
-/

namespace Effects

/-- The value of a hexadecimal digit. -/
def hexDigit (c : UInt8) : Option Nat :=
  let n := c.toNat
  if 0x30 ≤ n ∧ n ≤ 0x39 then some (n - 0x30)
  else if 0x41 ≤ n ∧ n ≤ 0x46 then some (n - 0x37)
  else if 0x61 ≤ n ∧ n ≤ 0x66 then some (n - 0x57)
  else none

def IsHexDigit (c : UInt8) : Prop := (hexDigit c).isSome

instance (c : UInt8) : Decidable (IsHexDigit c) := inferInstanceAs (Decidable (_ = true))

variable {c hi lo : UInt8} {h l : Nat} {text bytes bytes' : Bytes}

theorem isHexDigit_iff : IsHexDigit c ↔ ∃ d, hexDigit c = some d := Option.isSome_iff_exists

theorem not_isHexDigit_iff : ¬ IsHexDigit c ↔ hexDigit c = none := by simp [IsHexDigit]

theorem hexDigit_lt {d : Nat} (h : hexDigit c = some d) : d < 16 := by
  simp only [hexDigit] at h
  split_ifs at h <;> cases h <;> omega

/-- Two digits make a byte. -/
theorem byte_lt (hh : hexDigit hi = some h) (hl : hexDigit lo = some l) : 16 * h + l < 256 := by
  have := hexDigit_lt hh
  have := hexDigit_lt hl
  omega

/-! ## Spelling -/

inductive Spells : Bytes → Bytes → Prop where
  | nil : Spells [] []
  | cons {hi lo b : UInt8} {h l : Nat} {text bytes : Bytes} :
      hexDigit hi = some h → hexDigit lo = some l → b.toNat = 16 * h + l → Spells text bytes →
      Spells (hi :: lo :: text) (b :: bytes)

theorem Spells.unique (hs : Spells text bytes) (hs' : Spells text bytes') : bytes' = bytes := by
  induction hs generalizing bytes' with
  | nil =>
    cases hs'
    rfl
  | cons hh hl hb _ ih =>
    cases hs' with
    | cons hh' hl' hb' hs' =>
      cases hh.symm.trans hh'
      cases hl.symm.trans hl'
      rw [ih hs', UInt8.toNat_inj.mp (hb'.trans hb.symm)]

/-- Digits throughout, two for each byte. -/
def IsHexText (text : Bytes) : Prop := text.length % 2 = 0 ∧ ∀ c ∈ text, IsHexDigit c

instance (text : Bytes) : Decidable (IsHexText text) := inferInstanceAs (Decidable (_ ∧ _))

theorem not_isHexText_single : ¬ IsHexText [c] := fun h => absurd h.1 (by simp)

theorem isHexText_cons_cons :
    IsHexText (hi :: lo :: text) ↔ IsHexDigit hi ∧ IsHexDigit lo ∧ IsHexText text := by
  have hlen : (hi :: lo :: text).length % 2 = text.length % 2 := by
    simp only [List.length_cons]
    omega
  unfold IsHexText
  rw [hlen, List.forall_mem_cons, List.forall_mem_cons]
  tauto

theorem exists_spells {text : Bytes} (h : IsHexText text) : ∃ bytes, Spells text bytes := by
  match text with
  | [] => exact ⟨[], .nil⟩
  | [_] => exact absurd h not_isHexText_single
  | hi :: lo :: text =>
    obtain ⟨hhi, hlo, htext⟩ := isHexText_cons_cons.mp h
    obtain ⟨h, hh⟩ := isHexDigit_iff.mp hhi
    obtain ⟨l, hl⟩ := isHexDigit_iff.mp hlo
    obtain ⟨bytes, hs⟩ := exists_spells htext
    refine ⟨UInt8.ofNat (16 * h + l) :: bytes, .cons hh hl ?_ hs⟩
    rw [UInt8.toNat_ofNat']
    exact Nat.mod_eq_of_lt (byte_lt hh hl)

/-! ## Numbers -/

/-- `isspace`. -/
def IsSpace (c : UInt8) : Prop := c.toNat = 0x20 ∨ 0x09 ≤ c.toNat ∧ c.toNat ≤ 0x0D

instance (c : UInt8) : Decidable (IsSpace c) := inferInstanceAs (Decidable (_ ∨ _))

def IsSign (c : UInt8) : Prop := c.toNat = 0x2B ∨ c.toNat = 0x2D

instance (c : UInt8) : Decidable (IsSign c) := inferInstanceAs (Decidable (_ ∨ _))

/-- Whether there is a minus, and what comes after the sign. -/
def skipSign : Bytes → Bool × Bytes
  | c :: text => if IsSign c then (c.toNat = 0x2D, text) else (false, c :: text)
  | [] => (false, [])

/-- `0x` is skipped where a digit follows. -/
def skipPrefix : Bytes → Bytes
  | z :: x :: d :: text =>
    if z.toNat = 0x30 ∧ (x.toNat = 0x58 ∨ x.toNat = 0x78) ∧ IsHexDigit d then d :: text
    else z :: x :: d :: text
  | text => text

def leadingDigits : Bytes → List Nat
  | [] => []
  | c :: text => match hexDigit c with
    | some d => d :: leadingDigits text
    | none => []

def ofHexDigits (ds : List Nat) : Nat := ds.foldl (fun n d => 16 * n + d) 0

/-- `std::stoi(text, nullptr, 16)`; `none` where it throws, for want of a digit or out of range. -/
def stoi16 (text : Bytes) : Option Int :=
  let (minus, rest) := skipSign (text.dropWhile fun c => IsSpace c)
  match leadingDigits (skipPrefix rest) with
  | [] => none
  | ds =>
    let value : Int := if minus then -(ofHexDigits ds : Int) else ofHexDigits ds
    if -2 ^ 31 ≤ value ∧ value < 2 ^ 31 then some value else none

/-- A digit within the reach of the parser: at the head of the two characters, or at their end
after a blank or a sign. -/
def Readable (hi lo : UInt8) : Prop := IsHexDigit hi ∨ (IsSpace hi ∨ IsSign hi) ∧ IsHexDigit lo

instance (hi lo : UInt8) : Decidable (Readable hi lo) := inferInstanceAs (Decidable (_ ∨ _))

theorem IsSpace.hexDigit (h : IsSpace c) : hexDigit c = none := by
  unfold IsSpace at h
  simp only [Effects.hexDigit]
  split_ifs <;> first | rfl | omega

theorem IsSign.hexDigit (h : IsSign c) : hexDigit c = none := by
  unfold IsSign at h
  simp only [Effects.hexDigit]
  split_ifs <;> first | rfl | omega

theorem IsSign.not_isSpace (h : IsSign c) : ¬ IsSpace c := by
  unfold IsSign at h
  unfold IsSpace
  omega

theorem IsHexDigit.not_isSpace (h : IsHexDigit c) : ¬ IsSpace c := by
  intro hs
  simp [IsHexDigit, hs.hexDigit] at h

theorem IsHexDigit.not_isSign (h : IsHexDigit c) : ¬ IsSign c := by
  intro hs
  simp [IsHexDigit, hs.hexDigit] at h

/-- What is read where the digits begin. -/
theorem stoi16_digits {minus : Bool} {rest : Bytes} {d : Nat} {ds : List Nat}
    (hrest : skipSign (text.dropWhile fun c => IsSpace c) = (minus, rest))
    (hds : leadingDigits (skipPrefix rest) = d :: ds) (hsmall : ofHexDigits (d :: ds) < 256) :
    stoi16 text = some (if minus then -(ofHexDigits (d :: ds) : Int) else ofHexDigits (d :: ds)) := by
  simp only [stoi16, hrest, hds]
  refine if_pos ?_
  split <;> omega

theorem stoi16_none {minus : Bool} {rest : Bytes}
    (hrest : skipSign (text.dropWhile fun c => IsSpace c) = (minus, rest))
    (hds : leadingDigits (skipPrefix rest) = []) : stoi16 text = none := by
  simp only [stoi16, hrest, hds]

section
variable (hi lo)

theorem leadingDigits_single : leadingDigits [lo] = (hexDigit lo).toList := by
  unfold leadingDigits
  cases hexDigit lo <;> rfl

theorem ofHexDigits_lt (hh : hexDigit hi = some h) :
    ofHexDigits (h :: (hexDigit lo).toList) < 256 := by
  have hlt := hexDigit_lt hh
  cases hl : hexDigit lo with
  | none =>
    simp only [ofHexDigits, Option.toList, List.foldl_cons, List.foldl_nil]
    omega
  | some l =>
    have := hexDigit_lt hl
    simp only [ofHexDigits, Option.toList, List.foldl_cons, List.foldl_nil]
    omega

/-- The pair of digits is read as the byte it spells. -/
theorem stoi16_pair (hh : hexDigit hi = some h) (hl : hexDigit lo = some l) :
    stoi16 [hi, lo] = some (16 * h + l : Nat) := by
  have hdigit : IsHexDigit hi := isHexDigit_iff.mpr ⟨h, hh⟩
  have hrest : skipSign ([hi, lo].dropWhile fun c => IsSpace c) = (false, [hi, lo]) := by
    simp [skipSign, hdigit.not_isSpace, hdigit.not_isSign]
  have hds : leadingDigits (skipPrefix [hi, lo]) = [h, l] := by
    simp [skipPrefix, leadingDigits, hh, hl]
  have hvalue : ofHexDigits [h, l] = 16 * h + l := by simp [ofHexDigits]
  rw [stoi16_digits hrest hds (by rw [hvalue]; exact byte_lt hh hl), hvalue]
  rfl

/-- Where only the second character can be a digit. -/
theorem stoi16_second {minus : Bool} {rest : Bytes}
    (hrest : skipSign (text.dropWhile fun c => IsSpace c) = (minus, rest))
    (hds : leadingDigits (skipPrefix rest) = (hexDigit lo).toList) :
    stoi16 text = none ↔ ¬ IsHexDigit lo := by
  cases hl : hexDigit lo with
  | none =>
    rw [hl] at hds
    exact iff_of_true (stoi16_none hrest hds) (not_isHexDigit_iff.mpr hl)
  | some l =>
    rw [hl] at hds
    have hlt := hexDigit_lt hl
    have hsmall : ofHexDigits [l] < 256 := by
      simp only [ofHexDigits, List.foldl_cons, List.foldl_nil]
      omega
    simp [stoi16_digits hrest hds hsmall, isHexDigit_iff.mpr ⟨l, hl⟩]

/-- Of a single character a blank or a sign is skipped, and is no digit. -/
theorem skipSign_single : ∃ minus rest,
    skipSign ([lo].dropWhile fun c => IsSpace c) = (minus, rest) ∧
      leadingDigits (skipPrefix rest) = (hexDigit lo).toList := by
  by_cases hspace : IsSpace lo
  · exact ⟨false, [], by simp [skipSign, hspace], by rw [hspace.hexDigit]; rfl⟩
  by_cases hsign : IsSign lo
  · exact ⟨lo.toNat = 0x2D, [], by simp [skipSign, hspace, hsign], by rw [hsign.hexDigit]; rfl⟩
  · exact ⟨false, [lo], by simp [skipSign, hspace, hsign], leadingDigits_single lo⟩

theorem stoi16_none_iff : stoi16 [hi, lo] = none ↔ ¬ Readable hi lo := by
  by_cases hdigit : IsHexDigit hi
  · obtain ⟨h, hh⟩ := isHexDigit_iff.mp hdigit
    have hrest : skipSign ([hi, lo].dropWhile fun c => IsSpace c) = (false, [hi, lo]) := by
      simp [skipSign, hdigit.not_isSpace, hdigit.not_isSign]
    have hds : leadingDigits (skipPrefix [hi, lo]) = h :: (hexDigit lo).toList := by
      rw [← leadingDigits_single]
      simp [skipPrefix, leadingDigits, hh]
    simp [stoi16_digits hrest hds (ofHexDigits_lt hi lo hh), Readable, hdigit]
  by_cases hspace : IsSpace hi
  · have hdrop : ([hi, lo].dropWhile fun c => IsSpace c) = [lo].dropWhile fun c => IsSpace c := by
      simp [hspace]
    obtain ⟨minus, rest, hrest, hds⟩ := skipSign_single lo
    rw [stoi16_second lo (by rw [hdrop]; exact hrest) hds]
    simp [Readable, hdigit, hspace]
  by_cases hsign : IsSign hi
  · have hrest : skipSign ([hi, lo].dropWhile fun c => IsSpace c) =
        (decide (hi.toNat = 0x2D), [lo]) := by
      simp [skipSign, hspace, hsign]
    rw [stoi16_second lo hrest (leadingDigits_single lo)]
    simp [Readable, hdigit, hsign]
  · have hrest : skipSign ([hi, lo].dropWhile fun c => IsSpace c) = (false, [hi, lo]) := by
      simp [skipSign, hspace, hsign]
    have hds : leadingDigits (skipPrefix [hi, lo]) = [] := by
      simp [skipPrefix, leadingDigits, not_isHexDigit_iff.mp hdigit]
    rw [stoi16_none hrest hds]
    simp [Readable, hdigit, hspace, hsign]

end

end Effects
