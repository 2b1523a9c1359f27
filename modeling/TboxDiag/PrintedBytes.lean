import TboxDiag.CliCommands

/-!
# PrintedBytes

Bytes that the command line client prints, given back to it as an argument. It prints a blank
between two bytes, and reads pairs of characters: what it printed is never refused, and is read as
something else wherever there is more than one byte, but for a last byte of zero after one other
(`printed_exact_iff`). Without the blanks it is read as it was.
-/

namespace Tbox
namespace Diag

open Effects

namespace DiagCli

def blank : UInt8 := 0x20

/-- The digits of a byte. -/
def hiDigit (b : UInt8) : UInt8 := UInt8.ofNat (b.toNat / 16)

def loDigit (b : UInt8) : UInt8 := UInt8.ofNat (b.toNat % 16)

/-- What printed bytes are read as: each second byte falls into its two digits, and the last one, if
it is a second one, loses the lower. -/
def readBack : Bytes → Bytes
  | x :: y :: z :: bytes => x :: hiDigit y :: loDigit y :: readBack (z :: bytes)
  | [x, y] => [x, hiDigit y]
  | bytes => bytes

/-! ## Digits -/

section
variable {n : Nat} {b x y z : UInt8} {bytes : Bytes}

theorem hexDigit_hexChar (h : n < 16) : hexDigit (hexChar n) = some n := by
  have hall : ∀ k < 16, hexDigit (hexChar k) = some k := by decide
  exact hall n h

theorem hexChar_ne_blank (h : n < 16) : hexChar n ≠ blank := by
  have hall : ∀ k < 16, hexChar k ≠ blank := by decide
  exact hall n h

theorem hi_lt (b : UInt8) : b.toNat / 16 < 16 := by
  have := b.toNat_lt
  omega

theorem lo_lt (b : UInt8) : b.toNat % 16 < 16 := Nat.mod_lt _ (by decide)

theorem stoi16_byte (b : UInt8) :
    stoi16 (hexByte b) = some b.toNat := by
  have hh := hexDigit_hexChar (hi_lt b)
  have hl := hexDigit_hexChar (lo_lt b)
  rw [hexByte, stoi16_pair _ _ hh hl, Nat.div_add_mod]

/-- A digit next to a blank is read as its value. -/
theorem stoi16_blank (h : n < 16) :
    stoi16 [blank, hexChar n] = some (n : Int) ∧ stoi16 [hexChar n, blank] = some (n : Int) := by
  have hall : ∀ k < 16, stoi16 [blank, hexChar k] = some (k : Int) ∧
      stoi16 [hexChar k, blank] = some (k : Int) := by decide
  exact hall n h

/-! ## Reading -/

theorem ofInt_nat (n : Nat) : UInt8.ofInt (n : Int) = UInt8.ofNat n := by
  refine UInt8.toNat_inj.mp ?_
  rw [UInt8.ofInt, UInt8.toNat_ofNat', UInt8.toNat_ofNat']
  omega

theorem hexToBytes_pair {hi lo : UInt8} (h : stoi16 [hi, lo] = some (n : Int)) (text : Bytes) :
    hexToBytes (hi :: lo :: text) = (hexToBytes text).map (UInt8.ofNat n :: ·) := by
  rw [hexToBytes, h, ← ofInt_nat]
  cases hexToBytes text <;> rfl

/-- A printed byte at the head of a text. -/
theorem hexToBytes_byte (b : UInt8) (text : Bytes) :
    hexToBytes (hexByte b ++ text) = (hexToBytes text).map (b :: ·) := by
  show hexToBytes (hexChar (b.toNat / 16) :: hexChar (b.toNat % 16) :: text) = _
  rw [hexToBytes_pair (stoi16_byte b), UInt8.ofNat_toNat]

/-- One that begins with the second character of a pair, with another blank after it. -/
theorem hexToBytes_split (b : UInt8) (text : Bytes) :
    hexToBytes (blank :: hexByte b ++ blank :: text) =
      (hexToBytes text).map fun bytes => hiDigit b :: loDigit b :: bytes := by
  show hexToBytes (blank :: hexChar (b.toNat / 16) :: hexChar (b.toNat % 16) :: blank :: text) = _
  rw [hexToBytes_pair (stoi16_blank (hi_lt b)).1, hexToBytes_pair (stoi16_blank (lo_lt b)).2]
  cases hexToBytes text <;> rfl

theorem hexToBytes_last (b : UInt8) : hexToBytes (blank :: hexByte b) = some [hiDigit b] := by
  show hexToBytes (blank :: hexChar (b.toNat / 16) :: [hexChar (b.toNat % 16)]) = _
  rw [hexToBytes_pair (stoi16_blank (hi_lt b)).1]
  rfl

/-- Printed bytes are always read. -/
theorem hexToBytes_printed (bytes : Bytes) :
    hexToBytes (bytesToHex bytes) = some (readBack bytes) := by
  induction bytes using readBack.induct with
  | case1 x y z bytes ih =>
    have htext : bytesToHex (x :: y :: z :: bytes) =
        hexByte x ++ (blank :: hexByte y ++ blank :: bytesToHex (z :: bytes)) := rfl
    rw [htext, hexToBytes_byte, hexToBytes_split, ih]
    rfl
  | case2 x y =>
    have htext : bytesToHex [x, y] = hexByte x ++ (blank :: hexByte y) := rfl
    rw [htext, hexToBytes_byte, hexToBytes_last]
    rfl
  | case3 bytes hthree htwo =>
    match bytes with
    | [] => rfl
    | [x] =>
      have htext : bytesToHex [x] = hexByte x ++ [] := by simp [bytesToHex]
      rw [htext, hexToBytes_byte]
      rfl
    | [x, y] => exact absurd rfl (htwo x y)
    | x :: y :: z :: bytes => exact absurd rfl (hthree x y z bytes)

/-- Of three bytes on there are more read than were printed. -/
theorem readBack_length (x y z : UInt8) (bytes : Bytes) :
    (x :: y :: z :: bytes).length < (readBack (x :: y :: z :: bytes)).length := by
  have grows (bytes : Bytes) : bytes.length ≤ (readBack bytes).length := by
    induction bytes using readBack.induct with
    | case1 x y z bytes ih =>
      simp only [readBack, List.length_cons] at ih ⊢
      omega
    | case2 x y => simp [readBack]
    | case3 bytes hthree htwo => rw [readBack.eq_3 _ hthree htwo]
  have hrest := grows (z :: bytes)
  simp only [readBack, List.length_cons] at hrest ⊢
  omega

theorem hiDigit_eq_self : hiDigit b = b ↔ b = 0 := by
  constructor
  · intro h
    have hn := congrArg UInt8.toNat h
    have hlt := hi_lt b
    rw [hiDigit, UInt8.toNat_ofNat', Nat.mod_eq_of_lt (by omega)] at hn
    refine UInt8.toNat_inj.mp ?_
    rw [UInt8.toNat_zero]
    omega
  · rintro rfl
    rfl

/-- Without its blanks, printed text spells the bytes. -/
theorem spells_printed (bytes : Bytes) :
    Spells ((bytesToHex bytes).filter (· ≠ blank)) bytes := by
  have digits (b : UInt8) (text : Bytes) : (hexByte b ++ text).filter (· ≠ blank) =
      hexChar (b.toNat / 16) :: hexChar (b.toNat % 16) :: text.filter (· ≠ blank) := by
    simp [hexByte, hexChar_ne_blank (hi_lt b), hexChar_ne_blank (lo_lt b)]
  have spell {b : UInt8} {text bytes : Bytes} (h : Spells text bytes) :
      Spells (hexChar (b.toNat / 16) :: hexChar (b.toNat % 16) :: text) (b :: bytes) :=
    .cons (hexDigit_hexChar (hi_lt b)) (hexDigit_hexChar (lo_lt b)) (Nat.div_add_mod _ _).symm h
  induction bytes using bytesToHex.induct with
  | case1 => exact .nil
  | case2 b =>
    have htext : bytesToHex [b] = hexByte b ++ [] := by simp [bytesToHex]
    rw [htext, digits]
    exact spell .nil
  | case3 b bytes hne ih =>
    rw [bytesToHex.eq_3 _ _ hne, digits]
    have hblank : (0x20 :: bytesToHex bytes).filter (· ≠ blank) =
        (bytesToHex bytes).filter (· ≠ blank) := by simp [blank]
    rw [hblank]
    exact spell ih

/-- What the client prints it reads as it was up to one byte, or with a single second byte of zero;
without the blanks always. -/
theorem printed_exact_iff (bytes : Bytes) :
    (hexToBytes (bytesToHex bytes) = some bytes ↔ bytes.length ≤ 1 ∨ ∃ b, bytes = [b, 0]) ∧
      (hexToBytes (bytesToHex bytes)).isSome ∧
      hexToBytes ((bytesToHex bytes).filter (· ≠ blank)) = some bytes := by
  refine ⟨?_, by simp [hexToBytes_printed], hexToBytes_of_spells (spells_printed bytes)⟩
  rw [hexToBytes_printed, Option.some.injEq]
  match bytes with
  | [] => simp [readBack]
  | [x] => simp [readBack]
  | [x, y] => simp [readBack, hiDigit_eq_self]
  | x :: y :: z :: bytes =>
    refine iff_of_false ?_ ?_
    · intro h
      have hlt := readBack_length x y z bytes
      rw [h] at hlt
      exact Nat.lt_irrefl _ hlt
    · simp

end

end DiagCli
end Diag
end Tbox
