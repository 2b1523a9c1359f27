import TboxDiag.Lib.HexText

/-!
# HexInput

The hexadecimal arguments of the command line client. `hex_to_bytes` gives each whole pair of
characters to `std::stoi` and never asks how much of it was read. `hex_input_exact_iff`: beside
hexadecimal text, which it reads as it should, it refuses only what has a pair no digit of which is
in reach.
-/

namespace Tbox
namespace Diag

open Effects

namespace DiagCli

/-- `none` where `std::stoi` throws. A character without a second one is left out. -/
def hexToBytes : Bytes → Option Bytes
  | hi :: lo :: hex => do
    let byte ← stoi16 [hi, lo]
    let bytes ← hexToBytes hex
    pure (UInt8.ofInt byte :: bytes)
  | _ => some []

/-- The pairs of characters that go to `std::stoi`. -/
def pairs : Bytes → List (UInt8 × UInt8)
  | hi :: lo :: hex => (hi, lo) :: pairs hex
  | _ => []

/-- Hexadecimal text is read as the one byte string it spells, and nothing else is read. -/
def HexExact (hex : Bytes) : Prop :=
  if IsHexText hex then
    ∃ bytes, hexToBytes hex = some bytes ∧ Spells hex bytes ∧
      ∀ bytes', Spells hex bytes' → bytes' = bytes
  else
    hexToBytes hex = none

theorem hexToBytes_cons {hi lo : UInt8} {hex : Bytes} : hexToBytes (hi :: lo :: hex) = none ↔
    stoi16 [hi, lo] = none ∨ hexToBytes hex = none := by
  rw [hexToBytes]
  cases stoi16 [hi, lo] <;> cases hexToBytes hex <;> simp

/-- It fails where a pair has no digit in reach. -/
theorem hexToBytes_none_iff {hex : Bytes} :
    hexToBytes hex = none ↔ ∃ p ∈ pairs hex, ¬ Readable p.1 p.2 := by
  induction hex using hexToBytes.induct with
  | case1 hi lo hex ih =>
    rw [hexToBytes_cons, stoi16_none_iff, ih, pairs]
    simp
  | case2 hex hshort =>
    rw [hexToBytes.eq_2 _ hshort, pairs.eq_2 _ hshort]
    simp

/-- Text is read as what it spells. -/
theorem hexToBytes_of_spells {hex bytes : Bytes} (hs : Spells hex bytes) :
    hexToBytes hex = some bytes := by
  induction hs with
  | nil => rfl
  | @cons hi lo b h l hex bytes hh hl hb _ ih =>
    have hbyte : UInt8.ofInt (16 * h + l : Nat) = b := by
      refine UInt8.toNat_inj.mp ?_
      rw [UInt8.ofInt, UInt8.toNat_ofNat', hb]
      have hlt := byte_lt hh hl
      omega
    rw [hexToBytes, stoi16_pair hi lo hh hl, ih, ← hbyte]
    rfl

/-- The reader is exact on hexadecimal text, and on text with a pair that has no digit in reach. -/
theorem hex_input_exact_iff (hex : Bytes) :
    HexExact hex ↔ IsHexText hex ∨ ∃ p ∈ pairs hex, ¬ Readable p.1 p.2 := by
  unfold HexExact
  split
  · next h =>
    obtain ⟨bytes, hspells⟩ := exists_spells h
    refine iff_of_true ⟨bytes, hexToBytes_of_spells hspells, hspells, ?_⟩ (.inl h)
    intro bytes' hs
    exact hspells.unique hs
  · next h =>
    rw [hexToBytes_none_iff]
    simp [h]

/-- `ABC`, `-1` and `1g` are read, as AB, FF and 01. -/
theorem hex_input_lenient : ¬ HexExact [0x41, 0x42, 0x43] ∧
    hexToBytes [0x41, 0x42, 0x43] = some [0xAB] ∧ hexToBytes [0x2D, 0x31] = some [0xFF] ∧
    hexToBytes [0x31, 0x67] = some [0x01] := by
  refine ⟨?_, by decide, by decide, by decide⟩
  have hodd : ¬ IsHexText [0x41, 0x42, 0x43] := by decide
  rw [HexExact, if_neg hodd]
  decide

end DiagCli
end Diag
end Tbox
