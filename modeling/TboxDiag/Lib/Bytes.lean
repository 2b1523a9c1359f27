import Mathlib.Data.List.Basic
import Mathlib.Tactic.Ring

/-!
# Lib.Bytes

Byte strings and big-endian fields: a 16-bit and a 32-bit value assembled from its bytes with
shifts, and taken apart again with shifts and masks. `bigEndian` is the same by arithmetic, for
fields of any width.
-/

namespace Effects

abbrev Bytes := List UInt8

/-- The 16-bit value `(a << 8) | b`. -/
def ofBytes16 (a b : UInt8) : UInt16 := (a.toUInt16 <<< 8) ||| b.toUInt16

/-- The 32-bit value `(a << 24) | (b << 16) | (c << 8) | d`. -/
def ofBytes32 (a b c d : UInt8) : UInt32 :=
  (a.toUInt32 <<< 24) ||| (b.toUInt32 <<< 16) ||| (c.toUInt32 <<< 8) ||| d.toUInt32

/-- The byte `(x >> 8) & 0xFF`. -/
def hiByte (x : UInt16) : UInt8 := ((x >>> 8) &&& 0xFF).toUInt8

/-- The byte `x & 0xFF`. -/
def loByte (x : UInt16) : UInt8 := (x &&& 0xFF).toUInt8

/-- The byte `(x >> s) & 0xFF`. -/
def byteAt (x : UInt32) (s : UInt32) : UInt8 := ((x >>> s) &&& 0xFF).toUInt8

/-- The `n` bytes from position `start` on, each as it is found there. -/
def readFrom (bs : Bytes) (start n : Nat) : List (Option UInt8) :=
  (List.range' start n).map fun i => bs[i]?

@[simp] theorem readFrom_length (bs : Bytes) (start n : Nat) :
    (readFrom bs start n).length = n := by simp [readFrom]

theorem readFrom_eq_iff (bs : Bytes) (start n : Nat) :
    readFrom bs start n = ((bs.drop start).take n).map some ↔ n ≤ bs.length - start := by
  constructor
  · intro h
    have hlen := congrArg List.length h
    simp only [readFrom_length, List.length_map, List.length_take, List.length_drop] at hlen
    omega
  · intro h
    apply List.ext_getElem
    · simp only [readFrom_length, List.length_map, List.length_take, List.length_drop]
      omega
    · intro i hi hi'
      rw [readFrom_length] at hi
      simp only [readFrom, List.getElem_map, List.getElem_range', List.getElem_take,
        List.getElem_drop, Nat.one_mul]
      exact List.getElem?_eq_getElem (by omega)

@[simp] theorem ofBytes16_toNat (a b : UInt8) :
    (ofBytes16 a b).toNat = a.toNat * 256 + b.toNat := by
  have ha := a.toNat_lt
  have hb := b.toNat_lt
  have hs : a.toNat <<< 8 % 65536 = a.toNat <<< 8 := by
    rw [Nat.shiftLeft_eq]
    exact Nat.mod_eq_of_lt (by omega)
  simp only [ofBytes16, UInt16.toNat_or, UInt16.toNat_shiftLeft, UInt8.toNat_toUInt16,
    UInt16.toNat_ofNat, Nat.reduceMod, Nat.reducePow, hs]
  rw [← Nat.shiftLeft_add_eq_or_of_lt (by simpa using hb), Nat.shiftLeft_eq]

@[simp] theorem hiByte_toNat (x : UInt16) : (hiByte x).toNat = x.toNat / 256 := by
  have := x.toNat_lt
  simp only [hiByte, UInt16.toNat_toUInt8, UInt16.toNat_and, UInt16.toNat_shiftRight,
    UInt16.toNat_ofNat, Nat.reduceMod, Nat.reducePow, Nat.shiftRight_eq_div_pow]
  rw [show (255 : Nat) = 2 ^ 8 - 1 from rfl, Nat.and_two_pow_sub_one_eq_mod]
  omega

@[simp] theorem loByte_toNat (x : UInt16) : (loByte x).toNat = x.toNat % 256 := by
  simp only [loByte, UInt16.toNat_toUInt8, UInt16.toNat_and, UInt16.toNat_ofNat, Nat.reduceMod,
    Nat.reducePow]
  rw [show (255 : Nat) = 2 ^ 8 - 1 from rfl, Nat.and_two_pow_sub_one_eq_mod]
  omega

@[simp] theorem hiByte_ofBytes16 (a b : UInt8) : hiByte (ofBytes16 a b) = a := by
  apply UInt8.toNat_inj.mp
  have := b.toNat_lt
  rw [hiByte_toNat, ofBytes16_toNat]
  omega

@[simp] theorem loByte_ofBytes16 (a b : UInt8) : loByte (ofBytes16 a b) = b := by
  apply UInt8.toNat_inj.mp
  have := b.toNat_lt
  rw [loByte_toNat, ofBytes16_toNat]
  omega

@[simp] theorem ofBytes16_hi_lo (x : UInt16) : ofBytes16 (hiByte x) (loByte x) = x := by
  apply UInt16.toNat_inj.mp
  rw [ofBytes16_toNat, hiByte_toNat, loByte_toNat]
  omega

theorem ofBytes16_eq_iff {a b : UInt8} {x : UInt16} :
    ofBytes16 a b = x ↔ a = hiByte x ∧ b = loByte x := by
  constructor
  · rintro rfl
    simp
  · rintro ⟨rfl, rfl⟩
    simp

@[simp] theorem ofBytes32_toNat (a b c d : UInt8) : (ofBytes32 a b c d).toNat =
    a.toNat * 16777216 + b.toNat * 65536 + c.toNat * 256 + d.toNat := by
  have ha := a.toNat_lt
  have hb := b.toNat_lt
  have hc := c.toNat_lt
  have hd := d.toNat_lt
  have shift (x k : Nat) (hx : x < 256) (hk : k ≤ 24) : x <<< k % 4294967296 = x * 2 ^ k := by
    have hp : (2 : Nat) ^ k ≤ 2 ^ 24 := Nat.pow_le_pow_right (by omega) hk
    have hm : x * 2 ^ k ≤ 255 * 2 ^ 24 := Nat.mul_le_mul (by omega) hp
    rw [Nat.shiftLeft_eq]
    exact Nat.mod_eq_of_lt (by omega)
  simp only [ofBytes32, UInt32.toNat_or, UInt32.toNat_shiftLeft, UInt8.toNat_toUInt32,
    UInt32.toNat_ofNat, Nat.reduceMod, Nat.reducePow, shift a.toNat 24 ha (by omega),
    shift b.toNat 16 hb (by omega), shift c.toNat 8 hc (by omega)]
  -- each byte lies below the next: `or` is addition
  have or_add (x y k : Nat) (hy : y < 2 ^ k) : x * 2 ^ k ||| y = x * 2 ^ k + y := by
    rw [← Nat.shiftLeft_eq, ← Nat.shiftLeft_add_eq_or_of_lt hy]
  have hcd : c.toNat * 256 ||| d.toNat = c.toNat * 256 + d.toNat := or_add _ _ 8 hd
  have hbcd : b.toNat * 65536 ||| (c.toNat * 256 + d.toNat) =
      b.toNat * 65536 + (c.toNat * 256 + d.toNat) := or_add _ _ 16 (by omega)
  have habcd : a.toNat * 16777216 ||| (b.toNat * 65536 + (c.toNat * 256 + d.toNat)) =
      a.toNat * 16777216 + (b.toNat * 65536 + (c.toNat * 256 + d.toNat)) :=
    or_add _ _ 24 (by omega)
  rw [Nat.or_assoc, Nat.or_assoc, hcd, hbcd, habcd]
  omega

theorem byteAt_toNat (x s : UInt32) (hs : s.toNat < 32) :
    (byteAt x s).toNat = x.toNat / 2 ^ s.toNat % 256 := by
  simp only [byteAt, UInt32.toNat_toUInt8, UInt32.toNat_and, UInt32.toNat_shiftRight,
    UInt32.toNat_ofNat, Nat.reduceMod, Nat.reducePow, Nat.shiftRight_eq_div_pow,
    Nat.mod_eq_of_lt hs]
  rw [show (255 : Nat) = 2 ^ 8 - 1 from rfl, Nat.and_two_pow_sub_one_eq_mod]
  omega

/-- A 32-bit value, taken apart and put together again. -/
@[simp] theorem ofBytes32_byteAt (x : UInt32) :
    ofBytes32 (byteAt x 24) (byteAt x 16) (byteAt x 8) (byteAt x 0) = x := by
  apply UInt32.toNat_inj.mp
  have hx := x.toNat_lt
  rw [ofBytes32_toNat, byteAt_toNat x 24 (by decide), byteAt_toNat x 16 (by decide),
    byteAt_toNat x 8 (by decide), byteAt_toNat x 0 (by decide)]
  simp only [UInt32.toNat_ofNat, Nat.reduceMod, Nat.reducePow]
  omega

/-- The last `k` bytes of `n`, the most significant one first. -/
def bigEndian (k n : Nat) : Bytes := (List.range k).reverse.map fun i => UInt8.ofNat (n / 256 ^ i)

@[simp] theorem bigEndian_length (k n : Nat) : (bigEndian k n).length = k := by simp [bigEndian]

/-- A 16-bit field. -/
theorem bigEndian_two (x : UInt16) : bigEndian 2 x.toNat = [hiByte x, loByte x] := by
  have hx := x.toNat_lt
  have hhi : UInt8.ofNat (x.toNat / 256) = hiByte x := by
    refine UInt8.toNat_inj.mp ?_
    rw [hiByte_toNat, UInt8.toNat_ofNat']
    omega
  have hlo : UInt8.ofNat x.toNat = loByte x := by
    refine UInt8.toNat_inj.mp ?_
    rw [loByte_toNat, UInt8.toNat_ofNat']
  rw [← hhi, ← hlo]
  simp [bigEndian, List.range_succ]

/-- A 32-bit field, of a number of any size. -/
theorem bigEndian_four (n : Nat) : bigEndian 4 n =
    [byteAt (UInt32.ofNat n) 24, byteAt (UInt32.ofNat n) 16, byteAt (UInt32.ofNat n) 8,
      byteAt (UInt32.ofNat n) 0] := by
  have hbyte (s : UInt32) (k : Nat) (hs : s.toNat = 8 * k) (hk : k < 4) :
      UInt8.ofNat (n / 256 ^ k) = byteAt (UInt32.ofNat n) s := by
    refine UInt8.toNat_inj.mp ?_
    rw [byteAt_toNat _ _ (by omega), UInt8.toNat_ofNat', UInt32.toNat_ofNat', hs, Nat.pow_mul]
    obtain rfl | rfl | rfl | rfl : k = 0 ∨ k = 1 ∨ k = 2 ∨ k = 3 := by omega
    all_goals
      simp only [Nat.reducePow]
      omega
  rw [← hbyte 24 3 rfl (by omega), ← hbyte 16 2 rfl (by omega), ← hbyte 8 1 rfl (by omega),
    ← hbyte 0 0 rfl (by omega)]
  simp [bigEndian, List.range_succ]

end Effects
