/-!
# Saturating words

Arithmetic that stops at the ends of its range. Byte counts are 64-bit words; balances and shares
are integers kept within the range of signed 64-bit words.

The module introduces:

* `satAdd`, `satSub` — addition and subtraction of words, with their values as natural numbers
  (`toNat_satAdd`, `toNat_satSub`).
* `saturate` — an integer brought into the signed range (`saturate_eq_self`).
-/

namespace GpuQuota

/-- The largest value of a 64-bit word. -/
def wordMax : Nat := 0xFFFFFFFFFFFFFFFF

/-- The sum, or the largest word where it does not fit. -/
def satAdd (a b : UInt64) : UInt64 :=
  UInt64.ofNat (min (a.toNat + b.toNat) wordMax)

/-- The difference, or zero where it would be negative. -/
def satSub (a b : UInt64) : UInt64 :=
  UInt64.ofNat (a.toNat - b.toNat)

@[simp] theorem toNat_satAdd (a b : UInt64) :
    (satAdd a b).toNat = min (a.toNat + b.toNat) wordMax := by
  have : min (a.toNat + b.toNat) wordMax < 2 ^ 64 := by simp only [wordMax]; omega
  rw [satAdd, UInt64.toNat_ofNat', Nat.mod_eq_of_lt this]

@[simp] theorem toNat_satSub (a b : UInt64) : (satSub a b).toNat = a.toNat - b.toNat := by
  have : a.toNat - b.toNat < 2 ^ 64 := by have := a.toNat_lt; omega
  rw [satSub, UInt64.toNat_ofNat', Nat.mod_eq_of_lt this]

@[simp] theorem toNat_min (a b : UInt64) : (min a b).toNat = min a.toNat b.toNat := by
  show (if a ≤ b then a else b).toNat = _
  split
  next h => rw [Nat.min_eq_left (UInt64.le_iff_toNat_le.1 h)]
  next h =>
    rw [UInt64.le_iff_toNat_le] at h
    rw [Nat.min_eq_right (by omega)]

theorem toNat_max (a b : UInt64) : (max a b).toNat = max a.toNat b.toNat := by
  show (if a ≤ b then b else a).toNat = _
  split
  next h => rw [Nat.max_eq_right (UInt64.le_iff_toNat_le.1 h)]
  next h =>
    rw [UInt64.le_iff_toNat_le] at h
    rw [Nat.max_eq_left (by omega)]

/-- The least signed 64-bit integer. -/
def signedMin : Int := -0x8000000000000000

/-- The greatest signed 64-bit integer. -/
def signedMax : Int := 0x7FFFFFFFFFFFFFFF

/-- The nearest signed 64-bit integer. -/
def saturate (x : Int) : Int := max signedMin (min x signedMax)

theorem saturate_eq_self {x : Int} (h₁ : signedMin ≤ x) (h₂ : x ≤ signedMax) :
    saturate x = x := by
  simp only [saturate]; omega

theorem signedMin_le_saturate (x : Int) : signedMin ≤ saturate x := by
  simp only [saturate]; omega

theorem saturate_le_signedMax (x : Int) : saturate x ≤ signedMax := by
  simp only [saturate, signedMin, signedMax]; omega

theorem saturate_mono {x y : Int} (h : x ≤ y) : saturate x ≤ saturate y := by
  simp only [saturate]; omega

theorem saturate_nonneg {x : Int} (h : 0 ≤ x) : 0 ≤ saturate x := by
  simp only [saturate, signedMin, signedMax]; omega

/-- The low 32 bits of an integer, read as a signed word. -/
def wrap32 (x : Int) : Int := x.bmod 0x100000000

theorem wrap32_eq_self {x : Int} (h₁ : -0x80000000 ≤ x) (h₂ : x < 0x80000000) :
    wrap32 x = x := by
  simp only [wrap32, Int.bmod]; omega

end GpuQuota
