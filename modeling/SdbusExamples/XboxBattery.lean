import SdbusExamples.BinaryRounding
import SdbusExamples.XboxReader

namespace SdbusExamples.XboxBattery

open BinaryRounding PackedBytes XboxReader

/-- std::round: halves go away from zero. -/
def stdRound (x : ℚ) : ℤ := if 0 ≤ x then ⌊x + 1 / 2⌋ else ⌈x - 1 / 2⌉

/-- The division, the product and the rounding of the source, each in single precision. -/
def batteryPercentageFloat (strength : Byte) : ℤ :=
  stdRound (binary32.nearest (binary32.nearest (strength.toNat / 255) * 100))

theorem abs_nearest_sub_le {x : ℚ} (h : 1 / 1000 ≤ x) :
    |binary32.nearest x - x| ≤ x / 2 ^ 24 := by
  have hpos : 0 < x := by linarith
  apply binary32.abs_nearest_sub_le_div hpos
  have hlow : ((2 : ℕ) : ℚ) ^ (-126 : ℤ) ≤ x := by
    refine le_trans ?_ h
    norm_num
  exact (Int.zpow_le_iff_le_log one_lt_two hpos).1 hlow

theorem abs_product_sub_lt {x : ℚ} (hlow : 1 / 255 ≤ x) (hhigh : x ≤ 1) :
    |binary32.nearest (binary32.nearest x * 100) - x * 100| < 1 / 1000 := by
  have hquotient := abs_le.1 (abs_nearest_sub_le (x := x) (by linarith))
  generalize binary32.nearest x = q at hquotient ⊢
  have hproduct := abs_le.1 (abs_nearest_sub_le (x := q * 100) (by linarith))
  rw [abs_lt]
  constructor <;> linarith

theorem batteryPercentage_exact (strength : Byte) :
    batteryPercentageFloat strength = batteryPercentage strength := by
  have hle : strength.toNat ≤ 255 := by
    have := strength.isLt
    omega
  rw [batteryPercentageFloat, batteryPercentage]
  generalize strength.toNat = s at hle ⊢
  rcases Nat.eq_zero_or_pos s with rfl | hpos
  · norm_num [stdRound]
  · have hlow : (1 : ℚ) / 255 ≤ s / 255 := by
      have : (1 : ℚ) ≤ s := by exact_mod_cast hpos
      linarith
    have hhigh : (s : ℚ) / 255 ≤ 1 := by
      have : (s : ℚ) ≤ 255 := by exact_mod_cast hle
      linarith
    have herror := abs_lt.1 (abs_product_sub_lt hlow hhigh)
    generalize binary32.nearest (binary32.nearest (s / 255) * 100) = p at herror ⊢
    -- twice the exact value is an even number of 51ths, and an odd one is a half
    have hbelow : 102 * ((200 * s + 255) / 510) + 1 ≤ 40 * s + 51 := by omega
    have habove : 40 * s + 51 + 1 ≤ 102 * ((200 * s + 255) / 510 + 1) := by omega
    generalize (200 * s + 255) / 510 = n at hbelow habove ⊢
    have hbelow : (102 * n + 1 : ℚ) ≤ 40 * s + 51 := by exact_mod_cast hbelow
    have habove : (40 * s + 51 + 1 : ℚ) ≤ 102 * (n + 1) := by exact_mod_cast habove
    rw [stdRound, if_pos (by linarith), Int.floor_eq_iff]
    push_cast
    constructor <;> linarith

end SdbusExamples.XboxBattery
