import Mathlib.Data.Int.Log
import Mathlib.Data.Rat.Floor
import Mathlib.Tactic.FieldSimp
import Mathlib.Tactic.Linarith
import Mathlib.Tactic.Positivity

namespace SdbusExamples.BinaryRounding

/-- To the nearest integer, and from the middle to the even one. -/
def roundEven (x : ℚ) : ℤ :=
  if x - ⌊x⌋ < 1 / 2 then ⌊x⌋
  else if 1 / 2 < x - ⌊x⌋ then ⌊x⌋ + 1
  else if ⌊x⌋ % 2 = 0 then ⌊x⌋
  else ⌊x⌋ + 1

theorem abs_roundEven_sub_le (x : ℚ) : |(roundEven x : ℚ) - x| ≤ 1 / 2 := by
  have hlow : (⌊x⌋ : ℚ) ≤ x := Int.floor_le x
  have hhigh : x < ⌊x⌋ + 1 := Int.lt_floor_add_one x
  rw [roundEven, abs_le]
  split_ifs <;> push_cast <;> constructor <;> linarith

structure Format where
  bits : ℕ
  least : ℤ

def binary32 : Format := ⟨24, -149⟩

namespace Format

variable (F : Format)

def lastPlace (x : ℚ) : ℤ := max (Int.log 2 |x| - (F.bits - 1)) F.least

/-- The number of the format that an operation with the exact result `x` yields, if
`x` is not too large for it. -/
def nearest (x : ℚ) : ℚ := roundEven (x / 2 ^ F.lastPlace x) * 2 ^ F.lastPlace x

@[simp] theorem nearest_zero : F.nearest 0 = 0 := by
  simp [nearest, roundEven]

theorem abs_nearest_sub_le (x : ℚ) : |F.nearest x - x| ≤ 2 ^ F.lastPlace x / 2 := by
  have hpos : (0 : ℚ) < 2 ^ F.lastPlace x := zpow_pos two_pos _
  have hround := abs_roundEven_sub_le (x / 2 ^ F.lastPlace x)
  have hscaled : F.nearest x - x =
      (roundEven (x / 2 ^ F.lastPlace x) - x / 2 ^ F.lastPlace x) * 2 ^ F.lastPlace x := by
    rw [nearest, sub_mul, div_mul_cancel₀ _ hpos.ne']
  rw [hscaled, abs_mul, abs_of_pos hpos]
  calc |(roundEven (x / 2 ^ F.lastPlace x) : ℚ) - x / 2 ^ F.lastPlace x| * 2 ^ F.lastPlace x
      ≤ 1 / 2 * 2 ^ F.lastPlace x := by gcongr
    _ = 2 ^ F.lastPlace x / 2 := by ring

theorem abs_nearest_sub_le_div {x : ℚ} (hx : 0 < x) (hnormal : F.least + F.bits - 1 ≤ Int.log 2 x) :
    |F.nearest x - x| ≤ x / 2 ^ F.bits := by
  have hlast : F.lastPlace x = Int.log 2 x - F.bits + 1 := by
    rw [lastPlace, abs_of_pos hx]
    omega
  have hlog : (2 : ℚ) ^ Int.log 2 x ≤ x := by
    simpa using Int.zpow_log_le_self (b := 2) (by norm_num) hx
  calc |F.nearest x - x| ≤ 2 ^ F.lastPlace x / 2 := F.abs_nearest_sub_le x
    _ = 2 ^ Int.log 2 x / 2 ^ F.bits := by
      rw [hlast, zpow_add₀ two_ne_zero, zpow_sub₀ two_ne_zero, zpow_natCast, zpow_one]
      ring
    _ ≤ x / 2 ^ F.bits := by gcongr

end Format

end SdbusExamples.BinaryRounding
