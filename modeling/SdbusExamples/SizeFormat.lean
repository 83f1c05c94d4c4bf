import Mathlib.Algebra.Order.Field.Rat
import Mathlib.Data.Rat.Cast.Order
import Mathlib.Tactic.Linarith
import Mathlib.Tactic.FieldSimp
import Mathlib.Tactic.NormNum
import SdbusExamples.PropertyTypes

namespace SdbusExamples.SizeFormat

open OStreams PropertyTypes

def units : List String := ["B", "KB", "MB", "GB", "TB"]

def maxUnit : Nat := units.length - 1

/-- static_cast<double>(): 53 bits of the number are kept, and of two nearest doubles
the one with an even last bit is taken. -/
def toDouble (bytes : Nat) : Nat :=
  if bytes < 2 ^ 53 then bytes
  else
    let place := 2 ^ (bytes.log2 - 52)
    roundedDiv bytes place * place

/-- The loop of formatSize, whose divisions of a double by 1024 are exact. -/
def normalise (size : Rat) (unit : Nat) : Rat × Nat :=
  if 1024 ≤ size ∧ unit < maxUnit ∧ size / 1024 < size then normalise (size / 1024) (unit + 1)
  else (size, unit)
termination_by maxUnit - unit

/-- A non-negative number in hundredths, as two digits after the point show it. -/
def hundredths (size : Rat) : Nat := roundedDiv (size.num.toNat * 100) size.den

def fixedTwo (n : Nat) : Text :=
  let fraction := Nat.toDigits 10 (n % 100)
  Nat.toDigits 10 (n / 100) ++ ['.'] ++ List.replicate (2 - fraction.length) '0' ++ fraction

def printed (bytes : Nat) : Nat × Nat :=
  let (size, unit) := normalise (toDouble bytes) 0
  (hundredths size, unit)

def formatSize (bytes : Nat) : Text :=
  fixedTwo (printed bytes).1 ++ [' '] ++ (units.getD (printed bytes).2 "").toList

section Rounding

variable {a b m : Nat}

theorem le_roundedDiv_of_mul_le (hb : 0 < b) (h : m * b ≤ a) : m ≤ roundedDiv a b := by
  have hq : m ≤ a / b := (Nat.le_div_iff_mul_le hb).2 h
  rw [roundedDiv]
  split_ifs <;> omega

theorem roundedDiv_close (hb : 0 < b) :
    2 * (roundedDiv a b * b) ≤ 2 * a + b ∧ 2 * a ≤ 2 * (roundedDiv a b * b) + b := by
  have hmod := Nat.mod_lt a hb
  have hdiv := Nat.div_add_mod a b
  rw [Nat.mul_comm] at hdiv
  rw [roundedDiv]
  split_ifs
  · omega
  · rw [Nat.add_mul]
    omega

theorem roundedDiv_even (hb : 0 < b) (h : 2 * a = 2 * (roundedDiv a b * b) + b) :
    roundedDiv a b % 2 = 0 := by
  have hmod := Nat.mod_lt a hb
  have hdiv := Nat.div_add_mod a b
  rw [Nat.mul_comm] at hdiv
  rw [roundedDiv] at h ⊢
  split_ifs at h ⊢ with hdown
  · omega
  · rw [Nat.add_mul] at h
    omega

theorem le_roundedDiv_iff_of_even (hb : 0 < b) (hm : m % 2 = 0) :
    m ≤ roundedDiv a b ↔ 2 * (m * b) ≤ 2 * a + b := by
  obtain ⟨hlow, hhigh⟩ := roundedDiv_close (a := a) hb
  constructor
  · intro hle
    have := Nat.mul_le_mul_right b hle
    omega
  · intro hle
    by_contra hlt
    have hup : (roundedDiv a b + 1) * b ≤ m * b := Nat.mul_le_mul_right b (by omega)
    rw [Nat.add_mul, Nat.one_mul] at hup
    have heq : m * b = (roundedDiv a b + 1) * b := by
      rw [Nat.add_mul, Nat.one_mul]
      omega
    have hnext := Nat.eq_of_mul_eq_mul_right hb heq
    have heven := roundedDiv_even (a := a) hb (by omega)
    omega

end Rounding

section Hundredths

variable {size : Rat} {m : Nat}

theorem num_eq (h : 0 ≤ size) : (size.num.toNat : Rat) = size * size.den := by
  have hnum : ((size.num.toNat : Int) : Rat) = size.num := by
    rw [Int.toNat_of_nonneg (Rat.num_nonneg.2 h)]
  rw [Rat.mul_den_eq_num, ← hnum]
  rfl

theorem le_hundredths (h : (m : Rat) ≤ 100 * size) : m ≤ hundredths size := by
  have hsize : 0 ≤ size := by
    have := Nat.cast_nonneg (α := Rat) m
    linarith
  have hden : (0 : Rat) < size.den := by exact_mod_cast size.den_pos
  apply le_roundedDiv_of_mul_le size.den_pos
  have hle : ((m * size.den : Nat) : Rat) ≤ ((size.num.toNat * 100 : Nat) : Rat) := by
    push_cast
    rw [num_eq hsize]
    nlinarith
  exact_mod_cast hle

theorem le_hundredths_iff_of_even (hsize : 0 ≤ size) (hm : m % 2 = 0) :
    m ≤ hundredths size ↔ 2 * (m : Rat) - 1 ≤ 200 * size := by
  have hden : (0 : Rat) < size.den := by exact_mod_cast size.den_pos
  rw [hundredths, le_roundedDiv_iff_of_even size.den_pos hm, ← Nat.cast_le (α := Rat)]
  push_cast
  rw [num_eq hsize]
  constructor
  · intro h
    by_contra hlt
    nlinarith
  · intro h
    nlinarith

theorem hundredths_close (hsize : 0 ≤ size) : |(hundredths size : Rat) / 100 - size| ≤ 1 / 200 := by
  have hden : (0 : Rat) < size.den := by exact_mod_cast size.den_pos
  obtain ⟨hlow, hhigh⟩ := roundedDiv_close (a := size.num.toNat * 100) size.den_pos
  rw [← hundredths, ← Nat.cast_le (α := Rat)] at hlow hhigh
  push_cast at hlow hhigh
  rw [num_eq hsize] at hlow hhigh
  rw [abs_le]
  constructor
  · by_contra hlt
    nlinarith
  · by_contra hlt
    nlinarith

end Hundredths

section Normalise

variable {size : Rat} {unit : Nat}

theorem normalise_eq_div (h : 1024 ≤ size) (hunit : unit < maxUnit) :
    normalise size unit = normalise (size / 1024) (unit + 1) := by
  have hlt : size / 1024 < size := by linarith
  rw [normalise, if_pos ⟨h, hunit, hlt⟩]

theorem normalise_eq_self (h : size < 1024) : normalise size unit = (size, unit) := by
  rw [normalise, if_neg]
  rintro ⟨hle, -⟩
  linarith

/-- The loop divides as long as there is a larger unit and the size fills it. -/
theorem normalise_spec (hsize : 0 ≤ size) (hunit : unit ≤ maxUnit) :
    ∃ k, normalise size unit = (size / 1024 ^ k, unit + k) ∧ unit + k ≤ maxUnit ∧
      (unit + k < maxUnit → size < 1024 ^ (k + 1)) ∧ (0 < k → 1024 ^ k ≤ size) := by
  fun_induction normalise size unit with
  | case1 size unit hdiv ih =>
      obtain ⟨hle, hlt, -⟩ := hdiv
      obtain ⟨k, heq, hk, hbelow, habove⟩ := ih (by linarith) (by omega)
      refine ⟨k + 1, ?_, by omega, ?_, ?_⟩
      · rw [heq, pow_succ', div_div]
        congr 1
        omega
      · intro h
        have := hbelow (by omega)
        rw [div_lt_iff₀ (by norm_num)] at this
        rwa [pow_succ]
      · intro _
        rw [pow_succ]
        cases k with
        | zero => simpa using hle
        | succ k => exact (le_div_iff₀ (by norm_num)).1 (habove (Nat.succ_pos k))
  | case2 size unit hstop =>
      refine ⟨0, by simp, by omega, ?_, by omega⟩
      intro h
      by_contra hge
      have hle : 1024 ≤ size := by simpa using hge
      exact hstop ⟨hle, by omega, by linarith⟩

end Normalise

theorem toDouble_of_lt {bytes : Nat} (h : bytes < 2 ^ 53) : toDouble bytes = bytes := if_pos h

example : formatSize 1536 = "1.50 KB".toList := by
  have h : normalise (1536 : Nat) 0 = (3 / 2, 1) := by
    rw [normalise_eq_div (by norm_num) (by decide), normalise_eq_self (by norm_num)]
    norm_num
  rw [formatSize, printed, toDouble_of_lt (by decide), h]
  decide +kernel

/-- The exact number of bytes would be printed as 8192.13. -/
example : toDouble 9007336693694465 = 8192125 * 1024 ^ 4 / 1000 := by decide +kernel

theorem printed_spec (bytes : Nat) :
    ∃ k, printed bytes = (hundredths (toDouble bytes / 1024 ^ k), k) ∧ k ≤ maxUnit ∧
      (k < maxUnit → toDouble bytes < 1024 ^ (k + 1)) ∧ (0 < k → 1024 ^ k ≤ toDouble bytes) := by
  obtain ⟨k, heq, hk, hbelow, habove⟩ :=
    normalise_spec (Nat.cast_nonneg (α := Rat) (toDouble bytes)) (Nat.zero_le maxUnit)
  rw [Nat.zero_add] at heq hk hbelow
  refine ⟨k, ?_, hk, ?_, ?_⟩
  · rw [printed, heq]
  · intro h
    exact_mod_cast hbelow h
  · intro h
    exact_mod_cast habove h

theorem eq_of_bounds {bytes j k : Nat} (hbelow : k < maxUnit → bytes < 1024 ^ (k + 1))
    (habove : 0 < k → 1024 ^ k ≤ bytes) (hle : 1024 ^ j ≤ bytes) (hlt : bytes < 1024 ^ (j + 1))
    (hj : j < maxUnit) : k = j := by
  rcases Nat.lt_trichotomy k j with h | h | h
  · have hup : bytes < 1024 ^ (k + 1) := hbelow (by omega)
    have hpow : 1024 ^ (k + 1) ≤ 1024 ^ j := Nat.pow_le_pow_right (by decide) h
    omega
  · exact h
  · have hdown : 1024 ^ k ≤ bytes := habove (by omega)
    have hpow : 1024 ^ (j + 1) ≤ 1024 ^ k := Nat.pow_le_pow_right (by decide) h
    omega

structure ByteCount where
  bytes : Nat
  exact : bytes < 2 ^ 53

namespace ByteCount

variable (n : ByteCount)

structure Normalised : Prop where
  unit_lt : (printed n.bytes).2 < units.length
  below : (printed n.bytes).2 < maxUnit → (printed n.bytes).1 < 1024 * 100
  above : 0 < (printed n.bytes).2 → 1 * 100 ≤ (printed n.bytes).1
  close : |((printed n.bytes).1 : Rat) / 100 - n.bytes / 1024 ^ (printed n.bytes).2| ≤ 1 / 200

/-- The size is less than 1024 units, by at most half a hundredth of one. -/
def JustBelow (k : Nat) : Prop := 204799 * 1024 ^ k ≤ 200 * n.bytes ∧ n.bytes < 1024 ^ (k + 1)

theorem quotient_nonneg (k : Nat) : (0 : Rat) ≤ n.bytes / 1024 ^ k :=
  div_nonneg (Nat.cast_nonneg n.bytes) (by positivity)

variable {n}

theorem rounds_up_iff {k : Nat} :
    1024 * 100 ≤ hundredths (n.bytes / 1024 ^ k) ↔ 204799 * 1024 ^ k ≤ 200 * n.bytes := by
  have hpow : (0 : Rat) < 1024 ^ k := by positivity
  rw [le_hundredths_iff_of_even (n.quotient_nonneg k) (by decide), ← mul_div_assoc, le_div_iff₀ hpow,
    ← Nat.cast_le (α := Rat)]
  norm_num

theorem close (k : Nat) :
    |(hundredths (n.bytes / 1024 ^ k) : Rat) / 100 - n.bytes / 1024 ^ k| ≤ 1 / 200 :=
  hundredths_close (n.quotient_nonneg k)

theorem one_le {k : Nat} (h : 1024 ^ k ≤ n.bytes) : 1 * 100 ≤ hundredths (n.bytes / 1024 ^ k) := by
  apply le_hundredths
  have hpow : (0 : Rat) < 1024 ^ k := by positivity
  have hone : (1 : Rat) ≤ n.bytes / 1024 ^ k := by
    rw [le_div_iff₀ hpow, one_mul]
    exact_mod_cast h
  norm_num
  exact hone

/-- The unit is chosen before the number is rounded. -/
theorem normalised_iff (n : ByteCount) :
    n.Normalised ↔ ¬ ∃ k, 1 ≤ k ∧ k < maxUnit ∧ n.JustBelow k := by
  obtain ⟨k, heq, hk, hbelow, habove⟩ := printed_spec n.bytes
  rw [toDouble_of_lt n.exact] at heq hbelow habove
  constructor
  · rintro h ⟨j, hj, hjmax, hround, hlt⟩
    have hle : 1024 ^ j ≤ n.bytes := by omega
    obtain rfl := eq_of_bounds hbelow habove hle hlt hjmax
    have hfits := h.below (by rw [heq]; exact hjmax)
    rw [heq] at hfits
    exact absurd (rounds_up_iff.2 hround) (by omega)
  · intro h
    refine ⟨?_, ?_, ?_, ?_⟩
    · rw [heq]
      exact Nat.lt_succ_of_le hk
    · rw [heq]
      intro hkmax
      by_contra hfull
      have hround := rounds_up_iff.1 (Nat.le_of_not_lt hfull)
      refine h ⟨k, ?_, hkmax, hround, hbelow hkmax⟩
      by_contra hzero
      have := hbelow hkmax
      obtain rfl : k = 0 := by omega
      omega
    · rw [heq]
      intro hpos
      exact one_le (habove hpos)
    · rw [heq]
      exact n.close k

theorem normalised_not_always :
    formatSize 1048575 = "1024.00 KB".toList ∧ ¬ Normalised ⟨1048575, by decide⟩ := by
  have hunit : normalise (1048575 : Nat) 0 = (1048575 / 1024, 1) := by
    rw [normalise_eq_div (by norm_num) (by decide), normalise_eq_self (by norm_num)]
    rfl
  have hprinted : printed 1048575 = (102400, 1) := by
    rw [printed, toDouble_of_lt (by decide), hunit]
    decide +kernel
  constructor
  · rw [formatSize, hprinted]
    decide
  · intro h
    have := h.below
    rw [hprinted] at this
    exact absurd (this (by decide)) (by decide)

end ByteCount

end SdbusExamples.SizeFormat
