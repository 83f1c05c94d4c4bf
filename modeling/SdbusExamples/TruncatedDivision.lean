import Mathlib.Algebra.Order.Group.Unbundled.Int
import Mathlib.Data.Rat.Floor
import Mathlib.Tactic.Ring

namespace SdbusExamples.TruncatedDivision

/-- The value of a `w`-bit signed word. -/
def Fits (w : Nat) (x : Int) : Prop := -2 ^ (w - 1) ≤ x ∧ x < 2 ^ (w - 1)

instance (w : Nat) (x : Int) : Decidable (Fits w x) := instDecidableAnd

/-- `x * n / d` through the quotient and the remainder of `x`. -/
def scale (x n d : Int) : Int := x.tdiv d * n + (x.tmod d * n).tdiv d

theorem scale_neg_left (x n d : Int) : scale (-x) n d = -scale x n d := by
  simp only [scale, Int.neg_tdiv, Int.neg_tmod, Int.neg_mul]
  ring

theorem scale_neg_mid (x n d : Int) : scale x (-n) d = -scale x n d := by
  simp only [scale, Int.mul_neg, Int.neg_tdiv]
  ring

theorem scale_neg_right (x n d : Int) : scale x n (-d) = -scale x n d := by
  simp only [scale, Int.tdiv_neg, Int.tmod_neg, Int.neg_mul]
  ring

theorem scale_natCast (x n d : Nat) : scale x n d = (x * n / d : Nat) := by
  rcases Nat.eq_zero_or_pos d with rfl | hd
  · simp [scale]
  · have hsplit : x * n = x % d * n + d * (x / d * n) := by
      rw [← Nat.mul_assoc, ← Nat.add_mul, Nat.mod_add_div]
    have hdiv : x * n / d = x % d * n / d + x / d * n := by
      rw [hsplit, Nat.add_mul_div_left _ _ hd]
    rw [scale, ← Int.ofNat_tdiv, ← Int.ofNat_tmod, ← Int.natCast_mul, ← Int.natCast_mul,
      ← Int.ofNat_tdiv, ← Int.natCast_add, hdiv, Nat.add_comm]

theorem scale_eq (x n d : Int) : scale x n d = (x * n).tdiv d := by
  have hnat (a b c : Nat) : scale a b c = ((a : Int) * b).tdiv c := by
    rw [scale_natCast, ← Int.natCast_mul, Int.ofNat_tdiv]
  -- one sign after the other is moved out of both sides
  have hright (a b : Nat) : scale a b d = ((a : Int) * b).tdiv d := by
    rcases Int.eq_nat_or_neg d with ⟨c, rfl | rfl⟩
    · exact hnat a b c
    · rw [scale_neg_right, hnat, Int.tdiv_neg]
  have hmid (a : Nat) : scale a n d = (a * n).tdiv d := by
    rcases Int.eq_nat_or_neg n with ⟨b, rfl | rfl⟩
    · exact hright a b
    · rw [scale_neg_mid, hright, Int.mul_neg, Int.neg_tdiv]
  rcases Int.eq_nat_or_neg x with ⟨a, rfl | rfl⟩
  · exact hmid a
  · rw [scale_neg_left, hmid, Int.neg_mul, Int.neg_tdiv]

def truncate (q : ℚ) : Int := if 0 ≤ q then ⌊q⌋ else ⌈q⌉

theorem truncate_neg (q : ℚ) : truncate (-q) = -truncate q := by
  rw [truncate, truncate]
  rcases lt_trichotomy q 0 with hq | rfl | hq
  · rw [if_pos (by linarith), if_neg (not_le.2 hq), Int.floor_neg]
  · simp
  · rw [if_neg (by linarith), if_pos hq.le, Int.ceil_neg]

theorem tdiv_eq_truncate (a d : Int) : a.tdiv d = truncate (a / d) := by
  have hnat (b c : Nat) : (b : Int).tdiv c = truncate ((b : Int) / (c : Int)) := by
    have hpos : (0 : ℚ) ≤ (b : Int) / (c : Int) := by positivity
    rw [truncate, if_pos hpos, Int.cast_natCast, Int.cast_natCast, Rat.floor_natCast_div_natCast]
    exact Int.tdiv_eq_ediv_of_nonneg (Int.natCast_nonneg b)
  have hright (b : Nat) : (b : Int).tdiv d = truncate ((b : Int) / d) := by
    rcases Int.eq_nat_or_neg d with ⟨c, rfl | rfl⟩
    · exact hnat b c
    · rw [Int.tdiv_neg, hnat, Int.cast_neg, div_neg, truncate_neg]
  rcases Int.eq_nat_or_neg a with ⟨b, rfl | rfl⟩
  · exact hright b
  · rw [Int.neg_tdiv, hright, Int.cast_neg, neg_div, truncate_neg]

theorem natAbs_scale (x n d : Int) : (scale x n d).natAbs = x.natAbs * n.natAbs / d.natAbs := by
  rw [scale_eq, Int.natAbs_tdiv, Int.natAbs_mul]
  rfl

theorem scale_nonneg {x n d : Int} (hx : 0 ≤ x) (hn : 0 ≤ n) (hd : 0 ≤ d) : 0 ≤ scale x n d := by
  rw [scale_eq]
  exact Int.tdiv_nonneg (Int.mul_nonneg hx hn) hd

theorem toInt_fits {w : Nat} (x : BitVec w) : Fits w x.toInt :=
  ⟨BitVec.le_toInt x, BitVec.toInt_lt⟩

theorem Fits.bmod_eq {w : Nat} (hw : 0 < w) {x : Int} (h : Fits w x) : x.bmod (2 ^ w) = x := by
  obtain ⟨k, rfl⟩ : ∃ k, w = k + 1 := ⟨w - 1, by omega⟩
  obtain ⟨hlo, hhi⟩ := h
  rw [Nat.add_sub_cancel] at hlo hhi
  have hpow : ((2 ^ (k + 1) : Nat) : Int) = 2 * 2 ^ k := by
    rw [Nat.pow_succ]
    push_cast
    ring
  apply Int.bmod_eq_of_le_mul_two <;> rw [hpow] <;> omega

theorem toInt_add_of_fits {w : Nat} (hw : 0 < w) {x y : BitVec w}
    (h : Fits w (x.toInt + y.toInt)) : (x + y).toInt = x.toInt + y.toInt := by
  rw [BitVec.toInt_add, h.bmod_eq hw]

theorem toInt_sub_of_fits {w : Nat} (hw : 0 < w) {x y : BitVec w}
    (h : Fits w (x.toInt - y.toInt)) : (x - y).toInt = x.toInt - y.toInt := by
  rw [BitVec.toInt_sub, h.bmod_eq hw]

theorem toInt_mul_of_fits {w : Nat} (hw : 0 < w) {x y : BitVec w}
    (h : Fits w (x.toInt * y.toInt)) : (x * y).toInt = x.toInt * y.toInt := by
  rw [BitVec.toInt_mul, h.bmod_eq hw]

theorem toInt_sdiv_of_fits {w : Nat} (hw : 0 < w) {x y : BitVec w}
    (h : Fits w (x.toInt.tdiv y.toInt)) : (x.sdiv y).toInt = x.toInt.tdiv y.toInt := by
  rw [BitVec.toInt_sdiv, h.bmod_eq hw]

end SdbusExamples.TruncatedDivision
