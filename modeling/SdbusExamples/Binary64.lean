import Mathlib.Algebra.Group.Int.Defs
import Mathlib.Algebra.Group.Nat.Defs
import Mathlib.Data.Int.Basic

namespace SdbusExamples.Binary64

abbrev Double := BitVec 64

def negative (x : Double) : Bool := x.getLsbD 63

def exponent (x : Double) : Nat := (x.extractLsb' 52 11).toNat

def fraction (x : Double) : Nat := (x.extractLsb' 0 52).toNat

def Finite (x : Double) : Prop := exponent x ≠ 2047

instance (x : Double) : Decidable (Finite x) := inferInstanceAs (Decidable (_ ≠ _))

/-- The smallest positive double is 2 ^ -1074. -/
def smallestExponent : Nat := 1074

/-- One in units of the smallest positive double. -/
def one : Nat := 2 ^ smallestExponent

/-- The magnitude of a finite double, in the same units. -/
def magnitude (x : Double) : Nat :=
  if exponent x = 0 then fraction x else (2 ^ 52 + fraction x) * 2 ^ (exponent x - 1)

def scaled (x : Double) : Int := if negative x then -(magnitude x : Int) else magnitude x

theorem exponent_lt (x : Double) : exponent x < 2048 := (x.extractLsb' 52 11).isLt

theorem fraction_lt (x : Double) : fraction x < 2 ^ 52 := (x.extractLsb' 0 52).isLt

theorem one_pos : 0 < one := Nat.two_pow_pos _

section Fields

def ofFields (s : Bool) (e f : Nat) : Double := BitVec.ofNat 64 (s.toNat * 2 ^ 63 + e * 2 ^ 52 + f)

variable {s : Bool} {e f : Nat}

theorem toNat_ofFields (he : e < 2048) (hf : f < 2 ^ 52) :
    (ofFields s e f).toNat = s.toNat * 2 ^ 63 + e * 2 ^ 52 + f := by
  have hs := Bool.toNat_le s
  rw [ofFields, BitVec.toNat_ofNat]
  apply Nat.mod_eq_of_lt
  omega

theorem exponent_ofFields (he : e < 2048) (hf : f < 2 ^ 52) : exponent (ofFields s e f) = e := by
  have hs := Bool.toNat_le s
  rw [exponent, BitVec.extractLsb'_toNat, toNat_ofFields he hf, Nat.shiftRight_eq_div_pow]
  omega

theorem fraction_ofFields (he : e < 2048) (hf : f < 2 ^ 52) : fraction (ofFields s e f) = f := by
  rw [fraction, BitVec.extractLsb'_toNat, toNat_ofFields he hf, Nat.shiftRight_eq_div_pow]
  omega

theorem negative_ofFields (he : e < 2048) (hf : f < 2 ^ 52) : negative (ofFields s e f) = s := by
  rw [negative, BitVec.getLsbD, toNat_ofFields he hf, Nat.testBit_eq_decide_div_mod_eq]
  cases s with
  | false => rw [decide_eq_false_iff_not, Bool.toNat_false]; omega
  | true => rw [decide_eq_true_iff, Bool.toNat_true]; omega

theorem finite_ofFields (he : e < 2047) (hf : f < 2 ^ 52) : Finite (ofFields s e f) := by
  rw [Finite, exponent_ofFields (by omega) hf]
  omega

end Fields

def negate (x : Double) : Double := ofFields (!negative x) (exponent x) (fraction x)

theorem fraction_negate (x : Double) : fraction (negate x) = fraction x :=
  fraction_ofFields (exponent_lt x) (fraction_lt x)

theorem finite_negate {x : Double} (h : Finite x) : Finite (negate x) := by
  rw [Finite, negate, exponent_ofFields (exponent_lt x) (fraction_lt x)]
  exact h

theorem scaled_negate (x : Double) : scaled (negate x) = -scaled x := by
  have hmagnitude : magnitude (negate x) = magnitude x := by
    rw [magnitude, magnitude, fraction_negate, negate,
      exponent_ofFields (exponent_lt x) (fraction_lt x)]
  rw [scaled, scaled, hmagnitude, negate, negative_ofFields (exponent_lt x) (fraction_lt x)]
  cases negative x <;> simp

theorem scaled_ofFields_normal (s : Bool) {e f : Nat} (he : e < 2047) (hf : f < 2 ^ 52)
    (hpos : e ≠ 0) {m : Nat} (hm : (2 ^ 52 + f) * 2 ^ (e - 1) = m * one) :
    scaled (ofFields s e f) = if s then -((m * one : Nat) : Int) else ((m * one : Nat) : Int) := by
  have he' : e < 2048 := by omega
  rw [scaled, magnitude, negative_ofFields he' hf, exponent_ofFields he' hf,
    fraction_ofFields he' hf, if_neg hpos, hm]

theorem exists_scaled_nat {m : Nat} (hm : m ≤ 2 ^ 53) :
    ∃ x, Finite x ∧ scaled x = ((m * one : Nat) : Int) := by
  by_cases hzero : m = 0
  · refine ⟨0, by decide, ?_⟩
    rw [hzero, Nat.zero_mul]
    decide
  by_cases htop : m = 2 ^ 53
  · refine ⟨ofFields false 1076 0, finite_ofFields (by omega) (by omega), ?_⟩
    apply scaled_ofFields_normal false (by omega) (by omega) (by omega)
    rw [htop, one, Nat.add_zero, ← Nat.pow_add, ← Nat.pow_add]
    congr 1
  · have hk : m.log2 ≤ 52 := by
      have := (Nat.log2_lt hzero).2 (Nat.lt_of_le_of_ne hm htop)
      omega
    have hlow : 2 ^ 52 ≤ m * 2 ^ (52 - m.log2) := by
      calc 2 ^ 52 = 2 ^ m.log2 * 2 ^ (52 - m.log2) := by rw [← Nat.pow_add]; congr 1; omega
        _ ≤ m * 2 ^ (52 - m.log2) := Nat.mul_le_mul_right _ (Nat.log2_self_le hzero)
    have hhigh : m * 2 ^ (52 - m.log2) < 2 ^ 53 := by
      calc m * 2 ^ (52 - m.log2) < 2 ^ (m.log2 + 1) * 2 ^ (52 - m.log2) :=
            Nat.mul_lt_mul_of_pos_right Nat.lt_log2_self (Nat.two_pow_pos _)
        _ = 2 ^ 53 := by rw [← Nat.pow_add]; congr 1; omega
    have hf : m * 2 ^ (52 - m.log2) - 2 ^ 52 < 2 ^ 52 := by omega
    refine ⟨ofFields false (1023 + m.log2) (m * 2 ^ (52 - m.log2) - 2 ^ 52),
      finite_ofFields (by omega) hf, ?_⟩
    apply scaled_ofFields_normal false (by omega) hf (by omega)
    rw [Nat.add_sub_cancel' hlow, one, Nat.mul_assoc, ← Nat.pow_add]
    congr 2
    rw [smallestExponent]
    omega

/-- From 2 ^ 53 on only even integers are doubles. -/
theorem magnitude_large {x : Double} (h : 2 ^ 53 * one ≤ magnitude x) :
    ∃ t, magnitude x = (2 ^ 52 + fraction x) * 2 ^ t * (2 * one) := by
  have hf := fraction_lt x
  have hone := one_pos
  rw [magnitude] at h ⊢
  split_ifs at h ⊢ with hzero
  · have hle : 2 ^ 53 * 1 ≤ 2 ^ 53 * one := Nat.mul_le_mul_left _ hone
    omega
  · have hexp : smallestExponent < exponent x - 1 := by
      have hlt : 2 ^ 53 * one < 2 ^ 53 * 2 ^ (exponent x - 1) :=
        calc 2 ^ 53 * one ≤ (2 ^ 52 + fraction x) * 2 ^ (exponent x - 1) := h
          _ < 2 ^ 53 * 2 ^ (exponent x - 1) :=
            Nat.mul_lt_mul_of_pos_right (by omega) (Nat.two_pow_pos _)
      rw [one] at hlt
      have hpow := Nat.lt_of_mul_lt_mul_left hlt
      exact (Nat.pow_lt_pow_iff_right (by omega)).1 hpow
    refine ⟨exponent x - 1 - (smallestExponent + 1), ?_⟩
    rw [one, Nat.mul_assoc, Nat.mul_comm 2, ← Nat.pow_succ, ← Nat.pow_add]
    congr 2
    omega

theorem magnitude_next {x : Double} (h : magnitude x = (2 ^ 53 + 2) * one) : fraction x = 1 := by
  have hone := one_pos
  have hlarge : 2 ^ 53 * one ≤ magnitude x := by
    rw [h]
    exact Nat.mul_le_mul_right one (by omega)
  obtain ⟨t, ht⟩ := magnitude_large hlarge
  have hsig : (2 ^ 52 + fraction x) * 2 ^ t = 2 ^ 52 + 1 := by
    have heq : (2 ^ 52 + fraction x) * 2 ^ t * (2 * one) = (2 ^ 52 + 1) * (2 * one) := by
      rw [← ht, h, ← Nat.mul_assoc]
      congr 1
    exact Nat.eq_of_mul_eq_mul_right (by omega) heq
  cases t with
  | zero => omega
  | succ t =>
      have := Nat.two_pow_pos t
      have hle : (2 ^ 52 + fraction x) * 2 ≤ (2 ^ 52 + fraction x) * 2 ^ (t + 1) :=
        Nat.mul_le_mul_left _ (by rw [Nat.pow_succ]; omega)
      omega

def dist (n : Int) (x : Double) : Nat := (scaled x - n * one).natAbs

/-- `x` is the double that `n` is rounded to: the nearest one, and of two that
are as near the one with the even significand. -/
structure Nearest (n : Int) (x : Double) : Prop where
  finite : Finite x
  nearest : ∀ y, Finite y → dist n x ≤ dist n y
  even : ∀ y, Finite y → dist n y = dist n x → scaled y ≠ scaled x → fraction x % 2 = 0

theorem dist_negate (n : Int) (x : Double) : dist (-n) (negate x) = dist n x := by
  rw [dist, dist, scaled_negate, Int.neg_mul, ← Int.natAbs_neg]
  congr 1
  omega

theorem Nearest.negate {n : Int} {x : Double} (h : Nearest n x) : Nearest (-n) (negate x) := by
  have hback : ∀ y, dist n (Binary64.negate y) = dist (-n) y := by
    intro y
    have hy := dist_negate (-n) y
    rwa [Int.neg_neg] at hy
  refine ⟨finite_negate h.finite, fun y hy => ?_, fun y hy heq hne => ?_⟩
  · rw [dist_negate, ← hback]
    exact h.nearest _ (finite_negate hy)
  · rw [fraction_negate]
    apply h.even _ (finite_negate hy)
    · rw [hback, heq, dist_negate]
    · rw [scaled_negate] at hne ⊢
      omega

theorem Nearest.of_nat {n : Nat} {x : Double} (h : Nearest n x) (hn : n ≤ 2 ^ 53) :
    scaled x = n * one := by
  obtain ⟨y, hy, hscaled⟩ := exists_scaled_nat hn
  have hle := h.nearest y hy
  rw [dist, dist, hscaled] at hle
  omega

theorem Nearest.exact {n : Int} {x : Double} (h : Nearest n x) (hn : n.natAbs ≤ 2 ^ 53) :
    scaled x = n * one := by
  rcases Int.natAbs_eq n with hpos | hneg
  · rw [hpos] at h ⊢
    exact h.of_nat hn
  · rw [hneg] at h ⊢
    have hnat := h.negate
    rw [Int.neg_neg] at hnat
    have hscaled := hnat.of_nat hn
    rw [scaled_negate] at hscaled
    rw [Int.neg_mul]
    omega

theorem scaled_of_nonneg {x : Double} (h : 0 < scaled x) : scaled x = magnitude x := by
  rw [scaled] at h ⊢
  split_ifs at h ⊢ with hneg
  · omega
  · rfl

theorem scaled_between {x : Double} (hlow : 2 ^ 53 * (one : Int) ≤ scaled x)
    (hhigh : scaled x ≤ (2 ^ 53 + 2) * (one : Int)) :
    scaled x = 2 ^ 53 * (one : Int) ∨
      (scaled x = (2 ^ 53 + 2) * (one : Int) ∧ fraction x = 1) := by
  have hone := one_pos
  have hx : scaled x = magnitude x := scaled_of_nonneg (by omega)
  rw [hx] at hlow hhigh ⊢
  obtain ⟨t, ht⟩ := magnitude_large (x := x) (by omega)
  have ht' := Nat.two_pow_pos t
  have hmin : (2 ^ 52 + fraction x) * 1 ≤ (2 ^ 52 + fraction x) * 2 ^ t := Nat.mul_le_mul_left _ ht'
  have hmax : (2 ^ 52 + fraction x) * 2 ^ t ≤ 2 ^ 52 + 1 := by
    apply Nat.le_of_mul_le_mul_right (c := 2 * one) _ (by omega)
    rw [← ht]
    omega
  rcases Nat.lt_or_ge ((2 ^ 52 + fraction x) * 2 ^ t) (2 ^ 52 + 1) with hlt | hge
  · left
    rw [ht, show (2 ^ 52 + fraction x) * 2 ^ t = 2 ^ 52 by omega]
    omega
  · right
    have hmagnitude : magnitude x = (2 ^ 53 + 2) * one := by
      rw [ht, show (2 ^ 52 + fraction x) * 2 ^ t = 2 ^ 52 + 1 by omega]
      omega
    refine ⟨?_, magnitude_next hmagnitude⟩
    omega

/-- 2 ^ 53 + 1 lies in the middle of two doubles, of which 2 ^ 53 is the even one. -/
theorem Nearest.tie {x : Double} (h : Nearest (2 ^ 53 + 1) x) : scaled x = 2 ^ 53 * (one : Int) := by
  have hone := one_pos
  obtain ⟨y, hy, hscaled⟩ := exists_scaled_nat (Nat.le_refl (2 ^ 53))
  have hle := h.nearest y hy
  have heven := h.even y hy
  rw [dist, dist, hscaled] at hle heven
  rcases scaled_between (x := x) (by omega) (by omega) with hlow | ⟨hhigh, hodd⟩
  · exact hlow
  · have := heven (by omega) (by omega)
    omega

theorem nearest_tie : Nearest (2 ^ 53 + 1) (ofFields false 1076 0) := by
  have hone := one_pos
  have hscaled : scaled (ofFields false 1076 0) = 2 ^ 53 * (one : Int) := by
    have hm : (2 ^ 52 + 0) * 2 ^ (1076 - 1) = 2 ^ 53 * one := by
      rw [one, Nat.add_zero, ← Nat.pow_add, ← Nat.pow_add]
      congr 1
    rw [scaled_ofFields_normal false (by omega) (by omega) (by omega) hm, if_neg Bool.false_ne_true]
    omega
  refine ⟨finite_ofFields (by omega) (by omega), fun y _ => ?_, fun y _ _ _ => ?_⟩
  · by_contra hlt
    rw [dist, dist, hscaled] at hlt
    rcases scaled_between (x := y) (by omega) (by omega) with hlow | ⟨hhigh, -⟩ <;> omega
  · rw [fraction_ofFields (by omega) (by omega)]

theorem Nearest.beyond {n : Int} {x : Double} (h : Nearest n x) (hn : 2 ^ 53 + 2 ≤ n) :
    2 ^ 53 * (one : Int) < scaled x := by
  have hone := one_pos
  have hscaled : scaled (ofFields false 1076 1) = (2 ^ 53 + 2) * (one : Int) := by
    have hpow : 2 ^ (1076 - 1) = 2 * one := by
      rw [one, Nat.mul_comm, ← Nat.pow_succ]
      congr 1
    have hm : (2 ^ 52 + 1) * 2 ^ (1076 - 1) = (2 ^ 53 + 2) * one := by
      rw [hpow]
      omega
    rw [scaled_ofFields_normal false (by omega) (by omega) (by omega) hm, if_neg Bool.false_ne_true]
    omega
  have hle := h.nearest _ (finite_ofFields (by omega) (by omega) : Finite (ofFields false 1076 1))
  have hmul : (2 ^ 53 + 2) * (one : Int) ≤ n * one := Int.mul_le_mul_of_nonneg_right hn (by omega)
  rw [dist, dist, hscaled] at hle
  omega

end SdbusExamples.Binary64
