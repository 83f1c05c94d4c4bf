import SdbusExamples.DualSenseAccelerometer

namespace SdbusExamples.DualSenseFractions

open DualSenseAccelerometer DualSenseArithmetic DualSenseOverflow DualSenseReader DualSenseReport
  PackedBytes TruncatedDivision

/-- mult_frac() with integers taken unbounded; `none` is a division by zero. -/
def multFracUnbounded (x n d : Int) : Option Int :=
  if d = 0 then none
  else
    let q := x.tdiv d
    let r := x.tmod d
    some (q * n + (r * n).tdiv d)

theorem multFracUnbounded_of_ne_zero {d : Int} (hd : d ≠ 0) (x n : Int) :
    multFracUnbounded x n d = some (scale x n d) := if_neg hd

theorem toInt_ne_zero {w : Nat} {d : BitVec w} (hd : d ≠ 0) : d.toInt ≠ 0 := by
  rw [← BitVec.toInt_zero (w := w)]
  exact mt BitVec.toInt_inj.1 hd

/-- The words follow the unbounded integers as long as no step leaves int32, and
trap where those have no result. -/
theorem multFrac_refines (x : BitVec 32) (n : BitVec 16) (d : BitVec 32)
    (h : ∀ v ∈ multFracSteps x.toInt n.toInt d.toInt, Fits 32 v) :
    (multFrac x n d).map BitVec.toInt = multFracUnbounded x.toInt n.toInt d.toInt := by
  by_cases hd : d = 0
  · rw [hd]
    rfl
  · obtain ⟨y, hy, hval⟩ := multFrac_of_fits hd h
    rw [multFracUnbounded_of_ne_zero (toInt_ne_zero hd), hy, Option.map_some, hval]

theorem scale_eq_truncate (x n d : Int) : scale x n d = truncate (x * n / d) := by
  rw [scale_eq, tdiv_eq_truncate, Int.cast_mul]

/-- mult_frac() is the product divided and rounded toward zero: always with
unbounded integers, and with the words that the callers pass if nothing overflows. -/
theorem multFrac_exact :
    (∀ x n d : Int, d ≠ 0 → multFracUnbounded x n d = some (truncate (x * n / d))) ∧
    ∀ (x : BitVec 32) (n : BitVec 16) (d : BitVec 32), d ≠ 0 →
      (∀ v ∈ multFracSteps x.toInt n.toInt d.toInt, Fits 32 v) →
      (multFrac x n d).map BitVec.toInt = some (truncate (x.toInt * n.toInt / d.toInt)) := by
  constructor
  · intro x n d hd
    rw [multFracUnbounded_of_ne_zero hd, scale_eq_truncate]
  · intro x n d hd h
    rw [multFrac_refines x n d h, multFracUnbounded_of_ne_zero (toInt_ne_zero hd),
      scale_eq_truncate]

theorem multFrac_exact_negative :
    multFracUnbounded (-7) 3 2 = some (truncate ((-7 : Int) * (3 : Int) / (2 : Int))) ∧
    (multFrac (-7) 3 2).map BitVec.toInt =
      some (truncate ((-7 : BitVec 32).toInt * (3 : BitVec 16).toInt / (2 : BitVec 32).toInt)) :=
  ⟨multFrac_exact.1 (-7) 3 2 (by decide), multFrac_exact.2 (-7) 3 2 (by decide) (by decide)⟩

theorem print_accelerometer_truncate (cal : ReportFeatureCalibrationData)
    (state : USBGetStateData) :
    (printControllerStateUsb state (calibrate cal)).map Printout.accelerometer =
      some ([(0, state.accelerometerX), (1, state.accelerometerY), (2, state.accelerometerZ)].map
        fun (i, raw) => truncate
          ((accelScale cal i).sensNumer * raw.toInt / (accelScale cal i).sensDenom)) := by
  rw [print_accelerometer]
  simp only [List.map_cons, List.map_nil, Scale.apply, scale_eq_truncate]

end SdbusExamples.DualSenseFractions
