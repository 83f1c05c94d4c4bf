import SdbusExamples.DualSenseOverflow
import Mathlib.Algebra.Order.Field.Basic
import Mathlib.Data.Rat.Cast.Order
import Mathlib.Tactic.Linarith
import Mathlib.Tactic.FieldSimp

namespace SdbusExamples.DualSenseAccelerometer

open DualSenseArithmetic DualSenseEntries DualSenseOverflow DualSenseReader DualSenseReport
  PackedBytes TruncatedDivision

/-- A calibrated axis reads plus and minus one g at its references, up to the
rounding of the division, and does not turn back in between. -/
structure MeansOneG (plus minus : BitVec 16) (value : BitVec 16 → Int) : Prop where
  up : |(value plus : ℚ) - 8192| ≤ 1 + 8192 / ((plus.toInt - minus.toInt : Int) : ℚ)
  down : |(value minus : ℚ) + 8192| ≤ 1 + 8192 / ((plus.toInt - minus.toInt : Int) : ℚ)
  mono : ∀ raw raw' : BitVec 16, raw.toInt ≤ raw'.toInt → value raw ≤ value raw'

theorem accel_sensDenom_ne_zero (cal : ReportFeatureCalibrationData) (i : Fin 3) :
    ((calibrate cal).accel i).sensDenom ≠ 0 :=
  (DualSenseDivision.calibrate_usable cal i).2

/-- mult_frac() on a stored entry, with integers taken unbounded. -/
def calibrated (c : CalibrationData) (raw : BitVec 16) : Int :=
  scale c.sensNumer.toInt raw.toInt c.sensDenom.toInt

theorem calibrated_accel (cal : ReportFeatureCalibrationData) (i : Fin 3) :
    calibrated ((calibrate cal).accel i) = (accelScale cal i).apply := by
  funext raw
  rw [calibrated, (holds_accel cal i).1, (holds_accel cal i).2, Scale.apply]

theorem apply_accel (cal : ReportFeatureCalibrationData) (i : Fin 3) (raw : BitVec 16) :
    ∃ x, ((calibrate cal).accel i).apply raw = some x ∧
      x.toInt = (accelScale cal i).apply raw := by
  obtain ⟨x, hx, hval⟩ := apply_of_fits (accel_sensDenom_ne_zero cal i) (accelSample_fits cal i raw)
  exact ⟨x, hx, hval.trans (congrFun (calibrated_accel cal i) raw)⟩

theorem print_accelerometer (cal : ReportFeatureCalibrationData) (state : USBGetStateData) :
    (printControllerStateUsb state (calibrate cal)).map Printout.accelerometer =
      some [(accelScale cal 0).apply state.accelerometerX,
        (accelScale cal 1).apply state.accelerometerY,
        (accelScale cal 2).apply state.accelerometerZ] := by
  have hgyro (i : Fin 3) (raw : BitVec 16) : ∃ x, ((calibrate cal).gyro i).apply raw = some x :=
    DualSenseDivision.apply_of_ne_zero (DualSenseDivision.calibrate_usable cal i).1 raw
  obtain ⟨gyroX, hgx⟩ := hgyro 0 state.angularVelocityX
  obtain ⟨gyroY, hgy⟩ := hgyro 1 state.angularVelocityY
  obtain ⟨gyroZ, hgz⟩ := hgyro 2 state.angularVelocityZ
  obtain ⟨accX, hax, hx⟩ := apply_accel cal 0 state.accelerometerX
  obtain ⟨accY, hay, hy⟩ := apply_accel cal 1 state.accelerometerY
  obtain ⟨accZ, haz, hz⟩ := apply_accel cal 2 state.accelerometerZ
  rw [← hx, ← hy, ← hz]
  simp only [printControllerStateUsb, hgx, hgy, hgz, hax, hay, haz]
  rfl

theorem within_iff {r : Int} (hr : 0 < r) (v c : Int) :
    |(v : ℚ) - c| ≤ 1 + 8192 / (r : ℚ) ↔ |v - c| * r ≤ r + 8192 := by
  have hr' : (0 : ℚ) < r := by exact_mod_cast hr
  have hsum : (1 : ℚ) + 8192 / r = (r + 8192) / r := by field_simp
  rw [hsum, le_div_iff₀ hr']
  exact_mod_cast Iff.rfl

/-- The references are read as unsigned numbers: their difference is the range
exactly when both have one sign, and is negative otherwise. -/
theorem range2g_of_lt {cal : ReportFeatureCalibrationData} {i : Fin 3}
    (h : (accMinus cal i).toInt < (accPlus cal i).toInt) :
    range2g cal i = (accPlus cal i).toInt - (accMinus cal i).toInt ∧
        (0 ≤ (accMinus cal i).toInt ∨ (accPlus cal i).toInt < 0) ∨
      -65535 ≤ range2g cal i ∧ range2g cal i < 0 := by
  have hp := toNat_lt (accPlus cal i)
  have hm := toNat_lt (accMinus cal i)
  rw [BitVec.toInt_eq_toNat_cond, BitVec.toInt_eq_toNat_cond] at h ⊢
  rw [range2g]
  split_ifs at h ⊢ <;> omega

theorem accelScale_apply {cal : ReportFeatureCalibrationData} {i : Fin 3}
    (h : range2g cal i ≠ 0) (raw : BitVec 16) :
    (accelScale cal i).apply raw = scale 16384 raw.toInt (range2g cal i) := by
  rw [accelScale_of_ne_zero h]
  rfl

theorem not_mono_of_neg {d : Int} (hd : d < 0) (hlo : -65535 ≤ d) :
    scale 16384 32767 d < scale 16384 0 d := by
  have hzero : scale 16384 0 d = 0 := by
    rw [scale_eq, Int.mul_zero, Int.zero_tdiv]
  have hpos : 1 ≤ scale 16384 32767 (-d) := by
    rw [scale_eq]
    exact Int.le_tdiv_of_mul_le (by omega) (by omega)
  rw [scale_neg_right] at hpos
  omega

/-- References of one sign leave one of the two values on the wrong side of zero;
only the smallest range is lenient enough for that. -/
theorem range_eq_one {r v : Int} (hr : 0 < r) (h : 8192 ≤ |v|) (hw : |v| * r ≤ r + 8192) :
    r = 1 := by
  have hle : 8192 * r ≤ |v| * r := Int.mul_le_mul_of_nonneg_right h (by omega)
  omega

theorem MeansOneG.references {cal : ReportFeatureCalibrationData} {i : Fin 3}
    (hlt : (accMinus cal i).toInt < (accPlus cal i).toInt)
    (h : MeansOneG (accPlus cal i) (accMinus cal i) (accelScale cal i).apply) :
    (accPlus cal i).toInt = 1 ∧ (accMinus cal i).toInt = 0 := by
  have hr : 0 < (accPlus cal i).toInt - (accMinus cal i).toInt := by omega
  rcases range2g_of_lt hlt with ⟨hrange, hsign⟩ | ⟨hlo, hneg⟩
  · have hne : range2g cal i ≠ 0 := by omega
    have hup := (within_iff hr _ 8192).1 h.up
    have hdown := (within_iff hr _ (-8192)).1 (by simpa using h.down)
    rw [accelScale_apply hne, hrange] at hup hdown
    rcases hsign with hminus | hplus
    · -- the value at the lower reference is not negative
      have hval := scale_nonneg (x := 16384) (by omega) hminus hr.le
      have hone := range_eq_one hr (by rw [abs_of_nonneg] <;> omega) hdown
      rw [hone, scale_eq, Int.tdiv_one, abs_of_nonneg (by omega)] at hdown
      omega
    · -- the value at the upper reference is not positive
      have hval := scale_nonneg (x := 16384) (n := -(accPlus cal i).toInt) (by omega) (by omega)
        hr.le
      rw [scale_neg_mid] at hval
      have hone := range_eq_one hr (by rw [abs_of_nonpos] <;> omega) hup
      rw [hone, scale_eq, Int.tdiv_one, abs_of_nonpos (by omega)] at hup
      omega
  · exfalso
    have hne : range2g cal i ≠ 0 := by omega
    have hmono := h.mono 0 0x7FFF (by decide)
    rw [accelScale_apply hne, accelScale_apply hne] at hmono
    have hbad := not_mono_of_neg hneg hlo
    exact absurd hmono (not_le.2 hbad)

theorem range2g_eq_one {cal : ReportFeatureCalibrationData} {i : Fin 3}
    (hplus : (accPlus cal i).toInt = 1) (hminus : (accMinus cal i).toInt = 0) :
    range2g cal i = 1 := by
  have hp := toNat_lt (accPlus cal i)
  have hm := toNat_lt (accMinus cal i)
  rw [BitVec.toInt_eq_toNat_cond] at hplus hminus
  rw [range2g]
  split_ifs at hplus hminus <;> omega

theorem meansOneG_iff (cal : ReportFeatureCalibrationData) (i : Fin 3)
    (hlt : (accMinus cal i).toInt < (accPlus cal i).toInt) :
    MeansOneG (accPlus cal i) (accMinus cal i) (accelScale cal i).apply ↔
      (accPlus cal i).toInt = 1 ∧ (accMinus cal i).toInt = 0 := by
  constructor
  · exact MeansOneG.references hlt
  · rintro ⟨hplus, hminus⟩
    have hrange := range2g_eq_one hplus hminus
    have hval (raw : BitVec 16) : (accelScale cal i).apply raw = 16384 * raw.toInt := by
      rw [accelScale_apply (by omega), hrange, scale_eq, Int.tdiv_one]
    have hdiff : (accPlus cal i).toInt - (accMinus cal i).toInt = 1 := by omega
    constructor
    · rw [hdiff, hval, hplus]
      norm_num
    · rw [hdiff, hval, hminus]
      norm_num
    · intro raw raw' hle
      rw [hval, hval]
      omega

/-- The bias is stored and never subtracted, and negative references are read as
large positive ones: no reply with a range above one is calibrated as meant. -/
theorem accepted_meansOneG_iff (reply : List Byte) (hwCalData : HardwareCalibrationData)
    (h : Accepted reply hwCalData) (i : Fin 3)
    (hlt : (accMinus (calData reply) i).toInt < (accPlus (calData reply) i).toInt) :
    MeansOneG (accPlus (calData reply) i) (accMinus (calData reply) i)
        (calibrated ((getControllerCalibrationData (some reply) hwCalData).2.accel i)) ↔
      (accPlus (calData reply) i).toInt = 1 ∧ (accMinus (calData reply) i).toInt = 0 := by
  rw [calibration_of_accepted h, calibrated_accel]
  exact meansOneG_iff (calData reply) i hlt

theorem accepted_meansOneG_iff_oneG :
    MeansOneG (accPlus (calData oneGReply) 0) (accMinus (calData oneGReply) 0)
        (calibrated ((getControllerCalibrationData (some oneGReply) .zero).2.accel 0)) ↔
      (accPlus (calData oneGReply) 0).toInt = 1 ∧ (accMinus (calData oneGReply) 0).toInt = 0 :=
  accepted_meansOneG_iff oneGReply .zero rfl 0 (by decide)

/-- With references of +8192 and -8192 a sample of one g reads -2730. -/
theorem oneG_not_meansOneG :
    ¬ ∀ (reply : List Byte) (hwCalData : HardwareCalibrationData), Accepted reply hwCalData →
      ∀ i, (accMinus (calData reply) i).toInt < (accPlus (calData reply) i).toInt →
        MeansOneG (accPlus (calData reply) i) (accMinus (calData reply) i)
          (calibrated ((getControllerCalibrationData (some reply) hwCalData).2.accel i)) := by
  intro h
  have hone := h oneGReply .zero rfl 0 (by decide)
  have hmono := hone.mono 0 0x2000 (by decide)
  revert hmono
  decide

end SdbusExamples.DualSenseAccelerometer
