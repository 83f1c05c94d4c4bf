import SdbusExamples.DualSenseArithmetic

namespace SdbusExamples.DualSenseEntries

open DualSenseArithmetic DualSenseReader DualSenseReport PackedBytes TruncatedDivision

def ABS_X : Int := 0

def accBias (cal : ReportFeatureCalibrationData) (i : Fin 3) : Int :=
  (accPlus cal i).toNat - (range2g cal i).tdiv 2

structure WellFormed (cal : ReportFeatureCalibrationData) (hwCalData : HardwareCalibrationData) :
    Prop where
  gyroCode : ∀ i : Fin 3, (hwCalData.gyro i).absCode = ABS_RX + i
  accelCode : ∀ i : Fin 3, (hwCalData.accel i).absCode = ABS_X + i
  gyroDenom : ∀ i, 0 < (hwCalData.gyro i).sensDenom.toInt
  accelDenom : ∀ i, 0 < (hwCalData.accel i).sensDenom.toInt
  accelBias : ∀ i, (hwCalData.accel i).bias.toInt = accBias cal i

/-- The references of an accelerometer axis are in order and their middle is an int16. -/
def AxisUsable (plus minus : BitVec 16) : Prop :=
  minus.toNat < plus.toNat ∧ plus.toNat + minus.toNat ≤ 65534

theorem sanityCheck_absCode {range : BitVec 32} {i : Fin 3} {c : CalibrationData}
    (h : c.absCode = ABS_RX + i) : (sanityCheck range i c).absCode = ABS_RX + i := by
  rw [sanityCheck]
  by_cases hd : c.sensDenom = 0
  · rw [if_pos hd]
  · rw [if_neg hd, h]

theorem gyro_absCode (cal : ReportFeatureCalibrationData) (i : Fin 3) :
    ((calibrate cal).gyro i).absCode = ABS_RX + i := by
  rw [calibrate_gyro]
  exact sanityCheck_absCode rfl

theorem gyroScale_pos (cal : ReportFeatureCalibrationData) (i : Fin 3) :
    0 < (gyroScale cal i).sensDenom := by
  have hr := gyroRange_bounds cal i
  by_cases h : gyroRange cal i = 0
  · rw [gyroScale_of_eq_zero h]
    decide
  · rw [gyroScale_of_ne_zero h]
    show 0 < gyroRange cal i
    omega

theorem gyro_sensDenom_pos (cal : ReportFeatureCalibrationData) (i : Fin 3) :
    0 < ((calibrate cal).gyro i).sensDenom.toInt := by
  rw [(holds_gyro cal i).2]
  exact gyroScale_pos cal i

theorem accBias_bounds (cal : ReportFeatureCalibrationData) (i : Fin 3) :
    0 ≤ accBias cal i ∧ accBias cal i ≤ 65535 := by
  have hp := toNat_lt (accPlus cal i)
  have hm := toNat_lt (accMinus cal i)
  rw [accBias, range2g]
  rcases Int.le_total 0 (((accPlus cal i).toNat : Int) - (accMinus cal i).toNat) with h | h
  · rw [Int.tdiv_eq_ediv_of_nonneg h]
    omega
  · rw [← Int.neg_neg (Int.tdiv _ _), ← Int.neg_tdiv, Int.tdiv_eq_ediv_of_nonneg (by omega)]
    omega

theorem accBias_of_lt {cal : ReportFeatureCalibrationData} {i : Fin 3}
    (h : (accMinus cal i).toNat < (accPlus cal i).toNat) :
    accBias cal i ≤ 32767 ↔ (accPlus cal i).toNat + (accMinus cal i).toNat ≤ 65534 := by
  rw [accBias, range2g, Int.tdiv_eq_ediv_of_nonneg (by omega)]
  omega

theorem toInt_bias_accelAxis (cal : ReportFeatureCalibrationData) (i : Fin 3) (absCode : Int) :
    (accelAxis absCode (accPlus cal i) (accMinus cal i)).bias.toInt = accBias cal i ↔
      accBias cal i ≤ 32767 := by
  have hb := accBias_bounds cal i
  have hr := range2g_bounds cal i
  have hp := toNat_lt (accPlus cal i)
  have htwo : (2 : BitVec 32).toInt = 2 := rfl
  have hhalf : ((promote (accPlus cal i) - promote (accMinus cal i)).sdiv 2).toInt =
      (range2g cal i).tdiv 2 := by
    rw [toInt_sdiv_of_fits (by omega), toInt_promote_sub, htwo, range2g]
    rw [toInt_promote_sub, htwo, ← range2g, Fits]
    rw [accBias] at hb
    omega
  have hwide : (promote (accPlus cal i) -
      (promote (accPlus cal i) - promote (accMinus cal i)).sdiv 2).toInt = accBias cal i := by
    rw [toInt_sub_of_fits (by omega), toInt_promote, hhalf, accBias]
    rw [toInt_promote, hhalf, ← accBias, Fits]
    omega
  have hnat : ((promote (accPlus cal i) -
      (promote (accPlus cal i) - promote (accMinus cal i)).sdiv 2).toNat : Int) =
        accBias cal i := by
    rw [← hwide, BitVec.toInt_eq_toNat_cond, if_pos]
    rw [BitVec.toInt_eq_toNat_cond] at hwide
    split_ifs at hwide with hlt
    · exact hlt
    · have := (promote (accPlus cal i) -
        (promote (accPlus cal i) - promote (accMinus cal i)).sdiv 2).isLt
      omega
  rw [accelAxis, BitVec.toInt_setWidth, hnat, Int.bmod_def]
  split_ifs <;> omega

theorem accel_wellFormed_iff (cal : ReportFeatureCalibrationData) (i : Fin 3) :
    (((calibrate cal).accel i).absCode = ABS_X + i ∧
      0 < ((calibrate cal).accel i).sensDenom.toInt ∧
      ((calibrate cal).accel i).bias.toInt = accBias cal i) ↔
        AxisUsable (accPlus cal i) (accMinus cal i) := by
  have hrange : (accelAxis i (accPlus cal i) (accMinus cal i)).sensDenom.toInt = range2g cal i :=
    (holds_accelAxis cal i i).2
  rw [calibrate_accel, sanityCheck]
  by_cases hd : (accelAxis i (accPlus cal i) (accMinus cal i)).sensDenom = 0
  · -- the fallback writes the code of a gyro axis
    have hzero : range2g cal i = 0 := by
      rw [← hrange, hd]
      rfl
    have hcode : ABS_RX + (i : Int) ≠ ABS_X + i := by
      rw [ABS_RX, ABS_X]
      omega
    rw [range2g] at hzero
    simp only [if_pos hd, hcode, false_and, false_iff, AxisUsable]
    omega
  · have hcode : (accelAxis i (accPlus cal i) (accMinus cal i)).absCode = ABS_X + i :=
      (Int.zero_add _).symm
    simp only [if_neg hd, hcode, true_and, hrange, toInt_bias_accelAxis, AxisUsable]
    constructor
    · rintro ⟨hpos, hb⟩
      rw [range2g] at hpos
      have hlt : (accMinus cal i).toNat < (accPlus cal i).toNat := by omega
      exact ⟨hlt, (accBias_of_lt hlt).1 hb⟩
    · rintro ⟨hlt, hsum⟩
      refine ⟨?_, (accBias_of_lt hlt).2 hsum⟩
      rw [range2g]
      omega

theorem accepted_wellFormed_iff (reply : List Byte)
    (hwCalData : HardwareCalibrationData) (h : Accepted reply hwCalData) :
    WellFormed (calData reply) (getControllerCalibrationData (some reply) hwCalData).2 ↔
      ∀ i, AxisUsable (accPlus (calData reply) i) (accMinus (calData reply) i) := by
  rw [calibration_of_accepted h]
  constructor
  · intro hwf i
    exact (accel_wellFormed_iff _ i).1 ⟨hwf.accelCode i, hwf.accelDenom i, hwf.accelBias i⟩
  · intro husable
    have haccel := fun i => (accel_wellFormed_iff _ i).2 (husable i)
    exact ⟨gyro_absCode _, fun i => (haccel i).1, gyro_sensDenom_pos _, fun i => (haccel i).2.1,
      fun i => (haccel i).2.2⟩

theorem accepted_wellFormed_iff_oneG :
    WellFormed (calData oneGReply) (getControllerCalibrationData (some oneGReply) .zero).2 ↔
      ∀ i, AxisUsable (accPlus (calData oneGReply) i) (accMinus (calData oneGReply) i) :=
  accepted_wellFormed_iff oneGReply .zero rfl

/-- The references of one g up and one g down on every axis: read as unsigned
numbers they are out of order, and the divisor stored is negative. -/
theorem oneG_not_wellFormed :
    ¬ ∀ (reply : List Byte) (hwCalData : HardwareCalibrationData), reply.length = 41 →
      Accepted reply hwCalData →
        WellFormed (calData reply) (getControllerCalibrationData (some reply) hwCalData).2 := by
  intro h
  have hdenom := (h oneGReply .zero rfl rfl).accelDenom 0
  revert hdenom
  decide

end SdbusExamples.DualSenseEntries
