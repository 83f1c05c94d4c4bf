import SdbusExamples.DualSenseDivision
import SdbusExamples.TruncatedDivision
import Mathlib.Algebra.Order.Group.Abs
import Mathlib.Algebra.Order.Group.Int

namespace SdbusExamples.DualSenseArithmetic

open DualSenseReader DualSenseReport PackedBytes TruncatedDivision

/-- The structure that the reply fills; the request stands where the reply is short. -/
def calData (reply : List Byte) : ReportFeatureCalibrationData :=
  .ofImage (image (reply.take ReportFeatureCalibrationData.size ++
    (request 0x05 ReportFeatureCalibrationData.size).drop reply.length))

def Accepted (reply : List Byte) (hwCalData : HardwareCalibrationData) : Prop :=
  (getControllerCalibrationData (some reply) hwCalData).1 = .ok ()

theorem calibration_of_accepted {reply : List Byte} {hwCalData : HardwareCalibrationData}
    (h : Accepted reply hwCalData) :
    (getControllerCalibrationData (some reply) hwCalData).2 = calibrate (calData reply) := by
  have hget : getFeature (request 0x05 ReportFeatureCalibrationData.size) (some reply) =
      some (reply.take ReportFeatureCalibrationData.size ++
        (request 0x05 ReportFeatureCalibrationData.size).drop reply.length) := rfl
  rw [Accepted, getControllerCalibrationData, hget] at h
  rw [getControllerCalibrationData, hget]
  by_cases hid : (calData reply).reportID ≠ 0x05
  · simp only [calData] at hid
    simp only [if_pos hid] at h
    cases h
  · simp only [calData] at hid
    simp only [if_neg hid, calData]

/-- A reply whose accelerometer references are +8192 and -8192 on every axis. -/
def oneGReply : List Byte :=
  0x05 :: List.replicate 22 0 ++ (List.replicate 3 [0x00, 0x20, 0x00, 0xE0]).flatten ++
    List.replicate 6 0

def gyroPlus (cal : ReportFeatureCalibrationData) : Fin 3 → BitVec 16
  | 0 => cal.pitchPlus
  | 1 => cal.yawPlus
  | 2 => cal.rollPlus

def gyroMinus (cal : ReportFeatureCalibrationData) : Fin 3 → BitVec 16
  | 0 => cal.pitchMinus
  | 1 => cal.yawMinus
  | 2 => cal.rollMinus

def gyroBias (cal : ReportFeatureCalibrationData) : Fin 3 → BitVec 16
  | 0 => cal.pitchBias
  | 1 => cal.yawBias
  | 2 => cal.rollBias

def accPlus (cal : ReportFeatureCalibrationData) : Fin 3 → BitVec 16
  | 0 => cal.xPlus
  | 1 => cal.yPlus
  | 2 => cal.zPlus

def accMinus (cal : ReportFeatureCalibrationData) : Fin 3 → BitVec 16
  | 0 => cal.xMinus
  | 1 => cal.yMinus
  | 2 => cal.zMinus

theorem calibrate_gyro (cal : ReportFeatureCalibrationData) (i : Fin 3) :
    (calibrate cal).gyro i = sanityCheck GYRO_RANGE i (gyroAxis (ABS_RX + i)
      (promote cal.speedPlus + promote cal.speedMinus)
      (gyroPlus cal i) (gyroMinus cal i) (gyroBias cal i)) := by
  match i with
  | 0 => rfl
  | 1 => rfl
  | 2 => rfl

theorem calibrate_accel (cal : ReportFeatureCalibrationData) (i : Fin 3) :
    (calibrate cal).accel i =
      sanityCheck ACC_RANGE i (accelAxis i (accPlus cal i) (accMinus cal i)) := by
  match i with
  | 0 => rfl
  | 1 => rfl
  | 2 => rfl

/-- The two numbers of an entry that scale a sample, with integers taken unbounded. -/
structure Scale where
  sensNumer : Int
  sensDenom : Int
deriving DecidableEq

def Scale.sanityCheck (range : Int) (s : Scale) : Scale :=
  if s.sensDenom = 0 then ⟨range, 32767⟩ else s

def speed2x (cal : ReportFeatureCalibrationData) : Int :=
  (cal.speedPlus.toNat : Int) + cal.speedMinus.toNat

def gyroRange (cal : ReportFeatureCalibrationData) (i : Fin 3) : Int :=
  |((gyroPlus cal i).toNat : Int) - (gyroBias cal i).toNat| +
    |((gyroMinus cal i).toNat : Int) - (gyroBias cal i).toNat|

def range2g (cal : ReportFeatureCalibrationData) (i : Fin 3) : Int :=
  ((accPlus cal i).toNat : Int) - (accMinus cal i).toNat

def gyroScale (cal : ReportFeatureCalibrationData) (i : Fin 3) : Scale :=
  Scale.sanityCheck (2048 * 1024) ⟨speed2x cal * 1024, gyroRange cal i⟩

def accelScale (cal : ReportFeatureCalibrationData) (i : Fin 3) : Scale :=
  Scale.sanityCheck (4 * 8192) ⟨2 * 8192, range2g cal i⟩

theorem gyroScale_of_eq_zero {cal : ReportFeatureCalibrationData} {i : Fin 3}
    (h : gyroRange cal i = 0) : gyroScale cal i = ⟨2048 * 1024, 32767⟩ := if_pos h

theorem gyroScale_of_ne_zero {cal : ReportFeatureCalibrationData} {i : Fin 3}
    (h : gyroRange cal i ≠ 0) : gyroScale cal i = ⟨speed2x cal * 1024, gyroRange cal i⟩ := if_neg h

theorem accelScale_of_eq_zero {cal : ReportFeatureCalibrationData} {i : Fin 3}
    (h : range2g cal i = 0) : accelScale cal i = ⟨4 * 8192, 32767⟩ := if_pos h

theorem accelScale_of_ne_zero {cal : ReportFeatureCalibrationData} {i : Fin 3}
    (h : range2g cal i ≠ 0) : accelScale cal i = ⟨2 * 8192, range2g cal i⟩ := if_neg h

def Scale.apply (s : Scale) (raw : BitVec 16) : Int := scale s.sensNumer raw.toInt s.sensDenom

def Holds (c : CalibrationData) (s : Scale) : Prop :=
  c.sensNumer.toInt = s.sensNumer ∧ c.sensDenom.toInt = s.sensDenom

theorem toNat_lt (x : BitVec 16) : x.toNat < 65536 := x.isLt

theorem toInt_promote (x : BitVec 16) : (promote x).toInt = x.toNat := by
  have h := toNat_lt x
  rw [promote, BitVec.toInt_setWidth]
  apply Int.bmod_eq_of_le_mul_two <;> omega

theorem toInt_promote_sub (x y : BitVec 16) :
    (promote x - promote y).toInt = (x.toNat : Int) - y.toNat := by
  have hx := toNat_lt x
  have hy := toNat_lt y
  rw [toInt_sub_of_fits (by omega), toInt_promote, toInt_promote]
  rw [toInt_promote, toInt_promote, Fits]
  omega

theorem toInt_abs {x : BitVec 32} (h : -2 ^ 31 < x.toInt) : x.abs.toInt = |x.toInt| := by
  rw [BitVec.toInt_abs_eq_natAbs_of_ne_intMin, Int.abs_eq_natAbs]
  rintro rfl
  revert h
  decide

theorem toInt_abs_promote_sub (x y : BitVec 16) :
    (promote x - promote y).abs.toInt = |(x.toNat : Int) - y.toNat| := by
  have hx := toNat_lt x
  have hy := toNat_lt y
  rw [toInt_abs, toInt_promote_sub]
  rw [toInt_promote_sub]
  omega

theorem abs_sub_le (x y : BitVec 16) :
    0 ≤ |(x.toNat : Int) - y.toNat| ∧ |(x.toNat : Int) - y.toNat| ≤ 65535 := by
  have hx := toNat_lt x
  have hy := toNat_lt y
  refine ⟨abs_nonneg _, abs_le.2 ?_⟩
  omega

theorem speed2x_bounds (cal : ReportFeatureCalibrationData) :
    0 ≤ speed2x cal ∧ speed2x cal ≤ 131070 := by
  have hp := toNat_lt cal.speedPlus
  have hm := toNat_lt cal.speedMinus
  rw [speed2x]
  omega

theorem gyroRange_bounds (cal : ReportFeatureCalibrationData) (i : Fin 3) :
    0 ≤ gyroRange cal i ∧ gyroRange cal i ≤ 131070 := by
  have hp := abs_sub_le (gyroPlus cal i) (gyroBias cal i)
  have hm := abs_sub_le (gyroMinus cal i) (gyroBias cal i)
  rw [gyroRange]
  omega

theorem range2g_bounds (cal : ReportFeatureCalibrationData) (i : Fin 3) :
    -65535 ≤ range2g cal i ∧ range2g cal i ≤ 65535 := by
  have hp := toNat_lt (accPlus cal i)
  have hm := toNat_lt (accMinus cal i)
  rw [range2g]
  omega

theorem holds_gyroAxis (cal : ReportFeatureCalibrationData) (i : Fin 3) (absCode : Int) :
    Holds (gyroAxis absCode (promote cal.speedPlus + promote cal.speedMinus)
      (gyroPlus cal i) (gyroMinus cal i) (gyroBias cal i))
      ⟨speed2x cal * 1024, gyroRange cal i⟩ := by
  have hp := toNat_lt cal.speedPlus
  have hm := toNat_lt cal.speedMinus
  have hspeed : (promote cal.speedPlus + promote cal.speedMinus).toInt = speed2x cal := by
    rw [toInt_add_of_fits (by omega), toInt_promote, toInt_promote, speed2x]
    rw [toInt_promote, toInt_promote, Fits]
    omega
  have hres : GYRO_RES_PER_DEG_S.toInt = 1024 := rfl
  have hs := speed2x_bounds cal
  have hr := gyroRange_bounds cal i
  constructor
  · show ((promote cal.speedPlus + promote cal.speedMinus) * GYRO_RES_PER_DEG_S).toInt = _
    rw [toInt_mul_of_fits (by omega), hspeed, hres]
    rw [hspeed, hres, Fits]
    omega
  · simp only [gyroAxis]
    rw [toInt_add_of_fits (by omega), toInt_abs_promote_sub, toInt_abs_promote_sub, gyroRange]
    rw [toInt_abs_promote_sub, toInt_abs_promote_sub, ← gyroRange, Fits]
    omega

theorem holds_accelAxis (cal : ReportFeatureCalibrationData) (i : Fin 3) (absCode : Int) :
    Holds (accelAxis absCode (accPlus cal i) (accMinus cal i)) ⟨2 * 8192, range2g cal i⟩ :=
  ⟨rfl, toInt_promote_sub _ _⟩

theorem holds_sanityCheck {c : CalibrationData} {s : Scale} {range : BitVec 32} (i : Fin 3)
    (h : Holds c s) : Holds (sanityCheck range i c) (s.sanityCheck range.toInt) := by
  have hzero : c.sensDenom = 0 ↔ s.sensDenom = 0 := by
    rw [← h.2, ← BitVec.toInt_inj]
    rfl
  rw [sanityCheck, Scale.sanityCheck]
  by_cases hd : c.sensDenom = 0
  · rw [if_pos hd, if_pos (hzero.1 hd)]
    exact ⟨rfl, rfl⟩
  · rw [if_neg hd, if_neg (mt hzero.2 hd)]
    exact h

theorem holds_gyro (cal : ReportFeatureCalibrationData) (i : Fin 3) :
    Holds ((calibrate cal).gyro i) (gyroScale cal i) := by
  rw [calibrate_gyro]
  exact holds_sanityCheck i (holds_gyroAxis cal i _)

theorem holds_accel (cal : ReportFeatureCalibrationData) (i : Fin 3) :
    Holds ((calibrate cal).accel i) (accelScale cal i) := by
  rw [calibrate_accel]
  exact holds_sanityCheck i (holds_accelAxis cal i _)

end SdbusExamples.DualSenseArithmetic
