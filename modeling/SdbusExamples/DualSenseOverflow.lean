import SdbusExamples.DualSenseEntries

namespace SdbusExamples.DualSenseOverflow

open DualSenseArithmetic DualSenseEntries DualSenseReader DualSenseReport PackedBytes
  TruncatedDivision

def multFracSteps (x n d : Int) : List Int :=
  [x.tdiv d, x.tmod d, x.tdiv d * n, x.tmod d * n, (x.tmod d * n).tdiv d, scale x n d]

def gyroSteps (cal : ReportFeatureCalibrationData) (i : Fin 3) : List Int :=
  let toPlus := ((gyroPlus cal i).toNat : Int) - (gyroBias cal i).toNat
  let toMinus := ((gyroMinus cal i).toNat : Int) - (gyroBias cal i).toNat
  [speed2x cal, speed2x cal * 1024, toPlus, |toPlus|, toMinus, |toMinus|, gyroRange cal i]

def accelSteps (cal : ReportFeatureCalibrationData) (i : Fin 3) : List Int :=
  [range2g cal i, (range2g cal i).tdiv 2, accBias cal i, 2 * 8192]

def sampleSteps (c : CalibrationData) (raw : BitVec 16) : List Int :=
  multFracSteps c.sensNumer.toInt raw.toInt c.sensDenom.toInt

structure Inside (cal : ReportFeatureCalibrationData) (hwCalData : HardwareCalibrationData)
    (gyro accel : Fin 3 → BitVec 16) : Prop where
  gyroEntry : ∀ i, ∀ v ∈ gyroSteps cal i, Fits 32 v
  accelEntry : ∀ i, ∀ v ∈ accelSteps cal i, Fits 32 v
  gyroSample : ∀ i, ∀ v ∈ sampleSteps (hwCalData.gyro i) (gyro i), Fits 32 v
  accelSample : ∀ i, ∀ v ∈ sampleSteps (hwCalData.accel i) (accel i), Fits 32 v

def limit (n : Int) : Nat := if n < 0 then 2147483648 else 2147483647

/-- The sample times the speed stays below `limit + 1` times the range, and so
does the sample times the remainder of the speed. -/
def GyroInside (cal : ReportFeatureCalibrationData) (i : Fin 3) (raw : BitVec 16) : Prop :=
  gyroRange cal i = 0 ∨
    speed2x cal * 1024 * raw.toInt.natAbs < (limit raw.toInt + 1) * gyroRange cal i ∧
      (speed2x cal * 1024) % gyroRange cal i * raw.toInt.natAbs ≤ limit raw.toInt

instance (cal : ReportFeatureCalibrationData) (i : Fin 3) (raw : BitVec 16) :
    Decidable (GyroInside cal i raw) := inferInstanceAs (Decidable (_ ∨ _))

theorem fits_iff_natAbs {v n : Int} (hpos : 0 ≤ n → 0 ≤ v) (hneg : n ≤ 0 → v ≤ 0) :
    Fits 32 v ↔ v.natAbs ≤ limit n := by
  rw [Fits, limit]
  by_cases h : n < 0
  · have hv := hneg (by omega)
    rw [if_pos h]
    omega
  · have hv := hpos (by omega)
    rw [if_neg h]
    omega

theorem mem_multFracSteps {x n d v : Int} : v ∈ multFracSteps x n d ↔
    v = x.tdiv d ∨ v = x.tmod d ∨ v = x.tdiv d * n ∨ v = x.tmod d * n ∨
      v = (x.tmod d * n).tdiv d ∨ v = scale x n d := by
  simp [multFracSteps]

theorem toInt_bounds (raw : BitVec 16) : -32768 ≤ raw.toInt ∧ raw.toInt ≤ 32767 := by
  have h := toInt_fits raw
  rw [Fits] at h
  omega

theorem fits_mul_iff (a : Nat) (n : Int) : Fits 32 (a * n) ↔ a * n.natAbs ≤ limit n := by
  have hpos (h : 0 ≤ n) : 0 ≤ (a : Int) * n := Int.mul_nonneg (by omega) h
  have hneg (h : n ≤ 0) : (a : Int) * n ≤ 0 := Int.mul_nonpos_of_nonneg_of_nonpos (by omega) h
  rw [fits_iff_natAbs hpos hneg, Int.natAbs_mul, Int.natAbs_natCast]

theorem fits_scale_iff (a : Nat) (n : Int) {d : Nat} (hd : 0 < d) :
    Fits 32 (scale a n d) ↔ a * n.natAbs < (limit n + 1) * d := by
  have hpos (h : 0 ≤ n) : 0 ≤ scale a n d := scale_nonneg (by omega) h (by omega)
  have hneg (h : n ≤ 0) : scale a n d ≤ 0 := by
    have h := scale_nonneg (Int.natCast_nonneg a) (Int.neg_nonneg_of_nonpos h)
      (Int.natCast_nonneg d)
    rw [scale_neg_mid] at h
    omega
  rw [fits_iff_natAbs hpos hneg, natAbs_scale, Int.natAbs_natCast, Int.natAbs_natCast,
    ← Nat.lt_succ_iff, Nat.div_lt_iff_lt_mul hd]

/-- With a numerator and a divisor that are not negative, the sum and the second
product decide: the other steps are smaller. -/
theorem multFracSteps_fits_iff {x d : Nat} (hx : x < 2147483648) (hd : 0 < d) (n : Int) :
    (∀ v ∈ multFracSteps x n d, Fits 32 v) ↔
      x * n.natAbs < (limit n + 1) * d ∧ x % d * n.natAbs ≤ limit n := by
  have hq : (x : Int).tdiv d = (x / d : Nat) := Int.ofNat_tdiv x d
  have hr : (x : Int).tmod d = (x % d : Nat) := Int.ofNat_tmod x d
  have hsmall (a : Nat) (h : a ≤ x) : Fits 32 a := by
    rw [Fits]
    omega
  simp only [mem_multFracSteps, forall_eq_or_imp, forall_eq, hq, hr, fits_mul_iff,
    fits_scale_iff x n hd, ← scale_eq, fits_scale_iff (x % d) n hd]
  constructor
  · rintro ⟨-, -, -, hrem, -, hsum⟩
    exact ⟨hsum, hrem⟩
  · rintro ⟨hsum, hrem⟩
    have hquot : x / d * n.natAbs ≤ limit n := by
      rw [← Nat.lt_succ_iff]
      apply Nat.lt_of_mul_lt_mul_right (a := d)
      calc x / d * n.natAbs * d = x / d * d * n.natAbs := Nat.mul_right_comm _ _ _
        _ ≤ x * n.natAbs := Nat.mul_le_mul_right _ (Nat.div_mul_le_self x d)
        _ < (limit n + 1) * d := hsum
    have hlast : x % d * n.natAbs < (limit n + 1) * d :=
      calc x % d * n.natAbs < limit n + 1 := Nat.lt_succ_of_le hrem
        _ ≤ (limit n + 1) * d := Nat.le_mul_of_pos_right _ hd
    exact ⟨hsmall _ (Nat.div_le_self x d), hsmall _ (Nat.mod_le x d), hquot, hrem, hlast, hsum⟩

theorem gyroSteps_fit (cal : ReportFeatureCalibrationData) (i : Fin 3) :
    ∀ v ∈ gyroSteps cal i, Fits 32 v := by
  have hs := speed2x_bounds cal
  have hr := gyroRange_bounds cal i
  have hplus := abs_sub_le (gyroPlus cal i) (gyroBias cal i)
  have hminus := abs_sub_le (gyroMinus cal i) (gyroBias cal i)
  have hp := toNat_lt (gyroPlus cal i)
  have hm := toNat_lt (gyroMinus cal i)
  have hb := toNat_lt (gyroBias cal i)
  intro v hv
  simp only [gyroSteps, List.mem_cons, List.not_mem_nil, or_false] at hv
  rw [Fits]
  rcases hv with rfl | rfl | rfl | rfl | rfl | rfl | rfl <;> omega

theorem accelSteps_fit (cal : ReportFeatureCalibrationData) (i : Fin 3) :
    ∀ v ∈ accelSteps cal i, Fits 32 v := by
  have hr := range2g_bounds cal i
  have hb := accBias_bounds cal i
  have hhalf := Int.natAbs_tdiv_le_natAbs (range2g cal i) 2
  intro v hv
  simp only [accelSteps, List.mem_cons, List.not_mem_nil, or_false] at hv
  rw [Fits]
  rcases hv with rfl | rfl | rfl | rfl <;> omega

theorem multFrac_of_fits {x d : BitVec 32} (hd : d ≠ 0) {n : BitVec 16}
    (h : ∀ v ∈ multFracSteps x.toInt n.toInt d.toInt, Fits 32 v) :
    ∃ y, multFrac x n d = some y ∧ y.toInt = scale x.toInt n.toInt d.toInt := by
  simp only [mem_multFracSteps, forall_eq_or_imp, forall_eq] at h
  obtain ⟨hq, -, hqn, hrn, hlast, hsum⟩ := h
  have hn : (n.signExtend 32).toInt = n.toInt := BitVec.toInt_signExtend_of_le (by omega)
  have hquot : (x.sdiv d).toInt = x.toInt.tdiv d.toInt := toInt_sdiv_of_fits (by omega) hq
  have hfirst : (x.sdiv d * n.signExtend 32).toInt = x.toInt.tdiv d.toInt * n.toInt := by
    rw [toInt_mul_of_fits (by omega), hquot, hn]
    rw [hquot, hn]
    exact hqn
  have hsecond : (x.srem d * n.signExtend 32).toInt = x.toInt.tmod d.toInt * n.toInt := by
    rw [toInt_mul_of_fits (by omega), BitVec.toInt_srem, hn]
    rw [BitVec.toInt_srem, hn]
    exact hrn
  have hdiv : ((x.srem d * n.signExtend 32).sdiv d).toInt =
      (x.toInt.tmod d.toInt * n.toInt).tdiv d.toInt := by
    rw [toInt_sdiv_of_fits (by omega), hsecond]
    rw [hsecond]
    exact hlast
  refine ⟨_, if_neg hd, ?_⟩
  rw [toInt_add_of_fits (by omega), hfirst, hdiv, scale]
  rw [hfirst, hdiv]
  exact hsum

theorem apply_of_fits {c : CalibrationData} (hd : c.sensDenom ≠ 0) {raw : BitVec 16}
    (h : ∀ v ∈ sampleSteps c raw, Fits 32 v) :
    ∃ x, c.apply raw = some x ∧
      x.toInt = scale c.sensNumer.toInt raw.toInt c.sensDenom.toInt :=
  multFrac_of_fits hd h

theorem sampleSteps_of_holds {c : CalibrationData} {s : Scale} (h : Holds c s)
    (raw : BitVec 16) :
    sampleSteps c raw = multFracSteps s.sensNumer raw.toInt s.sensDenom := by
  rw [sampleSteps, h.1, h.2]

/-- A numerator of at most 2^15 is too small for an overflow, whatever the divisor is. -/
theorem multFracSteps_fit {x d : Int} (hx : x.natAbs ≤ 32768) (raw : BitVec 16) :
    ∀ v ∈ multFracSteps x raw.toInt d, Fits 32 v := by
  have hraw := toInt_bounds raw
  have hfit (v : Int) (h : v.natAbs ≤ 1073741824) : Fits 32 v := by
    rw [Fits]
    omega
  have hmul (a : Int) (h : a.natAbs ≤ 32768) : (a * raw.toInt).natAbs ≤ 1073741824 := by
    have hn : raw.toInt.natAbs ≤ 32768 := by omega
    rw [Int.natAbs_mul]
    exact Nat.mul_le_mul h hn
  have hquot : (x.tdiv d).natAbs ≤ 32768 := (Int.natAbs_tdiv_le_natAbs x d).trans hx
  have hrem : (x.tmod d).natAbs ≤ 32768 := by
    rw [Int.natAbs_tmod]
    exact (Nat.mod_le _ _).trans hx
  intro v hv
  rw [mem_multFracSteps, scale_eq] at hv
  apply hfit
  rcases hv with rfl | rfl | rfl | rfl | rfl | rfl
  · omega
  · omega
  · exact hmul _ hquot
  · exact hmul _ hrem
  · exact (Int.natAbs_tdiv_le_natAbs _ _).trans (hmul _ hrem)
  · exact (Int.natAbs_tdiv_le_natAbs _ _).trans (hmul _ hx)

theorem accelSample_fits (cal : ReportFeatureCalibrationData) (i : Fin 3) (raw : BitVec 16) :
    ∀ v ∈ sampleSteps ((calibrate cal).accel i) raw, Fits 32 v := by
  rw [sampleSteps_of_holds (holds_accel cal i)]
  apply multFracSteps_fit
  by_cases h : range2g cal i = 0
  · rw [accelScale_of_eq_zero h]
    decide
  · rw [accelScale_of_ne_zero h]
    show (2 * 8192 : Int).natAbs ≤ 32768
    decide

theorem gyroSample_fits_iff (cal : ReportFeatureCalibrationData) (i : Fin 3) (raw : BitVec 16) :
    (∀ v ∈ sampleSteps ((calibrate cal).gyro i) raw, Fits 32 v) ↔ GyroInside cal i raw := by
  have hs := speed2x_bounds cal
  have hr := gyroRange_bounds cal i
  rw [sampleSteps_of_holds (holds_gyro cal i), GyroInside]
  by_cases h : gyroRange cal i = 0
  · have hraw := toInt_bounds raw
    have hlimit : 2147483647 ≤ limit raw.toInt := by
      rw [limit]
      split_ifs <;> omega
    have hinside := (multFracSteps_fits_iff (x := 2097152) (d := 32767) (by omega) (by omega)
      raw.toInt).2 ⟨by omega, by omega⟩
    simp only [gyroScale_of_eq_zero h, h, true_or, iff_true]
    exact hinside
  · obtain ⟨x, hx⟩ := Int.eq_ofNat_of_zero_le (a := speed2x cal * 1024) (by omega)
    obtain ⟨d, hd⟩ := Int.eq_ofNat_of_zero_le hr.1
    simp only [gyroScale_of_ne_zero h, h, false_or]
    rw [hx, hd, multFracSteps_fits_iff (by omega) (by omega)]
    norm_cast

/-- The calibration and the scaling of the samples stay inside int32 exactly
when the three gyro samples do. -/
theorem accepted_inside_iff (reply : List Byte) (hwCalData : HardwareCalibrationData)
    (h : Accepted reply hwCalData) (gyro accel : Fin 3 → BitVec 16) :
    Inside (calData reply) (getControllerCalibrationData (some reply) hwCalData).2 gyro accel ↔
      ∀ i, GyroInside (calData reply) i (gyro i) := by
  rw [calibration_of_accepted h]
  constructor
  · intro hinside i
    exact (gyroSample_fits_iff _ i _).1 (hinside.gyroSample i)
  · intro hinside
    exact ⟨gyroSteps_fit _, accelSteps_fit _, fun i => (gyroSample_fits_iff _ i _).2 (hinside i),
      fun i => accelSample_fits _ i _⟩

/-- 540 degrees a second turn the gyroscope by 8838 from a bias of zero; the
references of the other direction are read as 56698. -/
def turningReply : List Byte :=
  0x05 :: List.replicate 6 0 ++ (List.replicate 3 [0x86, 0x22, 0x7A, 0xDD]).flatten ++
    [0x1C, 0x02, 0x1C, 0x02] ++ (List.replicate 3 [0x00, 0x20, 0x00, 0xE0]).flatten ++
    List.replicate 6 0

theorem accepted_inside_iff_turning :
    Inside (calData turningReply) (getControllerCalibrationData (some turningReply) .zero).2
      (fun _ => 0x7FFF) (fun _ => 0x7FFF) :=
  (accepted_inside_iff turningReply .zero rfl (fun _ => 0x7FFF) (fun _ => 0x7FFF)).2 (by decide)

/-- The largest speed over a range of one: the quotient alone is close to 2^27. -/
def fastReply : List Byte :=
  0x05 :: List.replicate 6 0 ++ [0x01, 0x00] ++ List.replicate 10 0 ++ List.replicate 4 0xFF ++
    List.replicate 18 0

theorem fast_not_inside :
    ¬ ∀ (reply : List Byte) (hwCalData : HardwareCalibrationData), reply.length = 41 →
      Accepted reply hwCalData → ∀ gyro accel : Fin 3 → BitVec 16,
        Inside (calData reply) (getControllerCalibrationData (some reply) hwCalData).2
          gyro accel := by
  intro h
  have hinside := h fastReply .zero rfl rfl (fun _ => 17) (fun _ => 0)
  have hfits := hinside.gyroSample 0 2281666560 (by decide)
  revert hfits
  decide

end SdbusExamples.DualSenseOverflow
