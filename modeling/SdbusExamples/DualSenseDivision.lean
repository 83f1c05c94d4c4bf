import SdbusExamples.DualSenseReader

namespace SdbusExamples.DualSenseDivision

open DualSenseReader DualSenseReport LoopRun PackedBytes

def Usable (cal : HardwareCalibrationData) : Prop :=
  ∀ i, (cal.gyro i).sensDenom ≠ 0 ∧ (cal.accel i).sensDenom ≠ 0

theorem apply_of_ne_zero {c : CalibrationData} (h : c.sensDenom ≠ 0) (raw : BitVec 16) :
    ∃ x, c.apply raw = some x := by
  rw [CalibrationData.apply, multFrac, if_neg h]
  exact ⟨_, rfl⟩

theorem apply_of_zero {c : CalibrationData} (h : c.sensDenom = 0) (raw : BitVec 16) :
    c.apply raw = none := by
  rw [CalibrationData.apply, multFrac, if_pos h]

theorem print_of_usable {cal : HardwareCalibrationData} (h : Usable cal) (state : USBGetStateData) :
    ∃ printout, printControllerStateUsb state cal = some printout := by
  obtain ⟨gyroX, hgx⟩ := apply_of_ne_zero (h 0).1 state.angularVelocityX
  obtain ⟨gyroY, hgy⟩ := apply_of_ne_zero (h 1).1 state.angularVelocityY
  obtain ⟨gyroZ, hgz⟩ := apply_of_ne_zero (h 2).1 state.angularVelocityZ
  obtain ⟨accX, hax⟩ := apply_of_ne_zero (h 0).2 state.accelerometerX
  obtain ⟨accY, hay⟩ := apply_of_ne_zero (h 1).2 state.accelerometerY
  obtain ⟨accZ, haz⟩ := apply_of_ne_zero (h 2).2 state.accelerometerZ
  simp only [printControllerStateUsb, hgx, hgy, hgz, hax, hay, haz]
  exact ⟨_, rfl⟩

theorem print_zero (state : USBGetStateData) : printControllerStateUsb state .zero = none := by
  have h : (HardwareCalibrationData.zero.gyro 0).apply state.angularVelocityX = none :=
    apply_of_zero rfl _
  rw [printControllerStateUsb, h]
  rfl

theorem sanityCheck_sensDenom (range : BitVec 32) (i : Fin 3) (c : CalibrationData) :
    (sanityCheck range i c).sensDenom ≠ 0 := by
  rw [sanityCheck]
  by_cases h : c.sensDenom = 0
  · have hmax : INT16_MAX ≠ 0 := by decide
    rw [if_pos h]
    exact hmax
  · rw [if_neg h]
    exact h

theorem calibrate_usable (cal : ReportFeatureCalibrationData) : Usable (calibrate cal) :=
  fun _ => ⟨sanityCheck_sensDenom _ _ _, sanityCheck_sensDenom _ _ _⟩

/-- The ioctl succeeded with a reply of the right report id; an empty reply
leaves the id of the request. -/
def CalibrationAccepted (d : Device) : Prop :=
  ∃ reply, d.calibration = some reply ∧ ∀ id ∈ reply.head?, id = 0x05

theorem getFeature_request (id : Byte) (size : Nat) (reply : List Byte) :
    ∃ bytes, getFeature (request id size) (some reply) = some bytes ∧
      byteAt bytes 0 = reply.head?.getD id := by
  refine ⟨_, rfl, ?_⟩
  cases reply with
  | nil => rfl
  | cons b reply => rfl

theorem calibration_accepted {d : Device} (h : CalibrationAccepted d)
    (cal : HardwareCalibrationData) :
    Usable (getControllerCalibrationData d.calibration cal).2 := by
  obtain ⟨reply, hr, hid⟩ := h
  obtain ⟨bytes, hb, hbyte⟩ := getFeature_request 0x05 ReportFeatureCalibrationData.size reply
  have hok : byteAt bytes 0 = 0x05 := by
    rw [hbyte]
    cases hh : reply.head? with
    | none => rfl
    | some id => exact hid id hh
  rw [hr, getControllerCalibrationData, hb]
  simp only [ReportFeatureCalibrationData.reportID_ofImage, hok]
  exact calibrate_usable _

theorem calibration_rejected {d : Device} (h : ¬ CalibrationAccepted d)
    (cal : HardwareCalibrationData) : (getControllerCalibrationData d.calibration cal).2 = cal := by
  cases hr : d.calibration with
  | none => rfl
  | some reply =>
      obtain ⟨bytes, hb, hbyte⟩ := getFeature_request 0x05 ReportFeatureCalibrationData.size reply
      have hbad : byteAt bytes 0 ≠ 0x05 := by
        intro hok
        refine h ⟨reply, hr, fun id hid => ?_⟩
        rw [hbyte, Option.mem_def.1 hid] at hok
        exact hok
      rw [getControllerCalibrationData, hb]
      simp only [ReportFeatureCalibrationData.reportID_ofImage, if_pos hbad]

def StateReport (product : BitVec 16) (revents : Short) (result : ReadResult) : Prop :=
  product = 0x0CE6 ∧ revents &&& (POLLHUP ||| POLLERR) = 0 ∧ ∃ id rest, result = .ok (id :: rest) ∧
    (id = 1 ∨ id = 49 ∧ (byteAt rest 0).getLsbD 0 = true)

theorem guards_of_decode {r : InputReader} {revents : Short} {result : ReadResult}
    {state : USBGetStateData} (h : r.decode revents result = .state state) :
    revents &&& (POLLHUP ||| POLLERR) = 0 ∧ r.product = 0x0CE6 ∧
      ∃ id rest, result = .ok (id :: rest) := by
  cases result with
  | failed again =>
      rw [InputReader.decode] at h
      split_ifs at h
  | ok report =>
      simp only [InputReader.decode] at h
      by_cases hup : revents &&& (POLLHUP ||| POLLERR) ≠ 0
      · rw [if_pos hup] at h
        cases h
      · rw [if_neg hup] at h
        by_cases hp : r.product = 0x0CE6
        · cases report with
          | nil => simp at h
          | cons id rest => exact ⟨not_not.1 hup, hp, id, rest, rfl⟩
        · rw [if_neg hp] at h
          split_ifs at h

theorem decode_state_iff (r : InputReader) (revents : Short) (result : ReadResult) :
    (∃ state, r.decode revents result = .state state) ↔ StateReport r.product revents result := by
  constructor
  · rintro ⟨state, h⟩
    obtain ⟨hup, hp, id, rest, rfl⟩ := guards_of_decode h
    refine ⟨hp, hup, id, rest, rfl, ?_⟩
    rw [decode_cons r id rest hup hp] at h
    by_cases h1 : id = 1
    · exact Or.inl h1
    · rw [if_neg h1] at h
      by_cases h49 : id = 49
      · refine Or.inr ⟨h49, ?_⟩
        rw [if_pos h49] at h
        by_cases hid : (ReportIn31.ofImage (image (id :: rest.take 78))).hasHID ≠ 0
        · rw [hasHID_ofImage, byteAt_take (by omega)] at hid
          exact hid
        · simp only [if_neg hid] at h
          split_ifs at h
      · rw [if_neg h49] at h
        cases h
  · rintro ⟨hp, hup, id, rest, rfl, h⟩
    rw [decode_cons r id rest hup hp]
    rcases h with rfl | ⟨rfl, hbit⟩
    · exact ⟨_, rfl⟩
    · have hid : (ReportIn31.ofImage (image (49 :: rest.take 78))).hasHID ≠ 0 := by
        rw [hasHID_ofImage, byteAt_take (by omega)]
        exact hbit
      have h1 : (49 : Byte) ≠ 1 := by decide
      simp only [if_neg h1, if_pos hid, if_true]
      exact ⟨_, rfl⟩

theorem dispatch_of_usable {r : InputReader} (h : Usable r.hwCalData) (revents : Short)
    (result : ReadResult) : (r.dispatch revents result).isSome = true := by
  rw [InputReader.dispatch]
  cases r.decode revents result with
  | state state =>
      obtain ⟨printout, hp⟩ := print_of_usable h state
      simp [hp]
  | _ => rfl

theorem dispatch_of_zero {r : InputReader} (h : r.hwCalData = .zero) (revents : Short)
    (result : ReadResult) :
    (r.dispatch revents result).isSome = true ↔ ¬ StateReport r.product revents result := by
  rw [← decode_state_iff, InputReader.dispatch]
  cases r.decode revents result with
  | state state => simp [h, print_zero]
  | _ => simp

theorem openAndInit_valid {device : String} {d : Device}
    (hv : (openAndInit device d).valid = true) :
    (openAndInit device d).hwCalData = (getControllerCalibrationData d.calibration .zero).2 ∧
      (openAndInit device d).product = d.product := by
  rw [openAndInit] at hv ⊢
  cases ho : d.opened with
  | none => simp [ho, InputReader.valid, InputReader.unopened] at hv
  | some fd =>
      cases hi : d.rawInfo with
      | none => simp [ho, hi, InputReader.valid, InputReader.unopened] at hv
      | some info =>
          simp only [ho, hi] at hv ⊢
          split at hv
          · next descSize hname hphys hsize hdesc =>
              by_cases hbad : descSize < 0 ∨ HID_MAX_DESCRIPTOR_SIZE < descSize
              · simp [hbad, InputReader.valid, InputReader.unopened] at hv
              · simp only [if_neg hbad]
                exact ⟨rfl, by simp [Device.product, hi]⟩
          · simp [InputReader.valid, InputReader.unopened] at hv

/-- While a valid reader streams, no report leads to a division by zero if and
only if the calibration request was answered properly, or no report carries a state. -/
theorem dispatches_without_trap_iff (device : String) (d : Device)
    (hv : (openAndInit device d).valid = true) (reports : List (Short × ReadResult)) :
    (∀ x ∈ reports, ((openAndInit device d).dispatch x.1 x.2).isSome = true) ↔
      CalibrationAccepted d ∨ ∀ x ∈ reports, ¬ StateReport d.product x.1 x.2 := by
  obtain ⟨hcal, hproduct⟩ := openAndInit_valid hv
  by_cases hacc : CalibrationAccepted d
  · have husable : Usable (openAndInit device d).hwCalData := by
      rw [hcal]
      exact calibration_accepted hacc _
    exact ⟨fun _ => Or.inl hacc, fun _ x _ => dispatch_of_usable husable x.1 x.2⟩
  · have hzero : (openAndInit device d).hwCalData = .zero := by
      rw [hcal, calibration_rejected hacc]
    simp only [dispatch_of_zero hzero, hproduct, hacc, false_or]

theorem dispatches_without_trap_iff_dualSense :
    (∀ x ∈ [(POLLIN, ReadResult.ok [0x01, 0x80])],
        ((openAndInit "/dev/hidraw0" (dualSense (some [0x05]))).dispatch x.1 x.2).isSome = true) ↔
      CalibrationAccepted (dualSense (some [0x05])) ∨
        ∀ x ∈ [(POLLIN, ReadResult.ok [0x01, 0x80])],
          ¬ StateReport (dualSense (some [0x05])).product x.1 x.2 :=
  dispatches_without_trap_iff "/dev/hidraw0" (dualSense (some [0x05])) (by decide) _

/-- The calibration request fails and the controller streams on: the first
input report divides by zero. -/
theorem division_by_zero_without_calibration :
    ¬ ∀ (device : String) (d : Device), (openAndInit device d).valid = true →
      ∀ reports : List (Short × ReadResult), ∀ x ∈ reports,
        ((openAndInit device d).dispatch x.1 x.2).isSome = true := by
  intro h
  have h := h "/dev/hidraw0" (dualSense none) (by decide) [(POLLIN, .ok [0x01, 0x80])]
    (POLLIN, .ok [0x01, 0x80]) (by simp)
  have hzero : (openAndInit "/dev/hidraw0" (dualSense none)).hwCalData = .zero := rfl
  have hstate : StateReport 0x0CE6 POLLIN (.ok [0x01, 0x80]) :=
    ⟨rfl, by decide, 0x01, [0x80], rfl, Or.inl rfl⟩
  exact (dispatch_of_zero hzero POLLIN _).1 h hstate

end SdbusExamples.DualSenseDivision
