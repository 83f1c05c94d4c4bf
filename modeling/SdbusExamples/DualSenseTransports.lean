import SdbusExamples.DualSenseReader

namespace SdbusExamples.DualSenseTransports

open DualSenseReader DualSenseReport LoopRun PackedBytes

structure SamePrinted (u v : Nat) : Prop where
  sticks : SameBits u v (8 * 0) (8 * 4)
  buttons : SameBits u v (8 * 7) (8 * 9 + 3)
  paddles : SameBits u v (8 * 9 + 4) (8 * 10)
  sensors : SameBits u v (8 * 11) (8 * 43)
  effects : SameBits u v (8 * 47) (8 * 48)
  plugged : SameBits u v (8 * 52) (8 * 53 + 5)
  external : SameBits u v (8 * 54) (8 * 54 + 2)

theorem samePrinted_of_printed {u v : Nat}
    (h : (USBGetStateData.ofImage u).printed = (USBGetStateData.ofImage v).printed) :
    SamePrinted u v := by
  simp only [USBGetStateData.printed, List.cons.injEq, unsigned_inj, signed_inj, and_true,
    USBGetStateData.ofImage, TouchData.ofImage, TouchFingerData.ofImage, field_eq_iff] at h
  obtain ⟨leftX, leftY, rightX, rightY, dPad, square, cross, circle, triangle, l1, r1, l2, r2,
    create, options, l3, r3, home, pad, mute, leftFunction, rightFunction, leftPaddle, rightPaddle,
    timeStamp, angularX, angularY, angularZ, accX, accY, accZ, sensorTimestamp, temperature,
    touchTimestamp, index0, x0, y0, notTouching0, -, index1, x1, y1, notTouching1, rightStop,
    rightStatus, leftStop, leftStatus, rightEffect, leftEffect, power, powerState, headphones, mic,
    muted, usbData, usbPower, externalMic, lowPass⟩ := h
  have byte7 := (((dPad.append square).append cross).append circle).append triangle
  have byte8 := ((((((l1.append r1).append l2).append r2).append create).append options).append
    l3).append r3
  have motion := (((((((timeStamp.append angularX).append angularZ).append angularY).append
    accX).append accY).append accZ).append sensorTimestamp).append temperature
  have finger0 := ((index0.append notTouching0).append x0).append y0
  have finger1 := ((index1.append notTouching1).append x1).append y1
  have triggers := ((rightStop.append rightStatus).append leftStop).append leftStatus
  have byte53 := (((headphones.append mic).append muted).append usbData).append usbPower
  constructor
  · exact ((leftX.append leftY).append rightX).append rightY
  · exact (byte7.append byte8).append ((home.append pad).append mute)
  · exact ((leftFunction.append rightFunction).append leftPaddle).append rightPaddle
  · exact (((motion.append finger0).append finger1).append touchTimestamp).append triggers
  · exact rightEffect.append leftEffect
  · exact (power.append powerState).append byte53
  · exact externalMic.append lowPass

theorem printed_of_samePrinted {u v : Nat} (h : SamePrinted u v) :
    (USBGetStateData.ofImage u).printed = (USBGetStateData.ofImage v).printed := by
  simp only [USBGetStateData.printed, List.cons.injEq, unsigned_inj, signed_inj, and_true,
    USBGetStateData.ofImage, TouchData.ofImage, TouchFingerData.ofImage, field_eq_iff]
  and_intros
  iterate 4 exact h.sticks.mono (by omega) (by omega)
  iterate 16 exact h.buttons.mono (by omega) (by omega)
  iterate 4 exact h.paddles.mono (by omega) (by omega)
  iterate 23 exact h.sensors.mono (by omega) (by omega)
  iterate 2 exact h.effects.mono (by omega) (by omega)
  iterate 7 exact h.plugged.mono (by omega) (by omega)
  iterate 2 exact h.external.mono (by omega) (by omega)

/-- The payload of which a copy that is one byte late, with the report id in
front, has the printed bits in the same places. -/
structure ShiftInvariant (s : List Byte) : Prop where
  sticks : ∀ k < 4, byteAt s k = 1
  buttons : ∀ k, 7 ≤ k → k < 9 → byteAt s k = byteAt s (k - 1)
  home : (byteAt s 9).extractLsb' 0 3 = (byteAt s 8).extractLsb' 0 3
  paddles : (byteAt s 9).extractLsb' 4 4 = (byteAt s 8).extractLsb' 4 4
  sensors : ∀ k, 11 ≤ k → k < 43 → byteAt s k = byteAt s (k - 1)
  effects : byteAt s 47 = byteAt s 46
  power : byteAt s 52 = byteAt s 51
  plugged : (byteAt s 53).extractLsb' 0 5 = (byteAt s 52).extractLsb' 0 5
  external : (byteAt s 54).extractLsb' 0 2 = (byteAt s 53).extractLsb' 0 2

section

variable {s trailing : List Byte}

theorem byteAt_late (id : Byte) {k : Nat} (hk : 1 ≤ k) :
    byteAt (id :: s) k = byteAt s (k - 1) := by
  obtain ⟨k, rfl⟩ := Nat.exists_eq_add_of_le' hk
  rfl

theorem byteAt_exact (hs : s.length = 63) {k : Nat} (hk : k < 63) :
    byteAt ((s ++ trailing).take 77) k = byteAt s k := by
  rw [byteAt_take (by omega), byteAt_append_left (by omega)]

theorem late_bytes_iff (hs : s.length = 63) {a b : Nat} (ha : 1 ≤ a) (hb : b ≤ 63) :
    SameBits (image (1 :: s)) (image ((s ++ trailing).take 77)) (8 * a) (8 * b) ↔
      ∀ k, a ≤ k → k < b → byteAt s k = byteAt s (k - 1) := by
  rw [sameBits_bytes_iff]
  constructor
  · intro h k hka hkb
    have hk := h k hka hkb
    rw [byteAt_late 1 (by omega), byteAt_exact hs (by omega)] at hk
    exact hk.symm
  · intro h k hka hkb
    rw [byteAt_late 1 (by omega), byteAt_exact hs (by omega)]
    exact (h k hka hkb).symm

theorem late_bits_iff (hs : s.length = 63) {k a n : Nat} (hk : 1 ≤ k) (hk' : k < 63)
    (han : a + n ≤ 8) :
    SameBits (image (1 :: s)) (image ((s ++ trailing).take 77)) (8 * k + a) (8 * k + a + n) ↔
      (byteAt s k).extractLsb' a n = (byteAt s (k - 1)).extractLsb' a n := by
  rw [sameBits_byte_iff _ _ han, byteAt_late 1 hk, byteAt_exact hs hk']
  exact eq_comm

theorem late_sticks_iff (hs : s.length = 63) :
    SameBits (image (1 :: s)) (image ((s ++ trailing).take 77)) (8 * 0) (8 * 4) ↔
      ∀ k < 4, byteAt s k = 1 := by
  have hfirst : SameBits (image (1 :: s)) (image ((s ++ trailing).take 77)) (8 * 0) (8 * 1) ↔
      byteAt s 0 = 1 := by
    rw [sameBits_bytes_iff]
    constructor
    · intro h
      have h0 := h 0 (by omega) (by omega)
      rw [byteAt_exact hs (by omega)] at h0
      exact h0.symm
    · intro h k _ hk
      obtain rfl : k = 0 := by omega
      rw [byteAt_exact hs (by omega), h]
      rfl
  have hsplit : (8 * 0 : Nat) ≤ 8 * 1 ∧ (8 * 1 : Nat) ≤ 8 * 4 := by omega
  rw [sameBits_split hsplit.1 hsplit.2, hfirst, late_bytes_iff hs (by omega) (by omega)]
  constructor
  · rintro ⟨h0, h⟩ k hk
    induction k with
    | zero => exact h0
    | succ k ih => rw [h (k + 1) (by omega) hk, Nat.add_sub_cancel, ih (by omega)]
  · intro h
    exact ⟨h 0 (by omega), fun k _ hk => by rw [h k hk, h (k - 1) (by omega)]⟩

theorem late_byte_iff (hs : s.length = 63) {k : Nat} (hk : 1 ≤ k) (hk' : k < 63) :
    SameBits (image (1 :: s)) (image ((s ++ trailing).take 77)) (8 * k) (8 * (k + 1)) ↔
      byteAt s k = byteAt s (k - 1) := by
  rw [late_bytes_iff hs hk hk']
  constructor
  · intro h
    exact h k le_rfl k.lt_succ_self
  · intro h j hj hj'
    obtain rfl : j = k := by omega
    exact h

theorem samePrinted_iff (hs : s.length = 63) :
    SamePrinted (image (1 :: s)) (image ((s ++ trailing).take 77)) ↔ ShiftInvariant s := by
  have hbits : ∀ k a n : Nat, 1 ≤ k → k < 63 → a + n ≤ 8 →
      (SameBits (image (1 :: s)) (image ((s ++ trailing).take 77)) (8 * k + a) (8 * k + a + n) ↔
        (byteAt s k).extractLsb' a n = (byteAt s (k - 1)).extractLsb' a n) :=
    fun k a n hk hk' han => late_bits_iff hs hk hk' han
  constructor
  · intro h
    constructor
    · exact (late_sticks_iff hs).1 h.sticks
    · exact (late_bytes_iff hs (by omega) (by omega)).1 (h.buttons.mono le_rfl (by omega))
    · exact (hbits 9 0 3 (by omega) (by omega) (by omega)).1 (h.buttons.mono (by omega) le_rfl)
    · exact (hbits 9 4 4 (by omega) (by omega) (by omega)).1 h.paddles
    · exact (late_bytes_iff hs (by omega) (by omega)).1 h.sensors
    · exact (late_byte_iff hs (by omega) (by omega)).1 h.effects
    · exact (late_byte_iff hs (by omega) (by omega)).1 (h.plugged.mono le_rfl (by omega))
    · exact (hbits 53 0 5 (by omega) (by omega) (by omega)).1 (h.plugged.mono (by omega) le_rfl)
    · exact (hbits 54 0 2 (by omega) (by omega) (by omega)).1 h.external
  · intro h
    have bytes78 : SameBits (image (1 :: s)) (image ((s ++ trailing).take 77)) (8 * 7) (8 * 9) :=
      (late_bytes_iff hs (by omega) (by omega)).2 h.buttons
    have byte52 : SameBits (image (1 :: s)) (image ((s ++ trailing).take 77)) (8 * 52) (8 * 53) :=
      (late_byte_iff hs (by omega) (by omega)).2 h.power
    constructor
    · exact (late_sticks_iff hs).2 h.sticks
    · exact bytes78.append ((hbits 9 0 3 (by omega) (by omega) (by omega)).2 h.home)
    · exact (hbits 9 4 4 (by omega) (by omega) (by omega)).2 h.paddles
    · exact (late_bytes_iff hs (by omega) (by omega)).2 h.sensors
    · exact (late_byte_iff hs (by omega) (by omega)).2 h.effects
    · exact byte52.append ((hbits 53 0 5 (by omega) (by omega) (by omega)).2 h.plugged)
    · exact (hbits 54 0 2 (by omega) (by omega) (by omega)).2 h.external

end

theorem decode_usb {r : InputReader} {revents : Short} {s : List Byte} (hs : s.length = 63)
    (hup : revents &&& (POLLHUP ||| POLLERR) = 0) (hp : r.product = 0x0CE6) :
    r.decode revents (.ok (0x01 :: s)) = .state (.ofImage (image (1 :: s))) := by
  rw [decode_cons r _ _ hup hp, if_pos rfl, List.take_of_length_le (by omega)]

theorem decode_bt {r : InputReader} {revents : Short} {flags : Byte} (payload : List Byte)
    (hid : flags.getLsbD 0 = true) (hup : revents &&& (POLLHUP ||| POLLERR) = 0)
    (hp : r.product = 0x0CE6) :
    r.decode revents (.ok (0x31 :: flags :: payload)) =
      .state (.ofImage (image (payload.take 77))) := by
  have hne : (0x31 : Byte) ≠ 1 := by decide
  have hhid : (ReportIn31.ofImage (image (0x31 :: flags :: payload.take 77))).hasHID ≠ 0 :=
    (hasHID_ofImage _ _).2 hid
  rw [decode_cons r _ _ hup hp, if_neg hne, if_pos rfl, List.take_succ_cons]
  simp only [if_pos hhid]
  rw [ReportIn31.ofImage, show (16 : Nat) = 8 + 8 from rfl, Nat.shiftRight_add,
    image_cons_shiftRight, image_cons_shiftRight]

/-- One payload over the two transports: what they pass to
PrintControllerStateUsb agrees on all that it prints for these payloads only. -/
theorem transports_agree_iff (r : InputReader) (hp : r.product = 0x0CE6) (revents : Short)
    (hup : revents &&& (POLLHUP ||| POLLERR) = 0) (s : List Byte) (hs : s.length = 63)
    (flags : Byte) (hid : flags.getLsbD 0 = true) (trailing : List Byte) :
    ∃ usb bt, r.decode revents (.ok (0x01 :: s)) = .state usb ∧
      r.decode revents (.ok (0x31 :: flags :: (s ++ trailing))) = .state bt ∧
      (usb.printed = bt.printed ↔ ShiftInvariant s) := by
  refine ⟨_, _, decode_usb hs hup hp, decode_bt _ hid hup hp, ?_⟩
  rw [← samePrinted_iff hs]
  exact ⟨samePrinted_of_printed, printed_of_samePrinted⟩

theorem transports_agree_iff_ones :
    ∃ usb bt, (openAndInit "/dev/hidraw0" (dualSense none)).decode POLLIN
        (.ok (0x01 :: List.replicate 63 1)) = .state usb ∧
      (openAndInit "/dev/hidraw0" (dualSense none)).decode POLLIN
        (.ok (0x31 :: 0x01 :: (List.replicate 63 1 ++ [0]))) = .state bt ∧
      (usb.printed = bt.printed ↔ ShiftInvariant (List.replicate 63 1)) :=
  transports_agree_iff _ rfl POLLIN (by decide) _ (by decide) 0x01 (by decide) [0]

/-- A controller at rest, its sticks at 0x80: over USB the report id is
printed as the left stick. -/
theorem usb_report_id_as_stick :
    ¬ ∀ (r : InputReader), r.product = 0x0CE6 → ∀ revents : Short,
      revents &&& (POLLHUP ||| POLLERR) = 0 → ∀ s : List Byte, s.length = 63 → ∀ flags : Byte,
      flags.getLsbD 0 = true → ∀ trailing : List Byte,
      ∃ usb bt, r.decode revents (.ok (0x01 :: s)) = .state usb ∧
        r.decode revents (.ok (0x31 :: flags :: (s ++ trailing))) = .state bt ∧
        usb.printed = bt.printed := by
  intro h
  have hup : POLLIN &&& (POLLHUP ||| POLLERR) = 0 := by decide
  have hs : (List.replicate 63 (0x80 : Byte)).length = 63 := by decide
  have hid : (0x01 : Byte).getLsbD 0 = true := by decide
  have hproduct : (openAndInit "/dev/hidraw0" (dualSense none)).product = 0x0CE6 := rfl
  obtain ⟨usb, bt, husb, hbt, hsame⟩ := h _ hproduct POLLIN hup _ hs 0x01 hid []
  rw [decode_usb hs hup hproduct] at husb
  rw [decode_bt _ hid hup hproduct] at hbt
  obtain rfl := Decoded.state.inj husb
  obtain rfl := Decoded.state.inj hbt
  have hsticks := ((samePrinted_iff hs).1 (samePrinted_of_printed hsame)).sticks 0 (by omega)
  revert hsticks
  decide

end SdbusExamples.DualSenseTransports
