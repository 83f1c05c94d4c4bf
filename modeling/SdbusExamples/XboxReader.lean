import SdbusExamples.HidReader

namespace SdbusExamples.XboxReader

open HidReader LoopRun OStreams PackedBytes

structure InputReport01 where
  reportId : Byte
  gdGamepadPointerX : BitVec 16
  gdGamepadPointerY : BitVec 16
  gdGamepadPointerZ : BitVec 16
  gdGamepadPointerRz : BitVec 16
  simGamepadBrake : BitVec 10
  simGamepadAccelerator : BitVec 10
  gdGamepadHatSwitch : BitVec 4
  /-- Button 1 has the index 0. -/
  btnGamepadButton : Fin 15 → BitVec 1
  cdGamepadAcBack : BitVec 1

structure InputReport02 where
  reportId : Byte
  cdGamepadConsumerControlAcHome : BitVec 1

structure InputReport04 where
  reportId : Byte
  gdcGamepadBatteryStrength : Byte

def InputReport01.size : Nat := 17
def InputReport02.size : Nat := 2
def InputReport04.size : Nat := 2

def InputReport01.ofImage (m : Nat) : InputReport01 where
  reportId := field m (8 * 0) 8
  gdGamepadPointerX := field m (8 * 1) 16
  gdGamepadPointerY := field m (8 * 3) 16
  gdGamepadPointerZ := field m (8 * 5) 16
  gdGamepadPointerRz := field m (8 * 7) 16
  simGamepadBrake := field m (8 * 9) 10
  simGamepadAccelerator := field m (8 * 11) 10
  gdGamepadHatSwitch := field m (8 * 13) 4
  btnGamepadButton k := field m (8 * 14 + k) 1
  cdGamepadAcBack := field m (8 * 16) 1

def InputReport02.ofImage (m : Nat) : InputReport02 where
  reportId := field m (8 * 0) 8
  cdGamepadConsumerControlAcHome := field m (8 * 1) 1

def InputReport04.ofImage (m : Nat) : InputReport04 where
  reportId := field m (8 * 0) 8
  gdcGamepadBatteryStrength := field m (8 * 1) 8

def dpadToString (dpad : BitVec 4) : String :=
  match dpad.toNat with
  | 1 => "North"
  | 2 => "NorthEast"
  | 3 => "East"
  | 4 => "SouthEast"
  | 5 => "South"
  | 6 => "SouthWest"
  | 7 => "West"
  | 8 => "NorthWest"
  | _ => "None"

def buttonLabels : List String :=
  ["A: ", "B: ", "Button3: ", "X: ", "Y: ", "Button6: ", "Left Bumper: ", "Right Bumper: ",
    "Button9: ", "Button10: ", "Button11: ", "Menu: ", "Button13: ", "Left Stick Btn: ",
    "Right Stick Btn: "]

def printInputReport1 (r : InputReport01) : List Line :=
  [⟨.info, "Stick L/R: [".toList ++ shown r.gdGamepadPointerX ++ ",".toList ++
      shown r.gdGamepadPointerY ++ "] [".toList ++ shown r.gdGamepadPointerZ ++ ",".toList ++
      shown r.gdGamepadPointerRz ++ "] ".toList⟩,
    ⟨.info, "Trigger L/R: ".toList ++ shown r.simGamepadBrake ++ ", ".toList ++
      shown r.simGamepadAccelerator⟩,
    ⟨.info, "D-PAD: ".toList ++ (dpadToString r.gdGamepadHatSwitch).toList⟩] ++
  List.zipWith info buttonLabels (List.ofFn r.btnGamepadButton) ++ [info "Back: " r.cdGamepadAcBack]

def printInputReport2 (r : InputReport02) : List Line :=
  [info "Home Button: " r.cdGamepadConsumerControlAcHome]

/-- `strength * 100 / 255`, rounded. It is never nearer to a half than 1/102, so the
rounding of the single-precision steps does not show. -/
def batteryPercentage (strength : Byte) : Nat := (200 * strength.toNat + 255) / 510

def printInputReport4 (r : InputReport04) : List Line :=
  [⟨.info, "Battery: ".toList ++ Nat.toDigits 10 (batteryPercentage r.gdcGamepadBatteryStrength)⟩]

def bufferSize : Nat := InputReport01.size

def dispatch (r : InputReader) (revents : Short) (answer : ReadAnswer) : List Line :=
  match receive bufferSize revents answer with
  | .error lines => lines
  | .ok buffer =>
      if r.product = 0x02FD then
        let reportId := byteAt buffer 0
        if reportId = 1 then printInputReport1 (.ofImage (copied InputReport01.size buffer))
        else if reportId = 2 then printInputReport2 (.ofImage (copied InputReport02.size buffer))
        else if reportId = 4 then printInputReport4 (.ofImage (copied InputReport04.size buffer))
        else [unknownReportId reportId]
      else []

inductive Layout
  | inputReport01
  | inputReport02
  | inputReport04

def Layout.reportId : Layout → Byte
  | .inputReport01 => 0x01
  | .inputReport02 => 0x02
  | .inputReport04 => 0x04

def InputReport01.received (bytes : List Byte) : InputReport01 where
  reportId := byteAt bytes 0
  gdGamepadPointerX := wordAt bytes 1 8
  gdGamepadPointerY := wordAt bytes 3 8
  gdGamepadPointerZ := wordAt bytes 5 8
  gdGamepadPointerRz := wordAt bytes 7 8
  simGamepadBrake := wordAt bytes 9 2
  simGamepadAccelerator := wordAt bytes 11 2
  gdGamepadHatSwitch := (byteAt bytes 13).extractLsb' 0 4
  btnGamepadButton k := (byteAt bytes (14 + k / 8)).extractLsb' (k % 8) 1
  cdGamepadAcBack := (byteAt bytes 16).extractLsb' 0 1

def InputReport02.received (bytes : List Byte) : InputReport02 :=
  ⟨byteAt bytes 0, (byteAt bytes 1).extractLsb' 0 1⟩

def InputReport04.received (bytes : List Byte) : InputReport04 := ⟨byteAt bytes 0, byteAt bytes 1⟩

def Layout.printed (bytes : List Byte) : Layout → List Line
  | .inputReport01 => printInputReport1 (.received bytes)
  | .inputReport02 => printInputReport2 (.received bytes)
  | .inputReport04 => printInputReport4 (.received bytes)

theorem Layout.printed_ne_nil (bytes : List Byte) (l : Layout) : l.printed bytes ≠ [] := by
  cases l <;> exact List.cons_ne_nil _ _

theorem InputReport01.received_of_copied (bytes : List Byte) :
    InputReport01.ofImage (copied InputReport01.size bytes) = .received bytes := by
  have hword : ∀ k n, k < 16 → n ≤ 8 →
      field (copied InputReport01.size bytes) (8 * k) (n + 8) = wordAt bytes k n :=
    fun k n hk hn => word_copied bytes (show k + 1 < 17 by omega) hn
  simp only [InputReport01.ofImage, InputReport01.received, InputReport01.mk.injEq]
  refine ⟨byte_copied bytes (show 0 < 17 by omega), hword 1 8 (by omega) (by omega),
    hword 3 8 (by omega) (by omega), hword 5 8 (by omega) (by omega),
    hword 7 8 (by omega) (by omega), hword 9 2 (by omega) (by omega),
    hword 11 2 (by omega) (by omega), ?_, ?_, ?_⟩
  · exact bits_copied bytes (show 13 < 17 by omega) (show 0 + 4 ≤ 8 by omega)
  · funext k
    have hbit : 8 * 14 + k.val = 8 * (14 + k.val / 8) + k.val % 8 := by omega
    rw [hbit]
    exact bits_copied bytes (show 14 + k.val / 8 < 17 by omega) (by omega)
  · exact bits_copied bytes (show 16 < 17 by omega) (show 0 + 1 ≤ 8 by omega)

theorem InputReport02.received_of_copied (bytes : List Byte) :
    InputReport02.ofImage (copied InputReport02.size bytes) = .received bytes := by
  simp only [InputReport02.ofImage, InputReport02.received, InputReport02.mk.injEq]
  exact ⟨byte_copied bytes (show 0 < 2 by omega),
    bits_copied bytes (show 1 < 2 by omega) (show 0 + 1 ≤ 8 by omega)⟩

theorem InputReport04.received_of_copied (bytes : List Byte) :
    InputReport04.ofImage (copied InputReport04.size bytes) = .received bytes := by
  simp only [InputReport04.ofImage, InputReport04.received, InputReport04.mk.injEq]
  exact ⟨byte_copied bytes (show 0 < 2 by omega), byte_copied bytes (show 1 < 2 by omega)⟩

/-- A report is decoded with the layout that its first byte names, or it is
logged as unknown. -/
def Handled (bytes : List Byte) (lines : List Line) : Prop :=
  (∃ l : Layout, byteAt bytes 0 = l.reportId ∧ lines = l.printed bytes) ∨
    lines = [unknownReportId (byteAt bytes 0)]

theorem not_handled_nil (bytes : List Byte) : ¬ Handled bytes [] := by
  rintro (⟨l, -, hl⟩ | h)
  · exact l.printed_ne_nil bytes hl.symm
  · exact List.cons_ne_nil _ _ h.symm

section

variable {r : InputReader} {revents : Short} {report : List Byte}

theorem dispatch_of_other_product (hup : revents &&& (POLLHUP ||| POLLERR) = 0) (hne : report ≠ [])
    (hp : r.product ≠ 0x02FD) : dispatch r revents (.ok report) = [] := by
  simp only [dispatch, receive_of_ne_nil hup hne (show 0 < bufferSize by decide), if_neg hp]

theorem handled_of_product (hup : revents &&& (POLLHUP ||| POLLERR) = 0) (hne : report ≠ [])
    (hp : r.product = 0x02FD) :
    Handled (report.take bufferSize) (dispatch r revents (.ok report)) := by
  simp only [dispatch, receive_of_ne_nil hup hne (show 0 < bufferSize by decide), if_pos hp,
    InputReport01.received_of_copied, InputReport02.received_of_copied,
    InputReport04.received_of_copied]
  split_ifs with h1 h2 h4
  · exact Or.inl ⟨.inputReport01, h1, rfl⟩
  · exact Or.inl ⟨.inputReport02, h2, rfl⟩
  · exact Or.inl ⟨.inputReport04, h4, rfl⟩
  · exact Or.inr rfl

theorem dispatch_handled_iff (hup : revents &&& (POLLHUP ||| POLLERR) = 0) (hne : report ≠ []) :
    Handled (report.take bufferSize) (dispatch r revents (.ok report)) ↔ r.product = 0x02FD := by
  constructor
  · intro h
    by_contra hp
    rw [dispatch_of_other_product hup hne hp] at h
    exact not_handled_nil _ h
  · exact handled_of_product hup hne

end

end SdbusExamples.XboxReader
