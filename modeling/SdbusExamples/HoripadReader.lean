import Mathlib.Data.List.Dedup
import SdbusExamples.HidReader

namespace SdbusExamples.HoripadReader

open Hexdump HidReader LoopRun OStreams PackedBytes

/-- The HID descriptor that the layouts were generated from. -/
def descriptor : List Byte :=
  [0x05, 0x01, 0x09, 0x05, 0xa1, 0x01, 0x85, 0x07, 0xa1, 0x00, 0x09, 0x30, 0x09, 0x31, 0x09, 0x32,
    0x09, 0x35, 0x15, 0x00, 0x26, 0xff, 0x00, 0x75, 0x08, 0x95, 0x04, 0x81, 0x02, 0xc0, 0x09, 0x39,
    0x15, 0x00, 0x25, 0x07, 0x35, 0x00, 0x46, 0x3b, 0x01, 0x65, 0x14, 0x75, 0x04, 0x95, 0x01, 0x81,
    0x42, 0x05, 0x09, 0x19, 0x01, 0x29, 0x14, 0x15, 0x00, 0x25, 0x01, 0x75, 0x01, 0x95, 0x14, 0x81,
    0x02, 0x05, 0x02, 0x15, 0x00, 0x26, 0xff, 0x00, 0x09, 0xc4, 0x09, 0xc5, 0x95, 0x02, 0x75, 0x08,
    0x81, 0x02, 0x06, 0x00, 0xff, 0x09, 0x20, 0x95, 0x26, 0x81, 0x02, 0x85, 0x05, 0x09, 0x21, 0x95,
    0x20, 0x91, 0x02, 0x85, 0x12, 0x09, 0x22, 0x95, 0x3f, 0x81, 0x02, 0x09, 0x23, 0x91, 0x02, 0x85,
    0x14, 0x09, 0x26, 0x95, 0x3f, 0x81, 0x02, 0x09, 0x27, 0x91, 0x02, 0x85, 0x10, 0x09, 0x24, 0x95,
    0x3f, 0x81, 0x02, 0x85, 0x0f, 0x09, 0x28, 0x95, 0x3f, 0x91, 0x02, 0xc0]

structure InputReport07 where
  reportId : Byte
  gdGamepadX : Byte
  gdGamepadY : Byte
  gdGamepadZ : Byte
  gdGamepadRz : Byte
  gdGamepadHatSwitch : BitVec 4
  /-- Button 1 has the index 0. -/
  btnGamepadButton : Fin 20 → BitVec 1
  simGamepadAccelerator : Byte
  simGamepadBrake : Byte
  venGamepad0020 : Fin 38 → Byte

/-- inputReport10_t, inputReport12_t and inputReport14_t: an id and 63 bytes. -/
structure VendorReport where
  reportId : Byte
  venGamepad : Fin 63 → Byte

def InputReport07.size : Nat := 48
def VendorReport.size : Nat := 64

def InputReport07.ofImage (m : Nat) : InputReport07 where
  reportId := field m (8 * 0) 8
  gdGamepadX := field m (8 * 1) 8
  gdGamepadY := field m (8 * 2) 8
  gdGamepadZ := field m (8 * 3) 8
  gdGamepadRz := field m (8 * 4) 8
  gdGamepadHatSwitch := field m (8 * 5) 4
  btnGamepadButton k := field m (8 * 5 + (4 + k)) 1
  simGamepadAccelerator := field m (8 * 8) 8
  simGamepadBrake := field m (8 * 9) 8
  venGamepad0020 k := field m (8 * (10 + k)) 8

def VendorReport.ofImage (m : Nat) : VendorReport where
  reportId := field m (8 * 0) 8
  venGamepad k := field m (8 * (1 + k)) 8

def dpadToString (dpad : BitVec 4) : String :=
  match dpad.toNat with
  | 0 => "North"
  | 1 => "NorthEast"
  | 2 => "East"
  | 3 => "SouthEast"
  | 4 => "South"
  | 5 => "SouthWest"
  | 6 => "West"
  | 7 => "NorthWest"
  | _ => "None"

def buttonLabels : List String :=
  ["A: ", "B: ", "Quick Access: ", "X: ", "Y: ", "M1: ", "L1: ", "R1: ", "L2: ", "R2: ", "View: ",
    "Menu: ", "Home: ", "Left Stick Btn: ", "Right Stick Btn: ", "M2: ", "Button 17: ",
    "Button 18: ", "L4: ", "R4: "]

def printInputReport7 (r : InputReport07) : List Line :=
  [⟨.info, "Stick L/R: [".toList ++ shown r.gdGamepadX ++ ",".toList ++ shown r.gdGamepadY ++
      "] [".toList ++ shown r.gdGamepadZ ++ ",".toList ++ shown r.gdGamepadRz ++ "] ".toList⟩,
    ⟨.info, "L1/L2: ".toList ++ shown r.simGamepadBrake ++ ", ".toList ++
      shown r.simGamepadAccelerator⟩,
    ⟨.info, "D-PAD: ".toList ++ (dpadToString r.gdGamepadHatSwitch).toList⟩] ++
  List.zipWith info buttonLabels (List.ofFn r.btnGamepadButton)

def printVendorReport (label : String) (r : VendorReport) : List Line :=
  [⟨.info, label.toList ++
    (OStream.fresh <<< CustomHexdump.mk 400 false (List.ofFn r.venGamepad)).text⟩]

def printInputReport10 : VendorReport → List Line := printVendorReport "Input Report 10: "
def printInputReport12 : VendorReport → List Line := printVendorReport "Input Report 12: "
def printInputReport14 : VendorReport → List Line := printVendorReport "Input Report 14: "

def bufferSize : Nat := VendorReport.size

def Supported (product : BitVec 16) : Prop := product = 0x01ab ∨ product = 0x0196

instance (product : BitVec 16) : Decidable (Supported product) :=
  inferInstanceAs (Decidable (_ ∨ _))

def dispatch (r : InputReader) (revents : Short) (answer : ReadAnswer) : List Line :=
  match receive bufferSize revents answer with
  | .error lines => lines
  | .ok buffer =>
      if Supported r.product then
        let reportId := byteAt buffer 0
        if reportId = 7 then
          printInputReport7 (.ofImage (copied InputReport07.size buffer))
        else if reportId = 10 then
          printInputReport10 (.ofImage (copied VendorReport.size buffer))
        else if reportId = 12 then
          printInputReport12 (.ofImage (copied VendorReport.size buffer))
        else if reportId = 14 then
          printInputReport14 (.ofImage (copied VendorReport.size buffer))
        else [unknownReportId reportId]
      else []

inductive Layout
  | inputReport07
  | inputReport10
  | inputReport12
  | inputReport14
deriving DecidableEq

def Layout.reportId : Layout → Byte
  | .inputReport07 => 0x07
  | .inputReport10 => 0x10
  | .inputReport12 => 0x12
  | .inputReport14 => 0x14

/-- The report ids under which a HID descriptor has input items: an item is a
prefix, whose lowest two bits say how long its data is, and the data. -/
def inputReportIds (id : Byte) : Nat → List Byte → List Byte
  | 0, _ | _, [] => []
  | items + 1, header :: rest =>
      let data := rest.take ([0, 1, 2, 4].getD (header.toNat % 4) 0)
      let rest := rest.drop data.length
      -- 0x85 is Report ID, 0x81 is Input
      if header = 0x85 then inputReportIds (byteAt data 0) items rest
      else if header = 0x81 then id :: inputReportIds id items rest
      else inputReportIds id items rest

set_option maxRecDepth 4000 in
theorem inputReportIds_descriptor :
    (inputReportIds 0 descriptor.length descriptor).dedup = [0x07, 0x12, 0x14, 0x10] := by
  decide

/-- There is a layout for each input report of the descriptor, and for no other id. -/
theorem declared_iff (id : Byte) :
    id ∈ inputReportIds 0 descriptor.length descriptor ↔ ∃ l : Layout, l.reportId = id := by
  rw [← List.mem_dedup, inputReportIds_descriptor]
  constructor
  · intro h
    simp only [List.mem_cons, List.not_mem_nil, or_false] at h
    rcases h with rfl | rfl | rfl | rfl
    · exact ⟨.inputReport07, rfl⟩
    · exact ⟨.inputReport12, rfl⟩
    · exact ⟨.inputReport14, rfl⟩
    · exact ⟨.inputReport10, rfl⟩
  · rintro ⟨l, rfl⟩
    cases l <;> decide

def InputReport07.received (bytes : List Byte) : InputReport07 where
  reportId := byteAt bytes 0
  gdGamepadX := byteAt bytes 1
  gdGamepadY := byteAt bytes 2
  gdGamepadZ := byteAt bytes 3
  gdGamepadRz := byteAt bytes 4
  gdGamepadHatSwitch := (byteAt bytes 5).extractLsb' 0 4
  btnGamepadButton k := (byteAt bytes (5 + (4 + k) / 8)).extractLsb' ((4 + k) % 8) 1
  simGamepadAccelerator := byteAt bytes 8
  simGamepadBrake := byteAt bytes 9
  venGamepad0020 k := byteAt bytes (10 + k)

def VendorReport.received (bytes : List Byte) : VendorReport :=
  ⟨byteAt bytes 0, fun k => byteAt bytes (1 + k)⟩

def Layout.printed (bytes : List Byte) : Layout → List Line
  | .inputReport07 => printInputReport7 (.received bytes)
  | .inputReport10 => printInputReport10 (.received bytes)
  | .inputReport12 => printInputReport12 (.received bytes)
  | .inputReport14 => printInputReport14 (.received bytes)

/-- A report that a layout declares is printed as that layout, and only one
that no layout declares is logged as unknown. -/
def Demultiplexed (bytes : List Byte) (lines : List Line) : Prop :=
  (∀ l : Layout, byteAt bytes 0 = l.reportId → lines = l.printed bytes) ∧
    ((∃ id, unknownReportId id ∈ lines) → ∀ l : Layout, byteAt bytes 0 ≠ l.reportId)

theorem received_of_copied (bytes : List Byte) :
    InputReport07.ofImage (copied InputReport07.size bytes) = .received bytes := by
  have hbyte : ∀ k < 48, field (copied InputReport07.size bytes) (8 * k) 8 = byteAt bytes k :=
    fun k hk => byte_copied bytes hk
  simp only [InputReport07.ofImage, InputReport07.received, InputReport07.mk.injEq]
  refine ⟨hbyte 0 (by omega), hbyte 1 (by omega), hbyte 2 (by omega), hbyte 3 (by omega),
    hbyte 4 (by omega), ?_, ?_, hbyte 8 (by omega), hbyte 9 (by omega), ?_⟩
  · exact bits_copied bytes (show 5 < 48 by omega) (show 0 + 4 ≤ 8 by omega)
  · funext k
    have hbit : 8 * 5 + (4 + k.val) = 8 * (5 + (4 + k.val) / 8) + (4 + k.val) % 8 := by omega
    rw [hbit]
    exact bits_copied bytes (show 5 + (4 + k.val) / 8 < 48 by omega) (by omega)
  · funext k
    exact hbyte (10 + k) (by omega)

theorem level_printInputReport7 {r : InputReport07} {l : Line} (h : l ∈ printInputReport7 r) :
    l.level = .info := by
  rw [printInputReport7, List.mem_append] at h
  rcases h with h | h
  · simp only [List.mem_cons, List.not_mem_nil, or_false] at h
    rcases h with rfl | rfl | rfl <;> rfl
  · rw [← List.map_uncurry_zip_eq_zipWith] at h
    obtain ⟨b, -, rfl⟩ := List.mem_map.1 h
    rfl

section

variable {r : InputReader} {revents : Short} {report : List Byte}

theorem dispatch_eq (hp : Supported r.product) (hup : revents &&& (POLLHUP ||| POLLERR) = 0)
    (hne : report ≠ []) :
    dispatch r revents (.ok report) =
      let buffer := report.take bufferSize
      if byteAt report 0 = 7 then printInputReport7 (.received buffer)
      else if byteAt report 0 = 10 then
        printInputReport10 (.ofImage (copied VendorReport.size buffer))
      else if byteAt report 0 = 12 then
        printInputReport12 (.ofImage (copied VendorReport.size buffer))
      else if byteAt report 0 = 14 then
        printInputReport14 (.ofImage (copied VendorReport.size buffer))
      else [unknownReportId (byteAt report 0)] := by
  have hid : byteAt (report.take bufferSize) 0 = byteAt report 0 := byteAt_take (by decide)
  simp only [dispatch, receive_of_ne_nil hup hne (show 0 < bufferSize by decide), if_pos hp, hid,
    received_of_copied]

/-- The literals 10, 12 and 14 of dispatch() are not the ids 0x10, 0x12 and 0x14. -/
theorem dispatch_of_vendor (hp : Supported r.product)
    (hup : revents &&& (POLLHUP ||| POLLERR) = 0) (hne : report ≠ []) {l : Layout}
    (hl : l ≠ .inputReport07) (hid : byteAt report 0 = l.reportId) :
    dispatch r revents (.ok report) = [unknownReportId l.reportId] := by
  rw [dispatch_eq hp hup hne, hid]
  cases l with
  | inputReport07 => exact absurd rfl hl
  | inputReport10 => rfl
  | inputReport12 => rfl
  | inputReport14 => rfl

theorem unknown_of_dispatch (hp : Supported r.product)
    (hup : revents &&& (POLLHUP ||| POLLERR) = 0) (hne : report ≠ []) {id : Byte}
    (h : unknownReportId id ∈ dispatch r revents (.ok report)) : byteAt report 0 ≠ 7 := by
  intro hid
  rw [dispatch_eq hp hup hne, hid] at h
  cases level_printInputReport7 h

theorem dispatch_demultiplexes_iff (hp : Supported r.product)
    (hup : revents &&& (POLLHUP ||| POLLERR) = 0) (hne : report ≠ []) :
    Demultiplexed (report.take bufferSize) (dispatch r revents (.ok report)) ↔
      byteAt report 0 ≠ 0x10 ∧ byteAt report 0 ≠ 0x12 ∧ byteAt report 0 ≠ 0x14 := by
  have hid : byteAt (report.take bufferSize) 0 = byteAt report 0 := byteAt_take (by decide)
  rw [Demultiplexed, hid]
  constructor
  · intro h
    have hvendor : ∀ l : Layout, l ≠ .inputReport07 → byteAt report 0 ≠ l.reportId := by
      intro l hl heq
      refine h.2 ⟨l.reportId, ?_⟩ l heq
      rw [dispatch_of_vendor hp hup hne hl heq]
      exact List.mem_singleton_self _
    exact ⟨hvendor .inputReport10 (by decide), hvendor .inputReport12 (by decide),
      hvendor .inputReport14 (by decide)⟩
  · rintro ⟨h10, h12, h14⟩
    have hother : ∀ l : Layout, byteAt report 0 = l.reportId → l = .inputReport07 := by
      intro l heq
      cases l with
      | inputReport07 => rfl
      | inputReport10 => exact absurd heq h10
      | inputReport12 => exact absurd heq h12
      | inputReport14 => exact absurd heq h14
    constructor
    · intro l heq
      obtain rfl := hother l heq
      rw [dispatch_eq hp hup hne, heq]
      rfl
    · rintro ⟨id, hunknown⟩ l heq
      obtain rfl := hother l heq
      exact unknown_of_dispatch hp hup hne hunknown heq

end

def horipad : InputReader := ⟨"/dev/hidraw2", some 5, 0x0196⟩

/-- A truncated report 07 with both sticks and button 1. -/
theorem dispatch_demultiplexes_truncated :
    Demultiplexed [0x07, 0x80, 0x7F, 0x80, 0x7F, 0x18]
      (dispatch horipad 1 (.ok [0x07, 0x80, 0x7F, 0x80, 0x7F, 0x18])) :=
  (dispatch_demultiplexes_iff (r := horipad) (by decide) (by decide)
    (show [0x07, 0x80, 0x7F, 0x80, 0x7F, 0x18] ≠ [] by decide)).2 (by decide)

theorem not_dispatch_demultiplexes :
    dispatch horipad 1 (.ok [0x10, 0xAB]) = [unknownReportId 0x10] ∧
      ¬ Demultiplexed [0x10, 0xAB] (dispatch horipad 1 (.ok [0x10, 0xAB])) := by
  have hlines : dispatch horipad 1 (.ok [0x10, 0xAB]) = [unknownReportId 0x10] := rfl
  refine ⟨hlines, fun h => h.2 ⟨0x10, ?_⟩ .inputReport10 rfl⟩
  rw [hlines]
  exact List.mem_singleton_self _

end SdbusExamples.HoripadReader
