import SdbusExamples.DualSenseReport
import SdbusExamples.LoopRun

namespace SdbusExamples.DualSenseReader

open DualSenseReport LoopRun PackedBytes

structure CalibrationData where
  absCode : Int
  bias : BitVec 16
  sensNumer : BitVec 32
  sensDenom : BitVec 32
deriving DecidableEq

structure HardwareCalibrationData where
  gyro : Fin 3 → CalibrationData
  accel : Fin 3 → CalibrationData

def CalibrationData.zero : CalibrationData := ⟨0, 0, 0, 0⟩

def HardwareCalibrationData.zero : HardwareCalibrationData := ⟨fun _ => .zero, fun _ => .zero⟩

structure InputReader where
  device : String
  fd : Option Int
  product : BitVec 16
  controllerAndHostMac : List Byte
  version : List Byte
  hwCalData : HardwareCalibrationData

def InputReader.valid (r : InputReader) : Bool := r.fd.isSome

structure DevInfo where
  bustype : BitVec 32
  vendor : BitVec 16
  product : BitVec 16

/-- The answers to the system calls of open_and_init(), in their order; `none`
and `false` are errors. A feature report is the bytes of the reply. -/
structure Device where
  opened : Option Int
  rawInfo : Option DevInfo
  rawName : Bool
  rawPhys : Bool
  descSize : Option Int
  desc : Bool
  calibration : Option (List Byte)
  macAll : Option (List Byte)
  version : Option (List Byte)

def Device.product (d : Device) : BitVec 16 := (d.rawInfo.map DevInfo.product).getD 0

inductive HidError
  | errno
  | invalidResponse
deriving DecidableEq

/-- HIDIOCGFEATURE on a buffer: the reply overwrites the front of it. -/
def getFeature (buffer : List Byte) (reply : Option (List Byte)) : Option (List Byte) :=
  reply.map fun bytes => bytes.take buffer.length ++ buffer.drop bytes.length

def request (id : Byte) (size : Nat) : List Byte := id :: List.replicate (size - 1) 0

def ABS_RX : Int := 3

def ACC_RES_PER_G : BitVec 32 := 8192
def ACC_RANGE : BitVec 32 := 4 * ACC_RES_PER_G
def GYRO_RES_PER_DEG_S : BitVec 32 := 1024
def GYRO_RANGE : BitVec 32 := 2048 * GYRO_RES_PER_DEG_S
def INT16_MAX : BitVec 32 := 32767

def promote (x : BitVec 16) : BitVec 32 := x.setWidth 32

def gyroAxis (absCode : Int) (speed2x : BitVec 32) (plus minus bias : BitVec 16) :
    CalibrationData where
  absCode := absCode
  bias := 0
  sensNumer := speed2x * GYRO_RES_PER_DEG_S
  sensDenom := (promote plus - promote bias).abs + (promote minus - promote bias).abs

def accelAxis (absCode : Int) (plus minus : BitVec 16) : CalibrationData where
  absCode := absCode
  bias := (promote plus - (promote plus - promote minus).sdiv 2).setWidth 16
  sensNumer := 2 * ACC_RES_PER_G
  sensDenom := promote plus - promote minus

/-- The sanity check of one axis; both loops use ABS_RX. -/
def sanityCheck (range : BitVec 32) (i : Fin 3) (c : CalibrationData) : CalibrationData :=
  if c.sensDenom = 0 then ⟨ABS_RX + i, 0, range, INT16_MAX⟩ else c

def calibrate (cal : ReportFeatureCalibrationData) : HardwareCalibrationData :=
  let speed2x := promote cal.speedPlus + promote cal.speedMinus
  let gyro : Fin 3 → CalibrationData
    | 0 => gyroAxis 3 speed2x cal.pitchPlus cal.pitchMinus cal.pitchBias
    | 1 => gyroAxis 4 speed2x cal.yawPlus cal.yawMinus cal.yawBias
    | 2 => gyroAxis 5 speed2x cal.rollPlus cal.rollMinus cal.rollBias
  let accel : Fin 3 → CalibrationData
    | 0 => accelAxis 0 cal.xPlus cal.xMinus
    | 1 => accelAxis 1 cal.yPlus cal.yMinus
    | 2 => accelAxis 2 cal.zPlus cal.zMinus
  ⟨fun i => sanityCheck GYRO_RANGE i (gyro i), fun i => sanityCheck ACC_RANGE i (accel i)⟩

/-- The value returned, and the calibration data that were passed by reference. -/
def getControllerCalibrationData (reply : Option (List Byte)) (hwCalData : HardwareCalibrationData) :
    Except HidError Unit × HardwareCalibrationData :=
  match getFeature (request 0x05 ReportFeatureCalibrationData.size) reply with
  | none => (.error .errno, hwCalData)
  | some bytes =>
      let calData := ReportFeatureCalibrationData.ofImage (image bytes)
      if calData.reportID ≠ 0x05 then (.error .invalidResponse, hwCalData)
      else (.ok (), calibrate calData)

def getControllerMacAll (reply : Option (List Byte)) (macAll : List Byte) :
    Except HidError Unit × List Byte :=
  match getFeature (macAll.set 0 0x09) reply with
  | none => (.error .errno, macAll.set 0 0x09)
  | some bytes =>
      if byteAt bytes 0 ≠ 0x09 ∨ byteAt bytes 7 ≠ 0x08 ∨ byteAt bytes 8 ≠ 0x25 ∨
          byteAt bytes 9 ≠ 0x00 then
        (.error .invalidResponse, bytes)
      else (.ok (), bytes)

def getControllerVersion (reply : Option (List Byte)) (version : List Byte) :
    Except HidError Unit × List Byte :=
  match getFeature (version.set 0 0x20) reply with
  | none => (.error .errno, version.set 0 0x20)
  | some bytes =>
      if byteAt bytes 0 ≠ 0x20 then (.error .invalidResponse, bytes) else (.ok (), bytes)

def HID_MAX_DESCRIPTOR_SIZE : Int := 4096

def InputReader.unopened (device : String) : InputReader :=
  ⟨device, none, 0, List.replicate 19 0, List.replicate 64 0, .zero⟩

/-- The constructor. Every early return leaves `fd_` invalid; the three feature
reports at the end are best-effort, and their errors are logged only. -/
def openAndInit (device : String) (d : Device) : InputReader :=
  let r := InputReader.unopened device
  match d.opened, d.rawInfo with
  | none, _ | _, none => r
  | some fd, some info =>
      let r := { r with product := info.product }
      match d.rawName, d.rawPhys, d.descSize, d.desc with
      | true, true, some descSize, true =>
          if descSize < 0 ∨ HID_MAX_DESCRIPTOR_SIZE < descSize then r
          else
            { r with
              fd := some fd
              hwCalData := (getControllerCalibrationData d.calibration r.hwCalData).2
              controllerAndHostMac := (getControllerMacAll d.macAll r.controllerAndHostMac).2
              version := (getControllerVersion d.version r.version).2 }
      | _, _, _, _ => r

inductive ReadResult
  | failed (again : Bool)
  | ok (report : List Byte)

inductive Decoded
  | nothing
  | readFailed
  | state (state : USBGetStateData)
  | microphone
  | unknownReportId (id : Byte)
deriving DecidableEq

def bufferSize : Nat := max USBGetStateData.size ReportIn31.size

def InputReader.decode (r : InputReader) (revents : Short) : ReadResult → Decoded
  | .failed again =>
      if revents &&& (POLLHUP ||| POLLERR) ≠ 0 then .nothing
      else if again then .nothing else .readFailed
  | .ok report =>
      let buffer := report.take bufferSize
      if revents &&& (POLLHUP ||| POLLERR) ≠ 0 then .nothing
      else if buffer.length = 0 then .nothing
      else if r.product = 0x0CE6 then
        if byteAt buffer 0 = 1 then
          -- the copy starts at the report id, for which USBGetStateData has no field
          .state (.ofImage (image (buffer.take USBGetStateData.size)))
        else if byteAt buffer 0 = 49 then
          let inputReport31 := ReportIn31.ofImage (image (buffer.take ReportIn31.size))
          if inputReport31.hasHID ≠ 0 then .state inputReport31.stateData
          else if inputReport31.hasMic ≠ 0 then .microphone
          else .nothing
        else .unknownReportId (byteAt buffer 0)
      else .nothing

theorem hasHID_ofImage (id : Byte) (rest : List Byte) :
    (ReportIn31.ofImage (image (id :: rest))).hasHID ≠ 0 ↔ (byteAt rest 0).getLsbD 0 = true := by
  have hbit := testBit_image (id :: rest) (k := 1) (j := 0) (by omega)
  rw [ReportIn31.ofImage, field_ne_zero_iff, hbit]
  rfl

theorem decode_cons (r : InputReader) {revents : Short} (id : Byte) (rest : List Byte)
    (hup : revents &&& (POLLHUP ||| POLLERR) = 0) (hp : r.product = 0x0CE6) :
    r.decode revents (.ok (id :: rest)) =
      if id = 1 then .state (.ofImage (image (id :: rest.take 63)))
      else if id = 49 then
        let inputReport31 := ReportIn31.ofImage (image (id :: rest.take 78))
        if inputReport31.hasHID ≠ 0 then .state inputReport31.stateData
        else if inputReport31.hasMic ≠ 0 then .microphone
        else .nothing
      else .unknownReportId id := by
  have hbuf : (id :: rest).take bufferSize = id :: rest.take 78 := rfl
  have h64 : (id :: rest.take 78).take USBGetStateData.size = id :: rest.take 63 := by
    rw [USBGetStateData.size, List.take_succ_cons, List.take_take]
    rfl
  have h79 : (id :: rest.take 78).take ReportIn31.size = id :: rest.take 78 := by
    rw [ReportIn31.size, List.take_succ_cons, List.take_take]
    rfl
  simp only [InputReader.decode, hbuf, h64, h79, hup, hp, byteAt_cons_zero, List.length_cons,
    Nat.succ_ne_zero, ne_eq, not_true_eq_false, if_false, if_true]

/-- `none` is a division by zero. -/
def multFrac (x : BitVec 32) (n : BitVec 16) (d : BitVec 32) : Option (BitVec 32) :=
  if d = 0 then none
  else some (x.sdiv d * n.signExtend 32 + (x.srem d * n.signExtend 32).sdiv d)

def dpadToString (dpad : BitVec 4) : String :=
  match dpad.toNat with
  | 0 => "North"
  | 1 => "NorthEast"
  | 2 => "East"
  | 3 => "SouthEast"
  | 4 => "South"
  | 5 => "SouthWest"
  | 6 => "West"
  | 7 => "NorthWest"
  | _ => "None"

def powerStateToString (state : BitVec 4) : String :=
  match state.toNat with
  | 0x00 => "Discharging"
  | 0x01 => "Charging"
  | 0x02 => "Complete"
  | 0x0A => "AbnormalVoltage"
  | 0x0B => "AbnormalTemperature"
  | 0x0F => "ChargingError"
  | _ => "Unknown"

structure Printout where
  fields : List Int
  dPad : String
  powerState : String
  angularVelocity : List Int
  accelerometer : List Int
deriving DecidableEq

def CalibrationData.apply (c : CalibrationData) (raw : BitVec 16) : Option (BitVec 32) :=
  multFrac c.sensNumer raw c.sensDenom

def printControllerStateUsb (state : USBGetStateData) (cal : HardwareCalibrationData) :
    Option Printout := do
  let gyroX ← (cal.gyro 0).apply state.angularVelocityX
  let gyroY ← (cal.gyro 1).apply state.angularVelocityY
  let gyroZ ← (cal.gyro 2).apply state.angularVelocityZ
  let accX ← (cal.accel 0).apply state.accelerometerX
  let accY ← (cal.accel 1).apply state.accelerometerY
  let accZ ← (cal.accel 2).apply state.accelerometerZ
  return ⟨state.printed, dpadToString state.dPad, powerStateToString state.powerState,
    [gyroX.toInt, gyroY.toInt, gyroZ.toInt], [accX.toInt, accY.toInt, accZ.toInt]⟩

inductive Logged
  | nothing
  | readFailed
  | state (printout : Printout)
  | microphone
  | unknownReportId (id : Byte)
deriving DecidableEq

/-- dispatch(); `none` when a division by zero stops the process. -/
def InputReader.dispatch (r : InputReader) (revents : Short) (result : ReadResult) :
    Option Logged :=
  match r.decode revents result with
  | .nothing => some .nothing
  | .readFailed => some .readFailed
  | .state state => (printControllerStateUsb state r.hwCalData).map .state
  | .microphone => some .microphone
  | .unknownReportId id => some (.unknownReportId id)

def dualSense (calibration : Option (List Byte)) : Device :=
  ⟨some 4, some ⟨5, 0x054C, 0x0CE6⟩, true, true, some 321, true, calibration, none, none⟩

end SdbusExamples.DualSenseReader
