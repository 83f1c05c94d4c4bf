import SdbusExamples.PackedBytes

namespace SdbusExamples.DualSenseReport

open PackedBytes

structure TouchFingerData where
  index : BitVec 7
  notTouching : BitVec 1
  fingerX : BitVec 12
  fingerY : BitVec 12
deriving DecidableEq

structure TouchData where
  finger0 : TouchFingerData
  finger1 : TouchFingerData
  timestamp : BitVec 8
deriving DecidableEq

/-- `AesCmac` and `crc` are kept as one number each. -/
structure USBGetStateData where
  leftStickX : BitVec 8
  leftStickY : BitVec 8
  rightStickX : BitVec 8
  rightStickY : BitVec 8
  triggerLeft : BitVec 8
  triggerRight : BitVec 8
  seqNo : BitVec 8
  dPad : BitVec 4
  buttonSquare : BitVec 1
  buttonCross : BitVec 1
  buttonCircle : BitVec 1
  buttonTriangle : BitVec 1
  buttonL1 : BitVec 1
  buttonR1 : BitVec 1
  buttonL2 : BitVec 1
  buttonR2 : BitVec 1
  buttonCreate : BitVec 1
  buttonOptions : BitVec 1
  buttonL3 : BitVec 1
  buttonR3 : BitVec 1
  buttonHome : BitVec 1
  buttonPad : BitVec 1
  buttonMute : BitVec 1
  unk1 : BitVec 1
  buttonLeftFunction : BitVec 1
  buttonRightFunction : BitVec 1
  buttonLeftPaddle : BitVec 1
  buttonRightPaddle : BitVec 1
  unk2 : BitVec 8
  timeStamp : BitVec 32
  angularVelocityX : BitVec 16
  angularVelocityZ : BitVec 16
  angularVelocityY : BitVec 16
  accelerometerX : BitVec 16
  accelerometerY : BitVec 16
  accelerometerZ : BitVec 16
  sensorTimestamp : BitVec 32
  temperature : BitVec 8
  touchData : TouchData
  triggerRightStopLocation : BitVec 4
  triggerRightStatus : BitVec 4
  triggerLeftStopLocation : BitVec 4
  triggerLeftStatus : BitVec 4
  hostTimestamp : BitVec 32
  triggerRightEffect : BitVec 4
  triggerLeftEffect : BitVec 4
  deviceTimeStamp : BitVec 32
  powerPercent : BitVec 4
  powerState : BitVec 4
  pluggedHeadphones : BitVec 1
  pluggedMic : BitVec 1
  micMuted : BitVec 1
  pluggedUsbData : BitVec 1
  pluggedUsbPower : BitVec 1
  pluggedUnk1 : BitVec 3
  pluggedExternalMic : BitVec 1
  hapticLowPassFilter : BitVec 1
  pluggedUnk3 : BitVec 6
  aesCmac : BitVec 40
  crc : BitVec 32
deriving DecidableEq

def TouchFingerData.ofImage (m off : Nat) : TouchFingerData where
  index := field m off 7
  notTouching := field m (off + 7) 1
  fingerX := field m (off + 8) 12
  fingerY := field m (off + 20) 12

def TouchData.ofImage (m off : Nat) : TouchData where
  finger0 := .ofImage m off
  finger1 := .ofImage m (off + 32)
  timestamp := field m (off + 64) 8

def unsigned {w : Nat} (x : BitVec w) : Int := x.toNat

def signed {w : Nat} (x : BitVec w) : Int := x.toInt

theorem unsigned_inj {w : Nat} {x y : BitVec w} : unsigned x = unsigned y ↔ x = y := by
  rw [unsigned, unsigned, Int.ofNat_inj, BitVec.toNat_inj]

theorem signed_inj {w : Nat} {x y : BitVec w} : signed x = signed y ↔ x = y := BitVec.toInt_inj

namespace USBGetStateData

def size : Nat := 64

/-- The bit-fields of the packed structure; `8 * k` is where byte `k` starts. -/
def ofImage (m : Nat) : USBGetStateData where
  leftStickX := field m (8 * 0) 8
  leftStickY := field m (8 * 1) 8
  rightStickX := field m (8 * 2) 8
  rightStickY := field m (8 * 3) 8
  triggerLeft := field m (8 * 4) 8
  triggerRight := field m (8 * 5) 8
  seqNo := field m (8 * 6) 8
  dPad := field m (8 * 7) 4
  buttonSquare := field m (8 * 7 + 4) 1
  buttonCross := field m (8 * 7 + 5) 1
  buttonCircle := field m (8 * 7 + 6) 1
  buttonTriangle := field m (8 * 7 + 7) 1
  buttonL1 := field m (8 * 8) 1
  buttonR1 := field m (8 * 8 + 1) 1
  buttonL2 := field m (8 * 8 + 2) 1
  buttonR2 := field m (8 * 8 + 3) 1
  buttonCreate := field m (8 * 8 + 4) 1
  buttonOptions := field m (8 * 8 + 5) 1
  buttonL3 := field m (8 * 8 + 6) 1
  buttonR3 := field m (8 * 8 + 7) 1
  buttonHome := field m (8 * 9) 1
  buttonPad := field m (8 * 9 + 1) 1
  buttonMute := field m (8 * 9 + 2) 1
  unk1 := field m (8 * 9 + 3) 1
  buttonLeftFunction := field m (8 * 9 + 4) 1
  buttonRightFunction := field m (8 * 9 + 5) 1
  buttonLeftPaddle := field m (8 * 9 + 6) 1
  buttonRightPaddle := field m (8 * 9 + 7) 1
  unk2 := field m (8 * 10) 8
  timeStamp := field m (8 * 11) 32
  angularVelocityX := field m (8 * 15) 16
  angularVelocityZ := field m (8 * 17) 16
  angularVelocityY := field m (8 * 19) 16
  accelerometerX := field m (8 * 21) 16
  accelerometerY := field m (8 * 23) 16
  accelerometerZ := field m (8 * 25) 16
  sensorTimestamp := field m (8 * 27) 32
  temperature := field m (8 * 31) 8
  touchData := .ofImage m (8 * 32)
  triggerRightStopLocation := field m (8 * 41) 4
  triggerRightStatus := field m (8 * 41 + 4) 4
  triggerLeftStopLocation := field m (8 * 42) 4
  triggerLeftStatus := field m (8 * 42 + 4) 4
  hostTimestamp := field m (8 * 43) 32
  triggerRightEffect := field m (8 * 47) 4
  triggerLeftEffect := field m (8 * 47 + 4) 4
  deviceTimeStamp := field m (8 * 48) 32
  powerPercent := field m (8 * 52) 4
  powerState := field m (8 * 52 + 4) 4
  pluggedHeadphones := field m (8 * 53) 1
  pluggedMic := field m (8 * 53 + 1) 1
  micMuted := field m (8 * 53 + 2) 1
  pluggedUsbData := field m (8 * 53 + 3) 1
  pluggedUsbPower := field m (8 * 53 + 4) 1
  pluggedUnk1 := field m (8 * 53 + 5) 3
  pluggedExternalMic := field m (8 * 54) 1
  hapticLowPassFilter := field m (8 * 54 + 1) 1
  pluggedUnk3 := field m (8 * 54 + 2) 6
  aesCmac := field m (8 * 55) 40
  crc := field m (8 * 60) 32

/-- The arguments of the LOG_INFO() calls of PrintControllerStateUsb that are
fields of the state, in the order of the calls. -/
def printed (state : USBGetStateData) : List Int :=
  [unsigned state.leftStickX, unsigned state.leftStickY, unsigned state.rightStickX,
    unsigned state.rightStickY, unsigned state.dPad, unsigned state.buttonSquare,
    unsigned state.buttonCross, unsigned state.buttonCircle, unsigned state.buttonTriangle,
    unsigned state.buttonL1, unsigned state.buttonR1, unsigned state.buttonL2,
    unsigned state.buttonR2, unsigned state.buttonCreate, unsigned state.buttonOptions,
    unsigned state.buttonL3, unsigned state.buttonR3, unsigned state.buttonHome,
    unsigned state.buttonPad, unsigned state.buttonMute, unsigned state.buttonLeftFunction,
    unsigned state.buttonRightFunction, unsigned state.buttonLeftPaddle,
    unsigned state.buttonRightPaddle, unsigned state.timeStamp, signed state.angularVelocityX,
    signed state.angularVelocityY, signed state.angularVelocityZ, signed state.accelerometerX,
    signed state.accelerometerY, signed state.accelerometerZ, unsigned state.sensorTimestamp,
    signed state.temperature, unsigned state.touchData.timestamp,
    unsigned state.touchData.finger0.index, unsigned state.touchData.finger0.fingerX,
    unsigned state.touchData.finger0.fingerY, unsigned state.touchData.finger0.notTouching,
    unsigned state.touchData.timestamp, unsigned state.touchData.finger1.index,
    unsigned state.touchData.finger1.fingerX, unsigned state.touchData.finger1.fingerY,
    unsigned state.touchData.finger1.notTouching, unsigned state.triggerRightStopLocation,
    unsigned state.triggerRightStatus, unsigned state.triggerLeftStopLocation,
    unsigned state.triggerLeftStatus, unsigned state.triggerRightEffect,
    unsigned state.triggerLeftEffect, unsigned state.powerPercent, unsigned state.powerState,
    unsigned state.pluggedHeadphones, unsigned state.pluggedMic, unsigned state.micMuted,
    unsigned state.pluggedUsbData, unsigned state.pluggedUsbPower,
    unsigned state.pluggedExternalMic, unsigned state.hapticLowPassFilter]

end USBGetStateData

/-- The `Data` member of the union; the members after the state are not used. -/
structure ReportIn31 where
  reportID : BitVec 8
  hasHID : BitVec 1
  hasMic : BitVec 1
  stateData : USBGetStateData
deriving DecidableEq

namespace ReportIn31

def size : Nat := 79

def ofImage (m : Nat) : ReportIn31 where
  reportID := field m 0 8
  hasHID := field m 8 1
  hasMic := field m 9 1
  stateData := .ofImage (m >>> 16)

end ReportIn31

structure ReportFeatureCalibrationData where
  reportID : BitVec 8
  pitchBias : BitVec 16
  yawBias : BitVec 16
  rollBias : BitVec 16
  pitchPlus : BitVec 16
  pitchMinus : BitVec 16
  yawPlus : BitVec 16
  yawMinus : BitVec 16
  rollPlus : BitVec 16
  rollMinus : BitVec 16
  speedPlus : BitVec 16
  speedMinus : BitVec 16
  xPlus : BitVec 16
  xMinus : BitVec 16
  yPlus : BitVec 16
  yMinus : BitVec 16
  zPlus : BitVec 16
  zMinus : BitVec 16
deriving DecidableEq

namespace ReportFeatureCalibrationData

def size : Nat := 41

def ofImage (m : Nat) : ReportFeatureCalibrationData where
  reportID := field m 0 8
  pitchBias := field m (8 * 1) 16
  yawBias := field m (8 * 3) 16
  rollBias := field m (8 * 5) 16
  pitchPlus := field m (8 * 7) 16
  pitchMinus := field m (8 * 9) 16
  yawPlus := field m (8 * 11) 16
  yawMinus := field m (8 * 13) 16
  rollPlus := field m (8 * 15) 16
  rollMinus := field m (8 * 17) 16
  speedPlus := field m (8 * 19) 16
  speedMinus := field m (8 * 21) 16
  xPlus := field m (8 * 23) 16
  xMinus := field m (8 * 25) 16
  yPlus := field m (8 * 27) 16
  yMinus := field m (8 * 29) 16
  zPlus := field m (8 * 31) 16
  zMinus := field m (8 * 33) 16

theorem reportID_ofImage (bs : List Byte) : (ofImage (image bs)).reportID = byteAt bs 0 :=
  field_image bs 0

end ReportFeatureCalibrationData

end SdbusExamples.DualSenseReport
