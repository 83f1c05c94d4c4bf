import SdbusExamples.DualSenseReader
import SdbusExamples.Hexdump

namespace SdbusExamples.HidReader

open Hexdump LoopRun OStreams PackedBytes
open DualSenseReader (DevInfo HID_MAX_DESCRIPTOR_SIZE)

inductive Level
  | debug
  | info
  | error
deriving DecidableEq

structure Line where
  level : Level
  text : Text
deriving DecidableEq

def shown {n : Nat} (x : BitVec n) : Text := Nat.toDigits 10 x.toNat

def info {n : Nat} (label : String) (x : BitVec n) : Line := ⟨.info, label.toList ++ shown x⟩

def unknownReportId (id : Byte) : Line := ⟨.error, "Unknown report id: ".toList ++ shown id⟩

def busStr (bus : BitVec 32) : String :=
  match bus.toNat with
  | 0x03 => "USB"
  | 0x04 => "HIL"
  | 0x05 => "Bluetooth"
  | 0x06 => "Virtual"
  | _ => "Other"

def upperHex (x : BitVec 16) : Text :=
  let digits := (Nat.toDigits 16 x.toNat).map Char.toUpper
  List.replicate (4 - digits.length) '0' ++ digits

/-- The answers to the system calls of open_and_init(), in their order; an
error is its message. -/
structure Node where
  opened : Except String Int
  rawInfo : Except String DevInfo
  rawName : Except String String
  rawPhys : Except String String
  descSize : Except String Int
  desc : Except String (List Byte)

structure InputReader where
  device : String
  fd : Option Int
  product : BitVec 16

def InputReader.valid (r : InputReader) : Bool := r.fd.isSome

structure Session where
  reader : InputReader
  lines : List Line

/-- A step of open_and_init() that may return from it. -/
abbrev Init := OptionT (StateM Session)

def log (level : Level) (text : Text) : Init Unit :=
  modify fun s => { s with lines := s.lines ++ [⟨level, text⟩] }

def call {α : Type} (label : String) : Except String α → Init α
  | .ok a => pure a
  | .error message => do
      log .error (label.toList ++ message.toList)
      failure

def reportDescriptor (bytes : List Byte) (size : Nat) : Text :=
  (OStream.fresh <<< "Report Descriptor\n" <<<
    CustomHexdump.mk 400 false ((List.range size).map (byteAt bytes))).text

def setProduct (product : BitVec 16) : Init Unit :=
  modify fun s => { s with reader := { s.reader with product := product } }

def setFd (fd : Int) : Init Unit :=
  modify fun s => { s with reader := { s.reader with fd := some fd } }

def checkDescSize (descSize : Int) : Init Unit :=
  if descSize < 0 ∨ HID_MAX_DESCRIPTOR_SIZE < descSize then do
    log .error ("Invalid report descriptor size: ".toList ++ decimal descSize)
    failure
  else pure ()

def describe (node : Node) (rawDevInfo : DevInfo) : Init Unit := do
  log .info ("bustype: ".toList ++ (busStr rawDevInfo.bustype).toList)
  log .info ("Vendor ID: ".toList ++ upperHex rawDevInfo.vendor)
  log .info ("Product ID: ".toList ++ upperHex rawDevInfo.product)
  let name ← call "HIDIOCGRAWNAME failed: " node.rawName
  log .info ("HID Name: ".toList ++ name.toList)
  let phys ← call "HIDIOCGRAWPHYS failed: " node.rawPhys
  log .info ("HID Physical Location: ".toList ++ phys.toList)
  let descSize ← call "HIDIOCGRDESCSIZE failed: " node.descSize
  log .info ("Report Descriptor Size: ".toList ++ decimal descSize)
  checkDescSize descSize
  let value ← call "HIDIOCGRDESC failed: " node.desc
  log .info (reportDescriptor value descSize.toNat)

def openAndInit (device : String) (node : Node) : Init Unit := do
  log .debug ("hidraw device: ".toList ++ device.toList)
  let fd ← call "unable to open device: " node.opened
  let rawDevInfo ← call "HIDIOCGRAWINFO failed: " node.rawInfo
  setProduct rawDevInfo.product
  describe node rawDevInfo
  setFd fd

def inputReader (device : String) (node : Node) : Session :=
  ((openAndInit device node).run ⟨⟨device, none, 0⟩, []⟩).2

def KeepsProduct {α : Type} (m : Init α) : Prop :=
  ∀ s, (m.run s).2.reader.product = s.reader.product

section

variable {α β : Type}

theorem KeepsProduct.bind {m : Init α} {f : α → Init β} (hm : KeepsProduct m)
    (hf : ∀ a, KeepsProduct (f a)) : KeepsProduct (m >>= f) := by
  intro s
  have hs := hm s
  rw [OptionT.run_bind]
  change ((m.run s).1.elim (pure none) (fun a => (f a).run) (m.run s).2).2.reader.product = _
  rcases hrun : m.run s with ⟨_ | a, s'⟩
  · rwa [hrun] at hs
  · rw [hrun] at hs
    exact (hf a s').trans hs

theorem keepsProduct_log (level : Level) (text : Text) : KeepsProduct (log level text) :=
  fun _ => rfl

theorem keepsProduct_failure : KeepsProduct (failure : Init α) := fun _ => rfl

theorem keepsProduct_setFd (fd : Int) : KeepsProduct (setFd fd) := fun _ => rfl

theorem keepsProduct_call (label : String) (answer : Except String α) :
    KeepsProduct (call label answer) := by
  cases answer with
  | ok a => exact fun _ => rfl
  | error message => exact fun _ => rfl

end

theorem keepsProduct_checkDescSize (descSize : Int) : KeepsProduct (checkDescSize descSize) := by
  rw [checkDescSize]
  split_ifs
  · exact .bind (keepsProduct_log _ _) fun _ => keepsProduct_failure
  · exact fun _ => rfl

theorem keepsProduct_describe (node : Node) (rawDevInfo : DevInfo) :
    KeepsProduct (describe node rawDevInfo) := by
  refine .bind (keepsProduct_log _ _) fun _ => ?_
  refine .bind (keepsProduct_log _ _) fun _ => ?_
  refine .bind (keepsProduct_log _ _) fun _ => ?_
  refine .bind (keepsProduct_call _ _) fun name => ?_
  refine .bind (keepsProduct_log _ _) fun _ => ?_
  refine .bind (keepsProduct_call _ _) fun phys => ?_
  refine .bind (keepsProduct_log _ _) fun _ => ?_
  refine .bind (keepsProduct_call _ _) fun descSize => ?_
  refine .bind (keepsProduct_log _ _) fun _ => ?_
  refine .bind (keepsProduct_checkDescSize descSize) fun _ => ?_
  exact .bind (keepsProduct_call _ _) fun value => keepsProduct_log _ _

theorem product_of_valid {device : String} {node : Node}
    (h : (inputReader device node).reader.valid = true) :
    ∃ rawDevInfo, node.rawInfo = .ok rawDevInfo ∧
      (inputReader device node).reader.product = rawDevInfo.product := by
  obtain ⟨opened, rawInfo, rawName, rawPhys, descSize, desc⟩ := node
  cases opened with
  | error message => cases h
  | ok fd =>
      cases rawInfo with
      | error message => cases h
      | ok rawDevInfo =>
          refine ⟨rawDevInfo, rfl, ?_⟩
          exact (keepsProduct_describe _ rawDevInfo).bind (fun _ => keepsProduct_setFd fd) _

inductive ReadAnswer
  | failed (again : Bool) (message : String)
  | ok (report : List Byte)

/-- The start of dispatch(): the bytes read into a buffer of this size, or what
is logged when there are none. -/
def receive (size : Nat) (revents : Short) : ReadAnswer → Except (List Line) (List Byte)
  | .failed again message =>
      if revents &&& (POLLHUP ||| POLLERR) ≠ 0 then .error []
      else if again then .error []
      else .error [⟨.error, "read failed: ".toList ++ message.toList⟩]
  | .ok report =>
      if revents &&& (POLLHUP ||| POLLERR) ≠ 0 then .error []
      else if (report.take size).length = 0 then .error []
      else .ok (report.take size)

def copied (size : Nat) (bytes : List Byte) : Nat := image (bytes.take size)

theorem byte_copied {size k : Nat} (bytes : List Byte) (hk : k < size) :
    field (copied size bytes) (8 * k) 8 = byteAt bytes k := by
  rw [copied, field_image, byteAt_take hk]

theorem bits_copied {size k a n : Nat} (bytes : List Byte) (hk : k < size) (ha : a + n ≤ 8) :
    field (copied size bytes) (8 * k + a) n = (byteAt bytes k).extractLsb' a n := by
  rw [copied, field_image_bits _ _ ha, byteAt_take hk]

theorem word_copied {size k n : Nat} (bytes : List Byte) (hk : k + 1 < size) (hn : n ≤ 8) :
    field (copied size bytes) (8 * k) (n + 8) = wordAt bytes k n := by
  rw [copied, field_image_word _ _ hn, wordAt_take hk]

theorem receive_of_ne_nil {size : Nat} {revents : Short} {report : List Byte}
    (hup : revents &&& (POLLHUP ||| POLLERR) = 0) (hne : report ≠ []) (hsize : 0 < size) :
    receive size revents (.ok report) = .ok (report.take size) := by
  have hlength : (report.take size).length ≠ 0 := by
    rw [List.length_take]
    have := List.length_pos_of_ne_nil hne
    omega
  rw [receive, if_neg (not_not_intro hup), if_neg hlength]

end SdbusExamples.HidReader
