import SdbusExamples.BluezDevice
import SdbusExamples.Hidraw
import SdbusExamples.LoopQueues
import SdbusExamples.ResourceLimits
import SdbusExamples.Runs

namespace SdbusExamples.Controllers

open BluezDevice Hidraw LoopQueues ResourceLimits Runs Variants

inductive Pad
  | dualSense
  | xboxController
  | horipadSteam
deriving DecidableEq

namespace Pad

def vendorId : Pad → String
  | .dualSense => "054C"
  | .xboxController => "045E"
  | .horipadSteam => "0F0D"

def productIds : Pad → List String
  | .dualSense => ["0CE6"]
  | .xboxController => ["02FD", "0B13"]
  | .horipadSteam => ["0196"]

def inputMatchBt : Pad → List (String × String)
  | .dualSense =>
      [("ID_BUS", "bluetooth"), ("NAME", "\"DualSense Wireless Controller\""),
        ("PRODUCT", "5/54c/ce6/8100")]
  | .xboxController =>
      [("ID_BUS", "bluetooth"), ("NAME", "\"Xbox Wireless Controller\""), ("TAGS", ":seat:")]
  | .horipadSteam =>
      [("ID_BUS", "bluetooth"), ("NAME", "\"HORIPAD STEAM\""), ("TAGS", ":seat:")]

def inputMatchUsb : Pad → List (String × String)
  | .dualSense =>
      [("ID_BUS", "usb"), ("ID_MODEL", "DualSense_Wireless_Controller"),
        ("ID_VENDOR_ID", "054c"), ("ID_MODEL_ID", "0ce6"), ("TAGS", ":seat:")]
  | .xboxController =>
      [("ID_BUS", "usb"), ("NAME", "\"Xbox Wireless Controller\""),
        ("ID_USB_VENDOR_ID", "045e"), ("ID_USB_MODEL_ID", "02ea"), ("TAGS", ":seat:")]
  | .horipadSteam =>
      [("ID_BUS", "usb"), ("ID_MODEL", "HORIPAD_STEAM"), ("ID_VENDOR_ID", "0f0d"),
        ("ID_MODEL_ID", "01ab"), ("TAGS", ":seat:")]

def hasUPower : Pad → Bool
  | .dualSense | .xboxController => true
  | .horipadSteam => false

def Matches (pad : Pad) (m : Modalias) : Prop := m.vid = pad.vendorId ∧ m.pid ∈ pad.productIds

instance (pad : Pad) (m : Modalias) : Decidable (pad.Matches m) :=
  inferInstanceAs (Decidable (_ ∧ _))

end Pad

/-- An InputReader as the event loop and the controller see it: its address
and the node it was opened on. -/
structure Reader where
  address : Nat
  device : String
deriving DecidableEq

/-- The members of a controller, and the loop it is given. Proxies of which
only the presence matters are kept as the list of their keys. -/
structure Controller where
  adapters : List String
  devices : Std.ExtTreeMap String Properties
  input1 : List String
  upowerClients : List String
  inputReader : Option Reader
  table : Table
  loop : EventLoop Nat
  nextAddress : Nat

/-- What is decided outside of the controller while it handles one message:
which constructors throw, and which nodes can be opened. -/
structure Outcomes where
  adapterThrows : Bool
  upowerThrows : Bool
  input1Throws : Bool
  opens : String → Bool

/-- get_hidraw_devices() for Bluetooth, and for USB when that finds nothing. -/
def refresh (pad : Pad) (bt usb : Scan) : Table :=
  match getHidrawDevices pad.inputMatchBt bt with
  | (true, table) => table
  | (false, _) => (getHidrawDevices pad.inputMatchUsb usb).2

def convertMacToPath (macAddress : String) : String :=
  "/org/freedesktop/UPower/devices/battery_ps_controller_battery_" ++
    String.ofList ((macAddress.toList.map fun c => if c = ':' then 'o' else c).map Char.toLower)

def deviceKey (pad : Pad) (props : Properties) : Option String :=
  match props.modalias with
  | some m =>
      if pad.Matches m ∧ props.connected ∧ props.paired ∧ props.trusted then
        some (createDeviceKeyFromSerialNumber props.address)
      else none
  | none => none

def powerPath (pad : Pad) (props : Properties) : Option String :=
  match props.modalias with
  | some m =>
      if pad.hasUPower ∧ pad.Matches m then some (convertMacToPath props.address) else none
  | none => none

def admits (pad : Pad) (properties : PropertyMap) : Bool :=
  match (getProperty properties "Modalias").bind parseModalias with
  | some m => pad.Matches m
  | none => false

namespace Controller

def attach (s : Controller) (opens : String → Bool) (hidrawDeviceKey : String) : Controller :=
  let hidrawDevice := findHidDevice s.table hidrawDeviceKey
  if hidrawDevice = "" then s
  else if s.inputReader.isSome then s
  else if opens hidrawDevice then
    { s with
      loop := s.loop.add s.nextAddress
      inputReader := some ⟨s.nextAddress, hidrawDevice⟩
      nextAddress := s.nextAddress + 1 }
  else s

/-- The handlers return `false` when an exception leaves them. -/
def addUPowerClient (s : Controller) (throws : Bool) (path : String) : Controller × Bool :=
  if path ∈ s.upowerClients then (s, true)
  else if kMaxUPowerClients ≤ s.upowerClients.length then (s, true)
  else if throws then (s, false)
  else ({ s with upowerClients := s.upowerClients ++ [path] }, true)

def addAdapter (s : Controller) (throws : Bool) (objectPath : String) : Controller × Bool :=
  if objectPath ∈ s.adapters then (s, true)
  else if kMaxAdapters ≤ s.adapters.length then (s, true)
  else if throws then (s, false)
  else ({ s with adapters := s.adapters ++ [objectPath] }, true)

def addInput1 (s : Controller) (throws : Bool) (objectPath : String) : Controller × Bool :=
  if objectPath ∈ s.input1 then (s, true)
  else if kMaxInputEntries ≤ s.input1.length then (s, true)
  else if throws then (s, false)
  else ({ s with input1 := s.input1 ++ [objectPath] }, true)

def installDevice (pad : Pad) (s : Controller) (opens : String → Bool) (objectPath : String)
    (props : Properties) : Controller :=
  let s := { s with devices := s.devices.insert objectPath props }
  match deviceKey pad props with
  | some key => s.attach opens key
  | none => s

def addDevice (pad : Pad) (s : Controller) (out : Outcomes) (objectPath : String)
    (properties : PropertyMap) : Controller × Bool :=
  if admits pad properties = false then (s, true)
  else if objectPath ∈ s.devices then (s, true)
  else if kMaxDevices ≤ s.devices.size then (s, true)
  else
    match Device1 properties with
    | none => (s, false)
    | some props =>
        let s := installDevice pad s out.opens objectPath props
        match powerPath pad props with
        | some path => s.addUPowerClient out.upowerThrows path
        | none => (s, true)

def addInterface (pad : Pad) (s : Controller) (out : Outcomes) (objectPath : String) :
    String × PropertyMap → Controller × Bool
  | ("org.bluez.Adapter1", _) => s.addAdapter out.adapterThrows objectPath
  | ("org.bluez.Device1", properties) => addDevice pad s out objectPath properties
  | ("org.bluez.Input1", _) => s.addInput1 out.input1Throws objectPath
  | _ => (s, true)

def addInterfaces (pad : Pad) (out : Outcomes) (objectPath : String) :
    Controller → List (String × PropertyMap) → Controller × Bool
  | s, [] => (s, true)
  | s, entry :: rest =>
      match addInterface pad s out objectPath entry with
      | (s, true) => addInterfaces pad out objectPath s rest
      | (s, false) => (s, false)

def onInterfacesAdded (pad : Pad) (s : Controller) (out : Outcomes) (objectPath : String)
    (interfacesAndProperties : Std.ExtTreeMap String PropertyMap) : Controller × Bool :=
  addInterfaces pad out objectPath s interfacesAndProperties.toList

def removeDevice (pad : Pad) (s : Controller) (objectPath : String) : Controller :=
  match s.devices[objectPath]? with
  | none => s
  | some props =>
      let s := { s with devices := s.devices.erase objectPath }
      match powerPath pad props with
      | some path => { s with upowerClients := s.upowerClients.filter (· ≠ path) }
      | none => s

def removeInterface (pad : Pad) (objectPath : String) (s : Controller) (interface : String) :
    Controller :=
  match interface with
  | "org.bluez.Adapter1" => { s with adapters := s.adapters.filter (· ≠ objectPath) }
  | "org.bluez.Device1" => removeDevice pad s objectPath
  | "org.bluez.Input1" => { s with input1 := s.input1.filter (· ≠ objectPath) }
  | _ => s

def onInterfacesRemoved (pad : Pad) (s : Controller) (objectPath : String)
    (interfaces : List String) : Controller :=
  interfaces.foldl (removeInterface pad objectPath) s

/-- PropertiesChanged goes to the Device1 object of the path; an error that
leaves its handler is caught by the library. -/
def devicePropertiesChanged (s : Controller) (objectPath : String) (changed : PropertyMap) :
    Controller :=
  match s.devices[objectPath]? with
  | none => s
  | some props =>
      { s with devices := s.devices.insert objectPath (onPropertiesChanged props changed).1 }

def retireReader (s : Controller) : Controller :=
  match s.inputReader with
  | some reader => { s with inputReader := none, loop := s.loop.retire reader.address }
  | none => s

def udevCallback (pad : Pad) (s : Controller) (action : String) (_devNode : Option String)
    (subSystem : String) (bt usb : Scan) : Controller :=
  if subSystem = "hidraw" then
    -- whichever node is removed, the reader goes: the node's name is not compared
    let s := if action = "remove" then s.retireReader else s
    { s with table := refresh pad bt usb }
  else s

def udevDispatch (pad : Pad) (s : Controller) (action devNode subSystem : Option String)
    (bt usb : Scan) : Controller :=
  match action, subSystem with
  | some action, some subSystem => udevCallback pad s action devNode subSystem bt usb
  | _, _ => s

def start (pad : Pad) (loop : EventLoop Nat) (bt usb : Scan) : Controller :=
  ⟨[], ∅, [], [], none, refresh pad bt usb, loop, 0⟩

end Controller

inductive Event
  | interfacesAdded (out : Outcomes) (objectPath : String)
      (interfacesAndProperties : Std.ExtTreeMap String PropertyMap)
  | interfacesRemoved (objectPath : String) (interfaces : List String)
  | propertiesChanged (objectPath : String) (changed : PropertyMap)
  | udev (action devNode subSystem : Option String) (bt usb : Scan)
  | applyPending
  | hungUp (source : Nat)

def handle (pad : Pad) (s : Controller) : Event → Controller
  | .interfacesAdded out objectPath interfacesAndProperties =>
      (s.onInterfacesAdded pad out objectPath interfacesAndProperties).1
  | .interfacesRemoved objectPath interfaces => s.onInterfacesRemoved pad objectPath interfaces
  | .propertiesChanged objectPath changed => s.devicePropertiesChanged objectPath changed
  | .udev action devNode subSystem bt usb => s.udevDispatch pad action devNode subSystem bt usb
  | .applyPending => { s with loop := s.loop.applyPending }
  | .hungUp source => { s with loop := s.loop.remove source }

/-- Any event can come at any time. The calls of onInterfacesAdded that the
constructor makes for the managed objects are the first events of a run. -/
def system (pad : Pad) : System Controller Event := ⟨fun _ _ => True, handle pad⟩

def dualSenseScan : Scan where
  input := [("/sys/devices/virtual/misc/uhid/0005:054C:0CE6.0001/input/input9", .ofList
    [("ID_BUS", "bluetooth"), ("NAME", "\"DualSense Wireless Controller\""),
      ("PRODUCT", "5/54c/ce6/8100"), ("UNIQ", "\"a0:fa:9c:00:00:01\"")])]
  hidraw := [("/sys/devices/virtual/misc/uhid/0005:054C:0CE6.0001/hidraw/hidraw1", .ofList
    [("DEVNAME", "/dev/hidraw1")])]

def dualSenseDevice : PropertyMap := .ofList
  [("Address", Variant.plain (.s "A0:FA:9C:00:00:01")), ("Connected", Variant.plain (.b true)),
    ("Modalias", Variant.plain (.s "usb:v054Cp0CE6d0100")), ("Paired", Variant.plain (.b true)),
    ("Trusted", Variant.plain (.b true))]

def noThrow : Outcomes := ⟨false, false, false, fun _ => true⟩

end SdbusExamples.Controllers
