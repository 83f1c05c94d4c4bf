import SdbusExamples.LatestEvents
import SdbusExamples.MessageQueues
import SdbusExamples.Runs
import SdbusExamples.UPowerDisplayDevice

namespace SdbusExamples.UPowerClient

open LatestEvents PathMaps Runs UPowerDisplayDevice Variants

inductive Request
  | registerProxy
  | enumerateDevices
  | registerDevice (device : String)
  | unregisterDevice (device : String)
  | getAll (device : String) (call : Nat)
deriving DecidableEq

/-- What is on its way to the client. The replies of GetAll carry the call
that they answer. -/
inductive Message
  | deviceAdded (device : String)
  | deviceRemoved (device : String)
  | propertiesChanged (device : String) (changed : PropertyMap)
  | devices (devices : List String)
  | properties (device : String) (call : Nat) (properties : PropertyMap)
  | devicesFailed
  | propertiesFailed (device : String) (call : Nat)

/-- A UPowerDisplayDevice; `pending` is the GetAll that it waits for. -/
structure Device where
  pending : Option Nat
  properties : Properties

def Device.onPropertiesChanged (d : Device) (changed : PropertyMap) : Device :=
  { d with properties := (UPowerDisplayDevice.onPropertiesChanged d.properties changed).1 }

def Device.onReply (d : Device) (call : Nat) (properties : PropertyMap) : Device :=
  if d.pending = some call then { d with pending := none }.onPropertiesChanged properties else d

def Device.onFailure (d : Device) (call : Nat) : Device :=
  if d.pending = some call then { d with pending := none } else d

structure Client where
  deviceFilter : String
  devices : Std.ExtTreeMap String Device
  calls : Nat

namespace Client

def Passes (deviceFilter device : String) : Prop := deviceFilter = "" ∨ deviceFilter = device

instance (deviceFilter device : String) : Decidable (Passes deviceFilter device) :=
  inferInstanceAs (Decidable (deviceFilter = "" ∨ deviceFilter = device))

/-- The constructor of UPowerDisplayDevice subscribes to the signals of the
device before it makes the call. -/
def onDeviceAdded (c : Client) (device : String) : Client × List Request :=
  if Passes c.deviceFilter device then
    if device ∈ c.devices then (c, [])
    else
      ({ c with
          devices := c.devices.insert device ⟨some c.calls, .initial⟩
          calls := c.calls + 1 },
        [.registerDevice device, .getAll device c.calls])
  else (c, [])

/-- The destructor of UPowerDisplayDevice cancels its call and the subscription. -/
def onDeviceRemoved (c : Client) (device : String) : Client × List Request :=
  if Passes c.deviceFilter device then
    if device ∈ c.devices then
      ({ c with devices := c.devices.erase device }, [.unregisterDevice device])
    else (c, [])
  else (c, [])

def atDevice (c : Client) (device : String) (f : Device → Device) : Client × List Request :=
  ({ c with devices := c.devices.alter device (·.map f) }, [])

end Client

/-- One reply of EnumerateDevices is handled in as many rounds as it has paths. -/
def handle (c : Client) : Message → Client × List Request
  | .deviceAdded device => c.onDeviceAdded device
  | .deviceRemoved device => c.onDeviceRemoved device
  | .propertiesChanged device changed => c.atDevice device (·.onPropertiesChanged changed)
  | .devices (device :: _) => c.onDeviceAdded device
  | .devices [] => (c, [])
  | .properties device call properties => c.atDevice device (·.onReply call properties)
  | .devicesFailed => (c, [])
  | .propertiesFailed device call => c.atDevice device (·.onFailure call)

def remains : Message → List Message
  | .devices (_ :: rest) => [.devices rest]
  | _ => []

inductive Phase
  | initial
  | registered
  | running
deriving DecidableEq

/-- `daemon` holds the devices of UPower with their properties, `subscribed`
and `rules` what the bus passes on: the signals of UPower itself, and the
PropertiesChanged of these devices. -/
structure World where
  daemon : Std.ExtTreeMap String PropertyMap
  subscribed : Bool
  rules : Std.ExtTreeMap String Unit
  bus : List Message
  requests : List Request
  phase : Phase
  client : Client

inductive Act
  | adds (device : String) (properties : PropertyMap)
  | removes (device : String)
  | changes (device : String) (changed : PropertyMap)
  | registerProxy
  | enumerateDevices
  | answers (devices : List String)
  | fails
  | deliver

def signal (w : World) (message : Message) : List Message :=
  if w.subscribed then w.bus ++ [message] else w.bus

def answer (w : World) (devices : List String) : Request → World
  | .registerProxy => { w with subscribed := true }
  | .enumerateDevices => { w with bus := w.bus ++ [.devices devices] }
  | .registerDevice device => { w with rules := w.rules.insert device () }
  | .unregisterDevice device => { w with rules := w.rules.erase device }
  | .getAll device call =>
      { w with bus := w.bus ++ [.properties device call ((w.daemon[device]?).getD ∅)] }

def failure : Request → List Message
  | .enumerateDevices => [.devicesFailed]
  | .getAll device call => [.propertiesFailed device call]
  | _ => []

def next (w : World) : Act → World
  | .adds device properties =>
      { w with
        daemon := w.daemon.insert device properties
        bus := signal w (.deviceAdded device) }
  | .removes device =>
      { w with
        daemon := w.daemon.erase device
        bus := signal w (.deviceRemoved device) }
  | .changes device changed =>
      { w with
        daemon := w.daemon.alter device fun properties => properties.map (· ∪ changed)
        bus := if device ∈ w.rules then w.bus ++ [.propertiesChanged device changed] else w.bus }
  | .registerProxy => { w with phase := .registered, requests := w.requests ++ [.registerProxy] }
  | .enumerateDevices =>
      { w with phase := .running, requests := w.requests ++ [.enumerateDevices] }
  | .answers devices =>
      match w.requests with
      | request :: requests => answer { w with requests } devices request
      | [] => w
  | .fails =>
      match w.requests with
      | request :: requests => { w with requests, bus := w.bus ++ failure request }
      | [] => w
  | .deliver =>
      match w.bus with
      | message :: bus =>
          { w with
            bus := remains message ++ bus
            requests := w.requests ++ (handle w.client message).2
            client := (handle w.client message).1 }
      | [] => w

/-- UPower can answer GetAll for a device that it has, and lists its devices
in any order. -/
def Answers (w : World) (devices : List String) : Request → Prop
  | .enumerateDevices => ∀ device, device ∈ devices ↔ device ∈ w.daemon
  | .getAll device _ => device ∈ w.daemon
  | _ => True

instance (w : World) (devices : List String) : ∀ request, Decidable (Answers w devices request)
  | .enumerateDevices =>
      decidable_of_iff ((∀ device ∈ devices, device ∈ w.daemon) ∧
        ∀ device ∈ w.daemon.keys, device ∈ devices) (by
          simp only [Answers, Std.ExtTreeMap.mem_keys]
          exact ⟨fun h device => ⟨h.1 device, h.2 device⟩,
            fun h => ⟨fun device => (h device).1, fun device => (h device).2⟩⟩)
  | .getAll device _ => inferInstanceAs (Decidable (device ∈ w.daemon))
  | .registerProxy => .isTrue trivial
  | .registerDevice _ => .isTrue trivial
  | .unregisterDevice _ => .isTrue trivial

def enabled (w : World) : Act → Prop
  | .adds device _ => device ∉ w.daemon
  | .removes device => device ∈ w.daemon
  | .changes device _ => device ∈ w.daemon
  | .registerProxy => w.phase = .initial
  | .enumerateDevices => w.phase = .registered
  | .answers devices => ∃ request ∈ w.requests.head?, Answers w devices request
  | .fails => ∃ request ∈ w.requests.head?, failure request ≠ []
  | .deliver => w.bus ≠ []

instance (w : World) : ∀ a, Decidable (enabled w a)
  | .adds device _ => inferInstanceAs (Decidable (device ∉ w.daemon))
  | .removes device => inferInstanceAs (Decidable (device ∈ w.daemon))
  | .changes device _ => inferInstanceAs (Decidable (device ∈ w.daemon))
  | .registerProxy => inferInstanceAs (Decidable (w.phase = .initial))
  | .enumerateDevices => inferInstanceAs (Decidable (w.phase = .registered))
  | .answers devices =>
      inferInstanceAs (Decidable (∃ request ∈ w.requests.head?, Answers w devices request))
  | .fails => inferInstanceAs (Decidable (∃ request ∈ w.requests.head?, failure request ≠ []))
  | .deliver => inferInstanceAs (Decidable (w.bus ≠ []))

def system : System World Act := ⟨enabled, next⟩

instance (w : World) (a : Act) : Decidable (system.enabled w a) :=
  inferInstanceAs (Decidable (enabled w a))

def start (deviceFilter : String) (daemon : Std.ExtTreeMap String PropertyMap) : World :=
  ⟨daemon, false, ∅, [], [], .initial, ⟨deviceFilter, ∅, 0⟩⟩

def AllTyped (daemon : Std.ExtTreeMap String PropertyMap) : Prop :=
  ∀ (device : String) (properties : PropertyMap), daemon[device]? = some properties →
    Typed properties

def Pending (c : Client) (device : String) (call : Nat) : Prop :=
  ∃ d ∈ c.devices[device]?, d.pending = some call

def Failed (c : Client) : Message → Prop
  | .devicesFailed => True
  | .propertiesFailed device call => Pending c device call
  | _ => False

/-- All values are typed as the introspection data says, and no call fails
unless it has been cancelled. -/
def Succeeds (w : World) : Act → Prop
  | .adds _ properties => Typed properties
  | .changes _ changed => Typed changed
  | .deliver => ∀ message ∈ w.bus.head?, ¬ Failed w.client message
  | _ => True

instance (c : Client) (device : String) (call : Nat) : Decidable (Pending c device call) :=
  inferInstanceAs (Decidable (∃ d ∈ c.devices[device]?, d.pending = some call))

instance (c : Client) : ∀ message, Decidable (Failed c message)
  | .devicesFailed => .isTrue trivial
  | .propertiesFailed device call => inferInstanceAs (Decidable (Pending c device call))
  | .deviceAdded _ => .isFalse id
  | .deviceRemoved _ => .isFalse id
  | .propertiesChanged _ _ => .isFalse id
  | .devices _ => .isFalse id
  | .properties _ _ _ => .isFalse id

instance (w : World) : ∀ a, Decidable (Succeeds w a)
  | .adds _ properties => inferInstanceAs (Decidable (Typed properties))
  | .changes _ changed => inferInstanceAs (Decidable (Typed changed))
  | .deliver => inferInstanceAs (Decidable (∀ message ∈ w.bus.head?, ¬ Failed w.client message))
  | .removes _ => .isTrue trivial
  | .registerProxy => .isTrue trivial
  | .enumerateDevices => .isTrue trivial
  | .answers _ => .isTrue trivial
  | .fails => .isTrue trivial

def Settled (w : World) : Prop := w.phase = .running ∧ w.requests = [] ∧ w.bus = []

instance (w : World) : Decidable (Settled w) :=
  inferInstanceAs (Decidable (w.phase = .running ∧ w.requests = [] ∧ w.bus = []))

structure Converged (deviceFilter : String) (w : World) : Prop where
  devices : ∀ device : String,
    device ∈ w.client.devices ↔ device ∈ w.daemon ∧ Client.Passes deviceFilter device
  properties : ∀ (device : String) (d : Device) (properties : PropertyMap),
    w.client.devices[device]? = some d → w.daemon[device]? = some properties →
      Current d.properties properties

end SdbusExamples.UPowerClient
