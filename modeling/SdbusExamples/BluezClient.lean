import SdbusExamples.BluezDevice
import SdbusExamples.ResourceLimits

namespace SdbusExamples.BluezClient

open KeyedUpdates ResourceLimits Variants

/-- `property_utils::getProperty<sdbus::ObjectPath>`, which catches the error. -/
def getProperty (properties : PropertyMap) (key : String) : Option String :=
  properties[key]?.bind Variant.getObjectPath

structure Adapter1.Properties where
  address : String
  addressType : String
  adapterAlias : String
  classType : BitVec 32
  discoverable : Bool
  discoverableTimeout : BitVec 32
  discovering : Bool
  modalias : String
  name : String
  pairable : Bool
  pairableTimeout : BitVec 32
  powered : Bool
  uuids : List String

def Adapter1.Properties.empty : Adapter1.Properties :=
  ⟨"", "", "", 0, false, 0, false, "", "", false, 0, false, []⟩

/-- `startDiscovery` tells whether the call returns or throws. -/
def Adapter1.setProperty (startDiscovery : Bool) (p : Adapter1.Properties) (key : String)
    (value : Variant) : Option Adapter1.Properties :=
  match key with
  | "Address" => value.getString.map fun v => { p with address := v }
  | "AddressType" => value.getString.map fun v => { p with addressType := v }
  | "Alias" => value.getString.map fun v => { p with adapterAlias := v }
  | "Class" => value.getUint32.map fun v => { p with classType := v }
  | "Discoverable" => value.getBool.map fun v => { p with discoverable := v }
  | "DiscoverableTimeout" => value.getUint32.map fun v => { p with discoverableTimeout := v }
  | "Discovering" => do
      let v ← value.getBool
      if !v && !startDiscovery then none else some { p with discovering := v }
  | "Modalias" => value.getString.map fun v => { p with modalias := v }
  | "Name" => value.getString.map fun v => { p with name := v }
  | "Pairable" => value.getBool.map fun v => { p with pairable := v }
  | "PairableTimeout" => value.getUint32.map fun v => { p with pairableTimeout := v }
  | "Powered" => value.getBool.map fun v => { p with powered := v }
  | "UUIDs" => value.getStrings.map fun v => { p with uuids := v }
  | _ => some p

theorem Adapter1.setProperty_eq {key : String} {value : Variant}
    (h : key = "Discovering" → value.getBool ≠ some false) (startDiscovery : Bool)
    (p : Adapter1.Properties) :
    Adapter1.setProperty startDiscovery p key value = Adapter1.setProperty true p key value := by
  unfold Adapter1.setProperty
  split <;> try rfl
  have hon := h rfl
  cases hb : value.getBool with
  | none => rfl
  | some discovering =>
      cases discovering with
      | true => rfl
      | false => exact absurd hb hon

/-- The constructor of Adapter1; `none` when it throws. -/
def Adapter1 (startDiscovery : Bool) (properties : PropertyMap) : Option Adapter1.Properties :=
  setProperties (Adapter1.setProperty startDiscovery) .empty properties.toList

structure GattService1.Properties where
  device : String
  includes : List String
  primary : Bool
  uuid : String

def GattService1.setProperty (p : GattService1.Properties) (key : String) (value : Variant) :
    Option GattService1.Properties :=
  match key with
  | "Device" => value.getObjectPath.map fun v => { p with device := v }
  | "Includes" => value.getObjectPaths.map fun v => { p with includes := v }
  | "Primary" => value.getBool.map fun v => { p with primary := v }
  | "UUID" => value.getString.map fun v => { p with uuid := v }
  | _ => some p

def GattService1 (properties : PropertyMap) : Option GattService1.Properties :=
  setProperties GattService1.setProperty ⟨"", [], false, ""⟩ properties.toList

structure GattCharacteristic1.Properties where
  flags : List String
  notifyAcquired : Bool
  notifying : Bool
  service : String
  uuid : String
  value : List (BitVec 8)

def GattCharacteristic1.isNotifyFlagSet (p : GattCharacteristic1.Properties) : Bool :=
  p.flags.contains "notify"

def GattCharacteristic1.setProperty (p : GattCharacteristic1.Properties) (key : String)
    (value : Variant) : Option GattCharacteristic1.Properties :=
  match key with
  | "Flags" => value.getStrings.map fun v => { p with flags := v }
  | "NotifyAcquired" =>
      if isNotifyFlagSet p then value.getBool.map fun v => { p with notifyAcquired := v } else some p
  | "Notifying" =>
      if isNotifyFlagSet p then value.getBool.map fun v => { p with notifying := v } else some p
  | "Service" => value.getObjectPath.map fun v => { p with service := v }
  | "UUID" => value.getString.map fun v => { p with uuid := v }
  | "Value" => value.getBytes.map fun v => { p with value := v }
  | _ => some p

def GattCharacteristic1 (properties : PropertyMap) : Option GattCharacteristic1.Properties :=
  setProperties GattCharacteristic1.setProperty ⟨[], false, false, "", "", []⟩ properties.toList

structure GattDescriptor1.Properties where
  characteristic : String
  uuid : String
  value : List (BitVec 8)

def GattDescriptor1.setProperty (p : GattDescriptor1.Properties) (key : String) (value : Variant) :
    Option GattDescriptor1.Properties :=
  match key with
  | "Characteristic" => value.getObjectPath.map fun v => { p with characteristic := v }
  | "UUID" => value.getString.map fun v => { p with uuid := v }
  | "Value" => value.getBytes.map fun v => { p with value := v }
  | _ => some p

def GattDescriptor1 (properties : PropertyMap) : Option GattDescriptor1.Properties :=
  setProperties GattDescriptor1.setProperty ⟨"", "", []⟩ properties.toList

structure LEAdvertisingManager1.Properties where
  activeInstances : BitVec 8
  supportedIncludes : List String
  supportedInstances : BitVec 8
  supportedSecondaryChannels : List String

def LEAdvertisingManager1.setProperty (p : LEAdvertisingManager1.Properties) (key : String)
    (value : Variant) : Option LEAdvertisingManager1.Properties :=
  match key with
  | "ActiveInstances" => value.getByte.map fun v => { p with activeInstances := v }
  | "SupportedIncludes" => value.getStrings.map fun v => { p with supportedIncludes := v }
  | "SupportedInstances" => value.getByte.map fun v => { p with supportedInstances := v }
  | "SupportedSecondaryChannels" =>
      value.getStrings.map fun v => { p with supportedSecondaryChannels := v }
  | _ => some p

def LEAdvertisingManager1 (properties : PropertyMap) : Option LEAdvertisingManager1.Properties :=
  setProperties LEAdvertisingManager1.setProperty ⟨0, [], 0, []⟩ properties.toList

inductive Store
  | adapters
  | devices
  | gattServices
  | gattCharacteristics
  | gattDescriptors
  | battery1
  | input1
deriving DecidableEq

inductive Manager
  | batteryProviderManager1
  | gattManager1
  | leAdvertisingManager1
  | media1
  | networkServer1
deriving DecidableEq

def Store.Proxy : Store → Type
  | .adapters => Adapter1.Properties
  | .devices => BluezDevice.Properties
  | .gattServices => GattService1.Properties
  | .gattCharacteristics => GattCharacteristic1.Properties
  | .gattDescriptors => GattDescriptor1.Properties
  | .battery1 | .input1 => Unit

def Manager.Proxy : Manager → Type
  | .leAdvertisingManager1 => LEAdvertisingManager1.Properties
  | _ => Unit

def Store.interfaceName : Store → String
  | .adapters => "org.bluez.Adapter1"
  | .devices => "org.bluez.Device1"
  | .gattServices => "org.bluez.GattService1"
  | .gattCharacteristics => "org.bluez.GattCharacteristic1"
  | .gattDescriptors => "org.bluez.GattDescriptor1"
  | .battery1 => "org.bluez.Battery1"
  | .input1 => "org.bluez.Input1"

def Manager.interfaceName : Manager → String
  | .batteryProviderManager1 => "org.bluez.BatteryProviderManager1"
  | .gattManager1 => "org.bluez.GattManager1"
  | .leAdvertisingManager1 => "org.bluez.LEAdvertisingManager1"
  | .media1 => "org.bluez.Media1"
  | .networkServer1 => "org.bluez.NetworkServer1"

def Store.limit : Store → Nat
  | .adapters => kMaxAdapters
  | .devices => kMaxDevices
  | .gattServices => kMaxGattServices
  | .gattCharacteristics => kMaxGattCharacteristics
  | .gattDescriptors => kMaxGattDescriptors
  | .battery1 => kMaxBatteryEntries
  | .input1 => kMaxInputEntries

def Store.construct (startDiscovery : Bool) (properties : PropertyMap) :
    (k : Store) → Option k.Proxy
  | .adapters => Adapter1 startDiscovery properties
  | .devices => BluezDevice.Device1 properties
  | .gattServices => GattService1 properties
  | .gattCharacteristics => GattCharacteristic1 properties
  | .gattDescriptors => GattDescriptor1 properties
  | .battery1 | .input1 => some ()

def Manager.construct (properties : PropertyMap) : (m : Manager) → Option m.Proxy
  | .leAdvertisingManager1 => LEAdvertisingManager1 properties
  | .batteryProviderManager1 | .gattManager1 | .media1 | .networkServer1 => some ()

inductive Member
  | store (k : Store)
  | manager (m : Manager)
  | none

def member : String → Member
  | "org.freedesktop.DBus.Properties" | "org.freedesktop.DBus.Introspectable" => .none
  | "org.bluez.Adapter1" => .store .adapters
  | "org.bluez.Device1" => .store .devices
  | "org.bluez.GattService1" => .store .gattServices
  | "org.bluez.GattCharacteristic1" => .store .gattCharacteristics
  | "org.bluez.GattDescriptor1" => .store .gattDescriptors
  | "org.bluez.BatteryProviderManager1" => .manager .batteryProviderManager1
  | "org.bluez.Battery1" => .store .battery1
  | "org.bluez.GattManager1" => .manager .gattManager1
  | "org.bluez.Input1" => .store .input1
  | "org.bluez.LEAdvertisingManager1" => .manager .leAdvertisingManager1
  | "org.bluez.Media1" => .manager .media1
  | "org.bluez.NetworkServer1" => .manager .networkServer1
  | _ => .none

/-- A manager proxy is kept with the path that it is bound to. -/
structure Client where
  stores : (k : Store) → Std.ExtTreeMap String k.Proxy
  managers : (m : Manager) → Option (String × m.Proxy)

namespace Client

def empty : Client := ⟨fun _ => ∅, fun _ => none⟩

def setStore (c : Client) (k : Store) (s : Std.ExtTreeMap String k.Proxy) : Client :=
  { c with stores := Function.update c.stores k s }

def setManager (c : Client) (m : Manager) (p : Option (String × m.Proxy)) : Client :=
  { c with managers := Function.update c.managers m p }

/-- The entry is there or not afterwards; the flag is false when the
constructor of the proxy throws. -/
def emplace (c : Client) (startDiscovery : Bool) (k : Store) (objectPath : String)
    (properties : PropertyMap) : Client × Bool :=
  match k.construct startDiscovery properties with
  | some proxy => (c.setStore k ((c.stores k).insert objectPath proxy), true)
  | none => (c, false)

/-- The branch for adapters, devices, services, batteries and inputs. -/
def addAbsent (c : Client) (startDiscovery : Bool) (k : Store) (objectPath : String)
    (properties : PropertyMap) : Client × Bool :=
  if objectPath ∈ c.stores k then (c, true)
  else if isAtCapacity (c.stores k).size k.limit then (c, true)
  else c.emplace startDiscovery k objectPath properties

/-- The branch for characteristics and descriptors, which replaces. -/
def addOrReplace (c : Client) (startDiscovery : Bool) (k : Store) (key objectPath : String)
    (properties : PropertyMap) : Client × Bool :=
  match getProperty properties key with
  | none => (c, true)
  | some _ =>
      if objectPath ∉ c.stores k ∧ isAtCapacity (c.stores k).size k.limit then (c, true)
      else c.emplace startDiscovery k objectPath properties

def addToStore (c : Client) (startDiscovery : Bool) (k : Store) (objectPath : String)
    (properties : PropertyMap) : Client × Bool :=
  match k with
  | .gattCharacteristics =>
      c.addOrReplace startDiscovery .gattCharacteristics "Service" objectPath properties
  | .gattDescriptors =>
      c.addOrReplace startDiscovery .gattDescriptors "Characteristic" objectPath properties
  | k => c.addAbsent startDiscovery k objectPath properties

def replaceManager (c : Client) (m : Manager) (objectPath : String) (properties : PropertyMap) :
    Client × Bool :=
  match m.construct properties with
  | some proxy => (c.setManager m (some (objectPath, proxy)), true)
  | none => (c, false)

def addInterface (c : Client) (startDiscovery : Bool) (objectPath interface : String)
    (properties : PropertyMap) : Client × Bool :=
  match member interface with
  | .store k => c.addToStore startDiscovery k objectPath properties
  | .manager m => c.replaceManager m objectPath properties
  | .none => (c, true)

def addInterfaces (c : Client) (startDiscovery : Bool) (objectPath : String) :
    List (String × PropertyMap) → Client × Bool
  | [] => (c, true)
  | (interface, properties) :: rest =>
      match c.addInterface startDiscovery objectPath interface properties with
      | (c, true) => c.addInterfaces startDiscovery objectPath rest
      | (c, false) => (c, false)

/-- `startDiscovery` gives the outcome of the call on each adapter. -/
def onInterfacesAdded (c : Client) (startDiscovery : String → Bool) (objectPath : String)
    (interfacesAndProperties : Interfaces) : Client × Bool :=
  c.addInterfaces (startDiscovery objectPath) objectPath interfacesAndProperties.toList

def removeInterface (c : Client) (objectPath interface : String) : Client :=
  match member interface with
  | .store k => c.setStore k ((c.stores k).erase objectPath)
  | .manager m => c.setManager m none
  | .none => c

def onInterfacesRemoved (c : Client) (objectPath : String) (interfaces : List String) : Client :=
  interfaces.foldl (fun c interface => c.removeInterface objectPath interface) c

/-- The loop of the constructor over the reply of GetManagedObjects. -/
def addObjects (c : Client) (startDiscovery : String → Bool) :
    List (String × Interfaces) → Client × Bool
  | [] => (c, true)
  | (object, interfacesAndProperties) :: rest =>
      match c.onInterfacesAdded startDiscovery object interfacesAndProperties with
      | (c, true) => c.addObjects startDiscovery rest
      | (c, false) => (c, false)

end Client

def construct (startDiscovery : String → Bool) (objects : Std.ExtTreeMap String Interfaces) :
    Option Client :=
  match Client.empty.addObjects startDiscovery objects.toList with
  | (c, true) => some c
  | (_, false) => none

end SdbusExamples.BluezClient
