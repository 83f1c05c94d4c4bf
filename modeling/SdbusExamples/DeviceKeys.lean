import SdbusExamples.DeviceProperties
import SdbusExamples.KeyTables

namespace SdbusExamples.DeviceKeys

open BluezDevice KeyTables Variants

inductive Key
  | adapter
  | address
  | addressType
  | bonded
  | blocked
  | connected
  | legacyPairing
  | paired
  | modalias
  | name
  | serviceData
  | rssi
  | servicesResolved
  | trusted
  | uuids
deriving DecidableEq

namespace Key

def keyName : Key → String
  | .adapter => "Adapter"
  | .address => "Address"
  | .addressType => "AddressType"
  | .bonded => "Bonded"
  | .blocked => "Blocked"
  | .connected => "Connected"
  | .legacyPairing => "LegacyPairing"
  | .paired => "Paired"
  | .modalias => "Modalias"
  | .name => "Name"
  | .serviceData => "ServiceData"
  | .rssi => "RSSI"
  | .servicesResolved => "ServicesResolved"
  | .trusted => "Trusted"
  | .uuids => "UUIDs"

def Value : Key → Type
  | .adapter | .address | .addressType | .name => String
  | .bonded | .blocked | .connected | .legacyPairing | .paired | .servicesResolved | .trusted =>
      Bool
  | .modalias => Option Modalias
  | .serviceData => List (String × Variant)
  | .rssi => BitVec 16
  | .uuids => List String

def get : (k : Key) → Variant → Option k.Value
  | .adapter => Variant.getObjectPath
  | .address | .addressType | .name => Variant.getString
  | .bonded | .blocked | .connected | .legacyPairing | .paired | .servicesResolved | .trusted =>
      Variant.getBool
  | .modalias => fun value => value.getString.map parseModalias
  | .serviceData => Variant.getDict
  | .rssi => Variant.getInt16
  | .uuids => Variant.getStrings

def read : (k : Key) → Properties → k.Value
  | .adapter => Properties.adapter
  | .address => Properties.address
  | .addressType => Properties.addressType
  | .bonded => Properties.bonded
  | .blocked => Properties.blocked
  | .connected => Properties.connected
  | .legacyPairing => Properties.legacyPairing
  | .paired => Properties.paired
  | .modalias => Properties.modalias
  | .name => Properties.name
  | .serviceData => Properties.serviceData
  | .rssi => Properties.rssi
  | .servicesResolved => Properties.servicesResolved
  | .trusted => Properties.trusted
  | .uuids => Properties.uuids

def write : (k : Key) → Properties → k.Value → Properties
  | .adapter => fun p v => { p with adapter := v }
  | .address => fun p v => { p with address := v }
  | .addressType => fun p v => { p with addressType := v }
  | .bonded => fun p v => { p with bonded := v }
  | .blocked => fun p v => { p with blocked := v }
  | .connected => fun p v => { p with connected := v }
  | .legacyPairing => fun p v => { p with legacyPairing := v }
  | .paired => fun p v => { p with paired := v }
  | .modalias => fun p v => { p with modalias := v }
  | .name => fun p v => { p with name := v }
  | .serviceData => fun p v => { p with serviceData := v }
  | .rssi => fun p v => { p with rssi := v }
  | .servicesResolved => fun p v => { p with servicesResolved := v }
  | .trusted => fun p v => { p with trusted := v }
  | .uuids => fun p v => { p with uuids := v }

def all : List Key :=
  [.adapter, .address, .addressType, .bonded, .blocked, .connected, .legacyPairing, .paired,
    .modalias, .name, .serviceData, .rssi, .servicesResolved, .trusted, .uuids]

theorem read_write (k : Key) (p : Properties) (v : k.Value) : k.read (k.write p v) = v := by
  cases k <;> rfl

theorem read_write_of_ne {k l : Key} (h : k ≠ l) (p : Properties) (v : l.Value) :
    k.read (l.write p v) = k.read p := by
  cases k <;> cases l <;> first | rfl | exact absurd rfl h

end Key

def keyOf (key : String) : Option Key := Key.all.find? fun k => k.keyName = key

theorem keyOf_keyName (k : Key) : keyOf k.keyName = some k := by
  cases k <;> rfl

theorem keyName_of_keyOf {key : String} {k : Key} (h : keyOf key = some k) : k.keyName = key := by
  simpa using List.find?_some h

def table : KeyTable Properties Variant where
  Key := Key
  name := Key.keyName
  keyOf := keyOf
  Value := Key.Value
  get := Key.get
  read := Key.read
  write := Key.write
  keyOf_name := keyOf_keyName
  name_of_keyOf _ _ := keyName_of_keyOf
  read_write := Key.read_write
  read_write_of_ne _ _ p v h := Key.read_write_of_ne h p v

theorem setProperty_eq : setProperty = table.set := by
  funext p key value
  unfold setProperty
  split
  case h_9 => cases value with
    | plain value => cases value <;> rfl
    | _ => rfl
  case h_16 =>
    have hnone : keyOf key = none := by
      rw [keyOf, List.find?_eq_none]
      intro k _ hk
      rw [decide_eq_true_eq] at hk
      subst hk
      cases k <;> contradiction
    rw [KeyTable.set, show table.keyOf key = none from hnone]
  all_goals rfl

end SdbusExamples.DeviceKeys
