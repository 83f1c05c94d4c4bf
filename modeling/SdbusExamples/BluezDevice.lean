import SdbusExamples.KeyedUpdates
import SdbusExamples.Variants

namespace SdbusExamples.BluezDevice

open KeyedUpdates Variants

/-- `property_utils::getProperty<std::string>`, which catches the error. -/
def getProperty (properties : PropertyMap) (key : String) : Option String :=
  properties[key]?.bind Variant.getString

structure Modalias where
  vid : String
  pid : String
  did : String
deriving DecidableEq

structure Properties where
  adapter : String
  address : String
  addressType : String
  deviceAlias : String
  blocked : Bool
  bonded : Bool
  connected : Bool
  legacyPairing : Bool
  modalias : Option Modalias
  name : String
  paired : Bool
  serviceData : List (String × Variant)
  rssi : BitVec 16
  servicesResolved : Bool
  trusted : Bool
  uuids : List String

def Properties.empty : Properties :=
  ⟨"", "", "", "", false, false, false, false, none, "", false, [], 0, false, false, []⟩

def isHexDigit (c : Char) : Bool :=
  ('0' ≤ c && c ≤ '9') || ('A' ≤ c && c ≤ 'F') || ('a' ≤ c && c ≤ 'f')

def hexGroup (tag : Char) : List Char → Option (String × List Char)
  | t :: a :: b :: c :: d :: rest =>
      if t = tag && [a, b, c, d].all isHexDigit then some (String.ofList [a, b, c, d], rest)
      else none
  | _ => none

/-- The regular expression of parse_modalias at the front of the text. -/
def matchModalias : List Char → Option Modalias
  | 'u' :: 's' :: 'b' :: ':' :: rest => do
      let (vid, rest) ← hexGroup 'v' rest
      let (pid, rest) ← hexGroup 'p' rest
      let (did, _) ← hexGroup 'd' rest
      return ⟨vid, pid, did⟩
  | _ => none

/-- std::regex_search: the leftmost match. -/
def searchModalias : List Char → Option Modalias
  | [] => none
  | c :: text => matchModalias (c :: text) <|> searchModalias text

def parseModalias (modAlias : String) : Option Modalias := searchModalias modAlias.toList

/-- One round of the loop of onPropertiesChanged; `none` when get() throws. -/
def setProperty (p : Properties) (key : String) (value : Variant) : Option Properties :=
  match key with
  | "Adapter" => value.getObjectPath.map fun v => { p with adapter := v }
  | "Address" => value.getString.map fun v => { p with address := v }
  | "AddressType" => value.getString.map fun v => { p with addressType := v }
  | "Bonded" => value.getBool.map fun v => { p with bonded := v }
  | "Blocked" => value.getBool.map fun v => { p with blocked := v }
  | "Connected" => value.getBool.map fun v => { p with connected := v }
  | "LegacyPairing" => value.getBool.map fun v => { p with legacyPairing := v }
  | "Paired" => value.getBool.map fun v => { p with paired := v }
  | "Modalias" => value.getString.map fun v => { p with modalias := parseModalias v }
  | "Name" => value.getString.map fun v => { p with name := v }
  | "ServiceData" => value.getDict.map fun v => { p with serviceData := v }
  | "RSSI" => value.getInt16.map fun v => { p with rssi := v }
  | "ServicesResolved" => value.getBool.map fun v => { p with servicesResolved := v }
  | "Trusted" => value.getBool.map fun v => { p with trusted := v }
  | "UUIDs" => value.getStrings.map fun v => { p with uuids := v }
  | _ => some p

def onPropertiesChanged (p : Properties) (changed : PropertyMap) : Properties × Bool :=
  setAll setProperty p changed.toList

def Device1 (properties : PropertyMap) : Option Properties :=
  setProperties setProperty .empty properties.toList

end SdbusExamples.BluezDevice
