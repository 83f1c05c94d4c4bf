import Mathlib.Logic.Function.Basic
import SdbusExamples.KeyedUpdates
import SdbusExamples.Variants

namespace SdbusExamples.UPowerDisplayDevice

open Function KeyedUpdates PathMaps Variants

inductive ValueType
  | uint32
  | int32
  | int64
  | uint64
  | double
  | bool
  | string
deriving DecidableEq

/-- A double is carried along by its bits. -/
def ValueType.Value : ValueType → Type
  | .uint32 | .int32 => BitVec 32
  | .int64 | .uint64 | .double => BitVec 64
  | .bool => Bool
  | .string => String

def ValueType.get : (type : ValueType) → Variant → Option type.Value
  | .uint32, value => value.getUint32
  | .int32, value => value.getInt32
  | .int64, value => value.getInt64
  | .uint64, value => value.getUint64
  | .double, value => value.getDouble
  | .bool, value => value.getBool
  | .string, value => value.getString

inductive Key
  | batteryLevel
  | capacity
  | chargeCycles
  | chargeEndThreshold
  | chargeStartThreshold
  | chargeThresholdEnabled
  | chargeThresholdSupported
  | energy
  | energyEmpty
  | energyFull
  | energyFullDesign
  | energyRate
  | hasHistory
  | hasStatistics
  | iconName
  | isPresent
  | isRechargeable
  | luminosity
  | model
  | nativePath
  | online
  | percentage
  | powerSupply
  | serial
  | state
  | technology
  | temperature
  | timeToEmpty
  | timeToFull
  | type
  | updateTime
  | vendor
  | voltage
  | warningLevel
deriving DecidableEq

namespace Key

def name : Key → String
  | .batteryLevel => "BatteryLevel"
  | .capacity => "Capacity"
  | .chargeCycles => "ChargeCycles"
  | .chargeEndThreshold => "ChargeEndThreshold"
  | .chargeStartThreshold => "ChargeStartThreshold"
  | .chargeThresholdEnabled => "ChargeThresholdEnabled"
  | .chargeThresholdSupported => "ChargeThresholdSupported"
  | .energy => "Energy"
  | .energyEmpty => "EnergyEmpty"
  | .energyFull => "EnergyFull"
  | .energyFullDesign => "EnergyFullDesign"
  | .energyRate => "EnergyRate"
  | .hasHistory => "HasHistory"
  | .hasStatistics => "HasStatistics"
  | .iconName => "IconName"
  | .isPresent => "IsPresent"
  | .isRechargeable => "IsRechargeable"
  | .luminosity => "Luminosity"
  | .model => "Model"
  | .nativePath => "NativePath"
  | .online => "Online"
  | .percentage => "Percentage"
  | .powerSupply => "PowerSupply"
  | .serial => "Serial"
  | .state => "State"
  | .technology => "Technology"
  | .temperature => "Temperature"
  | .timeToEmpty => "TimeToEmpty"
  | .timeToFull => "TimeToFull"
  | .type => "Type"
  | .updateTime => "UpdateTime"
  | .vendor => "Vendor"
  | .voltage => "Voltage"
  | .warningLevel => "WarningLevel"

def valueType : Key → ValueType
  | .batteryLevel | .chargeEndThreshold | .chargeStartThreshold | .state | .technology | .type
  | .warningLevel => .uint32
  | .capacity | .energy | .energyEmpty | .energyFull | .energyFullDesign | .energyRate
  | .luminosity | .percentage | .temperature | .voltage => .double
  | .chargeCycles => .int32
  | .chargeThresholdEnabled | .chargeThresholdSupported | .hasHistory | .hasStatistics
  | .isPresent | .isRechargeable | .online | .powerSupply => .bool
  | .iconName | .model | .nativePath | .serial | .vendor => .string
  | .timeToEmpty | .timeToFull => .int64
  | .updateTime => .uint64

/-- In the order of the comparisons of onPropertiesChanged(). -/
def all : List Key :=
  [.batteryLevel, .capacity, .chargeCycles, .chargeEndThreshold, .chargeStartThreshold,
    .chargeThresholdEnabled, .chargeThresholdSupported, .energy, .energyEmpty, .energyFull,
    .energyFullDesign, .energyRate, .hasHistory, .hasStatistics, .iconName, .isPresent,
    .isRechargeable, .luminosity, .model, .nativePath, .online, .percentage, .powerSupply,
    .serial, .state, .technology, .temperature, .timeToEmpty, .timeToFull, .type, .updateTime,
    .vendor, .voltage, .warningLevel]

end Key

def keyOf (name : String) : Option Key := Key.all.find? fun k => k.name = name

abbrev Properties := (k : Key) → k.valueType.Value

def ValueType.zero : (type : ValueType) → type.Value
  | .uint32 | .int32 => 0#32
  | .int64 | .uint64 | .double => 0#64
  | .bool => false
  | .string => ""

def Properties.initial : Properties := fun k => k.valueType.zero

/-- One round of the loop of onPropertiesChanged; `none` when get() throws. -/
def setProperty (p : Properties) (key : String) (value : Variant) : Option Properties :=
  match keyOf key with
  | some k => (k.valueType.get value).map (update p k)
  | none => some p

/-- The properties afterwards, and whether it returns: an error that get()
throws leaves what was set before. -/
def onPropertiesChanged (p : Properties) (changed : PropertyMap) : Properties × Bool :=
  setAll setProperty p changed.toList

theorem keyOf_name (k : Key) : keyOf k.name = some k := by
  cases k <;> rfl

theorem name_of_keyOf {key : String} {k : Key} (h : keyOf key = some k) : k.name = key := by
  simpa using List.find?_some h

theorem feeds (k : Key) : Feeds setProperty k.name (k.valueType.get) fun p => p k := by
  intro p key value p' h
  rw [setProperty] at h
  cases hk : keyOf key with
  | none =>
      have hne : key ≠ k.name := by
        rintro rfl
        rw [keyOf_name] at hk
        cases hk
      rw [hk] at h
      rw [if_neg hne, Option.some.inj h]
  | some l =>
      rw [hk] at h
      obtain ⟨x, hx, rfl⟩ := Option.map_eq_some_iff.1 h
      by_cases hl : l = k
      · subst hl
        rw [if_pos (name_of_keyOf hk).symm, hx, Option.getD_some]
        exact update_self ..
      · have hne : key ≠ k.name := by
          rintro rfl
          rw [keyOf_name] at hk
          exact hl (Option.some.inj hk).symm
        rw [if_neg hne]
        exact update_of_ne (Ne.symm hl) ..

def Typed (properties : PropertyMap) : Prop :=
  ∀ e ∈ properties.toList, (setProperty .initial e.1 e.2).isSome = true

instance (properties : PropertyMap) : Decidable (Typed properties) :=
  inferInstanceAs
    (Decidable (∀ e ∈ properties.toList, (setProperty .initial e.1 e.2).isSome = true))

theorem isSome_setProperty (p q : Properties) (key : String) (value : Variant) :
    (setProperty p key value).isSome = (setProperty q key value).isSome := by
  unfold setProperty
  split
  · rw [Option.isSome_map, Option.isSome_map]
  · rfl

theorem Typed.set {properties : PropertyMap} (h : Typed properties) :
    ∀ e ∈ properties.toList, ∀ q, (setProperty q e.1 e.2).isSome = true := by
  intro e he q
  rw [isSome_setProperty q .initial]
  exact h e he

theorem Typed.get {properties : PropertyMap} (h : Typed properties) {k : Key} {value : Variant}
    (hv : properties[k.name]? = some value) : ∃ x, k.valueType.get value = some x := by
  have hset := h _ ((mem_toList_path properties k.name value).2 hv)
  rw [setProperty, keyOf_name, Option.isSome_map] at hset
  exact Option.isSome_iff_exists.1 hset

theorem Typed.union {properties changed : PropertyMap} (h : Typed properties)
    (hc : Typed changed) : Typed (properties ∪ changed) := by
  rintro ⟨key, value⟩ he
  rw [mem_toList_path, Std.ExtTreeMap.getElem?_union] at he
  cases hk : changed[key]? with
  | none =>
      rw [hk] at he
      exact h _ ((mem_toList_path properties key value).2 he)
  | some v =>
      rw [hk, Option.some_or] at he
      exact hc _ ((mem_toList_path changed key value).2 (hk.trans he))

def Current (p : Properties) (properties : PropertyMap) : Prop :=
  ∀ (k : Key) (value : Variant), properties[k.name]? = some value →
    k.valueType.get value = some (p k)

theorem onPropertiesChanged_apply (p : Properties) {changed : PropertyMap} (h : Typed changed)
    (k : Key) : (onPropertiesChanged p changed).1 k =
      ((changed[k.name]?).bind (k.valueType.get)).getD (p k) :=
  (feeds k).setAll_toList p h.set

theorem current_of_changed (p : Properties) {changed : PropertyMap} (h : Typed changed) :
    Current (onPropertiesChanged p changed).1 changed := by
  intro k value hv
  obtain ⟨x, hx⟩ := h.get hv
  rw [onPropertiesChanged_apply p h, hv, Option.bind_some, hx, Option.getD_some]

theorem Current.change {p : Properties} {properties changed : PropertyMap}
    (hp : Current p properties) (h : Typed changed) :
    Current (onPropertiesChanged p changed).1 (properties ∪ changed) := by
  intro k value hv
  rw [Std.ExtTreeMap.getElem?_union] at hv
  cases hk : changed[k.name]? with
  | none =>
      rw [hk] at hv
      rw [onPropertiesChanged_apply p h, hk]
      exact hp k value hv
  | some v =>
      rw [hk, Option.some_or] at hv
      exact current_of_changed p h k value (hk.trans hv)

end SdbusExamples.UPowerDisplayDevice
