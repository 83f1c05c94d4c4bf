import SdbusExamples.DeviceKeys
import SdbusExamples.UPowerDisplayDevice

namespace SdbusExamples.PropertyRuns

open KeyTables KeyedUpdates LatestEvents Variants

section Device1

open BluezDevice DeviceKeys DeviceProperties

/-- The cache after PropertiesChanged messages. What the handler throws is
caught by its caller. -/
def deviceAfter (p : Properties) (ms : List PropertyMap) : Properties :=
  ms.foldl (fun p m => (onPropertiesChanged p m).1) p

theorem deviceAfter_eq (p : Properties) (ms : List PropertyMap) :
    deviceAfter p ms = ms.foldl (fun p m => (setAll table.set p m.toList).1) p := by
  simp only [deviceAfter, onPropertiesChanged, setProperty_eq]

theorem read_deviceAfter (p : Properties) (ms : List PropertyMap) (k : Key) :
    k.read (deviceAfter p ms) =
      latest (reached table.IllTyped k.keyName k.get) (k.read p) ms := by
  have : DecidableEq table.Key := inferInstanceAs (DecidableEq Key)
  rw [deviceAfter_eq]
  exact KeyTable.foldl_setAll (T := table) k p ms

/-- There is no case for Alias. -/
theorem deviceAlias_deviceAfter (p : Properties) (ms : List PropertyMap) :
    (deviceAfter p ms).deviceAlias = p.deviceAlias := by
  have hset : ∀ q key value q', table.set q key value = some q' →
      q.deviceAlias = p.deviceAlias → q'.deviceAlias = p.deviceAlias := by
    intro q key value q' h hq
    rw [KeyTable.set] at h
    cases hk : table.keyOf key with
    | none =>
        rw [hk] at h
        exact Option.some.inj h ▸ hq
    | some k =>
        rw [hk] at h
        obtain ⟨v, -, rfl⟩ := Option.map_eq_some_iff.1 h
        cases k <;> exact hq
  rw [deviceAfter_eq]
  induction ms using List.reverseRecOn with
  | nil => rfl
  | append_singleton ms m ih =>
      rw [List.foldl_append]
      exact setAll_keeps (J := fun q : Properties => q.deviceAlias = p.deviceAlias) hset ih m.toList

end Device1

section DisplayDevice

open UPowerDisplayDevice

def displayTable : KeyTable Properties Variant where
  Key := Key
  name := Key.name
  keyOf := keyOf
  Value k := k.valueType.Value
  get k := k.valueType.get
  read k p := p k
  write k p v := Function.update p k v
  keyOf_name := keyOf_name
  name_of_keyOf _ _ := name_of_keyOf
  read_write k p v := Function.update_self k v p
  read_write_of_ne _ _ p v h := Function.update_of_ne h v p

theorem setProperty_eq_set : setProperty = displayTable.set := by
  funext p key value
  rw [setProperty, KeyTable.set, show displayTable.keyOf key = keyOf key from rfl]
  cases keyOf key with
  | none => rfl
  | some k => rfl

def displayDeviceAfter (p : Properties) (ms : List PropertyMap) : Properties :=
  ms.foldl (fun p m => (onPropertiesChanged p m).1) p

theorem apply_displayDeviceAfter (p : Properties) (ms : List PropertyMap) (k : Key) :
    displayDeviceAfter p ms k =
      latest (reached displayTable.IllTyped k.name k.valueType.get) (p k) ms := by
  have : DecidableEq displayTable.Key := inferInstanceAs (DecidableEq Key)
  rw [displayDeviceAfter]
  simp only [onPropertiesChanged, setProperty_eq_set]
  exact KeyTable.foldl_setAll (T := displayTable) k p ms

end DisplayDevice

/-- After a sequence of maps each member has the last value for its key that is
well typed and does not come after an ill-typed value in its own map. -/
theorem properties_afterChanges :
    (∀ (p : BluezDevice.Properties) (ms : List PropertyMap),
      (∀ k : DeviceKeys.Key, k.read (deviceAfter p ms) =
        latest (reached DeviceKeys.table.IllTyped k.keyName k.get) (k.read p) ms) ∧
      (deviceAfter p ms).deviceAlias = p.deviceAlias) ∧
    ∀ (p : UPowerDisplayDevice.Properties) (ms : List PropertyMap)
      (k : UPowerDisplayDevice.Key), displayDeviceAfter p ms k =
        latest (reached displayTable.IllTyped k.name k.valueType.get)
          (p k) ms :=
  ⟨fun p ms => ⟨read_deviceAfter p ms, deviceAlias_deviceAfter p ms⟩, apply_displayDeviceAfter⟩

def mistyped : PropertyMap :=
  .ofList [("Connected", Variant.plain (.s "yes")), ("Trusted", Variant.plain (.b true))]

/-- Connected comes before Trusted, and a value of a wrong type for it keeps
Trusted from being set. -/
theorem properties_not_independent :
    ¬ ((∀ (p : BluezDevice.Properties) (ms : List PropertyMap) (k : DeviceKeys.Key),
        k.read (deviceAfter p ms) = latest (fun m => (m[k.keyName]?).bind k.get) (k.read p) ms) ∧
      ∀ (p : UPowerDisplayDevice.Properties) (ms : List PropertyMap)
        (k : UPowerDisplayDevice.Key), displayDeviceAfter p ms k =
          latest (fun m => (m[k.name]?).bind k.valueType.get)
            (p k) ms) := by
  intro h
  have htrusted := h.1 .empty [mistyped] .trusted
  have hcode : (deviceAfter .empty [mistyped]).trusted = false := by decide +kernel
  have hlast : (mistyped["Trusted"]?).bind Variant.getBool = some true := by
    decide +kernel
  exact absurd (hcode.symm.trans (htrusted.trans (congrArg (fun v => v.getD false) hlast)))
    Bool.false_ne_true

end SdbusExamples.PropertyRuns
