import SdbusExamples.BluezClient
import SdbusExamples.KnownKeys

namespace SdbusExamples.GattProperties

open BluezClient KeyedUpdates KnownKeys Variants

/-- One member for itself: its default if the map does not have it, and an error
if the value has another type. -/
def lookUp {β : Type} (properties : PropertyMap) (key : String) (get : Variant → Option β)
    (default : β) : Option β :=
  match properties[key]? with
  | none => some default
  | some value => get value

def serviceLookedUp (properties : PropertyMap) : Option GattService1.Properties := do
  let device ← lookUp properties "Device" Variant.getObjectPath ""
  let includes ← lookUp properties "Includes" Variant.getObjectPaths []
  let primary ← lookUp properties "Primary" Variant.getBool false
  let uuid ← lookUp properties "UUID" Variant.getString ""
  return ⟨device, includes, primary, uuid⟩

/-- The two members about notifications are looked up if the flags have notify. -/
def characteristicLookedUp (properties : PropertyMap) :
    Option GattCharacteristic1.Properties := do
  let flags ← lookUp properties "Flags" Variant.getStrings []
  let whenNotify (key : String) : Option Bool :=
    if flags.contains "notify" then lookUp properties key Variant.getBool false else some false
  let notifyAcquired ← whenNotify "NotifyAcquired"
  let notifying ← whenNotify "Notifying"
  let service ← lookUp properties "Service" Variant.getObjectPath ""
  let uuid ← lookUp properties "UUID" Variant.getString ""
  let value ← lookUp properties "Value" Variant.getBytes []
  return ⟨flags, notifyAcquired, notifying, service, uuid, value⟩

def descriptorLookedUp (properties : PropertyMap) : Option GattDescriptor1.Properties := do
  let characteristic ← lookUp properties "Characteristic" Variant.getObjectPath ""
  let uuid ← lookUp properties "UUID" Variant.getString ""
  let value ← lookUp properties "Value" Variant.getBytes []
  return ⟨characteristic, uuid, value⟩

theorem setProperties_toList {P : Type} {set : P → String → Variant → Option P} (keys : List String)
    (hkeys : keys.Pairwise Below) (hset : ∀ p key value, key ∉ keys → set p key value = some p)
    (p : P) (properties : PropertyMap) :
    setProperties set p properties.toList =
      keys.foldlM (visit (fun p e => set p e.1 e.2) properties) p :=
  (setProperties_eq_foldlM ..).trans
    (foldlM_toList hkeys (fun p e he => hset p e.1 e.2 he) properties p)

theorem foldlM_visit_cons {P β : Type} {set : P → String → Variant → Option P} {key : String}
    {get : Variant → Option β} {default : β} (write : β → P) {p : P} {properties : PropertyMap}
    {keys : List String} {rest : β → Option P}
    (hset : ∀ value, set p key value = (get value).map write) (hwrite : write default = p)
    (hrest : ∀ v, keys.foldlM (visit (fun p e => set p e.1 e.2) properties) (write v) = rest v) :
    (key :: keys).foldlM (visit (fun p e => set p e.1 e.2) properties) p =
      lookUp properties key get default >>= rest := by
  rw [List.foldlM_cons, visit, lookUp, ← funext hrest]
  cases properties[key]? with
  | none =>
      rw [← hwrite]
      rfl
  | some value =>
      simp only [hset]
      cases get value <;> rfl

theorem service_eq (properties : PropertyMap) :
    GattService1 properties = serviceLookedUp properties := by
  rw [GattService1, setProperties_toList ["Device", "Includes", "Primary", "UUID"] (by decide)]
  · rw [serviceLookedUp]
    refine foldlM_visit_cons (fun device => ⟨device, [], false, ""⟩) (fun _ => rfl) rfl
      fun device => ?_
    refine foldlM_visit_cons (fun includes => ⟨device, includes, false, ""⟩) (fun _ => rfl) rfl
      fun includes => ?_
    refine foldlM_visit_cons (fun primary => ⟨device, includes, primary, ""⟩) (fun _ => rfl) rfl
      fun primary => ?_
    exact foldlM_visit_cons (fun uuid => ⟨device, includes, primary, uuid⟩) (fun _ => rfl) rfl
      fun uuid => rfl
  · intro p key value hkey
    unfold GattService1.setProperty
    split <;> simp at hkey ⊢

theorem foldlM_visit_skip {P : Type} {set : P → String → Variant → Option P} {key : String} {p : P}
    {properties : PropertyMap} {keys : List String} {q : Option P}
    (hset : ∀ value, set p key value = some p)
    (hrest : keys.foldlM (visit (fun p e => set p e.1 e.2) properties) p = q) :
    (key :: keys).foldlM (visit (fun p e => set p e.1 e.2) properties) p = q := by
  rw [List.foldlM_cons, visit, ← hrest]
  cases properties[key]? with
  | none => rfl
  | some value =>
      simp only [hset]
      rfl

theorem characteristic_eq (properties : PropertyMap) :
    GattCharacteristic1 properties = characteristicLookedUp properties := by
  rw [GattCharacteristic1, setProperties_toList
    ["Flags", "NotifyAcquired", "Notifying", "Service", "UUID", "Value"] (by decide)]
  · rw [characteristicLookedUp]
    refine foldlM_visit_cons (fun flags => ⟨flags, false, false, "", "", []⟩) (fun _ => rfl) rfl
      fun flags => ?_
    have hrest (acquired notifying : Bool) :
        ["Service", "UUID", "Value"].foldlM
            (visit (fun p e => GattCharacteristic1.setProperty p e.1 e.2) properties)
            ⟨flags, acquired, notifying, "", "", []⟩ = (do
          let service ← lookUp properties "Service" Variant.getObjectPath ""
          let uuid ← lookUp properties "UUID" Variant.getString ""
          let value ← lookUp properties "Value" Variant.getBytes []
          return ⟨flags, acquired, notifying, service, uuid, value⟩) := by
      refine foldlM_visit_cons (fun service => ⟨flags, acquired, notifying, service, "", []⟩)
        (fun _ => rfl) rfl fun service => ?_
      refine foldlM_visit_cons (fun uuid => ⟨flags, acquired, notifying, service, uuid, []⟩)
        (fun _ => rfl) rfl fun uuid => ?_
      exact foldlM_visit_cons
        (fun value => ⟨flags, acquired, notifying, service, uuid, value⟩) (fun _ => rfl) rfl
        fun value => rfl
    by_cases hnotify : flags.contains "notify" = true
    · simp only [hnotify, if_true]
      refine foldlM_visit_cons (fun acquired => ⟨flags, acquired, false, "", "", []⟩)
        (fun _ => by exact if_pos hnotify) rfl fun acquired => ?_
      exact foldlM_visit_cons (fun notifying => ⟨flags, acquired, notifying, "", "", []⟩)
        (fun _ => by exact if_pos hnotify) rfl fun notifying => hrest acquired notifying
    · simp only [hnotify, if_false, Bool.false_eq_true]
      exact foldlM_visit_skip (fun _ => if_neg hnotify)
        (foldlM_visit_skip (fun _ => if_neg hnotify) (hrest false false))
  · intro p key value hkey
    unfold GattCharacteristic1.setProperty
    split <;> simp at hkey ⊢

theorem descriptor_eq (properties : PropertyMap) :
    GattDescriptor1 properties = descriptorLookedUp properties := by
  rw [GattDescriptor1, setProperties_toList ["Characteristic", "UUID", "Value"] (by decide)]
  · rw [descriptorLookedUp]
    refine foldlM_visit_cons (fun characteristic => ⟨characteristic, "", []⟩) (fun _ => rfl) rfl
      fun characteristic => ?_
    refine foldlM_visit_cons (fun uuid => ⟨characteristic, uuid, []⟩) (fun _ => rfl) rfl
      fun uuid => ?_
    exact foldlM_visit_cons (fun value => ⟨characteristic, uuid, value⟩) (fun _ => rfl) rfl
      fun value => rfl
  · intro p key value hkey
    unfold GattDescriptor1.setProperty
    split <;> simp at hkey ⊢

/-- The constructors go through the properties once; they build what looking up
each member builds, and throw when a lookup throws. -/
theorem gatt_passes_look_up (properties : PropertyMap) :
    GattService1 properties = serviceLookedUp properties ∧
      GattCharacteristic1 properties = characteristicLookedUp properties ∧
      GattDescriptor1 properties = descriptorLookedUp properties :=
  ⟨service_eq properties, characteristic_eq properties, descriptor_eq properties⟩

end SdbusExamples.GattProperties
