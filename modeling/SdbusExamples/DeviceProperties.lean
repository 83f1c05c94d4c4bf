import SdbusExamples.BluezDevice
import SdbusExamples.KeyedUpdates

namespace SdbusExamples.DeviceProperties

open BluezDevice KeyedUpdates PathMaps Variants

def WellTyped (properties : PropertyMap) : Prop :=
  ∀ e ∈ properties.toList, (setProperty .empty e.1 e.2).isSome = true

instance (properties : PropertyMap) : Decidable (WellTyped properties) :=
  inferInstanceAs (Decidable (∀ e ∈ properties.toList, (setProperty .empty e.1 e.2).isSome = true))

theorem isSome_setProperty (p q : Properties) (key : String) (value : Variant) :
    (setProperty p key value).isSome = (setProperty q key value).isSome := by
  unfold setProperty
  split <;> simp

/-- A field of the cache, with the one key of the property map that feeds it. -/
structure CachedField (β : Type) where
  key : String
  get : Variant → Option β
  read : Properties → β
  fed : ∀ p k value p', setProperty p k value = some p' →
    read p' = if k = key then (get value).getD (read p) else read p
  typed : ∀ p value, (setProperty p key value).isSome = true → (get value).isSome = true

theorem setProperty_frame {p p' : Properties} {key : String} {value : Variant}
    (h : setProperty p key value = some p') :
    (key ≠ "Connected" → p'.connected = p.connected) ∧ (key ≠ "Paired" → p'.paired = p.paired) ∧
      (key ≠ "Trusted" → p'.trusted = p.trusted) ∧ (key ≠ "Address" → p'.address = p.address) := by
  unfold setProperty at h
  split at h <;> first
    | (obtain ⟨v, -, rfl⟩ := Option.map_eq_some_iff.1 h; simp)
    | (obtain rfl := Option.some.inj h; simp)

def CachedField.ofKey {β : Type} (key : String) (get : Variant → Option β) (read : Properties → β)
    (set : Properties → β → Properties)
    (hset : ∀ p value, setProperty p key value = (get value).map (set p))
    (hread : ∀ p v, read (set p v) = v)
    (hframe : ∀ p k value p', setProperty p k value = some p' → k ≠ key → read p' = read p) :
    CachedField β where
  key := key
  get := get
  read := read
  fed := by
    intro p k value p' h
    split_ifs with hk
    · subst hk
      rw [hset] at h
      obtain ⟨v, hv, rfl⟩ := Option.map_eq_some_iff.1 h
      rw [hread, hv, Option.getD_some]
    · exact hframe p k value p' h hk
  typed := by
    intro p value h
    rw [hset, Option.isSome_map] at h
    exact h

def connectedField : CachedField Bool :=
  .ofKey "Connected" Variant.getBool Properties.connected (fun p v => { p with connected := v })
    (fun _ _ => rfl) (fun _ _ => rfl) (fun _ _ _ _ h => (setProperty_frame h).1)

def pairedField : CachedField Bool :=
  .ofKey "Paired" Variant.getBool Properties.paired (fun p v => { p with paired := v })
    (fun _ _ => rfl) (fun _ _ => rfl) (fun _ _ _ _ h => (setProperty_frame h).2.1)

def trustedField : CachedField Bool :=
  .ofKey "Trusted" Variant.getBool Properties.trusted (fun p v => { p with trusted := v })
    (fun _ _ => rfl) (fun _ _ => rfl) (fun _ _ _ _ h => (setProperty_frame h).2.2.1)

def addressField : CachedField String :=
  .ofKey "Address" Variant.getString Properties.address (fun p v => { p with address := v })
    (fun _ _ => rfl) (fun _ _ => rfl) (fun _ _ _ _ h => (setProperty_frame h).2.2.2)

variable {β : Type} (f : CachedField β)

theorem CachedField.feeds : Feeds setProperty f.key f.get f.read := f.fed

theorem WellTyped.set {properties : PropertyMap} (h : WellTyped properties) :
    ∀ e ∈ properties.toList, ∀ q, (setProperty q e.1 e.2).isSome = true := by
  intro e he q
  rw [isSome_setProperty q .empty]
  exact h e he

theorem wellTyped_iff (properties : PropertyMap) :
    WellTyped properties ↔ ∀ (key : String) (value : Variant), properties[key]? = some value →
      (setProperty .empty key value).isSome = true := by
  simp only [WellTyped, Prod.forall, mem_toList_path]

theorem WellTyped.union {properties changed : PropertyMap} (h : WellTyped properties)
    (hc : WellTyped changed) : WellTyped (properties ∪ changed) := by
  rw [wellTyped_iff] at h hc ⊢
  intro key value hv
  rw [Std.ExtTreeMap.getElem?_union] at hv
  cases hk : changed[key]? with
  | none =>
      rw [hk] at hv
      exact h key value hv
  | some v =>
      rw [hk, Option.some_or] at hv
      exact hc key value (hv ▸ hk)

theorem CachedField.read_onPropertiesChanged (p : Properties) {changed : PropertyMap}
    (h : WellTyped changed) :
    f.read (onPropertiesChanged p changed).1 = ((changed[f.key]?).bind f.get).getD (f.read p) := by
  rw [onPropertiesChanged]
  exact f.feeds.setAll_toList p h.set

theorem CachedField.read_onPropertiesChanged_of_not_mem (p : Properties) {changed : PropertyMap}
    (h : f.key ∉ changed) : f.read (onPropertiesChanged p changed).1 = f.read p := by
  rw [onPropertiesChanged]
  exact f.feeds.setAll_toList_of_not_mem p h

theorem Device1_of_typed {properties : PropertyMap} (h : WellTyped properties) :
    Device1 properties = some (onPropertiesChanged .empty properties).1 :=
  setProperties_of_returns _ _ (setAll_returns _ h.set)

def CachedField.value (properties : PropertyMap) : β :=
  ((properties[f.key]?).bind f.get).getD (f.read .empty)

theorem CachedField.get_of_typed {properties : PropertyMap} (h : WellTyped properties) {value : Variant}
    (hv : properties[f.key]? = some value) : ∃ v, f.get value = some v :=
  Option.isSome_iff_exists.1 (f.typed _ _ (h _ ((mem_toList_path _ _ _).2 hv)))

theorem CachedField.value_union (properties : PropertyMap) {changed : PropertyMap}
    (h : WellTyped changed) :
    f.value (properties ∪ changed) =
      ((changed[f.key]?).bind f.get).getD (f.value properties) := by
  rw [CachedField.value, Std.ExtTreeMap.getElem?_union]
  cases hv : changed[f.key]? with
  | none => rfl
  | some value =>
      obtain ⟨v, hget⟩ := f.get_of_typed h hv
      simp [hget]

end SdbusExamples.DeviceProperties
