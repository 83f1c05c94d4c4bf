import SdbusExamples.ClientStores

namespace SdbusExamples.DiscoveryFailure

open BluezClient ClientStores KeyedUpdates PathMaps StoppingLoops Variants

def handleAll : Client → List Change → Client × Bool := goThrough apply

def snapshotChanges (startDiscovery : String → Bool) (objects : List (String × Interfaces)) :
    List Change :=
  objects.flatMap fun e => changes (.interfacesAdded startDiscovery e.1 e.2)

/-- The constructor of Adapter1 gets to the call of StartDiscovery. -/
def CallsStartDiscovery (properties : List (String × Variant)) : Prop :=
  ∃ pre value post, properties = pre ++ ("Discovering", value) :: post ∧
    (setProperties (Adapter1.setProperty false) .empty pre).isSome = true ∧
      value.getBool = some false

def Affected (c : Client) (chs : List Change) (q : String) (properties : PropertyMap) : Prop :=
  ∃ pre post, chs = pre ++ .added false q "org.bluez.Adapter1" properties :: post ∧
    (handleAll c pre).2 = true ∧ ¬ q ∈ (handleAll c pre).1.stores .adapters ∧
      ¬ Full (handleAll c pre).1 .adapters ∧ CallsStartDiscovery properties.toList

/-- What a client holds under a path; there may be no client. -/
def entry (r : Option Client) (k : Store) (q : String) : Option k.Proxy :=
  r.bind fun c => (c.stores k)[q]?

def manager (r : Option Client) (m : Manager) : Option (String × m.Proxy) :=
  r.bind fun c => c.managers m

/-- `r` is as `r'`, the result when all calls succeed, apart from the affected
adapters, and these have all their properties. -/
structure Contained (affected : String → PropertyMap → Prop) (r r' : Option Client) : Prop where
  stores : ∀ k q, (k = .adapters → ∀ properties, ¬ affected q properties) → entry r k q = entry r' k q
  managers : ∀ m, manager r m = manager r' m
  cached : ∀ q properties, affected q properties →
    ∃ p, Adapter1 true properties = some p ∧ entry r .adapters q = some p

def succeeding : Change → Change
  | .added _ q interface properties => .added true q interface properties
  | .removed q interface => .removed q interface

theorem addObjects_eq (c : Client) (startDiscovery : String → Bool)
    (objects : List (String × Interfaces)) :
    c.addObjects startDiscovery objects =
      goThrough (fun c e => c.onInterfacesAdded startDiscovery e.1 e.2) c objects := by
  induction objects generalizing c with
  | nil => rfl
  | cons e rest ih =>
      rw [Client.addObjects, goThrough]
      rcases c.onInterfacesAdded startDiscovery e.1 e.2 with ⟨d, _ | _⟩
      · rfl
      · exact ih d

theorem handleAll_snapshot (c : Client) (startDiscovery : String → Bool)
    (objects : List (String × Interfaces)) :
    handleAll c (snapshotChanges startDiscovery objects) = c.addObjects startDiscovery objects := by
  have hround : (fun (c : Client) (e : String × Interfaces) =>
      goThrough apply c (changes (.interfacesAdded startDiscovery e.1 e.2))) =
        fun c e => c.onInterfacesAdded startDiscovery e.1 e.2 := by
    funext c e
    exact (addInterfaces_eq ..).symm
  rw [handleAll, snapshotChanges, goThrough_flatMap, hround, addObjects_eq]

theorem changes_succeeding (startDiscovery : String → Bool) (objectPath : String)
    (interfacesAndProperties : Interfaces) :
    (changes (.interfacesAdded startDiscovery objectPath interfacesAndProperties)).map succeeding =
      changes (.interfacesAdded (fun _ => true) objectPath interfacesAndProperties) := by
  simp [changes, additions, succeeding]

theorem snapshotChanges_succeeding (startDiscovery : String → Bool)
    (objects : List (String × Interfaces)) :
    (snapshotChanges startDiscovery objects).map succeeding =
      snapshotChanges (fun _ => true) objects := by
  simp only [snapshotChanges, List.map_flatMap, changes_succeeding]

theorem setProperties_eq {p : Adapter1.Properties} {entries : List (String × Variant)}
    (h : ¬ ∃ pre value post, entries = pre ++ ("Discovering", value) :: post ∧
      (setProperties (Adapter1.setProperty false) p pre).isSome = true ∧
        value.getBool = some false) :
    setProperties (Adapter1.setProperty false) p entries =
      setProperties (Adapter1.setProperty true) p entries := by
  induction entries generalizing p with
  | nil => rfl
  | cons e rest ih =>
      obtain ⟨key, value⟩ := e
      have hfirst : Adapter1.setProperty false p key value = Adapter1.setProperty true p key value := by
        apply Adapter1.setProperty_eq
        rintro rfl hv
        exact h ⟨[], value, rest, rfl, rfl, hv⟩
      simp only [setProperties_cons, hfirst]
      cases hset : Adapter1.setProperty true p key value with
      | none => rfl
      | some p' =>
          apply ih
          rintro ⟨pre, v, post, rfl, hpre, hv⟩
          refine h ⟨(key, value) :: pre, v, post, rfl, ?_, hv⟩
          rw [setProperties_cons, hfirst, hset]
          exact hpre

theorem Adapter1_of_not_calls {properties : PropertyMap}
    (h : ¬ CallsStartDiscovery properties.toList) (startDiscovery : Bool) :
    Adapter1 startDiscovery properties = Adapter1 true properties := by
  cases startDiscovery with
  | true => rfl
  | false => exact setProperties_eq h

theorem Adapter1_of_calls {properties : PropertyMap}
    (h : CallsStartDiscovery properties.toList) : Adapter1 false properties = none := by
  obtain ⟨pre, value, post, hsplit, hpre, hv⟩ := h
  obtain ⟨p, hp⟩ := Option.isSome_iff_exists.1 hpre
  rw [setProperties_eq_foldlM] at hp
  have hcall : Adapter1.setProperty false p "Discovering" value = none := by
    simp [Adapter1.setProperty, hv]
  rw [Adapter1, setProperties_eq_foldlM, hsplit, List.foldlM_append, hp]
  simp [hcall]

theorem construct_of_ne {k : Store} (h : k ≠ .adapters) (startDiscovery : Bool)
    (properties : PropertyMap) :
    k.construct startDiscovery properties = k.construct true properties := by
  cases k with
  | adapters => exact absurd rfl h
  | devices | gattServices | gattCharacteristics | gattDescriptors | battery1 | input1 => rfl

theorem emplace_congr {c : Client} {startDiscovery : Bool} {k : Store} {properties : PropertyMap}
    (h : k.construct startDiscovery properties = k.construct true properties) (objectPath : String) :
    c.emplace startDiscovery k objectPath properties = c.emplace true k objectPath properties := by
  rw [Client.emplace, Client.emplace, h]

theorem addToStore_of_ne {k : Store} (h : k ≠ .adapters) (c : Client) (startDiscovery : Bool)
    (objectPath : String) (properties : PropertyMap) :
    c.addToStore startDiscovery k objectPath properties =
      c.addToStore true k objectPath properties := by
  have he := @emplace_congr c startDiscovery k properties (construct_of_ne h startDiscovery properties)
  cases k with
  | adapters => exact absurd rfl h
  | gattCharacteristics | gattDescriptors =>
      simp only [Client.addToStore, Client.addOrReplace, he]
  | devices | gattServices | battery1 | input1 =>
      simp only [Client.addToStore, Client.addAbsent, he]

theorem addAdapter_eq {c : Client} {q : String} {properties : PropertyMap}
    (h : q ∉ c.stores .adapters → ¬ Full c .adapters → ¬ CallsStartDiscovery properties.toList)
    (startDiscovery : Bool) :
    c.addToStore startDiscovery .adapters q properties = c.addToStore true .adapters q properties := by
  show c.addAbsent startDiscovery .adapters q properties = c.addAbsent true .adapters q properties
  by_cases hmem : q ∈ c.stores .adapters
  · rw [Client.addAbsent, Client.addAbsent, if_pos hmem, if_pos hmem]
  · by_cases hfull : Full c .adapters
    · rw [addAbsent_of_full hfull, addAbsent_of_full hfull]
    · rw [addAbsent_of_room hmem hfull, addAbsent_of_room hmem hfull]
      have hconstruct : Store.construct startDiscovery properties .adapters =
        Store.construct true properties .adapters :=
          Adapter1_of_not_calls (h hmem hfull) startDiscovery
      exact emplace_congr hconstruct q

theorem apply_succeeding {c : Client} {ch : Change}
    (h : ∀ q properties, ch = .added false q "org.bluez.Adapter1" properties →
      q ∉ c.stores .adapters → ¬ Full c .adapters → ¬ CallsStartDiscovery properties.toList) :
    apply c (succeeding ch) = apply c ch := by
  cases ch with
  | removed q interface => rfl
  | added startDiscovery q interface properties =>
      cases startDiscovery with
      | true => rfl
      | false =>
          rw [succeeding, apply, apply]
          cases hmember : member interface with
          | store k =>
              obtain rfl := (member_eq_store_iff interface k).1 hmember
              rw [addInterface_store, addInterface_store]
              by_cases hk : k = .adapters
              · subst hk
                exact (addAdapter_eq (h q properties rfl) false).symm
              · exact (addToStore_of_ne hk c false q properties).symm
          | manager m =>
              obtain rfl := (member_eq_manager_iff interface m).1 hmember
              rw [addInterface_manager, addInterface_manager]
          | none => rw [Client.addInterface, Client.addInterface, hmember]

theorem Affected.cons {c : Client} {ch : Change} {chs : List Change} {q : String}
    {properties : PropertyMap} (h : Affected (apply c ch).1 chs q properties)
    (hreturns : (apply c ch).2 = true) : Affected c (ch :: chs) q properties := by
  obtain ⟨pre, post, rfl, hrest⟩ := h
  have hstep : handleAll c (ch :: pre) = handleAll (apply c ch).1 pre := by
    have hresult : apply c ch = ((apply c ch).1, true) := Prod.ext rfl hreturns
    exact goThrough_cons_of_succeeds apply hresult pre
  refine ⟨ch :: pre, post, rfl, ?_⟩
  rw [hstep]
  exact hrest

theorem handleAll_succeeding {c : Client} {chs : List Change}
    (h : ∀ q properties, ¬ Affected c chs q properties) :
    handleAll c (chs.map succeeding) = handleAll c chs := by
  induction chs generalizing c with
  | nil => rfl
  | cons ch chs ih =>
      have hfirst : apply c (succeeding ch) = apply c ch := by
        apply apply_succeeding
        rintro q properties rfl hmem hfull hcalls
        exact h q properties ⟨[], chs, rfl, rfl, hmem, hfull, hcalls⟩
      have hrest : (apply c ch).2 = true →
          handleAll (apply c ch).1 (chs.map succeeding) = handleAll (apply c ch).1 chs :=
        fun hreturns => ih fun q properties ha => h q properties (ha.cons hreturns)
      rw [List.map_cons, handleAll, goThrough, goThrough, hfirst]
      generalize apply c ch = r at hrest ⊢
      obtain ⟨d, b⟩ := r
      cases b with
      | true => exact hrest rfl
      | false => rfl

theorem handleAll_of_affected {c : Client} {chs : List Change} {q : String}
    {properties : PropertyMap} (h : Affected c chs q properties) :
    (handleAll c chs).2 = false ∧ q ∉ (handleAll c chs).1.stores .adapters := by
  obtain ⟨pre, post, rfl, hreturns, hmem, hfull, hcalls⟩ := h
  rw [handleAll] at hreturns hmem hfull ⊢
  rw [goThrough_append]
  generalize goThrough apply c pre = r at hreturns hmem hfull ⊢
  obtain ⟨d, b⟩ := r
  cases hreturns
  have hstep : apply d (.added false q "org.bluez.Adapter1" properties) = (d, false) := by
    have hconstruct : Store.construct false properties .adapters = none := Adapter1_of_calls hcalls
    show d.addInterface false q Store.adapters.interfaceName properties = (d, false)
    rw [addInterface_store]
    show d.addAbsent false .adapters q properties = (d, false)
    rw [addAbsent_of_room hmem hfull, Client.emplace, hconstruct]
  dsimp only
  rw [goThrough_cons_of_fails apply hstep]
  exact ⟨rfl, hmem⟩

theorem contained_of_eq {affected : String → PropertyMap → Prop} {r r' : Option Client}
    (h : ∀ q properties, ¬ affected q properties) (he : r = r') : Contained affected r r' :=
  ⟨fun k q _ => by rw [he], fun m => by rw [he], fun q properties ha => absurd ha (h q properties)⟩

theorem message_contained_iff (c : Client) (startDiscovery : String → Bool) (objectPath : String)
    (interfacesAndProperties : Interfaces) :
    Contained (Affected c (changes (.interfacesAdded startDiscovery objectPath interfacesAndProperties)))
        (some (c.onInterfacesAdded startDiscovery objectPath interfacesAndProperties).1)
        (some (c.onInterfacesAdded (fun _ => true) objectPath interfacesAndProperties).1) ↔
      ∀ q properties, ¬ Affected c
        (changes (.interfacesAdded startDiscovery objectPath interfacesAndProperties)) q properties := by
  have hhandle : ∀ out, c.onInterfacesAdded out objectPath interfacesAndProperties =
      handleAll c (changes (.interfacesAdded out objectPath interfacesAndProperties)) :=
    fun out => addInterfaces_eq ..
  constructor
  · intro h q properties ha
    obtain ⟨p, -, hp⟩ := h.cached q properties ha
    have hmem := (handleAll_of_affected ha).2
    rw [← hhandle] at hmem
    exact hmem ((mem_iff_getElem? q).2 ⟨p, hp⟩)
  · intro h
    refine contained_of_eq h ?_
    rw [hhandle, hhandle, ← changes_succeeding startDiscovery, handleAll_succeeding h]

theorem snapshot_contained_iff (startDiscovery : String → Bool)
    (objects : Std.ExtTreeMap String Interfaces) :
    Contained (Affected .empty (snapshotChanges startDiscovery objects.toList))
        (construct startDiscovery objects) (construct (fun _ => true) objects) ↔
      ∀ q properties,
        ¬ Affected .empty (snapshotChanges startDiscovery objects.toList) q properties := by
  constructor
  · intro h q properties ha
    obtain ⟨p, -, hp⟩ := h.cached q properties ha
    have hfails := (handleAll_of_affected ha).1
    rw [handleAll_snapshot] at hfails
    have hnone : construct startDiscovery objects = none := by
      rw [construct]
      generalize Client.empty.addObjects startDiscovery objects.toList = r at hfails ⊢
      obtain ⟨d, b⟩ := r
      cases hfails
      rfl
    rw [hnone] at hp
    cases hp
  · intro h
    refine contained_of_eq h ?_
    have hscan : Client.empty.addObjects startDiscovery objects.toList =
        Client.empty.addObjects (fun _ => true) objects.toList := by
      rw [← handleAll_snapshot, ← handleAll_snapshot, ← snapshotChanges_succeeding startDiscovery,
        handleAll_succeeding h]
    rw [construct, construct, hscan]

/-- A failing StartDiscovery is contained in no message and in no snapshot. -/
theorem discovery_failure_contained_iff (startDiscovery : String → Bool) :
    (∀ (c : Client) (objectPath : String) (interfacesAndProperties : Interfaces),
      Contained (Affected c (changes (.interfacesAdded startDiscovery objectPath interfacesAndProperties)))
          (some (c.onInterfacesAdded startDiscovery objectPath interfacesAndProperties).1)
          (some (c.onInterfacesAdded (fun _ => true) objectPath interfacesAndProperties).1) ↔
        ∀ q properties, ¬ Affected c
          (changes (.interfacesAdded startDiscovery objectPath interfacesAndProperties)) q properties) ∧
    ∀ objects : Std.ExtTreeMap String Interfaces,
      Contained (Affected .empty (snapshotChanges startDiscovery objects.toList))
          (construct startDiscovery objects) (construct (fun _ => true) objects) ↔
        ∀ q properties,
          ¬ Affected .empty (snapshotChanges startDiscovery objects.toList) q properties :=
  ⟨fun c => message_contained_iff c startDiscovery, snapshot_contained_iff startDiscovery⟩

def poweredOff : PropertyMap :=
  .ofList [("Discovering", Variant.plain (.b false)), ("Powered", Variant.plain (.b false))]

def twoAdapters : Std.ExtTreeMap String Interfaces :=
  .ofList [("/org/bluez/hci0", (.ofList [("org.bluez.Adapter1", poweredOff)] : Interfaces)),
    ("/org/bluez/hci1", hci0)]

/-- The adapter that is powered off cannot discover, and there is no client at all. -/
theorem snapshot_lost_with_adapter :
    ¬ ∀ (startDiscovery : String → Bool) (objects : Std.ExtTreeMap String Interfaces),
      Contained (Affected .empty (snapshotChanges startDiscovery objects.toList))
        (construct startDiscovery objects) (construct (fun _ => true) objects) := by
  intro h
  have haffected : Affected .empty
      (snapshotChanges (fun q => q ≠ "/org/bluez/hci0") twoAdapters.toList) "/org/bluez/hci0"
      poweredOff :=
    ⟨[], [.added true "/org/bluez/hci1" "org.bluez.Adapter1" discovering], rfl, rfl,
      by decide, by decide, [], .plain (.b false), [("Powered", .plain (.b false))], rfl, rfl,
      rfl⟩
  obtain ⟨p, -, hp⟩ := (h _ twoAdapters).cached _ _ haffected
  cases hp

end SdbusExamples.DiscoveryFailure
