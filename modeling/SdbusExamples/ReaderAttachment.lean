import SdbusExamples.ControllerSteps

namespace SdbusExamples.ReaderAttachment

open BluezDevice ControllerSteps Controllers Hidraw LoopQueues PathMaps Runs StoppingLoops Variants

/-- A matching device that is connected, paired and trusted, and whose key has a node. -/
def Ready (pad : Pad) (table : Table) (props : Properties) : Prop :=
  (∃ m, props.modalias = some m ∧ pad.Matches m) ∧ props.connected = true ∧
    props.paired = true ∧ props.trusted = true ∧
    findHidDevice table (createDeviceKeyFromSerialNumber props.address) ≠ ""

def Served (pad : Pad) (s : Controller) : Prop :=
  (∃ (path : String) (props : Properties), s.devices[path]? = some props ∧ Ready pad s.table props) →
    s.inputReader.isSome = true

def OpensNodes (table : Table) (opens : String → Bool) : Prop :=
  ∀ key, findHidDevice table key ≠ "" → opens (findHidDevice table key) = true

def Opens (s : Controller) : Event → Prop
  | .interfacesAdded out _ _ => OpensNodes s.table out.opens
  | _ => True

/-- No device becomes ready outside of InterfacesAdded without a reader, and
no reader is retired while a device stays ready. -/
def ReadyWithReader (pad : Pad) (s : Controller) : Event → Prop
  | .propertiesChanged objectPath changed =>
      s.inputReader.isSome = true ∨ ∀ props, s.devices[objectPath]? = some props →
        ¬ Ready pad s.table (onPropertiesChanged props changed).1
  | .udev (some action) _ (some subSystem) bt usb =>
      subSystem = "hidraw" → (s.inputReader.isSome = true ∧ action ≠ "remove") ∨
        ∀ (path : String) (props : Properties), s.devices[path]? = some props →
          ¬ Ready pad (refresh pad bt usb) props
  | _ => True

theorem deviceKey_of_ready {pad : Pad} {table : Table} {props : Properties}
    (h : Ready pad table props) :
    deviceKey pad props = some (createDeviceKeyFromSerialNumber props.address) ∧
      findHidDevice table (createDeviceKeyFromSerialNumber props.address) ≠ "" := by
  obtain ⟨⟨m, hm, hmatch⟩, hconnected, hpaired, htrusted, hnode⟩ := h
  refine ⟨?_, hnode⟩
  simp only [deviceKey, hm]
  exact if_pos ⟨hmatch, hconnected, hpaired, htrusted⟩

structure Narrows (s s' : Controller) : Prop where
  devices : ∀ (q : String) (props : Properties),
    s'.devices[q]? = some props → s.devices[q]? = some props
  table : s'.table = s.table
  inputReader : s'.inputReader = s.inputReader

theorem Served.of_narrows {pad : Pad} {s s' : Controller} (h : Served pad s)
    (hv : Narrows s s') : Served pad s' := by
  rintro ⟨q, props, hq, hready⟩
  rw [hv.table] at hready
  rw [hv.inputReader]
  exact h ⟨q, props, hv.devices q props hq, hready⟩

theorem addUPowerClient_narrows (s : Controller) (throws : Bool) (path : String) :
    Narrows s (s.addUPowerClient throws path).1 := by
  rw [Controller.addUPowerClient]
  split_ifs <;> exact ⟨fun _ _ h => h, rfl, rfl⟩

theorem addAdapter_narrows (s : Controller) (throws : Bool) (path : String) :
    Narrows s (s.addAdapter throws path).1 := by
  rw [Controller.addAdapter]
  split_ifs <;> exact ⟨fun _ _ h => h, rfl, rfl⟩

theorem addInput1_narrows (s : Controller) (throws : Bool) (path : String) :
    Narrows s (s.addInput1 throws path).1 := by
  rw [Controller.addInput1]
  split_ifs <;> exact ⟨fun _ _ h => h, rfl, rfl⟩

theorem removeDevice_narrows (pad : Pad) (s : Controller) (objectPath : String) :
    Narrows s (s.removeDevice pad objectPath) := by
  have herase : ∀ (q : String) (props : Properties),
      (s.devices.erase objectPath)[q]? = some props → s.devices[q]? = some props := by
    intro q props hq
    rw [getElem?_erase_path] at hq
    split_ifs at hq
    exact hq
  rw [Controller.removeDevice]
  cases s.devices[objectPath]? with
  | none => exact ⟨fun _ _ h => h, rfl, rfl⟩
  | some props =>
      cases hpath : powerPath pad props with
      | none => simpa only [hpath] using ⟨herase, rfl, rfl⟩
      | some path => simpa only [hpath] using ⟨herase, rfl, rfl⟩

theorem removeInterface_narrows (pad : Pad) (s : Controller) (objectPath interface : String) :
    Narrows s (s.removeInterface pad objectPath interface) := by
  unfold Controller.removeInterface
  split
  · exact ⟨fun _ _ h => h, rfl, rfl⟩
  · exact removeDevice_narrows pad s objectPath
  · exact ⟨fun _ _ h => h, rfl, rfl⟩
  · exact ⟨fun _ _ h => h, rfl, rfl⟩

theorem attach_spec (s : Controller) {opens : String → Bool} (key : String)
    (hopen : OpensNodes s.table opens) :
    (s.attach opens key).devices = s.devices ∧ (s.attach opens key).table = s.table ∧
      ((s.attach opens key).inputReader.isSome = true ↔
        s.inputReader.isSome = true ∨ findHidDevice s.table key ≠ "") := by
  rw [Controller.attach]
  by_cases hnode : findHidDevice s.table key = ""
  · simp [hnode]
  · by_cases hr : s.inputReader.isSome = true
    · simp [hnode, hr]
    · simp [hnode, hr, hopen key hnode]

theorem table_installDevice (pad : Pad) (s : Controller) (opens : String → Bool)
    (objectPath : String) (props : Properties) :
    (s.installDevice pad opens objectPath props).table = s.table := by
  rw [Controller.installDevice]
  cases deviceKey pad props with
  | none => rfl
  | some key =>
      simp only [Controller.attach]
      split_ifs <;> rfl

theorem table_addInterface (pad : Pad) (s : Controller) (out : Outcomes) (objectPath : String)
    (entry : String × PropertyMap) :
    (s.addInterface pad out objectPath entry).1.table = s.table := by
  unfold Controller.addInterface
  split
  · exact (addAdapter_narrows _ _ _).table
  · rw [Controller.addDevice]
    split_ifs
    · rfl
    · rfl
    · rfl
    · cases Device1 _ with
      | none => rfl
      | some props =>
          have ht := table_installDevice pad s out.opens objectPath props
          cases hpath : powerPath pad props with
          | none => simpa only [hpath] using ht
          | some path => simpa only [hpath] using ((addUPowerClient_narrows _ _ _).table.trans ht)
  · exact (addInput1_narrows _ _ _).table
  · rfl

theorem served_installDevice {pad : Pad} {s : Controller} {opens : String → Bool}
    (hopen : OpensNodes s.table opens) (h : Served pad s) (objectPath : String)
    (props : Properties) : Served pad (s.installDevice pad opens objectPath props) := by
  rw [Controller.installDevice]
  have hold : ∀ (q : String) (other : Properties), q ≠ objectPath →
      (s.devices.insert objectPath props)[q]? = some other → Ready pad s.table other →
      s.inputReader.isSome = true := by
    intro q other hne hq hready
    rw [getElem?_insert_path, if_neg hne.symm] at hq
    exact h ⟨q, other, hq, hready⟩
  have hnew : (s.devices.insert objectPath props)[objectPath]? = some props := by
    rw [getElem?_insert_path, if_pos rfl]
  cases hkey : deviceKey pad props with
  | none =>
      rintro ⟨q, other, hq, hready⟩
      by_cases hne : q = objectPath
      · subst hne
        obtain rfl : props = other := Option.some.inj (hnew.symm.trans hq)
        rw [(deviceKey_of_ready hready).1] at hkey
        cases hkey
      · exact hold q other hne hq hready
  | some key =>
      obtain ⟨hdevices, htable, hreader⟩ := attach_spec
        { s with devices := s.devices.insert objectPath props } key hopen
      rintro ⟨q, other, hq, hready⟩
      rw [hdevices] at hq
      rw [htable] at hready
      rw [hreader]
      by_cases hne : q = objectPath
      · subst hne
        obtain rfl : props = other := Option.some.inj (hnew.symm.trans hq)
        obtain ⟨hkey', hnode⟩ := deviceKey_of_ready hready
        obtain rfl := Option.some.inj (hkey.symm.trans hkey')
        exact Or.inr hnode
      · exact Or.inl (hold q other hne hq hready)

theorem served_addDevice {pad : Pad} {s : Controller} {out : Outcomes}
    (hopen : OpensNodes s.table out.opens) (h : Served pad s) (objectPath : String)
    (properties : PropertyMap) : Served pad (s.addDevice pad out objectPath properties).1 := by
  rw [Controller.addDevice]
  split_ifs
  · exact h
  · exact h
  · exact h
  · cases Device1 properties with
    | none => exact h
    | some props =>
        have hs := served_installDevice hopen h objectPath props
        cases hpath : powerPath pad props with
        | none => simpa only [hpath] using hs
        | some path =>
            simpa only [hpath] using hs.of_narrows (addUPowerClient_narrows _ _ _)

theorem served_addInterface {pad : Pad} {s : Controller} {out : Outcomes}
    (hopen : OpensNodes s.table out.opens) (h : Served pad s) (objectPath : String)
    (entry : String × PropertyMap) : Served pad (s.addInterface pad out objectPath entry).1 := by
  unfold Controller.addInterface
  split
  · exact h.of_narrows (addAdapter_narrows _ _ _)
  · exact served_addDevice hopen h objectPath _
  · exact h.of_narrows (addInput1_narrows _ _ _)
  · exact h

theorem served_addInterfaces {pad : Pad} {s : Controller} {out : Outcomes}
    (hopen : OpensNodes s.table out.opens) (h : Served pad s) (objectPath : String)
    (entries : List (String × PropertyMap)) :
    Served pad (Controller.addInterfaces pad out objectPath s entries).1 := by
  -- the rounds do not touch the table of the nodes that can be opened
  have hround : ∀ t : Controller, ∀ entry ∈ entries, t.table = s.table ∧ Served pad t →
      (t.addInterface pad out objectPath entry).1.table = s.table ∧
        Served pad (t.addInterface pad out objectPath entry).1 := by
    rintro t entry - ⟨ht, hserved⟩
    rw [← ht] at hopen
    exact ⟨(table_addInterface pad t out objectPath entry).trans ht,
      served_addInterface hopen hserved objectPath entry⟩
  rw [addInterfaces_eq]
  exact (goThrough_keeps (J := fun t => t.table = s.table ∧ Served pad t) hround ⟨rfl, h⟩).2

theorem served_onInterfacesRemoved {pad : Pad} {s : Controller} (h : Served pad s)
    (objectPath : String) (interfaces : List String) :
    Served pad (s.onInterfacesRemoved pad objectPath interfaces) := by
  rw [Controller.onInterfacesRemoved]
  induction interfaces generalizing s with
  | nil => exact h
  | cons interface rest ih => exact ih (h.of_narrows (removeInterface_narrows _ _ _ _))

theorem served_propertiesChanged_iff {pad : Pad} {s : Controller} (h : Served pad s)
    (objectPath : String) (changed : PropertyMap) :
    Served pad (s.devicePropertiesChanged objectPath changed) ↔
      ReadyWithReader pad s (.propertiesChanged objectPath changed) := by
  unfold Controller.devicePropertiesChanged ReadyWithReader
  cases hd : s.devices[objectPath]? with
  | none => exact iff_of_true h (Or.inr fun props hp => by rw [hd] at hp; cases hp)
  | some props =>
      have hnew : (s.devices.insert objectPath (onPropertiesChanged props changed).1)[objectPath]? =
          some (onPropertiesChanged props changed).1 := by
        rw [getElem?_insert_path, if_pos rfl]
      constructor
      · intro hs
        by_cases hready : Ready pad s.table (onPropertiesChanged props changed).1
        · exact Or.inl (hs ⟨objectPath, _, hnew, hready⟩)
        · right
          intro props' hp
          obtain rfl := Option.some.inj (hd.symm.trans hp)
          exact hready
      · rintro hc ⟨q, other, hq, hready⟩
        rcases hc with hr | hr
        · exact hr
        · by_cases hne : objectPath = q
          · subst hne
            obtain rfl := Option.some.inj (hnew.symm.trans hq)
            exact absurd hready (hr props hd)
          · have hq : (s.devices.insert objectPath (onPropertiesChanged props changed).1)[q]? =
                some other := hq
            rw [getElem?_insert_path, if_neg hne] at hq
            exact h ⟨q, other, hq, hready⟩

theorem inputReader_udevCallback (pad : Pad) (s : Controller) (action : String)
    (devNode : Option String) (bt usb : Scan) :
    (s.udevCallback pad action devNode "hidraw" bt usb).inputReader.isSome = true ↔
      s.inputReader.isSome = true ∧ action ≠ "remove" := by
  simp only [Controller.udevCallback, if_true]
  by_cases ha : action = "remove"
  · cases hr : s.inputReader <;> simp [ha, hr, Controller.retireReader]
  · simp [ha]

theorem devices_retireReader (s : Controller) : s.retireReader.devices = s.devices := by
  rw [Controller.retireReader]
  split <;> rfl

theorem devices_udevCallback (pad : Pad) (s : Controller) (action : String)
    (devNode : Option String) (bt usb : Scan) :
    (s.udevCallback pad action devNode "hidraw" bt usb).devices = s.devices := by
  simp only [Controller.udevCallback, if_true]
  split_ifs
  · exact devices_retireReader s
  · rfl

theorem served_udev_iff {pad : Pad} {s : Controller} (h : Served pad s)
    (action devNode subSystem : Option String) (bt usb : Scan) :
    Served pad (s.udevDispatch pad action devNode subSystem bt usb) ↔
      ReadyWithReader pad s (.udev action devNode subSystem bt usb) := by
  cases action with
  | none => exact iff_of_true h trivial
  | some action =>
      cases subSystem with
      | none => exact iff_of_true h trivial
      | some subSystem =>
          by_cases hs : subSystem = "hidraw"
          · subst hs
            have htable : (s.udevCallback pad action devNode "hidraw" bt usb).table =
                refresh pad bt usb := by simp [Controller.udevCallback]
            simp only [Controller.udevDispatch, ReadyWithReader, Served, inputReader_udevCallback,
              devices_udevCallback, htable]
            constructor
            · intro hserved _
              by_cases hex : ∃ (path : String) (props : Properties),
                  s.devices[path]? = some props ∧ Ready pad (refresh pad bt usb) props
              · exact Or.inl (hserved hex)
              · exact Or.inr fun path props hp hready => hex ⟨path, props, hp, hready⟩
            · rintro hc ⟨path, props, hp, hready⟩
              rcases hc trivial with hr | hr
              · exact hr
              · exact absurd hready (hr path props hp)
          · refine iff_of_true ?_ fun hs' => absurd hs' hs
            simpa [Controller.udevDispatch, Controller.udevCallback, hs] using h

theorem served_handle_iff {pad : Pad} {s : Controller} {e : Event} (h : Served pad s)
    (hopen : Opens s e) : Served pad (handle pad s e) ↔ ReadyWithReader pad s e := by
  cases e with
  | interfacesAdded out objectPath interfaces =>
      exact iff_of_true (served_addInterfaces hopen h objectPath _) trivial
  | interfacesRemoved objectPath interfaces =>
      exact iff_of_true (served_onInterfacesRemoved h objectPath interfaces) trivial
  | propertiesChanged objectPath changed => exact served_propertiesChanged_iff h objectPath changed
  | udev action devNode subSystem bt usb => exact served_udev_iff h action devNode subSystem bt usb
  | applyPending | hungUp source =>
      exact iff_of_true (h.of_narrows ⟨fun _ _ hq => hq, rfl, rfl⟩) trivial

/-- In a run in which an InputReader can be constructed on every node of the
table, a ready device has a reader in every state if and only if every step
lets it have one. -/
theorem ready_has_reader_iff (pad : Pad) (loop : EventLoop Nat) (bt usb : Scan)
    (events : List Event) (hopen : (system pad).Along Opens (.start pad loop bt usb) events) :
    (system pad).Always (Served pad) (.start pad loop bt usb) events ↔
      (system pad).Along (ReadyWithReader pad) (.start pad loop bt usb) events := by
  have hstart : Served pad (.start pad loop bt usb) := by
    rintro ⟨q, props, hq, -⟩
    simp [Controller.start] at hq
  exact (system pad).always_iff_along (fun s e h he => served_handle_iff h he) hstart hopen

theorem ready_has_reader_iff_node_first :
    (system .dualSense).Always (Served .dualSense)
        (.start .dualSense (.init 3) dualSenseScan ⟨[], []⟩)
        [.interfacesAdded noThrow "/org/bluez/hci0/dev_A0_FA_9C_00_00_01"
          (.ofList [("org.bluez.Device1", dualSenseDevice)])] ↔
      (system .dualSense).Along (ReadyWithReader .dualSense)
        (.start .dualSense (.init 3) dualSenseScan ⟨[], []⟩)
        [.interfacesAdded noThrow "/org/bluez/hci0/dev_A0_FA_9C_00_00_01"
          (.ofList [("org.bluez.Device1", dualSenseDevice)])] :=
  ready_has_reader_iff .dualSense (.init 3) dualSenseScan ⟨[], []⟩ _ ⟨fun _ _ => rfl, trivial⟩

/-- BlueZ reports the DualSense before its hidraw node comes: the udev event
fills the table, and no reader is constructed. -/
theorem ready_without_reader :
    ¬ ∀ (pad : Pad) (loop : EventLoop Nat) (bt usb : Scan) (events : List Event),
      (system pad).Along Opens (.start pad loop bt usb) events →
      (system pad).Always (Served pad) (.start pad loop bt usb) events := by
  intro h
  have hserved := h .dualSense (.init 3) ⟨[], []⟩ ⟨[], []⟩
    [.interfacesAdded noThrow "/org/bluez/hci0/dev_A0_FA_9C_00_00_01"
        (.ofList [("org.bluez.Device1", dualSenseDevice)]),
      .udev (some "add") (some "/dev/hidraw1") (some "hidraw") dualSenseScan ⟨[], []⟩]
    ⟨fun _ _ => rfl, trivial, trivial⟩ _ List.prefix_rfl
  have hreader := hserved ⟨"/org/bluez/hci0/dev_A0_FA_9C_00_00_01",
    { Properties.empty with
      address := "A0:FA:9C:00:00:01"
      connected := true
      modalias := some ⟨"054C", "0CE6", "0100"⟩
      paired := true
      trusted := true },
    rfl, ⟨_, rfl, by decide⟩, rfl, rfl, rfl, by decide⟩
  revert hreader
  decide

end SdbusExamples.ReaderAttachment
