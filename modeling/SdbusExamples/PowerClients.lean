import SdbusExamples.ControllerSteps

namespace SdbusExamples.PowerClients

open BluezDevice ControllerSteps Controllers Hidraw LoopQueues PathMaps ResourceLimits Runs Variants

def PathOf (pad : Pad) (props : Properties) (path : String) : Prop :=
  (∃ m, props.modalias = some m ∧ pad.Matches m) ∧ convertMacToPath props.address = path

/-- The UPower clients are those of the devices that are present. -/
def Mirror (pad : Pad) (s : Controller) : Prop :=
  ∀ path, path ∈ s.upowerClients ↔
    ∃ (q : String) (props : Properties), s.devices[q]? = some props ∧ PathOf pad props path

def Shared (pad : Pad) (s : Controller) (objectPath path : String) : Prop :=
  ∃ (q : String) (props : Properties),
    q ≠ objectPath ∧ s.devices[q]? = some props ∧ PathOf pad props path

/-- No device is removed while another one has its UPower path, and a change
of properties changes the UPower path of its device only where both the old
and the new one are those of other devices too. -/
def PathsApart (pad : Pad) (s : Controller) : Event → Prop
  | .interfacesRemoved objectPath interfaces =>
      "org.bluez.Device1" ∈ interfaces → ∀ props path, s.devices[objectPath]? = some props →
        PathOf pad props path → ¬ Shared pad s objectPath path
  | .propertiesChanged objectPath changed =>
      ∀ props path, s.devices[objectPath]? = some props →
        ¬ (PathOf pad props path ↔ PathOf pad (onPropertiesChanged props changed).1 path) →
        Shared pad s objectPath path
  | _ => True

def Room (s : Controller) (_ : Event) : Prop := s.upowerClients.length < kMaxUPowerClients

instance (s : Controller) (e : Event) : Decidable (Room s e) :=
  inferInstanceAs (Decidable (s.upowerClients.length < kMaxUPowerClients))

def Constructs : Event → Prop
  | .interfacesAdded out _ _ => out.upowerThrows = false
  | _ => True

theorem powerPath_eq_some_iff {pad : Pad} (hpad : pad.hasUPower = true) (props : Properties)
    (path : String) : powerPath pad props = some path ↔ PathOf pad props path := by
  rw [powerPath, PathOf]
  cases props.modalias with
  | none => simp
  | some m => by_cases hm : pad.Matches m <;> simp [hpad, hm]

theorem present_insert_iff (pad : Pad) (s : Controller) (objectPath : String)
    (props : Properties) (path : String) :
    (∃ (q : String) (other : Properties),
        (s.devices.insert objectPath props)[q]? = some other ∧ PathOf pad other path) ↔
      PathOf pad props path ∨ Shared pad s objectPath path := by
  constructor
  · rintro ⟨q, other, hq, hpath⟩
    rw [getElem?_insert_path] at hq
    split_ifs at hq with hne
    · exact Or.inl (Option.some.inj hq ▸ hpath)
    · exact Or.inr ⟨q, other, Ne.symm hne, hq, hpath⟩
  · rintro (hpath | ⟨q, other, hne, hq, hpath⟩)
    · exact ⟨objectPath, props, by rw [getElem?_insert_path, if_pos rfl], hpath⟩
    · exact ⟨q, other, by rw [getElem?_insert_path, if_neg hne.symm, hq], hpath⟩

theorem present_erase_iff (pad : Pad) (s : Controller) (objectPath path : String) :
    (∃ (q : String) (other : Properties),
        (s.devices.erase objectPath)[q]? = some other ∧ PathOf pad other path) ↔
      Shared pad s objectPath path := by
  constructor
  · rintro ⟨q, other, hq, hpath⟩
    rw [getElem?_erase_path] at hq
    split_ifs at hq with hne
    exact ⟨q, other, Ne.symm hne, hq, hpath⟩
  · rintro ⟨q, other, hne, hq, hpath⟩
    exact ⟨q, other, by rw [getElem?_erase_path, if_neg hne.symm, hq], hpath⟩

theorem present_iff_of_some {pad : Pad} {s : Controller} {objectPath : String}
    {props : Properties} (hd : s.devices[objectPath]? = some props) (path : String) :
    (∃ (q : String) (other : Properties), s.devices[q]? = some other ∧ PathOf pad other path) ↔
      PathOf pad props path ∨ Shared pad s objectPath path := by
  rw [← present_insert_iff]
  have hsame : ∀ q : String, (s.devices.insert objectPath props)[q]? = s.devices[q]? := by
    intro q
    rw [getElem?_insert_path]
    split_ifs with hq
    · exact hq ▸ hd.symm
    · rfl
  simp only [hsame]

theorem present_iff_of_none {pad : Pad} {s : Controller} {objectPath : String}
    (hd : s.devices[objectPath]? = none) (path : String) :
    (∃ (q : String) (other : Properties), s.devices[q]? = some other ∧ PathOf pad other path) ↔
      Shared pad s objectPath path := by
  constructor
  · rintro ⟨q, other, hq, hpath⟩
    refine ⟨q, other, ?_, hq, hpath⟩
    rintro rfl
    rw [hd] at hq
    cases hq
  · rintro ⟨q, other, -, hq, hpath⟩
    exact ⟨q, other, hq, hpath⟩

theorem Mirror.of_same {pad : Pad} {s s' : Controller} (h : Mirror pad s)
    (hs : SameDevices s s') : Mirror pad s' := by
  intro path
  rw [hs.upowerClients, hs.devices]
  exact h path

theorem mem_clientsWith_iff {pad : Pad} (hpad : pad.hasUPower = true) {s : Controller}
    (hroom : s.upowerClients.length < kMaxUPowerClients) (props : Properties) (path : String) :
    path ∈ clientsWith pad s false props ↔ path ∈ s.upowerClients ∨ PathOf pad props path := by
  rw [clientsWith, ← powerPath_eq_some_iff hpad]
  cases hpath : powerPath pad props with
  | none => simp
  | some new =>
      simp only [Controller.addUPowerClient]
      by_cases hmem : new ∈ s.upowerClients
      · rw [if_pos hmem]
        constructor
        · exact Or.inl
        · rintro (h | h)
          · exact h
          · exact Option.some.inj h ▸ hmem
      · simp [hmem, Nat.not_le.2 hroom, eq_comm]

theorem mirror_interfacesAdded {pad : Pad} (hpad : pad.hasUPower = true) {s : Controller}
    (h : Mirror pad s) (hroom : s.upowerClients.length < kMaxUPowerClients) (out : Outcomes)
    (hout : out.upowerThrows = false) (objectPath : String)
    (entries : List (String × PropertyMap)) :
    Mirror pad (Controller.addInterfaces pad out objectPath s entries).1 := by
  rcases addInterfaces_spec pad s out objectPath entries with hs | ⟨properties, props, -, hi⟩
  · exact h.of_same hs
  · intro path
    have hnone : s.devices[objectPath]? = none := by simpa using hi.fresh
    rw [hi.upowerClients, hout, mem_clientsWith_iff hpad hroom, hi.devices, present_insert_iff,
      h path, present_iff_of_none hnone]
    exact or_comm

theorem mirror_removeDevice_iff {pad : Pad} (hpad : pad.hasUPower = true) {s : Controller}
    (h : Mirror pad s) (objectPath : String) :
    Mirror pad (s.removeDevice pad objectPath) ↔
      ∀ props path, s.devices[objectPath]? = some props → PathOf pad props path →
        ¬ Shared pad s objectPath path := by
  have hpresent := present_erase_iff pad s objectPath
  rw [← devices_removeDevice pad s objectPath] at hpresent
  cases hd : s.devices[objectPath]? with
  | none =>
      have hs : s.removeDevice pad objectPath = s := by rw [Controller.removeDevice, hd]
      rw [hs]
      exact iff_of_true h fun props path hp => by cases hp
  | some props =>
      have hold := fun path => (h path).trans (present_iff_of_some hd path)
      have hclients : ∀ path, path ∈ (s.removeDevice pad objectPath).upowerClients ↔
          path ∈ s.upowerClients ∧ ¬ PathOf pad props path := by
        intro path
        rw [Controller.removeDevice, hd, ← powerPath_eq_some_iff hpad]
        cases hpath : powerPath pad props with
        | none => simp only [hpath, reduceCtorEq, not_false_eq_true, and_true]
        | some old =>
            simp only [hpath, List.mem_filter, Option.some.injEq, decide_eq_true_eq]
            rw [ne_comm]
      constructor
      · rintro hm props' path hp hpath hshared
        obtain rfl := Option.some.inj hp
        have hin := (hm path).2 ((hpresent path).2 hshared)
        exact ((hclients path).1 hin).2 hpath
      · intro hapart path
        rw [hclients, hpresent, hold]
        constructor
        · rintro ⟨hpath | hshared, hne⟩
          · exact absurd hpath hne
          · exact hshared
        · intro hshared
          exact ⟨Or.inr hshared, fun hpath => hapart props path rfl hpath hshared⟩

theorem mirror_interfacesRemoved_iff {pad : Pad} (hpad : pad.hasUPower = true) {s : Controller}
    (h : Mirror pad s) (objectPath : String) (interfaces : List String) :
    Mirror pad (s.onInterfacesRemoved pad objectPath interfaces) ↔
      PathsApart pad s (.interfacesRemoved objectPath interfaces) := by
  have hs := onInterfacesRemoved_spec pad s objectPath interfaces
  have hs' : Mirror pad (s.onInterfacesRemoved pad objectPath interfaces) ↔
      Mirror pad
        (if "org.bluez.Device1" ∈ interfaces then s.removeDevice pad objectPath else s) :=
    ⟨fun hm => hm.of_same ⟨hs.devices.symm, hs.upowerClients.symm⟩, fun hm => hm.of_same hs⟩
  rw [hs', PathsApart]
  by_cases hmem : "org.bluez.Device1" ∈ interfaces
  · rw [if_pos hmem, mirror_removeDevice_iff hpad h]
    exact ⟨fun hm _ => hm, fun hm => hm hmem⟩
  · rw [if_neg hmem]
    exact iff_of_true h fun hin => absurd hin hmem

theorem mirror_propertiesChanged_iff {pad : Pad} {s : Controller} (h : Mirror pad s)
    (objectPath : String) (changed : PropertyMap) :
    Mirror pad (s.devicePropertiesChanged objectPath changed) ↔
      PathsApart pad s (.propertiesChanged objectPath changed) := by
  unfold Controller.devicePropertiesChanged PathsApart
  cases hd : s.devices[objectPath]? with
  | none => exact iff_of_true h fun props path hp => by rw [hd] at hp; cases hp
  | some props =>
      have hold := fun path => (h path).trans (present_iff_of_some hd path)
      have hnew := present_insert_iff pad s objectPath (onPropertiesChanged props changed).1
      constructor
      · rintro hm props' path hp hdiff
        obtain rfl := Option.some.inj (hd.symm.trans hp)
        have hiff := ((hold path).symm.trans (hm path)).trans (hnew path)
        by_contra hshared
        exact hdiff (by simpa [hshared] using hiff)
      · intro hapart path
        refine (hold path).trans (Iff.trans ?_ (hnew path).symm)
        by_cases hsame : PathOf pad props path ↔
            PathOf pad (onPropertiesChanged props changed).1 path
        · rw [hsame]
        · have hshared := hapart props path hd hsame
          exact iff_of_true (Or.inr hshared) (Or.inr hshared)

theorem mirror_handle_iff {pad : Pad} (hpad : pad.hasUPower = true) (s : Controller) (e : Event)
    (h : Mirror pad s) (hroom : Room s e) (he : Constructs e) :
    Mirror pad (handle pad s e) ↔ PathsApart pad s e := by
  cases e with
  | interfacesAdded out objectPath interfaces =>
      exact iff_of_true (mirror_interfacesAdded hpad h hroom out he objectPath _) trivial
  | interfacesRemoved objectPath interfaces =>
      exact mirror_interfacesRemoved_iff hpad h objectPath interfaces
  | propertiesChanged objectPath changed => exact mirror_propertiesChanged_iff h objectPath changed
  | udev action devNode subSystem bt usb =>
      exact iff_of_true (h.of_same (udevDispatch_same pad s action devNode subSystem bt usb)) trivial
  | applyPending | hungUp source => exact iff_of_true (h.of_same ⟨rfl, rfl⟩) trivial

/-- In a run that stays below the limit of UPower clients and in which they
can be constructed, the clients mirror the devices in every state if and only
if every step keeps the UPower paths apart. -/
theorem clients_mirror_devices_iff (pad : Pad) (hpad : pad.hasUPower = true)
    (loop : EventLoop Nat) (bt usb : Scan) (events : List Event)
    (hroom : (system pad).Along Room (.start pad loop bt usb) events)
    (hout : ∀ e ∈ events, Constructs e) :
    (system pad).Always (Mirror pad) (.start pad loop bt usb) events ↔
      (system pad).Along (PathsApart pad) (.start pad loop bt usb) events := by
  have hstart : Mirror pad (.start pad loop bt usb) := by
    intro path
    simp [Controller.start]
  exact (system pad).always_iff_along
    (fun s e h he => mirror_handle_iff hpad s e h he.1 he.2) hstart
    (hroom.and _ (((system pad).along_action_iff _ events).2 hout))

theorem clients_mirror_devices_iff_removed :
    (system .dualSense).Always (Mirror .dualSense) (.start .dualSense (.init 3) ⟨[], []⟩ ⟨[], []⟩)
        [.interfacesAdded noThrow "/org/bluez/hci0/dev_A0_FA_9C_00_00_01"
            (.ofList [("org.bluez.Device1", dualSenseDevice)]),
          .interfacesRemoved "/org/bluez/hci0/dev_A0_FA_9C_00_00_01" ["org.bluez.Device1"]] ↔
      (system .dualSense).Along (PathsApart .dualSense)
        (.start .dualSense (.init 3) ⟨[], []⟩ ⟨[], []⟩)
        [.interfacesAdded noThrow "/org/bluez/hci0/dev_A0_FA_9C_00_00_01"
            (.ofList [("org.bluez.Device1", dualSenseDevice)]),
          .interfacesRemoved "/org/bluez/hci0/dev_A0_FA_9C_00_00_01" ["org.bluez.Device1"]] :=
  clients_mirror_devices_iff .dualSense rfl (.init 3) ⟨[], []⟩ ⟨[], []⟩ _
    ⟨by decide, by decide, trivial⟩ (by simp [Constructs, noThrow])

/-- The same controller is known under two adapters; when one of its objects
goes, the client of the other goes too. -/
theorem client_dropped_with_other_device :
    ¬ ∀ (pad : Pad) (loop : EventLoop Nat) (bt usb : Scan) (events : List Event),
      pad.hasUPower = true →
      (system pad).Along (fun s _ => s.devices.size < kMaxDevices ∧
        s.upowerClients.length < kMaxUPowerClients) (.start pad loop bt usb) events →
      (∀ e ∈ events, Constructs e) →
      (system pad).Always (Mirror pad) (.start pad loop bt usb) events := by
  intro h
  have hmirror := h .dualSense (.init 3) ⟨[], []⟩ ⟨[], []⟩
    [.interfacesAdded noThrow "/org/bluez/hci0/dev_A0_FA_9C_00_00_01"
        (.ofList [("org.bluez.Device1", dualSenseDevice)]),
      .interfacesAdded noThrow "/org/bluez/hci1/dev_A0_FA_9C_00_00_01"
        (.ofList [("org.bluez.Device1", dualSenseDevice)]),
      .interfacesRemoved "/org/bluez/hci1/dev_A0_FA_9C_00_00_01" ["org.bluez.Device1"]]
    rfl ⟨by decide, by decide, by decide, trivial⟩ (by simp [Constructs, noThrow])
    _ List.prefix_rfl
  have hclient := (hmirror (convertMacToPath "A0:FA:9C:00:00:01")).2
    ⟨"/org/bluez/hci0/dev_A0_FA_9C_00_00_01",
      { Properties.empty with
        address := "A0:FA:9C:00:00:01"
        connected := true
        modalias := some ⟨"054C", "0CE6", "0100"⟩
        paired := true
        trusted := true },
      rfl, ⟨_, rfl, by decide⟩, rfl⟩
  revert hclient
  decide

end SdbusExamples.PowerClients
