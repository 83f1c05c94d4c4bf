import SdbusExamples.Controllers
import SdbusExamples.PathMaps
import SdbusExamples.StoppingLoops

namespace SdbusExamples.ControllerSteps

open BluezDevice Controllers Hidraw PathMaps StoppingLoops Variants

structure SameDevices (s s' : Controller) : Prop where
  devices : s'.devices = s.devices
  upowerClients : s'.upowerClients = s.upowerClients

theorem SameDevices.rfl {s : Controller} : SameDevices s s := ⟨Eq.refl _, Eq.refl _⟩

theorem SameDevices.trans {s s' s'' : Controller} (h : SameDevices s s')
    (h' : SameDevices s' s'') : SameDevices s s'' :=
  ⟨h'.devices.trans h.devices, h'.upowerClients.trans h.upowerClients⟩

def clientsWith (pad : Pad) (s : Controller) (throws : Bool) (props : Properties) : List String :=
  match powerPath pad props with
  | some path => (s.addUPowerClient throws path).1.upowerClients
  | none => s.upowerClients

structure Installed (pad : Pad) (throws : Bool) (objectPath : String) (properties : PropertyMap)
    (props : Properties) (s s' : Controller) : Prop where
  admitted : admits pad properties = true
  fresh : objectPath ∉ s.devices
  constructed : Device1 properties = some props
  devices : s'.devices = s.devices.insert objectPath props
  upowerClients : s'.upowerClients = clientsWith pad s throws props

theorem addAdapter_same (s : Controller) (throws : Bool) (path : String) :
    SameDevices s (s.addAdapter throws path).1 := by
  rw [Controller.addAdapter]
  split_ifs <;> exact ⟨rfl, rfl⟩

theorem addInput1_same (s : Controller) (throws : Bool) (path : String) :
    SameDevices s (s.addInput1 throws path).1 := by
  rw [Controller.addInput1]
  split_ifs <;> exact ⟨rfl, rfl⟩

theorem devices_addUPowerClient (s : Controller) (throws : Bool) (path : String) :
    (s.addUPowerClient throws path).1.devices = s.devices := by
  rw [Controller.addUPowerClient]
  split_ifs <;> rfl

theorem addUPowerClient_congr {s s' : Controller} (h : s'.upowerClients = s.upowerClients)
    (throws : Bool) (path : String) :
    (s'.addUPowerClient throws path).1.upowerClients =
      (s.addUPowerClient throws path).1.upowerClients := by
  rw [Controller.addUPowerClient, Controller.addUPowerClient, h]
  split_ifs
  · exact h
  · exact h
  · exact h
  · rfl

theorem attach_same (s : Controller) (opens : String → Bool) (key : String) :
    SameDevices s (s.attach opens key) := by
  rw [Controller.attach]
  split_ifs <;> exact ⟨rfl, rfl⟩

theorem installDevice_same (pad : Pad) (s : Controller) (opens : String → Bool)
    (objectPath : String) (props : Properties) :
    SameDevices { s with devices := s.devices.insert objectPath props }
      (s.installDevice pad opens objectPath props) := by
  rw [Controller.installDevice]
  cases deviceKey pad props with
  | none => exact .rfl
  | some key => exact attach_same _ opens key

theorem addDevice_spec (pad : Pad) (s : Controller) (out : Outcomes) (objectPath : String)
    (properties : PropertyMap) :
    SameDevices s (s.addDevice pad out objectPath properties).1 ∨
      ∃ props, Installed pad out.upowerThrows objectPath properties props s
        (s.addDevice pad out objectPath properties).1 := by
  rw [Controller.addDevice]
  split_ifs with hadmits hmem hsize
  · exact Or.inl .rfl
  · exact Or.inl .rfl
  · exact Or.inl .rfl
  · cases hd : Device1 properties with
    | none => exact Or.inl .rfl
    | some props =>
        right
        have hsame := installDevice_same pad s out.opens objectPath props
        refine ⟨props, by simpa using hadmits, hmem, hd, ?_, ?_⟩
        · cases hpath : powerPath pad props with
          | none => simpa only [hpath] using hsame.devices
          | some path => simpa only [hpath, devices_addUPowerClient] using hsame.devices
        · have hclients : (s.installDevice pad out.opens objectPath props).upowerClients =
              s.upowerClients := hsame.upowerClients
          rw [clientsWith]
          cases hpath : powerPath pad props with
          | none => simpa only [hpath] using hclients
          | some path =>
              simpa only [hpath] using addUPowerClient_congr hclients out.upowerThrows path

theorem addInterface_spec (pad : Pad) (s : Controller) (out : Outcomes) (objectPath : String)
    (entry : String × PropertyMap) :
    SameDevices s (s.addInterface pad out objectPath entry).1 ∨
      entry.1 = "org.bluez.Device1" ∧ ∃ props,
        Installed pad out.upowerThrows objectPath entry.2 props s
          (s.addInterface pad out objectPath entry).1 := by
  unfold Controller.addInterface
  split
  · exact Or.inl (addAdapter_same _ _ _)
  · rcases addDevice_spec pad s out objectPath _ with h | h
    · exact Or.inl h
    · exact Or.inr ⟨rfl, h⟩
  · exact Or.inl (addInput1_same _ _ _)
  · exact Or.inl .rfl

theorem addInterface_of_mem (pad : Pad) {s : Controller} (out : Outcomes) {objectPath : String}
    (entry : String × PropertyMap) (h : objectPath ∈ s.devices) :
    SameDevices s (s.addInterface pad out objectPath entry).1 := by
  rcases addInterface_spec pad s out objectPath entry with hs | ⟨-, props, hi⟩
  · exact hs
  · exact absurd h hi.fresh

theorem addInterfaces_eq (pad : Pad) (s : Controller) (out : Outcomes) (objectPath : String)
    (entries : List (String × PropertyMap)) :
    Controller.addInterfaces pad out objectPath s entries =
      goThrough (fun s entry => s.addInterface pad out objectPath entry) s entries := by
  induction entries generalizing s with
  | nil => rfl
  | cons entry rest ih =>
      rw [Controller.addInterfaces, goThrough]
      rcases s.addInterface pad out objectPath entry with ⟨s', _ | _⟩
      · rfl
      · exact ih s'

theorem addInterfaces_of_mem (pad : Pad) {s : Controller} (out : Outcomes) {objectPath : String}
    (entries : List (String × PropertyMap)) (h : objectPath ∈ s.devices) :
    SameDevices s (Controller.addInterfaces pad out objectPath s entries).1 := by
  rw [addInterfaces_eq]
  apply goThrough_keeps (J := SameDevices s) _ .rfl
  intro t entry _ ht
  exact ht.trans (addInterface_of_mem pad out entry (by rwa [ht.devices]))

/-- What onInterfacesAdded() does to the devices: at most one is installed. -/
theorem addInterfaces_spec (pad : Pad) (s : Controller) (out : Outcomes) (objectPath : String)
    (entries : List (String × PropertyMap)) :
    SameDevices s (Controller.addInterfaces pad out objectPath s entries).1 ∨
      ∃ properties props, ("org.bluez.Device1", properties) ∈ entries ∧
        Installed pad out.upowerThrows objectPath properties props s
          (Controller.addInterfaces pad out objectPath s entries).1 := by
  induction entries generalizing s with
  | nil => exact Or.inl .rfl
  | cons entry rest ih =>
      have hs := addInterface_spec pad s out objectPath entry
      rw [Controller.addInterfaces]
      cases hadd : s.addInterface pad out objectPath entry with
      | mk s' done =>
          rw [hadd] at hs
          rcases hs with hs | ⟨hentry, props, hi⟩
          · cases done with
            | false => exact Or.inl hs
            | true =>
                rcases ih s' with hr | ⟨properties, props, hmem, hi⟩
                · exact Or.inl (hs.trans hr)
                · right
                  refine ⟨properties, props, List.mem_cons_of_mem _ hmem, hi.admitted, ?_,
                    hi.constructed, ?_, ?_⟩
                  · rw [← hs.devices]
                    exact hi.fresh
                  · rw [hi.devices, hs.devices]
                  · rw [hi.upowerClients, clientsWith, clientsWith]
                    cases powerPath pad props with
                    | none => exact hs.upowerClients
                    | some path => exact addUPowerClient_congr hs.upowerClients _ path
          · right
            have hmem : ("org.bluez.Device1", entry.2) ∈ entry :: rest := by
              rw [← hentry]
              exact List.mem_cons_self
            refine ⟨entry.2, props, hmem, ?_⟩
            cases done with
            | false => exact hi
            | true =>
                have hin : objectPath ∈ s'.devices := by
                  rw [show s'.devices = s.devices.insert objectPath props from hi.devices]
                  simp
                have hr := addInterfaces_of_mem pad out rest hin
                exact ⟨hi.admitted, hi.fresh, hi.constructed, hr.devices.trans hi.devices,
                  hr.upowerClients.trans hi.upowerClients⟩

theorem removeDevice_congr (pad : Pad) {s s' : Controller} (h : SameDevices s s')
    (objectPath : String) :
    SameDevices (s.removeDevice pad objectPath) (s'.removeDevice pad objectPath) := by
  rw [Controller.removeDevice, Controller.removeDevice, h.devices]
  cases s.devices[objectPath]? with
  | none => exact h
  | some props =>
      cases hpath : powerPath pad props with
      | none => simpa only [hpath] using ⟨rfl, h.upowerClients⟩
      | some path => simpa only [hpath, h.upowerClients] using ⟨rfl, rfl⟩

theorem devices_removeDevice (pad : Pad) (s : Controller) (objectPath : String) :
    (s.removeDevice pad objectPath).devices = s.devices.erase objectPath := by
  rw [Controller.removeDevice]
  cases hd : s.devices[objectPath]? with
  | none =>
      apply Std.ExtTreeMap.ext_getElem?
      intro q
      rw [getElem?_erase_path]
      split_ifs with hq
      · exact hq ▸ hd
      · rfl
  | some props => cases hpath : powerPath pad props <;> simp only [hpath]

theorem removeDevice_twice (pad : Pad) (s : Controller) (objectPath : String) :
    (s.removeDevice pad objectPath).removeDevice pad objectPath =
      s.removeDevice pad objectPath := by
  have hnone : (s.removeDevice pad objectPath).devices[objectPath]? = none := by
    rw [devices_removeDevice, getElem?_erase_path, if_pos rfl]
  rw [Controller.removeDevice, hnone]

theorem onInterfacesRemoved_spec (pad : Pad) (s : Controller) (objectPath : String)
    (interfaces : List String) :
    SameDevices (if "org.bluez.Device1" ∈ interfaces then s.removeDevice pad objectPath else s)
      (s.onInterfacesRemoved pad objectPath interfaces) := by
  rw [Controller.onInterfacesRemoved]
  induction interfaces generalizing s with
  | nil => exact .rfl
  | cons interface rest ih =>
      have hrest := ih (s.removeInterface pad objectPath interface)
      by_cases hi : interface = "org.bluez.Device1"
      · subst hi
        have hs : s.removeInterface pad objectPath "org.bluez.Device1" =
            s.removeDevice pad objectPath := rfl
        rw [if_pos List.mem_cons_self]
        rw [hs, removeDevice_twice, ite_self] at hrest
        exact hrest
      · have hsame : SameDevices s (s.removeInterface pad objectPath interface) := by
          unfold Controller.removeInterface
          split
          · exact ⟨rfl, rfl⟩
          · exact absurd rfl hi
          · exact ⟨rfl, rfl⟩
          · exact .rfl
        have hmem : "org.bluez.Device1" ∈ interface :: rest ↔ "org.bluez.Device1" ∈ rest := by
          simp [Ne.symm hi]
        rw [if_congr hmem rfl rfl]
        split_ifs at hrest ⊢
        · exact (removeDevice_congr pad hsame objectPath).trans hrest
        · exact hsame.trans hrest

theorem udevCallback_same (pad : Pad) (s : Controller) (action : String)
    (devNode : Option String) (subSystem : String) (bt usb : Scan) :
    SameDevices s (s.udevCallback pad action devNode subSystem bt usb) := by
  rw [Controller.udevCallback]
  split_ifs
  · cases hr : s.inputReader <;> simp [Controller.retireReader, hr] <;> exact ⟨rfl, rfl⟩
  · exact ⟨rfl, rfl⟩
  · exact .rfl

theorem udevDispatch_same (pad : Pad) (s : Controller) (action devNode subSystem : Option String)
    (bt usb : Scan) : SameDevices s (s.udevDispatch pad action devNode subSystem bt usb) := by
  cases action with
  | none => exact .rfl
  | some action =>
      cases subSystem with
      | none => exact .rfl
      | some subSystem => exact udevCallback_same pad s action devNode subSystem bt usb

end SdbusExamples.ControllerSteps
