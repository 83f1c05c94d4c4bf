import SdbusExamples.ControllerSteps
import SdbusExamples.NumberBases
import Mathlib.Data.List.Induction

namespace SdbusExamples.DeviceAdmission

open BluezDevice ControllerSteps Controllers NumberBases PathMaps ResourceLimits Variants

section Digits

def hexDigitsOfBothCases : List Char := "0123456789ABCDEFabcdef".toList

theorem mem_of_isHexDigit {c : Char} (h : isHexDigit c = true) : c ∈ hexDigitsOfBothCases := by
  have hascii : ∀ n : Fin 128, isHexDigit (Char.ofNat n) = true →
      Char.ofNat n ∈ hexDigitsOfBothCases := by decide +kernel
  have hlt : c.toNat < 128 := by
    simp only [isHexDigit, Bool.or_eq_true, Bool.and_eq_true, decide_eq_true_eq] at h
    rcases h with (⟨-, h⟩ | ⟨-, h⟩) | ⟨-, h⟩
    · exact Nat.lt_of_le_of_lt (Char.le_def.1 h) (by decide)
    · exact Nat.lt_of_le_of_lt (Char.le_def.1 h) (by decide)
    · exact Nat.lt_of_le_of_lt (Char.le_def.1 h) (by decide)
  have hc := hascii ⟨c.toNat, hlt⟩
  rw [Char.ofNat_toNat] at hc
  exact hc h

def digitValue (c : Char) : Nat := hexDigits.idxOf c.toLower

theorem digitValue_lt {c : Char} (h : isHexDigit c = true) : digitValue c < 16 := by
  have hall : hexDigitsOfBothCases.all (fun c => digitValue c < 16) = true := by decide
  exact of_decide_eq_true (List.all_eq_true.1 hall c (mem_of_isHexDigit h))

theorem toUpper_eq_of_digitValue {c d : Char} (hc : isHexDigit c = true) (hd : isHexDigit d = true)
    (h : digitValue c = digitValue d) : c.toUpper = d.toUpper := by
  have hall : hexDigitsOfBothCases.all (fun c => hexDigitsOfBothCases.all fun d =>
      digitValue c != digitValue d || c.toUpper == d.toUpper) = true := by decide +kernel
  have hpair := List.all_eq_true.1 (List.all_eq_true.1 hall c (mem_of_isHexDigit hc)) d
    (mem_of_isHexDigit hd)
  rw [h, bne_self_eq_false, Bool.false_or, beq_iff_eq] at hpair
  exact hpair

theorem hexValue_concat (cs : List Char) (c : Char) :
    hexValue (cs ++ [c]) = 16 * hexValue cs + digitValue c := by
  rw [hexValue, List.foldl_append]
  rfl

theorem map_toUpper_eq_of_hexValue {cs ds : List Char} (hlen : cs.length = ds.length)
    (hcs : ∀ c ∈ cs, isHexDigit c = true) (hds : ∀ d ∈ ds, isHexDigit d = true)
    (h : hexValue cs = hexValue ds) : cs.map Char.toUpper = ds.map Char.toUpper := by
  induction cs using List.reverseRecOn generalizing ds with
  | nil => rw [List.eq_nil_of_length_eq_zero hlen.symm]
  | append_singleton cs c ih =>
      cases ds using List.reverseRecOn with
      | nil => simp at hlen
      | append_singleton ds d =>
          rw [List.forall_mem_append, List.forall_mem_singleton] at hcs hds
          rw [hexValue_concat, hexValue_concat] at h
          rw [List.length_append, List.length_append] at hlen
          have hc := digitValue_lt hcs.2
          have hd := digitValue_lt hds.2
          have hinit := ih (by simpa using hlen) hcs.1 hds.1 (by omega)
          have hlast := toUpper_eq_of_digitValue hcs.2 hds.2 (by omega)
          rw [List.map_append, List.map_append, hinit, List.map_singleton, hlast,
            List.map_singleton]

end Digits

structure HexGroup where
  digits : List Char
  length : digits.length = 4
  hex : ∀ c ∈ digits, isHexDigit c = true

def UpperCaseId (id : String) : Prop :=
  id.toList.length = 4 ∧ ∀ c ∈ id.toList, isHexDigit c = true ∧ c.toUpper = c

theorem upperCaseId_iff_all (id : String) :
    (id.toList.length = 4 ∧ id.toList.all (fun c => isHexDigit c && c.toUpper == c) = true) ↔
      UpperCaseId id := by
  simp only [UpperCaseId, List.all_eq_true, Bool.and_eq_true, beq_iff_eq]

instance (id : String) : Decidable (UpperCaseId id) := decidable_of_iff _ (upperCaseId_iff_all id)

theorem upperCase_ids (pad : Pad) :
    UpperCaseId pad.vendorId ∧ ∀ id ∈ pad.productIds, UpperCaseId id := by
  cases pad <;> decide

namespace HexGroup

def text (g : HexGroup) : String := String.ofList g.digits

def UpperCase (g : HexGroup) : Prop := ∀ c ∈ g.digits, c.toUpper = c

theorem text_eq_iff (g : HexGroup) {id : String} (h : UpperCaseId id) :
    g.text = id ↔ hexValue g.digits = hexValue id.toList ∧ g.UpperCase := by
  constructor
  · rintro rfl
    rw [text, String.toList_ofList]
    refine ⟨rfl, fun c hc => (h.2 c ?_).2⟩
    rwa [text, String.toList_ofList]
  · rintro ⟨hvalue, hupper⟩
    have hmap := map_toUpper_eq_of_hexValue (g.length.trans h.1.symm) g.hex
      (fun c hc => (h.2 c hc).1) hvalue
    rw [List.map_congr_left hupper, List.map_congr_left fun c hc => (h.2 c hc).2] at hmap
    rw [text, ← String.toList_inj, String.toList_ofList]
    simpa using hmap

theorem hexGroup_digits (g : HexGroup) (tag : Char) (rest : List Char) :
    hexGroup tag (tag :: (g.digits ++ rest)) = some (g.text, rest) := by
  obtain ⟨digits, hlen, hhex⟩ := g
  obtain ⟨a, b, c, d, rfl⟩ := List.length_eq_four.1 hlen
  have hall : [a, b, c, d].all isHexDigit = true := List.all_eq_true.2 hhex
  simp only [List.cons_append, List.nil_append, hexGroup, hall, decide_true, Bool.and_self, if_true]
  rfl

end HexGroup

variable (V P D : HexGroup)

def modaliasText : String := "usb:v" ++ V.text ++ "p" ++ P.text ++ "d" ++ D.text

def modaliasOf : Modalias := ⟨V.text, P.text, D.text⟩

theorem parseModalias_modaliasText : parseModalias (modaliasText V P D) = some (modaliasOf V P D) := by
  have htext : (modaliasText V P D).toList = 'u' :: 's' :: 'b' :: ':' ::
      'v' :: (V.digits ++ 'p' :: (P.digits ++ 'd' :: (D.digits ++ []))) := by
    simp [modaliasText, HexGroup.text]
  have hmatch : matchModalias (modaliasText V P D).toList = some (modaliasOf V P D) := by
    rw [htext, matchModalias]
    simp only [HexGroup.hexGroup_digits, Option.bind_eq_bind, Option.bind_some]
    rfl
  rw [htext] at hmatch
  rw [parseModalias, htext, searchModalias, hmatch]
  rfl

def Identifies (pad : Pad) : Prop :=
  hexValue V.digits = hexValue pad.vendorId.toList ∧
    ∃ id ∈ pad.productIds, hexValue P.digits = hexValue id.toList

instance (pad : Pad) : Decidable (Identifies V P pad) := inferInstanceAs (Decidable (_ ∧ _))

theorem matches_iff (pad : Pad) :
    pad.Matches (modaliasOf V P D) ↔ Identifies V P pad ∧ V.UpperCase ∧ P.UpperCase := by
  obtain ⟨hvendor, hproduct⟩ := upperCase_ids pad
  have hpid : P.text ∈ pad.productIds ↔
      (∃ id ∈ pad.productIds, hexValue P.digits = hexValue id.toList) ∧ P.UpperCase := by
    constructor
    · intro hmem
      have hP := (P.text_eq_iff (hproduct _ hmem)).1 rfl
      exact ⟨⟨P.text, hmem, hP.1⟩, hP.2⟩
    · rintro ⟨⟨id, hid, hvalue⟩, hupper⟩
      rwa [(P.text_eq_iff (hproduct id hid)).2 ⟨hvalue, hupper⟩]
  rw [Pad.Matches, modaliasOf, V.text_eq_iff hvendor, hpid, Identifies]
  tauto

/-- The identifiers are written as the controllers compare them, unless they are
other ones. -/
def PlainSpelling (pad : Pad) : Prop := Identifies V P pad → V.UpperCase ∧ P.UpperCase

theorem matches_iff_identifies (pad : Pad) :
    (pad.Matches (modaliasOf V P D) ↔ Identifies V P pad) ↔ PlainSpelling V P pad := by
  rw [matches_iff, PlainSpelling]
  tauto

structure Announced (s : Controller) (objectPath : String)
    (interfaces : Interfaces) : Prop where
  modalias : ∃ properties, interfaces["org.bluez.Device1"]? = some properties ∧
    properties["Modalias"]? = some (.plain (.s (modaliasText V P D)))
  fresh : objectPath ∉ s.devices
  room : s.devices.size < kMaxDevices

structure DecidedByNumbers (pad : Pad) : Prop where
  parsed : parseModalias (modaliasText V P D) = some (modaliasOf V P D)
  /-- The raw property, in a call that no exception ends. -/
  added : ∀ s out objectPath interfaces, Announced V P D s objectPath interfaces →
    (s.onInterfacesAdded pad out objectPath interfaces).2 = true →
      (objectPath ∈ (s.onInterfacesAdded pad out objectPath interfaces).1.devices ↔
        Identifies V P pad)
  /-- The cached property, when the device has been constructed. -/
  installed : ∀ props, props.modalias = parseModalias (modaliasText V P D) →
    ((deviceKey pad props).isSome = true ↔
        Identifies V P pad ∧ props.connected ∧ props.paired ∧ props.trusted) ∧
      ((powerPath pad props).isSome = true ↔ pad.hasUPower ∧ Identifies V P pad)
  removed : ∀ (s : Controller) objectPath interfaces (props : Properties),
    "org.bluez.Device1" ∈ interfaces → s.devices[objectPath]? = some props →
    props.modalias = parseModalias (modaliasText V P D) →
      (s.onInterfacesRemoved pad objectPath interfaces).devices = s.devices.erase objectPath ∧
      (s.onInterfacesRemoved pad objectPath interfaces).upowerClients =
        if pad.hasUPower ∧ Identifies V P pad then
          s.upowerClients.filter (· ≠ convertMacToPath props.address)
        else s.upowerClients

variable {V P D} {pad : Pad} {props : Properties} {properties : PropertyMap}

theorem admits_iff (h : properties["Modalias"]? = some (.plain (.s (modaliasText V P D)))) :
    admits pad properties = true ↔ pad.Matches (modaliasOf V P D) := by
  rw [admits, getProperty, h, Option.bind_some, Variant.getString, Option.bind_some,
    parseModalias_modaliasText]
  exact decide_eq_true_iff

theorem deviceKey_isSome (h : props.modalias = parseModalias (modaliasText V P D)) :
    (deviceKey pad props).isSome = true ↔
      pad.Matches (modaliasOf V P D) ∧ props.connected ∧ props.paired ∧ props.trusted := by
  rw [parseModalias_modaliasText] at h
  rw [deviceKey, h]
  simp only
  split_ifs with hk
  · exact iff_of_true rfl hk
  · exact iff_of_false Bool.false_ne_true hk

theorem powerPath_eq (h : props.modalias = parseModalias (modaliasText V P D)) :
    powerPath pad props =
      if pad.hasUPower ∧ pad.Matches (modaliasOf V P D) then some (convertMacToPath props.address)
      else none := by
  rw [parseModalias_modaliasText] at h
  rw [powerPath, h]

theorem addDevice_installs {s : Controller} {out : Outcomes} {objectPath : String}
    (hadmits : admits pad properties = true) (hs : objectPath ∉ s.devices)
    (hroom : s.devices.size < kMaxDevices)
    (hdone : (s.addDevice pad out objectPath properties).2 = true) :
    objectPath ∈ (s.addDevice pad out objectPath properties).1.devices := by
  rw [Controller.addDevice, if_neg (by simp [hadmits]), if_neg hs, if_neg (Nat.not_le.2 hroom)]
    at hdone ⊢
  cases hd : Device1 properties with
  | none =>
      rw [hd] at hdone
      cases hdone
  | some props =>
      have hsame := installDevice_same pad s out.opens objectPath props
      cases hpath : powerPath pad props with
      | none => simp [hpath, hsame.devices]
      | some path => simp [hpath, devices_addUPowerClient, hsame.devices]

theorem addInterfaces_installs {s : Controller} {out : Outcomes} {objectPath : String}
    {entries : List (String × PropertyMap)} (hmem : ("org.bluez.Device1", properties) ∈ entries)
    (hadmits : admits pad properties = true) (hroom : s.devices.size < kMaxDevices)
    (hdone : (Controller.addInterfaces pad out objectPath s entries).2 = true) :
    objectPath ∈ (Controller.addInterfaces pad out objectPath s entries).1.devices := by
  by_cases hs : objectPath ∈ s.devices
  · rwa [(addInterfaces_of_mem pad out entries hs).devices]
  induction entries generalizing s with
  | nil => cases hmem
  | cons entry rest ih =>
      have hspec := addInterface_spec pad s out objectPath entry
      rw [Controller.addInterfaces] at hdone ⊢
      rcases hadd : s.addInterface pad out objectPath entry with ⟨s', _ | _⟩
      · rw [hadd] at hdone
        cases hdone
      rw [hadd] at hdone hspec
      rcases hspec with hsame | ⟨-, props, hinstalled⟩
      · have hs' : objectPath ∉ s'.devices := by rwa [hsame.devices]
        rcases List.mem_cons.1 hmem with rfl | hmem
        · -- the device is new, admitted and has room, so that it cannot stay out
          have hadd : s.addDevice pad out objectPath properties = (s', true) := hadd
          have hin := addDevice_installs hadmits hs hroom (congrArg Prod.snd hadd)
          rw [hadd] at hin
          exact absurd hin hs'
        · have hroom' : s'.devices.size < kMaxDevices := by rwa [hsame.devices]
          exact ih hmem hroom' hdone hs'
      · have hin : objectPath ∈ s'.devices := by
          rw [show s'.devices = s.devices.insert objectPath props from hinstalled.devices]
          simp
        rwa [(addInterfaces_of_mem pad out rest hin).devices]

theorem mem_devices_iff {s : Controller} {out : Outcomes} {objectPath : String}
    {interfaces : Std.ExtTreeMap String PropertyMap}
    (h : Announced V P D s objectPath interfaces)
    (hdone : (s.onInterfacesAdded pad out objectPath interfaces).2 = true) :
    objectPath ∈ (s.onInterfacesAdded pad out objectPath interfaces).1.devices ↔
      pad.Matches (modaliasOf V P D) := by
  obtain ⟨properties, hproperties, hmodalias⟩ := h.modalias
  constructor
  · intro hin
    rcases addInterfaces_spec pad s out objectPath interfaces.toList with hsame | hinstalled
    · rw [Controller.onInterfacesAdded, hsame.devices] at hin
      exact absurd hin h.fresh
    · obtain ⟨properties', props, hmem, hinstalled⟩ := hinstalled
      rw [mem_toList_path, hproperties] at hmem
      cases hmem
      exact (admits_iff hmodalias).1 hinstalled.admitted
  · intro hmatches
    have hmem := (mem_toList_path interfaces "org.bluez.Device1" properties).2 hproperties
    exact addInterfaces_installs hmem ((admits_iff hmodalias).2 hmatches) h.room hdone

theorem onInterfacesRemoved_eq (pad : Pad) {s : Controller} {objectPath : String}
    {interfaces : List String}
    (hmem : "org.bluez.Device1" ∈ interfaces) (hdevice : s.devices[objectPath]? = some props)
    (h : props.modalias = parseModalias (modaliasText V P D)) :
    (s.onInterfacesRemoved pad objectPath interfaces).devices = s.devices.erase objectPath ∧
    (s.onInterfacesRemoved pad objectPath interfaces).upowerClients =
      if pad.hasUPower ∧ pad.Matches (modaliasOf V P D) then
        s.upowerClients.filter (· ≠ convertMacToPath props.address)
      else s.upowerClients := by
  have hsame := onInterfacesRemoved_spec pad s objectPath interfaces
  rw [if_pos hmem] at hsame
  rw [hsame.devices, hsame.upowerClients, devices_removeDevice, Controller.removeDevice, hdevice]
  refine ⟨rfl, ?_⟩
  simp only [powerPath_eq h]
  split_ifs <;> rfl

theorem addInterfaces_of_rejected {s : Controller} {out : Outcomes} {objectPath : String}
    {entries : List (String × PropertyMap)}
    (h : ∀ e ∈ entries, e.1 = "org.bluez.Device1" ∧ admits pad e.2 = false) :
    Controller.addInterfaces pad out objectPath s entries = (s, true) := by
  induction entries with
  | nil => rfl
  | cons e rest ih =>
      obtain ⟨interface, properties⟩ := e
      rw [List.forall_mem_cons] at h
      obtain ⟨⟨rfl, hrejected⟩, hrest⟩ := h
      rw [Controller.addInterfaces, Controller.addInterface, Controller.addDevice, if_pos hrejected]
      exact ih hrest

def modaliasOnly (text : String) : PropertyMap :=
  (∅ : PropertyMap).insert "Modalias" (.plain (.s text))

def announcement (text : String) : Interfaces :=
  (∅ : Interfaces).insert "org.bluez.Device1" (modaliasOnly text)

theorem modaliasOnly_modalias (text : String) :
    (modaliasOnly text)["Modalias"]? = some (.plain (.s text)) := by
  rw [modaliasOnly, getElem?_insert_path, if_pos rfl]

theorem announcement_announced {s : Controller} (objectPath : String)
    (hs : objectPath ∉ s.devices) (hroom : s.devices.size < kMaxDevices) :
    Announced V P D s objectPath (announcement (modaliasText V P D)) := by
  refine ⟨⟨modaliasOnly (modaliasText V P D), ?_, modaliasOnly_modalias _⟩, hs, hroom⟩
  rw [announcement, getElem?_insert_path, if_pos rfl]

theorem onInterfacesAdded_announcement {s : Controller} {out : Outcomes} {objectPath : String}
    (h : ¬ pad.Matches (modaliasOf V P D)) :
    s.onInterfacesAdded pad out objectPath (announcement (modaliasText V P D)) = (s, true) := by
  apply addInterfaces_of_rejected
  rintro ⟨interface, properties⟩ hmem
  rw [mem_toList_path, announcement, getElem?_insert_path] at hmem
  split at hmem
  case isTrue hinterface =>
    obtain rfl := Option.some.inj hmem
    refine ⟨hinterface.symm, ?_⟩
    rw [Bool.eq_false_iff, Ne, admits_iff (modaliasOnly_modalias _)]
    exact h
  case isFalse => simp at hmem

def started (pad : Pad) : Controller := .start pad (.init 3) ⟨[], []⟩ ⟨[], []⟩

theorem started_devices (pad : Pad) : (started pad).devices = ∅ := rfl

theorem plainSpelling_of_decided (h : DecidedByNumbers V P D pad) : PlainSpelling V P pad := by
  rw [← matches_iff_identifies V P D]
  refine ⟨fun hm => ((matches_iff V P D pad).1 hm).1, fun hid => ?_⟩
  -- otherwise the device is passed over although its numbers are the controller's
  by_contra hm
  have hann : Announced V P D (started pad) "/org/bluez/hci0/dev" _ :=
    announcement_announced _ (by simp [started_devices]) (by simp [started_devices, kMaxDevices])
  have hadded := h.added _ noThrow _ _ hann
  rw [onInterfacesAdded_announcement hm] at hadded
  exact absurd ((hadded rfl).2 hid) (by simp [started_devices])

/-- The numbers alone decide exactly when they are none of the controller's or
are written in upper case. -/
theorem decidedByNumbers_iff (V P D : HexGroup) (pad : Pad) :
    DecidedByNumbers V P D pad ↔ PlainSpelling V P pad := by
  refine ⟨plainSpelling_of_decided, fun h => ?_⟩
  have hmatches : pad.Matches (modaliasOf V P D) ↔ Identifies V P pad :=
    (matches_iff_identifies V P D pad).2 h
  refine ⟨parseModalias_modaliasText V P D, ?_, ?_, ?_⟩
  · intro s out objectPath interfaces hann hdone
    rw [mem_devices_iff hann hdone, hmatches]
  · intro props hprops
    constructor
    · rw [deviceKey_isSome hprops, hmatches]
    · rw [powerPath_eq hprops]
      simp only [hmatches]
      split_ifs with hpad
      · exact iff_of_true rfl hpad
      · exact iff_of_false Bool.false_ne_true hpad
  · intro s objectPath interfaces props hmem hdevice hprops
    have heq := onInterfacesRemoved_eq pad hmem hdevice hprops
    simp only [hmatches] at heq
    exact heq

/-- A DualSense whose vendor is written 054c is passed over. -/
theorem decidedByNumbers_lower_case :
    ¬ ∀ (V P D : HexGroup) (pad : Pad), DecidedByNumbers V P D pad := by
  intro h
  have hplain := plainSpelling_of_decided (h ⟨"054c".toList, rfl, List.all_eq_true.1 rfl⟩
    ⟨"0ce6".toList, rfl, List.all_eq_true.1 rfl⟩ ⟨"0100".toList, rfl, List.all_eq_true.1 rfl⟩ .dualSense)
  exact absurd ((hplain (by decide)).1 'c' (by decide)) (by decide)

end SdbusExamples.DeviceAdmission
