import SdbusExamples.ControllerSteps
import SdbusExamples.NumberBases
import SdbusExamples.XboxReader

namespace SdbusExamples.XboxReports

open BluezDevice ControllerSteps Controllers HidReader Hidraw LoopRun NumberBases PathMaps
  StoppingLoops Variants XboxReader

structure Attached (pad : Pad) (out : Outcomes) (entries : List (String × PropertyMap))
    (reader : Reader) : Prop where
  admitted : ∃ properties, ("org.bluez.Device1", properties) ∈ entries ∧
    admits pad properties = true
  opens : out.opens reader.device = true

def KeepsOrAttaches (pad : Pad) (out : Outcomes) (entries : List (String × PropertyMap))
    (s s' : Controller) : Prop :=
  ∀ reader, s'.inputReader = some reader →
    s.inputReader = some reader ∨ Attached pad out entries reader

variable {pad : Pad} {out : Outcomes} {entries : List (String × PropertyMap)}

theorem KeepsOrAttaches.of_eq {s s' : Controller} (h : s'.inputReader = s.inputReader) :
    KeepsOrAttaches pad out entries s s' := by
  intro reader hreader
  rw [h] at hreader
  exact Or.inl hreader

theorem inputReader_addAdapter (s : Controller) (throws : Bool) (path : String) :
    (s.addAdapter throws path).1.inputReader = s.inputReader := by
  rw [Controller.addAdapter]
  split_ifs <;> rfl

theorem inputReader_addInput1 (s : Controller) (throws : Bool) (path : String) :
    (s.addInput1 throws path).1.inputReader = s.inputReader := by
  rw [Controller.addInput1]
  split_ifs <;> rfl

theorem inputReader_addUPowerClient (s : Controller) (throws : Bool) (path : String) :
    (s.addUPowerClient throws path).1.inputReader = s.inputReader := by
  rw [Controller.addUPowerClient]
  split_ifs <;> rfl

theorem attach_opens (s : Controller) (opens : String → Bool) (key : String) {reader : Reader}
    (h : (s.attach opens key).inputReader = some reader) :
    s.inputReader = some reader ∨ opens reader.device = true := by
  rw [Controller.attach] at h
  split_ifs at h with hnode hreader hopens
  · exact Or.inl h
  · exact Or.inl h
  · right
    cases h
    exact hopens
  · exact Or.inl h

theorem installDevice_opens (s : Controller) (opens : String → Bool) (objectPath : String)
    (props : Properties) {reader : Reader}
    (h : (s.installDevice pad opens objectPath props).inputReader = some reader) :
    s.inputReader = some reader ∨ opens reader.device = true := by
  rw [Controller.installDevice] at h
  cases hkey : deviceKey pad props with
  | none =>
      simp only [hkey] at h
      exact Or.inl h
  | some key =>
      simp only [hkey] at h
      exact (attach_opens _ opens key h :)

theorem addDevice_keepsOrAttaches (s : Controller) (objectPath : String) {properties : PropertyMap}
    (hmem : ("org.bluez.Device1", properties) ∈ entries) :
    KeepsOrAttaches pad out entries s (s.addDevice pad out objectPath properties).1 := by
  rw [Controller.addDevice]
  split_ifs with hadmits hin hsize
  · exact .of_eq rfl
  · exact .of_eq rfl
  · exact .of_eq rfl
  · intro reader hreader
    cases hd : Device1 properties with
    | none =>
        simp only [hd] at hreader
        exact Or.inl hreader
    | some props =>
        have hinstalled : (s.installDevice pad out.opens objectPath props).inputReader =
            some reader := by
          cases hpath : powerPath pad props with
          | none => simpa only [hd, hpath] using hreader
          | some path => simpa only [hd, hpath, inputReader_addUPowerClient] using hreader
        apply (installDevice_opens s out.opens objectPath props hinstalled).imp_right
        intro hopens
        exact ⟨⟨properties, hmem, by simpa using hadmits⟩, hopens⟩

theorem addInterface_keepsOrAttaches (s : Controller) (objectPath : String)
    {entry : String × PropertyMap} (hmem : entry ∈ entries) :
    KeepsOrAttaches pad out entries s (s.addInterface pad out objectPath entry).1 := by
  unfold Controller.addInterface
  split
  · exact .of_eq (inputReader_addAdapter _ _ _)
  · exact addDevice_keepsOrAttaches s objectPath hmem
  · exact .of_eq (inputReader_addInput1 _ _ _)
  · exact .of_eq rfl

theorem addInterfaces_keepsOrAttaches (s : Controller) (objectPath : String) :
    KeepsOrAttaches pad out entries s
      (Controller.addInterfaces pad out objectPath s entries).1 := by
  rw [addInterfaces_eq]
  apply goThrough_keeps (J := KeepsOrAttaches pad out entries s) _ (.of_eq rfl)
  intro t entry hmem ht reader hreader
  rcases addInterface_keepsOrAttaches t objectPath hmem reader hreader with h | h
  · exact ht reader h
  · exact Or.inr h

/-- The constructors of the readers are given the nodes that the device files stand for. -/
def withNodes (out : Outcomes) (nodes : String → Node) : Outcomes :=
  { out with opens := fun device => (inputReader device (nodes device)).reader.valid }

def modaliasOf (properties : PropertyMap) : Option Modalias :=
  (getProperty properties "Modalias").bind parseModalias

/-- HIDIOCGRAWINFO reports the product of the Modalias. -/
def SameProduct (node : Node) (m : Modalias) : Prop :=
  ∀ rawDevInfo, node.rawInfo = .ok rawDevInfo →
    rawDevInfo.product.toNat = hexValue m.pid.toList

theorem matches_of_admits {properties : PropertyMap} {m : Modalias}
    (h : admits pad properties = true) (hm : modaliasOf properties = some m) : pad.Matches m := by
  rw [modaliasOf] at hm
  simpa [admits, hm] using h

theorem product_of_attached {nodes : String → Node} {reader : Reader} {m : Modalias}
    (h : Attached pad (withNodes out nodes) entries reader)
    (hsame : SameProduct (nodes reader.device) m) :
    (inputReader reader.device (nodes reader.device)).reader.product.toNat =
      hexValue m.pid.toList := by
  obtain ⟨rawDevInfo, hinfo, hproduct⟩ := product_of_valid h.opens
  rw [hproduct]
  exact hsame rawDevInfo hinfo

theorem hexValue_pid_iff {m : Modalias} (h : Pad.xboxController.Matches m) :
    hexValue m.pid.toList = 0x02FD ↔ m.pid = "02FD" := by
  have hpid : m.pid ∈ ["02FD", "0B13"] := h.2
  rw [List.mem_cons, List.mem_singleton] at hpid
  rcases hpid with hpid | hpid <;> rw [hpid] <;> decide

theorem reports_handled_iff (s : Controller) (out : Outcomes) (nodes : String → Node)
    (objectPath : String) {interfaces : Std.ExtTreeMap String PropertyMap}
    {properties : PropertyMap} {m : Modalias} {reader : Reader} {revents : Short}
    {report : List PackedBytes.Byte}
    (hproperties : interfaces["org.bluez.Device1"]? = some properties)
    (hm : modaliasOf properties = some m) (hnone : s.inputReader = none)
    (hreader : (s.onInterfacesAdded .xboxController (withNodes out nodes) objectPath
      interfaces).1.inputReader = some reader)
    (hsame : SameProduct (nodes reader.device) m)
    (hup : revents &&& (POLLHUP ||| POLLERR) = 0) (hne : report ≠ []) :
    Handled (report.take bufferSize)
        (dispatch (inputReader reader.device (nodes reader.device)).reader revents (.ok report)) ↔
      m.pid = "02FD" := by
  have hattached : Attached .xboxController (withNodes out nodes) interfaces.toList reader := by
    rcases addInterfaces_keepsOrAttaches s objectPath reader hreader with h | h
    · rw [hnone] at h
      cases h
    · exact h
  obtain ⟨properties', hmem, hadmits⟩ := hattached.admitted
  rw [mem_toList_path, hproperties, Option.some_inj] at hmem
  subst hmem
  rw [dispatch_handled_iff hup hne, ← hexValue_pid_iff (matches_of_admits hadmits hm),
    ← product_of_attached hattached hsame, ← BitVec.toNat_inj]
  rfl

def xboxScan : Scan where
  input := [("/sys/devices/virtual/misc/uhid/0005:045E:0B13.0002/input/input7", .ofList
    [("ID_BUS", "bluetooth"), ("NAME", "\"Xbox Wireless Controller\""), ("TAGS", ":seat:"),
      ("UNIQ", "\"98:7a:14:00:00:01\"")])]
  hidraw := [("/sys/devices/virtual/misc/uhid/0005:045E:0B13.0002/hidraw/hidraw1", .ofList
    [("DEVNAME", "/dev/hidraw1")])]

def xboxDevice (modalias : String) : PropertyMap := .ofList
  [("Address", Variant.plain (.s "98:7A:14:00:00:01")), ("Connected", Variant.plain (.b true)),
    ("Modalias", Variant.plain (.s modalias)), ("Paired", Variant.plain (.b true)),
    ("Trusted", Variant.plain (.b true))]

def xboxNode (product : BitVec 16) : String → Node := fun _ =>
  ⟨.ok 5, .ok ⟨5, 0x045E, product⟩, .ok "Xbox Wireless Controller", .ok "", .ok 0, .ok []⟩

def xboxStart : Controller := .start .xboxController (.init 3) xboxScan ⟨[], []⟩

/-- A report 01 with both sticks at rest, and the first button pressed. -/
def pressed : List PackedBytes.Byte :=
  [0x01, 0x00, 0x80, 0x00, 0x80, 0x00, 0x80, 0x00, 0x80, 0x00, 0x00, 0x00, 0x00, 0x00, 0x01, 0x00,
    0x00]

theorem reports_handled_02fd :
    Handled (pressed.take bufferSize)
      (dispatch (inputReader "/dev/hidraw1" (xboxNode 0x02FD "/dev/hidraw1")).reader 1
        (.ok pressed)) :=
  (reports_handled_iff xboxStart noThrow (xboxNode 0x02FD)
    "/org/bluez/hci0/dev_98_7A_14_00_00_01"
    (show (Std.ExtTreeMap.ofList [("org.bluez.Device1", xboxDevice "usb:v045Ep02FDd0903")]
      compare)["org.bluez.Device1"]? = _ from rfl)
    (show _ = some ⟨"045E", "02FD", "0903"⟩ by decide) rfl
    (show _ = some ⟨0, "/dev/hidraw1"⟩ by decide +kernel)
    (fun _ h => by cases h; decide) (by decide)
    (show pressed ≠ [] by decide)).2 rfl

/-- A controller with the product 0B13 is admitted and read, and every report is dropped. -/
theorem reports_dropped_0b13 :
    ¬ ∀ (s : Controller) (out : Outcomes) (nodes : String → Node) (objectPath : String)
        (interfaces : Std.ExtTreeMap String PropertyMap) (properties : PropertyMap) (m : Modalias)
        (reader : Reader) (report : List PackedBytes.Byte),
      interfaces["org.bluez.Device1"]? = some properties → modaliasOf properties = some m →
      s.inputReader = none →
      (s.onInterfacesAdded .xboxController (withNodes out nodes) objectPath
        interfaces).1.inputReader = some reader →
      SameProduct (nodes reader.device) m → report ≠ [] →
      Handled (report.take bufferSize)
        (dispatch (inputReader reader.device (nodes reader.device)).reader 1 (.ok report)) := by
  intro h
  have hhandled := h xboxStart noThrow (xboxNode 0x0B13) "/org/bluez/hci0/dev_98_7A_14_00_00_01"
    (.ofList [("org.bluez.Device1", xboxDevice "usb:v045Ep0B13d0509")]) _
    ⟨"045E", "0B13", "0509"⟩ ⟨0, "/dev/hidraw1"⟩ [0x01] rfl (by decide) rfl
    (by decide +kernel)
    (fun _ hinfo => by cases hinfo; decide) (by decide)
  exact not_handled_nil [0x01] hhandled

end SdbusExamples.XboxReports
