import SdbusExamples.ControllerSteps
import SdbusExamples.DeviceProperties
import SdbusExamples.MessageQueues
import SdbusExamples.SnapshotScans

namespace SdbusExamples.DeviceCache

open BluezDevice ControllerSteps Controllers DeviceProperties LoopQueues MessageQueues PathMaps Runs
  SnapshotScans Variants

inductive Message
  | added (objectPath : String) (interfacesAndProperties : Interfaces)
  | removed (objectPath : String) (interfaces : List String)
  | changed (objectPath interface : String) (properties : PropertyMap)

/-- `daemon` holds the properties of the Device1 objects that BlueZ exports.
The client has a match rule for the properties of an object exactly while it
has a Device1 for it: the constructor installs the rule, the destructor takes
it away. -/
structure World where
  daemon : Std.ExtTreeMap String PropertyMap
  bus : List Message
  phase : Phase (String × Interfaces)
  client : Controller

inductive Act
  | exports (objectPath : String) (interfacesAndProperties : Interfaces)
  | withdraws (objectPath : String) (interfaces : List String)
  | changes (objectPath : String) (changed : PropertyMap)
  | changesOther (objectPath interface : String) (changed : PropertyMap)
  | getManagedObjects (objects : List (String × Interfaces))
  | scan (out : Outcomes)
  | deliver (out : Outcomes)

/-- The bus passes PropertiesChanged on only if the match rule is installed. -/
def sendChanged (w : World) (objectPath interface : String) (changed : PropertyMap) :
    List Message :=
  if objectPath ∈ w.client.devices then w.bus ++ [.changed objectPath interface changed] else w.bus

/-- Device1 looks at the properties of every PropertiesChanged of its object,
whichever interface they are of. -/
def handleMessage (pad : Pad) (out : Outcomes) (s : Controller) : Message → Controller
  | .added objectPath interfacesAndProperties =>
      handle pad s (.interfacesAdded out objectPath interfacesAndProperties)
  | .removed objectPath interfaces => handle pad s (.interfacesRemoved objectPath interfaces)
  | .changed objectPath _ properties => handle pad s (.propertiesChanged objectPath properties)

def exported (w : World) (objectPath : String) (interfaces : Interfaces) :
    Std.ExtTreeMap String PropertyMap :=
  match interfaces["org.bluez.Device1"]? with
  | some properties => w.daemon.insert objectPath properties
  | none => w.daemon

def next (pad : Pad) (w : World) : Act → World
  | .exports objectPath interfaces =>
      { w with
        daemon := exported w objectPath interfaces
        bus := w.bus ++ [.added objectPath interfaces] }
  | .withdraws objectPath interfaces =>
      { w with
        daemon := if "org.bluez.Device1" ∈ interfaces then w.daemon.erase objectPath else w.daemon
        bus := w.bus ++ [.removed objectPath interfaces] }
  | .changes objectPath changed =>
      { w with
        daemon := w.daemon.alter objectPath fun properties => properties.map (· ∪ changed)
        bus := sendChanged w objectPath "org.bluez.Device1" changed }
  | .changesOther objectPath interface changed =>
      { w with bus := sendChanged w objectPath interface changed }
  | .getManagedObjects objects => { w with phase := .scanning objects }
  | .scan out =>
      match w.phase with
      | .scanning ((objectPath, interfaces) :: rest) =>
          { w with
            client := handleMessage pad out w.client (.added objectPath interfaces)
            phase := .scanning rest }
      | .scanning [] => { w with phase := .running }
      | _ => w
  | .deliver out =>
      match w.bus with
      | message :: bus => { w with client := handleMessage pad out w.client message, bus }
      | [] => w

/-- An exception that leaves the scan ends the constructor, and the client with it. -/
def ScanReturns (pad : Pad) (w : World) (out : Outcomes) : Prop :=
  match w.phase with
  | .scanning ((objectPath, interfaces) :: _) =>
      (w.client.onInterfacesAdded pad out objectPath interfaces).2 = true
  | .scanning [] => True
  | _ => False

def enabled (pad : Pad) (w : World) : Act → Prop
  | .exports objectPath interfaces =>
      ∀ properties, interfaces["org.bluez.Device1"]? = some properties →
        objectPath ∉ w.daemon ∧ WellTyped properties
  | .withdraws _ _ => True
  | .changes objectPath changed => objectPath ∈ w.daemon ∧ WellTyped changed
  | .changesOther _ interface _ => interface ≠ "org.bluez.Device1"
  | .getManagedObjects objects =>
      w.phase = .registered ∧ ∀ (objectPath : String) (properties : PropertyMap),
        w.daemon[objectPath]? = some properties ↔
          ∃ interfaces : Interfaces, (objectPath, interfaces) ∈ objects ∧
            interfaces["org.bluez.Device1"]? = some properties
  | .scan out => ScanReturns pad w out
  | .deliver _ => w.phase = .running ∧ w.bus ≠ []

def system (pad : Pad) : System World Act := ⟨enabled pad, next pad⟩

def start (pad : Pad) (daemon : Std.ExtTreeMap String PropertyMap) (loop : EventLoop Nat)
    (bt usb : Hidraw.Scan) : World :=
  ⟨daemon, [], .registered, .start pad loop bt usb⟩

def pending (w : World) : List Message := pendingOf (fun e => .added e.1 e.2) w.phase w.bus

structure Current (c : Properties) (properties : PropertyMap) : Prop where
  connected : c.connected = connectedField.value properties
  paired : c.paired = pairedField.value properties
  trusted : c.trusted = trustedField.value properties
  address : c.address = addressField.value properties

def Settled (w : World) : Prop := w.phase = .running ∧ w.bus = []

def Converged (w : World) : Prop :=
  ∀ (objectPath : String) (c : Properties), w.client.devices[objectPath]? = some c →
    ∃ properties, w.daemon[objectPath]? = some properties ∧ Current c properties

def installs (pad : Pad) (interfaces : Interfaces) : Bool :=
  (interfaces["org.bluez.Device1"]?).any (admits pad)

def flight (pad : Pad) (objectPath : String) (b : Bool) : Message → Bool
  | .added q interfaces => b || (q == objectPath && installs pad interfaces)
  | .removed q interfaces => b && !(q == objectPath && interfaces.contains "org.bluez.Device1")
  | .changed _ _ _ => b

/-- Some of the messages makes the client construct a Device1 for the object,
and no later one makes it destroy it. -/
def inFlight (pad : Pad) (objectPath : String) (messages : List Message) : Bool :=
  messages.foldl (flight pad objectPath) false

structure SameValues (old new : PropertyMap) : Prop where
  connected : connectedField.value new = connectedField.value old
  paired : pairedField.value new = pairedField.value old
  trusted : trustedField.value new = trustedField.value old
  address : addressField.value new = addressField.value old

/-- No change of a cached value falls between the making of the map that the
Device1 is constructed with and the installation of its match rule, and no
other interface of the object changes a property of one of the cached names. -/
def NothingMissed (pad : Pad) (w : World) : Act → Prop
  | .changes objectPath changed =>
      objectPath ∉ w.client.devices → inFlight pad objectPath (pending w) = true →
        ∀ properties, w.daemon[objectPath]? = some properties →
          SameValues properties (properties ∪ changed)
  | .changesOther objectPath _ changed =>
      objectPath ∈ w.client.devices → connectedField.key ∉ changed ∧ pairedField.key ∉ changed ∧
        trustedField.key ∉ changed ∧ addressField.key ∉ changed
  | _ => True

def Takes (pad : Pad) (objectPath : String) : Message → Option Properties → Option Properties → Prop
  | .added q interfaces, c, d =>
      d = c ∨ q = objectPath ∧ c = none ∧ ∃ properties,
        interfaces["org.bluez.Device1"]? = some properties ∧ admits pad properties = true ∧
          d = Device1 properties
  | .removed q interfaces, c, d =>
      d = if q = objectPath ∧ "org.bluez.Device1" ∈ interfaces then none else c
  | .changed q _ properties, c, d =>
      d = if q = objectPath then c.map fun p => (onPropertiesChanged p properties).1 else c

theorem takes_added (pad : Pad) (out : Outcomes) (s : Controller) (objectPath q : String)
    (interfaces : Interfaces) :
    Takes pad objectPath (.added q interfaces) s.devices[objectPath]?
      (handleMessage pad out s (.added q interfaces)).devices[objectPath]? := by
  rcases addInterfaces_spec pad s out q interfaces.toList with hs | ⟨properties, props, hmem, hi⟩
  · left
    exact congrArg (·[objectPath]?) hs.devices
  · have hdevices : (handleMessage pad out s (.added q interfaces)).devices =
        s.devices.insert q props := hi.devices
    rw [hdevices, getElem?_insert_path]
    by_cases hq : q = objectPath
    · right
      subst hq
      have hnone : s.devices[q]? = none := by simpa using hi.fresh
      have hget := Std.ExtTreeMap.mem_toList_iff_getElem?_eq_some.1 hmem
      exact ⟨rfl, hnone, properties, hget, hi.admitted, by rw [if_pos rfl, hi.constructed]⟩
    · left
      rw [if_neg hq]

theorem takes_removed (pad : Pad) (out : Outcomes) (s : Controller) (objectPath q : String)
    (interfaces : List String) :
    Takes pad objectPath (.removed q interfaces) s.devices[objectPath]?
      (handleMessage pad out s (.removed q interfaces)).devices[objectPath]? := by
  have hs := onInterfacesRemoved_spec pad s q interfaces
  have hdevices : (handleMessage pad out s (.removed q interfaces)).devices =
      (if "org.bluez.Device1" ∈ interfaces then s.removeDevice pad q else s).devices := hs.devices
  rw [Takes, hdevices]
  by_cases hmem : "org.bluez.Device1" ∈ interfaces
  · rw [if_pos hmem, devices_removeDevice, getElem?_erase_path]
    simp [hmem]
  · simp [hmem]

theorem takes_changed (pad : Pad) (out : Outcomes) (s : Controller) (objectPath q interface : String)
    (properties : PropertyMap) :
    Takes pad objectPath (.changed q interface properties) s.devices[objectPath]?
      (handleMessage pad out s (.changed q interface properties)).devices[objectPath]? := by
  simp only [Takes, handleMessage, handle, Controller.devicePropertiesChanged]
  by_cases hq : q = objectPath
  · subst hq
    cases hd : s.devices[q]? with
    | none => simp [hd]
    | some c => simp
  · cases hd : s.devices[q]? with
    | none => simp [hq]
    | some c => simp [hq, Std.ExtTreeMap.getElem?_insert]

theorem takes_handleMessage (pad : Pad) (out : Outcomes) (s : Controller) (message : Message)
    (objectPath : String) :
    Takes pad objectPath message s.devices[objectPath]?
      (handleMessage pad out s message).devices[objectPath]? := by
  cases message with
  | added q interfaces => exact takes_added pad out s objectPath q interfaces
  | removed q interfaces => exact takes_removed pad out s objectPath q interfaces
  | changed q interface properties => exact takes_changed pad out s objectPath q interface properties

def Agrees (exported : Option PropertyMap) (c : Option Properties) : Prop :=
  ∀ p, c = some p → ∃ properties, exported = some properties ∧ Current p properties

theorem agrees_none (exported : Option PropertyMap) : Agrees exported none := by
  intro p hp
  cases hp

theorem eq_none_of_agrees_none {c : Option Properties} (h : Agrees none c) : c = none := by
  cases c with
  | none => rfl
  | some p =>
      obtain ⟨properties, hp, -⟩ := h p rfl
      cases hp

theorem agrees_Device1 {properties : PropertyMap} (h : WellTyped properties) :
    Agrees (some properties) (Device1 properties) := by
  intro p hp
  rw [Device1_of_typed h] at hp
  obtain rfl := Option.some.inj hp
  exact ⟨properties, rfl, connectedField.read_onPropertiesChanged _ h,
    pairedField.read_onPropertiesChanged _ h, trustedField.read_onPropertiesChanged _ h,
    addressField.read_onPropertiesChanged _ h⟩

theorem read_of_value {β : Type} (f : CachedField β) {p : Properties} {properties changed : PropertyMap}
    (h : WellTyped changed) (hp : f.read p = f.value properties) :
    f.read (onPropertiesChanged p changed).1 = f.value (properties ∪ changed) := by
  rw [f.read_onPropertiesChanged p h, f.value_union properties h, hp]

theorem Current.change {p : Properties} {properties changed : PropertyMap}
    (hc : Current p properties) (h : WellTyped changed) :
    Current (onPropertiesChanged p changed).1 (properties ∪ changed) :=
  ⟨read_of_value connectedField h hc.connected, read_of_value pairedField h hc.paired,
    read_of_value trustedField h hc.trusted, read_of_value addressField h hc.address⟩

theorem Current.changeOther {p : Properties} {properties changed : PropertyMap}
    (hc : Current p properties) (h : connectedField.key ∉ changed ∧ pairedField.key ∉ changed ∧
      trustedField.key ∉ changed ∧ addressField.key ∉ changed) :
    Current (onPropertiesChanged p changed).1 properties :=
  ⟨(connectedField.read_onPropertiesChanged_of_not_mem p h.1).trans hc.connected,
    (pairedField.read_onPropertiesChanged_of_not_mem p h.2.1).trans hc.paired,
    (trustedField.read_onPropertiesChanged_of_not_mem p h.2.2.1).trans hc.trusted,
    (addressField.read_onPropertiesChanged_of_not_mem p h.2.2.2).trans hc.address⟩

theorem Current.of_sameValues {p : Properties} {old new : PropertyMap} (hc : Current p old)
    (h : SameValues old new) : Current p new :=
  ⟨hc.connected.trans h.connected.symm, hc.paired.trans h.paired.symm,
    hc.trusted.trans h.trusted.symm, hc.address.trans h.address.symm⟩

/-- While no PropertiesChanged is on its way, a Device1 that there is already
can only stay or go. -/
theorem leads_some_of_none {pad : Pad} {objectPath : String} {K : Option Properties → Prop}
    {ms : List Message} (hms : ∀ q i properties, .changed q i properties ∉ ms) {c : Properties}
    (h : Leads (Takes pad objectPath) K none ms) (hc : K (some c)) :
    Leads (Takes pad objectPath) K (some c) ms := by
  refine Leads.simulate (S := fun a b => b = a ∨ a = none ∧ b = some c) ?_ ?_ (.inr ⟨rfl, rfl⟩) h
  · rintro m hm a b b' (rfl | ⟨rfl, rfl⟩) hb
    · exact ⟨b', hb, .inl rfl⟩
    · cases m with
      | added q interfaces =>
          rcases hb with rfl | ⟨-, hnone, -⟩
          · exact ⟨none, .inl rfl, .inr ⟨rfl, rfl⟩⟩
          · cases hnone
      | removed q interfaces =>
          refine ⟨none, by simp [Takes], ?_⟩
          rw [Takes] at hb
          split_ifs at hb
          · exact .inl hb
          · exact .inr ⟨rfl, hb⟩
      | changed q i properties => exact absurd hm (hms q i properties)
  · rintro a b (rfl | ⟨rfl, rfl⟩) ha
    · exact ha
    · exact hc

theorem leads_none_of_flight {pad : Pad} {objectPath : String} {ms : List Message} {b : Bool}
    {c : Option Properties} (hc : c ≠ none → b = true)
    (h : ms.foldl (flight pad objectPath) b = false) :
    Leads (Takes pad objectPath) (fun d => d = none) c ms := by
  induction ms generalizing b c with
  | nil =>
      by_contra hne
      rw [List.foldl_nil, hc hne] at h
      cases h
  | cons m ms ih =>
      intro d hd
      refine ih (b := flight pad objectPath b m) (fun hne => ?_) h
      cases m with
      | added q interfaces =>
          rw [flight, Bool.or_eq_true]
          rcases hd with rfl | ⟨rfl, -, properties, hget, hadmits, -⟩
          · exact Or.inl (hc hne)
          · right
            simp [installs, hget, hadmits]
      | removed q interfaces =>
          rw [Takes] at hd
          split_ifs at hd with hq
          · exact absurd hd hne
          · rw [flight, hc (hd ▸ hne)]
            rw [Decidable.not_and_iff_or_not] at hq
            simpa using hq
      | changed q i properties =>
          rw [Takes] at hd
          rw [flight]
          apply hc
          rintro rfl
          rw [Option.map_none, ite_self] at hd
          exact hne hd

theorem leads_none_of_not_inFlight {pad : Pad} {objectPath : String} {ms : List Message}
    (h : inFlight pad objectPath ms = false) :
    Leads (Takes pad objectPath) (fun d => d = none) none ms :=
  leads_none_of_flight (fun hne => absurd rfl hne) h

theorem leads_entries {pad : Pad} {objectPath : String} {K : Option Properties → Prop}
    {exported : Option PropertyMap} {entries : List (String × Interfaces)}
    (he : ∀ interfaces properties, (objectPath, interfaces) ∈ entries →
      interfaces["org.bluez.Device1"]? = some properties →
        exported = some properties ∧ WellTyped properties)
    (hk : ∀ c, Agrees exported c → K c) {c : Option Properties} (hc : Agrees exported c) :
    Leads (Takes pad objectPath) K c (entries.map fun e => .added e.1 e.2) := by
  induction entries generalizing c with
  | nil => exact hk c hc
  | cons e entries ih =>
      have hrest : ∀ d, Agrees exported d →
          Leads (Takes pad objectPath) K d (entries.map fun e => .added e.1 e.2) :=
        fun d hd => ih (fun interfaces properties hmem =>
          he interfaces properties (List.mem_cons_of_mem _ hmem)) hd
      intro d hd
      rcases hd with rfl | ⟨rfl, -, properties, hget, -, rfl⟩
      · exact hrest _ hc
      · obtain ⟨rfl, ht⟩ := he e.2 properties List.mem_cons_self hget
        exact hrest _ (agrees_Device1 ht)

structure Inv (pad : Pad) (w : World) : Prop where
  typed : ∀ (objectPath : String) (properties : PropertyMap),
    w.daemon[objectPath]? = some properties → WellTyped properties
  leads : ∀ objectPath : String, Leads (Takes pad objectPath) (Agrees w.daemon[objectPath]?)
    w.client.devices[objectPath]? (pending w)
  fresh : w.phase = .registered → (∀ objectPath : String, w.client.devices[objectPath]? = none) ∧
    ∀ q i properties, .changed q i properties ∉ w.bus

theorem pending_append {w : World} (w' : World) {ms : List Message} (hphase : w'.phase = w.phase)
    (hbus : w'.bus = w.bus ++ ms) : pending w' = pending w ++ ms := by
  rw [pending, pending, hphase, hbus, pendingOf_append]

theorem getElem?_exported (w : World) (objectPath : String) (interfaces : Interfaces) (q : String) :
    (exported w objectPath interfaces)[q]? =
      if q = objectPath then (interfaces["org.bluez.Device1"]?).or w.daemon[q]?
      else w.daemon[q]? := by
  rw [exported]
  cases hi : interfaces["org.bluez.Device1"]? with
  | none => simp
  | some properties =>
      by_cases hq : q = objectPath
      · simp [hq]
      · simp [Std.ExtTreeMap.getElem?_insert, hq, Ne.symm hq]

theorem agrees_exported {pad : Pad} {w : World} {objectPath : String} {interfaces : Interfaces}
    (he : enabled pad w (.exports objectPath interfaces)) (q : String) (d : Option Properties)
    (hd : Agrees w.daemon[q]? d) : Agrees (exported w objectPath interfaces)[q]? d := by
  rw [getElem?_exported]
  split_ifs with hq
  · subst hq
    cases hi : interfaces["org.bluez.Device1"]? with
    | none => exact hd
    | some properties =>
        have hnone : w.daemon[q]? = none := by simpa using (he properties hi).1
        rw [hnone] at hd
        rw [eq_none_of_agrees_none hd]
        exact agrees_none _
  · exact hd

theorem inv_exports {pad : Pad} {w : World} (h : Inv pad w) {objectPath : String}
    {interfaces : Interfaces} (he : enabled pad w (.exports objectPath interfaces)) :
    Inv pad (next pad w (.exports objectPath interfaces)) := by
  constructor
  · intro q properties hq
    have hq : (exported w objectPath interfaces)[q]? = some properties := hq
    rw [getElem?_exported] at hq
    split_ifs at hq
    · cases hi : interfaces["org.bluez.Device1"]? with
      | none =>
          rw [hi, Option.none_or] at hq
          exact h.typed q properties hq
      | some new =>
          rw [hi, Option.some_or] at hq
          exact Option.some.inj hq ▸ (he new hi).2
    · exact h.typed q properties hq
  · intro q
    have hpending : pending (next pad w (.exports objectPath interfaces)) =
        pending w ++ [.added objectPath interfaces] := pending_append _ rfl rfl
    rw [hpending]
    refine (h.leads q).send fun d hd d' hd' => ?_
    show Agrees (exported w objectPath interfaces)[q]? d'
    rcases hd' with rfl | ⟨rfl, rfl, properties, hget, -, rfl⟩
    · exact agrees_exported he q _ hd
    · rw [getElem?_exported, if_pos rfl, hget, Option.some_or]
      exact agrees_Device1 (he properties hget).2
  · intro hphase
    obtain ⟨hdevices, hbus⟩ := h.fresh hphase
    refine ⟨hdevices, fun q i properties hmem => ?_⟩
    rcases List.mem_append.1 hmem with hmem | hmem
    · exact hbus q i properties hmem
    · simp at hmem

theorem inv_withdraws {pad : Pad} {w : World} (h : Inv pad w) (objectPath : String)
    (interfaces : List String) : Inv pad (next pad w (.withdraws objectPath interfaces)) := by
  have hdaemon : ∀ q : String,
      (next pad w (.withdraws objectPath interfaces)).daemon[q]? =
        if objectPath = q ∧ "org.bluez.Device1" ∈ interfaces then none else w.daemon[q]? := by
    intro q
    simp only [next]
    by_cases hmem : "org.bluez.Device1" ∈ interfaces
    · simp [hmem, Std.ExtTreeMap.getElem?_erase]
    · simp [hmem]
  constructor
  · intro q properties hq
    rw [hdaemon] at hq
    split_ifs at hq
    exact h.typed q properties hq
  · intro q
    have hpending : pending (next pad w (.withdraws objectPath interfaces)) =
        pending w ++ [.removed objectPath interfaces] := pending_append _ rfl rfl
    rw [hpending]
    refine (h.leads q).send fun d hd d' hd' => ?_
    rw [hdaemon, hd']
    split_ifs
    · exact agrees_none _
    · exact hd
  · intro hphase
    obtain ⟨hdevices, hbus⟩ := h.fresh hphase
    refine ⟨hdevices, fun q i properties hmem => ?_⟩
    rcases List.mem_append.1 hmem with hmem | hmem
    · exact hbus q i properties hmem
    · simp at hmem

theorem leads_sendChanged {pad : Pad} {w : World} (w' : World) {objectPath q interface : String}
    {changed : PropertyMap} {K : Option Properties → Prop}
    (h : Leads (Takes pad q) (Agrees w.daemon[q]?) w.client.devices[q]? (pending w))
    (hphase : w'.phase = w.phase) (hbus : w'.bus = sendChanged w objectPath interface changed)
    (hother : objectPath ≠ q → ∀ d, Agrees w.daemon[q]? d → K d)
    (hrouted : objectPath = q → q ∈ w.client.devices → ∀ d, Agrees w.daemon[q]? d →
      K (d.map fun p => (onPropertiesChanged p changed).1))
    (hlost : objectPath = q → q ∉ w.client.devices →
      Leads (Takes pad q) K w.client.devices[q]? (pending w)) :
    Leads (Takes pad q) K w.client.devices[q]? (pending w') := by
  rw [sendChanged] at hbus
  by_cases hin : objectPath ∈ w.client.devices
  · rw [if_pos hin] at hbus
    rw [pending_append w' hphase hbus]
    refine h.send fun d hd d' hd' => ?_
    rw [Takes] at hd'
    by_cases hq : objectPath = q
    · rw [if_pos hq] at hd'
      exact hd' ▸ hrouted hq (hq ▸ hin) d hd
    · rw [if_neg hq] at hd'
      exact hd' ▸ hother hq d hd
  · rw [if_neg hin, ← List.append_nil w.bus] at hbus
    rw [pending_append w' hphase hbus, List.append_nil]
    by_cases hq : objectPath = q
    · exact hlost hq (hq ▸ hin)
    · exact h.mono (hother hq)

theorem fresh_sendChanged {w : World} (objectPath interface : String) (changed : PropertyMap)
    (h : (∀ q : String, w.client.devices[q]? = none) ∧
      ∀ q i properties, .changed q i properties ∉ w.bus) :
    ∀ q i properties, .changed q i properties ∉ sendChanged w objectPath interface changed := by
  have hin : objectPath ∉ w.client.devices := by simpa using h.1 objectPath
  rw [sendChanged, if_neg hin]
  exact h.2

theorem getElem?_changed (pad : Pad) {w : World} {objectPath : String} {old : PropertyMap}
    (hold : w.daemon[objectPath]? = some old) (changed : PropertyMap) (q : String) :
    (next pad w (.changes objectPath changed)).daemon[q]? =
      if objectPath = q then some (old ∪ changed) else w.daemon[q]? := by
  simp only [next, Std.ExtTreeMap.getElem?_alter]
  by_cases hq : objectPath = q
  · subst hq
    simp [hold]
  · simp [hq]

theorem inv_changes {pad : Pad} {w : World} (h : Inv pad w) {objectPath : String}
    {changed : PropertyMap} (he : enabled pad w (.changes objectPath changed))
    (hn : NothingMissed pad w (.changes objectPath changed)) :
    Inv pad (next pad w (.changes objectPath changed)) := by
  obtain ⟨hmem, ht⟩ := he
  obtain ⟨old, hold⟩ : ∃ old, w.daemon[objectPath]? = some old :=
    ⟨_, Std.ExtTreeMap.getElem?_eq_some_getElem hmem⟩
  have hdaemon := getElem?_changed pad hold changed
  constructor
  · intro q properties hq
    rw [hdaemon] at hq
    split_ifs at hq
    · exact Option.some.inj hq ▸ (h.typed objectPath old hold).union ht
    · exact h.typed q properties hq
  · intro q
    rw [hdaemon]
    apply leads_sendChanged (next pad w (.changes objectPath changed)) (h.leads q) rfl rfl
    · intro hq d hd
      rwa [if_neg hq]
    · rintro rfl - d hd
      rw [if_pos rfl]
      intro p hp
      obtain ⟨p', rfl, rfl⟩ := Option.map_eq_some_iff.1 hp
      obtain ⟨properties, hproperties, hc⟩ := hd p' rfl
      obtain rfl := Option.some.inj (hold.symm.trans hproperties)
      exact ⟨_, rfl, hc.change ht⟩
    · rintro rfl hout
      rw [if_pos rfl]
      by_cases hflight : inFlight pad objectPath (pending w) = true
      · have hsame := hn hout hflight old hold
        refine (h.leads objectPath).mono fun d hd p hp => ?_
        obtain ⟨properties, hproperties, hc⟩ := hd p hp
        obtain rfl := Option.some.inj (hold.symm.trans hproperties)
        exact ⟨_, rfl, hc.of_sameValues hsame⟩
      · have hnone : w.client.devices[objectPath]? = none := by simpa using hout
        rw [hnone]
        refine (leads_none_of_not_inFlight (by simpa using hflight)).mono fun d hd => ?_
        exact hd ▸ agrees_none _
  · intro hphase
    exact ⟨(h.fresh hphase).1, fresh_sendChanged _ _ _ (h.fresh hphase)⟩

theorem inv_changesOther {pad : Pad} {w : World} (h : Inv pad w) {objectPath interface : String}
    {changed : PropertyMap} (hn : NothingMissed pad w (.changesOther objectPath interface changed)) :
    Inv pad (next pad w (.changesOther objectPath interface changed)) := by
  constructor
  · exact h.typed
  · intro q
    apply leads_sendChanged (next pad w (.changesOther objectPath interface changed)) (h.leads q)
      rfl rfl
    · exact fun _ d hd => hd
    · rintro rfl hin d hd p hp
      obtain ⟨p', rfl, rfl⟩ := Option.map_eq_some_iff.1 hp
      obtain ⟨properties, hproperties, hc⟩ := hd p' rfl
      exact ⟨properties, hproperties, hc.changeOther (hn hin)⟩
    · exact fun _ _ => h.leads q
  · intro hphase
    exact ⟨(h.fresh hphase).1, fresh_sendChanged _ _ _ (h.fresh hphase)⟩

theorem inv_getManagedObjects {pad : Pad} {w : World} (h : Inv pad w)
    {objects : List (String × Interfaces)} (he : enabled pad w (.getManagedObjects objects)) :
    Inv pad (next pad w (.getManagedObjects objects)) := by
  obtain ⟨hphase, hobjects⟩ := he
  obtain ⟨hdevices, hbus⟩ := h.fresh hphase
  have hpending : pending w = w.bus := by rw [pending, hphase, pendingOf_registered]
  constructor
  · exact h.typed
  · intro q
    have hq := h.leads q
    rw [hdevices q, hpending] at hq
    show Leads (Takes pad q) (Agrees w.daemon[q]?) w.client.devices[q]?
      (objects.map (fun e => .added e.1 e.2) ++ w.bus)
    rw [leads_append, hdevices q]
    refine leads_entries (fun interfaces properties hmem hget => ?_) (fun c hc => ?_)
      (agrees_none w.daemon[q]?)
    · have hd := (hobjects q properties).2 ⟨interfaces, hmem, hget⟩
      exact ⟨hd, h.typed q properties hd⟩
    · cases c with
      | none => exact hq
      | some p => exact leads_some_of_none hbus hq hc
  · intro hphase
    cases hphase

theorem inv_scan {pad : Pad} {w : World} (h : Inv pad w) {out : Outcomes}
    (he : enabled pad w (.scan out)) : Inv pad (next pad w (.scan out)) := by
  have hscan : ScanReturns pad w out := he
  rw [ScanReturns] at hscan
  cases hphase : w.phase with
  | unregistered | registered | running | failed =>
      rw [hphase] at hscan
      exact hscan.elim
  | scanning rest =>
      cases rest with
      | nil =>
          have hnext : next pad w (.scan out) = { w with phase := .running } := by
            rw [next, hphase]
          rw [hnext]
          refine ⟨h.typed, fun q => ?_, fun hp => by cases hp⟩
          have hq := h.leads q
          rw [pending, hphase] at hq
          exact hq
      | cons e rest =>
          have hnext : next pad w (.scan out) = { w with
              client := handleMessage pad out w.client (.added e.1 e.2)
              phase := .scanning rest } := by
            rw [next, hphase]
          rw [hnext]
          refine ⟨h.typed, fun q => ?_, fun hp => by cases hp⟩
          have hq := h.leads q
          rw [pending, hphase] at hq
          exact hq _ (takes_handleMessage pad out w.client _ q)

theorem inv_deliver {pad : Pad} {w : World} (h : Inv pad w) {out : Outcomes}
    (he : enabled pad w (.deliver out)) : Inv pad (next pad w (.deliver out)) := by
  obtain ⟨hphase, hne⟩ := he
  obtain ⟨m, bus, hbus⟩ := List.exists_cons_of_ne_nil hne
  have hnext : next pad w (.deliver out) =
      { w with client := handleMessage pad out w.client m, bus } := by rw [next, hbus]
  rw [hnext]
  refine ⟨h.typed, fun q => ?_, fun hp => ?_⟩
  · have hq := h.leads q
    rw [pending, hphase, hbus] at hq
    rw [pending, hphase]
    exact hq _ (takes_handleMessage pad out w.client m q)
  · rw [hphase] at hp
    cases hp

theorem inv_next (pad : Pad) (w : World) (a : Act) (h : Inv pad w) (he : enabled pad w a)
    (hn : NothingMissed pad w a) : Inv pad (next pad w a) := by
  cases a with
  | exports objectPath interfaces => exact inv_exports h he
  | withdraws objectPath interfaces => exact inv_withdraws h objectPath interfaces
  | changes objectPath changed => exact inv_changes h he hn
  | changesOther objectPath interface changed => exact inv_changesOther h hn
  | getManagedObjects objects => exact inv_getManagedObjects h he
  | scan out => exact inv_scan h he
  | deliver out => exact inv_deliver h he

/-- Whatever the order of the steps of BlueZ, the bus and the client: in a run
in which no change is missed, once all messages have been handled every
Device1 holds the values of its object. -/
theorem cache_converges (pad : Pad) (daemon : Std.ExtTreeMap String PropertyMap)
    (hd : ∀ (objectPath : String) (properties : PropertyMap),
      daemon[objectPath]? = some properties → WellTyped properties)
    (loop : EventLoop Nat) (bt usb : Hidraw.Scan) (as : List Act)
    (hv : (system pad).Valid (start pad daemon loop bt usb) as)
    (hn : (system pad).Along (NothingMissed pad) (start pad daemon loop bt usb) as)
    (hs : Settled ((system pad).after (start pad daemon loop bt usb) as)) :
    Converged ((system pad).after (start pad daemon loop bt usb) as) := by
  have hstart : Inv pad (start pad daemon loop bt usb) := by
    refine ⟨hd, fun q => ?_, fun _ => ⟨fun q => by simp [start, Controller.start], by simp [start]⟩⟩
    simp [start, pending, Controller.start, agrees_none]
  have hinv := (system pad).invariant_along (inv_next pad) hstart hv hn
  intro q c hc
  have hq := hinv.leads q
  rw [pending, hs.1, hs.2] at hq
  exact hq c hc

def dualSenseInterfaces : Interfaces := .ofList [("org.bluez.Device1", dualSenseDevice)]

def disconnected : PropertyMap := .ofList [("Connected", Variant.plain (.b false))]

theorem exports_dualSense {w : World} {objectPath : String} (h : objectPath ∉ w.daemon) :
    enabled .dualSense w (.exports objectPath dualSenseInterfaces) := by
  intro properties hp
  have hp : some dualSenseDevice = some properties := hp
  obtain rfl := Option.some.inj hp
  exact ⟨h, by decide⟩

theorem cache_converges_connected :
    Converged ((system .dualSense).after
      (start .dualSense ∅ (.init 3) ⟨[], []⟩ ⟨[], []⟩)
      [.getManagedObjects [], .scan noThrow,
        .exports "/org/bluez/hci0/dev_A0_FA_9C_00_00_01" dualSenseInterfaces, .deliver noThrow,
        .changes "/org/bluez/hci0/dev_A0_FA_9C_00_00_01" disconnected,
        .deliver noThrow]) :=
  cache_converges .dualSense ∅ (by simp) (.init 3) ⟨[], []⟩ ⟨[], []⟩ _
    ⟨⟨rfl, by simp [start]⟩, trivial, exports_dualSense (by decide), ⟨rfl, by decide⟩,
      ⟨by decide, by decide⟩, ⟨rfl, by decide⟩, trivial⟩
    ⟨trivial, trivial, trivial, trivial, fun hout => absurd (by decide) hout, trivial, trivial⟩
    ⟨rfl, rfl⟩

/-- The controller disconnects after BlueZ has announced it and before the
client has installed the match rule. -/
theorem cache_stale_after_early_change :
    ¬ ∀ (pad : Pad) (daemon : Std.ExtTreeMap String PropertyMap),
      (∀ (objectPath : String) (properties : PropertyMap),
        daemon[objectPath]? = some properties → WellTyped properties) →
      ∀ (loop : EventLoop Nat) (bt usb : Hidraw.Scan) (as : List Act),
        (system pad).Valid (start pad daemon loop bt usb) as →
        Settled ((system pad).after (start pad daemon loop bt usb) as) →
        Converged ((system pad).after (start pad daemon loop bt usb) as) := by
  intro h
  have hc := h .dualSense ∅ (by simp) (.init 3) ⟨[], []⟩ ⟨[], []⟩
    [.getManagedObjects [], .scan noThrow,
      .exports "/org/bluez/hci0/dev_A0_FA_9C_00_00_01" dualSenseInterfaces,
      .changes "/org/bluez/hci0/dev_A0_FA_9C_00_00_01" disconnected,
      .deliver noThrow]
    ⟨⟨rfl, by simp [start]⟩, trivial, exports_dualSense (by decide), ⟨by decide, by decide⟩,
      ⟨rfl, by decide⟩, trivial⟩
    ⟨rfl, rfl⟩
  obtain ⟨properties, hp, hcurrent⟩ := hc "/org/bluez/hci0/dev_A0_FA_9C_00_00_01"
    { Properties.empty with
      address := "A0:FA:9C:00:00:01"
      connected := true
      modalias := some ⟨"054C", "0CE6", "0100"⟩
      paired := true
      trusted := true } rfl
  have hp : some (dualSenseDevice ∪ disconnected) = some properties := hp
  obtain rfl := Option.some.inj hp
  have hconnected := hcurrent.connected
  revert hconnected
  decide

end SdbusExamples.DeviceCache
