import SdbusExamples.ClientStores
import SdbusExamples.ExportedObjects

namespace SdbusExamples.ManagerProxies

open BluezClient ClientStores ExportedObjects PathMaps Runs StoppingLoops Variants

/-- The client beside what BlueZ exports according to the signals handled so far. -/
structure World where
  daemon : Objects PropertyMap
  client : Client

def announced (daemon : Objects PropertyMap) : Event → Objects PropertyMap
  | .interfacesAdded _ objectPath interfacesAndProperties =>
      exports daemon objectPath interfacesAndProperties
  | .interfacesRemoved objectPath interfaces => withdraws daemon objectPath interfaces

def next (w : World) (e : Event) : World := ⟨announced w.daemon e, (handle w.client e).1⟩

def system : System World Event := ⟨fun _ _ => True, next⟩

def start : World := ⟨∅, .empty⟩

/-- The member is set exactly while some path exports its interface, and then
it is bound to such a path. -/
structure Follows (m : Manager) (w : World) : Prop where
  isSome_iff : (w.client.managers m).isSome = true ↔ ∃ q, Exported w.daemon q m.interfaceName
  bound : ∀ q proxy, w.client.managers m = some (q, proxy) → Exported w.daemon q m.interfaceName

def before (m : Manager) (interfacesAndProperties : Variants.Interfaces) :
    List (String × PropertyMap) :=
  interfacesAndProperties.toList.takeWhile fun e => e.1 ≠ m.interfaceName

def Reaches (c : Client) (startDiscovery : Bool) (objectPath : String)
    (interfacesAndProperties : Variants.Interfaces) (m : Manager) : Prop :=
  (c.addInterfaces startDiscovery objectPath (before m interfacesAndProperties)).2 = true ∧
    ∃ properties, interfacesAndProperties[m.interfaceName]? = some properties ∧
      (m.construct properties).isSome = true

/-- A message that adds the interface has its turn or comes while the member
is set already, and one that removes it speaks of the last path that exports it. -/
def KeepsTrack (m : Manager) (w : World) : Event → Prop
  | .interfacesAdded startDiscovery objectPath interfacesAndProperties =>
      m.interfaceName ∈ interfacesAndProperties →
        Reaches w.client (startDiscovery objectPath) objectPath interfacesAndProperties m ∨
          ∃ q, Exported w.daemon q m.interfaceName
  | .interfacesRemoved objectPath interfaces =>
      m.interfaceName ∈ interfaces → ∀ q, Exported w.daemon q m.interfaceName → q = objectPath

theorem managers_addToStore (c : Client) (startDiscovery : Bool) (k : Store) (objectPath : String)
    (properties : PropertyMap) :
    (c.addToStore startDiscovery k objectPath properties).1.managers = c.managers := by
  rcases addToStore_cases c startDiscovery k objectPath properties with ⟨he, -⟩ | ⟨he, -⟩
  · rw [he]
  · rw [he]
    rcases emplace_cases c startDiscovery k objectPath properties with ⟨proxy, -, hp⟩ | ⟨-, hp⟩
    · rw [hp, managers_setStore]
    · rw [hp]

theorem managers_addInterface_of_ne {m : Manager} {interface : String} (h : interface ≠ m.interfaceName)
    (c : Client) (startDiscovery : Bool) (objectPath : String) (properties : PropertyMap) :
    (c.addInterface startDiscovery objectPath interface properties).1.managers m = c.managers m := by
  cases hmember : member interface with
  | store k =>
      obtain rfl := (member_eq_store_iff interface k).1 hmember
      rw [addInterface_store, managers_addToStore]
  | manager n =>
      obtain rfl := (member_eq_manager_iff interface n).1 hmember
      have hne : m ≠ n := fun heq => h (congrArg Manager.interfaceName heq.symm)
      rw [addInterface_manager, Client.replaceManager]
      cases n.construct properties with
      | none => rfl
      | some proxy => exact managers_setManager_of_ne c n m hne _
  | none => rw [Client.addInterface, hmember]

theorem managers_addInterfaces_of_not_mem {m : Manager} {entries : List (String × PropertyMap)}
    (h : ∀ e ∈ entries, e.1 ≠ m.interfaceName) (c : Client) (startDiscovery : Bool)
    (objectPath : String) :
    (c.addInterfaces startDiscovery objectPath entries).1.managers m = c.managers m := by
  have hround : ∀ d, ∀ ch ∈ additions startDiscovery objectPath entries,
      d.managers m = c.managers m → (apply d ch).1.managers m = c.managers m := by
    intro d ch hch hd
    obtain ⟨e, he, rfl⟩ := List.mem_map.1 hch
    exact (managers_addInterface_of_ne (h e he) d startDiscovery objectPath e.2).trans hd
  rw [addInterfaces_eq]
  exact goThrough_keeps (J := fun d : Client => d.managers m = c.managers m) hround rfl

theorem addInterfaces_append (c : Client) (startDiscovery : Bool) (objectPath : String)
    (pre post : List (String × PropertyMap)) :
    c.addInterfaces startDiscovery objectPath (pre ++ post) =
      match c.addInterfaces startDiscovery objectPath pre with
      | (d, true) => d.addInterfaces startDiscovery objectPath post
      | (d, false) => (d, false) := by
  rw [addInterfaces_eq, addInterfaces_eq, additions, List.map_append, goThrough_append, additions]
  generalize goThrough apply c (List.map _ pre) = r
  rcases r with ⟨d, _ | _⟩
  · rfl
  · exact (addInterfaces_eq d startDiscovery objectPath post).symm

theorem split_at_interface {interfacesAndProperties : Variants.Interfaces} {interface : String}
    {properties : PropertyMap} (h : interfacesAndProperties[interface]? = some properties) :
    ∃ pre post, interfacesAndProperties.toList = pre ++ (interface, properties) :: post ∧
      (∀ e ∈ pre, e.1 ≠ interface) ∧ ∀ e ∈ post, e.1 ≠ interface := by
  obtain ⟨pre, post, hsplit⟩ := List.append_of_mem ((mem_toList_path _ _ _).2 h)
  have hdistinct := Std.ExtTreeMap.distinct_keys_toList (t := interfacesAndProperties)
  rw [hsplit, List.pairwise_append, List.pairwise_cons] at hdistinct
  obtain ⟨-, ⟨hpost, -⟩, hpre⟩ := hdistinct
  refine ⟨pre, post, hsplit, fun e he heq => ?_, fun e he heq => ?_⟩
  · exact hpre e he _ List.mem_cons_self (by simp [heq])
  · exact hpost e he (by simp [heq])

theorem reaches_iff {m : Manager} {interfacesAndProperties : Variants.Interfaces}
    {pre post : List (String × PropertyMap)} {properties : PropertyMap}
    (hsplit : interfacesAndProperties.toList = pre ++ (m.interfaceName, properties) :: post)
    (hpre : ∀ e ∈ pre, e.1 ≠ m.interfaceName) (c : Client) (startDiscovery : Bool)
    (objectPath : String) :
    Reaches c startDiscovery objectPath interfacesAndProperties m ↔
      (c.addInterfaces startDiscovery objectPath pre).2 = true ∧
        (m.construct properties).isSome = true := by
  have hbefore : before m interfacesAndProperties = pre := by
    rw [before, hsplit, List.takeWhile_append_of_pos (by simpa using hpre)]
    simp
  have hget : interfacesAndProperties[m.interfaceName]? = some properties := by
    rw [← mem_toList_path, hsplit]
    exact List.mem_append_right _ List.mem_cons_self
  rw [Reaches, hbefore, hget]
  simp

theorem managers_onInterfacesAdded {m : Manager} {interfacesAndProperties : Variants.Interfaces}
    (h : m.interfaceName ∈ interfacesAndProperties) (c : Client) (startDiscovery : String → Bool)
    (objectPath : String) :
    Reaches c (startDiscovery objectPath) objectPath interfacesAndProperties m ∧
        (∃ proxy, (c.onInterfacesAdded startDiscovery objectPath interfacesAndProperties).1.managers m =
          some (objectPath, proxy)) ∨
      ¬ Reaches c (startDiscovery objectPath) objectPath interfacesAndProperties m ∧
        (c.onInterfacesAdded startDiscovery objectPath interfacesAndProperties).1.managers m =
          c.managers m := by
  obtain ⟨properties, hp⟩ := (mem_iff_getElem? _).1 h
  obtain ⟨pre, post, hsplit, hpre, hpost⟩ := split_at_interface hp
  have hbefore := managers_addInterfaces_of_not_mem hpre c (startDiscovery objectPath) objectPath
  rw [reaches_iff hsplit hpre, Client.onInterfacesAdded, hsplit, addInterfaces_append]
  generalize c.addInterfaces (startDiscovery objectPath) objectPath pre = r at hbefore ⊢
  obtain ⟨d, b⟩ := r
  cases b with
  | false => exact .inr ⟨fun hr => absurd hr.1 Bool.false_ne_true, hbefore⟩
  | true =>
      simp only [Client.addInterfaces, addInterface_manager, Client.replaceManager]
      cases hc : m.construct properties with
      | none => exact .inr ⟨fun hr => absurd hr.2 Bool.false_ne_true, hbefore⟩
      | some proxy =>
          refine .inl ⟨⟨trivial, rfl⟩, proxy, ?_⟩
          exact (managers_addInterfaces_of_not_mem hpost _ _ _).trans (managers_setManager_self ..)

theorem managers_removeInterface (c : Client) (objectPath interface : String) (m : Manager) :
    (c.removeInterface objectPath interface).managers m =
      if interface = m.interfaceName then none else c.managers m := by
  by_cases hi : interface = m.interfaceName
  · subst hi
    rw [removeInterface_manager, managers_setManager_self, if_pos rfl]
  · rw [if_neg hi]
    cases hmember : member interface with
    | store k =>
        obtain rfl := (member_eq_store_iff interface k).1 hmember
        rw [removeInterface_store, managers_setStore]
    | manager n =>
        obtain rfl := (member_eq_manager_iff interface n).1 hmember
        have hne : m ≠ n := fun heq => hi (congrArg Manager.interfaceName heq.symm)
        rw [removeInterface_manager, managers_setManager_of_ne _ _ _ hne]
    | none => rw [Client.removeInterface, hmember]

theorem managers_onInterfacesRemoved (c : Client) (objectPath : String) (interfaces : List String)
    (m : Manager) :
    (c.onInterfacesRemoved objectPath interfaces).managers m =
      if m.interfaceName ∈ interfaces then none else c.managers m := by
  induction interfaces generalizing c with
  | nil => rfl
  | cons interface rest ih =>
      have hstep : c.onInterfacesRemoved objectPath (interface :: rest) =
        (c.removeInterface objectPath interface).onInterfacesRemoved objectPath rest := rfl
      rw [hstep, ih, managers_removeInterface]
      by_cases hi : interface = m.interfaceName
      · simp [hi]
      · simp [hi, Ne.symm hi]

theorem follows_unrelated {m : Manager} {w w' : World} (h : Follows m w)
    (hm : w'.client.managers m = w.client.managers m)
    (he : ∀ q, Exported w'.daemon q m.interfaceName ↔ Exported w.daemon q m.interfaceName) :
    Follows m w' := by
  constructor
  · rw [hm, h.isSome_iff]
    simp only [he]
  · intro q proxy hq
    rw [hm] at hq
    exact (he q).2 (h.bound q proxy hq)

theorem follows_interfacesAdded_iff {m : Manager} {w : World} (h : Follows m w)
    (startDiscovery : String → Bool) (objectPath : String)
    (interfacesAndProperties : Variants.Interfaces) :
    Follows m (next w (.interfacesAdded startDiscovery objectPath interfacesAndProperties)) ↔
      KeepsTrack m w (.interfacesAdded startDiscovery objectPath interfacesAndProperties) := by
  have hexported := fun q =>
    exported_exports_iff w.daemon objectPath q m.interfaceName interfacesAndProperties
  by_cases hmem : m.interfaceName ∈ interfacesAndProperties
  · have hnow : Exported (next w (.interfacesAdded startDiscovery objectPath
        interfacesAndProperties)).daemon objectPath m.interfaceName :=
      (hexported objectPath).2 (.inl ⟨rfl, hmem⟩)
    rcases managers_onInterfacesAdded hmem w.client startDiscovery objectPath with
      ⟨hr, proxy, hp⟩ | ⟨hr, hsame⟩
    · refine iff_of_true ⟨?_, ?_⟩ fun _ => .inl hr
      · refine iff_of_true ?_ ⟨objectPath, hnow⟩
        show ((w.client.onInterfacesAdded _ _ _).1.managers m).isSome = true
        rw [hp]
        rfl
      · intro q proxy' hq
        obtain ⟨rfl, -⟩ := Prod.mk.inj (Option.some.inj (hp.symm.trans hq))
        exact hnow
    · constructor
      · intro hf _
        right
        rw [← h.isSome_iff, ← hsame]
        exact hf.isSome_iff.2 ⟨objectPath, hnow⟩
      · intro hk
        have hset := h.isSome_iff.2 ((hk hmem).resolve_left hr)
        refine ⟨iff_of_true ?_ ⟨objectPath, hnow⟩, fun q proxy hq => ?_⟩
        · rw [← hsame] at hset
          exact hset
        · exact (hexported q).2 (.inr (h.bound q proxy (hsame.symm.trans hq)))
  · refine iff_of_true (follows_unrelated h ?_ fun q => ?_) fun hin => absurd hin hmem
    · apply managers_addInterfaces_of_not_mem
      rintro ⟨interface, properties⟩ he rfl
      rw [mem_toList_path] at he
      exact hmem ((mem_iff_getElem? _).2 ⟨properties, he⟩)
    · refine (hexported q).trans ?_
      simp [hmem]

theorem follows_interfacesRemoved_iff {m : Manager} {w : World} (h : Follows m w)
    (objectPath : String) (interfaces : List String) :
    Follows m (next w (.interfacesRemoved objectPath interfaces)) ↔
      KeepsTrack m w (.interfacesRemoved objectPath interfaces) := by
  have hexported := fun q =>
    exported_withdraws_iff w.daemon objectPath q m.interfaceName interfaces
  have hm := managers_onInterfacesRemoved w.client objectPath interfaces m
  by_cases hmem : m.interfaceName ∈ interfaces
  · rw [if_pos hmem] at hm
    constructor
    · intro hf _ q hq
      by_contra hne
      have hset := hf.isSome_iff.2 ⟨q, (hexported q).2 ⟨hq, fun hcase => hne hcase.1.symm⟩⟩
      have hreset : (next w (.interfacesRemoved objectPath interfaces)).client.managers m = none := hm
      rw [hreset] at hset
      cases hset
    · intro hk
      refine ⟨iff_of_false ?_ ?_, fun q proxy hq => ?_⟩
      · show ¬ ((w.client.onInterfacesRemoved objectPath interfaces).managers m).isSome = true
        rw [hm]
        exact Bool.false_ne_true
      · rintro ⟨q, hq⟩
        obtain ⟨hold, hnot⟩ := (hexported q).1 hq
        exact hnot ⟨(hk hmem q hold).symm, hmem⟩
      · cases hm.symm.trans hq
  · rw [if_neg hmem] at hm
    refine iff_of_true (follows_unrelated h hm fun q => ?_) fun hin => absurd hin hmem
    refine (hexported q).trans ?_
    simp [hmem]

theorem follows_start (m : Manager) : Follows m start := by
  constructor
  · simp [start, Client.empty, Exported, lookup]
  · intro q proxy hq
    cases hq

/-- A run keeps the member in step with the exporters exactly when each of its
messages does. -/
theorem manager_follows_exporters_iff (m : Manager) (es : List Event) :
    system.Always (Follows m) start es ↔ system.Along (KeepsTrack m) start es := by
  apply system.always_iff_along (fun w e h _ => ?_) (follows_start m) (system.along_true _ _)
  cases e with
  | interfacesAdded startDiscovery objectPath interfacesAndProperties =>
      exact follows_interfacesAdded_iff h startDiscovery objectPath interfacesAndProperties
  | interfacesRemoved objectPath interfaces =>
      exact follows_interfacesRemoved_iff h objectPath interfaces

def gattManager : Variants.Interfaces := .ofList [("org.bluez.GattManager1", (∅ : PropertyMap))]

/-- Of two adapters one goes, and with it the proxy for the other. -/
theorem manager_lost_with_other_adapter :
    ¬ ∀ (m : Manager) (es : List Event), system.Always (Follows m) start es := by
  intro h
  have hf := h .gattManager1 [.interfacesAdded (fun _ => true) "/org/bluez/hci0" gattManager,
    .interfacesAdded (fun _ => true) "/org/bluez/hci1" gattManager,
    .interfacesRemoved "/org/bluez/hci1" ["org.bluez.GattManager1"]] _ (List.prefix_refl _)
  have hset := hf.isSome_iff.2 ⟨"/org/bluez/hci0", by decide⟩
  revert hset
  decide

end SdbusExamples.ManagerProxies
