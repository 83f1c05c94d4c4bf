import SdbusExamples.BluezClient
import SdbusExamples.ExportedObjects
import SdbusExamples.Runs
import SdbusExamples.StoppingLoops

namespace SdbusExamples.ClientStores

open BluezClient LatestEvents PathMaps ResourceLimits Runs StoppingLoops Variants
open ExportedObjects (Branches Signal tells)

inductive Change
  | added (startDiscovery : Bool) (objectPath interface : String) (properties : PropertyMap)
  | removed (objectPath interface : String)

def apply (c : Client) : Change → Client × Bool
  | .added startDiscovery objectPath interface properties =>
      c.addInterface startDiscovery objectPath interface properties
  | .removed objectPath interface => (c.removeInterface objectPath interface, true)

inductive Event
  | interfacesAdded (startDiscovery : String → Bool) (objectPath : String)
      (interfacesAndProperties : Interfaces)
  | interfacesRemoved (objectPath : String) (interfaces : List String)

def handle (c : Client) : Event → Client × Bool
  | .interfacesAdded startDiscovery objectPath interfacesAndProperties =>
      c.onInterfacesAdded startDiscovery objectPath interfacesAndProperties
  | .interfacesRemoved objectPath interfaces => (c.onInterfacesRemoved objectPath interfaces, true)

def additions (startDiscovery : Bool) (objectPath : String) (entries : List (String × PropertyMap)) :
    List Change :=
  entries.map fun e => .added startDiscovery objectPath e.1 e.2

def changes : Event → List Change
  | .interfacesAdded startDiscovery objectPath interfacesAndProperties =>
      additions (startDiscovery objectPath) objectPath interfacesAndProperties.toList
  | .interfacesRemoved objectPath interfaces => interfaces.map (.removed objectPath)

/-- The runs in which no constructor of a proxy throws. -/
def system : System Client Event := ⟨fun c e => (handle c e).2 = true, fun c e => (handle c e).1⟩

def rounds : System Client Change := ⟨fun c ch => (apply c ch).2 = true, fun c ch => (apply c ch).1⟩

/-- The property with the parent of an object, which the client insists on. -/
def parent : Store → Option String
  | .gattCharacteristics => some "Service"
  | .gattDescriptors => some "Characteristic"
  | _ => none

def ParentMissing (k : Store) (properties : PropertyMap) : Prop :=
  ∃ key, parent k = some key ∧ getProperty properties key = none

def Full (c : Client) (k : Store) : Prop := isAtCapacity (c.stores k).size k.limit = true

instance (c : Client) (k : Store) : Decidable (Full c k) :=
  inferInstanceAs (Decidable (_ = true))

def Skipped (c : Client) (k : Store) (objectPath : String) (properties : PropertyMap) : Prop :=
  ParentMissing k properties ∨ objectPath ∉ c.stores k ∧ Full c k

def signal : Change → Signal
  | .added _ objectPath interface _ => .added objectPath interface
  | .removed objectPath interface => .removed objectPath interface

def touch (k : Store) (objectPath : String) (ch : Change) : Option Bool :=
  tells objectPath k.interfaceName (signal ch)

def memberName : Member → Option String
  | .store k => some k.interfaceName
  | .manager m => some m.interfaceName
  | .none => none

def branches : Branches Member where
  branch := member
  name := memberName
  named interface n h := by
    unfold member at h
    split at h <;> first
      | cases h; rfl
      | cases h
  taken m n h := by
    cases m with
    | none => cases h
    | store k => cases k <;> cases h <;> rfl
    | manager k => cases k <;> cases h <;> rfl

theorem member_eq_store_iff (interface : String) (k : Store) :
    member interface = .store k ↔ interface = k.interfaceName :=
  branches.branch_eq_iff rfl interface

theorem member_eq_manager_iff (interface : String) (m : Manager) :
    member interface = .manager m ↔ interface = m.interfaceName :=
  branches.branch_eq_iff rfl interface

section Fields

variable (c : Client) (k l : Store) (m n : Manager)

@[simp] theorem stores_setStore_self (s : Std.ExtTreeMap String k.Proxy) :
    (c.setStore k s).stores k = s := by
  simp [Client.setStore]

@[simp] theorem stores_setStore_of_ne (h : l ≠ k) (s : Std.ExtTreeMap String k.Proxy) :
    (c.setStore k s).stores l = c.stores l := by
  simp [Client.setStore, h]

@[simp] theorem managers_setStore (s : Std.ExtTreeMap String k.Proxy) :
    (c.setStore k s).managers = c.managers := rfl

@[simp] theorem stores_setManager (p : Option (String × m.Proxy)) :
    (c.setManager m p).stores = c.stores := rfl

@[simp] theorem managers_setManager_self (p : Option (String × m.Proxy)) :
    (c.setManager m p).managers m = p := by
  simp [Client.setManager]

@[simp] theorem managers_setManager_of_ne (h : n ≠ m) (p : Option (String × m.Proxy)) :
    (c.setManager m p).managers n = c.managers n := by
  simp [Client.setManager, h]

end Fields

theorem addAbsent_of_full {c : Client} {k : Store} (h : Full c k) (startDiscovery : Bool)
    (objectPath : String) (properties : PropertyMap) :
    c.addAbsent startDiscovery k objectPath properties = (c, true) := by
  rw [Client.addAbsent]
  split_ifs with hmem hfull
  · rfl
  · rfl
  · exact absurd h hfull

theorem addAbsent_of_room {c : Client} {k : Store} {objectPath : String}
    (hmem : objectPath ∉ c.stores k) (hfull : ¬ Full c k) (startDiscovery : Bool)
    (properties : PropertyMap) :
    c.addAbsent startDiscovery k objectPath properties =
      c.emplace startDiscovery k objectPath properties := by
  rw [Client.addAbsent, if_neg hmem]
  exact if_neg hfull

/-- Both styles of branch: the addition is passed over, or an entry stays as
it is, or the map gets a new proxy for the path. -/
theorem addToStore_cases (c : Client) (startDiscovery : Bool) (k : Store) (objectPath : String)
    (properties : PropertyMap) :
    c.addToStore startDiscovery k objectPath properties = (c, true) ∧
        (Skipped c k objectPath properties ∨ objectPath ∈ c.stores k) ∨
      c.addToStore startDiscovery k objectPath properties =
          c.emplace startDiscovery k objectPath properties ∧
        ¬ Skipped c k objectPath properties := by
  have habsent : parent k = none → c.addToStore startDiscovery k objectPath properties =
      c.addAbsent startDiscovery k objectPath properties := by
    intro h
    cases k <;> first | rfl | cases h
  have hreplace : ∀ key, parent k = some key → c.addToStore startDiscovery k objectPath properties =
      c.addOrReplace startDiscovery k key objectPath properties := by
    intro key h
    cases k <;> first | (obtain rfl := Option.some.inj h; rfl) | cases h
  cases hparent : parent k with
  | none =>
      have hnotMissing : ¬ ParentMissing k properties := by
        rintro ⟨key, hkey, -⟩
        rw [hparent] at hkey
        cases hkey
      rw [habsent hparent]
      by_cases hmem : objectPath ∈ c.stores k
      · exact .inl ⟨if_pos hmem, .inr hmem⟩
      · by_cases hfull : Full c k
        · exact .inl ⟨addAbsent_of_full hfull _ _ _, .inl (.inr ⟨hmem, hfull⟩)⟩
        · refine .inr ⟨addAbsent_of_room hmem hfull _ _, ?_⟩
          rintro (h | h)
          · exact hnotMissing h
          · exact hfull h.2
  | some key =>
      rw [hreplace key hparent, Client.addOrReplace]
      cases hget : getProperty properties key with
      | none => exact .inl ⟨rfl, .inl (.inl ⟨key, hparent, hget⟩)⟩
      | some path =>
          by_cases hfull : objectPath ∉ c.stores k ∧ Full c k
          · exact .inl ⟨if_pos hfull, .inl (.inr hfull)⟩
          · refine .inr ⟨if_neg hfull, ?_⟩
            rintro (⟨key', hkey', hmissing⟩ | h)
            · obtain rfl := Option.some.inj (hparent.symm.trans hkey')
              rw [hget] at hmissing
              cases hmissing
            · exact hfull h

theorem addInterface_store (c : Client) (startDiscovery : Bool) (objectPath : String) (k : Store)
    (properties : PropertyMap) :
    c.addInterface startDiscovery objectPath k.interfaceName properties =
      c.addToStore startDiscovery k objectPath properties := by
  rw [Client.addInterface, (member_eq_store_iff _ k).2 rfl]

theorem addInterface_manager (c : Client) (startDiscovery : Bool) (objectPath : String) (m : Manager)
    (properties : PropertyMap) :
    c.addInterface startDiscovery objectPath m.interfaceName properties =
      c.replaceManager m objectPath properties := by
  rw [Client.addInterface, (member_eq_manager_iff _ m).2 rfl]

theorem removeInterface_store (c : Client) (objectPath : String) (k : Store) :
    c.removeInterface objectPath k.interfaceName =
      c.setStore k ((c.stores k).erase objectPath) := by
  rw [Client.removeInterface, (member_eq_store_iff _ k).2 rfl]

theorem removeInterface_manager (c : Client) (objectPath : String) (m : Manager) :
    c.removeInterface objectPath m.interfaceName = c.setManager m none := by
  rw [Client.removeInterface, (member_eq_manager_iff _ m).2 rfl]

theorem stores_replaceManager (c : Client) (m : Manager) (objectPath : String)
    (properties : PropertyMap) :
    (c.replaceManager m objectPath properties).1.stores = c.stores := by
  unfold Client.replaceManager
  cases m.construct properties <;> rfl

theorem emplace_cases (c : Client) (startDiscovery : Bool) (k : Store) (objectPath : String)
    (properties : PropertyMap) :
    (∃ proxy, k.construct startDiscovery properties = some proxy ∧
        c.emplace startDiscovery k objectPath properties =
          (c.setStore k ((c.stores k).insert objectPath proxy), true)) ∨
      k.construct startDiscovery properties = none ∧
        c.emplace startDiscovery k objectPath properties = (c, false) := by
  rw [Client.emplace]
  cases k.construct startDiscovery properties with
  | none => exact .inr ⟨rfl, rfl⟩
  | some proxy => exact .inl ⟨proxy, rfl, rfl⟩

theorem stores_apply_cases (c : Client) (ch : Change) (k : Store) :
    (apply c ch).1.stores k = c.stores k ∨
      (∃ startDiscovery q properties proxy,
        ch = .added startDiscovery q k.interfaceName properties ∧ ¬ Skipped c k q properties ∧
          (apply c ch).1.stores k = (c.stores k).insert q proxy) ∨
      ∃ q, ch = .removed q k.interfaceName ∧ (apply c ch).1.stores k = (c.stores k).erase q := by
  cases ch with
  | added startDiscovery q interface properties =>
      cases hmember : member interface with
      | store l =>
          obtain rfl := (member_eq_store_iff interface l).1 hmember
          rw [apply, addInterface_store]
          rcases addToStore_cases c startDiscovery l q properties with ⟨he, -⟩ | ⟨he, hnot⟩
          · left
            rw [he]
          · rw [he]
            rcases emplace_cases c startDiscovery l q properties with ⟨proxy, -, hp⟩ | ⟨-, hp⟩
            · rw [hp]
              by_cases hkl : k = l
              · subst hkl
                exact .inr (.inl ⟨_, q, properties, proxy, rfl, hnot, stores_setStore_self ..⟩)
              · exact .inl (stores_setStore_of_ne _ _ _ hkl _)
            · left
              rw [hp]
      | manager m =>
          obtain rfl := (member_eq_manager_iff interface m).1 hmember
          left
          rw [apply, addInterface_manager, stores_replaceManager]
      | none =>
          left
          rw [apply, Client.addInterface, hmember]
  | removed q interface =>
      cases hmember : member interface with
      | store l =>
          obtain rfl := (member_eq_store_iff interface l).1 hmember
          rw [apply, removeInterface_store]
          by_cases hkl : k = l
          · subst hkl
            exact .inr (.inr ⟨q, rfl, stores_setStore_self ..⟩)
          · exact .inl (stores_setStore_of_ne _ _ _ hkl _)
      | manager m =>
          obtain rfl := (member_eq_manager_iff interface m).1 hmember
          left
          rw [apply, removeInterface_manager, stores_setManager]
      | none =>
          left
          rw [apply, Client.removeInterface, hmember]

@[simp] theorem touch_added_self (k : Store) (startDiscovery : Bool) (q r : String)
    (properties : PropertyMap) :
    touch k q (.added startDiscovery r k.interfaceName properties) =
      if r = q then some true else none := by
  simp [touch, tells, signal]

@[simp] theorem touch_removed_self (k : Store) (q r : String) :
    touch k q (.removed r k.interfaceName) = if r = q then some false else none := by
  simp [touch, tells, signal]

theorem eq_added_of_touch {k : Store} {q : String} {ch : Change} (h : touch k q ch = some true) :
    ∃ startDiscovery properties, ch = .added startDiscovery q k.interfaceName properties := by
  cases ch with
  | added startDiscovery r interface properties =>
      rw [touch, signal, tells] at h
      split_ifs at h with hq
      exact ⟨startDiscovery, properties, by rw [hq.1, hq.2]⟩
  | removed r interface =>
      rw [touch, signal, tells] at h
      split_ifs at h
      cases h

theorem eq_removed_of_touch {k : Store} {q : String} {ch : Change} (h : touch k q ch = some false) :
    ch = .removed q k.interfaceName := by
  cases ch with
  | added startDiscovery r interface properties =>
      rw [touch, signal, tells] at h
      split_ifs at h
      cases h
  | removed r interface =>
      rw [touch, signal, tells] at h
      split_ifs at h with hq
      rw [hq.1, hq.2]

/-- A change that is not about an entry leaves it alone, also when it fails. -/
theorem lookup_of_untouched {k : Store} {q : String} {ch : Change} (h : touch k q ch = none)
    (c : Client) : ((apply c ch).1.stores k)[q]? = (c.stores k)[q]? := by
  rcases stores_apply_cases c ch k with hk | ⟨_, r, _, proxy, rfl, -, hk⟩ | ⟨r, rfl, hk⟩
  · rw [hk]
  · rw [touch_added_self] at h
    rw [hk, getElem?_insert_path, if_neg (by simpa using h)]
  · rw [touch_removed_self] at h
    rw [hk, getElem?_erase_path, if_neg (by simpa using h)]

theorem mem_of_untouched {k : Store} {q : String} {ch : Change} (h : touch k q ch = none)
    (c : Client) : q ∈ (apply c ch).1.stores k ↔ q ∈ c.stores k := by
  rw [mem_iff_getElem?, mem_iff_getElem?, lookup_of_untouched h]

theorem not_mem_of_removed (c : Client) (k : Store) (q : String) :
    q ∉ (apply c (.removed q k.interfaceName)).1.stores k := by
  rw [apply, removeInterface_store, stores_setStore_self, mem_erase_path]
  exact fun h => h.1 rfl

theorem mem_of_added {c : Client} {k : Store} {q : String} {startDiscovery : Bool}
    {properties : PropertyMap}
    (h : (apply c (.added startDiscovery q k.interfaceName properties)).2 = true) :
    q ∈ (apply c (.added startDiscovery q k.interfaceName properties)).1.stores k ↔
      q ∈ c.stores k ∨ ¬ Skipped c k q properties := by
  rw [apply, addInterface_store] at h ⊢
  rcases addToStore_cases c startDiscovery k q properties with ⟨he, hcase⟩ | ⟨he, hnot⟩
  · rw [he]
    constructor
    · exact .inl
    · rintro (hmem | hnot)
      · exact hmem
      · exact hcase.resolve_left hnot
  · rw [he] at h ⊢
    rcases emplace_cases c startDiscovery k q properties with ⟨proxy, -, hp⟩ | ⟨-, hp⟩
    · rw [hp, stores_setStore_self, mem_insert_path]
      exact iff_of_true (.inl rfl) (.inr hnot)
    · rw [hp] at h
      cases h

theorem mem_of_mem_of_added {c : Client} {k : Store} {q : String} {startDiscovery : Bool}
    {properties : PropertyMap} (h : q ∈ c.stores k) :
    q ∈ (apply c (.added startDiscovery q k.interfaceName properties)).1.stores k := by
  rcases stores_apply_cases c (.added startDiscovery q k.interfaceName properties) k with
    hk | ⟨_, r, _, proxy, -, -, hk⟩ | ⟨r, hr, -⟩
  · rwa [hk]
  · rw [hk, mem_insert_path]
    exact .inr h
  · cases hr

theorem size_apply_le {c : Client} {k : Store} (h : (c.stores k).size ≤ k.limit) (ch : Change) :
    ((apply c ch).1.stores k).size ≤ k.limit := by
  rcases stores_apply_cases c ch k with hk | ⟨_, q, _, proxy, -, hnot, hk⟩ | ⟨q, -, hk⟩
  · rwa [hk]
  · rw [hk]
    refine size_insert_le_of _ _ _ h ?_
    by_cases hmem : q ∈ c.stores k
    · exact .inl hmem
    · have hroom : ¬ Full c k := fun hfull => hnot (.inr ⟨hmem, hfull⟩)
      exact .inr (by simpa [Full, isAtCapacity] using hroom)
  · rw [hk]
    exact Std.ExtTreeMap.size_erase_le.trans h

theorem addInterfaces_eq (c : Client) (startDiscovery : Bool) (objectPath : String)
    (entries : List (String × PropertyMap)) :
    c.addInterfaces startDiscovery objectPath entries =
      goThrough apply c (additions startDiscovery objectPath entries) := by
  induction entries generalizing c with
  | nil => rfl
  | cons e rest ih =>
      rw [additions, List.map_cons, goThrough, Client.addInterfaces, apply]
      rcases c.addInterface startDiscovery objectPath e.1 e.2 with ⟨d, _ | _⟩
      · rfl
      · exact ih d

theorem addInterfaces_rounds (c : Client) (startDiscovery : Bool) (objectPath : String)
    (entries : List (String × PropertyMap)) :
    (c.addInterfaces startDiscovery objectPath entries).2 = true ↔
      rounds.Valid c (additions startDiscovery objectPath entries) := by
  rw [addInterfaces_eq]
  exact goThrough_succeeds_iff

theorem after_addInterfaces {c : Client} {startDiscovery : Bool} {objectPath : String}
    {entries : List (String × PropertyMap)}
    (h : (c.addInterfaces startDiscovery objectPath entries).2 = true) :
    rounds.after c (additions startDiscovery objectPath entries) =
      (c.addInterfaces startDiscovery objectPath entries).1 := by
  rw [addInterfaces_eq] at h ⊢
  exact after_goThrough h

theorem removals_rounds (c : Client) (objectPath : String) (interfaces : List String) :
    rounds.Valid c (interfaces.map (.removed objectPath)) ∧
      rounds.after c (interfaces.map (.removed objectPath)) =
        c.onInterfacesRemoved objectPath interfaces := by
  induction interfaces generalizing c with
  | nil => exact ⟨trivial, rfl⟩
  | cons interface rest ih =>
      obtain ⟨hv, hafter⟩ := ih (c.removeInterface objectPath interface)
      exact ⟨⟨rfl, hv⟩, hafter⟩

theorem handle_rounds {c : Client} {e : Event} (h : (handle c e).2 = true) :
    rounds.Valid c (changes e) ∧ rounds.after c (changes e) = (handle c e).1 := by
  cases e with
  | interfacesAdded startDiscovery objectPath interfacesAndProperties =>
      exact ⟨(addInterfaces_rounds _ _ _ _).1 h, after_addInterfaces h⟩
  | interfacesRemoved objectPath interfaces => exact removals_rounds c objectPath interfaces

def history (es : List Event) : List Change := es.flatMap changes

theorem run_rounds {c : Client} {es : List Event} (hv : system.Valid c es) :
    rounds.Valid c (history es) ∧ rounds.after c (history es) = system.after c es := by
  induction es generalizing c with
  | nil => exact ⟨trivial, rfl⟩
  | cons e es ih =>
      obtain ⟨hvalid, hafter⟩ := handle_rounds hv.1
      obtain ⟨hvs, hafters⟩ := ih hv.2
      have hrest : rounds.after c (changes e) = system.next c e := hafter
      rw [history, List.flatMap_cons, System.valid_append, System.after_append, hrest]
      exact ⟨⟨hvalid, hvs⟩, hafters⟩

theorem mem_of_not_removed {k : Store} {q : String} {chs : List Change}
    (h : ∀ ch ∈ chs, touch k q ch ≠ some false) {c : Client} (hq : q ∈ c.stores k) :
    q ∈ (rounds.after c chs).stores k := by
  induction chs generalizing c with
  | nil => exact hq
  | cons ch chs ih =>
      rw [List.forall_mem_cons] at h
      refine ih h.2 ?_
      cases ht : touch k q ch with
      | none => exact (mem_of_untouched ht c).2 hq
      | some b =>
          cases b with
          | false => exact absurd ht h.1
          | true =>
              obtain ⟨_, _, rfl⟩ := eq_added_of_touch ht
              exact mem_of_mem_of_added hq

theorem lookup_after_of_untouched {k : Store} {q : String} {chs : List Change}
    (h : ∀ ch ∈ chs, touch k q ch = none) (c : Client) :
    ((rounds.after c chs).stores k)[q]? = (c.stores k)[q]? := by
  induction chs generalizing c with
  | nil => rfl
  | cons ch chs ih =>
      rw [List.forall_mem_cons] at h
      exact (ih h.2 _).trans (lookup_of_untouched h.1 c)

theorem latest_of_mem {k : Store} {q : String} {chs : List Change} {c : Client}
    (h : q ∈ (rounds.after c chs).stores k) :
    latest (touch k q) (decide (q ∈ c.stores k)) chs = true := by
  induction chs using List.reverseRecOn with
  | nil => simpa using h
  | append_singleton chs ch ih =>
      rw [System.after_append] at h
      rw [latest_append, latest_cons, latest_nil]
      cases ht : touch k q ch with
      | none => exact ih ((mem_of_untouched ht _).1 h)
      | some b =>
          cases b with
          | true => rfl
          | false =>
              obtain rfl := eq_removed_of_touch ht
              exact absurd h (not_mem_of_removed _ k q)

def LastSkipped (k : Store) (q : String) (chs : List Change) : Prop :=
  ∃ pre startDiscovery properties post,
    chs = pre ++ .added startDiscovery q k.interfaceName properties :: post ∧
      (∀ ch ∈ post, touch k q ch = none) ∧ Skipped (rounds.after .empty pre) k q properties

/-- The map refines the exports that the changes describe, within its limit. -/
structure Refines (k : Store) (chs : List Change) (c : Client) : Prop where
  bounded : (c.stores k).size ≤ k.limit
  sound : ∀ q, q ∈ c.stores k → latest (touch k q) false chs = true
  kept : ∀ pre post, chs = pre ++ post → ∀ q, q ∈ (rounds.after .empty pre).stores k →
    (∀ ch ∈ post, touch k q ch ≠ some false) → q ∈ c.stores k
  unchanged : ∀ pre post, chs = pre ++ post → ∀ q, (∀ ch ∈ post, touch k q ch = none) →
    (c.stores k)[q]? = ((rounds.after .empty pre).stores k)[q]?
  complete : ∀ q, latest (touch k q) false chs = true → q ∈ c.stores k ∨ LastSkipped k q chs

theorem bounded_after {k : Store} {c : Client} (h : (c.stores k).size ≤ k.limit)
    (chs : List Change) : ((rounds.after c chs).stores k).size ≤ k.limit := by
  induction chs generalizing c with
  | nil => exact h
  | cons ch chs ih => exact ih (size_apply_le h ch)

theorem refines_rounds (k : Store) {chs : List Change} (hv : rounds.Valid .empty chs) :
    Refines k chs (rounds.after .empty chs) := by
  constructor
  · exact bounded_after (Nat.zero_le _) chs
  · intro q hq
    simpa [Client.empty] using latest_of_mem hq
  · rintro pre post rfl q hq hpost
    rw [System.after_append]
    exact mem_of_not_removed hpost hq
  · rintro pre post rfl q hpost
    rw [System.after_append]
    exact lookup_after_of_untouched hpost _
  · intro q hq
    obtain ⟨pre, ch, post, rfl, hch, hpost⟩ := exists_last_of_latest hq (by decide)
    obtain ⟨startDiscovery, properties, rfl⟩ := eq_added_of_touch hch
    rw [System.valid_append, System.valid_cons] at hv
    have hmem := mem_of_added hv.2.1
    by_cases hskip : Skipped (rounds.after .empty pre) k q properties
    · exact .inr ⟨pre, startDiscovery, properties, post, rfl, hpost, hskip⟩
    · left
      rw [System.after_append, System.after_cons, mem_iff_getElem?, lookup_after_of_untouched hpost,
        ← mem_iff_getElem?]
      exact hmem.2 (.inr hskip)

/-- In every state that calls of the handlers reach, each of the maps refines
the exports within its limit. -/
theorem stores_refine_exports (k : Store) {es : List Event} (hv : system.Valid .empty es) :
    Refines k (history es) (system.after .empty es) := by
  obtain ⟨hvalid, hafter⟩ := run_rounds hv
  rw [← hafter]
  exact refines_rounds k hvalid

def discovering : PropertyMap :=
  .ofList [("Discovering", Variant.plain (.b true)), ("Powered", Variant.plain (.b true))]

def hci0 : Interfaces := .ofList [("org.bluez.Adapter1", discovering)]

def adapterComesAndGoes : List Event :=
  [.interfacesAdded (fun _ => true) "/org/bluez/hci0" hci0,
    .interfacesRemoved "/org/bluez/hci0" ["org.bluez.Adapter1"]]

theorem hci0_returns :
    (Client.empty.onInterfacesAdded (fun _ => true) "/org/bluez/hci0" hci0).2 = true := by
  decide

theorem stores_refine_exports_adapter :
    Refines .adapters (history adapterComesAndGoes) (system.after .empty adapterComesAndGoes) :=
  stores_refine_exports .adapters ⟨hci0_returns, rfl, trivial⟩

end SdbusExamples.ClientStores
