import SdbusExamples.ClientStores
import SdbusExamples.SnapshotScans
import SdbusExamples.ExportedObjects
import Mathlib.Data.List.Dedup
import Mathlib.Data.List.Perm.Subperm

namespace SdbusExamples.ClientConvergence

open BluezClient ClientStores ExportedObjects LatestEvents PathMaps ResourceLimits Runs
  SnapshotScans Variants

structure World where
  daemon : Objects PropertyMap
  bus : List Event
  phase : Phase (String × Variants.Interfaces)
  client : Client

inductive Act
  | exports (objectPath : String) (interfacesAndProperties : Variants.Interfaces)
  | withdraws (objectPath : String) (interfaces : List String)
  | registerProxy
  | getManagedObjects
  | scan
  | deliver

/-- The handler for a message in which every call of StartDiscovery returns. -/
def interfacesAdded (objectPath : String) (interfacesAndProperties : Variants.Interfaces) : Event :=
  .interfacesAdded (fun _ => true) objectPath interfacesAndProperties

/-- The bus has no subscriber before registerProxy(). -/
def send (w : World) (e : Event) : List Event :=
  match w.phase with
  | .unregistered => []
  | _ => w.bus ++ [e]

def next (w : World) : Act → World
  | .exports objectPath interfacesAndProperties =>
      { w with
        daemon := ExportedObjects.exports w.daemon objectPath interfacesAndProperties
        bus := send w (interfacesAdded objectPath interfacesAndProperties) }
  | .withdraws objectPath interfaces =>
      { w with
        daemon := ExportedObjects.withdraws w.daemon objectPath interfaces
        bus := send w (.interfacesRemoved objectPath interfaces) }
  | .registerProxy => { w with phase := .registered }
  | .getManagedObjects => { w with phase := .scanning w.daemon.toList }
  | .scan =>
      match w.phase with
      | .scanning ((object, interfacesAndProperties) :: rest) =>
          match handle w.client (interfacesAdded object interfacesAndProperties) with
          | (client, true) => { w with client, phase := .scanning rest }
          | (_, false) => { w with phase := .failed }
      | .scanning [] => { w with phase := .running }
      | _ => w
  | .deliver =>
      match w.bus with
      | e :: bus => { w with client := (handle w.client e).1, bus }
      | [] => w

/-- The values have the types that the proxies read, and a characteristic or
a descriptor tells its parent. -/
def Accepted (interface : String) (properties : PropertyMap) : Prop :=
  match member interface with
  | .store k => ¬ ParentMissing k properties ∧ (k.construct true properties).isSome = true
  | .manager m => (m.construct properties).isSome = true
  | .none => True

def enabled (w : World) : Act → Prop
  | .exports _ interfacesAndProperties =>
      ∀ (interface : String) (properties : PropertyMap),
        interfacesAndProperties[interface]? = some properties → Accepted interface properties
  | .withdraws _ _ => True
  | .registerProxy => w.phase = .unregistered
  | .getManagedObjects => w.phase = .registered
  | .scan => ∃ rest, w.phase = .scanning rest
  | .deliver => w.phase = .running ∧ w.bus ≠ []

def system : System World Act := ⟨enabled, next⟩

def start (daemon : Objects PropertyMap) : World := ⟨daemon, [], .unregistered, .empty⟩

def paths (k : Store) (daemon : Objects PropertyMap) (as : List Act) : List String :=
  daemon.keys.filter (fun q => Exported daemon q k.interfaceName) ++
    as.filterMap fun
      | .exports objectPath interfacesAndProperties =>
          if k.interfaceName ∈ interfacesAndProperties then some objectPath else none
      | _ => none

def Settled (w : World) : Prop := w.phase = .running ∧ w.bus = []

def Converged (w : World) : Prop :=
  ∀ (k : Store) (q : String), q ∈ w.client.stores k ↔ Exported w.daemon q k.interfaceName

def pending (w : World) : List Event := pendingOf (fun e => interfacesAdded e.1 e.2) w.phase w.bus

def Welcome (room : Store → List String) : Change → Prop
  | .added startDiscovery q interface properties =>
      startDiscovery = true ∧ Accepted interface properties ∧
        ∀ k : Store, interface = k.interfaceName → q ∈ room k
  | .removed _ _ => True

def Within (room : Store → List String) (c : Client) : Prop :=
  ∀ k q, q ∈ c.stores k → q ∈ room k

theorem not_full_of_within {room : Store → List String} {c : Client} {k : Store}
    (hc : Within room c) (hroom : (room k).dedup.length ≤ k.limit) {q : String}
    (hq : q ∈ room k) (hnew : q ∉ c.stores k) : ¬ Full c k := by
  have hnodup : (q :: (c.stores k).keys).Nodup := by
    rw [List.nodup_cons, Std.ExtTreeMap.mem_keys]
    exact ⟨hnew, Std.ExtTreeMap.nodup_keys⟩
  have hsub : q :: (c.stores k).keys ⊆ (room k).dedup := by
    intro p hp
    rw [List.mem_dedup]
    rcases List.mem_cons.1 hp with rfl | hp
    · exact hq
    · exact hc k p (Std.ExtTreeMap.mem_keys.1 hp)
  have hlen := (List.subperm_of_subset hnodup hsub).length_le
  rw [List.length_cons, Std.ExtTreeMap.length_keys] at hlen
  rw [Full, isAtCapacity, decide_eq_true_eq]
  omega

theorem accepted_store_iff {k : Store} {properties : PropertyMap} :
    Accepted k.interfaceName properties ↔
      ¬ ParentMissing k properties ∧ (k.construct true properties).isSome = true := by
  rw [Accepted, (member_eq_store_iff _ k).2 rfl]

theorem accepted_manager_iff {m : Manager} {properties : PropertyMap} :
    Accepted m.interfaceName properties ↔ (m.construct properties).isSome = true := by
  rw [Accepted, (member_eq_manager_iff _ m).2 rfl]

theorem returns_of_accepted {c : Client} {q interface : String} {properties : PropertyMap}
    (h : Accepted interface properties) :
    (apply c (.added true q interface properties)).2 = true := by
  rw [apply]
  cases hmember : member interface with
  | store k =>
      obtain rfl := (member_eq_store_iff interface k).1 hmember
      rw [accepted_store_iff] at h
      rw [addInterface_store]
      rcases addToStore_cases c true k q properties with ⟨he, -⟩ | ⟨he, -⟩
      · rw [he]
      · rw [he]
        rcases emplace_cases c true k q properties with ⟨proxy, -, hp⟩ | ⟨hnone, -⟩
        · rw [hp]
        · rw [hnone] at h
          cases h.2
  | manager m =>
      obtain rfl := (member_eq_manager_iff interface m).1 hmember
      obtain ⟨proxy, hp⟩ := Option.isSome_iff_exists.1 (accepted_manager_iff.1 h)
      rw [addInterface_manager, Client.replaceManager, hp]
  | none => rw [Client.addInterface, hmember]

theorem returns_of_welcome {room : Store → List String} {ch : Change} (h : Welcome room ch)
    (c : Client) : (apply c ch).2 = true := by
  cases ch with
  | added startDiscovery q interface properties =>
      obtain ⟨rfl, haccepted, -⟩ := h
      exact returns_of_accepted haccepted
  | removed q interface => rfl

variable {room : Store → List String} (hroom : ∀ k, (room k).dedup.length ≤ k.limit)

include hroom in
theorem mem_apply_iff {c : Client} (hc : Within room c) {ch : Change} (hch : Welcome room ch)
    (k : Store) (q : String) :
    q ∈ (apply c ch).1.stores k ↔ (touch k q ch).getD (decide (q ∈ c.stores k)) = true := by
  cases ht : touch k q ch with
  | none => simpa using mem_of_untouched ht c
  | some b =>
      cases b with
      | false =>
          obtain rfl := eq_removed_of_touch ht
          simpa using not_mem_of_removed c k q
      | true =>
          obtain ⟨startDiscovery, properties, rfl⟩ := eq_added_of_touch ht
          obtain ⟨rfl, haccepted, hmem⟩ := hch
          rw [mem_of_added (returns_of_accepted haccepted)]
          refine iff_of_true ?_ rfl
          by_cases hq : q ∈ c.stores k
          · exact .inl hq
          · right
            rintro (hmissing | hfull)
            · exact (accepted_store_iff.1 haccepted).1 hmissing
            · exact not_full_of_within hc (hroom k) (hmem k rfl) hq hfull.2

theorem within_apply {c : Client} (hc : Within room c) {ch : Change} (hch : Welcome room ch) :
    Within room (apply c ch).1 := by
  intro k q hq
  rcases stores_apply_cases c ch k with hk | ⟨_, p, _, _, rfl, -, hk⟩ | ⟨p, -, hk⟩
  · rw [hk] at hq
    exact hc k q hq
  · rw [hk, mem_insert_path] at hq
    rcases hq with rfl | hq
    · exact hch.2.2 k rfl
    · exact hc k q hq
  · rw [hk, mem_erase_path] at hq
    exact hc k q hq.2

include hroom in
theorem after_welcome {c : Client} (hc : Within room c) {chs : List Change}
    (h : ∀ ch ∈ chs, Welcome room ch) :
    rounds.Valid c chs ∧ Within room (rounds.after c chs) ∧ ∀ k q,
      decide (q ∈ (rounds.after c chs).stores k) =
        latest (touch k q) (decide (q ∈ c.stores k)) chs := by
  induction chs generalizing c with
  | nil => exact ⟨trivial, hc, fun _ _ => rfl⟩
  | cons ch chs ih =>
      rw [List.forall_mem_cons] at h
      obtain ⟨hvalid, hwithin, hmem⟩ := ih (within_apply hc h.1) h.2
      refine ⟨⟨returns_of_welcome h.1 c, hvalid⟩, hwithin, fun k q => ?_⟩
      have hstep : decide (q ∈ (apply c ch).1.stores k) =
          (touch k q ch).getD (decide (q ∈ c.stores k)) := by
        rw [Bool.eq_iff_iff, decide_eq_true_iff]
        exact mem_apply_iff hroom hc h.1 k q
      rw [latest_cons, ← hstep]
      exact hmem k q

theorem handle_of_valid {c : Client} {e : Event} (h : rounds.Valid c (changes e)) :
    (handle c e).2 = true := by
  cases e with
  | interfacesAdded startDiscovery objectPath interfacesAndProperties =>
      exact (addInterfaces_rounds _ _ _ _).2 h
  | interfacesRemoved objectPath interfaces => rfl

include hroom in
/-- A message that the client handles moves its effect from the queue into the maps. -/
theorem handle_welcome {c : Client} (hc : Within room c) {e : Event} {es : List Event}
    (h : ∀ ch ∈ history (e :: es), Welcome room ch) :
    (handle c e).2 = true ∧ Within room (handle c e).1 ∧ (∀ ch ∈ history es, Welcome room ch) ∧
      ∀ k q, latest (touch k q) (decide (q ∈ (handle c e).1.stores k)) (history es) =
        latest (touch k q) (decide (q ∈ c.stores k)) (history (e :: es)) := by
  rw [history, List.flatMap_cons, List.forall_mem_append] at h
  obtain ⟨hvalid, hwithin, hmem⟩ := after_welcome hroom hc h.1
  have hreturns := handle_of_valid hvalid
  rw [(handle_rounds hreturns).2] at hwithin hmem
  refine ⟨hreturns, hwithin, h.2, fun k q => ?_⟩
  rw [hmem, history, history, List.flatMap_cons, latest_append]

theorem signals_additions (startDiscovery : Bool) (objectPath : String)
    (interfacesAndProperties : Variants.Interfaces) :
    (additions startDiscovery objectPath interfacesAndProperties.toList).map signal =
      interfacesAndProperties.keys.map (.added objectPath) := by
  rw [additions, ← Std.ExtTreeMap.map_fst_toList_eq_keys, List.map_map, List.map_map]
  rfl

theorem latest_interfacesAdded (k : Store) (q : String) (b : Bool) (objectPath : String)
    (interfacesAndProperties : Variants.Interfaces) :
    latest (touch k q) b (changes (interfacesAdded objectPath interfacesAndProperties)) = true ↔
      b = true ∨ objectPath = q ∧ k.interfaceName ∈ interfacesAndProperties := by
  rw [← Std.ExtTreeMap.mem_keys, ← latest_added, ← signals_additions true, latest_map]
  rfl

theorem latest_interfacesRemoved (k : Store) (q : String) (b : Bool) (objectPath : String)
    (interfaces : List String) :
    latest (touch k q) b (changes (.interfacesRemoved objectPath interfaces)) = true ↔
      b = true ∧ ¬ (objectPath = q ∧ k.interfaceName ∈ interfaces) := by
  have hsignals : (changes (.interfacesRemoved objectPath interfaces)).map signal =
      interfaces.map (.removed objectPath) := by
    rw [changes, List.map_map]
    rfl
  rw [← latest_removed, ← hsignals, latest_map]
  rfl

theorem latest_reply (k : Store) (q : String) (b : Bool) (objects : Objects PropertyMap) :
    latest (touch k q) b (history (objects.toList.map fun e => interfacesAdded e.1 e.2)) = true ↔
      b = true ∨ Exported objects q k.interfaceName := by
  have hsignals : (history (objects.toList.map fun e => interfacesAdded e.1 e.2)).map signal =
      snapshot objects := by
    rw [history, snapshot, List.flatMap_map, List.map_flatMap]
    congr
    funext e
    exact signals_additions true e.1 e.2
  rw [← latest_snapshot, ← hsignals, latest_map]
  rfl

def Started (w : World) : Prop :=
  match w.phase with
  | .unregistered | .registered => False
  | _ => True

/-- Before the scan only the effect of the queue on the exports of the moment
of the subscription is known, then its effect on the maps. -/
structure Inv (room : Store → List String) (w : World) : Prop where
  accepted : ∀ q interface properties, lookup w.daemon q interface = some properties →
    Accepted interface properties
  known : ∀ (k : Store) q, Exported w.daemon q k.interfaceName → q ∈ room k
  welcome : ∀ ch ∈ history (pending w), Welcome room ch
  within : Within room w.client
  quiet : w.phase = .unregistered → w.bus = []
  fresh : ¬ Started w → w.client = .empty
  alive : w.phase ≠ .failed
  agrees : ∀ (k : Store) q, ∃ b, (Started w → b = decide (q ∈ w.client.stores k)) ∧
    (latest (touch k q) b (history (pending w)) = true ↔ Exported w.daemon q k.interfaceName)

theorem history_append (es fs : List Event) : history (es ++ fs) = history es ++ history fs :=
  List.flatMap_append

theorem pending_send {w : World} (h : w.phase ≠ .unregistered) (daemon : Objects PropertyMap)
    (e : Event) : pending { w with daemon, bus := send w e } = pending w ++ [e] := by
  rw [pending, pending, ← pendingOf_append, send]
  split
  · exact absurd ‹_› h
  · rfl

theorem inv_sends {w : World} (h : Inv room w) {daemon : Objects PropertyMap} {e : Event}
    (haccepted : ∀ q interface properties, lookup daemon q interface = some properties →
      Accepted interface properties)
    (hin : ∀ (k : Store) q, Exported daemon q k.interfaceName → q ∈ room k)
    (hwelcome : ∀ ch ∈ changes e, Welcome room ch)
    (heffect : ∀ (k : Store) q b, (b = true ↔ Exported w.daemon q k.interfaceName) →
      (latest (touch k q) b (changes e) = true ↔ Exported daemon q k.interfaceName)) :
    Inv room { w with daemon, bus := send w e } := by
  by_cases hphase : w.phase = .unregistered
  · have hsend : send w e = [] := by rw [send, hphase]
    have hpending : pending { w with daemon, bus := send w e } = [] := by
      simp only [pending, hphase, hsend, pendingOf_unregistered]
    have hstarted : ¬ Started { w with daemon, bus := send w e } := by simp [Started, hphase]
    refine ⟨haccepted, hin, ?_, h.within, fun _ => hsend, h.fresh, h.alive, fun k q => ?_⟩
    · rw [hpending]
      intro ch hch
      cases hch
    · refine ⟨decide (Exported daemon q k.interfaceName), fun hs => absurd hs hstarted, ?_⟩
      rw [hpending, history, List.flatMap_nil, latest_nil, decide_eq_true_iff]
  · have hpending := pending_send hphase daemon e
    have hhistory : history (pending w ++ [e]) = history (pending w) ++ changes e := by
      rw [history_append]
      simp [history]
    refine ⟨haccepted, hin, ?_, h.within, fun hp => absurd hp hphase, h.fresh, h.alive, fun k q => ?_⟩
    · rw [hpending, hhistory, List.forall_mem_append]
      exact ⟨h.welcome, hwelcome⟩
    · obtain ⟨b, hb, hlatest⟩ := h.agrees k q
      refine ⟨b, hb, ?_⟩
      rw [hpending, hhistory, latest_append]
      exact heffect k q _ hlatest

def Named (room : Store → List String) : Act → Prop
  | .exports objectPath interfacesAndProperties =>
      ∀ k : Store, k.interfaceName ∈ interfacesAndProperties → objectPath ∈ room k
  | _ => True

theorem welcome_interfacesAdded {objectPath : String}
    {interfacesAndProperties : Variants.Interfaces}
    (ha : ∀ (interface : String) (properties : PropertyMap),
      interfacesAndProperties[interface]? = some properties → Accepted interface properties)
    (hn : ∀ k : Store, k.interfaceName ∈ interfacesAndProperties → objectPath ∈ room k) :
    ∀ ch ∈ changes (interfacesAdded objectPath interfacesAndProperties), Welcome room ch := by
  intro ch hch
  obtain ⟨⟨interface, properties⟩, he, rfl⟩ := List.mem_map.1 hch
  rw [mem_toList_path] at he
  refine ⟨rfl, ha interface properties he, ?_⟩
  rintro k rfl
  exact hn k ((mem_iff_getElem? _).2 ⟨properties, he⟩)

theorem inv_exports {w : World} (h : Inv room w) {objectPath : String}
    {interfacesAndProperties : Variants.Interfaces}
    (he : enabled w (.exports objectPath interfacesAndProperties))
    (hn : Named room (.exports objectPath interfacesAndProperties)) :
    Inv room (next w (.exports objectPath interfacesAndProperties)) := by
  apply inv_sends h
  · intro q interface properties hl
    rw [lookup_exports] at hl
    split_ifs at hl
    · rcases Option.or_eq_some_iff.1 hl with hadded | ⟨-, hold⟩
      · exact he interface properties hadded
      · exact h.accepted q interface properties hold
    · exact h.accepted q interface properties hl
  · intro k q hq
    rcases (exported_exports_iff _ _ _ _ _).1 hq with ⟨rfl, hmem⟩ | hold
    · exact hn k hmem
    · exact h.known k q hold
  · exact welcome_interfacesAdded he hn
  · intro k q b hb
    rw [latest_interfacesAdded, exported_exports_iff, hb, or_comm]

theorem inv_withdraws {w : World} (h : Inv room w) (objectPath : String) (interfaces : List String) :
    Inv room (next w (.withdraws objectPath interfaces)) := by
  apply inv_sends h
  · intro q interface properties hl
    rw [lookup_withdraws] at hl
    split_ifs at hl
    exact h.accepted q interface properties hl
  · intro k q hq
    exact h.known k q ((exported_withdraws_iff _ _ _ _ _).1 hq).1
  · intro ch hch
    obtain ⟨interface, -, rfl⟩ := List.mem_map.1 hch
    trivial
  · intro k q b hb
    rw [latest_interfacesRemoved, exported_withdraws_iff, hb]

theorem inv_registerProxy {w : World} (h : Inv room w) (he : enabled w .registerProxy) :
    Inv room (next w .registerProxy) := by
  have hphase : w.phase = .unregistered := he
  have hpending : pending (next w .registerProxy) = pending w := by
    simp only [pending, next, hphase, pendingOf_unregistered, pendingOf_registered]
  have hold : ¬ Started w := by simp [Started, hphase]
  have hnew : ¬ Started (next w .registerProxy) := by simp [Started, next]
  refine ⟨h.accepted, h.known, ?_, h.within, fun hp => by simp [next] at hp, fun _ => h.fresh hold,
    by simp [next], fun k q => ?_⟩
  · rw [hpending]
    exact h.welcome
  · obtain ⟨b, -, hlatest⟩ := h.agrees k q
    rw [hpending]
    exact ⟨b, fun hs => absurd hs hnew, hlatest⟩

theorem Inv.agrees_of_started {w : World} (h : Inv room w) (hs : Started w) (k : Store) (q : String) :
    latest (touch k q) (decide (q ∈ w.client.stores k)) (history (pending w)) = true ↔
      Exported w.daemon q k.interfaceName := by
  obtain ⟨b, hb, hlatest⟩ := h.agrees k q
  rw [← hb hs]
  exact hlatest

theorem Inv.of_started {w w' : World} (h : Inv room w) (hdaemon : w'.daemon = w.daemon)
    (hs : Started w') (halive : w'.phase ≠ .failed)
    (hwelcome : ∀ ch ∈ history (pending w'), Welcome room ch) (hwithin : Within room w'.client)
    (hagrees : ∀ (k : Store) q,
      latest (touch k q) (decide (q ∈ w'.client.stores k)) (history (pending w')) = true ↔
        Exported w.daemon q k.interfaceName) : Inv room w' := by
  refine ⟨?_, ?_, hwelcome, hwithin, fun hp => ?_, fun hnot => absurd hs hnot, halive, ?_⟩
  · rw [hdaemon]
    exact h.accepted
  · rw [hdaemon]
    exact h.known
  · rw [Started, hp] at hs
    exact hs.elim
  · rw [hdaemon]
    exact fun k q => ⟨_, fun _ => rfl, hagrees k q⟩

theorem inv_getManagedObjects {w : World} (h : Inv room w) (he : enabled w .getManagedObjects) :
    Inv room (next w .getManagedObjects) := by
  have hphase : w.phase = .registered := he
  have hfresh : w.client = .empty := h.fresh (by simp [Started, hphase])
  have hold : pending w = w.bus := by rw [pending, hphase, pendingOf_registered]
  have hpending : pending (next w .getManagedObjects) =
      w.daemon.toList.map (fun e => interfacesAdded e.1 e.2) ++ w.bus := rfl
  refine h.of_started rfl trivial (by simp [next]) ?_ h.within fun k q => ?_
  · rw [hpending, history_append, List.forall_mem_append]
    refine ⟨?_, hold ▸ h.welcome⟩
    intro ch hch
    obtain ⟨e, hmem, hch⟩ := List.mem_flatMap.1 hch
    obtain ⟨⟨q, m⟩, he, rfl⟩ := List.mem_map.1 hmem
    rw [mem_toList_path] at he
    refine welcome_interfacesAdded (fun interface properties hp => ?_) (fun k hk => ?_) ch hch
    · exact h.accepted q interface properties (by rw [lookup, he]; exact hp)
    · obtain ⟨properties, hp⟩ := (mem_iff_getElem? _).1 hk
      exact h.known k q ⟨properties, by rw [lookup, he]; exact hp⟩
  · -- the queue, played on the exports of now, leaves them as they are
    obtain ⟨b, -, hlatest⟩ := h.agrees k q
    rw [hold] at hlatest
    have hempty : decide (q ∈ (next w .getManagedObjects).client.stores k) = false := by
      simp [next, hfresh, Client.empty]
    have hsnapshot : latest (touch k q) false
        (history (w.daemon.toList.map fun e => interfacesAdded e.1 e.2)) =
          latest (touch k q) b (history w.bus) := by
      rw [Bool.eq_iff_iff, latest_reply, hlatest]
      simp
    rw [hpending, history_append, latest_append, hempty, hsnapshot, latest_replay]
    exact hlatest

include hroom in
theorem inv_scan {w : World} (h : Inv room w) (he : enabled w .scan) : Inv room (next w .scan) := by
  obtain ⟨rest, hphase⟩ := he
  have hagrees := h.agrees_of_started (by simp [Started, hphase])
  have hwelcome := h.welcome
  simp only [pending, hphase, pendingOf_scanning] at hagrees hwelcome
  cases rest with
  | nil =>
      have hnext : next w .scan = { w with phase := .running } := by simp only [next, hphase]
      rw [hnext]
      exact h.of_started rfl trivial (by simp) hwelcome h.within hagrees
  | cons e rest =>
      obtain ⟨hreturns, hwithin, hrest, hhandled⟩ := handle_welcome hroom h.within hwelcome
      have hnext : next w .scan = { w with
          client := (handle w.client (interfacesAdded e.1 e.2)).1
          phase := .scanning rest } := by
        have hresult : handle w.client (interfacesAdded e.1 e.2) =
          ((handle w.client (interfacesAdded e.1 e.2)).1, true) := Prod.ext rfl hreturns
        rw [next, hphase]
        simp only
        rw [hresult]
      rw [hnext]
      refine h.of_started rfl trivial (by simp) hrest hwithin fun k q => ?_
      rw [← hagrees k q]
      exact Bool.eq_iff_iff.1 (hhandled k q)

include hroom in
theorem inv_deliver {w : World} (h : Inv room w) (he : enabled w .deliver) :
    Inv room (next w .deliver) := by
  obtain ⟨hphase, hne⟩ := he
  obtain ⟨e, bus, hbus⟩ := List.exists_cons_of_ne_nil hne
  have hstarted : Started w := by simp [Started, hphase]
  have hagrees := h.agrees_of_started hstarted
  have hwelcome := h.welcome
  simp only [pending, hphase, hbus, pendingOf_running] at hagrees hwelcome
  obtain ⟨-, hwithin, hrest, hhandled⟩ := handle_welcome hroom h.within hwelcome
  have hnext : next w .deliver = { w with client := (handle w.client e).1, bus } := by rw [next, hbus]
  have hpending : pending (next w .deliver) = bus := by
    rw [hnext, pending, hphase, pendingOf_running]
  refine h.of_started (by rw [hnext]) ?_ ?_ ?_ ?_ fun k q => ?_
  · rw [hnext]
    exact hstarted
  · rw [hnext]
    exact h.alive
  · rw [hpending]
    exact hrest
  · rw [hnext]
    exact hwithin
  · rw [hpending, ← hagrees k q, hnext]
    exact Bool.eq_iff_iff.1 (hhandled k q)

include hroom in
theorem inv_next (w : World) (a : Act) (h : Inv room w) (he : enabled w a) (hn : Named room a) :
    Inv room (next w a) := by
  cases a with
  | exports objectPath interfacesAndProperties => exact inv_exports h he hn
  | withdraws objectPath interfaces => exact inv_withdraws h objectPath interfaces
  | registerProxy => exact inv_registerProxy h he
  | getManagedObjects => exact inv_getManagedObjects h he
  | scan => exact inv_scan hroom h he
  | deliver => exact inv_deliver hroom h he

theorem named_of_mem {daemon : Objects PropertyMap} {as : List Act} {a : Act} (ha : a ∈ as) :
    Named (paths · daemon as) a := by
  cases a with
  | exports objectPath interfacesAndProperties =>
      intro k hk
      apply List.mem_append_right
      rw [List.mem_filterMap]
      exact ⟨_, ha, if_pos hk⟩
  | withdraws | registerProxy | getManagedObjects | scan | deliver => trivial

theorem inv_start {daemon : Objects PropertyMap} (as : List Act)
    (hd : ∀ q interface properties, lookup daemon q interface = some properties →
      Accepted interface properties) : Inv (paths · daemon as) (start daemon) := by
  have hnot : ¬ Started (start daemon) := by simp [Started, start]
  refine ⟨hd, fun k q hq => ?_, ?_, ?_, fun _ => rfl, fun _ => rfl, by simp [start], fun k q => ?_⟩
  · apply List.mem_append_left
    rw [List.mem_filter, Std.ExtTreeMap.mem_keys, mem_iff_getElem?]
    refine ⟨?_, decide_eq_true hq⟩
    obtain ⟨properties, hp⟩ := hq
    obtain ⟨m, hm, -⟩ := Option.bind_eq_some_iff.1 hp
    exact ⟨m, hm⟩
  · simp [start, pending, history]
  · intro k q hq
    simp [start, Client.empty] at hq
  · refine ⟨decide (Exported daemon q k.interfaceName), fun hs => absurd hs hnot, ?_⟩
    simp [start, pending, history]

/-- Wherever the subscription and the snapshot fall in the history of the
daemon, the constructor returns, and once all messages have been handled the
maps hold what the daemon exports. -/
theorem client_converges (daemon : Objects PropertyMap)
    (hd : ∀ q interface properties, lookup daemon q interface = some properties →
      Accepted interface properties)
    (as : List Act) (hv : system.Valid (start daemon) as)
    (hlimit : ∀ k : Store, (paths k daemon as).dedup.length ≤ k.limit) :
    (system.after (start daemon) as).phase ≠ .failed ∧
      (Settled (system.after (start daemon) as) → Converged (system.after (start daemon) as)) := by
  have hnamed : system.Along (fun _ a => Named (paths · daemon as) a) (start daemon) as :=
    (system.along_action_iff _ _).2 fun a ha => named_of_mem ha
  have hinv := system.invariant_along (inv_next hlimit) (inv_start as hd) hv hnamed
  refine ⟨hinv.alive, ?_⟩
  rintro ⟨hphase, hbus⟩ k q
  have hagrees := hinv.agrees_of_started (by simp [Started, hphase]) k q
  rw [pending, hphase, hbus, pendingOf_running, history, List.flatMap_nil, latest_nil,
    decide_eq_true_iff] at hagrees
  exact hagrees

theorem accepted_hci0 (interface : String) (properties : PropertyMap)
    (h : hci0[interface]? = some properties) : Accepted interface properties := by
  have hmem := (mem_toList_path hci0 interface properties).2 h
  have hlist : hci0.toList = [("org.bluez.Adapter1", discovering)] := rfl
  rw [hlist, List.mem_singleton] at hmem
  obtain ⟨rfl, rfl⟩ := Prod.mk.inj hmem
  show Accepted Store.adapters.interfaceName discovering
  rw [accepted_store_iff]
  refine ⟨?_, by decide⟩
  rintro ⟨key, hkey, -⟩
  cases hkey

/-- The adapter is withdrawn between the subscription and the snapshot. -/
def withdrawnEarly : List Act :=
  [.registerProxy, .exports "/org/bluez/hci0" hci0,
    .withdraws "/org/bluez/hci0" ["org.bluez.Adapter1"], .getManagedObjects, .scan, .scan, .deliver,
    .deliver]

theorem client_converges_withdrawn :
    (system.after (start ∅) withdrawnEarly).phase ≠ .failed ∧
      Converged (system.after (start ∅) withdrawnEarly) := by
  have h := client_converges ∅ (by simp [lookup]) withdrawnEarly
    ⟨rfl, accepted_hci0, trivial, rfl, ⟨_, rfl⟩, ⟨_, rfl⟩, ⟨rfl, List.cons_ne_nil _ _⟩,
      ⟨rfl, List.cons_ne_nil _ _⟩, trivial⟩
    (by intro k; cases k <;> decide)
  exact ⟨h.1, h.2 ⟨rfl, rfl⟩⟩

end SdbusExamples.ClientConvergence
