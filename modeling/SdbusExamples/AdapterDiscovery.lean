import SdbusExamples.ClientStores
import SdbusExamples.KeyedUpdates
import SdbusExamples.MessageQueues
import SdbusExamples.Runs
import SdbusExamples.SnapshotScans

namespace SdbusExamples.AdapterDiscovery

open BluezClient KeyedUpdates MessageQueues PathMaps ResourceLimits Runs SnapshotScans Variants

def discoveringOf (properties : PropertyMap) : Option Bool :=
  properties["Discovering"]?.bind Variant.getBool

def Typed (properties : PropertyMap) : Prop :=
  ∀ e ∈ properties.toList, (Adapter1.setProperty true .empty e.1 e.2).isSome = true

instance (properties : PropertyMap) : Decidable (Typed properties) :=
  inferInstanceAs (Decidable (∀ e ∈ properties.toList, _))

/-- The signals of BlueZ that matter to the adapters of the client. -/
inductive Message
  | added (objectPath : String) (properties : PropertyMap)
  | removed (objectPath : String)
  | changed (objectPath : String) (properties : PropertyMap)

def Message.Typed : Message → Prop
  | .added _ properties | .changed _ properties => AdapterDiscovery.Typed properties
  | .removed _ => True

def Message.objectPath : Message → String
  | .added objectPath _ | .removed objectPath | .changed objectPath _ => objectPath

/-- `daemon` has the adapters of BlueZ, and whether each is discovering. The match
rule for the properties of an adapter is there exactly as long as its Adapter1. -/
structure World where
  daemon : Std.ExtTreeMap String Bool
  bus : List Message
  phase : Phase (String × PropertyMap)
  adapters : Std.ExtTreeMap String Adapter1.Properties

/-- `ok` tells whether StartDiscovery returns, if the step calls it. -/
inductive Act
  | exports (objectPath : String) (properties : PropertyMap)
  | withdraws (objectPath : String)
  | changes (objectPath : String) (changed : PropertyMap)
  | getManagedObjects (objects : List (String × PropertyMap))
  | scan (ok : Bool)
  | deliver (ok : Bool)

def sendChanged (w : World) (objectPath : String) (changed : PropertyMap) : List Message :=
  if objectPath ∈ w.adapters then w.bus ++ [.changed objectPath changed] else w.bus

def showing (discovering : Bool) : PropertyMap :=
  .ofList [("Discovering", Variant.plain (.b discovering))]

/-- What BlueZ does when the call succeeds. -/
def startDiscovery (w : World) (objectPath : String) : World :=
  if w.daemon[objectPath]? = some false then
    { w with
      daemon := w.daemon.insert objectPath true
      bus := sendChanged w objectPath (showing true) }
  else w

/-- The branch of onInterfacesAdded() for adapters; the flag is false when an
exception leaves it. -/
def addAdapter (ok : Bool) (w : World) (objectPath : String) (properties : PropertyMap) :
    World × Bool :=
  if objectPath ∈ w.adapters then (w, true)
  else if isAtCapacity w.adapters.size Store.adapters.limit then (w, true)
  else
    match Adapter1 ok properties with
    | none => (w, false)
    | some p =>
        let w := { w with adapters := w.adapters.insert objectPath p }
        (if discoveringOf properties = some false then startDiscovery w objectPath else w, true)

/-- onPropertiesChanged() of an adapter; the library catches what leaves it. -/
def adapterChanged (ok : Bool) (w : World) (objectPath : String) (changed : PropertyMap) : World :=
  match w.adapters[objectPath]? with
  | none => w
  | some p =>
      let (p, returned) := setAll (Adapter1.setProperty ok) p changed.toList
      let w := { w with adapters := w.adapters.insert objectPath p }
      -- all properties have their types, so that only the call can end the loop early
      if discoveringOf changed = some false ∧ returned = true then startDiscovery w objectPath
      else w

def handleMessage (ok : Bool) (w : World) : Message → World × Bool
  | .added objectPath properties => addAdapter ok w objectPath properties
  | .removed objectPath => ({ w with adapters := w.adapters.erase objectPath }, true)
  | .changed objectPath changed => (adapterChanged ok w objectPath changed, true)

def pending (w : World) : List Message := pendingOf (fun e => .added e.1 e.2) w.phase w.bus

def next (w : World) : Act → World
  | .exports objectPath properties =>
      { w with
        daemon := w.daemon.insert objectPath (discoveringOf properties == some true)
        bus := w.bus ++ [.added objectPath properties] }
  | .withdraws objectPath =>
      { w with daemon := w.daemon.erase objectPath, bus := w.bus ++ [.removed objectPath] }
  | .changes objectPath changed =>
      { w with
        daemon := match discoveringOf changed with
          | some discovering => w.daemon.insert objectPath discovering
          | none => w.daemon
        bus := sendChanged w objectPath changed }
  | .getManagedObjects objects => { w with phase := .scanning objects }
  | .scan ok =>
      match w.phase with
      | .scanning ((objectPath, properties) :: rest) =>
          match addAdapter ok { w with phase := .scanning rest } objectPath properties with
          | (w, true) => w
          | (w, false) => { w with phase := .failed }
      | .scanning [] => { w with phase := .running }
      | _ => w
  | .deliver ok =>
      match w.bus with
      | message :: bus => (handleMessage ok { w with bus := bus } message).1
      | [] => w

/-- The call cannot return if BlueZ does not have the adapter. -/
def Returns (w : World) (ok : Bool) : Prop :=
  ∀ m ∈ (pending w).head?, ok = true → m.objectPath ∈ w.daemon

def enabled (w : World) : Act → Prop
  | .exports objectPath properties =>
      objectPath ∉ w.daemon ∧ Typed properties ∧ (discoveringOf properties).isSome = true
  | .withdraws objectPath => objectPath ∈ w.daemon
  | .changes objectPath changed => objectPath ∈ w.daemon ∧ Typed changed
  | .getManagedObjects objects =>
      w.phase.isRegistered = true ∧ (∀ e ∈ w.daemon.toList, e.1 ∈ objects.map Prod.fst) ∧
        ∀ e ∈ objects, e.1 ∈ w.daemon ∧ Typed e.2 ∧ w.daemon[e.1]? = discoveringOf e.2
  | .scan ok => w.phase.isScanning = true ∧ Returns w ok
  | .deliver ok => w.phase.isRunning = true ∧ w.bus.isEmpty = false ∧ Returns w ok

instance (w : World) (ok : Bool) : Decidable (Returns w ok) :=
  inferInstanceAs (Decidable (∀ m ∈ (pending w).head?, ok = true → m.objectPath ∈ w.daemon))

instance (w : World) : ∀ a, Decidable (enabled w a)
  | .exports _ _ => inferInstanceAs (Decidable (_ ∧ _ ∧ _))
  | .withdraws objectPath => inferInstanceAs (Decidable (objectPath ∈ w.daemon))
  | .changes _ _ | .scan _ => inferInstanceAs (Decidable (_ ∧ _))
  | .getManagedObjects objects =>
      inferInstanceAs (Decidable (_ ∧ (∀ e ∈ w.daemon.toList, e.1 ∈ objects.map Prod.fst) ∧ _))
  | .deliver _ => inferInstanceAs (Decidable (_ ∧ _ ∧ _))

def system : System World Act := ⟨enabled, next⟩

instance (w : World) (a : Act) : Decidable (system.enabled w a) :=
  inferInstanceAs (Decidable (enabled w a))

def start (daemon : Std.ExtTreeMap String Bool) : World := ⟨daemon, [], .registered, ∅⟩

theorem typed_showing : Typed (showing true) := by
  decide +kernel

theorem isSome_setProperty (ok : Bool) (p q : Adapter1.Properties) (key : String)
    (value : Variant) :
    (Adapter1.setProperty ok p key value).isSome =
      (Adapter1.setProperty ok q key value).isSome := by
  unfold Adapter1.setProperty
  split
  case h_7 =>
    cases value.getBool with
    | none => rfl
    | some discovering => cases discovering <;> cases ok <;> rfl
  all_goals simp only [Option.isSome_map, Option.isSome_some]

/-- Without the call the entry that shows discovery off cannot be set. -/
theorem exists_throwing {properties : PropertyMap} (h : discoveringOf properties = some false) :
    ∃ e ∈ properties.toList, ∀ p, Adapter1.setProperty false p e.1 e.2 = none := by
  obtain ⟨value, hvalue, hoff⟩ := Option.bind_eq_some_iff.1 h
  have hmem := (mem_toList_path properties "Discovering" value).2 hvalue
  refine ⟨_, hmem, fun p => ?_⟩
  simp [Adapter1.setProperty, hoff]

/-- The loop over the changed properties ends early only where StartDiscovery is
called and throws. -/
theorem setAll_returns_iff {ok : Bool} {changed : PropertyMap} (h : Typed changed)
    (p : Adapter1.Properties) :
    (setAll (Adapter1.setProperty ok) p changed.toList).2 = true ↔
      (discoveringOf changed = some false → ok = true) := by
  have htyped : ∀ e ∈ changed.toList, ∀ q, (Adapter1.setProperty true q e.1 e.2).isSome = true := by
    intro e he q
    rw [isSome_setProperty true q .empty]
    exact h e he
  constructor
  · intro hreturns hd
    cases ok with
    | true => rfl
    | false =>
        obtain ⟨e, he, hthrows⟩ := exists_throwing hd
        rw [setAll_throws he hthrows] at hreturns
        cases hreturns
  · intro hd
    cases ok with
    | true => exact setAll_returns p htyped
    | false =>
        refine setAll_returns p fun e he q => ?_
        rw [Adapter1.setProperty_eq ?_ false q]
        · exact htyped e he q
        · intro hkey hoff
          have hvalue := (mem_toList_path changed e.1 e.2).1 he
          rw [hkey] at hvalue
          have : discoveringOf changed = some false := by rw [discoveringOf, hvalue]; exact hoff
          cases hd this

theorem addAdapter_skips {ok : Bool} {w : World} {objectPath : String} {properties : PropertyMap}
    (h : objectPath ∈ w.adapters ∨ isAtCapacity w.adapters.size Store.adapters.limit = true) :
    addAdapter ok w objectPath properties = (w, true) := by
  rw [addAdapter]
  split
  · rfl
  · next hmem => exact if_pos (h.resolve_left hmem)

theorem adapters_startDiscovery (w : World) (objectPath : String) :
    (startDiscovery w objectPath).adapters = w.adapters := by
  rw [startDiscovery]
  split <;> rfl

theorem addAdapter_builds {ok : Bool} {w : World} {objectPath : String} {properties : PropertyMap}
    (hmem : objectPath ∉ w.adapters)
    (hfull : ¬ isAtCapacity w.adapters.size Store.adapters.limit = true) :
    ((addAdapter ok w objectPath properties).1.adapters,
        (addAdapter ok w objectPath properties).2) =
      match Adapter1 ok properties with
      | none => (w.adapters, false)
      | some p => (w.adapters.insert objectPath p, true) := by
  rw [addAdapter, if_neg hmem, if_neg hfull]
  cases Adapter1 ok properties with
  | none => rfl
  | some p =>
      dsimp only
      split
      · rw [adapters_startDiscovery]
      · rfl

theorem addAdapter_refines {c : Client} {w : World} (h : c.stores .adapters = w.adapters)
    (ok : Bool) (objectPath : String) (properties : PropertyMap) :
    ((c.addInterface ok objectPath "org.bluez.Adapter1" properties).1.stores .adapters,
        (c.addInterface ok objectPath "org.bluez.Adapter1" properties).2) =
      ((addAdapter ok w objectPath properties).1.adapters,
        (addAdapter ok w objectPath properties).2) := by
  have hadd : c.addInterface ok objectPath "org.bluez.Adapter1" properties =
      c.addAbsent ok .adapters objectPath properties := rfl
  by_cases hmem : objectPath ∈ c.stores .adapters
  · have hskips : c.addAbsent ok .adapters objectPath properties = (c, true) := if_pos hmem
    rw [hadd, hskips, addAdapter_skips (Or.inl (h ▸ hmem))]
    exact congrArg (·, true) h
  by_cases hfull : isAtCapacity (c.stores .adapters).size Store.adapters.limit = true
  · have hskips : c.addAbsent ok .adapters objectPath properties = (c, true) :=
      (if_neg hmem).trans (if_pos hfull)
    rw [hadd, hskips, addAdapter_skips (Or.inr (h ▸ hfull))]
    exact congrArg (·, true) h
  have hbuilds : c.addAbsent ok .adapters objectPath properties =
      c.emplace ok .adapters objectPath properties := (if_neg hmem).trans (if_neg hfull)
  rw [hadd, hbuilds, addAdapter_builds (h ▸ hmem) (h ▸ hfull), Client.emplace, Store.construct]
  cases Adapter1 ok properties with
  | none => exact congrArg (·, false) h
  | some p =>
      dsimp only
      rw [ClientStores.stores_setStore_self]
      exact congrArg (·.insert objectPath p, true) h

theorem removeInterface_refines {c : Client} {w : World} (h : c.stores .adapters = w.adapters)
    (ok : Bool) (objectPath : String) :
    (c.removeInterface objectPath "org.bluez.Adapter1").stores .adapters =
      (handleMessage ok w (.removed objectPath)).1.adapters := by
  show (c.setStore .adapters ((c.stores .adapters).erase objectPath)).stores .adapters = _
  rw [ClientStores.stores_setStore_self, h]
  rfl

/-- A client that handles this without calling StartDiscovery takes it that
discovery is on. -/
def Announces (objectPath : String) : Message → Prop
  | .added q properties => q = objectPath ∧ discoveringOf properties ≠ some false
  | _ => False

def Withdraws (objectPath : String) : Message → Prop
  | .removed q => q = objectPath
  | _ => False

instance (objectPath : String) : DecidablePred (Announces objectPath)
  | .added q properties =>
      inferInstanceAs (Decidable (q = objectPath ∧ discoveringOf properties ≠ some false))
  | .removed _ | .changed _ _ => .isFalse id

instance (objectPath : String) : DecidablePred (Withdraws objectPath)
  | .removed q => inferInstanceAs (Decidable (q = objectPath))
  | .added _ _ | .changed _ _ => .isFalse id

/-- What makes the client drop the adapter, or call StartDiscovery, by what BlueZ
has under the path. -/
def Answers (discovering : Option Bool) (objectPath : String) : Message → Prop
  | .added _ _ => False
  | .removed q => q = objectPath
  | .changed q changed =>
      q = objectPath ∧ discovering = some false ∧ discoveringOf changed = some false

structure Due (discovering : Option Bool) (objectPath : String) (w : World) : Prop where
  installed : objectPath ∈ w.adapters → ∃ m ∈ pending w, Answers discovering objectPath m
  announced : Followed (Announces objectPath) (Answers discovering objectPath) (pending w)

structure Inv (w : World) : Prop where
  typed : ∀ m ∈ pending w, m.Typed
  due : ∀ objectPath, w.daemon[objectPath]? ≠ some true → Due w.daemon[objectPath]? objectPath w

section Messages

variable {discovering : Option Bool} {objectPath : String} {m : Message}

theorem answers_mono (h : Answers none objectPath m) (discovering : Option Bool) :
    Answers discovering objectPath m := by
  cases m with
  | added q properties => exact h
  | removed q => exact h
  | changed q changed => cases h.2.1

theorem answers_of_withdraws (h : Withdraws objectPath m) : Answers discovering objectPath m := by
  cases m with
  | removed q => exact h
  | added q properties | changed q changed => exact h.elim

theorem not_announces_of_answers (h : Answers discovering objectPath m) :
    ¬ Announces objectPath m := by
  cases m with
  | added q properties => exact h.elim
  | removed q | changed q changed => exact id

theorem objectPath_of_answers (h : Answers discovering objectPath m) :
    m.objectPath = objectPath := by
  cases m with
  | added q properties => exact h.elim
  | removed q => exact h
  | changed q changed => exact h.1

end Messages

section Sending

variable {w w' : World} {discovering : Option Bool} {objectPath : String} {ms : List Message}

theorem pending_bus (hphase : w'.phase = w.phase) (hbus : w'.bus = w.bus ++ ms) :
    pending w' = pending w ++ ms := by
  rw [pending, pending, hphase, hbus]
  cases w.phase with
  | scanning rest => exact (List.append_assoc ..).symm
  | _ => rfl

theorem Due.send (h : Due discovering objectPath w)
    (hadapters : objectPath ∈ w'.adapters → objectPath ∈ w.adapters)
    (hpending : pending w' = pending w ++ ms) (hquiet : ∀ m ∈ ms, ¬ Announces objectPath m) :
    Due discovering objectPath w' := by
  refine ⟨fun hi => ?_, ?_⟩
  · obtain ⟨m, hm, hanswers⟩ := h.installed (hadapters hi)
    rw [hpending]
    exact ⟨m, List.mem_append_left ms hm, hanswers⟩
  · rw [hpending]
    exact h.announced.append (followed_of_quiet hquiet)

theorem due_answered {m : Message} (hpending : pending w' = ms ++ [m])
    (hm : Answers discovering objectPath m) : Due discovering objectPath w' := by
  refine ⟨fun _ => ⟨m, by simp [hpending], hm⟩, ?_⟩
  rw [hpending]
  exact followed_answer hm (not_announces_of_answers hm)

theorem Due.mono (h : Due none objectPath w) (discovering : Option Bool) :
    Due discovering objectPath w := by
  refine ⟨fun hi => ?_, h.announced.mono fun m hm => answers_mono hm discovering⟩
  obtain ⟨m, hm, hanswers⟩ := h.installed hi
  exact ⟨m, hm, answers_mono hanswers discovering⟩

theorem typed_send (h : ∀ m ∈ pending w, m.Typed) (hpending : pending w' = pending w ++ ms)
    (hms : ∀ m ∈ ms, m.Typed) : ∀ m ∈ pending w', m.Typed := by
  rw [hpending, List.forall_mem_append]
  exact ⟨h, hms⟩

theorem sendChanged_eq (w : World) (objectPath : String) (changed : PropertyMap) :
    ∃ ms, sendChanged w objectPath changed = w.bus ++ ms ∧
      (∀ m ∈ ms, m = .changed objectPath changed) ∧
      (objectPath ∈ w.adapters → ms = [.changed objectPath changed]) := by
  rw [sendChanged]
  split
  · exact ⟨_, rfl, by simp, fun _ => rfl⟩
  · next h => exact ⟨[], by simp, by simp, fun h' => absurd h' h⟩

end Sending

theorem inv_exports {w : World} (h : Inv w) {objectPath : String} {properties : PropertyMap}
    (he : enabled w (.exports objectPath properties)) :
    Inv (next w (.exports objectPath properties)) := by
  have hpending : pending (next w (.exports objectPath properties)) =
      pending w ++ [.added objectPath properties] := pending_bus rfl rfl
  refine ⟨typed_send h.typed hpending (List.forall_mem_singleton.2 he.2.1), fun q hq => ?_⟩
  have hdaemon : (next w (.exports objectPath properties)).daemon[q]? =
      if objectPath = q then some (discoveringOf properties == some true) else w.daemon[q]? :=
    getElem?_insert_path w.daemon objectPath q _
  rw [hdaemon] at hq ⊢
  by_cases hpath : objectPath = q
  · subst hpath
    rw [if_pos rfl] at hq ⊢
    obtain ⟨hnew, -, htold⟩ := he
    have hnone : w.daemon[objectPath]? = none := by simpa using hnew
    have hdue : Due none objectPath w := by
      have := h.due objectPath (by rw [hnone]; exact nofun)
      rwa [hnone] at this
    refine (hdue.mono _).send id hpending ?_
    rw [List.forall_mem_singleton]
    rintro ⟨-, hon⟩
    cases hd : discoveringOf properties with
    | none =>
        rw [hd] at htold
        cases htold
    | some discovering =>
        rw [hd] at hq hon
        cases discovering
        · exact hon rfl
        · exact hq rfl
  · rw [if_neg hpath] at hq ⊢
    refine (h.due q hq).send id hpending ?_
    rw [List.forall_mem_singleton]
    exact fun ha => hpath ha.1

theorem inv_withdraws {w : World} (h : Inv w) (objectPath : String) :
    Inv (next w (.withdraws objectPath)) := by
  have hpending : pending (next w (.withdraws objectPath)) =
      pending w ++ [.removed objectPath] := pending_bus rfl rfl
  refine ⟨typed_send h.typed hpending (List.forall_mem_singleton.2 trivial), fun q hq => ?_⟩
  have hdaemon : (next w (.withdraws objectPath)).daemon[q]? =
      if objectPath = q then none else w.daemon[q]? := getElem?_erase_path w.daemon objectPath q
  by_cases hpath : objectPath = q
  · exact due_answered hpending hpath
  · rw [hdaemon, if_neg hpath] at hq ⊢
    refine (h.due q hq).send id hpending ?_
    rw [List.forall_mem_singleton]
    exact id

/-- A handler that calls StartDiscovery for an adapter of BlueZ succeeds. -/
def Succeeds (w : World) (ok : Bool) : List Message → Prop
  | .changed objectPath _ :: _ => objectPath ∈ w.daemon → ok = true
  | _ => True

/-- Discovery does not go off between the signal that shows an adapter with
discovery on and the Adapter1 for it, and the client can put it on again. -/
def Undisturbed (w : World) : Act → Prop
  | .changes objectPath changed =>
      discoveringOf changed = some false →
        Followed (Announces objectPath) (Withdraws objectPath) (pending w)
  | .deliver ok => Succeeds w ok w.bus
  | _ => True

instance (w : World) (ok : Bool) : ∀ bus, Decidable (Succeeds w ok bus)
  | .changed objectPath _ :: _ => inferInstanceAs (Decidable (objectPath ∈ w.daemon → ok = true))
  | [] | .added _ _ :: _ | .removed _ :: _ => .isTrue trivial

instance (w : World) : ∀ a, Decidable (Undisturbed w a)
  | .changes objectPath changed =>
      inferInstanceAs (Decidable (discoveringOf changed = some false →
        Followed (Announces objectPath) (Withdraws objectPath) (pending w)))
  | .deliver ok => inferInstanceAs (Decidable (Succeeds w ok w.bus))
  | .exports _ _ | .withdraws _ | .getManagedObjects _ | .scan _ => .isTrue trivial

theorem inv_changes {w : World} (h : Inv w) {objectPath : String} {changed : PropertyMap}
    (he : enabled w (.changes objectPath changed))
    (hu : Undisturbed w (.changes objectPath changed)) :
    Inv (next w (.changes objectPath changed)) := by
  obtain ⟨ms, hbus, hms, hheard⟩ := sendChanged_eq w objectPath changed
  have hpending : pending (next w (.changes objectPath changed)) = pending w ++ ms :=
    pending_bus rfl hbus
  have htyped : ∀ m ∈ ms, m.Typed := by
    intro m hm
    rw [hms m hm]
    exact he.2
  refine ⟨typed_send h.typed hpending htyped, fun q hq => ?_⟩
  have hquiet : ∀ m ∈ ms, ¬ Announces q m := by
    intro m hm
    rw [hms m hm]
    exact id
  have hdaemon : (next w (.changes objectPath changed)).daemon =
      match discoveringOf changed with
      | some discovering => w.daemon.insert objectPath discovering
      | none => w.daemon := rfl
  cases hd : discoveringOf changed with
  | none =>
      rw [hd] at hdaemon
      rw [hdaemon] at hq ⊢
      exact (h.due q hq).send id hpending hquiet
  | some discovering =>
      rw [hd] at hdaemon
      rw [hdaemon, getElem?_insert_path] at hq ⊢
      by_cases hpath : objectPath = q
      · subst hpath
        rw [if_pos rfl] at hq ⊢
        cases discovering with
        | true => exact absurd rfl hq
        | false =>
            refine ⟨fun hi => ?_, ?_⟩
            · rw [hpending, hheard hi]
              exact ⟨_, List.mem_append_right _ (List.mem_singleton_self _), rfl, rfl, hd⟩
            · rw [hpending]
              refine Followed.append ?_ (followed_of_quiet hquiet)
              exact (hu hd).mono fun m hm => answers_of_withdraws hm
      · rw [if_neg hpath] at hq ⊢
        exact (h.due q hq).send id hpending hquiet

theorem inv_getManagedObjects {w : World} (h : Inv w) {objects : List (String × PropertyMap)}
    (he : enabled w (.getManagedObjects objects)) : Inv (next w (.getManagedObjects objects)) := by
  obtain ⟨hphase, -, hobjects⟩ := he
  have hpending : pending (next w (.getManagedObjects objects)) =
      objects.map (fun e => .added e.1 e.2) ++ pending w := by
    rw [pending, pending]
    cases hp : w.phase with
    | registered => rfl
    | scanning rest | running | failed | unregistered =>
        rw [hp] at hphase
        cases hphase
  have htyped : ∀ m ∈ objects.map (fun e => Message.added e.1 e.2), m.Typed := by
    intro m hm
    obtain ⟨e, he, rfl⟩ := List.mem_map.1 hm
    exact (hobjects e he).2.1
  constructor
  · rw [hpending, List.forall_mem_append]
    exact ⟨htyped, h.typed⟩
  intro q hq
  have hdue := h.due q hq
  refine ⟨fun hi => ?_, ?_⟩
  · obtain ⟨m, hm, hanswers⟩ := hdue.installed hi
    rw [hpending]
    exact ⟨m, List.mem_append_right _ hm, hanswers⟩
  · rw [hpending]
    apply (followed_of_quiet ?_).append hdue.announced
    intro m hm
    obtain ⟨e, he, rfl⟩ := List.mem_map.1 hm
    rintro ⟨rfl, hon⟩
    -- the reply shows what BlueZ has, so that it would have to be on
    obtain ⟨hmem, -, heq⟩ := hobjects e he
    obtain ⟨discovering, hd⟩ := (mem_iff_getElem? e.1).1 hmem
    cases discovering with
    | true => exact hq hd
    | false => exact hon (heq.symm.trans hd)

structure Frame (objectPath : String) (w w' : World) : Prop where
  phase : w'.phase = w.phase
  bus : ∃ ms, w'.bus = w.bus ++ ms ∧ ∀ m ∈ ms, m = .changed objectPath (showing true)
  daemon : ∀ q, objectPath ≠ q → w'.daemon[q]? = w.daemon[q]?
  adapters : ∀ q, objectPath ≠ q → (q ∈ w'.adapters → q ∈ w.adapters)

theorem frame_refl (objectPath : String) (w : World) : Frame objectPath w w :=
  ⟨rfl, ⟨[], by simp⟩, fun _ _ => rfl, fun _ _ => id⟩

theorem frame_startDiscovery {objectPath : String} {w w' : World} (h : Frame objectPath w w') :
    Frame objectPath w (startDiscovery w' objectPath) := by
  rw [startDiscovery]
  split
  · obtain ⟨ms, hms, hshow⟩ := h.bus
    obtain ⟨ns, hns, hchanged, -⟩ := sendChanged_eq w' objectPath (showing true)
    refine ⟨h.phase, ⟨ms ++ ns, ?_, ?_⟩, fun q hq => ?_, h.adapters⟩
    · rw [← List.append_assoc, ← hms]
      exact hns
    · rw [List.forall_mem_append]
      exact ⟨hshow, hchanged⟩
    · rw [getElem?_insert_path, if_neg hq]
      exact h.daemon q hq
  · exact h

theorem daemon_startDiscovery {objectPath : String} {w : World} (h : objectPath ∈ w.daemon) :
    (startDiscovery w objectPath).daemon[objectPath]? = some true := by
  rw [startDiscovery]
  split
  · rw [getElem?_insert_path, if_pos rfl]
  · next hoff =>
      obtain ⟨discovering, hd⟩ := (mem_iff_getElem? objectPath).1 h
      cases discovering with
      | true => exact hd
      | false => exact absurd hd hoff

theorem frame_insert (objectPath : String) (w : World) (p : Adapter1.Properties) :
    Frame objectPath w { w with adapters := w.adapters.insert objectPath p } := by
  refine ⟨rfl, ⟨[], by simp⟩, fun _ _ => rfl, fun q hq hmem => ?_⟩
  rw [mem_insert_path] at hmem
  exact hmem.resolve_left hq

theorem frame_handleMessage (ok : Bool) (w : World) (m : Message) :
    Frame m.objectPath w (handleMessage ok w m).1 := by
  cases m with
  | added objectPath properties =>
      show Frame objectPath w (addAdapter ok w objectPath properties).1
      rw [addAdapter]
      split
      · exact frame_refl _ w
      split
      · exact frame_refl _ w
      split
      · exact frame_refl _ w
      · split
        · exact frame_startDiscovery (frame_insert ..)
        · exact frame_insert ..
  | removed objectPath =>
      refine ⟨rfl, ⟨[], by simp [handleMessage]⟩, fun _ _ => rfl, fun q hq hmem => ?_⟩
      exact ((mem_erase_path ..).1 hmem).2
  | changed objectPath changed =>
      show Frame objectPath w (adapterChanged ok w objectPath changed)
      rw [adapterChanged]
      split
      · exact frame_refl _ w
      · dsimp only
        split
        · exact frame_startDiscovery (frame_insert ..)
        · exact frame_insert ..

theorem ok_of_built {ok : Bool} {properties : PropertyMap} {p : Adapter1.Properties}
    (h : Adapter1 ok properties = some p) (hd : discoveringOf properties = some false) :
    ok = true := by
  cases ok with
  | true => rfl
  | false =>
      obtain ⟨e, he, hthrows⟩ := exists_throwing hd
      have hbuilt := isSome_setProperties (Adapter1.setProperty false) .empty properties.toList
      rw [← Adapter1, h, setAll_throws he hthrows] at hbuilt
      cases hbuilt

/-- Where BlueZ does not discover under the path of a message once it is handled,
an adapter is there because it was, and waits for more than the message, or
because the message announces it. -/
def Settles (m : Message) (w w' : World) : Prop :=
  w'.daemon[m.objectPath]? ≠ some true →
    w'.daemon = w.daemon ∧
      (m.objectPath ∈ w'.adapters →
        m.objectPath ∈ w.adapters ∧ ¬ Answers w.daemon[m.objectPath]? m.objectPath m ∨
          Announces m.objectPath m)

theorem settles_refl {m : Message} {w : World}
    (h : m.objectPath ∈ w.adapters → ¬ Answers w.daemon[m.objectPath]? m.objectPath m) :
    Settles m w w := fun _ => ⟨rfl, fun hi => Or.inl ⟨hi, h hi⟩⟩

theorem settles_startDiscovery {m : Message} {w w' : World} (h : m.objectPath ∈ w'.daemon) :
    Settles m w (startDiscovery w' m.objectPath) :=
  fun hoff => absurd (daemon_startDiscovery h) hoff

theorem settles_addAdapter {ok : Bool} {w : World} {objectPath : String}
    {properties : PropertyMap} (hreturns : ok = true → objectPath ∈ w.daemon) :
    Settles (.added objectPath properties) w (addAdapter ok w objectPath properties).1 := by
  rw [addAdapter]
  split
  · exact settles_refl fun _ => id
  split
  · exact settles_refl fun _ => id
  split
  · exact settles_refl fun _ => id
  · next hbuilt =>
      dsimp only
      split
      · next hd =>
          have hmem := hreturns (ok_of_built hbuilt hd)
          exact settles_startDiscovery (m := .added objectPath properties) hmem
      · next hd => exact fun _ => ⟨rfl, fun _ => Or.inr ⟨rfl, hd⟩⟩

theorem settles_adapterChanged {ok : Bool} {w : World} {objectPath : String}
    {changed : PropertyMap} (htyped : Typed changed)
    (hreturns : ok = true → objectPath ∈ w.daemon) (hcalled : objectPath ∈ w.daemon → ok = true) :
    Settles (.changed objectPath changed) w (adapterChanged ok w objectPath changed) := by
  rw [adapterChanged]
  split
  · next hnone =>
      have hi : objectPath ∉ w.adapters := by simpa using hnone
      exact settles_refl fun hi' => absurd hi' hi
  · next hp =>
      dsimp only
      split
      · next hd =>
          have hok := (setAll_returns_iff htyped _).1 hd.2 hd.1
          exact settles_startDiscovery (m := .changed objectPath changed) (hreturns hok)
      · next hd =>
          refine fun _ => ⟨rfl, fun _ => Or.inl ⟨(mem_iff_getElem? objectPath).2 ⟨_, hp⟩, ?_⟩⟩
          rintro ⟨-, hmem, hoff⟩
          have hok := hcalled ((mem_iff_getElem? objectPath).2 ⟨_, hmem⟩)
          exact hd ⟨hoff, (setAll_returns_iff htyped _).2 fun _ => hok⟩

theorem settles_handleMessage {ok : Bool} {w : World} {m : Message} (htyped : m.Typed)
    (hreturns : ok = true → m.objectPath ∈ w.daemon)
    (hcalled : ∀ objectPath changed, m = .changed objectPath changed →
      objectPath ∈ w.daemon → ok = true) :
    Settles m w (handleMessage ok w m).1 := by
  cases m with
  | added objectPath properties => exact settles_addAdapter hreturns
  | removed objectPath =>
      refine fun _ => ⟨rfl, fun hi => ?_⟩
      exact absurd rfl ((mem_erase_path ..).1 hi).1
  | changed objectPath changed =>
      exact settles_adapterChanged htyped hreturns (hcalled objectPath changed rfl)

/-- `w'` is the world without the message that is handled. -/
theorem inv_handleMessage {w w' : World} (h : Inv w) (ok : Bool) {m : Message}
    (hpending : pending w = m :: pending w') (hdaemon : w'.daemon = w.daemon)
    (hadapters : w'.adapters = w.adapters)
    (hreturns : ok = true → m.objectPath ∈ w.daemon)
    (hcalled : ∀ objectPath changed, m = .changed objectPath changed →
      objectPath ∈ w.daemon → ok = true) : Inv (handleMessage ok w' m).1 := by
  obtain ⟨hphase, ⟨ms, hbus, hshow⟩, hsame, hkept⟩ := frame_handleMessage ok w' m
  have hpending' := pending_bus hphase hbus
  rw [← hdaemon] at hreturns hcalled
  have htyped := h.typed
  rw [hpending, List.forall_mem_cons] at htyped
  have hsettles := settles_handleMessage htyped.1 hreturns hcalled
  generalize (handleMessage ok w' m).1 = w'' at *
  constructor
  · refine typed_send htyped.2 hpending' fun m' hm' => ?_
    rw [hshow m' hm']
    exact typed_showing
  intro q hq
  have hd : w''.daemon[q]? = w.daemon[q]? := by
    by_cases hpath : m.objectPath = q
    · subst hpath
      rw [(hsettles hq).1, hdaemon]
    · rw [hsame q hpath, hdaemon]
  have hdue := h.due q (by rwa [← hd])
  have hinstalled := hdue.installed
  have hannounced := hdue.announced
  rw [hpending] at hinstalled hannounced
  -- the message itself is not what an adapter that is there now waits for
  have hanswer (hi : q ∈ w''.adapters) : ∃ a ∈ pending w', Answers w.daemon[q]? q a := by
    have hrest (hi' : q ∈ w'.adapters) (hnot : ¬ Answers w.daemon[q]? q m) :
        ∃ a ∈ pending w', Answers w.daemon[q]? q a := by
      rw [hadapters] at hi'
      obtain ⟨a, ha, hanswers⟩ := hinstalled hi'
      rcases List.mem_cons.1 ha with rfl | ha
      · exact absurd hanswers hnot
      · exact ⟨a, ha, hanswers⟩
    by_cases hpath : m.objectPath = q
    · subst hpath
      rcases (hsettles hq).2 hi with ⟨hi', hnot⟩ | hannounces
      · rw [hdaemon] at hnot
        exact hrest hi' hnot
      · exact hannounced.1 hannounces
    · exact hrest (hkept q hpath hi) fun ha => hpath (objectPath_of_answers ha)
  rw [hd]
  refine ⟨fun hi => ?_, ?_⟩
  · obtain ⟨a, ha, hanswers⟩ := hanswer hi
    rw [hpending']
    exact ⟨a, List.mem_append_left ms ha, hanswers⟩
  · rw [hpending']
    refine hannounced.2.append (followed_of_quiet fun m' hm' => ?_)
    rw [hshow m' hm']
    exact id

theorem inv_scan {w : World} (h : Inv w) {ok : Bool} (he : enabled w (.scan ok))
    (hreturned : (next w (.scan ok)).phase.hasFailed = false) : Inv (next w (.scan ok)) := by
  obtain ⟨hphase, hreturns⟩ := he
  cases hp : w.phase with
  | registered | running | failed | unregistered =>
      rw [hp] at hphase
      cases hphase
  | scanning rest =>
      simp only [next, hp] at hreturned ⊢
      cases rest with
      | nil =>
          have hpending : pending { w with phase := .running } = pending w ++ [] := by
            simp [pending, hp]
          refine ⟨typed_send h.typed hpending (List.forall_mem_nil _), fun q hq => ?_⟩
          exact (h.due q hq).send id hpending (List.forall_mem_nil _)
      | cons e rest =>
          dsimp only at hreturned ⊢
          have hpending : pending w =
              .added e.1 e.2 :: pending { w with phase := .scanning rest } := by
            simp [pending, hp]
          have hinv := inv_handleMessage h ok hpending rfl rfl
            (hreturns _ (by rw [hpending]; rfl)) (fun _ _ heq => by cases heq)
          rw [handleMessage] at hinv
          generalize addAdapter ok { w with phase := .scanning rest } e.1 e.2 = r at *
          obtain ⟨w', returned⟩ := r
          cases returned with
          | true => exact hinv
          | false => cases hreturned

theorem inv_deliver {w : World} (h : Inv w) {ok : Bool} (he : enabled w (.deliver ok))
    (hu : Undisturbed w (.deliver ok)) : Inv (next w (.deliver ok)) := by
  obtain ⟨hphase, hbus, hreturns⟩ := he
  obtain ⟨m, bus, hb⟩ : ∃ m bus, w.bus = m :: bus := by
    cases hb : w.bus with
    | nil =>
        rw [hb] at hbus
        cases hbus
    | cons m bus => exact ⟨m, bus, rfl⟩
  have hpending : pending w = m :: pending { w with bus := bus } := by
    cases hp : w.phase with
    | running => simp [pending, hp, hb]
    | registered | scanning rest | failed | unregistered =>
        rw [hp] at hphase
        cases hphase
  rw [next, hb]
  refine inv_handleMessage h ok hpending rfl rfl (hreturns _ (by rw [hpending]; rfl)) ?_
  rintro objectPath changed rfl
  rw [Undisturbed, hb] at hu
  exact hu

theorem phase_deliver (w : World) (ok : Bool) : (next w (.deliver ok)).phase = w.phase := by
  rw [next]
  split
  · exact (frame_handleMessage ..).phase
  · rfl

theorem inv_next {w : World} {a : Act} (h : w.phase.hasFailed = false → Inv w)
    (he : enabled w a) (hu : Undisturbed w a) :
    (next w a).phase.hasFailed = false → Inv (next w a) := by
  intro hreturned
  cases a with
  | exports objectPath properties => exact inv_exports (h hreturned) he
  | withdraws objectPath => exact inv_withdraws (h hreturned) objectPath
  | changes objectPath changed => exact inv_changes (h hreturned) he hu
  | getManagedObjects objects =>
      refine inv_getManagedObjects (h ?_) he
      cases hp : w.phase with
      | failed | unregistered => simp [enabled, hp, Phase.isRegistered] at he
      | _ => rfl
  | scan ok =>
      refine inv_scan (h ?_) he hreturned
      cases hp : w.phase with
      | failed | unregistered => simp [enabled, hp, Phase.isScanning] at he
      | _ => rfl
  | deliver ok =>
      rw [phase_deliver] at hreturned
      exact inv_deliver (h hreturned) he hu

theorem inv_start (daemon : Std.ExtTreeMap String Bool) : Inv (start daemon) := by
  refine ⟨List.forall_mem_nil _, fun q hq => ⟨fun hi => ?_, trivial⟩⟩
  simp [start] at hi

/-- The scan ends before the client has an Adapter1, and nobody tells it. -/
example :
    (system.after (start ∅)
      [.getManagedObjects [], .scan true, .exports "/org/bluez/hci0" (showing true),
        .changes "/org/bluez/hci0" (showing false), .deliver true]).daemon["/org/bluez/hci0"]? =
      some false := by decide +kernel

end SdbusExamples.AdapterDiscovery
