import SdbusExamples.ControllerSteps

namespace SdbusExamples.ControllerInvariants

open BluezDevice ControllerSteps Controllers Hidraw LoopQueues PathMaps ResourceLimits Runs
  StoppingLoops Variants

structure Limited (s : Controller) : Prop where
  adapters : s.adapters.Nodup ∧ s.adapters.length ≤ kMaxAdapters
  devices : s.devices.size ≤ kMaxDevices
  input1 : s.input1.Nodup ∧ s.input1.length ≤ kMaxInputEntries
  upowerClients : s.upowerClients.Nodup ∧ s.upowerClients.length ≤ kMaxUPowerClients

theorem limited_append {keys : List String} {limit : Nat} {key : String}
    (h : keys.Nodup ∧ keys.length ≤ limit) (hmem : key ∉ keys) (hlimit : ¬ limit ≤ keys.length) :
    (keys ++ [key]).Nodup ∧ (keys ++ [key]).length ≤ limit := by
  constructor
  · rw [List.nodup_append]
    refine ⟨h.1, List.nodup_singleton key, fun a ha b hb => ?_⟩
    rw [List.mem_singleton.1 hb]
    rintro rfl
    exact hmem ha
  · rw [List.length_append, List.length_singleton]
    omega

theorem limited_filter {keys : List String} {limit : Nat} (h : keys.Nodup ∧ keys.length ≤ limit)
    (p : String → Bool) : (keys.filter p).Nodup ∧ (keys.filter p).length ≤ limit :=
  ⟨h.1.filter p, (List.length_filter_le p keys).trans h.2⟩

theorem limited_addAdapter {s : Controller} (h : Limited s) (throws : Bool) (path : String) :
    Limited (s.addAdapter throws path).1 := by
  rw [Controller.addAdapter]
  split_ifs with hmem hlimit
  · exact h
  · exact h
  · exact h
  · exact ⟨limited_append h.adapters hmem hlimit, h.devices, h.input1, h.upowerClients⟩

theorem limited_addInput1 {s : Controller} (h : Limited s) (throws : Bool) (path : String) :
    Limited (s.addInput1 throws path).1 := by
  rw [Controller.addInput1]
  split_ifs with hmem hlimit
  · exact h
  · exact h
  · exact h
  · exact ⟨h.adapters, h.devices, limited_append h.input1 hmem hlimit, h.upowerClients⟩

theorem limited_addUPowerClient {s : Controller} (h : Limited s) (throws : Bool) (path : String) :
    Limited (s.addUPowerClient throws path).1 := by
  rw [Controller.addUPowerClient]
  split_ifs with hmem hlimit
  · exact h
  · exact h
  · exact h
  · exact ⟨h.adapters, h.devices, h.input1, limited_append h.upowerClients hmem hlimit⟩

theorem limited_attach {s : Controller} (h : Limited s) (opens : String → Bool) (key : String) :
    Limited (s.attach opens key) := by
  rw [Controller.attach]
  split_ifs <;> exact ⟨h.adapters, h.devices, h.input1, h.upowerClients⟩

theorem limited_addDevice (pad : Pad) {s : Controller} (h : Limited s) (out : Outcomes)
    (objectPath : String) (properties : PropertyMap) :
    Limited (s.addDevice pad out objectPath properties).1 := by
  rw [Controller.addDevice]
  split_ifs with hadmits hmem hlimit
  · exact h
  · exact h
  · exact h
  · cases hd : Device1 properties with
    | none => exact h
    | some props =>
        have hsize : (s.devices.insert objectPath props).size ≤ kMaxDevices :=
          size_insert_le_of s.devices objectPath props h.devices (Or.inr (by omega))
        have hinserted : Limited { s with devices := s.devices.insert objectPath props } :=
          ⟨h.adapters, hsize, h.input1, h.upowerClients⟩
        have hinstalled : Limited (s.installDevice pad out.opens objectPath props) := by
          rw [Controller.installDevice]
          cases deviceKey pad props with
          | none => exact hinserted
          | some key => exact limited_attach hinserted out.opens key
        cases hpath : powerPath pad props with
        | none => simpa only [hpath] using hinstalled
        | some path =>
            simpa only [hpath] using limited_addUPowerClient hinstalled out.upowerThrows path

theorem limited_addInterface (pad : Pad) {s : Controller} (h : Limited s) (out : Outcomes)
    (objectPath : String) (entry : String × PropertyMap) :
    Limited (s.addInterface pad out objectPath entry).1 := by
  unfold Controller.addInterface
  split
  · exact limited_addAdapter h _ _
  · exact limited_addDevice pad h _ _ _
  · exact limited_addInput1 h _ _
  · exact h

theorem limited_removeInterface (pad : Pad) {s : Controller} (h : Limited s)
    (objectPath interface : String) : Limited (s.removeInterface pad objectPath interface) := by
  unfold Controller.removeInterface
  split
  · exact ⟨limited_filter h.adapters _, h.devices, h.input1, h.upowerClients⟩
  · rw [Controller.removeDevice]
    have hsize : (s.devices.erase objectPath).size ≤ kMaxDevices :=
      Std.ExtTreeMap.size_erase_le.trans h.devices
    cases s.devices[objectPath]? with
    | none => exact h
    | some props =>
        cases hpath : powerPath pad props with
        | none => simpa only [hpath] using ⟨h.adapters, hsize, h.input1, h.upowerClients⟩
        | some path =>
            simpa only [hpath] using
              ⟨h.adapters, hsize, h.input1, limited_filter h.upowerClients _⟩
  · exact ⟨h.adapters, h.devices, limited_filter h.input1 _, h.upowerClients⟩
  · exact h

theorem limited_propertiesChanged {s : Controller} (h : Limited s) (objectPath : String)
    (changed : PropertyMap) : Limited (s.devicePropertiesChanged objectPath changed) := by
  rw [Controller.devicePropertiesChanged]
  cases hd : s.devices[objectPath]? with
  | none => exact h
  | some props =>
      have hmem : objectPath ∈ s.devices := (mem_iff_getElem? objectPath).2 ⟨props, hd⟩
      exact ⟨h.adapters, size_insert_le_of s.devices objectPath _ h.devices (Or.inl hmem),
        h.input1, h.upowerClients⟩

theorem limited_udevDispatch (pad : Pad) {s : Controller} (h : Limited s)
    (action devNode subSystem : Option String) (bt usb : Scan) :
    Limited (s.udevDispatch pad action devNode subSystem bt usb) := by
  have hretired : Limited s.retireReader := by
    rw [Controller.retireReader]
    cases s.inputReader <;> exact ⟨h.adapters, h.devices, h.input1, h.upowerClients⟩
  cases action with
  | none => exact h
  | some action =>
      cases subSystem with
      | none => exact h
      | some subSystem =>
          rw [Controller.udevDispatch, Controller.udevCallback]
          split_ifs
          · exact ⟨hretired.adapters, hretired.devices, hretired.input1, hretired.upowerClients⟩
          · exact ⟨h.adapters, h.devices, h.input1, h.upowerClients⟩
          · exact h

theorem limited_handle (pad : Pad) (s : Controller) (e : Event) (h : Limited s) :
    Limited (handle pad s e) := by
  cases e with
  | interfacesAdded out objectPath interfaces =>
      rw [handle, Controller.onInterfacesAdded, addInterfaces_eq]
      apply goThrough_keeps (J := Limited) _ h
      exact fun s entry _ hs => limited_addInterface pad hs out objectPath entry
  | interfacesRemoved objectPath interfaces =>
      rw [handle, Controller.onInterfacesRemoved]
      exact List.foldlRecOn interfaces _ h
        fun s hs interface _ => limited_removeInterface pad hs objectPath interface
  | propertiesChanged objectPath changed => exact limited_propertiesChanged h objectPath changed
  | udev action devNode subSystem bt usb =>
      exact limited_udevDispatch pad h action devNode subSystem bt usb
  | applyPending => exact ⟨h.adapters, h.devices, h.input1, h.upowerClients⟩
  | hungUp source => exact ⟨h.adapters, h.devices, h.input1, h.upowerClients⟩

theorem limits_kept (pad : Pad) (loop : EventLoop Nat) (bt usb : Scan) (events : List Event) :
    Limited ((system pad).after (.start pad loop bt usb) events) := by
  have hstart : Limited (.start pad loop bt usb) :=
    ⟨⟨List.nodup_nil, Nat.zero_le _⟩, Nat.zero_le _, ⟨List.nodup_nil, Nat.zero_le _⟩,
      List.nodup_nil, Nat.zero_le _⟩
  have hvalid : (system pad).Valid (.start pad loop bt usb) events := (system pad).along_true _ _
  exact (system pad).invariant (fun s e hs _ => limited_handle pad s e hs) hstart hvalid

structure SameReader (s s' : Controller) : Prop where
  inputReader : s'.inputReader = s.inputReader
  loop : s'.loop = s.loop
  nextAddress : s'.nextAddress = s.nextAddress

/-- A registered source that is not queued for removal is the attached reader. -/
structure Owned (s : Controller) : Prop where
  nodup : s.loop.sources.Nodup
  owner : ∀ a, a ∈ s.loop.sources ∨ a ∈ s.loop.toAdd → a ∉ s.loop.toRemove →
    s.inputReader.map Reader.address = some a

/-- The attached reader is registered, under an address that was not used before. -/
structure Registered (s : Controller) : Prop where
  fresh : ∀ a ∈ s.loop.toRemove, a < s.nextAddress
  reader : ∀ r ∈ s.inputReader, r.address < s.nextAddress ∧
    (r.address ∈ s.loop.sources ∨ r.address ∈ s.loop.toAdd) ∧ r.address ∉ s.loop.toRemove

theorem Owned.of_same {s s' : Controller} (h : Owned s) (hs : SameReader s s') : Owned s' := by
  refine ⟨?_, fun a ha hr => ?_⟩
  · rw [hs.loop]
    exact h.nodup
  · rw [hs.loop] at ha hr
    rw [hs.inputReader]
    exact h.owner a ha hr

theorem Registered.of_same {s s' : Controller} (h : Registered s) (hs : SameReader s s') :
    Registered s' := by
  refine ⟨?_, ?_⟩
  · rw [hs.loop, hs.nextAddress]
    exact h.fresh
  · rw [hs.loop, hs.nextAddress, hs.inputReader]
    exact h.reader

theorem addAdapter_reader (s : Controller) (throws : Bool) (path : String) :
    SameReader s (s.addAdapter throws path).1 := by
  rw [Controller.addAdapter]
  split_ifs <;> exact ⟨rfl, rfl, rfl⟩

theorem addInput1_reader (s : Controller) (throws : Bool) (path : String) :
    SameReader s (s.addInput1 throws path).1 := by
  rw [Controller.addInput1]
  split_ifs <;> exact ⟨rfl, rfl, rfl⟩

theorem addUPowerClient_reader (s : Controller) (throws : Bool) (path : String) :
    SameReader s (s.addUPowerClient throws path).1 := by
  rw [Controller.addUPowerClient]
  split_ifs <;> exact ⟨rfl, rfl, rfl⟩

theorem removeInterface_reader (pad : Pad) (s : Controller) (objectPath interface : String) :
    SameReader s (s.removeInterface pad objectPath interface) := by
  unfold Controller.removeInterface
  split
  · exact ⟨rfl, rfl, rfl⟩
  · rw [Controller.removeDevice]
    cases s.devices[objectPath]? with
    | none => exact ⟨rfl, rfl, rfl⟩
    | some props =>
        cases hpath : powerPath pad props <;> simp only [hpath] <;> exact ⟨rfl, rfl, rfl⟩
  · exact ⟨rfl, rfl, rfl⟩
  · exact ⟨rfl, rfl, rfl⟩

theorem attach_reader (s : Controller) (opens : String → Bool) (key : String) :
    SameReader s (s.attach opens key) ∨
      s.inputReader = none ∧ (s.attach opens key).loop = s.loop.add s.nextAddress ∧
        (s.attach opens key).inputReader.map Reader.address = some s.nextAddress ∧
        (s.attach opens key).nextAddress = s.nextAddress + 1 := by
  rw [Controller.attach]
  by_cases hnode : findHidDevice s.table key = ""
  · exact Or.inl (by simpa only [hnode, if_true] using ⟨rfl, rfl, rfl⟩)
  · by_cases hr : s.inputReader.isSome = true
    · exact Or.inl (by simpa only [hnode, hr, if_true, if_false] using ⟨rfl, rfl, rfl⟩)
    · by_cases hopen : opens (findHidDevice s.table key) = true
      · right
        simp only [hnode, hr, hopen, if_true, if_false]
        exact ⟨Option.not_isSome_iff_eq_none.1 hr, rfl, rfl, rfl⟩
      · exact Or.inl (by simpa only [hnode, hr, hopen, if_false] using ⟨rfl, rfl, rfl⟩)

structure Keeps (J : Controller → Prop) : Prop where
  same : ∀ s s', J s → SameReader s s' → J s'
  attach : ∀ s opens key, J s → J (s.attach opens key)

theorem Keeps.addDevice {J : Controller → Prop} (hJ : Keeps J) (pad : Pad) {s : Controller}
    (h : J s) (out : Outcomes) (objectPath : String) (properties : PropertyMap) :
    J (s.addDevice pad out objectPath properties).1 := by
  rw [Controller.addDevice]
  split_ifs
  · exact h
  · exact h
  · exact h
  · cases Device1 properties with
    | none => exact h
    | some props =>
        have hinserted : J { s with devices := s.devices.insert objectPath props } :=
          hJ.same s _ h ⟨rfl, rfl, rfl⟩
        have hinstalled : J (s.installDevice pad out.opens objectPath props) := by
          rw [Controller.installDevice]
          cases deviceKey pad props with
          | none => exact hinserted
          | some key => exact hJ.attach _ out.opens key hinserted
        cases hpath : powerPath pad props with
        | none => simpa only [hpath] using hinstalled
        | some path =>
            simpa only [hpath] using
              hJ.same _ _ hinstalled (addUPowerClient_reader _ out.upowerThrows path)

theorem Keeps.addInterface {J : Controller → Prop} (hJ : Keeps J) (pad : Pad) {s : Controller}
    (h : J s) (out : Outcomes) (objectPath : String) (entry : String × PropertyMap) :
    J (s.addInterface pad out objectPath entry).1 := by
  unfold Controller.addInterface
  split
  · exact hJ.same s _ h (addAdapter_reader _ _ _)
  · exact hJ.addDevice pad h _ _ _
  · exact hJ.same s _ h (addInput1_reader _ _ _)
  · exact h

/-- The invariant rule for the messages of BlueZ. -/
theorem Keeps.interfaces {J : Controller → Prop} (hJ : Keeps J) (pad : Pad) {s : Controller}
    (h : J s) (out : Outcomes) (objectPath : String)
    (interfaces : Std.ExtTreeMap String PropertyMap) (removed : List String) :
    J (s.onInterfacesAdded pad out objectPath interfaces).1 ∧
      J (s.onInterfacesRemoved pad objectPath removed) := by
  constructor
  · rw [Controller.onInterfacesAdded, addInterfaces_eq]
    apply goThrough_keeps (J := J) _ h
    exact fun s entry _ hs => hJ.addInterface pad hs out objectPath entry
  · rw [Controller.onInterfacesRemoved]
    exact List.foldlRecOn removed _ h
      fun s hs interface _ => hJ.same s _ hs (removeInterface_reader pad s objectPath interface)

theorem owned_attach (s : Controller) (opens : String → Bool) (key : String) (h : Owned s) :
    Owned (s.attach opens key) := by
  rcases attach_reader s opens key with hs | ⟨hnone, hloop, hreader, -⟩
  · exact h.of_same hs
  · refine ⟨?_, fun a ha hr => ?_⟩
    · rw [hloop, EventLoop.add_sources]
      exact h.nodup
    · rw [hloop, EventLoop.add_sources, EventLoop.add_toAdd, List.mem_append,
        List.mem_singleton] at ha
      rw [hloop, EventLoop.add_toRemove] at hr
      rw [hreader]
      -- without a reader nothing else is registered
      have hother (ha : a ∈ s.loop.sources ∨ a ∈ s.loop.toAdd) : some s.nextAddress = some a := by
        have howner := h.owner a ha hr
        rw [hnone] at howner
        cases howner
      rcases ha with ha | ha | rfl
      · exact hother (Or.inl ha)
      · exact hother (Or.inr ha)
      · rfl

theorem registered_attach (s : Controller) (opens : String → Bool) (key : String)
    (h : Registered s) : Registered (s.attach opens key) := by
  rcases attach_reader s opens key with hs | ⟨hnone, hloop, hreader, hnext⟩
  · exact h.of_same hs
  · refine ⟨?_, fun r hr => ?_⟩
    · rw [hloop, hnext, EventLoop.add_toRemove]
      exact fun a ha => Nat.lt_succ_of_lt (h.fresh a ha)
    · have haddress : r.address = s.nextAddress := by
        rw [Option.mem_def.1 hr] at hreader
        exact Option.some.inj hreader
      rw [hloop, hnext, haddress, EventLoop.add_sources, EventLoop.add_toAdd,
        EventLoop.add_toRemove]
      refine ⟨Nat.lt_succ_self _, Or.inr ?_, fun hmem => ?_⟩
      · exact List.mem_append_right _ (List.mem_singleton_self _)
      · exact absurd (h.fresh _ hmem) (Nat.lt_irrefl _)

theorem owned_retireReader {s : Controller} (h : Owned s) : Owned s.retireReader := by
  rw [Controller.retireReader]
  cases hreader : s.inputReader with
  | none => exact h
  | some reader =>
      refine ⟨?_, fun a ha hr => ?_⟩
      · rw [EventLoop.retire_sources]
        exact h.nodup
      · exfalso
        rw [EventLoop.retire_sources, EventLoop.retire_toAdd] at ha
        rw [EventLoop.retire_toRemove, List.mem_append, List.mem_singleton, not_or] at hr
        have howner := h.owner a ha hr.1
        rw [hreader, Option.map_some] at howner
        exact hr.2 (Option.some.inj howner).symm

theorem registered_retireReader {s : Controller} (h : Registered s) :
    Registered s.retireReader := by
  rw [Controller.retireReader]
  cases hreader : s.inputReader with
  | none => exact h
  | some reader =>
      refine ⟨fun a ha => ?_, fun r hr => by cases hr⟩
      rw [EventLoop.retire_toRemove, List.mem_append, List.mem_singleton] at ha
      rcases ha with ha | rfl
      · exact h.fresh a ha
      · exact (h.reader reader hreader).1

theorem Keeps.udev {J : Controller → Prop} (hJ : Keeps J) (hretire : ∀ s, J s → J s.retireReader)
    (pad : Pad) {s : Controller} (h : J s) (action devNode subSystem : Option String)
    (bt usb : Scan) : J (s.udevDispatch pad action devNode subSystem bt usb) := by
  match action, subSystem with
  | none, _ | some _, none => exact h
  | some action, some subSystem =>
      rw [Controller.udevDispatch, Controller.udevCallback]
      split_ifs
      · exact hJ.same _ _ (hretire s h) ⟨rfl, rfl, rfl⟩
      · exact hJ.same _ _ h ⟨rfl, rfl, rfl⟩
      · exact h

/-- The invariant rule for the events; the last two are left to the invariant. -/
theorem Keeps.handle {J : Controller → Prop} (hJ : Keeps J) (hretire : ∀ s, J s → J s.retireReader)
    (pad : Pad) {s : Controller} (h : J s) (e : Event)
    (hpass : e = .applyPending → J (handle pad s .applyPending))
    (hhangup : ∀ source, e = .hungUp source → J (handle pad s (.hungUp source))) :
    J (handle pad s e) := by
  cases e with
  | interfacesAdded out objectPath interfaces =>
      exact (hJ.interfaces pad h out objectPath interfaces []).1
  | interfacesRemoved objectPath removed =>
      exact (hJ.interfaces pad h noThrow objectPath ∅ removed).2
  | propertiesChanged objectPath changed =>
      rw [Controllers.handle, Controller.devicePropertiesChanged]
      cases s.devices[objectPath]? <;> exact hJ.same s _ h ⟨rfl, rfl, rfl⟩
  | udev action devNode subSystem bt usb =>
      exact hJ.udev hretire pad h action devNode subSystem bt usb
  | applyPending => exact hpass rfl
  | hungUp source => exact hhangup source rfl

theorem owned_handle (pad : Pad) (s : Controller) (e : Event) (h : Owned s) :
    Owned (handle pad s e) := by
  have hJ : Keeps Owned := ⟨fun _ _ h hs => h.of_same hs, owned_attach⟩
  apply hJ.handle (fun _ => owned_retireReader) pad h e
  · rintro -
    refine ⟨s.loop.applyPending_nodup h.nodup, fun a ha _ => ?_⟩
    have hmem : a ∈ s.loop.applyPending.sources := ha.resolve_right (fun hadd => nomatch hadd)
    rw [EventLoop.mem_applyPending_sources] at hmem
    exact h.owner a hmem.1 hmem.2
  · rintro source -
    refine ⟨?_, fun a ha hr => h.owner a ?_ fun hmem => hr ?_⟩
    · simpa [handle] using h.nodup
    · simpa [handle] using ha
    · simpa [handle] using Or.inl hmem

/-- The loop does not take the reader out because its node has hung up. -/
def NoHangup : Event → Prop
  | .hungUp _ => False
  | _ => True

theorem registered_handle (pad : Pad) (s : Controller) (e : Event) (h : Registered s)
    (he : NoHangup e) : Registered (handle pad s e) := by
  have hJ : Keeps Registered := ⟨fun _ _ h hs => h.of_same hs, registered_attach⟩
  apply hJ.handle (fun _ => registered_retireReader) pad h e
  · rintro -
    refine ⟨(fun a ha => nomatch ha), fun r hr => ?_⟩
    obtain ⟨hfresh, hknown, hkept⟩ := h.reader r hr
    have hmem : r.address ∈ s.loop.applyPending.sources :=
      (s.loop.mem_applyPending_sources r.address).2 ⟨hknown, hkept⟩
    exact ⟨hfresh, Or.inl hmem, List.not_mem_nil⟩
  · rintro source rfl
    exact he.elim

/-- What the next pass of the loop will have in its poll set of the sources of
the controller. -/
abbrev polledNext (s : Controller) : List Nat := s.loop.applyPending.sources

theorem polledNext_of_owned {s : Controller} (h : Owned s) :
    polledNext s <+: (s.inputReader.map Reader.address).toList := by
  have hnodup := s.loop.applyPending_nodup h.nodup
  have howner : ∀ a ∈ polledNext s, s.inputReader.map Reader.address = some a := by
    intro a ha
    rw [EventLoop.mem_applyPending_sources] at ha
    exact h.owner a ha.1 ha.2
  match hpolled : polledNext s with
  | [] => exact List.nil_prefix
  | [a] =>
      rw [howner a (hpolled ▸ List.mem_singleton_self a)]
      exact List.prefix_rfl
  | a :: b :: rest =>
      exfalso
      have ha := howner a (by simp [hpolled])
      have hb := howner b (by simp [hpolled])
      rw [show s.loop.applyPending.sources = a :: b :: rest from hpolled, List.nodup_cons] at hnodup
      obtain rfl := Option.some.inj (ha.symm.trans hb)
      exact hnodup.1 List.mem_cons_self

/-- After any run the loop polls the reader that is attached, or none; and it
does poll the attached one, if no node has hung up. -/
theorem polls_attached_reader (pad : Pad) (wakeFd : Int) (bt usb : Scan) (events : List Event) :
    let s := (system pad).after (.start pad (.init wakeFd) bt usb) events
    polledNext s <+: (s.inputReader.map Reader.address).toList ∧
      ((∀ e ∈ events, NoHangup e) →
        polledNext s = (s.inputReader.map Reader.address).toList) := by
  intro s
  have hvalid : (system pad).Valid (.start pad (.init wakeFd) bt usb) events :=
    (system pad).along_true _ _
  have howned : Owned s := (system pad).invariant (fun s e hs _ => owned_handle pad s e hs)
    ⟨List.nodup_nil, fun a ha => by rcases ha with ha | ha <;> cases ha⟩ hvalid
  have hle := polledNext_of_owned howned
  refine ⟨hle, fun hevents => ?_⟩
  have hregistered : Registered s := (system pad).invariant_along
    (fun s e hs _ he => registered_handle pad s e hs he)
    ⟨(fun a ha => nomatch ha), (fun r hr => nomatch hr)⟩ hvalid
    (((system pad).along_action_iff _ events).2 hevents)
  cases hreader : s.inputReader with
  | none =>
      rw [hreader] at hle
      exact List.prefix_nil.1 hle
  | some r =>
      obtain ⟨-, hknown, hkept⟩ := hregistered.reader r hreader
      have hmem : r.address ∈ polledNext s :=
        (s.loop.mem_applyPending_sources r.address).2 ⟨hknown, hkept⟩
      rw [hreader] at hle
      obtain ⟨rest, hrest⟩ := hle
      match hpolled : polledNext s with
      | [] =>
          rw [hpolled] at hmem
          cases hmem
      | a :: as =>
          rw [hpolled] at hrest
          injection hrest with ha has
          rw [ha, (List.append_eq_nil_iff.1 has).1]
          rfl

end SdbusExamples.ControllerInvariants
