import SdbusExamples.UPowerRequests

namespace SdbusExamples.UPowerConvergence

open MessageQueues PathMaps Runs UPowerClient UPowerDisplayDevice UPowerMessages UPowerRequests
  Variants

def Listed (w : World) : Prop := w.phase = .running ∧ Request.enumerateDevices ∉ w.requests

structure Good (w : World) (q : String) (c : Option Device) : Prop where
  known : c.isSome = true → q ∈ w.daemon ∧ Client.Passes w.client.deviceFilter q
  listed : Listed w → q ∈ w.daemon → Client.Passes w.client.deviceFilter q → c.isSome = true
  loaded : ∀ d, c = some d → d.pending = none →
    ∃ properties, w.daemon[q]? = some properties ∧ Current d.properties properties
  loading : ∀ d call, c = some d → d.pending = some call →
    Request.getAll q call ∈ w.requests ∨ w.client.calls ≤ call

def Arrives (w : World) (q : String) : Prop :=
  Leads (Takes w.client.deviceFilter w.client.calls q) (Good w q) w.client.devices[q]?
    (w.bus.flatMap rounds)

section Good

variable {w w' : World} {q : String} {c : Option Device}

theorem Good.mono (h : Good w q c) (hd : w'.daemon[q]? = w.daemon[q]?)
    (hf : w'.client.deviceFilter = w.client.deviceFilter) (hl : Listed w' → Listed w)
    (hr : ∀ d call, c = some d → d.pending = some call →
      Request.getAll q call ∈ w.requests ∨ w.client.calls ≤ call →
        Request.getAll q call ∈ w'.requests ∨ w'.client.calls ≤ call) : Good w' q c := by
  have hmem : q ∈ w'.daemon ↔ q ∈ w.daemon := by
    rw [mem_iff_getElem?, mem_iff_getElem?, hd]
  refine ⟨?_, ?_, ?_, ?_⟩
  · rw [hmem, hf]
    exact h.known
  · rw [hmem, hf]
    exact fun hlisted => h.listed (hl hlisted)
  · rw [hd]
    exact h.loaded
  · intro d call hc hp
    exact hr d call hc hp (h.loading d call hc hp)

theorem good_none (h : Listed w → q ∈ w.daemon → ¬ Client.Passes w.client.deviceFilter q) :
    Good w q none := by
  refine ⟨?_, fun hl hq hp => absurd hp (h hl hq), ?_, ?_⟩
  · intro hc
    cases hc
  · intro d hd
    cases hd
  · intro d call hd
    cases hd

theorem good_made {call : Nat} (hq : q ∈ w.daemon) (hp : Client.Passes w.client.deviceFilter q)
    (hcall : w.client.calls ≤ call) : Good w q (some ⟨some call, .initial⟩) := by
  refine ⟨fun _ => ⟨hq, hp⟩, fun _ _ _ => rfl, ?_, ?_⟩
  · rintro _ ⟨⟩ hnone
    cases hnone
  · rintro _ n ⟨⟩ hn
    exact .inr (Option.some.inj hn ▸ hcall)

end Good

theorem listed_of_sent {w w' : World} {sent : List Request} (hphase : w'.phase = w.phase)
    (hrequests : w'.requests = w.requests ++ sent) (h : Listed w') : Listed w := by
  refine ⟨hphase ▸ h.1, fun hm => h.2 ?_⟩
  rw [hrequests]
  exact List.mem_append_left _ hm

theorem not_listed_of_unsubscribed {w : World} (hb : Books w) (hs : w.subscribed = false) :
    ¬ Listed w := by
  rintro ⟨hphase, hrequests⟩
  rw [(hb.unsubscribed hs).2.2.2, hphase] at hrequests
  exact hrequests (by simp [opening])

theorem Arrives.send {w w' : World} {q : String} {message : Message} (h : Arrives w q)
    (hclient : w'.client = w.client) (hbus : w'.bus = w.bus ++ [message])
    (hround : rounds message = [message])
    (hgood : ∀ c d, Good w q c → Takes w.client.deviceFilter w.client.calls q message c d →
      Good w' q d) : Arrives w' q := by
  rw [Arrives, hclient, hbus, List.flatMap_append, List.flatMap_singleton, hround]
  exact Leads.send h fun c hc d => hgood c d hc

theorem Arrives.mono {w w' : World} {q : String} (h : Arrives w q)
    (hclient : w'.client = w.client) (hbus : w'.bus = w.bus)
    (hgood : ∀ c, Good w q c → Good w' q c) : Arrives w' q := by
  rw [Arrives, hclient, hbus]
  exact Leads.mono hgood h

theorem Arrives.signal {w : World} {q : String} (h : Arrives w q) (hb : Books w)
    (daemon : Std.ExtTreeMap String PropertyMap) {message : Message}
    (hround : rounds message = [message])
    (hgood : ∀ c d, Good w q c → Takes w.client.deviceFilter w.client.calls q message c d →
      Good { w with daemon, bus := w.bus ++ [message] } q d) :
    Arrives { w with daemon, bus := signal w message } q := by
  rw [UPowerClient.signal]
  by_cases hs : w.subscribed = true
  · rw [if_pos hs]
    exact h.send rfl rfl hround hgood
  · have hs : w.subscribed = false := Bool.eq_false_iff.2 hs
    obtain ⟨hbus, hdevices, -⟩ := hb.unsubscribed hs
    have hnone : (∅ : Std.ExtTreeMap String Device)[q]? = none := by simp
    rw [Arrives, hs, if_neg Bool.false_ne_true, hbus, hdevices, hnone]
    have hnot : ¬ Listed w := not_listed_of_unsubscribed hb hs
    exact good_none fun hlisted => absurd hlisted hnot

theorem Arrives.adds {w : World} {q : String} (h : Arrives w q) (hb : Books w) {device : String}
    (hnew : device ∉ w.daemon) (properties : PropertyMap) :
    Arrives (next w (.adds device properties)) q := by
  refine h.signal hb _ rfl fun c d hc hd => ?_
  have hdaemon : (w.daemon.insert device properties)[q]? =
      if device = q then some properties else w.daemon[q]? := getElem?_insert_path ..
  by_cases hq : device = q
  · subst hq
    have hnone : c = none := by
      cases c with
      | none => rfl
      | some d => exact absurd (hc.known rfl).1 hnew
    rcases hd with ⟨⟨-, hp, -⟩, call, hcall, rfl⟩ | ⟨hnot, rfl⟩
    · exact good_made ((mem_insert_path ..).2 (.inl rfl)) hp hcall
    · rw [hnone]
      exact good_none fun _ _ hp => hnot ⟨rfl, hp, hnone⟩
  · rcases hd with ⟨⟨heq, -⟩, -⟩ | ⟨-, rfl⟩
    · exact absurd heq hq
    · rw [if_neg hq] at hdaemon
      exact hc.mono hdaemon rfl id fun _ _ _ _ hr => hr

theorem Arrives.removes {w : World} {q : String} (h : Arrives w q) (hb : Books w)
    (device : String) : Arrives (next w (.removes device)) q := by
  refine h.signal hb _ rfl fun c d hc hd => ?_
  have hdaemon : (w.daemon.erase device)[q]? = if device = q then none else w.daemon[q]? :=
    getElem?_erase_path ..
  rw [Takes] at hd
  by_cases hq : device = q
  · subst hq
    have hnone : d = none := by
      rw [hd]
      split_ifs with hp
      · rfl
      · cases c with
        | none => rfl
        | some e => exact absurd ⟨rfl, (hc.known rfl).2⟩ hp
    rw [hnone]
    exact good_none fun _ hm => absurd rfl ((mem_erase_path ..).1 hm).1
  · rw [if_neg hq] at hdaemon
    rw [if_neg fun hp => hq hp.1] at hd
    rw [hd]
    exact hc.mono hdaemon rfl id fun _ _ _ _ hr => hr

theorem Good.changed {w w' : World} {q : String} {c d : Option Device} (h : Good w q c)
    {changed : PropertyMap} (ht : Typed changed)
    (hdaemon : w'.daemon[q]? = w.daemon[q]?.map (· ∪ changed))
    (hclient : w'.client = w.client) (hrequests : w'.requests = w.requests)
    (hphase : w'.phase = w.phase) (hsome : d.isSome = c.isSome)
    (hd : ∀ e', d = some e' → ∃ e, c = some e ∧ e'.pending = e.pending ∧
      (e.pending = none → e'.properties = (e.onPropertiesChanged changed).properties)) :
    Good w' q d := by
  have hmem : q ∈ w'.daemon ↔ q ∈ w.daemon := by
    rw [Std.ExtTreeMap.mem_iff_isSome_getElem?, Std.ExtTreeMap.mem_iff_isSome_getElem?, hdaemon,
      Option.isSome_map]
  refine ⟨?_, ?_, ?_, ?_⟩
  · rw [hsome, hmem, hclient]
    exact h.known
  · rw [hsome, hmem, hclient, Listed, hphase, hrequests]
    exact h.listed
  · intro e' he' hp
    obtain ⟨e, he, hpending, hproperties⟩ := hd e' he'
    have hnone : e.pending = none := hpending ▸ hp
    obtain ⟨properties, hq, hcurrent⟩ := h.loaded e he hnone
    refine ⟨properties ∪ changed, by rw [hdaemon, hq, Option.map_some], ?_⟩
    rw [hproperties hnone]
    exact hcurrent.change ht
  · intro e' call he' hp
    obtain ⟨e, he, hpending, -⟩ := hd e' he'
    rw [hclient, hrequests]
    exact h.loading e call he (hpending ▸ hp)

def Waits (w : World) (q : String) (c : Option Device) : Prop :=
  ∀ d, c = some d → ∃ call, d.pending = some call ∧
    (Request.getAll q call ∈ w.requests ∨ w.client.calls ≤ call)

theorem Waits.takes {w : World} {q : String} {c d : Option Device} (hb : Books w)
    {message : Message} (hm : message ∈ w.bus.flatMap rounds) (hc : Waits w q c)
    (hd : Takes w.client.deviceFilter w.client.calls q message c d) : Waits w q d := by
  cases message with
  | deviceAdded device =>
      rcases hd with ⟨-, call, hcall, rfl⟩ | ⟨-, rfl⟩
      · rintro _ ⟨⟩
        exact ⟨call, rfl, .inr hcall⟩
      · exact hc
  | deviceRemoved device =>
      rw [Takes] at hd
      split_ifs at hd
      · subst hd
        rintro _ ⟨⟩
      · exact hd ▸ hc
  | propertiesChanged device changed =>
      rw [Takes] at hd
      split_ifs at hd
      · subst hd
        intro e' he'
        obtain ⟨e, rfl, rfl⟩ := Option.map_eq_some_iff.1 he'
        exact hc e rfl
      · exact hd ▸ hc
  | devices devices => exact hd ▸ hc
  | properties device call properties =>
      obtain ⟨hlt, hnot⟩ := hb.issued.reply (mem_of_mem_rounds hm)
      rw [Takes] at hd
      split_ifs at hd
      · subst hd
        intro e' he'
        obtain ⟨e, rfl, rfl⟩ := Option.map_eq_some_iff.1 he'
        obtain ⟨n, hn, hwaits⟩ := hc e rfl
        have hne : e.pending ≠ some call := by
          rw [hn]
          rintro ⟨⟩
          rcases hwaits with hrequest | hle
          · exact hnot q hrequest
          · omega
        rw [Device.onReply, if_neg hne]
        exact ⟨n, hn, hwaits⟩
      · exact hd ▸ hc
  | devicesFailed => cases hd
  | propertiesFailed device call => exact hd.1 ▸ hc

theorem Arrives.changes {w : World} {q : String} (h : Arrives w q) (hb : Books w)
    {device : String} {changed : PropertyMap} (ht : Typed changed) :
    Arrives (next w (.changes device changed)) q := by
  have hdaemon : (next w (.changes device changed)).daemon[q]? =
      if device = q then w.daemon[q]?.map (· ∪ changed) else w.daemon[q]? := by
    refine (getElem?_alter_path ..).trans ?_
    split_ifs with hq
    · rw [hq]
    · rfl
  by_cases hq : device = q
  · subst hq
    rw [if_pos rfl] at hdaemon
    by_cases hrule : device ∈ w.rules
    · refine h.send rfl (if_pos hrule) rfl fun c d hc hd => ?_
      rw [Takes, if_pos rfl] at hd
      subst hd
      refine hc.changed ht hdaemon rfl rfl rfl (Option.isSome_map ..) fun e' he' => ?_
      obtain ⟨e, rfl, rfl⟩ := Option.map_eq_some_iff.1 he'
      exact ⟨e, rfl, rfl, fun _ => rfl⟩
    · have hwaits : Waits w device w.client.devices[device]? := by
        intro d hd
        have hruled := hb.ruled device
        rw [hd] at hruled
        by_contra hnot
        exact hrule (hruled.served fun call hp hm => hnot ⟨call, hp, .inl hm⟩)
      have hbus : (next w (.changes device changed)).bus = w.bus := if_neg hrule
      rw [Arrives, hbus]
      refine Leads.keep (I := Waits w device) (fun m hm c d hc hd => ⟨hd, hc.takes hb hm hd⟩) ?_ hwaits h
      intro c hc hgood
      refine hgood.changed ht hdaemon rfl rfl rfl rfl fun e he => ⟨e, he, rfl, fun hnone => ?_⟩
      obtain ⟨call, hcall, -⟩ := hc e he
      rw [hnone] at hcall
      cases hcall
  · rw [if_neg hq] at hdaemon
    have hgood : ∀ c, Good w q c → Good (next w (.changes device changed)) q c :=
      fun c hc => hc.mono hdaemon rfl id fun _ _ _ _ hr => hr
    by_cases hrule : device ∈ w.rules
    · refine h.send rfl (if_pos hrule) rfl fun c d hc hd => ?_
      rw [Takes, if_neg hq] at hd
      rw [hd]
      exact hgood c hc
    · exact h.mono rfl (if_neg hrule) hgood

theorem Arrives.sends {w : World} {q : String} (h : Arrives w q) (phase : Phase) (r : Request)
    (hl : phase ≠ .running ∨ r = .enumerateDevices) :
    Arrives { w with phase, requests := w.requests ++ [r] } q := by
  refine h.mono rfl rfl fun c hc => hc.mono rfl rfl ?_ fun _ _ _ _ hr =>
    hr.imp_left (List.mem_append_left _)
  rintro ⟨hphase, hrequests⟩
  rcases hl with hne | rfl
  · exact absurd hphase hne
  · exact absurd (List.mem_append_right _ (List.mem_singleton_self _)) hrequests

theorem Good.pop {w w' : World} {q : String} {c : Option Device} (h : Good w q c) {r : Request}
    (hw : w.requests = r :: w'.requests) (hdaemon : w'.daemon = w.daemon)
    (hclient : w'.client = w.client) (hphase : w'.phase = w.phase) (hl : r ≠ .enumerateDevices)
    (hr : ∀ d call, c = some d → d.pending = some call → r ≠ .getAll q call) : Good w' q c := by
  refine h.mono (by rw [hdaemon]) (by rw [hclient]) ?_ ?_
  · rintro ⟨hrunning, hrequests⟩
    refine ⟨hphase ▸ hrunning, ?_⟩
    rw [hw]
    exact List.not_mem_cons_of_ne_of_not_mem hl.symm hrequests
  · intro d call hc hp hor
    rw [hw, List.mem_cons] at hor
    rw [hclient]
    rcases hor with (heq | hm) | hle
    · exact absurd heq.symm (hr d call hc hp)
    · exact .inl hm
    · exact .inr hle

theorem leads_additions {deviceFilter : String} {calls : Nat} {q : String}
    {K : Option Device → Prop} (devices : List String) (c : Option Device)
    (hkept : (c = none → Client.Passes deviceFilter q → q ∉ devices) → K c)
    (hmade : c = none → Client.Passes deviceFilter q → q ∈ devices → ∀ call, calls ≤ call →
      K (some ⟨some call, .initial⟩)) :
    Leads (Takes deviceFilter calls q) K c (devices.map .deviceAdded) := by
  induction devices generalizing c with
  | nil => exact hkept fun _ _ => List.not_mem_nil
  | cons device rest ih =>
      rintro d (⟨⟨rfl, hp, hnone⟩, call, hcall, rfl⟩ | ⟨hnot, rfl⟩)
      · refine ih _ (fun _ => hmade hnone hp List.mem_cons_self call hcall) fun hsome => ?_
        cases hsome
      · refine ih _ (fun hrest => hkept fun hnone hp => ?_) fun hnone hp hm =>
          hmade hnone hp (List.mem_cons_of_mem _ hm)
        rw [List.mem_cons, not_or]
        exact ⟨fun heq => hnot ⟨heq.symm, hp, hnone⟩, hrest hnone hp⟩

theorem Arrives.enumerated {w : World} {q : String} (h : Arrives w q) {requests : List Request}
    (hw : w.requests = .enumerateDevices :: requests) {devices : List String}
    (hd : ∀ device, device ∈ devices ↔ device ∈ w.daemon) :
    Arrives { w with requests, bus := w.bus ++ [.devices devices] } q := by
  show Leads _ _ _ ((w.bus ++ [Message.devices devices]).flatMap rounds)
  rw [List.flatMap_append, List.flatMap_singleton, leads_append]
  refine Leads.mono (fun c hc => leads_additions devices c (fun hkept => ?_) ?_) h
  · refine ⟨hc.known, fun _ hq hp => ?_, hc.loaded, fun d call hsome hpending => ?_⟩
    · cases c with
      | none => exact absurd ((hd q).2 hq) (hkept rfl hp)
      | some d => rfl
    · have hor := hc.loading d call hsome hpending
      rw [hw, List.mem_cons] at hor
      exact hor.imp_left fun hm => hm.resolve_left (by simp)
  · intro _ hp hm call hcall
    exact good_made ((hd q).1 hm) hp hcall

theorem Arrives.answered {w : World} {q : String} (h : Arrives w q)
    (hd : AllTyped w.daemon) {device : String} {call : Nat} {requests : List Request}
    (hw : w.requests = .getAll device call :: requests) (hdevice : device ∈ w.daemon) :
    Arrives (answer { w with requests } [] (.getAll device call)) q := by
  obtain ⟨properties, hproperties⟩ := (mem_iff_getElem? device).1 hdevice
  refine h.send rfl rfl rfl fun c d hc hd' => ?_
  rw [hproperties, Option.getD_some, Takes] at hd'
  by_cases hq : device = q
  · subst hq
    rw [if_pos rfl] at hd'
    cases c with
    | none =>
        subst hd'
        exact hc.pop hw rfl rfl rfl (by simp) fun _ _ hnone => by cases hnone
    | some e =>
        rw [Option.map_some, Device.onReply] at hd'
        by_cases hp : e.pending = some call
        · rw [if_pos hp] at hd'
          subst hd'
          refine ⟨fun _ => hc.known rfl, fun _ _ _ => rfl, ?_, ?_⟩
          · rintro _ ⟨⟩ -
            exact ⟨properties, hproperties, current_of_changed _ (hd device properties hproperties)⟩
          · rintro _ n ⟨⟩ hn
            cases hn
        · rw [if_neg hp] at hd'
          subst hd'
          refine hc.pop hw rfl rfl rfl (by simp) ?_
          rintro _ n ⟨⟩ hn heq
          rw [Request.getAll.injEq] at heq
          exact hp (heq.2 ▸ hn)
  · rw [if_neg hq] at hd'
    subst hd'
    refine hc.pop hw rfl rfl rfl (by simp) fun _ n _ _ heq => ?_
    rw [Request.getAll.injEq] at heq
    exact hq heq.1

theorem Arrives.answers {w : World} {q : String} (h : Arrives w q)
    (hd : AllTyped w.daemon) {r : Request} {requests : List Request}
    (hw : w.requests = r :: requests) {devices : List String} (ha : Answers w devices r) :
    Arrives (answer { w with requests } devices r) q := by
  cases r with
  | enumerateDevices => exact h.enumerated hw ha
  | getAll device call => exact h.answered hd hw ha
  | registerProxy | registerDevice | unregisterDevice =>
      exact h.mono rfl rfl fun c hc => hc.pop hw rfl rfl rfl (by simp) (by simp)

theorem Arrives.fails {w : World} {q : String} (h : Arrives w q) {r : Request}
    {requests : List Request} (hw : w.requests = r :: requests) (hr : failure r ≠ []) :
    Arrives { w with requests, bus := w.bus ++ failure r } q := by
  cases r with
  | enumerateDevices =>
      refine h.send rfl rfl rfl fun c d hc hd => ?_
      cases hd
  | getAll device call =>
      refine h.send rfl rfl rfl fun c d hc hd => ?_
      obtain ⟨rfl, hnot⟩ := hd
      refine hc.pop hw rfl rfl rfl (by simp) fun e n he hn heq => ?_
      rw [Request.getAll.injEq] at heq
      exact hnot ⟨heq.1, e, he, heq.2 ▸ hn⟩
  | registerProxy | registerDevice | unregisterDevice => exact absurd rfl hr

/-- A device has been made. The call that it was made with is not used by any
device at another path. -/
theorem leads_made {w w' : World} (device : String) {q : String} {c : Option Device}
    {ms : List Message}
    (h : Leads (Takes w.client.deviceFilter w.client.calls q) (Good w q) c ms)
    (hapart : device ≠ q → ∀ d, c = some d → d.pending ≠ some w.client.calls)
    (hdaemon : w'.daemon = w.daemon) (hfilter : w'.client.deviceFilter = w.client.deviceFilter)
    (hphase : w'.phase = w.phase) (hcalls : w'.client.calls = w.client.calls + 1)
    (hrequests : w'.requests =
      w.requests ++ [.registerDevice device, .getAll device w.client.calls]) :
    Leads (Takes w'.client.deviceFilter w'.client.calls q) (Good w' q) c ms := by
  rw [hfilter, hcalls]
  refine Leads.keep (I := fun c => device ≠ q → ∀ d, c = some d →
    d.pending ≠ some w.client.calls) ?_ ?_ hapart h
  · intro m _ c d hc hd
    refine ⟨hd.fewer, fun hne e' he' hp => ?_⟩
    rcases pending_of_takes hd he' hp with hle | ⟨e, he, hp'⟩
    · omega
    · exact hc hne e he hp'
  · intro c hc hgood
    refine hgood.mono (by rw [hdaemon]) hfilter (listed_of_sent hphase hrequests) ?_
    intro d call hd hp hor
    rw [hcalls, hrequests]
    rcases hor with hm | hle
    · exact .inl (List.mem_append_left _ hm)
    · rcases Nat.eq_or_lt_of_le hle with rfl | hlt
      · by_cases hq : device = q
        · subst hq
          exact .inl (by simp)
        · exact absurd hp (hc hq d hd)
      · exact .inr hlt

theorem Arrives.delivers {w : World} {q : String} (h : Arrives w q) (hb : Books w)
    {message : Message} {bus : List Message} (hw : w.bus = message :: bus)
    (hf : ¬ Failed w.client message) :
    Arrives { w with
      bus := remains message ++ bus
      requests := w.requests ++ (handle w.client message).2
      client := (handle w.client message).1 } q := by
  have hfilter := deviceFilter_handle w.client message
  rw [Arrives, hw] at h
  have hleads := leads_handle hf h
  rcases handle_cases hf with ⟨device, -, heq⟩ | hrest
  · refine leads_made device hleads (fun hne d hd hp => ?_) rfl hfilter rfl ?_ ?_
    · rw [heq, devices_made, if_neg hne] at hd
      exact Nat.lt_irrefl _ (hb.waiting q _ ⟨d, hd, hp⟩)
    · show (handle w.client message).1.calls = _
      rw [heq, made]
    · show w.requests ++ (handle w.client message).2 = _
      rw [heq, made]
  · have hcalls : (handle w.client message).1.calls = w.client.calls := by
      rcases hrest with ⟨device, -, heq⟩ | ⟨-, hcalls, -⟩
      · rw [heq, removed]
      · exact hcalls
    rw [Arrives]
    show Leads (Takes (handle w.client message).1.deviceFilter (handle w.client message).1.calls q)
      _ _ _
    rw [hfilter, hcalls]
    refine Leads.mono (fun c hgood => ?_) hleads
    refine hgood.mono rfl hfilter (listed_of_sent rfl rfl) fun d call _ _ hor => ?_
    exact hor.imp (List.mem_append_left _) fun hle => hcalls.symm ▸ hle

structure Inv (deviceFilter : String) (w : World) : Prop where
  filter : w.client.deviceFilter = deviceFilter
  typed : AllTyped w.daemon
  books : Books w
  arrives : ∀ q, Arrives w q

theorem daemon_answer (w : World) (devices : List String) (r : Request) :
    (answer w devices r).daemon = w.daemon := by
  cases r <;> rfl

theorem client_answer (w : World) (devices : List String) (r : Request) :
    (answer w devices r).client = w.client := by
  cases r <;> rfl

theorem allTyped_next {w : World} {a : Act} (h : AllTyped w.daemon) (hs : Succeeds w a) :
    AllTyped (next w a).daemon := by
  intro device properties hd
  cases a with
  | adds q new =>
      have hd : (w.daemon.insert q new)[device]? = some properties := hd
      rw [getElem?_insert_path] at hd
      split_ifs at hd
      · exact Option.some.inj hd ▸ hs
      · exact h device properties hd
  | removes q =>
      have hd : (w.daemon.erase q)[device]? = some properties := hd
      rw [getElem?_erase_path] at hd
      split_ifs at hd
      exact h device properties hd
  | changes q changed =>
      have hd : (w.daemon.alter q _)[device]? = some properties := hd
      rw [getElem?_alter_path] at hd
      split_ifs at hd
      · obtain ⟨old, hold, rfl⟩ := Option.map_eq_some_iff.1 hd
        exact (h q old hold).union hs
      · exact h device properties hd
  | registerProxy | enumerateDevices => exact h device properties hd
  | answers devices =>
      apply h device properties
      rw [next] at hd
      split at hd
      · rw [daemon_answer] at hd
        exact hd
      · exact hd
  | fails =>
      apply h device properties
      rw [next] at hd
      split at hd <;> exact hd
  | deliver =>
      apply h device properties
      rw [next] at hd
      split at hd <;> exact hd

theorem deviceFilter_next (w : World) (a : Act) :
    (next w a).client.deviceFilter = w.client.deviceFilter := by
  cases a with
  | answers devices =>
      rw [next]
      split
      · rw [client_answer]
      · rfl
  | fails =>
      rw [next]
      split <;> rfl
  | deliver =>
      rw [next]
      split
      · exact deviceFilter_handle ..
      · rfl
  | _ => rfl

theorem arrives_next {deviceFilter : String} {w : World} {a : Act} (h : Inv deviceFilter w)
    (he : enabled w a) (hs : Succeeds w a) (q : String) : Arrives (next w a) q := by
  cases a with
  | adds device properties => exact (h.arrives q).adds h.books he properties
  | removes device => exact (h.arrives q).removes h.books device
  | changes device changed => exact (h.arrives q).changes h.books hs
  | registerProxy => exact (h.arrives q).sends .registered .registerProxy (.inl (by simp))
  | enumerateDevices => exact (h.arrives q).sends .running .enumerateDevices (.inr rfl)
  | answers devices =>
      obtain ⟨r, hhead, ha⟩ := he
      obtain ⟨requests, hw⟩ := List.head?_eq_some_iff.1 hhead
      rw [next, hw]
      exact (h.arrives q).answers h.typed hw ha
  | fails =>
      obtain ⟨r, hhead, hr⟩ := he
      obtain ⟨requests, hw⟩ := List.head?_eq_some_iff.1 hhead
      rw [next, hw]
      exact (h.arrives q).fails hw hr
  | deliver =>
      obtain ⟨message, bus, hw⟩ := List.exists_cons_of_ne_nil he
      have hf : ¬ Failed w.client message := hs message (by simp [hw])
      rw [next, hw]
      exact (h.arrives q).delivers h.books hw hf

theorem inv_next {deviceFilter : String} (w : World) (a : Act) (h : Inv deviceFilter w)
    (he : enabled w a) (hs : Succeeds w a) : Inv deviceFilter (next w a) :=
  ⟨(deviceFilter_next w a).trans h.filter, allTyped_next h.typed hs, books_next w a h.books he hs,
    arrives_next h he hs⟩

theorem inv_start (deviceFilter : String) {daemon : Std.ExtTreeMap String PropertyMap}
    (hd : AllTyped daemon) : Inv deviceFilter (start deviceFilter daemon) := by
  refine ⟨rfl, hd, books_start deviceFilter daemon, fun q => ?_⟩
  have hnone : (start deviceFilter daemon).client.devices[q]? = none := by simp [start]
  rw [Arrives, hnone]
  exact good_none fun hl => absurd hl.1 (by simp [start])

theorem converged_of_settled {deviceFilter : String} {w : World} (h : Inv deviceFilter w)
    (hs : Settled w) : Converged deviceFilter w := by
  obtain ⟨hphase, hrequests, hbus⟩ := hs
  have hgood : ∀ q : String, Good w q w.client.devices[q]? := by
    intro q
    have hq := h.arrives q
    rw [Arrives, hbus] at hq
    exact hq
  refine ⟨fun q => ?_, fun q d properties hd hproperties => ?_⟩
  · rw [Std.ExtTreeMap.mem_iff_isSome_getElem?, ← h.filter]
    constructor
    · exact (hgood q).known
    · rintro ⟨hq, hp⟩
      exact (hgood q).listed ⟨hphase, by simp [hrequests]⟩ hq hp
  · have hpending : d.pending = none := by
      rw [Option.eq_none_iff_forall_ne_some]
      intro call hp
      rcases (hgood q).loading d call hd hp with hm | hle
      · rw [hrequests] at hm
        cases hm
      · exact absurd (h.books.waiting q call ⟨d, hd, hp⟩) (Nat.not_lt.2 hle)
    obtain ⟨current, hcurrent, hvalues⟩ := (hgood q).loaded d hd hpending
    obtain rfl := Option.some.inj (hcurrent.symm.trans hproperties)
    exact hvalues

/-- In whatever order UPower, the bus and the client take their steps: if no
call fails and all values are correctly typed, once all messages have been
handled the client has the devices that pass its filter, with their values. -/
theorem display_devices_converge (deviceFilter : String) (daemon : Std.ExtTreeMap String PropertyMap)
    (hd : AllTyped daemon) (as : List Act) (hv : system.Valid (start deviceFilter daemon) as)
    (hc : system.Along Succeeds (start deviceFilter daemon) as)
    (hs : Settled (system.after (start deviceFilter daemon) as)) :
    Converged deviceFilter (system.after (start deviceFilter daemon) as) :=
  converged_of_settled (system.invariant_along inv_next (inv_start deviceFilter hd) hv hc) hs

def battery : String := "/org/freedesktop/UPower/devices/battery_BAT0"

def charging : PropertyMap := .ofList [("State", Variant.plain (.u 1))]

def discharging : PropertyMap := .ofList [("State", Variant.plain (.u 2))]

def low : PropertyMap := .ofList [("WarningLevel", Variant.plain (.u 3))]

/-- The battery is taken out and put back in before the client has its properties. -/
def swapped : List Act :=
  [.adds battery charging, .registerProxy, .enumerateDevices, .answers [], .answers [battery],
    .deliver, .deliver, .answers [], .removes battery, .adds battery discharging, .answers [],
    .changes battery low, .deliver, .deliver, .deliver, .deliver, .answers [], .answers [],
    .answers [], .deliver]

theorem display_devices_converge_swapped :
    Converged "" (system.after (start "" ∅) swapped) :=
  display_devices_converge "" ∅ (by simp [AllTyped]) swapped (by decide +kernel) (by decide +kernel)
    (by decide +kernel)

end SdbusExamples.UPowerConvergence
