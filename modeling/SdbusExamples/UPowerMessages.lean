import SdbusExamples.UPowerClient

namespace SdbusExamples.UPowerMessages

open MessageQueues PathMaps UPowerClient UPowerDisplayDevice Variants

/-- What handling a message does to the device at one path that stays in the
books: it waits for what it waited for, unless the message is the reply. -/
def Stays (message : Message) (q : String) (c c' : Option Device) : Prop :=
  c = none ∧ c' = none ∨ ∃ d d', c = some d ∧ c' = some d' ∧
    (d'.pending = d.pending ∨ ∃ call properties, message = .properties q call properties ∧
      d.pending = some call ∧ d'.pending = none)

theorem stays_self (message : Message) (q : String) (c : Option Device) : Stays message q c c := by
  cases c with
  | none => exact .inl ⟨rfl, rfl⟩
  | some d => exact .inr ⟨d, d, rfl, rfl, .inl rfl⟩

theorem pending_onReply (d : Device) (call : Nat) (properties : PropertyMap) :
    (d.onReply call properties).pending = if d.pending = some call then none else d.pending := by
  unfold Device.onReply
  split_ifs <;> rfl

theorem onFailure_of_ne {d : Device} {call : Nat} (h : d.pending ≠ some call) :
    d.onFailure call = d := if_neg h

def made (c : Client) (device : String) : Client × List Request :=
  ({ c with
      devices := c.devices.insert device ⟨some c.calls, .initial⟩
      calls := c.calls + 1 },
    [.registerDevice device, .getAll device c.calls])

def removed (c : Client) (device : String) : Client × List Request :=
  ({ c with devices := c.devices.erase device }, [.unregisterDevice device])

theorem onDeviceAdded_cases (c : Client) (device : String) :
    (device ∉ c.devices ∧ Client.Passes c.deviceFilter device ∧
        c.onDeviceAdded device = made c device) ∨
      ¬ (device ∉ c.devices ∧ Client.Passes c.deviceFilter device) ∧
        c.onDeviceAdded device = (c, []) := by
  unfold Client.onDeviceAdded
  split_ifs with hp hm
  · exact .inr ⟨fun h => h.1 hm, rfl⟩
  · exact .inl ⟨hm, hp, rfl⟩
  · exact .inr ⟨fun h => hp h.2, rfl⟩

theorem onDeviceRemoved_cases (c : Client) (device : String) :
    (device ∈ c.devices ∧ Client.Passes c.deviceFilter device ∧
        c.onDeviceRemoved device = removed c device) ∨
      ¬ (device ∈ c.devices ∧ Client.Passes c.deviceFilter device) ∧
        c.onDeviceRemoved device = (c, []) := by
  unfold Client.onDeviceRemoved
  split_ifs with hp hm
  · exact .inl ⟨hm, hp, rfl⟩
  · exact .inr ⟨fun h => hm h.1, rfl⟩
  · exact .inr ⟨fun h => hp h.2, rfl⟩

theorem devices_made (c : Client) (device q : String) :
    (made c device).1.devices[q]? =
      if device = q then some ⟨some c.calls, .initial⟩ else c.devices[q]? :=
  getElem?_insert_path ..

theorem devices_removed (c : Client) (device q : String) :
    (removed c device).1.devices[q]? = if device = q then none else c.devices[q]? :=
  getElem?_erase_path ..

theorem stays_atDevice {c : Client} {message : Message} {device : String} {f : Device → Device}
    (h : ∀ d, c.devices[device]? = some d → (f d).pending = d.pending ∨
      ∃ call properties, message = .properties device call properties ∧
        d.pending = some call ∧ (f d).pending = none) (q : String) :
    Stays message q c.devices[q]? (c.atDevice device f).1.devices[q]? := by
  rw [Client.atDevice, getElem?_alter_path]
  split_ifs with hq
  · subst hq
    cases hd : c.devices[device]? with
    | none => exact .inl ⟨rfl, rfl⟩
    | some d => exact .inr ⟨d, f d, rfl, rfl, h d hd⟩
  · exact stays_self ..

def Keeps (c : Client) (message : Message) : Prop :=
  (handle c message).2 = [] ∧ (handle c message).1.calls = c.calls ∧
    ∀ q : String, Stays message q c.devices[q]? (handle c message).1.devices[q]?

theorem keeps_of_eq {c : Client} {message : Message} (h : handle c message = (c, [])) :
    Keeps c message := by
  rw [Keeps, h]
  exact ⟨rfl, rfl, fun q => stays_self ..⟩

theorem added_cases {c : Client} {message : Message} {device : String}
    (h : handle c message = c.onDeviceAdded device) :
    (∃ device, device ∉ c.devices ∧ handle c message = made c device) ∨ Keeps c message := by
  rcases onDeviceAdded_cases c device with ⟨hm, -, heq⟩ | ⟨-, heq⟩
  · exact .inl ⟨device, hm, h.trans heq⟩
  · exact .inr (keeps_of_eq (h.trans heq))

theorem handle_cases {c : Client} {message : Message} (hf : ¬ Failed c message) :
    (∃ device, device ∉ c.devices ∧ handle c message = made c device) ∨
      (∃ device, device ∈ c.devices ∧ handle c message = removed c device) ∨ Keeps c message := by
  cases message with
  | deviceAdded device => exact (added_cases rfl).imp_right .inr
  | deviceRemoved device =>
      rcases onDeviceRemoved_cases c device with ⟨hm, -, heq⟩ | ⟨-, heq⟩
      · exact .inr (.inl ⟨device, hm, heq⟩)
      · exact .inr (.inr (keeps_of_eq heq))
  | propertiesChanged device changed =>
      exact .inr (.inr ⟨rfl, rfl, stays_atDevice fun d _ => .inl rfl⟩)
  | devices paths =>
      cases paths with
      | nil => exact .inr (.inr (keeps_of_eq rfl))
      | cons device rest => exact (added_cases rfl).imp_right .inr
  | properties device call properties =>
      refine .inr (.inr ⟨rfl, rfl, stays_atDevice fun d _ => ?_⟩)
      rw [pending_onReply]
      by_cases hd : d.pending = some call
      · rw [if_pos hd]
        exact .inr ⟨call, properties, rfl, hd, rfl⟩
      · rw [if_neg hd]
        exact .inl rfl
  | devicesFailed => exact absurd trivial hf
  | propertiesFailed device call =>
      refine .inr (.inr ⟨rfl, rfl, stays_atDevice fun d hd => .inl ?_⟩)
      rw [onFailure_of_ne fun hp => hf ⟨d, hd, hp⟩]

theorem pending_made {c : Client} {device q : String} {n : Nat}
    (h : Pending (made c device).1 q n) : n = c.calls ∨ Pending c q n := by
  obtain ⟨d, hd, hn⟩ := h
  rw [Option.mem_def, devices_made] at hd
  split_ifs at hd
  · obtain rfl := Option.some.inj hd
    exact .inl (Option.some.inj hn).symm
  · exact .inr ⟨d, hd, hn⟩

theorem pending_removed {c : Client} {device q : String} {n : Nat}
    (h : Pending (removed c device).1 q n) : Pending c q n := by
  obtain ⟨d, hd, hn⟩ := h
  rw [Option.mem_def, devices_removed] at hd
  split_ifs at hd
  exact ⟨d, hd, hn⟩

theorem pending_of_stays {c c' : Client} {message : Message} {q : String} {n : Nat}
    (hs : Stays message q c.devices[q]? c'.devices[q]?) (h : Pending c' q n) : Pending c q n := by
  obtain ⟨d', hd', hn⟩ := h
  rcases hs with ⟨-, hnone⟩ | ⟨d, e, hd, he, hp⟩
  · rw [hnone] at hd'
    cases hd'
  · obtain rfl := Option.some.inj (he.symm.trans hd')
    rcases hp with heq | ⟨call, properties, -, -, hnone⟩
    · exact ⟨d, hd, heq ▸ hn⟩
    · rw [hnone] at hn
      cases hn

def rounds : Message → List Message
  | .devices devices => devices.map .deviceAdded
  | message => [message]

theorem mem_of_mem_rounds {bus : List Message} {device : String} {call : Nat}
    {properties : PropertyMap} (h : .properties device call properties ∈ bus.flatMap rounds) :
    .properties device call properties ∈ bus := by
  obtain ⟨message, hmem, hround⟩ := List.mem_flatMap.1 h
  cases message with
  | devices devices =>
      obtain ⟨_, -, heq⟩ := List.mem_map.1 hround
      cases heq
  | deviceAdded | deviceRemoved | propertiesChanged | properties | devicesFailed
  | propertiesFailed =>
      rw [rounds, List.mem_singleton] at hround
      · rw [hround]
        exact hmem
      · rintro _ ⟨⟩

/-- What a message can make of the device at `q`. A device that is still to be
made will get a call that has not been used, and a message that reports the
failure of a pending call has no outcome. -/
def Takes (deviceFilter : String) (calls : Nat) (q : String) :
    Message → Option Device → Option Device → Prop
  | .deviceAdded device, c, d =>
      (device = q ∧ Client.Passes deviceFilter q ∧ c = none) ∧
          (∃ call, calls ≤ call ∧ d = some ⟨some call, .initial⟩) ∨
        ¬ (device = q ∧ Client.Passes deviceFilter q ∧ c = none) ∧ d = c
  | .deviceRemoved device, c, d =>
      d = if device = q ∧ Client.Passes deviceFilter q then none else c
  | .propertiesChanged device changed, c, d =>
      d = if device = q then c.map (·.onPropertiesChanged changed) else c
  | .devices _, c, d => d = c
  | .properties device call properties, c, d =>
      d = if device = q then c.map (·.onReply call properties) else c
  | .devicesFailed, _, _ => False
  | .propertiesFailed device call, c, d =>
      d = c ∧ ¬ (device = q ∧ ∃ e, c = some e ∧ e.pending = some call)

theorem takes_added (c : Client) (device q : String) :
    Takes c.deviceFilter c.calls q (.deviceAdded device) c.devices[q]?
      (c.onDeviceAdded device).1.devices[q]? := by
  rcases onDeviceAdded_cases c device with ⟨hm, hp, heq⟩ | ⟨hnot, heq⟩
  · rw [heq, devices_made]
    by_cases hq : device = q
    · subst hq
      rw [if_pos rfl]
      exact .inl ⟨⟨rfl, hp, by simpa using hm⟩, c.calls, Nat.le_refl _, rfl⟩
    · rw [if_neg hq]
      exact .inr ⟨fun h => hq h.1, rfl⟩
  · rw [heq]
    refine .inr ⟨?_, rfl⟩
    rintro ⟨rfl, hp, hnone⟩
    exact hnot ⟨by simpa using hnone, hp⟩

theorem takes_removed (c : Client) (device q : String) :
    Takes c.deviceFilter c.calls q (.deviceRemoved device) c.devices[q]?
      (c.onDeviceRemoved device).1.devices[q]? := by
  rcases onDeviceRemoved_cases c device with ⟨-, hp, heq⟩ | ⟨hnot, heq⟩
  · rw [heq, Takes, devices_removed]
    by_cases hq : device = q
    · subst hq
      rw [if_pos rfl, if_pos ⟨rfl, hp⟩]
    · rw [if_neg hq, if_neg fun h => hq h.1]
  · rw [heq, Takes]
    split_ifs with hq
    · obtain ⟨rfl, hp⟩ := hq
      have hm : device ∉ c.devices := fun hm => hnot ⟨hm, hp⟩
      simpa using hm
    · rfl

theorem takes_atDevice (c : Client) (device q : String) (f : Device → Device) :
    (c.atDevice device f).1.devices[q]? =
      if device = q then c.devices[q]?.map f else c.devices[q]? := by
  rw [Client.atDevice, getElem?_alter_path]
  split_ifs with hq
  · rw [hq]
  · rfl

theorem takes_failed (c : Client) (device q : String) (call : Nat)
    (hf : ¬ Pending c device call) :
    Takes c.deviceFilter c.calls q (.propertiesFailed device call) c.devices[q]?
      (handle c (.propertiesFailed device call)).1.devices[q]? := by
  refine ⟨?_, ?_⟩
  · refine (takes_atDevice c device q _).trans ?_
    split_ifs with hq
    · subst hq
      cases hd : c.devices[device]? with
      | none => rfl
      | some d => rw [Option.map_some, onFailure_of_ne fun hp => hf ⟨d, hd, hp⟩]
    · rfl
  · rintro ⟨rfl, d, hd, hp⟩
    exact hf ⟨d, hd, hp⟩

theorem leads_handle {c : Client} {message : Message} {bus : List Message} {q : String}
    {K : Option Device → Prop} (hf : ¬ Failed c message)
    (h : Leads (Takes c.deviceFilter c.calls q) K c.devices[q]? ((message :: bus).flatMap rounds)) :
    Leads (Takes c.deviceFilter c.calls q) K (handle c message).1.devices[q]?
      ((remains message ++ bus).flatMap rounds) := by
  cases message with
  | deviceAdded device => exact h _ (takes_added c device q)
  | deviceRemoved device => exact h _ (takes_removed c device q)
  | propertiesChanged device changed => exact h _ (takes_atDevice ..)
  | devices devices =>
      cases devices with
      | nil => exact h
      | cons device rest => exact h _ (takes_added c device q)
  | properties device call properties => exact h _ (takes_atDevice ..)
  | devicesFailed => exact absurd trivial hf
  | propertiesFailed device call => exact h _ (takes_failed c device q call hf)

theorem pending_of_takes {deviceFilter : String} {calls call : Nat} {q : String}
    {message : Message} {c d : Option Device} (h : Takes deviceFilter calls q message c d)
    {e' : Device} (hd : d = some e') (hp : e'.pending = some call) :
    calls ≤ call ∨ ∃ e, c = some e ∧ e.pending = some call := by
  cases message with
  | deviceAdded device =>
      rcases h with ⟨-, n, hn, rfl⟩ | ⟨-, rfl⟩
      · obtain rfl := Option.some.inj hd
        exact .inl (Option.some.inj hp ▸ hn)
      · exact .inr ⟨e', hd, hp⟩
  | deviceRemoved device =>
      rw [Takes, hd] at h
      split_ifs at h
      exact .inr ⟨e', h.symm, hp⟩
  | propertiesChanged device changed =>
      rw [Takes, hd] at h
      split_ifs at h
      · obtain ⟨e, rfl, rfl⟩ := Option.map_eq_some_iff.1 h.symm
        exact .inr ⟨e, rfl, hp⟩
      · exact .inr ⟨e', h.symm, hp⟩
  | devices devices => exact .inr ⟨e', h ▸ hd, hp⟩
  | properties device n properties =>
      rw [Takes, hd] at h
      split_ifs at h
      · obtain ⟨e, rfl, rfl⟩ := Option.map_eq_some_iff.1 h.symm
        rw [pending_onReply] at hp
        split_ifs at hp
        exact .inr ⟨e, rfl, hp⟩
      · exact .inr ⟨e', h.symm, hp⟩
  | devicesFailed => cases h
  | propertiesFailed device n => exact .inr ⟨e', h.1 ▸ hd, hp⟩

theorem Takes.fewer {deviceFilter : String} {calls : Nat} {q : String} {message : Message}
    {c d : Option Device} (h : Takes deviceFilter (calls + 1) q message c d) :
    Takes deviceFilter calls q message c d := by
  cases message with
  | deviceAdded device =>
      rcases h with ⟨hnew, call, hcall, hd⟩ | h
      · exact .inl ⟨hnew, call, Nat.le_of_succ_le hcall, hd⟩
      · exact .inr h
  | _ => exact h

theorem deviceFilter_handle (c : Client) (message : Message) :
    (handle c message).1.deviceFilter = c.deviceFilter := by
  have hadded : ∀ device, (c.onDeviceAdded device).1.deviceFilter = c.deviceFilter := by
    intro device
    rcases onDeviceAdded_cases c device with ⟨-, -, heq⟩ | ⟨-, heq⟩
    · rw [heq, made]
    · rw [heq]
  cases message with
  | deviceAdded device => exact hadded device
  | deviceRemoved device =>
      rcases onDeviceRemoved_cases c device with ⟨-, -, heq⟩ | ⟨-, heq⟩
      · exact congrArg (·.1.deviceFilter) heq
      · exact congrArg (·.1.deviceFilter) heq
  | devices devices =>
      cases devices with
      | nil => rfl
      | cons device rest => exact hadded device
  | _ => rfl

end SdbusExamples.UPowerMessages
