import Mathlib.Data.List.Perm.Subperm
import SdbusExamples.UPowerMessages

namespace SdbusExamples.UPowerRequests

open LatestEvents PathMaps UPowerClient UPowerDisplayDevice UPowerMessages Variants

def sets (q : String) : Request → Option Bool
  | .registerDevice device => if device = q then some true else none
  | .unregisterDevice device => if device = q then some false else none
  | _ => none

/-- After the call that the device at `q` waits for, and if it does not wait
any more, nothing is said about its rule. -/
structure Ruled (rules : Std.ExtTreeMap String Unit) (requests : List Request) (q : String)
    (c : Option Device) : Prop where
  rule : latest (sets q) (decide (q ∈ rules)) requests = c.isSome
  behind : ∀ d pre post, c = some d → requests = pre ++ post →
    (∀ call, d.pending = some call → Request.getAll q call ∉ post) → ∀ r ∈ post, sets q r = none

section Ruled

variable {rules rules' : Std.ExtTreeMap String Unit} {requests sent : List Request} {r : Request}
  {q : String} {c : Option Device} {d d' : Device}

theorem Ruled.served (h : Ruled rules requests q (some d))
    (hd : ∀ call, d.pending = some call → Request.getAll q call ∉ requests) : q ∈ rules := by
  have hrule := h.rule
  rw [latest_of_untouched (h.behind d [] requests rfl rfl hd)] at hrule
  exact of_decide_eq_true hrule

theorem Ruled.pop (h : Ruled rules (r :: requests) q c)
    (hr : decide (q ∈ rules') = (sets q r).getD (decide (q ∈ rules))) :
    Ruled rules' requests q c := by
  refine ⟨?_, ?_⟩
  · rw [hr]
    exact h.rule
  · rintro d pre post hc rfl hd
    exact h.behind d (r :: pre) post hc rfl hd

theorem Ruled.send (h : Ruled rules requests q c) (hsent : ∀ r ∈ sent, sets q r = none) :
    Ruled rules (requests ++ sent) q c := by
  refine ⟨?_, ?_⟩
  · rw [latest_append, latest_of_untouched hsent]
    exact h.rule
  · intro d pre post hc hsplit hd
    rcases List.append_eq_append_iff.1 hsplit with ⟨as, rfl, rfl⟩ | ⟨bs, rfl, rfl⟩
    · exact fun r hr => hsent r (List.mem_append_right _ hr)
    · have hbs := h.behind d pre bs hc rfl fun call hp hm =>
        hd call hp (List.mem_append_left _ hm)
      rw [List.forall_mem_append]
      exact ⟨hbs, hsent⟩

theorem Ruled.stays {message : Message} {c' : Option Device} (h : Ruled rules requests q c)
    (hs : Stays message q c c')
    (hm : ∀ call properties, message = .properties q call properties →
      Request.getAll q call ∉ requests) : Ruled rules requests q c' := by
  rcases hs with ⟨rfl, rfl⟩ | ⟨d, d', rfl, rfl, hd⟩
  · exact h
  · refine ⟨h.rule, ?_⟩
    rintro _ pre post ⟨⟩ rfl hpost
    apply h.behind d pre post rfl rfl
    intro call hp hmem
    rcases hd with heq | ⟨call', properties, hmessage, hp', -⟩
    · exact hpost call (heq.trans hp) hmem
    · obtain rfl := Option.some.inj (hp.symm.trans hp')
      exact hm call properties hmessage (List.mem_append_right _ hmem)

theorem Ruled.created (hd : d.pending = some call) :
    Ruled rules (requests ++ [.registerDevice q, .getAll q call]) q (some d) := by
  refine ⟨?_, ?_⟩
  · simp [latest_append, sets]
  · rintro _ pre post ⟨⟩ hsplit hpost
    rcases List.eq_nil_or_concat post with rfl | ⟨post, r, rfl⟩
    · exact fun r hr => absurd hr List.not_mem_nil
    · rw [List.concat_eq_append] at hsplit hpost
      rw [show requests ++ [.registerDevice q, .getAll q call] =
        (requests ++ [.registerDevice q]) ++ [.getAll q call] by simp,
        ← List.append_assoc] at hsplit
      obtain ⟨-, hlast⟩ := List.append_inj' hsplit rfl
      refine absurd ?_ (hpost call hd)
      rw [← hlast]
      simp

theorem Ruled.removed : Ruled rules (requests ++ [.unregisterDevice q]) q none := by
  refine ⟨?_, ?_⟩
  · simp [latest_append, sets]
  · intro d pre post hc
    cases hc

end Ruled

def call : Request → Option Nat
  | .getAll _ call => some call
  | _ => none

def reply : Message → Option Nat
  | .properties _ call _ => some call
  | .propertiesFailed _ call => some call
  | _ => none

/-- The calls of GetAll whose replies the client has not seen. -/
def outstanding (requests : List Request) (bus : List Message) : List Nat :=
  requests.filterMap call ++ bus.filterMap reply

structure Issued (requests : List Request) (bus : List Message) (calls : Nat) : Prop where
  distinct : (outstanding requests bus).Nodup
  below : ∀ call ∈ outstanding requests bus, call < calls

section Issued

variable {requests requests' : List Request} {bus bus' : List Message} {calls : Nat}

theorem Issued.mono (h : Issued requests bus calls)
    (hsub : List.Subperm (outstanding requests' bus') (outstanding requests bus)) :
    Issued requests' bus' calls := by
  obtain ⟨l, hperm, hl⟩ := hsub
  refine ⟨hperm.nodup_iff.1 (h.distinct.sublist hl), fun n hn => ?_⟩
  exact h.below n (hl.subset (hperm.mem_iff.2 hn))

theorem mem_calls {q : String} {n : Nat} (h : Request.getAll q n ∈ requests) :
    n ∈ requests.filterMap call := List.mem_filterMap.2 ⟨_, h, rfl⟩

theorem Issued.reply (h : Issued requests bus calls) {q : String} {n : Nat}
    {properties : PropertyMap} (hm : .properties q n properties ∈ bus) :
    n < calls ∧ ∀ q', Request.getAll q' n ∉ requests := by
  have hbus : n ∈ bus.filterMap UPowerRequests.reply := List.mem_filterMap.2 ⟨_, hm, rfl⟩
  refine ⟨h.below n (List.mem_append_right _ hbus), fun q' hq' => ?_⟩
  exact (List.nodup_append.1 h.distinct).2.2 n (mem_calls hq') n hbus rfl

theorem Issued.created (h : Issued requests bus calls) (q : String) :
    Issued (requests ++ [.registerDevice q, .getAll q calls]) bus (calls + 1) := by
  have hperm : List.Perm (outstanding (requests ++ [.registerDevice q, .getAll q calls]) bus)
      (calls :: outstanding requests bus) := by
    rw [outstanding, List.filterMap_append, List.append_assoc]
    exact List.perm_middle
  refine ⟨hperm.nodup_iff.2 (List.nodup_cons.2 ⟨fun hm => ?_, h.distinct⟩), fun n hn => ?_⟩
  · exact absurd (h.below calls hm) (Nat.lt_irrefl _)
  · rcases List.mem_cons.1 (hperm.mem_iff.1 hn) with rfl | hn
    · exact Nat.lt_succ_self _
    · exact Nat.lt_succ_of_lt (h.below n hn)

end Issued

def opening : Phase → List Request
  | .initial => []
  | .registered => [.registerProxy]
  | .running => [.registerProxy, .enumerateDevices]

structure Books (w : World) : Prop where
  ruled : ∀ q : String, Ruled w.rules w.requests q w.client.devices[q]?
  issued : Issued w.requests w.bus w.client.calls
  waiting : ∀ q call, Pending w.client q call → call < w.client.calls
  unsubscribed : w.subscribed = false → w.bus = [] ∧ w.client.devices = ∅ ∧ w.rules = ∅ ∧
    w.requests = opening w.phase

theorem books_start (deviceFilter : String) (daemon : Std.ExtTreeMap String PropertyMap) :
    Books (start deviceFilter daemon) := by
  refine ⟨fun q => ⟨by simp [start], ?_⟩, ⟨List.nodup_nil, ?_⟩, ?_, fun _ => ⟨rfl, rfl, rfl, rfl⟩⟩
  · intro d pre post hd
    simp [start] at hd
  · intro n hn
    cases hn
  · rintro q n ⟨d, hd, -⟩
    simp [start] at hd

theorem outstanding_send (requests : List Request) (bus : List Message) {message : Message}
    (h : reply message = none) :
    outstanding requests (bus ++ [message]) = outstanding requests bus := by
  simp [outstanding, h]

theorem outstanding_request {r : Request} (h : call r = none) (requests : List Request)
    (bus : List Message) :
    List.Perm (outstanding (requests ++ [r]) bus) (outstanding requests bus) := by
  simp [outstanding, h]

theorem Books.signal {w : World} (h : Books w) (daemon : Std.ExtTreeMap String PropertyMap)
    {bus : List Message}
    (hb : bus = w.bus ∨ w.subscribed = true ∧ ∃ m, reply m = none ∧ bus = w.bus ++ [m]) :
    Books { w with daemon, bus } := by
  rcases hb with rfl | ⟨hsub, m, hm, rfl⟩
  · exact ⟨h.ruled, h.issued, h.waiting, h.unsubscribed⟩
  · refine ⟨h.ruled, ?_, h.waiting, fun hs => ?_⟩
    · refine ⟨?_, ?_⟩
      · rw [outstanding_send _ _ hm]
        exact h.issued.distinct
      · rw [outstanding_send _ _ hm]
        exact h.issued.below
    · exact absurd (hsub.symm.trans hs) (by simp)

theorem signal_cases (w : World) {message : Message} (h : reply message = none) :
    signal w message = w.bus ∨ w.subscribed = true ∧
      ∃ m, reply m = none ∧ signal w message = w.bus ++ [m] := by
  rw [UPowerClient.signal]
  split_ifs with hs
  · exact .inr ⟨hs, message, h, rfl⟩
  · exact .inl rfl

theorem Books.subscribed_of_rule {w : World} (h : Books w) {q : String} (hq : q ∈ w.rules) :
    w.subscribed = true := by
  cases hs : w.subscribed with
  | true => rfl
  | false =>
      rw [(h.unsubscribed hs).2.2.1] at hq
      simp at hq

theorem Books.changes {w : World} (h : Books w) (device : String) (changed : PropertyMap) :
    Books (next w (.changes device changed)) := by
  apply h.signal
  by_cases hq : device ∈ w.rules
  · rw [if_pos hq]
    exact .inr ⟨h.subscribed_of_rule hq, _, rfl, rfl⟩
  · rw [if_neg hq]
    exact .inl rfl

theorem Books.sends {w : World} (h : Books w) (phase : Phase) {r : Request}
    (hr : ∀ q, sets q r = none) (hcall : call r = none)
    (hphase : opening phase = opening w.phase ++ [r]) :
    Books { w with phase, requests := w.requests ++ [r] } := by
  refine ⟨fun q => (h.ruled q).send ?_, h.issued.mono ?_, h.waiting, fun hs => ?_⟩
  · rintro r' hr'
    rw [List.mem_singleton.1 hr']
    exact hr q
  · exact (outstanding_request hcall _ _).subperm
  · obtain ⟨hbus, hdevices, hrules, hrequests⟩ := h.unsubscribed hs
    exact ⟨hbus, hdevices, hrules, by rw [hphase, ← hrequests]⟩

theorem Books.subscribed {w : World} (h : Books w) {r : Request} {requests : List Request}
    (hw : w.requests = r :: requests) (hr : r ≠ .registerProxy) : w.subscribed = true := by
  cases hs : w.subscribed with
  | true => rfl
  | false =>
      have hopening := (h.unsubscribed hs).2.2.2
      rw [hw] at hopening
      cases hphase : w.phase with
      | initial =>
          rw [hphase] at hopening
          cases hopening
      | registered =>
          rw [hphase] at hopening
          exact absurd (List.cons.inj hopening).1 hr
      | running =>
          rw [hphase] at hopening
          exact absurd (List.cons.inj hopening).1 hr

theorem Books.pop {w : World} (h : Books w) {r : Request} {requests : List Request}
    (hw : w.requests = r :: requests) {rules : Std.ExtTreeMap String Unit} {bus : List Message}
    {subscribed : Bool} (hs : subscribed = true)
    (hr : ∀ q, decide (q ∈ rules) = (sets q r).getD (decide (q ∈ w.rules)))
    (hbus : List.Subperm (outstanding requests bus) (outstanding (r :: requests) w.bus)) :
    Books { w with requests, rules, bus, subscribed } := by
  refine ⟨fun q => ?_, ?_, h.waiting, fun hf => absurd (hs.symm.trans hf) (by simp)⟩
  · have hq := h.ruled q
    rw [hw] at hq
    exact hq.pop (hr q)
  · have hissued := h.issued
    rw [hw] at hissued
    exact hissued.mono hbus

theorem outstanding_pop {r : Request} (hr : call r = none) (requests : List Request)
    (bus : List Message) :
    List.Perm (outstanding requests bus) (outstanding (r :: requests) bus) := by
  rw [outstanding, outstanding, List.filterMap_cons_none hr]

theorem outstanding_answered {r : Request} {message : Message} (h : call r = reply message)
    (requests : List Request) (bus : List Message) :
    List.Perm (outstanding requests (bus ++ [message])) (outstanding (r :: requests) bus) := by
  cases hr : call r with
  | none =>
      rw [outstanding_send _ _ (h.symm.trans hr)]
      exact outstanding_pop hr ..
  | some n =>
      have hm : reply message = some n := h.symm.trans hr
      rw [outstanding, outstanding, List.filterMap_append, List.filterMap_cons_some hr,
        List.filterMap_cons_some hm, List.filterMap_nil, ← List.append_assoc]
      exact List.perm_append_singleton ..

theorem Books.answers {w : World} (h : Books w) {r : Request} {requests : List Request}
    (hw : w.requests = r :: requests) (devices : List String) :
    Books (answer { w with requests } devices r) := by
  cases r with
  | registerProxy =>
      exact h.pop hw rfl (fun q => rfl) (outstanding_pop rfl _ _).subperm
  | enumerateDevices =>
      have hs := h.subscribed hw (by simp)
      exact h.pop hw hs (fun q => rfl) (outstanding_answered rfl _ _).subperm
  | registerDevice device =>
      have hs := h.subscribed hw (by simp)
      refine h.pop hw hs (fun q => ?_) (outstanding_pop rfl _ _).subperm
      by_cases hq : device = q <;> simp [sets, hq]
  | unregisterDevice device =>
      have hs := h.subscribed hw (by simp)
      refine h.pop hw hs (fun q => ?_) (outstanding_pop rfl _ _).subperm
      by_cases hq : device = q <;> simp [sets, hq]
  | getAll device n =>
      have hs := h.subscribed hw (by simp)
      exact h.pop hw hs (fun q => rfl) (outstanding_answered rfl _ _).subperm

theorem Books.fails {w : World} (h : Books w) {r : Request} {requests : List Request}
    (hw : w.requests = r :: requests) (hr : failure r ≠ []) :
    Books { w with requests, bus := w.bus ++ failure r } := by
  cases r with
  | registerProxy => exact absurd rfl hr
  | enumerateDevices =>
      have hs := h.subscribed hw (by simp)
      exact h.pop hw hs (fun q => rfl) (outstanding_answered rfl _ _).subperm
  | registerDevice device => exact absurd rfl hr
  | unregisterDevice device => exact absurd rfl hr
  | getAll device n =>
      have hs := h.subscribed hw (by simp)
      exact h.pop hw hs (fun q => rfl) (outstanding_answered rfl _ _).subperm

theorem outstanding_delivered (requests : List Request) (message : Message) (bus : List Message) :
    List.Subperm (outstanding requests (remains message ++ bus))
      (outstanding requests (message :: bus)) := by
  have hremains : (remains message).filterMap reply = [] := by
    unfold remains
    split <;> rfl
  rw [outstanding, outstanding, List.filterMap_append, hremains, List.nil_append]
  exact ((List.sublist_cons_self message bus).filterMap reply).append_left _ |>.subperm

theorem Books.delivers {w : World} (h : Books w) {message : Message} {bus : List Message}
    (hw : w.bus = message :: bus) (hf : ¬ Failed w.client message) :
    Books { w with
      bus := remains message ++ bus
      requests := w.requests ++ (handle w.client message).2
      client := (handle w.client message).1 } := by
  have hsub : w.subscribed = false → False := by
    intro hs
    have hbus := (h.unsubscribed hs).1
    rw [hw] at hbus
    cases hbus
  have hissued : Issued w.requests (remains message ++ bus) w.client.calls := by
    apply h.issued.mono
    rw [hw]
    exact outstanding_delivered ..
  rcases handle_cases hf with ⟨device, -, heq⟩ | ⟨device, -, heq⟩ | ⟨hsent, hcalls, hstays⟩
  · rw [heq]
    refine ⟨fun q => ?_, hissued.created device, fun q n hn => ?_, fun hs => (hsub hs).elim⟩
    · rw [devices_made]
      split_ifs with hq
      · subst hq
        exact .created rfl
      · exact (h.ruled q).send (by simp [made, sets, hq])
    · rcases pending_made hn with rfl | hn
      · exact Nat.lt_succ_self _
      · exact Nat.lt_succ_of_lt (h.waiting q n hn)
  · rw [heq]
    refine ⟨fun q => ?_, hissued.mono (outstanding_request rfl _ _).subperm,
      fun q n hn => h.waiting q n (pending_removed hn), fun hs => (hsub hs).elim⟩
    rw [devices_removed]
    split_ifs with hq
    · subst hq
      exact .removed
    · exact (h.ruled q).send (by simp [removed, sets, hq])
  · rw [hsent, List.append_nil]
    refine ⟨fun q => ?_, hcalls.symm ▸ hissued, fun q n hn => ?_, fun hs => (hsub hs).elim⟩
    · refine (h.ruled q).stays (hstays q) ?_
      rintro n properties rfl
      have hm : Message.properties q n properties ∈ w.bus := by
        rw [hw]
        exact List.mem_cons_self
      exact (h.issued.reply hm).2 q
    · rw [hcalls]
      exact h.waiting q n (pending_of_stays (hstays q) hn)

theorem books_next (w : World) (a : Act) (h : Books w) (he : enabled w a) (hs : Succeeds w a) :
    Books (next w a) := by
  cases a with
  | adds device properties => exact h.signal _ (signal_cases w rfl)
  | removes device => exact h.signal _ (signal_cases w rfl)
  | changes device changed => exact h.changes device changed
  | registerProxy =>
      have hphase : w.phase = .initial := he
      exact h.sends .registered (fun q => rfl) rfl (by rw [hphase]; rfl)
  | enumerateDevices =>
      have hphase : w.phase = .registered := he
      exact h.sends .running (fun q => rfl) rfl (by rw [hphase]; rfl)
  | answers devices =>
      obtain ⟨r, hr, -⟩ := he
      obtain ⟨requests, hw⟩ := List.head?_eq_some_iff.1 hr
      rw [next, hw]
      exact h.answers hw devices
  | fails =>
      obtain ⟨r, hhead, hr⟩ := he
      obtain ⟨requests, hw⟩ := List.head?_eq_some_iff.1 hhead
      rw [next, hw]
      exact h.fails hw hr
  | deliver =>
      obtain ⟨message, bus, hw⟩ := List.exists_cons_of_ne_nil he
      have hf : ¬ Failed w.client message := hs message (by simp [hw])
      rw [next, hw]
      exact h.delivers hw hf

end SdbusExamples.UPowerRequests
