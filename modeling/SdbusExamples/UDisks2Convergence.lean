import SdbusExamples.UDisks2Manager

namespace SdbusExamples.UDisks2Convergence

open ExportedObjects LatestEvents PathMaps Runs UDisks2Manager

def memberName : Member → Option String
  | .store k => some k.interfaceName
  | .managerNvme | .none => none

def branches : Branches Member where
  branch := member
  name := memberName
  named interface n h := by
    unfold member at h
    split at h <;> first
      | cases h; rfl
      | cases h
  taken m n h := by
    cases m with
    | none | managerNvme => cases h
    | store k => cases k <;> cases h <;> rfl

theorem member_eq_store_iff (interface : String) (k : Store) :
    member interface = .store k ↔ interface = k.interfaceName :=
  branches.branch_eq_iff rfl interface

section Fields

variable (m : Manager) (k l : Store) (s : Std.ExtTreeMap String Unit)

@[simp] theorem stores_setStore_self : (m.setStore k s).stores k = s := by
  simp [Manager.setStore]

@[simp] theorem stores_setStore_of_ne (h : l ≠ k) : (m.setStore k s).stores l = m.stores l := by
  simp [Manager.setStore, h]

end Fields

theorem tells_added (q interface objectPath i : String) :
    tells q interface (.added objectPath i) =
      if objectPath = q ∧ i = interface then some true else none := rfl

theorem tells_removed (q interface objectPath i : String) :
    tells q interface (.removed objectPath i) =
      if objectPath = q ∧ i = interface then some false else none := rfl

theorem interfaceName_injective {k l : Store} (h : k.interfaceName = l.interfaceName) : k = l := by
  have hk := (member_eq_store_iff l.interfaceName k).2 h.symm
  have hl := (member_eq_store_iff l.interfaceName l).2 rfl
  exact Member.store.inj (hk.symm.trans hl)

theorem effect_of_added {m m' : Manager} {l : Store} {objectPath : String}
    (hself : objectPath ∈ m'.stores l)
    (hothers : ∀ k q, ¬ (objectPath = q ∧ l = k) → (q ∈ m'.stores k ↔ q ∈ m.stores k))
    (k : Store) (q : String) :
    q ∈ m'.stores k ↔ (tells q k.interfaceName (.added objectPath l.interfaceName)).getD
      (decide (q ∈ m.stores k)) = true := by
  rw [tells_added]
  by_cases h : objectPath = q ∧ l = k
  · obtain ⟨rfl, rfl⟩ := h
    simpa using hself
  · have hname : ¬ (objectPath = q ∧ l.interfaceName = k.interfaceName) :=
      fun hn => h ⟨hn.1, interfaceName_injective hn.2⟩
    rw [if_neg hname]
    simpa using hothers k q h

theorem effect_of_unrelated {m m' : Manager} {interface : String}
    (hnot : ∀ k, member interface ≠ .store k) (hstores : m'.stores = m.stores) (objectPath : String)
    (k : Store) (q : String) :
    q ∈ m'.stores k ↔ (tells q k.interfaceName (.added objectPath interface)).getD
      (decide (q ∈ m.stores k)) = true := by
  rw [tells_added, if_neg fun h => hnot k ((member_eq_store_iff interface k).2 h.2), hstores]
  simp

/-- What a round of the loop does, and what is known when its call fails. -/
theorem addInterface_spec (w : World) (objectPath interface : String) :
    (Answered w objectPath interface ∧ (addInterface w objectPath interface).2 = true ∧
        ∀ (k : Store) (q : String), q ∈ (addInterface w objectPath interface).1.stores k ↔
          (tells q k.interfaceName (.added objectPath interface)).getD
            (decide (q ∈ w.manager.stores k)) = true) ∨
      ¬ Answered w objectPath interface ∧ addInterface w objectPath interface = (w.manager, false) ∧
        ¬ Exported w.daemon objectPath interface := by
  rw [addInterface, Manager.addInterface, Answered]
  cases hmember : member interface with
  | store l =>
      obtain rfl := (member_eq_store_iff interface l).1 hmember
      simp only
      by_cases hmem : objectPath ∈ w.manager.stores l
      · rw [if_pos hmem]
        exact .inl ⟨.inl hmem, rfl, effect_of_added hmem fun _ _ _ => Iff.rfl⟩
      · rw [if_neg hmem]
        by_cases hexported : Exported w.daemon objectPath l.interfaceName
        · rw [if_pos (decide_eq_true hexported)]
          refine .inl ⟨.inr hexported, rfl, effect_of_added ?_ fun k q hne => ?_⟩
          · rw [stores_setStore_self, mem_insert_path]
            exact .inl rfl
          · by_cases hk : k = l
            · subst hk
              rw [stores_setStore_self, mem_insert_path, or_iff_right fun hq => hne ⟨hq, rfl⟩]
            · rw [stores_setStore_of_ne _ _ _ _ hk]
        · rw [if_neg (by simpa using hexported)]
          exact .inr ⟨not_or.2 ⟨hmem, hexported⟩, rfl, hexported⟩
  | managerNvme =>
      have hnot : ∀ k, member interface ≠ .store k := by simp [hmember]
      simp only
      by_cases hexported : Exported w.daemon objectPath interface
      · rw [if_pos (decide_eq_true hexported)]
        exact .inl ⟨hexported, rfl, effect_of_unrelated hnot rfl objectPath⟩
      · rw [if_neg (by simpa using hexported)]
        exact .inr ⟨hexported, rfl, hexported⟩
  | none =>
      have hnot : ∀ k, member interface ≠ .store k := by simp [hmember]
      exact .inl ⟨trivial, rfl, effect_of_unrelated hnot rfl objectPath⟩

theorem mem_onInterfacesRemoved (m : Manager) (objectPath : String) (interfaces : List String)
    (k : Store) (q : String) :
    q ∈ (m.onInterfacesRemoved objectPath interfaces).stores k ↔
      latest (tells q k.interfaceName) (decide (q ∈ m.stores k))
        (interfaces.map (.removed objectPath)) = true := by
  induction interfaces generalizing m with
  | nil => simp [Manager.onInterfacesRemoved]
  | cons interface rest ih =>
      have hstep : (decide (q ∈ (m.removeInterface objectPath interface).stores k)) =
          (tells q k.interfaceName (.removed objectPath interface)).getD
            (decide (q ∈ m.stores k)) := by
        rw [tells_removed, Manager.removeInterface]
        by_cases hk : interface = k.interfaceName
        · rw [(member_eq_store_iff interface k).2 hk]
          simp only [stores_setStore_self, mem_erase_path]
          by_cases hq : objectPath = q <;> simp [hq, hk]
        · rw [if_neg fun h => hk h.2, Option.getD_none]
          cases hmember : member interface with
          | store l =>
              have hl := (member_eq_store_iff interface l).1 hmember
              have hne : k ≠ l := fun heq => hk (heq ▸ hl)
              simp only [stores_setStore_of_ne _ _ _ _ hne]
          | managerNvme => rfl
          | none => rfl
      have hrest := ih (m.removeInterface objectPath interface)
      rw [hstep] at hrest
      exact hrest

/-- The signals that are still to come lead from the books to the exports. -/
def Leads (manager : Manager) (es : List Signal) (daemon : Objects Unit) : Prop :=
  ∀ (k : Store) q, latest (tells q k.interfaceName) (decide (q ∈ manager.stores k)) es = true ↔
    Exported daemon q k.interfaceName

theorem Leads.added {w : World} {objectPath interface : String} {es : List Signal}
    (h : Leads w.manager (.added objectPath interface :: es) w.daemon)
    (ha : Answered w objectPath interface) :
    Leads (addInterface w objectPath interface).1 es w.daemon := by
  rcases addInterface_spec w objectPath interface with ⟨-, -, hspec⟩ | ⟨hnot, -⟩
  · intro k q
    have hk := h k q
    rw [latest_cons] at hk
    have hb : decide (q ∈ (addInterface w objectPath interface).1.stores k) =
        (tells q k.interfaceName (.added objectPath interface)).getD
          (decide (q ∈ w.manager.stores k)) := by
      rw [Bool.eq_iff_iff, decide_eq_true_iff]
      exact hspec k q
    rw [hb]
    exact hk
  · exact absurd ha hnot

theorem Leads.removed {manager : Manager} {objectPath : String} {interfaces : List String}
    {es : List Signal} {daemon : Objects Unit}
    (h : Leads manager (interfaces.map (.removed objectPath) ++ es) daemon) :
    Leads (manager.onInterfacesRemoved objectPath interfaces) es daemon := by
  intro k q
  have hk := h k q
  rw [latest_append] at hk
  have hb : decide (q ∈ (manager.onInterfacesRemoved objectPath interfaces).stores k) =
      latest (tells q k.interfaceName) (decide (q ∈ manager.stores k))
        (interfaces.map (.removed objectPath)) := by
    rw [Bool.eq_iff_iff, decide_eq_true_iff]
    exact mem_onInterfacesRemoved ..
  rw [hb]
  exact hk

theorem Leads.sent {manager : Manager} {es fs : List Signal} {daemon daemon' : Objects Unit}
    (h : Leads manager es daemon)
    (hf : ∀ (k : Store) q b, (b = true ↔ Exported daemon q k.interfaceName) →
      (latest (tells q k.interfaceName) b fs = true ↔ Exported daemon' q k.interfaceName)) :
    Leads manager (es ++ fs) daemon' := by
  intro k q
  rw [latest_append]
  exact hf k q _ (h k q)

theorem mem_of_tells_additions {q interface : String} {entries : List (String × String)} {b : Bool}
    (h : latest (tells q interface) b (additions entries) = true) :
    b = true ∨ (q, interface) ∈ entries := by
  induction entries generalizing b with
  | nil => exact .inl h
  | cons e rest ih =>
      rw [additions, List.map_cons, latest_cons, tells_added] at h
      rcases ih h with hb | hmem
      · by_cases he : e.1 = q ∧ e.2 = interface
        · exact .inr (List.mem_cons.2 (.inl (Prod.ext he.1.symm he.2.symm)))
        · rw [if_neg he] at hb
          exact .inl hb
      · exact .inr (List.mem_cons_of_mem _ hmem)

theorem tells_additions_true (q interface : String) (entries : List (String × String)) :
    latest (tells q interface) true (additions entries) = true := by
  induction entries with
  | nil => rfl
  | cons e rest ih =>
      rw [additions, List.map_cons, latest_cons, tells_added]
      split_ifs <;> exact ih

/-- The failing call was for an interface that is gone, so that a signal about
it is to come, and what the exception cuts off is safe. -/
theorem Leads.dropped {w : World} {e : String × String} {rest : List (String × String)}
    (h : Leads w.manager (additions (e :: rest) ++ w.bus.flatMap signals) w.daemon)
    (hgone : ¬ Exported w.daemon e.1 e.2) (hsafe : ∀ f ∈ rest, Safe w f.1 f.2) :
    Leads w.manager (w.bus.flatMap signals) w.daemon := by
  intro k q
  have hk := h k q
  rw [latest_append] at hk
  by_cases hmem : q ∈ w.manager.stores k
  · rw [decide_eq_true hmem, tells_additions_true] at hk
    rw [decide_eq_true hmem]
    exact hk
  · rw [decide_eq_false hmem] at hk ⊢
    cases hc : latest (tells q k.interfaceName) false (additions (e :: rest)) with
    | false =>
        rw [hc] at hk
        exact hk
    | true =>
        rw [hc] at hk
        have hentry := (mem_of_tells_additions hc).resolve_left Bool.false_ne_true
        rcases List.mem_cons.1 hentry with rfl | hrest
        · have hfalse : latest (tells q k.interfaceName) true (w.bus.flatMap signals) = false :=
            Bool.eq_false_iff.2 fun htrue => hgone (hk.1 htrue)
          rw [latest_of_ne hfalse Bool.false_ne_true]
          exact iff_of_false Bool.false_ne_true hgone
        · rcases hsafe _ hrest k rfl with hin | htouched
          · exact absurd hin hmem
          · rw [latest_of_touched htouched false true]
            exact hk

/-- Before the scan the books are empty and the queue starts from the exports
of the moment of the subscription. -/
structure Inv (w : World) : Prop where
  alive : w.phase ≠ .failed
  fresh : w.phase = .registered → w.manager = .empty ∧ ∀ (k : Store) q, ∃ b,
    latest (tells q k.interfaceName) b (w.bus.flatMap signals) = true ↔
      Exported w.daemon q k.interfaceName
  leads : w.phase ≠ .registered → Leads w.manager (pending w) w.daemon

theorem pending_send (w : World) (daemon : Objects Unit) (message : Message) :
    pending { w with daemon, bus := w.bus ++ [message] } = pending w ++ signals message := by
  unfold pending
  cases w.phase <;> simp

theorem inv_sends {w : World} (h : Inv w) {daemon : Objects Unit} {message : Message}
    (heffect : ∀ (k : Store) q b, (b = true ↔ Exported w.daemon q k.interfaceName) →
      (latest (tells q k.interfaceName) b (signals message) = true ↔
        Exported daemon q k.interfaceName)) :
    Inv { w with daemon, bus := w.bus ++ [message] } := by
  refine ⟨h.alive, fun hp => ?_, fun hp => ?_⟩
  · obtain ⟨hempty, hqueue⟩ := h.fresh hp
    refine ⟨hempty, fun k q => ?_⟩
    obtain ⟨b, hb⟩ := hqueue k q
    refine ⟨b, ?_⟩
    have hsignals : (w.bus ++ [message]).flatMap signals =
        w.bus.flatMap signals ++ signals message := by simp
    rw [hsignals, latest_append]
    exact heffect k q _ hb
  · rw [pending_send]
    exact (h.leads hp).sent heffect

theorem additions_managedObjects (daemon : Objects Unit) :
    additions (managedObjects daemon) = snapshot daemon := by
  rw [additions, managedObjects, snapshot, List.map_flatMap]
  simp only [List.map_map]
  rfl

theorem inv_getManagedObjects {w : World} (h : Inv w) (he : enabled w .getManagedObjects) :
    Inv (next w .getManagedObjects) := by
  obtain ⟨hempty, hqueue⟩ := h.fresh he
  refine ⟨by simp [next], fun hp => by simp [next] at hp, fun _ k q => ?_⟩
  have hpending : pending (next w .getManagedObjects) =
      snapshot w.daemon ++ w.bus.flatMap signals := by
    rw [← additions_managedObjects]
    rfl
  have hnot : decide (q ∈ (next w .getManagedObjects).manager.stores k) = false := by
    simp [next, hempty, Manager.empty]
  -- the queue, played on the exports of now, leaves them as they are
  obtain ⟨b, hb⟩ := hqueue k q
  have hsnapshot : latest (tells q k.interfaceName) false (snapshot w.daemon) =
      latest (tells q k.interfaceName) b (w.bus.flatMap signals) := by
    rw [Bool.eq_iff_iff, latest_snapshot, hb]
    simp
  rw [hpending, hnot, latest_append, hsnapshot, latest_replay]
  exact hb

theorem Inv.of_leads {w : World} (halive : w.phase ≠ .failed) (hphase : w.phase ≠ .registered)
    (h : Leads w.manager (pending w) w.daemon) : Inv w :=
  ⟨halive, fun hp => absurd hp hphase, fun _ => h⟩

theorem next_addNext_of_returns {w : World} {e : String × String}
    {rest : List (String × String)} (hreturns : (addInterface w e.1 e.2).2 = true) :
    (w.phase = .scanning (e :: rest) → next w .addNext =
      { w with manager := (addInterface w e.1 e.2).1, phase := .scanning rest }) ∧
    (w.phase = .running (e :: rest) → next w .addNext =
      { w with manager := (addInterface w e.1 e.2).1, phase := .running rest }) := by
  have hresult : addInterface w e.1 e.2 = ((addInterface w e.1 e.2).1, true) :=
    Prod.ext rfl hreturns
  constructor
  · intro hphase
    rw [next, hphase]
    simp only
    rw [hresult]
  · intro hphase
    rw [next, hphase]
    simp only
    rw [hresult]

theorem inv_addNext {w : World} (h : Inv w) (he : enabled w .addNext)
    (hn : NothingLost w .addNext) : Inv (next w .addNext) := by
  have hleads : Leads w.manager (pending w) w.daemon := by
    apply h.leads
    rintro hp
    rcases he with ⟨rest, hphase⟩ | ⟨e, rest, hphase⟩
    · cases hphase.symm.trans hp
    · cases hphase.symm.trans hp
  rcases he with ⟨rest, hphase⟩ | ⟨e, rest, hphase⟩
  · cases rest with
    | nil =>
        have hnext : next w .addNext = { w with phase := .running [] } := by simp only [next, hphase]
        rw [hnext]
        rw [pending, hphase] at hleads
        exact .of_leads (by simp) (by simp) hleads
    | cons e rest =>
        have ha : Answered w e.1 e.2 := by
          rw [NothingLost, hphase] at hn
          exact hn
        rcases addInterface_spec w e.1 e.2 with ⟨-, hreturns, -⟩ | ⟨hnot, -⟩
        · rw [(next_addNext_of_returns hreturns).1 hphase]
          rw [pending, hphase] at hleads
          exact .of_leads (by simp) (by simp) (hleads.added ha)
        · exact absurd ha hnot
  · have hcase : Answered w e.1 e.2 ∨ ∀ f ∈ rest, Safe w f.1 f.2 := by
      rw [NothingLost, hphase] at hn
      exact hn
    rw [pending, hphase] at hleads
    rcases addInterface_spec w e.1 e.2 with ⟨ha, hreturns, -⟩ | ⟨hnot, hresult, hgone⟩
    · rw [(next_addNext_of_returns hreturns).2 hphase]
      exact .of_leads (by simp) (by simp) (hleads.added ha)
    · have hnext : next w .addNext = { w with phase := .running [] } := by
        rw [next, hphase]
        simp only
        rw [hresult]
      rw [hnext]
      exact .of_leads (by simp) (by simp) (hleads.dropped hgone (hcase.resolve_left hnot))

theorem inv_deliver {w : World} (h : Inv w) (he : enabled w .deliver) : Inv (next w .deliver) := by
  obtain ⟨hphase, hne⟩ := he
  have hleads := h.leads (by rw [hphase]; simp)
  obtain ⟨message, bus, hbus⟩ := List.exists_cons_of_ne_nil hne
  rw [pending, hphase, hbus] at hleads
  cases message with
  | added objectPath interfaces =>
      have hnext : next w .deliver =
          { w with bus, phase := .running (interfaces.map (objectPath, ·)) } := by rw [next, hbus]
      have hadditions : additions (interfaces.map (objectPath, ·)) =
          signals (.added objectPath interfaces) := by
        rw [additions, List.map_map]
        rfl
      rw [hnext]
      refine .of_leads (by simp) (by simp) ?_
      show Leads w.manager (additions (interfaces.map (objectPath, ·)) ++ bus.flatMap signals) w.daemon
      rw [hadditions]
      exact hleads
  | removed objectPath interfaces =>
      have hnext : next w .deliver =
          { w with bus, manager := w.manager.onInterfacesRemoved objectPath interfaces } := by
        rw [next, hbus]
      rw [hnext]
      refine .of_leads h.alive (by simp [hphase]) ?_
      rw [pending, hphase]
      exact Leads.removed hleads

theorem inv_next (w : World) (a : Act) (h : Inv w) (he : enabled w a) (hn : NothingLost w a) :
    Inv (next w a) := by
  cases a with
  | exports objectPath interfaces =>
      apply inv_sends h
      intro k q b hb
      rw [signals, latest_added, exported_exports_iff, hb, Std.ExtTreeMap.mem_keys, or_comm]
  | withdraws objectPath interfaces =>
      apply inv_sends h
      intro k q b hb
      rw [signals, latest_removed, exported_withdraws_iff, hb]
  | getManagedObjects => exact inv_getManagedObjects h he
  | addNext => exact inv_addNext h he hn
  | deliver => exact inv_deliver h he

theorem inv_start (daemon : Objects Unit) : Inv (start daemon) := by
  refine ⟨by simp [start], fun _ => ⟨rfl, fun k q => ?_⟩, fun hp => absurd rfl hp⟩
  exact ⟨decide (Exported daemon q k.interfaceName), by simp [start]⟩

/-- In a run in which nothing that is needed is lost to a failing call, the
constructor does not throw, and once all messages have been handled the maps
hold what UDisks2 exports. -/
theorem manager_converges (daemon : Objects Unit) (as : List Act)
    (hv : system.Valid (start daemon) as) (hn : system.Along NothingLost (start daemon) as) :
    (system.after (start daemon) as).phase ≠ .failed ∧
      (Settled (system.after (start daemon) as) → Converged (system.after (start daemon) as)) := by
  have hinv := system.invariant_along inv_next (inv_start daemon) hv hn
  refine ⟨hinv.alive, ?_⟩
  rintro ⟨hphase, hbus⟩ k q
  have hleads := hinv.leads (by rw [hphase]; simp) k q
  have hpending : pending (system.after (start daemon) as) = [] := by
    simp [pending, hphase, hbus, additions]
  rw [hpending, latest_nil, decide_eq_true_iff] at hleads
  exact hleads

def stick : Interfaces Unit := .ofList [("org.freedesktop.UDisks2.Block", ())]

/-- The stick is pulled out after it has been added to the books. -/
def pulledLate : List Act :=
  [.getManagedObjects, .addNext, .exports "/org/freedesktop/UDisks2/block_devices/sda1" stick,
    .deliver, .addNext,
    .withdraws "/org/freedesktop/UDisks2/block_devices/sda1" ["org.freedesktop.UDisks2.Block"],
    .deliver]

theorem manager_converges_pulledLate :
    (system.after (start ∅) pulledLate).phase ≠ .failed ∧
      Converged (system.after (start ∅) pulledLate) := by
  have h := manager_converges ∅ pulledLate
    ⟨rfl, .inl ⟨_, rfl⟩, trivial, ⟨rfl, List.cons_ne_nil _ _⟩, .inr ⟨_, _, rfl⟩, trivial,
      ⟨rfl, List.cons_ne_nil _ _⟩, trivial⟩
    ⟨trivial, trivial, trivial, trivial, .inl (.inr (by decide)), trivial, trivial, trivial⟩
  exact ⟨h.1, h.2 ⟨rfl, rfl⟩⟩

/-- The stick is pulled out between the snapshot and the scan. -/
theorem scan_fails_on_pulled_stick :
    ¬ ∀ (daemon : Objects Unit) (as : List Act), system.Valid (start daemon) as →
      (system.after (start daemon) as).phase ≠ .failed ∧
        (Settled (system.after (start daemon) as) → Converged (system.after (start daemon) as)) := by
  intro h
  have hf := h (.ofList [("/org/freedesktop/UDisks2/block_devices/sda1", stick)])
    [.getManagedObjects,
      .withdraws "/org/freedesktop/UDisks2/block_devices/sda1" ["org.freedesktop.UDisks2.Block"],
      .addNext]
    ⟨rfl, trivial, .inl ⟨_, rfl⟩, trivial⟩
  exact hf.1 rfl

end SdbusExamples.UDisks2Convergence
