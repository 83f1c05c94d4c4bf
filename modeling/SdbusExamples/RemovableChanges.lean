import SdbusExamples.RemovableHandlers

namespace SdbusExamples.RemovableChanges

open PathMaps RecheckLatch RemovableHandlers RemovableMonitor RemovableRuns SnapshotScans Variants
open ExportedObjects (Objects Exported lookup lookup_exports exported_exports_iff lookup_withdraws
  exported_withdraws_iff)

theorem getElem?_union_property (old changed : PropertyMap) (property : String) :
    (old ∪ changed)[property]? = changed[property]?.or old[property]? := by
  rw [Std.ExtTreeMap.getElem?_union]

theorem idUsage_union (old changed : PropertyMap) :
    idUsage (old ∪ changed) = if "IdUsage" ∈ changed then idUsage changed else idUsage old := by
  rw [idUsage, getElem?_union_property]
  split_ifs with h
  · obtain ⟨value, hv⟩ := (mem_iff_getElem? _).1 h
    rw [hv, idUsage, hv, Option.some_or]
  · rw [Std.ExtTreeMap.getElem?_eq_none h, Option.none_or, idUsage]

theorem drivePath_union {old changed : PropertyMap} (h : "Drive" ∉ changed) :
    drivePath (old ∪ changed) = drivePath old := by
  rw [drivePath, getElem?_union_property, Std.ExtTreeMap.getElem?_eq_none h, Option.none_or,
    drivePath]

variable {drives : String → Option PropertyMap}

def sends (w : World) : Act → List Message
  | .exports path interfaces => [.interfacesAdded path interfaces]
  | .withdraws path interfaces => [.interfacesRemoved path interfaces]
  | .changes path interfaceName changed sent =>
      if sent = true ∧ Exported w.daemon path interfaceName then
        [.propertiesChanged path interfaceName changed]
      else []
  | _ => []

def Daemon : Act → Prop
  | .exports _ _ => True
  | .withdraws _ _ => True
  | .changes _ _ _ _ => True
  | _ => False

theorem bus_next (w : World) {a : Act} (ha : Daemon a) :
    (next drives w a).bus = w.bus ++ sends w a := by
  cases a with
  | exports path interfaces => rfl
  | withdraws path interfaces => rfl
  | changes path interfaceName changed sent =>
      simp only [next, sends]
      cases hl : lookup w.daemon path interfaceName with
      | none => simp [Exported, hl]
      | some old => cases sent <;> simp [Exported, hl]
  | _ => exact ha.elim

variable (drives) in
theorem monitor_next (w : World) {a : Act} (ha : Daemon a) :
    (next drives w a).phase = w.phase ∧ (next drives w a).handling = w.handling ∧
      (next drives w a).watchers = w.watchers := by
  cases a with
  | exports path interfaces => exact ⟨rfl, rfl, rfl⟩
  | withdraws path interfaces => exact ⟨rfl, rfl, rfl⟩
  | changes path interfaceName changed sent =>
      simp only [next]
      cases lookup w.daemon path interfaceName <;> exact ⟨rfl, rfl, rfl⟩
  | _ => exact ha.elim

theorem awaited_next (w : World) (q : String) {a : Act} (ha : Daemon a) :
    awaited drives (next drives w a) q =
      awaited drives w q ++ (sends w a).filterMap (signal drives q) := by
  rw [awaited, bus_next w ha, (monitor_next drives w ha).1, ← List.append_assoc, List.filterMap_append,
    awaited]

/-- What an act of UDisks2 is for a device, with the signals that the monitor
gets: the block appears or vanishes, or its properties change, or it stays. -/
inductive Change (drives : String → Option PropertyMap) (w : World) (a : Act) (q : String) :
    List Signal → Prop
  | appears (ss : List Signal) (habsent : ¬ Exported w.daemon q kBlockInterface)
      (hpresent : Exported (next drives w a).daemon q kBlockInterface)
      (hss : OnRemovable drives (next drives w a) q → ss = [.appears]) : Change drives w a q ss
  | vanishes (habsent : ¬ Exported (next drives w a).daemon q kBlockInterface) :
      Change drives w a q [.vanishes]
  | changes (ss : List Signal) (old changed : PropertyMap)
      (hold : lookup w.daemon q kBlockInterface = some old)
      (hnew : lookup (next drives w a).daemon q kBlockInterface = some (old ∪ changed))
      (hdrive : "Drive" ∉ changed) (htyped : idUsage changed ≠ none)
      (hfilesystem : lookup (next drives w a).daemon q kFilesystemInterface =
        lookup w.daemon q kFilesystemInterface)
      (hreported : (next drives w a).reported q = w.reported q)
      (hss : ss = [.changes] ∨ ss = [] ∧ ("IdUsage" ∉ changed ∨ ¬ Watched drives w q)) :
      Change drives w a q ss
  | stays
      (hblock : lookup (next drives w a).daemon q kBlockInterface =
        lookup w.daemon q kBlockInterface)
      (hfilesystem : Exported (next drives w a).daemon q kFilesystemInterface →
        Exported w.daemon q kFilesystemInterface ∨
          ∃ interfaces, a = .exports q interfaces ∧ kFilesystemInterface ∈ interfaces)
      (hreported : (next drives w a).reported q = w.reported q) : Change drives w a q []

theorem exports_change {w : World} {path : String} {interfaces : Interfaces}
    (he : enabled drives w (.exports path interfaces)) (q : String) :
    Change drives w (.exports path interfaces) q
      ((sends w (.exports path interfaces)).filterMap (signal drives q)) := by
  by_cases hq : path = q
  · subst hq
    by_cases hb : kBlockInterface ∈ interfaces
    · obtain ⟨blockProps, hprops⟩ := (mem_iff_getElem? _).1 hb
      have hlookup : lookup (next drives w (.exports path interfaces)).daemon path
          kBlockInterface = some blockProps := by
        simp only [next, lookup_exports, if_true, hprops, Option.some_or]
      refine .appears _ (he blockProps hprops).1 ⟨blockProps, hlookup⟩ ?_
      rintro ⟨p, drive, hp, hd, hne, hr⟩
      obtain rfl := Option.some.inj (hlookup.symm.trans hp)
      simp only [sends, List.filterMap_cons, signal_added_block path hprops hd hne hr,
        List.filterMap_nil]
    · rw [sends, List.filterMap_cons, signal_added_without_block path path hb]
      refine .stays ?_ ?_ (by simp only [next, if_neg hb])
      · simp only [next, lookup_exports, if_true, Std.ExtTreeMap.getElem?_eq_none hb,
          Option.none_or]
      · intro hf
        rcases (exported_exports_iff _ _ _ _ _).1 hf with ⟨-, hmem⟩ | hf
        · exact .inr ⟨interfaces, rfl, hmem⟩
        · exact .inl hf
  · rw [sends, List.filterMap_cons, signal_of_ne (m := .interfacesAdded path interfaces) hq]
    refine .stays ?_ ?_ ?_
    · simp only [next, lookup_exports, if_neg hq]
    · intro hf
      rcases (exported_exports_iff _ _ _ _ _).1 hf with ⟨hpath, -⟩ | hf
      · exact absurd hpath hq
      · exact .inl hf
    · simp only [next]
      split_ifs
      · exact Function.update_of_ne (Ne.symm hq) _ _
      · rfl

theorem withdraws_change (w : World) (path : String) (interfaces : List String) (q : String) :
    Change drives w (.withdraws path interfaces) q
      ((sends w (.withdraws path interfaces)).filterMap (signal drives q)) := by
  have hexported := exported_withdraws_iff w.daemon path q kBlockInterface interfaces
  by_cases hb : path = q ∧ kBlockInterface ∈ interfaces
  · simp only [sends, List.filterMap_cons, signal, if_pos hb, List.filterMap_nil]
    exact .vanishes fun hp => (hexported.1 hp).2 hb
  · simp only [sends, List.filterMap_cons, signal, if_neg hb, List.filterMap_nil]
    refine .stays ?_ ?_ rfl
    · simp only [next, lookup_withdraws, if_neg hb]
    · exact fun hf => .inl ((exported_withdraws_iff _ _ _ _ _).1 hf).1

theorem lookup_changed (daemon : Objects PropertyMap) (path q interfaceName interface : String)
    (p : PropertyMap) :
    lookup (ExportedObjects.exports daemon path ((∅ : Interfaces).insert interfaceName p)) q
        interface =
      if path = q ∧ interfaceName = interface then some p else lookup daemon q interface := by
  rw [lookup_exports, getElem?_insert_path]
  by_cases hq : path = q
  · by_cases hi : interfaceName = interface <;> simp [hq, hi]
  · simp [hq]

theorem changes_quiet {w : World} {path interfaceName : String} {changed : PropertyMap}
    {sent : Bool} {q : String} (h : ¬ (path = q ∧ interfaceName = kBlockInterface)) :
    (sends w (.changes path interfaceName changed sent)).filterMap (signal drives q) = [] := by
  simp only [sends]
  split_ifs
  · simp only [List.filterMap_cons, signal, List.filterMap_nil]
    rw [if_neg fun hq => h ⟨hq.1, hq.2.1⟩]
  · rfl

theorem changes_change {w : World} {path interfaceName : String} {changed : PropertyMap}
    {sent : Bool} (he : enabled drives w (.changes path interfaceName changed sent)) (q : String) :
    Change drives w (.changes path interfaceName changed sent) q
      ((sends w (.changes path interfaceName changed sent)).filterMap (signal drives q)) := by
  cases hold : lookup w.daemon path interfaceName with
  | none =>
      have hsame : next drives w (.changes path interfaceName changed sent) = w := by
        simp only [next, hold]
      have hquiet : sends w (.changes path interfaceName changed sent) = [] := by
        simp [sends, Exported, hold]
      rw [hquiet]
      exact .stays (by rw [hsame]) (fun hf => .inl (by rwa [hsame] at hf)) (by rw [hsame])
  | some old =>
      have hlookup (interface : String) :
          lookup (next drives w (.changes path interfaceName changed sent)).daemon q interface =
            if path = q ∧ interfaceName = interface then some (old ∪ changed)
            else lookup w.daemon q interface := by
        simp only [next, hold]
        exact lookup_changed w.daemon path q interfaceName interface (old ∪ changed)
      have hreported : (next drives w (.changes path interfaceName changed sent)).reported =
          w.reported := by
        simp only [next, hold]
      by_cases hb : path = q ∧ interfaceName = kBlockInterface
      · obtain ⟨rfl, rfl⟩ := hb
        refine .changes _ old changed hold ?_ (he.1 rfl).1 (he.1 rfl).2 ?_
          (congrFun hreported path) ?_
        · rw [hlookup, if_pos ⟨rfl, rfl⟩]
        · rw [hlookup, if_neg fun h => absurd h.2 (by decide)]
        · by_cases hrel : "IdUsage" ∈ changed ∨ "IdType" ∈ changed
          · cases sent with
            | true =>
                left
                simp [sends, Exported, hold, signal, hrel]
            | false =>
                right
                refine ⟨rfl, .inr fun hw => ?_⟩
                exact Bool.false_ne_true (he.2 hw)
          · right
            refine ⟨?_, .inl fun hu => hrel (.inl hu)⟩
            simp only [sends]
            split_ifs <;> simp [signal, hrel]
      · rw [changes_quiet hb]
        refine .stays ?_ ?_ (congrFun hreported q)
        · rw [hlookup, if_neg hb]
        · rintro ⟨p, hp⟩
          rw [hlookup] at hp
          split_ifs at hp with hf
          · obtain ⟨rfl, rfl⟩ := hf
            exact .inl ⟨old, hold⟩
          · exact .inl ⟨p, hp⟩

theorem daemon_change {w : World} {a : Act} (ha : Daemon a) (he : enabled drives w a) (q : String) :
    Change drives w a q ((sends w a).filterMap (signal drives q)) := by
  cases a with
  | exports path interfaces => exact exports_change he q
  | withdraws path interfaces => exact withdraws_change w path interfaces q
  | changes path interfaceName changed sent => exact changes_change he q
  | _ => exact ha.elim

theorem exported_of_removable {w : World} {q : String} (h : OnRemovable drives w q) :
    Exported w.daemon q kBlockInterface := by
  obtain ⟨blockProps, -, hb, -⟩ := h
  exact ⟨blockProps, hb⟩

theorem onRemovable_of_changes {w w' : World} {q : String} {old changed : PropertyMap}
    (hold : lookup w.daemon q kBlockInterface = some old)
    (hnew : lookup w'.daemon q kBlockInterface = some (old ∪ changed))
    (hdrive : "Drive" ∉ changed) (h : OnRemovable drives w' q) : OnRemovable drives w q := by
  obtain ⟨p, drive, hp, hd, hrest⟩ := h
  obtain rfl := Option.some.inj (hnew.symm.trans hp)
  rw [drivePath_union hdrive] at hd
  exact ⟨old, drive, hold, hd, hrest⟩

theorem onRemovable_congr {w w' : World} {q : String}
    (h : lookup w'.daemon q kBlockInterface = lookup w.daemon q kBlockInterface) :
    OnRemovable drives w' q ↔ OnRemovable drives w q := by
  rw [OnRemovable, OnRemovable, h]

theorem exported_congr {w w' : World} {q interface : String}
    (h : lookup w'.daemon q interface = lookup w.daemon q interface) :
    Exported w'.daemon q interface ↔ Exported w.daemon q interface := by
  rw [Exported, Exported, h]

/-- What the signals `ss` make of a watch that is `l` before them, and of one
that is `l₀`, when UDisks2 exports no block and when it exports one. -/
structure Heard (drives : String → Option PropertyMap) (w : World) (q : String) (l l₀ : Watch)
    (ss : List Signal) : Prop where
  gone : ¬ Exported w.daemon q kBlockInterface → after l ss = none
  there : OnRemovable drives w q → w.reported q = true ∨ after l₀ ss = some false

theorem Heard.congr {w w' : World} {q : String} {l l₀ : Watch} {ss : List Signal}
    (h : Heard drives w q l l₀ ss) (hd : w'.daemon = w.daemon) (hr : w'.reported q = w.reported q) :
    Heard drives w' q l l₀ ss := by
  obtain ⟨hgone, hthere⟩ := h
  rw [← hd] at hgone
  rw [OnRemovable, ← hd, ← hr] at hthere
  exact ⟨hgone, hthere⟩

theorem Heard.next {w : World} {a : Act} {q : String} {l l₀ : Watch} {ss more : List Signal}
    (h : Heard drives w q l l₀ ss) (hfresh : after l ss = none → after l₀ ss ≠ some true)
    (hc : Change drives w a q more) : Heard drives (next drives w a) q l l₀ (ss ++ more) := by
  cases hc with
  | appears more habsent hpresent hss =>
      refine ⟨fun hp => absurd hpresent hp, fun hr => .inr ?_⟩
      rw [hss hr, after_append]
      have hlatch := hfresh (h.gone habsent)
      generalize after l₀ ss = l' at hlatch
      rcases l' with _ | _ | _
      · rfl
      · rfl
      · exact absurd rfl hlatch
  | vanishes habsent =>
      refine ⟨fun _ => ?_, fun hr => absurd (exported_of_removable hr) habsent⟩
      rw [after_append]
      cases after l ss <;> rfl
  | changes more old changed hold hnew hdrive htyped hfilesystem hreported hss =>
      refine ⟨fun hp => absurd ⟨_, hnew⟩ hp, fun hr => ?_⟩
      rw [hreported]
      refine (h.there (onRemovable_of_changes hold hnew hdrive hr)).imp_right fun hl => ?_
      rw [after_append, hl]
      rcases hss with rfl | ⟨rfl, -⟩ <;> rfl
  | stays hblock hfilesystem hreported =>
      rw [List.append_nil]
      refine ⟨fun hp => h.gone fun hp' => hp ((exported_congr hblock).2 hp'), fun hr => ?_⟩
      rw [hreported]
      exact h.there ((onRemovable_congr hblock).1 hr)

theorem typed_next {w : World} {a : Act} (ha : Daemon a) (he : enabled drives w a)
    (h : ∀ q p, lookup w.daemon q kBlockInterface = some p → Typed p) (q : String) (p : PropertyMap)
    (hp : lookup (next drives w a).daemon q kBlockInterface = some p) : Typed p := by
  cases a with
  | exports path interfaces =>
      simp only [next, lookup_exports] at hp
      split_ifs at hp
      · cases hb : interfaces[kBlockInterface]? with
        | none =>
            rw [hb, Option.none_or] at hp
            exact h q p hp
        | some blockProps =>
            rw [hb, Option.some_or] at hp
            obtain rfl := Option.some.inj hp
            exact (he _ hb).2
      · exact h q p hp
  | withdraws path interfaces =>
      simp only [next, lookup_withdraws] at hp
      split_ifs at hp
      exact h q p hp
  | changes path interfaceName changed sent =>
      simp only [next] at hp
      cases hold : lookup w.daemon path interfaceName with
      | none =>
          rw [hold] at hp
          exact h q p hp
      | some old =>
          rw [hold] at hp
          simp only [lookup_changed] at hp
          split_ifs at hp with hq
          · obtain ⟨rfl, rfl⟩ := hq
            obtain rfl := Option.some.inj hp
            obtain ⟨hu, hd⟩ := h path old hold
            rw [Typed, idUsage_union, drivePath_union (he.1 rfl).1]
            refine ⟨?_, hd⟩
            split_ifs
            · exact (he.1 rfl).2
            · exact hu
          · exact h q p hp
  | _ => exact ha.elim

end SdbusExamples.RemovableChanges
