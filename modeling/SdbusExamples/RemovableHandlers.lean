import SdbusExamples.RemovableRuns

namespace SdbusExamples.RemovableHandlers

open PathMaps RecheckLatch RemovableMonitor RemovableRuns SnapshotScans Variants

variable {drives : String → Option PropertyMap}

theorem signal_of_ne {m : Message} {q : String} (h : m.objectPath ≠ q) :
    signal drives q m = none := by
  cases m with
  | interfacesAdded path interfaces => exact if_neg h
  | interfacesRemoved path interfaces => exact if_neg fun hq => h hq.1
  | propertiesChanged path interfaceName changed => exact if_neg fun hq => h hq.1

theorem signal_added_without_block (path q : String) {interfaces : Interfaces}
    (h : kBlockInterface ∉ interfaces) :
    signal drives q (.interfacesAdded path interfaces) = none := by
  have ha : admission interfaces drives = .passedOver := by
    unfold admission
    rw [Std.ExtTreeMap.getElem?_eq_none h]
  simp only [signal, ha, ite_self]

theorem signal_added_block (q : String) {interfaces : Interfaces} {blockProps : PropertyMap}
    {drive : String} (hb : interfaces[kBlockInterface]? = some blockProps)
    (hd : drivePath blockProps = some drive) (hne : drive ≠ "/")
    (hr : (drives drive).bind isRemovable = some true) :
    signal drives q (.interfacesAdded q interfaces) = some .appears := by
  simp only [signal, if_true, admission_of_removable hb hd hne hr]

theorem signal_added_cases (path q : String) (interfaces : Interfaces) :
    signal drives q (.interfacesAdded path interfaces) = none ∨
      signal drives q (.interfacesAdded path interfaces) = some .appears := by
  simp only [signal]
  split_ifs
  · cases admission interfaces drives with
    | removable drive => exact .inr rfl
    | passedOver => exact .inl rfl
    | throws => exact .inl rfl
  · exact .inl rfl

/-- What a handler does for the device `q`: it reports it, or the watch goes on
as after a signal that leads to no report, because there was no check or
because the check found nothing. -/
def Handled (q : String) (r : Replies) (l : Watch) (ss : List Signal)
    (result : Watchers × Option Report × Bool) : Prop :=
  ((∃ rep, result.2.1 = some rep ∧ rep.objectPath = q) ∧
      (result.1[q]?.map Watcher.reported ≠ none → after l ss ≠ none)) ∨
    ((∀ rep, result.2.1 = some rep → rep.objectPath ≠ q) ∧
      result.1[q]?.map Watcher.reported = after l ss ∧
      ¬ ((report q r).isSome = true ∧ Checked l ss))

theorem handled_quiet {q : String} {r : Replies} {watchers watchers' : Watchers} {returns : Bool}
    (h : watchers'[q]? = watchers[q]?) :
    Handled q r (watchers[q]?.map Watcher.reported) [] (watchers', none, returns) :=
  .inr ⟨by rintro rep ⟨⟩, by rw [h, after_nil], fun hc => hc.2⟩

theorem addWatcher_handled {q drive : String} {watchers : Watchers} (h : watchers[q]? = none)
    (r : Replies) :
    Handled q r (watchers[q]?.map Watcher.reported) [.appears] (addWatcher watchers q drive r) := by
  rw [addWatcher]
  rcases check_cases q ⟨drive, false⟩ r with ⟨rep, -, hrep, he⟩ | ⟨hnone, he⟩
  · left
    rw [he, h]
    cases decide (r.callback ≠ .throwsOther) with
    | true => exact ⟨⟨rep, rfl, report_objectPath hrep⟩, fun _ => Option.some_ne_none _⟩
    | false => exact ⟨⟨rep, rfl, report_objectPath hrep⟩, fun _ => Option.some_ne_none _⟩
  · right
    have hreport := hnone.resolve_left Bool.false_ne_true
    rw [he, h]
    refine ⟨by rintro rep ⟨⟩, ?_, fun hc => ?_⟩
    · show (watchers.insert q ⟨drive, false⟩)[q]?.map Watcher.reported = some false
      rw [getElem?_insert_path, if_pos rfl, Option.map_some]
    · rw [hreport] at hc
      exact Bool.false_ne_true hc.1

theorem onPropertiesChanged_handled (watchers : Watchers) (q interfaceName : String)
    (changed : PropertyMap) (r : Replies) :
    Handled q r (watchers[q]?.map Watcher.reported)
      (signal drives q (.propertiesChanged q interfaceName changed)).toList
      (onPropertiesChanged watchers q interfaceName changed r) := by
  simp only [onPropertiesChanged, signal, true_and]
  cases hw : watchers[q]? with
  | none =>
      right
      refine ⟨by rintro rep ⟨⟩, ?_, ?_⟩
      · simp only [hw]
        split_ifs <;> rfl
      · rintro ⟨-, hc⟩
        split_ifs at hc
        · exact hc.elim id id
        · exact hc
  | some w =>
      have hinsert (w' : Watcher) : (watchers.insert q w')[q]?.map Watcher.reported =
          some w'.reported := by
        rw [getElem?_insert_path, if_pos rfl, Option.map_some]
      simp only [Watcher.onPropertiesChanged, Option.map_some]
      by_cases hrel : interfaceName = kBlockInterface ∧ ("IdUsage" ∈ changed ∨ "IdType" ∈ changed)
      · rw [if_pos hrel]
        rcases check_cases q w r with ⟨rep, hfirst, hrep, he⟩ | ⟨hnone, he⟩
        · rw [if_pos ⟨hrel.1, hfirst, hrel.2⟩, he]
          refine .inl ⟨⟨rep, rfl, report_objectPath hrep⟩, fun _ => ?_⟩
          rw [hfirst]
          exact Option.some_ne_none _
        · -- the check finds nothing, or the latch keeps it from looking
          rw [he, ite_self]
          refine .inr ⟨by rintro rep ⟨⟩, ?_, ?_⟩
          · rw [hinsert]
            cases w.reported <;> rfl
          · rintro ⟨hreport, hc⟩
            rcases hnone with hlatch | hnone
            · rw [hlatch] at hc
              exact hc.elim id id
            · rw [hnone] at hreport
              exact Bool.false_ne_true hreport
      · rw [if_neg hrel, if_neg fun hc => hrel ⟨hc.1, hc.2.2⟩]
        exact .inr ⟨by rintro rep ⟨⟩, hinsert w, fun hc => hc.2⟩

theorem onInterfacesAdded_handled (watchers : Watchers) (q : String) (interfaces : Interfaces)
    (r : Replies) :
    Handled q r (watchers[q]?.map Watcher.reported)
      (signal drives q (.interfacesAdded q interfaces)).toList
      (onInterfacesAdded watchers q interfaces drives r) := by
  simp only [onInterfacesAdded, signal, if_true]
  cases admission interfaces drives with
  | passedOver => exact handled_quiet rfl
  | throws => exact handled_quiet rfl
  | removable drive =>
      by_cases hmem : q ∈ watchers
      · obtain ⟨w, hw⟩ := (mem_iff_getElem? _).1 hmem
        simp only [if_pos hmem, hw, Option.map_some]
        refine .inr ⟨by rintro rep ⟨⟩, ?_, ?_⟩
        · simp only [hw]
          rfl
        · rintro ⟨-, hc⟩
          cases hr : w.reported <;> exact (hr ▸ hc).elim id id
      · simp only [if_neg hmem]
        exact addWatcher_handled (Std.ExtTreeMap.getElem?_eq_none hmem) r

theorem check_objectPath {path : String} {w : Watcher} {r : Replies} {rep : Report}
    (h : (checkAndReportIfReady path w r).2.1 = some rep) : rep.objectPath = path := by
  rcases check_cases path w r with ⟨rep', -, hrep, he⟩ | ⟨-, he⟩
  · rw [he] at h
    exact report_objectPath (hrep.trans h)
  · rw [he] at h
    cases h

theorem addWatcher_of_ne {path q : String} (hq : path ≠ q) (watchers : Watchers) (drive : String)
    (r : Replies) : (addWatcher watchers path drive r).1[q]? = watchers[q]? ∧
      (addWatcher watchers path drive r).2.1 = (checkAndReportIfReady path ⟨drive, false⟩ r).2.1 := by
  rw [addWatcher]
  split
  · rename_i watcher report he
    rw [he]
    exact ⟨(getElem?_insert_path _ _ _ _).trans (if_neg hq), rfl⟩
  · rename_i report he
    rw [he]
    exact ⟨rfl, rfl⟩

theorem onPropertiesChanged_watcher_objectPath {path : String} {w : Watcher} {interfaceName : String}
    {changed : PropertyMap} {r : Replies} {rep : Report}
    (h : (w.onPropertiesChanged path interfaceName changed r).2.1 = some rep) :
    rep.objectPath = path := by
  rw [Watcher.onPropertiesChanged] at h
  split_ifs at h
  exact check_objectPath h

variable (drives) in
theorem handle_of_ne {m : Message} {q : String} (hq : m.objectPath ≠ q) (watchers : Watchers)
    (r : Replies) : (handle drives watchers r m).1[q]? = watchers[q]? ∧
      ∀ rep, (handle drives watchers r m).2.1 = some rep → rep.objectPath ≠ q := by
  cases m with
  | interfacesAdded path interfaces =>
      rw [Message.objectPath] at hq
      simp only [handle, onInterfacesAdded]
      cases admission interfaces drives with
      | passedOver => exact ⟨rfl, by rintro rep ⟨⟩⟩
      | throws => exact ⟨rfl, by rintro rep ⟨⟩⟩
      | removable drive =>
          simp only
          split_ifs
          · exact ⟨rfl, by rintro rep ⟨⟩⟩
          · obtain ⟨hw, hr⟩ := addWatcher_of_ne hq watchers drive r
            refine ⟨hw, fun rep hrep => ?_⟩
            rw [hr] at hrep
            rw [check_objectPath hrep]
            exact hq
  | interfacesRemoved path interfaces =>
      rw [Message.objectPath] at hq
      refine ⟨?_, by rintro rep ⟨⟩⟩
      simp only [handle, onInterfacesRemoved]
      split_ifs
      · rw [getElem?_erase_path, if_neg hq]
      · rfl
  | propertiesChanged path interfaceName changed =>
      simp only [handle, onPropertiesChanged]
      cases watchers[path]? with
      | none => exact ⟨rfl, by rintro rep ⟨⟩⟩
      | some w =>
          refine ⟨(getElem?_insert_path _ _ _ _).trans (if_neg hq), fun rep hrep => ?_⟩
          rw [onPropertiesChanged_watcher_objectPath hrep]
          exact hq

theorem handle_handled (watchers : Watchers) (q : String) (r : Replies) (m : Message) :
    Handled q r (watchers[q]?.map Watcher.reported) (signal drives q m).toList
      (handle drives watchers r m) := by
  by_cases hq : m.objectPath = q
  · subst hq
    cases m with
    | interfacesAdded path interfaces => exact onInterfacesAdded_handled watchers path interfaces r
    | interfacesRemoved path interfaces =>
        simp only [Message.objectPath, handle, onInterfacesRemoved, signal, true_and]
        split_ifs
        · refine .inr ⟨by rintro rep ⟨⟩, ?_, ?_⟩
          · simp only [getElem?_erase_path, if_true, Option.map_none]
            cases watchers[path]?.map Watcher.reported <;> rfl
          · rintro ⟨-, hc⟩
            generalize watchers[path]?.map Watcher.reported = l at hc
            rcases l with _ | _ | _ <;> exact hc.elim id id
        · exact handled_quiet rfl
    | propertiesChanged path interfaceName changed =>
        exact onPropertiesChanged_handled watchers path interfaceName changed r
  · obtain ⟨hw, hr⟩ := handle_of_ne drives hq watchers r
    rw [signal_of_ne hq]
    exact .inr ⟨hr, by rw [hw]; rfl, fun hc => hc.2⟩

end SdbusExamples.RemovableHandlers
