import SdbusExamples.RemovableChecks

namespace SdbusExamples.RemovableReadiness

open PathMaps RecheckLatch RemovableChanges RemovableChecks RemovableHandlers RemovableMonitor
  RemovableRuns Runs SnapshotScans Variants
open ExportedObjects (Objects Exported lookup)

section

variable {drives : String → Option PropertyMap}

/-- Before the snapshot is taken: a watch for the device would be made by the scan. -/
structure Early (drives : String → Option PropertyMap) (w : World) : Prop where
  watchers : w.watchers = ∅
  handling : w.handling = none
  heard : ∀ q, Heard drives w q none (some false) (awaited drives w q)

structure Inv (drives : String → Option PropertyMap) (w : World) : Prop where
  typed : ∀ q blockProps, lookup w.daemon q kBlockInterface = some blockProps → Typed blockProps
  early : w.phase = .registered → Early drives w
  kept : w.phase ≠ .registered → w.phase ≠ .failed → ∀ q, Kept drives w q

theorem mem_scanned_iff (daemon : Objects PropertyMap) (m : Message) :
    m ∈ scanned announce (.scanning daemon.toList) ↔
      ∃ path interfaces, daemon[path]? = some interfaces ∧ m = .interfacesAdded path interfaces := by
  rw [scanned, List.mem_map]
  constructor
  · rintro ⟨⟨path, interfaces⟩, hmem, rfl⟩
    exact ⟨path, interfaces, (mem_toList_path _ _ _).1 hmem, rfl⟩
  · rintro ⟨path, interfaces, hget, rfl⟩
    exact ⟨(path, interfaces), (mem_toList_path _ _ _).2 hget, rfl⟩

/-- What the watcher of `q` hears in the scan of the snapshot. -/
def ofSnapshot (drives : String → Option PropertyMap) (daemon : Objects PropertyMap) (q : String) :
    List Signal :=
  (scanned announce (.scanning daemon.toList)).filterMap (signal drives q)

variable (drives) in
theorem snapshot_signals (w : World) (q : String) :
    (∀ s ∈ ofSnapshot drives w.daemon q, s = .appears) ∧
      (¬ Exported w.daemon q kBlockInterface → ofSnapshot drives w.daemon q = []) ∧
      (OnRemovable drives w q → ofSnapshot drives w.daemon q ≠ []) := by
  refine ⟨fun s hs => ?_, fun hgone => ?_, ?_⟩
  · obtain ⟨m, hm, hs⟩ := List.mem_filterMap.1 hs
    obtain ⟨path, interfaces, -, rfl⟩ := (mem_scanned_iff _ _).1 hm
    rcases signal_added_cases path q interfaces with hnone | happears
    · cases hnone.symm.trans hs
    · exact Option.some.inj (hs.symm.trans happears)
  · rw [ofSnapshot, List.filterMap_eq_nil_iff]
    intro m hm
    obtain ⟨path, interfaces, hget, rfl⟩ := (mem_scanned_iff _ _).1 hm
    by_cases hq : path = q
    · subst hq
      apply signal_added_without_block
      intro hb
      obtain ⟨blockProps, hprops⟩ := (mem_iff_getElem? _).1 hb
      exact hgone ⟨blockProps, by rw [lookup, hget, Option.bind_some, hprops]⟩
    · exact signal_of_ne hq
  · rintro ⟨blockProps, drive, hb, hd, hne, hr⟩ hnil
    obtain ⟨interfaces, hget, hprops⟩ := Option.bind_eq_some_iff.1 hb
    have hmem := (mem_scanned_iff w.daemon _).2 ⟨q, interfaces, hget, rfl⟩
    have hnone := List.filterMap_eq_nil_iff.1 hnil _ hmem
    rw [signal_added_block q hprops hd hne hr] at hnone
    cases hnone

theorem Early.kept {w : World} (h : Early drives w) (hphase : w.phase = .registered) (q : String) :
    Kept drives { w with phase := .scanning w.daemon.toList } q := by
  obtain ⟨happears, hgone, hthere⟩ := snapshot_signals drives w q
  have hwatch : watch { w with phase := .scanning w.daemon.toList } q = none := by
    rw [watch, h.watchers]
    rfl
  have hhandled : handled drives { w with phase := .scanning w.daemon.toList } q = [] :=
    handled_of_none h.handling q
  have hawaited : awaited drives { w with phase := .scanning w.daemon.toList } q =
      ofSnapshot drives w.daemon q ++ awaited drives w q := by
    rw [awaited, List.filterMap_append, awaited, hphase]
    rfl
  have hsnapshot (hr : OnRemovable drives w q) :
      after none (ofSnapshot drives w.daemon q) = some false :=
    after_of_appears happears (hthere hr)
  have hcoming (p : Prop) (hr : OnRemovable drives w q) : Coming p none []
      (ofSnapshot drives w.daemon q ++ awaited drives w q) := by
    have hchecked := checked_of_after (by rw [hsnapshot hr]; exact Option.some_ne_none _)
    have hc : Coming p none [] _ := .inr hchecked
    exact hc.append _
  rw [← hwatch] at hcoming
  refine ⟨⟨fun hg => ?_, fun hr => ?_⟩, fun hr _ => ?_, fun hr _ => ?_⟩
  · rw [hwatch, hhandled, hawaited, hgone hg]
    exact (h.heard q).gone hg
  · rw [hwatch, hhandled, hawaited, List.nil_append, after_append, hsnapshot hr]
    exact (h.heard q).there hr
  · rw [hhandled, hawaited]
    exact .inr (hcoming _ hr)
  · rw [hhandled, hawaited]
    exact .inr (hcoming _ hr)

theorem Early.next {w : World} {a : Act} (h : Early drives w) (ha : Daemon a)
    (he : enabled drives w a) : Early drives (next drives w a) := by
  obtain ⟨-, hhandling, hwatchers⟩ := monitor_next drives w ha
  refine ⟨hwatchers.trans h.watchers, hhandling.trans h.handling, fun q => ?_⟩
  rw [awaited_next w q ha]
  exact (h.heard q).next (fun _ => after_ne_true (by simp) _) (daemon_change ha he q)

theorem inv_daemon {w : World} {a : Act} (hw : Inv drives w) (ha : Daemon a)
    (he : enabled drives w a) (hn : Noticed drives w a) : Inv drives (next drives w a) := by
  have hphase := (monitor_next drives w ha).1
  refine ⟨typed_next ha he hw.typed, fun hp => ?_, fun hp hf q => ?_⟩
  · rw [hphase] at hp
    exact (hw.early hp).next ha he
  · rw [hphase] at hp hf
    exact (hw.kept hp hf q).daemon ha he hn (hw.typed q) hp

theorem inv_scanNext {w : World} (hw : Inv drives w) (he : (system drives).enabled w .scanNext) :
    Inv drives ((system drives).next w .scanNext) := by
  obtain ⟨hh, rest, hphase⟩ := he
  have hk := hw.kept (by rw [hphase]; rintro ⟨⟩) (by rw [hphase]; rintro ⟨⟩)
  simp only [system, next, hphase]
  cases rest with
  | nil =>
      refine ⟨hw.typed, by rintro ⟨⟩, fun _ _ q => ?_⟩
      have hawaited : awaited drives w q = awaited drives { w with phase := .running } q := by
        rw [awaited, awaited, hphase]
        rfl
      obtain ⟨hheard, husage, hfilesystem⟩ := hk q
      rw [hawaited] at hheard husage hfilesystem
      exact ⟨hheard.congr rfl rfl, husage, hfilesystem⟩
  | cons e rest =>
      refine ⟨hw.typed, by rintro ⟨⟩, fun _ _ q => ?_⟩
      refine (hk q).begins rfl rfl rfl hh rfl ?_ (hw.typed q)
      rw [awaited, hphase, scanned, List.map_cons, List.cons_append, List.filterMap_cons, awaited,
        scanned]
      change _ = (signal drives q (announce e)).toList ++ _
      cases signal drives q (announce e) <;> rfl

theorem inv_deliver {w : World} (hw : Inv drives w) (he : (system drives).enabled w .deliver) :
    Inv drives ((system drives).next w .deliver) := by
  obtain ⟨hh, hphase, hbus⟩ := he
  have hk := hw.kept (by rw [hphase]; rintro ⟨⟩) (by rw [hphase]; rintro ⟨⟩)
  simp only [system, next]
  cases hb : w.bus with
  | nil => exact absurd hb hbus
  | cons m bus =>
      refine ⟨hw.typed, fun hp => ?_, fun _ _ q => ?_⟩
      · cases hphase.symm.trans hp
      · refine (hk q).begins rfl rfl rfl hh rfl ?_ (hw.typed q)
        simp only [awaited, hphase, scanned, hb, List.nil_append, List.filterMap_cons]
        cases signal drives q m <;> rfl

theorem inv_finish {w : World} {callback : CallbackResult} (hw : Inv drives w)
    (he : (system drives).enabled w (.finish callback)) :
    Inv drives ((system drives).next w (.finish callback)) := by
  obtain ⟨m, block, filesystem, hh⟩ := he
  simp only [system, next, hh]
  refine ⟨hw.typed, fun hp => ?_, fun hp hf q => ?_⟩
  · have hphase := scanned_thrown _ fun hfailed => by cases hp.symm.trans hfailed
    cases (hw.early (hphase.symm.trans hp)).handling.symm.trans hh
  · have hphase := scanned_thrown _ hf
    rw [hphase] at hp hf
    refine (hw.kept hp hf q).finish (handled_of_some hh q) ?_ rfl rfl rfl rfl ?_
    · rw [Sees, hh, isSome_report_iff, isSome_report_iff]
      rfl
    · rw [awaited, awaited, hphase]

theorem inv_next (w : World) (a : Act) (hw : Inv drives w) (he : (system drives).enabled w a)
    (hn : Noticed drives w a) : Inv drives ((system drives).next w a) := by
  cases a with
  | exports path interfaces =>
      have ha : Daemon (.exports path interfaces) := trivial
      exact inv_daemon hw ha he hn
  | withdraws path interfaces =>
      have ha : Daemon (.withdraws path interfaces) := trivial
      exact inv_daemon hw ha he hn
  | changes path interfaceName changed sent =>
      have ha : Daemon (.changes path interfaceName changed sent) := trivial
      exact inv_daemon hw ha he hn
  | getManagedObjects =>
      refine ⟨hw.typed, ?_, fun _ _ q => (hw.early he).kept he q⟩
      rintro ⟨⟩
  | scanNext => exact inv_scanNext hw he
  | deliver => exact inv_deliver hw he
  | readBlock =>
      obtain ⟨m, hh⟩ := he
      simp only [system, next, hh]
      refine ⟨hw.typed, fun hp => ?_, fun hp hf q => ?_⟩
      · cases (hw.early hp).handling.symm.trans hh
      · refine (hw.kept hp hf q).reads hh rfl fun hq => ?_
        rw [← hq]
        rfl
  | readFilesystem =>
      obtain ⟨m, block, hh⟩ := he
      simp only [system, next, hh]
      refine ⟨hw.typed, fun hp => ?_, fun hp hf q => ?_⟩
      · cases (hw.early hp).handling.symm.trans hh
      · refine (hw.kept hp hf q).reads hh rfl fun hq => ?_
        rw [← hq]
        rfl
  | finish callback => exact inv_finish hw he

theorem inv_start {daemon : Objects PropertyMap}
    (hd : ∀ q p, lookup daemon q kBlockInterface = some p → Typed p) : Inv drives (start daemon) := by
  refine ⟨hd, fun _ => ⟨rfl, rfl, fun q => ⟨fun _ => rfl, fun _ => .inr rfl⟩⟩, fun hp => ?_⟩
  exact absurd rfl hp

/-- In a run in which each Filesystem interface that is added alone is noticed,
once all signals have been handled the devices that are ready have been reported. -/
theorem ready_devices_reported (drives : String → Option PropertyMap) (daemon : Objects PropertyMap)
    (as : List Act) (hd : ∀ q p, lookup daemon q kBlockInterface = some p → Typed p)
    (hv : (system drives).Valid (start daemon) as)
    (hn : (system drives).Along (Noticed drives) (start daemon) as)
    (hs : Settled ((system drives).after (start daemon) as)) (q : String)
    (hr : OnRemovable drives ((system drives).after (start daemon) as) q)
    (hready : Ready ((system drives).after (start daemon) as) q) :
    ((system drives).after (start daemon) as).reported q = true := by
  obtain ⟨hh, hphase, hbus⟩ := hs
  have hinv := (system drives).invariant_along inv_next (inv_start hd) hv hn
  have hk := hinv.kept (by rw [hphase]; rintro ⟨⟩) (by rw [hphase]; rintro ⟨⟩) q
  have hnone (p : Prop) (l : Watch) : ¬ Coming p l
      (handled drives ((system drives).after (start daemon) as) q)
      (awaited drives ((system drives).after (start daemon) as) q) := by
    rw [handled_of_none hh, awaited, hphase, hbus]
    rintro (⟨-, hc⟩ | hc)
    · exact hc
    · exact hc
  rcases hready with hu | hf
  · exact (hk.usage hr hu).resolve_right (hnone _ _)
  · exact (hk.filesystem hr hf).resolve_right (hnone _ _)

end

def sda1 : String := "/org/freedesktop/UDisks2/block_devices/sda1"

def usbDrives (_ : String) : Option PropertyMap :=
  some (.ofList [("Removable", Variant.plain (.b true))])

def blankProperties : PropertyMap :=
  .ofList [("Drive", Variant.plain (.o "/org/freedesktop/UDisks2/drives/stick")),
    ("IdUsage", Variant.plain (.s ""))]

def blankStick : Interfaces := .ofList [(kBlockInterface, blankProperties)]

def newFilesystem : Interfaces := .ofList [(kFilesystemInterface, (∅ : PropertyMap))]

def handles : List Act := [.deliver, .readBlock, .readFilesystem, .finish .returns]

/-- A stick without a filesystem is plugged in and found not to be ready. -/
def plugged : List Act := [.getManagedObjects, .scanNext, .exports sda1 blankStick] ++ handles

theorem plugged_valid (as : List Act)
    (h : (system usbDrives).Valid ((system usbDrives).after (start ∅) plugged) as) :
    (system usbDrives).Valid (start ∅) (plugged ++ as) := by
  refine ((system usbDrives).valid_append (start ∅) plugged as).2 ⟨?_, h⟩
  refine ⟨rfl, ⟨rfl, [], rfl⟩, fun blockProps hb => ?_, ⟨rfl, rfl, List.cons_ne_nil _ _⟩, ⟨_, rfl⟩,
    ⟨_, _, rfl⟩, ⟨_, _, _, rfl⟩, trivial⟩
  obtain rfl : blankProperties = blockProps := Option.some.inj hb
  refine ⟨by decide, ?_, ?_⟩
  · rintro ⟨⟩
  · rintro ⟨⟩

/-- The stick is formatted, and the monitor hears of the new type only then. -/
def formatted : List Act :=
  [.changes sda1 kBlockInterface (.ofList [("IdType", Variant.plain (.s "vfat"))]) true,
    .exports sda1 newFilesystem] ++ handles ++ handles

theorem ready_devices_reported_formatted :
    ((system usbDrives).after (start ∅) (plugged ++ formatted)).reported sda1 = true := by
  apply ready_devices_reported usbDrives ∅ (plugged ++ formatted)
  · rintro q p ⟨⟩
  · apply plugged_valid
    refine ⟨⟨fun _ => ⟨by decide, by rintro ⟨⟩⟩, fun _ => rfl⟩, by rintro blockProps ⟨⟩,
      ⟨rfl, rfl, List.cons_ne_nil _ _⟩, ⟨_, rfl⟩, ⟨_, _, rfl⟩, ⟨_, _, _, rfl⟩,
      ⟨rfl, rfl, List.cons_ne_nil _ _⟩, ⟨_, rfl⟩, ⟨_, _, rfl⟩, ⟨_, _, _, rfl⟩, trivial⟩
  · -- the change of the type has still to be handled when the interface appears
    have hchecked : Checked (some false) [.changes] := .inl trivial
    refine ⟨trivial, trivial, ?_, trivial, trivial, trivial, trivial, trivial,
      fun _ _ _ => .inr (.inr (.inr hchecked)), trivial, trivial, trivial, trivial, trivial, trivial,
      trivial, trivial, trivial⟩
    rintro ⟨⟩
  · exact ⟨rfl, rfl, rfl⟩
  · exact ⟨_, _, rfl, rfl, by decide, rfl⟩
  · exact .inr ⟨_, rfl⟩

/-- The Filesystem interface appears after the check, and nothing else changes. -/
theorem late_filesystem_not_reported :
    ¬ ∀ (drives : String → Option PropertyMap) (daemon : Objects PropertyMap) (as : List Act),
      (∀ q p, lookup daemon q kBlockInterface = some p → Typed p) →
        (system drives).Valid (start daemon) as →
        Settled ((system drives).after (start daemon) as) →
        ∀ q, OnRemovable drives ((system drives).after (start daemon) as) q →
          Ready ((system drives).after (start daemon) as) q →
          ((system drives).after (start daemon) as).reported q = true := by
  intro h
  have hvalid : (system usbDrives).Valid (start ∅)
      (plugged ++ [.exports sda1 newFilesystem] ++ handles) := by
    apply plugged_valid
    exact ⟨by rintro blockProps ⟨⟩, ⟨rfl, rfl, List.cons_ne_nil _ _⟩, ⟨_, rfl⟩, ⟨_, _, rfl⟩,
      ⟨_, _, _, rfl⟩, trivial⟩
  have hreported := h usbDrives ∅ (plugged ++ [.exports sda1 newFilesystem] ++ handles)
    (by rintro q p ⟨⟩) hvalid ⟨rfl, rfl, rfl⟩ sda1 ⟨_, _, rfl, rfl, by decide, rfl⟩ (.inr ⟨_, rfl⟩)
  cases hreported

end SdbusExamples.RemovableReadiness
