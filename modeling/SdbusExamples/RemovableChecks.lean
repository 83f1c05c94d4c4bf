import SdbusExamples.RemovableChanges

namespace SdbusExamples.RemovableChecks

open RecheckLatch RemovableChanges RemovableHandlers RemovableMonitor RemovableRuns SnapshotScans
  Variants
open ExportedObjects (Objects Exported lookup)

variable {drives : String → Option PropertyMap}

def SeesUsage (w : World) (q : String) : Prop :=
  (replies w.daemon q w.handling).block.bind idUsage = some "filesystem"

def Sees (w : World) (q : String) : Prop :=
  (report q (replies w.daemon q w.handling)).isSome = true

theorem sees_of_usage {w : World} {q : String} (h : SeesUsage w q) : Sees w q := by
  obtain ⟨blockProps, hb, hu⟩ := Option.bind_eq_some_iff.1 h
  exact (isSome_report_iff _ _).2 ⟨blockProps, "filesystem", hb, hu, .inl rfl⟩

/-- A device on a removable drive is watched, and if it is ready for one reason
or the other it was reported, or a check is still to come that sees the reason. -/
structure Kept (drives : String → Option PropertyMap) (w : World) (q : String) : Prop where
  heard : Heard drives w q (watch w q) (watch w q) (handled drives w q ++ awaited drives w q)
  usage : OnRemovable drives w q →
    (lookup w.daemon q kBlockInterface).bind idUsage = some "filesystem" →
      w.reported q = true ∨
        Coming (SeesUsage w q) (watch w q) (handled drives w q) (awaited drives w q)
  filesystem : OnRemovable drives w q → Exported w.daemon q kFilesystemInterface →
    w.reported q = true ∨ Coming (Sees w q) (watch w q) (handled drives w q) (awaited drives w q)

theorem replies_block {daemon daemon' : Objects PropertyMap} {q : String}
    (h : lookup daemon' q kBlockInterface = lookup daemon q kBlockInterface)
    (handling : Option Handling) :
    (replies daemon' q handling).block = (replies daemon q handling).block := by
  rcases handling with _ | _ | _ | _
  · exact h
  · exact h
  · rfl
  · rfl

theorem replies_filesystem {daemon daemon' : Objects PropertyMap} {q : String}
    (h : Exported daemon' q kFilesystemInterface) (handling : Option Handling)
    (hf : (replies daemon q handling).filesystem.isSome = true) :
    (replies daemon' q handling).filesystem.isSome = true := by
  rcases handling with _ | _ | _ | _
  · exact Option.isSome_iff_exists.2 h
  · exact Option.isSome_iff_exists.2 h
  · exact Option.isSome_iff_exists.2 h
  · exact hf

theorem sees_of_block {w w' : World} {q : String} (hh : w'.handling = w.handling)
    (hb : lookup w'.daemon q kBlockInterface = lookup w.daemon q kBlockInterface)
    (hf : Exported w'.daemon q kFilesystemInterface) (h : Sees w q) : Sees w' q := by
  rw [Sees, isSome_report_iff] at h ⊢
  rw [hh, replies_block hb]
  obtain ⟨blockProps, usage, hblock, husage, hready⟩ := h
  exact ⟨blockProps, usage, hblock, husage,
    hready.imp_right (replies_filesystem hf w.handling)⟩

theorem after_of_not_watched {w : World} {q : String} (h : ¬ Watched drives w q) :
    after (watch w q) (handled drives w q) = none := by
  have hnone : watch w q = none := by
    rw [watch, Std.ExtTreeMap.getElem?_eq_none fun hmem => h (.inl hmem), Option.map_none]
  rw [hnone, handled]
  cases hh : w.handling with
  | none => rfl
  | some handling =>
      rw [Option.bind_some]
      cases hm : handling.message with
      | interfacesAdded path interfaces =>
          simp only [signal]
          split_ifs with hq
          · subst hq
            cases ha : admission interfaces drives with
            | removable drive =>
                exact absurd (.inr ⟨handling, interfaces, drive, hh, hm, ha⟩) h
            | passedOver => rfl
            | throws => rfl
          · rfl
      | interfacesRemoved path interfaces =>
          simp only [signal]
          split_ifs <;> rfl
      | propertiesChanged path interfaceName changed =>
          simp only [signal]
          split_ifs <;> rfl

theorem watch_next (w : World) (q : String) {a : Act} (ha : Daemon a) :
    watch (next drives w a) q = watch w q := by
  rw [watch, (monitor_next drives w ha).2.2, watch]

theorem handled_next (w : World) (q : String) {a : Act} (ha : Daemon a) :
    handled drives (next drives w a) q = handled drives w q := by
  rw [handled, (monitor_next drives w ha).2.1, handled]

theorem seesUsage_of_changes {w w' : World} {q : String} {old changed : PropertyMap}
    (hh : w'.handling = w.handling) (hold : lookup w.daemon q kBlockInterface = some old)
    (hnew : lookup w'.daemon q kBlockInterface = some (old ∪ changed))
    (hu : "IdUsage" ∉ changed) (h : SeesUsage w q) : SeesUsage w' q := by
  have hsame : (lookup w'.daemon q kBlockInterface).bind idUsage =
      (lookup w.daemon q kBlockInterface).bind idUsage := by
    rw [hnew, hold, Option.bind_some, Option.bind_some, idUsage_union, if_neg hu]
  rw [SeesUsage] at h ⊢
  rw [hh]
  generalize w.handling = handling at h
  rcases handling with _ | _ | _ | _
  · exact hsame.trans h
  · exact hsame.trans h
  · exact h
  · exact h

theorem sees_of_changes {w w' : World} {q : String} {p : PropertyMap}
    (hh : w'.handling = w.handling) (hnew : lookup w'.daemon q kBlockInterface = some p)
    (htyped : idUsage p ≠ none)
    (hf : lookup w'.daemon q kFilesystemInterface = lookup w.daemon q kFilesystemInterface)
    (hexported : Exported w'.daemon q kFilesystemInterface) (h : Sees w q) : Sees w' q := by
  -- the properties that are read now have a usage, whatever it is
  have hnow : ∀ r : Replies, r.block = lookup w'.daemon q kBlockInterface →
      r.filesystem = lookup w'.daemon q kFilesystemInterface → (report q r).isSome = true := by
    intro r hb hr
    obtain ⟨usage, husage⟩ := Option.ne_none_iff_exists'.1 htyped
    refine (isSome_report_iff q r).2 ⟨p, usage, hb.trans hnew, husage, .inr ?_⟩
    rw [hr]
    exact Option.isSome_iff_exists.2 hexported
  rw [Sees] at h ⊢
  rw [hh]
  generalize w.handling = handling at h
  rcases handling with _ | _ | _ | _
  · exact hnow _ rfl rfl
  · exact hnow _ rfl rfl
  · rw [isSome_report_iff] at h ⊢
    simp only [replies, hf] at h ⊢
    exact h
  · exact h

theorem Kept.coming_of_appears {w : World} {q : String} (hk : Kept drives w q)
    (h : ¬ Exported w.daemon q kBlockInterface) {p : Prop} :
    Coming p (watch w q) (handled drives w q) (awaited drives w q ++ [.appears]) := by
  have hgone := hk.heard.gone h
  rw [after_append] at hgone
  exact .inr (checked_appears hgone)

theorem Kept.usage_next {w : World} {a : Act} {q : String} {more : List Signal}
    (hk : Kept drives w q) (ha : Daemon a) (hc : Change drives w a q more)
    (hr : OnRemovable drives (next drives w a) q)
    (hu : (lookup (next drives w a).daemon q kBlockInterface).bind idUsage = some "filesystem") :
    (next drives w a).reported q = true ∨
      Coming (SeesUsage (next drives w a) q) (watch w q) (handled drives w q)
        (awaited drives w q ++ more) := by
  have hh := (monitor_next drives w ha).2.1
  cases hc with
  | appears more habsent hpresent hss =>
      rw [hss hr]
      exact .inr (hk.coming_of_appears habsent)
  | vanishes habsent => exact absurd (exported_of_removable hr) habsent
  | changes more old changed hold hnew hdrive htyped hfilesystem hreported hss =>
      have hr' := onRemovable_of_changes hold hnew hdrive hr
      have hthere := hk.heard.there hr'
      rw [after_append] at hthere
      rw [hreported]
      rcases hss with rfl | ⟨rfl, hss⟩
      · exact hthere.imp_right fun hl => .inr (checked_changes hl)
      · rw [List.append_nil]
        by_cases husage : "IdUsage" ∈ changed
        · -- nobody listens, so the device is still to get its watch
          have hnone := after_of_not_watched (hss.resolve_left (not_not.2 husage))
          rw [hnone] at hthere
          refine hthere.imp_right fun hl => .inr ?_
          rw [hnone]
          exact checked_of_after (by rw [hl]; exact Option.some_ne_none _)
        · rw [hnew, Option.bind_some, idUsage_union, if_neg husage] at hu
          refine (hk.usage hr' (by rw [hold]; exact hu)).imp_right fun hcoming => ?_
          exact hcoming.mono (seesUsage_of_changes hh hold hnew husage)
  | stays hblock hfilesystem hreported =>
      rw [hreported, List.append_nil]
      rw [hblock] at hu
      refine (hk.usage ((onRemovable_congr hblock).1 hr) hu).imp_right fun hcoming => ?_
      refine hcoming.mono fun hs => ?_
      rw [SeesUsage, hh, replies_block hblock]
      exact hs

theorem Kept.filesystem_next {w : World} {a : Act} {q : String} {more : List Signal}
    (hk : Kept drives w q) (ha : Daemon a) (hc : Change drives w a q more)
    (htyped : ∀ blockProps, lookup w.daemon q kBlockInterface = some blockProps → Typed blockProps)
    (hphase : w.phase ≠ .registered) (hn : Noticed drives w a)
    (hr : OnRemovable drives (next drives w a) q)
    (hf : Exported (next drives w a).daemon q kFilesystemInterface) :
    (next drives w a).reported q = true ∨
      Coming (Sees (next drives w a) q) (watch w q) (handled drives w q)
        (awaited drives w q ++ more) := by
  have hh := (monitor_next drives w ha).2.1
  cases hc with
  | appears more habsent hpresent hss =>
      rw [hss hr]
      exact .inr (hk.coming_of_appears habsent)
  | vanishes habsent => exact absurd (exported_of_removable hr) habsent
  | changes more old changed hold hnew hdrive hchanged hfilesystem hreported hss =>
      rw [hreported]
      have husage : idUsage (old ∪ changed) ≠ none := by
        rw [idUsage_union]
        split_ifs
        · exact hchanged
        · exact (htyped old hold).1
      refine (hk.filesystem (onRemovable_of_changes hold hnew hdrive hr)
        ((exported_congr hfilesystem).1 hf)).imp_right fun hcoming => ?_
      exact (hcoming.mono (sees_of_changes hh hnew husage hfilesystem hf)).append more
  | stays hblock hfilesystem hreported =>
      have hr' := (onRemovable_congr hblock).1 hr
      have hsees : Sees w q → Sees (next drives w a) q := sees_of_block hh hblock hf
      rw [hreported, List.append_nil]
      by_cases hready : Ready w q
      · rcases hready with hu | hf'
        · exact (hk.usage hr' hu).imp_right fun hcoming =>
            hcoming.mono fun hs => hsees (sees_of_usage hs)
        · exact (hk.filesystem hr' hf').imp_right fun hcoming => hcoming.mono hsees
      · rcases hfilesystem hf with hf' | ⟨interfaces, rfl, hmem⟩
        · exact absurd (.inr hf') hready
        · exact (hn hmem hr' hready).resolve_left hphase

theorem Kept.daemon {w : World} {a : Act} {q : String} (hk : Kept drives w q) (ha : Daemon a)
    (he : enabled drives w a) (hn : Noticed drives w a)
    (htyped : ∀ blockProps, lookup w.daemon q kBlockInterface = some blockProps → Typed blockProps)
    (hphase : w.phase ≠ .registered) : Kept drives (next drives w a) q := by
  have hc := daemon_change ha he q
  refine ⟨?_, ?_, ?_⟩
  · rw [watch_next w q ha, handled_next w q ha, awaited_next w q ha, ← List.append_assoc]
    exact hk.heard.next (fun hnone => by rw [hnone]; exact (Option.some_ne_none _).symm) hc
  · rw [watch_next w q ha, handled_next w q ha, awaited_next w q ha]
    exact hk.usage_next ha hc
  · rw [watch_next w q ha, handled_next w q ha, awaited_next w q ha]
    exact hk.filesystem_next ha hc htyped hphase hn

theorem handled_of_none {w : World} (h : w.handling = none) (q : String) :
    handled drives w q = [] := by
  rw [handled, h]
  rfl

theorem handled_of_some {w : World} {handling : Handling} (h : w.handling = some handling)
    (q : String) : handled drives w q = (signal drives q handling.message).toList := by
  rw [handled, h]
  rfl

theorem Kept.begins {w w' : World} {q : String} {m : Message} (hk : Kept drives w q)
    (hd : w'.daemon = w.daemon) (hw : w'.watchers = w.watchers) (hr : w'.reported = w.reported)
    (hh : w.handling = none) (hh' : w'.handling = some (.started m))
    (ha : awaited drives w q = (signal drives q m).toList ++ awaited drives w' q)
    (htyped : ∀ blockProps, lookup w.daemon q kBlockInterface = some blockProps → Typed blockProps) :
    Kept drives w' q := by
  have hwatch : watch w' q = watch w q := by rw [watch, hw, watch]
  have hhandled : handled drives w' q = (signal drives q m).toList := handled_of_some hh' q
  obtain ⟨hheard, husage, hfilesystem⟩ := hk
  rw [handled_of_none hh q, ha] at hheard husage hfilesystem
  refine ⟨?_, fun ho hu => ?_, fun ho hf => ?_⟩
  · rw [hwatch, hhandled]
    exact hheard.congr hd (congrFun hr q)
  · rw [OnRemovable, hd] at ho
    rw [hd] at hu
    have hsees : SeesUsage w' q := by
      rw [SeesUsage, hh', hd]
      exact hu
    rw [hwatch, hhandled, hr]
    exact (husage ho hu).imp_right (Coming.begins hsees)
  · rw [OnRemovable, hd] at ho
    rw [hd] at hf
    have hsees : Sees w' q := by
      obtain ⟨blockProps, -, hb, -⟩ := ho
      obtain ⟨usage, hu⟩ := Option.ne_none_iff_exists'.1 (htyped blockProps hb).1
      rw [Sees, hh', hd]
      exact (isSome_report_iff _ _).2 ⟨blockProps, usage, hb, hu, .inr (Option.isSome_iff_exists.2 hf)⟩
    rw [hwatch, hhandled, hr]
    exact (hfilesystem ho hf).imp_right (Coming.begins hsees)

theorem Kept.reads {w : World} {q : String} {handling handling' : Handling} (hk : Kept drives w q)
    (hh : w.handling = some handling) (hm : handling'.message = handling.message)
    (hreplies : handling.message.objectPath = q →
      replies w.daemon q (some handling') = replies w.daemon q (some handling)) :
    Kept drives { w with handling := some handling' } q := by
  have hhandled : handled drives { w with handling := some handling' } q = handled drives w q := by
    rw [handled_of_some hh, ← hm]
    exact handled_of_some rfl q
  have hcoming {p p' : Prop} (hp : handling.message.objectPath = q → p → p')
      (hc : Coming p (watch w q) (handled drives w q) (awaited drives w q)) :
      Coming p' (watch w q) (handled drives w q) (awaited drives w q) := by
    by_cases hq : handling.message.objectPath = q
    · exact hc.mono (hp hq)
    · rw [handled_of_some hh, signal_of_ne hq] at hc ⊢
      exact hc.imp_left fun h => h.2.elim
  refine ⟨?_, fun ho hu => ?_, fun ho hf => ?_⟩
  · rw [hhandled]
    exact hk.heard.congr rfl rfl
  · rw [hhandled]
    refine (hk.usage ho hu).imp_right (hcoming fun hq hs => ?_)
    rw [SeesUsage, hh] at hs
    rw [SeesUsage, hreplies hq]
    exact hs
  · rw [hhandled]
    refine (hk.filesystem ho hf).imp_right (hcoming fun hq hs => ?_)
    rw [Sees, hh] at hs
    rw [Sees, hreplies hq]
    exact hs

theorem record_of_ne {q : String} {report : Option Report}
    (h : ∀ rep, report = some rep → rep.objectPath ≠ q) (reported : String → Bool) :
    record reported report q = reported q := by
  cases report with
  | none => rfl
  | some rep => exact Function.update_of_ne (Ne.symm (h rep rfl)) _ _

theorem scanned_thrown {phase : Phase (String × Interfaces)} (returns : Bool)
    (h : (if returns then phase else thrown phase) ≠ .failed) :
    (if returns then phase else thrown phase) = phase := by
  cases returns with
  | true => rfl
  | false => cases phase <;> first | rfl | exact absurd rfl h

theorem Kept.finish {w w' : World} {q : String} {m : Message} {r : Replies} (hk : Kept drives w q)
    (hhandled : handled drives w q = (signal drives q m).toList)
    (hsees : Sees w q ↔ (report q r).isSome = true)
    (hd : w'.daemon = w.daemon) (hw : w'.watchers = (handle drives w.watchers r m).1)
    (hr : w'.reported = record w.reported (handle drives w.watchers r m).2.1)
    (hh : w'.handling = none) (ha : awaited drives w' q = awaited drives w q) :
    Kept drives w' q := by
  have hhandle : Handled q r (watch w q) (handled drives w q) (handle drives w.watchers r m) := by
    rw [hhandled]
    exact handle_handled w.watchers q r m
  have hwatch : watch w' q = (handle drives w.watchers r m).1[q]?.map Watcher.reported := by
    rw [watch, hw]
  rcases hhandle with ⟨⟨rep, hrep, rfl⟩, hmade⟩ | ⟨hother, hpasses, hquiet⟩
  · have hreported : w'.reported rep.objectPath = true := by
      rw [hr, hrep]
      exact Function.update_self _ _ _
    refine ⟨⟨fun hgone => ?_, fun _ => .inl hreported⟩, fun _ _ => .inl hreported,
      fun _ _ => .inl hreported⟩
    rw [hd] at hgone
    have hnone := hk.heard.gone hgone
    rw [after_append] at hnone
    rw [handled_of_none hh, ha, List.nil_append, hwatch]
    exact after_eq_none hmade hnone
  · have hreported : w'.reported q = w.reported q := by
      rw [hr, record_of_ne hother]
    rw [← hwatch] at hpasses
    refine ⟨?_, fun ho hu => ?_, fun ho hf => ?_⟩
    · rw [handled_of_none hh, ha, List.nil_append, hpasses]
      have hheard := hk.heard.congr hd hreported
      refine ⟨fun hg => ?_, fun ho => ?_⟩
      · rw [← after_append]
        exact hheard.gone hg
      · rw [← after_append]
        exact hheard.there ho
    · rw [OnRemovable, hd] at ho
      rw [hd] at hu
      rw [handled_of_none hh, ha, hpasses, hreported]
      refine (hk.usage ho hu).imp_right fun hc => hc.ends fun hs => ?_
      exact hquiet ⟨hsees.1 (sees_of_usage hs.1), hs.2⟩
    · rw [OnRemovable, hd] at ho
      rw [hd] at hf
      rw [handled_of_none hh, ha, hpasses, hreported]
      refine (hk.filesystem ho hf).imp_right fun hc => hc.ends fun hs => ?_
      exact hquiet ⟨hsees.1 hs.1, hs.2⟩

end SdbusExamples.RemovableChecks
