import SdbusExamples.Variants
import SdbusExamples.PathMaps

namespace SdbusExamples.RemovableMonitor

open Variants

inductive CallbackResult
  | returns
  | throwsStd
  | throwsOther
deriving DecidableEq

structure Watcher where
  drivePath : String
  reported : Bool

/-- What the callback gets; `none` stands for an interface that did not answer,
for which it gets an empty map. -/
structure Report where
  objectPath : String
  blockProperties : PropertyMap
  driveProperties : Option PropertyMap
  filesystemProperties : Option PropertyMap

/-- The results of the calls of GetAll in checkAndReportIfReady, `none` for an
sdbus::Error, and of the callback. -/
structure Replies where
  block : Option PropertyMap
  filesystem : Option PropertyMap
  drive : Option PropertyMap
  callback : CallbackResult

/-- `none` when get() throws. -/
def idUsage (blockProps : PropertyMap) : Option String :=
  match blockProps["IdUsage"]? with
  | some value => value.getString
  | none => some ""

def drivePath (blockProps : PropertyMap) : Option String :=
  match blockProps["Drive"]? with
  | some value => value.getObjectPath
  | none => some "/"

def isRemovable (driveProps : PropertyMap) : Option Bool :=
  match driveProps["Removable"]? with
  | some value => value.getBool
  | none => some false

def report (objectPath : String) (r : Replies) : Option Report := do
  let blockProps ← r.block
  let usage ← idUsage blockProps
  if usage = "filesystem" ∨ r.filesystem.isSome then
    some ⟨objectPath, blockProps, r.drive, r.filesystem⟩
  else none

/-- The flag is false when an exception leaves the function: of those of the
callback std::exception is caught. -/
def checkAndReportIfReady (objectPath : String) (w : Watcher) (r : Replies) :
    Watcher × Option Report × Bool :=
  if w.reported then (w, none, true)
  else
    match report objectPath r with
    | some report => ({ w with reported := true }, some report, decide (r.callback ≠ .throwsOther))
    | none => (w, none, true)

def Watcher.onPropertiesChanged (objectPath : String) (w : Watcher) (interfaceName : String)
    (changedProperties : PropertyMap) (r : Replies) : Watcher × Option Report × Bool :=
  if interfaceName = "org.freedesktop.UDisks2.Block" ∧ w.reported = false ∧
      ("IdUsage" ∈ changedProperties ∨ "IdType" ∈ changedProperties) then
    checkAndReportIfReady objectPath w r
  else (w, none, true)

abbrev Watchers := Std.ExtTreeMap String Watcher

inductive Admission
  | passedOver
  | throws
  | removable (drive : String)

/-- `drives` gives the results of GetAll on the drives; an exception of that
call, or of a Removable of a wrong type, is caught. -/
def admission (interfacesAndProperties : Interfaces) (drives : String → Option PropertyMap) :
    Admission :=
  match interfacesAndProperties["org.freedesktop.UDisks2.Block"]? with
  | none => .passedOver
  | some blockProps =>
      match drivePath blockProps with
      | none => .throws
      | some drive =>
          if drive = "/" then .passedOver
          else
            match (drives drive).bind isRemovable with
            | some true => .removable drive
            | _ => .passedOver

/-- A watcher whose constructor throws is not stored. -/
def addWatcher (watchers : Watchers) (objectPath drive : String) (r : Replies) :
    Watchers × Option Report × Bool :=
  match checkAndReportIfReady objectPath ⟨drive, false⟩ r with
  | (watcher, report, true) => (watchers.insert objectPath watcher, report, true)
  | (_, report, false) => (watchers, report, false)

def onInterfacesAdded (watchers : Watchers) (objectPath : String)
    (interfacesAndProperties : Interfaces) (drives : String → Option PropertyMap) (r : Replies) :
    Watchers × Option Report × Bool :=
  match admission interfacesAndProperties drives with
  | .passedOver => (watchers, none, true)
  | .throws => (watchers, none, false)
  | .removable drive =>
      if objectPath ∈ watchers then (watchers, none, true)
      else addWatcher watchers objectPath drive r

def onInterfacesRemoved (watchers : Watchers) (objectPath : String) (interfaces : List String) :
    Watchers :=
  if "org.freedesktop.UDisks2.Block" ∈ interfaces then watchers.erase objectPath else watchers

def onPropertiesChanged (watchers : Watchers) (objectPath interfaceName : String)
    (changedProperties : PropertyMap) (r : Replies) : Watchers × Option Report × Bool :=
  match watchers[objectPath]? with
  | some w =>
      let (w, report, returns) := w.onPropertiesChanged objectPath interfaceName changedProperties r
      (watchers.insert objectPath w, report, returns)
  | none => (watchers, none, true)

theorem check_cases (objectPath : String) (w : Watcher) (r : Replies) :
    (∃ rep, w.reported = false ∧ report objectPath r = some rep ∧
        checkAndReportIfReady objectPath w r =
          ({ w with reported := true }, some rep, decide (r.callback ≠ .throwsOther))) ∨
      (w.reported = true ∨ report objectPath r = none) ∧
        checkAndReportIfReady objectPath w r = (w, none, true) := by
  rw [checkAndReportIfReady]
  cases hw : w.reported with
  | true => exact .inr ⟨.inl rfl, rfl⟩
  | false =>
      cases hr : report objectPath r with
      | some rep => exact .inl ⟨rep, rfl, rfl, rfl⟩
      | none => exact .inr ⟨.inr rfl, rfl⟩

theorem admission_removable {interfacesAndProperties : Interfaces}
    {drives : String → Option PropertyMap} {drive : String}
    (h : admission interfacesAndProperties drives = .removable drive) :
    drive ≠ "/" ∧ ∃ driveProperties, drives drive = some driveProperties ∧
      isRemovable driveProperties = some true := by
  unfold admission at h
  split at h
  · cases h
  · split at h
    · cases h
    · split_ifs at h with hdrive
      split at h
      · rename_i hremovable
        cases h
        exact ⟨hdrive, Option.bind_eq_some_iff.1 hremovable⟩
      · cases h

theorem admission_of_removable {interfacesAndProperties : Interfaces} {blockProps : PropertyMap}
    {drive : String} {drives : String → Option PropertyMap}
    (hb : interfacesAndProperties["org.freedesktop.UDisks2.Block"]? = some blockProps)
    (hd : drivePath blockProps = some drive) (hne : drive ≠ "/")
    (hr : (drives drive).bind isRemovable = some true) :
    admission interfacesAndProperties drives = .removable drive := by
  unfold admission
  simp only [hb, hd, if_neg hne, hr]

theorem report_objectPath {objectPath : String} {r : Replies} {rep : Report}
    (h : report objectPath r = some rep) : rep.objectPath = objectPath := by
  obtain ⟨blockProps, -, h⟩ := Option.bind_eq_some_iff.1 h
  obtain ⟨usage, -, h⟩ := Option.bind_eq_some_iff.1 h
  split_ifs at h
  obtain rfl := Option.some.inj h
  rfl

theorem isSome_report_iff (objectPath : String) (r : Replies) :
    (report objectPath r).isSome = true ↔
      ∃ blockProps usage, r.block = some blockProps ∧ idUsage blockProps = some usage ∧
        (usage = "filesystem" ∨ r.filesystem.isSome = true) := by
  rw [report]
  constructor
  · intro h
    obtain ⟨rep, h⟩ := Option.isSome_iff_exists.1 h
    obtain ⟨blockProps, hb, h⟩ := Option.bind_eq_some_iff.1 h
    obtain ⟨usage, hu, h⟩ := Option.bind_eq_some_iff.1 h
    split_ifs at h with hready
    exact ⟨blockProps, usage, hb, hu, hready⟩
  · rintro ⟨blockProps, usage, hb, hu, hready⟩
    simp only [hb, hu, Option.bind_eq_bind, Option.bind_some, if_pos hready, Option.isSome_some]

end SdbusExamples.RemovableMonitor
