import SdbusExamples.ExportedObjects
import SdbusExamples.RecheckLatch
import SdbusExamples.RemovableMonitor
import SdbusExamples.Runs
import SdbusExamples.SnapshotScans

namespace SdbusExamples.RemovableRuns

open RecheckLatch RemovableMonitor Runs SnapshotScans Variants
open ExportedObjects (Objects Exported lookup)

abbrev kBlockInterface : String := "org.freedesktop.UDisks2.Block"

abbrev kFilesystemInterface : String := "org.freedesktop.UDisks2.Filesystem"

inductive Message
  | interfacesAdded (objectPath : String) (interfacesAndProperties : Interfaces)
  | interfacesRemoved (objectPath : String) (interfaces : List String)
  | propertiesChanged (objectPath interfaceName : String) (changedProperties : PropertyMap)

def Message.objectPath : Message → String
  | .interfacesAdded objectPath _ => objectPath
  | .interfacesRemoved objectPath _ => objectPath
  | .propertiesChanged objectPath _ _ => objectPath

/-- A handler with the replies that it has so far. One that makes no check has
no use for them. -/
inductive Handling
  | started (message : Message)
  | blockRead (message : Message) (block : Option PropertyMap)
  | filesystemRead (message : Message) (block filesystem : Option PropertyMap)

def Handling.message : Handling → Message
  | .started message => message
  | .blockRead message _ => message
  | .filesystemRead message _ _ => message

/-- `reported` tells whether the callback was called for the path since its
block appeared. -/
structure World where
  daemon : Objects PropertyMap
  bus : List Message
  phase : Phase (String × Interfaces)
  handling : Option Handling
  watchers : Watchers
  reported : String → Bool

inductive Act
  | exports (objectPath : String) (interfaces : Interfaces)
  | withdraws (objectPath : String) (interfaces : List String)
  | changes (objectPath interfaceName : String) (changedProperties : PropertyMap) (sent : Bool)
  | getManagedObjects
  | scanNext
  | deliver
  | readBlock
  | readFilesystem
  | finish (callback : CallbackResult)

section

variable (drives : String → Option PropertyMap)

/-- What the drive of the device answers when the device is ready. -/
def driveReply (watchers : Watchers) : Message → Option PropertyMap
  | .interfacesAdded _ interfacesAndProperties =>
      match admission interfacesAndProperties drives with
      | .removable drive => drives drive
      | _ => none
  | .interfacesRemoved _ _ => none
  | .propertiesChanged objectPath _ _ => watchers[objectPath]?.bind fun w => drives w.drivePath

def handle (watchers : Watchers) (r : Replies) : Message → Watchers × Option Report × Bool
  | .interfacesAdded objectPath interfacesAndProperties =>
      onInterfacesAdded watchers objectPath interfacesAndProperties drives r
  | .interfacesRemoved objectPath interfaces =>
      (onInterfacesRemoved watchers objectPath interfaces, none, true)
  | .propertiesChanged objectPath interfaceName changedProperties =>
      onPropertiesChanged watchers objectPath interfaceName changedProperties r

def record (reported : String → Bool) : Option Report → String → Bool
  | some report => Function.update reported report.objectPath true
  | none => reported

/-- An exception that leaves a handler ends the constructor in the scan; later
the library that has called the handler catches it. -/
def thrown : Phase (String × Interfaces) → Phase (String × Interfaces)
  | .scanning _ => .failed
  | phase => phase

def next (w : World) : Act → World
  | .exports objectPath interfaces =>
      { w with
        daemon := ExportedObjects.exports w.daemon objectPath interfaces
        bus := w.bus ++ [.interfacesAdded objectPath interfaces]
        reported := if kBlockInterface ∈ interfaces then Function.update w.reported objectPath false
          else w.reported }
  | .withdraws objectPath interfaces =>
      { w with
        daemon := ExportedObjects.withdraws w.daemon objectPath interfaces
        bus := w.bus ++ [.interfacesRemoved objectPath interfaces] }
  | .changes objectPath interfaceName changedProperties sent =>
      match lookup w.daemon objectPath interfaceName with
      | some properties =>
          { w with
            daemon := ExportedObjects.exports w.daemon objectPath
              ((∅ : Interfaces).insert interfaceName (properties ∪ changedProperties))
            bus := if sent then
                w.bus ++ [.propertiesChanged objectPath interfaceName changedProperties]
              else w.bus }
      | none => w
  | .getManagedObjects => { w with phase := .scanning w.daemon.toList }
  | .scanNext =>
      match w.phase with
      | .scanning ((objectPath, interfaces) :: rest) =>
          { w with
            phase := .scanning rest
            handling := some (.started (.interfacesAdded objectPath interfaces)) }
      | .scanning [] => { w with phase := .running }
      | _ => w
  | .deliver =>
      match w.bus with
      | message :: bus => { w with bus, handling := some (.started message) }
      | [] => w
  | .readBlock =>
      match w.handling with
      | some (.started message) =>
          { w with
            handling :=
              some (.blockRead message (lookup w.daemon message.objectPath kBlockInterface)) }
      | _ => w
  | .readFilesystem =>
      match w.handling with
      | some (.blockRead message block) =>
          { w with
            handling := some (.filesystemRead message block
              (lookup w.daemon message.objectPath kFilesystemInterface)) }
      | _ => w
  | .finish callback =>
      match w.handling with
      | some (.filesystemRead message block filesystem) =>
          let r : Replies := ⟨block, filesystem, driveReply drives w.watchers message, callback⟩
          let result := handle drives w.watchers r message
          { w with
            watchers := result.1
            handling := none
            reported := record w.reported result.2.1
            phase := if result.2.2 then w.phase else thrown w.phase }
      | _ => w

def Typed (blockProps : PropertyMap) : Prop :=
  idUsage blockProps ≠ none ∧ drivePath blockProps ≠ none

def Watched (w : World) (objectPath : String) : Prop :=
  objectPath ∈ w.watchers ∨ ∃ h interfaces drive, w.handling = some h ∧
    h.message = .interfacesAdded objectPath interfaces ∧
    admission interfaces drives = .removable drive

/-- A Block interface stays on its drive, and what appears or changes is typed.
A change is sent if a match rule asks for it. -/
def enabled (w : World) : Act → Prop
  | .exports objectPath interfaces =>
      ∀ blockProps, interfaces[kBlockInterface]? = some blockProps →
        ¬ Exported w.daemon objectPath kBlockInterface ∧ Typed blockProps
  | .withdraws _ _ => True
  | .changes objectPath interfaceName changedProperties sent =>
      (interfaceName = kBlockInterface →
        "Drive" ∉ changedProperties ∧ idUsage changedProperties ≠ none) ∧
        (Watched drives w objectPath → sent = true)
  | .getManagedObjects => w.phase = .registered
  | .scanNext => w.handling = none ∧ ∃ rest, w.phase = .scanning rest
  | .deliver => w.handling = none ∧ w.phase = .running ∧ w.bus ≠ []
  | .readBlock => ∃ message, w.handling = some (.started message)
  | .readFilesystem => ∃ message block, w.handling = some (.blockRead message block)
  | .finish _ => ∃ message block filesystem,
      w.handling = some (.filesystemRead message block filesystem)

def system : System World Act := ⟨enabled drives, next drives⟩

def start (daemon : Objects PropertyMap) : World :=
  ⟨daemon, [], .registered, none, ∅, fun _ => false⟩

def Settled (w : World) : Prop := w.handling = none ∧ w.phase = .running ∧ w.bus = []

def OnRemovable (w : World) (objectPath : String) : Prop :=
  ∃ blockProps drive, lookup w.daemon objectPath kBlockInterface = some blockProps ∧
    drivePath blockProps = some drive ∧ drive ≠ "/" ∧ (drives drive).bind isRemovable = some true

def Ready (w : World) (objectPath : String) : Prop :=
  (lookup w.daemon objectPath kBlockInterface).bind idUsage = some "filesystem" ∨
    Exported w.daemon objectPath kFilesystemInterface

/-- What the watcher of the path takes a message for. -/
def signal (objectPath : String) : Message → Option Signal
  | .interfacesAdded q interfacesAndProperties =>
      if q = objectPath then
        match admission interfacesAndProperties drives with
        | .removable _ => some .appears
        | _ => none
      else none
  | .interfacesRemoved q interfaces =>
      if q = objectPath ∧ kBlockInterface ∈ interfaces then some .vanishes else none
  | .propertiesChanged q interfaceName changedProperties =>
      if q = objectPath ∧ interfaceName = kBlockInterface ∧
          ("IdUsage" ∈ changedProperties ∨ "IdType" ∈ changedProperties) then some .changes
      else none

def watch (w : World) (objectPath : String) : Watch := w.watchers[objectPath]?.map Watcher.reported

def handled (w : World) (objectPath : String) : List Signal :=
  (w.handling.bind fun h => signal drives objectPath h.message).toList

def announce (e : String × Interfaces) : Message := .interfacesAdded e.1 e.2

def awaited (w : World) (objectPath : String) : List Signal :=
  (scanned announce w.phase ++ w.bus).filterMap (signal drives objectPath)

/-- The replies that a check of the device gets: those that are there and, for the
others, what UDisks2 answers now. -/
def replies (daemon : Objects PropertyMap) (objectPath : String) : Option Handling → Replies
  | some (.blockRead _ block) => ⟨block, lookup daemon objectPath kFilesystemInterface, none, .returns⟩
  | some (.filesystemRead _ block filesystem) => ⟨block, filesystem, none, .returns⟩
  | _ => ⟨lookup daemon objectPath kBlockInterface, lookup daemon objectPath kFilesystemInterface,
      none, .returns⟩

/-- A Filesystem interface that is added to a block which was not ready comes
before the scan, or the block was reported before, or the monitor is still to
check it: in the handler that is running, if it has not read the interface yet,
or because of a message that it has not handled. -/
def Noticed (w : World) : Act → Prop
  | .exports objectPath interfaces =>
      kFilesystemInterface ∈ interfaces → OnRemovable drives w objectPath → ¬ Ready w objectPath →
        w.phase = .registered ∨ w.reported objectPath = true ∨
          Coming ((report objectPath
              (replies (ExportedObjects.exports w.daemon objectPath interfaces) objectPath
                w.handling)).isSome = true)
            (watch w objectPath) (handled drives w objectPath) (awaited drives w objectPath)
  | _ => True

end

end SdbusExamples.RemovableRuns
