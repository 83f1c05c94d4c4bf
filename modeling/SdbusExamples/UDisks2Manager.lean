import SdbusExamples.ExportedObjects
import SdbusExamples.Runs

namespace SdbusExamples.UDisks2Manager

open ExportedObjects LatestEvents PathMaps Runs

inductive Store
  | blocks
  | drives
  | namespaces
  | nvmeControllers
  | partitionTables
  | partitions
  | filesystems
  | swapspaces
deriving DecidableEq

def Store.interfaceName : Store → String
  | .blocks => "org.freedesktop.UDisks2.Block"
  | .drives => "org.freedesktop.UDisks2.Drive"
  | .namespaces => "org.freedesktop.UDisks2.NVMe.Namespace"
  | .nvmeControllers => "org.freedesktop.UDisks2.NVMe.Controller"
  | .partitionTables => "org.freedesktop.UDisks2.PartitionTable"
  | .partitions => "org.freedesktop.UDisks2.Partition"
  | .filesystems => "org.freedesktop.UDisks2.Filesystem"
  | .swapspaces => "org.freedesktop.UDisks2.Swapspace"

inductive Member
  | store (k : Store)
  | managerNvme
  | none

def member : String → Member
  | "org.freedesktop.UDisks2.Manager" => .none
  | "org.freedesktop.UDisks2.Manager.NVMe" => .managerNvme
  | "org.freedesktop.UDisks2.Block" => .store .blocks
  | "org.freedesktop.UDisks2.Drive" => .store .drives
  | "org.freedesktop.UDisks2.NVMe.Namespace" => .store .namespaces
  | "org.freedesktop.UDisks2.NVMe.Controller" => .store .nvmeControllers
  | "org.freedesktop.UDisks2.PartitionTable" => .store .partitionTables
  | "org.freedesktop.UDisks2.Partition" => .store .partitions
  | "org.freedesktop.UDisks2.Filesystem" => .store .filesystems
  | "org.freedesktop.UDisks2.Swapspace" => .store .swapspaces
  | _ => .none

/-- The proxies keep nothing but their path. -/
structure Manager where
  stores : Store → Std.ExtTreeMap String Unit
  managerNvme : Option String

namespace Manager

def empty : Manager := ⟨fun _ => ∅, none⟩

def setStore (m : Manager) (k : Store) (s : Std.ExtTreeMap String Unit) : Manager :=
  { m with stores := Function.update m.stores k s }

/-- One round of the loop of onInterfacesAdded. `getAll` tells whether the call
in the constructor of the proxy returns, and the result whether the round does. -/
def addInterface (m : Manager) (getAll : Bool) (objectPath interface : String) : Manager × Bool :=
  match member interface with
  | .store k =>
      if objectPath ∈ m.stores k then (m, true)
      else if getAll then (m.setStore k ((m.stores k).insert objectPath ()), true)
      else (m, false)
  | .managerNvme => if getAll then ({ m with managerNvme := some objectPath }, true) else (m, false)
  | .none => (m, true)

def removeInterface (m : Manager) (objectPath interface : String) : Manager :=
  match member interface with
  | .store k => m.setStore k ((m.stores k).erase objectPath)
  | .managerNvme => { m with managerNvme := none }
  | .none => m

def onInterfacesRemoved (m : Manager) (objectPath : String) (interfaces : List String) : Manager :=
  interfaces.foldl (fun m interface => m.removeInterface objectPath interface) m

end Manager

inductive Message
  | added (objectPath : String) (interfaces : List String)
  | removed (objectPath : String) (interfaces : List String)

/-- What the manager is doing: `rest` and `current` are the rounds of the loop
of onInterfacesAdded that are still to come, in the scan of the constructor
and in the handler of a signal. -/
inductive Phase
  | registered
  | scanning (rest : List (String × String))
  | running (current : List (String × String))
  | failed

structure World where
  daemon : Objects Unit
  bus : List Message
  phase : Phase
  manager : Manager

inductive Act
  | exports (objectPath : String) (interfaces : Interfaces Unit)
  | withdraws (objectPath : String) (interfaces : List String)
  | getManagedObjects
  | addNext
  | deliver

def managedObjects (daemon : Objects Unit) : List (String × String) :=
  daemon.toList.flatMap fun e => e.2.keys.map (e.1, ·)

/-- GetAll fails if the interface is not exported any more. -/
def addInterface (w : World) (objectPath interface : String) : Manager × Bool :=
  w.manager.addInterface (decide (Exported w.daemon objectPath interface)) objectPath interface

/-- An exception ends the constructor in the scan. In the handler of a signal
it ends the handler, and the library that called it catches it. -/
def next (w : World) : Act → World
  | .exports objectPath interfaces =>
      { w with
        daemon := ExportedObjects.exports w.daemon objectPath interfaces
        bus := w.bus ++ [.added objectPath interfaces.keys] }
  | .withdraws objectPath interfaces =>
      { w with
        daemon := ExportedObjects.withdraws w.daemon objectPath interfaces
        bus := w.bus ++ [.removed objectPath interfaces] }
  | .getManagedObjects => { w with phase := .scanning (managedObjects w.daemon) }
  | .addNext =>
      match w.phase with
      | .scanning ((objectPath, interface) :: rest) =>
          match addInterface w objectPath interface with
          | (manager, true) => { w with manager, phase := .scanning rest }
          | (manager, false) => { w with manager, phase := .failed }
      | .scanning [] => { w with phase := .running [] }
      | .running ((objectPath, interface) :: rest) =>
          match addInterface w objectPath interface with
          | (manager, true) => { w with manager, phase := .running rest }
          | (manager, false) => { w with manager, phase := .running [] }
      | _ => w
  | .deliver =>
      match w.bus with
      | .added objectPath interfaces :: bus =>
          { w with bus, phase := .running (interfaces.map (objectPath, ·)) }
      | .removed objectPath interfaces :: bus =>
          { w with bus, manager := w.manager.onInterfacesRemoved objectPath interfaces }
      | [] => w

def enabled (w : World) : Act → Prop
  | .exports _ _ => True
  | .withdraws _ _ => True
  | .getManagedObjects => w.phase = .registered
  | .addNext => (∃ rest, w.phase = .scanning rest) ∨ ∃ e rest, w.phase = .running (e :: rest)
  | .deliver => w.phase = .running [] ∧ w.bus ≠ []

def system : System World Act := ⟨enabled, next⟩

def start (daemon : Objects Unit) : World := ⟨daemon, [], .registered, .empty⟩

def Settled (w : World) : Prop := w.phase = .running [] ∧ w.bus = []

def Converged (w : World) : Prop :=
  ∀ (k : Store) (q : String), q ∈ w.manager.stores k ↔ Exported w.daemon q k.interfaceName

def signals : Message → List Signal
  | .added objectPath interfaces => interfaces.map (.added objectPath)
  | .removed objectPath interfaces => interfaces.map (.removed objectPath)

def additions (entries : List (String × String)) : List Signal :=
  entries.map fun e => .added e.1 e.2

def pending (w : World) : List Signal :=
  match w.phase with
  | .scanning rest => additions rest ++ w.bus.flatMap signals
  | .running current => additions current ++ w.bus.flatMap signals
  | _ => w.bus.flatMap signals

/-- The call that the round makes, if it makes one, is for an interface that is
still exported. -/
def Answered (w : World) (objectPath interface : String) : Prop :=
  match member interface with
  | .store k => objectPath ∈ w.manager.stores k ∨ Exported w.daemon objectPath interface
  | .managerNvme => Exported w.daemon objectPath interface
  | .none => True

/-- The interface is in the books or will be spoken of again. -/
def Safe (w : World) (objectPath interface : String) : Prop :=
  ∀ k : Store, interface = k.interfaceName →
    objectPath ∈ w.manager.stores k ∨
      ∃ s ∈ w.bus.flatMap signals, tells objectPath interface s ≠ none

/-- No call fails in the scan, and one that fails in the handler of a signal
cuts nothing off that is needed. -/
def NothingLost (w : World) : Act → Prop
  | .addNext =>
      match w.phase with
      | .scanning ((objectPath, interface) :: _) => Answered w objectPath interface
      | .running ((objectPath, interface) :: rest) =>
          Answered w objectPath interface ∨ ∀ e ∈ rest, Safe w e.1 e.2
      | _ => True
  | _ => True

end SdbusExamples.UDisks2Manager
