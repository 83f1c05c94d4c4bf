import Mathlib.Data.List.Basic

namespace SdbusExamples.SnapshotScans

variable {E M : Type}

/-- Where a client stands that registers for signals and then goes through the
entries of a snapshot, before it handles the first signal. -/
inductive Phase (E : Type)
  | unregistered
  | registered
  | scanning (rest : List E)
  | running
  | failed

namespace Phase

def isRegistered : Phase E → Bool
  | .registered => true
  | _ => false

def isScanning : Phase E → Bool
  | .scanning _ => true
  | _ => false

def isRunning : Phase E → Bool
  | .running => true
  | _ => false

def hasFailed : Phase E → Bool
  | .failed => true
  | _ => false

end Phase

/-- The entries still to come, as the messages they are handled like. -/
def scanned (message : E → M) : Phase E → List M
  | .scanning rest => rest.map message
  | _ => []

def pendingOf (message : E → M) (phase : Phase E) (bus : List M) : List M :=
  scanned message phase ++ bus

theorem pendingOf_append (message : E → M) (phase : Phase E) (bus ms : List M) :
    pendingOf message phase (bus ++ ms) = pendingOf message phase bus ++ ms :=
  (List.append_assoc ..).symm

section Phases

variable (message : E → M) (bus : List M)

@[simp] theorem pendingOf_unregistered : pendingOf message .unregistered bus = bus := rfl

@[simp] theorem pendingOf_registered : pendingOf message .registered bus = bus := rfl

@[simp] theorem pendingOf_scanning (rest : List E) :
    pendingOf message (.scanning rest) bus = rest.map message ++ bus := rfl

@[simp] theorem pendingOf_running : pendingOf message .running bus = bus := rfl

end Phases

end SdbusExamples.SnapshotScans
