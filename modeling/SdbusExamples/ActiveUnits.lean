import SdbusExamples.CappedLists
import SdbusExamples.ResourceLimits

namespace SdbusExamples.ActiveUnits

open CappedLists LatestEvents ResourceLimits

inductive LogLine
  | warn (text : String)
  | info (text : String)

structure Systemd1ManagerClient where
  activeUnits : List String
  log : List LogLine

namespace Systemd1ManagerClient

def logWarn (c : Systemd1ManagerClient) (text : String) : Systemd1ManagerClient :=
  { c with log := c.log ++ [.warn text] }

def logInfo (c : Systemd1ManagerClient) (text : String) : Systemd1ManagerClient :=
  { c with log := c.log ++ [.info text] }

def onUnitNew (c : Systemd1ManagerClient) (id unit : String) : Systemd1ManagerClient :=
  let c :=
    if id ∈ c.activeUnits then c
    else if isAtCapacity c.activeUnits.length kMaxUnits then
      c.logWarn s!"[systemd1] Skipping UnitNew id={id}: resource limit reached ({kMaxUnits})"
    else { c with activeUnits := c.activeUnits ++ [id] }
  c.logInfo s!"[systemd1] UnitNew id={id} path={unit}"

def onUnitRemoved (c : Systemd1ManagerClient) (id unit : String) : Systemd1ManagerClient :=
  { c with activeUnits := c.activeUnits.filter (· ≠ id) }.logInfo
    s!"[systemd1] UnitRemoved id={id} path={unit}"

def onJobNew (c : Systemd1ManagerClient) (id : UInt32) (job unit : String) :
    Systemd1ManagerClient :=
  c.logInfo s!"[systemd1] JobNew job_id={id} job_path={job} unit={unit}"

def onJobRemoved (c : Systemd1ManagerClient) (id : UInt32) (job unit result : String) :
    Systemd1ManagerClient :=
  c.logInfo s!"[systemd1] JobRemoved job_id={id} job_path={job} unit={unit} result={result}"

def onStartupFinished (c : Systemd1ManagerClient)
    (firmware loader kernel initrd userspace total : UInt64) : Systemd1ManagerClient :=
  c.logInfo (s!"[systemd1] StartupFinished firmware={firmware} loader={loader} kernel={kernel} " ++
    s!"initrd={initrd} userspace={userspace} total={total}")

def onUnitFilesChanged (c : Systemd1ManagerClient) : Systemd1ManagerClient :=
  c.logInfo "[systemd1] UnitFilesChanged"

def onReloading (c : Systemd1ManagerClient) (active : Bool) : Systemd1ManagerClient :=
  c.logInfo s!"[systemd1] Reloading active={active}"

end Systemd1ManagerClient

inductive Signal
  | unitNew (id unit : String)
  | unitRemoved (id unit : String)
  | jobNew (id : UInt32) (job unit : String)
  | jobRemoved (id : UInt32) (job unit result : String)
  | startupFinished (firmware loader kernel initrd userspace total : UInt64)
  | unitFilesChanged
  | reloading (active : Bool)

namespace Systemd1ManagerClient

def receive (c : Systemd1ManagerClient) : Signal → Systemd1ManagerClient
  | .unitNew id unit => c.onUnitNew id unit
  | .unitRemoved id unit => c.onUnitRemoved id unit
  | .jobNew id job unit => c.onJobNew id job unit
  | .jobRemoved id job unit result => c.onJobRemoved id job unit result
  | .startupFinished firmware loader kernel initrd userspace total =>
      c.onStartupFinished firmware loader kernel initrd userspace total
  | .unitFilesChanged => c.onUnitFilesChanged
  | .reloading active => c.onReloading active

def after (signals : List Signal) : Systemd1ManagerClient := signals.foldl receive ⟨[], []⟩

end Systemd1ManagerClient

example : (Systemd1ManagerClient.after [.unitNew "a.mount" "/a", .unitNew "b.mount" "/b",
    .unitNew "a.mount" "/a", .unitRemoved "a.mount" "/a"]).activeUnits = ["b.mount"] := by
  decide

namespace Signal

def change : Signal → Option (Change String)
  | .unitNew id _ => some (.add id)
  | .unitRemoved id _ => some (.remove id)
  | _ => none

/-- What a signal says about a unit, if anything: that it is new, or that it is removed. -/
def isNew (id : String) : Signal → Option Bool
  | .unitNew id' _ => if id' = id then some true else none
  | .unitRemoved id' _ => if id' = id then some false else none
  | _ => none

theorem isNew_eq_wants (id : String) : isNew id = wants change id := by
  funext signal
  cases signal <;> rfl

theorem change_eq_add_iff {id : String} {signal : Signal} :
    signal.change = some (.add id) ↔ ∃ unit, signal = .unitNew id unit := by
  cases signal <;> simp [change]

theorem change_eq_remove_iff {id : String} {signal : Signal} :
    signal.change = some (.remove id) ↔ ∃ unit, signal = .unitRemoved id unit := by
  cases signal <;> simp [change]

end Signal

namespace Systemd1ManagerClient

theorem activeUnits_receive (c : Systemd1ManagerClient) (signal : Signal) :
    (c.receive signal).activeUnits = step kMaxUnits Signal.change c.activeUnits signal := by
  cases signal with
  | unitNew id unit =>
      show (onUnitNew c id unit).activeUnits = add kMaxUnits c.activeUnits id
      simp only [onUnitNew, add, isAtCapacity, decide_eq_true_eq, ge_iff_le]
      split_ifs <;> rfl
  | _ => rfl

theorem activeUnits_after (signals : List Signal) :
    (after signals).activeUnits = CappedLists.after kMaxUnits Signal.change signals := by
  induction signals using List.reverseRecOn with
  | nil => rfl
  | append_singleton signals signal ih =>
      rw [after_concat, ← ih, ← activeUnits_receive, after, List.foldl_append]
      rfl

end Systemd1ManagerClient

open Systemd1ManagerClient (after)

/-- Signal `i` is the UnitNew that put the unit into the list, which it has not left since. -/
structure InsertedAt (signals : List Signal) (i : Nat) (id : String) : Prop where
  unitNew : ∃ unit, signals[i]? = some (.unitNew id unit)
  absent : id ∉ (after (signals.take i)).activeUnits
  stays : ∀ j, i < j → id ∈ (after (signals.take j)).activeUnits

structure Tracked (signals : List Signal) : Prop where
  nodup : (after signals).activeUnits.Nodup
  bounded : (after signals).activeUnits.length ≤ kMaxUnits
  latest : ∀ id ∈ (after signals).activeUnits, latest (Signal.isNew id) false signals = true
  inserted : ∀ id ∈ (after signals).activeUnits, ∃ i, InsertedAt signals i id
  ordered : (after signals).activeUnits.Pairwise fun id id' =>
    ∀ i j, InsertedAt signals i id → InsertedAt signals j id' → i < j
  missing : ∀ id, LatestEvents.latest (Signal.isNew id) false signals = true →
    id ∉ (after signals).activeUnits →
    ∀ before unit rest, signals = before ++ .unitNew id unit :: rest →
      (∀ unit', .unitRemoved id unit' ∉ rest) → kMaxUnits ≤ (after before).activeUnits.length

theorem insertedAt_iff {signals : List Signal} {i : Nat} {id : String} :
    InsertedAt signals i id ↔ CappedLists.InsertedAt kMaxUnits Signal.change signals i id := by
  constructor
  · rintro ⟨⟨unit, hnew⟩, habsent, hstays⟩
    refine ⟨⟨_, hnew, rfl⟩, ?_, ?_⟩
    · rwa [← Systemd1ManagerClient.activeUnits_after]
    · intro j hj
      rw [← Systemd1ManagerClient.activeUnits_after]
      exact hstays j hj
  · rintro ⟨⟨signal, hsignal, hadd⟩, habsent, hstays⟩
    obtain ⟨unit, rfl⟩ := Signal.change_eq_add_iff.1 hadd
    refine ⟨⟨unit, hsignal⟩, ?_, ?_⟩
    · rwa [Systemd1ManagerClient.activeUnits_after]
    · intro j hj
      rw [Systemd1ManagerClient.activeUnits_after]
      exact hstays j hj

theorem activeUnits_tracked (signals : List Signal) : Tracked signals := by
  have hafter := Systemd1ManagerClient.activeUnits_after signals
  refine ⟨?_, ?_, ?_, ?_, ?_, ?_⟩
  · rw [hafter]
    exact nodup_after signals
  · rw [hafter]
    exact length_after_le signals
  · intro id hid
    rw [hafter] at hid
    rw [Signal.isNew_eq_wants]
    exact latest_of_mem hid
  · intro id hid
    rw [hafter] at hid
    obtain ⟨i, hi⟩ := exists_insertedAt hid
    exact ⟨i, insertedAt_iff.2 hi⟩
  · rw [hafter]
    refine (after_in_order signals).imp ?_
    intro id id' h i j hi hj
    exact h i j (insertedAt_iff.1 hi) (insertedAt_iff.1 hj)
  · rintro id - hid before unit rest rfl hrest
    rw [hafter] at hid
    rw [Systemd1ManagerClient.activeUnits_after]
    refine full_of_not_mem (e := .unitNew id unit) rfl ?_ hid
    intro signal hsignal hremove
    obtain ⟨unit', rfl⟩ := Signal.change_eq_remove_iff.1 hremove
    exact hrest unit' hsignal

end SdbusExamples.ActiveUnits
