import SdbusExamples.Controllers

namespace SdbusExamples.ReaderRetirement

open BluezDevice Controllers Hidraw LoopQueues Runs

def RemoveOf (e : Event) (devNode : Option String) : Prop :=
  ∃ bt usb, e = .udev (some "remove") devNode (some "hidraw") bt usb

/-- The event retires the reader if it is about the node of the reader, and
leaves it and its registration alone if it is about another one. -/
def RetiredForItsNode (pad : Pad) (s : Controller) (e : Event) : Prop :=
  ∀ devNode reader, RemoveOf e devNode → s.inputReader = some reader →
    (devNode = some reader.device → (handle pad s e).inputReader = none ∧
      (handle pad s e).loop = s.loop.retire reader.address) ∧
    (devNode ≠ some reader.device → (handle pad s e).inputReader = some reader ∧
      (handle pad s e).loop = s.loop)

/-- No hidraw node is removed while there is a reader, except the one it reads. -/
def RemovesItsNodeOnly (s : Controller) (e : Event) : Prop :=
  ∀ devNode reader, RemoveOf e devNode → s.inputReader = some reader →
    devNode = some reader.device

theorem handle_remove (pad : Pad) {s : Controller} {e : Event} {devNode : Option String}
    {reader : Reader} (he : RemoveOf e devNode) (hr : s.inputReader = some reader) :
    (handle pad s e).inputReader = none ∧
      (handle pad s e).loop = s.loop.retire reader.address := by
  obtain ⟨bt, usb, rfl⟩ := he
  simp only [handle, Controller.udevDispatch, Controller.udevCallback, Controller.retireReader, hr,
    if_true, and_self]

theorem retiredForItsNode_iff (pad : Pad) (s : Controller) (e : Event) :
    RetiredForItsNode pad s e ↔ RemovesItsNodeOnly s e := by
  constructor
  · intro h devNode reader he hr
    by_contra hne
    have hkept := ((h devNode reader he hr).2 hne).1
    have hgone := (handle_remove pad he hr).1
    rw [hgone] at hkept
    cases hkept
  · intro h devNode reader he hr
    exact ⟨fun _ => handle_remove pad he hr, fun hne => absurd (h devNode reader he hr) hne⟩

/-- Whatever the controller and the events, every reader is retired for its
own node only if and only if no other node is removed while there is a reader. -/
theorem runs_retire_for_their_node_iff (pad : Pad) (loop : EventLoop Nat) (bt usb : Scan)
    (events : List Event) :
    (system pad).Along (RetiredForItsNode pad) (.start pad loop bt usb) events ↔
      (system pad).Along RemovesItsNodeOnly (.start pad loop bt usb) events :=
  (system pad).along_congr (retiredForItsNode_iff pad) _ events

/-- A mouse is unplugged while a DualSense is played. -/
theorem reader_retired_for_other_node :
    ¬ ∀ (pad : Pad) (loop : EventLoop Nat) (bt usb : Scan) (events : List Event),
      (system pad).Along (RetiredForItsNode pad) (.start pad loop bt usb) events := by
  intro h
  have hstep := (h .dualSense (.init 3) dualSenseScan ⟨[], []⟩
    [.interfacesAdded noThrow "/org/bluez/hci0/dev_A0_FA_9C_00_00_01"
        (.ofList [("org.bluez.Device1", dualSenseDevice)]),
      .udev (some "remove") (some "/dev/hidraw7") (some "hidraw") dualSenseScan ⟨[], []⟩]).2.1
  have hnode := (retiredForItsNode_iff .dualSense _ _).1 hstep (some "/dev/hidraw7")
    ⟨0, "/dev/hidraw1"⟩ ⟨_, _, rfl⟩ (by decide)
  revert hnode
  decide

end SdbusExamples.ReaderRetirement
