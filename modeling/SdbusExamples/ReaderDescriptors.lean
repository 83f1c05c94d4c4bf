import SdbusExamples.ControllerInvariants
import SdbusExamples.DualSenseReader
import SdbusExamples.FdOwnership
import SdbusExamples.HidReader

namespace SdbusExamples.ReaderDescriptors

open ControllerInvariants Controllers Function Hidraw LoopQueues ResourceLimits Runs Variants
open Custody (Alternates heldAfter)
open FdOwnership (ClosesOnce Op UniqueFd program)

/-- The UniqueFd objects of the readers: those on the stack while a node is
opened, and the member of the reader at an address. -/
inductive Slot
  | openFd
  | opened
  | fd
  | fdOf (address : Nat)
deriving DecidableEq

/-- What open() returns for a node, and whether the rest of open_and_init() goes
through. -/
structure Node where
  opened : Int
  initialises : Bool

def Node.valid (node : Node) : Bool := decide (0 ≤ node.opened) && node.initialises

def openFd (opened : Int) : List (Op Slot) :=
  .own .openFd opened ::
    if opened < 0 then [.destroy .openFd]
    else [.moveConstruct .opened .openFd, .destroy .openFd]

def openAndInit (address : Nat) (node : Node) : List (Op Slot) :=
  openFd node.opened ++
    if node.opened < 0 then []
    else
      .moveConstruct .fd .opened ::
        ((if node.initialises then [.moveAssign (.fdOf address) .fd] else []) ++
          [.destroy .fd, .destroy .opened])

/-- A reader that is not valid is destroyed at the end of the statement that made it. -/
def makeReader (address : Nat) (node : Node) : List (Op Slot) :=
  .default (.fdOf address) :: (openAndInit address node ++
    if node.valid then [] else [.destroy (.fdOf address)])

section

variable (pad : Pad) (s : Controller) (nodes : String → Node)

/-- The operations of Controller.attach on descriptors, and so on for its callers. -/
def attachOps (hidrawDeviceKey : String) : List (Op Slot) :=
  let hidrawDevice := findHidDevice s.table hidrawDeviceKey
  if hidrawDevice = "" then []
  else if s.inputReader.isSome then []
  else makeReader s.nextAddress (nodes hidrawDevice)

def installDeviceOps (props : BluezDevice.Properties) : List (Op Slot) :=
  match deviceKey pad props with
  | some key => attachOps s nodes key
  | none => []

def addDeviceOps (objectPath : String) (properties : PropertyMap) : List (Op Slot) :=
  if admits pad properties = false then []
  else if objectPath ∈ s.devices then []
  else if kMaxDevices ≤ s.devices.size then []
  else
    match BluezDevice.Device1 properties with
    | none => []
    | some props => installDeviceOps pad s nodes props

def addInterfaceOps (objectPath : String) : String × PropertyMap → List (Op Slot)
  | ("org.bluez.Device1", properties) => addDeviceOps pad s nodes objectPath properties
  | _ => []

end

def addInterfacesOps (pad : Pad) (out : Outcomes) (nodes : String → Node) (objectPath : String) :
    Controller → List (String × PropertyMap) → List (Op Slot)
  | _, [] => []
  | s, entry :: rest =>
      addInterfaceOps pad s nodes objectPath entry ++
        match s.addInterface pad out objectPath entry with
        | (s, true) => addInterfacesOps pad out nodes objectPath s rest
        | (_, false) => []

def handleOps (pad : Pad) (s : Controller) (nodes : String → Node) : Event → List (Op Slot)
  | .interfacesAdded out objectPath interfaces =>
      addInterfacesOps pad out nodes objectPath s interfaces.toList
  | .applyPending => s.loop.toRetire.map fun a => .destroy (.fdOf a)
  | _ => []

def readers (s : Controller) : List Nat :=
  (s.inputReader.map Reader.address).toList ++ s.loop.toRetire

/-- The end of main(): the controller is destroyed, and then the loop. -/
def shutdown (s : Controller) : List (Op Slot) := (readers s).map fun a => .destroy (.fdOf a)

structure Process where
  controller : Controller
  fds : FdOwnership.State Slot

structure Action where
  event : Event
  nodes : String → Node

/-- Which readers become valid is not decided apart from their nodes. -/
def Agrees (nodes : String → Node) : Event → Prop
  | .interfacesAdded out _ _ => ∀ device, out.opens device = (nodes device).valid
  | _ => True

/-- The kernel returns no descriptor that is open. -/
def Fresh (fds : FdOwnership.State Slot) (nodes : String → Node) : Prop :=
  ∀ device slot, fds.ownedBy slot ≠ some (nodes device).opened

def enabled (p : Process) (a : Action) : Prop := Agrees a.nodes a.event ∧ Fresh p.fds a.nodes

def next (pad : Pad) (p : Process) (a : Action) : Process :=
  ⟨handle pad p.controller a.event,
    program.after p.fds (handleOps pad p.controller a.nodes a.event)⟩

def system (pad : Pad) : System Process Action := ⟨enabled, next pad⟩

def initial (pad : Pad) (wakeFd : Int) (bt usb : Scan) : Process :=
  ⟨.start pad (.init wakeFd) bt usb, .initial⟩

structure Unwound (fds : FdOwnership.State Slot) : Prop where
  openFd : fds.wrappers .openFd = none
  opened : fds.wrappers .opened = none
  fd : fds.wrappers .fd = none

theorem openFd_spec {fds : FdOwnership.State Slot} (h : Unwound fds) {opened : Int}
    (hfresh : ∀ slot, fds.ownedBy slot ≠ some opened) :
    program.Valid fds (openFd opened) ∧
      (program.after fds (openFd opened)).wrappers =
        if opened < 0 then fds.wrappers
        else update fds.wrappers .opened (some (.ofFd opened)) := by
  have hown : program.enabled fds (.own .openFd opened) := ⟨h.openFd, hfresh⟩
  by_cases hneg : opened < 0
  · simp only [openFd, if_pos hneg]
    refine ⟨⟨hown, ?_, trivial⟩, ?_⟩
    · simp [program]
    · funext slot
      cases slot <;> simp [program, h.openFd]
  · simp only [openFd, if_neg hneg]
    refine ⟨⟨hown, ⟨?_, ?_⟩, ?_, trivial⟩, ?_⟩
    · simpa [program] using h.opened
    · simp [program]
    · simp [program]
    · funext slot
      cases slot <;> simp [program, h.openFd, FdOwnership.State.get, UniqueFd.ofMoved,
        UniqueFd.ofFd]

theorem keep_spec (fds : FdOwnership.State Slot) (address : Nat) {opened : Int}
    (hfd : fds.wrappers .fd = none) (hopened : fds.wrappers .opened = some (.ofFd opened))
    (hfdOf : fds.wrappers (.fdOf address) = some .empty) (initialises : Bool) :
    program.Valid fds (.moveConstruct .fd .opened ::
        ((if initialises then [.moveAssign (.fdOf address) .fd] else []) ++
          [.destroy .fd, .destroy .opened])) ∧
      (program.after fds (.moveConstruct .fd .opened ::
        ((if initialises then [.moveAssign (.fdOf address) .fd] else []) ++
          [.destroy .fd, .destroy .opened]))).wrappers =
        update (if initialises then update fds.wrappers (.fdOf address) (some (.ofFd opened))
          else fds.wrappers) .opened none := by
  have hmove : program.enabled fds (.moveConstruct .fd .opened) := ⟨hfd, by simp [hopened]⟩
  cases initialises with
  | false =>
      refine ⟨⟨hmove, ?_, ?_, trivial⟩, ?_⟩
      · simp [program]
      · simp [program]
      · funext slot
        cases slot <;> simp [program, hfd]
  | true =>
      refine ⟨⟨hmove, ⟨?_, ?_⟩, ?_, ?_, trivial⟩, ?_⟩
      · simp [program, hfdOf]
      · simp [program]
      · simp [program]
      · simp [program]
      · funext slot
        cases slot with
        | fdOf a =>
            by_cases ha : a = address
            · subst ha
              simp [program, FdOwnership.State.get, UniqueFd.moveAssign, UniqueFd.ofMoved, hopened,
                UniqueFd.ofFd]
            · simp [program, FdOwnership.State.get, UniqueFd.moveAssign, ha]
        | _ => simp [program, hfd]

theorem openAndInit_spec {fds : FdOwnership.State Slot} (h : Unwound fds) (address : Nat)
    {node : Node} (hfdOf : fds.wrappers (.fdOf address) = some .empty)
    (hfresh : ∀ slot, fds.ownedBy slot ≠ some node.opened) :
    program.Valid fds (openAndInit address node) ∧
      (program.after fds (openAndInit address node)).wrappers =
        if node.valid then update fds.wrappers (.fdOf address) (some (.ofFd node.opened))
        else fds.wrappers := by
  obtain ⟨hvalid, hopen⟩ := openFd_spec h hfresh
  rw [openAndInit, System.valid_append, System.after_append]
  by_cases hneg : node.opened < 0
  · have hinvalid : node.valid = false := by
      rw [Node.valid, decide_eq_false (by omega), Bool.false_and]
    simp only [hneg, if_true] at hopen ⊢
    rw [hinvalid]
    exact ⟨⟨hvalid, trivial⟩, hopen⟩
  · have hinitialises : node.valid = node.initialises := by
      rw [Node.valid, decide_eq_true (by omega), Bool.true_and]
    simp only [hneg, if_false] at hopen ⊢
    have hkeep := keep_spec (program.after fds (openFd node.opened)) address
      (by simp [hopen, h.fd]) (by rw [hopen, update_self]) (by simp [hopen, hfdOf]) node.initialises
    refine ⟨⟨hvalid, hkeep.1⟩, ?_⟩
    rw [hkeep.2, hopen, hinitialises]
    cases node.initialises with
    | false => simp [update_eq_self_iff, h.opened]
    | true =>
        have hgone : update fds.wrappers .opened none = fds.wrappers :=
          update_eq_self_iff.2 h.opened.symm
        simp only [if_true]
        rw [update_comm (by simp), update_idem, hgone]

theorem makeReader_spec {fds : FdOwnership.State Slot} (h : Unwound fds) {address : Nat}
    {node : Node} (hfdOf : fds.wrappers (.fdOf address) = none)
    (hfresh : ∀ slot, fds.ownedBy slot ≠ some node.opened) :
    program.Valid fds (makeReader address node) ∧
      (program.after fds (makeReader address node)).wrappers =
        if node.valid then update fds.wrappers (.fdOf address) (some (.ofFd node.opened))
        else fds.wrappers := by
  have hmade : (program.next fds (.default (.fdOf address))).wrappers =
      update fds.wrappers (.fdOf address) (some .empty) := rfl
  have hfresh' (slot : Slot) : (program.next fds (.default (.fdOf address))).ownedBy slot ≠
      some node.opened := by
    by_cases hslot : slot = .fdOf address
    · subst hslot
      simp [FdOwnership.State.ownedBy, hmade, UniqueFd.empty]
    · simpa [FdOwnership.State.ownedBy, hmade, update_of_ne hslot] using hfresh slot
  have hunwound : Unwound (program.next fds (.default (.fdOf address))) :=
    ⟨by simp [hmade, h.openFd], by simp [hmade, h.opened], by simp [hmade, h.fd]⟩
  have hinit := openAndInit_spec hunwound address (by simp [hmade]) hfresh'
  rw [makeReader, System.valid_cons, System.after_cons, System.valid_append, System.after_append]
  refine ⟨⟨hfdOf, hinit.1, ?_⟩, ?_⟩
  · cases hvalid : node.valid with
    | true => trivial
    | false =>
        have hthere : (program.after (program.next fds (.default (.fdOf address)))
            (openAndInit address node)).wrappers (.fdOf address) ≠ none := by
          rw [hinit.2]
          simp [hvalid, hmade]
        exact ⟨hthere, trivial⟩
  · cases hvalid : node.valid with
    | true => simpa [hvalid, hmade] using hinit.2
    | false =>
        have hgone : update fds.wrappers (.fdOf address) none = fds.wrappers :=
          update_eq_self_iff.2 hfdOf.symm
        have hwrappers := congrArg
          (fun ws : Slot → Option UniqueFd => update ws (.fdOf address) none) hinit.2
        simp only [hvalid, hmade, Bool.false_eq_true, if_false, update_idem, hgone] at hwrappers
        exact hwrappers

theorem ne_of_neg {fds : FdOwnership.State Slot} {slot : Slot} {fd : Int} (h : fd < 0) :
    fds.ownedBy slot ≠ some fd := by
  intro howned
  rw [← FdOwnership.owned_get] at howned
  have := UniqueFd.nonneg_of_owned howned
  omega

theorem ownedBy_makeReader {fds : FdOwnership.State Slot} (h : Unwound fds) {address : Nat}
    {node : Node} (hfdOf : fds.wrappers (.fdOf address) = none)
    (hfresh : ∀ slot, fds.ownedBy slot ≠ some node.opened) :
    (program.after fds (makeReader address node)).ownedBy (.fdOf address) =
      if node.valid then some node.opened else none := by
  rw [FdOwnership.State.ownedBy, (makeReader_spec h hfdOf hfresh).2]
  cases hvalid : node.valid with
  | false => simp [hfdOf]
  | true =>
      rw [Node.valid, Bool.and_eq_true, decide_eq_true_eq] at hvalid
      simp [UniqueFd.ofFd, UniqueFd.owned_ofFd, hvalid.1]

theorem fd_dualSense (device : String) (d : DualSenseReader.Device) {fd : Int}
    (h : (DualSenseReader.openAndInit device d).fd = some fd) : d.opened = some fd := by
  unfold DualSenseReader.openAndInit at h
  split at h
  · cases h
  · cases h
  · rename_i opened info hopened hinfo
    split at h
    · split_ifs at h
      · cases h
      · rw [hopened, ← h]
    · cases h

def KeepsReader {α : Type} (m : HidReader.Init α) : Prop :=
  ∀ s, (m.run s).2.reader = s.reader

theorem KeepsReader.bind {α β : Type} {m : HidReader.Init α} {f : α → HidReader.Init β}
    (hm : KeepsReader m) (hf : ∀ a, KeepsReader (f a)) : KeepsReader (m >>= f) := by
  intro s
  have hs := hm s
  rw [OptionT.run_bind]
  change ((m.run s).1.elim (pure none) (fun a => (f a).run) (m.run s).2).2.reader = _
  rcases hrun : m.run s with ⟨_ | a, s'⟩
  · rwa [hrun] at hs
  · rw [hrun] at hs
    exact (hf a s').trans hs

theorem keepsReader_log (level : HidReader.Level) (text : OStreams.Text) :
    KeepsReader (HidReader.log level text) := fun _ => rfl

theorem keepsReader_call {α : Type} (label : String) (answer : Except String α) :
    KeepsReader (HidReader.call label answer) := by
  cases answer <;> exact fun _ => rfl

theorem keepsReader_checkDescSize (descSize : Int) :
    KeepsReader (HidReader.checkDescSize descSize) := by
  rw [HidReader.checkDescSize]
  split_ifs <;> exact fun _ => rfl

theorem keepsReader_describe (node : HidReader.Node) (info : DualSenseReader.DevInfo) :
    KeepsReader (HidReader.describe node info) := by
  apply (keepsReader_log _ _).bind fun _ => (keepsReader_log _ _).bind fun _ => ?_
  apply (keepsReader_log _ _).bind fun _ => (keepsReader_call _ _).bind fun name => ?_
  apply (keepsReader_log _ _).bind fun _ => (keepsReader_call _ _).bind fun phys => ?_
  apply (keepsReader_log _ _).bind fun _ => (keepsReader_call _ _).bind fun descSize => ?_
  apply (keepsReader_log _ _).bind fun _ => (keepsReader_checkDescSize descSize).bind fun _ => ?_
  exact (keepsReader_call _ _).bind fun value => keepsReader_log _ _

theorem KeepsReader.setFd {m : HidReader.Init Unit} (hm : KeepsReader m) (opened : Int)
    {s : HidReader.Session} (hs : s.reader.fd = none) {fd : Int}
    (h : ((m >>= fun _ => HidReader.setFd opened).run s).2.reader.fd = some fd) : opened = fd := by
  have hkept := hm s
  rw [OptionT.run_bind] at h
  change ((m.run s).1.elim (pure none) (fun _ => (HidReader.setFd opened).run)
    (m.run s).2).2.reader.fd = _ at h
  rcases hrun : m.run s with ⟨_ | a, s'⟩
  · rw [hrun] at h hkept
    have hnone : s'.reader.fd = none := (congrArg HidReader.InputReader.fd hkept).trans hs
    exact nomatch hnone.symm.trans h
  · rw [hrun] at h
    exact Option.some.inj h

theorem fd_hid (device : String) (node : HidReader.Node) {fd : Int}
    (h : (HidReader.inputReader device node).reader.fd = some fd) : node.opened = .ok fd := by
  obtain ⟨opened, rawInfo, rawName, rawPhys, descSize, desc⟩ := node
  cases opened with
  | error message => cases h
  | ok opened =>
      cases rawInfo with
      | error message => cases h
      | ok info =>
          have hkeeps := keepsReader_describe
            ⟨.ok opened, .ok info, rawName, rawPhys, descSize, desc⟩ info
          have hfd : opened = fd := hkeeps.setFd opened
            (s := ⟨⟨device, none, info.product⟩, [⟨.debug, "hidraw device: ".toList ++ device.toList⟩]⟩)
            rfl h
          rw [hfd]

theorem ownedBy_reader {fds : FdOwnership.State Slot} (h : Unwound fds) {address : Nat}
    (hfdOf : fds.wrappers (.fdOf address) = none) (opened fd : Option Int)
    (hopened : ∀ x, opened = some x → 0 ≤ x ∧ ∀ slot, fds.ownedBy slot ≠ some x)
    (hfd : ∀ x, fd = some x → opened = some x) :
    (program.after fds (makeReader address ⟨opened.getD (-1), fd.isSome⟩)).ownedBy
      (.fdOf address) = fd := by
  have hfresh : ∀ slot, fds.ownedBy slot ≠ some (opened.getD (-1)) := by
    cases opened with
    | none => exact fun slot => ne_of_neg (by decide)
    | some x => exact (hopened x rfl).2
  rw [ownedBy_makeReader h hfdOf hfresh]
  cases fd with
  | none => simp [Node.valid]
  | some x =>
      obtain rfl := hfd x rfl
      simp [Node.valid, (hopened x rfl).1]

theorem ownedBy_dualSense {fds : FdOwnership.State Slot} (h : Unwound fds) {address : Nat}
    (hfdOf : fds.wrappers (.fdOf address) = none) (device : String) (d : DualSenseReader.Device)
    (hopened : ∀ x, d.opened = some x → 0 ≤ x ∧ ∀ slot, fds.ownedBy slot ≠ some x) :
    (program.after fds (makeReader address ⟨d.opened.getD (-1),
        (DualSenseReader.openAndInit device d).valid⟩)).ownedBy (.fdOf address) =
      (DualSenseReader.openAndInit device d).fd :=
  ownedBy_reader h hfdOf d.opened _ hopened fun _ => fd_dualSense device d

theorem ownedBy_hid {fds : FdOwnership.State Slot} (h : Unwound fds) {address : Nat}
    (hfdOf : fds.wrappers (.fdOf address) = none) (device : String) (node : HidReader.Node)
    (hopened : ∀ x, node.opened.toOption = some x → 0 ≤ x ∧ ∀ slot, fds.ownedBy slot ≠ some x) :
    (program.after fds (makeReader address ⟨node.opened.toOption.getD (-1),
        (HidReader.inputReader device node).reader.valid⟩)).ownedBy (.fdOf address) =
      (HidReader.inputReader device node).reader.fd := by
  apply ownedBy_reader h hfdOf node.opened.toOption _ hopened
  intro x hx
  rw [fd_hid device node hx]
  rfl

/-- Each reader that lives owns a descriptor, and nothing else does. -/
structure Held (live : List Nat) (fds : FdOwnership.State Slot) : Prop where
  inv : FdOwnership.Inv fds
  stack : Unwound fds
  alive : ∀ a ∈ live, ∃ fd, 0 ≤ fd ∧ fds.wrappers (.fdOf a) = some (.ofFd fd)
  gone : ∀ a ∉ live, fds.wrappers (.fdOf a) = none

structure Addressed (s : Controller) : Prop where
  nodup : (readers s).Nodup
  fresh : ∀ a ∈ readers s, a < s.nextAddress
  known : ∀ a, a ∈ s.loop.sources ∨ a ∈ s.loop.toAdd → a ∈ readers s
  leaving : ∀ a ∈ s.loop.toRetire, a ∈ s.loop.toRemove

structure Sound (nodes : String → Node) (s : Controller) (fds : FdOwnership.State Slot) : Prop where
  held : Held (readers s) fds
  addressed : Addressed s
  fresh : s.inputReader = none → Fresh fds nodes

theorem readers_of_same {s s' : Controller} (hs : SameReader s s') : readers s' = readers s := by
  rw [readers, hs.inputReader, hs.loop, readers]

theorem Held.of_mem_iff {live live' : List Nat} {fds : FdOwnership.State Slot}
    (h : Held live fds) (hlive : ∀ a, a ∈ live' ↔ a ∈ live) : Held live' fds := by
  refine ⟨h.inv, h.stack, fun a ha => ?_, fun a ha => ?_⟩
  · exact h.alive a ((hlive a).1 ha)
  · exact h.gone a fun hmem => ha ((hlive a).2 hmem)

theorem Addressed.of_same {s s' : Controller} (h : Addressed s) (hs : SameReader s s') :
    Addressed s' := by
  refine ⟨?_, ?_, ?_, ?_⟩
  · rw [readers_of_same hs]
    exact h.nodup
  · rw [readers_of_same hs, hs.nextAddress]
    exact h.fresh
  · rw [readers_of_same hs, hs.loop]
    exact h.known
  · rw [hs.loop]
    exact h.leaving

theorem Sound.of_same {nodes : String → Node} {s s' : Controller} {fds : FdOwnership.State Slot}
    (h : Sound nodes s fds) (hs : SameReader s s') : Sound nodes s' fds := by
  refine ⟨?_, h.addressed.of_same hs, fun hnone => h.fresh ?_⟩
  · rw [readers_of_same hs]
    exact h.held
  · rw [← hs.inputReader]
    exact hnone

theorem ownedBy_congr {fds fds' : FdOwnership.State Slot} (h : fds'.wrappers = fds.wrappers) :
    fds'.ownedBy = fds.ownedBy := by
  funext slot
  rw [FdOwnership.State.ownedBy, h, FdOwnership.State.ownedBy]

section

variable {live : List Nat} {fds : FdOwnership.State Slot}

theorem held_of_invalid {address : Nat} {node : Node} (h : Held live fds) (hfree : address ∉ live)
    (hvalid : node.valid = false) (hfresh : ∀ slot, fds.ownedBy slot ≠ some node.opened) :
    Held live (program.after fds (makeReader address node)) ∧
      (program.after fds (makeReader address node)).ownedBy = fds.ownedBy := by
  obtain ⟨hv, hwrappers⟩ := makeReader_spec h.stack (h.gone _ hfree) hfresh
  rw [hvalid, if_neg Bool.false_ne_true] at hwrappers
  refine ⟨⟨program.invariant FdOwnership.inv_next h.inv hv, ?_, ?_, ?_⟩, ownedBy_congr hwrappers⟩
  · exact ⟨by rw [hwrappers, h.stack.openFd], by rw [hwrappers, h.stack.opened],
      by rw [hwrappers, h.stack.fd]⟩
  · rw [hwrappers]
    exact h.alive
  · rw [hwrappers]
    exact h.gone

theorem held_of_valid {address : Nat} {node : Node} (h : Held live fds) (hfree : address ∉ live)
    (hvalid : node.valid = true) (hfresh : ∀ slot, fds.ownedBy slot ≠ some node.opened) :
    Held (address :: live) (program.after fds (makeReader address node)) := by
  obtain ⟨hv, hwrappers⟩ := makeReader_spec h.stack (h.gone _ hfree) hfresh
  rw [hvalid, if_pos rfl] at hwrappers
  refine ⟨program.invariant FdOwnership.inv_next h.inv hv, ?_, fun a ha => ?_, fun a ha => ?_⟩
  · exact ⟨by simp [hwrappers, h.stack.openFd], by simp [hwrappers, h.stack.opened],
      by simp [hwrappers, h.stack.fd]⟩
  · rw [hwrappers]
    by_cases hnew : a = address
    · subst hnew
      rw [Node.valid, Bool.and_eq_true, decide_eq_true_eq] at hvalid
      exact ⟨node.opened, hvalid.1, update_self _ _ _⟩
    · rw [update_of_ne (fun hslot => hnew (Slot.fdOf.inj hslot))]
      exact h.alive a ((List.mem_cons.1 ha).resolve_left hnew)
  · rw [List.mem_cons, not_or] at ha
    rw [hwrappers, update_of_ne (fun hslot => ha.1 (Slot.fdOf.inj hslot))]
    exact h.gone a ha.2

theorem destroyed_spec {as : List Nat} (hnodup : as.Nodup)
    (halive : ∀ a ∈ as, fds.wrappers (.fdOf a) ≠ none) :
    program.Valid fds (as.map fun a => .destroy (.fdOf a)) ∧
      ∀ slot, (program.after fds (as.map fun a => .destroy (.fdOf a))).wrappers slot =
        if ∃ a ∈ as, slot = .fdOf a then none else fds.wrappers slot := by
  induction as generalizing fds with
  | nil => exact ⟨trivial, fun slot => by simp⟩
  | cons a as ih =>
      obtain ⟨ha, hnodup⟩ := List.nodup_cons.1 hnodup
      have hwrappers : (program.next fds (.destroy (.fdOf a))).wrappers =
          update fds.wrappers (.fdOf a) none := rfl
      have hrest : ∀ b ∈ as, (program.next fds (.destroy (.fdOf a))).wrappers (.fdOf b) ≠ none := by
        intro b hb
        have hba : Slot.fdOf b ≠ .fdOf a := fun hslot => ha (Slot.fdOf.inj hslot ▸ hb)
        rw [hwrappers, update_of_ne hba]
        exact halive b (List.mem_cons_of_mem _ hb)
      obtain ⟨hv, hafter⟩ := ih hnodup hrest
      refine ⟨⟨halive a List.mem_cons_self, hv⟩, fun slot => ?_⟩
      rw [List.map_cons, System.after_cons, hafter slot, hwrappers]
      by_cases hslot : slot = .fdOf a
      · subst hslot
        simp
      · simp [hslot]

theorem Held.ownedBy_of_mem (h : Held live fds) {a : Nat} (ha : a ∈ live) :
    ∃ fd, fds.ownedBy (.fdOf a) = some fd := by
  obtain ⟨fd, hfd, hwrapper⟩ := h.alive a ha
  refine ⟨fd, ?_⟩
  rw [FdOwnership.State.ownedBy, hwrapper, Option.bind_some, UniqueFd.ofFd, UniqueFd.owned_ofFd,
    if_pos hfd]

theorem held_destroyed {left as : List Nat} (h : Held live fds) (hnodup : as.Nodup)
    (has : ∀ a ∈ as, a ∈ live) (hleft : ∀ a, a ∈ left ↔ a ∈ live ∧ a ∉ as) :
    Held left (program.after fds (as.map fun a => .destroy (.fdOf a))) := by
  have halive : ∀ a ∈ as, fds.wrappers (.fdOf a) ≠ none := by
    intro a ha
    obtain ⟨fd, -, hwrapper⟩ := h.alive a (has a ha)
    rw [hwrapper]
    exact Option.some_ne_none _
  obtain ⟨hv, hafter⟩ := destroyed_spec hnodup halive
  refine ⟨program.invariant FdOwnership.inv_next h.inv hv, ?_, fun a ha => ?_, fun a ha => ?_⟩
  · exact ⟨by simp [hafter, h.stack.openFd], by simp [hafter, h.stack.opened],
      by simp [hafter, h.stack.fd]⟩
  · obtain ⟨hmem, hnot⟩ := (hleft a).1 ha
    simpa [hafter, hnot] using h.alive a hmem
  · rw [hafter]
    by_cases hmem : a ∈ as
    · rw [if_pos ⟨a, hmem, rfl⟩]
    · rw [if_neg (by simpa using hmem)]
      exact h.gone a fun hreader => ha ((hleft a).2 ⟨hreader, hmem⟩)

theorem Held.closesOnce (h : Held live fds) :
    (∀ fd, Alternates fd false fds.log) ∧
      ∀ fd, heldAfter fd false fds.log = true ↔ ∃ a ∈ live, fds.ownedBy (.fdOf a) = some fd := by
  have hcloses := FdOwnership.closesOnce_of_inv h.inv
  refine ⟨hcloses.alternates, fun fd => (hcloses.pending fd).trans ⟨?_, ?_⟩⟩
  · rintro ⟨slot, hslot⟩
    cases slot with
    | fdOf a =>
        refine ⟨a, ?_, hslot⟩
        by_contra ha
        rw [FdOwnership.ownedBy_of_none (h.gone a ha)] at hslot
        cases hslot
    | openFd =>
        rw [FdOwnership.ownedBy_of_none h.stack.openFd] at hslot
        cases hslot
    | opened =>
        rw [FdOwnership.ownedBy_of_none h.stack.opened] at hslot
        cases hslot
    | fd =>
        rw [FdOwnership.ownedBy_of_none h.stack.fd] at hslot
        cases hslot
  · rintro ⟨a, -, hfd⟩
    exact ⟨.fdOf a, hfd⟩
end

theorem addressed_attach {s : Controller} (opens : String → Bool) (key : String)
    (h : Addressed s) : Addressed (s.attach opens key) := by
  rcases attach_reader s opens key with hs | ⟨hnone, hloop, hreader, hnext⟩
  · exact h.of_same hs
  · have hreaders : readers (s.attach opens key) = s.nextAddress :: readers s := by
      rw [readers, hreader, hloop, readers, hnone, EventLoop.add_toRetire]
      rfl
    have hfree : s.nextAddress ∉ readers s := fun hmem => Nat.lt_irrefl _ (h.fresh _ hmem)
    refine ⟨?_, ?_, ?_, ?_⟩
    · rw [hreaders]
      exact List.nodup_cons.2 ⟨hfree, h.nodup⟩
    · rw [hreaders, hnext]
      intro a ha
      rcases List.mem_cons.1 ha with rfl | ha
      · exact Nat.lt_succ_self _
      · exact Nat.lt_succ_of_lt (h.fresh a ha)
    · rw [hreaders, hloop, EventLoop.add_sources, EventLoop.add_toAdd]
      intro a ha
      rw [List.mem_append, List.mem_singleton, ← or_assoc] at ha
      rcases ha with ha | rfl
      · exact List.mem_cons_of_mem _ (h.known a ha)
      · exact List.mem_cons_self
    · rw [hloop, EventLoop.add_toRetire, EventLoop.add_toRemove]
      exact h.leaving

theorem sound_attach {nodes : String → Node} {s : Controller} {fds : FdOwnership.State Slot}
    (h : Sound nodes s fds) {opens : String → Bool} (hopens : ∀ d, opens d = (nodes d).valid)
    (key : String) :
    Sound nodes (s.attach opens key) (program.after fds (attachOps s nodes key)) := by
  have haddressed := addressed_attach opens key h.addressed
  have hfree : s.nextAddress ∉ readers s := fun hmem =>
    Nat.lt_irrefl _ (h.addressed.fresh _ hmem)
  rw [Controller.attach] at haddressed ⊢
  rw [attachOps]
  by_cases hnode : findHidDevice s.table key = ""
  · simpa only [hnode, if_true, System.after_nil] using h
  · by_cases hr : s.inputReader.isSome = true
    · simpa only [hnode, hr, if_true, if_false, System.after_nil] using h
    · have hnone : s.inputReader = none := Option.not_isSome_iff_eq_none.1 hr
      have hfresh := h.fresh hnone (findHidDevice s.table key)
      simp only [hnode, hr, hopens, if_false, Bool.false_eq_true] at haddressed ⊢
      cases hvalid : (nodes (findHidDevice s.table key)).valid with
      | false =>
          obtain ⟨hheld, howned⟩ := held_of_invalid h.held hfree hvalid hfresh
          simp only [Bool.false_eq_true, if_false]
          refine ⟨hheld, h.addressed, fun _ device slot => ?_⟩
          rw [howned]
          exact h.fresh hnone device slot
      | true =>
          simp only [hvalid, if_true] at haddressed ⊢
          have hreaders : readers s = s.loop.toRetire := by
            rw [readers, hnone]
            rfl
          rw [hreaders] at hfree
          have hheld := held_of_valid (hreaders ▸ h.held) hfree hvalid hfresh
          exact ⟨by simpa [readers] using hheld, haddressed, fun hr => by cases hr⟩

theorem sound_addDevice (pad : Pad) {nodes : String → Node} {s : Controller}
    {fds : FdOwnership.State Slot} (h : Sound nodes s fds) {out : Outcomes}
    (hopens : ∀ d, out.opens d = (nodes d).valid) (objectPath : String)
    (properties : PropertyMap) :
    Sound nodes (s.addDevice pad out objectPath properties).1
      (program.after fds (addDeviceOps pad s nodes objectPath properties)) := by
  rw [Controller.addDevice, addDeviceOps]
  split_ifs
  · exact h
  · exact h
  · exact h
  · cases BluezDevice.Device1 properties with
    | none => exact h
    | some props =>
        have hinserted : Sound nodes { s with devices := s.devices.insert objectPath props } fds :=
          h.of_same ⟨rfl, rfl, rfl⟩
        have hinstalled : Sound nodes (s.installDevice pad out.opens objectPath props)
            (program.after fds (installDeviceOps pad s nodes props)) := by
          rw [Controller.installDevice, installDeviceOps]
          cases deviceKey pad props with
          | none => exact hinserted
          | some key => exact sound_attach hinserted hopens key
        cases hpath : powerPath pad props with
        | none => simpa only [hpath] using hinstalled
        | some path =>
            simpa only [hpath] using
              hinstalled.of_same (addUPowerClient_reader _ out.upowerThrows path)

theorem sound_addInterface (pad : Pad) {nodes : String → Node} {s : Controller}
    {fds : FdOwnership.State Slot} (h : Sound nodes s fds) {out : Outcomes}
    (hopens : ∀ d, out.opens d = (nodes d).valid) (objectPath : String)
    (entry : String × PropertyMap) :
    Sound nodes (s.addInterface pad out objectPath entry).1
      (program.after fds (addInterfaceOps pad s nodes objectPath entry)) := by
  unfold Controller.addInterface
  split
  · exact h.of_same (addAdapter_reader _ _ _)
  · exact sound_addDevice pad h hopens _ _
  · exact h.of_same (addInput1_reader _ _ _)
  · rename_i hdevice _
    unfold addInterfaceOps
    split
    · exact (hdevice _ rfl).elim
    · exact h

theorem sound_addInterfaces (pad : Pad) {nodes : String → Node} {s : Controller}
    {fds : FdOwnership.State Slot} (h : Sound nodes s fds) {out : Outcomes}
    (hopens : ∀ d, out.opens d = (nodes d).valid) (objectPath : String)
    (entries : List (String × PropertyMap)) :
    Sound nodes (s.addInterfaces pad out objectPath entries).1
      (program.after fds (addInterfacesOps pad out nodes objectPath s entries)) := by
  induction entries generalizing s fds with
  | nil => exact h
  | cons entry rest ih =>
      have hentry := sound_addInterface pad h hopens objectPath entry
      rw [Controller.addInterfaces, addInterfacesOps, System.after_append]
      rcases hadded : s.addInterface pad out objectPath entry with ⟨s', _ | _⟩
      · rw [hadded] at hentry
        exact hentry
      · rw [hadded] at hentry
        exact ih hentry

theorem mem_readers_retireReader (s : Controller) (a : Nat) :
    a ∈ readers s.retireReader ↔ a ∈ readers s := by
  rw [Controller.retireReader]
  cases hreader : s.inputReader with
  | none => exact Iff.rfl
  | some reader => simp [readers, hreader, or_comm]

theorem addressed_retireReader {s : Controller} (h : Addressed s) : Addressed s.retireReader := by
  cases hreader : s.inputReader with
  | none => simpa only [Controller.retireReader, hreader] using h
  | some reader =>
      have hreaders : readers s = reader.address :: s.loop.toRetire := by
        rw [readers, hreader]
        rfl
      have hmem := mem_readers_retireReader s
      have hnodup : (readers s.retireReader).Perm (readers s) := by
        simp only [readers, Controller.retireReader, hreader, EventLoop.retire_toRetire]
        exact List.perm_append_singleton _ _
      refine ⟨hnodup.nodup_iff.2 h.nodup, fun a ha => ?_, fun a ha => (hmem a).2 (h.known a ?_),
        fun a ha => ?_⟩
      · rw [Controller.retireReader, hreader]
        exact h.fresh a ((hmem a).1 ha)
      · simpa [Controller.retireReader, hreader] using ha
      · simp only [Controller.retireReader, hreader, EventLoop.retire_toRetire,
          EventLoop.retire_toRemove, List.mem_append] at ha ⊢
        exact ha.imp_left (h.leaving a)

theorem mem_readers_udevDispatch (pad : Pad) (s : Controller)
    (action devNode subSystem : Option String) (bt usb : Scan) (a : Nat) :
    a ∈ readers (s.udevDispatch pad action devNode subSystem bt usb) ↔ a ∈ readers s := by
  match action, subSystem with
  | none, _ | some _, none => exact Iff.rfl
  | some action, some subSystem =>
      rw [Controller.udevDispatch, Controller.udevCallback]
      split_ifs
      · exact mem_readers_retireReader s a
      · exact Iff.rfl
      · exact Iff.rfl

theorem onInterfacesRemoved_reader (pad : Pad) (s : Controller) (objectPath : String)
    (interfaces : List String) :
    SameReader s (s.onInterfacesRemoved pad objectPath interfaces) := by
  apply List.foldlRecOn interfaces (motive := SameReader s) _ ⟨rfl, rfl, rfl⟩
  intro s' hs' interface _
  have hs := removeInterface_reader pad s' objectPath interface
  exact ⟨hs.inputReader.trans hs'.inputReader, hs.loop.trans hs'.loop,
    hs.nextAddress.trans hs'.nextAddress⟩

structure Kept (p : Process) : Prop where
  held : Held (readers p.controller) p.fds
  addressed : Addressed p.controller

theorem kept_next (pad : Pad) (p : Process) (a : Action) (h : Kept p) (he : enabled p a) :
    Kept (next pad p a) := by
  have hJ : Keeps Addressed := ⟨fun _ _ h hs => h.of_same hs, fun _ opens key =>
    addressed_attach opens key⟩
  obtain ⟨s, fds⟩ := p
  obtain ⟨event, nodes⟩ := a
  obtain ⟨hheld, haddressed⟩ := h
  cases event with
  | interfacesAdded out objectPath interfaces =>
      have hsound := sound_addInterfaces pad ⟨hheld, haddressed, fun _ => he.2⟩ he.1 objectPath
        interfaces.toList
      exact ⟨hsound.held, hsound.addressed⟩
  | interfacesRemoved objectPath removed =>
      have hsame := onInterfacesRemoved_reader pad s objectPath removed
      exact ⟨(readers_of_same hsame).symm ▸ hheld, haddressed.of_same hsame⟩
  | propertiesChanged objectPath changed =>
      have hsame : SameReader s (s.devicePropertiesChanged objectPath changed) := by
        rw [Controller.devicePropertiesChanged]
        cases s.devices[objectPath]? <;> exact ⟨rfl, rfl, rfl⟩
      exact ⟨(readers_of_same hsame).symm ▸ hheld, haddressed.of_same hsame⟩
  | udev action devNode subSystem bt usb =>
      exact ⟨hheld.of_mem_iff (mem_readers_udevDispatch pad s action devNode subSystem bt usb),
        hJ.udev (fun _ => addressed_retireReader) pad haddressed action devNode subSystem bt usb⟩
  | applyPending =>
      have hsplit := List.nodup_append.1 haddressed.nodup
      have hreaders : readers { s with loop := s.loop.applyPending } =
          (s.inputReader.map Reader.address).toList := List.append_nil _
      have hleft (a : Nat) : a ∈ readers { s with loop := s.loop.applyPending } ↔
          a ∈ readers s ∧ a ∉ s.loop.toRetire := by
        rw [hreaders, readers, List.mem_append]
        refine ⟨fun ha => ⟨Or.inl ha, fun hretired => hsplit.2.2 a ha a hretired rfl⟩, fun ha => ?_⟩
        exact ha.1.resolve_right ha.2
      refine ⟨held_destroyed hheld hsplit.2.1 (fun a ha => List.mem_append_right _ ha) hleft,
        ?_, fun a ha => ?_, fun a ha => ?_, fun a ha => by cases ha⟩
      · show (readers { s with loop := s.loop.applyPending }).Nodup
        rw [hreaders]
        exact hsplit.1
      · exact haddressed.fresh a ((hleft a).1 ha).1
      · have hmem : a ∈ s.loop.applyPending.sources := ha.resolve_right List.not_mem_nil
        rw [EventLoop.mem_applyPending_sources] at hmem
        exact (hleft a).2 ⟨haddressed.known a hmem.1, fun hr => hmem.2 (haddressed.leaving a hr)⟩
  | hungUp source =>
      have hreaders : readers { s with loop := s.loop.remove source } = readers s := by
        rw [readers, EventLoop.remove_toRetire, readers]
      refine ⟨hheld.of_mem_iff fun a => ?_, ?_, ?_, ?_, ?_⟩ <;>
        simp only [next, handle, hreaders]
      · exact haddressed.nodup
      · exact haddressed.fresh
      · simpa using haddressed.known
      · intro a ha
        simp only [EventLoop.remove_toRetire, EventLoop.remove_toRemove] at ha ⊢
        exact List.mem_append_left _ (haddressed.leaving a ha)

/-- Each descriptor is closed once each time it has been opened. It is open as
long as the reader lives that opened it, the sources that the loop polls among
them, and at the end of main() none is. -/
structure ClosesDescriptors (p : Process) : Prop where
  once : ∀ fd, Alternates fd false p.fds.log
  opened : ∀ fd, heldAfter fd false p.fds.log = true ↔
    ∃ a ∈ readers p.controller, p.fds.ownedBy (.fdOf a) = some fd
  polled : ∀ a ∈ p.controller.loop.sources, ∃ fd, p.fds.ownedBy (.fdOf a) = some fd ∧
    heldAfter fd false p.fds.log = true
  atEnd : ∀ fd, Alternates fd false (program.after p.fds (shutdown p.controller)).log ∧
    heldAfter fd false (program.after p.fds (shutdown p.controller)).log = false

theorem closesDescriptors_of_kept {p : Process} (h : Kept p) : ClosesDescriptors p := by
  obtain ⟨honce, hopened⟩ := h.held.closesOnce
  refine ⟨honce, hopened, fun a ha => ?_, fun fd => ?_⟩
  · have hreader := h.addressed.known a (Or.inl ha)
    obtain ⟨fd, hfd⟩ := h.held.ownedBy_of_mem hreader
    exact ⟨fd, hfd, (hopened fd).2 ⟨a, hreader, hfd⟩⟩
  · have hend : Held [] (program.after p.fds (shutdown p.controller)) :=
      held_destroyed h.held h.addressed.nodup (fun a ha => ha) fun a =>
        iff_of_false List.not_mem_nil fun ha => ha.2 ha.1
    refine ⟨hend.closesOnce.1 fd, ?_⟩
    rw [Bool.eq_false_iff, ne_eq, hend.closesOnce.2]
    rintro ⟨a, ha, -⟩
    cases ha

/-- In every run of a controller, whichever nodes can be opened and however they
come and go, provided only that open() returns no descriptor that is open. -/
theorem descriptors_closed (pad : Pad) (wakeFd : Int) (bt usb : Scan) (as : List Action)
    (hv : (system pad).Valid (initial pad wakeFd bt usb) as) :
    ClosesDescriptors ((system pad).after (initial pad wakeFd bt usb) as) := by
  have hstart : Kept (initial pad wakeFd bt usb) := by
    refine ⟨⟨FdOwnership.inv_initial, ⟨rfl, rfl, rfl⟩, ?_, fun _ _ => rfl⟩, ⟨?_, ?_, ?_, ?_⟩⟩
    · exact fun a ha => nomatch ha
    · exact List.nodup_nil
    · exact fun a ha => nomatch ha
    · rintro a (ha | ha) <;> cases ha
    · exact fun a ha => nomatch ha
  exact closesDescriptors_of_kept ((system pad).invariant (kept_next pad) hstart hv)

/-- A DualSense comes, and its node is removed. -/
def comesAndGoes : List Action :=
  [⟨.interfacesAdded noThrow "/org/bluez/hci0/dev_A0_FA_9C_00_00_01"
      (.ofList [("org.bluez.Device1", dualSenseDevice)]), fun _ => ⟨7, true⟩⟩,
    ⟨.udev (some "remove") (some "/dev/hidraw1") (some "hidraw") ⟨[], []⟩ ⟨[], []⟩,
      fun _ => ⟨-1, false⟩⟩,
    ⟨.applyPending, fun _ => ⟨-1, false⟩⟩]

theorem descriptors_closed_comesAndGoes :
    ClosesDescriptors ((system .dualSense).after
      (initial .dualSense 3 dualSenseScan ⟨[], []⟩) comesAndGoes) :=
  descriptors_closed .dualSense 3 dualSenseScan ⟨[], []⟩ comesAndGoes
    ⟨⟨fun _ => rfl, fun _ _ => (fun h => nomatch h)⟩,
      ⟨trivial, fun _ _ => ne_of_neg (Int.negSucc_lt_zero 0)⟩,
      ⟨trivial, fun _ _ => ne_of_neg (Int.negSucc_lt_zero 0)⟩, trivial⟩

end SdbusExamples.ReaderDescriptors
