import SdbusExamples.Hidraw
import SdbusExamples.LastWriter

namespace SdbusExamples.HidrawTable

open Hidraw LastWriter

def Reordered (scan scan' : Scan) : Prop :=
  scan.input.Perm scan'.input ∧ scan.hidraw.Perm scan'.hidraw

/-- A matching input device with the serial number `uniq` has a sibling hidraw
device with the node `node`. -/
def HasNode (matchParams : List (String × String)) (scan : Scan) (uniq node : String) : Prop :=
  ∃ input ∈ getUdevProperties scan.input matchParams,
    ∃ hidraw ∈ getUdevProperties scan.hidraw [],
      compareSubsystemDevicePaths input.1 hidraw.1 = true ∧
      input.2["UNIQ"]? = some uniq ∧ hidraw.2["DEVNAME"]? = some node

def SameUpToCase (a b : String) : Prop :=
  List.Forall₂ (fun c d => c.toUpper = d.toUpper) (stripQuotes a.toList) (stripQuotes b.toList)

def SameChar (c d : Char) : Prop :=
  c.toUpper = d.toUpper ∨ (c ∈ [':', '_'] ∧ d ∈ [':', '_'])

def SameSerial (a b : String) : Prop :=
  List.Forall₂ SameChar (stripQuotes a.toList) (stripQuotes b.toList)

theorem toUpper_val_of_lower {c : Char} (h : 'a'.val ≤ c.val ∧ c.val ≤ 'z'.val) :
    65 ≤ c.toUpper.val.toNat ∧ c.toUpper.val.toNat ≤ 90 := by
  have hmove : ('A'.val - 'a'.val).toNat = 2 ^ 32 - 32 := by decide
  have hlow : 97 ≤ c.val.toNat := h.1
  have hhigh : c.val.toNat ≤ 122 := h.2
  have hupper : c.toUpper = ⟨c.val + ('A'.val - 'a'.val), _⟩ := dif_pos h
  rw [hupper]
  simp only [UInt32.toNat_add, hmove]
  omega

theorem toUpper_eq_iff {c d : Char} (hd : d = ':' ∨ d = '_') : c.toUpper = d ↔ c = d := by
  by_cases h : 'a'.val ≤ c.val ∧ c.val ≤ 'z'.val
  · have hupper := toUpper_val_of_lower h
    constructor
    · rintro rfl
      rcases hd with hd | hd <;> rw [hd] at hupper <;> exact absurd hupper (by decide)
    · rintro rfl
      rcases hd with rfl | rfl <;> exact absurd h (by decide)
  · have hsame : c.toUpper = c := dif_neg h
    rw [hsame]

theorem keyChar_eq_iff (c d : Char) :
    (if c.toUpper = ':' then '_' else c.toUpper) = (if d.toUpper = ':' then '_' else d.toUpper) ↔
      SameChar c d := by
  have hsep : ∀ x : Char, x ∈ [':', '_'] ↔ x.toUpper = ':' ∨ x.toUpper = '_' := by
    intro x
    rw [toUpper_eq_iff (Or.inl rfl), toUpper_eq_iff (Or.inr rfl), List.mem_cons,
      List.mem_singleton]
  rw [SameChar, hsep, hsep]
  split_ifs with hc hd hd
  · simp [hc, hd]
  · constructor
    · intro h
      exact .inr ⟨.inl hc, .inr h.symm⟩
    · rintro (h | ⟨-, h | h⟩)
      · exact absurd (h.symm.trans hc) hd
      · exact absurd h hd
      · exact h.symm
  · constructor
    · intro h
      exact .inr ⟨.inr h, .inl hd⟩
    · rintro (h | ⟨h | h, -⟩)
      · exact absurd (h.trans hd) hc
      · exact absurd h hc
      · exact h
  · grind

theorem createDeviceKey_eq_iff (a b : String) :
    createDeviceKeyFromSerialNumber a = createDeviceKeyFromSerialNumber b ↔ SameSerial a b := by
  simp only [createDeviceKeyFromSerialNumber, List.map_map, SameSerial]
  rw [String.append_right_inj, String.ofList_inj, ← List.forall₂_eq_eq_eq, List.forall₂_map_left_iff,
    List.forall₂_map_right_iff]
  simp only [Function.comp_apply, keyChar_eq_iff]

def association (input hidraw : String × UdevProperties) : Option (String × String) :=
  if compareSubsystemDevicePaths input.1 hidraw.1 then
    match hidraw.2["DEVNAME"]?, input.2["UNIQ"]? with
    | some hidrawDevName, some serialNumber =>
        some (createDeviceKeyFromSerialNumber serialNumber, hidrawDevName)
    | _, _ => none
  else none

def associations (matchParams : List (String × String)) (scan : Scan) : List (String × String) :=
  (getUdevProperties scan.input matchParams).flatMap fun input =>
    (getUdevProperties scan.hidraw []).filterMap (association input)

theorem associate_eq (input hidraw : String × UdevProperties) (table : Table) :
    associate input hidraw table =
      match association input hidraw with
      | some w => table.insert w.1 w.2
      | none => table := by
  rw [associate, association]
  cases compareSubsystemDevicePaths input.1 hidraw.1 with
  | false => rfl
  | true => cases hidraw.2["DEVNAME"]? <;> cases input.2["UNIQ"]? <;> rfl

theorem foldl_associate (input : String × UdevProperties) (devices : List (String × UdevProperties))
    (table : Table) :
    devices.foldl (fun table hidraw => associate input hidraw table) table =
      (devices.filterMap (association input)).foldl (fun m w => m.insert w.1 w.2) table := by
  induction devices generalizing table with
  | nil => rfl
  | cons hidraw devices ih =>
      rw [List.foldl_cons, ih, associate_eq]
      cases hw : association input hidraw with
      | none => rw [List.filterMap_cons_none hw]
      | some w => rw [List.filterMap_cons_some hw, List.foldl_cons]

theorem getHidrawDevices_eq (matchParams : List (String × String)) (scan : Scan) :
    (getHidrawDevices matchParams scan).2 = writeAll (associations matchParams scan) := by
  unfold getHidrawDevices
  rw [associations]
  cases getUdevProperties scan.input matchParams with
  | nil => rfl
  | cons i is =>
      simp only [List.isEmpty_cons, Bool.false_eq_true, if_false, foldl_associate, writeAll,
        List.foldl_flatMap]

theorem association_eq_some {input hidraw : String × UdevProperties} {key node : String} :
    association input hidraw = some (key, node) ↔
      compareSubsystemDevicePaths input.1 hidraw.1 = true ∧
        ∃ uniq, input.2["UNIQ"]? = some uniq ∧ hidraw.2["DEVNAME"]? = some node ∧
          createDeviceKeyFromSerialNumber uniq = key := by
  rw [association]
  split
  case isTrue hsibling =>
    rw [and_iff_right hsibling]
    cases hidraw.2["DEVNAME"]? <;> cases input.2["UNIQ"]? <;> simp
    exact and_comm
  case isFalse hother => simp [hother]

theorem mem_associations {matchParams : List (String × String)} {scan : Scan} {key node : String} :
    (key, node) ∈ associations matchParams scan ↔
      ∃ uniq, HasNode matchParams scan uniq node ∧ createDeviceKeyFromSerialNumber uniq = key := by
  simp only [associations, List.mem_flatMap, List.mem_filterMap, association_eq_some, HasNode]
  constructor
  · rintro ⟨input, hinput, hidraw, hhidraw, hsibling, uniq, huniq, hnode, hkey⟩
    exact ⟨uniq, ⟨input, hinput, hidraw, hhidraw, hsibling, huniq, hnode⟩, hkey⟩
  · rintro ⟨uniq, ⟨input, hinput, hidraw, hhidraw, hsibling, huniq, hnode⟩, hkey⟩
    exact ⟨input, hinput, hidraw, hhidraw, hsibling, uniq, huniq, hnode, hkey⟩

theorem Reordered.associations_perm {scan scan' : Scan} (h : Reordered scan scan')
    (matchParams : List (String × String)) :
    (associations matchParams scan).Perm (associations matchParams scan') := by
  apply List.Perm.flatMap (h.1.filter _)
  exact fun input _ => (h.2.filter _).filterMap _

@[simp] theorem getUdevProperties_nil (devices : List (String × UdevProperties)) :
    getUdevProperties devices [] = devices :=
  List.filter_eq_self.2 fun _ _ => rfl

theorem getUdevProperties_concat {matchParams : List (String × String)}
    {d : String × UdevProperties} (h : (matchParams.all fun m => d.2[m.1]? = some m.2) = true)
    (ds : List (String × UdevProperties)) :
    getUdevProperties (ds ++ [d]) matchParams = getUdevProperties ds matchParams ++ [d] := by
  simp only [getUdevProperties, List.filter_append, List.filter_cons, h, if_true, List.filter_nil]

theorem HasNode.exists_written_last {matchParams : List (String × String)} {scan : Scan}
    {uniq node : String} (h : HasNode matchParams scan uniq node) :
    ∃ scan', Reordered scan scan' ∧
      ∃ writes, associations matchParams scan' =
        writes ++ [(createDeviceKeyFromSerialNumber uniq, node)] := by
  obtain ⟨input, hinput, hidraw, hhidraw, hsibling, huniq, hnode⟩ := h
  rw [getUdevProperties, List.mem_filter] at hinput hhidraw
  obtain ⟨is, js, hi⟩ := List.append_of_mem hinput.1
  obtain ⟨hs, ks, hh⟩ := List.append_of_mem hhidraw.1
  have hwrite : association input hidraw = some (createDeviceKeyFromSerialNumber uniq, node) :=
    association_eq_some.2 ⟨hsibling, uniq, huniq, hnode, rfl⟩
  refine ⟨⟨(is ++ js) ++ [input], (hs ++ ks) ++ [hidraw]⟩, ⟨?_, ?_⟩, ?_⟩
  · rw [hi]
    exact List.perm_middle.trans (List.perm_append_singleton input (is ++ js)).symm
  · rw [hh]
    exact List.perm_middle.trans (List.perm_append_singleton hidraw (hs ++ ks)).symm
  · rw [associations, getUdevProperties_concat hinput.2, getUdevProperties_concat hhidraw.2,
      List.flatMap_append, List.flatMap_singleton, List.filterMap_append,
      List.filterMap_cons_some hwrite, ← List.append_assoc]
    exact ⟨_, rfl⟩

def NodeOf (matchParams : List (String × String)) (scan : Scan) (address node : String) : Prop :=
  ∃ uniq, HasNode matchParams scan uniq node ∧ SameSerial uniq address

theorem mem_associations_key {matchParams : List (String × String)} {scan : Scan}
    {address node : String} :
    (createDeviceKeyFromSerialNumber address, node) ∈ associations matchParams scan ↔
      NodeOf matchParams scan address node := by
  simp only [mem_associations, createDeviceKey_eq_iff, NodeOf]

theorem consistent_iff {matchParams : List (String × String)} {scan : Scan} :
    Consistent (associations matchParams scan) ↔
      ∀ address node node', NodeOf matchParams scan address node →
        NodeOf matchParams scan address node' → node = node' := by
  constructor
  · intro h address node node' hnode hnode'
    exact h _ (mem_associations_key.2 hnode) _ (mem_associations_key.2 hnode') rfl
  · rintro h ⟨key, node⟩ hw ⟨key', node'⟩ hw' hkey
    cases hkey
    obtain ⟨uniq, huniq, rfl⟩ := mem_associations.1 hw
    exact h uniq node node' (mem_associations_key.1 hw) (mem_associations_key.1 hw')

theorem order_irrelevant_iff (matchParams : List (String × String)) (scan : Scan) :
    (∀ scan', Reordered scan scan' →
        (getHidrawDevices matchParams scan').2 = (getHidrawDevices matchParams scan).2) ↔
      ∀ address node node', NodeOf matchParams scan address node →
        NodeOf matchParams scan address node' → node = node' := by
  simp only [getHidrawDevices_eq, ← consistent_iff]
  constructor
  · intro horder
    -- the pair that is written last in some order has its node in every table
    have hlast : ∀ w ∈ associations matchParams scan,
        (writeAll (associations matchParams scan))[w.1]? = some w.2 := by
      rintro ⟨key, node⟩ hw
      obtain ⟨uniq, huniq, rfl⟩ := mem_associations.1 hw
      obtain ⟨scan', hscan', writes, hwrites⟩ := huniq.exists_written_last
      rw [← horder scan' hscan', hwrites, getElem?_writeAll_concat, if_pos rfl]
    intro w hw w' hw' hkey
    have hnode := hlast w hw
    rw [hkey, hlast w' hw'] at hnode
    exact (Option.some.inj hnode).symm
  · intro h scan' hscan'
    exact (h.writeAll_perm (hscan'.associations_perm matchParams)).symm

theorem nodeOf_findHidDevice {matchParams : List (String × String)} {scan : Scan}
    {address : String} (h : ∃ node, NodeOf matchParams scan address node) :
    NodeOf matchParams scan address (findHidDevice (getHidrawDevices matchParams scan).2
      (createDeviceKeyFromSerialNumber address)) := by
  obtain ⟨node, hnode⟩ := h
  obtain ⟨found, hfound⟩ := exists_getElem?_writeAll (mem_associations_key.2 hnode)
  rw [findHidDevice, getHidrawDevices_eq, hfound]
  exact mem_associations_key.1 (mem_of_getElem?_writeAll hfound)

theorem findHidDevice_of_none {matchParams : List (String × String)} {scan : Scan}
    {address : String} (h : ¬ ∃ node, NodeOf matchParams scan address node) :
    findHidDevice (getHidrawDevices matchParams scan).2
      (createDeviceKeyFromSerialNumber address) = "" := by
  rw [findHidDevice, getHidrawDevices_eq]
  cases hfound : (writeAll (associations matchParams scan))[createDeviceKeyFromSerialNumber address]?
  case none => rfl
  case some found =>
    exact absurd ⟨found, mem_associations_key.1 (mem_of_getElem?_writeAll hfound)⟩ h

/-- The table is the same for every order exactly when no serial number has two
nodes. In any order an address finds a node of its serial number if there is
one, and it finds all it can find where that node is the only one. -/
theorem hidrawTable_spec (matchParams : List (String × String)) (scan : Scan) :
    ((∀ scan', Reordered scan scan' →
        (getHidrawDevices matchParams scan').2 = (getHidrawDevices matchParams scan).2) ↔
      ∀ address node node', NodeOf matchParams scan address node →
        NodeOf matchParams scan address node' → node = node') ∧
    ∀ address,
      ((∃ node, NodeOf matchParams scan address node) →
        NodeOf matchParams scan address (findHidDevice (getHidrawDevices matchParams scan).2
          (createDeviceKeyFromSerialNumber address))) ∧
      ((∀ node node', NodeOf matchParams scan address node →
          NodeOf matchParams scan address node' → node = node') →
        ∀ h, h ≠ "" →
          (findHidDevice (getHidrawDevices matchParams scan).2
              (createDeviceKeyFromSerialNumber address) = h ↔
            NodeOf matchParams scan address h)) := by
  refine ⟨order_irrelevant_iff matchParams scan, fun address => ⟨nodeOf_findHidDevice, ?_⟩⟩
  intro hunique h hne
  constructor
  · rintro rfl
    by_contra hnot
    apply hne
    apply findHidDevice_of_none
    exact fun hex => hnot (nodeOf_findHidDevice hex)
  · intro hnode
    exact hunique _ _ (nodeOf_findHidDevice ⟨h, hnode⟩) hnode

/-- A pad that is connected through Bluetooth and through a cable. -/
def connectedTwice : Scan where
  input :=
    [("/sys/devices/uhid/input/input5", .ofList [("UNIQ", "aa:bb:cc:dd:ee:ff")]),
      ("/sys/devices/usb1/input/input6", .ofList [("UNIQ", "aa:bb:cc:dd:ee:ff")])]
  hidraw :=
    [("/sys/devices/uhid/hidraw/hidraw0", .ofList [("DEVNAME", "/dev/hidraw0")]),
      ("/sys/devices/usb1/hidraw/hidraw1", .ofList [("DEVNAME", "/dev/hidraw1")])]

/-- With two nodes for one serial number the order decides. -/
theorem hidrawTable_order_dependent :
    ¬ ∀ (matchParams : List (String × String)) (scan : Scan),
      (∀ scan', Reordered scan scan' →
        (getHidrawDevices matchParams scan').2 = (getHidrawDevices matchParams scan).2) ∧
      ∀ address h, h ≠ "" →
        (findHidDevice (getHidrawDevices matchParams scan).2
            (createDeviceKeyFromSerialNumber address) = h ↔
          ∃ uniq, HasNode matchParams scan uniq h ∧ SameUpToCase uniq address) := by
  intro h
  have hunique := (order_irrelevant_iff [] connectedTwice).1 (h [] connectedTwice).1
  have hserial : SameSerial "aa:bb:cc:dd:ee:ff" "AA:BB:CC:DD:EE:FF" :=
    (createDeviceKey_eq_iff _ _).1 (by decide +kernel)
  have huhid : HasNode [] connectedTwice "aa:bb:cc:dd:ee:ff" "/dev/hidraw0" :=
    ⟨connectedTwice.input[0], by simp [connectedTwice], connectedTwice.hidraw[0],
      by simp [connectedTwice], by decide +kernel, by decide +kernel, by decide +kernel⟩
  have husb : HasNode [] connectedTwice "aa:bb:cc:dd:ee:ff" "/dev/hidraw1" :=
    ⟨connectedTwice.input[1], by simp [connectedTwice], connectedTwice.hidraw[1],
      by simp [connectedTwice], by decide +kernel, by decide +kernel, by decide +kernel⟩
  exact absurd (hunique _ _ _ ⟨_, huhid, hserial⟩ ⟨_, husb, hserial⟩) (by decide)

end SdbusExamples.HidrawTable
