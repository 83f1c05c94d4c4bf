import SdbusExamples.HexdumpDecoding
import SdbusExamples.KeyTables
import SdbusExamples.LabelledReports
import SdbusExamples.PropertyItems

namespace SdbusExamples.Hostname1Client

open KeyTables KeyedUpdates LabelledReports LatestEvents NumberBases OStreams PropertyItems
  PropertyTypes Variants
open HexdumpDecoding (cellText decodeCell decodeCell_cellText length_cellText
  newline_not_mem_cellText readCells readCells_flatten)

/-- The members that updateHostname1() has a case for, in its order. -/
inductive Key
  | hostname
  | staticHostname
  | prettyHostname
  | defaultHostname
  | hostnameSource
  | iconName
  | chassis
  | deployment
  | location
  | kernelName
  | kernelRelease
  | kernelVersion
  | operatingSystemPrettyName
  | operatingSystemCPEName
  | operatingSystemSupportEnd
  | operatingSystemHomeURL
  | hardwareVendor
  | hardwareModel
  | firmwareVersion
  | firmwareVendor
  | firmwareDate
  | machineID
  | bootID
deriving DecidableEq

/-- std::string, or std::optional of a string, a uint64_t or a vector of bytes. -/
inductive Kind
  | string
  | optionalString
  | optionalUint64
  | optionalBytes
deriving DecidableEq

namespace Kind

def Member : Kind → Type
  | .string => Text
  | .optionalString => Option Text
  | .optionalUint64 => Option Nat
  | .optionalBytes => Option (List Byte)

def initial : (kind : Kind) → kind.Member
  | .string => []
  | .optionalString | .optionalUint64 | .optionalBytes => none

def get : (kind : Kind) → Variant → Option kind.Member
  | .string, value => value.getString.map String.toList
  | .optionalString, value => value.getString.map fun text => some text.toList
  | .optionalUint64, value => value.getUint64.map fun n => some n.toNat
  | .optionalBytes, value => value.getBytes.map some

end Kind

namespace Key

def kind : Key → Kind
  | .hostname | .staticHostname | .kernelName | .kernelRelease | .kernelVersion
  | .operatingSystemPrettyName | .operatingSystemCPEName => .string
  | .prettyHostname | .defaultHostname | .hostnameSource | .iconName | .chassis | .deployment
  | .location | .operatingSystemHomeURL | .hardwareVendor | .hardwareModel | .firmwareVersion
  | .firmwareVendor => .optionalString
  | .operatingSystemSupportEnd | .firmwareDate => .optionalUint64
  | .machineID | .bootID => .optionalBytes

def name : Key → String
  | .hostname => "Hostname"
  | .staticHostname => "StaticHostname"
  | .prettyHostname => "PrettyHostname"
  | .defaultHostname => "DefaultHostname"
  | .hostnameSource => "HostnameSource"
  | .iconName => "IconName"
  | .chassis => "Chassis"
  | .deployment => "Deployment"
  | .location => "Location"
  | .kernelName => "KernelName"
  | .kernelRelease => "KernelRelease"
  | .kernelVersion => "KernelVersion"
  | .operatingSystemPrettyName => "OperatingSystemPrettyName"
  | .operatingSystemCPEName => "OperatingSystemCPEName"
  | .operatingSystemSupportEnd => "OperatingSystemSupportEnd"
  | .operatingSystemHomeURL => "OperatingSystemHomeURL"
  | .hardwareVendor => "HardwareVendor"
  | .hardwareModel => "HardwareModel"
  | .firmwareVersion => "FirmwareVersion"
  | .firmwareVendor => "FirmwareVendor"
  | .firmwareDate => "FirmwareDate"
  | .machineID => "MachineID"
  | .bootID => "BootID"

/-- One member is printed under another name than it is assigned under. -/
def label : Key → Line
  | .operatingSystemHomeURL => "\tOperatingSystemHomeUrl: ".toList
  | k => ("\t" ++ k.name ++ ": ").toList

def all : List Key :=
  [.hostname, .staticHostname, .prettyHostname, .defaultHostname, .hostnameSource, .iconName,
    .chassis, .deployment, .location, .kernelName, .kernelRelease, .kernelVersion,
    .operatingSystemPrettyName, .operatingSystemCPEName, .operatingSystemSupportEnd,
    .operatingSystemHomeURL, .hardwareVendor, .hardwareModel, .firmwareVersion, .firmwareVendor,
    .firmwareDate, .machineID, .bootID]

theorem mem_all (k : Key) : k ∈ all := by
  cases k <;> decide

end Key

/-- hostname1_, MachineID_ and BootID_, by their members. -/
abbrev Hostname1 := (k : Key) → k.kind.Member

def initial : Hostname1 := fun k => k.kind.initial

def keyOf (key : String) : Option Key := Key.all.find? fun k => k.name = key

/-- One round of the loop; `none` when get() throws. -/
def setMember (hostname1 : Hostname1) (key : String) (value : Variant) : Option Hostname1 :=
  match keyOf key with
  | some k => (k.kind.get value).map (Function.update hostname1 k)
  | none => some hostname1

/-- An sdbus::Error leaves the loop, and what was assigned before stays. -/
def updateHostname1 (hostname1 : Hostname1) (changedProperties : PropertyMap) :
    Hostname1 × Bool :=
  setAll setMember hostname1 changedProperties.toList

def putLine (label text : Text) (os : OStream) : OStream :=
  os <<< label <<< text <<< Manipulator.endl

def putNonempty (label text : Text) (os : OStream) : OStream :=
  if text = [] then os else putLine label text os

def Kind.put (label : Text) : (kind : Kind) → kind.Member → OStream → OStream
  | .string, s, os => putNonempty label s os
  | .optionalString, some s, os => putLine label s os
  | .optionalUint64, some n, os => os <<< label <<< Number.unsigned n <<< Manipulator.endl
  | .optionalBytes, some vec, os => putBytes (os <<< label) vec <<< Manipulator.endl
  | .optionalString, none, os => os
  | .optionalUint64, none, os => os
  | .optionalBytes, none, os => os

def printHostname1 (hostname1 : Hostname1) : Text :=
  let os := Key.all.foldl (fun os (k : Key) => k.kind.put k.label (hostname1 k) os) OStream.fresh
  '\n' :: os.text

section Updates

theorem keyOf_name (k : Key) : keyOf k.name = some k := by
  cases k <;> rfl

theorem name_of_keyOf {key : String} {k : Key} (h : keyOf key = some k) : k.name = key := by
  simpa using List.find?_some h

def table : KeyTable Hostname1 Variant where
  Key := Key
  name := Key.name
  keyOf := keyOf
  Value k := k.kind.Member
  get k := k.kind.get
  read k hostname1 := hostname1 k
  write k hostname1 v := Function.update hostname1 k v
  keyOf_name := keyOf_name
  name_of_keyOf _ _ := name_of_keyOf
  read_write k hostname1 v := Function.update_self k v hostname1
  read_write_of_ne _ _ hostname1 v h := Function.update_of_ne h v hostname1

instance : DecidableEq table.Key := inferInstanceAs (DecidableEq Key)

theorem setMember_eq : setMember = table.set := by
  funext hostname1 key value
  cases hk : keyOf key with
  | none =>
      have hkey : table.keyOf key = none := hk
      rw [setMember, KeyTable.set, hk, hkey]
  | some k =>
      have hkey : table.keyOf key = some k := hk
      rw [setMember, KeyTable.set, hk, hkey]
      rfl

def afterUpdates (ms : List PropertyMap) : Hostname1 :=
  ms.foldl (fun hostname1 m => (updateHostname1 hostname1 m).1) initial

def announced (k : Key) (m : PropertyMap) : Option k.kind.Member :=
  reached table.IllTyped k.name k.kind.get m

theorem afterUpdates_eq (ms : List PropertyMap) (k : Key) :
    afterUpdates ms k = latest (announced k) k.kind.initial ms := by
  have hstep : (fun hostname1 m => (updateHostname1 hostname1 m).1) =
      fun hostname1 m => (setAll table.set hostname1 m.toList).1 := by
    rw [← setMember_eq]
    rfl
  rw [afterUpdates, hstep]
  exact table.foldl_setAll k initial ms

end Updates

section Printing

/-- No member has items; the lines of a list would begin with two tabs. -/
def bullet : Line := "\t\t".toList

def bytesText (vec : List Byte) : Text := vec.flatMap fun b => hexByte b ++ [' ']

def nonemptyEntry (text : Text) : Option Entry := if text = [] then none else some ⟨text, []⟩

def lineItems (label text : Text) : List Item := [.text label, .text text, .text ['\n']]

def nonemptyItems (label text : Text) : List Item := if text = [] then [] else lineItems label text

namespace Kind

def entry : (kind : Kind) → kind.Member → Option Entry
  | .string, s => nonemptyEntry s
  | .optionalString, s => s.map fun text => ⟨text, []⟩
  | .optionalUint64, n => n.map fun n => ⟨Nat.toDigits 10 n, []⟩
  | .optionalBytes, vec => vec.map fun vec => ⟨bytesText vec, []⟩

def items (label : Text) : (kind : Kind) → kind.Member → List Item
  | .string, s => nonemptyItems label s
  | .optionalString, some s => lineItems label s
  | .optionalUint64, some n => [.text label, .number (.unsigned n), .text ['\n']]
  | .optionalBytes, some vec => .text label :: (byteItems vec ++ [.text ['\n']])
  | .optionalString, none => []
  | .optionalUint64, none => []
  | .optionalBytes, none => []

end Kind

theorem writes_line (label text : Text) : Writes (putLine label text) (lineItems label text) :=
  ((Writes.nil.text label).text text).endl

theorem writes_nonempty (label text : Text) :
    Writes (putNonempty label text) (nonemptyItems label text) :=
  Writes.ite Writes.nil (writes_line label text)

theorem writes_put (label : Text) (kind : Kind) (member : kind.Member) :
    Writes (kind.put label member) (kind.items label member) := by
  cases kind with
  | string => exact writes_nonempty label member
  | optionalString =>
      cases member with
      | none => exact Writes.nil
      | some s => exact writes_line label s
  | optionalUint64 =>
      cases member with
      | none => exact Writes.nil
      | some n => exact ((Writes.nil.text label).number (.unsigned n)).endl
  | optionalBytes =>
      cases member with
      | none => exact Writes.nil
      | some vec => exact (writes_bytes (Writes.nil.text label) vec).endl

theorem render_bytes (base : Base) (vec : List Byte) (cs : Text) :
    render base (byteItems vec ++ [.text cs]) = bytesText vec ++ cs := by
  induction vec generalizing base with
  | nil => exact List.append_nil cs
  | cons b vec ih =>
      have htail := ih .hex
      rw [bytesText, List.flatMap_cons, ← bytesText, List.append_assoc, ← htail]
      exact (List.append_assoc (hexByte b) _ _).symm

theorem textOf_entry (label text : Text) :
    textOf ((Part.field label (some ⟨text, []⟩)).lines bullet) = label ++ text ++ ['\n'] :=
  List.append_nil _

theorem render_line (base : Base) (label text : Text) :
    render base (lineItems label text) = label ++ text ++ ['\n'] := by
  rw [lineItems, List.append_assoc]
  rfl

theorem render_nonempty (base : Base) (label text : Text) :
    render base (nonemptyItems label text) =
      textOf ((Part.field label (nonemptyEntry text)).lines bullet) := by
  rw [nonemptyItems, nonemptyEntry]
  split
  · rfl
  · rw [render_line, textOf_entry]

theorem render_items (label : Text) (kind : Kind) (member : kind.Member) {base : Base}
    (h : base = .dec ∨ kind ≠ .optionalUint64) :
    render base (kind.items label member) =
      textOf ((Part.field label (kind.entry member)).lines bullet) := by
  cases kind with
  | string => exact render_nonempty base label member
  | optionalString =>
      cases member with
      | none => rfl
      | some s => exact (render_line base label s).trans (textOf_entry label s).symm
  | optionalUint64 =>
      obtain rfl := h.resolve_right fun hne => hne rfl
      cases member with
      | none => rfl
      | some n =>
          refine Eq.trans ?_ (textOf_entry label (Nat.toDigits 10 n)).symm
          rw [List.append_assoc]
          rfl
  | optionalBytes =>
      cases member with
      | none => rfl
      | some vec =>
          refine Eq.trans ?_ (textOf_entry label (bytesText vec)).symm
          rw [List.append_assoc, ← render_bytes base]
          rfl

theorem baseAfter_items (label : Text) {kind : Kind} (h : kind ≠ .optionalBytes)
    (member : kind.Member) (base : Base) : baseAfter base (kind.items label member) = base := by
  cases kind with
  | string =>
      have hnonempty (text : Text) : baseAfter base (nonemptyItems label text) = base := by
        rw [nonemptyItems]
        split <;> rfl
      exact hnonempty member
  | optionalString => cases member <;> rfl
  | optionalUint64 => cases member <;> rfl
  | optionalBytes => exact absurd rfl h

def part (hostname1 : Hostname1) (k : Key) : Part := .field k.label (k.kind.entry (hostname1 k))

/-- The hexadecimal base that an id leaves reaches no number. -/
theorem render_members (hostname1 : Hostname1) {ks : List Key}
    (horder : ks.Pairwise fun k l => k.kind = .optionalBytes → l.kind ≠ .optionalUint64)
    {base : Base} (hbase : base = .dec ∨ ∀ k ∈ ks, k.kind ≠ .optionalUint64) :
    render base (ks.flatMap fun k => k.kind.items k.label (hostname1 k)) =
      textOf (linesOf bullet (ks.map (part hostname1))) := by
  induction ks generalizing base with
  | nil => rfl
  | cons k ks ih =>
      rw [List.pairwise_cons] at horder
      have hk : base = .dec ∨ k.kind ≠ .optionalUint64 :=
        hbase.imp_right fun h => h k List.mem_cons_self
      have hrest : baseAfter base (k.kind.items k.label (hostname1 k)) = .dec ∨
          ∀ l ∈ ks, l.kind ≠ .optionalUint64 := by
        by_cases hbytes : k.kind = .optionalBytes
        · exact Or.inr fun l hl => horder.1 l hl hbytes
        · rw [baseAfter_items k.label hbytes]
          exact hbase.imp_right fun h l hl => h l (List.mem_cons_of_mem k hl)
      rw [List.flatMap_cons, render_append, render_items _ _ _ hk, ih horder.2 hrest,
        List.map_cons, linesOf_cons, textOf_append]
      rfl

theorem printHostname1_eq (hostname1 : Hostname1) :
    printHostname1 hostname1 =
      textOf (linesOf bullet (.fixed [] :: Key.all.map (part hostname1))) := by
  have hwrites := Writes.foldl (fun k : Key => writes_put k.label k.kind (hostname1 k)) Key.all
  have htext := (hwrites OStream.fresh rfl).1
  have horder : Key.all.Pairwise fun k l =>
      k.kind = .optionalBytes → l.kind ≠ .optionalUint64 := by decide
  rw [linesOf_cons, textOf_append, ← render_members hostname1 horder (Or.inl rfl)]
  exact congrArg ('\n' :: ·) htext

end Printing

section Reading

def readBytes (text : Text) : List Byte := (readCells (text.length / 3) text).filterMap decodeCell

def Kind.decode : (kind : Kind) → Option Entry → kind.Member
  | .string, e => (e.map (·.text)).getD []
  | .optionalString, e => e.map (·.text)
  | .optionalUint64, e => e.map fun e => Nat.ofDigitChars 10 e.text 0
  | .optionalBytes, e => e.map fun e => readBytes e.text

theorem readBytes_bytesText (vec : List Byte) : readBytes (bytesText vec) = vec := by
  have hcells : bytesText vec = (vec.map fun b => cellText [b] 0).flatten := rfl
  have hthree : ∀ c ∈ vec.map fun b => cellText [b] 0, c.length = 3 := by
    intro c hc
    obtain ⟨b, -, rfl⟩ := List.mem_map.1 hc
    exact length_cellText [b] 0
  have hlength : (bytesText vec).length / 3 = (vec.map fun b => cellText [b] 0).length := by
    rw [hcells, List.length_flatten, List.map_congr_left hthree, List.map_const',
      List.sum_replicate_nat, Nat.mul_div_cancel _ (by decide)]
  have hread := readCells_flatten hthree []
  rw [List.append_nil, ← hcells, ← hlength] at hread
  rw [readBytes, hread, List.filterMap_map]
  have hdecode : decodeCell ∘ (fun b => cellText [b] 0) = some := by
    funext b
    exact decodeCell_cellText [b] 0
  rw [hdecode, List.filterMap_some]

theorem decode_entry (kind : Kind) (member : kind.Member) :
    kind.decode (kind.entry member) = member := by
  cases kind with
  | string =>
      have hnonempty (text : Text) : ((nonemptyEntry text).map (·.text)).getD [] = text := by
        rw [nonemptyEntry]
        split
        · rename_i h
          exact h.symm
        · rfl
      exact hnonempty member
  | optionalString => cases member <;> rfl
  | optionalUint64 =>
      cases member with
      | none => rfl
      | some n => exact congrArg some Nat.ofDigitChars_ten_toDigits
  | optionalBytes =>
      cases member with
      | none => rfl
      | some vec => exact congrArg some (readBytes_bytesText vec)

def Unbroken (text : Text) : Prop := '\n' ∉ text

def Kind.OneLine : (kind : Kind) → kind.Member → Prop
  | .string, s => Unbroken s
  | .optionalString, s => ∀ text, s = some text → Unbroken text
  | .optionalUint64, _ => True
  | .optionalBytes, _ => True

theorem newline_not_mem_bytesText (vec : List Byte) : '\n' ∉ bytesText vec := by
  intro h
  obtain ⟨b, -, hb⟩ := List.mem_flatMap.1 h
  exact newline_not_mem_cellText [b] 0 hb

theorem newline_not_mem_entry {kind : Kind} {member : kind.Member} (h : kind.OneLine member) :
    ∀ e ∈ kind.entry member, '\n' ∉ e.text ∧ ∀ item ∈ e.items, '\n' ∉ item := by
  intro e he
  cases kind with
  | string =>
      have hnonempty (text : Text) (htext : Unbroken text) (he : nonemptyEntry text = some e) :
          '\n' ∉ e.text ∧ ∀ item ∈ e.items, '\n' ∉ item := by
        rw [nonemptyEntry] at he
        split at he
        · cases he
        · obtain rfl := Option.some.inj he
          exact ⟨htext, List.forall_mem_nil _⟩
      exact hnonempty member h he
  | optionalString =>
      obtain ⟨text, htext, rfl⟩ := Option.map_eq_some_iff.1 he
      exact ⟨h text htext, List.forall_mem_nil _⟩
  | optionalUint64 =>
      obtain ⟨n, -, rfl⟩ := Option.map_eq_some_iff.1 he
      refine ⟨fun hmem => ?_, List.forall_mem_nil _⟩
      exact absurd (mem_hexDigits (by decide) (by decide) n '\n' hmem) (by decide)
  | optionalBytes =>
      obtain ⟨vec, -, rfl⟩ := Option.map_eq_some_iff.1 he
      exact ⟨newline_not_mem_bytesText vec, List.forall_mem_nil _⟩

theorem newline_not_mem_label (k : Key) : '\n' ∉ k.label := by
  cases k <;> decide

theorem readable_labels : Readable bullet (Key.all.map Key.label) [[], []] := by
  decide

theorem decode_readBack {hostname1 : Hostname1} (h : ∀ k : Key, k.kind.OneLine (hostname1 k))
    (k : Key) :
    k.kind.decode (readBack bullet k.label (printHostname1 hostname1)) = hostname1 k := by
  have hreadable : Readable bullet (labels (.fixed [] :: Key.all.map (part hostname1)))
      ([] :: fixedLines (.fixed [] :: Key.all.map (part hostname1))) := readable_labels
  have hmem : part hostname1 k ∈ Part.fixed [] :: Key.all.map (part hostname1) :=
    List.mem_cons_of_mem _ (List.mem_map_of_mem (Key.mem_all k))
  have hlines : ∀ p ∈ Part.fixed [] :: Key.all.map (part hostname1), p.OneLine := by
    rw [List.forall_mem_cons]
    refine ⟨List.not_mem_nil, ?_⟩
    intro p hp
    obtain ⟨l, -, rfl⟩ := List.mem_map.1 hp
    exact ⟨newline_not_mem_label l, newline_not_mem_entry (h l)⟩
  rw [printHostname1_eq, readBack_textOf hreadable (by decide) hlines hmem]
  exact decode_entry k.kind (hostname1 k)

end Reading

section Runs

variable {ms : List PropertyMap}

theorem value_of_announced {k : Key} {m : PropertyMap} {member : k.kind.Member}
    (h : announced k m = some member) :
    ∃ value ∈ m[k.name]?, k.kind.get value = some member := by
  rw [announced, reached] at h
  split at h
  · cases h
  · exact Option.bind_eq_some_iff.1 h

theorem oneLine_initial (kind : Kind) : kind.OneLine kind.initial := by
  cases kind with
  | string => exact List.not_mem_nil
  | optionalString => intro text h; cases h
  | optionalUint64 => exact trivial
  | optionalBytes => exact trivial

theorem oneLine_of_get {kind : Kind} {value : Variant} {member : kind.Member}
    (h : ∀ text ∈ value.getString, '\n' ∉ text.toList) (hget : kind.get value = some member) :
    kind.OneLine member := by
  cases kind with
  | string =>
      obtain ⟨text, htext, rfl⟩ := Option.map_eq_some_iff.1 hget
      exact h text htext
  | optionalString =>
      obtain ⟨text, htext, rfl⟩ := Option.map_eq_some_iff.1 hget
      intro other hother
      obtain rfl := Option.some.inj hother
      exact h text htext
  | optionalUint64 => exact trivial
  | optionalBytes => exact trivial

theorem oneLine_afterUpdates
    (h : ∀ m ∈ ms, ∀ k : Key, ∀ value ∈ m[k.name]?, ∀ text ∈ value.getString,
      '\n' ∉ text.toList)
    (k : Key) : k.kind.OneLine (afterUpdates ms k) := by
  rw [afterUpdates_eq]
  by_cases hinitial : latest (announced k) k.kind.initial ms = k.kind.initial
  · rw [hinitial]
    exact oneLine_initial k.kind
  · obtain ⟨pre, m, post, hms, hset, -⟩ := exists_last_of_latest rfl hinitial
    have hm : m ∈ ms := by
      rw [hms]
      exact List.mem_append_right _ List.mem_cons_self
    obtain ⟨value, hvalue, hget⟩ := value_of_announced hset
    exact oneLine_of_get (h m hm k value hvalue) hget

/-- After GetAll and any signals the report shows, under the label of each member,
the last value that reached it. -/
theorem report_shows_latest
    (h : ∀ m ∈ ms, ∀ k : Key, ∀ value ∈ m[k.name]?, ∀ text ∈ value.getString,
      '\n' ∉ text.toList)
    (k : Key) :
    k.kind.decode (readBack bullet k.label (printHostname1 (afterUpdates ms))) =
      latest (announced k) k.kind.initial ms := by
  rw [decode_readBack (oneLine_afterUpdates h)]
  exact afterUpdates_eq ms k

/-- The signal has a value of a wrong type between two others. -/
def renamed : List PropertyMap :=
  [.ofList [("Hostname", Variant.plain (.s "desk")),
      ("MachineID", Variant.plain (.ay [0x0f, 0xa0]))],
    .ofList [("BootID", Variant.plain (.ay [1])), ("Chassis", Variant.plain (.u 1)),
      ("Hostname", Variant.plain (.s ""))]]

theorem report_shows_latest_renamed :
    Kind.decode .string
      (readBack bullet (Key.label .hostname) (printHostname1 (afterUpdates renamed))) =
        "desk".toList := by
  refine (report_shows_latest ?_ .hostname).trans ?_
  · intro m hm k
    rcases List.mem_pair.1 hm with rfl | rfl <;> cases k <;> decide
  · have hlatest : @Eq Text (latest (announced .hostname) (Kind.initial .string) renamed)
        "desk".toList := by decide
    exact hlatest

end Runs

end SdbusExamples.Hostname1Client
