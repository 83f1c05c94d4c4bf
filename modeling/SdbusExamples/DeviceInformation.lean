import Mathlib.Data.List.DropRight
import SdbusExamples.LabelledReports
import SdbusExamples.NumberBases
import SdbusExamples.RemovableMonitor
import SdbusExamples.SizeFormat

namespace SdbusExamples.DeviceInformation

open LabelledReports NumberBases OStreams SizeFormat Variants

def byteArrayToString (bytes : List Byte) : Text :=
  (bytes.rdropWhile (· = 0)).map fun b => Char.ofNat b.toNat

def bullet : Line := "    - ".toList

/-- One property of printDeviceInformation. What it shows is `none` when get()
throws; `early` says that the label is in the output by then. -/
structure Row where
  key : String
  label : String
  shows : Variant → Option (Option Entry)
  early : Bool

def line (text : Text) : Option Entry := some ⟨text, []⟩

def bytesRow (key label : String) : Row :=
  ⟨key, label, fun value => value.getBytes.map fun bytes => line (byteArrayToString bytes),
    false⟩

def stringRow (key label : String) : Row :=
  ⟨key, label, fun value => value.getString.map fun text => line text.toList, true⟩

def boolRow (key label : String) : Row :=
  ⟨key, label, fun value => value.getBool.map fun b =>
    line (if b then "Yes" else "No").toList, true⟩

def sizeText (size : Nat) : Text :=
  formatSize size ++ " (".toList ++ Nat.toDigits 10 size ++ " bytes)".toList

def sizeRow (key label : String) : Row :=
  ⟨key, label, fun value => value.getUint64.map fun size => line (sizeText size.toNat), false⟩

def symlinksRow : Row :=
  ⟨"Symlinks", "  Symlinks:", fun value => value.getByteArrays.map fun symlinks =>
    if symlinks = [] then none else some ⟨[], symlinks.map byteArrayToString⟩, false⟩

def mountPointsRow : Row :=
  ⟨"MountPoints", "  Mount Points:", fun value => value.getByteArrays.map fun mountPoints =>
    if mountPoints = [] then line " (not mounted)".toList
    else some ⟨[], mountPoints.map byteArrayToString⟩, false⟩

/-- The two branches for a rotation rate; a negative one shows nothing. -/
def rotationRow : Row :=
  ⟨"RotationRate", "  Rotation Rate: ", fun value => value.getInt32.map fun rate =>
    if 0 < rate.toInt then line (decimal rate.toInt ++ " RPM".toList) else none, false⟩

def solidStateRow : Row :=
  ⟨"RotationRate", "  Type: ", fun value => value.getInt32.map fun rate =>
    if rate = 0 then line "SSD (Solid State Drive)".toList else none, false⟩

inductive Section
  | block
  | drive
  | filesystem

def Section.rows : Section → List Row
  | .block =>
      [bytesRow "Device" "  Device: ", bytesRow "PreferredDevice" "  Preferred Device: ",
        sizeRow "Size" "  Size: ", stringRow "IdUUID" "  UUID: ", stringRow "IdLabel" "  Label: ",
        stringRow "IdType" "  Filesystem Type: ", stringRow "IdUsage" "  Usage: ",
        stringRow "IdVersion" "  Version: ", boolRow "ReadOnly" "  Read-Only: ", symlinksRow]
  | .drive =>
      [stringRow "Vendor" "  Vendor: ", stringRow "Model" "  Model: ",
        stringRow "Revision" "  Revision: ", stringRow "Serial" "  Serial: ",
        stringRow "WWN" "  WWN: ", stringRow "ConnectionBus" "  Bus: ",
        sizeRow "Size" "  Drive Size: ", boolRow "Removable" "  Removable: ",
        boolRow "MediaRemovable" "  Media Removable: ", boolRow "Ejectable" "  Ejectable: ",
        stringRow "Media" "  Media: ", rotationRow, solidStateRow]
  | .filesystem => [mountPointsRow, sizeRow "Size" "  Filesystem Size: "]

/-- A part of the output, or an sdbus::Error that leaves the function after what
its statement has written. -/
inductive Step
  | part (p : Part)
  | throws (written : Line)

def Row.step (props : PropertyMap) (r : Row) : Step :=
  match props[r.key]? with
  | none => .part (.field r.label.toList none)
  | some value =>
      match r.shows value with
      | some entry => .part (.field r.label.toList entry)
      | none => .throws (if r.early then r.label.toList else [])

def output : List Step → Text × Bool
  | [] => ([], true)
  | .part p :: rest => (textOf (p.lines bullet) ++ (output rest).1, (output rest).2)
  | .throws written :: _ => (written, false)

def fixed (text : String) : Step := .part (.fixed text.toList)

def rule : Step := fixed "========================================"

def Section.steps (props : Section → PropertyMap) (s : Section) : List Step :=
  s.rows.map (Row.step (props s))

def Section.optional (props : Section → PropertyMap) (s : Section) (title : String) : List Step :=
  if (props s).isEmpty then [] else [fixed "", fixed title] ++ s.steps props

def printDeviceInformation (blockPath : String) (props : Section → PropertyMap) : Text × Bool :=
  output
    ([fixed "", rule, fixed "REMOVABLE DEVICE DETECTED", rule,
        .part (.field "Block Device Path: ".toList (line blockPath.toList)), fixed "",
        fixed "--- BLOCK DEVICE INFORMATION ---"] ++ Section.block.steps props ++
      Section.drive.optional props "--- DRIVE INFORMATION ---" ++
      Section.filesystem.optional props "--- FILESYSTEM INFORMATION ---" ++ [rule, fixed ""])

def Row.entry (props : PropertyMap) (r : Row) : Option Entry :=
  props[r.key]?.bind fun value => (r.shows value).join

def Row.Typed (props : PropertyMap) (r : Row) : Prop :=
  ∀ value ∈ props[r.key]?, (r.shows value).isSome = true

def Row.part (props : PropertyMap) (r : Row) : Part := .field r.label.toList (r.entry props)

theorem step_of_typed {props : PropertyMap} {r : Row} (h : r.Typed props) :
    r.step props = .part (r.part props) := by
  rw [Row.step, Row.part, Row.entry]
  cases hv : props[r.key]? with
  | none => rfl
  | some value =>
      obtain ⟨entry, hentry⟩ := Option.isSome_iff_exists.1 (h value hv)
      simp [hentry]

theorem exists_throws {props : PropertyMap} {r : Row} (h : ¬ r.Typed props) :
    ∃ written, r.step props = .throws written := by
  rw [Row.Typed] at h
  push Not at h
  obtain ⟨value, hv, hshows⟩ := h
  have hnone := Option.not_isSome_iff_eq_none.1 hshows
  rw [Row.step, hv]
  simp only [hnone]
  exact ⟨_, rfl⟩

section Output

variable {steps : List Step} {ps : List Part}

theorem output_parts (ps : List Part) :
    output (ps.map .part) = (textOf (linesOf bullet ps), true) := by
  induction ps with
  | nil => rfl
  | cons p ps ih =>
      rw [List.map_cons, output, ih, linesOf_cons, textOf_append]

theorem output_returns_iff : (output steps).2 = true ↔ ∃ ps : List Part, steps = ps.map .part := by
  induction steps with
  | nil => exact iff_of_true rfl ⟨[], rfl⟩
  | cons s steps ih =>
      cases s with
      | throws written =>
          refine iff_of_false (fun h => by cases h) ?_
          rintro ⟨ps, hps⟩
          cases ps <;> cases hps
      | part p =>
          rw [output, ih]
          constructor
          · rintro ⟨ps, rfl⟩
            exact ⟨p :: ps, rfl⟩
          · rintro ⟨ps, hps⟩
            cases ps with
            | nil => cases hps
            | cons q ps => exact ⟨ps, (List.cons.inj hps).2⟩

end Output

/-- The output as parts; what is left out shows nothing. -/
def Section.parts (props : Section → PropertyMap) (s : Section) : List Part :=
  s.rows.map (Row.part (props s))

def Section.titled (props : Section → PropertyMap) (s : Section) (title : String) : List Part :=
  if (props s).isEmpty then [] else [.fixed [], .fixed title.toList]

def parts (blockPath : String) (props : Section → PropertyMap) : List Part :=
  [.fixed [], .fixed "========================================".toList,
      .fixed "REMOVABLE DEVICE DETECTED".toList,
      .fixed "========================================".toList,
      .field "Block Device Path: ".toList (line blockPath.toList), .fixed [],
      .fixed "--- BLOCK DEVICE INFORMATION ---".toList] ++ Section.block.parts props ++
    (Section.drive.titled props "--- DRIVE INFORMATION ---" ++ Section.drive.parts props) ++
    (Section.filesystem.titled props "--- FILESYSTEM INFORMATION ---" ++
      Section.filesystem.parts props) ++
    [.fixed "========================================".toList, .fixed []]

def AllTyped (props : Section → PropertyMap) : Prop :=
  ∀ s : Section, ∀ r ∈ s.rows, r.Typed (props s)

section Parts

variable {props : Section → PropertyMap} {s : Section}

theorem steps_of_typed (h : ∀ r ∈ s.rows, r.Typed (props s)) :
    s.steps props = (s.parts props).map .part := by
  rw [Section.steps, Section.parts, List.map_map]
  exact List.map_congr_left fun r hr => step_of_typed (h r hr)

theorem getElem?_of_isEmpty (h : (props s).isEmpty = true) (key : String) :
    (props s)[key]? = none := by
  rw [Std.ExtTreeMap.isEmpty_iff.1 h]
  exact Std.ExtTreeMap.getElem?_empty

theorem linesOf_parts_of_isEmpty (h : (props s).isEmpty = true) :
    linesOf bullet (s.parts props) = [] := by
  rw [linesOf, List.flatMap_eq_nil_iff]
  intro p hp
  obtain ⟨r, -, rfl⟩ := List.mem_map.1 hp
  rw [Row.part, Row.entry, getElem?_of_isEmpty h]
  rfl

theorem optional_of_typed (h : ∀ r ∈ s.rows, r.Typed (props s)) (title : String) :
    ∃ ps : List Part, s.optional props title = ps.map .part ∧
      linesOf bullet ps = linesOf bullet (s.titled props title ++ s.parts props) := by
  rw [Section.optional, Section.titled]
  by_cases hempty : (props s).isEmpty = true
  · rw [if_pos hempty, if_pos hempty]
    exact ⟨[], rfl, (linesOf_parts_of_isEmpty hempty).symm⟩
  · rw [if_neg hempty, if_neg hempty, steps_of_typed h]
    refine ⟨[.fixed [], .fixed title.toList] ++ s.parts props, ?_, rfl⟩
    rw [List.map_append]
    rfl

theorem output_of_typed (h : AllTyped props) (blockPath : String) :
    printDeviceInformation blockPath props =
      (textOf (linesOf bullet (parts blockPath props)), true) := by
  obtain ⟨drive, hdrive, hdriveLines⟩ :=
    optional_of_typed (h .drive) "--- DRIVE INFORMATION ---"
  obtain ⟨filesystem, hfilesystem, hfilesystemLines⟩ :=
    optional_of_typed (h .filesystem) "--- FILESYSTEM INFORMATION ---"
  have hlines : linesOf bullet (parts blockPath props) =
      linesOf bullet ([.fixed [], .fixed "========================================".toList,
        .fixed "REMOVABLE DEVICE DETECTED".toList,
        .fixed "========================================".toList,
        .field "Block Device Path: ".toList (line blockPath.toList), .fixed [],
        .fixed "--- BLOCK DEVICE INFORMATION ---".toList] ++ Section.block.parts props ++
        drive ++ filesystem ++
        [.fixed "========================================".toList, .fixed []]) := by
    rw [parts]
    simp only [linesOf_append, ← hdriveLines, ← hfilesystemLines]
  rw [hlines, ← output_parts, printDeviceInformation, steps_of_typed (h .block), hdrive,
    hfilesystem]
  simp only [List.map_append]
  rfl

theorem typed_of_returns {steps : List Step} (h : (output steps).2 = true)
    (hsteps : s.steps props ⊆ steps) : ∀ r ∈ s.rows, r.Typed (props s) := by
  intro r hr
  by_contra hnot
  obtain ⟨written, hthrows⟩ := exists_throws hnot
  obtain ⟨ps, rfl⟩ := output_returns_iff.1 h
  have hmem : Row.step (props s) r ∈ ps.map Step.part := hsteps (List.mem_map_of_mem hr)
  rw [hthrows] at hmem
  obtain ⟨p, -, hp⟩ := List.mem_map.1 hmem
  cases hp

theorem typed_of_isEmpty (h : (props s).isEmpty = true) : ∀ r ∈ s.rows, r.Typed (props s) := by
  intro r hr value hv
  rw [getElem?_of_isEmpty h] at hv
  cases hv

theorem returns_iff (blockPath : String) :
    (printDeviceInformation blockPath props).2 = true ↔ AllTyped props := by
  refine ⟨fun h => ?_, fun h => by rw [output_of_typed h]⟩
  have hoptional (s : Section) (title : String) (hempty : ¬ (props s).isEmpty = true) :
      s.steps props ⊆ s.optional props title := by
    rw [Section.optional, if_neg hempty]
    exact List.subset_append_right _ _
  intro s
  by_cases hempty : (props s).isEmpty = true
  · exact typed_of_isEmpty hempty
  · cases s with
    | block =>
        refine typed_of_returns h fun step hstep => ?_
        simp [hstep]
    | drive =>
        refine typed_of_returns h fun step hstep => ?_
        simp [hoptional .drive "--- DRIVE INFORMATION ---" hempty hstep]
    | filesystem =>
        refine typed_of_returns h fun step hstep => ?_
        simp [hoptional .filesystem "--- FILESYSTEM INFORMATION ---" hempty hstep]

end Parts

def layoutLabels : List Line :=
  "Block Device Path: ".toList ::
    (Section.block.rows ++ Section.drive.rows ++ Section.filesystem.rows).map (·.label.toList)

def layoutLines : List Line :=
  ["", "========================================", "REMOVABLE DEVICE DETECTED",
    "--- BLOCK DEVICE INFORMATION ---", "--- DRIVE INFORMATION ---",
    "--- FILESYSTEM INFORMATION ---"].map String.toList

theorem readable_layout : Readable bullet layoutLabels layoutLines := by
  decide

structure OneLine (value : Variant) : Prop where
  string : ∀ text ∈ value.getString, '\n' ∉ text.toList
  bytes : ∀ bytes ∈ value.getBytes, '\n' ∉ byteArrayToString bytes
  byteArrays : ∀ vec ∈ value.getByteArrays, ∀ bytes ∈ vec, '\n' ∉ byteArrayToString bytes

instance (value : Variant) : Decidable (OneLine value) :=
  decidable_of_iff ((∀ text ∈ value.getString, '\n' ∉ text.toList) ∧
      (∀ bytes ∈ value.getBytes, '\n' ∉ byteArrayToString bytes) ∧
      ∀ vec ∈ value.getByteArrays, ∀ bytes ∈ vec, '\n' ∉ byteArrayToString bytes)
    ⟨fun h => ⟨h.1, h.2.1, h.2.2⟩, fun h => ⟨h.string, h.bytes, h.byteArrays⟩⟩

theorem not_mem_toDigits {c : Char} (hdigit : c ∉ hexDigits) (n : Nat) : c ∉ Nat.toDigits 10 n :=
  mt (mem_hexDigits (by decide) (by decide) n c) hdigit

theorem newline_not_mem_hexDigits : '\n' ∉ hexDigits := by decide

theorem newline_not_mem_decimal (x : Int) : '\n' ∉ decimal x := by
  have hdigits := not_mem_toDigits newline_not_mem_hexDigits
  rw [decimal]
  split
  · rw [List.mem_cons, not_or]
    exact ⟨by decide, hdigits _⟩
  · exact hdigits _

theorem unit_subset (k : Nat) : (units.getD k "").toList ⊆ "BKMGT".toList := by
  rcases k with _ | _ | _ | _ | _ | k
  case succ.succ.succ.succ.succ => exact List.nil_subset _
  all_goals decide

theorem not_mem_formatSize {c : Char} (hdigit : c ∉ hexDigits)
    (hc : c ∉ ". BKMGT".toList) (size : Nat) : c ∉ formatSize size := by
  have hpoint : c ≠ '.' := by
    rintro rfl
    exact hc (by decide)
  have hspace : c ≠ ' ' := by
    rintro rfl
    exact hc (by decide)
  have hzero : c ≠ '0' := by
    rintro rfl
    exact hdigit (by decide)
  have hunit (k : Nat) : c ∉ (units.getD k "").toList := fun h =>
    hc (List.Subset.trans (unit_subset k) (by decide) h)
  rw [formatSize, fixedTwo]
  simp only [List.mem_append, not_or, List.mem_singleton, List.mem_replicate, not_and]
  exact ⟨⟨⟨⟨⟨not_mem_toDigits hdigit _, hpoint⟩, fun _ => hzero⟩, not_mem_toDigits hdigit _⟩,
    hspace⟩, hunit _⟩

theorem newline_not_mem_sizeText (size : Nat) : '\n' ∉ sizeText size := by
  rw [sizeText]
  simp only [List.mem_append, not_or]
  exact ⟨⟨⟨not_mem_formatSize (by decide) (by decide) size, by decide⟩,
    not_mem_toDigits (by decide) size⟩, by decide⟩

def bytesOf (text : Text) : Nat :=
  Nat.ofDigitChars 10 (((text.dropWhile (· ≠ '(')).drop 1).takeWhile (· ≠ ' ')) 0

/-- However the unit rounds a size, its line tells the number of bytes. -/
theorem bytesOf_sizeText (size : Nat) : bytesOf (sizeText size) = size := by
  have hbefore : ∀ c ∈ formatSize size ++ [' '], decide (c ≠ '(') = true := by
    rintro c hmem
    refine decide_eq_true ?_
    rintro rfl
    rcases List.mem_append.1 hmem with hmem | hmem
    · exact not_mem_formatSize (by decide) (by decide) size hmem
    · exact absurd (List.mem_singleton.1 hmem) (by decide)
  have hdigits : ∀ c ∈ Nat.toDigits 10 size, decide (c ≠ ' ') = true := by
    rintro c hmem
    refine decide_eq_true ?_
    rintro rfl
    exact not_mem_toDigits (by decide) size hmem
  have hsplit : sizeText size = (formatSize size ++ [' ']) ++
      '(' :: (Nat.toDigits 10 size ++ ' ' :: "bytes)".toList) := by
    have hopen : " (".toList = [' ', '('] := by decide
    have hclose : " bytes)".toList = ' ' :: "bytes)".toList := by decide
    rw [sizeText, hopen, hclose]
    simp only [List.append_assoc, List.cons_append, List.nil_append]
  have hafter : (sizeText size).dropWhile (· ≠ '(') =
      '(' :: (Nat.toDigits 10 size ++ ' ' :: "bytes)".toList) := by
    rw [hsplit, List.dropWhile_append_of_pos hbefore]
    rfl
  have hcells : (Nat.toDigits 10 size ++ ' ' :: "bytes)".toList).takeWhile (· ≠ ' ') =
      Nat.toDigits 10 size := by
    rw [List.takeWhile_append_of_pos hdigits]
    exact List.append_nil _
  rw [bytesOf, hafter, List.drop_one, List.tail_cons, hcells]
  exact Nat.ofDigitChars_ten_toDigits

theorem bytesOf_entry (props : PropertyMap) (key label : String) :
    ((sizeRow key label).entry props).map (bytesOf ·.text) =
      (props[key]?.bind Variant.getUint64).map BitVec.toNat := by
  have hentry : (sizeRow key label).entry props =
      props[key]?.bind fun value => (value.getUint64.map fun size =>
        line (sizeText size.toNat)).join := rfl
  rw [hentry]
  cases props[key]? with
  | none => rfl
  | some value =>
      rw [Option.bind_some, Option.bind_some]
      cases value.getUint64 with
      | none => rfl
      | some size => exact congrArg some (bytesOf_sizeText size.toNat)

def Row.Clean (r : Row) : Prop :=
  ∀ value, OneLine value → ∀ e, r.shows value = some (some e) →
    '\n' ∉ e.text ∧ ∀ item ∈ e.items, '\n' ∉ item

theorem clean_of_text {α : Type} {get : Variant → Option α} (text : α → Text) {key label : String}
    {early : Bool} (h : ∀ value, OneLine value → ∀ x, get value = some x → '\n' ∉ text x) :
    Row.Clean ⟨key, label, fun value => (get value).map fun x => line (text x), early⟩ := by
  intro value hvalue e he
  obtain ⟨x, hx, heq⟩ := Option.map_eq_some_iff.1 he
  obtain rfl := Option.some.inj heq
  exact ⟨h value hvalue x hx, List.forall_mem_nil _⟩

theorem clean_items {vec : List (List Byte)}
    (h : ∀ bytes ∈ vec, '\n' ∉ byteArrayToString bytes) :
    ∀ item ∈ vec.map byteArrayToString, '\n' ∉ item := by
  intro item hitem
  obtain ⟨bytes, hbytes, rfl⟩ := List.mem_map.1 hitem
  exact h bytes hbytes

theorem clean_symlinks : symlinksRow.Clean := by
  intro value hvalue e he
  obtain ⟨vec, hvec, heq⟩ := Option.map_eq_some_iff.1 he
  split at heq
  · cases heq
  · obtain rfl := Option.some.inj heq
    exact ⟨List.not_mem_nil, clean_items (hvalue.byteArrays vec hvec)⟩

theorem clean_mountPoints : mountPointsRow.Clean := by
  intro value hvalue e he
  obtain ⟨vec, hvec, heq⟩ := Option.map_eq_some_iff.1 he
  split at heq
  · obtain rfl := Option.some.inj heq
    exact ⟨by decide, List.forall_mem_nil _⟩
  · obtain rfl := Option.some.inj heq
    exact ⟨List.not_mem_nil, clean_items (hvalue.byteArrays vec hvec)⟩

theorem clean_rotation : rotationRow.Clean := by
  intro value hvalue e he
  obtain ⟨rate, -, heq⟩ := Option.map_eq_some_iff.1 he
  split at heq
  · obtain rfl := Option.some.inj heq
    refine ⟨?_, List.forall_mem_nil _⟩
    rw [List.mem_append, not_or]
    exact ⟨newline_not_mem_decimal rate.toInt, by decide⟩
  · cases heq

theorem clean_solidState : solidStateRow.Clean := by
  intro value hvalue e he
  obtain ⟨rate, -, heq⟩ := Option.map_eq_some_iff.1 he
  split at heq
  · obtain rfl := Option.some.inj heq
    exact ⟨by decide, List.forall_mem_nil _⟩
  · cases heq

theorem clean_bytesRow (key label : String) : (bytesRow key label).Clean :=
  clean_of_text byteArrayToString fun _ h => h.bytes

theorem clean_stringRow (key label : String) : (stringRow key label).Clean :=
  clean_of_text String.toList fun _ h => h.string

theorem clean_boolRow (key label : String) : (boolRow key label).Clean :=
  clean_of_text _ fun _ _ b _ => by cases b <;> decide

theorem clean_sizeRow (key label : String) : (sizeRow key label).Clean :=
  clean_of_text _ fun _ _ size _ => newline_not_mem_sizeText size.toNat

theorem newline_not_mem_label (s : Section) : ∀ r ∈ s.rows, '\n' ∉ r.label.toList := by
  cases s <;> decide

theorem clean_rows (s : Section) : ∀ r ∈ s.rows, r.Clean := by
  cases s <;>
    simp only [Section.rows, List.forall_mem_cons, clean_bytesRow, clean_stringRow, clean_boolRow,
      clean_sizeRow, clean_symlinks, clean_mountPoints, clean_rotation, clean_solidState,
      true_and] <;>
    exact List.forall_mem_nil _

section Layout

variable (blockPath : String) (props : Section → PropertyMap)

theorem labels_rows (s : Section) : labels (s.parts props) = s.rows.map (·.label.toList) := by
  rw [labels, Section.parts, List.filterMap_map, ← List.filterMap_eq_map]
  rfl

theorem fixedLines_rows (s : Section) : fixedLines (s.parts props) = [] := by
  rw [fixedLines, List.filterMap_eq_nil_iff]
  intro p hp
  obtain ⟨r, -, rfl⟩ := List.mem_map.1 hp
  rfl

theorem labels_titled (s : Section) (title : String) : labels (s.titled props title) = [] := by
  rw [Section.titled]
  split <;> rfl

theorem fixedLines_titled (s : Section) (title : String) :
    fixedLines (s.titled props title) ⊆ [[], title.toList] := by
  rw [Section.titled]
  split
  · exact List.nil_subset _
  · exact List.Subset.refl _

theorem labels_parts : labels (parts blockPath props) = layoutLabels := by
  rw [parts]
  simp only [labels_append, labels_rows, labels_titled]
  rw [layoutLabels, List.map_append, List.map_append]
  exact List.append_nil _

theorem fixedLines_parts : [] :: fixedLines (parts blockPath props) ⊆ layoutLines := by
  have hheading : ["".toList, "========================================".toList,
      "REMOVABLE DEVICE DETECTED".toList, "========================================".toList,
      "".toList, "--- BLOCK DEVICE INFORMATION ---".toList] ⊆ layoutLines := by decide
  have hdrive := List.Subset.trans
    (fixedLines_titled props .drive "--- DRIVE INFORMATION ---")
    (show _ ⊆ layoutLines by decide)
  have hfilesystem := List.Subset.trans
    (fixedLines_titled props .filesystem "--- FILESYSTEM INFORMATION ---")
    (show _ ⊆ layoutLines by decide)
  have hend : [[], "========================================".toList, []] ⊆ layoutLines := by
    decide
  rw [parts]
  simp only [fixedLines_append, fixedLines_rows, List.append_nil, List.cons_subset,
    List.append_subset]
  exact ⟨(List.cons_subset.1 hend).1, ⟨⟨hheading, hdrive⟩, hfilesystem⟩,
    (List.cons_subset.1 hend).2⟩

theorem oneLine_part {s : Section} {r : Row} (hr : r ∈ s.rows)
    (h : ∀ value ∈ (props s)[r.key]?, OneLine value) :
    (r.part (props s)).OneLine := by
  refine ⟨newline_not_mem_label s r hr, fun e he => ?_⟩
  obtain ⟨value, hv, hshows⟩ := Option.bind_eq_some_iff.1 he
  exact clean_rows s r hr value (h value hv) e (Option.join_eq_some_iff.1 hshows)

theorem mem_parts {p : Part} (h : p ∈ parts blockPath props) :
    (∃ text, p = .fixed text) ∨ p = .field "Block Device Path: ".toList (line blockPath.toList) ∨
      ∃ s : Section, ∃ r ∈ s.rows, p = r.part (props s) := by
  have hrows {s : Section} (hp : p ∈ s.parts props) :
      ∃ s : Section, ∃ r ∈ s.rows, p = r.part (props s) := by
    obtain ⟨r, hr, rfl⟩ := List.mem_map.1 hp
    exact ⟨s, r, hr, rfl⟩
  have htitled {s : Section} {title : String} (hp : p ∈ s.titled props title) :
      ∃ text, p = .fixed text := by
    rw [Section.titled] at hp
    split at hp
    · cases hp
    · rcases List.mem_pair.1 hp with rfl | rfl <;> exact ⟨_, rfl⟩
  rw [parts] at h
  simp only [List.mem_append, List.mem_cons, List.not_mem_nil, or_false] at h
  rcases h with (((h | h) | h | h) | h | h) | h | h
  · rcases h with h | h | h | h | h | h | h
    case inr.inr.inr.inr.inl => exact Or.inr (Or.inl h)
    all_goals exact Or.inl ⟨_, h⟩
  · exact Or.inr (Or.inr (hrows h))
  · exact Or.inl (htitled h)
  · exact Or.inr (Or.inr (hrows h))
  · exact Or.inl (htitled h)
  · exact Or.inr (Or.inr (hrows h))
  · exact Or.inl ⟨_, h⟩
  · exact Or.inl ⟨_, h⟩

theorem oneLine_parts (hpath : '\n' ∉ blockPath.toList)
    (hlines : ∀ s : Section, ∀ r ∈ s.rows, ∀ value ∈ (props s)[r.key]?, OneLine value) :
    ∀ p ∈ parts blockPath props, p.OneLine := by
  intro p hp
  rcases mem_parts blockPath props hp with ⟨text, rfl⟩ | rfl | ⟨s, r, hr, rfl⟩
  · have hconst : ∀ text ∈ layoutLines, '\n' ∉ text := by decide
    have hline := fixedLines_parts blockPath props (List.mem_cons_of_mem _ (mem_fixedLines hp))
    exact hconst text hline
  · refine ⟨by decide, fun e he => ?_⟩
    obtain rfl := Option.some.inj he
    exact ⟨hpath, List.forall_mem_nil _⟩
  · exact oneLine_part props hr (hlines s r hr)

/-- A report is written completely if and only if every property that it prints has
its type; and then each of them can be read back from it, the sizes to the byte. -/
theorem information_reads_back (hpath : '\n' ∉ blockPath.toList)
    (hlines : ∀ s : Section, ∀ r ∈ s.rows, ∀ value ∈ (props s)[r.key]?, OneLine value) :
    ((printDeviceInformation blockPath props).2 = true ↔ AllTyped props) ∧
      ((printDeviceInformation blockPath props).2 = true → ∀ s : Section,
        (∀ r ∈ s.rows,
          readBack bullet r.label.toList (printDeviceInformation blockPath props).1 =
            r.entry (props s)) ∧
        ∀ key label : String, sizeRow key label ∈ s.rows →
          (readBack bullet label.toList (printDeviceInformation blockPath props).1).map
            (bytesOf ·.text) = ((props s)[key]?.bind Variant.getUint64).map BitVec.toNat) := by
  refine ⟨returns_iff blockPath, fun h s => ?_⟩
  have hreadable : Readable bullet (labels (parts blockPath props))
      ([] :: fixedLines (parts blockPath props)) := by
    rw [labels_parts]
    exact readable_layout.sublist (List.Sublist.refl _) (fixedLines_parts blockPath props)
  have hentry : ∀ r ∈ s.rows,
      readBack bullet r.label.toList (printDeviceInformation blockPath props).1 =
        r.entry (props s) := by
    intro r hr
    have hrow : r.part (props s) ∈ parts blockPath props := by
      have hmem : r.part (props s) ∈ s.parts props := List.mem_map_of_mem hr
      rw [parts]
      cases s <;> simp [hmem]
    rw [output_of_typed ((returns_iff blockPath).1 h)]
    exact readBack_textOf hreadable (by decide) (oneLine_parts blockPath props hpath hlines) hrow
  refine ⟨hentry, fun key label hsize => ?_⟩
  rw [← bytesOf_entry]
  exact congrArg (Option.map (bytesOf ·.text)) (hentry _ hsize)

end Layout

def stick : Section → PropertyMap
  | .block => .ofList
      [("IdLabel", Variant.plain (.s "BACKUP")), ("Size", Variant.plain (.t 9007336693694465))]
  | .drive => .ofList [("RotationRate", Variant.plain (.i 0))]
  | .filesystem => ∅

theorem information_reads_back_stick :
    readBack bullet "  Label: ".toList (printDeviceInformation "/block_devices/sdb1" stick).1 =
        some ⟨"BACKUP".toList, []⟩ ∧
      (readBack bullet "  Size: ".toList (printDeviceInformation "/block_devices/sdb1" stick).1).map
        (bytesOf ·.text) = some 9007336693694465 := by
  have h := (information_reads_back "/block_devices/sdb1" stick (by decide)
    (fun s => by cases s <;> decide)).2 (by decide) .block
  refine ⟨(h.1 (stringRow "IdLabel" "  Label: ") ?_).trans ?_,
    (h.2 "Size" "  Size: " ?_).trans ?_⟩
  · simp [Section.rows]
  · decide
  · simp [Section.rows]
  · decide

def callbackResult (blockPath : String) (props : Section → PropertyMap) :
    RemovableMonitor.CallbackResult :=
  if (printDeviceInformation blockPath props).2 then .returns else .throwsStd

/-- With this callback no exception leaves the check of a device. -/
theorem check_returns (objectPath : String) (w : RemovableMonitor.Watcher)
    {r : RemovableMonitor.Replies} {props : Section → PropertyMap}
    (h : r.callback = callbackResult objectPath props) :
    (RemovableMonitor.checkAndReportIfReady objectPath w r).2.2 = true := by
  have hne : r.callback ≠ .throwsOther := by
    rw [h, callbackResult]
    split <;> intro hthrows <;> cases hthrows
  rw [RemovableMonitor.checkAndReportIfReady]
  split
  · rfl
  · split
    · exact decide_eq_true hne
    · rfl

end SdbusExamples.DeviceInformation
