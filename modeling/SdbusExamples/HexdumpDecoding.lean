import SdbusExamples.Hexdump
import SdbusExamples.NumberBases

namespace SdbusExamples.HexdumpDecoding

open Hexdump NumberBases OStreams

structure ZeroFilled (os : OStream) : Prop where
  width : os.width = 0
  fill : os.fill = '0'

def Appends (f : OStream → OStream) (cs : Text) : Prop :=
  ∀ os, ZeroFilled os → (f os).text = os.text ++ cs ∧ ZeroFilled (f os)

def padded (width : Nat) (cs : Text) : Text := List.replicate (width - cs.length) '0' ++ cs

namespace Appends

theorem nil : Appends id [] := fun _ h => ⟨(List.append_nil _).symm, h⟩

theorem comp {f g : OStream → OStream} {cs ds : Text} (hf : Appends f cs) (hg : Appends g ds) :
    Appends (fun os => g (f os)) (cs ++ ds) := by
  intro os hos
  obtain ⟨htext, hzero⟩ := hf os hos
  obtain ⟨htext', hzero'⟩ := hg (f os) hzero
  refine ⟨?_, hzero'⟩
  rw [htext', htext, List.append_assoc]

theorem foldl {α : Type} {f : OStream → α → OStream} {texts : α → Text}
    (h : ∀ a, Appends (fun os => f os a) (texts a)) (as : List α) :
    Appends (fun os => as.foldl f os) (as.flatMap texts) := by
  induction as with
  | nil => exact nil
  | cons a as ih => exact (h a).comp ih

theorem text (cs : Text) : Appends (fun os => os <<< cs) cs := by
  rintro os ⟨hwidth, hfill⟩
  refine ⟨?_, rfl, hfill⟩
  show os.text ++ (List.replicate (os.width - cs.length) os.fill ++ cs) = _
  rw [hwidth, Nat.zero_sub, List.replicate_zero, List.nil_append]

theorem hexField (width : Nat) (n : Number) :
    Appends (fun os => os <<< Manipulator.setw width <<< Manipulator.hex <<< n)
      (padded width (n.digits .hex)) := by
  rintro os ⟨-, hfill⟩
  refine ⟨?_, rfl, hfill⟩
  show os.text ++ (List.replicate (width - (n.digits .hex).length) os.fill ++ n.digits .hex) = _
  rw [hfill, padded]

theorem endl : Appends (fun os => os <<< Manipulator.endl) ['\n'] := fun _ h => ⟨rfl, h.width, h.fill⟩

theorem ite {p : Prop} [Decidable p] {f g : OStream → OStream} {cs ds : Text} (hf : Appends f cs)
    (hg : Appends g ds) :
    Appends (fun os => if p then f os else g os) (if p then cs else ds) := by
  by_cases hp : p
  · simpa only [if_pos hp] using hf
  · simpa only [if_neg hp] using hg

end Appends

structure Line where
  offset : Text
  cells : List Text
  rest : Text

def Line.text (l : Line) : Text :=
  "0x".toList ++ l.offset ++ ": ".toList ++ l.cells.flatten ++ l.rest

def blank : Text := [' ', ' ', ' ']

def cellText (data : List (BitVec 8)) (k : Nat) : Text :=
  match data[k]? with
  | some b => hexByte b ++ [' ']
  | none => blank

def asciiText (data : List (BitVec 8)) (k : Nat) : Text :=
  match data[k]? with
  | some b => if isprint b then [Char.ofNat b.toNat] else ['.']
  | none => []

section Writing

variable (dump : CustomHexdump)

def lineAt (i : Nat) : Line where
  offset := padded 6 (Nat.toDigits 16 i)
  cells := (List.range dump.rowSize).map (fun j => cellText dump.data (i + j))
  rest := [' '] ++ if dump.showAscii then
    (List.range dump.rowSize).flatMap (fun j => asciiText dump.data (i + j)) else []

theorem cell_appends (k : Nat) : Appends (fun os => dump.cell os k) (cellText dump.data k) := by
  unfold CustomHexdump.cell cellText
  cases dump.data[k]? with
  | none => exact .text blank
  | some b =>
      have hb : (Number.int (b.setWidth 32)).digits .hex = Nat.toDigits 16 b.toNat := by
        have := b.isLt
        show Nat.toDigits 16 (b.setWidth 32).toNat = _
        rw [BitVec.toNat_setWidth, Nat.mod_eq_of_lt (by omega)]
      have hfield := Appends.hexField 2 (.int (b.setWidth 32))
      rw [hb] at hfield
      exact hfield.comp (.text [' '])

theorem ascii_appends (k : Nat) : Appends (fun os => dump.ascii os k) (asciiText dump.data k) := by
  unfold CustomHexdump.ascii asciiText
  cases dump.data[k]? with
  | none => exact .nil
  | some b => exact .ite (.text [Char.ofNat b.toNat]) (.text ['.'])

theorem row_appends (i : Nat) : Appends (fun os => dump.row os i) ((lineAt dump i).text ++ ['\n']) := by
  have hoffset := ((Appends.text "0x".toList).comp (.hexField 6 (.unsigned i))).comp (.text ": ".toList)
  have hcells := Appends.foldl (fun j => cell_appends dump (i + j)) (List.range dump.rowSize)
  have hascii := Appends.ite (p := dump.showAscii = true)
    (.foldl (fun j => ascii_appends dump (i + j)) (List.range dump.rowSize)) .nil
  have hrow := ((hoffset.comp hcells).comp (.text [' '])).comp (hascii.comp .endl)
  intro os hos
  obtain ⟨htext, hzero⟩ := hrow os hos
  refine ⟨?_, hzero⟩
  rw [Line.text, lineAt, ← List.flatMap_def]
  simp only [List.append_assoc] at htext ⊢
  exact htext

def rowCount (length rowSize : Nat) : Nat := (length + rowSize - 1) / rowSize

def linesFrom (i : Nat) : List Line :=
  (List.range' i (rowCount (dump.data.length - i) dump.rowSize) dump.rowSize).map (lineAt dump)

def dumpText (lines : List Line) : Text := lines.flatMap (fun l => l.text ++ ['\n'])

variable {dump}

theorem rowCount_zero {rowSize : Nat} (hsize : 0 < rowSize) : rowCount 0 rowSize = 0 := by
  apply Nat.div_eq_of_lt
  omega

theorem rowCount_sub {length rowSize : Nat} (hsize : 0 < rowSize) (h : 0 < length) :
    rowCount length rowSize = rowCount (length - rowSize) rowSize + 1 := by
  have hlength : length + rowSize - 1 = length - 1 + rowSize := by omega
  rw [rowCount, hlength, Nat.add_div_right _ hsize, rowCount]
  by_cases hle : rowSize ≤ length
  · rw [Nat.sub_add_cancel hle]
  · -- the last row is short
    rw [Nat.div_eq_of_lt (by omega), Nat.div_eq_of_lt (by omega)]

theorem linesFrom_of_le {i : Nat} (hsize : 0 < dump.rowSize) (h : dump.data.length ≤ i) :
    linesFrom dump i = [] := by
  rw [linesFrom, Nat.sub_eq_zero_of_le h, rowCount_zero hsize, List.range'_zero, List.map_nil]

theorem linesFrom_of_lt {i : Nat} (hsize : 0 < dump.rowSize) (h : i < dump.data.length) :
    linesFrom dump i = lineAt dump i :: linesFrom dump (i + dump.rowSize) := by
  rw [linesFrom, rowCount_sub hsize (by omega), List.range'_succ, List.map_cons, Nat.sub_sub]
  rfl

theorem rows_appends (hsize : 0 < dump.rowSize) (rounds i : Nat)
    (hrounds : dump.data.length ≤ i + rounds) :
    Appends (fun os => dump.rows rounds os i) (dumpText (linesFrom dump i)) := by
  induction rounds generalizing i with
  | zero =>
      rw [linesFrom_of_le hsize (by omega)]
      exact .nil
  | succ rounds ih =>
      intro os hos
      simp only [CustomHexdump.rows]
      by_cases hi : i < dump.data.length
      · rw [if_pos hi, linesFrom_of_lt hsize hi]
        exact (row_appends dump i).comp (ih (i + dump.rowSize) (by omega)) os hos
      · rw [if_neg hi, linesFrom_of_le hsize (by omega)]
        exact Appends.nil os hos

theorem write_text (hsize : 0 < dump.rowSize) {os : OStream} (hos : os.width = 0) :
    (os <<< dump).text = os.text ++ dumpText (linesFrom dump 0) :=
  (rows_appends hsize dump.data.length 0 (by omega) { os with fill := '0' } ⟨hos, rfl⟩).1

end Writing

section Decoding

def decodeCell (cell : Text) : Option (BitVec 8) :=
  match cell with
  | [hi, lo, _] =>
      if hi ∈ hexDigits ∧ lo ∈ hexDigits then some (BitVec.ofNat 8 (hexValue [hi, lo])) else none
  | _ => none

def readCells : Nat → Text → List Text
  | 0, _ => []
  | n + 1, cs => cs.take 3 :: readCells n (cs.drop 3)

def cellsOf (rowSize : Nat) (line : Text) : List Text :=
  readCells rowSize ((line.dropWhile (· ≠ ':')).drop 2)

/-- Reads a dump back from its text; what follows the cells of a line is ignored. -/
def decode (rowSize : Nat) (text : Text) : List (BitVec 8) :=
  ((text.splitOn '\n').flatMap (cellsOf rowSize)).filterMap decodeCell

theorem hexByte_eq (b : BitVec 8) :
    hexByte b = [Nat.digitChar (b.toNat / 16), Nat.digitChar (b.toNat % 16)] := by
  have hb := b.isLt
  rw [hexByte, Nat.toDigits_eq_if (by decide)]
  split_ifs with hlt
  · rw [Nat.div_eq_of_lt hlt, Nat.mod_eq_of_lt hlt]
    rfl
  · rw [Nat.toDigits_of_lt_base (by omega)]
    rfl

theorem hexValue_pair {m n : Nat} (hm : m < 16) (hn : n < 16) :
    hexValue [Nat.digitChar m, Nat.digitChar n] = 16 * m + n := by
  have hall : ∀ i j : Fin 16,
      hexValue [Nat.digitChar i, Nat.digitChar j] = 16 * i + j := by decide
  exact hall ⟨m, hm⟩ ⟨n, hn⟩

theorem decodeCell_cellText (data : List (BitVec 8)) (k : Nat) :
    decodeCell (cellText data k) = data[k]? := by
  rw [cellText]
  cases data[k]? with
  | none => decide
  | some b =>
      have hhi : b.toNat / 16 < 16 := Nat.div_lt_of_lt_mul b.isLt
      have hlo : b.toNat % 16 < 16 := Nat.mod_lt _ (by decide)
      simp only [hexByte_eq, List.cons_append, List.nil_append, decodeCell]
      rw [if_pos ⟨digitChar_mem hhi, digitChar_mem hlo⟩, hexValue_pair hhi hlo, Nat.div_add_mod,
        BitVec.ofNat_toNat, BitVec.setWidth_eq]

theorem length_cellText (data : List (BitVec 8)) (k : Nat) : (cellText data k).length = 3 := by
  rw [cellText]
  cases data[k]? with
  | none => rfl
  | some b =>
      show (hexByte b ++ [' ']).length = 3
      rw [hexByte_eq]
      rfl

theorem readCells_flatten {cells : List Text} (h : ∀ c ∈ cells, c.length = 3) (rest : Text) :
    readCells cells.length (cells.flatten ++ rest) = cells := by
  induction cells with
  | nil => rfl
  | cons c cells ih =>
      rw [List.forall_mem_cons] at h
      rw [List.length_cons, List.flatten_cons, List.append_assoc, readCells, List.take_left' h.1,
        List.drop_left' h.1, ih h.2]

theorem not_mem_padded {c : Char} (hc : c ∉ hexDigits) (width n : Nat) :
    c ∉ padded width (Nat.toDigits 16 n) := by
  rw [padded, List.mem_append]
  rintro (h | h)
  · rw [List.eq_of_mem_replicate h] at hc
    exact hc (by decide)
  · exact hc (mem_hexDigits (by decide) (by decide) n c h)

theorem cellsOf_text {l : Line} (hoffset : ':' ∉ l.offset) (hcells : ∀ c ∈ l.cells, c.length = 3) :
    cellsOf l.cells.length l.text = l.cells := by
  have hstart : ∀ c ∈ "0x".toList ++ l.offset, decide (c ≠ ':') = true := by
    intro c hc
    rw [List.mem_append] at hc
    apply decide_eq_true
    rintro rfl
    exact hc.elim (by decide) hoffset
  have htext : l.text = ("0x".toList ++ l.offset) ++ (':' :: ' ' :: (l.cells.flatten ++ l.rest)) := by
    simp only [Line.text, List.append_assoc]
    rfl
  rw [cellsOf, htext, List.dropWhile_append_of_pos hstart]
  exact readCells_flatten hcells l.rest

structure Line.Readable (l : Line) (rowSize : Nat) : Prop where
  offset : ':' ∉ l.offset
  count : l.cells.length = rowSize
  size : ∀ c ∈ l.cells, c.length = 3
  one_line : '\n' ∉ l.text

theorem readCells_nil (rowSize : Nat) : (readCells rowSize []).filterMap decodeCell = [] := by
  induction rowSize with
  | zero => rfl
  | succ rowSize ih => exact ih

theorem decode_dumpText {rowSize : Nat} {lines : List Line} (h : ∀ l ∈ lines, l.Readable rowSize) :
    decode rowSize (dumpText lines) = (lines.flatMap (·.cells)).filterMap decodeCell := by
  induction lines with
  | nil =>
      rw [decode, dumpText, List.flatMap_nil, List.splitOn_nil, List.flatMap_singleton]
      exact readCells_nil rowSize
  | cons l lines ih =>
      rw [List.forall_mem_cons] at h
      have hsplit : (dumpText (l :: lines)).splitOn '\n' = l.text :: (dumpText lines).splitOn '\n' := by
        rw [← List.splitOn_append_cons_self_of_not_mem h.1.one_line, dumpText, List.flatMap_cons,
          List.append_assoc]
        rfl
      have hcells := cellsOf_text h.1.offset h.1.size
      rw [h.1.count] at hcells
      rw [decode, hsplit, List.flatMap_cons, List.filterMap_append, hcells, List.flatMap_cons,
        List.filterMap_append, ← ih h.2, decode]

variable (dump : CustomHexdump)

theorem newline_not_mem_asciiText (data : List (BitVec 8)) (k : Nat) : '\n' ∉ asciiText data k := by
  rw [asciiText]
  cases data[k]? with
  | none => exact List.not_mem_nil
  | some b =>
      have hall : ∀ b : BitVec 8, isprint b = true → '\n' ≠ Char.ofNat b.toNat := by decide
      show '\n' ∉ if isprint b = true then [Char.ofNat b.toNat] else ['.']
      split_ifs with hb
      · exact mt List.mem_singleton.1 (hall b hb)
      · decide

theorem newline_not_mem_cellText (data : List (BitVec 8)) (k : Nat) : '\n' ∉ cellText data k := by
  rw [cellText]
  cases data[k]? with
  | none => decide
  | some b =>
      show '\n' ∉ hexByte b ++ [' ']
      rw [List.mem_append]
      rintro (h | h)
      · exact not_mem_padded (by decide) 2 b.toNat h
      · exact absurd h (by decide)

theorem lineAt_readable (i : Nat) : (lineAt dump i).Readable dump.rowSize := by
  refine ⟨not_mem_padded (by decide) 6 i, ?_, ?_, ?_⟩
  · rw [lineAt, List.length_map, List.length_range]
  · intro c hc
    obtain ⟨j, -, rfl⟩ := List.mem_map.1 hc
    exact length_cellText dump.data (i + j)
  · simp only [Line.text, lineAt, List.mem_append, ← List.flatMap_def, List.mem_flatMap, not_or]
    refine ⟨⟨⟨⟨by decide, not_mem_padded (by decide) 6 i⟩, by decide⟩, ?_⟩, by decide, ?_⟩
    · rintro ⟨j, -, hj⟩
      exact newline_not_mem_cellText dump.data (i + j) hj
    · split_ifs
      · rw [List.mem_flatMap]
        rintro ⟨j, -, hj⟩
        exact newline_not_mem_asciiText dump.data (i + j) hj
      · exact List.not_mem_nil

theorem filterMap_range {α : Type} (as : List α) (n : Nat) :
    (List.range n).filterMap (fun j => as[j]?) = as.take n := by
  induction n with
  | zero => rfl
  | succ n ih =>
      rw [List.range_succ, List.filterMap_append, ih, List.take_add_one]
      cases h : as[n]? <;> simp [h]

theorem filterMap_lineAt (i : Nat) :
    (lineAt dump i).cells.filterMap decodeCell = (dump.data.drop i).take dump.rowSize := by
  rw [lineAt, List.filterMap_map, ← filterMap_range]
  congr 1
  funext j
  rw [Function.comp_apply, decodeCell_cellText, List.getElem?_drop]

theorem filterMap_cells (i : Nat) (hsize : 0 < dump.rowSize) (rounds : Nat)
    (hrounds : dump.data.length ≤ i + rounds) :
    ((linesFrom dump i).flatMap (·.cells)).filterMap decodeCell = dump.data.drop i := by
  induction rounds generalizing i with
  | zero =>
      rw [linesFrom_of_le hsize (by omega), List.drop_of_length_le (by omega)]
      rfl
  | succ rounds ih =>
      by_cases hi : i < dump.data.length
      · rw [linesFrom_of_lt hsize hi, List.flatMap_cons, List.filterMap_append,
          ih (i + dump.rowSize) (by omega), filterMap_lineAt, ← List.drop_drop, List.take_append_drop]
      · rw [linesFrom_of_le hsize (by omega), List.drop_of_length_le (by omega)]
        rfl

end Decoding

structure Shows (dump : CustomHexdump) (r : Nat) (l : Line) : Prop where
  offset : l.offset = padded 6 (Nat.toDigits 16 (r * dump.rowSize))
  count : l.cells.length = dump.rowSize
  size : ∀ c ∈ l.cells, c.length = 3
  filled : ∀ j < min dump.rowSize (dump.data.length - r * dump.rowSize),
    ∃ hi ∈ hexDigits, ∃ lo ∈ hexDigits, l.cells[j]? = some [hi, lo, ' ']
  blank : ∀ j < dump.rowSize, dump.data.length - r * dump.rowSize ≤ j → l.cells[j]? = some blank
  one_line : '\n' ∉ l.text

section

variable {dump : CustomHexdump}

theorem lineAt_shows (r : Nat) : Shows dump r (lineAt dump (r * dump.rowSize)) := by
  have hread := lineAt_readable dump (r * dump.rowSize)
  have hcell (j : Nat) (hj : j < dump.rowSize) :
      (lineAt dump (r * dump.rowSize)).cells[j]? =
        some (cellText dump.data (r * dump.rowSize + j)) := by
    rw [lineAt, List.getElem?_map, List.getElem?_range hj]
    rfl
  refine ⟨rfl, hread.count, hread.size, ?_, ?_, hread.one_line⟩
  · intro j hj
    have hlt : r * dump.rowSize + j < dump.data.length := by omega
    obtain ⟨b, hb⟩ : ∃ b, dump.data[r * dump.rowSize + j]? = some b :=
      ⟨_, List.getElem?_eq_getElem hlt⟩
    have hhi : b.toNat / 16 < 16 := Nat.div_lt_of_lt_mul b.isLt
    have hlo : b.toNat % 16 < 16 := Nat.mod_lt _ (by decide)
    refine ⟨_, digitChar_mem hhi, _, digitChar_mem hlo, ?_⟩
    rw [hcell j (by omega), cellText, hb]
    exact congrArg (fun cs => some (cs ++ [' '])) (hexByte_eq b)
  · intro j hj hshort
    rw [hcell j hj, cellText, List.getElem?_eq_none (by omega)]

theorem linesFrom_zero_getElem? {r : Nat} {l : Line} (h : (linesFrom dump 0)[r]? = some l) :
    l = lineAt dump (r * dump.rowSize) := by
  rw [linesFrom, List.getElem?_map] at h
  obtain ⟨i, hi, rfl⟩ := Option.map_eq_some_iff.1 h
  obtain ⟨-, rfl⟩ := List.getElem?_eq_some_iff.1 hi
  rw [List.getElem_range', Nat.zero_add, Nat.mul_comm]

def written (os : OStream) (dump : CustomHexdump) : Text := (os <<< dump).text.drop os.text.length

theorem written_eq (hsize : 0 < dump.rowSize) {os : OStream} (hos : os.width = 0) :
    written os dump = dumpText (linesFrom dump 0) := by
  rw [written, write_text hsize hos, List.drop_left]

theorem decode_written (dump : CustomHexdump) (hsize : 0 < dump.rowSize) {os : OStream}
    (hos : os.width = 0) : decode dump.rowSize (written os dump) = dump.data := by
  rw [written_eq hsize hos, decode_dumpText, filterMap_cells dump 0 hsize dump.data.length (by omega),
    List.drop_zero]
  intro l hl
  obtain ⟨i, -, rfl⟩ := List.mem_map.1 hl
  exact lineAt_readable dump i

theorem write_eq (hsize : 0 < dump.rowSize) {os : OStream} (hos : os.width = 0) :
    (os <<< dump).text = os.text ++ dumpText (linesFrom dump 0) ∧
      (linesFrom dump 0).length = rowCount dump.data.length dump.rowSize ∧
      ∀ r l, (linesFrom dump 0)[r]? = some l → Shows dump r l := by
  refine ⟨write_text hsize hos, ?_, ?_⟩
  · rw [linesFrom, List.length_map, List.length_range', Nat.sub_zero]
  · intro r l h
    rw [linesFrom_zero_getElem? h]
    exact lineAt_shows r

end

/-- A dump determines its data. -/
theorem hexdump_determines_data (dump : CustomHexdump) (hsize : 0 < dump.rowSize) (os : OStream)
    (hos : os.width = 0) :
    (∃ lines, (os <<< dump).text = os.text ++ dumpText lines ∧
      lines.length = rowCount dump.data.length dump.rowSize ∧
      (∀ r l, lines[r]? = some l → Shows dump r l) ∧
      (lines.flatMap (·.cells)).filterMap decodeCell = dump.data) ∧
    decode dump.rowSize (written os dump) = dump.data ∧
    ∀ (os' : OStream) (data : List (BitVec 8)), os'.width = 0 →
      written os' { dump with data } = written os dump → data = dump.data := by
  refine ⟨⟨linesFrom dump 0, ?_⟩, decode_written dump hsize hos, ?_⟩
  · obtain ⟨htext, hcount, hshows⟩ := write_eq hsize hos
    exact ⟨htext, hcount, hshows, filterMap_cells dump 0 hsize dump.data.length (by omega)⟩
  · intro os' data hos' heq
    have hdata : decode dump.rowSize (written os' { dump with data }) = data :=
      decode_written { dump with data } hsize hos'
    rw [heq] at hdata
    exact hdata.symm.trans (decode_written dump hsize hos)

theorem hexdump_determines_data_short_row :
    decode 2 (written .fresh ⟨2, false, [0x00, 0xFF, 0x41]⟩) = [0x00, 0xFF, 0x41] := by
  obtain ⟨-, hdecode, -⟩ :=
    hexdump_determines_data ⟨2, false, [0x00, 0xFF, 0x41]⟩ (by decide) .fresh rfl
  exact hdecode

end SdbusExamples.HexdumpDecoding
