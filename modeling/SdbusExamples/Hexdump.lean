import SdbusExamples.OStreams

namespace SdbusExamples.Hexdump

open OStreams

structure CustomHexdump where
  rowSize : Nat
  showAscii : Bool
  data : List (BitVec 8)

/-- std::isprint in the C locale. -/
def isprint (b : BitVec 8) : Bool := 0x20 ≤ b.toNat && b.toNat ≤ 0x7E

namespace CustomHexdump

def hexdump (data : List (BitVec 8)) : CustomHexdump := ⟨16, true, data⟩

def cell (dump : CustomHexdump) (os : OStream) (k : Nat) : OStream :=
  match dump.data[k]? with
  | some b =>
      os <<< Manipulator.hex <<< Manipulator.setw 2 <<< Number.int (b.setWidth 32) <<< " "
  | none => os <<< "   "

def ascii (dump : CustomHexdump) (os : OStream) (k : Nat) : OStream :=
  match dump.data[k]? with
  | some b => if isprint b then os <<< Char.ofNat b.toNat else os <<< "."
  | none => os

def row (dump : CustomHexdump) (os : OStream) (i : Nat) : OStream :=
  let columns := List.range dump.rowSize
  let os := os <<< "0x" <<< Manipulator.setw 6 <<< Manipulator.hex <<< Number.unsigned i <<< ": "
  let os := columns.foldl (fun os j => dump.cell os (i + j)) os <<< " "
  let os := if dump.showAscii then columns.foldl (fun os j => dump.ascii os (i + j)) os else os
  os <<< Manipulator.endl

/-- The loop over the rows; each round takes at least one byte unless the row size is 0. -/
def rows (dump : CustomHexdump) : Nat → OStream → Nat → OStream
  | 0, os, _ => os
  | rounds + 1, os, i =>
      if i < dump.data.length then dump.rows rounds (dump.row os i) (i + dump.rowSize) else os

/-- The flags that are restored at the end hold the base, but not the fill. -/
def write (os : OStream) (dump : CustomHexdump) : OStream :=
  { dump.rows dump.data.length { os with fill := '0' } 0 with base := os.base }

instance : HShiftLeft OStream CustomHexdump OStream := ⟨write⟩

end CustomHexdump

example : (OStream.fresh <<< CustomHexdump.hexdump [0x41, 0x0A]).text =
    ("0x000000: 41 0a " ++ String.ofList (List.replicate 42 ' ') ++ " A.\n").toList := by
  decide

end SdbusExamples.Hexdump
