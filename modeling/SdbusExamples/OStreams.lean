import Mathlib.Data.List.Basic
import Mathlib.Data.Nat.Basic

namespace SdbusExamples.OStreams

/-- The characters written; a character stands for a byte of the text. -/
abbrev Text := List Char

inductive Base
  | dec
  | hex
deriving DecidableEq

def Base.radix : Base → Nat
  | .dec => 10
  | .hex => 16

structure OStream where
  text : Text
  base : Base
  width : Nat
  fill : Char
deriving DecidableEq

def OStream.fresh : OStream := ⟨[], .dec, 0, ' '⟩

inductive Number
  | unsigned (n : Nat)
  | int (x : BitVec 32)
deriving DecidableEq

/-- std::to_string() of an integer. -/
def decimal (x : Int) : Text :=
  if x < 0 then '-' :: Nat.toDigits 10 x.natAbs else Nat.toDigits 10 x.natAbs

/-- In hexadecimal a signed number shows its two's complement. -/
def Number.digits : Base → Number → Text
  | base, .unsigned n => Nat.toDigits base.radix n
  | .dec, .int x => decimal x.toInt
  | .hex, .int x => Nat.toDigits 16 x.toNat

inductive Manipulator
  | hex
  | setw (n : Nat)
  | setfill (c : Char)
  | endl

namespace OStream

/-- Formatted output: filled up to the width, which is then reset. -/
def put (os : OStream) (cs : Text) : OStream :=
  { os with
    text := os.text ++ (List.replicate (os.width - cs.length) os.fill ++ cs)
    width := 0 }

/-- endl is unformatted output: it neither uses nor resets the width. -/
def manipulate (os : OStream) : Manipulator → OStream
  | .hex => { os with base := .hex }
  | .setw n => { os with width := n }
  | .setfill c => { os with fill := c }
  | .endl => { os with text := os.text ++ ['\n'] }

instance : HShiftLeft OStream Text OStream := ⟨put⟩
instance : HShiftLeft OStream String OStream := ⟨fun os s => os.put s.toList⟩
instance : HShiftLeft OStream Char OStream := ⟨fun os c => os.put [c]⟩
instance : HShiftLeft OStream Number OStream := ⟨fun os n => os.put (n.digits os.base)⟩
instance : HShiftLeft OStream Manipulator OStream := ⟨manipulate⟩

end OStream

/-- What a program writes to a stream that starts a field with width 0: text, a
number in the current base, or a byte after `hex`, `setw(2)` and `setfill('0')`. -/
inductive Item
  | text (cs : Text)
  | number (n : Number)
  | byte (b : BitVec 8)
deriving DecidableEq

def hexByte (b : BitVec 8) : Text :=
  let cs := Nat.toDigits 16 b.toNat
  List.replicate (2 - cs.length) '0' ++ cs

def baseAfter : Base → List Item → Base
  | base, [] => base
  | base, .text _ :: is => baseAfter base is
  | base, .number _ :: is => baseAfter base is
  | _, .byte _ :: is => baseAfter .hex is

def render : Base → List Item → Text
  | _, [] => []
  | base, .text cs :: is => cs ++ render base is
  | base, .number n :: is => n.digits base ++ render base is
  | _, .byte b :: is => hexByte b ++ render .hex is

def leading : List Item → List Number
  | [] => []
  | .text _ :: is => leading is
  | .number n :: is => n :: leading is
  | .byte _ :: _ => []

theorem baseAfter_append (base : Base) (is js : List Item) :
    baseAfter base (is ++ js) = baseAfter (baseAfter base is) js := by
  induction is generalizing base with
  | nil => rfl
  | cons i is ih => cases i <;> exact ih _

theorem render_append (base : Base) (is js : List Item) :
    render base (is ++ js) = render base is ++ render (baseAfter base is) js := by
  induction is generalizing base with
  | nil => rfl
  | cons i is ih =>
      cases i <;> simp only [List.cons_append, render, baseAfter, ih, List.append_assoc]

/-- `f` writes the items: the flags of the stream come in through its base only. -/
def Writes (f : OStream → OStream) (is : List Item) : Prop :=
  ∀ os, os.width = 0 → (f os).text = os.text ++ render os.base is ∧
    (f os).base = baseAfter os.base is ∧ (f os).width = 0

namespace Writes

theorem nil : Writes id [] := fun _ h => ⟨(List.append_nil _).symm, rfl, h⟩

theorem comp {f g : OStream → OStream} {is js : List Item} (hf : Writes f is) (hg : Writes g js) :
    Writes (fun os => g (f os)) (is ++ js) := by
  intro os hw
  obtain ⟨htext, hbase, hwidth⟩ := hf os hw
  obtain ⟨htext', hbase', hwidth'⟩ := hg (f os) hwidth
  refine ⟨?_, ?_, hwidth'⟩
  · rw [htext', htext, hbase, render_append, List.append_assoc]
  · rw [hbase', hbase, baseAfter_append]

theorem foldl {α : Type} {f : OStream → α → OStream} {items : α → List Item}
    (h : ∀ a, Writes (fun os => f os a) (items a)) (as : List α) :
    Writes (fun os => as.foldl f os) (as.flatMap items) := by
  induction as with
  | nil => exact nil
  | cons a as ih => exact (h a).comp ih

theorem text_one (cs : Text) : Writes (fun os => os <<< cs) [.text cs] := by
  intro os hw
  refine ⟨?_, rfl, rfl⟩
  show os.text ++ (List.replicate (os.width - cs.length) os.fill ++ cs) = _
  simp [render, hw]

theorem number_one (n : Number) : Writes (fun os => os <<< n) [.number n] := by
  intro os hw
  refine ⟨?_, rfl, rfl⟩
  show os.text ++ (List.replicate (os.width - (n.digits os.base).length) os.fill ++ _) = _
  simp [render, hw]

theorem byte_one (b : BitVec 8) :
    Writes (fun os => os <<< Manipulator.hex <<< Manipulator.setw 2 <<< Manipulator.setfill '0' <<<
      Number.int (b.setWidth 32)) [.byte b] := by
  intro os hw
  have hb : (b.setWidth 32).toNat = b.toNat := by
    have := b.isLt
    rw [BitVec.toNat_setWidth]
    exact Nat.mod_eq_of_lt (by omega)
  refine ⟨?_, rfl, rfl⟩
  show os.text ++ (List.replicate (2 - (Nat.toDigits 16 (b.setWidth 32).toNat).length) '0' ++
    Nat.toDigits 16 (b.setWidth 32).toNat) = _
  rw [hb]
  simp [render, hexByte]

theorem endl_one : Writes (fun os => os <<< Manipulator.endl) [.text ['\n']] :=
  fun _ hw => ⟨rfl, rfl, hw⟩

section

variable {f : OStream → OStream} {is : List Item} (h : Writes f is)
include h

theorem text (cs : Text) : Writes (fun os => f os <<< cs) (is ++ [.text cs]) :=
  h.comp (text_one cs)

theorem str (s : String) : Writes (fun os => f os <<< s) (is ++ [.text s.toList]) :=
  h.comp (text_one s.toList)

theorem char (c : Char) : Writes (fun os => f os <<< c) (is ++ [.text [c]]) :=
  h.comp (text_one [c])

theorem number (n : Number) : Writes (fun os => f os <<< n) (is ++ [.number n]) :=
  h.comp (number_one n)

theorem endl : Writes (fun os => f os <<< Manipulator.endl) (is ++ [.text ['\n']]) :=
  h.comp endl_one

end

theorem ite {p : Prop} [Decidable p] {f g : OStream → OStream} {is js : List Item}
    (hf : Writes f is) (hg : Writes g js) :
    Writes (fun os => if p then f os else g os) (if p then is else js) := by
  by_cases hp : p
  · simpa only [if_pos hp] using hf
  · simpa only [if_neg hp] using hg

end Writes

end SdbusExamples.OStreams
