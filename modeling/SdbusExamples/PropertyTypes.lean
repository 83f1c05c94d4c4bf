import Mathlib.Algebra.Group.Nat.Defs
import SdbusExamples.OStreams
import SdbusExamples.Variants

namespace SdbusExamples.PropertyTypes

open OStreams Manipulator Variants

/-- The quotient rounded to the nearest integer, a tie to the even one. -/
def roundedDiv (a b : Nat) : Nat :=
  let q := a / b
  let r := a % b
  if 2 * r < b ∨ (2 * r = b ∧ q % 2 = 0) then q else q + 1

/-- std::to_string() of a double, from its bits: six digits after the point. -/
def decimalDouble (x : BitVec 64) : Text :=
  let sign : Text := if x.getLsbD 63 then ['-'] else []
  let exponent := (x.extractLsb' 52 11).toNat
  let mantissa := (x.extractLsb' 0 52).toNat
  if exponent = 2047 then sign ++ (if mantissa = 0 then "inf" else "nan").toList
  else
    -- the value is m * 2 ^ e
    let m := if exponent = 0 then mantissa else mantissa + 2 ^ 52
    let e : Int := (if exponent = 0 then 1 else exponent) - 1075
    let millionths := roundedDiv (m * 10 ^ 6 * 2 ^ e.toNat) (2 ^ (-e).toNat)
    let fraction := Nat.toDigits 10 (millionths % 10 ^ 6)
    sign ++ Nat.toDigits 10 (millionths / 10 ^ 6) ++ ['.'] ++
      List.replicate (6 - fraction.length) '0' ++ fraction

example : decimalDouble 0xBFF8000000000000 = "-1.500000".toList := by decide

def unsigned {w : Nat} (x : BitVec w) : Number := .unsigned x.toNat

def trueFalse (x : Bool) : String := if x then "True" else "False"

def putBytes (os : OStream) (vec : List Byte) : OStream :=
  vec.foldl (fun os b => os <<< hex <<< setw 2 <<< setfill '0' <<< Number.int (b.setWidth 32) <<<
    " ") os

/-- The handlers of these types, and the branch for an unknown type. -/
def plainHandler : Plain → OStream → OStream
  | .u x, os => os <<< decimal x.toNat <<< endl
  | .d x, os => os <<< decimalDouble x <<< endl
  | .n x, os => os <<< decimal x.toInt <<< endl
  | .o path, os => os <<< path <<< endl
  | .ao paths, os => paths.foldl (fun os path => os <<< path <<< endl) os
  | .i x, os => os <<< decimal x.toInt <<< endl
  | .b x, os => os <<< trueFalse x <<< endl
  | .y x, os => os <<< decimal x.toNat <<< endl
  | .q x, os => os <<< decimal x.toNat <<< endl
  | .s x, os => os <<< (if x.isEmpty then "\"\"" else x) <<< endl
  | .x x, os => os <<< decimal x.toInt <<< endl
  | .t x, os => os <<< decimal x.toNat <<< endl
  | .as vec, os =>
      let os := vec.foldl (fun os s => os <<< "\t" <<< s <<< endl) (os <<< endl)
      if vec.isEmpty then os <<< "\t" <<< "\"\"" <<< endl else os
  | .au vec, os =>
      let os := vec.foldl (fun os s => os <<< "\t" <<< decimal s.toNat <<< endl) (os <<< endl)
      if vec.isEmpty then os <<< "\t" <<< "\"\"" <<< endl else os <<< endl
  | .aau vec, os =>
      let os := vec.foldl (fun os it =>
        it.foldl (fun os address => os <<< "\t" <<< decimal address.toNat <<< endl) os) (os <<< endl)
      if vec.isEmpty then os <<< "\t" <<< "\"\"" <<< endl else os <<< endl
  | .ay vec, os =>
      let os := putBytes os vec
      if vec.isEmpty then os <<< "\t" <<< "\"\"" <<< endl else os <<< endl
  | .aay vec, os =>
      let os := vec.foldl putBytes os
      if vec.isEmpty then os <<< "\t" <<< "\"\"" <<< endl else os <<< endl
  | .qqy x y z, os =>
      os <<< endl <<< "\t" <<< unsigned x <<< ": " <<< unsigned y <<< ": " <<< Char.ofNat z.toNat
  | .aqqy vec, os =>
      vec.foldl (fun os (x, y, z) => os <<< "\t" <<< unsigned x <<< ": " <<< unsigned y <<< ": " <<<
        Char.ofNat z.toNat <<< endl) (os <<< endl)
  | .aayuay vec, os =>
      vec.foldl (fun os (x, y, z) =>
        putBytes (putBytes (os <<< "\t") x <<< ", " <<< decimal y.toNat <<< ", ") z <<< endl)
        (os <<< endl)
  | .aayuayu vec, os =>
      vec.foldl (fun os (x, y, z, w) =>
        putBytes (putBytes (os <<< "\t") x <<< ", " <<< decimal y.toNat <<< ", ") z <<< ", " <<<
          decimal w.toNat <<< endl) (os <<< endl)
  | .tt x y, os => os <<< endl <<< "\t" <<< unsigned x <<< ": " <<< unsigned y
  | .ttt x y z, os =>
      os <<< endl <<< "\t" <<< unsigned x <<< ": " <<< unsigned y <<< ": " <<< unsigned z
  | .tttt x y z w, os =>
      os <<< endl <<< "\t" <<< unsigned x <<< ": " <<< unsigned y <<< ": " <<< unsigned z <<<
        ": " <<< unsigned w
  | .so s path, os => os <<< endl <<< "\t" <<< s <<< ": " <<< path
  | .st s x, os => os <<< endl <<< "\t" <<< s <<< ": " <<< unsigned x
  | .uo x path, os => os <<< endl <<< "\t" <<< unsigned x <<< ": " <<< path
  | .aisb vec, os =>
      vec.foldl (fun os (x, s, b) =>
        os <<< "\t" <<< Number.int x <<< ": " <<< s <<< ": " <<< trueFalse b) (os <<< endl)
  | .iiay x y vec, os =>
      putBytes (os <<< endl <<< "\t" <<< Number.int x <<< ": " <<< Number.int y <<< ": ") vec
  | .aiiay vec, os =>
      vec.foldl (fun os (x, y, bs) =>
        putBytes (os <<< "\t" <<< Number.int x <<< ": " <<< Number.int y <<< ": ") bs) (os <<< endl)
  | .iiayqs x y vec z s, os =>
      putBytes (os <<< endl <<< "\t" <<< Number.int x <<< ", " <<< Number.int y <<< ", ") vec <<<
        ", " <<< unsigned z <<< ", " <<< s
  | .aiiayqs vec, os =>
      vec.foldl (fun os (x, y, bs, z, s) =>
        putBytes (os <<< "\t" <<< Number.int x <<< ", " <<< Number.int y <<< ", ") bs <<<
          ", " <<< unsigned z <<< ", " <<< s) (os <<< endl)
  | .aso vec, os => vec.foldl (fun os (s, path) => os <<< "\t" <<< s <<< ": " <<< path) (os <<< endl)
  | .other type, os => os <<< "Unknown type: " <<< type <<< endl

def putType (os : OStream) (value : Variant) : OStream := os <<< "[" <<< value.peekValueType <<< "] "

mutual

def handler : Variant → OStream → OStream
  | .plain value, os => plainHandler value os
  | .aqv map, os => putNumberedEntries map (os <<< endl)
  | .asv map, os => putEntries "\t" map (os <<< endl)
  | .asasv vec, os => putTuples vec (os <<< endl)
  | .aasv vec, os => putMaps vec (os <<< endl)

/-- The entries of a map, each one in front of append_property() on its value. -/
def putEntries (indent : String) : List (String × Variant) → OStream → OStream
  | [], os => os
  | (key, value) :: map, os =>
      putEntries indent map (handler value (putType (os <<< indent <<< key <<< ": ") value))

def putNumberedEntries : List (BitVec 16 × Variant) → OStream → OStream
  | [], os => os
  | (key, value) :: map, os =>
      putNumberedEntries map
        (handler value (putType (os <<< "\t" <<< unsigned key <<< ": ") value))

def putTuples : List (String × List (String × Variant)) → OStream → OStream
  | [], os => os
  | (s, map) :: vec, os => putTuples vec (putEntries "" map (os <<< "\t" <<< s <<< ": "))

def putMaps : List (List (String × Variant)) → OStream → OStream
  | [], os => os
  | map :: vec, os => putMaps vec (putEntries "\t" map os)

end

def appendProperty (value : Variant) (os : OStream) : OStream := handler value (putType os value)

def appendProperties (props : List (String × Variant)) (os : OStream) : OStream :=
  props.foldl (fun os (key, value) => appendProperty value (os <<< "  " <<< key <<< ": ")) os

example : (appendProperties [("a", .plain (.ay [0x10])), ("b", .plain (.tt 10 16))] .fresh).text =
    "  a: [ay] 10 \n  b: [(tt)] \n\ta: 10".toList := by decide

end SdbusExamples.PropertyTypes
