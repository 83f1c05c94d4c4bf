import Mathlib.Data.String.Basic

namespace SdbusExamples.Variants

abbrev Byte := BitVec 8

/-- The values of the types in `type_map_` that hold no variants, named by their
signatures, and of any other type. -/
inductive Plain
  | u (x : BitVec 32)
  | d (x : BitVec 64)
  | n (x : BitVec 16)
  | o (path : String)
  | ao (paths : List String)
  | i (x : BitVec 32)
  | b (x : Bool)
  | y (x : Byte)
  | q (x : BitVec 16)
  | s (x : String)
  | x (x : BitVec 64)
  | t (x : BitVec 64)
  | as (vec : List String)
  | au (vec : List (BitVec 32))
  | aau (vec : List (List (BitVec 32)))
  | ay (vec : List Byte)
  | aay (vec : List (List Byte))
  | qqy (x y : BitVec 16) (z : Byte)
  | aqqy (vec : List (BitVec 16 × BitVec 16 × Byte))
  | aayuay (vec : List (List Byte × BitVec 32 × List Byte))
  | aayuayu (vec : List (List Byte × BitVec 32 × List Byte × BitVec 32))
  | tt (x y : BitVec 64)
  | ttt (x y z : BitVec 64)
  | tttt (x y z w : BitVec 64)
  | so (s : String) (path : String)
  | st (s : String) (x : BitVec 64)
  | uo (x : BitVec 32) (path : String)
  | aisb (vec : List (BitVec 32 × String × Bool))
  | iiay (x y : BitVec 32) (vec : List Byte)
  | aiiay (vec : List (BitVec 32 × BitVec 32 × List Byte))
  | iiayqs (x y : BitVec 32) (vec : List Byte) (z : BitVec 16) (s : String)
  | aiiayqs (vec : List (BitVec 32 × BitVec 32 × List Byte × BitVec 16 × String))
  | aso (vec : List (String × String))
  | other (type : String)

/-- sdbus::Variant: the values of all types; a map is the list of its entries in key order. -/
inductive Variant
  | plain (value : Plain)
  | aqv (map : List (BitVec 16 × Variant))
  | asv (map : List (String × Variant))
  | asasv (vec : List (String × List (String × Variant)))
  | aasv (vec : List (List (String × Variant)))

def Plain.signature : Plain → String
  | .u _ => "u"
  | .d _ => "d"
  | .n _ => "n"
  | .o _ => "o"
  | .ao _ => "ao"
  | .i _ => "i"
  | .b _ => "b"
  | .y _ => "y"
  | .q _ => "q"
  | .s _ => "s"
  | .x _ => "x"
  | .t _ => "t"
  | .as _ => "as"
  | .au _ => "au"
  | .aau _ => "aau"
  | .ay _ => "ay"
  | .aay _ => "aay"
  | .qqy .. => "(qqy)"
  | .aqqy _ => "a(qqy)"
  | .aayuay _ => "a(ayuay)"
  | .aayuayu _ => "a(ayuayu)"
  | .tt .. => "(tt)"
  | .ttt .. => "(ttt)"
  | .tttt .. => "(tttt)"
  | .so .. => "(so)"
  | .st .. => "(st)"
  | .uo .. => "(uo)"
  | .aisb _ => "a(isb)"
  | .iiay .. => "(iiay)"
  | .aiiay _ => "a(iiay)"
  | .iiayqs .. => "(iiayqs)"
  | .aiiayqs _ => "a(iiayqs)"
  | .aso _ => "a(so)"
  | .other type => type

def Variant.peekValueType : Variant → String
  | .plain value => value.signature
  | .aqv _ => "a\x7bqv\x7d"
  | .asv _ => "a\x7bsv\x7d"
  | .asasv _ => "a(sa\x7bsv\x7d)"
  | .aasv _ => "aa\x7bsv\x7d"

namespace Variant

/-- What get() gives for a std::string; `none` is the sdbus::Error that it throws for a
value of another type. -/
def getString : Variant → Option String
  | .plain (.s value) => some value
  | _ => none

def getObjectPath : Variant → Option String
  | .plain (.o path) => some path
  | _ => none

def getBool : Variant → Option Bool
  | .plain (.b value) => some value
  | _ => none

def getByte : Variant → Option Byte
  | .plain (.y value) => some value
  | _ => none

def getInt16 : Variant → Option (BitVec 16)
  | .plain (.n value) => some value
  | _ => none

def getInt32 : Variant → Option (BitVec 32)
  | .plain (.i value) => some value
  | _ => none

def getUint32 : Variant → Option (BitVec 32)
  | .plain (.u value) => some value
  | _ => none

def getInt64 : Variant → Option (BitVec 64)
  | .plain (.x value) => some value
  | _ => none

def getUint64 : Variant → Option (BitVec 64)
  | .plain (.t value) => some value
  | _ => none

def getDouble : Variant → Option (BitVec 64)
  | .plain (.d value) => some value
  | _ => none

def getStrings : Variant → Option (List String)
  | .plain (.as values) => some values
  | _ => none

def getObjectPaths : Variant → Option (List String)
  | .plain (.ao paths) => some paths
  | _ => none

def getBytes : Variant → Option (List Byte)
  | .plain (.ay values) => some values
  | _ => none

def getByteArrays : Variant → Option (List (List Byte))
  | .plain (.aay values) => some values
  | _ => none

def getDict : Variant → Option (List (String × Variant))
  | .asv entries => some entries
  | _ => none

end Variant

abbrev PropertyMap := Std.ExtTreeMap String Variant

abbrev Interfaces := Std.ExtTreeMap String PropertyMap

end SdbusExamples.Variants
