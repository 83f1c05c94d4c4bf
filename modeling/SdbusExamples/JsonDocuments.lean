import SdbusExamples.Binary64
import SdbusExamples.PropertyTypes

namespace SdbusExamples.JsonDocuments

open Binary64 OStreams PropertyTypes

/-- glz::generic. The members of an object stand in the order of its container. -/
inductive Json
  | null
  | string (s : Text)
  | number (d : Double)
  | boolean (b : Bool)
  | array (items : List Json)
  | object (members : List (Text × Json))

def Json.isContainer : Json → Bool
  | .array _ | .object _ => true
  | _ => false

def kMaxSafeInt64 : Int := 9007199254740992
def kMinSafeInt64 : Int := -9007199254740992

/-- Within the bounds and equal to its floor; a NaN is neither. -/
def SafeInteger (d : Double) : Prop :=
  Finite d ∧ kMinSafeInt64 * one ≤ scaled d ∧ scaled d ≤ kMaxSafeInt64 * one ∧ scaled d % one = 0

instance (d : Double) : Decidable (SafeInteger d) := inferInstanceAs (Decidable (_ ∧ _))

def scalarToString : Json → Text
  | .null => ['"', '"']
  | .string s => s
  | .number d => if SafeInteger d then decimal (scaled d / one) else decimalDouble d
  | .boolean b => (if b then "true" else "false").toList
  | _ => "[complex]".toList

def pad (indent : Nat) : Text := List.replicate (indent * 2) ' '

def indexKey (idx : Nat) : Text := '[' :: decimal idx ++ [']']

mutual

def elementToLines : Json → Nat → Text
  | .object members, indent => membersToLines members indent
  | .array items, indent => itemsToLines items 0 indent
  | el, indent => pad indent ++ scalarToString el ++ ['\n']

def membersToLines : List (Text × Json) → Nat → Text
  | [], _ => []
  | (key, val) :: rest, indent =>
      (if val.isContainer then pad indent ++ key ++ [':', '\n'] ++ elementToLines val (indent + 1)
        else pad indent ++ key ++ [':', ' '] ++ scalarToString val ++ ['\n']) ++
      membersToLines rest indent

def itemsToLines : List Json → Nat → Nat → Text
  | [], _, _ => []
  | item :: rest, idx, indent =>
      (if item.isContainer then
          pad indent ++ indexKey idx ++ [':', '\n'] ++ elementToLines item (indent + 1)
        else pad indent ++ indexKey idx ++ [':', ' '] ++ scalarToString item ++ ['\n']) ++
      itemsToLines rest (idx + 1) indent

end

/-- `readJson` is glz::read_json(), with the text of its error. -/
def parseDescriptionJson (readJson : Text → Except Text Json) (json : Text) : Text :=
  if json = [] then "<empty>".toList
  else
    match readJson json with
    | .error error => "json_error: ".toList ++ error
    | .ok doc => elementToLines doc 0

example : elementToLines (.object [(['a'], .array [.null, .number 0x3FF8000000000000]),
      (['b'], .object [])]) 0 =
    "a:\n  [0]: \"\"\n  [1]: 1.500000\nb:\n".toList := by decide +kernel

end SdbusExamples.JsonDocuments
