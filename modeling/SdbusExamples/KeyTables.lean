import SdbusExamples.KeyedUpdates

namespace SdbusExamples.KeyTables

open KeyedUpdates LatestEvents

/-- A record whose members are written by name, each from values of one type. -/
structure KeyTable (P V : Type) where
  Key : Type
  name : Key → String
  keyOf : String → Option Key
  Value : Key → Type
  get : (k : Key) → V → Option (Value k)
  read : (k : Key) → P → Value k
  write : (k : Key) → P → Value k → P
  keyOf_name : ∀ k, keyOf (name k) = some k
  name_of_keyOf : ∀ key k, keyOf key = some k → name k = key
  read_write : ∀ k p v, read k (write k p v) = v
  read_write_of_ne : ∀ k l p v, k ≠ l → read k (write l p v) = read k p

namespace KeyTable

variable {P V : Type} (T : KeyTable P V)

def set (p : P) (key : String) (value : V) : Option P :=
  match T.keyOf key with
  | some k => (T.get k value).map (T.write k p)
  | none => some p

def IllTyped (key : String) (value : V) : Prop := ∃ k, T.name k = key ∧ T.get k value = none

variable {T}

theorem illTyped_name {k : T.Key} {value : V} :
    T.IllTyped (T.name k) value ↔ T.get k value = none := by
  constructor
  · rintro ⟨l, hl, h⟩
    have hkl := T.keyOf_name l
    rw [hl, T.keyOf_name, Option.some_inj] at hkl
    exact hkl ▸ h
  · exact fun h => ⟨k, rfl, h⟩

theorem not_illTyped_of_keyOf {key : String} (h : T.keyOf key = none) (value : V) :
    ¬ T.IllTyped key value := by
  rintro ⟨k, rfl, -⟩
  rw [T.keyOf_name] at h
  cases h

theorem set_eq_none_iff (p : P) (key : String) (value : V) :
    T.set p key value = none ↔ T.IllTyped key value := by
  rw [set]
  cases hk : T.keyOf key with
  | none => exact iff_of_false (fun h => by cases h) (not_illTyped_of_keyOf hk value)
  | some k =>
      rw [← T.name_of_keyOf key k hk, illTyped_name]
      exact Option.map_eq_none_iff

theorem feeds [DecidableEq T.Key] (k : T.Key) : Feeds T.set (T.name k) (T.get k) (T.read k) := by
  intro p key value p' h
  rw [set] at h
  cases hl : T.keyOf key with
  | none =>
      have hne : key ≠ T.name k := by
        rintro rfl
        rw [T.keyOf_name] at hl
        cases hl
      rw [hl] at h
      rw [if_neg hne, Option.some.inj h]
  | some l =>
      rw [hl] at h
      obtain ⟨x, hx, rfl⟩ := Option.map_eq_some_iff.1 h
      obtain rfl := T.name_of_keyOf key l hl
      by_cases hkl : k = l
      · subst hkl
        rw [if_pos rfl, hx, Option.getD_some, T.read_write]
      · have hne : T.name l ≠ T.name k := by
          intro heq
          rw [heq, T.keyOf_name] at hl
          exact hkl (Option.some.inj hl)
        rw [if_neg hne, T.read_write_of_ne k l p x hkl]

instance (key : String) (value : V) : Decidable (T.IllTyped key value) :=
  decidable_of_iff ((T.keyOf key).any (fun k => (T.get k value).isNone) = true) <| by
    cases hk : T.keyOf key with
    | none => exact iff_of_false (fun h => by cases h) (not_illTyped_of_keyOf hk value)
    | some k =>
        rw [← T.name_of_keyOf key k hk, illTyped_name]
        exact Option.isNone_iff_eq_none

variable [DecidableEq T.Key]

/-- After a sequence of maps, each set in the order of its keys up to the first
ill-typed value, a member has the last value that was reached. -/
theorem foldl_setAll (k : T.Key) (p : P) (ms : List (Std.ExtTreeMap String V)) :
    T.read k (ms.foldl (fun p m => (setAll T.set p m.toList).1) p) =
      latest (reached T.IllTyped (T.name k) (T.get k)) (T.read k p) ms :=
  (feeds k).foldl_setAll set_eq_none_iff (fun _ => illTyped_name.1) p ms

end KeyTable

end SdbusExamples.KeyTables
