import SdbusExamples.LatestEvents
import SdbusExamples.PathMaps

namespace SdbusExamples.ExportedObjects

open LatestEvents PathMaps

abbrev Interfaces (P : Type) := Std.ExtTreeMap String P

abbrev Objects (P : Type) := Std.ExtTreeMap String (Interfaces P)

/-- The branches of a handler: most are for the interface of one name. -/
structure Branches (M : Type) where
  branch : String → M
  name : M → Option String
  named : ∀ interface, ∀ n ∈ name (branch interface), interface = n
  taken : ∀ m, ∀ n ∈ name m, branch n = m

theorem Branches.branch_eq_iff {M : Type} (b : Branches M) {m : M} {n : String}
    (h : b.name m = some n) (interface : String) : b.branch interface = m ↔ interface = n := by
  constructor
  · rintro rfl
    exact b.named interface n h
  · rintro rfl
    exact b.taken m interface h

variable {P : Type} (objects : Objects P) (path q interface : String)

def lookup : Option P := objects[q]?.bind (·[interface]?)

def Exported : Prop := ∃ p, lookup objects q interface = some p

instance : Decidable (Exported objects q interface) :=
  decidable_of_iff ((lookup objects q interface).isSome = true) Option.isSome_iff_exists

def exports (added : Interfaces P) : Objects P :=
  objects.alter path fun old => some (old.getD ∅ ∪ added)

def withdraws (interfaces : List String) : Objects P :=
  objects.alter path fun old => old.map fun m => interfaces.foldl Std.ExtTreeMap.erase m

theorem lookup_exports (added : Interfaces P) :
    lookup (exports objects path added) q interface =
      if path = q then (added[interface]?).or (lookup objects q interface)
      else lookup objects q interface := by
  rw [lookup, exports, getElem?_alter_path]
  split_ifs with hq
  · subst hq
    rw [Option.bind_some, Std.ExtTreeMap.getElem?_union, lookup]
    cases objects[path]? <;> simp
  · rfl

theorem getElem?_foldl_erase (m : Interfaces P) (interfaces : List String) :
    (interfaces.foldl Std.ExtTreeMap.erase m)[interface]? =
      if interface ∈ interfaces then none else m[interface]? := by
  induction interfaces generalizing m with
  | nil => simp
  | cons i rest ih =>
      rw [List.foldl_cons, ih, getElem?_erase_path]
      by_cases hi : i = interface
      · simp [hi]
      · simp [hi, Ne.symm hi]

theorem lookup_withdraws (interfaces : List String) :
    lookup (withdraws objects path interfaces) q interface =
      if path = q ∧ interface ∈ interfaces then none else lookup objects q interface := by
  rw [lookup, withdraws, getElem?_alter_path]
  by_cases hq : path = q
  · subst hq
    rw [if_pos rfl, lookup]
    cases objects[path]? with
    | none => simp
    | some m => simp [getElem?_foldl_erase]
  · rw [if_neg hq, if_neg (fun h => hq h.1), lookup]

theorem exported_exports_iff (added : Interfaces P) :
    Exported (exports objects path added) q interface ↔
      path = q ∧ interface ∈ added ∨ Exported objects q interface := by
  rw [Exported, lookup_exports, Exported, mem_iff_getElem?]
  split_ifs with hq
  · cases added[interface]? <;> simp [hq]
  · simp [hq]

theorem exported_withdraws_iff (interfaces : List String) :
    Exported (withdraws objects path interfaces) q interface ↔
      Exported objects q interface ∧ ¬ (path = q ∧ interface ∈ interfaces) := by
  rw [Exported, lookup_withdraws, Exported]
  split_ifs with hq
  · simp [hq]
  · simp [hq]

theorem exported_iff_mem_toList : Exported objects q interface ↔
    ∃ interfaces : Interfaces P, (q, interfaces) ∈ objects.toList ∧
      interface ∈ interfaces := by
  simp only [Exported, lookup, Option.bind_eq_some_iff, mem_toList_path, mem_iff_getElem?]
  constructor
  · rintro ⟨p, m, hm, hp⟩
    exact ⟨m, hm, p, hp⟩
  · rintro ⟨m, hm, p, hp⟩
    exact ⟨p, m, hm, hp⟩

inductive Signal
  | added (path interface : String)
  | removed (path interface : String)

/-- Whether `q` exports the interface after the signal, if the signal is about it. -/
def tells : Signal → Option Bool
  | .added path i => if path = q ∧ i = interface then some true else none
  | .removed path i => if path = q ∧ i = interface then some false else none

theorem latest_added (b : Bool) (interfaces : List String) :
    latest (tells q interface) b (interfaces.map (.added path)) = true ↔
      b = true ∨ path = q ∧ interface ∈ interfaces := by
  induction interfaces generalizing b with
  | nil => simp
  | cons i rest ih =>
      rw [List.map_cons, latest_cons, ih, tells]
      by_cases hq : path = q
      · by_cases hi : i = interface
        · simp [hq, hi]
        · simp [hq, hi, Ne.symm hi]
      · simp [hq]

theorem latest_removed (b : Bool) (interfaces : List String) :
    latest (tells q interface) b (interfaces.map (.removed path)) = true ↔
      b = true ∧ ¬ (path = q ∧ interface ∈ interfaces) := by
  induction interfaces generalizing b with
  | nil => simp
  | cons i rest ih =>
      rw [List.map_cons, latest_cons, ih, tells]
      by_cases hq : path = q
      · by_cases hi : i = interface
        · simp [hq, hi]
        · simp [hq, hi, Ne.symm hi]
      · simp [hq]

def snapshot : List Signal :=
  objects.toList.flatMap fun e => e.2.keys.map (.added e.1)

theorem latest_entries (b : Bool) (entries : List (String × Interfaces P)) :
    latest (tells q interface) b (entries.flatMap fun e => e.2.keys.map (.added e.1)) = true ↔
      b = true ∨ ∃ interfaces : Interfaces P, (q, interfaces) ∈ entries ∧ interface ∈ interfaces := by
  induction entries generalizing b with
  | nil => simp
  | cons e rest ih =>
      obtain ⟨path, m⟩ := e
      rw [List.flatMap_cons, latest_append, ih, latest_added, Std.ExtTreeMap.mem_keys, or_assoc]
      constructor
      · rintro (hb | ⟨rfl, hm⟩ | ⟨m', hmem, hm⟩)
        · exact .inl hb
        · exact .inr ⟨m, List.mem_cons_self, hm⟩
        · exact .inr ⟨m', List.mem_cons_of_mem _ hmem, hm⟩
      · rintro (hb | ⟨m', hmem, hm⟩)
        · exact .inl hb
        · rcases List.mem_cons.1 hmem with heq | hmem
          · obtain ⟨rfl, rfl⟩ := Prod.mk.inj heq
            exact .inr (.inl ⟨rfl, hm⟩)
          · exact .inr (.inr ⟨m', hmem, hm⟩)

theorem latest_snapshot (b : Bool) :
    latest (tells q interface) b (snapshot objects) = true ↔
      b = true ∨ Exported objects q interface := by
  rw [snapshot, latest_entries, exported_iff_mem_toList]

end SdbusExamples.ExportedObjects
