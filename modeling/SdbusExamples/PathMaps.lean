import Mathlib.Data.String.Basic

namespace SdbusExamples.PathMaps

variable {V : Type} (m : Std.ExtTreeMap String V) (path q : String)

theorem getElem?_insert_path (v : V) :
    (m.insert path v)[q]? = if path = q then some v else m[q]? := by
  simp [Std.ExtTreeMap.getElem?_insert]

theorem getElem?_erase_path : (m.erase path)[q]? = if path = q then none else m[q]? := by
  simp [Std.ExtTreeMap.getElem?_erase]

theorem getElem?_alter_path (f : Option V → Option V) :
    (m.alter path f)[q]? = if path = q then f m[path]? else m[q]? := by
  simp [Std.ExtTreeMap.getElem?_alter]

theorem mem_insert_path (v : V) : q ∈ m.insert path v ↔ path = q ∨ q ∈ m := by
  simp [Std.ExtTreeMap.mem_insert]

theorem mem_erase_path : q ∈ m.erase path ↔ path ≠ q ∧ q ∈ m := by
  simp [Std.ExtTreeMap.mem_erase]

variable {m} in
theorem mem_iff_getElem? : q ∈ m ↔ ∃ v, m[q]? = some v := by
  rw [Std.ExtTreeMap.mem_iff_isSome_getElem?, Option.isSome_iff_exists]

theorem mem_toList_path (v : V) : (path, v) ∈ m.toList ↔ m[path]? = some v :=
  Std.ExtTreeMap.mem_toList_iff_getElem?_eq_some

theorem insert_insert_path (v w : V) : (m.insert path v).insert path w = m.insert path w := by
  apply Std.ExtTreeMap.ext_getElem?
  intro q
  simp only [getElem?_insert_path]
  split_ifs <;> rfl

variable {m path}

theorem insert_self_path {v : V} (h : m[path]? = some v) : m.insert path v = m := by
  apply Std.ExtTreeMap.ext_getElem?
  intro q
  rw [getElem?_insert_path]
  split_ifs with hq
  · rw [← hq, h]
  · rfl

theorem erase_insert_path (h : path ∉ m) (v : V) : (m.insert path v).erase path = m := by
  apply Std.ExtTreeMap.ext_getElem?
  intro q
  rw [getElem?_erase_path, getElem?_insert_path]
  split_ifs with hq
  · rw [← hq, Std.ExtTreeMap.getElem?_eq_none h]
  · rfl

variable (m path)

theorem size_insert_le_of {limit : Nat} (v : V) (hm : m.size ≤ limit)
    (h : path ∈ m ∨ m.size < limit) : (m.insert path v).size ≤ limit := by
  rw [Std.ExtTreeMap.size_insert]
  split_ifs with hmem
  · exact hm
  · exact Nat.succ_le_of_lt (h.resolve_left hmem)

end SdbusExamples.PathMaps
