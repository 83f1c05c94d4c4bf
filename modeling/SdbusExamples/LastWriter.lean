import SdbusExamples.PathMaps
import Mathlib.Data.List.Induction
import Mathlib.Data.List.Perm.Basic

namespace SdbusExamples.LastWriter

open PathMaps

variable {V : Type}

/-- A map written one entry after another, where a later write under the same
key replaces an earlier one. -/
def writeAll (writes : List (String × V)) : Std.ExtTreeMap String V :=
  writes.foldl (fun m w => m.insert w.1 w.2) ∅

def Consistent (writes : List (String × V)) : Prop :=
  ∀ w ∈ writes, ∀ w' ∈ writes, w.1 = w'.1 → w.2 = w'.2

@[simp] theorem writeAll_nil : writeAll ([] : List (String × V)) = ∅ := rfl

theorem writeAll_concat (writes : List (String × V)) (w : String × V) :
    writeAll (writes ++ [w]) = (writeAll writes).insert w.1 w.2 := by
  rw [writeAll, List.foldl_append]
  rfl

theorem getElem?_writeAll_concat (writes : List (String × V)) (w : String × V) (key : String) :
    (writeAll (writes ++ [w]))[key]? = if w.1 = key then some w.2 else (writeAll writes)[key]? := by
  rw [writeAll_concat, getElem?_insert_path]

theorem mem_of_getElem?_writeAll {writes : List (String × V)} {key : String} {v : V}
    (h : (writeAll writes)[key]? = some v) : (key, v) ∈ writes := by
  induction writes using List.reverseRecOn with
  | nil => simp at h
  | append_singleton ws w ih =>
      rw [getElem?_writeAll_concat] at h
      rw [List.mem_append, List.mem_singleton]
      split at h
      case isTrue hkey =>
        obtain ⟨k, value⟩ := w
        cases hkey
        cases h
        exact Or.inr rfl
      case isFalse => exact Or.inl (ih h)

theorem exists_getElem?_writeAll {writes : List (String × V)} {w : String × V} (h : w ∈ writes) :
    ∃ v, (writeAll writes)[w.1]? = some v := by
  induction writes using List.reverseRecOn with
  | nil => cases h
  | append_singleton ws last ih =>
      rw [getElem?_writeAll_concat]
      split
      case isTrue => exact ⟨last.2, rfl⟩
      case isFalse hkey =>
        rw [List.mem_append, List.mem_singleton] at h
        rcases h with h | rfl
        · exact ih h
        · exact absurd rfl hkey

theorem Consistent.getElem?_iff {writes : List (String × V)} (h : Consistent writes)
    (key : String) (v : V) : (writeAll writes)[key]? = some v ↔ (key, v) ∈ writes := by
  refine ⟨mem_of_getElem?_writeAll, fun hmem => ?_⟩
  obtain ⟨v', hv'⟩ := exists_getElem?_writeAll hmem
  have heq : v' = v := h _ (mem_of_getElem?_writeAll hv') _ hmem rfl
  rw [hv', heq]

theorem Consistent.perm {writes writes' : List (String × V)} (h : Consistent writes)
    (hp : writes.Perm writes') : Consistent writes' :=
  fun w hw w' hw' => h w (hp.mem_iff.2 hw) w' (hp.mem_iff.2 hw')

theorem Consistent.writeAll_perm {writes writes' : List (String × V)} (h : Consistent writes)
    (hp : writes.Perm writes') : writeAll writes = writeAll writes' := by
  apply Std.ExtTreeMap.ext_getElem?
  intro key
  apply Option.ext
  intro v
  rw [h.getElem?_iff, (h.perm hp).getElem?_iff, hp.mem_iff]

end SdbusExamples.LastWriter
