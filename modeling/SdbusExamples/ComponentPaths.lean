import Mathlib.Data.List.Induction
import Mathlib.Data.List.Infix

namespace SdbusExamples.ComponentPaths

variable {α : Type}

section Splitting

variable [DecidableEq α] {sep : α}

theorem splitOn_of_idxOf?_none {text : List α} (h : text.idxOf? sep = none) :
    text.splitOn sep = [text] :=
  List.splitOn_eq_singleton (List.idxOf?_eq_none_iff.1 h)

theorem splitOn_of_idxOf?_some {text : List α} {i : Nat} (h : text.idxOf? sep = some i) :
    text.splitOn sep = text.take i :: (text.drop (i + 1)).splitOn sep := by
  obtain ⟨hi, hsep, hbefore⟩ := List.idxOf?_eq_some_iff.1 h
  have hnot : sep ∉ text.take i := by
    intro hmem
    obtain ⟨j, hj, heq⟩ := List.getElem_of_mem hmem
    rw [List.length_take] at hj
    rw [List.getElem_take] at heq
    exact hbefore j (by omega) heq
  calc text.splitOn sep
      = (text.take i ++ sep :: text.drop (i + 1)).splitOn sep := by
        rw [← hsep, ← List.drop_eq_getElem_cons hi, List.take_append_drop]
    _ = text.take i :: (text.drop (i + 1)).splitOn sep :=
        List.splitOn_append_cons_self_of_not_mem hnot _

end Splitting

section Joining

variable {sep : α}

def fromRoot (sep : α) (components : List (List α)) : List α := components.flatMap (sep :: ·)

@[simp] theorem fromRoot_nil : fromRoot sep [] = [] := rfl

@[simp] theorem fromRoot_cons (c : List α) (cs : List (List α)) :
    fromRoot sep (c :: cs) = sep :: (c ++ fromRoot sep cs) := rfl

@[simp] theorem fromRoot_append (cs ds : List (List α)) :
    fromRoot sep (cs ++ ds) = fromRoot sep cs ++ fromRoot sep ds := List.flatMap_append

theorem fromRoot_eq_intercalate {components : List (List α)} (h : components ≠ []) :
    fromRoot sep components = sep :: [sep].intercalate components := by
  induction components with
  | nil => exact absurd rfl h
  | cons c cs ih =>
      cases cs with
      | nil => simp
      | cons d ds =>
          rw [fromRoot_cons, ih (List.cons_ne_nil d ds), List.intercalate_cons_cons]
          simp

theorem intercalate_inj [DecidableEq α] {cs ds : List (List α)} (hcs : cs ≠ []) (hds : ds ≠ [])
    (hc : ∀ c ∈ cs, sep ∉ c) (hd : ∀ d ∈ ds, sep ∉ d) :
    [sep].intercalate cs = [sep].intercalate ds ↔ cs = ds := by
  constructor
  · intro h
    rw [← List.splitOn_intercalate sep hc hcs, h, List.splitOn_intercalate sep hd hds]
  · rintro rfl
    rfl

/-- A word without separators that begins a path begins its first component. -/
theorem prefix_of_prefix_append_sep {word c rest : List α} (hword : sep ∉ word)
    (h : word <+: c ++ sep :: rest) : word <+: c := by
  apply List.prefix_of_prefix_length_le h (List.prefix_append c _)
  by_contra hlt
  obtain ⟨more, hmore⟩ := h
  have hsep : (word ++ more)[c.length]? = some sep := by
    rw [hmore, List.getElem?_append_right (Nat.le_refl _)]
    simp
  rw [List.getElem?_append_left (Nat.lt_of_not_le hlt)] at hsep
  exact hword (List.mem_of_getElem? hsep)

end Joining

section Resolution

variable [DecidableEq α] (dot dotdot : List α)

def enter (dir : List (List α)) (component : List α) : List (List α) :=
  if component = [] ∨ component = dot then dir
  else if component = dotdot then dir.dropLast
  else dir ++ [component]

def resolve (base components : List (List α)) : List (List α) :=
  components.foldl (enter dot dotdot) base

variable {dot dotdot}

theorem resolve_append (base cs ds : List (List α)) :
    resolve dot dotdot base (cs ++ ds) = resolve dot dotdot (resolve dot dotdot base cs) ds :=
  List.foldl_append

theorem prefix_enter {component : List α} (h : component ≠ dotdot) (dir : List (List α)) :
    dir <+: enter dot dotdot dir component := by
  rw [enter, if_neg h]
  split
  · exact List.prefix_rfl
  · exact List.prefix_append dir [component]

theorem prefix_resolve {components : List (List α)} (h : dotdot ∉ components)
    (base : List (List α)) : base <+: resolve dot dotdot base components := by
  induction components using List.reverseRecOn with
  | nil => exact List.prefix_rfl
  | append_singleton cs c ih =>
      rw [List.mem_append, not_or, List.mem_singleton] at h
      rw [resolve_append]
      exact (ih h.1).trans (prefix_enter (Ne.symm h.2) _)

end Resolution

end SdbusExamples.ComponentPaths
