import Mathlib.Data.String.Basic

namespace SdbusExamples.KnownKeys

variable {K V P : Type} [Ord K] [Std.TransOrd K]

abbrev Below (a b : K) : Prop := compare a b = .lt

def picked (m : Std.ExtTreeMap K V) (keys : List K) : List (K × V) :=
  keys.filterMap fun key => m[key]?.map (key, ·)

theorem mem_picked {m : Std.ExtTreeMap K V} {keys : List K} {key : K} {value : V} :
    (key, value) ∈ picked m keys ↔ key ∈ keys ∧ m[key]? = some value := by
  rw [picked, List.mem_filterMap]
  constructor
  · rintro ⟨k, hk, hvalue⟩
    obtain ⟨v, hv, heq⟩ := Option.map_eq_some_iff.1 hvalue
    cases heq
    exact ⟨hk, hv⟩
  · rintro ⟨hk, hv⟩
    exact ⟨key, hk, by rw [hv, Option.map_some]⟩

theorem below_picked (m : Std.ExtTreeMap K V) {keys : List K} (h : keys.Pairwise Below) :
    (picked m keys).Pairwise fun a b => Below a.1 b.1 := by
  apply h.filterMap
  intro a b hab x hx y hy
  obtain ⟨v, -, rfl⟩ := Option.map_eq_some_iff.1 hx
  obtain ⟨w, -, rfl⟩ := Option.map_eq_some_iff.1 hy
  exact hab

theorem nodup_of_below {entries : List (K × V)} (h : entries.Pairwise fun a b => Below a.1 b.1) :
    entries.Nodup := by
  apply h.imp
  rintro a b hab rfl
  exact nomatch (Std.compare_self (a := a.1)).symm.trans hab

/-- A loop over a map that acts on known keys only acts on them in their order. -/
theorem filter_toList [Std.LawfulEqOrd K] [DecidableEq K] (m : Std.ExtTreeMap K V) {keys : List K}
    (h : keys.Pairwise Below) : m.toList.filter (fun e => decide (e.1 ∈ keys)) = picked m keys := by
  have htoList : m.toList.Pairwise fun a b => Below a.1 b.1 := m.ordered_keys_toList
  have hfilter := htoList.filter fun e => decide (e.1 ∈ keys)
  apply List.Perm.eq_of_pairwise _ hfilter (below_picked m h)
  · rw [List.perm_ext_iff_of_nodup (nodup_of_below hfilter) (nodup_of_below (below_picked m h))]
    rintro ⟨key, value⟩
    rw [mem_picked, List.mem_filter, Std.ExtTreeMap.mem_toList_iff_getElem?_eq_some,
      decide_eq_true_eq, and_comm]
  · intro a b _ _ hab hba
    exact nomatch (Std.OrientedCmp.gt_of_lt hab).symm.trans hba

variable {f : P → K × V → Option P}

omit [Ord K] [Std.TransOrd K] in
theorem foldlM_filter [DecidableEq K] {keys : List K}
    (hf : ∀ p e, e.1 ∉ keys → f p e = some p) (entries : List (K × V)) (p : P) :
    (entries.filter fun e => decide (e.1 ∈ keys)).foldlM f p = entries.foldlM f p := by
  induction entries generalizing p with
  | nil => rfl
  | cons e entries ih =>
      by_cases he : e.1 ∈ keys
      · simp only [List.filter_cons, he, decide_true, if_true, List.foldlM_cons]
        exact congrArg (f p e).bind (funext ih)
      · simp only [List.filter_cons, he, decide_false, Bool.false_eq_true, if_false, ih,
          List.foldlM_cons, hf p e he]
        rfl

def visit (f : P → K × V → Option P) (m : Std.ExtTreeMap K V) (p : P) (key : K) : Option P :=
  match m[key]? with
  | none => some p
  | some value => f p (key, value)

theorem foldlM_picked (m : Std.ExtTreeMap K V) (keys : List K) (p : P) :
    (picked m keys).foldlM f p = keys.foldlM (visit f m) p := by
  induction keys generalizing p with
  | nil => rfl
  | cons key keys ih =>
      rw [List.foldlM_cons, visit, picked, List.filterMap_cons]
      cases m[key]? with
      | none => exact ih p
      | some value => exact congrArg (f p (key, value)).bind (funext ih)

theorem foldlM_toList [Std.LawfulEqOrd K] [DecidableEq K] {keys : List K} (h : keys.Pairwise Below)
    (hf : ∀ p e, e.1 ∉ keys → f p e = some p) (m : Std.ExtTreeMap K V) (p : P) :
    m.toList.foldlM f p = keys.foldlM (visit f m) p := by
  rw [← foldlM_filter hf, filter_toList m h, foldlM_picked]

end SdbusExamples.KnownKeys
