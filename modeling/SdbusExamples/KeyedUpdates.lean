import SdbusExamples.LatestEvents
import SdbusExamples.PathMaps
import SdbusExamples.StoppingLoops

namespace SdbusExamples.KeyedUpdates

open LatestEvents PathMaps StoppingLoops

variable {P K V β : Type}

def setEntry (set : P → K → V → Option P) (p : P) (entry : K × V) : P × Bool :=
  match set p entry.1 entry.2 with
  | some p' => (p', true)
  | none => (p, false)

/-- The entries are set one after another. One that throws ends the loop, and
what was set before it stays. -/
def setAll (set : P → K → V → Option P) : P → List (K × V) → P × Bool := goThrough (setEntry set)

theorem setAll_cons (set : P → K → V → Option P) (p : P) (e : K × V) (rest : List (K × V)) :
    setAll set p (e :: rest) =
      match set p e.1 e.2 with
      | some p' => setAll set p' rest
      | none => (p, false) := by
  cases h : set p e.1 e.2 with
  | none => exact goThrough_cons_of_fails (setEntry set) (by rw [setEntry, h]) rest
  | some p' => exact goThrough_cons_of_succeeds (setEntry set) (by rw [setEntry, h]) rest

/-- The same for a constructor, of which an exception leaves nothing. -/
def setProperties (set : P → K → V → Option P) (p : P) (entries : List (K × V)) : Option P :=
  match setAll set p entries with
  | (p', true) => some p'
  | (_, false) => none

section Constructors

variable (set : P → K → V → Option P) (p : P)

theorem setProperties_cons (e : K × V) (entries : List (K × V)) :
    setProperties set p (e :: entries) =
      set p e.1 e.2 >>= fun p' => setProperties set p' entries := by
  rw [setProperties, setAll_cons]
  cases set p e.1 e.2 <;> rfl

theorem setProperties_eq_foldlM (entries : List (K × V)) :
    setProperties set p entries = entries.foldlM (fun p e => set p e.1 e.2) p := by
  induction entries generalizing p with
  | nil => rfl
  | cons e entries ih =>
      rw [setProperties_cons, List.foldlM_cons]
      exact congrArg _ (funext ih)

theorem isSome_setProperties (entries : List (K × V)) :
    (setProperties set p entries).isSome = (setAll set p entries).2 := by
  rw [setProperties]
  rcases setAll set p entries with ⟨p', _ | _⟩ <;> rfl

theorem setProperties_of_returns {entries : List (K × V)} (h : (setAll set p entries).2 = true) :
    setProperties set p entries = some (setAll set p entries).1 := by
  rw [setProperties]
  generalize setAll set p entries = r at *
  obtain ⟨p', returned⟩ := r
  cases h
  rfl

end Constructors

/-- `read` is written under one key only, with what `get` makes of the value. -/
def Feeds [DecidableEq K] (set : P → K → V → Option P) (key : K) (get : V → Option β)
    (read : P → β) : Prop :=
  ∀ p k value p', set p k value = some p' →
    read p' = if k = key then (get value).getD (read p) else read p

/-- The invariant rule, also for a loop that throws. -/
theorem setAll_keeps {set : P → K → V → Option P} {J : P → Prop}
    (h : ∀ p key value p', set p key value = some p' → J p → J p') {p : P} (hp : J p)
    (entries : List (K × V)) : J (setAll set p entries).1 := by
  refine goThrough_keeps ?_ hp
  intro p e _ hp
  rw [setEntry]
  cases hset : set p e.1 e.2 with
  | none => exact hp
  | some p' => exact h p e.1 e.2 p' hset hp

section Entries

variable {set : P → K → V → Option P} {key : K} {get : V → Option β} {read : P → β}

theorem setAll_returns (p : P) {entries : List (K × V)}
    (h : ∀ e ∈ entries, ∀ q, (set q e.1 e.2).isSome = true) : (setAll set p entries).2 = true := by
  induction entries generalizing p with
  | nil => rfl
  | cons e rest ih =>
      rw [List.forall_mem_cons] at h
      obtain ⟨p', hset⟩ := Option.isSome_iff_exists.1 (h.1 p)
      rw [setAll_cons, hset]
      exact ih p' h.2

theorem setAll_throws {entries : List (K × V)} {e : K × V} (he : e ∈ entries)
    (h : ∀ p, set p e.1 e.2 = none) (p : P) : (setAll set p entries).2 = false := by
  induction entries generalizing p with
  | nil => cases he
  | cons e' entries ih =>
      rw [setAll_cons]
      rcases List.mem_cons.1 he with rfl | he
      · rw [h p]
      · cases set p e'.1 e'.2 with
        | none => rfl
        | some p' => exact ih he p'

variable [DecidableEq K]

theorem Feeds.setAll_of_ne (hf : Feeds set key get read) (p : P) {entries : List (K × V)}
    (h : ∀ e ∈ entries, e.1 ≠ key) : read (setAll set p entries).1 = read p := by
  induction entries generalizing p with
  | nil => rfl
  | cons e rest ih =>
      rw [List.forall_mem_cons] at h
      rw [setAll_cons]
      cases hset : set p e.1 e.2 with
      | none => rfl
      | some p' => rw [ih p' h.2, hf _ _ _ _ hset, if_neg h.1]

theorem Feeds.setAll_of_mem (hf : Feeds set key get read) (p : P) {entries : List (K × V)}
    (h : ∀ e ∈ entries, ∀ q, (set q e.1 e.2).isSome = true)
    (hd : entries.Pairwise fun a b => a.1 ≠ b.1) {value : V} (hv : (key, value) ∈ entries) :
    read (setAll set p entries).1 = (get value).getD (read p) := by
  induction entries generalizing p with
  | nil => cases hv
  | cons e rest ih =>
      rw [List.forall_mem_cons] at h
      rw [List.pairwise_cons] at hd
      obtain ⟨p', hset⟩ := Option.isSome_iff_exists.1 (h.1 p)
      have hp' := hf _ _ _ _ hset
      rw [setAll_cons, hset]
      rcases List.mem_cons.1 hv with rfl | hv
      · rw [if_pos rfl] at hp'
        have hne : ∀ e' ∈ rest, e'.1 ≠ key := fun e' he' => (hd.1 e' he').symm
        exact (hf.setAll_of_ne p' hne).trans hp'
      · rw [if_neg (hd.1 _ hv)] at hp'
        rw [← hp']
        exact ih p' h.2 hd.2 hv

end Entries

section Maps

variable {set : P → String → V → Option P} {key : String} {get : V → Option β} {read : P → β}
  {m : Std.ExtTreeMap String V}

theorem distinct_toList (m : Std.ExtTreeMap String V) :
    m.toList.Pairwise fun a b => a.1 ≠ b.1 := by
  have h := Std.ExtTreeMap.distinct_keys_toList (t := m)
  exact h.imp fun hne heq => hne (by simp [heq])

theorem Feeds.setAll_toList_of_not_mem (hf : Feeds set key get read) (p : P) (h : key ∉ m) :
    read (setAll set p m.toList).1 = read p := by
  apply hf.setAll_of_ne
  rintro ⟨k, value⟩ he rfl
  rw [mem_toList_path] at he
  exact h ((mem_iff_getElem? k).2 ⟨value, he⟩)

theorem Feeds.setAll_toList (hf : Feeds set key get read) (p : P)
    (h : ∀ e ∈ m.toList, ∀ q, (set q e.1 e.2).isSome = true) :
    read (setAll set p m.toList).1 = ((m[key]?).bind get).getD (read p) := by
  cases hv : m[key]? with
  | none =>
      apply hf.setAll_toList_of_not_mem
      simpa using hv
  | some value =>
      have hmem := (mem_toList_path m key value).2 hv
      exact hf.setAll_of_mem p h (distinct_toList m) hmem

end Maps

section Failures

variable {set : P → String → V → Option P} {bad : String → V → Prop} {key : String}
  {get : V → Option β} {read : P → β}

theorem sorted_toList (m : Std.ExtTreeMap String V) :
    m.toList.Pairwise fun a b => a.1 < b.1 := by
  have h := Std.ExtTreeMap.ordered_keys_toList (t := m)
  exact h.imp fun {a b} hlt => compare_lt_iff_lt.1 hlt

theorem Feeds.setAll_of_blocked (hf : Feeds set key get read)
    (hbad : ∀ p k v, set p k v = none ↔ bad k v) (p : P) {entries : List (String × V)}
    (hs : entries.Pairwise fun a b => a.1 < b.1) (h : ∃ e ∈ entries, e.1 < key ∧ bad e.1 e.2) :
    read (setAll set p entries).1 = read p := by
  induction entries generalizing p with
  | nil => rfl
  | cons e rest ih =>
      rw [List.pairwise_cons] at hs
      rw [setAll_cons]
      cases hset : set p e.1 e.2 with
      | none => rfl
      | some p' =>
          obtain ⟨b, hb, hlt, hthrows⟩ := h
          rcases List.mem_cons.1 hb with rfl | hb
          · rw [(hbad p _ _).2 hthrows] at hset
            cases hset
          · have hne : e.1 ≠ key := ((hs.1 b hb).trans hlt).ne
            rw [ih p' hs.2 ⟨b, hb, hlt, hthrows⟩, hf _ _ _ _ hset, if_neg hne]

theorem Feeds.setAll_of_not_blocked (hf : Feeds set key get read)
    (hbad : ∀ p k v, set p k v = none ↔ bad k v) (hget : ∀ v, bad key v → get v = none) (p : P)
    {entries : List (String × V)} (hs : entries.Pairwise fun a b => a.1 < b.1)
    (h : ¬ ∃ e ∈ entries, e.1 < key ∧ bad e.1 e.2) {value : V} (hv : (key, value) ∈ entries) :
    read (setAll set p entries).1 = (get value).getD (read p) := by
  induction entries generalizing p with
  | nil => cases hv
  | cons e rest ih =>
      rw [List.pairwise_cons] at hs
      rw [setAll_cons]
      rcases List.mem_cons.1 hv with rfl | hv
      · cases hset : set p key value with
        | none => rw [hget value ((hbad p key value).1 hset), Option.getD_none]
        | some p' =>
            have hne : ∀ e' ∈ rest, e'.1 ≠ key := fun e' he' => (hs.1 e' he').ne'
            rw [hf.setAll_of_ne p' hne, hf _ _ _ _ hset, if_pos rfl]
      · have hlt : e.1 < key := hs.1 _ hv
        cases hset : set p e.1 e.2 with
        | none => exact absurd ⟨e, List.mem_cons_self, hlt, (hbad p _ _).1 hset⟩ h
        | some p' =>
            have hrest : ¬ ∃ e' ∈ rest, e'.1 < key ∧ bad e'.1 e'.2 :=
              fun ⟨e', he', hb⟩ => h ⟨e', List.mem_cons_of_mem e he', hb⟩
            rw [ih p' hs.2 hrest hv, hf _ _ _ _ hset, if_neg hlt.ne]

variable (bad key get) [∀ k v, Decidable (bad k v)]

/-- What a map has for `key`, if no bad value comes first in the order of the keys. -/
def reached (m : Std.ExtTreeMap String V) : Option β :=
  if ∃ e ∈ m.toList, e.1 < key ∧ bad e.1 e.2 then none else (m[key]?).bind get

variable {bad key get}

theorem Feeds.setAll_reached (hf : Feeds set key get read)
    (hbad : ∀ p k v, set p k v = none ↔ bad k v) (hget : ∀ v, bad key v → get v = none) (p : P)
    (m : Std.ExtTreeMap String V) :
    read (setAll set p m.toList).1 = (reached bad key get m).getD (read p) := by
  rw [reached]
  split_ifs with h
  · exact hf.setAll_of_blocked hbad p (sorted_toList m) h
  · cases hv : m[key]? with
    | none =>
        apply hf.setAll_toList_of_not_mem
        simpa using hv
    | some value =>
        have hmem := (mem_toList_path m key value).2 hv
        exact hf.setAll_of_not_blocked hbad hget p (sorted_toList m) h hmem

theorem Feeds.foldl_setAll (hf : Feeds set key get read)
    (hbad : ∀ p k v, set p k v = none ↔ bad k v) (hget : ∀ v, bad key v → get v = none) (p : P)
    (ms : List (Std.ExtTreeMap String V)) :
    read (ms.foldl (fun p m => (setAll set p m.toList).1) p) =
      latest (reached bad key get) (read p) ms := by
  induction ms generalizing p with
  | nil => rfl
  | cons m ms ih => rw [List.foldl_cons, ih, latest_cons, hf.setAll_reached hbad hget]

end Failures

end SdbusExamples.KeyedUpdates
