import Mathlib.Logic.Function.Basic

namespace SdbusExamples.LockOrders

open Function

variable {Thread Lock Act : Type}

abbrev Held (Thread Lock : Type) := Thread → Lock → Nat

def Exclusive (held : Held Thread Lock) : Prop :=
  ∀ t u l, 0 < held t l → 0 < held u l → t = u

def Deadlocked (held : Held Thread Lock) (wants : Thread → Option Lock) : Prop :=
  ∃ t u l l', t ≠ u ∧ wants t = some l ∧ 0 < held u l ∧ wants u = some l' ∧ 0 < held t l'

/-- The lock asked for is held already, or it comes after all that are held. -/
def InOrder (rank : Lock → Nat) (held : Lock → Nat) (l : Lock) : Prop :=
  0 < held l ∨ ∀ l', 0 < held l' → rank l' < rank l

/-- Threads that each keep an order of their own can only block each other on
two locks that they take in opposite orders. -/
theorem opposite_of_deadlocked {rank : Thread → Lock → Nat} {held : Held Thread Lock}
    {wants : Thread → Option Lock} (hex : Exclusive held)
    (horder : ∀ t l, wants t = some l → InOrder (rank t) (held t) l) (h : Deadlocked held wants) :
    ∃ t u l l', t ≠ u ∧ wants t = some l ∧ 0 < held u l ∧ wants u = some l' ∧ 0 < held t l' ∧
      rank t l' < rank t l ∧ rank u l < rank u l' := by
  obtain ⟨t, u, l, l', hne, hl, hul, hl', htl'⟩ := h
  refine ⟨t, u, l, l', hne, hl, hul, hl', htl', ?_, ?_⟩
  · rcases horder t l hl with htl | hrank
    · exact absurd (hex t u l htl hul) hne
    · exact hrank l' htl'
  · rcases horder u l' hl' with hul' | hrank
    · exact absurd (hex t u l' htl' hul') hne
    · exact hrank l hul

section

variable [DecidableEq Thread] [DecidableEq Lock]

def acquire (held : Held Thread Lock) (t : Thread) (l : Lock) : Held Thread Lock :=
  update held t (update (held t) l (held t l + 1))

def release (held : Held Thread Lock) (t : Thread) (l : Lock) : Held Thread Lock :=
  update held t (update (held t) l (held t l - 1))

@[simp] theorem acquire_self (held : Held Thread Lock) (t : Thread) (l : Lock) :
    acquire held t l t = update (held t) l (held t l + 1) := update_self ..

@[simp] theorem release_self (held : Held Thread Lock) (t : Thread) (l : Lock) :
    release held t l t = update (held t) l (held t l - 1) := update_self ..

@[simp] theorem acquire_other (held : Held Thread Lock) {t u : Thread} (h : u ≠ t) (l : Lock) :
    acquire held t l u = held u := update_of_ne h ..

@[simp] theorem release_other (held : Held Thread Lock) {t u : Thread} (h : u ≠ t) (l : Lock) :
    release held t l u = held u := update_of_ne h ..

theorem acquire_pos {held : Held Thread Lock} {t u : Thread} {l l' : Lock}
    (h : 0 < acquire held t l u l') : 0 < held u l' ∨ u = t ∧ l' = l := by
  by_cases hu : u = t
  · subst hu
    by_cases hl : l' = l
    · exact Or.inr ⟨rfl, hl⟩
    · rw [acquire_self, update_of_ne hl] at h
      exact Or.inl h
  · rw [acquire_other _ hu] at h
    exact Or.inl h

theorem release_pos {held : Held Thread Lock} {t u : Thread} {l l' : Lock}
    (h : 0 < release held t l u l') : 0 < held u l' := by
  by_cases hu : u = t
  · subst hu
    by_cases hl : l' = l
    · subst hl
      rw [release_self, update_self] at h
      omega
    · rwa [release_self, update_of_ne hl] at h
  · rwa [release_other _ hu] at h

theorem exclusive_acquire {held : Held Thread Lock} (h : Exclusive held) {t : Thread} {l : Lock}
    (hfree : ∀ u, u ≠ t → held u l = 0) : Exclusive (acquire held t l) := by
  have howner : ∀ u, 0 < held u l → u = t := by
    intro u hu
    by_contra hne
    rw [hfree u hne] at hu
    exact absurd hu (Nat.lt_irrefl 0)
  intro u v l' hu hv
  rcases acquire_pos hu with hu' | ⟨hut, hul⟩ <;> rcases acquire_pos hv with hv' | ⟨hvt, hvl⟩
  · exact h u v l' hu' hv'
  · rw [hvl] at hu'
    rw [hvt, howner u hu']
  · rw [hul] at hv'
    rw [hut, howner v hv']
  · rw [hut, hvt]

theorem exclusive_release {held : Held Thread Lock} (h : Exclusive held) (t : Thread) (l : Lock) :
    Exclusive (release held t l) :=
  fun u v l' hu hv => h u v l' (release_pos hu) (release_pos hv)

end

inductive Op (Lock Act : Type)
  | lock (l : Lock)
  | unlock (l : Lock)
  | act (a : Act)
deriving DecidableEq

def wanted : List (Op Lock Act) → Option Lock
  | .lock l :: _ => some l
  | _ => none

theorem lock_of_wanted {ops : List (Op Lock Act)} {l : Lock} (h : wanted ops = some l) :
    ∃ rest, ops = .lock l :: rest := by
  cases ops with
  | nil => cases h
  | cons op rest =>
      cases op with
      | lock l' =>
          cases h
          exact ⟨rest, rfl⟩
      | unlock l' => cases h
      | act a => cases h

variable [DecidableEq Lock] {rank : Lock → Nat} {guard : Act → List Lock}

/-- Code that takes locks in the order, releases only what it holds, all of it
in the end, and acts only with the guards held. -/
def Follows (rank : Lock → Nat) (guard : Act → List Lock) :
    (Lock → Nat) → List (Op Lock Act) → Prop
  | held, [] => ∀ l, held l = 0
  | held, .lock l :: ops =>
      InOrder rank held l ∧ Follows rank guard (update held l (held l + 1)) ops
  | held, .unlock l :: ops => 0 < held l ∧ Follows rank guard (update held l (held l - 1)) ops
  | held, .act a :: ops => (∀ l ∈ guard a, 0 < held l) ∧ Follows rank guard held ops

theorem inOrder_of_follows {held : Lock → Nat} {ops : List (Op Lock Act)} {l : Lock}
    (h : Follows rank guard held ops) (hl : wanted ops = some l) : InOrder rank held l := by
  obtain ⟨rest, rfl⟩ := lock_of_wanted hl
  exact h.1

theorem follows_section {held : Lock → Nat} {ops : List (Op Lock Act)} {l : Lock}
    (hl : InOrder rank held l) (h : Follows rank guard held ops) :
    Follows rank guard held (.lock l :: .unlock l :: ops) := by
  refine ⟨hl, ?_, ?_⟩
  · rw [update_self]
    exact Nat.succ_pos _
  · rwa [update_self, update_idem, Nat.add_sub_cancel, update_eq_self]

theorem follows_releases {held : Lock → Nat} {ops : List (Op Lock Act)} {l : Lock} (n : Nat)
    (hn : n ≤ held l) (h : Follows rank guard (update held l (held l - n)) ops) :
    Follows rank guard held (List.replicate n (.unlock l) ++ ops) := by
  induction n generalizing held with
  | zero => rwa [Nat.sub_zero, update_eq_self] at h
  | succ n ih =>
      refine ⟨by omega, ih ?_ ?_⟩
      · rw [update_self]
        omega
      · rwa [update_self, update_idem, Nat.sub_sub, Nat.add_comm 1 n]

theorem follows_acts {held : Lock → Nat} {as : List Act} {ops : List (Op Lock Act)}
    (has : ∀ a ∈ as, ∀ l ∈ guard a, 0 < held l) (h : Follows rank guard held ops) :
    Follows rank guard held (as.map .act ++ ops) := by
  induction as with
  | nil => exact h
  | cons a as ih =>
      exact ⟨has a List.mem_cons_self, ih fun b hb => has b (List.mem_cons_of_mem a hb)⟩

end SdbusExamples.LockOrders
