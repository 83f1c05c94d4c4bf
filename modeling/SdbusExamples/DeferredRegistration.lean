import Mathlib.Data.List.Induction
import Mathlib.Data.Set.Insert
import SdbusExamples.LoopQueues

namespace SdbusExamples.DeferredRegistration

open LoopQueues

variable {Src : Type}

inductive Call (Src : Type)
  | add (source : Src)
  | remove (source : Src)
deriving DecidableEq

def Call.apply (S : Set Src) : Call Src → Set Src
  | .add p => Insert.insert p S
  | .remove p => S \ {p}

def replay (S : Set Src) (calls : List (Call Src)) : Set Src := calls.foldl Call.apply S

def issue (l : EventLoop Src) : Call Src → EventLoop Src
  | .add p => l.add p
  | .remove p => l.remove p

def issueAll (l : EventLoop Src) (calls : List (Call Src)) : EventLoop Src := calls.foldl issue l

def ReAdded (p : Src) (calls : List (Call Src)) : Prop :=
  ∃ xs ys, calls = xs ++ .add p :: ys ∧ .remove p ∈ xs ∧ .remove p ∉ ys

theorem replay_append (S : Set Src) (calls : List (Call Src)) (c : Call Src) :
    replay S (calls ++ [c]) = c.apply (replay S calls) := by
  simp [replay, List.foldl_append]

theorem reAdded_add_self (p : Src) (calls : List (Call Src)) (h : .remove p ∈ calls) :
    ReAdded p (calls ++ [.add p]) := ⟨calls, [], rfl, h, by simp⟩

theorem split_concat {calls xs ys : List (Call Src)} {c d : Call Src}
    (h : calls ++ [c] = xs ++ d :: ys) :
    (ys = [] ∧ c = d) ∨ ∃ zs, ys = zs ++ [c] ∧ calls = xs ++ d :: zs := by
  rcases List.eq_nil_or_concat ys with rfl | ⟨zs, e, rfl⟩
  · left
    simpa using (List.append_inj' h rfl).2
  · right
    rw [List.concat_eq_append, ← List.cons_append, ← List.append_assoc] at h
    obtain ⟨hc, he⟩ := List.append_inj' h rfl
    simp only [List.cons.injEq, and_true] at he
    exact ⟨zs, by rw [List.concat_eq_append, he], hc⟩

theorem not_reAdded_remove_self (p : Src) (calls : List (Call Src)) :
    ¬ ReAdded p (calls ++ [.remove p]) := by
  rintro ⟨xs, ys, he, -, hy⟩
  rcases split_concat he with ⟨-, hc⟩ | ⟨zs, rfl, -⟩
  · cases hc
  · exact hy (by simp)

theorem reAdded_concat_of_ne (p : Src) (calls : List (Call Src)) (c : Call Src)
    (ha : c ≠ .add p) (hr : c ≠ .remove p) : ReAdded p (calls ++ [c]) ↔ ReAdded p calls := by
  constructor
  · rintro ⟨xs, ys, he, hx, hy⟩
    rcases split_concat he with ⟨-, hc⟩ | ⟨zs, rfl, hcalls⟩
    · exact absurd hc ha
    · exact ⟨xs, zs, hcalls, hx, fun h => hy (by simp [h])⟩
  · rintro ⟨xs, ys, rfl, hx, hy⟩
    refine ⟨xs, ys ++ [c], by simp, hx, ?_⟩
    simp only [List.mem_append, List.mem_singleton, not_or]
    exact ⟨hy, fun h => hr h.symm⟩

theorem mem_replay (S : Set Src) (calls : List (Call Src)) (p : Src) :
    p ∈ replay S calls ↔
      (.remove p ∉ calls ∧ (p ∈ S ∨ .add p ∈ calls)) ∨ ReAdded p calls := by
  induction calls using List.reverseRecOn with
  | nil =>
      have : ¬ ReAdded p ([] : List (Call Src)) := by rintro ⟨xs, ys, he, -⟩; simp at he
      simp [replay, this]
  | append_singleton calls c ih =>
      rw [replay_append]
      by_cases ha : c = .add p
      · subst ha
        by_cases hr : .remove p ∈ calls
        · simp [Call.apply, reAdded_add_self p calls hr]
        · simp [Call.apply, hr]
      · by_cases hr : c = .remove p
        · subst hr
          simp [Call.apply, not_reAdded_remove_self]
        · have hc : p ∈ c.apply (replay S calls) ↔ p ∈ replay S calls := by
            cases c with
            | add q =>
                have : p ≠ q := fun h => ha (by rw [h])
                simp [Call.apply, this]
            | remove q =>
                have : p ≠ q := fun h => hr (by rw [h])
                simp [Call.apply, this]
          rw [hc, ih, reAdded_concat_of_ne p calls c ha hr]
          simp [Ne.symm ha, Ne.symm hr]

theorem issueAll_sources (l : EventLoop Src) (calls : List (Call Src)) :
    (issueAll l calls).sources = l.sources := by
  induction calls generalizing l with
  | nil => rfl
  | cons c calls ih => cases c <;> simp [issueAll, issue] at ih ⊢ <;> rw [ih] <;> simp

theorem mem_issueAll_toAdd (l : EventLoop Src) (calls : List (Call Src)) (p : Src) :
    p ∈ (issueAll l calls).toAdd ↔ p ∈ l.toAdd ∨ .add p ∈ calls := by
  induction calls generalizing l with
  | nil => simp [issueAll]
  | cons c calls ih =>
      rw [show issueAll l (c :: calls) = issueAll (issue l c) calls from rfl, ih]
      cases c with
      | add q => simp [issue, or_assoc]
      | remove q => simp [issue]

theorem mem_issueAll_toRemove (l : EventLoop Src) (calls : List (Call Src)) (p : Src) :
    p ∈ (issueAll l calls).toRemove ↔ p ∈ l.toRemove ∨ .remove p ∈ calls := by
  induction calls generalizing l with
  | nil => simp [issueAll]
  | cons c calls ih =>
      rw [show issueAll l (c :: calls) = issueAll (issue l c) calls from rfl, ih]
      cases c with
      | add q => simp [issue]
      | remove q => simp [issue, or_assoc]

variable [DecidableEq Src]

def round (l : EventLoop Src) (calls : List (Call Src)) : EventLoop Src :=
  (issueAll l.applyPending calls).applyPending

def registered (l : EventLoop Src) : Set Src := {p | p ∈ l.sources}

def Unmentioned (calls : List (Call Src)) (p : Src) : Prop :=
  .add p ∉ calls ∧ .remove p ∉ calls

instance (calls : List (Call Src)) : DecidablePred (Unmentioned calls) :=
  fun p => inferInstanceAs (Decidable (.add p ∉ calls ∧ .remove p ∉ calls))

theorem mem_round (l : EventLoop Src) (calls : List (Call Src)) (p : Src) :
    p ∈ (round l calls).sources ↔
      (p ∈ l.applyPending.sources ∨ .add p ∈ calls) ∧ .remove p ∉ calls := by
  rw [round, EventLoop.mem_applyPending_sources, issueAll_sources, mem_issueAll_toAdd,
    mem_issueAll_toRemove]
  simp

theorem round_filter_unmentioned (l : EventLoop Src) (calls : List (Call Src)) :
    (round l calls).sources.filter (Unmentioned calls) =
      l.applyPending.sources.filter (Unmentioned calls) := by
  obtain ⟨new, he, -, hm⟩ := (issueAll l.applyPending calls).applyPending_sources
  rw [round, he, List.filter_append, issueAll_sources, List.filter_filter]
  have hnew : new.filter (Unmentioned calls) = [] := by
    rw [List.filter_eq_nil_iff]
    intro p hp
    have := ((hm p).1 hp).1
    rw [mem_issueAll_toAdd] at this
    simp only [EventLoop.applyPending_toAdd, List.not_mem_nil, false_or] at this
    simp [Unmentioned, this]
  rw [hnew, List.append_nil]
  refine List.filter_congr fun p _ => ?_
  by_cases h : Unmentioned calls p
  · have : p ∉ (issueAll l.applyPending calls).toRemove := by
      simpa [mem_issueAll_toRemove] using h.2
    simp [h, this]
  · simp [h]

/-- A round leaves registered what in-order replay registers, except for the
sources removed in it: apply_pending() skips every addition of those, so a
source added again after its removal is the one case where the two differ. -/
theorem round_refines_replay (l : EventLoop Src) (calls : List (Call Src)) :
    (∀ p, p ∈ (round l calls).sources ↔
      p ∈ replay (registered l.applyPending) calls ∧ .remove p ∉ calls) ∧
    (∀ p, (p ∈ (round l calls).sources ↔ p ∈ replay (registered l.applyPending) calls) ↔
      ¬ ReAdded p calls) ∧
    (round l calls).sources.filter (Unmentioned calls) =
      l.applyPending.sources.filter (Unmentioned calls) := by
  have hre (p : Src) (h : ReAdded p calls) : .remove p ∈ calls := by
    obtain ⟨xs, ys, rfl, hx, -⟩ := h
    exact List.mem_append_left _ hx
  refine ⟨fun p => ?_, fun p => ?_, round_filter_unmentioned l calls⟩
  · rw [mem_round, mem_replay, registered, Set.mem_ofPred_eq]
    have := hre p
    tauto
  · rw [mem_round, mem_replay, registered, Set.mem_ofPred_eq]
    have := hre p
    tauto

/-- A registered source that is removed and added again in one round is gone,
though replaying the two calls in order keeps it. -/
theorem round_loses_reAdded :
    ¬ ∀ (l : EventLoop Nat) (calls : List (Call Nat)),
      registered (round l calls) = replay (registered l.applyPending) calls := by
  intro h
  have h := h ⟨3, 0, true, 0, [7], [], [], []⟩ [.remove 7, .add 7]
  have hmem : 7 ∈ replay (registered (EventLoop.applyPending
      ⟨3, 0, true, 0, [7], [], [], []⟩)) [.remove 7, .add 7] := by
    simp [replay, Call.apply]
  rw [← h, registered, Set.mem_ofPred_eq] at hmem
  exact absurd hmem (by decide)

end SdbusExamples.DeferredRegistration
