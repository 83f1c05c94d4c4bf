import SdbusExamples.Runs

namespace SdbusExamples.StoppingLoops

open Runs

variable {S A B : Type} (f : S → A → S × Bool)

/-- Takes one element after another until the round of one fails. -/
def goThrough (s : S) : List A → S × Bool
  | [] => (s, true)
  | a :: as =>
      match f s a with
      | (t, true) => goThrough t as
      | (t, false) => (t, false)

def steps : System S A := ⟨fun s a => (f s a).2 = true, fun s a => (f s a).1⟩

@[simp] theorem goThrough_nil (s : S) : goThrough f s [] = (s, true) := rfl

theorem goThrough_cons_of_succeeds {s t : S} {a : A} (h : f s a = (t, true)) (as : List A) :
    goThrough f s (a :: as) = goThrough f t as := by
  rw [goThrough, h]

theorem goThrough_cons_of_fails {s t : S} {a : A} (h : f s a = (t, false)) (as : List A) :
    goThrough f s (a :: as) = (t, false) := by
  rw [goThrough, h]

theorem goThrough_append (s : S) (as bs : List A) :
    goThrough f s (as ++ bs) =
      match goThrough f s as with
      | (t, true) => goThrough f t bs
      | (t, false) => (t, false) := by
  induction as generalizing s with
  | nil => rfl
  | cons a as ih =>
      rw [List.cons_append]
      rcases hstep : f s a with ⟨t, _ | _⟩
      · rw [goThrough_cons_of_fails f hstep, goThrough_cons_of_fails f hstep]
      · rw [goThrough_cons_of_succeeds f hstep, goThrough_cons_of_succeeds f hstep]
        exact ih t

theorem goThrough_flatMap (g : B → List A) (s : S) (bs : List B) :
    goThrough f s (bs.flatMap g) = goThrough (fun s b => goThrough f s (g b)) s bs := by
  induction bs generalizing s with
  | nil => rfl
  | cons b bs ih =>
      rw [List.flatMap_cons, goThrough_append, goThrough]
      rcases goThrough f s (g b) with ⟨t, _ | _⟩
      · rfl
      · exact ih t

variable {f}

/-- The invariant rule, also for a loop that is cut short. -/
theorem goThrough_keeps {J : S → Prop} {as : List A} (h : ∀ s, ∀ a ∈ as, J s → J (f s a).1)
    {s : S} (hs : J s) : J (goThrough f s as).1 := by
  induction as generalizing s with
  | nil => exact hs
  | cons a as ih =>
      have hfirst := h s a List.mem_cons_self hs
      rcases hstep : f s a with ⟨t, _ | _⟩
      · rw [goThrough_cons_of_fails f hstep]
        rwa [hstep] at hfirst
      · rw [goThrough_cons_of_succeeds f hstep]
        rw [hstep] at hfirst
        exact ih (fun s b hb => h s b (List.mem_cons_of_mem a hb)) hfirst

theorem goThrough_succeeds_iff {s : S} {as : List A} :
    (goThrough f s as).2 = true ↔ (steps f).Valid s as := by
  induction as generalizing s with
  | nil => exact iff_of_true rfl trivial
  | cons a as ih =>
      rw [System.valid_cons]
      rcases hstep : f s a with ⟨t, _ | _⟩
      · rw [goThrough_cons_of_fails f hstep]
        simp [steps, hstep]
      · rw [goThrough_cons_of_succeeds f hstep, ih]
        simp [steps, hstep]

theorem after_goThrough {s : S} {as : List A} (h : (goThrough f s as).2 = true) :
    (steps f).after s as = (goThrough f s as).1 := by
  induction as generalizing s with
  | nil => rfl
  | cons a as ih =>
      rw [System.after_cons]
      rcases hstep : f s a with ⟨t, _ | _⟩
      · rw [goThrough_cons_of_fails f hstep] at h
        cases h
      · rw [goThrough_cons_of_succeeds f hstep] at h ⊢
        have hnext : (steps f).next s a = t := congrArg Prod.fst hstep
        rw [hnext]
        exact ih h

end SdbusExamples.StoppingLoops
