import Mathlib.Data.List.Basic

namespace SdbusExamples.RecheckLatch

inductive Signal
  | appears
  | vanishes
  | changes

/-- Whether the watch has reported; `none` if there is no watch. -/
abbrev Watch := Option Bool

def passes : Watch → Signal → Watch
  | none, .appears => some false
  | _, .vanishes => none
  | w, _ => w

def Checks : Watch → Signal → Prop
  | none, .appears => True
  | some false, .changes => True
  | _, _ => False

def after (w : Watch) (ss : List Signal) : Watch := ss.foldl passes w

/-- One of the signals makes the watch check the condition, if no earlier check reports. -/
def Checked : Watch → List Signal → Prop
  | _, [] => False
  | w, s :: ss => Checks w s ∨ Checked (passes w s) ss

@[simp] theorem after_nil (w : Watch) : after w [] = w := rfl

@[simp] theorem after_cons (w : Watch) (s : Signal) (ss : List Signal) :
    after w (s :: ss) = after (passes w s) ss := rfl

theorem after_append (w : Watch) (ss ts : List Signal) :
    after w (ss ++ ts) = after (after w ss) ts := List.foldl_append

@[simp] theorem checked_nil (w : Watch) : ¬ Checked w [] := not_false

@[simp] theorem checked_cons (w : Watch) (s : Signal) (ss : List Signal) :
    Checked w (s :: ss) ↔ Checks w s ∨ Checked (passes w s) ss := Iff.rfl

theorem checked_append (w : Watch) (ss ts : List Signal) :
    Checked w (ss ++ ts) ↔ Checked w ss ∨ Checked (after w ss) ts := by
  induction ss generalizing w with
  | nil => simp
  | cons s ss ih => rw [List.cons_append, checked_cons, ih, checked_cons, after_cons, or_assoc]

theorem after_ne_true {w : Watch} (h : w ≠ some true) (ss : List Signal) :
    after w ss ≠ some true := by
  induction ss generalizing w with
  | nil => exact h
  | cons s ss ih =>
      apply ih
      cases s with
      | appears => cases w <;> simp_all [passes]
      | vanishes => cases w <;> simp [passes]
      | changes => cases w <;> simp_all [passes]

theorem after_eq_none {w v : Watch} (hwv : v ≠ none → w ≠ none) {ss : List Signal}
    (h : after w ss = none) : after v ss = none := by
  induction ss generalizing w v with
  | nil => exact by_contra fun hv => hwv hv h
  | cons s ss ih =>
      refine ih (w := passes w s) ?_ h
      cases s with
      | appears => cases w <;> simp [passes]
      | vanishes => cases v <;> simp [passes]
      | changes => cases w <;> cases v <;> simp_all [passes]

theorem checked_of_after {ss : List Signal} (h : after none ss ≠ none) : Checked none ss := by
  induction ss with
  | nil => exact absurd rfl h
  | cons s ss ih =>
      cases s with
      | appears => exact .inl trivial
      | vanishes => exact .inr (ih h)
      | changes => exact .inr (ih h)

theorem after_of_appears {ss : List Signal} (h : ∀ s ∈ ss, s = .appears) (hne : ss ≠ []) :
    after none ss = some false := by
  have hstays : ∀ ts : List Signal, (∀ s ∈ ts, s = .appears) → after (some false) ts = some false := by
    intro ts hts
    induction ts with
    | nil => rfl
    | cons s ts ih =>
        rw [List.forall_mem_cons] at hts
        rw [hts.1]
        exact ih hts.2
  cases ss with
  | nil => exact absurd rfl hne
  | cons s ss =>
      rw [List.forall_mem_cons] at h
      rw [h.1]
      exact hstays ss h.2

theorem checked_appears {w : Watch} {ss : List Signal} (h : after w ss = none) :
    Checked w (ss ++ [.appears]) := by
  rw [checked_append, h]
  exact .inr (.inl trivial)

theorem checked_changes {w : Watch} {ss : List Signal} (h : after w ss = some false) :
    Checked w (ss ++ [.changes]) := by
  rw [checked_append, h]
  exact .inr (.inl trivial)

/-- A check is still to come: one of the signal that is being handled, which
counts if it can see the condition, or one of the signals behind it. -/
def Coming (sees : Prop) (w : Watch) (handled awaited : List Signal) : Prop :=
  sees ∧ Checked w handled ∨ Checked (after w handled) awaited

theorem Coming.mono {p p' : Prop} (h : p → p') {w : Watch} {handled awaited : List Signal}
    (hc : Coming p w handled awaited) : Coming p' w handled awaited :=
  hc.imp_left fun hp => ⟨h hp.1, hp.2⟩

theorem Coming.append {p : Prop} {w : Watch} {handled awaited : List Signal}
    (h : Coming p w handled awaited) (more : List Signal) :
    Coming p w handled (awaited ++ more) :=
  h.imp_right fun hc => (checked_append _ _ _).2 (.inl hc)

theorem Coming.begins {p p' : Prop} (hp' : p') {w : Watch} {handled awaited : List Signal}
    (h : Coming p w [] (handled ++ awaited)) : Coming p' w handled awaited := by
  rcases h with ⟨-, h⟩ | h
  · exact h.elim
  · exact ((checked_append w handled awaited).1 h).imp_left fun hc => ⟨hp', hc⟩

theorem Coming.ends {p p' : Prop} {w : Watch} {handled awaited : List Signal}
    (h : Coming p w handled awaited) (hn : ¬ (p ∧ Checked w handled)) :
    Coming p' (after w handled) [] awaited :=
  .inr (h.resolve_left hn)

end SdbusExamples.RecheckLatch
