import Mathlib.Data.List.Basic

namespace SdbusExamples.Runs

variable {S A : Type}

/-- A transition system in which the action carries every choice that is
left open, so that one state and one action determine the next state. -/
structure System (S A : Type) where
  enabled : S → A → Prop
  next : S → A → S

namespace System

def after (M : System S A) (s : S) (as : List A) : S := as.foldl M.next s

/-- Every step taken from `s` along `as` satisfies `P` in the state it is taken in. -/
def Along (M : System S A) (P : S → A → Prop) : S → List A → Prop
  | _, [] => True
  | s, a :: as => P s a ∧ M.Along P (M.next s a) as

def Valid (M : System S A) (s : S) (as : List A) : Prop := M.Along M.enabled s as

instance decidableAlong (M : System S A) (P : S → A → Prop) [∀ s a, Decidable (P s a)] :
    ∀ s as, Decidable (M.Along P s as)
  | _, [] => .isTrue trivial
  | s, a :: as =>
      have := decidableAlong M P (M.next s a) as
      inferInstanceAs (Decidable (P s a ∧ M.Along P (M.next s a) as))

instance (M : System S A) [∀ s a, Decidable (M.enabled s a)] (s : S) (as : List A) :
    Decidable (M.Valid s as) := decidableAlong M M.enabled s as

variable (M : System S A) {P Q : S → A → Prop}

@[simp] theorem after_nil (s : S) : M.after s [] = s := rfl

@[simp] theorem after_cons (s : S) (a : A) (as : List A) :
    M.after s (a :: as) = M.after (M.next s a) as := rfl

theorem after_append (s : S) (as bs : List A) :
    M.after s (as ++ bs) = M.after (M.after s as) bs := List.foldl_append

@[simp] theorem along_nil (s : S) : M.Along P s [] := trivial

@[simp] theorem along_cons (s : S) (a : A) (as : List A) :
    M.Along P s (a :: as) ↔ P s a ∧ M.Along P (M.next s a) as := Iff.rfl

theorem along_append (s : S) (as bs : List A) :
    M.Along P s (as ++ bs) ↔ M.Along P s as ∧ M.Along P (M.after s as) bs := by
  induction as generalizing s with
  | nil => simp
  | cons a as ih => simp only [List.cons_append, along_cons, after_cons, ih, and_assoc]

theorem valid_append (s : S) (as bs : List A) :
    M.Valid s (as ++ bs) ↔ M.Valid s as ∧ M.Valid (M.after s as) bs := M.along_append s as bs

theorem valid_cons (s : S) (a : A) (as : List A) :
    M.Valid s (a :: as) ↔ M.enabled s a ∧ M.Valid (M.next s a) as := Iff.rfl

/-- The invariant rule for runs whose steps all satisfy a side condition. -/
theorem invariant_along {J : S → Prop}
    (hstep : ∀ s a, J s → M.enabled s a → P s a → J (M.next s a))
    {s : S} {as : List A} (hs : J s) (hv : M.Valid s as) (hp : M.Along P s as) :
    J (M.after s as) := by
  induction as generalizing s with
  | nil => exact hs
  | cons a as ih => exact ih (hstep s a hs hv.1 hp.1) hv.2 hp.2

theorem along_true (s : S) (as : List A) : M.Along (fun _ _ => True) s as := by
  induction as generalizing s with
  | nil => trivial
  | cons a as ih => exact ⟨trivial, ih _⟩

theorem invariant {J : S → Prop} (hstep : ∀ s a, J s → M.enabled s a → J (M.next s a))
    {s : S} {as : List A} (hs : J s) (hv : M.Valid s as) : J (M.after s as) :=
  M.invariant_along (fun s a hj he _ => hstep s a hj he) hs hv (M.along_true s as)

theorem along_of_invariant {J : S → Prop}
    (hstep : ∀ s a, J s → M.enabled s a → P s a → J (M.next s a))
    (hq : ∀ s a, J s → M.enabled s a → P s a → Q s a)
    {s : S} {as : List A} (hs : J s) (hv : M.Valid s as) (hp : M.Along P s as) :
    M.Along Q s as := by
  induction as generalizing s with
  | nil => trivial
  | cons a as ih =>
      exact ⟨hq s a hs hv.1 hp.1, ih (hstep s a hs hv.1 hp.1) hv.2 hp.2⟩

theorem along_action_iff {p : A → Prop} (s : S) (as : List A) :
    M.Along (fun _ a => p a) s as ↔ ∀ a ∈ as, p a := by
  induction as generalizing s with
  | nil => simp
  | cons a as ih => simp [ih]

theorem Along.and {s : S} {as : List A} (hp : M.Along P s as) (hq : M.Along Q s as) :
    M.Along (fun s a => P s a ∧ Q s a) s as := by
  induction as generalizing s with
  | nil => trivial
  | cons a as ih => exact ⟨⟨hp.1, hq.1⟩, ih hp.2 hq.2⟩

theorem along_congr (h : ∀ s a, P s a ↔ Q s a) (s : S) (as : List A) :
    M.Along P s as ↔ M.Along Q s as := by
  induction as generalizing s with
  | nil => rfl
  | cons a as ih => rw [along_cons, along_cons, h, ih]

def Always (J : S → Prop) (s : S) (as : List A) : Prop := ∀ bs, bs <+: as → J (M.after s bs)

theorem always_nil_iff (J : S → Prop) (s : S) : M.Always J s [] ↔ J s := by
  constructor
  · intro h
    exact h [] List.nil_prefix
  · intro h bs hbs
    rw [List.prefix_nil.1 hbs]
    exact h

theorem always_cons_iff (J : S → Prop) (s : S) (a : A) (as : List A) :
    M.Always J s (a :: as) ↔ J s ∧ M.Always J (M.next s a) as := by
  constructor
  · intro h
    refine ⟨h [] List.nil_prefix, fun bs hbs => ?_⟩
    exact h (a :: bs) (List.prefix_cons_inj a |>.2 hbs)
  · rintro ⟨hs, h⟩ bs hbs
    cases bs with
    | nil => exact hs
    | cons b bs =>
        obtain ⟨rfl, hprefix⟩ := List.cons_prefix_cons.1 hbs
        exact h bs hprefix

/-- If a step keeps `J` exactly when it meets `Q`, a run stays in `J` exactly
when all its steps meet `Q`. -/
theorem always_iff_along {J : S → Prop}
    (hstep : ∀ s a, J s → P s a → (J (M.next s a) ↔ Q s a))
    {s : S} {as : List A} (hs : J s) (hp : M.Along P s as) :
    M.Always J s as ↔ M.Along Q s as := by
  induction as generalizing s with
  | nil => exact iff_of_true ((M.always_nil_iff J s).2 hs) trivial
  | cons a as ih =>
      have hnext := hstep s a hs hp.1
      rw [always_cons_iff, along_cons, ← hnext]
      constructor
      · rintro ⟨-, h⟩
        have hj : J (M.next s a) := h [] List.nil_prefix
        exact ⟨hj, (ih hj hp.2).1 h⟩
      · rintro ⟨hj, h⟩
        exact ⟨hs, (ih hj hp.2).2 h⟩

end System

end SdbusExamples.Runs
