import SdbusExamples.Runs
import Mathlib.Logic.Function.Basic

namespace SdbusExamples.Custody

open Function Runs

variable {W R : Type} [DecidableEq R]

/-- What happens to a resource: a holder takes it, and closes it or lets it go. -/
inductive Event (R : Type)
  | adopt (r : R)
  | close (r : R)
  | release (r : R)
deriving DecidableEq

def heldAfter (r : R) : Bool → List (Event R) → Bool
  | held, [] => held
  | held, .adopt r' :: es => heldAfter r (if r' = r then true else held) es
  | held, .close r' :: es => heldAfter r (if r' = r then false else held) es
  | held, .release r' :: es => heldAfter r (if r' = r then false else held) es

/-- The events of `r` take turns: it is adopted when nobody holds it, and closed
or released once, by the next event of `r`. -/
def Alternates (r : R) : Bool → List (Event R) → Prop
  | _, [] => True
  | held, .adopt r' :: es =>
      (r' = r → held = false) ∧ Alternates r (if r' = r then true else held) es
  | held, .close r' :: es =>
      (r' = r → held = true) ∧ Alternates r (if r' = r then false else held) es
  | held, .release r' :: es =>
      (r' = r → held = true) ∧ Alternates r (if r' = r then false else held) es

theorem heldAfter_append (r : R) (held : Bool) (es fs : List (Event R)) :
    heldAfter r held (es ++ fs) = heldAfter r (heldAfter r held es) fs := by
  induction es generalizing held with
  | nil => rfl
  | cons e es ih => cases e <;> exact ih _

theorem alternates_append (r : R) (held : Bool) (es fs : List (Event R)) :
    Alternates r held (es ++ fs) ↔
      Alternates r held es ∧ Alternates r (heldAfter r held es) fs := by
  induction es generalizing held with
  | nil => simp [Alternates, heldAfter]
  | cons e es ih => cases e <;> simp only [List.cons_append, Alternates, heldAfter, ih, and_assoc]

/-- Every adoption has ended in one close or one release, but for the one that
is still held. -/
theorem count_of_alternates {r : R} {held : Bool} {es : List (Event R)}
    (h : Alternates r held es) :
    held.toNat + es.count (.adopt r) =
      es.count (.close r) + es.count (.release r) + (heldAfter r held es).toNat := by
  induction es generalizing held with
  | nil => simp [heldAfter]
  | cons e es ih =>
      cases e with
      | adopt r' =>
          have hrest := ih h.2
          by_cases hr : r' = r
          · simp [heldAfter, hr, h.1 hr] at hrest ⊢
            omega
          · simp [heldAfter, hr] at hrest ⊢
            omega
      | close r' | release r' =>
          have hrest := ih h.2
          by_cases hr : r' = r
          · simp [heldAfter, hr, h.1 hr] at hrest ⊢
            omega
          · simp [heldAfter, hr] at hrest ⊢
            omega

theorem close_not_mem_of_not_adopted {r : R} {es : List (Event R)} (h : Alternates r false es)
    (hadopt : .adopt r ∉ es) : .close r ∉ es := by
  have hcount := count_of_alternates h
  rw [List.count_eq_zero_of_not_mem hadopt] at hcount
  simp only [Bool.toNat_false] at hcount
  exact List.count_eq_zero.1 (by omega)

/-- What each holder holds and who holds each resource, as one partial matching. -/
def Matched (holds : W → Option R) (holder : R → Option W) : Prop :=
  ∀ w r, holds w = some r ↔ holder r = some w

omit [DecidableEq R] in
theorem Matched.holder_ne_none {holds : W → Option R} {holder : R → Option W}
    (h : Matched holds holder) {w : W} {r : R} (hw : holds w = some r) : holder r ≠ none := by
  rw [(h w r).1 hw]
  exact Option.some_ne_none w

theorem Matched.giveUp [DecidableEq W] {holds : W → Option R} {holder : R → Option W}
    (h : Matched holds holder) {w : W} {r : R} (hw : holds w = some r) :
    Matched (update holds w none) (update holder r none) := by
  have hr : holder r = some w := (h w r).1 hw
  intro w' r'
  by_cases hww : w' = w
  · subst hww
    by_cases hrr : r' = r
    · subst hrr
      simp
    · have hne : holder r' ≠ some w' := by
        intro hr'
        have hboth := ((h w' r').2 hr').symm.trans hw
        exact hrr (Option.some.inj hboth)
      simp [hrr, hne]
  · by_cases hrr : r' = r
    · subst hrr
      have hne : holds w' ≠ some r' := by
        intro hw'
        have hboth := ((h w' r').1 hw').symm.trans hr
        exact hww (Option.some.inj hboth)
      simp [hww, hne]
    · simpa [hww, hrr] using h w' r'

theorem Matched.take [DecidableEq W] {holds : W → Option R} {holder : R → Option W}
    (h : Matched holds holder) {w : W} {r : R} (hw : holds w = none) (hr : holder r = none) :
    Matched (update holds w (some r)) (update holder r (some w)) := by
  intro w' r'
  by_cases hww : w' = w
  · subst hww
    by_cases hrr : r' = r
    · subst hrr
      simp
    · have hne : holder r' ≠ some w' := by
        intro hr'
        rw [(h w' r').2 hr'] at hw
        cases hw
      simp [hrr, hne, Ne.symm hrr]
  · by_cases hrr : r' = r
    · subst hrr
      have hne : holds w' ≠ some r' := by
        intro hw'
        rw [(h w' r').1 hw'] at hr
        cases hr
      simp [hww, hne, Ne.symm hww]
    · simpa [hww, hrr] using h w' r'

inductive Move (W R : Type)
  | adopt (r : R) (w : W)
  | transfer (r : R) (w : W)
  | close (r : R)
  | release (r : R)

structure State (W R : Type) where
  holder : R → Option W
  log : List (Event R)

def initial : State W R := ⟨fun _ => none, []⟩

def moves : System (State W R) (Move W R) where
  enabled s
    | .adopt r _ => s.holder r = none
    | .transfer r _ => s.holder r ≠ none
    | .close r => s.holder r ≠ none
    | .release r => s.holder r ≠ none
  next s
    | .adopt r w => ⟨update s.holder r (some w), s.log ++ [.adopt r]⟩
    | .transfer r w => ⟨update s.holder r (some w), s.log⟩
    | .close r => ⟨update s.holder r none, s.log ++ [.close r]⟩
    | .release r => ⟨update s.holder r none, s.log ++ [.release r]⟩

def Accounted (s : State W R) : Prop :=
  ∀ r, Alternates r false s.log ∧ heldAfter r false s.log = (s.holder r).isSome

theorem accounted_initial : Accounted (initial : State W R) := by
  intro r
  exact ⟨trivial, rfl⟩

theorem accounted_next (s : State W R) (m : Move W R) (h : Accounted s)
    (he : moves.enabled s m) : Accounted (moves.next s m) := by
  intro r
  obtain ⟨halt, hheld⟩ := h r
  cases m with
  | adopt r' w =>
      have hnone : s.holder r' = none := he
      by_cases hr : r' = r
      · subst hr
        simp [moves, alternates_append, heldAfter_append, Alternates, heldAfter, halt, hheld, hnone]
      · simp [moves, alternates_append, heldAfter_append, Alternates, heldAfter, halt, hheld, hr,
          Ne.symm hr]
  | transfer r' w =>
      have hsome : s.holder r' ≠ none := he
      by_cases hr : r' = r
      · subst hr
        have hheld' : heldAfter r' false s.log = true := by
          rw [hheld]
          exact Option.isSome_iff_ne_none.2 hsome
        simp [moves, halt, hheld']
      · simp [moves, halt, hheld, Ne.symm hr]
  | close r' | release r' =>
      have hsome : (s.holder r').isSome = true := Option.isSome_iff_ne_none.2 he
      by_cases hr : r' = r
      · subst hr
        simp [moves, alternates_append, heldAfter_append, Alternates, heldAfter, halt, hheld, hsome]
      · simp [moves, alternates_append, heldAfter_append, Alternates, heldAfter, halt, hheld, hr,
          Ne.symm hr]

/-- Moves from `s` lead to the matching `holds`, and the events are logged on the way. -/
def Reaches (s : State W R) (holds : W → Option R) (es : List (Event R)) : Prop :=
  ∃ ms, moves.Valid s ms ∧ Matched holds (moves.after s ms).holder ∧
    (moves.after s ms).log = s.log ++ es

theorem Reaches.refl {s : State W R} {holds : W → Option R} (h : Matched holds s.holder) :
    Reaches s holds [] :=
  ⟨[], trivial, h, (List.append_nil _).symm⟩

theorem Reaches.trans {s : State W R} {holds holds' : W → Option R} {es fs : List (Event R)}
    (h : Reaches s holds es)
    (hnext : ∀ s', Matched holds s'.holder → Reaches s' holds' fs) : Reaches s holds' (es ++ fs) := by
  obtain ⟨ms, hv, hm, hlog⟩ := h
  obtain ⟨ms', hv', hm', hlog'⟩ := hnext _ hm
  refine ⟨ms ++ ms', (moves.valid_append _ _ _).2 ⟨hv, hv'⟩, ?_, ?_⟩
  · rw [moves.after_append]
    exact hm'
  · rw [moves.after_append, hlog', hlog, List.append_assoc]

section

variable [DecidableEq W] {s : State W R} {holds : W → Option R} (h : Matched holds s.holder)
include h

theorem reaches_close (w : W) :
    Reaches s (update holds w none) ((holds w).toList.map .close) := by
  cases hw : holds w with
  | none =>
      rw [update_eq_self_iff.2 hw.symm]
      exact Reaches.refl h
  | some r =>
      have hr := h.holder_ne_none hw
      exact ⟨[.close r], ⟨hr, trivial⟩, h.giveUp hw, rfl⟩

theorem reaches_release (w : W) :
    Reaches s (update holds w none) ((holds w).toList.map .release) := by
  cases hw : holds w with
  | none =>
      rw [update_eq_self_iff.2 hw.symm]
      exact Reaches.refl h
  | some r =>
      have hr := h.holder_ne_none hw
      exact ⟨[.release r], ⟨hr, trivial⟩, h.giveUp hw, rfl⟩

theorem reaches_adopt {w : W} {r : R} (hw : holds w = none) (hr : ∀ w', holds w' ≠ some r) :
    Reaches s (update holds w (some r)) [.adopt r] := by
  have hnone : s.holder r = none := by
    apply Option.eq_none_iff_forall_ne_some.2
    intro w' hw'
    exact hr w' ((h w' r).2 hw')
  exact ⟨[.adopt r w], ⟨hnone, trivial⟩, h.take hw hnone, rfl⟩

theorem reaches_transfer {w w' : W} (hne : w ≠ w') (hw' : holds w' = none) :
    Reaches s (update (update holds w none) w' (holds w)) [] := by
  cases hw : holds w with
  | none =>
      have hself : update holds w none = holds := update_eq_self_iff.2 hw.symm
      have hself' : update holds w' none = holds := update_eq_self_iff.2 hw'.symm
      rw [hself, hself']
      exact Reaches.refl h
  | some r =>
      have hr := h.holder_ne_none hw
      have hfree : update holds w none w' = none := by
        rw [update_of_ne hne.symm, hw']
      have hm := (h.giveUp hw).take hfree (update_self r none s.holder)
      rw [update_idem] at hm
      exact ⟨[.transfer r w'], ⟨hr, trivial⟩, hm, (List.append_nil _).symm⟩

end

theorem accounted_after {s : State W R} (h : Accounted s) {ms : List (Move W R)}
    (hv : moves.Valid s ms) : Accounted (moves.after s ms) :=
  moves.invariant accounted_next h hv

end SdbusExamples.Custody
