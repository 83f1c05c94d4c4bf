import SdbusExamples.Custody

namespace SdbusExamples.FdOwnership

open Custody Function Runs

structure UniqueFd where
  fd : Int
  owns : Bool
deriving DecidableEq

namespace UniqueFd

def empty : UniqueFd := ⟨-1, true⟩

def ofFd (fd : Int) : UniqueFd := ⟨fd, true⟩

def borrow (fd : Int) : UniqueFd := { ofFd fd with owns := false }

/-- The object afterwards, and the descriptors passed to close(). -/
def reset (u : UniqueFd) (fd : Int) : UniqueFd × List Int :=
  (⟨fd, true⟩, if u.owns = true ∧ 0 ≤ u.fd ∧ u.fd ≠ fd then [u.fd] else [])

def ofMoved (other : UniqueFd) : UniqueFd × UniqueFd := (⟨other.fd, other.owns⟩, ⟨-1, true⟩)

/-- Move assignment from another object: this one, the other one, and the
descriptors closed. -/
def moveAssign (u other : UniqueFd) : UniqueFd × UniqueFd × List Int :=
  let closed := (u.reset (-1)).2
  (⟨other.fd, other.owns⟩, ⟨-1, true⟩, closed)

def release (u : UniqueFd) : UniqueFd × Int := (⟨-1, true⟩, u.fd)

def destroy (u : UniqueFd) : List Int := (u.reset (-1)).2

def owned (u : UniqueFd) : Option Int := if u.owns = true ∧ 0 ≤ u.fd then some u.fd else none

@[simp] theorem owned_empty : owned ⟨-1, true⟩ = none := rfl

@[simp] theorem owned_borrow (fd : Int) : (borrow fd).owned = none := rfl

theorem owned_ofFd (fd : Int) : owned ⟨fd, true⟩ = if 0 ≤ fd then some fd else none := by
  simp [owned]

theorem reset_closed (u : UniqueFd) (fd : Int) :
    (u.reset fd).2 = if u.owned = some fd then [] else u.owned.toList := by
  by_cases h : u.owns = true ∧ 0 ≤ u.fd
  · by_cases hfd : u.fd = fd <;> simp [reset, owned, h, hfd]
  · have hclosed : ¬(u.owns = true ∧ 0 ≤ u.fd ∧ u.fd ≠ fd) := fun hc => h ⟨hc.1, hc.2.1⟩
    simp [reset, owned, h, hclosed]

theorem nonneg_of_owned {u : UniqueFd} {fd : Int} (h : u.owned = some fd) : 0 ≤ fd := by
  rw [owned] at h
  by_cases hu : u.owns = true ∧ 0 ≤ u.fd
  · rw [if_pos hu] at h
    cases h
    exact hu.2
  · rw [if_neg hu] at h
    cases h

theorem release_returns {u : UniqueFd} {fd : Int} (h : u.owned = some fd) : u.release.2 = fd := by
  rw [owned] at h
  split_ifs at h
  exact Option.some.inj h

theorem destroy_closed (u : UniqueFd) : u.destroy = u.owned.toList := by
  rw [destroy, reset_closed, if_neg]
  intro h
  have := nonneg_of_owned h
  omega

end UniqueFd

variable {Name : Type}

inductive Op (Name : Type)
  | default (w : Name)
  | own (w : Name) (fd : Int)
  | borrow (w : Name) (fd : Int)
  | moveConstruct (w other : Name)
  | moveAssign (w other : Name)
  | release (w : Name)
  | reset (w : Name) (fd : Int)
  | destroy (w : Name)

def Op.subject : Op Name → Name
  | .default w | .own w _ | .borrow w _ | .moveConstruct w _ | .moveAssign w _ | .release w
  | .reset w _ | .destroy w => w

/-- The objects that live, and what happened to the descriptors so far: the
closes are calls of the code, the adoptions and releases are noted along. -/
structure State (Name : Type) where
  wrappers : Name → Option UniqueFd
  log : List (Event Int)

def State.initial : State Name := ⟨fun _ => none, []⟩

def State.get (s : State Name) (w : Name) : UniqueFd := (s.wrappers w).getD .empty

def State.ownedBy (s : State Name) (w : Name) : Option Int := (s.wrappers w).bind UniqueFd.owned

/-- A wrapper that is handed the descriptor it owns already does not adopt it again. -/
def adopted (owned : Option Int) (fd : Int) : List (Event Int) :=
  if 0 ≤ fd ∧ owned ≠ some fd then [.adopt fd] else []

/-- What release() returns leaves the program's custody if the wrapper owned it. -/
def released (owned : Option Int) (fd : Int) : List (Event Int) :=
  if owned = some fd then [.release fd] else []

/-- A descriptor is never handed to a wrapper while another one owns it. -/
def program [DecidableEq Name] : System (State Name) (Op Name) where
  enabled s
    | .default w => s.wrappers w = none
    | .own w fd => s.wrappers w = none ∧ ∀ w', s.ownedBy w' ≠ some fd
    | .borrow w _ => s.wrappers w = none
    | .moveConstruct w other => s.wrappers w = none ∧ s.wrappers other ≠ none
    | .moveAssign w other => s.wrappers w ≠ none ∧ s.wrappers other ≠ none
    | .release w => s.wrappers w ≠ none
    | .reset w fd => s.wrappers w ≠ none ∧ ∀ w', w' ≠ w → s.ownedBy w' ≠ some fd
    | .destroy w => s.wrappers w ≠ none
  next s
    | .default w => ⟨update s.wrappers w (some .empty), s.log⟩
    | .own w fd => ⟨update s.wrappers w (some (.ofFd fd)), s.log ++ adopted none fd⟩
    | .borrow w fd => ⟨update s.wrappers w (some (.borrow fd)), s.log⟩
    | .moveConstruct w other =>
        let (this, that) := UniqueFd.ofMoved (s.get other)
        ⟨update (update s.wrappers other (some that)) w (some this), s.log⟩
    | .moveAssign w other =>
        if w = other then s
        else
          let (this, that, closed) := (s.get w).moveAssign (s.get other)
          ⟨update (update s.wrappers other (some that)) w (some this), s.log ++ closed.map .close⟩
    | .release w =>
        let (this, fd) := (s.get w).release
        ⟨update s.wrappers w (some this), s.log ++ released (s.ownedBy w) fd⟩
    | .reset w fd =>
        let (this, closed) := (s.get w).reset fd
        ⟨update s.wrappers w (some this),
          s.log ++ (closed.map .close ++ adopted (s.ownedBy w) fd)⟩
    | .destroy w => ⟨update s.wrappers w none, s.log ++ (s.get w).destroy.map .close⟩

instance {n : Nat} (s : State (Fin n)) : (op : Op (Fin n)) → Decidable (program.enabled s op)
  | .default w => inferInstanceAs (Decidable (s.wrappers w = none))
  | .own w fd => inferInstanceAs (Decidable (s.wrappers w = none ∧ ∀ w', s.ownedBy w' ≠ some fd))
  | .borrow w _ => inferInstanceAs (Decidable (s.wrappers w = none))
  | .moveConstruct w other =>
      inferInstanceAs (Decidable (s.wrappers w = none ∧ s.wrappers other ≠ none))
  | .moveAssign w other =>
      inferInstanceAs (Decidable (s.wrappers w ≠ none ∧ s.wrappers other ≠ none))
  | .release w => inferInstanceAs (Decidable (s.wrappers w ≠ none))
  | .reset w fd =>
      inferInstanceAs (Decidable (s.wrappers w ≠ none ∧ ∀ w', w' ≠ w → s.ownedBy w' ≠ some fd))
  | .destroy w => inferInstanceAs (Decidable (s.wrappers w ≠ none))

theorem ownedBy_of_none {s : State Name} {w : Name} (h : s.wrappers w = none) :
    s.ownedBy w = none := by
  rw [State.ownedBy, h]
  rfl

theorem owned_get (s : State Name) (w : Name) : (s.get w).owned = s.ownedBy w := by
  rw [State.get, State.ownedBy]
  cases s.wrappers w with
  | none => rfl
  | some u => rfl

theorem released_returned (s : State Name) (w : Name) :
    released (s.ownedBy w) (s.get w).release.2 = (s.ownedBy w).toList.map .release := by
  rw [released]
  cases h : s.ownedBy w with
  | none => rfl
  | some fd =>
      rw [UniqueFd.release_returns ((owned_get s w).trans h), if_pos rfl]
      rfl

variable [DecidableEq Name]

theorem ownedBy_update (ws : Name → Option UniqueFd) (log log' : List (Event Int)) (w : Name)
    (u : Option UniqueFd) :
    State.ownedBy ⟨update ws w u, log⟩ =
      update (State.ownedBy ⟨ws, log'⟩) w (u.bind UniqueFd.owned) := by
  funext w'
  by_cases h : w' = w
  · subst h
    simp [State.ownedBy]
  · simp [State.ownedBy, h]

theorem ownedBy_moveAssign (s : State Name) {w other : Name} (h : w ≠ other) :
    (program.next s (.moveAssign w other)).ownedBy =
      update (update s.ownedBy other none) w (s.ownedBy other) := by
  simp only [program, if_neg h, UniqueFd.moveAssign]
  rw [ownedBy_update _ _ s.log, ownedBy_update _ _ s.log, ← owned_get]
  rfl

theorem ownedBy_release (s : State Name) (w : Name) :
    (program.next s (.release w)).ownedBy = update s.ownedBy w none :=
  ownedBy_update s.wrappers _ s.log w _

theorem ownedBy_reset (s : State Name) (w : Name) (fd : Int) :
    (program.next s (.reset w fd)).ownedBy = update s.ownedBy w (UniqueFd.owned ⟨fd, true⟩) :=
  ownedBy_update s.wrappers _ s.log w _

theorem ownedBy_destroy (s : State Name) (w : Name) :
    (program.next s (.destroy w)).ownedBy = update s.ownedBy w none :=
  ownedBy_update s.wrappers _ s.log w _

theorem reaches_adopted {a : Custody.State Name Int} {holds : Name → Option Int}
    (h : Matched holds a.holder) {w : Name} {fd : Int} (hw : holds w = none)
    (hfree : ∀ w', holds w' ≠ some fd) :
    Reaches a (update holds w (UniqueFd.owned ⟨fd, true⟩)) (adopted none fd) := by
  rw [UniqueFd.owned_ofFd, adopted]
  by_cases hfd : 0 ≤ fd
  · rw [if_pos hfd, if_pos ⟨hfd, nofun⟩]
    exact reaches_adopt h hw hfree
  · have hself : update holds w none = holds := update_eq_self_iff.2 hw.symm
    rw [if_neg hfd, if_neg (fun hc => hfd hc.1), hself]
    exact Reaches.refl h

theorem reset_reaches {a : Custody.State Name Int} {s : State Name}
    (h : Matched s.ownedBy a.holder) {w : Name} {fd : Int}
    (hfree : ∀ w', w' ≠ w → s.ownedBy w' ≠ some fd) :
    Reaches a (update s.ownedBy w (UniqueFd.owned ⟨fd, true⟩))
      (((s.get w).reset fd).2.map .close ++ adopted (s.ownedBy w) fd) := by
  rw [UniqueFd.reset_closed, owned_get]
  by_cases hsame : s.ownedBy w = some fd
  · -- the wrapper keeps the descriptor it owns
    have hfd : 0 ≤ fd := by
      rw [← owned_get] at hsame
      exact UniqueFd.nonneg_of_owned hsame
    have hself : update s.ownedBy w (some fd) = s.ownedBy := update_eq_self_iff.2 hsame.symm
    rw [UniqueFd.owned_ofFd, adopted, if_pos hsame, if_pos hfd, if_neg (fun hc => hc.2 hsame), hself]
    exact Reaches.refl h
  · have hadopted : adopted (s.ownedBy w) fd = adopted none fd := by
      simp [adopted, hsame]
    rw [if_neg hsame, hadopted]
    apply (reaches_close h w).trans
    intro a' h'
    have hothers : ∀ w', update s.ownedBy w none w' ≠ some fd := by
      intro w'
      by_cases hw : w' = w
      · subst hw
        simp
      · rw [update_of_ne hw]
        exact hfree w' hw
    have hnext := reaches_adopted h' (update_self w none s.ownedBy) hothers
    rw [update_idem] at hnext
    exact hnext

theorem moveAssign_reaches {a : Custody.State Name Int} {s : State Name}
    (h : Matched s.ownedBy a.holder) {w other : Name} (hne : w ≠ other) :
    Reaches a (update (update s.ownedBy other none) w (s.ownedBy other))
      ((s.ownedBy w).toList.map .close) := by
  have hboth := (reaches_close h w).trans fun a' h' =>
    reaches_transfer h' hne.symm (update_self w none s.ownedBy)
  rw [update_of_ne hne.symm, update_comm hne, update_idem, List.append_nil] at hboth
  exact hboth

/-- Every operation is a run of custody moves with the same events. -/
theorem next_reaches {a : Custody.State Name Int} {s : State Name}
    (h : Matched s.ownedBy a.holder) {op : Op Name} (he : program.enabled s op) :
    ∃ es, Reaches a (program.next s op).ownedBy es ∧ (program.next s op).log = s.log ++ es := by
  have hunowned {w : Name} (hw : s.ownedBy w = none) : update s.ownedBy w none = s.ownedBy :=
    update_eq_self_iff.2 hw.symm
  cases op with
  | default w =>
      refine ⟨[], ?_, (List.append_nil _).symm⟩
      have hnext : (program.next s (.default w)).ownedBy = s.ownedBy := by
        exact (ownedBy_update s.wrappers s.log s.log w _).trans (hunowned (ownedBy_of_none he))
      rw [hnext]
      exact Reaches.refl h
  | own w fd =>
      refine ⟨adopted none fd, ?_, rfl⟩
      have hnext : (program.next s (.own w fd)).ownedBy =
          update s.ownedBy w (UniqueFd.owned ⟨fd, true⟩) :=
        ownedBy_update s.wrappers _ s.log w _
      rw [hnext]
      exact reaches_adopted h (ownedBy_of_none he.1) he.2
  | borrow w fd =>
      refine ⟨[], ?_, (List.append_nil _).symm⟩
      have hnext : (program.next s (.borrow w fd)).ownedBy = s.ownedBy :=
        (ownedBy_update s.wrappers s.log s.log w _).trans (hunowned (ownedBy_of_none he))
      rw [hnext]
      exact Reaches.refl h
  | moveConstruct w other =>
      refine ⟨[], ?_, (List.append_nil _).symm⟩
      have hne : other ≠ w := by
        rintro rfl
        exact he.2 he.1
      have hnext : (program.next s (.moveConstruct w other)).ownedBy =
          update (update s.ownedBy other none) w (s.ownedBy other) := by
        show State.ownedBy ⟨update _ _ _, s.log⟩ = _
        rw [ownedBy_update _ _ s.log, ownedBy_update _ _ s.log, ← owned_get]
        rfl
      rw [hnext]
      exact reaches_transfer h hne (ownedBy_of_none he.1)
  | moveAssign w other =>
      by_cases hw : w = other
      · refine ⟨[], ?_, ?_⟩
        · simp only [program, if_pos hw]
          exact Reaches.refl h
        · simp only [program, if_pos hw, List.append_nil]
      · refine ⟨(s.ownedBy w).toList.map .close, ?_, ?_⟩
        · rw [ownedBy_moveAssign s hw]
          exact moveAssign_reaches h hw
        · simp only [program, if_neg hw, UniqueFd.moveAssign]
          rw [← owned_get, ← UniqueFd.destroy_closed, UniqueFd.destroy]
  | release w =>
      refine ⟨released (s.ownedBy w) (s.get w).release.2, ?_, rfl⟩
      rw [ownedBy_release, released_returned]
      exact reaches_release h w
  | reset w fd =>
      refine ⟨_, ?_, rfl⟩
      rw [ownedBy_reset]
      exact reset_reaches h he.2
  | destroy w =>
      refine ⟨(s.get w).destroy.map .close, ?_, rfl⟩
      rw [ownedBy_destroy, UniqueFd.destroy_closed, owned_get]
      exact reaches_close h w

def Inv (s : State Name) : Prop :=
  ∃ a : Custody.State Name Int, Matched s.ownedBy a.holder ∧ a.log = s.log ∧ Accounted a

omit [DecidableEq Name] in
theorem inv_initial : Inv (State.initial : State Name) := by
  refine ⟨Custody.initial, fun w r => ?_, rfl, accounted_initial⟩
  exact iff_of_false nofun nofun

theorem inv_next (s : State Name) (op : Op Name) (h : Inv s) (he : program.enabled s op) :
    Inv (program.next s op) := by
  obtain ⟨a, hm, hlog, hacc⟩ := h
  obtain ⟨es, ⟨ms, hv, hm', hlog'⟩, hes⟩ := next_reaches hm he
  exact ⟨_, hm', by rw [hlog', hlog, hes], accounted_after hacc hv⟩

structure ClosesOnce (s : State Name) : Prop where
  oneOwner : ∀ w w' fd, s.ownedBy w = some fd → s.ownedBy w' = some fd → w = w'
  alternates : ∀ fd, Alternates fd false s.log
  pending : ∀ fd, heldAfter fd false s.log = true ↔ ∃ w, s.ownedBy w = some fd
  counted : ∀ fd, s.log.count (.adopt fd) =
    s.log.count (.close fd) + s.log.count (.release fd) + (heldAfter fd false s.log).toNat
  borrowed : ∀ fd, .adopt fd ∉ s.log → .close fd ∉ s.log

omit [DecidableEq Name] in
theorem closesOnce_of_inv {s : State Name} (h : Inv s) : ClosesOnce s := by
  obtain ⟨a, hm, hlog, hacc⟩ := h
  rw [Accounted, hlog] at hacc
  refine ⟨?_, fun fd => (hacc fd).1, ?_, ?_, fun fd => close_not_mem_of_not_adopted (hacc fd).1⟩
  · intro w w' fd hw hw'
    have hboth := ((hm w fd).1 hw).symm.trans ((hm w' fd).1 hw')
    exact Option.some.inj hboth
  · intro fd
    rw [(hacc fd).2, Option.isSome_iff_exists]
    exact exists_congr fun w => (hm w fd).symm
  · intro fd
    have hcount := count_of_alternates (hacc fd).1
    simpa using hcount

def GivesUp (s : State Name) (op : Op Name) : Prop :=
  ∀ es, (program.next s op).log = s.log ++ es → ∀ fd, .close fd ∈ es →
    s.ownedBy op.subject = some fd ∧ ∀ w, (program.next s op).ownedBy w ≠ some fd

omit [DecidableEq Name] in
theorem close_not_mem_adopted {owned : Option Int} {fd fd' : Int} :
    .close fd' ∉ adopted owned fd := by
  rw [adopted]
  split_ifs <;> simp

omit [DecidableEq Name] in
theorem close_not_mem_released {owned : Option Int} {fd fd' : Int} :
    .close fd' ∉ released owned fd := by
  rw [released]
  split_ifs <;> simp

theorem not_owned_of_update {s : State Name} (h : ClosesOnce s) {w : Name} {fd : Int}
    (hw : s.ownedBy w = some fd) {o : Option Int} (ho : o ≠ some fd) (w' : Name) :
    update s.ownedBy w o w' ≠ some fd := by
  by_cases hww : w' = w
  · subst hww
    rwa [update_self]
  · rw [update_of_ne hww]
    intro hw'
    exact hww (h.oneOwner _ _ _ hw' hw)

theorem givesUp_step {s : State Name} (h : ClosesOnce s) (op : Op Name) : GivesUp s op := by
  intro es hes fd hfd
  have hnothing : s.log = s.log ++ es → False := by
    intro hlog
    rw [List.self_eq_append_right.1 hlog] at hfd
    cases hfd
  cases op with
  | default w => exact (hnothing hes).elim
  | borrow w fd' => exact (hnothing hes).elim
  | moveConstruct w other => exact (hnothing hes).elim
  | own w fd' =>
      rw [← List.append_cancel_left hes] at hfd
      exact absurd hfd close_not_mem_adopted
  | release w =>
      rw [← List.append_cancel_left hes] at hfd
      exact absurd hfd close_not_mem_released
  | moveAssign w other =>
      by_cases hne : w = other
      · simp only [program, if_pos hne] at hes
        exact (hnothing hes).elim
      · have hclosed : ((s.get w).moveAssign (s.get other)).2.2 = (s.ownedBy w).toList := by
          rw [← owned_get]
          exact UniqueFd.destroy_closed _
        simp only [program, if_neg hne, hclosed] at hes
        rw [← List.append_cancel_left hes] at hfd
        have hw : s.ownedBy w = some fd := by simpa using hfd
        refine ⟨hw, fun w' => ?_⟩
        have hother : s.ownedBy other ≠ some fd := fun ho => hne (h.oneOwner _ _ _ hw ho)
        rw [ownedBy_moveAssign s hne, update_comm (Ne.symm hne)]
        by_cases how : w' = other
        · rw [how, update_self]
          exact nofun
        · rw [update_of_ne how]
          exact not_owned_of_update h hw hother w'
  | reset w fd' =>
      have hlog : (program.next s (.reset w fd')).log = s.log ++
          (((s.get w).reset fd').2.map .close ++ adopted (s.ownedBy w) fd') := rfl
      rw [hlog] at hes
      rw [← List.append_cancel_left hes, List.mem_append, UniqueFd.reset_closed, owned_get] at hfd
      have hfd := hfd.resolve_right close_not_mem_adopted
      by_cases hsame : s.ownedBy w = some fd'
      · rw [if_pos hsame] at hfd
        cases hfd
      · rw [if_neg hsame] at hfd
        have hw : s.ownedBy w = some fd := by simpa using hfd
        refine ⟨hw, fun w' => ?_⟩
        rw [ownedBy_reset]
        apply not_owned_of_update h hw
        rw [UniqueFd.owned_ofFd]
        rw [hw] at hsame
        split_ifs
        · exact Ne.symm hsame
        · exact nofun
  | destroy w =>
      rw [← List.append_cancel_left hes, UniqueFd.destroy_closed, owned_get] at hfd
      have hw : s.ownedBy w = some fd := by simpa using hfd
      have hnone : (none : Option Int) ≠ some fd := nofun
      refine ⟨hw, fun w' => ?_⟩
      rw [ownedBy_destroy]
      exact not_owned_of_update h hw hnone w'

/-- In every program over any number of wrappers, at every point of it. -/
theorem program_closesOnce (ops : List (Op Name))
    (hv : program.Valid (State.initial : State Name) ops) :
    program.Always ClosesOnce State.initial ops ∧ program.Along GivesUp State.initial ops := by
  constructor
  · intro done hprefix
    obtain ⟨rest, rfl⟩ := hprefix
    exact closesOnce_of_inv
      (program.invariant inv_next inv_initial ((program.valid_append _ _ _).1 hv).1)
  · exact program.along_of_invariant (P := fun _ _ => True)
      (fun s op hi he _ => inv_next s op hi he)
      (fun s op hi _ _ => givesUp_step (closesOnce_of_inv hi) op)
      inv_initial hv (program.along_true _ _)

/-- A descriptor is adopted, moved, reset to itself and released; a borrowed one
is moved over an owned one. -/
theorem program_closesOnce_three :
    program.Always ClosesOnce (State.initial : State (Fin 3))
        [.own 0 5, .moveConstruct 1 0, .reset 1 5, .borrow 2 7, .moveAssign 1 2, .release 2] ∧
      program.Along GivesUp (State.initial : State (Fin 3))
        [.own 0 5, .moveConstruct 1 0, .reset 1 5, .borrow 2 7, .moveAssign 1 2, .release 2] :=
  program_closesOnce
    [.own 0 5, .moveConstruct 1 0, .reset 1 5, .borrow 2 7, .moveAssign 1 2, .release 2]
    (by decide)

end SdbusExamples.FdOwnership
