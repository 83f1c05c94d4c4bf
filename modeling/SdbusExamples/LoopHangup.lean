import SdbusExamples.LoopSteps

namespace SdbusExamples.LoopHangup

open LoopQueues LoopRun LoopSteps Runs

variable {Src : Type}

/-- Some condition that poll() reports whether or not it was asked for. -/
def Dead (revents : Short) : Prop := revents &&& (POLLHUP ||| POLLERR ||| POLLNVAL) ≠ 0

def HungUp (revents : Short) : Prop := revents &&& (POLLHUP ||| POLLERR) ≠ 0

instance : DecidablePred Dead := fun _ => inferInstanceAs (Decidable (_ ≠ _))

instance : DecidablePred HungUp := fun _ => inferInstanceAs (Decidable (_ ≠ _))

/-- No source is dispatched on POLLNVAL alone. -/
def NvalHangsUp (s : State Src) : Action Src → Prop
  | .dispatchNext i =>
      i < s.loop.sources.length → Dead (s.sourceRevents i) → HungUp (s.sourceRevents i)
  | _ => True

instance : ∀ (s : State Src) (a : Action Src), Decidable (NvalHangsUp s a)
  | s, .dispatchNext i => inferInstanceAs (Decidable
      (i < s.loop.sources.length → Dead (s.sourceRevents i) → HungUp (s.sourceRevents i)))
  | _, .callRun | _, .storeRunning | _, .whileTest | _, .applyPending | _, .breakTest
  | _, .buildPollSet _ _ | _, .poll _ | _, .drain | _, .processed | _, .dbusThrow
  | _, .dispatchReturn _ | _, .storeError _ | _, .finalLoad _ | _, .add _ | _, .remove _
  | _, .retire _ | _, .callStop _ | _, .stopStep _ | _, .destroy => .isTrue trivial

def Past (i : Nat) : Pc → Prop
  | .dispatching j | .inDispatch j => i < j
  | .breakTest | .buildPollSet | .polling | .draining | .processing => False
  | _ => True

/-- The source at `i` has been dispatched on a dead fd and apply_pending() has not run since. -/
def Spent (i : Nat) (p : Src) (s : State Src) : Prop :=
  s.loop.sources[i]? = some p ∧
    ((s.pc = .inDispatch i ∧ HungUp (s.sourceRevents i)) ∨
      (p ∈ s.loop.toRemove ∧ Past i s.pc))

def Gone (p : Src) (s : State Src) : Prop := p ∉ s.loop.sources ∧ p ∉ s.loop.toAdd

theorem past_of_moves {i : Nat} {a : Action Src} {pc pc' : Pc} (h : Moves a pc pc')
    (hne : a ≠ .applyPending) (hp : Past i pc) : Past i pc' := by
  cases h with
  | applyPending => exact absurd rfl hne
  | goOn | breakOut | buildPollSet | eintr | pollFailed | wakeReady | wakeQuiet | drain | drained
  | processed | dbusThrow => exact hp.elim
  | dispatchNext j h =>
      have hij : i < j := hp
      rcases h with rfl | rfl | rfl
      · exact Nat.lt_succ_of_lt hij
      · exact hij
      · trivial
  | dispatchReturn j => exact Nat.lt_succ_of_lt hp
  | add | remove | retire | callStop | stopStep => exact hp
  | _ => trivial

theorem dispatchReturn_of_hungUp {s : State Src} {i : Nat} {p : Src}
    (hp : s.loop.sources[i]? = some p) (hh : HungUp (s.sourceRevents i)) :
    (s.dispatchReturn i).loop = s.loop.remove p := by
  simp only [State.dispatchReturn, hp]
  exact if_pos hh

def InPollSet (p : Src) (s : State Src) : Prop := s.pc = .polling ∧ p ∈ s.loop.sources

theorem not_polled_of_spent {i : Nat} {p : Src} {s : State Src} (h : Spent i p s) :
    ¬ InPollSet p s := by
  rintro ⟨hpc, -⟩
  rcases h.2 with ⟨hi, -⟩ | ⟨-, hpast⟩
  · rw [hpc] at hi
    cases hi
  · rw [hpc] at hpast
    exact hpast

variable [DecidableEq Src]

theorem toRemove_next (s : State Src) (a : Action Src) (hne : a ≠ .applyPending) {p : Src}
    (h : p ∈ s.loop.toRemove) : p ∈ (next s a).loop.toRemove := by
  rcases queues_next s a with hq | ⟨rfl, -⟩ | ⟨q, -, hq⟩ | ⟨q, -, hq⟩ | ⟨q, -, hq⟩ | ⟨-, hq⟩
  · exact hq.toRemove ▸ h
  · exact absurd rfl hne
  all_goals simp [hq, h]

theorem gone_next (s : State Src) (a : Action Src) {p : Src} (hne : a ≠ .add p) (h : Gone p s) :
    Gone p (next s a) := by
  obtain ⟨hs, ha⟩ := h
  rw [Gone]
  rcases queues_next s a with hq | ⟨-, hq⟩ | ⟨q, rfl, hq⟩ | ⟨q, -, hq⟩ | ⟨q, -, hq⟩ | ⟨-, hq⟩
  · rw [hq.sources, hq.toAdd]
    exact ⟨hs, ha⟩
  · rw [hq, EventLoop.mem_applyPending_sources]
    simp [hs, ha]
  · have hpq : p ≠ q := fun h => hne (h ▸ rfl)
    simp [hq, hs, ha, hpq]
  all_goals simp [hq, hs, ha]

theorem spent_next {i : Nat} {p : Src} (s : State Src) (a : Action Src) (h : Spent i p s)
    (he : enabled s a) (hne : a ≠ .applyPending) : Spent i p (next s a) := by
  have hm := moves_next s a he
  obtain ⟨hp, h⟩ := h
  refine ⟨by rw [sources_next s a hne, hp], ?_⟩
  rcases h with ⟨hpc, hh⟩ | ⟨hr, hpast⟩
  · rw [hpc] at hm
    generalize hpc' : (next s a).pc = pc' at hm
    cases hm with
    | dispatchReturn =>
        right
        rw [next, dispatchReturn_of_hungUp hp hh]
        simp [Past]
    | add | remove | retire | callStop => exact Or.inl ⟨rfl, hh⟩
    | stopStep j =>
        left
        refine ⟨rfl, ?_⟩
        rw [next, State.stopStep]
        split <;> exact hh
    | callRun h | destroy h => simp [Pc.idle] at h
  · exact Or.inr ⟨toRemove_next s a hne hr, past_of_moves hm hne hpast⟩

theorem gone_applyPending {i : Nat} {p : Src} {s : State Src} (h : Spent i p s)
    (he : enabled s .applyPending) : Gone p (next s .applyPending) := by
  have hpc : s.pc = .applyPending := he
  rcases h with ⟨-, ⟨hi, -⟩ | ⟨hr, -⟩⟩
  · rw [hpc] at hi
    cases hi
  · refine ⟨?_, by simp [next]⟩
    rw [next, EventLoop.mem_applyPending_sources]
    simp [hr]

/-- The last step of `as` calls dispatch() of `p` with revents that satisfy `R`. -/
def Dispatched (R : Short → Prop) (p : Src) (s : State Src) (as : List (Action Src)) : Prop :=
  ∃ bs j, as = bs ++ [.dispatchNext j] ∧ ((system Src).after s as).pc = .inDispatch j ∧
    ((system Src).after s as).loop.sources[j]? = some p ∧
    R (((system Src).after s as).sourceRevents j)

/-- After the dispatch of `p` that ends `as₁`, another poll set with `p` in
it, or another dispatch of `p`, needs an add() in a later iteration. -/
def NotAgain (wakeFd : Int) (as₁ as₂ : List (Action Src)) (p : Src) : Prop :=
  InPollSet p ((system Src).after (initial wakeFd) (as₁ ++ as₂)) ∨
      Dispatched (fun _ => True) p ((system Src).after (initial wakeFd) as₁) as₂ →
    ∃ xs ys zs, as₂ = xs ++ .applyPending :: (ys ++ .add p :: zs)

theorem spent_of_dispatched {s : State Src} {as : List (Action Src)} {p : Src}
    (hc : (system Src).Along NvalHangsUp s as) (h : Dispatched Dead p s as) :
    ∃ i, Spent i p ((system Src).after s as) := by
  obtain ⟨bs, i, rfl, hpc, hp, hd⟩ := h
  refine ⟨i, hp, Or.inl ⟨hpc, ?_⟩⟩
  rw [System.along_append] at hc
  rw [System.after_append] at hp hd ⊢
  obtain ⟨pc, he, -⟩ := ((system Src).after s bs).dispatchNext_eq i
  have hnext : (system Src).after ((system Src).after s bs) [.dispatchNext i] =
      { (system Src).after s bs with pc } := he
  rw [hnext] at hp hd ⊢
  obtain ⟨hi, -⟩ := List.getElem?_eq_some_iff.1 hp
  exact hc.2.1 hi hd

theorem not_dispatched_of_spent {i : Nat} {p : Src} {s : State Src} {as : List (Action Src)}
    (hn : s.loop.sources.Nodup) (h : Spent i p s) (hv : (system Src).Valid s as)
    (hne : .applyPending ∉ as) : ¬ Dispatched (fun _ => True) p s as := by
  rintro ⟨bs, j, rfl, -, hp, -⟩
  rw [System.valid_append] at hv
  rw [System.after_append] at hp
  have hne' : (system Src).Along (fun _ a => a ≠ .applyPending) s bs :=
    ((system Src).along_action_iff s bs).2
      fun a ha h => hne (List.mem_append_left _ (h ▸ ha))
  have hspent := (system Src).invariant_along spent_next h hv.1 hne'
  have hnodup := (system Src).invariant (fun s a h _ => nodup_next s a h) hn hv.1
  have hpc : ((system Src).after s bs).pc = .dispatching j := hv.2.1
  have hp : ((system Src).after s bs).loop.sources[j]? = some p := by
    rw [← sources_next _ (.dispatchNext j) (by simp)]
    exact hp
  obtain ⟨hi, hip⟩ := List.getElem?_eq_some_iff.1 hspent.1
  obtain ⟨hj, hjp⟩ := List.getElem?_eq_some_iff.1 hp
  have hij : i = j := (hnodup.getElem_inj_iff).1 (hip.trans hjp.symm)
  rcases hspent.2 with ⟨hpc', -⟩ | ⟨-, hpast⟩
  · rw [hpc] at hpc'
    cases hpc'
  · rw [hpc] at hpast
    exact Nat.lt_irrefl j (hij ▸ hpast)

/-- A dead fd is dispatched once for each registration, in every run in which
poll() never reports POLLNVAL without POLLHUP or POLLERR. -/
theorem dead_fd_not_again (wakeFd : Int) (as₁ as₂ : List (Action Src)) (p : Src)
    (hv : (system Src).Valid (initial wakeFd) (as₁ ++ as₂))
    (hc : (system Src).Along NvalHangsUp (initial wakeFd) (as₁ ++ as₂))
    (hd : Dispatched Dead p (initial wakeFd) as₁) : NotAgain wakeFd as₁ as₂ p := by
  rw [System.valid_append] at hv
  rw [System.along_append] at hc
  obtain ⟨i, hspent⟩ := spent_of_dispatched hc.1 hd
  have hnodup : ((system Src).after (initial wakeFd) as₁).loop.sources.Nodup :=
    (system Src).invariant (fun s a h _ => nodup_next s a h) (by simp [initial, EventLoop.init])
      hv.1
  intro hagain
  rw [System.after_append] at hagain
  by_cases hap : Action.applyPending ∈ as₂
  · obtain ⟨xs, ws, rfl, hxs⟩ := List.eq_append_cons_of_mem hap
    have hvx := (System.valid_append _ _ _ _).1 hv.2
    have hsx := (system Src).invariant_along spent_next hspent hvx.1
      (((system Src).along_action_iff _ xs).2 fun a ha h => hxs (h ▸ ha))
    have hgone := gone_applyPending hsx hvx.2.1
    by_cases hadd : Action.add p ∈ ws
    · obtain ⟨ys, zs, rfl⟩ := List.append_of_mem hadd
      exact ⟨xs, ys, zs, rfl⟩
    · have hfinal : Gone p ((system Src).after ((system Src).after (initial wakeFd) as₁)
          (xs ++ .applyPending :: ws)) := by
        rw [System.after_append, System.after_cons]
        exact (system Src).invariant_along (fun s a h _ ha => gone_next s a ha h) hgone hvx.2.2
          (((system Src).along_action_iff _ ws).2 fun a ha h => hadd (h ▸ ha))
      rcases hagain with h | ⟨bs, j, -, -, hp, -⟩
      · exact absurd h.2 hfinal.1
      · exact absurd (List.mem_of_getElem? hp) hfinal.1
  · have hs := (system Src).invariant_along spent_next hspent hv.2
      (((system Src).along_action_iff _ as₂).2 fun a ha h => hap (h ▸ ha))
    rcases hagain with h | h
    · exact absurd h (not_polled_of_spent hs)
    · exact absurd h (not_dispatched_of_spent hnodup hspent hv.2 hap)

theorem dead_fd_not_again_hangup :
    NotAgain 3
      ([.add 0, .callRun, .storeRunning, .whileTest, .applyPending, .breakTest,
        .buildPollSet ⟨5, POLLIN, -1⟩ (fun _ => (7, POLLIN)),
        .poll (.ready [0, POLLIN, POLLIN ||| POLLHUP]), .drain, .drain, .dispatchNext 0] :
        List (Action Nat))
      [.dispatchReturn 0, .dispatchNext 1, .whileTest, .applyPending, .breakTest,
        .buildPollSet ⟨5, POLLIN, -1⟩ (fun _ => (7, POLLIN))] 0 :=
  dead_fd_not_again 3 _ _ 0 (by decide) (by decide)
    ⟨[.add 0, .callRun, .storeRunning, .whileTest, .applyPending, .breakTest,
      .buildPollSet ⟨5, POLLIN, -1⟩ (fun _ => (7, POLLIN)),
      .poll (.ready [0, POLLIN, POLLIN ||| POLLHUP]), .drain, .drain], 0,
      rfl, by decide, by decide, by decide⟩

/-- A source whose fd has been closed is dispatched on POLLNVAL and stays registered. -/
theorem closed_fd_polled_again :
    ¬ ∀ (wakeFd : Int) (as₁ as₂ : List (Action Nat)) (p : Nat),
      (system Nat).Valid (initial wakeFd) (as₁ ++ as₂) →
      Dispatched Dead p (initial wakeFd) as₁ → NotAgain wakeFd as₁ as₂ p := by
  intro h
  have hagain := h 3
    [.add 0, .callRun, .storeRunning, .whileTest, .applyPending, .breakTest,
      .buildPollSet ⟨5, POLLIN, -1⟩ (fun _ => (7, POLLIN)),
      .poll (.ready [0, POLLIN, POLLNVAL]), .drain, .drain, .dispatchNext 0]
    [.dispatchReturn 0, .dispatchNext 1, .whileTest, .applyPending, .breakTest,
      .buildPollSet ⟨5, POLLIN, -1⟩ (fun _ => (7, POLLIN))] 0 (by decide)
    ⟨[.add 0, .callRun, .storeRunning, .whileTest, .applyPending, .breakTest,
      .buildPollSet ⟨5, POLLIN, -1⟩ (fun _ => (7, POLLIN)),
      .poll (.ready [0, POLLIN, POLLNVAL]), .drain, .drain], 0, rfl, by decide, by decide,
      by decide⟩
  obtain ⟨xs, ys, zs, h⟩ := hagain (Or.inl ⟨by decide, by decide⟩)
  have hadd : Action.add 0 ∈ xs ++ .applyPending :: (ys ++ .add 0 :: zs) := by simp
  rw [← h] at hadd
  simp at hadd

end SdbusExamples.LoopHangup
