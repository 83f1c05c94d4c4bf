import SdbusExamples.LoopSteps

namespace SdbusExamples.LoopStop

open LoopQueues LoopRun LoopSteps Runs

variable {Src : Type}

def HasStored (i : Nat) (s : State Src) : Prop := ∃ c, s.stops[i]? = some c ∧ c.Stored

def polls : Action Src → Bool
  | .buildPollSet _ _ | .poll _ | .drain | .processed | .dbusThrow | .dispatchNext _
  | .dispatchReturn _ => true
  | _ => false

def OutOfLoop : Pc → Prop
  | .outside | .storeRunning | .finalLoad _ | .returned _ _ | .destroyed => True
  | _ => False

/-- run() makes its initial store only before the stop() has cleared running_. -/
def EntryBeforeStop (i : Nat) (s : State Src) : Action Src → Prop
  | .storeRunning => ∀ c ∈ s.stops[i]?, ¬ c.Stored
  | _ => True

instance : ∀ (i : Nat) (s : State Src) (a : Action Src), Decidable (EntryBeforeStop i s a)
  | i, s, .storeRunning => inferInstanceAs (Decidable (∀ c ∈ s.stops[i]?, ¬ c.Stored))
  | _, _, .callRun | _, _, .whileTest | _, _, .applyPending | _, _, .breakTest
  | _, _, .buildPollSet _ _ | _, _, .poll _ | _, _, .drain | _, _, .processed | _, _, .dbusThrow
  | _, _, .dispatchNext _ | _, _, .dispatchReturn _ | _, _, .storeError _ | _, _, .finalLoad _
  | _, _, .add _ | _, _, .remove _ | _, _, .retire _ | _, _, .callStop _ | _, _, .stopStep _
  | _, _, .destroy => .isTrue trivial

theorem stored_step {c : StopCall} (h : c.Stored) (l : EventLoop Src) : (c.step l).1.Stored := by
  rcases h with h | h <;> simp [StopCall.step, StopCall.Stored, h]

variable [DecidableEq Src]

theorem hasStored_next {i : Nat} (s : State Src) (a : Action Src) (h : HasStored i s) :
    HasStored i (next s a) := by
  obtain ⟨c, hm, hc⟩ := h
  obtain ⟨hi, -⟩ := List.getElem?_eq_some_iff.1 hm
  rcases stops_next s a with hs | ⟨d, rfl⟩ | ⟨j, rfl⟩
  · exact ⟨c, by rw [hs, hm], hc⟩
  · exact ⟨c, by simp [next, List.getElem?_append_left hi, hm], hc⟩
  · by_cases hij : i = j
    · refine ⟨_, ?_, stored_step hc s.loop⟩
      rw [next, stops_stopStep, if_pos hij, hm, Option.map_some]
    · exact ⟨c, by rw [next, stops_stopStep, if_neg hij, hm], hc⟩

theorem hasStored_of_next {i : Nat} (s : State Src) (a : Action Src)
    (h : HasStored i (next s a)) : HasStored i s ∨ (next s a).loop.running = false := by
  obtain ⟨c, hm, hc⟩ := h
  rcases stops_next s a with hs | ⟨d, rfl⟩ | ⟨j, rfl⟩
  · exact Or.inl ⟨c, by rw [← hs, hm], hc⟩
  · by_cases hi : i < s.stops.length
    · exact Or.inl ⟨c, by simpa [next, List.getElem?_append_left hi] using hm, hc⟩
    · simp only [next, List.getElem?_append_right (Nat.le_of_not_lt hi),
        List.getElem?_singleton] at hm
      split_ifs at hm
      obtain rfl := Option.some.inj hm
      simp [StopCall.Stored] at hc
  · by_cases hij : i = j
    · subst hij
      rw [next, stops_stopStep, if_pos rfl] at hm
      obtain ⟨d, hd, rfl⟩ := Option.map_eq_some_iff.1 hm
      cases hpc : d.pc with
      | storeCode => simp [StopCall.step, hpc, StopCall.Stored] at hc
      | storeRunning => right; simp [next, State.stopStep, hd, StopCall.step, hpc]
      | wake => exact Or.inl ⟨d, hd, Or.inl hpc⟩
      | done => exact Or.inl ⟨d, hd, Or.inr hpc⟩
    · rw [next, stops_stopStep, if_neg hij] at hm
      exact Or.inl ⟨c, hm, hc⟩

def Cleared (i : Nat) (s : State Src) : Prop := HasStored i s → s.loop.running = false

theorem cleared_next {i : Nat} (s : State Src) (a : Action Src) (h : Cleared i s)
    (hc : EntryBeforeStop i s a) : Cleared i (next s a) := by
  intro hs
  rcases hasStored_of_next s a hs with hold | hr
  · have hne : a ≠ .storeRunning := by
      rintro rfl
      obtain ⟨c, hm, hd⟩ := hold
      exact hc c hm hd
    rcases running_next s a hne with hr | hr
    · rw [hr, h hold]
    · exact hr
  · exact hr

def Stopping (i : Nat) (s : State Src) : Prop := Cleared i s ∧ HasStored i s

theorem stopping_next {i : Nat} (s : State Src) (a : Action Src) (h : Stopping i s)
    (hc : EntryBeforeStop i s a) : Stopping i (next s a) :=
  ⟨cleared_next s a h.1 hc, hasStored_next s a h.2⟩

theorem outOfLoop_next {i : Nat} (s : State Src) (a : Action Src) (h : OutOfLoop s.pc)
    (hs : HasStored i s) (he : enabled s a) (hc : EntryBeforeStop i s a) :
    OutOfLoop (next s a).pc ∧ polls a = false := by
  cases a with
  | storeRunning =>
      obtain ⟨c, hm, hd⟩ := hs
      exact absurd hd (hc c hm)
  | callRun | destroy => exact ⟨trivial, rfl⟩
  | finalLoad e => exact ⟨trivial, rfl⟩
  | add p | remove p | retire p | callStop c => exact ⟨h, rfl⟩
  | stopStep j => exact ⟨by simpa [next] using h, rfl⟩
  | poll r => cases r <;> simp_all [enabled, OutOfLoop]
  | _ =>
      have hpc : s.pc = _ := he
      simp [hpc, OutOfLoop] at h

theorem polls_eq_false {i : Nat} {s : State Src} {as : List (Action Src)} (hs : Stopping i s)
    (hpc : OutOfLoop s.pc) (hv : (system Src).Valid s as)
    (hc : (system Src).Along (EntryBeforeStop i) s as) : ∀ a ∈ as, polls a = false := by
  rw [← (system Src).along_action_iff s]
  refine (system Src).along_of_invariant
    (fun s a (h : Stopping i s ∧ OutOfLoop s.pc) he hc => ?_) (fun s a h he hc => ?_)
    ⟨hs, hpc⟩ hv hc
  · exact ⟨stopping_next s a h.1 hc, (outOfLoop_next s a h.2 h.1.2 he hc).1⟩
  · exact (outOfLoop_next s a h.2 h.1.2 he hc).2

/-- Once stop() number `i` has returned, no iteration that starts later polls or dispatches. -/
def StopHeeded (wakeFd : Int) (i : Nat) (as₁ as₂ : List (Action Src)) : Prop :=
  (∃ code, ((system Src).after (initial wakeFd) as₁).stops[i]? = some ⟨code, .done⟩) →
    ∀ xs ys, as₂ = xs ++ .whileTest :: ys → ∀ a ∈ ys, polls a = false

/-- A stop() is heeded in every run in which run() makes no initial store of
running_ after the one that stop() makes. -/
theorem stop_heeded (wakeFd : Int) (i : Nat) (as₁ as₂ : List (Action Src))
    (hv : (system Src).Valid (initial wakeFd) (as₁ ++ as₂))
    (hc : (system Src).Along (EntryBeforeStop i) (initial wakeFd) (as₁ ++ as₂)) :
    StopHeeded wakeFd i as₁ as₂ := by
  rintro ⟨code, hm⟩ xs ys rfl
  rw [System.valid_append, System.valid_append, System.valid_cons] at hv
  rw [System.along_append, System.along_append, System.along_cons] at hc
  obtain ⟨hv₁, hvx, hvt, hvy⟩ := hv
  obtain ⟨hc₁, hcx, hct, hcy⟩ := hc
  have h0 : Cleared i (initial wakeFd : State Src) := by
    rintro ⟨c, hm, -⟩
    simp [initial] at hm
  have h1 := (system Src).invariant_along (fun s a h _ => cleared_next s a h) h0 hv₁ hc₁
  have hx : Stopping i _ := (system Src).invariant_along
    (fun s a h _ => stopping_next s a h) ⟨h1, _, hm, Or.inr rfl⟩ hvx hcx
  have ht := stopping_next _ .whileTest hx hct
  refine polls_eq_false ht ?_ hvy hcy
  simp [next, hx.1 hx.2, OutOfLoop]

theorem stop_heeded_first_poll :
    StopHeeded 3 0
      ([.callRun, .storeRunning, .whileTest, .applyPending, .breakTest,
        .buildPollSet ⟨5, POLLIN, -1⟩ (fun _ => (0, 0)), .callStop 0, .stopStep 0, .stopStep 0,
        .stopStep 0] : List (Action Nat))
      [.poll (.ready [0, POLLIN]), .drain, .drain, .dispatchNext 0, .whileTest,
        .finalLoad .stopped] :=
  stop_heeded 3 0 _ _ (by decide) (by decide)

/-- A stop() that returns before run() makes its initial store is overwritten
by that store: the first iteration polls. -/
theorem stop_lost_before_entry :
    ¬ ∀ (wakeFd : Int) (i : Nat) (as₁ as₂ : List (Action Nat)),
      (system Nat).Valid (initial wakeFd) (as₁ ++ as₂) → StopHeeded wakeFd i as₁ as₂ := by
  intro h
  have h := h 3 0 [.callStop 0, .stopStep 0, .stopStep 0, .stopStep 0]
    [.callRun, .storeRunning, .whileTest, .applyPending, .breakTest,
      .buildPollSet ⟨5, POLLIN, -1⟩ (fun _ => (0, 0))] (by decide) ⟨0, by decide⟩
  have := h [.callRun, .storeRunning] _ rfl (.buildPollSet ⟨5, POLLIN, -1⟩ (fun _ => (0, 0)))
    (by simp)
  simp [polls] at this

end SdbusExamples.LoopStop
