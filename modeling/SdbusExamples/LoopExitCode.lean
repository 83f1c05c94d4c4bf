import SdbusExamples.LoopSteps

namespace SdbusExamples.LoopExitCode

open LoopQueues LoopRun LoopSteps Runs

variable {Src : Type}

def Failed (pc : Pc) : Prop := pc = .finalLoad .pollFailed ∨ pc = .finalLoad .dbusError

instance (pc : Pc) : Decidable (Failed pc) :=
  inferInstanceAs (Decidable (pc = .finalLoad .pollFailed ∨ pc = .finalLoad .dbusError))

def InRun : Pc → Prop
  | .outside | .storeRunning | .returned _ _ | .destroyed | .finalLoad .pollFailed
  | .finalLoad .dbusError => False
  | _ => True

/-- No stop(0) stores its code after an internal error has stored the 1, and
no stop() is between its two stores, with a code already overwritten, when
run() makes its initial store. -/
def CodeSafe (s : State Src) : Action Src → Prop
  | .storeRunning => ∀ c ∈ s.stops, c.pc = .storeRunning → c.code = s.loop.exitCode
  | .stopStep i => ∀ c ∈ s.stops[i]?, c.pc = .storeCode → c.code = 0 → ¬ Failed s.pc
  | _ => True

instance : ∀ (s : State Src) (a : Action Src), Decidable (CodeSafe s a)
  | s, .storeRunning => inferInstanceAs (Decidable
      (∀ c ∈ s.stops, c.pc = .storeRunning → c.code = s.loop.exitCode))
  | s, .stopStep i => inferInstanceAs (Decidable
      (∀ c ∈ s.stops[i]?, c.pc = .storeCode → c.code = 0 → ¬ Failed s.pc))
  | _, .callRun | _, .whileTest | _, .applyPending | _, .breakTest | _, .buildPollSet _ _
  | _, .poll _ | _, .drain | _, .processed | _, .dbusThrow | _, .dispatchNext _
  | _, .dispatchReturn _ | _, .storeError _ | _, .finalLoad _ | _, .add _ | _, .remove _
  | _, .retire _ | _, .callStop _ | _, .destroy => .isTrue trivial

def StopCodeIs (code : Int) (s : State Src) : Action Src → Prop
  | .stopStep i =>
      ∀ c ∈ s.stops[i]?, c.pc = .storeCode ∨ c.pc = .storeRunning → c.code = code
  | _ => True

def ErrorKept (s : State Src) : Prop := Failed s.pc → s.loop.exitCode ≠ 0

/-- While run() is in its loop, a cleared running_ comes with the one code passed to stop(). -/
structure CodeKept (code : Int) (s : State Src) : Prop where
  flag : InRun s.pc → s.loop.running = false → s.loop.exitCode = code
  half : InRun s.pc → ∀ c ∈ s.stops, c.pc = .storeRunning → c.code = code →
    s.loop.exitCode = code
  left : s.pc = .finalLoad .stopped → s.loop.running = false
  error : s.pc ≠ .storeError .stopped

theorem exitCode_stopStep (s : State Src) (i : Nat) :
    (s.stopStep i).loop.exitCode = s.loop.exitCode ∨
      ∃ c, s.stops[i]? = some c ∧ c.pc = .storeCode ∧ (s.stopStep i).loop.exitCode = c.code := by
  cases h : s.stops[i]? with
  | none => left; simp [State.stopStep, h]
  | some c =>
      cases hc : c.pc with
      | storeCode => exact Or.inr ⟨c, rfl, hc, by simp [State.stopStep, h, StopCall.step, hc]⟩
      | _ => left; simp [State.stopStep, h, StopCall.step, hc]

theorem failed_of_moves {a : Action Src} {pc pc' : Pc} (h : Moves a pc pc') (hf : Failed pc') :
    Failed pc ∨ ∃ e, a = .storeError e := by
  cases h with
  | storeError e => exact Or.inr ⟨e, rfl⟩
  | wakeQuiet _ h | drained h => rcases h with rfl | rfl <;> simp [Failed] at hf
  | dispatchNext _ h => rcases h with rfl | rfl | rfl <;> simp [Failed] at hf
  | add | remove | retire | callStop | stopStep => exact Or.inl hf
  | _ => simp [Failed] at hf

theorem inRun_of_moves {a : Action Src} {pc pc' : Pc} (h : Moves a pc pc') (hne : a ≠ .storeRunning)
    (hr : InRun pc') : InRun pc := by
  cases h with
  | storeRunning => exact absurd rfl hne
  | add | remove | retire | callStop | stopStep => exact hr
  | _ => trivial

theorem stopped_of_moves {a : Action Src} {pc : Pc} (h : Moves a pc (.finalLoad .stopped)) :
    pc = .finalLoad .stopped ∨ a = .whileTest ∨ a = .breakTest ∨ a = .storeError .stopped := by
  cases h with
  | leave | breakOut | storeError => simp
  | wakeQuiet _ h | drained h => rcases h with h | h <;> cases h
  | dispatchNext _ h => rcases h with h | h | h <;> cases h
  | add | remove | retire | callStop | stopStep => exact Or.inl rfl

theorem storeError_of_moves {a : Action Src} {pc : Pc} {e : Exit} (h : Moves a pc (.storeError e)) :
    pc = .storeError e ∨ e ≠ .stopped := by
  cases h with
  | pollFailed | dbusThrow => simp
  | wakeQuiet _ h | drained h => rcases h with h | h <;> cases h
  | dispatchNext _ h => rcases h with h | h | h <;> cases h
  | add | remove | retire | callStop | stopStep => exact Or.inl rfl

theorem CodeKept.stopStep {code : Int} {s : State Src} {i : Nat} (h : CodeKept code s)
    (hc : StopCodeIs code s (.stopStep i)) : CodeKept code (s.stopStep i) := by
  cases hd : s.stops[i]? with
  | none => simpa [State.stopStep, hd] using h
  | some d =>
      have hmem : d ∈ s.stops := List.mem_of_getElem? hd
      have hd' : d.pc = .storeCode ∨ d.pc = .storeRunning → d.code = code := hc d hd
      cases hpc : d.pc with
      | storeCode =>
          have hcode : (s.stopStep i).loop.exitCode = code := by
            simpa [State.stopStep, hd, StopCall.step, hpc] using hd' (Or.inl hpc)
          refine ⟨fun _ _ => hcode, fun _ _ _ _ _ => hcode, ?_, by simpa using h.error⟩
          simpa [State.stopStep, hd, StopCall.step, hpc] using h.left
      | storeRunning =>
          -- its code has been stored before, and every later store was of the same code
          have hcode (hr : InRun s.pc) : s.loop.exitCode = code :=
            h.half hr d hmem hpc (hd' (Or.inr hpc))
          refine ⟨fun hr _ => ?_, fun hr _ _ _ _ => ?_, ?_, by simpa using h.error⟩
          · simpa [State.stopStep, hd, StopCall.step, hpc] using hcode (by simpa using hr)
          · simpa [State.stopStep, hd, StopCall.step, hpc] using hcode (by simpa using hr)
          · simp [State.stopStep, hd, StopCall.step, hpc]
      | wake | done =>
          have hmem' (c : StopCall) (hm : c ∈ (s.stopStep i).stops) (hp : c.pc = .storeRunning) :
              c ∈ s.stops := by
            simp only [State.stopStep, hd, StopCall.step, hpc] at hm
            rcases List.mem_or_eq_of_mem_set hm with hm | rfl
            · exact hm
            · simp_all
          refine ⟨?_, fun hr c hm hp hcc => ?_, ?_, by simpa using h.error⟩
          · simpa [State.stopStep, hd, StopCall.step, hpc] using h.flag
          · simpa [State.stopStep, hd, StopCall.step, hpc] using
              h.half (by simpa using hr) c (hmem' c hm hp) hp hcc
          · simpa [State.stopStep, hd, StopCall.step, hpc] using h.left

variable [DecidableEq Src]

theorem errorKept_next (s : State Src) (a : Action Src) (h : ErrorKept s) (he : enabled s a)
    (hc : CodeSafe s a) : ErrorKept (next s a) := by
  intro hf
  have hm := moves_next s a he
  rcases flags_next s a with ⟨-, hcode⟩ | rfl | ⟨i, rfl⟩ | ⟨e, rfl⟩
  · rcases failed_of_moves hm hf with hold | ⟨e, rfl⟩
    · rw [hcode]
      exact h hold
    · simp [next]
  · cases hf <;> simp_all [next]
  · have hold : Failed s.pc := by simpa [next] using hf
    rcases exitCode_stopStep s i with hcode | ⟨c, hm, hpc, hcode⟩
    · rw [next, hcode]
      exact h hold
    · rw [next, hcode]
      exact fun h0 => hc c hm hpc h0 hold
  · simp [next]

theorem codeKept_next {code : Int} (s : State Src) (a : Action Src) (h : CodeKept code s)
    (he : enabled s a) (hne : a ≠ .storeRunning) (hc : StopCodeIs code s a) :
    CodeKept code (next s a) := by
  have hm := moves_next s a he
  have hin : InRun (next s a).pc → InRun s.pc := inRun_of_moves hm hne
  have herr : (next s a).pc ≠ .storeError .stopped := by
    intro hpc
    rw [hpc] at hm
    rcases storeError_of_moves hm with h' | h'
    · exact h.error h'
    · exact h' rfl
  have hleft (hpc : (next s a).pc = .finalLoad .stopped) : (next s a).loop.running = false := by
    rw [hpc] at hm
    rcases stopped_of_moves hm with h' | rfl | rfl | rfl
    · rcases running_next s a hne with hr | hr
      · rw [hr, h.left h']
      · exact hr
    · by_cases hr : s.loop.running = true
      · simp [next, hr] at hpc
      · simpa [next] using hr
    · by_cases hr : s.loop.running = true
      · simp [next, hr] at hpc
      · simpa [next] using hr
    · exact absurd he h.error
  rcases flags_next s a with ⟨hrun, hcode⟩ | rfl | ⟨i, rfl⟩ | ⟨e, rfl⟩
  · refine ⟨fun hr hf => ?_, fun hr c hmem hp hcc => ?_, hleft, herr⟩
    · rw [hcode]
      exact h.flag (hin hr) (hrun ▸ hf)
    · rw [hcode]
      rcases stops_next s a with hs | ⟨d, rfl⟩ | ⟨i, rfl⟩
      · exact h.half (hin hr) c (hs ▸ hmem) hp hcc
      · rcases List.mem_append.1 hmem with hmem | hmem
        · exact h.half (hin hr) c hmem hp hcc
        · simp_all
      · exact hcode ▸ (h.stopStep hc).half hr c hmem hp hcc
  · exact absurd rfl hne
  · exact h.stopStep hc
  · -- the error exits are not part of the run any more
    have hout : ¬ InRun (next s (.storeError e)).pc := by
      cases e with
      | stopped => exact absurd he h.error
      | pollFailed | dbusError => simp [next, InRun]
    exact ⟨fun hr => absurd hr hout, fun hr => absurd hr hout, hleft, herr⟩

/-- What the caller of run() is promised about the value it gets, for the run
whose initial store comes after `as₁` and whose final load comes after `as₂`. -/
def ReturnsCode (wakeFd : Int) (as₁ as₂ : List (Action Src)) (e : Exit) : Prop :=
  ∃ v, ((system Src).after (initial wakeFd)
      (as₁ ++ .storeRunning :: (as₂ ++ [.finalLoad e]))).pc = .returned e v ∧
    (e ≠ .stopped → v ≠ 0) ∧
    (e = .stopped → ∀ code,
      (system Src).Along (StopCodeIs code)
        ((system Src).after (initial wakeFd) (as₁ ++ [.storeRunning])) as₂ → v = code)

theorem codeKept_entry {code : Int} {s : State Src} (hc : CodeSafe s .storeRunning) :
    CodeKept code (next s (.storeRunning : Action Src)) := by
  refine ⟨by simp [next], fun _ c hm hp hcode => ?_, by simp [next], by simp [next]⟩
  rw [← hcode]
  exact (hc c hm hp).symm

/-- The value returned is right in every run that meets `CodeSafe` at each step. -/
theorem returns_code (wakeFd : Int) (as₁ as₂ : List (Action Src)) (e : Exit)
    (hv : (system Src).Valid (initial wakeFd) (as₁ ++ .storeRunning :: (as₂ ++ [.finalLoad e])))
    (hone : .storeRunning ∉ as₂)
    (hc : (system Src).Along CodeSafe (initial wakeFd)
      (as₁ ++ .storeRunning :: (as₂ ++ [.finalLoad e]))) :
    ReturnsCode wakeFd as₁ as₂ e := by
  rw [System.valid_append, System.valid_cons, System.valid_append] at hv
  rw [System.along_append, System.along_cons, System.along_append] at hc
  obtain ⟨hv₁, hve, hv₂, hvf, -⟩ := hv
  obtain ⟨hc₁, hce, hc₂, hcf, -⟩ := hc
  have hpc : ((system Src).after (next ((system Src).after (initial wakeFd) as₁)
      .storeRunning) as₂).pc = .finalLoad e := hvf
  have herr : ErrorKept ((system Src).after (next ((system Src).after (initial wakeFd) as₁)
      .storeRunning) as₂) := by
    have h0 : ErrorKept (initial wakeFd : State Src) := by simp [ErrorKept, Failed, initial]
    have h1 := (system Src).invariant_along errorKept_next h0 hv₁ hc₁
    exact (system Src).invariant_along errorKept_next (errorKept_next _ _ h1 hve hce) hv₂ hc₂
  refine ⟨_, by rw [System.after_append, System.after_cons, System.after_append]; rfl, ?_, ?_⟩
  · intro hne
    refine herr ?_
    cases e with
    | stopped => exact absurd rfl hne
    | pollFailed => exact Or.inl hpc
    | dbusError => exact Or.inr hpc
  · rintro rfl code hcodes
    rw [System.after_append] at hcodes
    have hne : (system Src).Along (fun _ a => a ≠ .storeRunning)
        (next ((system Src).after (initial wakeFd) as₁) .storeRunning) as₂ :=
      ((system Src).along_action_iff _ as₂).2 fun a ha h => hone (h ▸ ha)
    have h := (system Src).invariant_along
      (fun s a h he (hp : a ≠ .storeRunning ∧ StopCodeIs code s a) =>
        codeKept_next s a h he hp.1 hp.2)
      (codeKept_entry hce) hv₂ (hne.and _ hcodes)
    exact h.flag (hpc ▸ trivial) (h.left hpc)

theorem returns_code_stop_seven :
    ReturnsCode 3 ([.callRun] : List (Action Nat))
      [.whileTest, .applyPending, .breakTest,
        .buildPollSet ⟨5, POLLIN, -1⟩ (fun _ => (0, 0)), .callStop 7, .stopStep 0, .stopStep 0,
        .stopStep 0, .poll (.ready [0, POLLIN]), .drain, .drain, .dispatchNext 0, .whileTest]
      .stopped :=
  returns_code 3 _ _ _ (by decide) (by simp) (by decide)

/-- A stop(0) that stores its code after poll() has failed and before the
final load turns the failure into a success. -/
theorem failure_returned_as_zero :
    ¬ ∀ (wakeFd : Int) (as₁ as₂ : List (Action Nat)) (e : Exit),
      (system Nat).Valid (initial wakeFd) (as₁ ++ .storeRunning :: (as₂ ++ [.finalLoad e])) →
      .storeRunning ∉ as₂ → ReturnsCode wakeFd as₁ as₂ e := by
  intro h
  obtain ⟨v, hpc, hv, -⟩ := h 3 [.callRun]
    [.whileTest, .applyPending, .breakTest, .buildPollSet ⟨5, POLLIN, -1⟩ (fun _ => (0, 0)),
      .poll (.failed false), .storeError .pollFailed, .callStop 0, .stopStep 0]
    .pollFailed (by decide) (by simp)
  have h0 : Pc.returned .pollFailed 0 = .returned .pollFailed v := hpc
  simp only [Pc.returned.injEq, true_and] at h0
  exact hv (by decide) h0.symm

end SdbusExamples.LoopExitCode
