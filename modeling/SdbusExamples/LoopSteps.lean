import SdbusExamples.LoopRun

namespace SdbusExamples.LoopSteps

open LoopQueues LoopRun Runs

variable {Src : Type}

/-- The control flow of the thread of run(), with the data left out. -/
inductive Moves : Action Src → Pc → Pc → Prop
  | callRun {pc : Pc} (h : pc.idle = true) : Moves .callRun pc .storeRunning
  | storeRunning : Moves .storeRunning .storeRunning .whileTest
  | iterate : Moves .whileTest .whileTest .applyPending
  | leave : Moves .whileTest .whileTest (.finalLoad .stopped)
  | applyPending : Moves .applyPending .applyPending .breakTest
  | goOn : Moves .breakTest .breakTest .buildPollSet
  | breakOut : Moves .breakTest .breakTest (.finalLoad .stopped)
  | buildPollSet (pd : PollData) (view : Src → Int × Short) :
      Moves (.buildPollSet pd view) .buildPollSet .polling
  | eintr : Moves (.poll (.failed true)) .polling .whileTest
  | pollFailed : Moves (.poll (.failed false)) .polling (.storeError .pollFailed)
  | wakeReady (revents : List Short) : Moves (.poll (.ready revents)) .polling .draining
  | wakeQuiet (revents : List Short) {pc : Pc} (h : pc = .processing ∨ pc = .dispatching 0) :
      Moves (.poll (.ready revents)) .polling pc
  | drain : Moves .drain .draining .draining
  | drained {pc : Pc} (h : pc = .processing ∨ pc = .dispatching 0) : Moves .drain .draining pc
  | processed : Moves .processed .processing (.dispatching 0)
  | dbusThrow : Moves .dbusThrow .processing (.storeError .dbusError)
  | dispatchNext (i : Nat) {pc : Pc}
      (h : pc = .dispatching (i + 1) ∨ pc = .inDispatch i ∨ pc = .whileTest) :
      Moves (.dispatchNext i) (.dispatching i) pc
  | dispatchReturn (i : Nat) : Moves (.dispatchReturn i) (.inDispatch i) (.dispatching (i + 1))
  | storeError (e : Exit) : Moves (.storeError e) (.storeError e) (.finalLoad e)
  | finalLoad (e : Exit) (code : Int) : Moves (.finalLoad e) (.finalLoad e) (.returned e code)
  | add (p : Src) {pc : Pc} (h : pc.callback = true) : Moves (.add p) pc pc
  | remove (p : Src) {pc : Pc} (h : pc.callback = true) : Moves (.remove p) pc pc
  | retire (p : Src) {pc : Pc} (h : pc.callback = true) : Moves (.retire p) pc pc
  | callStop (code : Int) (pc : Pc) : Moves (.callStop code) pc pc
  | stopStep (i : Nat) (pc : Pc) : Moves (.stopStep i) pc pc
  | destroy {pc : Pc} (h : pc.idle = true) : Moves .destroy pc .destroyed

theorem stops_stopStep (s : State Src) (i j : Nat) :
    (s.stopStep j).stops[i]? =
      if i = j then s.stops[i]?.map (fun c => (c.step s.loop).1) else s.stops[i]? := by
  cases h : s.stops[j]? with
  | none =>
      by_cases hij : i = j
      · subst hij; simp [State.stopStep, h]
      · simp [State.stopStep, h, hij]
  | some c =>
      obtain ⟨hj, -⟩ := List.getElem?_eq_some_iff.1 h
      by_cases hij : i = j
      · subst hij; simp [State.stopStep, hj]
      · simp [State.stopStep, h, hij, List.getElem?_set_ne (Ne.symm hij)]

theorem running_stopStep (s : State Src) (j : Nat) :
    (s.stopStep j).loop.running = s.loop.running ∨ (s.stopStep j).loop.running = false := by
  cases h : s.stops[j]? with
  | none => left; simp [State.stopStep, h]
  | some c => cases hc : c.pc <;> simp [State.stopStep, h, StopCall.step, hc]

structure SameQueues (l l' : EventLoop Src) : Prop where
  sources : l'.sources = l.sources
  toAdd : l'.toAdd = l.toAdd
  toRemove : l'.toRemove = l.toRemove
  toRetire : l'.toRetire = l.toRetire

variable [DecidableEq Src]

theorem moves_next (s : State Src) (a : Action Src) (he : enabled s a) :
    Moves a s.pc (next s a).pc := by
  cases a with
  | callRun => exact .callRun he
  | storeRunning =>
      have hpc : s.pc = .storeRunning := he
      exact hpc ▸ .storeRunning
  | whileTest =>
      have hpc : s.pc = .whileTest := he
      rw [hpc]
      simp only [next]
      split_ifs
      · exact .iterate
      · exact .leave
  | applyPending =>
      have hpc : s.pc = .applyPending := he
      exact hpc ▸ .applyPending
  | breakTest =>
      have hpc : s.pc = .breakTest := he
      rw [hpc]
      simp only [next]
      split_ifs
      · exact .goOn
      · exact .breakOut
  | buildPollSet pd view =>
      have hpc : s.pc = .buildPollSet := he
      exact hpc ▸ .buildPollSet pd view
  | poll r =>
      cases r with
      | failed eintr =>
          have hpc : s.pc = .polling := he
          rw [hpc]
          cases eintr
          · exact .pollFailed
          · exact .eintr
      | ready revents =>
          have hpc : s.pc = .polling := he.1
          rw [hpc]
          simp only [next]
          split_ifs
          · exact .wakeReady revents
          · exact .wakeQuiet revents (afterDrain_eq _)
  | drain =>
      have hpc : s.pc = .draining := he
      rcases s.drain_pc with h | h
      · simpa [next, h, hpc] using Moves.drain
      · rw [hpc]
        exact h ▸ .drained (afterDrain_eq _)
  | processed =>
      have hpc : s.pc = .processing := he
      exact hpc ▸ .processed
  | dbusThrow =>
      have hpc : s.pc = .processing := he
      exact hpc ▸ .dbusThrow
  | dispatchNext i =>
      obtain ⟨pc, h, hmove⟩ := s.dispatchNext_eq i
      have hpc : s.pc = .dispatching i := he
      rw [hpc, next, h]
      exact .dispatchNext i hmove
  | dispatchReturn i =>
      have hpc : s.pc = .inDispatch i := he
      rw [hpc]
      exact .dispatchReturn i
  | storeError e =>
      have hpc : s.pc = .storeError e := he
      exact hpc ▸ .storeError e
  | finalLoad e =>
      have hpc : s.pc = .finalLoad e := he
      exact hpc ▸ .finalLoad e _
  | add p => exact .add p he
  | remove p => exact .remove p he
  | retire p => exact .retire p he
  | callStop code => exact .callStop code s.pc
  | stopStep i =>
      rw [next, s.stopStep_pc]
      exact .stopStep i s.pc
  | destroy => exact .destroy he

theorem stops_next (s : State Src) (a : Action Src) :
    (next s a).stops = s.stops ∨ (∃ c, a = .callStop c) ∨ ∃ j, a = .stopStep j := by
  cases a with
  | callStop c => exact Or.inr (Or.inl ⟨c, rfl⟩)
  | stopStep j => exact Or.inr (Or.inr ⟨j, rfl⟩)
  | poll r => cases r <;> exact Or.inl rfl
  | drain =>
      left
      simp only [next, State.drain]
      split_ifs <;> rfl
  | dispatchNext j =>
      obtain ⟨pc, h, -⟩ := s.dispatchNext_eq j
      simp [next, h]
  | dispatchReturn j =>
      rcases s.dispatchReturn_eq j with h | ⟨p, -, h⟩ <;> simp [next, h]
  | _ => exact Or.inl rfl

theorem flags_next (s : State Src) (a : Action Src) :
    ((next s a).loop.running = s.loop.running ∧ (next s a).loop.exitCode = s.loop.exitCode) ∨
      a = .storeRunning ∨ (∃ j, a = .stopStep j) ∨ ∃ e, a = .storeError e := by
  cases a with
  | storeRunning => exact Or.inr (Or.inl rfl)
  | stopStep j => exact Or.inr (Or.inr (Or.inl ⟨j, rfl⟩))
  | storeError e => exact Or.inr (Or.inr (Or.inr ⟨e, rfl⟩))
  | poll r => cases r <;> exact Or.inl ⟨rfl, rfl⟩
  | drain =>
      left
      simp only [next, State.drain]
      split_ifs <;> exact ⟨rfl, rfl⟩
  | dispatchNext j =>
      obtain ⟨pc, h, -⟩ := s.dispatchNext_eq j
      simp [next, h]
  | dispatchReturn j =>
      rcases s.dispatchReturn_eq j with h | ⟨p, -, h⟩ <;> simp [next, h]
  | add p | remove p | retire p => left; simp [next]
  | _ => exact Or.inl ⟨rfl, rfl⟩

theorem running_next (s : State Src) (a : Action Src) (hne : a ≠ .storeRunning) :
    (next s a).loop.running = s.loop.running ∨ (next s a).loop.running = false := by
  rcases flags_next s a with ⟨h, -⟩ | rfl | ⟨j, rfl⟩ | ⟨e, rfl⟩
  · exact Or.inl h
  · exact absurd rfl hne
  · exact running_stopStep s j
  · exact Or.inl rfl

theorem queues_next (s : State Src) (a : Action Src) :
    SameQueues s.loop (next s a).loop ∨
      (a = .applyPending ∧ (next s a).loop = s.loop.applyPending) ∨
      (∃ p, a = .add p ∧ (next s a).loop = s.loop.add p) ∨
      (∃ p, (a = .remove p ∨ ∃ i, a = .dispatchReturn i ∧ s.loop.sources[i]? = some p) ∧
        (next s a).loop = s.loop.remove p) ∨
      (∃ p, a = .retire p ∧ (next s a).loop = s.loop.retire p) ∨
      (a = .destroy ∧ (next s a).loop = { s.loop with toRetire := [] }) := by
  cases a with
  | applyPending => exact Or.inr (Or.inl ⟨rfl, rfl⟩)
  | add p => exact Or.inr (Or.inr (Or.inl ⟨p, rfl, rfl⟩))
  | remove p => exact Or.inr (Or.inr (Or.inr (Or.inl ⟨p, Or.inl rfl, rfl⟩)))
  | retire p => exact Or.inr (Or.inr (Or.inr (Or.inr (Or.inl ⟨p, rfl, rfl⟩))))
  | destroy => exact Or.inr (Or.inr (Or.inr (Or.inr (Or.inr ⟨rfl, rfl⟩))))
  | poll r => cases r <;> exact Or.inl ⟨rfl, rfl, rfl, rfl⟩
  | drain =>
      left
      simp only [next, State.drain]
      split_ifs <;> exact ⟨rfl, rfl, rfl, rfl⟩
  | dispatchNext j =>
      obtain ⟨pc, h, -⟩ := s.dispatchNext_eq j
      left
      rw [next, h]
      exact ⟨rfl, rfl, rfl, rfl⟩
  | dispatchReturn j =>
      rcases s.dispatchReturn_eq j with h | ⟨p, hp, h⟩
      · left
        rw [next, h]
        exact ⟨rfl, rfl, rfl, rfl⟩
      · refine Or.inr (Or.inr (Or.inr (Or.inl ⟨p, Or.inr ⟨j, rfl, hp⟩, ?_⟩)))
        rw [next, h]
  | stopStep j =>
      left
      cases h : s.stops[j]? with
      | none => rw [next, State.stopStep, h]; exact ⟨rfl, rfl, rfl, rfl⟩
      | some c =>
          rw [next, State.stopStep, h]
          cases hc : c.pc <;> constructor <;> simp [StopCall.step, hc]
  | _ => exact Or.inl ⟨rfl, rfl, rfl, rfl⟩

theorem sources_next (s : State Src) (a : Action Src) (hne : a ≠ .applyPending) :
    (next s a).loop.sources = s.loop.sources := by
  rcases queues_next s a with h | ⟨rfl, -⟩ | ⟨p, -, h⟩ | ⟨p, -, h⟩ | ⟨p, -, h⟩ | ⟨-, h⟩
  · exact h.sources
  · exact absurd rfl hne
  all_goals simp [h]

theorem nodup_next (s : State Src) (a : Action Src) (h : s.loop.sources.Nodup) :
    (next s a).loop.sources.Nodup := by
  by_cases ha : a = .applyPending
  · subst ha
    exact s.loop.applyPending_nodup h
  · rw [sources_next s a ha]
    exact h

end SdbusExamples.LoopSteps
