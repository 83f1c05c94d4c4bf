import SdbusExamples.LoopRun

namespace SdbusExamples.LoopWakeup

open LoopQueues LoopRun Runs

variable {Src : Type}

def BeforePoll (pc : Pc) : Prop := pc = .breakTest ∨ pc = .buildPollSet ∨ pc = .polling

def QueuesEmpty (l : EventLoop Src) : Prop := l.toAdd = [] ∧ l.toRemove = [] ∧ l.toRetire = []

/-- Once the second test of running_ has passed, a stop() that has cleared
the flag has also signalled the eventfd, or is about to. -/
structure Signalled (s : State Src) : Prop where
  wakeFd : 0 ≤ s.loop.wakeFd
  queues : BeforePoll s.pc → QueuesEmpty s.loop
  signal : s.pc = .buildPollSet ∨ s.pc = .polling → s.loop.running = false →
    0 < s.loop.counter ∨ ∃ c ∈ s.stops, c.pc = .wake

def Blocked (s : State Src) : Prop := s.pc = .polling ∧ s.loop.counter = 0

/-- The loop sleeps although all calls of stop() have finished and one of them
has cleared running_, or although a registration is queued. -/
def LostWakeup (s : State Src) : Prop :=
  Blocked s ∧ ((s.loop.running = false ∧ ∀ c ∈ s.stops, c.pc = .done) ∨ ¬ QueuesEmpty s.loop)

theorem Signalled.elsewhere {s t : State Src} (hs : Signalled s)
    (hf : t.loop.wakeFd = s.loop.wakeFd) (hpc : ¬ BeforePoll t.pc) : Signalled t := by
  refine ⟨hf ▸ hs.wakeFd, fun h => absurd h hpc, fun h => ?_⟩
  exact absurd (Or.inr h) hpc

theorem Signalled.stopStep {s : State Src} {i : Nat} (hs : Signalled s)
    (hi : i < s.stops.length) : Signalled (s.stopStep i) := by
  rw [s.stopStep_of_lt hi]
  have hmem (c : StopCall) : c ∈ s.stops.set i c := List.mem_set hi c
  cases hc : s.stops[i].pc with
  | storeCode =>
      refine ⟨?_, ?_, ?_⟩
      · simpa [StopCall.step, hc] using hs.wakeFd
      · simpa [StopCall.step, hc, QueuesEmpty] using hs.queues
      · intro hpc hr
        simp only [StopCall.step, hc] at hr ⊢
        rcases hs.signal hpc hr with h | ⟨c, hm, hw⟩
        · exact Or.inl h
        · have hne : c ≠ s.stops[i] := by rintro rfl; rw [hc] at hw; cases hw
          obtain ⟨j, hj, rfl⟩ := List.mem_iff_getElem.1 hm
          have hij : i ≠ j := by rintro rfl; exact hne rfl
          exact Or.inr ⟨_, List.mem_iff_getElem.2
            ⟨j, by simpa using hj, by rw [List.getElem_set_ne hij]⟩, hw⟩
  | storeRunning =>
      refine ⟨?_, ?_, fun _ _ => Or.inr ⟨_, hmem _, ?_⟩⟩
      · simpa [StopCall.step, hc] using hs.wakeFd
      · simpa [StopCall.step, hc, QueuesEmpty] using hs.queues
      · simp [StopCall.step, hc]
  | wake =>
      refine ⟨?_, ?_, fun _ _ => Or.inl ?_⟩
      · simpa [StopCall.step, hc] using hs.wakeFd
      · simpa [StopCall.step, hc, QueuesEmpty] using hs.queues
      · simpa [StopCall.step, hc] using s.loop.wake_counter_pos hs.wakeFd
  | done =>
      have hset : s.stops.set i s.stops[i] = s.stops := List.set_getElem_self hi
      simpa [StopCall.step, hc, hset] using hs

theorem Signalled.not_lostWakeup {s : State Src} (hs : Signalled s) : ¬ LostWakeup s := by
  rintro ⟨⟨hpc, hc⟩, ⟨hr, hd⟩ | hq⟩
  · rcases hs.signal (Or.inr hpc) hr with hpos | ⟨c, hm, hw⟩
    · omega
    · rw [hd c hm] at hw
      cases hw
  · exact hq (hs.queues (Or.inr (Or.inr hpc)))

variable [DecidableEq Src]

theorem signalled_next (s : State Src) (a : Action Src) (hs : Signalled s) (he : enabled s a) :
    Signalled (next s a) := by
  cases a with
  | callRun => exact hs.elsewhere rfl (by simp [BeforePoll, next])
  | storeRunning => exact hs.elsewhere rfl (by simp [BeforePoll, next])
  | whileTest => exact hs.elsewhere rfl (by simp only [next]; split_ifs <;> simp [BeforePoll])
  | applyPending =>
      exact ⟨hs.wakeFd, fun _ => ⟨rfl, rfl, rfl⟩, by simp [next]⟩
  | breakTest =>
      have hq : QueuesEmpty s.loop := hs.queues (Or.inl he)
      refine ⟨hs.wakeFd, fun _ => hq, fun hpc hr => ?_⟩
      have hr : s.loop.running = false := hr
      simp [next, hr] at hpc
  | buildPollSet pd view =>
      exact ⟨hs.wakeFd, fun _ => hs.queues (Or.inr (Or.inl he)),
        fun _ => hs.signal (Or.inl he)⟩
  | poll r =>
      cases r with
      | failed eintr => exact hs.elsewhere rfl (by simp only [next]; split_ifs <;> simp [BeforePoll])
      | ready revents =>
          refine hs.elsewhere rfl ?_
          rcases afterDrain_eq (s.polled.report revents) with h | h <;>
            simp only [next, h] <;> split_ifs <;> simp [BeforePoll]
  | drain =>
      have hpc : s.pc = .draining := he
      refine hs.elsewhere (by simp only [next, State.drain]; split_ifs <;> rfl) ?_
      rcases s.drain_pc with h | h
      · simp [BeforePoll, next, h, hpc]
      · rcases afterDrain_eq s.polled with h' | h' <;> simp [BeforePoll, next, h, h']
  | processed => exact hs.elsewhere rfl (by simp [BeforePoll, next])
  | dbusThrow => exact hs.elsewhere rfl (by simp [BeforePoll, next])
  | dispatchNext i =>
      obtain ⟨pc, h, hpc⟩ := s.dispatchNext_eq i
      refine hs.elsewhere (by simp [next, h]) ?_
      rcases hpc with rfl | rfl | rfl <;> simp [BeforePoll, next, h]
  | dispatchReturn i =>
      rcases s.dispatchReturn_eq i with h | ⟨p, -, h⟩
      · exact hs.elsewhere (by simp [next, h]) (by simp [BeforePoll, next, h])
      · exact hs.elsewhere (by simp [next, h]) (by simp [BeforePoll, next, h])
  | storeError e => exact hs.elsewhere rfl (by simp [BeforePoll, next])
  | finalLoad e => exact hs.elsewhere rfl (by simp [BeforePoll, next])
  | add p | remove p | retire p =>
      have hpc : ¬ BeforePoll s.pc := by
        have he : s.pc.callback = true := he
        rintro (h | h | h) <;> simp [h, Pc.callback] at he
      exact hs.elsewhere (by simp [next]) hpc
  | callStop c =>
      refine ⟨hs.wakeFd, hs.queues, fun hpc hr => ?_⟩
      rcases hs.signal hpc hr with h | ⟨d, hm, hw⟩
      · exact Or.inl h
      · exact Or.inr ⟨d, List.mem_append_left _ hm, hw⟩
  | stopStep i => exact hs.stopStep he.1
  | destroy => exact hs.elsewhere rfl (by simp [BeforePoll, next])

/-- From the initial store of run() on, whatever the stopping threads and the
callbacks do, no wake-up is lost. -/
theorem no_lost_wakeup (s : State Src) (as : List (Action Src)) (hw : 0 ≤ s.loop.wakeFd)
    (hv : (system Src).Valid s (.storeRunning :: as)) :
    ¬ LostWakeup ((system Src).after s (.storeRunning :: as)) := by
  have h0 : Signalled (next s (.storeRunning : Action Src)) :=
    ⟨hw, by simp [BeforePoll, next], by simp [next]⟩
  have h := (system Src).invariant signalled_next h0 hv.2
  exact h.not_lostWakeup

/-- One stop() is half-way when the loop goes to sleep, and then signals it. -/
theorem no_lost_wakeup_half_way :
    ¬ LostWakeup ((system Nat).after
      { initial 3 with pc := .storeRunning, stops := [⟨0, .storeRunning⟩] }
      [.storeRunning, .whileTest, .applyPending, .breakTest,
        .buildPollSet ⟨5, POLLIN, -1⟩ (fun _ => (0, 0)), .stopStep 0, .stopStep 0]) :=
  no_lost_wakeup _ _ (by decide) (by decide)

end SdbusExamples.LoopWakeup
