import SdbusExamples.LoopSteps
import Mathlib.Logic.Function.Basic

namespace SdbusExamples.LoopLifetime

open LoopQueues LoopRun LoopSteps Runs

variable {Src : Type}

/-- What a caller of add() still owes the loop for a source: to keep it alive
until it is removed, or until the iteration after its remove(). -/
inductive Hold
  | free
  | kept
  | leaving
deriving DecidableEq

/-- The event loop among the objects its callers create. `retired` and
`destroyed` are the histories of retire() and of the destructions by the loop. -/
structure World (Src : Type) where
  sys : State Src
  live : List Src
  hold : Src → Hold
  inPollSet : List Src
  retired : List Src
  destroyed : List Src

inductive Act (Src : Type)
  | new (p : Src)
  | delete (p : Src)
  | step (a : Action Src)

def inPass : Pc → Bool
  | .polling | .draining | .processing | .dispatching _ | .inDispatch _ => true
  | _ => false

theorem ne_destroyed_of_enabled {s : State Src} {a : Action Src} (h : LoopRun.enabled s a) :
    s.pc ≠ .destroyed := by
  intro hpc
  cases a with
  | poll r => cases r <;> simp [LoopRun.enabled, hpc] at h
  | _ => simp [LoopRun.enabled, hpc, Pc.idle, Pc.callback] at h

theorem inPass_of_moves {a : Action Src} {pc pc' : Pc} (h : Moves a pc pc')
    (hp : inPass pc' = true) :
    (∃ pd view, a = .buildPollSet pd view) ∨ (inPass pc = true ∧ a ≠ .applyPending) := by
  cases h with
  | buildPollSet pd view => exact Or.inl ⟨pd, view, rfl⟩
  | callRun | storeRunning | iterate | leave | applyPending | goOn | breakOut | eintr | pollFailed
  | dbusThrow | storeError | finalLoad | destroy => cases hp
  | wakeReady | wakeQuiet | drain | drained | processed | dispatchNext | dispatchReturn =>
      exact Or.inr ⟨rfl, by simp⟩
  | add | remove | retire | callStop | stopStep => exact Or.inr ⟨hp, by simp⟩

def callees (s : State Src) : Action Src → List Src
  | .buildPollSet _ _ => s.loop.sources
  | .dispatchNext i => if s.sourceRevents i = 0 then [] else s.loop.sources[i]?.toList
  | _ => []

structure Owned (w : World Src) : Prop where
  nodup : w.sys.loop.sources.Nodup
  retiring_nodup : w.sys.loop.toRetire.Nodup
  retiring : ∀ p ∈ w.sys.loop.toRetire, p ∈ w.live ∧ p ∈ w.sys.loop.toRemove
  leaving : ∀ p, w.hold p = .leaving → p ∈ w.sys.loop.toRemove
  held : ∀ p, w.hold p ≠ .free → p ∈ w.live ∧ p ∉ w.sys.loop.toRetire
  known : w.sys.pc ≠ .destroyed → ∀ p, p ∈ w.sys.loop.sources ∨ p ∈ w.sys.loop.toAdd →
    p ∈ w.sys.loop.toRetire ∨ w.hold p ≠ .free

structure Removes (l l' : EventLoop Src) (ps : List Src) : Prop where
  sources : l'.sources = l.sources
  toAdd : l'.toAdd = l.toAdd
  toRemove : l'.toRemove = l.toRemove ++ ps
  toRetire : l'.toRetire = l.toRetire

/-- The books of the loop: what it was given to destroy, it has destroyed once
and in order, or still holds. -/
structure Accounted (w : World Src) : Prop where
  retired : w.retired = w.destroyed ++ w.sys.loop.toRetire
  polled : inPass w.sys.pc = true → w.inPollSet = w.sys.loop.sources

theorem Accounted.of_removes {w w' : World Src} (h : Accounted w) {ps : List Src}
    (hq : Removes w.sys.loop w'.sys.loop ps) (hr : w'.retired = w.retired)
    (hd : w'.destroyed = w.destroyed) : w'.retired = w'.destroyed ++ w'.sys.loop.toRetire := by
  rw [hr, hd, hq.toRetire]
  exact h.retired

theorem Owned.sources_live {w : World Src} (h : Owned w) (hpc : w.sys.pc ≠ .destroyed) {p : Src}
    (hp : p ∈ w.sys.loop.sources) : p ∈ w.live := by
  rcases h.known hpc p (Or.inl hp) with hr | hheld
  · exact (h.retiring p hr).1
  · exact (h.held p hheld).1

theorem mem_sources_of_mem_callees {s : State Src} {a : Action Src} {p : Src}
    (h : p ∈ callees s a) : p ∈ s.loop.sources := by
  cases a with
  | buildPollSet pd view => exact h
  | dispatchNext i =>
      rw [callees] at h
      split_ifs at h
      · cases h
      · exact List.mem_of_getElem? (Option.mem_toList.1 h)
  | _ => cases h

structure Safe (w : World Src) : Prop where
  nodup : w.sys.loop.sources.Nodup
  pending : w.sys.loop.toRetire.Nodup ∧ ∀ p ∈ w.sys.loop.toRetire, p ∈ w.live
  accounted : w.retired = w.destroyed ++ w.sys.loop.toRetire
  polled : inPass w.sys.pc = true → ∀ p ∈ w.inPollSet, p ∈ w.live

theorem safe_of_owned {w : World Src} (h : Owned w) (ha : Accounted w) : Safe w := by
  refine ⟨h.nodup, ⟨h.retiring_nodup, fun p hp => (h.retiring p hp).1⟩, ha.retired, ?_⟩
  intro hpass p hp
  rw [ha.polled hpass] at hp
  refine h.sources_live ?_ hp
  intro hpc
  simp [hpc, inPass] at hpass

variable [DecidableEq Src]

def leave (hold : Src → Hold) (removed : List Src) (p : Src) : Hold :=
  if p ∈ removed ∧ hold p = .kept then .leaving else hold p

def release (hold : Src → Hold) (p : Src) : Hold :=
  if hold p = .leaving then .free else hold p

def removedBy (s : State Src) (a : Action Src) : List Src :=
  (LoopRun.next s a).loop.toRemove.drop s.loop.toRemove.length

/-- A caller hands only live objects to add() and retire(), and none that it retired before. -/
def owns (w : World Src) : Action Src → Bool
  | .add p | .retire p => p ∈ w.live ∧ p ∉ w.sys.loop.toRetire
  | _ => true

def enabled (w : World Src) : Act Src → Prop
  | .new p => p ∉ w.live
  | .delete p => p ∈ w.live ∧ p ∉ w.sys.loop.toRetire ∧ w.hold p = .free
  | .step a => LoopRun.enabled w.sys a ∧ owns w a = true

def next (w : World Src) : Act Src → World Src
  | .new p => { w with live := p :: w.live }
  | .delete p => { w with live := w.live.filter (· ≠ p) }
  | .step a =>
      let w' := { w with sys := LoopRun.next w.sys a }
      match a with
      | .add p => { w' with hold := Function.update w.hold p .kept }
      | .retire p =>
          { w' with hold := Function.update w.hold p .free, retired := w.retired ++ [p] }
      | .applyPending =>
          { w' with
            live := w.live.filter (· ∉ w.sys.loop.toRetire)
            hold := release w.hold
            destroyed := w.destroyed ++ w.sys.loop.toRetire }
      | .destroy =>
          { w' with
            live := w.live.filter (· ∉ w.sys.loop.toRetire)
            destroyed := w.destroyed ++ w.sys.loop.toRetire }
      | .buildPollSet _ _ => { w' with inPollSet := w.sys.loop.sources }
      | _ => { w' with hold := leave w.hold (removedBy w.sys a) }

def system (Src : Type) [DecidableEq Src] : System (World Src) (Act Src) := ⟨enabled, next⟩

def initial (wakeFd : Int) : World Src := ⟨LoopRun.initial wakeFd, [], fun _ => .free, [], [], []⟩

instance : ∀ (w : World Src) (a : Act Src), Decidable ((system Src).enabled w a)
  | w, .new p => inferInstanceAs (Decidable (p ∉ w.live))
  | w, .delete p =>
      inferInstanceAs (Decidable (p ∈ w.live ∧ p ∉ w.sys.loop.toRetire ∧ w.hold p = .free))
  | w, .step a => inferInstanceAs (Decidable (LoopRun.enabled w.sys a ∧ owns w a = true))

def plain : Action Src → Bool
  | .applyPending | .add _ | .retire _ | .destroy => false
  | _ => true

theorem removes_next (s : State Src) (a : Action Src) (ha : plain a = true) :
    Removes s.loop (LoopRun.next s a).loop (removedBy s a) := by
  rw [removedBy]
  rcases queues_next s a with h | ⟨rfl, -⟩ | ⟨p, rfl, -⟩ | ⟨p, -, h⟩ | ⟨p, rfl, -⟩ | ⟨rfl, -⟩
  · exact ⟨h.sources, h.toAdd, by simp [h.toRemove], h.toRetire⟩
  · cases ha
  · cases ha
  · rw [h]
    exact ⟨by simp, by simp, by simp, by simp⟩
  · cases ha
  · cases ha

namespace Owned

theorem of_removes {w w' : World Src} (h : Owned w) (hpc : w.sys.pc ≠ .destroyed) {ps : List Src}
    (hq : Removes w.sys.loop w'.sys.loop ps) (hlive : w'.live = w.live)
    (hhold : w'.hold = leave w.hold ps) : Owned w' := by
  have hfree : ∀ p, w'.hold p = .free ↔ w.hold p = .free := by
    intro p
    rw [hhold, leave]
    split_ifs with hp
    · simp [hp.2]
    · rfl
  constructor
  · rw [hq.sources]
    exact h.nodup
  · rw [hq.toRetire]
    exact h.retiring_nodup
  · rw [hq.toRetire, hq.toRemove, hlive]
    intro p hp
    exact ⟨(h.retiring p hp).1, List.mem_append_left _ (h.retiring p hp).2⟩
  · intro p hp
    rw [hq.toRemove]
    rw [hhold, leave] at hp
    split_ifs at hp with hr
    · exact List.mem_append_right _ hr.1
    · exact List.mem_append_left _ (h.leaving p hp)
  · intro p hp
    rw [hq.toRetire, hlive]
    exact h.held p fun hp' => hp ((hfree p).2 hp')
  · intro _ p hp
    rw [hq.sources, hq.toAdd] at hp
    rw [hq.toRetire]
    exact (h.known hpc p hp).imp_right fun hp' hfr => hp' ((hfree p).1 hfr)

theorem add {w : World Src} (h : Owned w) (hpc : w.sys.pc ≠ .destroyed) {p : Src}
    (hp : p ∈ w.live ∧ p ∉ w.sys.loop.toRetire) : Owned (next w (.step (.add p))) := by
  constructor
  · simpa [next, LoopRun.next] using h.nodup
  · simpa [next, LoopRun.next] using h.retiring_nodup
  · simpa [next, LoopRun.next] using h.retiring
  · intro q hq
    by_cases hqp : q = p
    · subst hqp
      simp [next] at hq
    · simpa [next, LoopRun.next] using h.leaving q (by simpa [next, hqp] using hq)
  · intro q hq
    by_cases hqp : q = p
    · subst hqp
      simpa [next, LoopRun.next] using hp
    · simpa [next, LoopRun.next] using h.held q (by simpa [next, hqp] using hq)
  · intro _ q hq
    by_cases hqp : q = p
    · subst hqp
      simp [next]
    · simpa [next, LoopRun.next, hqp] using
        h.known hpc q (by simpa [next, LoopRun.next, hqp] using hq)

theorem retire {w : World Src} (h : Owned w) (hpc : w.sys.pc ≠ .destroyed) {p : Src}
    (hp : p ∈ w.live ∧ p ∉ w.sys.loop.toRetire) : Owned (next w (.step (.retire p))) := by
  constructor
  · simpa [next, LoopRun.next] using h.nodup
  · simp only [next, LoopRun.next, EventLoop.retire_toRetire]
    exact List.nodup_append.2 ⟨h.retiring_nodup, List.nodup_singleton p, by
      rintro q hq r hr rfl
      exact hp.2 (List.mem_singleton.1 hr ▸ hq)⟩
  · intro q hq
    have hq : q ∈ w.sys.loop.toRetire ∨ q = p := by simpa [next, LoopRun.next] using hq
    rcases hq with hq | rfl
    · simpa [next, LoopRun.next] using ⟨(h.retiring q hq).1, Or.inl (h.retiring q hq).2⟩
    · simpa [next, LoopRun.next] using hp.1
  · intro q hq
    by_cases hqp : q = p
    · subst hqp
      simp [next] at hq
    · have hr := h.leaving q (by simpa [next, hqp] using hq)
      simp [next, LoopRun.next, hr]
  · intro q hq
    by_cases hqp : q = p
    · subst hqp
      simp [next] at hq
    · simpa [next, LoopRun.next, hqp] using h.held q (by simpa [next, hqp] using hq)
  · intro _ q hq
    by_cases hqp : q = p
    · subst hqp
      simp [next, LoopRun.next]
    · simpa [next, LoopRun.next, hqp] using
        h.known hpc q (by simpa [next, LoopRun.next] using hq)

theorem applyPending {w : World Src} (h : Owned w) (hpc : w.sys.pc ≠ .destroyed) :
    Owned (next w (.step .applyPending)) := by
  have hhold : ∀ p, release w.hold p ≠ .free → w.hold p = .kept := by
    intro p hp
    cases hh : w.hold p <;> simp [release, hh] at hp ⊢
  constructor
  · exact w.sys.loop.applyPending_nodup h.nodup
  · simp [next, LoopRun.next]
  · simp [next, LoopRun.next]
  · intro p hp
    have hp : release w.hold p = .leaving := hp
    have hk := hhold p (by rw [hp]; simp)
    simp [release, hk] at hp
  · intro p hp
    have hk := hhold p hp
    have hlive := h.held p (by simp [hk])
    simpa [next, LoopRun.next] using hlive
  · intro _ p hp
    right
    have hp : p ∈ w.sys.loop.applyPending.sources := by simpa [next, LoopRun.next] using hp
    rw [EventLoop.mem_applyPending_sources] at hp
    have hnr : p ∉ w.sys.loop.toRetire := fun hr => hp.2 (h.retiring p hr).2
    have hheld := (h.known hpc p hp.1).resolve_left hnr
    have hnl : w.hold p ≠ .leaving := fun hl => hp.2 (h.leaving p hl)
    simpa [next, release, hnl] using hheld

theorem destroy {w : World Src} (h : Owned w) : Owned (next w (.step .destroy)) := by
  constructor
  · exact h.nodup
  · exact List.nodup_nil
  · simp [next, LoopRun.next]
  · exact h.leaving
  · intro p hp
    simpa [next, LoopRun.next] using h.held p hp
  · intro hpc
    exact absurd rfl hpc

end Owned

theorem owned_next (w : World Src) (a : Act Src) (h : Owned w) (he : enabled w a) :
    Owned (next w a) := by
  cases a with
  | new p =>
      exact ⟨h.nodup, h.retiring_nodup, fun q hq => ⟨List.mem_cons_of_mem _ (h.retiring q hq).1,
        (h.retiring q hq).2⟩, h.leaving, fun q hq => ⟨List.mem_cons_of_mem _ (h.held q hq).1,
        (h.held q hq).2⟩, h.known⟩
  | delete p =>
      obtain ⟨-, hr, hfree⟩ := he
      have hmem : ∀ q, q ≠ p → q ∈ w.live → q ∈ (next w (.delete p)).live := by
        intro q hqp hq
        simpa [next] using ⟨hq, hqp⟩
      refine ⟨h.nodup, h.retiring_nodup, fun q hq => ⟨hmem q ?_ (h.retiring q hq).1,
        (h.retiring q hq).2⟩, h.leaving, fun q hq => ⟨hmem q ?_ (h.held q hq).1,
        (h.held q hq).2⟩, h.known⟩
      · rintro rfl
        exact hr hq
      · rintro rfl
        exact hq hfree
  | step a =>
      obtain ⟨he, ho⟩ := he
      have hpc := ne_destroyed_of_enabled he
      cases a with
      | add p => exact h.add hpc (of_decide_eq_true ho)
      | retire p => exact h.retire hpc (of_decide_eq_true ho)
      | applyPending => exact h.applyPending hpc
      | destroy => exact h.destroy
      | buildPollSet pd view =>
          have hq : Removes w.sys.loop (next w (.step (.buildPollSet pd view))).sys.loop [] :=
            ⟨rfl, rfl, by simp [next, LoopRun.next], rfl⟩
          exact h.of_removes hpc hq rfl (by funext p; simp [next, leave])
      | _ => exact h.of_removes hpc (removes_next w.sys _ rfl) rfl rfl

theorem polled_next (w : World Src) (a : Action Src) (he : LoopRun.enabled w.sys a)
    (h : inPass w.sys.pc = true → w.inPollSet = w.sys.loop.sources)
    (hp : inPass (LoopRun.next w.sys a).pc = true) :
    (next w (.step a)).inPollSet = (LoopRun.next w.sys a).loop.sources := by
  rcases inPass_of_moves (moves_next w.sys a he) hp with ⟨pd, view, rfl⟩ | ⟨hpass, hne⟩
  · rfl
  · rw [sources_next w.sys a hne, ← h hpass]
    cases a with
    | buildPollSet pd view =>
        have hpc : w.sys.pc = .buildPollSet := he
        rw [hpc] at hpass
        cases hpass
    | _ => rfl

theorem accounted_next (w : World Src) (a : Act Src) (h : Accounted w) (he : enabled w a) :
    Accounted (next w a) := by
  cases a with
  | new p | delete p => exact ⟨h.retired, h.polled⟩
  | step a =>
      refine ⟨?_, fun hp => ?_⟩
      · cases a with
        | retire p => simp [next, LoopRun.next, h.retired]
        | applyPending | destroy => simp [next, LoopRun.next, h.retired]
        | add p => simpa [next, LoopRun.next] using h.retired
        | buildPollSet pd view => exact h.retired
        | _ => exact h.of_removes (removes_next w.sys _ rfl) rfl rfl
      · have hsys : (next w (.step a)).sys = LoopRun.next w.sys a := by cases a <;> rfl
        rw [hsys] at hp ⊢
        exact polled_next w a he.1 h.polled hp

def Dies (w : World Src) (a : Act Src) (p : Src) : Prop := p ∈ w.live ∧ p ∉ (next w a).live

theorem dies_cases {w : World Src} {a : Act Src} {p : Src} (h : Dies w a p) :
    a = .delete p ∨
      ((a = .step .applyPending ∨ a = .step .destroy) ∧ p ∈ w.sys.loop.toRetire) := by
  obtain ⟨hlive, hdead⟩ := h
  cases a with
  | new q => exact absurd (List.mem_cons_of_mem q hlive) hdead
  | delete q =>
      have hq : p = q := by
        by_contra hne
        exact hdead (by simpa [next] using ⟨hlive, hne⟩)
      exact Or.inl (hq ▸ rfl)
  | step a =>
      right
      cases a with
      | applyPending => exact ⟨Or.inl rfl, by simpa [next, hlive] using hdead⟩
      | destroy => exact ⟨Or.inr rfl, by simpa [next, hlive] using hdead⟩
      | _ => exact absurd hlive hdead

structure SafeStep (w : World Src) (a : Act Src) : Prop where
  called : ∀ x, a = .step x → ∀ p ∈ callees w.sys x, p ∈ w.live
  destroyed : ∃ ps, (next w a).destroyed = w.destroyed ++ ps ∧ ps.Nodup ∧ ∀ p ∈ ps, Dies w a p
  retired : ∀ p ∈ w.sys.loop.toRetire, Dies w a p →
    (a = .step .applyPending ∧ p ∉ (next w a).sys.loop.sources) ∨ a = .step .destroy
  polled : inPass w.sys.pc = true → ∀ p ∈ w.inPollSet, ¬ Dies w a p

theorem destroyed_next {w : World Src} (h : Owned w) (a : Act Src) :
    ∃ ps, (next w a).destroyed = w.destroyed ++ ps ∧ ps.Nodup ∧ ∀ p ∈ ps, Dies w a p := by
  have hclear : ∀ p ∈ w.sys.loop.toRetire,
      p ∈ w.live ∧ p ∉ w.live.filter (· ∉ w.sys.loop.toRetire) :=
    fun p hp => ⟨(h.retiring p hp).1, by simp [hp]⟩
  cases a with
  | new p | delete p => exact ⟨[], by simp [next]⟩
  | step a =>
      cases a with
      | applyPending | destroy => exact ⟨_, rfl, h.retiring_nodup, hclear⟩
      | _ => exact ⟨[], by simp [next]⟩

theorem safeStep_of_owned {w : World Src} {a : Act Src} (h : Owned w) (ha : Accounted w)
    (he : enabled w a) : SafeStep w a := by
  refine ⟨?_, destroyed_next h a, ?_, ?_⟩
  · rintro x rfl p hp
    exact h.sources_live (ne_destroyed_of_enabled he.1) (mem_sources_of_mem_callees hp)
  · intro p hp hd
    rcases dies_cases hd with rfl | ⟨rfl | rfl, -⟩
    · exact absurd hp he.2.1
    · refine Or.inl ⟨rfl, fun hs => ?_⟩
      have hs : p ∈ w.sys.loop.applyPending.sources := hs
      rw [EventLoop.mem_applyPending_sources] at hs
      exact hs.2 (h.retiring p hp).2
    · exact Or.inr rfl
  · intro hpass p hp hd
    rw [ha.polled hpass] at hp
    have hpc : w.sys.pc ≠ .destroyed := fun hpc => by simp [hpc, inPass] at hpass
    rcases dies_cases hd with rfl | ⟨rfl | rfl, -⟩
    · rcases h.known hpc p (Or.inl hp) with hr | hheld
      · exact he.2.1 hr
      · exact hheld he.2.2
    · have he : w.sys.pc = .applyPending := he.1
      simp [he, inPass] at hpass
    · have he : w.sys.pc.idle = true := he.1
      revert hpass he
      cases w.sys.pc <;> simp [inPass, Pc.idle]

/-- Every run of the loop, whatever its callbacks and its callers do, is safe in
every state and in every step. -/
theorem lifetime_safe (wakeFd : Int) (as : List (Act Src))
    (hv : (system Src).Valid (initial wakeFd) as) :
    Safe ((system Src).after (initial wakeFd) as) ∧
      (system Src).Along SafeStep (initial wakeFd) as := by
  have h0 : Owned (initial wakeFd : World Src) ∧ Accounted (initial wakeFd : World Src) := by
    refine ⟨⟨?_, ?_, ?_, ?_, ?_, ?_⟩, ⟨rfl, ?_⟩⟩ <;>
      simp [initial, LoopRun.initial, EventLoop.init, inPass]
  have hstep : ∀ (w : World Src) a, Owned w ∧ Accounted w → enabled w a →
      Owned (next w a) ∧ Accounted (next w a) :=
    fun w a h he => ⟨owned_next w a h.1 he, accounted_next w a h.2 he⟩
  have h := (system Src).invariant hstep h0 hv
  refine ⟨safe_of_owned h.1 h.2, ?_⟩
  exact (system Src).along_of_invariant (fun w a h he _ => hstep w a h he)
    (fun w a h he _ => safeStep_of_owned h.1 h.2 he) h0 hv ((system Src).along_true _ as)

/-- A source that is added, hangs up, and is retired in its own dispatch(). -/
def retiredInDispatch : List (Act Nat) :=
  [.new 0, .step (.add 0), .step .callRun, .step .storeRunning, .step .whileTest,
    .step .applyPending, .step .breakTest,
    .step (.buildPollSet ⟨5, POLLIN, -1⟩ (fun _ => (7, POLLIN))),
    .step (.poll (.ready [0, POLLIN, POLLIN ||| POLLHUP])), .step .drain, .step .drain,
    .step (.dispatchNext 0), .step (.retire 0), .step (.dispatchReturn 0),
    .step (.dispatchNext 1), .step .whileTest, .step .applyPending]

theorem lifetime_safe_retiredInDispatch :
    Safe ((system Nat).after (initial 3) retiredInDispatch) ∧
      (system Nat).Along SafeStep (initial 3) retiredInDispatch :=
  lifetime_safe 3 retiredInDispatch (by decide)

end SdbusExamples.LoopLifetime
