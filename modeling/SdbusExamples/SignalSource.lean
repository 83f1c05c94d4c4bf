import SdbusExamples.LoopDispatch
import SdbusExamples.LoopStop
import SdbusExamples.LoopWakeup

namespace SdbusExamples.SignalSource

open LoopDispatch LoopQueues LoopRun LoopSteps LoopStop Runs
open LoopWakeup (BeforePoll)

variable {Src : Type}

/-- The signals of the process. A blocked one stays pending until it is read or
unblocked; one that is not blocked ends the process, as SIGINT and SIGTERM do. -/
structure Kernel where
  blocked : List Int
  pending : List Int
  terminated : Bool
deriving DecidableEq

namespace Kernel

def block (k : Kernel) (mask : List Int) : Kernel := { k with blocked := k.blocked ++ mask }

def unblock (k : Kernel) (mask : List Int) : Kernel :=
  ⟨k.blocked.filter (· ∉ mask), k.pending.filter (· ∉ mask),
    k.terminated || k.pending.any (· ∈ mask)⟩

def raise (k : Kernel) (signum : Int) : Kernel :=
  if signum ∈ k.blocked then
    { k with pending := if signum ∈ k.pending then k.pending else k.pending ++ [signum] }
  else { k with terminated := true }

def take (k : Kernel) (signum : Int) : Kernel :=
  { k with pending := k.pending.filter (· ≠ signum) }

end Kernel

structure Source where
  mask : List Int
  fd : Int
deriving DecidableEq

/-- The constructor: `blocks` tells whether sigprocmask() takes its arguments, and
`signalfd` is the descriptor that signalfd() returns, if it succeeds. -/
def construct (mask : List Int) (k : Kernel) (blocks : Bool) (signalfd : Option Nat) :
    Source × Kernel :=
  let k := if blocks then k.block mask else k
  match signalfd with
  | some fd => (⟨mask, fd⟩, k)
  -- not to keep the signals from ending the process
  | none => (⟨mask, -1⟩, k.unblock mask)

/-- Where dispatch() of the signal source stands; `stopping` has the number of its
call of stop(). -/
inductive Body
  | idle
  | reading
  | stopping (call : Nat)
deriving DecidableEq

structure World (Src : Type) where
  sys : State Src
  source : Source
  kernel : Kernel
  body : Body
  received : List Int

inductive Action (Src : Type)
  | raise (signum : Int)
  | loop (a : LoopRun.Action Src)
  | read (signum : Int)
  | stop

def Body.returns (b : Body) (stops : List StopCall) : Bool :=
  match b with
  | .idle => true
  | .reading => false
  | .stopping call => (stops[call]?).any fun c => c.pc = .done

namespace World

def Readable (w : World Src) : Prop :=
  0 ≤ w.source.fd ∧ ∃ signum ∈ w.kernel.pending, signum ∈ w.source.mask

instance (w : World Src) : Decidable w.Readable := inferInstanceAs (Decidable (_ ∧ _))

/-- What poll() finds out about a signalfd: there is a signal to be read, or there is not. -/
def Polls (w : World Src) (revents : List Short) : Prop :=
  ∀ i < w.sys.polled.pfds.length, (w.sys.polled.pfds[i]?).map Pollfd.fd = some w.source.fd →
    revents[i]? = some (if w.Readable then POLLIN else 0)

instance (w : World Src) (revents : List Short) : Decidable (w.Polls revents) :=
  inferInstanceAs (Decidable (∀ i < w.sys.polled.pfds.length, _ → _))

end World

variable [DecidableEq Src]

/-- What the signal source and the kernel have to do with a step of the loop. -/
def Fits (signals : Src) (w : World Src) : LoopRun.Action Src → Prop
  | .buildPollSet _ view => view signals = (w.source.fd, POLLIN)
  | .poll (.ready revents) => w.Polls revents
  | .dispatchReturn _ => w.body.returns w.sys.stops = true
  | .add _ | .remove _ | .retire _ => w.body = .idle
  | _ => True

instance (signals : Src) (w : World Src) : ∀ a : LoopRun.Action Src, Decidable (Fits signals w a)
  | .buildPollSet _ view => inferInstanceAs (Decidable (view signals = (w.source.fd, POLLIN)))
  | .poll (.ready revents) => inferInstanceAs (Decidable (w.Polls revents))
  | .dispatchReturn _ => inferInstanceAs (Decidable (w.body.returns w.sys.stops = true))
  | .add _ | .remove _ | .retire _ => inferInstanceAs (Decidable (w.body = .idle))
  | .poll (.failed _) | .callRun | .storeRunning | .whileTest | .applyPending | .breakTest
  | .drain | .processed | .dbusThrow | .dispatchNext _ | .storeError _ | .finalLoad _
  | .callStop _ | .stopStep _ | .destroy => .isTrue trivial

def enabled (signals : Src) (w : World Src) : Action Src → Prop
  | .raise signum => w.kernel.terminated = false ∧ signum ∈ w.source.mask
  | .loop a => w.kernel.terminated = false ∧ LoopRun.enabled w.sys a ∧ Fits signals w a
  | .read signum =>
      w.kernel.terminated = false ∧ w.body = .reading ∧ 0 ≤ w.source.fd ∧
        signum ∈ w.kernel.pending ∧ signum ∈ w.source.mask
  | .stop => w.kernel.terminated = false ∧ w.body = .reading ∧ ¬ w.Readable

instance (signals : Src) (w : World Src) : ∀ a : Action Src, Decidable (enabled signals w a)
  | .raise signum =>
      inferInstanceAs (Decidable (w.kernel.terminated = false ∧ signum ∈ w.source.mask))
  | .loop a => inferInstanceAs
      (Decidable (w.kernel.terminated = false ∧ LoopRun.enabled w.sys a ∧ Fits signals w a))
  | .read signum => inferInstanceAs (Decidable (w.kernel.terminated = false ∧ w.body = .reading ∧
      0 ≤ w.source.fd ∧ signum ∈ w.kernel.pending ∧ signum ∈ w.source.mask))
  | .stop => inferInstanceAs
      (Decidable (w.kernel.terminated = false ∧ w.body = .reading ∧ ¬ w.Readable))

def bodyAfter (signals : Src) (w : World Src) : LoopRun.Action Src → Body
  | .dispatchNext i =>
      if (w.sys.dispatchNext i).pc = .inDispatch i ∧ w.sys.loop.sources[i]? = some signals then
        .reading
      else w.body
  | .dispatchReturn _ => .idle
  | _ => w.body

def next (signals : Src) (w : World Src) : Action Src → World Src
  | .raise signum => { w with kernel := w.kernel.raise signum }
  | .loop a => { w with sys := LoopRun.next w.sys a, body := bodyAfter signals w a }
  | .read signum =>
      { w with kernel := w.kernel.take signum, received := w.received ++ [signum] }
  | .stop =>
      { w with sys := LoopRun.next w.sys (.callStop 0), body := .stopping w.sys.stops.length }

def system (signals : Src) : System (World Src) (Action Src) := ⟨enabled signals, next signals⟩

instance (signals : Src) (w : World Src) (a : Action Src) : Decidable ((system signals).enabled w a) :=
  inferInstanceAs (Decidable (enabled signals w a))

def initial (wakeFd : Int) (mask blocked : List Int) (blocks : Bool) (signalfd : Option Nat) :
    World Src :=
  let (source, kernel) := construct mask ⟨blocked, [], false⟩ blocks signalfd
  ⟨LoopRun.initial wakeFd, source, kernel, .idle, []⟩

/-- The signals of the mask that are blocked have a signalfd from which they are read. -/
structure Consumed (w : World Src) : Prop where
  reader : ∀ signum ∈ w.source.mask, signum ∈ w.kernel.blocked → 0 ≤ w.source.fd
  pending : ∀ signum ∈ w.kernel.pending, signum ∈ w.kernel.blocked

def AfterPoll : Pc → Prop
  | .draining | .processing | .dispatching _ | .inDispatch _ => True
  | _ => False

structure Attached (signals : Src) (w : World Src) : Prop where
  kept : signals ∉ w.sys.loop.toRemove
  polled : w.sys.pc = .polling → ∀ i, w.sys.loop.sources[i]? = some signals →
    w.sys.polled.pfds[w.sys.polled.firstSourceIdx + i]? = some ⟨w.source.fd, POLLIN, 0⟩
  healthy : AfterPoll w.sys.pc → ∀ i, w.sys.loop.sources[i]? = some signals →
    w.sys.sourceRevents i &&& (POLLHUP ||| POLLERR) = 0
  body : w.body = .idle ∨ ∃ i, w.sys.pc = .inDispatch i ∧ w.sys.loop.sources[i]? = some signals

structure Registered (signals : Src) (s : State Src) : Prop where
  known : signals ∈ s.loop.sources ∨ signals ∈ s.loop.toAdd
  applied : BeforePoll s.pc → signals ∈ s.loop.sources

def Keeps (signals : Src) (a : Action Src) : Prop :=
  a ≠ .loop (.remove signals) ∧ a ≠ .loop (.retire signals)

omit [DecidableEq Src] in
theorem consumed_construct (mask blocked : List Int) (blocks : Bool) (signalfd : Option Nat)
    (wakeFd : Int) : Consumed (initial wakeFd mask blocked blocks signalfd : World Src) := by
  cases signalfd with
  | some fd =>
      refine ⟨fun signum _ _ => Int.natCast_nonneg fd, fun signum h => ?_⟩
      cases blocks <;> cases h
  | none =>
      refine ⟨fun signum hm hb => ?_, fun signum h => ?_⟩
      · have hb := List.of_mem_filter hb
        exact absurd hm (of_decide_eq_true hb)
      · cases blocks <;> cases h

theorem consumed_next (signals : Src) (w : World Src) (a : Action Src) (h : Consumed w) :
    Consumed (next signals w a) := by
  cases a with
  | raise signum =>
      by_cases hb : signum ∈ w.kernel.blocked
      · refine ⟨fun x hm hx => h.reader x hm ?_, fun x hx => ?_⟩
        · simpa [next, Kernel.raise, hb] using hx
        · simp only [next, Kernel.raise, hb, if_true] at hx ⊢
          split_ifs at hx
          · exact h.pending x hx
          · rcases List.mem_append.1 hx with hx | hx
            · exact h.pending x hx
            · exact List.mem_singleton.1 hx ▸ hb
      · refine ⟨fun x hm hx => h.reader x hm ?_, fun x hx => ?_⟩
        · simpa [next, Kernel.raise, hb] using hx
        · simp only [next, Kernel.raise, hb, if_false] at hx ⊢
          exact h.pending x hx
  | read signum => exact ⟨h.reader, fun x hx => h.pending x (List.mem_of_mem_filter hx)⟩
  | loop a => exact ⟨h.reader, h.pending⟩
  | stop => exact ⟨h.reader, h.pending⟩

omit [DecidableEq Src] in
theorem polling_of_moves {a : LoopRun.Action Src} {pc : Pc} (h : Moves a pc .polling) :
    (∃ pd view, a = .buildPollSet pd view) ∨ pc = .polling ∧ a ≠ .applyPending := by
  cases h with
  | buildPollSet pd view => exact Or.inl ⟨pd, view, rfl⟩
  | wakeQuiet _ h | drained h => rcases h with h | h <;> cases h
  | dispatchNext _ h => rcases h with h | h | h <;> cases h
  | add | remove | retire | callStop | stopStep => exact Or.inr ⟨rfl, by simp⟩

omit [DecidableEq Src] in
theorem beforePoll_of_moves {a : LoopRun.Action Src} {pc pc' : Pc} (h : Moves a pc pc')
    (hb : BeforePoll pc') : a = .applyPending ∨ BeforePoll pc := by
  cases h with
  | applyPending => exact Or.inl rfl
  | goOn => exact Or.inr (Or.inl rfl)
  | buildPollSet => exact Or.inr (Or.inr (Or.inl rfl))
  | wakeQuiet _ h | drained h => rcases h with rfl | rfl <;> simp [BeforePoll] at hb
  | dispatchNext _ h => rcases h with rfl | rfl | rfl <;> simp [BeforePoll] at hb
  | add | remove | retire | callStop | stopStep => exact Or.inr hb
  | _ => simp [BeforePoll] at hb

omit [DecidableEq Src] in
theorem afterPoll_of_moves {a : LoopRun.Action Src} {pc pc' : Pc} (h : Moves a pc pc')
    (hp : AfterPoll pc') :
    (∃ revents, a = .poll (.ready revents)) ∨
      AfterPoll pc ∧ a ≠ .applyPending ∧ ∀ pd view, a ≠ .buildPollSet pd view := by
  cases h with
  | wakeReady revents | wakeQuiet revents => exact Or.inl ⟨revents, rfl⟩
  | drain | drained | processed | dispatchNext | dispatchReturn =>
      exact Or.inr ⟨trivial, by simp⟩
  | add | remove | retire | callStop | stopStep => exact Or.inr ⟨hp, by simp⟩
  | _ => cases hp

omit [DecidableEq Src] in
theorem inDispatch_of_moves {a : LoopRun.Action Src} {i : Nat} {pc : Pc}
    (h : Moves a (.inDispatch i) pc) :
    a = .dispatchReturn i ∨ pc = .inDispatch i ∧ a ≠ .applyPending := by
  cases h with
  | dispatchReturn => exact Or.inl rfl
  | add | remove | retire | callStop | stopStep => exact Or.inr ⟨rfl, by simp⟩
  | callRun h | destroy h => cases h

theorem polled_next (s : State Src) (a : LoopRun.Action Src) :
    (LoopRun.next s a).polled = s.polled ∨ (∃ pd view, a = .buildPollSet pd view) ∨
      ∃ revents, a = .poll (.ready revents) := by
  cases a with
  | buildPollSet pd view => exact Or.inr (Or.inl ⟨pd, view, rfl⟩)
  | poll r =>
      cases r with
      | failed eintr => exact Or.inl rfl
      | ready revents => exact Or.inr (Or.inr ⟨revents, rfl⟩)
  | drain =>
      left
      simp only [LoopRun.next, State.drain]
      split_ifs <;> rfl
  | dispatchNext i =>
      obtain ⟨pc, h, -⟩ := s.dispatchNext_eq i
      simp [LoopRun.next, h]
  | dispatchReturn i =>
      rcases s.dispatchReturn_eq i with h | ⟨p, -, h⟩ <;> simp [LoopRun.next, h]
  | stopStep i =>
      left
      rw [LoopRun.next, State.stopStep]
      split <;> rfl
  | _ => exact Or.inl rfl

omit [DecidableEq Src] in
theorem getElem?_buildPollSet (pd : PollData) (view : Src → Int × Short) (l : EventLoop Src)
    (i : Nat) : (LoopRun.buildPollSet pd view l).pfds[base pd + i]? =
      l.sources[i]?.map fun p => ⟨(view p).1, (view p).2, 0⟩ := by
  rw [LoopRun.buildPollSet, base]
  split_ifs
  · simp [Nat.add_comm 3 i]
  · simp [Nat.add_comm 2 i]

theorem sourceRevents_poll {signals : Src} {w : World Src} (h : Attached signals w)
    {revents : List Short} (he : enabled signals w (.loop (.poll (.ready revents)))) {i : Nat}
    (hi : w.sys.loop.sources[i]? = some signals) :
    (LoopRun.next w.sys (.poll (.ready revents))).sourceRevents i =
      if w.Readable then POLLIN else 0 := by
  obtain ⟨-, ⟨hpc, hreports⟩, hfits⟩ := he
  have hentry := h.polled hpc i hi
  obtain ⟨hlt, -⟩ := List.getElem?_eq_some_iff.1 hentry
  have hrevents := hfits _ hlt (by rw [hentry]; rfl)
  rw [revents_report _ hreports.1 (hreports.1 ▸ hlt)] at hrevents
  exact Option.some.inj hrevents

omit [DecidableEq Src] in
theorem dispatchReturn_loop {s : State Src} {i : Nat}
    (h : s.sourceRevents i &&& (POLLHUP ||| POLLERR) = 0) : (s.dispatchReturn i).loop = s.loop := by
  rw [State.dispatchReturn]
  simp only [h, ne_eq, not_true_eq_false, if_false]
  split <;> rfl

theorem kept_next {signals : Src} {w : World Src} (h : Attached signals w) {a : LoopRun.Action Src}
    (he : enabled signals w (.loop a)) (hk : Keeps signals (.loop a)) :
    signals ∉ (LoopRun.next w.sys a).loop.toRemove := by
  rcases queues_next w.sys a with hq | ⟨rfl, hq⟩ | ⟨p, rfl, hq⟩ | ⟨p, ha, hq⟩ | ⟨p, rfl, hq⟩ |
    ⟨rfl, hq⟩
  · rw [hq.toRemove]
    exact h.kept
  · simp [hq]
  · simpa [hq] using h.kept
  · by_cases hp : p = signals
    · subst hp
      rcases ha with rfl | ⟨i, rfl, hi⟩
      · exact absurd rfl hk.1
      · -- a signalfd does not hang up, so the loop does not remove its source
        have hpc : w.sys.pc = .inDispatch i := he.2.1
        rw [LoopRun.next, dispatchReturn_loop (h.healthy (hpc ▸ trivial) i hi)]
        exact h.kept
    · rw [hq, EventLoop.remove_toRemove, List.mem_append, List.mem_singleton]
      rintro (hmem | rfl)
      · exact h.kept hmem
      · exact hp rfl
  · have hp : signals ≠ p := by
      rintro rfl
      exact hk.2 rfl
    rw [hq, EventLoop.retire_toRemove, List.mem_append, List.mem_singleton]
    rintro (hmem | rfl)
    · exact h.kept hmem
    · exact hp rfl
  · rw [hq]
    exact h.kept

theorem body_loop {signals : Src} {w : World Src} (h : Attached signals w)
    {a : LoopRun.Action Src} (he : enabled signals w (.loop a)) :
    bodyAfter signals w a = .idle ∨ ∃ i, (LoopRun.next w.sys a).pc = .inDispatch i ∧
      (LoopRun.next w.sys a).loop.sources[i]? = some signals := by
  have hsame (hb : bodyAfter signals w a = w.body) (hne : ∀ i, a ≠ .dispatchReturn i) :
      bodyAfter signals w a = .idle ∨ ∃ i, (LoopRun.next w.sys a).pc = .inDispatch i ∧
        (LoopRun.next w.sys a).loop.sources[i]? = some signals := by
    rw [hb]
    rcases h.body with hidle | ⟨i, hpc, hi⟩
    · exact Or.inl hidle
    · have hm := moves_next w.sys a he.2.1
      rw [hpc] at hm
      obtain ⟨hpc', hne'⟩ := (inDispatch_of_moves hm).resolve_left (hne i)
      exact Or.inr ⟨i, hpc', by rw [sources_next w.sys a hne', hi]⟩
  cases a with
  | dispatchReturn i => exact Or.inl rfl
  | dispatchNext i =>
      by_cases hc : (w.sys.dispatchNext i).pc = .inDispatch i ∧ w.sys.loop.sources[i]? = some signals
      · refine Or.inr ⟨i, hc.1, ?_⟩
        rw [sources_next w.sys (.dispatchNext i) (by simp), hc.2]
      · exact hsame (if_neg hc) (by simp)
  | _ => exact hsame rfl (by simp)

theorem attached_loop {signals : Src} {w : World Src} (h : Attached signals w)
    {a : LoopRun.Action Src} (he : enabled signals w (.loop a)) (hk : Keeps signals (.loop a)) :
    Attached signals (next signals w (.loop a)) := by
  have hm := moves_next w.sys a he.2.1
  refine ⟨kept_next h he hk, fun hpc i hi => ?_, fun hpc i hi => ?_, body_loop h he⟩
  · have hpc' : (LoopRun.next w.sys a).pc = .polling := hpc
    rw [hpc'] at hm
    rcases polling_of_moves hm with ⟨pd, view, rfl⟩ | ⟨hold, hne⟩
    · have hview : view signals = (w.source.fd, POLLIN) := he.2.2
      have hi' : w.sys.loop.sources[i]? = some signals := hi
      have hentry := getElem?_buildPollSet pd view w.sys.loop i
      rw [hi', Option.map_some, hview] at hentry
      rw [← firstSourceIdx_buildPollSet pd view w.sys.loop] at hentry
      exact hentry
    · have hi' : w.sys.loop.sources[i]? = some signals := by
        rw [← sources_next w.sys a hne]
        exact hi
      have hpolled : (LoopRun.next w.sys a).polled = w.sys.polled := by
        rcases polled_next w.sys a with hp | ⟨pd, view, rfl⟩ | ⟨revents, rfl⟩
        · exact hp
        · rw [hold] at hm
          cases hm
        · rw [hold] at hm
          cases hm with
          | wakeQuiet _ h => rcases h with h | h <;> cases h
      rw [next, hpolled]
      exact h.polled hold i hi'
  · by_cases hr : ∃ revents, a = .poll (.ready revents)
    · obtain ⟨revents, rfl⟩ := hr
      rw [next, sourceRevents_poll h he hi]
      split_ifs <;> decide
    · obtain ⟨hold, hne, hnb⟩ := (afterPoll_of_moves hm hpc).resolve_left hr
      have hpolled : (LoopRun.next w.sys a).polled = w.sys.polled := by
        rcases polled_next w.sys a with hp | ⟨pd, view, rfl⟩ | hp
        · exact hp
        · exact absurd rfl (hnb pd view)
        · exact absurd hp hr
      have hi' : w.sys.loop.sources[i]? = some signals := by
        rw [← sources_next w.sys a hne]
        exact hi
      rw [next, State.sourceRevents, hpolled]
      exact h.healthy hold i hi'

theorem attached_next (signals : Src) (w : World Src) (a : Action Src) (h : Attached signals w)
    (he : enabled signals w a) (hk : Keeps signals a) : Attached signals (next signals w a) := by
  cases a with
  | raise signum => exact ⟨h.kept, h.polled, h.healthy, h.body⟩
  | read signum => exact ⟨h.kept, h.polled, h.healthy, h.body⟩
  | loop a => exact attached_loop h he hk
  | stop =>
      refine ⟨h.kept, h.polled, h.healthy, ?_⟩
      rcases h.body with hidle | hself
      · rw [he.2.1] at hidle
        cases hidle
      · exact Or.inr hself

theorem registered_loop {signals : Src} {w : World Src} (h : Registered signals w.sys)
    (hkept : signals ∉ w.sys.loop.toRemove) {a : LoopRun.Action Src}
    (he : LoopRun.enabled w.sys a) : Registered signals (LoopRun.next w.sys a) := by
  by_cases ha : a = .applyPending
  · subst ha
    have hmem : signals ∈ w.sys.loop.applyPending.sources :=
      (w.sys.loop.mem_applyPending_sources signals).2 ⟨h.known, hkept⟩
    exact ⟨Or.inl hmem, fun _ => hmem⟩
  · have hsources := sources_next w.sys a ha
    refine ⟨?_, fun hb => ?_⟩
    · rw [hsources]
      rcases h.known with hs | hq
      · exact Or.inl hs
      · right
        rcases queues_next w.sys a with hq' | ⟨rfl, -⟩ | ⟨p, -, hq'⟩ | ⟨p, -, hq'⟩ | ⟨p, -, hq'⟩ |
          ⟨-, hq'⟩
        · rwa [hq'.toAdd]
        · exact absurd rfl ha
        · simp [hq', hq]
        all_goals simpa [hq'] using hq
    · rw [hsources]
      exact h.applied ((beforePoll_of_moves (moves_next w.sys a he) hb).resolve_left ha)

theorem registered_next (signals : Src) (w : World Src) (a : Action Src)
    (h : Registered signals w.sys) (hkept : signals ∉ w.sys.loop.toRemove)
    (he : enabled signals w a) : Registered signals (next signals w a).sys := by
  cases a with
  | raise signum => exact h
  | read signum => exact h
  | loop a => exact registered_loop h hkept he.2.1
  | stop => exact ⟨h.known, h.applied⟩

theorem registered_add {signals : Src} {w : World Src}
    (he : enabled signals w (.loop (.add signals))) :
    Registered signals (next signals w (.loop (.add signals))).sys := by
  have hcallback : w.sys.pc.callback = true := he.2.1
  refine ⟨Or.inr ?_, fun hb => ?_⟩
  · simp [next, LoopRun.next]
  · exfalso
    have hb : BeforePoll w.sys.pc := hb
    rcases hb with hpc | hpc | hpc <;> rw [hpc] at hcallback <;> cases hcallback

/-- At its index or later the pass over the sources finds the signal source
ready, or running_ is cleared. -/
def Due (signals : Src) (s : State Src) (j : Nat) : Prop :=
  s.loop.running = false ∨
    ∃ i, j ≤ i ∧ s.loop.sources[i]? = some signals ∧ s.sourceRevents i ≠ 0

/-- dispatch() of the signal source is running, and clears running_ before it returns. -/
def Stops (signals : Src) (w : World Src) (j : Nat) : Prop :=
  w.sys.loop.sources[j]? = some signals ∧
    (w.body = .reading ∨ ∃ call, w.body = .stopping call ∧ Cleared call w.sys)

def Ending (signals : Src) (w : World Src) : Prop :=
  match w.sys.pc with
  | .draining | .processing => Due signals w.sys 0
  | .dispatching j => Due signals w.sys j
  | .inDispatch j => Due signals w.sys (j + 1) ∨ Stops signals w j
  | .whileTest => w.sys.loop.running = false
  | .storeError _ | .finalLoad _ => True
  | _ => False

omit [DecidableEq Src] in
theorem Due.frame {signals : Src} {s s' : State Src} {j : Nat} (h : Due signals s j)
    (hpolled : s'.polled = s.polled) (hsources : s'.loop.sources = s.loop.sources)
    (hrun : s'.loop.running = s.loop.running ∨ s'.loop.running = false) : Due signals s' j := by
  rcases h with hr | ⟨i, hji, hi, hrevents⟩
  · left
    rcases hrun with hrun | hrun
    · rw [hrun, hr]
    · exact hrun
  · right
    refine ⟨i, hji, hsources ▸ hi, ?_⟩
    rwa [State.sourceRevents, hpolled]

omit [DecidableEq Src] in
theorem Ending.frame {signals : Src} {w w' : World Src} (h : Ending signals w)
    (hpc : w'.sys.pc = w.sys.pc) (hpolled : w'.sys.polled = w.sys.polled)
    (hsources : w'.sys.loop.sources = w.sys.loop.sources)
    (hrun : w'.sys.loop.running = w.sys.loop.running ∨ w'.sys.loop.running = false)
    (hstops : ∀ j, Stops signals w j → Stops signals w' j) : Ending signals w' := by
  rw [Ending] at h ⊢
  rw [hpc]
  cases hs : w.sys.pc <;> rw [hs] at h
  case draining | processing | dispatching => exact h.frame hpolled hsources hrun
  case inDispatch j =>
    rcases h with hdue | hself
    · exact Or.inl (hdue.frame hpolled hsources hrun)
    · exact Or.inr (hstops j hself)
  case whileTest =>
    have hr : w.sys.loop.running = false := h
    rcases hrun with hrun | hrun
    · exact hrun.trans hr
    · exact hrun
  all_goals exact h

theorem ending_frame {signals : Src} {w : World Src} (h : Ending signals w)
    {a : LoopRun.Action Src} (hpc : (LoopRun.next w.sys a).pc = w.sys.pc)
    (hpolled : (LoopRun.next w.sys a).polled = w.sys.polled) (ha : a ≠ .applyPending)
    (hs : a ≠ .storeRunning) (hentry : ∀ call, EntryBeforeStop call w.sys a)
    (hbody : bodyAfter signals w a = w.body) : Ending signals (next signals w (.loop a)) := by
  have hsources := sources_next w.sys a ha
  refine h.frame hpc hpolled hsources (running_next w.sys a hs) fun j hj => ?_
  refine ⟨?_, ?_⟩
  · rw [next, hsources]
    exact hj.1
  · rw [next, hbody]
    rcases hj.2 with hread | ⟨call, hstop, hcleared⟩
    · exact Or.inl hread
    · exact Or.inr ⟨call, hstop, cleared_next w.sys a hcleared (hentry call)⟩

theorem ending_dispatchNext {signals : Src} {w : World Src} {j : Nat}
    (hdue : Due signals w.sys j) (hpc : w.sys.pc = .dispatching j) :
    Ending signals (next signals w (.loop (.dispatchNext j))) := by
  have hnext : (next signals w (.loop (.dispatchNext j))).sys = w.sys.dispatchNext j := rfl
  by_cases hr : w.sys.loop.running = false
  · obtain ⟨pc, h, hmove⟩ := w.sys.dispatchNext_eq j
    rw [Ending, hnext, h]
    rcases hmove with rfl | rfl | rfl
    · exact Or.inl hr
    · exact Or.inl (Or.inl hr)
    · exact hr
  · obtain ⟨i, hji, hi, hrevents⟩ := hdue.resolve_left hr
    obtain ⟨hlt, -⟩ := List.getElem?_eq_some_iff.1 hi
    have hj : j < w.sys.loop.sources.length := by omega
    by_cases h0 : w.sys.sourceRevents j = 0
    · have hne : i ≠ j := by
        rintro rfl
        exact hrevents h0
      have hpass : w.sys.dispatchNext j = { w.sys with pc := .dispatching (j + 1) } := by
        rw [State.dispatchNext, if_pos hj, if_pos h0]
      rw [Ending, hnext, hpass]
      exact Or.inr ⟨i, by omega, hi, hrevents⟩
    · have hcall : w.sys.dispatchNext j = { w.sys with pc := .inDispatch j } := by
        rw [State.dispatchNext, if_pos hj, if_neg h0]
      rw [Ending, hnext, hcall]
      by_cases hij : i = j
      · subst hij
        refine Or.inr ⟨?_, Or.inl ?_⟩
        · rw [hnext, hcall]
          exact hi
        · exact if_pos ⟨by rw [hcall], hi⟩
      · exact Or.inl (Or.inr ⟨i, by omega, hi, hrevents⟩)

theorem ending_dispatchReturn {signals : Src} {w : World Src} {j : Nat}
    (h : Due signals w.sys (j + 1) ∨ Stops signals w j)
    (he : w.body.returns w.sys.stops = true) :
    Ending signals (next signals w (.loop (.dispatchReturn j))) := by
  have hdue : Due signals w.sys (j + 1) := by
    rcases h with hdue | ⟨-, hread | ⟨call, hstop, hcleared⟩⟩
    · exact hdue
    · rw [hread] at he
      cases he
    · left
      rw [hstop, Body.returns] at he
      obtain ⟨c, hc, hdone⟩ := (Option.any_eq_true _ _).1 he
      exact hcleared ⟨c, hc, Or.inr (of_decide_eq_true hdone)⟩
  have hpolled : (w.sys.dispatchReturn j).polled = w.sys.polled := by
    rcases w.sys.dispatchReturn_eq j with h | ⟨p, -, h⟩ <;> rw [h]
  have hpc : (w.sys.dispatchReturn j).pc = .dispatching (j + 1) := by
    rcases w.sys.dispatchReturn_eq j with h | ⟨p, -, h⟩ <;> rw [h]
  have hafter := hdue.frame hpolled (sources_next w.sys (.dispatchReturn j) (by simp))
    (running_next w.sys (.dispatchReturn j) (by simp))
  rw [Ending]
  simpa only [next, LoopRun.next, hpc] using hafter

theorem ending_drain {signals : Src} {w : World Src} (hdue : Due signals w.sys 0)
    (hpc : w.sys.pc = .draining) : Ending signals (next signals w (.loop .drain)) := by
  have hpolled : w.sys.drain.polled = w.sys.polled := by
    rw [State.drain]
    split_ifs <;> rfl
  have hafter : Due signals w.sys.drain 0 := hdue.frame hpolled
    (sources_next w.sys .drain (by simp)) (running_next w.sys .drain (by simp))
  have hmove : w.sys.drain.pc = .draining ∨ w.sys.drain.pc = .processing ∨
      w.sys.drain.pc = .dispatching 0 := by
    rcases w.sys.drain_pc with h | h
    · exact Or.inl (h.trans hpc)
    · rw [h]
      exact Or.inr (afterDrain_eq _)
  rw [Ending]
  rcases hmove with h | h | h <;> simpa only [next, LoopRun.next, h] using hafter

theorem ending_loop {signals : Src} {w : World Src} (h : Ending signals w)
    {a : LoopRun.Action Src} (he : enabled signals w (.loop a)) (hf : ∀ e, a ≠ .finalLoad e) :
    Ending signals (next signals w (.loop a)) := by
  have hsys := he.2.1
  cases a with
  | callRun | destroy =>
      have hidle : w.sys.pc.idle = true := hsys
      rw [Ending] at h
      cases hpc : w.sys.pc <;> rw [hpc] at h hidle <;> first | exact h.elim | cases hidle
  | storeRunning | applyPending | breakTest | buildPollSet =>
      have hpc := hsys
      rw [Ending, hpc] at h
      exact h.elim
  | poll r =>
      have hpc : w.sys.pc = .polling := by
        cases r with
        | failed eintr => exact hsys
        | ready revents => exact hsys.1
      rw [Ending, hpc] at h
      exact h.elim
  | whileTest =>
      have hpc : w.sys.pc = .whileTest := hsys
      rw [Ending, hpc] at h
      have hr : w.sys.loop.running = false := h
      simp [Ending, next, LoopRun.next, hr]
  | drain =>
      have hpc : w.sys.pc = .draining := hsys
      rw [Ending, hpc] at h
      exact ending_drain h hpc
  | processed =>
      have hpc : w.sys.pc = .processing := hsys
      rw [Ending, hpc] at h
      exact h
  | dbusThrow => trivial
  | dispatchNext j =>
      have hpc : w.sys.pc = .dispatching j := hsys
      rw [Ending, hpc] at h
      exact ending_dispatchNext h hpc
  | dispatchReturn j =>
      have hpc : w.sys.pc = .inDispatch j := hsys
      rw [Ending, hpc] at h
      exact ending_dispatchReturn h he.2.2
  | storeError e => trivial
  | finalLoad e => exact absurd rfl (hf e)
  | add p | remove p | retire p =>
      exact ending_frame h rfl rfl (by simp) (by simp) (fun _ => trivial) rfl
  | callStop code => exact ending_frame h rfl rfl (by simp) (by simp) (fun _ => trivial) rfl
  | stopStep i =>
      refine ending_frame h (w.sys.stopStep_pc i) ?_ (by simp) (by simp) (fun _ => trivial) rfl
      rw [LoopRun.next, State.stopStep]
      split <;> rfl

theorem ending_next (signals : Src) (w : World Src) (a : Action Src) (h : Ending signals w)
    (he : enabled signals w a) (hf : ∀ e, a ≠ .loop (.finalLoad e)) :
    Ending signals (next signals w a) := by
  cases a with
  | raise signum => exact h
  | read signum => exact h
  | loop a => exact ending_loop h he fun e ha => hf e (ha ▸ rfl)
  | stop =>
      refine h.frame rfl rfl rfl (Or.inl rfl) fun j hj => ⟨hj.1, Or.inr ⟨_, rfl, ?_⟩⟩
      -- the new call has made no store yet
      rintro ⟨c, hc, hstored⟩
      simp only [next, LoopRun.next, List.getElem?_concat_length] at hc
      cases hc
      simp [StopCall.Stored] at hstored

structure Watched (signals : Src) (w : World Src) : Prop where
  consumed : Consumed w
  attached : Attached signals w
  registered : Registered signals w.sys

theorem watched_next (signals : Src) (w : World Src) (a : Action Src) (h : Watched signals w)
    (he : enabled signals w a) (hk : Keeps signals a) : Watched signals (next signals w a) :=
  ⟨consumed_next signals w a h.consumed, attached_next signals w a h.attached he hk,
    registered_next signals w a h.registered h.attached.kept he⟩

theorem watched_after {signals : Src} {w : World Src} (hc : Consumed w)
    (ha : Attached signals w) {as : List (Action Src)} (hv : (system signals).Valid w as)
    (hk : ∀ a ∈ as, Keeps signals a) (hadd : .loop (.add signals) ∈ as) :
    Watched signals ((system signals).after w as) := by
  have hboth (v : World Src) (a : Action Src) (h : Consumed v ∧ Attached signals v)
      (he : enabled signals v a) (hk : Keeps signals a) :
      Consumed (next signals v a) ∧ Attached signals (next signals v a) :=
    ⟨consumed_next signals v a h.1, attached_next signals v a h.2 he hk⟩
  obtain ⟨as, bs, rfl⟩ := List.append_of_mem hadd
  have hkeeps := ((system signals).along_action_iff w _).2 hk
  rw [System.valid_append, System.valid_cons] at hv
  rw [System.along_append, System.along_cons] at hkeeps
  rw [System.after_append, System.after_cons]
  have hbefore := (system signals).invariant_along hboth ⟨hc, ha⟩ hv.1 hkeeps.1
  have hafter := hboth _ (.loop (.add signals)) hbefore hv.2.1 hkeeps.2.1
  exact (system signals).invariant_along (watched_next signals)
    ⟨hafter.1, hafter.2, registered_add hv.2.1⟩ hv.2.2 hkeeps.2.2

def readyPoll : Action Src → Bool
  | .loop (.poll (.ready _)) => true
  | _ => false

theorem ending_polls {signals : Src} {w : World Src} (h : Ending signals w)
    {as : List (Action Src)} (hv : (system signals).Valid w as)
    (hf : ∀ e, .loop (.finalLoad e) ∉ as) : as.countP readyPoll = 0 := by
  have hnone : ∀ a ∈ as, readyPoll a = false := by
    rw [← (system signals).along_action_iff w]
    refine (system signals).along_of_invariant
      (P := fun _ a => ∀ e, a ≠ Action.loop (.finalLoad e))
      (fun v a hv he hf => ending_next signals v a hv he hf) (fun v a hv he _ => ?_) h hv ?_
    · cases hpoll : readyPoll a with
      | false => rfl
      | true =>
          match a with
          | .loop (.poll (.ready revents)) =>
              have hpc : v.sys.pc = .polling := he.2.1.1
              rw [Ending, hpc] at hv
              exact hv.elim
    · rw [(system signals).along_action_iff w as]
      rintro a ha e rfl
      exact hf e ha
  rw [List.countP_eq_zero]
  intro a ha
  simp [hnone a ha]

theorem ending_poll {signals : Src} {w : World Src} (h : Watched signals w) {signum : Int}
    (hp : signum ∈ w.kernel.pending) (hm : signum ∈ w.source.mask) {revents : List Short}
    (he : enabled signals w (.loop (.poll (.ready revents)))) :
    Ending signals (next signals w (.loop (.poll (.ready revents)))) := by
  have hpc : w.sys.pc = .polling := he.2.1.1
  have hreadable : w.Readable :=
    ⟨h.consumed.reader signum hm (h.consumed.pending signum hp), signum, hp, hm⟩
  obtain ⟨i, hi⟩ := List.mem_iff_getElem?.1 (h.registered.applied (Or.inr (Or.inr hpc)))
  have hrevents := sourceRevents_poll h.attached he hi
  rw [if_pos hreadable] at hrevents
  have hdue : Due signals (LoopRun.next w.sys (.poll (.ready revents))) 0 :=
    Or.inr ⟨i, i.zero_le, hi, by rw [hrevents]; decide⟩
  have hmove := moves_next w.sys _ he.2.1
  rw [hpc] at hmove
  rw [Ending]
  generalize hpc' : (LoopRun.next w.sys (.poll (.ready revents))).pc = pc at hmove
  cases hmove with
  | wakeReady => simpa only [next, hpc'] using hdue
  | wakeQuiet _ h => rcases h with rfl | rfl <;> simpa only [next, hpc'] using hdue

theorem ending_read {signals : Src} {w : World Src} (h : Attached signals w) {signum : Int}
    (he : enabled signals w (.read signum)) : Ending signals (next signals w (.read signum)) := by
  rcases h.body with hidle | ⟨i, hpc, hi⟩
  · rw [he.2.1] at hidle
    cases hidle
  · rw [Ending]
    simp only [next, hpc]
    exact Or.inr ⟨hi, Or.inl he.2.1⟩

theorem pending_raise {k : Kernel} {x : Int} (signum : Int) (hp : x ∈ k.pending) :
    x ∈ (k.raise signum).pending := by
  rw [Kernel.raise]
  split_ifs
  · exact hp
  · exact List.mem_append_left _ hp
  · exact hp

theorem mask_next (signals : Src) (w : World Src) (a : Action Src) :
    (next signals w a).source = w.source := by
  cases a <;> rfl

/-- While a signal is pending, run() polls without an error at most once more. -/
theorem pending_polls {signals : Src} {w : World Src} (h : Watched signals w) {signum : Int}
    (hp : signum ∈ w.kernel.pending) (hm : signum ∈ w.source.mask) {as : List (Action Src)}
    (hv : (system signals).Valid w as) (hk : ∀ a ∈ as, Keeps signals a)
    (hf : ∀ e, .loop (.finalLoad e) ∉ as) : as.countP readyPoll ≤ 1 := by
  induction as generalizing w with
  | nil => simp
  | cons a as ih =>
      have hf' : ∀ e, .loop (.finalLoad e) ∉ as := fun e he => hf e (List.mem_cons_of_mem _ he)
      have hw := watched_next signals w a h hv.1 (hk a List.mem_cons_self)
      have hm' : signum ∈ (next signals w a).source.mask := by
        rw [mask_next]
        exact hm
      have hrest (hp' : signum ∈ (next signals w a).kernel.pending) : as.countP readyPoll ≤ 1 :=
        ih hw hp' hm' hv.2 (fun b hb => hk b (List.mem_cons_of_mem _ hb)) hf'
      rw [List.countP_cons]
      cases a with
      | raise x => exact hrest (pending_raise x hp)
      | stop => exact hrest hp
      | read x =>
          have hend := ending_polls (ending_read h.attached hv.1) hv.2 hf'
          simp [hend, readyPoll]
      | loop a =>
          by_cases hr : readyPoll (.loop a) = true
          · match a with
            | .poll (.ready revents) =>
                have hend := ending_polls (ending_poll h hp hm hv.1) hv.2 hf'
                simp [hend, readyPoll]
          · rw [if_neg hr]
            exact hrest hp

/-- poll() has the signalfd among its descriptors, and a signal to report on it. -/
def Wakes (w : World Src) : Prop :=
  w.Readable ∧ ⟨w.source.fd, POLLIN, 0⟩ ∈ w.sys.polled.pfds

def Answered (signum : Int) (w : World Src) : Prop :=
  w.kernel.terminated = true ∨ signum ∈ w.received ∨
    signum ∈ w.kernel.pending ∧ (w.sys.pc = .polling → Wakes w)

omit [DecidableEq Src] in
theorem wakes_of_polling {signals : Src} {w : World Src} (h : Watched signals w) {signum : Int}
    (hp : signum ∈ w.kernel.pending) (hm : signum ∈ w.source.mask) (hpc : w.sys.pc = .polling) :
    Wakes w := by
  obtain ⟨i, hi⟩ := List.mem_iff_getElem?.1 (h.registered.applied (Or.inr (Or.inr hpc)))
  exact ⟨⟨h.consumed.reader signum hm (h.consumed.pending signum hp), signum, hp, hm⟩,
    List.mem_of_getElem? (h.attached.polled hpc i hi)⟩

theorem kept_pending {signals : Src} {w : World Src} {signum : Int}
    (h : signum ∈ w.received ∨ signum ∈ w.kernel.pending) (a : Action Src) :
    signum ∈ (next signals w a).received ∨ signum ∈ (next signals w a).kernel.pending := by
  rcases h with h | h
  · left
    cases a with
    | read x => exact List.mem_append_left _ h
    | _ => exact h
  · cases a with
    | read x =>
        by_cases hx : signum = x
        · exact Or.inl (hx ▸ List.mem_append_right _ (List.mem_singleton_self _))
        · exact Or.inr (List.mem_filter.2 ⟨h, by simpa using hx⟩)
    | raise x => exact Or.inr (pending_raise x h)
    | _ => exact Or.inr h

theorem blocked_next (signals : Src) (w : World Src) (a : Action Src)
    (h : w.kernel.terminated = false ∧ ∀ x ∈ w.source.mask, x ∈ w.kernel.blocked)
    (he : enabled signals w a) :
    (next signals w a).kernel.terminated = false ∧
      ∀ x ∈ (next signals w a).source.mask, x ∈ (next signals w a).kernel.blocked := by
  cases a with
  | raise x =>
      have hb := h.2 x he.2
      simpa [next, Kernel.raise, hb] using h
  | _ => exact h

theorem eq_nil_of_terminated {signals : Src} {w : World Src} (h : w.kernel.terminated = true)
    {as : List (Action Src)} (hv : (system signals).Valid w as) : as = [] := by
  cases as with
  | nil => rfl
  | cons a as =>
      have he : enabled signals w a := hv.1
      cases a <;> exact absurd (h.symm.trans he.1) (by simp)

theorem mem_pending_raise {k : Kernel} {signum : Int} (h : signum ∈ k.blocked) :
    signum ∈ (k.raise signum).pending := by
  rw [Kernel.raise, if_pos h]
  split_ifs with hp
  · exact hp
  · exact List.mem_append_right _ (List.mem_singleton_self _)

omit [DecidableEq Src] in
theorem attached_initial (signals : Src) (wakeFd : Int) (mask blocked : List Int) (blocks : Bool)
    (signalfd : Option Nat) :
    Attached signals (initial wakeFd mask blocked blocks signalfd) := by
  cases signalfd with
  | some fd =>
      refine ⟨?_, fun h => ?_, False.elim, Or.inl rfl⟩
      · simp [initial, construct, LoopRun.initial, EventLoop.init]
      · cases h
  | none =>
      refine ⟨?_, fun h => ?_, False.elim, Or.inl rfl⟩
      · simp [initial, construct, LoopRun.initial, EventLoop.init]
      · cases h

omit [DecidableEq Src] in
theorem blocked_initial (wakeFd : Int) (mask blocked : List Int) (fd : Nat) :
    (initial wakeFd mask blocked true (some fd) : World Src).kernel.terminated = false ∧
      ∀ x ∈ mask, x ∈ (initial wakeFd mask blocked true (some fd) : World Src).kernel.blocked :=
  ⟨rfl, fun _ h => List.mem_append_right _ h⟩

/-- However the constructor went, after a signal run() polls without an error at
most once more, that poll() does not wait, and the signal is not lost; and no signal
ends the process, if the constructor succeeded. -/
theorem signal_stops_run (signals : Src) (wakeFd : Int) (mask blocked : List Int) (blocks : Bool)
    (signalfd : Option Nat) (as bs : List (Action Src)) (signum : Int)
    (hv : (system signals).Valid (initial wakeFd mask blocked blocks signalfd)
      (as ++ .raise signum :: bs))
    (hadd : .loop (.add signals) ∈ as) (hkeeps : ∀ a ∈ as ++ bs, Keeps signals a)
    (hrun : ∀ e, .loop (.finalLoad e) ∉ bs) :
    let w := (system signals).after (initial wakeFd mask blocked blocks signalfd)
      (as ++ .raise signum :: bs)
    bs.countP readyPoll ≤ 1 ∧ Answered signum w ∧
      (blocks = true → signalfd.isSome → w.kernel.terminated = false) := by
  intro w
  have hsafe : blocks = true → signalfd.isSome → w.kernel.terminated = false := by
    rintro rfl hsome
    obtain ⟨fd, rfl⟩ := Option.isSome_iff_exists.1 hsome
    exact ((system signals).invariant (blocked_next signals)
      (blocked_initial wakeFd mask blocked fd) hv).1
  rw [System.valid_append, System.valid_cons] at hv
  have hw := watched_after (consumed_construct mask blocked blocks signalfd wakeFd)
    (attached_initial signals wakeFd mask blocked blocks signalfd) hv.1
    (fun a ha => hkeeps a (List.mem_append_left _ ha)) hadd
  have hraised := watched_next signals _ (.raise signum) hw hv.2.1 ⟨by simp, by simp⟩
  have hafter : w = (system signals).after (next signals ((system signals).after
      (initial wakeFd mask blocked blocks signalfd) as) (.raise signum)) bs :=
    System.after_append _ _ _ _
  rw [hafter]
  rw [hafter] at hsafe
  generalize (system signals).after (initial wakeFd mask blocked blocks signalfd) as = v at *
  by_cases hb : signum ∈ v.kernel.blocked
  · have hp : signum ∈ (next signals v (.raise signum)).kernel.pending := mem_pending_raise hb
    have hm : signum ∈ (next signals v (.raise signum)).source.mask := hv.2.1.2
    have hkeeps' : ∀ a ∈ bs, Keeps signals a := fun a ha => hkeeps a (List.mem_append_right _ ha)
    refine ⟨pending_polls hraised hp hm hv.2.2 hkeeps' hrun, Or.inr ?_, hsafe⟩
    have hlast := (system signals).invariant_along (J := fun u => Watched signals u ∧
        signum ∈ u.source.mask ∧ (signum ∈ u.received ∨ signum ∈ u.kernel.pending))
      (fun u a hu he hk => ⟨watched_next signals u a hu.1 he hk,
        (mask_next signals u a).symm ▸ hu.2.1, kept_pending hu.2.2 a⟩)
      ⟨hraised, hm, Or.inr hp⟩ hv.2.2 (((system signals).along_action_iff _ bs).2 hkeeps')
    rcases hlast.2.2 with hreceived | hpending
    · exact Or.inl hreceived
    · exact Or.inr ⟨hpending, wakes_of_polling hlast.1 hpending hlast.2.1⟩
  · have hterminated : (next signals v (.raise signum)).kernel.terminated = true := by
      simp [next, Kernel.raise, hb]
    obtain rfl := eq_nil_of_terminated hterminated hv.2.2
    exact ⟨Nat.zero_le 1, Or.inl hterminated, hsafe⟩

/-- SIGTERM arrives while the loop is about to wait. -/
def sigterm : List (Action Nat) :=
  [.loop (.poll (.ready [0, POLLIN, POLLIN])), .loop .drain, .loop .drain,
    .loop (.dispatchNext 0), .read 15, .stop, .loop (.stopStep 0), .loop (.stopStep 0),
    .loop (.stopStep 0), .loop (.dispatchReturn 0), .loop (.dispatchNext 1), .loop .whileTest]

def waiting : List (Action Nat) :=
  [.loop (.add 0), .loop .callRun, .loop .storeRunning, .loop .whileTest, .loop .applyPending,
    .loop .breakTest, .loop (.buildPollSet ⟨5, POLLIN, -1⟩ fun _ => (4, POLLIN))]

theorem signal_stops_run_sigterm :
    sigterm.countP readyPoll ≤ 1 ∧
      Answered 15 ((system 0).after (initial 3 [2, 15] [] true (some 4))
        (waiting ++ .raise 15 :: sigterm)) :=
  have h := signal_stops_run 0 3 [2, 15] [] true (some 4) waiting sigterm 15 (by decide)
    (by simp [waiting]) (by simp [waiting, sigterm, Keeps]) (by simp [sigterm])
  ⟨h.1, h.2.1⟩

end SdbusExamples.SignalSource
