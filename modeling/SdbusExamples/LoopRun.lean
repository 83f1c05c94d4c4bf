import SdbusExamples.LoopQueues
import SdbusExamples.Runs

namespace SdbusExamples.LoopRun

open LoopQueues Runs

abbrev Short := BitVec 16

def POLLIN : Short := 0x001
def POLLERR : Short := 0x008
def POLLHUP : Short := 0x010
def POLLNVAL : Short := 0x020

structure Pollfd where
  fd : Int
  events : Short
  revents : Short
deriving DecidableEq

/-- What getEventLoopPollData() returned; `eventFd` is negative when there is none. -/
structure PollData where
  fd : Int
  events : Short
  eventFd : Int
deriving DecidableEq

structure PollSet where
  pfds : List Pollfd
  dbusEventIdx : Option Nat
  wakeIdx : Nat
  firstSourceIdx : Nat
deriving DecidableEq

inductive PollResult
  | failed (eintr : Bool)
  | ready (revents : List Short)

inductive Exit
  | stopped
  | pollFailed
  | dbusError
deriving DecidableEq

/-- Where the thread of run() stands: before the statement of that name. -/
inductive Pc
  | outside
  | storeRunning
  | whileTest
  | applyPending
  | breakTest
  | buildPollSet
  | polling
  | draining
  | processing
  | dispatching (i : Nat)
  | inDispatch (i : Nat)
  | storeError (e : Exit)
  | finalLoad (e : Exit)
  | returned (e : Exit) (code : Int)
  | destroyed
deriving DecidableEq

inductive StopPc
  | storeCode
  | storeRunning
  | wake
  | done
deriving DecidableEq

structure StopCall where
  code : Int
  pc : StopPc
deriving DecidableEq

structure State (Src : Type) where
  loop : EventLoop Src
  pc : Pc
  polled : PollSet
  stops : List StopCall
deriving DecidableEq

inductive Action (Src : Type)
  | callRun
  | storeRunning
  | whileTest
  | applyPending
  | breakTest
  | buildPollSet (pd : PollData) (view : Src → Int × Short)
  | poll (r : PollResult)
  | drain
  | processed
  | dbusThrow
  | dispatchNext (i : Nat)
  | dispatchReturn (i : Nat)
  | storeError (e : Exit)
  | finalLoad (e : Exit)
  | add (source : Src)
  | remove (source : Src)
  | retire (source : Src)
  | callStop (code : Int)
  | stopStep (i : Nat)
  | destroy

variable {Src : Type}

def buildPollSet (pd : PollData) (view : Src → Int × Short) (l : EventLoop Src) : PollSet :=
  let dbus : Pollfd := ⟨pd.fd, pd.events, 0⟩
  let wake : Pollfd := ⟨l.wakeFd, POLLIN, 0⟩
  let sources := l.sources.map fun s => (⟨(view s).1, (view s).2, 0⟩ : Pollfd)
  if 0 ≤ pd.eventFd then
    ⟨dbus :: ⟨pd.eventFd, POLLIN, 0⟩ :: wake :: sources, some 1, 2, 3⟩
  else
    ⟨dbus :: wake :: sources, none, 1, 2⟩

namespace PollSet

def report (p : PollSet) (revents : List Short) : PollSet :=
  { p with pfds := p.pfds.zipWith (fun f r => { f with revents := r }) revents }

def revents (p : PollSet) (i : Nat) : Short := ((p.pfds[i]?).map Pollfd.revents).getD 0

def n (p : PollSet) : Nat := p.pfds.countP (·.revents ≠ 0)

def dbusReady (p : PollSet) : Bool :=
  p.n = 0 || p.revents 0 ≠ 0 ||
    match p.dbusEventIdx with
    | some i => p.revents i ≠ 0
    | none => false

def wakeReady (p : PollSet) : Bool := p.revents p.wakeIdx &&& POLLIN ≠ 0

def afterDrain (p : PollSet) : Pc := if p.dbusReady then .processing else .dispatching 0

end PollSet

def Pc.idle : Pc → Bool
  | .outside | .returned _ _ => true
  | _ => false

/-- Where code outside the loop runs on the thread of the loop: before and
after run(), in a D-Bus callback, in a dispatch(). -/
def Pc.callback : Pc → Bool
  | .outside | .returned _ _ | .processing | .inDispatch _ => true
  | _ => false

def StopCall.step (c : StopCall) (l : EventLoop Src) : StopCall × EventLoop Src :=
  match c.pc with
  | .storeCode => (⟨c.code, .storeRunning⟩, { l with exitCode := c.code })
  | .storeRunning => (⟨c.code, .wake⟩, { l with running := false })
  | .wake => (⟨c.code, .done⟩, l.wake)
  | .done => (c, l)

def StopCall.Stored (c : StopCall) : Prop := c.pc = .wake ∨ c.pc = .done

instance (c : StopCall) : Decidable c.Stored :=
  inferInstanceAs (Decidable (c.pc = .wake ∨ c.pc = .done))

namespace State

def sourceRevents (s : State Src) (i : Nat) : Short :=
  s.polled.revents (s.polled.firstSourceIdx + i)

/-- The wake eventfd is readable exactly while its counter is positive. -/
def Reports (s : State Src) (revents : List Short) : Prop :=
  revents.length = s.polled.pfds.length ∧
    ((s.polled.report revents).wakeReady = true ↔ 0 ≤ s.loop.wakeFd ∧ 0 < s.loop.counter)

instance (s : State Src) (revents : List Short) : Decidable (s.Reports revents) :=
  inferInstanceAs (Decidable (_ ∧ _))

def drain (s : State Src) : State Src :=
  -- one read() takes the whole counter, and the next one fails with EAGAIN
  if 0 < s.loop.counter then { s with loop := { s.loop with counter := 0 } }
  else { s with pc := s.polled.afterDrain }

def dispatchNext (s : State Src) (i : Nat) : State Src :=
  if i < s.loop.sources.length then
    if s.sourceRevents i = 0 then { s with pc := .dispatching (i + 1) }
    else { s with pc := .inDispatch i }
  else { s with pc := .whileTest }

def dispatchReturn (s : State Src) (i : Nat) : State Src :=
  -- POLLNVAL is not in the mask
  let hungUp := s.sourceRevents i &&& (POLLHUP ||| POLLERR) ≠ 0
  { s with
    loop := match s.loop.sources[i]? with
      | some source => if hungUp then s.loop.remove source else s.loop
      | none => s.loop
    pc := .dispatching (i + 1) }

def stopStep (s : State Src) (i : Nat) : State Src :=
  match s.stops[i]? with
  | some c => { s with loop := (c.step s.loop).2, stops := s.stops.set i (c.step s.loop).1 }
  | none => s

end State

theorem afterDrain_eq (p : PollSet) : p.afterDrain = .processing ∨ p.afterDrain = .dispatching 0 := by
  rw [PollSet.afterDrain]
  split_ifs <;> simp

namespace State

theorem drain_pc (s : State Src) : s.drain.pc = s.pc ∨ s.drain.pc = s.polled.afterDrain := by
  rw [drain]
  split_ifs <;> simp

theorem dispatchNext_eq (s : State Src) (i : Nat) :
    ∃ pc, s.dispatchNext i = { s with pc } ∧
      (pc = .dispatching (i + 1) ∨ pc = .inDispatch i ∨ pc = .whileTest) := by
  rw [dispatchNext]
  split_ifs <;> exact ⟨_, rfl, by simp⟩

theorem dispatchReturn_eq (s : State Src) (i : Nat) :
    s.dispatchReturn i = { s with pc := .dispatching (i + 1) } ∨
      ∃ p, s.loop.sources[i]? = some p ∧
        s.dispatchReturn i = { s with loop := s.loop.remove p, pc := .dispatching (i + 1) } := by
  rw [dispatchReturn]
  cases h : s.loop.sources[i]? with
  | none => exact Or.inl rfl
  | some p =>
      simp only
      split_ifs
      · exact Or.inr ⟨p, rfl, rfl⟩
      · exact Or.inl rfl

@[simp] theorem stopStep_pc (s : State Src) (i : Nat) : (s.stopStep i).pc = s.pc := by
  rw [stopStep]
  split <;> rfl

theorem stopStep_of_lt (s : State Src) {i : Nat} (h : i < s.stops.length) :
    s.stopStep i = { s with
      loop := (s.stops[i].step s.loop).2
      stops := s.stops.set i (s.stops[i].step s.loop).1 } := by
  simp [stopStep, h]

end State

def enabled (s : State Src) : Action Src → Prop
  | .callRun => s.pc.idle
  | .storeRunning => s.pc = .storeRunning
  | .whileTest => s.pc = .whileTest
  | .applyPending => s.pc = .applyPending
  | .breakTest => s.pc = .breakTest
  | .buildPollSet _ _ => s.pc = .buildPollSet
  | .poll (.failed _) => s.pc = .polling
  | .poll (.ready revents) => s.pc = .polling ∧ s.Reports revents
  | .drain => s.pc = .draining
  | .processed | .dbusThrow => s.pc = .processing
  | .dispatchNext i => s.pc = .dispatching i
  | .dispatchReturn i => s.pc = .inDispatch i
  | .storeError e => s.pc = .storeError e
  | .finalLoad e => s.pc = .finalLoad e
  | .add _ | .remove _ | .retire _ => s.pc.callback
  | .callStop _ => s.pc ≠ .destroyed
  | .stopStep i => i < s.stops.length ∧ s.pc ≠ .destroyed
  | .destroy => s.pc.idle

instance : ∀ (s : State Src) (a : Action Src), Decidable (enabled s a)
  | s, .callRun | s, .destroy => inferInstanceAs (Decidable (s.pc.idle = true))
  | s, .storeRunning => inferInstanceAs (Decidable (s.pc = .storeRunning))
  | s, .whileTest => inferInstanceAs (Decidable (s.pc = .whileTest))
  | s, .applyPending => inferInstanceAs (Decidable (s.pc = .applyPending))
  | s, .breakTest => inferInstanceAs (Decidable (s.pc = .breakTest))
  | s, .buildPollSet _ _ => inferInstanceAs (Decidable (s.pc = .buildPollSet))
  | s, .poll (.failed _) => inferInstanceAs (Decidable (s.pc = .polling))
  | s, .poll (.ready revents) => inferInstanceAs (Decidable (s.pc = .polling ∧ s.Reports revents))
  | s, .drain => inferInstanceAs (Decidable (s.pc = .draining))
  | s, .processed | s, .dbusThrow => inferInstanceAs (Decidable (s.pc = .processing))
  | s, .dispatchNext i => inferInstanceAs (Decidable (s.pc = .dispatching i))
  | s, .dispatchReturn i => inferInstanceAs (Decidable (s.pc = .inDispatch i))
  | s, .storeError e => inferInstanceAs (Decidable (s.pc = .storeError e))
  | s, .finalLoad e => inferInstanceAs (Decidable (s.pc = .finalLoad e))
  | s, .add _ | s, .remove _ | s, .retire _ => inferInstanceAs (Decidable (s.pc.callback = true))
  | s, .callStop _ => inferInstanceAs (Decidable (s.pc ≠ .destroyed))
  | s, .stopStep i => inferInstanceAs (Decidable (i < s.stops.length ∧ s.pc ≠ .destroyed))

variable [DecidableEq Src]

def next (s : State Src) (a : Action Src) : State Src :=
  match a with
  | .callRun => { s with pc := .storeRunning }
  | .storeRunning => { s with loop := { s.loop with running := true }, pc := .whileTest }
  | .whileTest =>
      { s with pc := if s.loop.running then .applyPending else .finalLoad .stopped }
  | .applyPending => { s with loop := s.loop.applyPending, pc := .breakTest }
  | .breakTest =>
      { s with pc := if s.loop.running then .buildPollSet else .finalLoad .stopped }
  | .buildPollSet pd view =>
      { s with polled := LoopRun.buildPollSet pd view s.loop, pc := .polling }
  | .poll (.failed eintr) =>
      { s with pc := if eintr then .whileTest else .storeError .pollFailed }
  | .poll (.ready revents) =>
      let polled := s.polled.report revents
      { s with polled, pc := if polled.wakeReady then .draining else polled.afterDrain }
  | .drain => s.drain
  | .processed => { s with pc := .dispatching 0 }
  | .dbusThrow => { s with pc := .storeError .dbusError }
  | .dispatchNext i => s.dispatchNext i
  | .dispatchReturn i => s.dispatchReturn i
  | .storeError e => { s with loop := { s.loop with exitCode := 1 }, pc := .finalLoad e }
  | .finalLoad e => { s with pc := .returned e s.loop.exitCode }
  | .add source => { s with loop := s.loop.add source }
  | .remove source => { s with loop := s.loop.remove source }
  | .retire source => { s with loop := s.loop.retire source }
  | .callStop code => { s with stops := s.stops ++ [⟨code, .storeCode⟩] }
  | .stopStep i => s.stopStep i
  | .destroy => { s with loop := { s.loop with toRetire := [] }, pc := .destroyed }

def system (Src : Type) [DecidableEq Src] : System (State Src) (Action Src) := ⟨enabled, next⟩

instance (s : State Src) (a : Action Src) : Decidable ((system Src).enabled s a) :=
  inferInstanceAs (Decidable (enabled s a))

def initial (wakeFd : Int) : State Src := ⟨.init wakeFd, .outside, ⟨[], none, 0, 0⟩, []⟩

end SdbusExamples.LoopRun
