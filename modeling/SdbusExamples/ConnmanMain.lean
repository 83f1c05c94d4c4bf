import SdbusExamples.Runs
import Mathlib.Algebra.Group.Nat.Defs
import Mathlib.Data.List.Chain

namespace SdbusExamples.ConnmanMain

open Runs

def kConnectionCheckInterval : Nat := 30000
def kMonitorSleepInterval : Nat := 100

def kInitialReconnectDelay : Nat := 1
def kMaxReconnectDelay : Nat := 30

inductive Pc
  | whileTest
  | connecting
  | constructing
  | monitorTest
  | monitorSleep
  | monitorClock
  | monitorCheck
  | leaving
  | runningTest
  | breakTest
  | backingOff
  | returned
deriving DecidableEq

/-- `now` is the steady clock in milliseconds. `failures` counts the waits since
a client was constructed last, and `checks` has the times of the health checks
of the monitor loop after its start, the newest first. -/
structure State where
  pc : Pc
  running : Bool
  now : Nat
  lastCheck : Nat
  reconnectDelay : Nat
  failures : Nat
  checks : List Nat
deriving DecidableEq

/-- The steps, with what is decided outside: how long a call takes, and whether
it throws. -/
inductive Action
  | whileTest
  | connect (throws : Bool) (took : Nat)
  | construct (throws : Bool) (took : Nat)
  | monitorTest
  | monitorSleep (took : Nat)
  | monitorClock
  | isConnectionAlive (alive : Bool) (took : Nat)
  | leave (throws : Bool) (took : Nat)
  | runningTest
  | breakTest
  | backOff (took : Nat)
  | signalHandler

def enabled (s : State) : Action → Prop
  | .whileTest => s.pc = .whileTest
  | .connect _ _ => s.pc = .connecting
  | .construct _ _ => s.pc = .constructing
  | .monitorTest => s.pc = .monitorTest
  | .monitorSleep took => s.pc = .monitorSleep ∧ kMonitorSleepInterval ≤ took
  | .monitorClock => s.pc = .monitorClock
  | .isConnectionAlive _ _ => s.pc = .monitorCheck
  | .leave _ _ => s.pc = .leaving
  | .runningTest => s.pc = .runningTest
  | .breakTest => s.pc = .breakTest
  | .backOff took => s.pc = .backingOff ∧ 1000 * s.reconnectDelay ≤ took
  | .signalHandler => True

instance (s : State) : (a : Action) → Decidable (enabled s a)
  | .whileTest => inferInstanceAs (Decidable (s.pc = .whileTest))
  | .connect _ _ => inferInstanceAs (Decidable (s.pc = .connecting))
  | .construct _ _ => inferInstanceAs (Decidable (s.pc = .constructing))
  | .monitorTest => inferInstanceAs (Decidable (s.pc = .monitorTest))
  | .monitorSleep _ => inferInstanceAs (Decidable (_ ∧ _))
  | .monitorClock => inferInstanceAs (Decidable (s.pc = .monitorClock))
  | .isConnectionAlive _ _ => inferInstanceAs (Decidable (s.pc = .monitorCheck))
  | .leave _ _ => inferInstanceAs (Decidable (s.pc = .leaving))
  | .runningTest => inferInstanceAs (Decidable (s.pc = .runningTest))
  | .breakTest => inferInstanceAs (Decidable (s.pc = .breakTest))
  | .backOff _ => inferInstanceAs (Decidable (_ ∧ _))
  | .signalHandler => .isTrue trivial

def next (s : State) : Action → State
  | .whileTest => { s with pc := if s.running then .connecting else .returned }
  | .connect throws took =>
      { s with now := s.now + took, pc := if throws then .breakTest else .constructing }
  | .construct throws took =>
      let s := { s with now := s.now + took }
      if throws then { s with pc := .breakTest }
      -- monitorLoop() starts with the time of the last check
      else { s with
        pc := .monitorTest
        reconnectDelay := kInitialReconnectDelay
        failures := 0
        lastCheck := s.now
        checks := [s.now] }
  | .monitorTest => { s with pc := if s.running then .monitorSleep else .leaving }
  | .monitorSleep took => { s with now := s.now + took, pc := .monitorClock }
  | .monitorClock =>
      { s with
        pc := if kConnectionCheckInterval ≤ s.now - s.lastCheck then .monitorCheck
          else .monitorTest }
  | .isConnectionAlive alive took =>
      let s := { s with checks := s.now :: s.checks }
      if alive then
        { s with lastCheck := s.now, now := s.now + took, pc := .monitorTest }
      else { s with now := s.now + took, pc := .leaving }
  | .leave throws took =>
      { s with now := s.now + took, pc := if throws then .breakTest else .runningTest }
  | .runningTest => { s with pc := if s.running then .breakTest else .returned }
  | .breakTest => { s with pc := if s.running then .backingOff else .returned }
  | .backOff took =>
      { s with
        now := s.now + took
        reconnectDelay := min (s.reconnectDelay * 2) kMaxReconnectDelay
        failures := s.failures + 1
        pc := .whileTest }
  | .signalHandler => { s with running := false }

def system : System State Action := ⟨enabled, next⟩

instance (s : State) (a : Action) : Decidable (system.enabled s a) :=
  inferInstanceAs (Decidable (enabled s a))

def initial (now : Nat) : State := ⟨.whileTest, true, now, 0, kInitialReconnectDelay, 0, []⟩

/-- What is left to do for main() at most, once running is cleared. -/
def rank : Pc → Nat
  | .returned => 0
  | .whileTest | .runningTest | .breakTest => 1
  | .backingOff | .leaving => 2
  | .monitorTest => 3
  | .monitorCheck | .constructing => 4
  | .monitorClock | .connecting => 5
  | .monitorSleep => 6

theorem running_next {s : State} (hr : s.running = false) (a : Action) :
    (next s a).running = false := by
  cases a with
  | construct throws took => cases throws <;> exact hr
  | isConnectionAlive alive took => cases alive <;> exact hr
  | signalHandler => rfl
  | _ => exact hr

def Within (sleep check : Nat) : Action → Prop
  | .monitorSleep took => took ≤ sleep
  | .isConnectionAlive _ took => took ≤ check
  | _ => True

def Apart (sleep check later earlier : Nat) : Prop :=
  earlier + kConnectionCheckInterval ≤ later ∧
    later ≤ earlier + max kConnectionCheckInterval check + sleep

structure Watching (sleep check : Nat) (s : State) : Prop where
  checks : s.checks.IsChain (Apart sleep check)
  last : s.pc = .monitorTest ∨ s.pc = .monitorSleep ∨ s.pc = .monitorClock ∨ s.pc = .monitorCheck →
    s.checks.head? = some s.lastCheck ∧ s.lastCheck ≤ s.now
  tested : s.pc = .monitorTest ∨ s.pc = .monitorSleep →
    s.now ≤ s.lastCheck + max kConnectionCheckInterval check
  slept : s.pc = .monitorClock ∨ s.pc = .monitorCheck →
    s.now ≤ s.lastCheck + max kConnectionCheckInterval check + sleep
  due : s.pc = .monitorCheck → s.lastCheck + kConnectionCheckInterval ≤ s.now

theorem watching_elsewhere {sleep check : Nat} {s : State}
    (h : s.checks.IsChain (Apart sleep check)) (hpc : s.pc = .whileTest ∨ s.pc = .connecting ∨
      s.pc = .constructing ∨ s.pc = .leaving ∨ s.pc = .runningTest ∨ s.pc = .breakTest ∨
      s.pc = .backingOff ∨ s.pc = .returned) : Watching sleep check s := by
  refine ⟨h, fun h' => ?_, fun h' => ?_, fun h' => ?_, fun h' => ?_⟩ <;>
    · exfalso
      rcases hpc with hpc | hpc | hpc | hpc | hpc | hpc | hpc | hpc <;> simp [hpc] at h'

theorem watching_check {sleep check : Nat} {s : State} (h : Watching sleep check s)
    (alive : Bool) {took : Nat} (he : s.pc = .monitorCheck) (ht : took ≤ check) :
    Watching sleep check (next s (.isConnectionAlive alive took)) := by
  have hchain : (s.now :: s.checks).IsChain (Apart sleep check) := by
    rw [List.isChain_cons]
    refine ⟨fun earlier hearlier => ?_, h.checks⟩
    rw [(h.last (Or.inr (Or.inr (Or.inr he)))).1, Option.mem_some_iff] at hearlier
    rw [← hearlier]
    exact ⟨h.due he, h.slept (Or.inr he)⟩
  cases alive with
  | false => exact watching_elsewhere hchain (by simp [next])
  | true =>
      refine ⟨hchain, fun _ => ⟨rfl, Nat.le_add_right _ _⟩, fun _ => ?_, fun hpc => ?_,
        fun hpc => ?_⟩
      · simp only [next, if_true]
        omega
      · simp [next] at hpc
      · simp [next] at hpc

theorem watching_next {sleep check : Nat} (s : State) (a : Action) (h : Watching sleep check s)
    (he : enabled s a) (hw : Within sleep check a) : Watching sleep check (next s a) := by
  cases a with
  | whileTest | runningTest | breakTest =>
      refine watching_elsewhere ?_ ?_
      · exact h.checks
      · simp only [next]
        split_ifs <;> simp
  | connect throws took | leave throws took =>
      refine watching_elsewhere ?_ ?_
      · exact h.checks
      · cases throws <;> simp [next]
  | construct throws took =>
      cases throws with
      | true => exact watching_elsewhere h.checks (by simp [next])
      | false =>
          refine ⟨List.isChain_singleton _, fun _ => ⟨rfl, Nat.le_refl _⟩, fun _ => ?_, fun hpc => ?_,
            fun hpc => ?_⟩
          · exact Nat.le_add_right _ _
          · simp [next] at hpc
          · simp [next] at hpc
  | backOff took => exact watching_elsewhere h.checks (by simp [next])
  | isConnectionAlive alive took => exact watching_check h alive he hw
  | monitorTest =>
      have hpc : s.pc = .monitorTest := he
      cases hr : s.running with
      | false => exact watching_elsewhere h.checks (by simp [next, hr])
      | true =>
          refine ⟨h.checks, fun _ => h.last (Or.inl hpc), fun _ => h.tested (Or.inl hpc),
            fun hpc' => ?_, fun hpc' => ?_⟩
          · simp [next, hr] at hpc'
          · simp [next, hr] at hpc'
  | monitorSleep took =>
      have hpc : s.pc = .monitorSleep := he.1
      have hlast := h.last (Or.inr (Or.inl hpc))
      have htested := h.tested (Or.inr hpc)
      have hw : took ≤ sleep := hw
      refine ⟨h.checks, fun _ => ⟨hlast.1, ?_⟩, fun hpc' => ?_, fun _ => ?_, fun hpc' => ?_⟩
      · exact Nat.le_add_right_of_le hlast.2
      · simp [next] at hpc'
      · simp only [next]
        omega
      · simp [next] at hpc'
  | monitorClock =>
      have hpc : s.pc = .monitorClock := he
      have hlast := h.last (Or.inr (Or.inr (Or.inl hpc)))
      by_cases hdue : kConnectionCheckInterval ≤ s.now - s.lastCheck
      · refine ⟨h.checks, fun _ => hlast, fun hpc' => ?_, fun _ => h.slept (Or.inl hpc), fun _ => ?_⟩
        · simp [next, hdue] at hpc'
        · simp only [next]
          omega
      · refine ⟨h.checks, fun _ => hlast, fun _ => ?_, fun hpc' => ?_, fun hpc' => ?_⟩
        · simp only [next]
          omega
        · simp [next, hdue] at hpc'
        · simp [next, hdue] at hpc'
  | signalHandler => exact ⟨h.checks, h.last, h.tested, h.slept, h.due⟩

/-- However long the calls take, the monitor loop checks the connection no more
often than it is to, and no later than one sleep after it is to or after the
last check is over. -/
theorem checks_spaced (now sleep check : Nat) (as : List Action)
    (hv : system.Valid (initial now) as) (hw : ∀ a ∈ as, Within sleep check a) :
    (system.after (initial now) as).checks.IsChain (Apart sleep check) := by
  have hstart : Watching sleep check (initial now) :=
    watching_elsewhere List.isChain_nil (Or.inl rfl)
  exact (system.invariant_along watching_next hstart hv
    ((system.along_action_iff _ as).2 hw)).checks

/-- The second check takes longer than the interval between checks. -/
def slowCheck : List Action :=
  [.whileTest, .connect false 5, .construct false 20, .monitorTest, .monitorSleep 30000,
    .monitorClock, .isConnectionAlive true 31000, .monitorTest, .monitorSleep 100, .monitorClock,
    .isConnectionAlive false 25000]

theorem checks_spaced_slowCheck :
    (system.after (initial 0) slowCheck).checks.IsChain (Apart 30000 31000) :=
  checks_spaced 0 30000 31000 slowCheck (by decide) (by simp [slowCheck, Within])

end SdbusExamples.ConnmanMain
