import Mathlib.Data.List.Basic
import Mathlib.Data.List.Nodup

namespace SdbusExamples.LoopQueues

variable {Src : Type}

/-- Largest value of an eventfd counter; a write that would pass it fails with EAGAIN. -/
def eventfdMax : Nat := 0xFFFFFFFFFFFFFFFE

/-- The members of EventLoop, together with the kernel counter behind its
eventfd. A source is identified by its address. -/
structure EventLoop (Src : Type) where
  wakeFd : Int
  counter : Nat
  running : Bool
  exitCode : Int
  sources : List Src
  toAdd : List Src
  toRemove : List Src
  toRetire : List Src
deriving DecidableEq

namespace EventLoop

/-- The constructor; `wakeFd` is what eventfd() returned, negative on failure. -/
def init (wakeFd : Int) : EventLoop Src := ⟨wakeFd, 0, false, 0, [], [], [], []⟩

def wake (l : EventLoop Src) : EventLoop Src :=
  if l.wakeFd < 0 then l
  else if l.counter < eventfdMax then { l with counter := l.counter + 1 }
  else l

def add (l : EventLoop Src) (source : Src) : EventLoop Src :=
  { l with toAdd := l.toAdd ++ [source] }.wake

def remove (l : EventLoop Src) (source : Src) : EventLoop Src :=
  { l with toRemove := l.toRemove ++ [source] }.wake

def retire (l : EventLoop Src) (source : Src) : EventLoop Src :=
  { l with toRemove := l.toRemove ++ [source], toRetire := l.toRetire ++ [source] }.wake

section

variable [DecidableEq Src]

def erase (sources : List Src) (source : Src) : List Src := sources.filter (· ≠ source)

def insert (toRemove : List Src) (sources : List Src) (source : Src) : List Src :=
  if source ∈ toRemove then sources
  else if source ∈ sources then sources
  else sources ++ [source]

def applyPending (l : EventLoop Src) : EventLoop Src :=
  { l with
    sources := l.toAdd.foldl (insert l.toRemove) (l.toRemove.foldl erase l.sources)
    toAdd := []
    toRemove := []
    -- the retired objects are destroyed last, with no pointer to them left in sources_
    toRetire := [] }

end

theorem wake_eq (l : EventLoop Src) : ∃ n, l.wake = { l with counter := n } := by
  rw [wake]
  split_ifs
  · exact ⟨l.counter, rfl⟩
  · exact ⟨l.counter + 1, rfl⟩
  · exact ⟨l.counter, rfl⟩

@[simp] theorem wake_wakeFd (l : EventLoop Src) : l.wake.wakeFd = l.wakeFd := by
  obtain ⟨n, h⟩ := l.wake_eq
  rw [h]

@[simp] theorem wake_running (l : EventLoop Src) : l.wake.running = l.running := by
  obtain ⟨n, h⟩ := l.wake_eq
  rw [h]

@[simp] theorem wake_exitCode (l : EventLoop Src) : l.wake.exitCode = l.exitCode := by
  obtain ⟨n, h⟩ := l.wake_eq
  rw [h]

@[simp] theorem wake_sources (l : EventLoop Src) : l.wake.sources = l.sources := by
  obtain ⟨n, h⟩ := l.wake_eq
  rw [h]

@[simp] theorem wake_toAdd (l : EventLoop Src) : l.wake.toAdd = l.toAdd := by
  obtain ⟨n, h⟩ := l.wake_eq
  rw [h]

@[simp] theorem wake_toRemove (l : EventLoop Src) : l.wake.toRemove = l.toRemove := by
  obtain ⟨n, h⟩ := l.wake_eq
  rw [h]

@[simp] theorem wake_toRetire (l : EventLoop Src) : l.wake.toRetire = l.toRetire := by
  obtain ⟨n, h⟩ := l.wake_eq
  rw [h]

theorem wake_counter_pos (l : EventLoop Src) (h : 0 ≤ l.wakeFd) : 0 < l.wake.counter := by
  have hf : ¬ l.wakeFd < 0 := by omega
  rw [wake]
  by_cases hc : l.counter < eventfdMax
  · simp [hf, hc]
  · have : 0 < eventfdMax := by decide
    simp only [hf, hc, if_false]
    omega

@[simp] theorem add_wakeFd (l : EventLoop Src) (p : Src) : (l.add p).wakeFd = l.wakeFd := by
  simp [add]

@[simp] theorem add_running (l : EventLoop Src) (p : Src) : (l.add p).running = l.running := by
  simp [add]

@[simp] theorem add_exitCode (l : EventLoop Src) (p : Src) : (l.add p).exitCode = l.exitCode := by
  simp [add]

@[simp] theorem add_sources (l : EventLoop Src) (p : Src) : (l.add p).sources = l.sources := by
  simp [add]

@[simp] theorem add_toAdd (l : EventLoop Src) (p : Src) : (l.add p).toAdd = l.toAdd ++ [p] := by
  simp [add]

@[simp] theorem add_toRemove (l : EventLoop Src) (p : Src) :
    (l.add p).toRemove = l.toRemove := by simp [add]

@[simp] theorem add_toRetire (l : EventLoop Src) (p : Src) :
    (l.add p).toRetire = l.toRetire := by simp [add]

@[simp] theorem remove_wakeFd (l : EventLoop Src) (p : Src) :
    (l.remove p).wakeFd = l.wakeFd := by simp [remove]

@[simp] theorem remove_running (l : EventLoop Src) (p : Src) :
    (l.remove p).running = l.running := by simp [remove]

@[simp] theorem remove_exitCode (l : EventLoop Src) (p : Src) :
    (l.remove p).exitCode = l.exitCode := by simp [remove]

@[simp] theorem remove_sources (l : EventLoop Src) (p : Src) :
    (l.remove p).sources = l.sources := by simp [remove]

@[simp] theorem remove_toAdd (l : EventLoop Src) (p : Src) :
    (l.remove p).toAdd = l.toAdd := by simp [remove]

@[simp] theorem remove_toRemove (l : EventLoop Src) (p : Src) :
    (l.remove p).toRemove = l.toRemove ++ [p] := by simp [remove]

@[simp] theorem remove_toRetire (l : EventLoop Src) (p : Src) :
    (l.remove p).toRetire = l.toRetire := by simp [remove]

@[simp] theorem retire_wakeFd (l : EventLoop Src) (p : Src) :
    (l.retire p).wakeFd = l.wakeFd := by simp [retire]

@[simp] theorem retire_running (l : EventLoop Src) (p : Src) :
    (l.retire p).running = l.running := by simp [retire]

@[simp] theorem retire_exitCode (l : EventLoop Src) (p : Src) :
    (l.retire p).exitCode = l.exitCode := by simp [retire]

@[simp] theorem retire_sources (l : EventLoop Src) (p : Src) :
    (l.retire p).sources = l.sources := by simp [retire]

@[simp] theorem retire_toAdd (l : EventLoop Src) (p : Src) :
    (l.retire p).toAdd = l.toAdd := by simp [retire]

@[simp] theorem retire_toRemove (l : EventLoop Src) (p : Src) :
    (l.retire p).toRemove = l.toRemove ++ [p] := by simp [retire]

@[simp] theorem retire_toRetire (l : EventLoop Src) (p : Src) :
    (l.retire p).toRetire = l.toRetire ++ [p] := by simp [retire]

section

variable [DecidableEq Src]

@[simp] theorem applyPending_toAdd (l : EventLoop Src) : l.applyPending.toAdd = [] := rfl

@[simp] theorem applyPending_toRemove (l : EventLoop Src) : l.applyPending.toRemove = [] := rfl

@[simp] theorem applyPending_toRetire (l : EventLoop Src) : l.applyPending.toRetire = [] := rfl

@[simp] theorem applyPending_running (l : EventLoop Src) :
    l.applyPending.running = l.running := rfl

@[simp] theorem applyPending_exitCode (l : EventLoop Src) :
    l.applyPending.exitCode = l.exitCode := rfl

@[simp] theorem applyPending_counter (l : EventLoop Src) :
    l.applyPending.counter = l.counter := rfl

@[simp] theorem applyPending_wakeFd (l : EventLoop Src) :
    l.applyPending.wakeFd = l.wakeFd := rfl

theorem foldl_erase (removed sources : List Src) :
    removed.foldl erase sources = sources.filter (· ∉ removed) := by
  induction removed generalizing sources with
  | nil => simp
  | cons p removed ih =>
      rw [List.foldl_cons, ih, erase, List.filter_filter]
      apply List.filter_congr
      intro q _
      simp only [List.mem_cons, not_or, ← Bool.decide_and, and_comm]

/-- The second loop only appends, and only sources that are queued for
addition, not queued for removal and not yet registered. -/
theorem foldl_insert (toRemove added sources : List Src) :
    ∃ new, added.foldl (insert toRemove) sources = sources ++ new ∧ new.Nodup ∧
      ∀ p, p ∈ new ↔ p ∈ added ∧ p ∉ toRemove ∧ p ∉ sources := by
  induction added generalizing sources with
  | nil => exact ⟨[], by simp⟩
  | cons p added ih =>
      rw [List.foldl_cons]
      by_cases hr : p ∈ toRemove
      · obtain ⟨new, he, hn, hm⟩ := ih sources
        refine ⟨new, by rw [insert, if_pos hr, he], hn, fun q => ?_⟩
        rw [hm, List.mem_cons]
        constructor
        · tauto
        · rintro ⟨rfl | hq, hq'⟩
          · exact absurd hr hq'.1
          · exact ⟨hq, hq'⟩
      · by_cases hs : p ∈ sources
        · obtain ⟨new, he, hn, hm⟩ := ih sources
          refine ⟨new, by rw [insert, if_neg hr, if_pos hs, he], hn, fun q => ?_⟩
          rw [hm, List.mem_cons]
          constructor
          · tauto
          · rintro ⟨rfl | hq, hq'⟩
            · exact absurd hs hq'.2
            · exact ⟨hq, hq'⟩
        · obtain ⟨new, he, hn, hm⟩ := ih (sources ++ [p])
          refine ⟨p :: new, by rw [insert, if_neg hr, if_neg hs, he]; simp, ?_, fun q => ?_⟩
          · rw [List.nodup_cons, hm]
            exact ⟨by simp, hn⟩
          · rw [List.mem_cons, List.mem_cons, hm, List.mem_append, List.mem_singleton]
            by_cases hq : q = p
            · subst hq; simp [hr, hs]
            · simp [hq]

theorem applyPending_sources (l : EventLoop Src) :
    ∃ new, l.applyPending.sources = l.sources.filter (· ∉ l.toRemove) ++ new ∧ new.Nodup ∧
      ∀ p, p ∈ new ↔ p ∈ l.toAdd ∧ p ∉ l.toRemove ∧ p ∉ l.sources := by
  obtain ⟨new, he, hn, hm⟩ := foldl_insert l.toRemove l.toAdd (l.sources.filter (· ∉ l.toRemove))
  refine ⟨new, by rw [applyPending, foldl_erase, he], hn, fun p => ?_⟩
  rw [hm, List.mem_filter]
  simp only [decide_eq_true_eq]
  tauto

theorem mem_applyPending_sources (l : EventLoop Src) (p : Src) :
    p ∈ l.applyPending.sources ↔ (p ∈ l.sources ∨ p ∈ l.toAdd) ∧ p ∉ l.toRemove := by
  obtain ⟨new, he, -, hm⟩ := l.applyPending_sources
  rw [he, List.mem_append, hm, List.mem_filter, decide_eq_true_eq]
  tauto

theorem applyPending_nodup (l : EventLoop Src) (h : l.sources.Nodup) :
    l.applyPending.sources.Nodup := by
  obtain ⟨new, he, hn, hm⟩ := l.applyPending_sources
  rw [he]
  refine List.nodup_append.2 ⟨h.filter _, hn, ?_⟩
  rintro p hp q hq rfl
  exact ((hm p).1 hq).2.2 (List.mem_of_mem_filter hp)

end

end EventLoop

end SdbusExamples.LoopQueues
