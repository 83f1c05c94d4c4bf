import SdbusExamples.LatestEvents

namespace SdbusExamples.SnapshotStreams

open LatestEvents

variable {E : Type} (sets : E → Option Bool)

/-- One key of a source that is followed by its events `es`, which are still to
come: a copy of it is the source once they have been played on it. -/
def Synced (source copy : Bool) (es : List E) : Prop := latest sets copy es = source

def Trails (source copy : Bool) (es : List E) : Prop :=
  ∃ b, latest sets b es = source ∧ (copy = true → b = true)

variable {sets} {source copy : Bool} {es fs : List E}

theorem Synced.change (h : Synced sets source copy es) (e : E) :
    Synced sets ((sets e).getD source) copy (es ++ [e]) := by
  rw [Synced, latest_append, h]
  rfl

theorem Synced.deliver {e : E} (h : Synced sets source copy (e :: es)) :
    Synced sets source ((sets e).getD copy) es := h

theorem Synced.trails (h : Synced sets source copy es) : Trails sets source copy es :=
  ⟨copy, h, id⟩

theorem trails_empty (source : Bool) (h : ∀ e ∈ es, sets e = none) :
    Trails sets source false es :=
  ⟨source, latest_of_untouched h source, fun hb => absurd hb Bool.false_ne_true⟩

theorem Trails.change (h : Trails sets source copy es) (e : E) :
    Trails sets ((sets e).getD source) copy (es ++ [e]) := by
  obtain ⟨b, hb, hle⟩ := h
  exact ⟨b, Synced.change hb e, hle⟩

theorem Trails.deliver {e : E} (h : Trails sets source copy (e :: es)) :
    Trails sets source ((sets e).getD copy) es := by
  obtain ⟨b, hb, hle⟩ := h
  refine ⟨(sets e).getD b, hb, ?_⟩
  cases sets e with
  | none => exact hle
  | some v => exact id

theorem Trails.drop {e : E} (h : Trails sets source copy (e :: es)) (he : sets e ≠ some false) :
    Trails sets source copy es := by
  obtain ⟨b, hb, hle⟩ := h
  refine ⟨(sets e).getD b, hb, fun hcopy => ?_⟩
  cases hset : sets e with
  | none => exact hle hcopy
  | some v =>
      cases v with
      | false => exact absurd hset he
      | true => rfl

theorem Trails.of_le {copy' : Bool} (h : Trails sets source copy es)
    (hle : copy' = true → copy = true) : Trails sets source copy' es := by
  obtain ⟨b, hb, hcopy⟩ := h
  exact ⟨b, hb, fun h' => hcopy (hle h')⟩

/-- The copy is joined with a snapshot of the source: the events, all of them
older, are played once more on what they have left. -/
theorem Trails.snapshot (h : Trails sets source copy es) :
    Synced sets source (copy || source) es := by
  obtain ⟨b, hb, hle⟩ := h
  rw [Synced]
  cases copy with
  | false =>
      rw [Bool.false_or, ← hb]
      exact latest_replay b es
  | true =>
      rw [Bool.true_or, ← hle rfl]
      exact hb

theorem Trails.copied (h : Trails sets true copy es) : Trails sets true true es := by
  have hsynced := h.snapshot.trails
  rwa [Bool.or_true] at hsynced

theorem Synced.congr (h : Synced sets source copy es)
    (hfs : ∀ b, latest sets b fs = latest sets b es) : Synced sets source copy fs :=
  (hfs copy).trans h

theorem Trails.congr (h : Trails sets source copy es)
    (hfs : ∀ b, latest sets b fs = latest sets b es) : Trails sets source copy fs := by
  obtain ⟨b, hb, hle⟩ := h
  exact ⟨b, (hfs b).trans hb, hle⟩

theorem Trails.replied (h : Trails sets source copy es) (hfs : latest sets copy fs = (copy || source)) :
    Synced sets source copy (fs ++ es) := by
  rw [Synced, latest_append, hfs]
  exact h.snapshot

end SdbusExamples.SnapshotStreams
