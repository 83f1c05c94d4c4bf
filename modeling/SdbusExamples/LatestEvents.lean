import Mathlib.Data.List.Induction

namespace SdbusExamples.LatestEvents

variable {E B : Type} (sets : E → Option B)

/-- What the last event that sets a value leaves, starting from `b`. -/
def latest (b : B) (es : List E) : B := es.foldl (fun b e => (sets e).getD b) b

@[simp] theorem latest_nil (b : B) : latest sets b [] = b := rfl

@[simp] theorem latest_cons (b : B) (e : E) (es : List E) :
    latest sets b (e :: es) = latest sets ((sets e).getD b) es := rfl

theorem latest_append (b : B) (es fs : List E) :
    latest sets b (es ++ fs) = latest sets (latest sets b es) fs := List.foldl_append

theorem latest_map {F : Type} (f : F → E) (b : B) (fs : List F) :
    latest sets b (fs.map f) = latest (fun e => sets (f e)) b fs := List.foldl_map

variable {sets}

theorem latest_of_untouched {es : List E} (h : ∀ e ∈ es, sets e = none) (b : B) :
    latest sets b es = b := by
  induction es with
  | nil => rfl
  | cons e es ih =>
      rw [List.forall_mem_cons] at h
      rw [latest_cons, h.1]
      exact ih h.2

theorem latest_of_ne {b v : B} {es : List E} (h : latest sets b es = v) (hb : v ≠ b) (b' : B) :
    latest sets b' es = v := by
  induction es generalizing b' with
  | nil => exact absurd h.symm hb
  | cons e es ih =>
      rw [latest_cons] at h ⊢
      cases he : sets e with
      | none =>
          rw [he] at h
          exact ih h b'
      | some w =>
          rw [he] at h
          exact h

theorem latest_of_touched {es : List E} (h : ∃ e ∈ es, sets e ≠ none) (b b' : B) :
    latest sets b es = latest sets b' es := by
  induction es generalizing b b' with
  | nil =>
      obtain ⟨e, he, -⟩ := h
      cases he
  | cons e es ih =>
      rw [latest_cons, latest_cons]
      cases he : sets e with
      | none =>
          obtain ⟨f, hf, hset⟩ := h
          rcases List.mem_cons.1 hf with rfl | hf
          · exact absurd he hset
          · exact ih ⟨f, hf, hset⟩ _ _
      | some v => rfl

/-- If the events are replayed on what they have left, nothing changes. -/
theorem latest_replay (b : B) (es : List E) :
    latest sets (latest sets b es) es = latest sets b es := by
  by_cases hb : latest sets b es = b
  · rw [hb, hb]
  · exact latest_of_ne rfl hb _

theorem exists_last_of_latest {b v : B} {es : List E} (h : latest sets b es = v) (hb : v ≠ b) :
    ∃ pre e post, es = pre ++ e :: post ∧ sets e = some v ∧ ∀ f ∈ post, sets f = none := by
  induction es using List.reverseRecOn with
  | nil => exact absurd h.symm hb
  | append_singleton es e ih =>
      rw [latest_append, latest_cons, latest_nil] at h
      cases he : sets e with
      | none =>
          rw [he, Option.getD_none] at h
          obtain ⟨pre, f, post, rfl, hf, hpost⟩ := ih h
          refine ⟨pre, f, post ++ [e], by simp, hf, ?_⟩
          rw [List.forall_mem_append, List.forall_mem_singleton]
          exact ⟨hpost, he⟩
      | some w =>
          rw [he, Option.getD_some] at h
          exact ⟨es, e, [], rfl, by rw [he, h], by simp⟩

def Each (P : List E → E → Prop) (es : List E) : Prop :=
  ∀ pre e post, es = pre ++ e :: post → P pre e

theorem each_nil (P : List E → E → Prop) : Each P [] := by
  intro pre e post h
  cases pre <;> cases h

theorem each_concat {P : List E → E → Prop} {es : List E} (h : Each P es) {e : E} (he : P es e) :
    Each P (es ++ [e]) := by
  intro pre f post hsplit
  rcases List.eq_nil_or_concat post with rfl | ⟨post, g, rfl⟩
  · obtain ⟨rfl, hlast⟩ := List.append_inj' hsplit rfl
    rw [List.cons.injEq] at hlast
    rw [← hlast.1]
    exact he
  · rw [List.concat_eq_append, ← List.cons_append, ← List.append_assoc] at hsplit
    obtain ⟨hes, -⟩ := List.append_inj' hsplit rfl
    exact h pre f post hes

end SdbusExamples.LatestEvents
