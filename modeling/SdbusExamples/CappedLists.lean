import Mathlib.Data.List.Nodup
import SdbusExamples.LatestEvents

namespace SdbusExamples.CappedLists

open LatestEvents

inductive Change (α : Type)
  | add (a : α)
  | remove (a : α)

variable {α E : Type} [DecidableEq α] (limit : Nat) (change : E → Option (Change α))

def add (as : List α) (a : α) : List α :=
  if a ∈ as then as else if limit ≤ as.length then as else as ++ [a]

def remove (as : List α) (a : α) : List α := as.filter (· ≠ a)

def step (as : List α) (e : E) : List α :=
  match change e with
  | some (.add a) => add limit as a
  | some (.remove a) => remove as a
  | none => as

def after (es : List E) : List α := es.foldl (step limit change) []

/-- Whether the event leaves `a` wanted; `none` if it is not about `a`. -/
def wants (a : α) (e : E) : Option Bool :=
  match change e with
  | some (.add b) => if b = a then some true else none
  | some (.remove b) => if b = a then some false else none
  | none => none

/-- Event `i` took `a` into the list, which it has not left since. -/
structure InsertedAt (es : List E) (i : Nat) (a : α) : Prop where
  event : ∃ e, es[i]? = some e ∧ change e = some (.add a)
  absent : a ∉ after limit change (es.take i)
  stays : ∀ j, i < j → a ∈ after limit change (es.take j)

section Steps

theorem step_cases (as : List α) (e : E) :
    (∃ a, change e = some (.add a) ∧ a ∉ as ∧ as.length < limit ∧
      step limit change as e = as ++ [a]) ∨
    (∃ a, change e = some (.remove a) ∧ step limit change as e = remove as a) ∨
    ((∀ a, change e = some (.add a) → a ∈ as ∨ limit ≤ as.length) ∧
      (∀ a, change e ≠ some (.remove a)) ∧ step limit change as e = as) := by
  rw [step]
  cases h : change e with
  | none => exact .inr (.inr ⟨nofun, nofun, rfl⟩)
  | some c =>
      cases c with
      | remove a => exact .inr (.inl ⟨a, rfl, rfl⟩)
      | add a =>
          by_cases hkept : a ∈ as ∨ limit ≤ as.length
          · refine .inr (.inr ⟨?_, nofun, ?_⟩)
            · rintro b hb
              cases hb
              exact hkept
            · show add limit as a = as
              rw [add]
              split_ifs with hmem hfull
              · rfl
              · rfl
              · exact absurd hkept (not_or.2 ⟨hmem, hfull⟩)
          · obtain ⟨hmem, hroom⟩ := not_or.1 hkept
            refine .inl ⟨a, rfl, hmem, by omega, ?_⟩
            show add limit as a = as ++ [a]
            rw [add, if_neg hmem, if_neg hroom]

variable {limit change} {as : List α} {a b : α} {e : E}

theorem mem_remove : b ∈ remove as a ↔ b ∈ as ∧ b ≠ a := by
  rw [remove, List.mem_filter, decide_eq_true_eq]

theorem nodup_step (e : E) (h : as.Nodup) : (step limit change as e).Nodup := by
  obtain ⟨a, -, hnew, -, heq⟩ | ⟨a, -, heq⟩ | ⟨-, -, heq⟩ := step_cases limit change as e
  · rw [heq, ← List.concat_eq_append]
    exact h.concat hnew
  · rw [heq]
    exact h.filter _
  · rw [heq]
    exact h

theorem length_step_le (e : E) (h : as.length ≤ limit) :
    (step limit change as e).length ≤ limit := by
  obtain ⟨a, -, -, hroom, heq⟩ | ⟨a, -, heq⟩ | ⟨-, -, heq⟩ := step_cases limit change as e
  · rw [heq, List.length_append, List.length_singleton]
    exact hroom
  · rw [heq]
    exact Nat.le_trans (List.length_filter_le _ as) h
  · rw [heq]
    exact h

theorem mem_step_of_mem (hb : b ∈ as) (h : change e ≠ some (.remove b)) :
    b ∈ step limit change as e := by
  obtain ⟨a, -, -, -, heq⟩ | ⟨a, hremove, heq⟩ | ⟨-, -, heq⟩ :=
    step_cases limit change as e
  · rw [heq]
    exact List.mem_append_left [a] hb
  · rw [heq, mem_remove]
    refine ⟨hb, ?_⟩
    rintro rfl
    exact h hremove
  · rw [heq]
    exact hb

theorem mem_step_of_add (h : change e = some (.add a)) (hroom : as.length < limit) :
    a ∈ step limit change as e := by
  obtain ⟨b, hadd, -, -, heq⟩ | ⟨b, hremove, -⟩ | ⟨hkept, -, heq⟩ :=
    step_cases limit change as e
  · rw [h] at hadd
    cases hadd
    rw [heq]
    exact List.mem_append_right as (List.mem_singleton_self a)
  · rw [h] at hremove
    cases hremove
  · rw [heq]
    rcases hkept a h with hmem | hfull
    · exact hmem
    · omega

theorem of_mem_step (h : b ∈ step limit change as e) :
    b ∈ as ∧ change e ≠ some (.remove b) ∨ change e = some (.add b) := by
  obtain ⟨a, hadd, -, -, heq⟩ | ⟨a, hremove, heq⟩ | ⟨-, hremove, heq⟩ :=
    step_cases limit change as e
  · rw [heq, List.mem_append, List.mem_singleton] at h
    rcases h with h | rfl
    · refine .inl ⟨h, ?_⟩
      rw [hadd]
      exact nofun
    · exact .inr hadd
  · rw [heq, mem_remove] at h
    refine .inl ⟨h.1, ?_⟩
    rw [hremove]
    intro heq
    cases heq
    exact h.2 rfl
  · rw [heq] at h
    exact .inl ⟨h, hremove b⟩

theorem wants_of_add (h : change e = some (.add a)) : wants change a e = some true := by
  rw [wants, h]
  exact if_pos rfl

theorem wants_ne_some_false (h : change e ≠ some (.remove a)) : wants change a e ≠ some false := by
  rw [wants]
  split
  · split_ifs <;> nofun
  · next b hremove =>
      rw [if_neg]
      · nofun
      · rintro rfl
        exact h hremove
  · nofun

end Steps

section Runs

variable {limit change} {es : List E} {a b : α} {e : E} {i j : Nat}

@[simp] theorem after_nil : after limit change [] = [] := rfl

theorem after_append (es fs : List E) :
    after limit change (es ++ fs) = fs.foldl (step limit change) (after limit change es) :=
  List.foldl_append

theorem after_concat (es : List E) (e : E) :
    after limit change (es ++ [e]) = step limit change (after limit change es) e :=
  after_append es [e]

theorem nodup_after (es : List E) : (after limit change es).Nodup := by
  induction es using List.reverseRecOn with
  | nil => exact List.nodup_nil
  | append_singleton es e ih =>
      rw [after_concat]
      exact nodup_step e ih

theorem length_after_le (es : List E) : (after limit change es).length ≤ limit := by
  induction es using List.reverseRecOn with
  | nil => exact Nat.zero_le limit
  | append_singleton es e ih =>
      rw [after_concat]
      exact length_step_le e ih

theorem latest_of_mem (h : a ∈ after limit change es) : latest (wants change a) false es = true := by
  induction es using List.reverseRecOn with
  | nil => cases h
  | append_singleton es e ih =>
      rw [after_concat] at h
      rw [latest_append, latest_cons, latest_nil]
      rcases of_mem_step h with ⟨hmem, hremove⟩ | hadd
      · rw [ih hmem]
        have hwants := wants_ne_some_false hremove
        cases hw : wants change a e with
        | none => rfl
        | some w =>
            cases w
            · exact absurd hw hwants
            · rfl
      · rw [wants_of_add hadd]
        rfl

theorem mem_after_append (h : a ∈ after limit change es) {fs : List E}
    (hfs : ∀ e ∈ fs, change e ≠ some (.remove a)) : a ∈ after limit change (es ++ fs) := by
  induction fs using List.reverseRecOn with
  | nil =>
      rw [List.append_nil]
      exact h
  | append_singleton fs e ih =>
      rw [List.forall_mem_append, List.forall_mem_singleton] at hfs
      rw [← List.append_assoc, after_concat]
      exact mem_step_of_mem (ih hfs.1) hfs.2

/-- Who was added while there was room is missing only after a removal. -/
theorem full_of_not_mem {pre post : List E} (hadd : change e = some (.add a))
    (hpost : ∀ f ∈ post, change f ≠ some (.remove a))
    (h : a ∉ after limit change (pre ++ e :: post)) : limit ≤ (after limit change pre).length := by
  by_contra hroom
  apply h
  rw [List.append_cons]
  apply mem_after_append _ hpost
  rw [after_concat]
  exact mem_step_of_add hadd (by omega)

end Runs

section Order

variable {limit change} {es : List E} {a b : α} {e : E} {i j : Nat}

namespace InsertedAt

theorem lt_length (h : InsertedAt limit change es i a) : i < es.length := by
  obtain ⟨e, he, -⟩ := h.event
  exact (List.getElem?_eq_some_iff.1 he).1

theorem unique (hi : InsertedAt limit change es i a) (hj : InsertedAt limit change es j a) :
    i = j := by
  rcases Nat.lt_trichotomy i j with h | h | h
  · exact absurd (hi.stays j h) hj.absent
  · exact h
  · exact absurd (hj.stays i h) hi.absent

theorem concat (h : InsertedAt limit change es i a) (ha : a ∈ after limit change (es ++ [e])) :
    InsertedAt limit change (es ++ [e]) i a := by
  have hi := h.lt_length
  obtain ⟨f, hf, hadd⟩ := h.event
  refine ⟨⟨f, ?_, hadd⟩, ?_, ?_⟩
  · rw [List.getElem?_append_left hi, hf]
  · rw [List.take_append_of_le_length (by omega)]
    exact h.absent
  · intro j hj
    by_cases hle : j ≤ es.length
    · rw [List.take_append_of_le_length hle]
      exact h.stays j hj
    · rw [List.take_of_length_le (by simp; omega)]
      exact ha

theorem of_concat (h : InsertedAt limit change (es ++ [e]) i a) (ha : a ∈ after limit change es) :
    InsertedAt limit change es i a := by
  have hlen := h.lt_length
  rw [List.length_append, List.length_singleton] at hlen
  have hi : i < es.length := by
    by_contra hge
    have habsent := h.absent
    rw [show i = es.length by omega, List.take_left] at habsent
    exact habsent ha
  have htake {j : Nat} (hle : j ≤ es.length) : (es ++ [e]).take j = es.take j :=
    List.take_append_of_le_length hle
  obtain ⟨f, hf, hadd⟩ := h.event
  refine ⟨⟨f, ?_, hadd⟩, ?_, ?_⟩
  · rw [← hf, List.getElem?_append_left hi]
  · rw [← htake (Nat.le_of_lt hi)]
    exact h.absent
  · intro j hj
    by_cases hle : j ≤ es.length
    · rw [← htake hle]
      exact h.stays j hj
    · rw [List.take_of_length_le (by omega)]
      exact ha

theorem last (hadd : change e = some (.add a)) (hnew : a ∉ after limit change es)
    (ha : a ∈ after limit change (es ++ [e])) : InsertedAt limit change (es ++ [e]) es.length a := by
  refine ⟨⟨e, ?_, hadd⟩, ?_, ?_⟩
  · rw [List.getElem?_concat_length]
  · rw [List.take_left]
    exact hnew
  · intro j hj
    rw [List.take_of_length_le (by simp; omega)]
    exact ha

end InsertedAt

theorem exists_insertedAt (h : a ∈ after limit change es) : ∃ i, InsertedAt limit change es i a := by
  induction es using List.reverseRecOn with
  | nil => cases h
  | append_singleton es e ih =>
      by_cases hmem : a ∈ after limit change es
      · obtain ⟨i, hi⟩ := ih hmem
        exact ⟨i, hi.concat h⟩
      · have hstep := h
        rw [after_concat] at hstep
        rcases of_mem_step hstep with ⟨hold, -⟩ | hadd
        · exact absurd hold hmem
        · exact ⟨es.length, .last hadd hmem h⟩

theorem after_in_order (es : List E) :
    (after limit change es).Pairwise fun a b =>
      ∀ i j, InsertedAt limit change es i a → InsertedAt limit change es j b → i < j := by
  induction es using List.reverseRecOn with
  | nil => exact List.Pairwise.nil
  | append_singleton es e ih =>
      have hold : (after limit change es).Pairwise fun a b => ∀ i j,
          InsertedAt limit change (es ++ [e]) i a → InsertedAt limit change (es ++ [e]) j b → i < j := by
        refine ih.imp_of_mem ?_
        intro a b ha hb hab i j hi hj
        exact hab i j (hi.of_concat ha) (hj.of_concat hb)
      rw [after_concat]
      obtain ⟨a, hadd, hnew, hroom, heq⟩ | ⟨a, -, heq⟩ | ⟨-, -, heq⟩ :=
        step_cases limit change (after limit change es) e
      · have ha : a ∈ after limit change (es ++ [e]) := by
          rw [after_concat]
          exact mem_step_of_add hadd hroom
        rw [heq, List.pairwise_append]
        refine ⟨hold, List.pairwise_singleton _ a, ?_⟩
        intro b hb c hc i j hi hj
        rw [List.mem_singleton.1 hc] at hj
        rw [hj.unique (.last hadd hnew ha)]
        exact (hi.of_concat hb).lt_length
      · rw [heq]
        exact hold.filter _
      · rw [heq]
        exact hold

end Order

end SdbusExamples.CappedLists
