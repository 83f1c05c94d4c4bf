import Mathlib.Data.List.Basic

namespace SdbusExamples.MessageQueues

variable {M C : Type} {R : M → C → C → Prop} {K K' : C → Prop}

/-- Handling all of the queue, first message first, takes `c` into `K`,
whichever of the outcomes that `R` allows each message has. -/
def Leads (R : M → C → C → Prop) (K : C → Prop) : C → List M → Prop
  | c, [] => K c
  | c, m :: ms => ∀ d, R m c d → Leads R K d ms

@[simp] theorem leads_nil (c : C) : Leads R K c [] ↔ K c := Iff.rfl

@[simp] theorem leads_cons (c : C) (m : M) (ms : List M) :
    Leads R K c (m :: ms) ↔ ∀ d, R m c d → Leads R K d ms := Iff.rfl

theorem leads_append (c : C) (ms ns : List M) :
    Leads R K c (ms ++ ns) ↔ Leads R (fun d => Leads R K d ns) c ms := by
  induction ms generalizing c with
  | nil => rfl
  | cons m ms ih => simp only [List.cons_append, leads_cons, ih]

theorem Leads.mono (hk : ∀ c, K c → K' c) {c : C} {ms : List M} (h : Leads R K c ms) :
    Leads R K' c ms := by
  induction ms generalizing c with
  | nil => exact hk c h
  | cons m ms ih => exact fun d hd => ih (h d hd)

theorem Leads.send {c : C} {ms : List M} (h : Leads R K c ms) {m : M}
    (hm : ∀ d, K d → ∀ d', R m d d' → K' d') : Leads R K' c (ms ++ [m]) := by
  rw [leads_append]
  exact h.mono hm

theorem Leads.simulate {R' : M → C → C → Prop} {S : C → C → Prop} {ms : List M}
    (hstep : ∀ m ∈ ms, ∀ c c' d', S c c' → R' m c' d' → ∃ d, R m c d ∧ S d d')
    (hk : ∀ c c', S c c' → K c → K' c') {c c' : C} (hs : S c c') (h : Leads R K c ms) :
    Leads R' K' c' ms := by
  induction ms generalizing c c' with
  | nil => exact hk c c' hs h
  | cons m ms ih =>
      rw [List.forall_mem_cons] at hstep
      intro d' hd'
      obtain ⟨d, hd, hs'⟩ := hstep.1 c c' d' hs hd'
      exact ih hstep.2 hs' (h d hd)

theorem Leads.keep {R' : M → C → C → Prop} {I : C → Prop} {ms : List M}
    (hstep : ∀ m ∈ ms, ∀ c d, I c → R' m c d → R m c d ∧ I d) (hk : ∀ c, I c → K c → K' c)
    {c : C} (hi : I c) (h : Leads R K c ms) : Leads R' K' c ms := by
  refine Leads.simulate (S := fun c c' => c = c' ∧ I c) ?_ ?_ ⟨rfl, hi⟩ h
  · rintro m hm c _ d ⟨rfl, hc⟩ hd
    obtain ⟨hR, hd'⟩ := hstep m hm c d hc hd
    exact ⟨d, hR, rfl, hd'⟩
  · rintro c _ ⟨rfl, hc⟩ hKc
    exact hk c hc hKc

section Followed

variable {asks answers answers' : M → Prop} {ms ns : List M}

/-- Each message that asks for an answer is followed by one. -/
def Followed (asks answers : M → Prop) : List M → Prop
  | [] => True
  | m :: ms => (asks m → ∃ a ∈ ms, answers a) ∧ Followed asks answers ms

instance decidableFollowed [DecidablePred asks] [DecidablePred answers] :
    ∀ ms, Decidable (Followed asks answers ms)
  | [] => .isTrue trivial
  | m :: ms =>
      have := decidableFollowed ms
      inferInstanceAs (Decidable ((asks m → ∃ a ∈ ms, answers a) ∧ Followed asks answers ms))

theorem followed_of_quiet (h : ∀ m ∈ ms, ¬ asks m) : Followed asks answers ms := by
  induction ms with
  | nil => trivial
  | cons m ms ih =>
      rw [List.forall_mem_cons] at h
      exact ⟨fun hm => absurd hm h.1, ih h.2⟩

theorem Followed.append (h : Followed asks answers ms) (hns : Followed asks answers ns) :
    Followed asks answers (ms ++ ns) := by
  induction ms with
  | nil => exact hns
  | cons m ms ih =>
      refine ⟨fun hm => ?_, ih h.2⟩
      obtain ⟨a, ha, hanswers⟩ := h.1 hm
      exact ⟨a, List.mem_append_left ns ha, hanswers⟩

theorem followed_answer {a : M} (ha : answers a) (hasks : ¬ asks a) :
    Followed asks answers (ms ++ [a]) := by
  induction ms with
  | nil => exact ⟨fun h => absurd h hasks, trivial⟩
  | cons m ms ih => exact ⟨fun _ => ⟨a, by simp, ha⟩, ih⟩

theorem Followed.mono (h : ∀ m, answers m → answers' m) (hms : Followed asks answers ms) :
    Followed asks answers' ms := by
  induction ms with
  | nil => trivial
  | cons m ms ih =>
      refine ⟨fun hm => ?_, ih hms.2⟩
      obtain ⟨a, ha, hanswers⟩ := hms.1 hm
      exact ⟨a, ha, h a hanswers⟩

end Followed

end SdbusExamples.MessageQueues
