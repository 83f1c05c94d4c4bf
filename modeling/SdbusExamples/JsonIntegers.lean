import SdbusExamples.JsonOutline

namespace SdbusExamples.JsonIntegers

open Binary64 JsonDocuments JsonOutline OStreams PropertyTypes

def shown (d : Double) : Text := scalarToString (.number d)

theorem shown_of_exact {n : Int} {d : Double} (hd : Finite d) (hscaled : scaled d = n * one)
    (hn : n.natAbs ≤ 2 ^ 53) : shown d = decimal n := by
  have hone := one_pos
  have hone' : (one : Int) ≠ 0 := by omega
  have hsafe : SafeInteger d := by
    refine ⟨hd, ?_, ?_, ?_⟩
    · rw [hscaled]
      exact Int.mul_le_mul_of_nonneg_right (by rw [kMinSafeInt64]; omega) (by omega)
    · rw [hscaled]
      exact Int.mul_le_mul_of_nonneg_right (by rw [kMaxSafeInt64]; omega) (by omega)
    · rw [hscaled]
      exact Int.mul_emod_left n one
  rw [shown, scalarToString, if_pos hsafe, hscaled, Int.mul_ediv_cancel n hone']

theorem point_mem_shown {d : Double} (hd : Finite d)
    (h : scaled d < kMinSafeInt64 * one ∨ kMaxSafeInt64 * one < scaled d) : '.' ∈ shown d := by
  have hunsafe : ¬ SafeInteger d := by
    rintro ⟨-, hmin, hmax, -⟩
    omega
  obtain ⟨whole, zeros, fraction, heq⟩ := decimalDouble_of_finite hd
  rw [shown, scalarToString, if_neg hunsafe, heq]
  simp

/-- A number without a fractional part is the integer that was read. -/
def ShownExactly (n : Int) (d : Double) : Prop := '.' ∉ shown d → shown d = decimal n

theorem not_shownExactly_tie {d : Double} (h : Nearest (2 ^ 53 + 1) d) :
    ¬ ShownExactly (2 ^ 53 + 1) d := by
  have hshown : shown d = decimal (2 ^ 53) := shown_of_exact h.finite h.tie (by decide)
  rw [ShownExactly, hshown]
  decide

theorem not_shownExactly_negative_tie {d : Double} (h : Nearest (-(2 ^ 53 + 1)) d) :
    ¬ ShownExactly (-(2 ^ 53 + 1)) d := by
  have htie : scaled (negate d) = 2 ^ 53 * (one : Int) := h.negate.tie
  rw [scaled_negate] at htie
  have hshown : shown d = decimal (-2 ^ 53) :=
    shown_of_exact h.finite (by rw [Int.neg_mul]; omega) (by decide)
  rw [ShownExactly, hshown]
  decide

theorem shownExactly_iff {n : Int} {d : Double} (h : Nearest n d) :
    ShownExactly n d ↔ n ≠ 2 ^ 53 + 1 ∧ n ≠ -(2 ^ 53 + 1) := by
  by_cases hsmall : n.natAbs ≤ 2 ^ 53
  · exact iff_of_true (fun _ => shown_of_exact h.finite (h.exact hsmall) hsmall)
      ⟨by omega, by omega⟩
  by_cases htie : n = 2 ^ 53 + 1
  · subst htie
    exact iff_of_false (not_shownExactly_tie h) (fun hne => hne.1 rfl)
  by_cases hneg : n = -(2 ^ 53 + 1)
  · subst hneg
    exact iff_of_false (not_shownExactly_negative_tie h) (fun hne => hne.2 rfl)
  -- what is left is beyond the bounds, and so is the double
  have hpoint : '.' ∈ shown d := by
    apply point_mem_shown h.finite
    rcases Int.le_total 0 n with hpos | hnegative
    · right
      exact h.beyond (by omega)
    · left
      have hbeyond := h.negate.beyond (by omega)
      rw [scaled_negate] at hbeyond
      rw [kMinSafeInt64]
      omega
  exact iff_of_true (fun hnot => absurd hpoint hnot) ⟨htie, hneg⟩

/-- The document has the number at its root or at some path. -/
def Holds (doc : Json) (d : Double) : Prop :=
  doc = .number d ∨ ∃ path key, nodeAt doc path = some (key, .number d)

theorem Holds.shown {doc : Json} {d : Double} (h : Holds doc d) :
    ∃ before after, elementToLines doc 0 = before ++ shown d ++ ['\n'] ++ after := by
  rcases h with rfl | ⟨path, key, hnode⟩
  · refine ⟨[], [], ?_⟩
    rw [elementToLines_scalar rfl]
    simp [pad, JsonIntegers.shown]
  · have hmem := (mem_nodes doc path (key, .number d)).2 hnode
    have hcontainer : doc.isContainer = true := by
      by_contra hscalar
      rw [nodes_of_scalar (by simpa using hscalar)] at hmem
      cases hmem
    obtain ⟨first, last, hsplit⟩ := List.append_of_mem hmem
    obtain ⟨label, hline⟩ : ∃ label, line (0 + path.length) (key, .number d) =
        label ++ JsonIntegers.shown d := ⟨_, (List.append_assoc _ _ _).symm⟩
    refine ⟨first.flatMap (fun n => line (0 + n.1.length) n.2 ++ ['\n']) ++ label,
      last.flatMap fun n => line (0 + n.1.length) n.2 ++ ['\n'], ?_⟩
    rw [elementToLines_eq hcontainer, hsplit, List.flatMap_append, List.flatMap_cons, hline]
    simp only [List.append_assoc]

theorem parseDescriptionJson_ok {readJson : Text → Except Text Json} {json : Text} {doc : Json}
    (hne : json ≠ []) (hread : readJson json = .ok doc) :
    parseDescriptionJson readJson json = elementToLines doc 0 := by
  rw [parseDescriptionJson, if_neg hne, hread]

/-- Of all integers that a document can hold only the two next to the bounds of
the safe range are shown as other integers. -/
theorem integer_shownExactly_iff {readJson : Text → Except Text Json} {json : Text} {doc : Json}
    {n : Int} {d : Double} (hne : json ≠ []) (hread : readJson json = .ok doc)
    (hdoc : Holds doc d) (hn : Nearest n d) :
    (∃ before after,
        parseDescriptionJson readJson json = before ++ shown d ++ ['\n'] ++ after ∧
          ('.' ∉ shown d → shown d = decimal n)) ↔
      n ≠ 2 ^ 53 + 1 ∧ n ≠ -(2 ^ 53 + 1) := by
  rw [← shownExactly_iff hn, parseDescriptionJson_ok hne hread]
  obtain ⟨before, after, hshown⟩ := hdoc.shown
  constructor
  · rintro ⟨-, -, -, h⟩
    exact h
  · exact fun h => ⟨before, after, hshown, h⟩

/-- The document 9007199254740993. -/
def readTie : Text → Except Text Json := fun _ => .ok (.number (ofFields false 1076 0))

theorem integer_shownExactly_iff_tie :
    (∃ before after, parseDescriptionJson readTie "9007199254740993".toList =
        before ++ shown (ofFields false 1076 0) ++ ['\n'] ++ after ∧
          ('.' ∉ shown (ofFields false 1076 0) →
            shown (ofFields false 1076 0) = decimal (2 ^ 53 + 1))) ↔
      (2 ^ 53 + 1 : Int) ≠ 2 ^ 53 + 1 ∧ (2 ^ 53 + 1 : Int) ≠ -(2 ^ 53 + 1) :=
  integer_shownExactly_iff (by decide) rfl (Or.inl rfl) nearest_tie

/-- It is shown as 9007199254740992. -/
theorem integer_not_shownExactly :
    ¬ ∀ (readJson : Text → Except Text Json) (json : Text) (doc : Json) (n : Int) (d : Double),
      json ≠ [] → readJson json = .ok doc → Holds doc d → Nearest n d →
        ∃ before after,
          parseDescriptionJson readJson json = before ++ shown d ++ ['\n'] ++ after ∧
            ('.' ∉ shown d → shown d = decimal n) := by
  intro h
  obtain ⟨-, -, -, hshown⟩ := h readTie "9007199254740993".toList _ (2 ^ 53 + 1) _ (by decide) rfl
    (Or.inl rfl) nearest_tie
  exact not_shownExactly_tie nearest_tie hshown

end SdbusExamples.JsonIntegers
