import SdbusExamples.PropertyItems

namespace SdbusExamples.PropertyRendering

open NumberBases OStreams PropertyItems PropertyTypes Variants

def alone (value : Variant) : Text := (appendProperty value .fresh).text

def pieces (props : List (String × Variant)) : Text :=
  props.flatMap fun (key, value) => "  ".toList ++ key.toList ++ ": ".toList ++ alone value

def written (earlier : List (List (String × Variant))) : OStream :=
  earlier.foldl (fun os props => appendProperties props os) .fresh

def Compositional (earlier : List (List (String × Variant))) (props : List (String × Variant)) : Prop :=
  (appendProperties props (written earlier)).text = (written earlier).text ++ pieces props

instance (earlier : List (List (String × Variant))) (props : List (String × Variant)) :
    Decidable (Compositional earlier props) :=
  inferInstanceAs (Decidable (_ = _))

def PrintsByte (value : Variant) : Prop := ∃ b, .byte b ∈ propertyItems value

/-- The integers that are printed in the base found on the stream: those that the
handler passes to the stream itself, up to its own first byte. -/
def exposed (value : Variant) : List Number := leading (propertyItems value)

def propsItems (props : List (String × Variant)) : List Item :=
  props.flatMap fun (key, value) => [lit "  ", lit key, lit ": "] ++ propertyItems value

theorem writes_appendProperties (props : List (String × Variant)) :
    Writes (appendProperties props) (propsItems props) := by
  apply Writes.foldl
  rintro ⟨key, value⟩
  exact (((Writes.nil.str "  ").str key).str ": ").comp (writes_appendProperty value)

theorem alone_eq (value : Variant) : alone value = render .dec (propertyItems value) :=
  (writes_appendProperty value .fresh rfl).1

theorem written_eq (earlier : List (List (String × Variant))) :
    written earlier = appendProperties earlier.flatten .fresh := by
  rw [appendProperties, List.foldl_flatten]
  rfl

theorem baseAfter_hex (is : List Item) : baseAfter .hex is = .hex := by
  induction is with
  | nil => rfl
  | cons i is ih => cases i <;> exact ih

theorem baseAfter_dec_iff (is : List Item) : baseAfter .dec is = .hex ↔ ∃ b, .byte b ∈ is := by
  induction is with
  | nil => simp [baseAfter]
  | cons i is ih =>
      cases i with
      | text cs => simp [baseAfter, ih]
      | number n => simp [baseAfter, ih]
      | byte b => simp [baseAfter, baseAfter_hex]

theorem byte_mem_propsItems_iff (props : List (String × Variant)) :
    (∃ b, .byte b ∈ propsItems props) ↔ ∃ p ∈ props, PrintsByte p.2 := by
  constructor
  · rintro ⟨b, hb⟩
    obtain ⟨p, hp, hbp⟩ := List.mem_flatMap.1 hb
    exact ⟨p, hp, b, by simpa [lit] using hbp⟩
  · rintro ⟨p, hp, b, hb⟩
    exact ⟨b, List.mem_flatMap.2 ⟨p, hp, List.mem_append_right _ hb⟩⟩

theorem sameRun_props (base : Base) (props : List (String × Variant)) :
    SameRun (render base (propsItems props)) (pieces props) := by
  cases props with
  | nil => rfl
  | cons p props =>
      have hspace : isDigit ' ' = false := by decide
      have hleft : render base (propsItems (p :: props)) =
          "  ".toList ++ (render base (propsItems (p :: props))).drop 2 := rfl
      have hright : pieces (p :: props) = "  ".toList ++ (pieces (p :: props)).drop 2 := rfl
      rw [hleft, hright]
      exact sameRun_of_mem (c := ' ') (by decide) hspace _ _

theorem render_cons (base : Base) (key : String) (value : Variant) (props : List (String × Variant)) :
    render base (propsItems ((key, value) :: props)) =
      "  ".toList ++ (key.toList ++ (": ".toList ++ (render base (propertyItems value) ++
        render (baseAfter base (propertyItems value)) (propsItems props)))) := by
  show render base ([lit "  ", lit key, lit ": "] ++ propertyItems value ++ propsItems props) = _
  rw [List.append_assoc, render_append, render_append]
  simp [lit, render, baseAfter]

theorem pieces_cons (key : String) (value : Variant) (props : List (String × Variant)) :
    pieces ((key, value) :: props) = "  ".toList ++ (key.toList ++ (": ".toList ++
      (render .dec (propertyItems value) ++ pieces props))) := by
  rw [← alone_eq]
  simp [pieces]

theorem render_cons_eq_iff (base : Base) (key : String) (value : Variant)
    (props : List (String × Variant)) :
    render base (propsItems ((key, value) :: props)) = pieces ((key, value) :: props) ↔
      (base = .hex → ∀ n ∈ exposed value, SingleDigit n) ∧
        render (baseAfter base (propertyItems value)) (propsItems props) = pieces props := by
  rw [render_cons, pieces_cons]
  simp only [List.append_cancel_left_eq]
  cases base with
  | dec => simp
  | hex =>
      rw [baseAfter_hex, render_eq_iff (separated_propertyItems value) (sameRun_props .hex props)]
      simp [exposed]

theorem render_props_eq_iff (base : Base) (props : List (String × Variant)) :
    render base (propsItems props) = pieces props ↔
      ∀ pre key value post, props = pre ++ (key, value) :: post →
        baseAfter base (propsItems pre) = .hex → ∀ n ∈ exposed value, SingleDigit n := by
  induction props generalizing base with
  | nil =>
      refine iff_of_true rfl fun pre key value post h => ?_
      simp at h
  | cons p props ih =>
      obtain ⟨key, value⟩ := p
      have hbase (pre : List (String × Variant)) :
          baseAfter base (propsItems ((key, value) :: pre)) =
            baseAfter (baseAfter base (propertyItems value)) (propsItems pre) := by
        show baseAfter base ([lit "  ", lit key, lit ": "] ++ propertyItems value ++
          propsItems pre) = _
        rw [List.append_assoc, baseAfter_append, baseAfter_append]
        rfl
      rw [render_cons_eq_iff, ih]
      constructor
      · rintro ⟨hfirst, hrest⟩ pre key' value' post hsplit hhex
        cases pre with
        | nil =>
            obtain ⟨hp, -⟩ := List.cons.inj hsplit
            obtain ⟨-, rfl⟩ := Prod.mk.inj hp
            exact hfirst hhex
        | cons q pre =>
            obtain ⟨rfl, htail⟩ := List.cons.inj hsplit
            rw [hbase] at hhex
            exact hrest pre key' value' post htail hhex
      · intro h
        refine ⟨h [] key value props rfl, fun pre key' value' post hsplit hhex => ?_⟩
        rw [← hbase] at hhex
        exact h ((key, value) :: pre) key' value' post (by rw [hsplit]; rfl) hhex

theorem written_base (earlier : List (List (String × Variant))) (pre : List (String × Variant)) :
    baseAfter (written earlier).base (propsItems pre) = .hex ↔
      ∃ p ∈ earlier.flatten ++ pre, PrintsByte p.2 := by
  have happend : propsItems (earlier.flatten ++ pre) =
      propsItems earlier.flatten ++ propsItems pre := List.flatMap_append
  rw [written_eq, (writes_appendProperties earlier.flatten .fresh rfl).2.1, ← baseAfter_append,
    ← happend, ← byte_mem_propsItems_iff, ← baseAfter_dec_iff]
  rfl

/-- std::hex stays on the stream: a map is rendered as its values alone are exactly
when no integer from 10 on, and no negative one, meets it. -/
theorem compositional_iff (earlier : List (List (String × Variant))) (props : List (String × Variant)) :
    Compositional earlier props ↔ ∀ pre key value post, props = pre ++ (key, value) :: post →
      (∃ p ∈ earlier.flatten ++ pre, PrintsByte p.2) → ∀ n ∈ exposed value, SingleDigit n := by
  have hwidth : (written earlier).width = 0 := by
    rw [written_eq]
    exact (writes_appendProperties earlier.flatten .fresh rfl).2.2
  rw [Compositional, (writes_appendProperties props _ hwidth).1, List.append_cancel_left_eq,
    render_props_eq_iff]
  simp only [written_base]

/-- The byte array leaves the stream in hexadecimal, and 10 and 16 come out as a and 10. -/
theorem not_compositional :
    ¬ ∀ (earlier : List (List (String × Variant))) (props : List (String × Variant)),
      Compositional earlier props := by
  intro h
  have hbad := h [] [("Address", .plain (.ay [0x10])), ("Range", .plain (.tt 10 16))]
  revert hbad
  decide

end SdbusExamples.PropertyRendering
