import Mathlib.Data.List.Infix

namespace SdbusExamples.LabelledReports

abbrev Line := List Char

/-- What stands behind a label, and the items on the lines that follow. -/
structure Entry where
  text : Line
  items : List Line
deriving DecidableEq

/-- A line that is always the same, or what is shown under a label, if anything is. -/
inductive Part
  | fixed (line : Line)
  | field (label : Line) (entry : Option Entry)

def Entry.lines (bullet label : Line) (e : Entry) : List Line :=
  (label ++ e.text) :: e.items.map (bullet ++ ·)

def Part.lines (bullet : Line) : Part → List Line
  | .fixed line => [line]
  | .field label entry => (entry.map (Entry.lines bullet label)).getD []

def linesOf (bullet : Line) (ps : List Part) : List Line := ps.flatMap (Part.lines bullet)

def textOf (lines : List Line) : List Char := lines.flatMap (· ++ ['\n'])

theorem linesOf_cons (bullet : Line) (p : Part) (ps : List Part) :
    linesOf bullet (p :: ps) = p.lines bullet ++ linesOf bullet ps := List.flatMap_cons

theorem linesOf_append (bullet : Line) (ps qs : List Part) :
    linesOf bullet (ps ++ qs) = linesOf bullet ps ++ linesOf bullet qs := List.flatMap_append

theorem textOf_append (ls ls' : List Line) : textOf (ls ++ ls') = textOf ls ++ textOf ls' :=
  List.flatMap_append

def lookUp (bullet label : Line) : List Line → Option Entry
  | [] => none
  | line :: rest =>
      if label <+: line then
        some ⟨line.drop label.length,
          (rest.takeWhile fun l => decide (bullet <+: l)).map (·.drop bullet.length)⟩
      else lookUp bullet label rest

def readBack (bullet label : Line) (text : List Char) : Option Entry :=
  lookUp bullet label (text.splitOn '\n')

def Apart (a b : Line) : Prop := ¬ a <+: b ∧ ¬ b <+: a

instance (a b : Line) : Decidable (Apart a b) := inferInstanceAs (Decidable (_ ∧ _))

def labels (ps : List Part) : List Line :=
  ps.filterMap fun
    | .fixed _ => none
    | .field label _ => some label

def fixedLines (ps : List Part) : List Line :=
  ps.filterMap fun
    | .fixed line => some line
    | .field _ _ => none

/-- No part of a report can be taken for the beginning of another one. -/
structure Readable (bullet : Line) (names lines : List Line) : Prop where
  apart : names.Pairwise Apart
  bullets : ∀ label ∈ names, Apart label bullet
  fixed : ∀ line ∈ lines, ¬ bullet <+: line ∧ ∀ label ∈ names, ¬ label <+: line

instance (bullet : Line) (names lines : List Line) : Decidable (Readable bullet names lines) :=
  decidable_of_iff (names.Pairwise Apart ∧ (∀ label ∈ names, Apart label bullet) ∧
      ∀ line ∈ lines, ¬ bullet <+: line ∧ ∀ label ∈ names, ¬ label <+: line)
    ⟨fun h => ⟨h.1, h.2.1, h.2.2⟩, fun h => ⟨h.apart, h.bullets, h.fixed⟩⟩

theorem Readable.sublist {bullet : Line} {names names' lines lines' : List Line}
    (h : Readable bullet names lines) (hnames : names'.Sublist names) (hlines : lines' ⊆ lines) :
    Readable bullet names' lines' := by
  refine ⟨h.apart.sublist hnames, fun label hl => h.bullets label (hnames.subset hl), ?_⟩
  intro line hline
  obtain ⟨hbullet, hlabels⟩ := h.fixed line (hlines hline)
  exact ⟨hbullet, fun label hl => hlabels label (hnames.subset hl)⟩

theorem Apart.symm {a b : Line} (h : Apart a b) : Apart b a := ⟨h.2, h.1⟩

theorem not_prefix_append {a b : Line} (h : Apart a b) (text : Line) : ¬ a <+: b ++ text := by
  intro ha
  rcases List.prefix_or_prefix_of_prefix ha (List.prefix_append b text) with hab | hba
  · exact h.1 hab
  · exact h.2 hba

section Reading

variable {bullet label : Line}

theorem lookUp_append {ls : List Line} (h : ∀ l ∈ ls, ¬ label <+: l) (rest : List Line) :
    lookUp bullet label (ls ++ rest) = lookUp bullet label rest := by
  induction ls with
  | nil => rfl
  | cons l ls ih =>
      rw [List.forall_mem_cons] at h
      rw [List.cons_append, lookUp, if_neg h.1]
      exact ih h.2

theorem lookUp_eq_none {ls : List Line} (h : ∀ l ∈ ls, ¬ label <+: l) :
    lookUp bullet label ls = none := by
  have happend : lookUp bullet label (ls ++ []) = none := lookUp_append h []
  rwa [List.append_nil] at happend

theorem lookUp_entry (e : Entry) {rest : List Line}
    (h : ∀ l ∈ rest.head?, ¬ bullet <+: l) :
    lookUp bullet label (e.lines bullet label ++ rest) = some e := by
  have hitems : ((e.items.map (bullet ++ ·)) ++ rest).takeWhile (fun l => decide (bullet <+: l)) =
      e.items.map (bullet ++ ·) := by
    rw [List.takeWhile_append_of_pos]
    · have hrest : rest.takeWhile (fun l => decide (bullet <+: l)) = [] := by
        cases rest with
        | nil => rfl
        | cons l rest => rw [List.takeWhile_cons_of_neg (by simpa using h l rfl)]
      rw [hrest, List.append_nil]
    · intro l hl
      obtain ⟨item, -, rfl⟩ := List.mem_map.1 hl
      exact decide_eq_true (List.prefix_append bullet item)
  rw [Entry.lines, List.cons_append, lookUp, if_pos (List.prefix_append label e.text), hitems,
    List.drop_left, List.map_map]
  have hdrop : (fun l : Line => l.drop bullet.length) ∘ (bullet ++ ·) = id := by
    funext item
    exact List.drop_left
  rw [hdrop, List.map_id]

end Reading

section Parts

variable {bullet label : Line} {ps : List Part}

theorem labels_append (ps qs : List Part) : labels (ps ++ qs) = labels ps ++ labels qs :=
  List.filterMap_append

theorem fixedLines_append (ps qs : List Part) :
    fixedLines (ps ++ qs) = fixedLines ps ++ fixedLines qs := List.filterMap_append

theorem mem_labels {entry : Option Entry} (h : .field label entry ∈ ps) : label ∈ labels ps :=
  List.mem_filterMap.2 ⟨_, h, rfl⟩

theorem mem_fixedLines {line : Line} (h : .fixed line ∈ ps) : line ∈ fixedLines ps :=
  List.mem_filterMap.2 ⟨_, h, rfl⟩

theorem not_prefix_part {p : Part} (hbullet : Apart label bullet)
    (hfixed : ∀ line, p = .fixed line → ¬ label <+: line)
    (hfield : ∀ l entry, p = .field l entry → Apart label l) :
    ∀ l ∈ p.lines bullet, ¬ label <+: l := by
  intro l hl
  cases p with
  | fixed line =>
      rw [List.mem_singleton.1 hl]
      exact hfixed line rfl
  | field other entry =>
      cases entry with
      | none => cases hl
      | some e =>
          rcases List.mem_cons.1 hl with rfl | hl
          · exact not_prefix_append (hfield other _ rfl) e.text
          · obtain ⟨item, -, rfl⟩ := List.mem_map.1 hl
            exact not_prefix_append hbullet item

theorem not_prefix_lines (h : Readable bullet (label :: labels ps) (fixedLines ps)) :
    ∀ l ∈ linesOf bullet ps, ¬ label <+: l := by
  intro l hl
  obtain ⟨p, hp, hl⟩ := List.mem_flatMap.1 hl
  have hbullet : Apart label bullet := h.bullets label List.mem_cons_self
  refine not_prefix_part hbullet ?_ ?_ l hl
  · rintro line rfl
    exact (h.fixed line (mem_fixedLines hp)).2 label List.mem_cons_self
  · rintro other entry rfl
    exact (List.pairwise_cons.1 h.apart).1 other (mem_labels hp)

theorem Readable.tail {p : Part} (h : Readable bullet (labels (p :: ps)) (fixedLines (p :: ps))) :
    Readable bullet (labels ps) (fixedLines ps) := by
  cases p with
  | fixed line => exact h.sublist (List.Sublist.refl _) (List.subset_cons_self _ _)
  | field label entry => exact h.sublist (List.sublist_cons_self _ _) (List.Subset.refl _)

theorem not_bullet_head (h : Readable bullet (labels ps) (fixedLines ps)) :
    ∀ l ∈ (linesOf bullet ps).head?, ¬ bullet <+: l := by
  induction ps with
  | nil =>
      intro l hl
      cases hl
  | cons p ps ih =>
      intro l hl
      cases p with
      | fixed line =>
          obtain rfl := Option.some.inj hl
          exact (h.fixed line List.mem_cons_self).1
      | field label entry =>
          cases entry with
          | none => exact ih h.tail l hl
          | some e =>
              obtain rfl := Option.some.inj hl
              have hbullet := h.bullets label List.mem_cons_self
              exact not_prefix_append hbullet.symm e.text

theorem lookUp_linesOf (h : Readable bullet (labels ps) (fixedLines ps)) {entry : Option Entry}
    (hmem : .field label entry ∈ ps) : lookUp bullet label (linesOf bullet ps) = entry := by
  induction ps with
  | nil => cases hmem
  | cons p ps ih =>
      rw [linesOf_cons]
      rcases List.mem_cons.1 hmem with rfl | hmem
      · cases entry with
        | none => exact lookUp_eq_none (not_prefix_lines h)
        | some e => exact lookUp_entry e (not_bullet_head h.tail)
      · rw [lookUp_append]
        · exact ih h.tail hmem
        · have hlabel := mem_labels hmem
          refine not_prefix_part (h.tail.bullets label hlabel) ?_ ?_
          · rintro line rfl
            exact (h.fixed line List.mem_cons_self).2 label hlabel
          · rintro other entry rfl
            exact ((List.pairwise_cons.1 h.apart).1 label hlabel).symm

theorem splitOn_textOf {ls : List Line} (h : ∀ l ∈ ls, '\n' ∉ l) :
    (textOf ls).splitOn '\n' = ls ++ [[]] := by
  induction ls with
  | nil => exact List.splitOn_nil ..
  | cons l ls ih =>
      rw [List.forall_mem_cons] at h
      rw [textOf, List.flatMap_cons, List.append_assoc]
      refine (List.splitOn_append_cons_self_of_not_mem h.1 _).trans ?_
      exact congrArg (l :: ·) (ih h.2)

def Part.OneLine : Part → Prop
  | .fixed line => '\n' ∉ line
  | .field label entry =>
      '\n' ∉ label ∧ ∀ e ∈ entry, '\n' ∉ e.text ∧ ∀ item ∈ e.items, '\n' ∉ item

theorem newline_not_mem_lines (hbullet : '\n' ∉ bullet) (h : ∀ p ∈ ps, p.OneLine) :
    ∀ l ∈ linesOf bullet ps, '\n' ∉ l := by
  intro l hl
  obtain ⟨p, hp, hl⟩ := List.mem_flatMap.1 hl
  have hp := h p hp
  cases p with
  | fixed line =>
      rw [List.mem_singleton.1 hl]
      exact hp
  | field label entry =>
      cases entry with
      | none => cases hl
      | some e =>
          obtain ⟨htext, hitems⟩ := hp.2 e rfl
          rcases List.mem_cons.1 hl with rfl | hl
          · exact fun hmem => (List.mem_append.1 hmem).elim hp.1 htext
          · obtain ⟨item, hitem, rfl⟩ := List.mem_map.1 hl
            exact fun hmem => (List.mem_append.1 hmem).elim hbullet (hitems item hitem)

/-- The text of a report gives back what was printed under a label. -/
theorem readBack_textOf (h : Readable bullet (labels ps) ([] :: fixedLines ps))
    (hbullet : '\n' ∉ bullet) (hlines : ∀ p ∈ ps, p.OneLine) {entry : Option Entry}
    (hmem : .field label entry ∈ ps) :
    readBack bullet label (textOf (linesOf bullet ps)) = entry := by
  have hend : linesOf bullet ps ++ [[]] = linesOf bullet (ps ++ [.fixed []]) := by
    rw [linesOf_append]
    rfl
  have hnames : labels (ps ++ [.fixed []]) = labels ps := by
    rw [labels_append]
    exact List.append_nil _
  rw [readBack, splitOn_textOf (newline_not_mem_lines hbullet hlines), hend]
  refine lookUp_linesOf ?_ (List.mem_append_left _ hmem)
  refine h.sublist ?_ ?_
  · rw [hnames]
  · rw [fixedLines_append, List.append_subset]
    refine ⟨List.subset_cons_self _ _, ?_⟩
    intro line hline
    rw [List.mem_singleton.1 hline]
    exact List.mem_cons_self

end Parts

end SdbusExamples.LabelledReports
