import SdbusExamples.JsonDocuments
import SdbusExamples.PropertyLines

namespace SdbusExamples.JsonOutline

open Binary64 JsonDocuments NumberBases OStreams PropertyLines PropertyTypes

/-- The nodes below a node with their keys, in the order they are visited. -/
def children : Json → List (Text × Json)
  | .array items => items.mapIdx fun i item => (indexKey i, item)
  | .object members => members
  | _ => []

def nodeAt (doc : Json) : List Nat → Option (Text × Json)
  | [] => none
  | [i] => (children doc)[i]?
  | i :: j :: path => (children doc)[i]?.bind fun child => nodeAt child.2 (j :: path)

theorem sizeOf_child {doc : Json} {child : Text × Json} (h : child ∈ children doc) :
    sizeOf child.2 < sizeOf doc := by
  cases doc with
  | array items =>
      obtain ⟨i, hi, rfl⟩ := List.mem_mapIdx.1 h
      have := List.sizeOf_lt_of_mem (List.getElem_mem hi)
      simp only [Json.array.sizeOf_spec]
      omega
  | object members =>
      have h : child ∈ members := h
      have := List.sizeOf_lt_of_mem h
      obtain ⟨key, val⟩ := child
      simp only [Json.object.sizeOf_spec, Prod.mk.sizeOf_spec] at this ⊢
      omega
  | _ => cases h

/-- A property of all documents that each one has if the nodes below it have it. -/
@[elab_as_elim]
theorem children_induction {P : Json → Prop}
    (step : ∀ doc, (∀ child ∈ children doc, P child.2) → P doc) (doc : Json) : P doc :=
  step doc fun child _ => children_induction step child.2
termination_by sizeOf doc
decreasing_by exact sizeOf_child ‹_›

def entry (indent : Nat) (child : Text × Json) : Text :=
  pad indent ++ child.1 ++
    (if child.2.isContainer then [':', '\n'] ++ elementToLines child.2 (indent + 1)
      else [':', ' '] ++ scalarToString child.2 ++ ['\n'])

theorem membersToLines_eq (members : List (Text × Json)) (indent : Nat) :
    membersToLines members indent = members.flatMap (entry indent) := by
  induction members with
  | nil => rfl
  | cons m rest ih =>
      obtain ⟨key, val⟩ := m
      rw [membersToLines, ih, List.flatMap_cons, entry]
      split_ifs <;> simp only [List.append_assoc]

theorem itemsToLines_eq (items : List Json) (idx indent : Nat) :
    itemsToLines items idx indent =
      (items.mapIdx fun i item => (indexKey (idx + i), item)).flatMap (entry indent) := by
  induction items generalizing idx with
  | nil => rfl
  | cons item rest ih =>
      have hshift : (fun i item => (indexKey (idx + (i + 1)), item) : Nat → Json → Text × Json) =
          fun i item => (indexKey (idx + 1 + i), item) := by
        funext i item
        rw [Nat.add_assoc, Nat.add_comm 1 i]
      rw [itemsToLines, ih, List.mapIdx_cons, List.flatMap_cons, entry, hshift]
      split_ifs <;> simp only [List.append_assoc, Nat.add_zero]

theorem elementToLines_container {doc : Json} (h : doc.isContainer = true) (indent : Nat) :
    elementToLines doc indent = (children doc).flatMap (entry indent) := by
  cases doc with
  | array items =>
      rw [elementToLines, itemsToLines_eq, children]
      simp only [Nat.zero_add]
  | object members => rw [elementToLines, membersToLines_eq, children]
  | _ => cases h

theorem elementToLines_scalar {doc : Json} (h : doc.isContainer = false) (indent : Nat) :
    elementToLines doc indent = pad indent ++ scalarToString doc ++ ['\n'] := by
  cases doc with
  | array items => cases h
  | object members => cases h
  | _ => rw [elementToLines] <;> simp

def nodes (doc : Json) : List (List Nat × Text × Json) :=
  ((children doc).attach.mapIdx fun i child =>
    ([i], child.1) :: (nodes child.1.2).map fun n => (i :: n.1, n.2)).flatten
termination_by sizeOf doc
decreasing_by exact sizeOf_child child.2

def block (i : Nat) (child : Text × Json) : List (List Nat × Text × Json) :=
  ([i], child) :: (nodes child.2).map fun n => (i :: n.1, n.2)

theorem nodes_eq (doc : Json) : nodes doc = ((children doc).mapIdx block).flatten := by
  rw [nodes]
  congr 1
  apply List.ext_getElem
  · simp
  · intro i hi hi'
    simp [block]

theorem mem_nodes_iff_block {doc : Json} {n : List Nat × Text × Json} :
    n ∈ nodes doc ↔ ∃ i child, (children doc)[i]? = some child ∧ n ∈ block i child := by
  rw [nodes_eq, List.mem_flatten]
  constructor
  · rintro ⟨b, hb, hn⟩
    obtain ⟨i, hi, rfl⟩ := List.mem_mapIdx.1 hb
    exact ⟨i, (children doc)[i], List.getElem?_eq_getElem hi, hn⟩
  · rintro ⟨i, child, hchild, hn⟩
    obtain ⟨hi, rfl⟩ := List.getElem?_eq_some_iff.1 hchild
    exact ⟨_, List.mem_mapIdx.2 ⟨i, hi, rfl⟩, hn⟩

theorem mem_block {i : Nat} {child : Text × Json} {path : List Nat} {c : Text × Json} :
    (path, c) ∈ block i child ↔
      (path = [i] ∧ c = child) ∨ ∃ q, path = i :: q ∧ (q, c) ∈ nodes child.2 := by
  rw [block, List.mem_cons, List.mem_map, Prod.mk.injEq]
  apply or_congr_right
  constructor
  · rintro ⟨⟨q, c'⟩, hq, heq⟩
    cases heq
    exact ⟨q, rfl, hq⟩
  · rintro ⟨q, rfl, hq⟩
    exact ⟨(q, c), hq, rfl⟩

theorem mem_nodes (doc : Json) :
    ∀ path child, (path, child) ∈ nodes doc ↔ nodeAt doc path = some child := by
  induction doc using children_induction with
  | step doc ih =>
      intro path child
      rw [mem_nodes_iff_block]
      simp only [mem_block]
      constructor
      · rintro ⟨i, c, hc, ⟨rfl, rfl⟩ | ⟨q, rfl, hq⟩⟩
        · exact hc
        · have hbelow := (ih c (List.mem_of_getElem? hc) q child).1 hq
          cases q with
          | nil => cases hbelow
          | cons j q =>
              rw [nodeAt, hc]
              exact hbelow
      · intro h
        match path, h with
        | [i], h => exact ⟨i, child, h, Or.inl ⟨rfl, rfl⟩⟩
        | i :: j :: path, h =>
            rw [nodeAt] at h
            obtain ⟨c, hc, hbelow⟩ := Option.bind_eq_some_iff.1 h
            have hq := (ih c (List.mem_of_getElem? hc) (j :: path) child).2 hbelow
            exact ⟨i, c, hc, Or.inr ⟨j :: path, rfl, hq⟩⟩

theorem path_ne_nil {doc : Json} {n : List Nat × Text × Json} (h : n ∈ nodes doc) : n.1 ≠ [] := by
  intro hnil
  have hnode := (mem_nodes doc n.1 n.2).1 h
  rw [hnil] at hnode
  cases hnode

theorem nodes_sorted (doc : Json) : (nodes doc).Pairwise fun a b => a.1 < b.1 := by
  induction doc using children_induction with
  | step doc ih =>
      rw [nodes_eq, List.pairwise_flatten]
      constructor
      · intro b hb
        obtain ⟨i, hi, rfl⟩ := List.mem_mapIdx.1 hb
        have hbelow : (nodes (children doc)[i].2).Pairwise fun a b => i :: a.1 < i :: b.1 :=
          (ih _ (List.getElem_mem hi)).imp fun h => List.cons_lt_cons_self.2 h
        rw [block, List.pairwise_cons, List.pairwise_map]
        refine ⟨fun b hb => ?_, hbelow⟩
        obtain ⟨n, hn, rfl⟩ := List.mem_map.1 hb
        apply List.cons_lt_cons_self.2
        obtain ⟨j, q, hq⟩ := List.exists_cons_of_ne_nil (path_ne_nil hn)
        rw [hq]
        exact List.nil_lt_cons j q
      · have hhead : ∀ i child, ∀ n ∈ block i child, ∃ q, n.1 = i :: q := by
          rintro i child ⟨path, c⟩ hn
          rcases mem_block.1 hn with ⟨rfl, -⟩ | ⟨q, rfl, -⟩
          · exact ⟨[], rfl⟩
          · exact ⟨q, rfl⟩
        rw [List.pairwise_iff_getElem]
        intro i j hi hj hij a ha b hb
        rw [List.getElem_mapIdx] at ha hb
        obtain ⟨q, hq⟩ := hhead _ _ a ha
        obtain ⟨r, hr⟩ := hhead _ _ b hb
        rw [hq, hr]
        exact List.cons_lt_cons_iff.2 (Or.inl hij)

def line (depth : Nat) (child : Text × Json) : Text :=
  List.replicate (2 * (depth - 1)) ' ' ++ child.1 ++
    (if child.2.isContainer then [':'] else [':', ' '] ++ scalarToString child.2)

theorem nodes_of_scalar {doc : Json} (h : doc.isContainer = false) : nodes doc = [] := by
  have hchildren : children doc = [] := by
    cases doc <;> first | rfl | cases h
  rw [nodes_eq, hchildren]
  rfl

theorem flatMap_mapIdx {α β γ : Type} {f : Nat → α → β} {g : β → List γ} {h : α → List γ}
    {l : List α} (heq : ∀ i, ∀ a ∈ l, g (f i a) = h a) : (l.mapIdx f).flatMap g = l.flatMap h := by
  rw [List.flatMap_def, List.flatMap_def]
  congr 1
  apply List.ext_getElem
  · simp
  · intro i hi hi'
    rw [List.getElem_map, List.getElem_mapIdx, List.getElem_map, heq]
    exact List.getElem_mem _

theorem elementToLines_eq {doc : Json} (h : doc.isContainer = true) (indent : Nat) :
    elementToLines doc indent =
      (nodes doc).flatMap fun n => line (indent + n.1.length) n.2 ++ ['\n'] := by
  induction doc using children_induction generalizing indent with
  | step doc ih =>
      rw [elementToLines_container h, nodes_eq, List.flatten_eq_flatMap, List.flatMap_assoc]
      symm
      apply flatMap_mapIdx
      intro i child hchild
      rw [id, block, List.flatMap_cons, List.flatMap_map, line, entry, pad, Nat.mul_comm indent]
      cases hc : child.2.isContainer with
      | true =>
          have hlen : ∀ n : List Nat × Text × Json,
              indent + (i :: n.1).length = indent + 1 + n.1.length := by
            intro n
            rw [List.length_cons]
            omega
          rw [if_pos rfl, if_pos rfl, ih child hchild hc]
          simp only [hlen]
          simp
      | false =>
          rw [nodes_of_scalar hc]
          simp

def NoNewline : Json → Prop
  | .string s => '\n' ∉ s
  | .array items => ∀ item ∈ items, NoNewline item
  | .object members => ∀ member ∈ members, '\n' ∉ member.1 ∧ NoNewline member.2
  | _ => True
termination_by doc => sizeOf doc
decreasing_by
  · have := List.sizeOf_lt_of_mem ‹item ∈ items›
    simp only [Json.array.sizeOf_spec]
    omega
  · exact sizeOf_child (show member ∈ children (.object members) from ‹member ∈ members›)

theorem newline_not_mem_toDigits (n : Nat) : '\n' ∉ Nat.toDigits 10 n :=
  newline_not_digit (isDigit_of_mem_digits .dec (.unsigned n))

theorem newline_not_mem_decimal (x : Int) : '\n' ∉ decimal x := by
  rw [decimal]
  split_ifs <;> simp [newline_not_mem_toDigits]

def signOf (d : Double) : Text := if negative d then ['-'] else []

theorem decimalDouble_of_finite {d : Double} (h : Finite d) :
    ∃ whole zeros fraction, decimalDouble d =
      signOf d ++ Nat.toDigits 10 whole ++ ['.'] ++ List.replicate zeros '0' ++
        Nat.toDigits 10 fraction := by
  have hexponent : ¬ (d.extractLsb' 52 11).toNat = 2047 := h
  rw [decimalDouble, if_neg hexponent]
  exact ⟨_, _, _, rfl⟩

theorem decimalDouble_of_not_finite {d : Double} (h : ¬ Finite d) :
    decimalDouble d = signOf d ++ (if fraction d = 0 then "inf" else "nan").toList := by
  have hexponent : (d.extractLsb' 52 11).toNat = 2047 := not_not.1 h
  rw [decimalDouble, if_pos hexponent]
  rfl

theorem newline_not_mem_decimalDouble (d : Double) : '\n' ∉ decimalDouble d := by
  have hsign : '\n' ∉ signOf d := by
    rw [signOf]
    split_ifs <;> decide
  by_cases h : Finite d
  · obtain ⟨whole, zeros, fraction, heq⟩ := decimalDouble_of_finite h
    rw [heq]
    simp [hsign, newline_not_mem_toDigits]
  · rw [decimalDouble_of_not_finite h]
    apply List.not_mem_append hsign
    split_ifs <;> decide

theorem newline_not_mem_scalarToString {val : Json} (h : NoNewline val) :
    '\n' ∉ scalarToString val := by
  cases val with
  | null => decide
  | string s =>
      rw [NoNewline] at h
      exact h
  | number d =>
      rw [scalarToString]
      split_ifs
      · exact newline_not_mem_decimal _
      · exact newline_not_mem_decimalDouble d
  | boolean b => cases b <;> decide
  | array items => simp [scalarToString]
  | object members => simp [scalarToString]

theorem NoNewline.child {doc : Json} (h : NoNewline doc) {child : Text × Json}
    (hchild : child ∈ children doc) : '\n' ∉ child.1 ∧ NoNewline child.2 := by
  cases doc with
  | array items =>
      rw [NoNewline] at h
      obtain ⟨i, hi, rfl⟩ := List.mem_mapIdx.1 hchild
      refine ⟨?_, h _ (List.getElem_mem hi)⟩
      simp [indexKey, newline_not_mem_decimal]
  | object members =>
      rw [NoNewline] at h
      exact h child hchild
  | _ => cases hchild

theorem NoNewline.node {doc : Json} (h : NoNewline doc) :
    ∀ n ∈ nodes doc, '\n' ∉ n.2.1 ∧ NoNewline n.2.2 := by
  induction doc using children_induction with
  | step doc ih =>
      rintro ⟨path, c⟩ hn
      obtain ⟨i, child, hchild, hn⟩ := mem_nodes_iff_block.1 hn
      have hmem := List.mem_of_getElem? hchild
      rcases mem_block.1 hn with ⟨-, rfl⟩ | ⟨q, -, hq⟩
      · exact h.child hmem
      · exact ih child hmem (h.child hmem).2 (q, c) hq

theorem newline_not_mem_line {child : Text × Json} (hkey : '\n' ∉ child.1)
    (hval : NoNewline child.2) (depth : Nat) : '\n' ∉ line depth child := by
  have hscalar := newline_not_mem_scalarToString hval
  rw [line]
  split_ifs <;> simp [hkey, hscalar]

theorem isContainer_iff_line (depth : Nat) (child : Text × Json) :
    child.2.isContainer = true ↔
      line depth child = List.replicate (2 * (depth - 1)) ' ' ++ child.1 ++ [':'] := by
  rw [line, List.append_cancel_left_eq]
  split_ifs with h
  · exact iff_of_true h rfl
  · exact iff_of_false h (by simp)

/-- The outline of a document without newlines in its keys and strings: a root
that is a scalar has its one line, and below any other root each node has a
line, in pre-order, with its depth and its kind to be seen from it. -/
theorem elementToLines_outline (doc : Json) (h : NoNewline doc) :
    (doc.isContainer = false →
      elementToLines doc 0 = scalarToString doc ++ ['\n'] ∧ '\n' ∉ scalarToString doc) ∧
    (doc.isContainer = true →
      elementToLines doc 0 = (nodes doc).flatMap fun n => line n.1.length n.2 ++ ['\n']) ∧
    (nodes doc).Pairwise (fun a b => a.1 < b.1) ∧
    (∀ path child, (path, child) ∈ nodes doc ↔ nodeAt doc path = some child) ∧
    ∀ n ∈ nodes doc, '\n' ∉ line n.1.length n.2 ∧
      (n.2.2.isContainer = true ↔
        line n.1.length n.2 = List.replicate (2 * (n.1.length - 1)) ' ' ++ n.2.1 ++ [':']) ∧
      (n.2.2.isContainer = false →
        line n.1.length n.2 = List.replicate (2 * (n.1.length - 1)) ' ' ++ n.2.1 ++ [':', ' '] ++
          scalarToString n.2.2) := by
  refine ⟨fun hscalar => ?_, fun hcontainer => ?_, nodes_sorted doc, mem_nodes doc, ?_⟩
  · exact ⟨elementToLines_scalar hscalar 0, newline_not_mem_scalarToString h⟩
  · rw [elementToLines_eq hcontainer]
    simp only [Nat.zero_add]
  · intro n hn
    obtain ⟨hkey, hval⟩ := h.node n hn
    refine ⟨newline_not_mem_line hkey hval _, isContainer_iff_line _ _, fun hscalar => ?_⟩
    rw [line, hscalar, List.append_assoc]
    simp

def sample : Json := .object [(['a'], .array [.null, .object []]), (['b'], .boolean true)]

theorem elementToLines_outline_sample :
    elementToLines sample 0 = (nodes sample).flatMap fun n => line n.1.length n.2 ++ ['\n'] :=
  (elementToLines_outline sample (by simp [sample, NoNewline])).2.1 rfl

end SdbusExamples.JsonOutline
