import SdbusExamples.PropertyItems

namespace SdbusExamples.PropertyLines

open NumberBases OStreams PropertyItems PropertyTypes Variants

/-- Whether the next character starts a line, after a text that started a line or not. -/
def atLineStart (start : Bool) (cs : Text) : Bool :=
  match cs.getLast? with
  | none => start
  | some c => c == '\n'

def lineStart : Bool → List Item → Bool
  | start, [] => start
  | start, .text cs :: is => lineStart (atLineStart start cs) is
  | _, .number _ :: is => lineStart false is
  | _, .byte _ :: is => lineStart false is

theorem atLineStart_append (start : Bool) (cs ds : Text) :
    atLineStart start (cs ++ ds) = atLineStart (atLineStart start cs) ds := by
  rw [atLineStart, List.getLast?_append, atLineStart]
  cases ds.getLast? with
  | none => rfl
  | some c => rfl

theorem atLineStart_eq_false {cs : Text} (hne : cs ≠ []) (h : '\n' ∉ cs) (start : Bool) :
    atLineStart start cs = false := by
  rw [atLineStart, List.getLast?_eq_some_getLast hne]
  apply beq_false_of_ne
  intro heq
  exact h (heq ▸ List.getLast_mem hne)

theorem atLineStart_false {cs : Text} (h : '\n' ∉ cs) : atLineStart false cs = false := by
  by_cases hne : cs = []
  · rw [hne]
    rfl
  · exact atLineStart_eq_false hne h false

theorem newline_not_digit {cs : Text} (h : ∀ c ∈ cs, isDigit c = true) : '\n' ∉ cs := by
  intro hc
  exact absurd (h '\n' hc) (by decide)

theorem one_lt_radix (base : Base) : 1 < base.radix := by
  cases base <;> decide

theorem digits_ne_nil (base : Base) (n : Number) : n.digits base ≠ [] := by
  cases n with
  | unsigned n => exact toDigits_ne_nil (one_lt_radix base) n
  | int x =>
      cases base with
      | hex => exact toDigits_ne_nil (b := 16) (by omega) x.toNat
      | dec =>
          show decimal x.toInt ≠ []
          rw [decimal]
          split_ifs
          · exact List.cons_ne_nil _ _
          · exact toDigits_ne_nil (by omega) _

theorem atLineStart_number (base : Base) (n : Number) (start : Bool) :
    atLineStart start (n.digits base) = false :=
  atLineStart_eq_false (digits_ne_nil base n) (newline_not_digit (isDigit_of_mem_digits base n)) start

theorem atLineStart_byte (b : Byte) (start : Bool) : atLineStart start (hexByte b) = false := by
  have hnum := atLineStart_number .hex (.unsigned b.toNat)
  rw [hexByte, atLineStart_append]
  exact hnum _

theorem atLineStart_render (start : Bool) (base : Base) (is : List Item) :
    atLineStart start (render base is) = lineStart start is := by
  induction is generalizing start base with
  | nil => rfl
  | cons i is ih =>
      cases i with
      | text cs => rw [render, atLineStart_append, ih, lineStart]
      | number n => rw [render, atLineStart_append, ih, lineStart, atLineStart_number]
      | byte b => rw [render, atLineStart_append, ih, lineStart, atLineStart_byte]

theorem lineStart_append (start : Bool) (is js : List Item) :
    lineStart start (is ++ js) = lineStart (lineStart start is) js := by
  induction is generalizing start with
  | nil => rfl
  | cons i is ih => cases i <;> exact ih _

theorem lineStart_flatMap {α : Type} {item : α → List Item} (last : Bool)
    {vec : List α} (h : ∀ a ∈ vec, ∀ start, lineStart start (item a) = last) (start : Bool) :
    lineStart start (vec.flatMap item) = if vec.isEmpty then start else last := by
  induction vec generalizing start with
  | nil => rfl
  | cons a vec ih =>
      rw [List.flatMap_cons, lineStart_append, h a (List.mem_cons_self ..),
        ih fun b hb => h b (List.mem_cons_of_mem _ hb)]
      cases vec.isEmpty <;> rfl

def plainStrings : Plain → List String
  | .o path => [path]
  | .ao paths => paths
  | .s x => [x]
  | .as vec => vec
  | .so s path => [s, path]
  | .st s _ => [s]
  | .uo _ path => [path]
  | .aisb vec => vec.map fun (_, s, _) => s
  | .iiayqs _ _ _ _ s => [s]
  | .aiiayqs vec => vec.map fun (_, _, _, _, s) => s
  | .aso vec => vec.flatMap fun (s, path) => [s, path]
  | _ => []

mutual

/-- The strings, keys and paths that a value holds, those of its variants included. -/
def strings : Variant → List String
  | .plain value => plainStrings value
  | .aqv map => numberedEntryStrings map
  | .asv map => entryStrings map
  | .asasv vec => tupleStrings vec
  | .aasv vec => mapStrings vec

def entryStrings : List (String × Variant) → List String
  | [] => []
  | (key, value) :: map => key :: strings value ++ entryStrings map

def numberedEntryStrings : List (BitVec 16 × Variant) → List String
  | [] => []
  | (_, value) :: map => strings value ++ numberedEntryStrings map

def tupleStrings : List (String × List (String × Variant)) → List String
  | [] => []
  | (s, map) :: vec => s :: entryStrings map ++ tupleStrings vec

def mapStrings : List (List (String × Variant)) → List String
  | [] => []
  | map :: vec => entryStrings map ++ mapStrings vec

end

def NoNewline (ss : List String) : Prop := ∀ s ∈ ss, '\n' ∉ s.toList

/-- The handlers of these types end the line: the structures, the arrays of most
structures and the empty array of paths are left without a newline. -/
def plainEndsLine : Plain → Bool
  | .ao paths => !paths.isEmpty
  | .qqy _ _ z => z == 10
  | .tt .. | .ttt .. | .tttt .. | .so .. | .st .. | .uo .. | .iiay .. | .iiayqs .. => false
  | .aisb vec => vec.isEmpty
  | .aiiay vec => vec.isEmpty
  | .aiiayqs vec => vec.isEmpty
  | .aso vec => vec.isEmpty
  | _ => true

mutual

def endsLine : Variant → Bool
  | .plain value => plainEndsLine value
  | .aqv map => numberedEntriesEndLine true map
  | .asv map => entriesEndLine true map
  | .asasv vec => tuplesEndLine true vec
  | .aasv vec => mapsEndLine true vec

def entriesEndLine : Bool → List (String × Variant) → Bool
  | start, [] => start
  | _, (_, value) :: map => entriesEndLine (endsLine value) map

def numberedEntriesEndLine : Bool → List (BitVec 16 × Variant) → Bool
  | start, [] => start
  | _, (_, value) :: map => numberedEntriesEndLine (endsLine value) map

/-- A tuple whose map is empty leaves its name on the line. -/
def tuplesEndLine : Bool → List (String × List (String × Variant)) → Bool
  | start, [] => start
  | _, (_, map) :: vec => tuplesEndLine (entriesEndLine false map) vec

def mapsEndLine : Bool → List (List (String × Variant)) → Bool
  | start, [] => start
  | start, map :: vec => mapsEndLine (entriesEndLine start map) vec

end

theorem lineStart_endl_flatMap {α : Type} {item : α → List Item} (last : Bool) {vec : List α}
    (h : ∀ a ∈ vec, ∀ start, lineStart start (item a) = last) (start : Bool) :
    lineStart start ([endLine] ++ vec.flatMap item) = if vec.isEmpty then true else last := by
  rw [lineStart_append, lineStart_flatMap last h]
  rfl

theorem lineStart_byteItems (vec : List Byte) : lineStart false (byteItems vec) = false := by
  rw [byteItems, lineStart_flatMap false]
  · cases vec.isEmpty <;> rfl
  · intro b _ start
    rfl

theorem lineStart_bytes_then (start : Bool) (head : List Item) (vec : List Byte)
    (h : lineStart start head = false) : lineStart start (head ++ byteItems vec) = false := by
  rw [lineStart_append, h, lineStart_byteItems]

theorem lineStart_plainItems {value : Plain} (h : NoNewline (plainStrings value)) :
    lineStart false (plainItems value) = plainEndsLine value := by
  cases value with
  | ao paths =>
      rw [plainItems, lineStart_flatMap true]
      · cases paths <;> rfl
      · intro path _ start
        rfl
  | qqy x y z =>
      have hchar : ∀ z : Byte, (Char.ofNat z.toNat == '\n') = (z == 10) := by decide
      exact hchar z
  | tt x y => rfl
  | ttt x y z => rfl
  | tttt x y z w => rfl
  | so s path => exact atLineStart_false (h path (by simp [plainStrings]))
  | st s x => rfl
  | uo x path => exact atLineStart_false (h path (by simp [plainStrings]))
  | aisb vec =>
      rw [plainItems, lineStart_endl_flatMap false]
      · cases vec <;> rfl
      · rintro ⟨x, s, b⟩ _ start
        cases b <;> rfl
  | iiay x y vec => exact lineStart_bytes_then _ _ vec rfl
  | aiiay vec =>
      rw [plainItems, lineStart_endl_flatMap false]
      · cases vec <;> rfl
      · intro a _ start
        exact lineStart_bytes_then _ _ _ rfl
  | iiayqs x y vec z s =>
      rw [plainItems, lineStart_append]
      exact atLineStart_false (h s (by simp [plainStrings]))
  | aiiayqs vec =>
      rw [plainItems, lineStart_endl_flatMap false]
      · cases vec <;> rfl
      · rintro ⟨x, y, bs, z, s⟩ ha start
        rw [lineStart_append]
        exact atLineStart_false (h s (List.mem_map.2 ⟨_, ha, rfl⟩))
  | aso vec =>
      rw [plainItems, lineStart_endl_flatMap false]
      · cases vec <;> rfl
      · rintro ⟨s, path⟩ ha start
        exact atLineStart_false (h path (List.mem_flatMap.2 ⟨_, ha, by simp⟩))
  | as vec =>
      have hlines : lineStart false ([endLine] ++ vec.flatMap fun s => [lit "\t", lit s, endLine]) =
          true := by
        rw [lineStart_endl_flatMap true]
        · cases vec.isEmpty <;> rfl
        · intro s _ start
          rfl
      rw [plainItems, lineStart_append, hlines]
      cases vec.isEmpty <;> rfl
  | au vec | aau vec | ay vec | aay vec =>
      rw [plainItems, lineStart_append]
      cases vec.isEmpty <;> rfl
  | aqqy vec =>
      rw [plainItems, lineStart_endl_flatMap true]
      · cases vec <;> rfl
      · intro a _ start
        rfl
  | aayuay vec | aayuayu vec =>
      rw [plainItems, lineStart_endl_flatMap true]
      · cases vec <;> rfl
      · intro a _ start
        rw [lineStart_append]
        rfl
  | _ => rfl

theorem noNewline_append {ss ts : List String} :
    NoNewline (ss ++ ts) ↔ NoNewline ss ∧ NoNewline ts := by
  simp only [NoNewline, List.mem_append, or_imp, forall_and]

theorem NoNewline.tail {s : String} {ss : List String} (h : NoNewline (s :: ss)) : NoNewline ss :=
  fun t ht => h t (List.mem_cons_of_mem _ ht)

theorem lineStart_entry (start : Bool) {head : List Item} (value : Variant) (rest : List Item)
    (hvalue : lineStart false (items value) = endsLine value) :
    lineStart start (head ++ typeItems value ++ items value ++ rest) =
      lineStart (endsLine value) rest := by
  have htype : lineStart start (head ++ typeItems value) = false := by
    rw [lineStart_append]
    rfl
  rw [lineStart_append, lineStart_append, htype, hvalue]

mutual

theorem lineStart_items : (value : Variant) → NoNewline (strings value) →
    lineStart false (items value) = endsLine value
  | .plain _, h => lineStart_plainItems h
  | .aqv map, h => lineStart_numberedEntries true map h
  | .asv map, h => lineStart_entries "\t" true map h
  | .asasv vec, h => lineStart_tuples true vec h
  | .aasv vec, h => lineStart_maps true vec h

theorem lineStart_entries (indent : String) (start : Bool) : (map : List (String × Variant)) →
    NoNewline (entryStrings map) →
      lineStart start (entryItems indent map) = entriesEndLine start map
  | [], _ => rfl
  | (_, value) :: map, h => by
      have hboth := noNewline_append.1 h.tail
      rw [entryItems, lineStart_entry start value _ (lineStart_items value hboth.1),
        lineStart_entries indent _ map hboth.2, entriesEndLine]

theorem lineStart_numberedEntries (start : Bool) : (map : List (BitVec 16 × Variant)) →
    NoNewline (numberedEntryStrings map) →
      lineStart start (numberedEntryItems map) = numberedEntriesEndLine start map
  | [], _ => rfl
  | (_, value) :: map, h => by
      have hboth := noNewline_append.1 h
      rw [numberedEntryItems, lineStart_entry start value _ (lineStart_items value hboth.1),
        lineStart_numberedEntries _ map hboth.2, numberedEntriesEndLine]

theorem lineStart_tuples (start : Bool) : (vec : List (String × List (String × Variant))) →
    NoNewline (tupleStrings vec) → lineStart start (tupleItems vec) = tuplesEndLine start vec
  | [], _ => rfl
  | (s, map) :: vec, h => by
      have hboth := noNewline_append.1 h.tail
      have hhead : lineStart start [lit "\t", lit s, lit ": "] = false := rfl
      rw [tupleItems, lineStart_append, lineStart_append, hhead,
        lineStart_entries "" false map hboth.1, lineStart_tuples _ vec hboth.2, tuplesEndLine]

theorem lineStart_maps (start : Bool) : (vec : List (List (String × Variant))) →
    NoNewline (mapStrings vec) → lineStart start (mapItems vec) = mapsEndLine start vec
  | [], _ => rfl
  | map :: vec, h => by
      have hboth := noNewline_append.1 h
      rw [mapItems, lineStart_append, lineStart_entries "\t" start map hboth.1,
        lineStart_maps _ vec hboth.2, mapsEndLine]

end

theorem appendProperty_atLineStart {value : Variant} (h : NoNewline (strings value)) {os : OStream}
    (hw : os.width = 0) (start : Bool) :
    atLineStart start (appendProperty value os).text = endsLine value := by
  have htype : lineStart (atLineStart start os.text) (typeItems value) = false := rfl
  rw [(writes_appendProperty value os hw).1, atLineStart_append, atLineStart_render,
    propertyItems, lineStart_append, htype, lineStart_items value h]

theorem atLineStart_false_iff (cs : Text) :
    atLineStart false cs = true ↔ cs.getLast? = some '\n' := by
  rw [atLineStart]
  cases cs.getLast? with
  | none => simp
  | some c => simp

theorem appendProperties_snoc (pre : List (String × Variant)) (p : String × Variant) (os : OStream) :
    appendProperties (pre ++ [p]) os =
      appendProperty p.2 (appendProperties pre os <<< "  " <<< p.1 <<< ": ") := by
  rw [appendProperties, List.foldl_append]
  rfl

theorem atLineStart_snoc {p : String × Variant} (h : NoNewline (strings p.2))
    (pre : List (String × Variant)) (os : OStream) :
    atLineStart true (appendProperties (pre ++ [p]) os).text = endsLine p.2 := by
  rw [appendProperties_snoc]
  exact appendProperty_atLineStart h rfl true

/-- Every key is written at the beginning of a line, and every value ends its line. -/
structure EndsLines (os : OStream) (props : List (String × Variant)) : Prop where
  keys : ∀ pre p post, props = pre ++ p :: post →
    atLineStart true (appendProperties pre os).text = true
  values : ∀ p ∈ props, ∀ os', os'.width = 0 →
    (appendProperty p.2 os').text.getLast? = some '\n'

theorem keys_of_endsLine {os : OStream} (hstart : atLineStart true os.text = true)
    {props : List (String × Variant)} (hno : ∀ p ∈ props, NoNewline (strings p.2))
    (h : ∀ p ∈ props, endsLine p.2 = true) (pre : List (String × Variant)) (p : String × Variant)
    (post : List (String × Variant)) (hsplit : props = pre ++ p :: post) :
    atLineStart true (appendProperties pre os).text = true := by
  rcases List.eq_nil_or_concat pre with rfl | ⟨init, q, rfl⟩
  · exact hstart
  · have hq : q ∈ props := by
      rw [hsplit]
      simp
    rw [List.concat_eq_append, atLineStart_snoc (hno q hq)]
    exact h q hq

/-- On a stream at the beginning of a line the keys and the values keep to their
lines exactly when all values are of the types and lengths that end them. -/
theorem endsLines_iff (os : OStream) (hw : os.width = 0) (hstart : atLineStart true os.text = true)
    (props : List (String × Variant)) (hno : ∀ p ∈ props, NoNewline (p.1 :: strings p.2)) :
    EndsLines os props ↔ ∀ p ∈ props, endsLine p.2 = true := by
  have hvalue (p : String × Variant) (hp : p ∈ props) (os' : OStream) (hw' : os'.width = 0) :
      (appendProperty p.2 os').text.getLast? = some '\n' ↔ endsLine p.2 = true := by
    rw [← atLineStart_false_iff, appendProperty_atLineStart (hno p hp).tail hw']
  constructor
  · intro h p hp
    exact (hvalue p hp os hw).1 (h.values p hp os hw)
  · intro h
    refine ⟨keys_of_endsLine hstart (fun p hp => (hno p hp).tail) h, fun p hp os' hw' => ?_⟩
    exact (hvalue p hp os' hw').2 (h p hp)

theorem endsLines_iff_paths :
    EndsLines .fresh [("Adapter", .plain (.o "/org/bluez/hci0")), ("Roots", .plain (.ao []))] ↔
      ∀ p ∈ [("Adapter", Variant.plain (.o "/org/bluez/hci0")), ("Roots", .plain (.ao []))],
        endsLine p.2 = true :=
  endsLines_iff .fresh rfl rfl
    [("Adapter", .plain (.o "/org/bluez/hci0")), ("Roots", .plain (.ao []))]
    (by simp [NoNewline, strings, plainStrings])

/-- A structure leaves its line open, and the next key follows it there. -/
theorem not_endsLines :
    ¬ ∀ (os : OStream), os.width = 0 → atLineStart true os.text = true →
      ∀ props : List (String × Variant), (∀ p ∈ props, NoNewline (p.1 :: strings p.2)) →
        EndsLines os props := by
  intro h
  have hbad := h .fresh rfl rfl [("Range", .plain (.tt 10 16)), ("Roots", .plain (.ao []))]
    (by simp [NoNewline, strings, plainStrings])
  have hkey := hbad.keys [("Range", .plain (.tt 10 16))] _ _ rfl
  revert hkey
  decide

end SdbusExamples.PropertyLines
