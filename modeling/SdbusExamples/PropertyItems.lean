import SdbusExamples.PropertyTypes
import SdbusExamples.NumberBases

namespace SdbusExamples.PropertyItems

open NumberBases OStreams PropertyTypes Variants

def lit (s : String) : Item := .text s.toList

def endLine : Item := .text ['\n']

def num {w : Nat} (x : BitVec w) : Item := .number (unsigned x)

def int (x : BitVec 32) : Item := .number (.int x)

def byteItems (vec : List Byte) : List Item := vec.flatMap fun b => [.byte b, lit " "]

def plainItems : Plain → List Item
  | .u x | .q x => [.text (decimal x.toNat), endLine]
  | .t x => [.text (decimal x.toNat), endLine]
  | .y x => [.text (decimal x.toNat), endLine]
  | .d x => [.text (decimalDouble x), endLine]
  | .n x => [.text (decimal x.toInt), endLine]
  | .i x => [.text (decimal x.toInt), endLine]
  | .x x => [.text (decimal x.toInt), endLine]
  | .o path => [lit path, endLine]
  | .ao paths => paths.flatMap fun path => [lit path, endLine]
  | .b x => [lit (trueFalse x), endLine]
  | .s x => [lit (if x.isEmpty then "\"\"" else x), endLine]
  | .as vec =>
      ([endLine] ++ vec.flatMap fun s => [lit "\t", lit s, endLine]) ++
        if vec.isEmpty then [lit "\t", lit "\"\"", endLine] else []
  | .au vec =>
      ([endLine] ++ vec.flatMap fun x => [lit "\t", .text (decimal x.toNat), endLine]) ++
        if vec.isEmpty then [lit "\t", lit "\"\"", endLine] else [endLine]
  | .aau vec =>
      ([endLine] ++ vec.flatMap fun it => it.flatMap fun x =>
        [lit "\t", .text (decimal x.toNat), endLine]) ++
        if vec.isEmpty then [lit "\t", lit "\"\"", endLine] else [endLine]
  | .ay vec => byteItems vec ++ if vec.isEmpty then [lit "\t", lit "\"\"", endLine] else [endLine]
  | .aay vec =>
      vec.flatMap byteItems ++ if vec.isEmpty then [lit "\t", lit "\"\"", endLine] else [endLine]
  | .qqy x y z =>
      [endLine, lit "\t", num x, lit ": ", num y, lit ": ", .text [Char.ofNat z.toNat]]
  | .aqqy vec => [endLine] ++ vec.flatMap fun (x, y, z) =>
      [lit "\t", num x, lit ": ", num y, lit ": ", .text [Char.ofNat z.toNat], endLine]
  | .aayuay vec => [endLine] ++ vec.flatMap fun (x, y, z) =>
      [lit "\t"] ++ byteItems x ++ [lit ", ", .text (decimal y.toNat), lit ", "] ++ byteItems z ++
        [endLine]
  | .aayuayu vec => [endLine] ++ vec.flatMap fun (x, y, z, w) =>
      [lit "\t"] ++ byteItems x ++ [lit ", ", .text (decimal y.toNat), lit ", "] ++ byteItems z ++
        [lit ", ", .text (decimal w.toNat), endLine]
  | .tt x y => [endLine, lit "\t", num x, lit ": ", num y]
  | .ttt x y z => [endLine, lit "\t", num x, lit ": ", num y, lit ": ", num z]
  | .tttt x y z w =>
      [endLine, lit "\t", num x, lit ": ", num y, lit ": ", num z, lit ": ", num w]
  | .so s path => [endLine, lit "\t", lit s, lit ": ", lit path]
  | .st s x => [endLine, lit "\t", lit s, lit ": ", num x]
  | .uo x path => [endLine, lit "\t", num x, lit ": ", lit path]
  | .aisb vec => [endLine] ++ vec.flatMap fun (x, s, b) =>
      [lit "\t", int x, lit ": ", lit s, lit ": ", lit (trueFalse b)]
  | .iiay x y vec => [endLine, lit "\t", int x, lit ": ", int y, lit ": "] ++ byteItems vec
  | .aiiay vec => [endLine] ++ vec.flatMap fun (x, y, bs) =>
      [lit "\t", int x, lit ": ", int y, lit ": "] ++ byteItems bs
  | .iiayqs x y vec z s =>
      [endLine, lit "\t", int x, lit ", ", int y, lit ", "] ++ byteItems vec ++
        [lit ", ", num z, lit ", ", lit s]
  | .aiiayqs vec => [endLine] ++ vec.flatMap fun (x, y, bs, z, s) =>
      [lit "\t", int x, lit ", ", int y, lit ", "] ++ byteItems bs ++
        [lit ", ", num z, lit ", ", lit s]
  | .aso vec => [endLine] ++ vec.flatMap fun (s, path) => [lit "\t", lit s, lit ": ", lit path]
  | .other type => [lit "Unknown type: ", lit type, endLine]

def typeItems (value : Variant) : List Item := [lit "[", lit value.peekValueType, lit "] "]

mutual

def items : Variant → List Item
  | .plain value => plainItems value
  | .aqv map => [endLine] ++ numberedEntryItems map
  | .asv map => [endLine] ++ entryItems "\t" map
  | .asasv vec => [endLine] ++ tupleItems vec
  | .aasv vec => [endLine] ++ mapItems vec

def entryItems (indent : String) : List (String × Variant) → List Item
  | [] => []
  | (key, value) :: map =>
      [lit indent, lit key, lit ": "] ++ typeItems value ++ items value ++ entryItems indent map

def numberedEntryItems : List (BitVec 16 × Variant) → List Item
  | [] => []
  | (key, value) :: map =>
      [lit "\t", num key, lit ": "] ++ typeItems value ++ items value ++ numberedEntryItems map

def tupleItems : List (String × List (String × Variant)) → List Item
  | [] => []
  | (s, map) :: vec => [lit "\t", lit s, lit ": "] ++ entryItems "" map ++ tupleItems vec

def mapItems : List (List (String × Variant)) → List Item
  | [] => []
  | map :: vec => entryItems "\t" map ++ mapItems vec

end

def propertyItems (value : Variant) : List Item := typeItems value ++ items value

theorem writes_type {f : OStream → OStream} {is : List Item} (h : Writes f is) (value : Variant) :
    Writes (fun os => putType (f os) value) (is ++ typeItems value) :=
  h.comp (((Writes.nil.str "[").str value.peekValueType).str "] ")

theorem writes_bytes {f : OStream → OStream} {is : List Item} (h : Writes f is) (vec : List Byte) :
    Writes (fun os => putBytes (f os) vec) (is ++ byteItems vec) :=
  h.comp (Writes.foldl (fun b => (Writes.byte_one b).str " ") vec)

theorem writes_endl_foldl {α : Type} {f : OStream → α → OStream} {item : α → List Item}
    (h : ∀ a, Writes (fun os => f os a) (item a)) (vec : List α) :
    Writes (fun os => vec.foldl f (os <<< Manipulator.endl)) ([endLine] ++ vec.flatMap item) :=
  Writes.endl_one.comp (Writes.foldl h vec)

theorem writes_empty : Writes (fun os => os <<< "\t" <<< "\"\"" <<< Manipulator.endl)
    [lit "\t", lit "\"\"", endLine] :=
  ((Writes.nil.str "\t").str "\"\"").endl

theorem writes_number (x : BitVec 32) :
    Writes (fun os => os <<< "\t" <<< decimal x.toNat <<< Manipulator.endl)
      [lit "\t", .text (decimal x.toNat), endLine] :=
  ((Writes.nil.str "\t").text (decimal x.toNat)).endl

theorem writes_number_between (x : List Byte) (y : BitVec 32) (z : List Byte) :
    Writes (fun os =>
        putBytes (putBytes (os <<< "\t") x <<< ", " <<< decimal y.toNat <<< ", ") z)
      ([lit "\t"] ++ byteItems x ++ [lit ", ", .text (decimal y.toNat), lit ", "] ++
        byteItems z) :=
  writes_bytes ((writes_bytes (Writes.nil.str "\t") x).comp
    (((Writes.nil.str ", ").text (decimal y.toNat)).str ", ")) z

theorem writes_plainHandler :
    (value : Plain) → Writes (plainHandler value) (plainItems value)
  | .u _ | .q _ | .t _ | .y _ | .d _ | .n _ | .i _ | .x _ => (Writes.text_one _).endl
  | .o path => (Writes.text_one path.toList).endl
  | .ao paths => (Writes.foldl (fun path => (Writes.text_one path.toList).endl) paths :)
  | .b x => (Writes.text_one (trueFalse x).toList).endl
  | .s x => (Writes.text_one (if x.isEmpty then "\"\"" else x).toList).endl
  | .as vec =>
      (writes_endl_foldl (fun s => ((Writes.nil.str "\t").str s).endl) vec).comp
        (writes_empty.ite Writes.nil)
  | .au vec =>
      (writes_endl_foldl writes_number vec).comp (writes_empty.ite Writes.endl_one)
  | .aau vec =>
      (writes_endl_foldl (Writes.foldl writes_number) vec).comp (writes_empty.ite Writes.endl_one)
  | .ay vec => (writes_bytes Writes.nil vec).comp (writes_empty.ite Writes.endl_one)
  | .aay vec =>
      (Writes.foldl (writes_bytes Writes.nil) vec).comp (writes_empty.ite Writes.endl_one)
  | .qqy x y z =>
      (((((Writes.endl_one.str "\t").number (unsigned x)).str ": ").number (unsigned y)).str
        ": ").char (Char.ofNat z.toNat)
  | .aqqy vec => writes_endl_foldl (fun (x, y, z) =>
      ((((((Writes.nil.str "\t").number (unsigned x)).str ": ").number (unsigned y)).str
        ": ").char (Char.ofNat z.toNat)).endl) vec
  | .aayuay vec => writes_endl_foldl (fun (x, y, z) => (writes_number_between x y z).endl) vec
  | .aayuayu vec => writes_endl_foldl (fun (x, y, z, w) =>
      (writes_number_between x y z).comp
        (((Writes.nil.str ", ").text (decimal w.toNat)).endl)) vec
  | .tt x y => (((Writes.endl_one.str "\t").number (unsigned x)).str ": ").number (unsigned y)
  | .ttt x y z =>
      (((((Writes.endl_one.str "\t").number (unsigned x)).str ": ").number (unsigned y)).str
        ": ").number (unsigned z)
  | .tttt x y z w =>
      (((((((Writes.endl_one.str "\t").number (unsigned x)).str ": ").number (unsigned y)).str
        ": ").number (unsigned z)).str ": ").number (unsigned w)
  | .so s path => (((Writes.endl_one.str "\t").str s).str ": ").str path
  | .st s x => (((Writes.endl_one.str "\t").str s).str ": ").number (unsigned x)
  | .uo x path => (((Writes.endl_one.str "\t").number (unsigned x)).str ": ").str path
  | .aisb vec => writes_endl_foldl (fun (x, s, b) =>
      (((((Writes.nil.str "\t").number (.int x)).str ": ").str s).str ": ").str (trueFalse b)) vec
  | .iiay x y vec =>
      writes_bytes (((((Writes.endl_one.str "\t").number (.int x)).str ": ").number (.int y)).str
        ": ") vec
  | .aiiay vec => writes_endl_foldl (fun (x, y, bs) =>
      writes_bytes (((((Writes.nil.str "\t").number (.int x)).str ": ").number (.int y)).str
        ": ") bs) vec
  | .iiayqs x y vec z s =>
      (writes_bytes (((((Writes.endl_one.str "\t").number (.int x)).str ", ").number
        (.int y)).str ", ") vec).comp ((((Writes.nil.str ", ").number (unsigned z)).str ", ").str s)
  | .aiiayqs vec => writes_endl_foldl (fun (x, y, bs, z, s) =>
      (writes_bytes (((((Writes.nil.str "\t").number (.int x)).str ", ").number
        (.int y)).str ", ") bs).comp ((((Writes.nil.str ", ").number (unsigned z)).str ", ").str s))
      vec
  | .aso vec => writes_endl_foldl (fun (s, path) =>
      (((Writes.nil.str "\t").str s).str ": ").str path) vec
  | .other type => ((Writes.nil.str "Unknown type: ").str type).endl

mutual

theorem writes_handler : (value : Variant) → Writes (handler value) (items value)
  | .plain value => writes_plainHandler value
  | .aqv map => Writes.endl_one.comp (writes_numberedEntries map)
  | .asv map => Writes.endl_one.comp (writes_entries "\t" map)
  | .asasv vec => Writes.endl_one.comp (writes_tuples vec)
  | .aasv vec => Writes.endl_one.comp (writes_maps vec)

theorem writes_entries (indent : String) : (map : List (String × Variant)) →
    Writes (putEntries indent map) (entryItems indent map)
  | [] => Writes.nil
  | (key, value) :: map =>
      ((writes_type (((Writes.nil.str indent).str key).str ": ") value).comp
        (writes_handler value)).comp (writes_entries indent map)

theorem writes_numberedEntries : (map : List (BitVec 16 × Variant)) →
    Writes (putNumberedEntries map) (numberedEntryItems map)
  | [] => Writes.nil
  | (key, value) :: map =>
      ((writes_type (((Writes.nil.str "\t").number (unsigned key)).str ": ") value).comp
        (writes_handler value)).comp (writes_numberedEntries map)

theorem writes_tuples : (vec : List (String × List (String × Variant))) →
    Writes (putTuples vec) (tupleItems vec)
  | [] => Writes.nil
  | (s, map) :: vec =>
      ((((Writes.nil.str "\t").str s).str ": ").comp (writes_entries "" map)).comp
        (writes_tuples vec)

theorem writes_maps : (vec : List (List (String × Variant))) →
    Writes (putMaps vec) (mapItems vec)
  | [] => Writes.nil
  | map :: vec => (writes_entries "\t" map).comp (writes_maps vec)

end

theorem writes_appendProperty (value : Variant) :
    Writes (appendProperty value) (propertyItems value) :=
  (writes_type Writes.nil value).comp (writes_handler value)

theorem settled_lit {s : String} (h : ∃ c ∈ s.toList, isDigit c = false) (is : List Item) :
    Settled (lit s :: is) := Or.inl h

theorem settled_colon (is : List Item) : Settled (lit ": " :: is) :=
  settled_lit ⟨':', by decide, rfl⟩ is

theorem settled_comma (is : List Item) : Settled (lit ", " :: is) :=
  settled_lit ⟨',', by decide, rfl⟩ is

theorem settled_tab (is : List Item) : Settled (lit "\t" :: is) :=
  settled_lit ⟨'\t', by decide, rfl⟩ is

theorem separated_of_no_number {is : List Item} (h : ∀ n, .number n ∉ is) : Separated is := by
  induction is with
  | nil => trivial
  | cons i is ih =>
      have hrest := ih fun n hn => h n (List.mem_cons_of_mem _ hn)
      cases i with
      | text cs => exact hrest
      | number n => exact absurd (List.mem_cons_self ..) (h n)
      | byte b => exact hrest

theorem number_not_mem_byteItems (n : Number) (vec : List Byte) : .number n ∉ byteItems vec := by
  simp [byteItems, lit]

theorem separated_byteItems (vec : List Byte) : Separated (byteItems vec) :=
  separated_of_no_number fun n => number_not_mem_byteItems n vec

theorem separated_endl_flatMap {α : Type} {item : α → List Item} (vec : List α)
    (h : ∀ a, Settled (item a) ∧ Separated (item a)) :
    Separated ([endLine] ++ vec.flatMap item) := (flatMap_separated vec h).2

theorem separated_plainItems (value : Plain) : Separated (plainItems value) := by
  cases value with
  | qqy x y z => exact ⟨settled_colon _, settled_colon _, trivial⟩
  | aqqy vec =>
      exact separated_endl_flatMap vec fun _ =>
        ⟨settled_tab _, settled_colon _, settled_colon _, trivial⟩
  | tt x y => exact ⟨settled_colon _, trivial, trivial⟩
  | ttt x y z => exact ⟨settled_colon _, settled_colon _, trivial, trivial⟩
  | tttt x y z w => exact ⟨settled_colon _, settled_colon _, settled_colon _, trivial, trivial⟩
  | st s x => exact ⟨trivial, trivial⟩
  | uo x path => exact ⟨settled_colon _, trivial⟩
  | aisb vec => exact separated_endl_flatMap vec fun _ => ⟨settled_tab _, settled_colon _, trivial⟩
  | iiay x y vec => exact ⟨settled_colon _, settled_colon _, separated_byteItems vec⟩
  | aiiay vec =>
      exact separated_endl_flatMap vec fun _ =>
        ⟨settled_tab _, settled_colon _, settled_colon _, separated_byteItems _⟩
  | iiayqs x y vec z s =>
      refine ⟨settled_comma _, settled_comma _, separated_append (separated_byteItems vec) ?_ ?_⟩
      · exact ⟨settled_comma _, trivial⟩
      · exact settled_comma _
  | aiiayqs vec =>
      refine separated_endl_flatMap vec fun _ =>
        ⟨settled_tab _, settled_comma _, settled_comma _,
          separated_append (separated_byteItems _) ?_ ?_⟩
      · exact ⟨settled_comma _, trivial⟩
      · exact settled_comma _
  | _ =>
      apply separated_of_no_number
      intro n
      simp only [plainItems]
      try split_ifs
      all_goals simp [lit, endLine, number_not_mem_byteItems]

mutual

theorem separated_items : (value : Variant) → Separated (items value)
  | .plain value => separated_plainItems value
  | .aqv map => (separated_numberedEntries map).2
  | .asv map => (separated_entries "\t" map).2
  | .asasv vec => (separated_tuples vec).2
  | .aasv vec => (separated_maps vec).2

theorem separated_entries (indent : String) : (map : List (String × Variant)) →
    Settled (entryItems indent map) ∧ Separated (entryItems indent map)
  | [] => ⟨trivial, trivial⟩
  | (_, value) :: map =>
      have hrest := separated_entries indent map
      ⟨Or.inr (Or.inr (settled_colon _)), separated_append (separated_items value) hrest.2 hrest.1⟩

theorem separated_numberedEntries : (map : List (BitVec 16 × Variant)) →
    Settled (numberedEntryItems map) ∧ Separated (numberedEntryItems map)
  | [] => ⟨trivial, trivial⟩
  | (_, value) :: map =>
      have hrest := separated_numberedEntries map
      ⟨settled_tab _, settled_colon _,
        separated_append (separated_items value) hrest.2 hrest.1⟩

theorem separated_tuples : (vec : List (String × List (String × Variant))) →
    Settled (tupleItems vec) ∧ Separated (tupleItems vec)
  | [] => ⟨trivial, trivial⟩
  | (_, map) :: vec =>
      have hrest := separated_tuples vec
      ⟨settled_tab _, separated_append (separated_entries "" map).2 hrest.2 hrest.1⟩

theorem separated_maps : (vec : List (List (String × Variant))) →
    Settled (mapItems vec) ∧ Separated (mapItems vec)
  | [] => ⟨trivial, trivial⟩
  | map :: vec =>
      have hmap := separated_entries "\t" map
      have hrest := separated_maps vec
      ⟨settled_append hmap.1 hrest.1, separated_append hmap.2 hrest.2 hrest.1⟩

end

theorem separated_propertyItems (value : Variant) : Separated (propertyItems value) :=
  separated_items value

end SdbusExamples.PropertyItems
