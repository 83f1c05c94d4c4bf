import SdbusExamples.ComponentPaths
import SdbusExamples.Hidraw
import Mathlib.Data.List.TakeWhile

namespace SdbusExamples.SysfsPaths

open ComponentPaths Hidraw

theorem takeWhile_eq_self_of_eq {α : Type} {p q : α → Bool} {l : List α}
    (hpq : ∀ x ∈ l, p x = true ∨ q x = true) (h : l.takeWhile p = l.takeWhile q) :
    l.takeWhile p = l := by
  induction l with
  | nil => rfl
  | cons x l ih =>
      rw [List.forall_mem_cons] at hpq
      rw [List.takeWhile_cons, List.takeWhile_cons] at h
      cases hp : p x <;> cases hq : q x <;> rw [hp, hq] at h hpq
      case false.false => simp at hpq
      case false.true => cases h
      case true.false => cases h
      case true.true => rw [List.takeWhile_cons_of_pos hp, ih hpq.2 (List.cons.inj h).2]

theorem find_at_start {sub text : List Char} (h : sub <+: text) : find sub text = some 0 := by
  cases text with
  | nil => rw [List.prefix_nil.1 h]; rfl
  | cons c cs => rw [find, if_pos (List.isPrefixOf_iff_prefix.2 h)]

theorem find_cons_of_other {sub text : List Char} {c : Char} (h : ¬ sub <+: c :: text) :
    find sub (c :: text) = (find sub text).map (· + 1) := by
  rw [find, if_neg (fun hp => h (List.isPrefixOf_iff_prefix.1 hp))]

theorem find_skip {c : List Char} (h : '/' ∉ c) (word text : List Char) :
    find ('/' :: word) (c ++ text) = (find ('/' :: word) text).map (c.length + ·) := by
  induction c with
  | nil => simp
  | cons x xs ih =>
      rw [List.mem_cons, not_or] at h
      have hx : ¬ ('/' :: word) <+: x :: (xs ++ text) := fun hp => h.1 (List.cons_prefix_cons.1 hp).1
      rw [List.cons_append, find_cons_of_other hx, ih h.2, Option.map_map]
      congr 1
      funext n
      simp only [Function.comp_apply, List.length_cons]
      omega

def before (word : List Char) (components : List (List Char)) : List (List Char) :=
  components.takeWhile fun c => !word.isPrefixOf c

theorem not_isPrefixOf_iff {word c : List Char} : (!word.isPrefixOf c) = true ↔ ¬ word <+: c := by
  rw [Bool.not_eq_true', Bool.eq_false_iff, Ne, List.isPrefixOf_iff_prefix]

theorem before_cons_of_begins {word c : List Char} (h : word <+: c) (cs : List (List Char)) :
    before word (c :: cs) = [] := by
  rw [before, List.takeWhile_cons_of_neg]
  rw [not_isPrefixOf_iff]
  exact fun hnot => hnot h

theorem before_cons_of_other {word c : List Char} (h : ¬ word <+: c)
    (cs : List (List Char)) : before word (c :: cs) = c :: before word cs := by
  rw [before, List.takeWhile_cons_of_pos]
  · rfl
  · exact not_isPrefixOf_iff.2 h

/-- The first occurrence of a slash and a word without slashes is at the first
component that begins with the word. -/
theorem find_fromRoot {word : List Char} (hword : '/' ∉ word) {cs : List (List Char)}
    (hcs : ∀ c ∈ cs, '/' ∉ c) (hex : ∃ c ∈ cs, word <+: c) (rest : List Char) :
    find ('/' :: word) (fromRoot '/' cs ++ rest) = some (fromRoot '/' (before word cs)).length := by
  induction cs with
  | nil =>
      obtain ⟨c, hc, -⟩ := hex
      cases hc
  | cons c cs ih =>
      rw [List.forall_mem_cons] at hcs
      rw [fromRoot_cons, List.cons_append, List.append_assoc]
      by_cases hc : word <+: c
      · have hprefix : '/' :: word <+: '/' :: (c ++ (fromRoot '/' cs ++ rest)) :=
          List.cons_prefix_cons.2 ⟨rfl, hc.trans (List.prefix_append c _)⟩
        rw [find_at_start hprefix, before_cons_of_begins hc]
        rfl
      · have hex' : ∃ d ∈ cs, word <+: d := by
          obtain ⟨d, hd, hdw⟩ := hex
          rcases List.mem_cons.1 hd with rfl | hd
          · exact absurd hdw hc
          · exact ⟨d, hd, hdw⟩
        have hnot : ¬ '/' :: word <+: '/' :: (c ++ (fromRoot '/' cs ++ rest)) := by
          intro hp
          have hp := (List.cons_prefix_cons.1 hp).2
          cases cs with
          | nil =>
              obtain ⟨d, hd, -⟩ := hex'
              cases hd
          | cons d ds => exact hc (prefix_of_prefix_append_sep hword hp)
        rw [find_cons_of_other hnot, find_skip hcs.1, ih hcs.2 hex',
          before_cons_of_other hc, fromRoot_cons]
        simp only [Option.map_some, List.length_cons, List.length_append]

theorem before_append_self (word : List Char) (cs : List (List Char)) :
    before word (cs ++ [word]) = before word cs := by
  induction cs with
  | nil => exact before_cons_of_begins List.prefix_rfl []
  | cons c cs ih =>
      rw [List.cons_append]
      by_cases hc : word <+: c
      · rw [before_cons_of_begins hc, before_cons_of_begins hc]
      · rw [before_cons_of_other hc, before_cons_of_other hc, ih]

theorem before_initial (word : List Char) (cs : List (List Char)) : before word cs <+: cs :=
  List.takeWhile_prefix _

/-- A word that none of the fixed components of a sysfs path begins with. -/
structure Subsystem (word : List Char) : Prop where
  noSlash : '/' ∉ word
  notSys : ¬ word <+: "sys".toList
  notDevices : ¬ word <+: "devices".toList

theorem sysDevices_append (cs : List (List Char)) (h : cs ≠ []) :
    sysDevices ++ ['/'].intercalate cs =
      fromRoot '/' ("sys".toList :: "devices".toList :: cs) := by
  rw [fromRoot_cons, fromRoot_cons, fromRoot_eq_intercalate h]
  rfl

theorem before_begins_path {word : List Char} {cs : List (List Char)} (hne : cs ≠ [])
    {d : List Char} {ds : List (List Char)} (hcut : before word cs = d :: ds) (rest : List Char) :
    sysDevices ++ ['/'].intercalate (d :: ds) <+: sysDevices ++ ['/'].intercalate cs ++ rest := by
  obtain ⟨more, hmore⟩ := before_initial word cs
  rw [sysDevices_append _ (List.cons_ne_nil d ds), sysDevices_append cs hne, ← hmore, hcut]
  simp

theorem commonPart_eq {word : List Char} (hword : Subsystem word) {cs : List (List Char)}
    (hne : cs ≠ []) (hcs : ∀ c ∈ cs, '/' ∉ c) (rest : List Char) :
    commonPart (sysDevices ++ ['/'].intercalate cs ++ '/' :: word ++ '/' :: rest) ('/' :: word) =
      if before word cs = [] then none else some (['/'].intercalate (before word cs)) := by
  have hpath : sysDevices ++ ['/'].intercalate cs ++ '/' :: word ++ '/' :: rest =
      fromRoot '/' ("sys".toList :: "devices".toList :: (cs ++ [word])) ++ '/' :: rest := by
    rw [sysDevices_append cs hne]
    simp
  have hprefix : sysDevices.isPrefixOf
      (sysDevices ++ ['/'].intercalate cs ++ '/' :: word ++ '/' :: rest) = true := by
    rw [List.isPrefixOf_iff_prefix, List.append_assoc, List.append_assoc]
    exact List.prefix_append sysDevices _
  have hfree : ∀ c ∈ "sys".toList :: "devices".toList :: (cs ++ [word]), '/' ∉ c := by
    rw [List.forall_mem_cons, List.forall_mem_cons, List.forall_mem_append,
      List.forall_mem_singleton]
    exact ⟨by decide, by decide, hcs, hword.noSlash⟩
  have hfind := find_fromRoot hword.noSlash hfree
    ⟨word, by simp, List.prefix_rfl⟩ ('/' :: rest)
  rw [before_cons_of_other hword.notSys, before_cons_of_other hword.notDevices,
    before_append_self, ← hpath] at hfind
  rw [commonPart, if_pos hprefix, hfind]
  cases hcut : before word cs with
  | nil => rfl
  | cons d ds =>
      have hlen : (fromRoot '/' ("sys".toList :: "devices".toList :: d :: ds)).length =
          sysDevices.length + (['/'].intercalate (d :: ds)).length := by
        rw [← sysDevices_append _ (List.cons_ne_nil d ds), List.length_append]
      obtain ⟨tail, htail⟩ := before_begins_path hne hcut ('/' :: word ++ '/' :: rest)
      rw [← List.append_assoc] at htail
      simp only [hlen]
      rw [if_neg (Nat.not_lt.2 (Nat.le_add_right _ _)), if_neg (List.cons_ne_nil d ds), ← htail,
        List.append_assoc, List.drop_left, Nat.add_sub_cancel_left, List.take_left]

@[ext] structure DeviceDir where
  components : List String
  ne : components ≠ []
  valid : ∀ c ∈ components, c ≠ "" ∧ '/' ∉ c.toList
deriving DecidableEq

namespace DeviceDir

def path (P : DeviceDir) : String := "/".intercalate P.components

def inputPath (P : DeviceDir) (N : String) : String :=
  "/sys/devices/" ++ P.path ++ "/input/input" ++ N

def hidrawPath (P : DeviceDir) (M : String) : String :=
  "/sys/devices/" ++ P.path ++ "/hidraw/hidraw" ++ M

def upTo (P : DeviceDir) (word : String) : List String :=
  P.components.takeWhile fun c => !word.toList.isPrefixOf c.toList

/-- Cutting `P` and `Q` at their first components with the subsystem's name
does not hide whether they are one directory. -/
def Comparable (P Q : DeviceDir) : Prop :=
  if P = Q then ∀ c ∈ P.components, ¬ "input".toList <+: c.toList ∧ ¬ "hidraw".toList <+: c.toList
  else P.upTo "input" = [] ∨ P.upTo "input" ≠ Q.upTo "hidraw"

theorem before_eq_upTo (P : DeviceDir) (word : String) :
    before word.toList (P.components.map String.toList) = (P.upTo word).map String.toList := by
  rw [before, upTo, List.takeWhile_map]
  rfl

theorem map_components_ne (P : DeviceDir) : P.components.map String.toList ≠ [] := by
  rw [Ne, List.map_eq_nil_iff]
  exact P.ne

theorem map_components_free (P : DeviceDir) : ∀ c ∈ P.components.map String.toList, '/' ∉ c :=
  List.forall_mem_map.2 fun c hc => (P.valid c hc).2

theorem commonPart_path (P : DeviceDir) {word : String} (hword : Subsystem word.toList)
    (rest : List Char) :
    commonPart (sysDevices ++ P.path.toList ++ '/' :: word.toList ++ '/' :: rest)
        ('/' :: word.toList) =
      if P.upTo word = [] then none
      else some (['/'].intercalate ((P.upTo word).map String.toList)) := by
  have h := commonPart_eq hword P.map_components_ne P.map_components_free rest
  rw [before_eq_upTo] at h
  simp only [List.map_eq_nil_iff] at h
  rw [← h, path, String.toList_intercalate]
  rfl

theorem upTo_free (P : DeviceDir) (word : String) :
    ∀ c ∈ (P.upTo word).map String.toList, '/' ∉ c :=
  List.forall_mem_map.2 fun c hc => (P.valid c ((List.takeWhile_prefix _).mem hc)).2

theorem upTo_eq_self {P : DeviceDir} {word : String} :
    P.upTo word = P.components ↔ ∀ c ∈ P.components, ¬ word.toList <+: c.toList := by
  simp only [upTo, List.takeWhile_eq_self_iff, not_isPrefixOf_iff]

theorem toList_subsystemPath (P : DeviceDir) {word twice : String}
    (htwice : twice.toList = '/' :: word.toList ++ '/' :: word.toList) (N : String) :
    ("/sys/devices/" ++ P.path ++ twice ++ N).toList =
      sysDevices ++ P.path.toList ++ '/' :: word.toList ++ '/' :: (word.toList ++ N.toList) := by
  rw [String.toList_append, String.toList_append, String.toList_append, htwice]
  change sysDevices ++ _ ++ _ ++ _ = _
  simp only [List.append_assoc, List.cons_append]

theorem commonPart_inputPath (P : DeviceDir) (N : String) :
    commonPart (P.inputPath N).toList "/input".toList =
      if P.upTo "input" = [] then none
      else some (['/'].intercalate ((P.upTo "input").map String.toList)) := by
  have hword : Subsystem "input".toList := ⟨by decide, by decide, by decide⟩
  have htwice : "/input/input".toList = '/' :: "input".toList ++ '/' :: "input".toList := by decide
  rw [inputPath, P.toList_subsystemPath htwice N]
  exact P.commonPart_path hword _

theorem commonPart_hidrawPath (Q : DeviceDir) (M : String) :
    commonPart (Q.hidrawPath M).toList "/hidraw".toList =
      if Q.upTo "hidraw" = [] then none
      else some (['/'].intercalate ((Q.upTo "hidraw").map String.toList)) := by
  have hword : Subsystem "hidraw".toList := ⟨by decide, by decide, by decide⟩
  have htwice : "/hidraw/hidraw".toList = '/' :: "hidraw".toList ++ '/' :: "hidraw".toList := by
    decide
  rw [hidrawPath, Q.toList_subsystemPath htwice M]
  exact Q.commonPart_path hword _

theorem siblings_iff (P Q : DeviceDir) (N M : String) :
    compareSubsystemDevicePaths (P.inputPath N) (Q.hidrawPath M) = true ↔
      P.upTo "input" = Q.upTo "hidraw" ∧ P.upTo "input" ≠ [] := by
  rw [compareSubsystemDevicePaths, commonPart_inputPath, commonPart_hidrawPath]
  by_cases hP : P.upTo "input" = []
  · simp [hP]
  by_cases hQ : Q.upTo "hidraw" = []
  · simp [hP, hQ]
  have hinj := intercalate_inj (by simpa using hP) (by simpa using hQ)
    (P.upTo_free "input") (Q.upTo_free "hidraw")
  rw [List.map_inj_right (fun _ _ h => String.toList_inj.1 h)] at hinj
  rw [if_neg hP, if_neg hQ, decide_eq_true_iff, hinj, and_iff_left hP]

theorem not_both_begin (c : String) :
    (!"input".toList.isPrefixOf c.toList) = true ∨ (!"hidraw".toList.isPrefixOf c.toList) = true := by
  rw [not_isPrefixOf_iff, not_isPrefixOf_iff, ← not_and_or]
  rintro ⟨hinput, hhidraw⟩
  exact absurd (List.prefix_of_prefix_length_le hinput hhidraw (by decide)) (by decide)

theorem upTo_eq_upTo_iff (P : DeviceDir) :
    P.upTo "input" = P.upTo "hidraw" ∧ P.upTo "input" ≠ [] ↔
      ∀ c ∈ P.components, ¬ "input".toList <+: c.toList ∧ ¬ "hidraw".toList <+: c.toList := by
  constructor
  · rintro ⟨heq, -⟩
    have hself : P.upTo "input" = P.components :=
      takeWhile_eq_self_of_eq (fun c _ => not_both_begin c) heq
    rw [hself] at heq
    exact fun c hc => ⟨upTo_eq_self.1 hself c hc, upTo_eq_self.1 heq.symm c hc⟩
  · intro h
    have hinput : P.upTo "input" = P.components := upTo_eq_self.2 fun c hc => (h c hc).1
    have hhidraw : P.upTo "hidraw" = P.components := upTo_eq_self.2 fun c hc => (h c hc).2
    exact ⟨hinput.trans hhidraw.symm, hinput ▸ P.ne⟩

/-- The comparison answers whether the directories are the same exactly when
they can be told apart, or recognised, by what stands before these components. -/
theorem compareSubsystemDevicePaths_correct_iff (P Q : DeviceDir) (N M : String) :
    (compareSubsystemDevicePaths (P.inputPath N) (Q.hidrawPath M) = true ↔ P = Q) ↔
      Comparable P Q := by
  rw [siblings_iff, Comparable]
  by_cases h : P = Q
  · rw [if_pos h, ← h, upTo_eq_upTo_iff]
    exact iff_true_right rfl
  · rw [if_neg h, iff_false_right h, not_and_or, not_not, or_comm]

/-- Below a directory called input_hub an input device and its hidraw node are
not recognised as siblings. -/
theorem compareSubsystemDevicePaths_incorrect :
    ¬ ∀ (P Q : DeviceDir) (N M : String),
      compareSubsystemDevicePaths (P.inputPath N) (Q.hidrawPath M) = true ↔ P = Q := by
  intro h
  have hmissed := (h ⟨["virtual", "input_hub"], by decide, by decide⟩
    ⟨["virtual", "input_hub"], by decide, by decide⟩ "7" "0").2 rfl
  rw [siblings_iff] at hmissed
  exact absurd hmissed.1 (by decide)

end DeviceDir

end SdbusExamples.SysfsPaths
