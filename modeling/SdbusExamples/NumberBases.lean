import SdbusExamples.OStreams

namespace SdbusExamples.NumberBases

open OStreams

def hexDigits : Text := "0123456789abcdef".toList

def hexValue (cs : Text) : Nat := cs.foldl (fun n c => 16 * n + hexDigits.idxOf c.toLower) 0

theorem digitChar_mem {n : Nat} (h : n < 16) : Nat.digitChar n ∈ hexDigits := by
  have hall : ∀ i : Fin 16, Nat.digitChar i ∈ hexDigits := by decide
  exact hall ⟨n, h⟩

theorem digitChar_inj {m n : Nat} (hm : m < 16) (hn : n < 16)
    (h : Nat.digitChar m = Nat.digitChar n) : m = n := by
  have hall : ∀ i j : Fin 16, Nat.digitChar i = Nat.digitChar j → i = j := by decide
  exact congrArg Fin.val (hall ⟨m, hm⟩ ⟨n, hn⟩ h)

theorem mem_hexDigits {b : Nat} (hb : 1 < b) (hle : b ≤ 16) (n : Nat) :
    ∀ c ∈ Nat.toDigits b n, c ∈ hexDigits := by
  induction n using Nat.strongRecOn with
  | ind n ih =>
      intro c hc
      rw [Nat.toDigits_eq_if hb] at hc
      split_ifs at hc with hn
      · rw [List.mem_singleton.1 hc]
        exact digitChar_mem (by omega)
      · rcases List.mem_append.1 hc with hc | hc
        · exact ih (n / b) (Nat.div_lt_self (by omega) hb) c hc
        · rw [List.mem_singleton.1 hc]
          have := Nat.mod_lt n (show 0 < b by omega)
          exact digitChar_mem (by omega)

theorem toDigits_ne_nil {b : Nat} (hb : 1 < b) (n : Nat) : Nat.toDigits b n ≠ [] := by
  rw [Nat.toDigits_eq_if hb]
  split_ifs <;> simp

/-- The same digits mean a larger number in base 16, unless there is only one. -/
theorem lt_of_toDigits_eq (n : Nat) : ∀ m, Nat.toDigits 16 n = Nat.toDigits 10 m →
    m ≤ n ∧ (10 ≤ m → m < n) := by
  induction n using Nat.strongRecOn with
  | ind n ih =>
      intro m h
      rw [Nat.toDigits_eq_if (b := 16) (by omega), Nat.toDigits_eq_if (b := 10) (by omega)] at h
      by_cases hn : n < 16
      · by_cases hm : m < 10
        · rw [if_pos hn, if_pos hm] at h
          have heq := digitChar_inj hn (by omega) (List.singleton_inj.1 h)
          omega
        · rw [if_pos hn, if_neg hm] at h
          have hnil := (List.append_eq_singleton_iff.1 h.symm)
          rcases hnil with ⟨hnil, -⟩ | ⟨-, hnil⟩
          · exact absurd hnil (toDigits_ne_nil (by omega) _)
          · cases hnil
      · by_cases hm : m < 10
        · omega
        · rw [if_neg hn, if_neg hm] at h
          obtain ⟨hinit, hlast⟩ := List.append_inj' h rfl
          have hle := (ih (n / 16) (by omega) (m / 10) hinit).1
          have hmod := digitChar_inj (Nat.mod_lt n (by omega)) (by omega)
            (List.singleton_inj.1 hlast)
          omega

theorem toDigits_eq_iff (n : Nat) : Nat.toDigits 16 n = Nat.toDigits 10 n ↔ n < 10 := by
  constructor
  · intro h
    have := (lt_of_toDigits_eq n n h).2
    omega
  · intro h
    rw [Nat.toDigits_of_lt_base h, Nat.toDigits_of_lt_base (by omega)]

def Number.value : Number → Int
  | .unsigned n => n
  | .int x => x.toInt

def SingleDigit (n : Number) : Prop := 0 ≤ Number.value n ∧ Number.value n < 10

theorem digits_eq_iff (n : Number) : n.digits .hex = n.digits .dec ↔ SingleDigit n := by
  cases n with
  | unsigned n =>
      show Nat.toDigits 16 n = Nat.toDigits 10 n ↔ (0 ≤ (n : Int) ∧ (n : Int) < 10)
      rw [toDigits_eq_iff]
      omega
  | int x =>
      show Nat.toDigits 16 x.toNat = decimal x.toInt ↔ (0 ≤ x.toInt ∧ x.toInt < 10)
      have hx := BitVec.toInt_eq_toNat_cond x
      rw [decimal]
      by_cases hneg : x.toInt < 0
      · -- no hexadecimal digit is a minus sign
        rw [if_pos hneg]
        constructor
        · intro h
          have hminus := mem_hexDigits (b := 16) (by omega) (by omega) x.toNat '-' (by rw [h]; simp)
          exact absurd hminus (by decide)
        · omega
      · have hnat : x.toInt.natAbs = x.toNat := by
          have := x.isLt
          split_ifs at hx <;> omega
        rw [if_neg hneg, hnat, toDigits_eq_iff]
        omega

def isDigit (c : Char) : Bool := c ∈ '-' :: hexDigits

theorem isDigit_of_mem_digits (base : Base) (n : Number) :
    ∀ c ∈ n.digits base, isDigit c = true := by
  have hnat (b : Nat) (hb : 1 < b) (hle : b ≤ 16) (k : Nat) :
      ∀ c ∈ Nat.toDigits b k, isDigit c = true := by
    intro c hc
    exact decide_eq_true (List.mem_cons_of_mem _ (mem_hexDigits hb hle k c hc))
  cases n with
  | unsigned n => cases base <;> exact hnat _ (by decide) (by decide) n
  | int x =>
      cases base with
      | hex => exact hnat 16 (by omega) (by omega) _
      | dec =>
          show ∀ c ∈ decimal x.toInt, isDigit c = true
          intro c hc
          rw [decimal] at hc
          split_ifs at hc
          · rcases List.mem_cons.1 hc with rfl | hc
            · rfl
            · exact hnat 10 (by omega) (by omega) _ c hc
          · exact hnat 10 (by omega) (by omega) _ c hc

/-- The same characters follow a number in both texts, up to the first one that
is no digit. -/
def SameRun (cs cs' : Text) : Prop := cs.takeWhile isDigit = cs'.takeWhile isDigit

theorem sameRun_append {cs cs' : Text} (h : SameRun cs cs') (ds : Text) :
    SameRun (ds ++ cs) (ds ++ cs') := by
  induction ds with
  | nil => exact h
  | cons d ds ih =>
      rw [SameRun, List.cons_append, List.cons_append, List.takeWhile_cons, List.takeWhile_cons]
      split_ifs
      · exact congrArg (d :: ·) ih
      · rfl

theorem sameRun_of_mem {ds : Text} {c : Char} (hc : c ∈ ds) (hd : isDigit c = false)
    (cs cs' : Text) : SameRun (ds ++ cs) (ds ++ cs') := by
  induction ds with
  | nil => cases hc
  | cons d ds ih =>
      rw [SameRun, List.cons_append, List.cons_append, List.takeWhile_cons, List.takeWhile_cons]
      by_cases hdig : isDigit d = true
      · have hne : c ≠ d := by
          rintro rfl
          rw [hd] at hdig
          cases hdig
        rw [if_pos hdig, if_pos hdig]
        exact congrArg (d :: ·) (ih ((List.mem_cons.1 hc).resolve_left hne))
      · rw [if_neg hdig, if_neg hdig]

theorem append_inj_of_sameRun {ds ds' cs cs' : Text} (hd : ∀ c ∈ ds, isDigit c = true)
    (hd' : ∀ c ∈ ds', isDigit c = true) (h : SameRun cs cs') :
    ds ++ cs = ds' ++ cs' ↔ ds = ds' ∧ cs = cs' := by
  constructor
  · intro heq
    have hrun := congrArg (List.takeWhile isDigit) heq
    rw [List.takeWhile_append_of_pos hd, List.takeWhile_append_of_pos hd', h] at hrun
    have hds := List.append_cancel_right hrun
    subst hds
    exact ⟨rfl, List.append_cancel_left heq⟩
  · rintro ⟨rfl, rfl⟩
    rfl

/-- The items write a character that is no digit before the next number or byte. -/
def Settled : List Item → Prop
  | [] => True
  | .text cs :: is => (∃ c ∈ cs, isDigit c = false) ∨ Settled is
  | .number _ :: _ => False
  | .byte _ :: _ => False

def Separated : List Item → Prop
  | [] => True
  | .text _ :: is => Separated is
  | .number _ :: is => Settled is ∧ Separated is
  | .byte _ :: is => Separated is

theorem settled_append {is js : List Item} (h : Settled is) (hjs : Settled js) :
    Settled (is ++ js) := by
  induction is with
  | nil => exact hjs
  | cons i is ih =>
      cases i with
      | text cs => exact h.imp_right ih
      | number n => exact h.elim
      | byte b => exact h.elim

theorem separated_append {is js : List Item} (h : Separated is) (hjs : Separated js)
    (hset : Settled js) : Separated (is ++ js) := by
  induction is with
  | nil => exact hjs
  | cons i is ih =>
      cases i with
      | text cs => exact ih h
      | number n => exact ⟨settled_append h.1 hset, ih h.2⟩
      | byte b => exact ih h

theorem flatMap_separated {α : Type} {items : α → List Item} (as : List α)
    (h : ∀ a, Settled (items a) ∧ Separated (items a)) :
    Settled (as.flatMap items) ∧ Separated (as.flatMap items) := by
  induction as with
  | nil => exact ⟨trivial, trivial⟩
  | cons a as ih =>
      rw [List.flatMap_cons]
      exact ⟨settled_append (h a).1 ih.1, separated_append (h a).2 ih.2 ih.1⟩

theorem sameRun_render {is : List Item} (h : Settled is) {cs cs' : Text} (hcs : SameRun cs cs') :
    SameRun (render .hex is ++ cs) (render .dec is ++ cs') := by
  induction is with
  | nil => exact hcs
  | cons i is ih =>
      cases i with
      | text ds =>
          rw [render, render, List.append_assoc, List.append_assoc]
          rcases h with ⟨c, hc, hd⟩ | h
          · exact sameRun_of_mem hc hd _ _
          · exact sameRun_append (ih h) ds
      | number n => exact h.elim
      | byte b => exact h.elim

/-- Items written in both bases agree exactly when the numbers before the first
byte are single digits: at the first other number the texts part. -/
theorem render_eq_iff {is : List Item} (h : Separated is) {cs cs' : Text} (hcs : SameRun cs cs') :
    render .hex is ++ cs = render .dec is ++ cs' ↔
      (∀ n ∈ leading is, SingleDigit n) ∧ cs = cs' := by
  induction is with
  | nil => simp [render, leading]
  | cons i is ih =>
      cases i with
      | text ds =>
          simp only [render, leading, List.append_assoc, List.append_cancel_left_eq]
          exact ih h
      | byte b => simp [render, leading]
      | number n =>
          simp only [render, leading, List.append_assoc, List.forall_mem_cons]
          rw [append_inj_of_sameRun (isDigit_of_mem_digits .hex n) (isDigit_of_mem_digits .dec n)
            (sameRun_render h.1 hcs), digits_eq_iff, ih h.2, and_assoc]

end SdbusExamples.NumberBases
