import Mathlib.Data.Nat.Bitwise
import Mathlib.Data.List.Basic

namespace SdbusExamples.PackedBytes

abbrev Byte := BitVec 8

/-- The little-endian memory image of a byte string. -/
def image : List Byte → Nat
  | [] => 0
  | b :: bs => b.toNat + 2 ^ 8 * image bs

/-- The bit-field of `len` bits at bit offset `off` of a packed structure. -/
def field (m off len : Nat) : BitVec len := BitVec.ofNat len (m >>> off)

def byteAt (bs : List Byte) (k : Nat) : Byte := bs.getD k 0

/-- A field of `n + 8` bits, little-endian, that starts with the byte at `k`. -/
def wordAt (bs : List Byte) (k n : Nat) : BitVec (n + 8) :=
  (byteAt bs (k + 1)).extractLsb' 0 n ++ byteAt bs k

def SameBits (m m' lo hi : Nat) : Prop := ∀ i, lo ≤ i → i < hi → m.testBit i = m'.testBit i

@[simp] theorem byteAt_cons_zero (b : Byte) (bs : List Byte) : byteAt (b :: bs) 0 = b := rfl

@[simp] theorem byteAt_cons_succ (b : Byte) (bs : List Byte) (k : Nat) :
    byteAt (b :: bs) (k + 1) = byteAt bs k := rfl

theorem byteAt_append_left {bs cs : List Byte} {k : Nat} (h : k < bs.length) :
    byteAt (bs ++ cs) k = byteAt bs k := by
  rw [byteAt, byteAt, List.getD_append _ _ _ _ h]

theorem wordAt_take {bs : List Byte} {m k n : Nat} (h : k + 1 < m) :
    wordAt (bs.take m) k n = wordAt bs k n := by
  simp [wordAt, byteAt, h, Nat.lt_of_succ_lt h]

theorem byteAt_take {bs : List Byte} {n k : Nat} (h : k < n) :
    byteAt (bs.take n) k = byteAt bs k := by
  simp [byteAt, h]

theorem image_cons_shiftRight (b : Byte) (bs : List Byte) : image (b :: bs) >>> 8 = image bs := by
  have hb : b.toNat < 2 ^ 8 := b.isLt
  rw [image, Nat.shiftRight_eq_div_pow]
  omega

theorem testBit_image (bs : List Byte) {k j : Nat} (hj : j < 8) :
    (image bs).testBit (8 * k + j) = (byteAt bs k).getLsbD j := by
  induction bs generalizing k with
  | nil => simp [image, byteAt]
  | cons b bs ih =>
      cases k with
      | zero =>
          rw [image, byteAt_cons_zero, Nat.mul_zero, Nat.zero_add, Nat.add_comm,
            Nat.testBit_two_pow_mul_add _ b.isLt, if_pos hj, BitVec.testBit_toNat]
      | succ k =>
          have h8 : 8 * (k + 1) + j = 8 + (8 * k + j) := by omega
          rw [byteAt_cons_succ, ← ih, ← image_cons_shiftRight b bs, Nat.testBit_shiftRight, h8]

theorem getLsbD_field (m off : Nat) {len i : Nat} (hi : i < len) :
    (field m off len).getLsbD i = m.testBit (off + i) := by
  rw [field, BitVec.getLsbD_ofNat, Nat.testBit_shiftRight]
  simp [hi]

theorem field_ne_zero_iff (m off : Nat) : field m off 1 ≠ 0 ↔ m.testBit off = true := by
  have hbit : (field m off 1).getLsbD 0 = m.testBit off := getLsbD_field m off Nat.one_pos
  rw [← hbit]
  generalize field m off 1 = x
  revert x
  decide

theorem field_image (bs : List Byte) (k : Nat) : field (image bs) (8 * k) 8 = byteAt bs k := by
  apply BitVec.eq_of_getLsbD_eq
  intro j hj
  rw [getLsbD_field _ _ hj, testBit_image bs hj]

theorem field_image_bits (bs : List Byte) (k : Nat) {a n : Nat} (h : a + n ≤ 8) :
    field (image bs) (8 * k + a) n = (byteAt bs k).extractLsb' a n := by
  apply BitVec.eq_of_getLsbD_eq
  intro j hj
  rw [getLsbD_field _ _ hj, Nat.add_assoc, testBit_image bs (by omega),
    BitVec.getLsbD_extractLsb']
  simp [hj]

theorem field_image_word (bs : List Byte) (k : Nat) {n : Nat} (h : n ≤ 8) :
    field (image bs) (8 * k) (n + 8) = wordAt bs k n := by
  apply BitVec.eq_of_getLsbD_eq
  intro j hj
  rw [getLsbD_field _ _ hj, wordAt, BitVec.getLsbD_append]
  by_cases hlow : j < 8
  · rw [if_pos hlow, testBit_image bs hlow]
  · have hnext : 8 * k + j = 8 * (k + 1) + (j - 8) := by omega
    rw [if_neg hlow, hnext, testBit_image bs (by omega), BitVec.getLsbD_extractLsb']
    simp [show j - 8 < n by omega]

theorem field_eq_iff (m m' off len : Nat) :
    field m off len = field m' off len ↔ SameBits m m' off (off + len) := by
  constructor
  · intro h i hlo hhi
    have hbit := congrArg (fun x => x.getLsbD (i - off)) h
    have hoff : off + (i - off) = i := by omega
    simpa only [getLsbD_field _ _ (show i - off < len by omega), hoff] using hbit
  · intro h
    apply BitVec.eq_of_getLsbD_eq
    intro i hi
    rw [getLsbD_field _ _ hi, getLsbD_field _ _ hi]
    exact h (off + i) (by omega) (by omega)

theorem SameBits.mono {m m' lo hi lo' hi' : Nat} (h : SameBits m m' lo hi) (hlo : lo ≤ lo')
    (hhi : hi' ≤ hi) : SameBits m m' lo' hi' :=
  fun i h₁ h₂ => h i (by omega) (by omega)

theorem SameBits.append {m m' lo mid hi : Nat} (h : SameBits m m' lo mid)
    (h' : SameBits m m' mid hi) : SameBits m m' lo hi := by
  intro i hlo hhi
  by_cases hi : i < mid
  · exact h i hlo hi
  · exact h' i (by omega) hhi

theorem sameBits_split {m m' lo mid hi : Nat} (hlo : lo ≤ mid) (hhi : mid ≤ hi) :
    SameBits m m' lo hi ↔ SameBits m m' lo mid ∧ SameBits m m' mid hi :=
  ⟨fun h => ⟨h.mono (by omega) hhi, h.mono hlo (by omega)⟩, fun h => h.1.append h.2⟩

theorem sameBits_byte_iff (bs cs : List Byte) {k a n : Nat} (h : a + n ≤ 8) :
    SameBits (image bs) (image cs) (8 * k + a) (8 * k + a + n) ↔
      (byteAt bs k).extractLsb' a n = (byteAt cs k).extractLsb' a n := by
  constructor
  · intro hs
    apply BitVec.eq_of_getLsbD_eq
    intro j hj
    have hbit := hs (8 * k + (a + j)) (by omega) (by omega)
    rw [testBit_image bs (by omega), testBit_image cs (by omega)] at hbit
    simpa [BitVec.getLsbD_extractLsb', hj] using hbit
  · intro he i hlo hhi
    have hbit := congrArg (fun x => x.getLsbD (i - 8 * k - a)) he
    have hj : i - 8 * k - a < n := by omega
    have hi : i = 8 * k + (a + (i - 8 * k - a)) := by omega
    rw [hi, testBit_image bs (by omega), testBit_image cs (by omega)]
    simpa [BitVec.getLsbD_extractLsb', hj] using hbit

theorem sameBits_bytes_iff (bs cs : List Byte) (a b : Nat) :
    SameBits (image bs) (image cs) (8 * a) (8 * b) ↔
      ∀ k, a ≤ k → k < b → byteAt bs k = byteAt cs k := by
  constructor
  · intro hs k ha hb
    have h := (sameBits_byte_iff bs cs (k := k) (a := 0) (n := 8) (by omega)).1
      (hs.mono (by omega) (by omega))
    simpa using h
  · intro he i hlo hhi
    have hi : i = 8 * (i / 8) + i % 8 := by omega
    rw [hi, testBit_image bs (by omega), testBit_image cs (by omega),
      he (i / 8) (by omega) (by omega)]

end SdbusExamples.PackedBytes
