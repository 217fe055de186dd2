/-
  Fields packed into storage words.

  Source: `crates/precompiles/src/storage/packing.rs` (`FieldLocation`,
  `create_element_mask`, `extract_from_word`, `insert_into_word`,
  `delete_from_word`, `calc_element_loc`) and `FromWord` of `storage/types/`, with the
  conversions of `crates/precompiles-macros/src/storable_primitives.rs`.

  The source refuses at run time a field that would span a slot boundary; here a
  `FieldLocation` carries that bound, so the operations are total.
-/
import Mathlib.Algebra.Ring.Nat
import Mathlib.Tactic.Common

set_option autoImplicit false

namespace Monotempo.Chain

/-- A 256-bit storage word. -/
abbrev Word := BitVec 256

/-- `FieldLocation`: a byte range of one slot of a multi-slot value. -/
structure FieldLocation where
  offsetSlots : ℕ
  offsetBytes : ℕ
  size : ℕ
  inBounds : offsetBytes + size ≤ 32

namespace FieldLocation

/-- Two byte ranges that share no byte. -/
def Disjoint (left right : FieldLocation) : Prop :=
  left.offsetBytes + left.size ≤ right.offsetBytes ∨
    right.offsetBytes + right.size ≤ left.offsetBytes

instance (left right : FieldLocation) : Decidable (left.Disjoint right) :=
  inferInstanceAs (Decidable (_ ∨ _))

end FieldLocation

/-! ## Field types -/

/-- `FromWord`: the word of each value in the range of a primitive type, read back from it.  The
one error of `from_word` is `under_overflow`. -/
structure FromWord (T : Type) where
  toWord : T → Word
  fromWord : Word → Option T
  InRange : T → Prop
  fromWord_toWord : ∀ value, InRange value → fromWord (toWord value) = some value

/-- `bool`. -/
def FromWord.bool : FromWord Bool where
  toWord value := if value then 1#256 else 0#256
  fromWord word := some (decide (word ≠ 0#256))
  InRange _ := True
  fromWord_toWord value _ := by cases value <;> rfl

theorem ofNat_toNat_of_bytes {value bytes : ℕ} (h : value < 2 ^ (bytes * 8)) (hbytes : bytes ≤ 32) :
    (BitVec.ofNat 256 value).toNat = value :=
  Nat.mod_eq_of_lt (Nat.lt_of_lt_of_le h (Nat.pow_le_pow_right (by decide) (by omega)))

/-- An unsigned integer of a number of bytes. -/
def FromWord.uint (bytes : ℕ) : FromWord ℕ where
  toWord value := BitVec.ofNat 256 value
  fromWord word := if word.toNat < 2 ^ (bytes * 8) then some word.toNat else none
  InRange value := value < 2 ^ (bytes * 8) ∧ bytes ≤ 32
  fromWord_toWord value h := by
    rw [ofNat_toNat_of_bytes h.1 h.2]
    exact if_pos h.1

/-- An address or a hash: the low bytes of the word, whatever the others are. -/
def FromWord.fixedBytes (bytes : ℕ) : FromWord ℕ where
  toWord value := BitVec.ofNat 256 value
  fromWord word := some (word.toNat % 2 ^ (bytes * 8))
  InRange value := value < 2 ^ (bytes * 8) ∧ bytes ≤ 32
  fromWord_toWord value h := by
    rw [ofNat_toNat_of_bytes h.1 h.2, Nat.mod_eq_of_lt h.1]

theorem toNat_emod_lt (value : ℤ) (bytes : ℕ) :
    0 ≤ value % (2 ^ (bytes * 8) : ℕ) ∧
      (value % (2 ^ (bytes * 8) : ℕ)).toNat < 2 ^ (bytes * 8) := by
  have hpos : (0 : ℤ) < (2 ^ (bytes * 8) : ℕ) := Int.natCast_pos.mpr (Nat.two_pow_pos _)
  have hnonneg := Int.emod_nonneg value (Int.ne_of_gt hpos)
  have hlt := Int.emod_lt_of_pos value hpos
  exact ⟨hnonneg, by omega⟩

/-- A signed integer of a number of bytes: the word has its two's complement bits. -/
def FromWord.int (bytes : ℕ) : FromWord ℤ where
  toWord value := BitVec.ofNat 256 (value % (2 ^ (bytes * 8) : ℕ)).toNat
  fromWord word :=
    if word.toNat < 2 ^ (bytes * 8) then some ((word.toNat : ℤ).bmod (2 ^ (bytes * 8))) else none
  InRange value :=
    (-(2 ^ (bytes * 8) : ℕ) ≤ value * 2 ∧ value * 2 < (2 ^ (bytes * 8) : ℕ)) ∧ bytes ≤ 32
  fromWord_toWord value h := by
    obtain ⟨hnonneg, hlt⟩ := toNat_emod_lt value bytes
    rw [ofNat_toNat_of_bytes hlt h.2, if_pos hlt, Int.toNat_of_nonneg hnonneg, Int.emod_bmod,
      Int.bmod_eq_of_le_mul_two h.1.1 h.1.2]

/-! ## Operations -/

/-- `create_element_mask`. -/
def createElementMask (byteCount : ℕ) : Word :=
  if 32 ≤ byteCount then BitVec.allOnes 256 else (1#256 <<< (byteCount * 8)) - 1#256

/-- The bits of a field, aligned to the right. -/
def fieldBits (slotValue : Word) (loc : FieldLocation) : Word :=
  (slotValue >>> (loc.offsetBytes * 8)) &&& createElementMask loc.size

section Operations

variable {T : Type} (type : FromWord T)

/-- `extract_from_word`. -/
def extractFromWord (slotValue : Word) (loc : FieldLocation) : Option T :=
  type.fromWord (fieldBits slotValue loc)

/-- `insert_into_word`. -/
def insertIntoWord (current : Word) (value : T) (loc : FieldLocation) : Word :=
  let mask := createElementMask loc.size
  let cleared := current &&& ~~~(mask <<< (loc.offsetBytes * 8))
  let positioned := (type.toWord value &&& mask) <<< (loc.offsetBytes * 8)
  cleared ||| positioned

end Operations

/-- `delete_from_word`. -/
def deleteFromWord (current : Word) (loc : FieldLocation) : Word :=
  current &&& ~~~(createElementMask loc.size <<< (loc.offsetBytes * 8))

/-! ## Bits -/

theorem getLsbD_createElementMask (byteCount i : ℕ) :
    (createElementMask byteCount).getLsbD i = (decide (i < byteCount * 8) && decide (i < 256)) := by
  unfold createElementMask
  split
  · rw [BitVec.getLsbD_allOnes]
    by_cases hi : i < 256
    · have hlt : i < byteCount * 8 := by omega
      simp [hi, hlt]
    · simp [hi]
  · have hmask : (1#256 <<< (byteCount * 8)) - 1#256 =
        BitVec.ofNat 256 (2 ^ (byteCount * 8) - 1) := by
      have hone : 1#256 <<< (byteCount * 8) = BitVec.ofNat 256 (2 ^ (byteCount * 8)) := by
        apply BitVec.eq_of_toNat_eq
        simp [Nat.shiftLeft_eq]
      have hpos : 1 ≤ 2 ^ (byteCount * 8) := Nat.one_le_two_pow
      rw [hone, BitVec.ofNat_sub_ofNat_of_le _ _ (by decide) hpos]
    rw [hmask, BitVec.getLsbD_ofNat, Nat.testBit_two_pow_sub_one, Bool.and_comm]

theorem getLsbD_fieldBits (slotValue : Word) (loc : FieldLocation) (i : ℕ) :
    (fieldBits slotValue loc).getLsbD i =
      (slotValue.getLsbD (loc.offsetBytes * 8 + i) && decide (i < loc.size * 8)) := by
  have hbounds := loc.inBounds
  unfold fieldBits
  rw [BitVec.getLsbD_and, BitVec.getLsbD_ushiftRight, getLsbD_createElementMask]
  by_cases hi : i < loc.size * 8
  · have hword : i < 256 := by omega
    simp [hi, hword]
  · simp [hi]

variable {T U : Type} {type : FromWord T} {type' : FromWord U}

theorem getLsbD_insertIntoWord (current : Word) (value : T) (loc : FieldLocation) (i : ℕ) :
    (insertIntoWord type current value loc).getLsbD i =
      if loc.offsetBytes * 8 ≤ i ∧ i < loc.offsetBytes * 8 + loc.size * 8 then
        (type.toWord value).getLsbD (i - loc.offsetBytes * 8)
      else current.getLsbD i := by
  have hbounds := loc.inBounds
  unfold insertIntoWord
  simp only [BitVec.getLsbD_or, BitVec.getLsbD_and, BitVec.getLsbD_not,
    BitVec.getLsbD_shiftLeft, getLsbD_createElementMask]
  split
  · have hword : i < 256 := by omega
    have hinner : i - loc.offsetBytes * 8 < loc.size * 8 := by omega
    have hlocal : i - loc.offsetBytes * 8 < 256 := by omega
    have hnot : ¬ i < loc.offsetBytes * 8 := by omega
    simp [hword, hinner, hlocal, hnot]
  · by_cases hword : i < 256
    · by_cases hbelow : i < loc.offsetBytes * 8
      · simp [hword, hbelow]
      · have hinner : ¬ i - loc.offsetBytes * 8 < loc.size * 8 := by omega
        simp [hword, hbelow, hinner]
    · have hcurrent : current.getLsbD i = false := BitVec.getLsbD_of_ge current i (by omega)
      simp [hword, hcurrent]

/-! ## The laws of a field -/

/-- The value fits the field. -/
def FitsField (value : Word) (loc : FieldLocation) : Prop :=
  value.toNat < 2 ^ (loc.size * 8)

variable {loc other : FieldLocation} {current : Word} {value : T} {value' : U}

theorem fitsField_fieldBits (word : Word) (loc : FieldLocation) :
    FitsField (fieldBits word loc) loc := by
  refine Nat.lt_pow_two_of_testBit _ ?_
  intro i hi
  change (fieldBits word loc).getLsbD i = false
  rw [getLsbD_fieldBits]
  simp [hi]

theorem fieldBits_insert (h : FitsField (type.toWord value) loc) :
    fieldBits (insertIntoWord type current value loc) loc = type.toWord value := by
  apply BitVec.eq_of_getLsbD_eq
  intro i _
  rw [getLsbD_fieldBits, getLsbD_insertIntoWord]
  by_cases hi : i < loc.size * 8
  · rw [if_pos (by omega)]
    simp [hi]
  · have hvalue : (type.toWord value).getLsbD i = false :=
      Nat.testBit_lt_two_pow
        (Nat.lt_of_lt_of_le h (Nat.pow_le_pow_right (by decide) (Nat.le_of_not_lt hi)))
    simp [hi, hvalue]

theorem extract_insert (hrange : type.InRange value) (h : FitsField (type.toWord value) loc) :
    extractFromWord type (insertIntoWord type current value loc) loc = some value := by
  unfold extractFromWord
  rw [fieldBits_insert h]
  exact type.fromWord_toWord value hrange

/-- An insertion is invisible at every disjoint field. -/
theorem fieldBits_insert_of_disjoint (h : loc.Disjoint other) :
    fieldBits (insertIntoWord type current value loc) other = fieldBits current other := by
  apply BitVec.eq_of_getLsbD_eq
  intro i _
  rw [getLsbD_fieldBits, getLsbD_fieldBits, getLsbD_insertIntoWord]
  by_cases hi : i < other.size * 8
  · rw [if_neg]
    unfold FieldLocation.Disjoint at h
    omega
  · simp [hi]

theorem insert_insert :
    insertIntoWord type' (insertIntoWord type current value loc) value' loc =
      insertIntoWord type' current value' loc := by
  apply BitVec.eq_of_getLsbD_eq
  intro i _
  simp only [getLsbD_insertIntoWord]
  split <;> rfl

theorem insert_comm (h : loc.Disjoint other) :
    insertIntoWord type' (insertIntoWord type current value loc) value' other =
      insertIntoWord type (insertIntoWord type' current value' other) value loc := by
  apply BitVec.eq_of_getLsbD_eq
  intro i _
  simp only [getLsbD_insertIntoWord]
  unfold FieldLocation.Disjoint at h
  split
  · rw [if_neg (by omega)]
  · rfl

/-- Writing a value to a field that has its bits changes nothing. -/
theorem insert_of_bits (hbits : type.toWord value = fieldBits current loc) :
    insertIntoWord type current value loc = current := by
  apply BitVec.eq_of_getLsbD_eq
  intro i _
  rw [getLsbD_insertIntoWord, hbits, getLsbD_fieldBits]
  split
  · have hinner : i - loc.offsetBytes * 8 < loc.size * 8 := by omega
    have hplace : loc.offsetBytes * 8 + (i - loc.offsetBytes * 8) = i := by omega
    simp [hinner, hplace]
  · rfl

theorem bits_of_insert (h : FitsField (type.toWord value) loc)
    (hsame : insertIntoWord type current value loc = current) :
    type.toWord value = fieldBits current loc := by
  rw [← fieldBits_insert h, hsame]

theorem delete_eq_insert_zero (h : type.toWord value = 0#256) :
    deleteFromWord current loc = insertIntoWord type current value loc := by
  unfold deleteFromWord insertIntoWord
  simp [h]

theorem fieldBits_zero (loc : FieldLocation) : fieldBits 0#256 loc = 0#256 := by
  unfold fieldBits
  simp

/-! ## Values that are read have the bits of their field -/

section Canonical

variable {bytes n : ℕ} {m : ℤ}

theorem bits_of_extract_uint (h : extractFromWord (.uint bytes) current loc = some n) :
    (FromWord.uint bytes).toWord n = fieldBits current loc := by
  obtain ⟨-, hvalue⟩ := Option.ite_none_right_eq_some.mp h
  obtain rfl := Option.some.inj hvalue
  exact BitVec.ofNat_toNat _ _

theorem bits_of_extract_fixedBytes (hsize : loc.size ≤ bytes)
    (h : extractFromWord (.fixedBytes bytes) current loc = some n) :
    (FromWord.fixedBytes bytes).toWord n = fieldBits current loc := by
  have hfits := Nat.lt_of_lt_of_le (fitsField_fieldBits current loc)
    (Nat.pow_le_pow_right (by decide) (Nat.mul_le_mul_right 8 hsize))
  obtain rfl := Option.some.inj h
  rw [Nat.mod_eq_of_lt hfits]
  exact BitVec.ofNat_toNat _ _

theorem bits_of_extract_int (h : extractFromWord (.int bytes) current loc = some m) :
    (FromWord.int bytes).toWord m = fieldBits current loc := by
  obtain ⟨hfits, hvalue⟩ := Option.ite_none_right_eq_some.mp h
  obtain rfl := Option.some.inj hvalue
  change BitVec.ofNat 256 (Int.bmod _ _ % (2 ^ (bytes * 8) : ℕ)).toNat = _
  rw [Int.bmod_emod, ← Int.natCast_emod, Int.toNat_natCast, Nat.mod_eq_of_lt hfits]
  exact BitVec.ofNat_toNat _ _

/-- A boolean field reads `true` from every word but zero and has the bits of `true` in one. -/
theorem insert_extract_bool {flag : Bool} (h : extractFromWord .bool current loc = some flag) :
    insertIntoWord .bool current flag loc = current ↔ (fieldBits current loc).toNat ≤ 1 := by
  obtain rfl := Option.some.inj h
  have hfits := fitsField_fieldBits current loc
  by_cases hzero : fieldBits current loc = 0#256
  · have hbits : FromWord.bool.toWord (decide (fieldBits current loc ≠ 0#256)) =
        fieldBits current loc := by
      simp [FromWord.bool, hzero]
    rw [insert_of_bits hbits, hzero]
    simp
  · have hone : FromWord.bool.toWord (decide (fieldBits current loc ≠ 0#256)) = 1#256 := by
      simp [FromWord.bool, hzero]
    have hpositive : 0 < (fieldBits current loc).toNat := by
      refine Nat.pos_of_ne_zero fun hnat => hzero ?_
      exact BitVec.eq_of_toNat_eq hnat
    constructor
    · intro hsame
      have hbits := bits_of_insert (by rw [hone]; exact Nat.lt_of_le_of_lt hpositive hfits) hsame
      rw [← hbits, hone]
      exact Nat.le_refl 1
    · intro hle
      refine insert_of_bits (hone.trans (BitVec.eq_of_toNat_eq ?_))
      exact Nat.le_antisymm hpositive hle

end Canonical

/-! ## Array elements -/

/-- `calc_element_slot`. -/
def calcElementSlot (idx elemBytes : ℕ) : ℕ := idx / (32 / elemBytes)

/-- `calc_element_offset`. -/
def calcElementOffset (idx elemBytes : ℕ) : ℕ := idx % (32 / elemBytes) * elemBytes

section Elements

variable {elemBytes : ℕ} (hlow : 1 ≤ elemBytes) (hhigh : elemBytes ≤ 32)
include hlow hhigh

theorem calcElementOffset_add_le (idx : ℕ) : calcElementOffset idx elemBytes + elemBytes ≤ 32 := by
  have hnext : idx % (32 / elemBytes) + 1 ≤ 32 / elemBytes :=
    Nat.mod_lt idx (Nat.div_pos hhigh hlow)
  calc calcElementOffset idx elemBytes + elemBytes
      = (idx % (32 / elemBytes) + 1) * elemBytes := (Nat.succ_mul _ _).symm
    _ ≤ 32 / elemBytes * elemBytes := Nat.mul_le_mul_right elemBytes hnext
    _ ≤ 32 := Nat.div_mul_le_self 32 elemBytes

/-- `calc_element_loc`; a type takes 1 to 32 bytes of a slot. -/
def calcElementLoc (idx : ℕ) : FieldLocation where
  offsetSlots := calcElementSlot idx elemBytes
  offsetBytes := calcElementOffset idx elemBytes
  size := elemBytes
  inBounds := calcElementOffset_add_le hlow hhigh idx

theorem calcElementLoc_disjoint {i j : ℕ} (hne : i ≠ j)
    (hslot : calcElementSlot i elemBytes = calcElementSlot j elemBytes) :
    (calcElementLoc hlow hhigh i).Disjoint (calcElementLoc hlow hhigh j) := by
  have hmod : i % (32 / elemBytes) ≠ j % (32 / elemBytes) := by
    intro hmod
    exact hne (Nat.ext_div_mod hslot hmod)
  -- The element earlier in the slot ends before the later one starts.
  have hends {m n : ℕ} (h : m < n) : m * elemBytes + elemBytes ≤ n * elemBytes := by
    rw [← Nat.succ_mul]
    exact Nat.mul_le_mul_right elemBytes h
  rcases Nat.lt_or_gt_of_ne hmod with h | h
  · exact Or.inl (hends h)
  · exact Or.inr (hends h)

end Elements

/-- A packed field of a word is a lens, fields that share no byte are independent, and the
elements of a packed array share no byte and stay within their slots.  Writing back what was
read restores the word if it has the bits of the value, which integers and byte strings of the
field's size always have and booleans have in the words zero and one. -/
theorem packed_fields_are_lenses :
    (∀ (T : Type) (type : FromWord T) (word : Word) (value : T) (loc : FieldLocation),
      (type.InRange value → FitsField (type.toWord value) loc →
        extractFromWord type (insertIntoWord type word value loc) loc = some value) ∧
      (type.toWord value = fieldBits word loc → insertIntoWord type word value loc = word) ∧
      (type.toWord value = 0#256 →
        deleteFromWord word loc = insertIntoWord type word value loc)) ∧
    (∀ (word : Word) (loc : FieldLocation),
      (∀ value, extractFromWord (.uint loc.size) word loc = some value →
        insertIntoWord (.uint loc.size) word value loc = word) ∧
      (∀ value, extractFromWord (.int loc.size) word loc = some value →
        insertIntoWord (.int loc.size) word value loc = word) ∧
      (∀ value, extractFromWord (.fixedBytes loc.size) word loc = some value →
        insertIntoWord (.fixedBytes loc.size) word value loc = word) ∧
      ∀ value, extractFromWord .bool word loc = some value →
        (insertIntoWord .bool word value loc = word ↔ (fieldBits word loc).toNat ≤ 1)) ∧
    (∀ (T U : Type) (type : FromWord T) (type' : FromWord U) (word : Word) (value : T) (value' : U)
      (loc other : FieldLocation), loc.Disjoint other →
      extractFromWord type' (insertIntoWord type word value loc) other =
          extractFromWord type' word other ∧
        insertIntoWord type' (insertIntoWord type word value loc) value' other =
          insertIntoWord type (insertIntoWord type' word value' other) value loc) ∧
    ∀ (elemBytes : ℕ) (hlow : 1 ≤ elemBytes) (hhigh : elemBytes ≤ 32) (i : ℕ),
      calcElementOffset i elemBytes + elemBytes ≤ 32 ∧
        ∀ j, i ≠ j → calcElementSlot i elemBytes = calcElementSlot j elemBytes →
          (calcElementLoc hlow hhigh i).Disjoint (calcElementLoc hlow hhigh j) := by
  refine ⟨?_, ?_, ?_, ?_⟩
  · intro T type word value loc
    exact ⟨extract_insert, insert_of_bits, delete_eq_insert_zero⟩
  · intro word loc
    exact ⟨fun _ h => insert_of_bits (bits_of_extract_uint h),
      fun _ h => insert_of_bits (bits_of_extract_int h),
      fun _ h => insert_of_bits (bits_of_extract_fixedBytes (Nat.le_refl _) h),
      fun _ h => insert_extract_bool h⟩
  · intro T U type type' word value value' loc other h
    exact ⟨congrArg type'.fromWord (fieldBits_insert_of_disjoint h), insert_comm h⟩
  · intro elemBytes hlow hhigh i
    exact ⟨calcElementOffset_add_le hlow hhigh i, fun j => calcElementLoc_disjoint hlow hhigh⟩

/-- A boolean field that holds 2 reads `true`, and `true` is written back as 1. -/
theorem bool_field_not_restored :
    ∃ loc : FieldLocation, loc.offsetBytes = 0 ∧ loc.size = 1 ∧
      extractFromWord .bool 2#256 loc = some true ∧
      insertIntoWord .bool 2#256 true loc = 1#256 ∧
      insertIntoWord .bool 2#256 true loc ≠ 2#256 :=
  ⟨⟨0, 0, 1, by decide⟩, rfl, rfl, by decide, by decide, by decide⟩

/-! ## Written fields -/

section Written

variable {n : ℕ} {m : ℤ}

theorem toNat_fieldBits_insert_uint {bytes : ℕ} (h : n < 2 ^ (loc.size * 8)) :
    (fieldBits (insertIntoWord (.uint bytes) current n loc) loc).toNat = n := by
  have hbounds := loc.inBounds
  have hword : ((FromWord.uint bytes).toWord n).toNat = n := ofNat_toNat_of_bytes h (by omega)
  rw [fieldBits_insert (by rwa [FitsField, hword]), hword]

theorem toNat_fieldBits_insert_fixedBytes {bytes : ℕ} (h : n < 2 ^ (loc.size * 8)) :
    (fieldBits (insertIntoWord (.fixedBytes bytes) current n loc) loc).toNat = n := by
  change (fieldBits (insertIntoWord (.uint bytes) current n loc) loc).toNat = n
  exact toNat_fieldBits_insert_uint h

theorem bmod_fieldBits_insert_i16 (hsize : loc.size = 2) (hlow : -32768 ≤ m) (hhigh : m < 32768) :
    ((fieldBits (insertIntoWord (.int 2) current m loc) loc).toNat : ℤ).bmod 65536 = m := by
  have hfits : FitsField ((FromWord.int 2).toWord m) loc := by
    unfold FitsField
    rw [hsize]
    exact Nat.lt_of_le_of_lt (Nat.mod_le _ _) (toNat_emod_lt m 2).2
  have hread : extractFromWord (.int 2) (insertIntoWord (.int 2) current m loc) loc = some m :=
    extract_insert ⟨⟨by omega, by omega⟩, by decide⟩ hfits
  exact Option.some.inj (Option.ite_none_right_eq_some.mp hread).2

theorem fieldBits_insert_bool {flag : Bool} (hsize : loc.size = 1) :
    decide (fieldBits (insertIntoWord .bool current flag loc) loc ≠ 0#256) = flag := by
  have hfits : FitsField (FromWord.bool.toWord flag) loc := by
    unfold FitsField
    rw [hsize]
    cases flag <;> decide
  exact Option.some.inj (extract_insert trivial hfits)

end Written

end Monotempo.Chain
